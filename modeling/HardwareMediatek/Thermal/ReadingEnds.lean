import HardwareMediatek.Foundation.FiniteGraph
import HardwareMediatek.Thermal.Reading

/-!
# Reading a sensor ends

A call goes on to the sensors that the configuration of its sensor names: linked ones, coefficients,
and the backup. If no cycle of these can be reached from a sensor, reading it ends, whatever the
sensors, the models and the caches are like.
-/

namespace HardwareMediatek.Thermal

open Relation

/-- The sensors that a virtual sensor may read. -/
def VirtualSensorInfo.subSensors (virtualInfo : VirtualSensorInfo) : List String :=
  ((virtualInfo.linkedSensors.zip virtualInfo.linkedSensorsType ++
    virtualInfo.coefficients.zip virtualInfo.coefficientsType).filter fun source ↦
      source.2 = .sensor).map Prod.fst ++
    if virtualInfo.backupSensor = "" then [] else [virtualInfo.backupSensor]

def subSensorsOf (sensorInfoMap : SensorInfoMap) (name : String) : List String :=
  (((sensorInfoMap.lookup name).bind SensorInfo.virtualSensorInfo).map
    VirtualSensorInfo.subSensors).getD []

/-- Reading the first sensor may read the second one. -/
def ReadsFrom (sensorInfoMap : SensorInfoMap) (name sub : String) : Prop :=
  sub ∈ subSensorsOf sensorInfoMap name

theorem subSensorsOf_virtual {sensorInfoMap : SensorInfoMap} {name : String} {info : SensorInfo}
    {virtualInfo : VirtualSensorInfo} (hinfo : sensorInfoMap.lookup name = some info)
    (hvirtual : info.virtualSensorInfo = some virtualInfo) :
    subSensorsOf sensorInfoMap name = virtualInfo.subSensors := by
  unfold subSensorsOf
  rw [hinfo, Option.bind_some, hvirtual]
  rfl

/-- The computation has enough fuel. -/
def Ends {α : Type} (result : Except Halt α) : Prop := result ≠ .error .outOfFuel

theorem Ends.bind {α β : Type} {result : Except Halt α} {next : α → Except Halt β}
    (hresult : Ends result) (hnext : ∀ x, Ends (next x)) : Ends (result >>= next) := by
  cases result with
  | ok x => exact hnext x
  | error halt => exact fun h ↦ hresult (congrArg Except.error (Except.error.inj h))

theorem ends_ok {α : Type} (x : α) : Ends (.ok x : Except Halt α) := nofun

theorem ends_fault {α : Type} (fault : Fault) : Ends (.error (.fault fault) : Except Halt α) := by
  intro h
  cases h

section Calls

variable {ε : Type} {env : ReadEnv ε} {read : Read ε} {name : String} {info : SensorInfo}
  {virtualInfo : VirtualSensorInfo}

theorem readDataByType_ends {sensorData : String} {type : SensorFusionType}
    (hread : type = .sensor → ∀ state, Ends (read state sensorData)) (env : ReadEnv ε)
    (state : ReadState ε) (initial : ExactFloat) (isBackup : Bool) :
    Ends (readDataByType env read state sensorData initial type isBackup) := by
  cases type with
  | sensor =>
    apply (hread rfl state).bind
    intro result
    dsimp only
    split <;> exact ends_ok _
  | odpm =>
    unfold readDataByType
    dsimp only
    split
    · exact ends_fault _
    · split <;> exact ends_ok _
  | constant => exact ends_ok _
  | cdev => exact ends_ok _

theorem readLinkedSensors_ends {sources : List (String × SensorFusionType)}
    (hread : ∀ sub, (sub, SensorFusionType.sensor) ∈ sources → ∀ state, Ends (read state sub))
    (state : ReadState ε) : Ends (readLinkedSensors env read sources state) := by
  induction sources generalizing state with
  | nil => exact ends_ok _
  | cons source rest ih =>
    have hsource : source.2 = .sensor → ∀ state, Ends (read state source.1) :=
      fun htype ↦ hread source.1 (htype ▸ List.mem_cons_self)
    apply (readDataByType_ends hsource env state .nan false).bind
    intro result
    dsimp only
    split
    · exact ends_ok _
    · split
      · exact ends_ok _
      · exact (ih (fun sub hsub ↦ hread sub (List.mem_cons_of_mem _ hsub)) result.1).bind
          fun _ ↦ ends_ok _

theorem runVirtualTempEstimator_ends
    (hread : virtualInfo.backupSensor ≠ "" → ∀ state, Ends (read state virtualInfo.backupSensor))
    (env : ReadEnv ε) (state : ReadState ε) (name : String) (info : SensorInfo) :
    Ends (runVirtualTempEstimator env read state name info virtualInfo) := by
  have hbackup : ∀ state, Ends (readBackupSensor env read virtualInfo state) := by
    intro state
    unfold readBackupSensor
    split
    · exact ends_ok _
    · exact (readDataByType_ends (fun _ ↦ hread ‹_›) env state _ true).bind fun _ ↦ ends_ok _
  unfold runVirtualTempEstimator
  split
  · exact ends_ok _
  · dsimp only
    split
    · exact ends_ok _
    · exact ends_ok _
    · exact hbackup _
    · exact hbackup _

theorem combineReadings_ends {formula : FormulaOption}
    {terms : List ((ExactFloat × String × SensorFusionType) × ℕ)}
    (hread : ∀ term ∈ terms, term.1.2.2 = .sensor → ∀ state, Ends (read state term.1.2.1))
    (tempVal : ExactFloat) (state : ReadState ε) :
    Ends (combineReadings env read formula terms tempVal state) := by
  induction terms generalizing tempVal state with
  | nil => exact ends_ok _
  | cons term rest ih =>
    apply (readDataByType_ends (hread term List.mem_cons_self) env state .nan false).bind
    intro result
    dsimp only
    split
    · exact ends_ok _
    · split
      · exact ends_ok _
      · split
        · exact ends_ok _
        · exact ih (fun term hterm ↦ hread term (List.mem_cons_of_mem _ hterm)) _ _

theorem mem_subSensors_linked {sub : String}
    (hsub : (sub, SensorFusionType.sensor) ∈
      virtualInfo.linkedSensors.zip virtualInfo.linkedSensorsType) : sub ∈ virtualInfo.subSensors := by
  apply List.mem_append_left
  rw [List.mem_map]
  exact ⟨_, List.mem_filter.mpr ⟨List.mem_append_left _ hsub, decide_eq_true rfl⟩, rfl⟩

theorem mem_subSensors_coefficient {sub : String}
    (hsub : (sub, SensorFusionType.sensor) ∈
      virtualInfo.coefficients.zip virtualInfo.coefficientsType) : sub ∈ virtualInfo.subSensors := by
  apply List.mem_append_left
  rw [List.mem_map]
  exact ⟨_, List.mem_filter.mpr ⟨List.mem_append_right _ hsub, decide_eq_true rfl⟩, rfl⟩

theorem mem_subSensors_backup (hbackup : virtualInfo.backupSensor ≠ "") :
    virtualInfo.backupSensor ∈ virtualInfo.subSensors := by
  apply List.mem_append_right
  rw [if_neg hbackup]
  exact List.mem_singleton_self _

theorem readVirtualSensor_ends
    (hread : ∀ sub ∈ virtualInfo.subSensors, ∀ state, Ends (read state sub)) (state : ReadState ε) :
    Ends (readVirtualSensor env read state name info virtualInfo) := by
  have hestimate : ∀ state : ReadState ε,
      Ends (runVirtualTempEstimator env read state name info virtualInfo) :=
    fun state ↦ runVirtualTempEstimator_ends
      (fun hbackup ↦ hread _ (mem_subSensors_backup hbackup)) env state name info
  have hcombine : ∀ (formula : FormulaOption) (readings : List ExactFloat) (tempVal : ExactFloat)
      (state : ReadState ε), Ends (combineReadings env read formula
        (readings.zip (virtualInfo.coefficients.zip virtualInfo.coefficientsType)).zipIdx tempVal
          state) := by
    intro formula readings
    apply combineReadings_ends
    intro term hterm htype
    have hzip : term.1.2 ∈ virtualInfo.coefficients.zip virtualInfo.coefficientsType :=
      (List.of_mem_zip (List.fst_mem_of_mem_zipIdx hterm)).2
    apply hread
    apply mem_subSensors_coefficient
    rwa [← htype]
  apply (readLinkedSensors_ends (fun sub hsub ↦ hread sub (mem_subSensors_linked hsub)) state).bind
  intro result
  dsimp only
  split
  · exact ends_ok _
  · exact ends_ok _
  · unfold computeVirtual
    split
    · exact ends_ok _
    · apply (hestimate _).bind
      intro result
      dsimp only
      split
      · exact ends_ok _
      · exact ends_fault _
      · exact ends_ok _
    · apply (hestimate _).bind
      intro result
      dsimp only
      split
      · exact ends_ok _
      · exact ends_fault _
      · exact ends_ok _
    · exact (hcombine _ _ _ _).bind fun _ ↦ ends_ok _

theorem readSensor_ends (forceNoCache : Bool)
    (hread : ∀ sub, ReadsFrom env.sensorInfoMap name sub → ∀ state, Ends (read state sub))
    (state : ReadState ε) : Ends (readSensor env forceNoCache read state name) := by
  unfold readSensor
  split
  · rename_i info status hinfo _
    split
    · exact ends_ok _
    · dsimp only
      split
      · exact ends_ok _
      · have hreading : Ends (readComposition env read state name info) := by
          unfold readComposition
          split
          · exact ends_ok _
          · rename_i virtualInfo hvirtual
            apply readVirtualSensor_ends
            rw [← subSensorsOf_virtual hinfo hvirtual]
            exact hread
        apply hreading.bind
        intro result
        split <;> exact ends_ok _
  · exact ends_ok _

theorem readThermalSensor_ends (forceNoCache : Bool) {fuel : ℕ}
    (hsub : ∀ sub, ReadsFrom env.sensorInfoMap name sub →
      ∀ state, Ends (readThermalSensor env forceNoCache fuel state sub)) (state : ReadState ε) :
    Ends (readThermalSensor env forceNoCache (fuel + 1) state name) :=
  (readSensor_ends forceNoCache hsub _).bind fun _ ↦ ends_ok _

end Calls

/-! ## Enough fuel -/

theorem finitelyReaching_readsFrom (sensorInfoMap : SensorInfoMap) (root : String) :
    FinitelyReaching (ReadsFrom sensorInfoMap) root := by
  apply finitelyReaching_of_targets
    (List.finite_toSet (sensorInfoMap.keys.flatMap (subSensorsOf sensorInfoMap)))
  intro name sub hsub
  apply List.mem_flatMap.mpr
  apply Exists.intro name
  apply And.intro _ hsub
  by_contra hmissing
  have hnone : sensorInfoMap.lookup name = none := AList.lookup_eq_none.mpr hmissing
  unfold ReadsFrom subSensorsOf at hsub
  rw [hnone] at hsub
  exact List.not_mem_nil hsub

/-- Members of a list that each have enough from some number on have enough from one number on. -/
theorem exists_bound_of_forall {α : Type} {enough : α → ℕ → Prop} (items : List α)
    (hitems : ∀ item ∈ items, ∃ bound, ∀ n ≥ bound, enough item n) :
    ∃ bound, ∀ item ∈ items, ∀ n ≥ bound, enough item n := by
  induction items with
  | nil => exact ⟨0, fun _ hin ↦ absurd hin List.not_mem_nil⟩
  | cons item rest ih =>
    obtain ⟨first, hfirst⟩ := hitems item List.mem_cons_self
    obtain ⟨others, hothers⟩ := ih fun other hin ↦ hitems other (List.mem_cons_of_mem _ hin)
    apply Exists.intro (max first others)
    intro other hin n hn
    apply (List.mem_cons.mp hin).elim
    · intro hsame
      rw [hsame]
      exact hfirst n ((le_max_left _ _).trans hn)
    · intro hrest
      exact hothers other hrest n ((le_max_right _ _).trans hn)

/-- From a sensor that reaches no cycle every reading ends. -/
theorem readThermalSensor_ends_of_acyclic {ε : Type} (env : ReadEnv ε) (forceNoCache : Bool)
    {root : String} (hacyclic : AcyclicFrom (ReadsFrom env.sensorInfoMap) root) :
    ∃ bound, ∀ fuel ≥ bound, ∀ state,
      Ends (readThermalSensor env forceNoCache fuel state root) := by
  apply hacyclic.successor_induction (finitelyReaching_readsFrom env.sensorInfoMap root)
    (motive := fun name ↦ ∃ bound, ∀ fuel ≥ bound, ∀ state,
      Ends (readThermalSensor env forceNoCache fuel state name)) _ root ReflTransGen.refl
  intro name _ hsub
  obtain ⟨bound, hbound⟩ := exists_bound_of_forall (subSensorsOf env.sensorInfoMap name) hsub
  apply Exists.intro (bound + 1)
  intro fuel hfuel
  cases fuel with
  | zero => exact absurd hfuel (Nat.not_succ_le_zero bound)
  | succ fuel =>
    exact readThermalSensor_ends forceNoCache fun sub hread ↦
      hbound sub hread fuel (Nat.le_of_succ_le_succ hfuel)

end HardwareMediatek.Thermal
