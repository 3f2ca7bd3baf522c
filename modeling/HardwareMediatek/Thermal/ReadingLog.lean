import HardwareMediatek.Thermal.PairedReading

/-!
# The log of a reading

A call that has a value records it in the log under the name of its sensor, and a power rail is recorded
where it is read. Under any other name the log stays as it is: what a reading may record under are the
sensors it can come to and the rails that these are computed from.
-/

namespace HardwareMediatek.Thermal

open Foundation Relation

section Parts

variable {ε : Type}

/-- A property of states that the parts of a call keep, as long as rails are recorded under these
names. -/
structure KeptByParts (rails : Set String) (P : ReadState ε → Prop) : Prop where
  log : ∀ state rail power, rail ∈ rails → P state → P (state.log rail power)
  note : ∀ state input, P state → P (state.note input)
  helpers : ∀ state helpers, P state → P { state with helpers := helpers }

/-- A computation that returns has come to a state with the property. -/
def Yields {α : Type} (P : ReadState ε → Prop) (result : Except Halt (ReadState ε × α)) : Prop :=
  ∀ x, result = .ok x → P x.1

variable {α β : Type} {P : ReadState ε → Prop} {rails : Set String}

theorem yields_ok {x : ReadState ε × α} (h : P x.1) : Yields P (.ok x) := by
  intro y hy
  rw [← Except.ok.inj hy]
  exact h

theorem yields_error (halt : Halt) : Yields P (.error halt : Except Halt (ReadState ε × α)) := nofun

theorem Yields.bind {result : Except Halt (ReadState ε × α)}
    {next : ReadState ε × α → Except Halt (ReadState ε × β)} (h : Yields P result)
    (hnext : ∀ x, P x.1 → Yields P (next x)) : Yields P (result >>= next) := by
  intro y hy
  obtain ⟨x, hx⟩ := bind_eq_ok.mp hy
  exact hnext x (h x hx.1) y hx.2

variable {env : ReadEnv ε} {read : Read ε} {state : ReadState ε} {name : String} {info : SensorInfo}
  {virtualInfo : VirtualSensorInfo}

theorem readDataByType_yields (hkept : KeptByParts rails P) {sensorData : String}
    {type : SensorFusionType}
    (hread : type = .sensor → ∀ state, P state → Yields P (read state sensorData))
    (hrail : type = .odpm → sensorData ∈ rails) (initial : ExactFloat) (isBackup : Bool)
    (hstate : P state) : Yields P (readDataByType env read state sensorData initial type isBackup) := by
  cases type with
  | sensor =>
    apply (hread rfl state hstate).bind
    intro x hx
    have hnote := hkept.note x.1 (.sensor isBackup x.2.outcome x.2.dependsOnCollecting) hx
    dsimp only
    split <;> exact yields_ok hnote
  | odpm =>
    unfold readDataByType
    dsimp only
    split
    · exact yields_error _
    · rename_i status _
      have hnote := hkept.note state (.rail status.lastUpdatedAvgPower) hstate
      split
      · exact yields_ok hnote
      · exact yields_ok (hkept.log _ _ _ (hrail rfl) hnote)
  | constant => exact yields_ok hstate
  | cdev => exact yields_ok hstate

theorem readLinkedSensors_yields (hkept : KeptByParts rails P)
    {sources : List (String × SensorFusionType)}
    (hread : ∀ sub, (sub, SensorFusionType.sensor) ∈ sources → ∀ state, P state →
      Yields P (read state sub))
    (hrail : ∀ rail, (rail, SensorFusionType.odpm) ∈ sources → rail ∈ rails) (hstate : P state) :
    Yields P (readLinkedSensors env read sources state) := by
  induction sources generalizing state with
  | nil => exact yields_ok hstate
  | cons source rest ih =>
    have hfirst : Yields P (readDataByType env read state source.1 .nan source.2 false) := by
      apply readDataByType_yields hkept _ _ _ _ hstate
      · exact fun htype ↦ hread source.1 (htype ▸ List.mem_cons_self)
      · exact fun htype ↦ hrail source.1 (htype ▸ List.mem_cons_self)
    apply hfirst.bind
    intro x hx
    dsimp only
    split
    · exact yields_ok hx
    · split
      · exact yields_ok hx
      · have hrest := ih (fun sub hsub ↦ hread sub (List.mem_cons_of_mem _ hsub))
          (fun rail hin ↦ hrail rail (List.mem_cons_of_mem _ hin)) hx
        exact hrest.bind fun _ h ↦ yields_ok h

theorem combineReadings_yields (hkept : KeptByParts rails P) {formula : FormulaOption}
    {terms : List ((ExactFloat × String × SensorFusionType) × ℕ)}
    (hread : ∀ term ∈ terms, term.1.2.2 = .sensor → ∀ state, P state →
      Yields P (read state term.1.2.1))
    (hrail : ∀ term ∈ terms, term.1.2.2 = .odpm → term.1.2.1 ∈ rails) (tempVal : ExactFloat)
    (hstate : P state) : Yields P (combineReadings env read formula terms tempVal state) := by
  induction terms generalizing state tempVal with
  | nil => exact yields_ok hstate
  | cons term rest ih =>
    have hfirst := @readDataByType_yields _ _ _ env _ _ hkept _ _ (hread term List.mem_cons_self)
      (hrail term List.mem_cons_self) .nan false hstate
    apply hfirst.bind
    intro x hx
    dsimp only
    split
    · exact yields_ok hx
    · split
      · exact yields_ok hx
      · split
        · exact yields_ok hx
        · exact ih (fun term hin ↦ hread term (List.mem_cons_of_mem _ hin))
            (fun term hin ↦ hrail term (List.mem_cons_of_mem _ hin)) _ hx

theorem runVirtualTempEstimator_yields (hkept : KeptByParts rails P)
    (hread : virtualInfo.backupSensor ≠ "" → ∀ state, P state →
      Yields P (read state virtualInfo.backupSensor))
    (hstate : P state) :
    Yields P (runVirtualTempEstimator env read state name info virtualInfo) := by
  have hbackup : ∀ state, P state → Yields P (readBackupSensor env read virtualInfo state) := by
    intro state hstate
    unfold readBackupSensor
    split
    · exact yields_ok hstate
    · rename_i hsome
      have hdata : Yields P (readDataByType env read state virtualInfo.backupSensor
          (env.unset state.started) .sensor true) := by
        apply readDataByType_yields hkept (fun _ ↦ hread hsome) _ _ _ hstate
        exact fun h ↦ nomatch h
      exact hdata.bind fun _ h ↦ yields_ok h
  unfold runVirtualTempEstimator
  split
  · exact yields_ok hstate
  · dsimp only
    split
    · split
      · exact yields_ok (hkept.helpers _ _ hstate)
      · exact yields_ok (hkept.helpers _ _ hstate)
    · exact yields_ok (hkept.helpers _ _ hstate)
    · exact hbackup _ (hkept.helpers _ _ hstate)
    · exact hbackup _ (hkept.helpers _ _ hstate)

/-- What a virtual sensor reads keeps the property. -/
structure SourcesKeep (rails : Set String) (P : ReadState ε → Prop) (read : Read ε)
    (virtualInfo : VirtualSensorInfo) : Prop where
  subs : ∀ sub ∈ virtualInfo.subSensors, ∀ state, P state → Yields P (read state sub)
  rails : ∀ rail, (rail, SensorFusionType.odpm) ∈ virtualInfo.sources → rail ∈ rails

theorem computeVirtual_yields (hkept : KeptByParts rails P)
    (hsources : SourcesKeep rails P read virtualInfo) (readings : List ExactFloat) (hstate : P state) :
    Yields P (computeVirtual env read state name info virtualInfo readings) := by
  have hestimate : Yields P (runVirtualTempEstimator env read state name info virtualInfo) :=
    runVirtualTempEstimator_yields hkept
      (fun hbackup ↦ hsources.subs _ (mem_subSensors_backup hbackup)) hstate
  have hcombine : ∀ formula, Yields P (combineReadings env read formula
      (readings.zip (virtualInfo.coefficients.zip virtualInfo.coefficientsType)).zipIdx 0 state) := by
    intro formula
    have hterm : ∀ term ∈
        (readings.zip (virtualInfo.coefficients.zip virtualInfo.coefficientsType)).zipIdx,
        ∀ type, term.1.2.2 = type →
          (term.1.2.1, type) ∈ virtualInfo.coefficients.zip virtualInfo.coefficientsType := by
      intro term hin type htype
      rw [← htype]
      exact (List.of_mem_zip (List.fst_mem_of_mem_zipIdx hin)).2
    apply combineReadings_yields hkept _ _ 0 hstate
    · intro term hin htype
      exact hsources.subs _ (mem_subSensors_coefficient (hterm term hin _ htype))
    · intro term hin htype
      exact hsources.rails _ (List.mem_append_right _ (hterm term hin _ htype))
  unfold computeVirtual
  split
  · exact yields_ok (hkept.note _ _ hstate)
  · apply hestimate.bind
    intro x hx
    dsimp only
    split
    · exact yields_ok hx
    · exact yields_error _
    · exact yields_ok hx
  · apply hestimate.bind
    intro x hx
    dsimp only
    split
    · exact yields_ok hx
    · exact yields_error _
    · exact yields_ok hx
  · exact (hcombine _).bind fun _ h ↦ yields_ok h

theorem readComposition_yields (hkept : KeptByParts rails P)
    (hsources : ∀ virtualInfo, info.virtualSensorInfo = some virtualInfo →
      SourcesKeep rails P read virtualInfo) (hstate : P state) :
    Yields P (readComposition env read state name info) := by
  unfold readComposition
  split
  · exact yields_ok hstate
  · rename_i virtualInfo hvirtual
    have hparts := hsources virtualInfo hvirtual
    have hlinked : Yields P (readLinkedSensors env read
        (virtualInfo.linkedSensors.zip virtualInfo.linkedSensorsType) state) := by
      apply readLinkedSensors_yields hkept _ _ hstate
      · exact fun sub hsub ↦ hparts.subs sub (mem_subSensors_linked hsub)
      · exact fun rail hrail ↦ hparts.rails rail (List.mem_append_left _ hrail)
    apply hlinked.bind
    intro x hx
    dsimp only
    split
    · exact yields_ok hx
    · exact yields_ok hx
    · exact computeVirtual_yields hkept hparts _ hx

theorem readSensor_yields (hkept : KeptByParts rails P)
    (hlog : ∀ state value, P state → P (state.log name value))
    (hstore : ∀ state info now since temp, P state → P (storeReading state name info now since temp).1)
    (hsources : ∀ info virtualInfo, env.sensorInfoMap.lookup name = some info →
      info.virtualSensorInfo = some virtualInfo → SourcesKeep rails P read virtualInfo)
    (forceNoCache : Bool) (hstate : P state) :
    Yields P (readSensor env forceNoCache read state name) := by
  unfold readSensor
  split
  · rename_i info status hinfo _
    split
    · exact yields_ok (hlog _ _ hstate)
    · dsimp only
      split
      · exact yields_ok (hlog _ _ hstate)
      · have hcomposition : Yields P (readComposition env read state name info) :=
          readComposition_yields hkept (fun virtualInfo ↦ hsources info virtualInfo hinfo) hstate
        apply hcomposition.bind
        intro x hx
        split
        · exact yields_ok (hstore _ _ _ _ _ hx)
        · exact yields_ok hx
  · exact yields_ok hstate

end Parts

section Calls

variable {ε : Type} {env : ReadEnv ε} {forceNoCache : Bool} {fuel : ℕ} {state : ReadState ε}
  {name other : String}

/-! ## What a call leaves alone -/

/-- Reading the first sensor may record something under the second name. -/
inductive RecordsUnder (sensorInfoMap : SensorInfoMap) : String → String → Prop where
  | self (name : String) : RecordsUnder sensorInfoMap name name
  | rail {name rail : String} {info : SensorInfo} {virtualInfo : VirtualSensorInfo}
      (hinfo : sensorInfoMap.lookup name = some info)
      (hvirtual : info.virtualSensorInfo = some virtualInfo)
      (hrail : (rail, SensorFusionType.odpm) ∈ virtualInfo.sources) :
      RecordsUnder sensorInfoMap name rail
  | sub {name sub other : String} (hsub : ReadsFrom sensorInfoMap name sub)
      (hother : RecordsUnder sensorInfoMap sub other) : RecordsUnder sensorInfoMap name other

theorem lookup_log_of_ne {key : String} (hne : other ≠ key) (value : ExactFloat) :
    (state.log key value).sensorLogMap.lookup other = state.sensorLogMap.lookup other := by
  unfold ReadState.log
  rw [UnorderedMap.lookup_put, if_neg hne]

theorem lookup_log_self (key : String) (value : ExactFloat) :
    (state.log key value).sensorLogMap.lookup key = some value := by
  unfold ReadState.log
  rw [UnorderedMap.lookup_put, if_pos rfl]

theorem keptByParts_lookup (other : String) (value : Option ExactFloat) :
    KeptByParts {rail | other ≠ rail} fun state : ReadState ε ↦
      state.sensorLogMap.lookup other = value := by
  apply KeptByParts.mk
  · intro state rail power hrail hstate
    exact (lookup_log_of_ne hrail power).trans hstate
  · exact fun _ _ hstate ↦ hstate
  · exact fun _ _ hstate ↦ hstate

/-- A name under which a reading does not record keeps what the log has for it. -/
theorem readThermalSensor_keepsLog (hother : ¬ RecordsUnder env.sensorInfoMap name other)
    {value : Option ExactFloat} (hstate : state.sensorLogMap.lookup other = value) :
    Yields (fun state ↦ state.sensorLogMap.lookup other = value)
      (readThermalSensor env forceNoCache fuel state name) := by
  induction fuel generalizing name state with
  | zero => exact yields_error _
  | succ fuel ih =>
    have hne : other ≠ name := by
      intro hsame
      apply hother
      rw [hsame]
      exact RecordsUnder.self name
    have hcall : Yields (fun state ↦ state.sensorLogMap.lookup other = value)
        (readSensor env forceNoCache (readThermalSensor env forceNoCache fuel)
          { state with started := state.started + 1, inputs := [] } name) := by
      apply readSensor_yields (keptByParts_lookup other value)
      · intro state temp hstate
        exact (lookup_log_of_ne hne temp).trans hstate
      · intro state info now since temp hstate
        unfold storeReading
        split
        · exact hstate
        · exact (lookup_log_of_ne hne _).trans hstate
      · intro info virtualInfo hinfo hvirtual
        apply SourcesKeep.mk
        · intro sub hsub state hstate
          apply ih _ hstate
          intro hrecords
          apply hother
          apply RecordsUnder.sub _ hrecords
          unfold ReadsFrom
          rwa [subSensorsOf_virtual hinfo hvirtual]
        · intro rail hrail hsame
          apply hother
          rw [hsame]
          exact RecordsUnder.rail hinfo hvirtual hrail
      · exact hstate
    apply hcall.bind
    exact fun x hx ↦ yields_ok hx

/-! ## What a call records -/

/-- The sensors with a status keep it. -/
theorem readThermalSensor_keepsStatus {sub : String} (hstate : other ∈ state.sensorStatusMap) :
    Yields (fun state ↦ other ∈ state.sensorStatusMap)
      (readThermalSensor env forceNoCache fuel state sub) := by
  have hkept : KeptFrom env sub fun sensorStatusMap (_ : ε) ↦ other ∈ sensorStatusMap := by
    apply KeptFrom.mk
    · intro name _ sensorStatusMap helpers status cached hmem _
      exact UnorderedMap.mem_assign.mpr hmem
    · exact fun _ _ _ _ _ _ _ _ _ _ _ hmem ↦ ⟨hmem, hmem⟩
  exact fun x hx ↦ readThermalSensor_keeps hkept hstate hx

theorem readComposition_keepsStatus (info : SensorInfo) (hstate : other ∈ state.sensorStatusMap) :
    Yields (fun state ↦ other ∈ state.sensorStatusMap)
      (readComposition env (readThermalSensor env forceNoCache fuel) state name info) := by
  have hkept : KeptByParts Set.univ fun state : ReadState ε ↦ other ∈ state.sensorStatusMap :=
    ⟨fun _ _ _ _ h ↦ h, fun _ _ h ↦ h, fun _ _ h ↦ h⟩
  apply readComposition_yields hkept _ hstate
  intro virtualInfo _
  exact ⟨fun _ _ _ h ↦ readThermalSensor_keepsStatus h, fun _ _ ↦ Set.mem_univ _⟩

/-- A call that has a value has recorded it last. -/
theorem readThermalSensor_logs {final : ReadState ε} {call : ReadCall} {temp : ExactFloat}
    (hread : readThermalSensor env forceNoCache fuel state name = .ok (final, call))
    (hokay : call.outcome = .okay temp) : final.sensorLogMap.lookup name = some temp := by
  cases fuel with
  | zero => cases hread
  | succ fuel =>
    obtain ⟨⟨after, outcome, isCached⟩, hsensor, hdone⟩ := bind_eq_ok.mp hread
    obtain ⟨hfinal, hcall⟩ := ok_pair hdone
    have houtcome : outcome = .okay temp := by
      rw [← hokay, ← hcall]
    rw [← hfinal]
    dsimp only
    rw [houtcome] at hsensor
    unfold readSensor at hsensor
    split at hsensor
    · rename_i info status hinfo hstatus
      split at hsensor
      · obtain ⟨hafter, hvalue⟩ := ok_pair hsensor
        rw [← hafter, ReadOutcome.okay.inj (Prod.mk.inj hvalue).1]
        exact lookup_log_self _ _
      · dsimp only at hsensor
        split at hsensor
        · obtain ⟨hafter, hvalue⟩ := ok_pair hsensor
          rw [← hafter, ReadOutcome.okay.inj (Prod.mk.inj hvalue).1]
          exact lookup_log_self _ _
        · obtain ⟨⟨middle, reading⟩, hcomposition, hstored⟩ := bind_eq_ok.mp hsensor
          have hmem : name ∈ middle.sensorStatusMap :=
            readComposition_keepsStatus info (UnorderedMap.mem_of_lookup hstatus) _ hcomposition
          obtain ⟨current, hcurrent⟩ := UnorderedMap.mem_iff_lookup.mp hmem
          dsimp only at hstored
          split at hstored
          · unfold storeReading at hstored
            rw [hcurrent] at hstored
            obtain ⟨hafter, hvalue⟩ := ok_pair hstored
            rw [← hafter, ← ReadOutcome.okay.inj (Prod.mk.inj hvalue).1]
            exact lookup_log_self _ _
          · rename_i hnot
            obtain ⟨_, hvalue⟩ := ok_pair hstored
            exact absurd (Prod.mk.inj hvalue).1 (hnot temp)
    · obtain ⟨_, hvalue⟩ := ok_pair hsensor
      cases (Prod.mk.inj hvalue).1

end Calls

end HardwareMediatek.Thermal
