import HardwareMediatek.Foundation.Paired
import HardwareMediatek.Thermal.ReadingEnds

/-!
# Two readings side by side

The parts of a call keep every relation between two states that the calls it makes keep, as long as the
rails, the devices and the models that it reads answer alike.
-/

namespace HardwareMediatek.Thermal

open Foundation

/-- What the linked sensors and the coefficients of a virtual sensor are read from. -/
def VirtualSensorInfo.sources (virtualInfo : VirtualSensorInfo) : List (String × SensorFusionType) :=
  virtualInfo.linkedSensors.zip virtualInfo.linkedSensorsType ++
    virtualInfo.coefficients.zip virtualInfo.coefficientsType

section Paired

variable {ε₁ ε₂ : Type}

/-- Related states, and the same result. -/
def Alike {α : Type} (R : ReadState ε₁ → ReadState ε₂ → Prop) (x : ReadState ε₁ × α)
    (y : ReadState ε₂ × α) : Prop :=
  R x.1 y.1 ∧ x.2 = y.2

/-- A relation that what a call does by itself keeps. -/
structure KeptByCalls (R : ReadState ε₁ → ReadState ε₂ → Prop) : Prop where
  log_eq : ∀ state state', R state state' → state.sensorLogMap = state'.sensorLogMap
  log : ∀ state state' key value, R state state' → R (state.log key value) (state'.log key value)
  note : ∀ state state' input, R state state' → R (state.note input) (state'.note input)

/-- The rails and the devices that a virtual sensor reads answer alike. -/
structure SameSources (env₁ : ReadEnv ε₁) (env₂ : ReadEnv ε₂) (virtualInfo : VirtualSensorInfo) :
    Prop where
  rails : ∀ rail, (rail, SensorFusionType.odpm) ∈ virtualInfo.sources →
    env₁.powerStatusMap.lookup rail = env₂.powerStatusMap.lookup rail
  cdevs : ∀ cdev, (cdev, SensorFusionType.cdev) ∈ virtualInfo.sources →
    env₁.cdevMaxRequest cdev = env₂.cdevMaxRequest cdev

/-- The model and the prediction of a sensor answer alike, and so does a variable that is not set. -/
structure SameModels (R : ReadState ε₁ → ReadState ε₂ → Prop) (env₁ : ReadEnv ε₁)
    (env₂ : ReadEnv ε₂) (name : String) (formula : FormulaOption) : Prop where
  estimate : formula = .useMlModel ∨ formula = .useLinearModel → ∀ state state' inputs,
    R state state' →
      (env₁.estimate state.started state.helpers name inputs).2 =
          (env₂.estimate state'.started state'.helpers name inputs).2 ∧
        R { state with helpers := (env₁.estimate state.started state.helpers name inputs).1 }
          { state' with helpers := (env₂.estimate state'.started state'.helpers name inputs).1 }
  update : formula = .useMlModel ∨ formula = .useLinearModel → ∀ state state' outputs,
    R state state' →
      R { state with
          helpers := env₁.updatePredictions state.started state.helpers name outputs }
        { state' with
          helpers := env₂.updatePredictions state'.started state'.helpers name outputs }
  unset : formula = .useMlModel ∨ formula = .useLinearModel → ∀ state state', R state state' →
    env₁.unset state.started = env₂.unset state'.started
  prediction : formula = .previouslyPredicted → ∀ state state', R state state' →
    env₁.readPrediction state.started state.helpers name =
      env₂.readPrediction state'.started state'.helpers name

variable {R : ReadState ε₁ → ReadState ε₂ → Prop} {env₁ : ReadEnv ε₁} {env₂ : ReadEnv ε₂}
  {read₁ : Read ε₁} {read₂ : Read ε₂} {state : ReadState ε₁} {state' : ReadState ε₂}

theorem readDataByType_paired (hkept : KeptByCalls R) {sensorData : String} {type : SensorFusionType}
    (hread : type = .sensor → ∀ state state', R state state' →
      Paired (Alike R) (read₁ state sensorData) (read₂ state' sensorData))
    (hrail : type = .odpm →
      env₁.powerStatusMap.lookup sensorData = env₂.powerStatusMap.lookup sensorData)
    (hcdev : type = .cdev → env₁.cdevMaxRequest sensorData = env₂.cdevMaxRequest sensorData)
    (initial : ExactFloat) (isBackup : Bool) (hstate : R state state') :
    Paired (Alike R) (readDataByType env₁ read₁ state sensorData initial type isBackup)
      (readDataByType env₂ read₂ state' sensorData initial type isBackup) := by
  cases type with
  | sensor =>
    apply (hread rfl state state' hstate).bind
    intro x y hxy
    have hnote := hkept.note x.1 y.1
      (.sensor isBackup x.2.outcome x.2.dependsOnCollecting) hxy.1
    dsimp only
    rw [← hxy.2]
    generalize x.2.outcome = outcome at hnote ⊢
    cases outcome with
    | okay temp => exact ⟨hnote, rfl⟩
    | underCollecting => exact ⟨hnote, rfl⟩
    | error => exact ⟨hnote, rfl⟩
  | odpm =>
    unfold readDataByType
    dsimp only
    rw [hrail rfl]
    cases env₂.powerStatusMap.lookup sensorData with
    | none => exact paired_error _
    | some status =>
      have hnote := hkept.note state state' (.rail status.lastUpdatedAvgPower) hstate
      dsimp only
      split
      · exact ⟨hnote, rfl⟩
      · exact ⟨hkept.log _ _ _ _ hnote, rfl⟩
  | constant => exact ⟨hstate, rfl⟩
  | cdev => exact ⟨hstate, congrArg (Option.map ExactFloat.ofInt) (hcdev rfl)⟩

theorem readLinkedSensors_paired (hkept : KeptByCalls R) {sources : List (String × SensorFusionType)}
    (hread : ∀ sub, (sub, SensorFusionType.sensor) ∈ sources → ∀ state state', R state state' →
      Paired (Alike R) (read₁ state sub) (read₂ state' sub))
    (hrail : ∀ rail, (rail, SensorFusionType.odpm) ∈ sources →
      env₁.powerStatusMap.lookup rail = env₂.powerStatusMap.lookup rail)
    (hcdev : ∀ cdev, (cdev, SensorFusionType.cdev) ∈ sources →
      env₁.cdevMaxRequest cdev = env₂.cdevMaxRequest cdev)
    (hstate : R state state') :
    Paired (Alike R) (readLinkedSensors env₁ read₁ sources state)
      (readLinkedSensors env₂ read₂ sources state') := by
  induction sources generalizing state state' with
  | nil => exact ⟨hstate, rfl⟩
  | cons source rest ih =>
    have hfirst : Paired (Alike R) (readDataByType env₁ read₁ state source.1 .nan source.2 false)
        (readDataByType env₂ read₂ state' source.1 .nan source.2 false) := by
      apply readDataByType_paired hkept _ _ _ _ _ hstate
      · exact fun htype ↦ hread source.1 (htype ▸ List.mem_cons_self)
      · exact fun htype ↦ hrail source.1 (htype ▸ List.mem_cons_self)
      · exact fun htype ↦ hcdev source.1 (htype ▸ List.mem_cons_self)
    apply hfirst.bind
    intro x y hxy
    dsimp only
    rw [← hxy.2]
    cases x.2 with
    | none => exact ⟨hxy.1, rfl⟩
    | some reading =>
      dsimp only
      split
      · exact ⟨hxy.1, rfl⟩
      · apply (ih (fun sub hsub ↦ hread sub (List.mem_cons_of_mem _ hsub))
          (fun rail hin ↦ hrail rail (List.mem_cons_of_mem _ hin))
          (fun cdev hin ↦ hcdev cdev (List.mem_cons_of_mem _ hin)) hxy.1).bind
        intro rest rest' hrest
        exact ⟨hrest.1,
          congrArg (ReadOutcome.map fun readings ↦ reading :: readings) hrest.2⟩

theorem combineReadings_paired (hkept : KeptByCalls R) {formula : FormulaOption}
    {terms : List ((ExactFloat × String × SensorFusionType) × ℕ)}
    (hread : ∀ term ∈ terms, term.1.2.2 = .sensor → ∀ state state', R state state' →
      Paired (Alike R) (read₁ state term.1.2.1) (read₂ state' term.1.2.1))
    (hrail : ∀ term ∈ terms, term.1.2.2 = .odpm →
      env₁.powerStatusMap.lookup term.1.2.1 = env₂.powerStatusMap.lookup term.1.2.1)
    (hcdev : ∀ term ∈ terms, term.1.2.2 = .cdev →
      env₁.cdevMaxRequest term.1.2.1 = env₂.cdevMaxRequest term.1.2.1)
    (tempVal : ExactFloat) (hstate : R state state') :
    Paired (Alike R) (combineReadings env₁ read₁ formula terms tempVal state)
      (combineReadings env₂ read₂ formula terms tempVal state') := by
  induction terms generalizing state state' tempVal with
  | nil => exact ⟨hstate, rfl⟩
  | cons term rest ih =>
    have hfirst : Paired (Alike R)
        (readDataByType env₁ read₁ state term.1.2.1 .nan term.1.2.2 false)
        (readDataByType env₂ read₂ state' term.1.2.1 .nan term.1.2.2 false) :=
      readDataByType_paired hkept (hread term List.mem_cons_self) (hrail term List.mem_cons_self)
        (hcdev term List.mem_cons_self) _ _ hstate
    apply hfirst.bind
    intro x y hxy
    dsimp only
    rw [← hxy.2]
    cases x.2 with
    | none => exact ⟨hxy.1, rfl⟩
    | some coefficient =>
      dsimp only
      split
      · exact ⟨hxy.1, rfl⟩
      · cases applyFormula formula term.2 term.1.1 coefficient tempVal with
        | none => exact ⟨hxy.1, rfl⟩
        | some tempVal =>
          exact ih (fun term hin ↦ hread term (List.mem_cons_of_mem _ hin))
            (fun term hin ↦ hrail term (List.mem_cons_of_mem _ hin))
            (fun term hin ↦ hcdev term (List.mem_cons_of_mem _ hin)) tempVal hxy.1

variable {name : String} {info : SensorInfo} {virtualInfo : VirtualSensorInfo}

theorem runVirtualTempEstimator_paired (hkept : KeptByCalls R)
    (hread : virtualInfo.backupSensor ≠ "" → ∀ state state', R state state' →
      Paired (Alike R) (read₁ state virtualInfo.backupSensor) (read₂ state' virtualInfo.backupSensor))
    (hmodels : SameModels R env₁ env₂ name virtualInfo.formula)
    (hformula : virtualInfo.formula = .useMlModel ∨ virtualInfo.formula = .useLinearModel)
    (hstate : R state state') :
    Paired (Alike R) (runVirtualTempEstimator env₁ read₁ state name info virtualInfo)
      (runVirtualTempEstimator env₂ read₂ state' name info virtualInfo) := by
  have hbackup : ∀ state state', R state state' → Paired (Alike R)
      (readBackupSensor env₁ read₁ virtualInfo state)
      (readBackupSensor env₂ read₂ virtualInfo state') := by
    intro state state' hstate
    unfold readBackupSensor
    split
    · exact ⟨hstate, rfl⟩
    · rename_i hnone
      rw [hmodels.unset hformula state state' hstate]
      have hdata : Paired (Alike R)
          (readDataByType env₁ read₁ state virtualInfo.backupSensor (env₂.unset state'.started) .sensor
            true)
          (readDataByType env₂ read₂ state' virtualInfo.backupSensor (env₂.unset state'.started)
            .sensor true) := by
        apply readDataByType_paired hkept (fun _ ↦ hread hnone) _ _ _ _ hstate
        · exact fun h ↦ nomatch h
        · exact fun h ↦ nomatch h
      apply hdata.bind
      intro x y hxy
      exact ⟨hxy.1, congrArg (Option.map fun temp ↦ [temp]) hxy.2⟩
  have hlog : (virtualInfo.linkedSensors.mapM fun sensor ↦ state.sensorLogMap.lookup sensor) =
      virtualInfo.linkedSensors.mapM fun sensor ↦ state'.sensorLogMap.lookup sensor := by
    rw [hkept.log_eq state state' hstate]
  unfold runVirtualTempEstimator
  rw [hlog]
  cases virtualInfo.linkedSensors.mapM fun sensor ↦ state'.sensorLogMap.lookup sensor with
  | none => exact ⟨hstate, rfl⟩
  | some modelInputs =>
    have hestimate := hmodels.estimate hformula state state' modelInputs hstate
    dsimp only
    rw [← hestimate.1]
    cases (env₁.estimate state.started state.helpers name modelInputs).2 with
    | ok outputs =>
      dsimp only
      split
      · exact ⟨hmodels.update hformula _ _ outputs hestimate.2, rfl⟩
      · exact ⟨hestimate.2, rfl⟩
    | failed => exact ⟨hestimate.2, rfl⟩
    | lowConfidence => exact hbackup _ _ hestimate.2
    | underSampling => exact hbackup _ _ hestimate.2

theorem computeVirtual_paired (hkept : KeptByCalls R)
    (hread : ∀ sub ∈ virtualInfo.subSensors, ∀ state state', R state state' →
      Paired (Alike R) (read₁ state sub) (read₂ state' sub))
    (hsources : SameSources env₁ env₂ virtualInfo)
    (hmodels : SameModels R env₁ env₂ name virtualInfo.formula) (readings : List ExactFloat)
    (hstate : R state state') :
    Paired (Alike R) (computeVirtual env₁ read₁ state name info virtualInfo readings)
      (computeVirtual env₂ read₂ state' name info virtualInfo readings) := by
  have hestimate : virtualInfo.formula = .useMlModel ∨ virtualInfo.formula = .useLinearModel →
      Paired (Alike R) (estimateVirtual env₁ read₁ state name info virtualInfo)
        (estimateVirtual env₂ read₂ state' name info virtualInfo) := by
    intro hformula
    apply (runVirtualTempEstimator_paired hkept
      (fun hbackup ↦ hread _ (mem_subSensors_backup hbackup)) hmodels hformula hstate).bind
    intro x y hxy
    dsimp only
    rw [← hxy.2]
    cases x.2 with
    | none => exact ⟨hxy.1, rfl⟩
    | some outputs =>
      cases outputs with
      | nil => exact paired_error _
      | cons temp rest => exact ⟨hxy.1, rfl⟩
  have hcombine : ∀ formula, Paired (Alike R)
      (combineVirtual env₁ read₁ state virtualInfo readings formula)
      (combineVirtual env₂ read₂ state' virtualInfo readings formula) := by
    intro formula
    have hzip : ∀ term ∈
        (readings.zip (virtualInfo.coefficients.zip virtualInfo.coefficientsType)).zipIdx,
        term.1.2 ∈ virtualInfo.coefficients.zip virtualInfo.coefficientsType :=
      fun term hterm ↦ (List.of_mem_zip (List.fst_mem_of_mem_zipIdx hterm)).2
    have hterm : ∀ term ∈
        (readings.zip (virtualInfo.coefficients.zip virtualInfo.coefficientsType)).zipIdx,
        ∀ type, term.1.2.2 = type →
          (term.1.2.1, type) ∈ virtualInfo.coefficients.zip virtualInfo.coefficientsType := by
      intro term hin type htype
      rw [← htype]
      exact hzip term hin
    apply (combineReadings_paired hkept _ _ _ 0 hstate).bind
    · intro x y hxy
      exact ⟨hxy.1,
        congrArg (ReadOutcome.map fun tempVal ↦ tempVal + virtualInfo.offset) hxy.2⟩
    · intro term hin htype
      exact hread _ (mem_subSensors_coefficient (hterm term hin _ htype))
    · intro term hin htype
      exact hsources.rails _ (List.mem_append_right _ (hterm term hin _ htype))
    · intro term hin htype
      exact hsources.cdevs _ (List.mem_append_right _ (hterm term hin _ htype))
  unfold computeVirtual
  cases hformula : virtualInfo.formula with
  | previouslyPredicted =>
    dsimp only
    rw [hmodels.prediction hformula state state' hstate]
    exact ⟨hkept.note _ _ _ hstate, rfl⟩
  | useMlModel => exact hestimate (Or.inl hformula)
  | useLinearModel => exact hestimate (Or.inr hformula)
  | countThreshold => exact hcombine _
  | weightedAvg => exact hcombine _
  | maximum => exact hcombine _
  | minimum => exact hcombine _

theorem readVirtualSensor_paired (hkept : KeptByCalls R)
    (hread : ∀ sub ∈ virtualInfo.subSensors, ∀ state state', R state state' →
      Paired (Alike R) (read₁ state sub) (read₂ state' sub))
    (hsources : SameSources env₁ env₂ virtualInfo)
    (hmodels : SameModels R env₁ env₂ name virtualInfo.formula) (hstate : R state state') :
    Paired (Alike R) (readVirtualSensor env₁ read₁ state name info virtualInfo)
      (readVirtualSensor env₂ read₂ state' name info virtualInfo) := by
  apply (readLinkedSensors_paired hkept _ _ _ hstate).bind
  · intro x y hxy
    dsimp only
    rw [← hxy.2]
    cases x.2 with
    | okay readings => exact computeVirtual_paired hkept hread hsources hmodels readings hxy.1
    | underCollecting => exact ⟨hxy.1, rfl⟩
    | error => exact ⟨hxy.1, rfl⟩
  · exact fun sub hsub ↦ hread sub (mem_subSensors_linked hsub)
  · exact fun rail hrail ↦ hsources.rails rail (List.mem_append_left _ hrail)
  · exact fun cdev hcdev ↦ hsources.cdevs cdev (List.mem_append_left _ hcdev)

/-- The sensor's own file answers alike, and what a virtual sensor is computed from does. -/
theorem readComposition_paired (hkept : KeptByCalls R)
    (hfile : ∀ state state', R state state' →
      env₁.readThermalFile state.started name = env₂.readThermalFile state'.started name)
    (hvirtual : ∀ virtualInfo, info.virtualSensorInfo = some virtualInfo →
      (∀ sub ∈ virtualInfo.subSensors, ∀ state state', R state state' →
        Paired (Alike R) (read₁ state sub) (read₂ state' sub)) ∧
      SameSources env₁ env₂ virtualInfo ∧ SameModels R env₁ env₂ name virtualInfo.formula)
    (hstate : R state state') :
    Paired (Alike R) (readComposition env₁ read₁ state name info)
      (readComposition env₂ read₂ state' name info) := by
  unfold readComposition
  cases hinfo : info.virtualSensorInfo with
  | none =>
    apply And.intro hstate
    unfold readPhysicalSensor
    rw [hfile state state' hstate]
  | some virtualInfo =>
    have hparts := hvirtual virtualInfo hinfo
    exact readVirtualSensor_paired hkept hparts.1 hparts.2.1 hparts.2.2 hstate

/-- Two statuses, if there are any, from which a call goes the same way: the same emulation, and a cache
that both may read or neither. -/
def AnswerAlike (info : SensorInfo) (forceNoCache : Bool) (now : ℤ) :
    Option SensorStatus → Option SensorStatus → Prop
  | some status, some status' =>
    status.overrideStatus.emulTemp = status'.overrideStatus.emulTemp ∧
      (!forceNoCache && status.isFresh info now) = (!forceNoCache && status'.isFresh info now) ∧
      ((!forceNoCache && status.isFresh info now) = true →
        status.thermalCached.temp = status'.thermalCached.temp)
  | none, none => True
  | _, _ => False

theorem answerAlike_refl (info : SensorInfo) (forceNoCache : Bool) (now : ℤ)
    (status : Option SensorStatus) : AnswerAlike info forceNoCache now status status := by
  cases status with
  | none => exact trivial
  | some status => exact ⟨rfl, rfl, fun _ ↦ rfl⟩

/-- One call. If it writes the cache, the states stand in the relation that writing makes of theirs. -/
theorem readSensor_paired {R' : ReadState ε₁ → ReadState ε₂ → Prop} {forceNoCache : Bool}
    (hkept : KeptByCalls R)
    (hinfo : env₁.sensorInfoMap.lookup name = env₂.sensorInfoMap.lookup name)
    (hnow : env₁.now state.started = env₂.now state'.started)
    (hstatus : ∀ info, env₂.sensorInfoMap.lookup name = some info →
      AnswerAlike info forceNoCache (env₂.now state'.started) (state.sensorStatusMap.lookup name)
        (state'.sensorStatusMap.lookup name))
    (hcomposition : ∀ info, env₂.sensorInfoMap.lookup name = some info →
      Paired (Alike R) (readComposition env₁ read₁ state name info)
        (readComposition env₂ read₂ state' name info))
    (hstore : ∀ info status status', env₂.sensorInfoMap.lookup name = some info →
      state.sensorStatusMap.lookup name = some status →
      state'.sensorStatusMap.lookup name = some status' →
      ∀ x y temp, R x y → Alike R'
        (storeReading x name info (env₂.now state'.started)
          (status.thermalCached.timestamp.map (elapsedMs (env₂.now state'.started))) temp)
        (storeReading y name info (env₂.now state'.started)
          (status'.thermalCached.timestamp.map (elapsedMs (env₂.now state'.started))) temp))
    (hstate : R state state') :
    Paired (fun x y ↦ x.2 = y.2 ∧ if x.2.2 = true then R' x.1 y.1 else R x.1 y.1)
      (readSensor env₁ forceNoCache read₁ state name)
      (readSensor env₂ forceNoCache read₂ state' name) := by
  unfold readSensor
  rw [hinfo, hnow]
  cases hlookup : env₂.sensorInfoMap.lookup name with
  | none => exact ⟨rfl, hstate⟩
  | some info =>
    have halike := hstatus info hlookup
    have hstored := hstore info
    generalize hfirst : state.sensorStatusMap.lookup name = first at halike hstored
    generalize hsecond : state'.sensorStatusMap.lookup name = second at halike hstored
    cases first with
    | none =>
      cases second with
      | none => exact ⟨rfl, hstate⟩
      | some status' => exact halike.elim
    | some status =>
      cases second with
      | none => exact halike.elim
      | some status' =>
        dsimp only
        rw [← halike.1]
        cases status.overrideStatus.emulTemp with
        | some emulTemp => exact ⟨rfl, hkept.log _ _ _ _ hstate⟩
        | none =>
          dsimp only
          rw [← halike.2.1]
          by_cases hfresh : (!forceNoCache && status.isFresh info (env₂.now state'.started)) = true
          · rw [if_pos hfresh, if_pos hfresh, halike.2.2 hfresh]
            exact ⟨rfl, hkept.log _ _ _ _ hstate⟩
          · rw [if_neg hfresh, if_neg hfresh]
            apply (hcomposition info hlookup).bind
            intro x y hxy
            rw [← hxy.2]
            cases x.2 with
            | okay temp =>
              have hfinal := hstored status status' hlookup rfl rfl x.1 y.1 temp hxy.1
              exact ⟨congrArg (fun value ↦ (ReadOutcome.okay value, true)) hfinal.2, hfinal.1⟩
            | underCollecting => exact ⟨rfl, hxy.1⟩
            | error => exact ⟨rfl, hxy.1⟩

/-- One call between states with the same statuses, in a relation that writing the cache keeps. -/
theorem readSensor_alike {forceNoCache : Bool} (hkept : KeptByCalls R)
    (hinfo : env₁.sensorInfoMap.lookup name = env₂.sensorInfoMap.lookup name)
    (hnow : env₁.now state.started = env₂.now state'.started)
    (hstatus : state.sensorStatusMap.lookup name = state'.sensorStatusMap.lookup name)
    (hcomposition : ∀ info, env₂.sensorInfoMap.lookup name = some info →
      Paired (Alike R) (readComposition env₁ read₁ state name info)
        (readComposition env₂ read₂ state' name info))
    (hstore : ∀ info since x y temp, R x y → Alike R
      (storeReading x name info (env₂.now state'.started) since temp)
      (storeReading y name info (env₂.now state'.started) since temp))
    (hstate : R state state') :
    Paired (Alike R) (readSensor env₁ forceNoCache read₁ state name)
      (readSensor env₂ forceNoCache read₂ state' name) := by
  have hpaired : Paired (fun x y ↦ x.2 = y.2 ∧ if x.2.2 = true then R x.1 y.1 else R x.1 y.1)
      (readSensor env₁ forceNoCache read₁ state name)
      (readSensor env₂ forceNoCache read₂ state' name) := by
    apply readSensor_paired hkept hinfo hnow _ hcomposition _ hstate
    · intro info _
      rw [hstatus]
      exact answerAlike_refl info forceNoCache _ _
    · intro info status status' _ hfirst hsecond x y temp hxy
      rw [Option.some.inj (hfirst.symm.trans (hstatus.trans hsecond))]
      exact hstore info _ x y temp hxy
  apply hpaired.mono
  intro x y hxy
  refine ⟨?_, hxy.1⟩
  have hfinal := hxy.2
  rwa [ite_self] at hfinal

end Paired

/-! ## What a reading keeps -/

section Keeps

open Relation

variable {ε : Type}

/-- A property of the statuses and the models, kept by the calls for the sensors that can be reached. -/
structure KeptFrom (env : ReadEnv ε) (root : String) (I : SensorStatusMap → ε → Prop) : Prop where
  store : ∀ name, ReflTransGen (ReadsFrom env.sensorInfoMap) root name →
    ∀ sensorStatusMap helpers status cached, I sensorStatusMap helpers →
      sensorStatusMap.lookup name = some status →
      I (sensorStatusMap.assign name { status with thermalCached := cached }) helpers
  models : ∀ name info virtualInfo, ReflTransGen (ReadsFrom env.sensorInfoMap) root name →
    env.sensorInfoMap.lookup name = some info → info.virtualSensorInfo = some virtualInfo →
    virtualInfo.formula = .useMlModel ∨ virtualInfo.formula = .useLinearModel →
    ∀ n sensorStatusMap helpers values, I sensorStatusMap helpers →
      I sensorStatusMap (env.estimate n helpers name values).1 ∧
        I sensorStatusMap (env.updatePredictions n helpers name values)

theorem KeptFrom.sub {env : ReadEnv ε} {root sub : String} {I : SensorStatusMap → ε → Prop}
    (h : KeptFrom env root I) (hsub : ReadsFrom env.sensorInfoMap root sub) : KeptFrom env sub I :=
  ⟨fun name hname ↦ h.store name (ReflTransGen.head hsub hname),
    fun name info virtualInfo hname ↦ h.models name info virtualInfo (ReflTransGen.head hsub hname)⟩

/-- The same environment answers a state alike. -/
theorem sameSources_refl (env : ReadEnv ε) (virtualInfo : VirtualSensorInfo) :
    SameSources env env virtualInfo :=
  ⟨fun _ _ ↦ rfl, fun _ _ ↦ rfl⟩

theorem storeReading_keepsStatuses {I : SensorStatusMap → ε → Prop} {name : String}
    (hstore : ∀ sensorStatusMap helpers status cached, I sensorStatusMap helpers →
      sensorStatusMap.lookup name = some status →
      I (sensorStatusMap.assign name { status with thermalCached := cached }) helpers)
    {state : ReadState ε} (info : SensorInfo) (now : ℤ) (since : Option ℤ) (temp : ExactFloat)
    (hstate : I state.sensorStatusMap state.helpers) :
    I (storeReading state name info now since temp).1.sensorStatusMap
      (storeReading state name info now since temp).1.helpers := by
  unfold storeReading
  cases hstatus : state.sensorStatusMap.lookup name with
  | none => exact hstate
  | some status => exact hstore _ _ _ _ hstate hstatus

theorem readThermalSensor_keeps {env : ReadEnv ε} {forceNoCache : Bool} {fuel : ℕ} {root : String}
    {I : SensorStatusMap → ε → Prop} (hkept : KeptFrom env root I) {state final : ReadState ε}
    {call : ReadCall} (hstate : I state.sensorStatusMap state.helpers)
    (hread : readThermalSensor env forceNoCache fuel state root = .ok (final, call)) :
    I final.sensorStatusMap final.helpers := by
  induction fuel generalizing root state final call with
  | zero => cases hread
  | succ fuel ih =>
    let R : ReadState ε → ReadState ε → Prop :=
      fun x y ↦ x = y ∧ I x.sensorStatusMap x.helpers
    have hcalls : KeptByCalls R := by
      apply KeptByCalls.mk
      · intro x y hxy
        rw [hxy.1]
      · intro x y key value hxy
        exact ⟨congrArg (fun state ↦ state.log key value) hxy.1, hxy.2⟩
      · intro x y input hxy
        exact ⟨congrArg (fun state ↦ state.note input) hxy.1, hxy.2⟩
    have hsub : ∀ sub, ReadsFrom env.sensorInfoMap root sub → ∀ x y, R x y →
        Paired (Alike R) (readThermalSensor env forceNoCache fuel x sub)
          (readThermalSensor env forceNoCache fuel y sub) := by
      intro sub hsub x y hxy
      rw [← hxy.1]
      have hself : ∀ result, readThermalSensor env forceNoCache fuel x sub = .ok result →
          I result.1.sensorStatusMap result.1.helpers :=
        fun result hresult ↦ ih (hkept.sub hsub) hxy.2 hresult
      apply (paired_self.mpr hself).mono
      intro result result' hresults
      rw [← hresults.1]
      exact ⟨⟨rfl, hresults.2⟩, rfl⟩
    have hmodels : ∀ info virtualInfo, env.sensorInfoMap.lookup root = some info →
        info.virtualSensorInfo = some virtualInfo →
        SameModels R env env root virtualInfo.formula := by
      intro info virtualInfo hinfo hvirtual
      apply SameModels.mk
      · intro hformula x y values hxy
        rw [← hxy.1]
        exact ⟨rfl, rfl, (hkept.models root info virtualInfo ReflTransGen.refl hinfo hvirtual hformula
          _ _ _ values hxy.2).1⟩
      · intro hformula x y values hxy
        rw [← hxy.1]
        exact ⟨rfl, (hkept.models root info virtualInfo ReflTransGen.refl hinfo hvirtual hformula
          _ _ _ values hxy.2).2⟩
      · intro _ x y hxy
        rw [← hxy.1]
      · intro _ x y hxy
        rw [← hxy.1]
    obtain ⟨result, hresult⟩ := bind_eq_ok.mp hread
    have hself : Paired (Alike R)
        (readSensor env forceNoCache (readThermalSensor env forceNoCache fuel)
          { state with started := state.started + 1, inputs := [] } root)
        (readSensor env forceNoCache (readThermalSensor env forceNoCache fuel)
          { state with started := state.started + 1, inputs := [] } root) := by
      apply readSensor_alike hcalls rfl rfl rfl
      · intro info hinfo
        apply readComposition_paired hcalls
        · intro x y hxy
          rw [hxy.1]
        · intro virtualInfo hvirtual
          apply And.intro
          · rw [← subSensorsOf_virtual hinfo hvirtual]
            exact hsub
          · exact ⟨sameSources_refl env virtualInfo, hmodels info virtualInfo hinfo hvirtual⟩
        · exact ⟨rfl, hstate⟩
      · intro info since x y temp hxy
        rw [← hxy.1]
        exact ⟨⟨rfl, storeReading_keepsStatuses (hkept.store root ReflTransGen.refl) info _ _ temp hxy.2⟩, rfl⟩
      · exact ⟨rfl, hstate⟩
    have hfinal := (hself.of_ok hresult.1 hresult.1).1.2
    have hdone := ok_pair hresult.2
    rw [← hdone.1]
    exact hfinal

end Keeps

end HardwareMediatek.Thermal
