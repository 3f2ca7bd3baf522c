import HardwareMediatek.Foundation.EffectRuns
import HardwareMediatek.Thermal.ParseVirtualSensor
import HardwareMediatek.Thermal.ReadingLog

/-!
# The readings that a model is given

The readings of the linked sensors are not handed on to the model of a virtual sensor. The model is
given what the log has for the names of the linked sensors when all of them have been read. A constant
and a cooling device are not recorded in the log, and what is recorded may be replaced by a later
reading.
-/

namespace HardwareMediatek.Thermal

open Foundation Relation

section Spied

variable {ε : Type}

/-- Models that keep what they are called with, and fail. -/
def spyModels (env : ReadEnv ε) : ReadEnv (Option (List ExactFloat)) where
  sensorInfoMap := env.sensorInfoMap
  powerStatusMap := env.powerStatusMap
  cdevMaxRequest := env.cdevMaxRequest
  readThermalFile := env.readThermalFile
  now := env.now
  unset := env.unset
  estimate _ _ _ inputs := (some inputs, .failed)
  updatePredictions _ helpers _ _ := helpers
  readPrediction _ _ _ := .error

def spyState (state : ReadState ε) : ReadState (Option (List ExactFloat)) :=
  ⟨state.sensorStatusMap, state.sensorLogMap, none, state.started, state.inputs, state.calls⟩

/-- What `Estimate` is called with for a sensor whose linked sensors have been read, if it is called. A
backup is only read when it has answered. -/
def estimateInputs (env : ReadEnv ε) (state : ReadState ε) (name : String) (info : SensorInfo)
    (virtualInfo : VirtualSensorInfo) (readings : List ExactFloat) : Option (List ExactFloat) :=
  match computeVirtual (spyModels env) (fun _ _ ↦ .error .outOfFuel) (spyState state) name info
      virtualInfo readings with
  | .ok (final, _) => final.helpers
  | .error _ => none

/-- The formula asks a model. -/
def FormulaOption.isEstimator (formula : FormulaOption) : Bool :=
  formula = .useMlModel ∨ formula = .useLinearModel

/-- The model is called with what the log has, if that is complete. -/
theorem estimateInputs_eq {env : ReadEnv ε} {state : ReadState ε} {name : String} {info : SensorInfo}
    {virtualInfo : VirtualSensorInfo} (hformula : virtualInfo.formula.isEstimator = true)
    (readings : List ExactFloat) :
    estimateInputs env state name info virtualInfo readings =
      virtualInfo.linkedSensors.mapM fun sensor ↦ state.sensorLogMap.lookup sensor := by
  have hrun : runVirtualTempEstimator (spyModels env) (fun _ _ ↦ .error .outOfFuel) (spyState state)
      name info virtualInfo =
        .ok ({ spyState state with
          helpers := virtualInfo.linkedSensors.mapM fun sensor ↦ state.sensorLogMap.lookup sensor },
          none) := by
    unfold runVirtualTempEstimator spyState
    dsimp only
    cases virtualInfo.linkedSensors.mapM fun sensor ↦ state.sensorLogMap.lookup sensor with
    | none => rfl
    | some inputs => rfl
  have hasks := of_decide_eq_true hformula
  unfold estimateInputs computeVirtual estimateVirtual
  apply hasks.elim
  · intro hml
    rw [hml]
    dsimp only
    rw [hrun]
    rfl
  · intro hlinear
    rw [hlinear]
    dsimp only
    rw [hrun]
    rfl

end Spied

section Readings

variable {ε : Type} {env : ReadEnv ε} {read : Read ε} {state final : ReadState ε}

/-! ## The loop over the linked sensors -/

theorem readLinkedSensors_cons {source : String × SensorFusionType}
    {rest : List (String × SensorFusionType)} {readings : List ExactFloat} :
    readLinkedSensors env read (source :: rest) state = .ok (final, .okay readings) ↔
      ∃ next reading others,
        readDataByType env read state source.1 .nan source.2 false = .ok (next, some reading) ∧
          reading.isNaN = false ∧ readLinkedSensors env read rest next = .ok (final, .okay others) ∧
            readings = reading :: others := by
  constructor
  · intro hread
    obtain ⟨⟨next, result⟩, hfirst, hread⟩ := bind_eq_ok.mp hread
    cases result with
    | none => cases (ok_pair hread).2
    | some reading =>
      dsimp only at hread
      split at hread
      · cases (ok_pair hread).2
      · rename_i hnumber
        obtain ⟨⟨last, outcome⟩, hrest, hdone⟩ := bind_eq_ok.mp hread
        obtain ⟨hlast, hreadings⟩ := ok_pair hdone
        cases outcome with
        | okay others =>
          refine ⟨next, reading, others, hfirst, Bool.eq_false_iff.mpr hnumber, ?_,
            (ReadOutcome.okay.inj hreadings).symm⟩
          rw [hrest, ← hlast]
        | underCollecting => cases hreadings
        | error => cases hreadings
  · rintro ⟨next, reading, others, hfirst, hnumber, hrest, rfl⟩
    apply bind_eq_ok.mpr
    refine ⟨(next, some reading), hfirst, ?_⟩
    dsimp only
    rw [hnumber, if_neg Bool.false_ne_true, hrest]
    rfl

/-! ## What stays in the log -/

/-- The log at the end has the reading of a source that is read in a state: for a sensor and a rail what
was there when it had been read, and for the others the value. -/
def SourceStays (env : ReadEnv ε) (read : Read ε) (final state : ReadState ε)
    (source : String × SensorFusionType) : Prop :=
  match source.2 with
  | .sensor | .odpm =>
    ∀ next reading, readDataByType env read state source.1 .nan source.2 false =
        .ok (next, some reading) →
      final.sensorLogMap.lookup source.1 = next.sensorLogMap.lookup source.1
  | .constant => final.sensorLogMap.lookup source.1 = some (atof source.1)
  | .cdev =>
    final.sensorLogMap.lookup source.1 = (env.cdevMaxRequest source.1).map ExactFloat.ofInt

/-- The same of each source, where those before it have been read. -/
def ReadingsStay (env : ReadEnv ε) (read : Read ε) (final state : ReadState ε)
    (sources : List (String × SensorFusionType)) : Prop :=
  EachAfter (fun before source ↦ ∀ middle readings,
    readLinkedSensors env read before state = .ok (middle, .okay readings) →
      SourceStays env read final middle source) sources

theorem readingsStay_cons {source : String × SensorFusionType}
    {rest : List (String × SensorFusionType)} {next : ReadState ε} {reading : ExactFloat}
    (hfirst : readDataByType env read state source.1 .nan source.2 false = .ok (next, some reading))
    (hnumber : reading.isNaN = false) :
    ReadingsStay env read final state (source :: rest) ↔
      SourceStays env read final state source ∧ ReadingsStay env read final next rest := by
  unfold ReadingsStay
  rw [eachAfter_cons]
  apply and_congr
  · constructor
    · exact fun h ↦ h state [] rfl
    · intro h middle readings hread
      obtain ⟨rfl, -⟩ := ok_pair hread
      exact h
  · apply eachAfter_congr
    intro before source' after _ _ _
    constructor
    · intro h middle readings hread
      exact h middle (reading :: readings)
        (readLinkedSensors_cons.mpr ⟨next, reading, readings, hfirst, hnumber, hread, rfl⟩)
    · intro h middle readings hread
      obtain ⟨next', reading', others, hfirst', -, hrest, -⟩ := readLinkedSensors_cons.mp hread
      rw [hfirst] at hfirst'
      obtain ⟨rfl, -⟩ := ok_pair hfirst'
      exact h middle others hrest

/-! ## What is recorded -/

/-- The calls that have a value record it. -/
def RecordsValues (read : Read ε) : Prop :=
  ∀ state name final call temp, read state name = .ok (final, call) → call.outcome = .okay temp →
    final.sensorLogMap.lookup name = some temp

/-- A read of this type records its reading. -/
def SensorFusionType.isRecorded : SensorFusionType → Bool
  | .sensor | .odpm => true
  | .constant | .cdev => false

variable {source : String × SensorFusionType} {next : ReadState ε} {reading : ExactFloat}

theorem readDataByType_logs (hrecords : RecordsValues read)
    (hfirst : readDataByType env read state source.1 .nan source.2 false = .ok (next, some reading))
    (hnumber : reading.isNaN = false) (htype : source.2.isRecorded = true) :
    next.sensorLogMap.lookup source.1 = some reading := by
  cases hsource : source.2 with
  | sensor =>
    rw [hsource] at hfirst
    obtain ⟨⟨after, call⟩, hcall, hdone⟩ := bind_eq_ok.mp hfirst
    dsimp only at hdone
    split at hdone
    · rename_i temp houtcome
      obtain ⟨hnext, hreading⟩ := ok_pair hdone
      rw [← hnext, ← Option.some.inj hreading]
      exact hrecords state source.1 after call temp hcall houtcome
    · rw [← Option.some.inj (ok_pair hdone).2] at hnumber
      cases hnumber
    · cases (ok_pair hdone).2
  | odpm =>
    rw [hsource] at hfirst
    unfold readDataByType at hfirst
    dsimp only at hfirst
    split at hfirst
    · cases hfirst
    · split at hfirst
      · rename_i hnan
        rw [← Option.some.inj (ok_pair hfirst).2, hnan] at hnumber
        cases hnumber
      · obtain ⟨hnext, hreading⟩ := ok_pair hfirst
        rw [← hnext, ← Option.some.inj hreading]
        exact lookup_log_self _ _
  | constant =>
    rw [hsource] at htype
    cases htype
  | cdev =>
    rw [hsource] at htype
    cases htype

/-- For a source that has been read, to stay is to be found with its reading. -/
theorem sourceStays_iff (hrecords : RecordsValues read)
    (hfirst : readDataByType env read state source.1 .nan source.2 false = .ok (next, some reading))
    (hnumber : reading.isNaN = false) :
    SourceStays env read final state source ↔
      final.sensorLogMap.lookup source.1 = some reading := by
  have hkept : source.2.isRecorded = true →
      ((∀ next reading, readDataByType env read state source.1 .nan source.2 false =
          .ok (next, some reading) →
        final.sensorLogMap.lookup source.1 = next.sensorLogMap.lookup source.1) ↔
          final.sensorLogMap.lookup source.1 = some reading) := by
    intro htype
    have hown := readDataByType_logs hrecords hfirst hnumber htype
    constructor
    · exact fun h ↦ (h next reading hfirst).trans hown
    · intro h next' reading' hfirst'
      rw [hfirst] at hfirst'
      obtain ⟨rfl, -⟩ := ok_pair hfirst'
      exact h.trans hown.symm
  unfold SourceStays
  cases hsource : source.2 with
  | sensor =>
    rw [hsource] at hkept
    exact hkept rfl
  | odpm =>
    rw [hsource] at hkept
    exact hkept rfl
  | constant =>
    rw [hsource] at hfirst
    rw [← (ok_pair hfirst).2]
  | cdev =>
    rw [hsource] at hfirst
    rw [← (ok_pair hfirst).2]

theorem readingsStay_iff (hrecords : RecordsValues read) {sources : List (String × SensorFusionType)}
    {last : ReadState ε} {readings : List ExactFloat}
    (hread : readLinkedSensors env read sources state = .ok (last, .okay readings)) :
    ReadingsStay env read final state sources ↔
      ((sources.map Prod.fst).mapM fun sensor ↦ final.sensorLogMap.lookup sensor) = some readings := by
  induction sources generalizing state readings with
  | nil =>
    obtain ⟨-, hreadings⟩ := ok_pair hread
    rw [← ReadOutcome.okay.inj hreadings]
    exact iff_of_true (eachAfter_nil _) rfl
  | cons source rest ih =>
    obtain ⟨next, reading, others, hfirst, hnumber, hrest, rfl⟩ := readLinkedSensors_cons.mp hread
    rw [readingsStay_cons hfirst hnumber, sourceStays_iff hrecords hfirst hnumber, ih hrest,
      List.map_cons, List.mapM_cons]
    simp [Option.bind_eq_some_iff]

/-! ## Sources that record apart -/

/-- Reading the source may record something under the name. -/
def SourceRecords (sensorInfoMap : SensorInfoMap) (source : String × SensorFusionType)
    (other : String) : Prop :=
  match source.2 with
  | .sensor => RecordsUnder sensorInfoMap source.1 other
  | .odpm => source.1 = other
  | .constant | .cdev => False

theorem SourceRecords.isRecorded {sensorInfoMap : SensorInfoMap} {other : String}
    (hrecords : SourceRecords sensorInfoMap source other) : source.2.isRecorded = true := by
  unfold SourceRecords at hrecords
  cases htype : source.2 <;> rw [htype] at hrecords
  · rfl
  · rfl
  · exact hrecords.elim
  · exact hrecords.elim

theorem readDataByType_keepsLog {forceNoCache : Bool} {fuel : ℕ} {other : String}
    (hother : ¬ SourceRecords env.sensorInfoMap source other) {value : Option ExactFloat}
    (hstate : state.sensorLogMap.lookup other = value) :
    Yields (fun state ↦ state.sensorLogMap.lookup other = value)
      (readDataByType env (readThermalSensor env forceNoCache fuel) state source.1 .nan source.2
        false) := by
  unfold SourceRecords at hother
  apply readDataByType_yields (keptByParts_lookup other value) _ _ _ _ hstate
  · intro htype state hstate
    rw [htype] at hother
    exact readThermalSensor_keepsLog hother hstate
  · intro htype
    rw [htype] at hother
    exact fun hsame ↦ hother hsame.symm

theorem readLinkedSensors_keepsLog {forceNoCache : Bool} {fuel : ℕ} {other : String}
    {sources : List (String × SensorFusionType)}
    (hother : ∀ source ∈ sources, ¬ SourceRecords env.sensorInfoMap source other)
    {value : Option ExactFloat} (hstate : state.sensorLogMap.lookup other = value) :
    Yields (fun state ↦ state.sensorLogMap.lookup other = value)
      (readLinkedSensors env (readThermalSensor env forceNoCache fuel) sources state) := by
  apply readLinkedSensors_yields (keptByParts_lookup other value) _ _ hstate
  · exact fun sub hsub state hstate ↦ readThermalSensor_keepsLog (hother _ hsub) hstate
  · exact fun rail hrail hsame ↦ hother _ hrail hsame.symm

/-- No two sources record under each other's names, and the log has nothing for a source that is not
recorded. -/
structure RecordApart (env : ReadEnv ε) (state : ReadState ε)
    (sources : List (String × SensorFusionType)) : Prop where
  apart : sources.Pairwise fun source source' ↦
    ¬ SourceRecords env.sensorInfoMap source source'.1 ∧
      ¬ SourceRecords env.sensorInfoMap source' source.1
  unknown : ∀ source ∈ sources, source.2.isRecorded = false →
    state.sensorLogMap.lookup source.1 = none

/-- The readings of sources that record apart stay exactly where they are recorded. -/
theorem readingsStay_apart_iff {forceNoCache : Bool} {fuel : ℕ}
    {sources : List (String × SensorFusionType)} {readings : List ExactFloat}
    (hapart : RecordApart env state sources)
    (hread : readLinkedSensors env (readThermalSensor env forceNoCache fuel) sources state =
      .ok (final, .okay readings)) :
    ReadingsStay env (readThermalSensor env forceNoCache fuel) final state sources ↔
      ∀ source ∈ sources, source.2.isRecorded = true := by
  have hrecords : RecordsValues (readThermalSensor env forceNoCache fuel) :=
    fun _ _ _ _ _ hcall hokay ↦ readThermalSensor_logs hcall hokay
  induction sources generalizing state readings with
  | nil => exact iff_of_true (eachAfter_nil _) fun _ h ↦ absurd h List.not_mem_nil
  | cons source rest ih =>
    obtain ⟨next, reading, others, hfirst, hnumber, hrest, rfl⟩ := readLinkedSensors_cons.mp hread
    obtain ⟨hothers, hpairs⟩ := List.pairwise_cons.mp hapart.apart
    have hlater : ∀ value, next.sensorLogMap.lookup source.1 = value →
        final.sensorLogMap.lookup source.1 = value := by
      intro value hvalue
      exact readLinkedSensors_keepsLog (fun other hin ↦ (hothers other hin).2) hvalue _ hrest
    have hfirstStays : SourceStays env (readThermalSensor env forceNoCache fuel) final state source ↔
        source.2.isRecorded = true := by
      rw [sourceStays_iff hrecords hfirst hnumber]
      by_cases htype : source.2.isRecorded = true
      · have hown := readDataByType_logs hrecords hfirst hnumber htype
        exact iff_of_true (hlater _ hown) htype
      · have hsilent : ¬ SourceRecords env.sensorInfoMap source source.1 :=
          fun hrecorded ↦ htype hrecorded.isRecorded
        have hnone := hapart.unknown source List.mem_cons_self (Bool.eq_false_iff.mpr htype)
        have hnext := readDataByType_keepsLog hsilent hnone _ hfirst
        rw [hlater none hnext]
        exact iff_of_false nofun htype
    have hrestApart : RecordApart env next rest := by
      apply RecordApart.mk hpairs
      intro other hin htype
      have hnone := hapart.unknown other (List.mem_cons_of_mem _ hin) htype
      exact readDataByType_keepsLog (hothers other hin).1 hnone _ hfirst
    rw [readingsStay_cons hfirst hnumber, hfirstStays, List.forall_mem_cons]
    exact and_congr_right fun _ ↦ ih hrestApart hrest

end Readings

/-! ## Estimators -/

/-- The model of a virtual sensor is called with the readings of the linked sensors if and only if these
stay in the log. Where no two linked sensors record under each other's names, this is so exactly for
those that link nothing but sensors and rails. -/
theorem estimateInputs_eq_readings_iff {ε : Type}
    {initializeMlModel : String → ℕ → MLModelInitData → Bool} {name : String} {sensor : Json}
    {virtualInfo : VirtualSensorInfo}
    (hparse : parseVirtualSensorInfo initializeMlModel name sensor = .ok (some virtualInfo))
    (hformula : virtualInfo.formula.isEstimator = true) (info : SensorInfo) (env : ReadEnv ε)
    (forceNoCache : Bool) (fuel : ℕ) {state final : ReadState ε} {readings : List ExactFloat}
    (hread : readLinkedSensors env (readThermalSensor env forceNoCache fuel)
      (virtualInfo.linkedSensors.zip virtualInfo.linkedSensorsType) state =
        .ok (final, .okay readings)) :
    (estimateInputs env final name info virtualInfo readings = some readings ↔
      ReadingsStay env (readThermalSensor env forceNoCache fuel) final state
        (virtualInfo.linkedSensors.zip virtualInfo.linkedSensorsType)) ∧
    (RecordApart env state (virtualInfo.linkedSensors.zip virtualInfo.linkedSensorsType) →
      (estimateInputs env final name info virtualInfo readings = some readings ↔
        ∀ type ∈ virtualInfo.linkedSensorsType, type = .sensor ∨ type = .odpm)) := by
  have htypes := (parseVirtualSensorInfo_reads hparse).1
  have hnames : (virtualInfo.linkedSensors.zip virtualInfo.linkedSensorsType).map Prod.fst =
      virtualInfo.linkedSensors := List.map_fst_zip htypes.ge
  have hkinds : (virtualInfo.linkedSensors.zip virtualInfo.linkedSensorsType).map Prod.snd =
      virtualInfo.linkedSensorsType := List.map_snd_zip htypes.le
  have hstay : estimateInputs env final name info virtualInfo readings = some readings ↔
      ReadingsStay env (readThermalSensor env forceNoCache fuel) final state
        (virtualInfo.linkedSensors.zip virtualInfo.linkedSensorsType) := by
    rw [estimateInputs_eq hformula, readingsStay_iff _ hread, hnames]
    exact fun _ _ _ _ _ hcall hokay ↦ readThermalSensor_logs hcall hokay
  apply And.intro hstay
  intro hapart
  have hrecorded : ∀ type : SensorFusionType,
      type.isRecorded = true ↔ type = .sensor ∨ type = .odpm := by
    intro type
    cases type <;> simp [SensorFusionType.isRecorded]
  calc
    _ ↔ ∀ source ∈ virtualInfo.linkedSensors.zip virtualInfo.linkedSensorsType,
        source.2.isRecorded = true := hstay.trans (readingsStay_apart_iff hapart hread)
    _ ↔ ∀ type ∈ (virtualInfo.linkedSensors.zip virtualInfo.linkedSensorsType).map Prod.snd,
        type.isRecorded = true := by rw [List.forall_mem_map]
    _ ↔ _ := by
      rw [hkinds]
      exact forall₂_congr fun type _ ↦ hrecorded type

/-- A physical sensor records under its own name only. -/
theorem RecordsUnder.eq_of_physical {sensorInfoMap : SensorInfoMap} {name other : String}
    {info : SensorInfo} (hrecords : RecordsUnder sensorInfoMap name other)
    (hinfo : sensorInfoMap.lookup name = some info) (hphysical : info.virtualSensorInfo = none) :
    other = name := by
  cases hrecords with
  | self name => rfl
  | rail hvirtual hsome _ =>
    rw [hinfo] at hvirtual
    rw [← Option.some.inj hvirtual, hphysical] at hsome
    cases hsome
  | sub hsub _ =>
    unfold ReadsFrom subSensorsOf at hsub
    rw [hinfo, Option.bind_some, hphysical] at hsub
    cases hsub

/-- A linear model over a skin sensor and another source. -/
def modelSensor (source type : String) : Json :=
  .obj [("VirtualSensor", .bool true), ("Combination", .arr [.str "skin", .str source]),
    ("Formula", .str "USE_LINEAR_MODEL"), ("CombinationType", .arr [.str "SENSOR", .str type]),
    ("Coefficient", .arr [.str "1", .str "1"])]

def modelInfo (source : String) (type : SensorFusionType) : VirtualSensorInfo :=
  { linkedSensors := ["skin", source]
    linkedSensorsType := [.sensor, type]
    coefficients := ["1", "1"]
    coefficientsType := [.constant, .constant]
    offset := 0
    triggerSensors := []
    formula := .useLinearModel
    vtEstimatorModelFile := ""
    backupSensor := "" }

def modelEnv : ReadEnv Unit where
  sensorInfoMap := (∅ : SensorInfoMap).insert "skin" default
  powerStatusMap := (∅ : PowerStatusMap).insert "rail" ⟨0, [], .fin 2, true⟩
  cdevMaxRequest _ := none
  readThermalFile _ _ := some "30"
  now _ := 0
  unset _ := .fin 7
  estimate _ helpers _ _ := (helpers, .ok [.fin 31])
  updatePredictions _ helpers _ _ := helpers
  readPrediction _ _ _ := .error

def modelStatuses : SensorStatusMap := (∅ : SensorStatusMap).insert "skin" default

/-- A sensor and a rail record apart, and the model is called with their readings. -/
theorem estimateInputs_rail :
    ∃ final, readLinkedSensors modelEnv (readThermalSensor modelEnv false 1)
        [("skin", .sensor), ("rail", .odpm)] (startReading modelStatuses ()) =
          .ok (final, .okay [.fin 30, .fin 2]) ∧
      estimateInputs modelEnv final "model" default (modelInfo "rail" .odpm) [.fin 30, .fin 2] =
        some [.fin 30, .fin 2] := by
  have hrun : (readLinkedSensors modelEnv (readThermalSensor modelEnv false 1)
      [("skin", .sensor), ("rail", .odpm)] (startReading modelStatuses ())).toOption.map Prod.snd =
        some (.okay [.fin 30, .fin 2]) := by decide +kernel
  obtain ⟨⟨final, outcome⟩, hread, rfl⟩ := Option.map_eq_some_iff.mp hrun
  have hparse : parseVirtualSensorInfo (fun _ _ _ ↦ true) "model" (modelSensor "rail" "ODPM") =
      .ok (some (modelInfo "rail" .odpm)) := by decide +kernel
  have hphysical : ¬ RecordsUnder modelEnv.sensorInfoMap "skin" "rail" := by
    intro hrecords
    have hsame := hrecords.eq_of_physical rfl rfl
    exact absurd hsame (by decide)
  have hrail : ¬ SourceRecords modelEnv.sensorInfoMap ("rail", .odpm) "skin" := by
    intro hsame
    have hnames : "rail" = "skin" := hsame
    exact absurd hnames (by decide)
  have hapart : RecordApart modelEnv (startReading modelStatuses ())
      [("skin", .sensor), ("rail", .odpm)] := by
    apply RecordApart.mk
    · exact List.pairwise_pair.mpr ⟨hphysical, hrail⟩
    · intro source hin htype
      rcases List.mem_pair.mp hin with rfl | rfl <;> cases htype
  refine ⟨final, toOption_eq_some hread, ?_⟩
  apply ((estimateInputs_eq_readings_iff hparse rfl default modelEnv false 1
    (toOption_eq_some hread)).2 hapart).mpr
  intro type hin
  exact (List.mem_pair.mp hin).imp id id

/-- A constant is read, and not found in the log. -/
theorem estimateInputs_constant :
    ¬ ∀ (initializeMlModel : String → ℕ → MLModelInitData → Bool) (name : String) (sensor : Json)
      (virtualInfo : VirtualSensorInfo),
        parseVirtualSensorInfo initializeMlModel name sensor = .ok (some virtualInfo) →
        virtualInfo.formula.isEstimator = true →
        ∀ (info : SensorInfo) (env : ReadEnv Unit) (forceNoCache : Bool) (fuel : ℕ)
          (state final : ReadState Unit) (readings : List ExactFloat),
          readLinkedSensors env (readThermalSensor env forceNoCache fuel)
            (virtualInfo.linkedSensors.zip virtualInfo.linkedSensorsType) state =
              .ok (final, .okay readings) →
          estimateInputs env final name info virtualInfo readings = some readings := by
  intro hall
  have hrun : (readLinkedSensors modelEnv (readThermalSensor modelEnv false 1)
      [("skin", .sensor), ("25", .constant)] (startReading modelStatuses ())).toOption.map (fun result ↦
        (result.2, estimateInputs modelEnv result.1 "model" default (modelInfo "25" .constant)
          [.fin 30, .fin 25])) = some (.okay [.fin 30, .fin 25], none) := by decide +kernel
  obtain ⟨⟨final, outcome⟩, hread, hresult⟩ := Option.map_eq_some_iff.mp hrun
  obtain ⟨rfl, hnone⟩ := Prod.mk.inj hresult
  have hparse : parseVirtualSensorInfo (fun _ _ _ ↦ true) "model" (modelSensor "25" "CONSTANT") =
      .ok (some (modelInfo "25" .constant)) := by decide +kernel
  have hinputs := hall _ _ _ _ hparse rfl default modelEnv false 1 (startReading modelStatuses ()) final
    [.fin 30, .fin 25] (toOption_eq_some hread)
  rw [hnone] at hinputs
  cases hinputs

end HardwareMediatek.Thermal
