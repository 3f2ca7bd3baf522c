import HardwareMediatek.Thermal.Reading
import Mathlib.Logic.Relation
import HardwareMediatek.Thermal.SensorStatus

/-!
# Reading a temperature

A temperature is a reading with its severity. The severity of a watched sensor is at least that of its
severity references, which are read in turn, and is kept in the status of the sensor. The references
may refer to each other in a cycle, so this recursion is given fuel, too.

How a sensor is read is a parameter.
-/

namespace HardwareMediatek.Thermal

section Functions

variable {σ : Type}

/-- A temperature that is read, with or without the caches. -/
abbrev TemperatureRead (σ : Type) :=
  ReadState σ → String → Bool → Except Halt (ReadState σ × ReadOutcome Temperature)

/-- The loop over the severity references: the highest severity, or none if a reading fails. -/
def readReferences (readTemp : TemperatureRead σ) :
    List String → ThrottlingSeverity → ReadState σ → Except Halt (ReadState σ × ThrottlingSeverity)
  | [], targetRefSeverity, state => .ok (state, targetRefSeverity)
  | sensor :: rest, targetRefSeverity, state => do
    let (state, outcome) ← readTemp state sensor false
    match outcome with
    | .okay temp => readReferences readTemp rest (max targetRefSeverity temp.throttlingStatus) state
    | _ => pure (state, .none)

def getSeverityReference (sensorInfoMap : SensorInfoMap) (readTemp : TemperatureRead σ)
    (state : ReadState σ) (name : String) : Except Halt (ReadState σ × ThrottlingSeverity) :=
  match sensorInfoMap.lookup name with
  | none => .ok (state, .none)
  | some info => readReferences readTemp info.severityReference .none state

/-- The end of a reading that has given a temperature. Only a watched sensor has a severity. -/
def finishTemperature (state : ReadState σ) (name : String) (info : SensorInfo) (temp : ExactFloat)
    (severityReference : ThrottlingSeverity) : ReadState σ × Temperature :=
  let value := temp * info.multiplier
  match info.isWatch, state.sensorStatusMap.lookup name with
  | true, some status =>
    let updated := updateSeverity info value severityReference status
    ({ state with sensorStatusMap := state.sensorStatusMap.assign name updated.1 },
      ⟨info.type, name, value, updated.2⟩)
  | _, _ => (state, ⟨info.type, name, value, .none⟩)

/-- A reading that may have given a temperature. -/
def rateReading (sensorInfoMap : SensorInfoMap) (readTemp : TemperatureRead σ) (state : ReadState σ)
    (name : String) (outcome : ReadOutcome ExactFloat) :
    Except Halt (ReadState σ × ReadOutcome Temperature) :=
  match outcome with
  | .error => .ok (state, .error)
  | .underCollecting => .ok (state, .underCollecting)
  | .okay temp =>
    if temp.isNaN then .ok (state, .error)
    else do
      let (state, severityReference) ← getSeverityReference sensorInfoMap readTemp state name
      match sensorInfoMap.lookup name with
      | none => .error (.fault .outOfRange)
      | some info =>
        let finished := finishTemperature state name info temp severityReference
        pure (finished.1, .okay finished.2)

/-- `sensor_status_map_.at()` ends the program for a sensor without a status. The log is a new one for
every sensor. -/
def readTemperature (sensorInfoMap : SensorInfoMap) (reader : Bool → Read σ) :
    ℕ → TemperatureRead σ
  | 0, _, _, _ => .error .outOfFuel
  | fuel + 1, state, name, forceNoCache =>
    match state.sensorStatusMap.lookup name with
    | none => .error (.fault .outOfRange)
    | some _ => do
      let (state, call) ← reader forceNoCache { state with sensorLogMap := ∅, inputs := [] } name
      rateReading sensorInfoMap (readTemperature sensorInfoMap reader fuel) state name call.outcome

end Functions

/-! ## The references of a sensor -/

def severityReferencesOf (sensorInfoMap : SensorInfoMap) (name : String) : List String :=
  ((sensorInfoMap.lookup name).map SensorInfo.severityReference).getD []

/-- The severity of the first sensor is at least that of the second one. -/
def RefersTo (sensorInfoMap : SensorInfoMap) (name ref : String) : Prop :=
  ref ∈ severityReferencesOf sensorInfoMap name

theorem severityReferencesOf_eq {sensorInfoMap : SensorInfoMap} {name : String} {info : SensorInfo}
    (hinfo : sensorInfoMap.lookup name = some info) :
    severityReferencesOf sensorInfoMap name = info.severityReference := by
  unfold severityReferencesOf
  rw [hinfo]
  rfl

/-! ## What the reading of a temperature keeps -/

section Keeps

open Relation

variable {σ : Type} {sensorInfoMap : SensorInfoMap} {I : SensorStatusMap → σ → Prop}

theorem readReferences_keeps {readTemp : TemperatureRead σ} {refs : List String}
    (hread : ∀ ref ∈ refs, ∀ state final outcome, I state.sensorStatusMap state.helpers →
      readTemp state ref false = .ok (final, outcome) → I final.sensorStatusMap final.helpers)
    {target severity : ThrottlingSeverity} {state final : ReadState σ}
    (hstate : I state.sensorStatusMap state.helpers)
    (hrefs : readReferences readTemp refs target state = .ok (final, severity)) :
    I final.sensorStatusMap final.helpers := by
  induction refs generalizing target state with
  | nil =>
    rw [← (ok_pair hrefs).1]
    exact hstate
  | cons ref rest ih =>
    obtain ⟨result, hresult⟩ := bind_eq_ok.mp hrefs
    have hkept := hread ref List.mem_cons_self state result.1 result.2 hstate hresult.1
    have hrest := hresult.2
    dsimp only at hrest
    cases houtcome : result.2 with
    | okay temp =>
      rw [houtcome] at hrest
      exact ih (fun other hin ↦ hread other (List.mem_cons_of_mem _ hin)) hkept hrest
    | underCollecting =>
      rw [houtcome] at hrest
      rw [← (ok_pair hrest).1]
      exact hkept
    | error =>
      rw [houtcome] at hrest
      rw [← (ok_pair hrest).1]
      exact hkept

/-- What the readings keep and what the severities leave alone is kept. -/
theorem readTemperature_keeps {reader : Bool → Read σ} {fuel : ℕ} {root : String}
    (hread : ∀ name, ReflTransGen (RefersTo sensorInfoMap) root name →
      ∀ forceNoCache state final call, I state.sensorStatusMap state.helpers →
        reader forceNoCache state name = .ok (final, call) → I final.sensorStatusMap final.helpers)
    (hrate : ∀ name, ReflTransGen (RefersTo sensorInfoMap) root name →
      ∀ sensorStatusMap helpers status info value severity, I sensorStatusMap helpers →
        sensorStatusMap.lookup name = some status →
        I (sensorStatusMap.assign name (updateSeverity info value severity status).1) helpers)
    {state final : ReadState σ} {forceNoCache : Bool} {outcome : ReadOutcome Temperature}
    (hstate : I state.sensorStatusMap state.helpers)
    (htemperature : readTemperature sensorInfoMap reader fuel state root forceNoCache =
      .ok (final, outcome)) : I final.sensorStatusMap final.helpers := by
  induction fuel generalizing root state final forceNoCache outcome with
  | zero => cases htemperature
  | succ fuel ih =>
    unfold readTemperature at htemperature
    cases hstatus : state.sensorStatusMap.lookup root with
    | none =>
      rw [hstatus] at htemperature
      cases htemperature
    | some status =>
      rw [hstatus] at htemperature
      obtain ⟨result, hresult⟩ := bind_eq_ok.mp htemperature
      have hkept : I result.1.sensorStatusMap result.1.helpers := by
        apply hread root ReflTransGen.refl forceNoCache _ result.1 result.2 _ hresult.1
        exact hstate
      have hrest := hresult.2
      unfold rateReading at hrest
      dsimp only at hrest
      cases houtcome : result.2.outcome with
      | error =>
        rw [houtcome] at hrest
        rw [← (ok_pair hrest).1]
        exact hkept
      | underCollecting =>
        rw [houtcome] at hrest
        rw [← (ok_pair hrest).1]
        exact hkept
      | okay temp =>
        rw [houtcome] at hrest
        dsimp only at hrest
        by_cases hnan : temp.isNaN = true
        · rw [if_pos hnan] at hrest
          rw [← (ok_pair hrest).1]
          exact hkept
        · rw [if_neg hnan] at hrest
          obtain ⟨rated, hrated⟩ := bind_eq_ok.mp hrest
          unfold getSeverityReference at hrated
          cases hinfo : sensorInfoMap.lookup root with
          | none =>
            rw [hinfo] at hrated
            cases hrated.2
          | some info =>
            rw [hinfo] at hrated
            have href : ∀ ref ∈ info.severityReference, RefersTo sensorInfoMap root ref := by
              intro ref hin
              unfold RefersTo
              rwa [severityReferencesOf_eq hinfo]
            have hreferences : I rated.1.sensorStatusMap rated.1.helpers := by
              apply readReferences_keeps _ hkept hrated.1
              intro ref hin state final outcome hstate hread'
              exact ih (fun name hname ↦ hread name (ReflTransGen.head (href ref hin) hname))
                (fun name hname ↦ hrate name (ReflTransGen.head (href ref hin) hname)) hstate hread'
            have hfinal := (ok_pair hrated.2).1
            rw [← hfinal]
            unfold finishTemperature
            cases info.isWatch with
            | false => exact hreferences
            | true =>
              cases hown : rated.1.sensorStatusMap.lookup root with
              | none => exact hreferences
              | some status => exact hrate root ReflTransGen.refl _ _ _ _ _ _ hreferences hown

end Keeps

end HardwareMediatek.Thermal
