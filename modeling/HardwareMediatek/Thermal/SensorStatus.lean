import HardwareMediatek.Foundation.FloatFormat
import HardwareMediatek.Thermal.Info

/-!
# The status of a sensor

What the helper remembers about a sensor between two readings: its severity,
the severities of its hot and its cold thresholds, the cached reading, and
whether a change of the severity still has to be notified. Times are in
nanoseconds; a time that was never set is `none`.
-/

namespace HardwareMediatek.Thermal

/-- An emulated temperature, with an emulated severity if there is one. -/
structure EmulTemp where
  temp : ExactFloat
  severity : Option ThrottlingSeverity

structure OverrideStatus where
  emulTemp : Option EmulTemp
  maxThrottling : Bool
  pendingUpdate : Bool

structure ThermalSample where
  temp : ExactFloat
  timestamp : Option ℤ

structure SensorStatus where
  severity : ThrottlingSeverity
  prevHotSeverity : ThrottlingSeverity
  prevColdSeverity : ThrottlingSeverity
  lastUpdateTime : Option ℤ
  thermalCached : ThermalSample
  pendingNotification : Bool
  overrideStatus : OverrideStatus

/-- The status that the constructor gives every sensor. -/
instance : Inhabited SensorStatus where
  default :=
    { severity := .none
      prevHotSeverity := .none
      prevColdSeverity := .none
      lastUpdateTime := none
      thermalCached := ⟨.nan, none⟩
      pendingNotification := false
      overrideStatus := ⟨none, false, false⟩ }

abbrev SensorInfoMap := UnorderedMap String SensorInfo

abbrev SensorStatusMap := UnorderedMap String SensorStatus

/-- `duration_cast<milliseconds>(now - time)`. -/
def elapsedMs (now time : ℤ) : ℤ := (now - time).tdiv 1000000

/-! ## Severities -/

/-- The severities that the loop over the thresholds has found so far. -/
structure FoundSeverities where
  hot : ThrottlingSeverity
  hotHysteresis : ThrottlingSeverity
  cold : ThrottlingSeverity
  coldHysteresis : ThrottlingSeverity

/-- Only the first severity that is found counts. -/
def firstFound (found severity : ThrottlingSeverity) (reached : Bool) : ThrottlingSeverity :=
  if reached ∧ found = .none then severity else found

/-- One round of the loop over the thresholds. -/
def findSeverity (info : SensorInfo) (value : ExactFloat) (found : FoundSeverities)
    (severity : ThrottlingSeverity) : FoundSeverities :=
  let hot := info.hotThresholds severity
  let cold := info.coldThresholds severity
  { hot := firstFound found.hot severity (!hot.isNaN && hot ≤ value)
    hotHysteresis := firstFound found.hotHysteresis severity
      (!hot.isNaN && binary32.round (hot - info.hotHysteresis severity) < value)
    cold := firstFound found.cold severity (!cold.isNaN && value ≤ cold)
    coldHysteresis := firstFound found.coldHysteresis severity
      (!cold.isNaN && value < binary32.round (cold + info.coldHysteresis severity)) }

/-- The severities of the hot and the cold thresholds. The loop goes from the highest severity to
the lowest one above none; a severity falls only when the hysteresis has been left, too. -/
def getSeverityFromThresholds (info : SensorInfo) (prevHotSeverity prevColdSeverity : ThrottlingSeverity)
    (value : ExactFloat) : ThrottlingSeverity × ThrottlingSeverity :=
  let found := ([.shutdown, .emergency, .critical, .severe, .moderate, .light] :
    List ThrottlingSeverity).foldl (findSeverity info value) ⟨.none, .none, .none, .none⟩
  (if found.hot < prevHotSeverity then found.hotHysteresis else found.hot,
    if found.cold < prevColdSeverity then found.coldHysteresis else found.cold)

/-- The severity of a reading: the higher one of its own severities and of the severity of its
reference, unless a severity is emulated. -/
def throttlingStatusOf (hotAndCold : ThrottlingSeverity × ThrottlingSeverity)
    (severityReference : ThrottlingSeverity) (override : OverrideStatus) : ThrottlingSeverity :=
  match override.emulTemp with
  | some ⟨_, some severity⟩ => severity
  | _ => max (max hotAndCold.1 hotAndCold.2) severityReference

/-- The locked part of `readTemperature`: the severity of the sensor becomes that of the reading, and
a change is to be notified. -/
def updateSeverity (info : SensorInfo) (value : ExactFloat) (severityReference : ThrottlingSeverity)
    (status : SensorStatus) : SensorStatus × ThrottlingSeverity :=
  let hotAndCold := getSeverityFromThresholds info status.prevHotSeverity status.prevColdSeverity value
  let throttlingStatus := throttlingStatusOf hotAndCold severityReference status.overrideStatus
  ({ status with
      prevHotSeverity := hotAndCold.1
      prevColdSeverity := hotAndCold.2
      severity := throttlingStatus
      pendingNotification :=
        status.pendingNotification || decide (status.severity ≠ throttlingStatus) },
    throttlingStatus)

end HardwareMediatek.Thermal
