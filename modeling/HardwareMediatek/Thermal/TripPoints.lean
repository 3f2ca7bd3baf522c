import HardwareMediatek.Thermal.CoolingDevices
import HardwareMediatek.Thermal.SensorStatus

/-!
# Thermal zones of the physical sensors

The kernel names a thermal zone by its type. The temperature of a physical
sensor is read from the zone with the `ZoneName` of the sensor, or from a path
of its own. The trip points are programmed in the zone that has the name of
the sensor, and an event is taken to be for the sensor with the name that the
event gives, which is the type of its zone.
-/

namespace HardwareMediatek.Thermal

def kSensorTempSuffix : String := "temp"
def kSensorPolicyFile : String := "policy"
def kSensorTripPointTempZeroFile : String := "trip_point_0_temp"
def kSensorTripPointHystZeroFile : String := "trip_point_0_hyst"
def kUserSpaceSuffix : String := "user_space"

/-! ## Reading the temperature -/

/-- The loop of `initializeSensorMap`: the file of every physical sensor. -/
def initializeSensorMap (pathMap : UnorderedMap String String) :
    List SensorEntry → ThermalFiles → Option ThermalFiles
  | [], files => some files
  | ⟨sensorName, info⟩ :: rest, files =>
    if info.virtualSensorInfo.isSome then initializeSensorMap pathMap rest files
    else do
      let zone ← pathMap.lookup info.zoneName
      let files ← addThermalFile files sensorName
        (pathOr info.tempPath (zone ++ "/" ++ kSensorTempSuffix))
      initializeSensorMap pathMap rest files

/-! ## Programming the trip points -/

/-- `std::lround`, as text. -/
def lroundText (x : ExactFloat) : String :=
  match x with
  | .fin q => toString (max (-(2 ^ 63)) (min (2 ^ 63 - 1) (ExactFloat.roundHalfAway q)))
  | .posInf => toString (2 ^ 63 - 1 : ℤ)
  | .negInf => toString (-(2 ^ 63) : ℤ)
  | .nan => toString (0 : ℤ)

/-- `Trim` of the text of a file. -/
def trimText (text : String) : String :=
  String.ofList (((text.toList.dropWhile Numerals.isSpace).reverse.dropWhile
    Numerals.isSpace).reverse)

/-- The files that the trip points are programmed through, and whether writes to them succeed. -/
structure TripEnv where
  pathMap : UnorderedMap String String
  readFile : String → Option String
  writeSucceeds : String → String → Bool
  thermalGenlEnabled : Bool

/-- Changes of the trip points: the writes, the monitored sensors and the delays of the sensors. -/
structure TripState where
  sensorInfoMap : SensorInfoMap
  monitoredSensors : List String
  writes : List (String × String)

/-- A zone notifies through netlink, or when its policy leaves it to user space. -/
def supportsNotify (env : TripEnv) (zone : String) : Bool :=
  env.thermalGenlEnabled ||
    match env.readFile (zone ++ "/" ++ kSensorPolicyFile) with
    | some policy => trimText policy = kUserSpaceSuffix
    | none => false

/-- The writes for the first severity that has both a threshold and a hysteresis; none when there
is no such severity. -/
def tripWrites (zone : String) (info : SensorInfo) : Option (List (String × String)) :=
  (ThrottlingSeverity.all.find? fun severity ↦
    !(info.hotThresholds severity).isNaN && !(info.hotHysteresis severity).isNaN).map fun severity ↦
      [(zone ++ "/" ++ kSensorTripPointTempZeroFile,
          lroundText (info.hotThresholds severity / info.multiplier)),
        (zone ++ "/" ++ kSensorTripPointHystZeroFile,
          lroundText (info.hotHysteresis severity / info.multiplier))]

/-- `updateTripPointThreshold`: a failed write is accepted for an ignorable sensor. -/
def updateTripPointThreshold (env : TripEnv) (info : SensorInfo) (write : String × String) : Bool :=
  env.writeSucceeds write.1 write.2 || info.isTripPointIgnorable

/-- `setMinTimeout`. -/
def setMinTimeout (info : SensorInfo) : SensorInfo :=
  { info with pollingDelay := kMinPollIntervalMs, passiveDelay := kMinPollIntervalMs }

/-- The sensor is polled at the shortest interval unless all of its trip points are programmed. -/
def setTimeout (sensorName : String) (info : SensorInfo) (tripUpdate : Bool) (s : TripState) :
    TripState :=
  if tripUpdate then s
  else { s with sensorInfoMap := s.sensorInfoMap.assign sensorName (setMinTimeout info) }

/-- One round of `initializeTrip` for a watched physical sensor in the zone of its name. -/
def programTrip (env : TripEnv) (sensorName : String) (info : SensorInfo) (zone : String)
    (s : TripState) : TripState :=
  if supportsNotify env zone then
    let s := { s with monitoredSensors := sensorName :: s.monitoredSensors }
    match tripWrites zone info with
    | some writes =>
      setTimeout sensorName info (writes.all (updateTripPointThreshold env info))
        { s with writes := s.writes ++ writes }
    | none => setTimeout sensorName info false s
  else setTimeout sensorName info false s

def tripRound (env : TripEnv) (entry : SensorEntry) (s : TripState) :
    Checked TripState :=
  if !entry.2.isWatch || entry.2.virtualSensorInfo.isSome then .ok s
  else do
    let zone ← atKey env.pathMap entry.1
    pure (programTrip env entry.1 entry.2 zone s)

def initializeTrip (env : TripEnv) (sensorInfoMap : SensorInfoMap) : Checked TripState :=
  forEach (tripRound env) sensorInfoMap.entries ⟨sensorInfoMap, [], []⟩

/-! ## Receiving events -/

/-- What follows the first occurrence of a pattern in a text. -/
def findPast (pattern : List Char) : List Char → Option (List Char)
  | [] => if pattern = [] then some [] else none
  | c :: text =>
    if pattern.isPrefixOf (c :: text) then some ((c :: text).drop pattern.length)
    else findPast pattern text

/-- The strings of one uevent. Once a string of the thermal subsystem was met, in this or in an
earlier uevent, the first string with `NAME=` names the zone. -/
def scanUevent (monitoredSensors : List String) :
    List String → Bool × UnorderedMap String ExactFloat → Bool × UnorderedMap String ExactFloat
  | [], result => result
  | uevent :: rest, (false, sensorMap) =>
    if "SUBSYSTEM=".toList.isPrefixOf uevent.toList then
      if (findPast "SUBSYSTEM=thermal".toList uevent.toList).isSome then
        scanUevent monitoredSensors rest (true, sensorMap)
      else (false, sensorMap)
    else scanUevent monitoredSensors rest (false, sensorMap)
  | uevent :: rest, (true, sensorMap) =>
    match findPast "NAME=".toList uevent.toList with
    | some name =>
      (true,
        if String.ofList name ∈ monitoredSensors ∧ String.ofList name ∉ sensorMap then
          sensorMap.insert (String.ofList name) .nan
        else sensorMap)
    | none => scanUevent monitoredSensors rest (true, sensorMap)

/-- The sensors that the received uevents are for. -/
def parseUevent (monitoredSensors : List String) (uevents : List (List String)) :
    UnorderedMap String ExactFloat :=
  (uevents.foldl (fun result uevent ↦ scanUevent monitoredSensors uevent result) (false, ∅)).2

/-- The sensors that the received netlink events are for. Each event has the type of its zone and a
temperature. -/
def parseGenlink (monitoredSensors : List String) (events : List (String × ExactFloat)) :
    UnorderedMap String ExactFloat :=
  events.foldl (fun sensorMap event ↦
    if event.1 ∈ monitoredSensors ∧ event.1 ∉ sensorMap then sensorMap.insert event.1 event.2
    else sensorMap) ∅

end HardwareMediatek.Thermal
