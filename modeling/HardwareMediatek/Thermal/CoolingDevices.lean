import HardwareMediatek.Thermal.ThrottlingRun

/-!
# Cooling devices and their files

A cooling device takes its table of powers per state from the configuration or
from sysfs. Its greatest state comes from a file of its own, unless it is a
power cap, whose greatest state is the last index of the table. The ceilings
of all bindings are then cut down to that state. What the sensors request is
written to the device as a state, or for a power cap as the power of the state.
-/

namespace HardwareMediatek.Thermal

open Numerals

/-! ## Numbers in files -/

/-- The next integer of a stream, and what follows it. -/
def readNumber (text : List Char) : Option (ℤ × List Char) :=
  let (negative, rest) := sign (text.dropWhile isSpace)
  let (value, count, rest) := digits 10 rest 0 0
  if count = 0 then none
  else some (if negative then -(value : ℤ) else value, rest)

/-- The loop `while (stream >> number)`. It ends at the first token that is no number or does not
fit, and after at most one number for each character. -/
def readNumbers (convert : ℤ → Option ℤ) : ℕ → List Char → List ℤ
  | 0, _ => []
  | fuel + 1, text =>
    match readNumber text with
    | none => []
    | some (number, rest) =>
      match convert number with
      | none => []
      | some n => n :: readNumbers convert fuel rest

/-- `stream >> power_number` for an `unsigned int` that is then used as an `int`. -/
def unsignedNumbers (text : String) : List ℤ :=
  readNumbers (fun n ↦ if |n| ≤ 4294967295 then some (wrapInt n) else none) text.length text.toList

/-- `stream >> power_number` for an `int`. -/
def signedNumbers (text : String) : List ℤ :=
  readNumbers (fun n ↦ if intMin ≤ n ∧ n ≤ intMax then some n else none) text.length text.toList

/-- `std::atoi`; the value of a number that does not fit is its low 32 bits. -/
def atoi (text : String) : ℤ := wrapInt ((readNumber text.toList).elim 0 Prod.fst)

/-- `std::lround`, followed by the conversion to `int`. -/
def lround (x : ExactFloat) : ℤ :=
  match x with
  | .fin q => wrapInt (max (-(2 ^ 63)) (min (2 ^ 63 - 1) (ExactFloat.roundHalfAway q)))
  | .posInf => wrapInt (2 ^ 63 - 1)
  | .negInf => wrapInt (-(2 ^ 63))
  | .nan => 0

/-! ## Initialization -/

def kCoolingDeviceCurStateSuffix : String := "cur_state"
def kCoolingDeviceMaxStateSuffix : String := "max_state"
def kCoolingDeviceState2powerSuffix : String := "state2power_table"
def kPowerCapState2powerSuffix : String := "power_levels_uw"
def kPowerCapCurBudgetSuffix : String := "constraint_0_power_limit_uw"

/-- The names of files in sysfs, by the name they are read and written under. -/
abbrev ThermalFiles := UnorderedMap String String

/-- A name that is taken already is refused. -/
def addThermalFile (files : ThermalFiles) (thermalName path : String) : Option ThermalFiles :=
  if thermalName ∈ files then none else some (files.insert thermalName path)

/-- The power table: the configured one, or else the numbers of a file. -/
def powersFromFile (state2power : List ExactFloat) (content : Option String)
    (powers : String → List ExactFloat) : List ExactFloat :=
  if state2power.length ≠ 0 then state2power
  else
    match content with
    | some text => powers text
    | none => state2power

/-- The first text, or the second when it is empty. -/
def pathOr (path default : String) : String := if path ≠ "" then path else default

/-- `initializeCoolingDeviceEntry`. A power table that does not fit the greatest state is only
logged, and so is a table that is not decreasing. -/
def initializeCoolingDeviceEntry (readFile : String → Option String)
    (pathMap : UnorderedMap String String) (name : String) (cdevInfo : CdevInfo)
    (coolingDevices : ThermalFiles) : Option (CdevInfo × ThermalFiles) := do
  let path ← pathMap.lookup name
  let curStatePath := path ++ "/" ++ kCoolingDeviceCurStateSuffix
  let coolingDevices ← addThermalFile coolingDevices name (pathOr cdevInfo.readPath curStatePath)
  let state2power := powersFromFile cdevInfo.state2power
    (readFile (path ++ "/" ++ kCoolingDeviceState2powerSuffix)) fun text ↦
      (unsignedNumbers text).map fun power ↦ ExactFloat.ofInt power * cdevInfo.multiplier
  let maxState :=
    match readFile (path ++ "/" ++ kCoolingDeviceMaxStateSuffix) with
    | none => intMax
    | some text => atoi text
  let coolingDevices ← addThermalFile coolingDevices (name ++ "_w")
    (pathOr cdevInfo.writePath curStatePath)
  some ({ cdevInfo with state2power := state2power, maxState := maxState }, coolingDevices)

/-- Some state of the table has more power than the state before. -/
def hasHigherPower : List ExactFloat → Bool
  | power :: power' :: rest => decide (power < power') || hasHigherPower (power' :: rest)
  | _ => false

/-- `initializePowercapEntry`. The greatest state is the size of the table minus one, so it is
`-1` for an empty table. -/
def initializePowercapEntry (readFile : String → Option String)
    (pathMap : UnorderedMap String String) (name : String) (cdevInfo : CdevInfo)
    (coolingDevices : ThermalFiles) : Option (CdevInfo × ThermalFiles) := do
  let rootPath ← pathMap.lookup name
  let powercapPath := rootPath ++ "/" ++ kPowerCapCurBudgetSuffix
  let coolingDevices ← addThermalFile coolingDevices name powercapPath
  let coolingDevices ← addThermalFile coolingDevices (name ++ "_w")
    (pathOr cdevInfo.writePath powercapPath)
  let content := readFile (rootPath ++ "/" ++ kPowerCapState2powerSuffix)
  if cdevInfo.state2power.length = 0 ∧ content.isNone then none
  else
    let state2power := powersFromFile cdevInfo.state2power content fun text ↦
      (signedNumbers text).map fun power ↦
        ExactFloat.ofInt (toInt (ExactFloat.ofInt power * cdevInfo.multiplier))
    if hasHigherPower state2power then none
    else
      some ({ cdevInfo with
        state2power := state2power
        maxState := (state2power.length : ℤ) - 1 }, coolingDevices)

/-- The sysfs paths of the two kinds of devices, and the contents of the files. -/
structure CdevSysfs where
  readFile : String → Option String
  cdevMap : UnorderedMap String String
  powercapMap : UnorderedMap String String

def initializeEntry (sysfs : CdevSysfs) (name : String) (cdevInfo : CdevInfo)
    (coolingDevices : ThermalFiles) : Option (CdevInfo × ThermalFiles) :=
  if cdevInfo.applyPowercap then
    initializePowercapEntry sysfs.readFile sysfs.powercapMap name cdevInfo coolingDevices
  else initializeCoolingDeviceEntry sysfs.readFile sysfs.cdevMap name cdevInfo coolingDevices

/-- The loop of `initializeThrottlingMap`: the devices that are initialized, in place. -/
def initializeEntries (sysfs : CdevSysfs) :
    List (Sigma fun _ : String ↦ CdevInfo) → CdevInfoMap × ThermalFiles →
      Option (CdevInfoMap × ThermalFiles)
  | [], result => some result
  | ⟨name, cdevInfo⟩ :: rest, (cdevInfoMap, coolingDevices) =>
    match initializeEntry sysfs name cdevInfo coolingDevices with
    | none => none
    | some (cdevInfo, coolingDevices) =>
      initializeEntries sysfs rest (cdevInfoMap.assign name cdevInfo, coolingDevices)

def initializeThrottlingMap (sysfs : CdevSysfs) (coolingDeviceInfoMap : CdevInfoMap) :
    Option (CdevInfoMap × ThermalFiles) :=
  initializeEntries sysfs coolingDeviceInfoMap.entries (coolingDeviceInfoMap, ∅)

/-! ## Ceilings -/

def capCeilings (cdevInfo : CdevInfo) (binding : BindedCdevInfo) : BindedCdevInfo :=
  { binding with
    cdevCeiling := fun severity ↦
      if binding.cdevCeiling severity > cdevInfo.maxState then cdevInfo.maxState
      else binding.cdevCeiling severity }

def capBinding (coolingDeviceInfoMap : CdevInfoMap) (cdevName : String) (binding : BindedCdevInfo) :
    Checked BindedCdevInfo := do
  let cdevInfo ← atKey coolingDeviceInfoMap cdevName
  pure (capCeilings cdevInfo binding)

/-- Ceilings above the greatest state of a device are cut down to it. -/
def maxCoolingRequestCheck (coolingDeviceInfoMap : CdevInfoMap) (bindings : BindedCdevInfoMap) :
    Checked BindedCdevInfoMap :=
  assignEach (capBinding coolingDeviceInfoMap) bindings

/-- The check of the default binding and of the binding of every profile. -/
def checkCeilings (coolingDeviceInfoMap : CdevInfoMap) (info : ThrottlingInfo) :
    Checked ThrottlingInfo := do
  let bindings ← maxCoolingRequestCheck coolingDeviceInfoMap info.bindedCdevInfoMap
  let profiles ← assignEach (fun _ ↦ maxCoolingRequestCheck coolingDeviceInfoMap) info.profileMap
  pure { info with bindedCdevInfoMap := bindings, profileMap := profiles }

/-! ## Writing requests -/

/-- An attempt to write to a cooling device: the state that is meant, the number that is written,
and whether the write succeeded. -/
structure CdevWrite where
  cdev : String
  state : ℤ
  request : ℤ
  succeeded : Bool
deriving DecidableEq, Repr

/-- The number that stands for a state of a device. -/
def cdevRequest (cdevInfo : CdevInfo) (state : ℤ) : Checked ℤ :=
  if cdevInfo.applyPowercap then do
    let power ← atIndex cdevInfo.state2power state
    pure (lround (power / cdevInfo.multiplier))
  else .ok state

/-- One round of `updateCoolingDevices`. The writes are kept with the latest first, and `outcome`
tells which write of the call succeeds. -/
def updateCoolingDevice (coolingDeviceInfoMap : CdevInfoMap) (votes : CdevAllRequestMap)
    (outcome : ℕ → Bool) (targetCdev : String) (writes : List CdevWrite) :
    Checked (List CdevWrite) := do
  let cdevInfo ← atKey coolingDeviceInfoMap targetCdev
  match ← getCdevMaxRequest votes targetCdev with
  | none => pure writes
  | some maxState =>
    let request ← cdevRequest cdevInfo maxState
    pure (⟨targetCdev, maxState, request, outcome writes.length⟩ :: writes)

/-- Write the aggregated request of every device of the list; a write that fails is logged. -/
def updateCoolingDevices (coolingDeviceInfoMap : CdevInfoMap) (votes : CdevAllRequestMap)
    (outcome : ℕ → Bool) (updatedCdev : List String) : Checked (List CdevWrite) :=
  forEach (updateCoolingDevice coolingDeviceInfoMap votes outcome) updatedCdev []

/-- The number that `clearAllThrottling` writes to a device. -/
def clearRequest (cdevInfo : CdevInfo) : Checked ℤ := cdevRequest cdevInfo 0

/-- The writes of `clearAllThrottling`, one for every device. -/
def clearAllThrottling (coolingDeviceInfoMap : CdevInfoMap) : Checked (List (String × ℤ)) :=
  forEach (fun pair requests ↦ do
    let request ← clearRequest pair.2
    pure (requests ++ [(pair.1, request)])) coolingDeviceInfoMap.entries []

end HardwareMediatek.Thermal
