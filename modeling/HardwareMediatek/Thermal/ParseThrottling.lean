import HardwareMediatek.Foundation.Json
import HardwareMediatek.Thermal.ThrottlingRun

/-!
# Parsing the throttling of a sensor

The settings of the PID algorithm, of the cooling devices a sensor is bound
to, and of its throttling profiles. A parser either returns a value, or
refuses (it logs an error and returns `false`), or ends the process: by a
fatal log, or because a value does not have the JSON type it is read as.

Log texts are left out, since nothing reads them.
-/

namespace HardwareMediatek.Thermal

/-- How a parser ends without a value. -/
inductive ParseEnd where
  | refused
  | aborted
deriving DecidableEq, Repr

abbrev Parsing := Except ParseEnd

/-- A value that the JSON library may fail to deliver. -/
def read {α : Type} : Option α → Parsing α
  | some x => .ok x
  | none => .error .aborted

theorem read_eq_ok {α : Type} {result : Option α} {x : α} : read result = .ok x ↔ result = some x := by
  cases result <;> simp [read]

/-- `if (!condition) return false`. -/
def check (condition : Bool) : Parsing Unit := if condition then .ok () else .error .refused

theorem check_eq_ok {condition : Bool} : check condition = .ok () ↔ condition = true := by
  cases condition <;> simp [check]

/-- `value[key].asString()`. -/
def getString (key : String) (value : Json) : Parsing String := do
  let member ← read (value.get key)
  read member.asString

/-- `value[key].asBool()`. -/
def getBool (key : String) (value : Json) : Parsing Bool := do
  let member ← read (value.get key)
  read member.asBool

/-! ## Values for every severity -/

def kThrottlingSeverityCount : ℕ := 7

def getFloatFromValue (value : Json) : Parsing ExactFloat :=
  if value.isString then do
    let text ← read value.asString
    pure (binary32.round (binary64.round (atof text)))
  else read value.asFloat

theorem round_of_getFloatFromValue {value : Json} {x : ExactFloat}
    (hx : getFloatFromValue value = .ok x) : binary32.round x = x := by
  unfold getFloatFromValue at hx
  split_ifs at hx
  · obtain ⟨text, -, htext⟩ := bind_eq_ok.mp hx
    rw [← Except.ok.inj htext]
    exact binary32.round_round (by decide) _
  · exact Json.round_of_asFloat (read_eq_ok.mp hx)

theorem getFloatFromValue_int {n : ℤ} (hn : |n| < 2 ^ 24) :
    getFloatFromValue (.int n) = .ok (ExactFloat.ofInt n) :=
  congrArg Except.ok (round_binary32_ofInt hn)

/-- A text other than `max` is read as an unsigned number and then converted to `int`. -/
def getIntFromValue (value : Json) : Parsing ℤ :=
  if value.isString then do
    let text ← read value.asString
    if text = "max" then pure intMax
    else do
      let number ← read (stoul text)
      pure (wrapInt number)
  else read value.asInt

/-- The loop of `getIntFromJsonValues`. An entry out of order is fatal. -/
def intEntries (values : Json) (incCheck decCheck : Bool) :
    List ThrottlingSeverity → ℤ → CdevArray → Parsing CdevArray
  | [], _, ret => .ok ret
  | severity :: rest, last, ret => do
    let value ← read (values.at? severity.toNat)
    let entry ← getIntFromValue value
    if incCheck && entry < last || decCheck && last < entry then .error .aborted
    else intEntries values incCheck decCheck rest entry (Function.update ret severity entry)

def getIntFromJsonValues (values : Json) (incCheck decCheck : Bool) : Parsing CdevArray :=
  if incCheck && decCheck || values.size ≠ kThrottlingSeverityCount then .error .refused
  else
    intEntries values incCheck decCheck ThrottlingSeverity.all (if incCheck then intMin else intMax)
      fun _ ↦ 0

/-- The loop of `getFloatFromJsonValues`. An entry that is not a number is not compared. -/
def floatEntries (values : Json) (incCheck decCheck : Bool) :
    List ThrottlingSeverity → ExactFloat → ThrottlingArray → Parsing ThrottlingArray
  | [], _, ret => .ok ret
  | severity :: rest, last, ret => do
    let value ← read (values.at? severity.toNat)
    let entry ← getFloatFromValue value
    if incCheck && entry < last || decCheck && last < entry then .error .aborted
    else
      floatEntries values incCheck decCheck rest (if entry.isNaN then last else entry)
        (Function.update ret severity entry)

def getFloatFromJsonValues (values : Json) (incCheck decCheck : Bool) : Parsing ThrottlingArray :=
  if incCheck && decCheck || values.size ≠ kThrottlingSeverityCount then .error .refused
  else
    floatEntries values incCheck decCheck ThrottlingSeverity.all ExactFloat.nan unsetArray

/-- `if (!value[key].empty()) parse(value[key])`, with a default. -/
def parseUnlessEmpty {α : Type} (key : String) (value : Json) (default : α)
    (parse : Json → Parsing α) : Parsing α := do
  let member ← read (value.get key)
  if member.empty then pure default else parse member

/-- `if (value[key].size()) parse(value[key])`, with a default. -/
def parseIfSized {α : Type} (key : String) (value : Json) (default : α)
    (parse : Json → Parsing α) : Parsing α := do
  let member ← read (value.get key)
  if member.size ≠ 0 then parse member else pure default

/-- Both members are configured. -/
def bothConfigured (key key' : String) (value : Json) : Parsing Bool := do
  let member ← read (value.get key)
  let member' ← read (value.get key')
  pure (!member.empty && !member'.empty)

/-! ## Bound cooling devices -/

/-- The available frequencies of the cooling devices that list them, in decreasing order. -/
abbrev ScalingFrequencyMap := UnorderedMap String (List ℤ)

/-- The first state whose frequency is not above the limit of a severity, for one severity after
the other. -/
def searchStates (limits : CdevArray) (frequencies : List ℤ) (index : ℤ)
    (severities : List ThrottlingSeverity) (states : CdevArray) : CdevArray :=
  match frequencies, severities with
  | frequency :: slower, severity :: rest =>
    if frequency ≤ limits severity then
      searchStates limits (frequency :: slower) index rest (Function.update states severity index)
    else searchStates limits slower (index + 1) (severity :: rest) states
  | _, _ => states
termination_by frequencies.length + severities.length

/-- The states that belong to configured frequencies; a severity whose frequency is below all
available ones keeps its value. -/
def parseFrequencies (scalingFrequencyMap : ScalingFrequencyMap) (cdevName : String)
    (states : CdevArray) (value : Json) : Parsing CdevArray :=
  match scalingFrequencyMap.lookup cdevName with
  | none => .error .refused
  | some frequencies => do
    let limits ← getIntFromJsonValues value false true
    pure (searchStates limits frequencies 0 ThrottlingSeverity.all states)

/-- A step may not be negative. -/
def parseStep (value : Json) : Parsing ℤ := do
  let step ← getIntFromValue value
  check (0 ≤ step)
  pure step

/-- What a binding configures for the PID algorithm. -/
structure PidBinding where
  cdevWeightForPid : ThrottlingArray
  cdevCeiling : CdevArray
  maxReleaseStep : ℤ
  maxThrottleStep : ℤ

def parsePidBinding (scalingFrequencyMap : ScalingFrequencyMap) (cdevName : String)
    (value : Json) : Parsing PidBinding := do
  let weights ← parseUnlessEmpty "CdevWeightForPID" value unsetArray
    (getFloatFromJsonValues · false false)
  let both ← bothConfigured "CdevCeiling" "CdevCeilingFrequency" value
  check !both
  let ceiling ← parseUnlessEmpty "CdevCeiling" value (fun _ ↦ intMax)
    (getIntFromJsonValues · false false)
  let ceiling ← parseUnlessEmpty "CdevCeilingFrequency" value ceiling
    (parseFrequencies scalingFrequencyMap cdevName ceiling)
  let maxReleaseStep ← parseUnlessEmpty "MaxReleaseStep" value intMax parseStep
  let maxThrottleStep ← parseUnlessEmpty "MaxThrottleStep" value intMax parseStep
  pure ⟨weights, ceiling, maxReleaseStep, maxThrottleStep⟩

/-- Without PID parameters a binding configures nothing for the algorithm. -/
def noPidBinding : PidBinding := ⟨unsetArray, fun _ ↦ intMax, intMax, intMax⟩

/-- The limit of a binding, and whether there is one. -/
def parseLimit (scalingFrequencyMap : ScalingFrequencyMap) (cdevName : String) (value : Json) :
    Parsing (CdevArray × Bool) := do
  let both ← bothConfigured "LimitInfo" "LimitInfoFrequency" value
  check !both
  let (limit, limited) ← parseUnlessEmpty "LimitInfo" value ((fun _ ↦ 0 : CdevArray), false)
    fun member ↦ do
      let limit ← getIntFromJsonValues member false false
      pure (limit, true)
  parseUnlessEmpty "LimitInfoFrequency" value (limit, limited) fun member ↦ do
    let limit ← parseFrequencies scalingFrequencyMap cdevName limit member
    pure (limit, true)

def releaseLogicOf (text : String) : Option ReleaseLogic :=
  if text = "INCREASE" then some .increase
  else if text = "DECREASE" then some .decrease
  else if text = "STEPWISE" then some .stepwise
  else if text = "RELEASE_TO_FLOOR" then some .releaseToFloor
  else none

/-- What a binding configures for the power rail of the device. -/
structure PowerBinding where
  powerRail : String
  highPowerCheck : Bool
  throttlingWithPowerLink : Bool
  cdevFloorWithPowerLink : CdevArray
  powerThresholds : ThrottlingArray
  releaseLogic : ReleaseLogic

/-- Without power links a binding configures nothing for a rail. -/
def noPowerBinding : PowerBinding := ⟨"", false, false, fun _ ↦ 0, unsetArray, .none⟩

/-- Power thresholds come with a release logic. -/
def parseThresholds (value member : Json) : Parsing (ThrottlingArray × ReleaseLogic) := do
  let thresholds ← getFloatFromJsonValues member false false
  let text ← getString "ReleaseLogic" value
  match releaseLogicOf text with
  | some releaseLogic => pure (thresholds, releaseLogic)
  | none => .error .refused

def parsePowerBinding (value : Json) : Parsing PowerBinding := do
  let powerRail ← getString "BindedPowerRail" value
  let highPowerCheck ← getBool "HighPowerCheck" value
  let throttlingWithPowerLink ← getBool "ThrottlingWithPowerLink" value
  let floor ← parseIfSized "CdevFloorWithPowerLink" value (fun _ ↦ 0)
    (getIntFromJsonValues · false false)
  let (thresholds, releaseLogic) ← parseIfSized "PowerThreshold" value (unsetArray, ReleaseLogic.none)
    (parseThresholds value)
  pure ⟨powerRail, highPowerCheck, throttlingWithPowerLink, floor, thresholds, releaseLogic⟩

/-- The power links can be switched off by a property. -/
def parsePowerLink (powerLinkDisabled : Bool) (value : Json) : Parsing PowerBinding :=
  if powerLinkDisabled then pure noPowerBinding else parsePowerBinding value

/-- What the parsers of bindings are called with: whether the sensor has PID parameters, whether the
power links are switched off by a property, the frequencies and the cooling devices. -/
structure BindingContext where
  supportPid : Bool
  powerLinkDisabled : Bool
  scalingFrequencyMap : ScalingFrequencyMap
  coolingDeviceInfoMap : CdevInfoMap

/-- The bindings so far, and whether a hard limit was met. -/
structure BindingState where
  bindedCdevInfoMap : BindedCdevInfoMap
  supportHardLimit : Bool

/-- The end of a round: the rail of the device, and whether it is switched off. -/
def finishBinding (context : BindingContext) (cdevName : String) (value : Json) (pid : PidBinding)
    (limit : CdevArray) (s : BindingState) : Parsing BindingState := do
  let power ← parsePowerLink context.powerLinkDisabled value
  let disabled ← getBool "Disabled" value
  pure { s with
    bindedCdevInfoMap := s.bindedCdevInfoMap.put cdevName
      { limitInfo := limit
        powerThresholds := power.powerThresholds
        releaseLogic := power.releaseLogic
        cdevWeightForPid := pid.cdevWeightForPid
        cdevCeiling := pid.cdevCeiling
        maxReleaseStep := pid.maxReleaseStep
        maxThrottleStep := pid.maxThrottleStep
        cdevFloorWithPowerLink := power.cdevFloorWithPowerLink
        powerRail := power.powerRail
        highPowerCheck := power.highPowerCheck
        throttlingWithPowerLink := power.throttlingWithPowerLink
        enabled := !disabled } }

/-- A part of a round that refuses clears the bindings; what it has found out about hard limits
stays. -/
def orClear {α : Type} (s : BindingState) (result : Parsing α)
    (next : α → Parsing (BindingState × Bool)) : Parsing (BindingState × Bool) :=
  match result with
  | .ok x => next x
  | .error .refused => .ok ({ s with bindedCdevInfoMap := ∅ }, false)
  | .error .aborted => .error .aborted

/-- The loop of `ParseBindedCdevInfo`, and whether it was completed. An unknown device ends it
without clearing the bindings. -/
def parseBindings (context : BindingContext) :
    List Json → BindingState → Parsing (BindingState × Bool)
  | [], s => .ok (s, true)
  | value :: rest, s => do
    let cdevName ← getString "CdevRequest" value
    if cdevName ∉ context.coolingDeviceInfoMap then pure (s, false)
    else
      orClear s (if context.supportPid then parsePidBinding context.scalingFrequencyMap cdevName value
        else pure noPidBinding) fun pid ↦
        orClear s (parseLimit context.scalingFrequencyMap cdevName value) fun (limit, limited) ↦
          let s := { s with supportHardLimit := s.supportHardLimit || limited }
          orClear s (finishBinding context cdevName value pid limit s) (parseBindings context rest)

def parseBindedCdevInfo (context : BindingContext) (values : Json) (supportHardLimit : Bool) :
    Parsing (BindingState × Bool) := do
  let items ← read values.items
  parseBindings context items ⟨∅, supportHardLimit⟩

/-! ## PID parameters -/

/-- The parameters of the PID algorithm, with their values when there is no PID algorithm. -/
structure PidInfo where
  kPo : ThrottlingArray
  kPu : ThrottlingArray
  kIo : ThrottlingArray
  kIu : ThrottlingArray
  kD : ThrottlingArray
  iMax : ThrottlingArray
  maxAllocPower : ThrottlingArray
  minAllocPower : ThrottlingArray
  sPower : ThrottlingArray
  iCutoff : ThrottlingArray
  iDefault : ExactFloat
  iDefaultPct : ExactFloat
  tranCycle : ℤ

def noPidInfo : PidInfo where
  kPo := fun _ ↦ 0
  kPu := fun _ ↦ 0
  kIo := fun _ ↦ 0
  kIu := fun _ ↦ 0
  kD := fun _ ↦ 0
  iMax := unsetArray
  maxAllocPower := unsetArray
  minAllocPower := unsetArray
  sPower := unsetArray
  iCutoff := unsetArray
  iDefault := 0
  iDefaultPct := .nan
  tranCycle := 0

/-- A parameter that must be configured. -/
def requiredFloats (key : String) (decCheck : Bool) (pidInfo : Json) : Parsing ThrottlingArray := do
  let member ← read (pidInfo.get key)
  if member.empty then .error .refused else getFloatFromJsonValues member false decCheck

/-- `K_I` for both directions of the error, or one parameter for each. -/
def parseIntegralGains (pidInfo : Json) : Parsing (ThrottlingArray × ThrottlingArray) := do
  let kI ← read (pidInfo.get "K_I")
  let kIo ← read (pidInfo.get "K_Io")
  let kIu ← read (pidInfo.get "K_Iu")
  if !kI.empty then
    check (kIo.empty && kIu.empty)
    let gain ← getFloatFromJsonValues kI false false
    pure (gain, gain)
  else if !kIo.empty && !kIu.empty then do
    let overGain ← getFloatFromJsonValues kIo false false
    let underGain ← getFloatFromJsonValues kIu false false
    pure (overGain, underGain)
  else .error .refused

/-- The default of the integral term: a number, or a percentage. -/
def parseDefault (pidInfo : Json) : Parsing (ExactFloat × ExactFloat) := do
  let iDefault ← read (pidInfo.get "I_Default")
  let iDefaultPct ← read (pidInfo.get "I_Default_Pct")
  if !iDefault.empty && !iDefaultPct.empty then .error .refused
  else if !iDefault.empty then do
    let value ← getFloatFromValue iDefault
    pure (value, .nan)
  else if !iDefaultPct.empty then do
    let value ← getFloatFromValue iDefaultPct
    pure (0, value)
  else pure (0, .nan)

/-- Every other parameter is a number at this severity. -/
def PidInfo.completeAt (pid : PidInfo) (severity : ThrottlingSeverity) : Bool :=
  [pid.kPo, pid.kPu, pid.kIo, pid.kIu, pid.kD, pid.iMax, pid.maxAllocPower, pid.minAllocPower,
    pid.iCutoff].all fun parameter ↦ !(parameter severity).isNaN

/-- The loop that looks for a valid combination of parameters: it ends at a severity with a power
but without some other parameter. -/
def PidInfo.validCombination (pid : PidInfo) : List ThrottlingSeverity → Bool → Bool
  | [], valid => valid
  | severity :: rest, valid =>
    if (pid.sPower severity).isNaN then pid.validCombination rest valid
    else if pid.completeAt severity then pid.validCombination rest true
    else false

def parsePidInfo (pidInfo : Json) : Parsing PidInfo := do
  let kPo ← requiredFloats "K_Po" false pidInfo
  let kPu ← requiredFloats "K_Pu" false pidInfo
  let (kIo, kIu) ← parseIntegralGains pidInfo
  let kD ← requiredFloats "K_D" false pidInfo
  let iMax ← requiredFloats "I_Max" false pidInfo
  let maxAllocPower ← requiredFloats "MaxAllocPower" true pidInfo
  let minAllocPower ← requiredFloats "MinAllocPower" true pidInfo
  let sPower ← requiredFloats "S_Power" true pidInfo
  let iCutoff ← requiredFloats "I_Cutoff" false pidInfo
  let (iDefault, iDefaultPct) ← parseDefault pidInfo
  let tranCycle ← read (pidInfo.get "TranCycle")
  let tranCycle ← getFloatFromValue tranCycle
  let pid : PidInfo :=
    { kPo := kPo
      kPu := kPu
      kIo := kIo
      kIu := kIu
      kD := kD
      iMax := iMax
      maxAllocPower := maxAllocPower
      minAllocPower := minAllocPower
      sPower := sPower
      iCutoff := iCutoff
      iDefault := iDefault
      iDefaultPct := iDefaultPct
      tranCycle := toInt tranCycle }
  check (pid.validCombination ThrottlingSeverity.all false)
  pure pid

/-- The parameters, if the sensor has any. -/
def parsePid (pidInfo : Json) : Parsing PidInfo :=
  if pidInfo.empty then pure noPidInfo else parsePidInfo pidInfo

/-! ## Throttling -/

/-- A profile binds as many devices as the default binding, each of them bound there with the same
power rail. -/
def profileMatches (bindings profile : BindedCdevInfoMap) : Bool :=
  bindings.entries.length = profile.entries.length &&
    profile.entries.all fun pair ↦
      match bindings.lookup pair.1 with
      | some binding => pair.2.powerRail = binding.powerRail
      | none => false

/-- The loop over the profiles. A profile whose bindings are refused is checked with the bindings
that are left. -/
def parseProfiles (context : BindingContext) (bindings : BindedCdevInfoMap) :
    List Json → ProfileMap × Bool → Parsing (ProfileMap × Bool)
  | [], result => .ok result
  | value :: rest, (profileMap, supportHardLimit) => do
    let mode ← getString "Mode" value
    let values ← read (value.get "BindedCdevInfo")
    let (s, _) ← parseBindedCdevInfo context values supportHardLimit
    if profileMatches bindings s.bindedCdevInfoMap then
      parseProfiles context bindings rest (profileMap.put mode s.bindedCdevInfoMap, s.supportHardLimit)
    else .error .refused

/-- The loop over the rails whose power is excluded from the budget. -/
def parseExcludedPower :
    List Json → UnorderedMap String ThrottlingArray → Parsing (UnorderedMap String ThrottlingArray)
  | [], excluded => .ok excluded
  | value :: rest, excluded => do
    let powerRail ← getString "PowerRail" value
    check (powerRail ≠ "")
    let weights ← parseUnlessEmpty "PowerWeight" value (fun _ ↦ 1)
      (getFloatFromJsonValues · false false)
    parseExcludedPower rest (excluded.put powerRail weights)

/-- The throttling of a sensor, and whether it has any. -/
def parseSensorThrottlingInfo (powerLinkDisabled : Bool) (scalingFrequencyMap : ScalingFrequencyMap)
    (coolingDeviceInfoMap : CdevInfoMap) (sensor : Json) : Parsing (ThrottlingInfo × Bool) := do
  let pidInfo ← read (sensor.get "PIDInfo")
  let pid ← parsePid pidInfo
  let context : BindingContext :=
    ⟨!pidInfo.empty, powerLinkDisabled, scalingFrequencyMap, coolingDeviceInfoMap⟩
  let values ← read (sensor.get "BindedCdevInfo")
  let (s, completed) ← parseBindedCdevInfo context values false
  check completed
  let profiles ← read (sensor.get "Profile")
  let profiles ← read profiles.items
  let (profileMap, supportHardLimit) ←
    parseProfiles context s.bindedCdevInfoMap profiles (∅, s.supportHardLimit)
  let excluded ← read (sensor.get "ExcludedPowerInfo")
  let excluded ← read excluded.items
  let excludedPowerInfoMap ← parseExcludedPower excluded ∅
  pure ({
    kPo := pid.kPo
    kPu := pid.kPu
    kIo := pid.kIo
    kIu := pid.kIu
    kD := pid.kD
    iMax := pid.iMax
    maxAllocPower := pid.maxAllocPower
    minAllocPower := pid.minAllocPower
    sPower := pid.sPower
    iCutoff := pid.iCutoff
    iDefault := pid.iDefault
    iDefaultPct := pid.iDefaultPct
    tranCycle := pid.tranCycle
    excludedPowerInfoMap := excludedPowerInfoMap
    bindedCdevInfoMap := s.bindedCdevInfoMap
    profileMap := profileMap }, !pidInfo.empty || supportHardLimit)

/-! ## What is accepted -/

section Accepted

theorem profileMatches_mem {bindings profile : BindedCdevInfoMap}
    (h : profileMatches bindings profile = true) (cdev : String) :
    cdev ∈ profile ↔ cdev ∈ bindings := by
  simp only [profileMatches, Bool.and_eq_true, decide_eq_true_eq, List.all_eq_true] at h
  obtain ⟨hlength, hbound⟩ := h
  have hsubset : profile.keys ⊆ bindings.keys := by
    intro cdev hcdev
    obtain ⟨binding, hlookup⟩ := UnorderedMap.mem_iff_lookup.mp (AList.mem_keys.mpr hcdev)
    have hmatch := hbound ⟨cdev, binding⟩ (UnorderedMap.mem_entries_iff.mpr hlookup)
    cases hdefault : bindings.lookup cdev with
    | none => simp [hdefault] at hmatch
    | some _ => exact AList.mem_keys.mp (UnorderedMap.mem_of_lookup hdefault)
  have hperm : profile.keys.Perm bindings.keys := by
    apply (List.subperm_of_subset profile.nodupKeys hsubset).perm_of_length_le
    simp only [AList.keys, List.keys, List.length_map]
    exact hlength.le
  rw [AList.mem_keys, AList.mem_keys, hperm.mem_iff]

theorem parseProfiles_match {context : BindingContext} {bindings : BindedCdevInfoMap}
    {values : List Json} {result result' : ProfileMap × Bool}
    (h : parseProfiles context bindings values result = .ok result')
    (hmatch : ∀ profile bound, result.1.lookup profile = some bound →
      ∀ cdev, cdev ∈ bound ↔ cdev ∈ bindings) :
    ∀ profile bound, result'.1.lookup profile = some bound →
      ∀ cdev, cdev ∈ bound ↔ cdev ∈ bindings := by
  induction values generalizing result with
  | nil =>
    obtain rfl := Except.ok.inj h
    exact hmatch
  | cons value rest ih =>
    obtain ⟨mode, -, h⟩ := bind_eq_ok.mp h
    obtain ⟨items, -, h⟩ := bind_eq_ok.mp h
    obtain ⟨⟨s, completed⟩, -, h⟩ := bind_eq_ok.mp h
    dsimp only at h
    split at h
    · rename_i hprofile
      apply ih h
      intro profile bound hlookup
      rw [UnorderedMap.lookup_put] at hlookup
      split at hlookup
      · obtain rfl := Option.some.inj hlookup
        exact profileMatches_mem hprofile
      · exact hmatch profile bound hlookup
    · cases h

/-- The profiles of a sensor that is accepted bind the devices of its default binding. -/
theorem parseSensorThrottlingInfo_profiles {powerLinkDisabled : Bool}
    {scalingFrequencyMap : ScalingFrequencyMap} {coolingDeviceInfoMap : CdevInfoMap} {sensor : Json}
    {info : ThrottlingInfo} {supported : Bool}
    (h : parseSensorThrottlingInfo powerLinkDisabled scalingFrequencyMap coolingDeviceInfoMap sensor =
      .ok (info, supported)) : info.ProfilesMatchDefault := by
  unfold parseSensorThrottlingInfo at h
  obtain ⟨pidInfo, -, h⟩ := bind_eq_ok.mp h
  obtain ⟨pid, -, h⟩ := bind_eq_ok.mp h
  obtain ⟨values, -, h⟩ := bind_eq_ok.mp h
  obtain ⟨⟨s, completed⟩, -, h⟩ := bind_eq_ok.mp h
  obtain ⟨_, -, h⟩ := bind_eq_ok.mp h
  obtain ⟨profiles, -, h⟩ := bind_eq_ok.mp h
  obtain ⟨profiles', -, h⟩ := bind_eq_ok.mp h
  obtain ⟨⟨profileMap, supportHardLimit⟩, hparsed, h⟩ := bind_eq_ok.mp h
  obtain ⟨excluded, -, h⟩ := bind_eq_ok.mp h
  obtain ⟨excluded', -, h⟩ := bind_eq_ok.mp h
  obtain ⟨excludedPower, -, h⟩ := bind_eq_ok.mp h
  obtain ⟨rfl, -⟩ := Prod.mk.injEq .. ▸ Except.ok.inj h
  apply parseProfiles_match hparsed
  intro profile bound hlookup
  rw [AList.lookup_empty] at hlookup
  cases hlookup

end Accepted

end HardwareMediatek.Thermal
