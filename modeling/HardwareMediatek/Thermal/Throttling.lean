import HardwareMediatek.Foundation.Checked
import HardwareMediatek.Foundation.OrderedMultiset
import HardwareMediatek.Thermal.Info

/-!
# The throttling algorithms

Every sensor with throttling votes for a state of each cooling device it is
bound to. A vote is the larger one of two requests: the PID algorithm turns
the temperature into a power budget, distributes it over the bound devices and
looks up the state of each share, and the hard limit reads a state off the
severity. A release step then lowers or raises the vote, within a floor and a
ceiling. The votes of all sensors for one cooling device are collected in a
multiset whose maximum is the state of the device.

Logging, tracing and statistics are left out. A `float` that is stored in an
`int` is truncated, and saturates at the bounds of `int`. The allocation of the
budget is written with a rounding that each of its operations passes through
once: with that of `float` it is the code, with none its exact arithmetic. The
terms of the PID algorithm are exact up to their sum.
-/

namespace HardwareMediatek.Thermal

/-- The terms the PID algorithm keeps from one cycle to the next. -/
structure PidTerms where
  prevErr : ExactFloat
  iBudget : ExactFloat
  prevTarget : ThrottlingSeverity
  prevPowerBudget : ExactFloat
  budgetTransient : ExactFloat
  tranCycle : ℤ

structure ThermalThrottlingStatus where
  pidPowerBudgetMap : UnorderedMap String ℤ
  pidCdevRequestMap : UnorderedMap String ℤ
  hardlimitCdevRequestMap : UnorderedMap String ℤ
  throttlingReleaseMap : UnorderedMap String ℤ
  cdevStatusMap : UnorderedMap String ℤ
  pid : PidTerms
  profile : String

/-- The votes of all sensors, by cooling device. -/
abbrev CdevAllRequestMap := UnorderedMap String (OrderedMultiset ℤ)

/-- The state of the throttling component. -/
structure ThermalThrottling where
  thermalThrottlingStatusMap : UnorderedMap String ThermalThrottlingStatus
  cdevAllRequestMap : CdevAllRequestMap

abbrev CdevInfoMap := UnorderedMap String CdevInfo

abbrev PowerStatusMap := UnorderedMap String PowerStatus

/-- Nothing is registered yet. -/
def ThermalThrottling.empty : ThermalThrottling := ⟨∅, ∅⟩

/-- What an update of one sensor is called with, the value of the property that selects its throttling
profile, and the rounding of the results of floating-point operations. -/
structure UpdateInput where
  temp : Temperature
  sensorInfo : SensorInfo
  currSeverity : ThrottlingSeverity
  timeElapsedMs : ℤ
  powerStatusMap : PowerStatusMap
  coolingDeviceInfoMap : CdevInfoMap
  maxThrottling : Bool
  sensorPredictions : List ExactFloat
  profileProperty : String
  round : ExactFloat → ExactFloat

/-- Conversion of a `float` to `int`. -/
def toInt (x : ExactFloat) : ℤ := x.toIntSat intMin intMax

/-- `std::numeric_limits<float>::max()`. -/
def floatMax : ExactFloat := ExactFloat.fin ((2 - 1 / 2 ^ 23) * 2 ^ 127)

/-! ## Registration and clearing -/

/-- The status a sensor has before its bindings are registered. -/
def initialStatus : ThermalThrottlingStatus where
  pidPowerBudgetMap := ∅
  pidCdevRequestMap := ∅
  hardlimitCdevRequestMap := ∅
  throttlingReleaseMap := ∅
  cdevStatusMap := ∅
  pid :=
    { prevErr := .nan
      iBudget := .nan
      prevTarget := .none
      prevPowerBudget := .nan
      budgetTransient := 0
      tranCycle := 0 }
  profile := ""

/-- `clearThrottlingData` on the status of one sensor. The transient and the votes stay. -/
def clearStatus (status : ThermalThrottlingStatus) : ThermalThrottlingStatus :=
  { status with
    pidPowerBudgetMap := status.pidPowerBudgetMap.mapValues fun _ _ ↦ intMax
    pidCdevRequestMap := status.pidCdevRequestMap.mapValues fun _ _ ↦ 0
    hardlimitCdevRequestMap := status.hardlimitCdevRequestMap.mapValues fun _ _ ↦ 0
    throttlingReleaseMap := status.throttlingReleaseMap.mapValues fun _ _ ↦ 0
    pid :=
      { status.pid with
        prevErr := .nan
        iBudget := .nan
        prevTarget := .none
        prevPowerBudget := .nan
        tranCycle := 0 } }

def clearThrottlingData (tt : ThermalThrottling) (sensorName : String) : ThermalThrottling :=
  match tt.thermalThrottlingStatusMap.lookup sensorName with
  | none => tt
  | some status =>
    { tt with
      thermalThrottlingStatusMap :=
        tt.thermalThrottlingStatusMap.put sensorName (clearStatus status) }

/-- The request of a sensor enters the collection of a cooling device as the vote 0. -/
def insertVote (votes : CdevAllRequestMap) (cdev : String) : CdevAllRequestMap :=
  votes.put cdev (((votes.lookup cdev).getD ∅).insert 0)

/-- Some weight of the binding is a number. -/
def hasPidWeight (binding : BindedCdevInfo) : Bool :=
  ThrottlingSeverity.all.any fun severity ↦ !(binding.cdevWeightForPid severity).isNaN

/-- Some limit of the binding is positive. -/
def hasHardLimit (binding : BindedCdevInfo) : Bool :=
  ThrottlingSeverity.all.any fun severity ↦ 0 < binding.limitInfo severity

/-- Some power threshold of the binding is a number, and there is a rail to compare it with. -/
def hasReleaseThreshold (binding : BindedCdevInfo) : Bool :=
  binding.powerRail ≠ "" &&
    ThrottlingSeverity.all.any fun severity ↦ !(binding.powerThresholds severity).isNaN

/-- The status of a sensor that is being registered, and the votes of all sensors. -/
abbrev RegistrationEntry := ThermalThrottlingStatus × CdevAllRequestMap

/-- Register the PID throttling map. -/
def registerPid (cdev : String) (binding : BindedCdevInfo) (entry : RegistrationEntry) :
    RegistrationEntry :=
  if hasPidWeight binding then
    ({ entry.1 with
        pidPowerBudgetMap := entry.1.pidPowerBudgetMap.put cdev intMax
        pidCdevRequestMap := entry.1.pidCdevRequestMap.put cdev 0
        cdevStatusMap := entry.1.cdevStatusMap.put cdev 0 }, insertVote entry.2 cdev)
  else entry

/-- Register the hard limit throttling map. A device bound for both algorithms casts its vote
once, but enters the collection twice. -/
def registerHardLimit (cdev : String) (binding : BindedCdevInfo) (entry : RegistrationEntry) :
    RegistrationEntry :=
  if hasHardLimit binding then
    ({ entry.1 with
        hardlimitCdevRequestMap := entry.1.hardlimitCdevRequestMap.put cdev 0
        cdevStatusMap := entry.1.cdevStatusMap.put cdev 0 }, insertVote entry.2 cdev)
  else entry

/-- Register the throttling release map if a power threshold exists. -/
def registerRelease (cdev : String) (binding : BindedCdevInfo) (entry : RegistrationEntry) :
    RegistrationEntry :=
  if hasReleaseThreshold binding then
    ({ entry.1 with throttlingReleaseMap := entry.1.throttlingReleaseMap.put cdev 0 }, entry.2)
  else entry

def registerBinding (cdev : String) (binding : BindedCdevInfo) (entry : RegistrationEntry) :
    RegistrationEntry :=
  registerRelease cdev binding (registerHardLimit cdev binding (registerPid cdev binding entry))

/-- The loop over the bindings of a sensor, given up at a device that does not exist. -/
def registerBindings (coolingDeviceInfoMap : CdevInfoMap) :
    List BindedCdevEntry → RegistrationEntry → RegistrationEntry × Bool
  | [], entry => (entry, true)
  | ⟨cdev, binding⟩ :: rest, entry =>
    if cdev ∈ coolingDeviceInfoMap then
      registerBindings coolingDeviceInfoMap rest (registerBinding cdev binding entry)
    else (entry, false)

def registerThermalThrottling (tt : ThermalThrottling) (sensorName : String)
    (throttlingInfo : Option ThrottlingInfo) (coolingDeviceInfoMap : CdevInfoMap) :
    ThermalThrottling × Bool :=
  if sensorName ∈ tt.thermalThrottlingStatusMap then (tt, false)
  else
    match throttlingInfo with
    | none => (tt, false)
    | some info =>
      let result := registerBindings coolingDeviceInfoMap info.bindedCdevInfoMap.entries
        (initialStatus, tt.cdevAllRequestMap)
      (⟨tt.thermalThrottlingStatusMap.put sensorName result.1.1, result.1.2⟩, result.2)

/-! ## Votes for a cooling device -/

/-- The aggregated maximum request; none when no sensor votes for the device. -/
def getCdevMaxRequest (votes : CdevAllRequestMap) (cdevName : String) : Checked (Option ℤ) :=
  match votes.lookup cdevName with
  | none => .ok none
  | some requestSet =>
    match requestSet.begin? with
    | none => .error .badIterator
    | some request => .ok (some request)

/-- Exchange one vote, and tell whether the maximum has changed. -/
def updateCdevMaxRequestAndNotifyIfChange (votes : CdevAllRequestMap) (cdevName : String)
    (curRequest newRequest : ℤ) : Checked (CdevAllRequestMap × Bool) := do
  let requestSet ← atKey votes cdevName
  match requestSet.begin?, requestSet.eraseOne curRequest with
  | some curMaxRequest, some erased =>
    let requestSet := erased.insert newRequest
    match requestSet.begin? with
    | some newMaxRequest =>
      pure (votes.put cdevName requestSet, newMaxRequest ≠ curMaxRequest)
    | none => .error .badIterator
  | _, _ => .error .badIterator

/-- The vote of a sensor from its two requests. The floor counts only beside a release step. -/
def finalRequest (pidCdevRequest hardlimitCdevRequest releaseStep cdevFloor cdevCeiling : ℤ) :
    Checked ℤ := do
  let requestState := max pidCdevRequest hardlimitCdevRequest
  let requestState ←
    if releaseStep ≠ 0 then
      if releaseStep ≥ requestState then pure (max 0 cdevFloor)
      else do
        let released ← checkedInt (requestState - releaseStep)
        pure (max released cdevFloor)
    else pure requestState
  pure (min requestState cdevCeiling)

/-- The binding that is in force under a profile. -/
def selectBindings (info : ThrottlingInfo) (profile : String) : BindedCdevInfoMap :=
  (info.profileMap.lookup profile).getD info.bindedCdevInfoMap

/-- The loop state of `computeCoolingDevicesRequest`: the votes of the sensor, the collections of
all sensors, and the devices to update. -/
structure RequestState where
  cdevStatusMap : UnorderedMap String ℤ
  cdevAllRequestMap : CdevAllRequestMap
  coolingDevicesToUpdate : List String

/-- The vote for a cooling device. A request or a release step that is not registered is zero. -/
def requestOf (status : ThermalThrottlingStatus) (binding : BindedCdevInfo)
    (currSeverity : ThrottlingSeverity) (cdevName : String) : Checked ℤ :=
  finalRequest ((status.pidCdevRequestMap.lookup cdevName).getD 0)
    ((status.hardlimitCdevRequestMap.lookup cdevName).getD 0)
    ((status.throttlingReleaseMap.lookup cdevName).getD 0)
    (binding.cdevFloorWithPowerLink currSeverity) (binding.cdevCeiling currSeverity)

/-- One round: compute the vote for a cooling device and exchange it when it is a new one. -/
def computeRequest (status : ThermalThrottlingStatus) (bindings : BindedCdevInfoMap)
    (currSeverity : ThrottlingSeverity) (cdevRequestPair : Sigma fun _ : String ↦ ℤ)
    (s : RequestState) : Checked RequestState := do
  let cdevName := cdevRequestPair.1
  let binding ← atKey bindings cdevName
  let requestState ← requestOf status binding currSeverity cdevName
  if cdevRequestPair.2 ≠ requestState then
    let (votes, changed) ← updateCdevMaxRequestAndNotifyIfChange s.cdevAllRequestMap cdevName
      cdevRequestPair.2 requestState
    pure {
      cdevStatusMap := s.cdevStatusMap.assign cdevName requestState
      cdevAllRequestMap := votes
      coolingDevicesToUpdate :=
        if changed then s.coolingDevicesToUpdate ++ [cdevName] else s.coolingDevicesToUpdate }
  else pure s

def computeCoolingDevicesRequest (tt : ThermalThrottling) (sensorName : String)
    (sensorInfo : SensorInfo) (currSeverity : ThrottlingSeverity) :
    Checked (ThermalThrottling × List String) :=
  match tt.thermalThrottlingStatusMap.lookup sensorName with
  | none => .ok (tt, [])
  | some status => do
    let info ← deref sensorInfo.throttlingInfo
    let s ← forEach (computeRequest status (selectBindings info status.profile) currSeverity)
      status.cdevStatusMap.entries ⟨status.cdevStatusMap, tt.cdevAllRequestMap, []⟩
    pure (⟨tt.thermalThrottlingStatusMap.put sensorName
      { status with cdevStatusMap := s.cdevStatusMap }, s.cdevAllRequestMap⟩,
      s.coolingDevicesToUpdate)

/-! ## The power budget of a sensor -/

/-- The loop of `getTargetStateOfPID`. -/
def nextTargetState (sPower : ThrottlingArray) (currSeverity : ThrottlingSeverity) :
    List ThrottlingSeverity → ThrottlingSeverity → ThrottlingSeverity
  | [], targetState => targetState
  | severity :: rest, targetState =>
    if (sPower severity).isNaN then nextTargetState sPower currSeverity rest targetState
    else if currSeverity < severity then severity
    else nextTargetState sPower currSeverity rest severity

/-- The severity whose threshold is the next PID target. -/
def getTargetStateOfPID (info : ThrottlingInfo) (currSeverity : ThrottlingSeverity) :
    ThrottlingSeverity :=
  nextTargetState info.sPower currSeverity ThrottlingSeverity.all .none

/-- An empty or unknown profile selects the default binding. -/
def parseProfileProperty (info : ThrottlingInfo) (profile : String)
    (status : ThermalThrottlingStatus) : ThermalThrottlingStatus :=
  if profile = "" ∨ profile ∈ info.profileMap then { status with profile := profile }
  else { status with profile := "" }

/-- Whether every bound device is at its limit or below, and whether every one is at its ceiling
or above. -/
def checkThrottleStatus (status : ThermalThrottlingStatus) (currSeverity : ThrottlingSeverity)
    (pair : BindedCdevEntry) (flags : Bool × Bool) :
    Checked (Bool × Bool) := do
  let request ← atKey status.pidCdevRequestMap pair.1
  let isFullyRelease := if request > pair.2.limitInfo currSeverity then false else flags.1
  let request ← atKey status.pidCdevRequestMap pair.1
  let isFullyThrottle := if request < pair.2.cdevCeiling currSeverity then false else flags.2
  pure (isFullyRelease, isFullyThrottle)

/-- One summand of the default integral term. The result of the call is stored in the place of the
maximum vote, so the state looked up is 1 when the device has votes and 0 when it has none. -/
def addDefaultIBudget (coolingDeviceInfoMap : CdevInfoMap) (votes : CdevAllRequestMap)
    (pair : BindedCdevEntry) (defaultIBudget : ExactFloat) :
    Checked ExactFloat := do
  let cdevInfo ← atKey coolingDeviceInfoMap pair.1
  let found ← getCdevMaxRequest votes pair.1
  let maxCdevVote : ℤ := if found.isSome then 1 else 0
  let power ← atIndex cdevInfo.state2power maxCdevVote
  pure (defaultIBudget + power)

/-- The integral term the first cycle starts from. -/
def initialIBudget (info : ThrottlingInfo) (coolingDeviceInfoMap : CdevInfoMap)
    (votes : CdevAllRequestMap) (iBudget : ExactFloat) : Checked ExactFloat :=
  if iBudget.isNaN then
    if info.iDefaultPct.isNaN then pure info.iDefault
    else do
      let defaultIBudget ← forEach (addDefaultIBudget coolingDeviceInfoMap votes)
        info.bindedCdevInfoMap.entries 0
      pure (defaultIBudget * info.iDefaultPct / ExactFloat.fin 100)
  else pure iBudget

/-- The integral term of this cycle: accumulated while there is room in the direction of the
error, and cut off at its maximum. -/
def updateIBudget (info : ThrottlingInfo) (prevPowerBudget : ExactFloat)
    (targetState : ThrottlingSeverity) (err : ExactFloat) (isFullyRelease isFullyThrottle : Bool)
    (iBudget : ExactFloat) : ExactFloat :=
  let iBudget :=
    if err < info.iCutoff targetState then
      if err < 0 ∧ info.minAllocPower targetState < prevPowerBudget ∧ !isFullyThrottle then
        iBudget + err * info.kIo targetState
      else if 0 < err ∧ prevPowerBudget < info.maxAllocPower targetState ∧ !isFullyRelease then
        iBudget + err * info.kIu targetState
      else iBudget
    else iBudget
  if info.iMax targetState < iBudget.fabs then
    info.iMax targetState * (if 0 < iBudget then 1 else -1)
  else iBudget

/-- The derivative term; there is none in the first cycle and when no time has passed. -/
def computeDBudget (info : ThrottlingInfo) (targetState : ThrottlingSeverity)
    (err prevErr : ExactFloat) (timeElapsedMs : ℤ) : ExactFloat :=
  if !prevErr.isNaN && timeElapsedMs ≠ 0 then
    info.kD targetState * (err - prevErr) / ExactFloat.ofInt timeElapsedMs
  else 0

/-- The weighted prediction errors, before the weight of the severity. -/
def addCompensation (target multiplier : ExactFloat) (predictionWeights : List ExactFloat)
    (indexed : ExactFloat × ℕ) (compensation : ExactFloat) : Checked ExactFloat := do
  let predictionErr := target - indexed.1 * multiplier
  let weight ← atIndex predictionWeights indexed.2
  pure (compensation + weight * predictionErr)

def computeCompensation (input : UpdateInput) (targetState : ThrottlingSeverity)
    (target : ExactFloat) : Checked ExactFloat :=
  match input.sensorInfo.predictorInfo with
  | some predictor =>
    if predictor.supportPidCompensation then do
      let compensation ← forEach
        (addCompensation target input.sensorInfo.multiplier predictor.predictionWeights)
        input.sensorPredictions.zipIdx 0
      pure (compensation * predictor.kPCompensate targetState)
    else pure 0
  | none => pure 0

def addExcludedPower (powerStatusMap : PowerStatusMap) (currSeverity : ThrottlingSeverity)
    (pair : Sigma fun _ : String ↦ ThrottlingArray) (excludedPower : ExactFloat) :
    Checked ExactFloat := do
  let status ← atKey powerStatusMap pair.1
  if status.lastUpdatedAvgPower.isNaN then pure excludedPower
  else pure (excludedPower + status.lastUpdatedAvgPower * pair.2 currSeverity)

/-- The power of the rails that are excluded from the budget. -/
def computeExcludedPower (info : ThrottlingInfo) (currSeverity : ThrottlingSeverity)
    (powerStatusMap : PowerStatusMap) : Checked ExactFloat :=
  forEach (addExcludedPower powerStatusMap currSeverity) info.excludedPowerInfoMap.entries 0

/-- The terms after the target of this cycle is known, and whether the target has changed. -/
def updateTarget (info : ThrottlingInfo) (targetState : ThrottlingSeverity) (pid : PidTerms) :
    PidTerms × Bool :=
  if pid.prevTarget ≠ .none ∧ targetState ≠ pid.prevTarget ∧ 0 < info.tranCycle then
    ({ pid with tranCycle := info.tranCycle - 1, prevTarget := targetState }, true)
  else ({ pid with prevTarget := targetState }, false)

/-- Clamp the computed budget and smooth the step that a change of the target makes. -/
def settleBudget (info : ThrottlingInfo) (targetState : ThrottlingSeverity) (targetChanged : Bool)
    (powerBudget : ExactFloat) (pid : PidTerms) : ExactFloat × PidTerms :=
  let powerBudget :=
    powerBudget.clamp (info.minAllocPower targetState) (info.maxAllocPower targetState)
  let budgetTransient :=
    if targetChanged then pid.prevPowerBudget - powerBudget else pid.budgetTransient
  if pid.tranCycle ≠ 0 then
    let powerBudget := powerBudget + budgetTransient *
      (ExactFloat.ofInt pid.tranCycle / ExactFloat.ofInt info.tranCycle)
    (powerBudget,
      { pid with
        budgetTransient := budgetTransient
        tranCycle := pid.tranCycle - 1
        prevPowerBudget := powerBudget })
  else
    (powerBudget,
      { pid with budgetTransient := budgetTransient, prevPowerBudget := powerBudget })

/-- The sum of the terms of the PID algorithm, and the terms for the next cycle. -/
def sumTerms (input : UpdateInput) (info : ThrottlingInfo) (votes : CdevAllRequestMap)
    (targetState : ThrottlingSeverity) (isFullyRelease isFullyThrottle : Bool) (err : ExactFloat)
    (pid : PidTerms) : Checked (ExactFloat × PidTerms) := do
  let p := err * (if err < 0 then info.kPo targetState else info.kPu targetState)
  let iBudget ← initialIBudget info input.coolingDeviceInfoMap votes pid.iBudget
  let iBudget := updateIBudget info pid.prevPowerBudget targetState err isFullyRelease
    isFullyThrottle iBudget
  let d := computeDBudget info targetState err pid.prevErr input.timeElapsedMs
  let compensation ←
    computeCompensation input targetState (input.sensorInfo.hotThresholds targetState)
  let excludepower ← computeExcludedPower info input.currSeverity input.powerStatusMap
  pure (info.sPower targetState + p + iBudget + d + compensation - excludepower,
    { pid with iBudget := iBudget, prevErr := err })

/-- The budget of the PID algorithm for a target and an error. -/
def computePowerBudget (input : UpdateInput) (info : ThrottlingInfo) (votes : CdevAllRequestMap)
    (targetState : ThrottlingSeverity) (targetChanged isFullyRelease isFullyThrottle : Bool)
    (err : ExactFloat) (pid : PidTerms) : Checked (ExactFloat × PidTerms) := do
  let sum ← sumTerms input info votes targetState isFullyRelease isFullyThrottle err pid
  pure (settleBudget info targetState targetChanged sum.1 sum.2)

/-- The power budget of the PID algorithm. -/
def updatePowerBudget (input : UpdateInput) (info : ThrottlingInfo) (votes : CdevAllRequestMap)
    (status : ThermalThrottlingStatus) : Checked (ExactFloat × PidTerms) :=
  if input.currSeverity = .none then .ok (floatMax, status.pid)
  else do
    let (isFullyRelease, isFullyThrottle) ← forEach (checkThrottleStatus status input.currSeverity)
      (selectBindings info status.profile).entries (true, true)
    let targetState := getTargetStateOfPID info input.currSeverity
    let (pid, targetChanged) := updateTarget info targetState status.pid
    let err := input.sensorInfo.hotThresholds targetState - input.temp.value
    if input.maxThrottling ∧ err ≤ 0 then
      -- the budget of a forced throttling leaves the terms of the algorithm as they are
      pure (info.minAllocPower targetState, pid)
    else
      computePowerBudget input info votes targetState targetChanged isFullyRelease isFullyThrottle
        err pid

/-! ## Allocating the budget -/

/-- The variables of `allocatePowerToCdev`, with the budgets it writes. -/
structure AllocationState where
  totalPowerBudget : ExactFloat
  totalWeight : ExactFloat
  lastUpdatedAvgPower : ExactFloat
  allocatedPower : ExactFloat
  allocatedWeight : ExactFloat
  powerDataInvalid : Bool
  allocatedCdev : List String
  pidPowerBudgetMap : UnorderedMap String ℤ

/-- The first loop: add up the weights, and mark the devices without one. -/
def addWeight (round : ExactFloat → ExactFloat) (currSeverity : ThrottlingSeverity)
    (s : AllocationState) (pair : BindedCdevEntry) : AllocationState :=
  let cdevWeight := pair.2.cdevWeightForPid currSeverity
  if !pair.2.enabled then s
  else if cdevWeight.isNaN || cdevWeight.feq 0 then
    { s with allocatedCdev := pair.1 :: s.allocatedCdev }
  else { s with totalWeight := round (s.totalWeight + cdevWeight) }

/-- Read the power of the rail of a device. A device without a rail or without valid data ends the
pass, and makes the power data invalid for everything that follows. -/
def getPowerData (powerStatusMap : PowerStatusMap) (binding : BindedCdevInfo)
    (s : AllocationState) : Checked (Flow AllocationState) :=
  if s.powerDataInvalid then .ok (.next s)
  else if binding.powerRail ≠ "" then do
    let status ← atKey powerStatusMap binding.powerRail
    let s := { s with lastUpdatedAvgPower := status.lastUpdatedAvgPower }
    if status.lastUpdatedAvgPower.isNaN then
      pure (.stop { s with powerDataInvalid := true })
    else if binding.throttlingWithPowerLink then pure (.giveUp s)
    else pure (.next s)
  else .ok (.stop { s with powerDataInvalid := true })

/-- The share of the total budget that the weight of a device stands for. -/
def AllocationState.share (s : AllocationState) (round : ExactFloat → ExactFloat)
    (cdevWeight : ExactFloat) : ExactFloat :=
  round (s.totalPowerBudget * round (cdevWeight / s.totalWeight))

/-- One round of the first pass: a device that needs less than its share and is not throttled
keeps its power, and leaves the rest of its share to the others. -/
def checkLowPowerDevice (input : UpdateInput) (status : ThermalThrottlingStatus)
    (pair : BindedCdevEntry) (s : AllocationState) :
    Checked (Flow AllocationState) :=
  let cdevWeight := pair.2.cdevWeightForPid input.currSeverity
  if pair.1 ∈ s.allocatedCdev then .ok (.next s)
  else do
    match ← getPowerData input.powerStatusMap pair.2 s with
    | .next s =>
      let cdevPowerAdjustment :=
        input.round (s.share input.round cdevWeight - s.lastUpdatedAvgPower)
      if 0 < cdevPowerAdjustment then
        let request ← atKey status.pidCdevRequestMap pair.1
        if request = 0 then
          pure (.next { s with
            allocatedPower := input.round (s.allocatedPower + s.lastUpdatedAvgPower)
            allocatedWeight := input.round (s.allocatedWeight + cdevWeight)
            allocatedCdev := pair.1 :: s.allocatedCdev })
        else pure (.next s)
      else pure (.next s)
    | flow => pure flow

/-- Between two passes, the power of the devices that keep theirs leaves the budget. -/
def settlePass (round : ExactFloat → ExactFloat) (s : AllocationState) : AllocationState :=
  let s :=
    if !s.powerDataInvalid then
      { s with
        totalPowerBudget := round (s.totalPowerBudget - s.allocatedPower)
        totalWeight := round (s.totalWeight - s.allocatedWeight) }
    else s
  { s with allocatedPower := 0, allocatedWeight := 0 }

/-- The stored budget with its adjustment, before it is stored in an `int` again. -/
def adjustedBudget (round : ExactFloat → ExactFloat) (cdevCurrPowerBudget : ℤ)
    (cdevPowerAdjustment lastUpdatedAvgPower : ExactFloat) : ExactFloat :=
  let curr := round (ExactFloat.ofInt cdevCurrPowerBudget)
  if curr < lastUpdatedAvgPower then
    round (curr + round (cdevPowerAdjustment * round (curr / lastUpdatedAvgPower)))
  else round (curr + cdevPowerAdjustment)

/-- The budget of a device before any limit. The stored budget is an `int`, so an adjusted budget
is truncated. -/
def distributedBudget (round : ExactFloat → ExactFloat) (cdevName : String) (cdevInfo : CdevInfo)
    (binding : BindedCdevInfo) (s : AllocationState) (cdevWeight cdevPowerAdjustment : ExactFloat) :
    Checked ExactFloat :=
  if !binding.enabled then atIndex cdevInfo.state2power 0
  else if !s.powerDataInvalid && binding.powerRail ≠ "" then do
    let cdevCurrPowerBudget ← atKey s.pidPowerBudgetMap cdevName
    pure (round (ExactFloat.ofInt (toInt
      (adjustedBudget round cdevCurrPowerBudget cdevPowerAdjustment s.lastUpdatedAvgPower))))
  else .ok (s.share round cdevWeight)

/-- A budget lies between zero and the power of state 0. -/
def boundBudget (cdevInfo : CdevInfo) (cdevPowerBudget : ExactFloat) : Checked ExactFloat := do
  let power ← atIndex cdevInfo.state2power 0
  if !power.isNaN && power < cdevPowerBudget then pure power
  else if cdevPowerBudget < 0 then pure 0
  else pure cdevPowerBudget

/-- Widen a step while the state it leads to is inside the limit and has the same power as the
current one. The fuel is the number of states up to the limit. -/
def widenStep (state2power : List ExactFloat) (currCdevVote : ℤ) (probe : ℤ → ℤ)
    (inside : ℤ → Bool) : ℕ → ℤ → Checked ℤ
  | 0, step => do
    let _ ← checkedInt (probe step)
    pure step
  | fuel + 1, step => do
    let state ← checkedInt (probe step)
    if inside state then
      let power ← atIndex state2power state
      let currPower ← atIndex state2power currCdevVote
      if power.feq currPower then
        widenStep state2power currCdevVote probe inside fuel (step + 1)
      else pure step
    else pure step

/-- The loop that widens a release step. -/
def targetReleaseStep (state2power : List ExactFloat) (currCdevVote limit step : ℤ) : Checked ℤ :=
  widenStep state2power currCdevVote (fun step ↦ currCdevVote - step)
    (fun state ↦ decide (limit < state)) (currCdevVote - step - limit).toNat step

/-- The loop that widens a throttling step. -/
def targetThrottleStep (state2power : List ExactFloat) (currCdevVote ceiling step : ℤ) :
    Checked ℤ :=
  widenStep state2power currCdevVote (fun step ↦ currCdevVote + step)
    (fun state ↦ decide (state < ceiling)) (ceiling - currCdevVote - step).toNat step

/-- A device with a release step is released by at most that step. -/
def limitRelease (cdevInfo : CdevInfo) (binding : BindedCdevInfo)
    (currSeverity : ThrottlingSeverity) (powerDataInvalid : Bool)
    (cdevPowerAdjustment : ExactFloat) (currCdevVote maxCdevVote : ℤ)
    (cdevPowerBudget : ExactFloat) : Checked ExactFloat :=
  if binding.maxReleaseStep ≠ intMax ∧ (powerDataInvalid ∨ 0 < cdevPowerAdjustment) then
    if !powerDataInvalid && currCdevVote < maxCdevVote then
      atIndex cdevInfo.state2power currCdevVote
    else do
      let step ← targetReleaseStep cdevInfo.state2power currCdevVote
        (binding.limitInfo currSeverity) binding.maxReleaseStep
      let power ← atIndex cdevInfo.state2power (max (currCdevVote - step) 0)
      pure (cdevPowerBudget.min power)
  else .ok cdevPowerBudget

/-- A device with a throttling step is throttled by at most that step. -/
def limitThrottle (cdevInfo : CdevInfo) (binding : BindedCdevInfo)
    (currSeverity : ThrottlingSeverity) (powerDataInvalid : Bool)
    (cdevPowerAdjustment : ExactFloat) (currCdevVote : ℤ)
    (cdevPowerBudget : ExactFloat) : Checked ExactFloat :=
  if binding.maxThrottleStep ≠ intMax ∧ (powerDataInvalid ∨ cdevPowerAdjustment < 0) then do
    let step ← targetThrottleStep cdevInfo.state2power currCdevVote
      (binding.cdevCeiling currSeverity) binding.maxThrottleStep
    let power ← atIndex cdevInfo.state2power
      (min (currCdevVote + step) (binding.cdevCeiling currSeverity))
    pure (cdevPowerBudget.max power)
  else .ok cdevPowerBudget

/-- The steps count only while throttling is not forced. -/
def limitSteps (input : UpdateInput) (cdevInfo : CdevInfo) (binding : BindedCdevInfo)
    (powerDataInvalid : Bool) (cdevPowerAdjustment : ExactFloat) (currCdevVote maxCdevVote : ℤ)
    (cdevPowerBudget : ExactFloat) : Checked ExactFloat :=
  if input.maxThrottling then .ok cdevPowerBudget
  else do
    let cdevPowerBudget ← limitRelease cdevInfo binding input.currSeverity powerDataInvalid
      cdevPowerAdjustment currCdevVote maxCdevVote cdevPowerBudget
    limitThrottle cdevInfo binding input.currSeverity powerDataInvalid cdevPowerAdjustment
      currCdevVote cdevPowerBudget

/-- `cdev_power_adjustment < 0` at a device that is at its maximum state already. -/
def atMaxState (status : ThermalThrottlingStatus) (cdevName : String) (cdevInfo : CdevInfo)
    (cdevPowerAdjustment : ExactFloat) : Checked Bool :=
  if cdevPowerAdjustment < 0 then do
    let request ← atKey status.pidCdevRequestMap cdevName
    pure (request = cdevInfo.maxState)
  else .ok false

/-- The budget of one device in the second pass, given up when the device has no votes. -/
def deviceBudget (input : UpdateInput) (votes : CdevAllRequestMap)
    (status : ThermalThrottlingStatus) (pair : BindedCdevEntry)
    (cdevInfo : CdevInfo) (cdevPowerAdjustment : ExactFloat) (s : AllocationState) :
    Checked (Flow AllocationState) := do
  let cdevPowerBudget ← distributedBudget input.round pair.1 cdevInfo pair.2 s
    (pair.2.cdevWeightForPid input.currSeverity) cdevPowerAdjustment
  -- the adjusted budget is stored only at the end of the round
  let cdevPowerBudget ← boundBudget cdevInfo cdevPowerBudget
  match ← getCdevMaxRequest votes pair.1 with
  | none => pure (.giveUp s)
  | some maxCdevVote =>
    let currCdevVote ← atKey status.pidCdevRequestMap pair.1
    let cdevPowerBudget ← limitSteps input cdevInfo pair.2 s.powerDataInvalid cdevPowerAdjustment
      currCdevVote maxCdevVote cdevPowerBudget
    let _ ← atKey s.pidPowerBudgetMap pair.1
    pure (.next { s with
      pidPowerBudgetMap := s.pidPowerBudgetMap.assign pair.1 (toInt cdevPowerBudget) })

/-- One round of the second pass. -/
def allocateDevice (input : UpdateInput) (votes : CdevAllRequestMap)
    (status : ThermalThrottlingStatus) (pair : BindedCdevEntry)
    (s : AllocationState) : Checked (Flow AllocationState) :=
  if pair.1 ∈ s.allocatedCdev then .ok (.next s)
  else do
    match ← getPowerData input.powerStatusMap pair.2 s with
    | .next s =>
      let cdevPowerAdjustment := input.round
        (s.share input.round (pair.2.cdevWeightForPid input.currSeverity) - s.lastUpdatedAvgPower)
      let cdevInfo ← atKey input.coolingDeviceInfoMap pair.1
      if ← atMaxState status pair.1 cdevInfo cdevPowerAdjustment then pure (.next s)
      else deviceBudget input votes status pair cdevInfo cdevPowerAdjustment s
    | flow => pure flow

/-- The variables before the passes: the weights are added up, and the devices without one are
marked. -/
def initialAllocation (input : UpdateInput) (status : ThermalThrottlingStatus)
    (bindings : BindedCdevInfoMap) (totalPowerBudget : ExactFloat) : AllocationState :=
  bindings.entries.foldl (addWeight input.round input.currSeverity)
    { totalPowerBudget := totalPowerBudget
      totalWeight := 0
      lastUpdatedAvgPower := .nan
      allocatedPower := 0
      allocatedWeight := 0
      powerDataInvalid := false
      allocatedCdev := []
      pidPowerBudgetMap := status.pidPowerBudgetMap }

/-- The second pass, and whether it was not given up. -/
def allocatePass (input : UpdateInput) (votes : CdevAllRequestMap)
    (status : ThermalThrottlingStatus) (bindings : BindedCdevInfoMap) (s : AllocationState) :
    Checked (UnorderedMap String ℤ × Bool) := do
  match ← iterate (allocateDevice input votes status) bindings.entries s with
  | .giveUp s => pure (s.pidPowerBudgetMap, false)
  | .next s | .stop s => pure (s.pidPowerBudgetMap, true)

/-- The two passes over the bound devices. The second one starts where the first one ended, also
when the first one was left early. -/
def allocatePasses (input : UpdateInput) (votes : CdevAllRequestMap)
    (status : ThermalThrottlingStatus) (bindings : BindedCdevInfoMap)
    (totalPowerBudget : ExactFloat) : Checked (UnorderedMap String ℤ × Bool) := do
  match ← iterate (checkLowPowerDevice input status) bindings.entries
      (initialAllocation input status bindings totalPowerBudget) with
  | .giveUp s => pure (s.pidPowerBudgetMap, false)
  | .next s | .stop s => allocatePass input votes status bindings (settlePass input.round s)

def allocatePowerToCdev (input : UpdateInput) (info : ThrottlingInfo) (votes : CdevAllRequestMap)
    (status : ThermalThrottlingStatus) : Checked (ThermalThrottlingStatus × Bool) := do
  let (totalPowerBudget, pid) ← updatePowerBudget input info votes status
  let (pidPowerBudgetMap, allocated) ← allocatePasses input votes status
    (selectBindings info status.profile) (input.round totalPowerBudget)
  pure ({ status with pid := pid, pidPowerBudgetMap := pidPowerBudgetMap }, allocated)

/-! ## Requests from budgets and severities -/

/-- The first state whose power the budget covers, or the last one. An empty table is read at its
first entry, since its last index wraps. -/
def powerToState (budget : ExactFloat) : List ExactFloat → Checked ℤ
  | [] => .error .badIndex
  | [_] => .ok 0
  | power :: rest =>
    if power ≤ budget then .ok 0
    else do
      let state ← powerToState budget rest
      pure (state + 1)

def requestByPower (coolingDeviceInfoMap : CdevInfoMap)
    (pidPowerBudgetPair : Sigma fun _ : String ↦ ℤ) (pidCdevRequestMap : UnorderedMap String ℤ) :
    Checked (UnorderedMap String ℤ) := do
  let cdevInfo ← atKey coolingDeviceInfoMap pidPowerBudgetPair.1
  let state ← powerToState (ExactFloat.ofInt pidPowerBudgetPair.2) cdevInfo.state2power
  let _ ← atKey pidCdevRequestMap pidPowerBudgetPair.1
  pure (pidCdevRequestMap.assign pidPowerBudgetPair.1 state)

def updateCdevRequestByPower (coolingDeviceInfoMap : CdevInfoMap)
    (status : ThermalThrottlingStatus) : Checked ThermalThrottlingStatus := do
  let requests ← forEach (requestByPower coolingDeviceInfoMap) status.pidPowerBudgetMap.entries
    status.pidCdevRequestMap
  pure { status with pidCdevRequestMap := requests }

def requestBySeverity (currSeverity : ThrottlingSeverity) (requests : UnorderedMap String ℤ)
    (pair : BindedCdevEntry) : UnorderedMap String ℤ :=
  requests.assign pair.1 (if pair.2.enabled then pair.2.limitInfo currSeverity else 0)

/-- Devices without a hard limit have no entry and are skipped. -/
def updateCdevRequestBySeverity (info : ThrottlingInfo) (currSeverity : ThrottlingSeverity)
    (status : ThermalThrottlingStatus) : ThermalThrottlingStatus :=
  { status with
    hardlimitCdevRequestMap :=
      (selectBindings info status.profile).entries.foldl (requestBySeverity currSeverity)
        status.hardlimitCdevRequestMap }

/-! ## The release step -/

def updateReleaseStep (releaseLogic : ReleaseLogic) (isOverBudget : Bool)
    (maxState releaseStep : ℤ) : ℤ :=
  match releaseLogic with
  | .increase =>
    if isOverBudget then 0 else if |releaseStep| < maxState then releaseStep - 1 else releaseStep
  | .decrease =>
    if isOverBudget then 0 else if releaseStep < maxState then releaseStep + 1 else releaseStep
  | .stepwise =>
    if isOverBudget then
      if |releaseStep| < maxState then releaseStep - 1 else releaseStep
    else if releaseStep < maxState then releaseStep + 1 else releaseStep
  | .releaseToFloor => if isOverBudget then 0 else maxState
  | .none => releaseStep

/-- One round of `throttlingReleaseUpdate`, given up at a device without a release step or without
a power status. -/
def releaseUpdate (coolingDeviceInfoMap : CdevInfoMap) (powerStatusMap : PowerStatusMap)
    (severity : ThrottlingSeverity) (pair : BindedCdevEntry)
    (releaseMap : UnorderedMap String ℤ) : Checked (Flow (UnorderedMap String ℤ)) :=
  match releaseMap.lookup pair.1, powerStatusMap.lookup pair.2.powerRail with
  | some releaseStep, some status => do
    let cdevInfo ← atKey coolingDeviceInfoMap pair.1
    let avgPower := status.lastUpdatedAvgPower
    if avgPower.isNaN || avgPower < 0 then
      pure (.next (releaseMap.assign pair.1
        (if pair.2.throttlingWithPowerLink then cdevInfo.maxState else 0)))
    else
      let isOverBudget :=
        if !pair.2.highPowerCheck then !decide (avgPower < pair.2.powerThresholds severity)
        else !decide (pair.2.powerThresholds severity < avgPower)
      pure (.next (releaseMap.assign pair.1
        (updateReleaseStep pair.2.releaseLogic isOverBudget cdevInfo.maxState releaseStep)))
  | _, _ => .ok (.giveUp releaseMap)

def throttlingReleaseUpdate (input : UpdateInput) (info : ThrottlingInfo)
    (status : ThermalThrottlingStatus) : Checked ThermalThrottlingStatus := do
  let flow ← iterate (releaseUpdate input.coolingDeviceInfoMap input.powerStatusMap
    input.currSeverity) info.bindedCdevInfoMap.entries status.throttlingReleaseMap
  pure { status with throttlingReleaseMap := flow.state }

/-! ## The update of a sensor -/

/-- The PID part: allocate the budget, forget the requests when that fails, and turn the budgets
into requests. -/
def updatePid (input : UpdateInput) (info : ThrottlingInfo) (votes : CdevAllRequestMap)
    (status : ThermalThrottlingStatus) : Checked ThermalThrottlingStatus :=
  if status.pidPowerBudgetMap.entries ≠ [] then do
    let (status, allocated) ← allocatePowerToCdev input info votes status
    let status :=
      if allocated then status
      else { status with pidCdevRequestMap := status.pidCdevRequestMap.mapValues fun _ _ ↦ 0 }
    updateCdevRequestByPower input.coolingDeviceInfoMap status
  else .ok status

/-- The profile is read again only when there are profiles. -/
def updateProfile (input : UpdateInput) (info : ThrottlingInfo) (status : ThermalThrottlingStatus) :
    ThermalThrottlingStatus :=
  if info.profileMap.entries ≠ [] then parseProfileProperty info input.profileProperty status
  else status

def updateHardlimit (input : UpdateInput) (info : ThrottlingInfo)
    (status : ThermalThrottlingStatus) : ThermalThrottlingStatus :=
  if status.hardlimitCdevRequestMap.entries ≠ [] then
    updateCdevRequestBySeverity info input.currSeverity status
  else status

def updateRelease (input : UpdateInput) (info : ThrottlingInfo) (status : ThermalThrottlingStatus) :
    Checked ThermalThrottlingStatus :=
  if status.throttlingReleaseMap.entries ≠ [] then throttlingReleaseUpdate input info status
  else .ok status

/-- `thermalThrottlingUpdate` on the status of a registered sensor. -/
def updateStatus (input : UpdateInput) (info : ThrottlingInfo) (votes : CdevAllRequestMap)
    (status : ThermalThrottlingStatus) : Checked ThermalThrottlingStatus := do
  let status ← updatePid input info votes (updateProfile input info status)
  updateRelease input info (updateHardlimit input info status)

def thermalThrottlingUpdate (tt : ThermalThrottling) (input : UpdateInput) :
    Checked ThermalThrottling :=
  match tt.thermalThrottlingStatusMap.lookup input.temp.name with
  | none => .ok tt
  | some status => do
    let info ← deref input.sensorInfo.throttlingInfo
    let status ← updateStatus input info tt.cdevAllRequestMap status
    pure { tt with
      thermalThrottlingStatusMap := tt.thermalThrottlingStatusMap.put input.temp.name status }

end HardwareMediatek.Thermal
