import HardwareMediatek.Foundation.SlidingWindow
import HardwareMediatek.Thermal.PowerFiles
import HardwareMediatek.Thermal.Reading

/-!
# The average power of a rail

The energy counters of the rails are read at every refresh. The power of a rail is the difference
between its counter and the oldest one in its history, over the time between them. A virtual rail
combines the power of other rails, for each of which it has a history of its own.
-/

namespace HardwareMediatek.Thermal

open Foundation

/-- The samples that the files of the energy sources have; nothing when one cannot be read. -/
abbrev EnergyReading := Option (List (String × PowerSample))

/-- The rails, and the last sample of every energy source. -/
structure PowerMonitor where
  files : PowerFiles
  energyInfoMap : UnorderedMap String PowerSample

/-- What a refresh finds. The energy sources are read once more for a rail when none is known. -/
structure Refresh where
  reading : EnergyReading
  rereading : String → EnergyReading
  now : String → ℤ

/-- Sources that are not read keep their samples. -/
def updateEnergyValues (reading : EnergyReading) (energyInfoMap : UnorderedMap String PowerSample) :
    Option (UnorderedMap String PowerSample) :=
  reading.map fun samples ↦
    samples.foldl (fun energyInfoMap sample ↦ energyInfoMap.put sample.1 sample.2) energyInfoMap

/-- The average power between two samples, and whether they are valid. -/
def calculateAvgPower (lastSample currSample : PowerSample) : ExactFloat × Bool :=
  if lastSample.duration = 0 then (.nan, true)
  else if currSample.duration = lastSample.duration then (.nan, true)
  else if currSample.duration < lastSample.duration ∨
      currSample.energyCounter < lastSample.energyCounter then (.nan, false)
  else
    let duration := currSample.duration - lastSample.duration
    let deltaEnergy := currSample.energyCounter - lastSample.energyCounter
    (.ofInt deltaEnergy / .ofInt duration, true)

/-- The history only moves on when the samples are valid. -/
def updateAveragePower (energyInfoMap : UnorderedMap String PowerSample) (powerRail : String)
    (powerHistory : List PowerSample) : Checked (ExactFloat × List PowerSample) :=
  match energyInfoMap.lookup powerRail with
  | none => .ok (.nan, powerHistory)
  | some currSample =>
    match powerHistory with
    | [] => .error .badIterator
    | lastSample :: rest =>
      let (avgPower, valid) := calculateAvgPower lastSample currSample
      .ok (avgPower, if valid then rest ++ [currSample] else lastSample :: rest)

/-- The loop over the linked rails from index `i` on. An unknown formula leaves the value alone. -/
def updateLinkedRails (energyInfoMap : UnorderedMap String PowerSample) (formula : FormulaOption) :
    ℕ → List String → List ExactFloat → List (List PowerSample) → ExactFloat →
      Checked (ExactFloat × List (List PowerSample))
  | _, [], _, histories, avgPowerVal => .ok (avgPowerVal, histories)
  | i, rail :: rails, coefficient :: coefficients, history :: histories, avgPowerVal => do
    let (avgPowerNumber, history) ← updateAveragePower energyInfoMap rail history
    let avgPowerVal := (applyFormula formula i avgPowerNumber coefficient avgPowerVal).getD avgPowerVal
    let (avgPowerVal, histories) ←
      updateLinkedRails energyInfoMap formula (i + 1) rails coefficients histories avgPowerVal
    pure (avgPowerVal, history :: histories)
  | _, _ :: _, _, _, _ => .error .badIndex

/-- The power of a rail by its composition, with the histories it leaves. -/
def computeRailPower (energyInfoMap : UnorderedMap String PowerSample) (powerRail : String)
    (info : PowerRailInfo) (histories : List (List PowerSample)) :
    Checked (ExactFloat × List (List PowerSample)) :=
  match info.virtualPowerRailInfo with
  | none =>
    match histories with
    | [] => .error .badIndex
    | history :: rest => do
      let (avgPower, history) ← updateAveragePower energyInfoMap powerRail history
      pure (avgPower, history :: rest)
  | some virtualInfo => do
    let (avgPowerVal, histories) ← updateLinkedRails energyInfoMap virtualInfo.formula 0
      virtualInfo.linkedPowerRails virtualInfo.coefficients histories 0
    pure (if 0 ≤ avgPowerVal then avgPowerVal + virtualInfo.offset else avgPowerVal, histories)

/-- A rail is due when its delay is over since it was last updated, if ever. -/
def PowerStatus.isDue (status : PowerStatus) (info : PowerRailInfo) (now : ℤ) : Bool :=
  !(status.lastUpdateTime ≠ minTimePoint &&
    elapsedMs now status.lastUpdateTime < info.powerSampleDelay)

/-- The samples that a rail is computed from. -/
def energyFor (env : Refresh) (powerRail : String) (energyInfoMap : UnorderedMap String PowerSample) :
    Option (UnorderedMap String PowerSample) :=
  if energyInfoMap.entries.isEmpty then updateEnergyValues (env.rereading powerRail) energyInfoMap
  else some energyInfoMap

/-- Power is not negative. -/
def nonnegativePower (avgPower : ExactFloat) : ExactFloat := if avgPower < 0 then .nan else avgPower

def updatePowerRail (env : Refresh) (powerRail : String) (monitor : PowerMonitor) :
    Checked (PowerMonitor × ExactFloat) :=
  match monitor.files.powerRailInfoMap.lookup powerRail, monitor.files.powerStatusMap.lookup powerRail with
  | some info, some status =>
    let now := env.now powerRail
    if status.isDue info now then
      match energyFor env powerRail monitor.energyInfoMap with
      | none => .ok (monitor, .nan)
      | some energyInfoMap => do
        let (avgPower, histories) ←
          computeRailPower energyInfoMap powerRail info status.powerHistory
        let avgPower := nonnegativePower avgPower
        let status := { status with
          powerHistory := histories
          lastUpdatedAvgPower := avgPower
          lastUpdateTime := now }
        let files := { monitor.files with
          powerStatusMap := monitor.files.powerStatusMap.put powerRail status }
        pure (⟨files, energyInfoMap⟩, avgPower)
    else .ok (monitor, status.lastUpdatedAvgPower)
  | _, _ => .ok (monitor, .nan)

/-- One round of the loop over the rails. -/
def refreshRail (env : Refresh) (monitor : PowerMonitor) (powerRail : String) :
    Checked PowerMonitor := do
  let status ← atKey monitor.files.powerStatusMap powerRail
  if status.enabled then
    let (monitor, _) ← updatePowerRail env powerRail monitor
    pure monitor
  else pure monitor

def refreshPowerStatus (env : Refresh) (monitor : PowerMonitor) : Checked (PowerMonitor × Bool) :=
  match updateEnergyValues env.reading monitor.energyInfoMap with
  | none => .ok (monitor, false)
  | some energyInfoMap => do
    let monitor ← monitor.files.powerStatusMap.keys.foldlM (refreshRail env)
      { monitor with energyInfoMap := energyInfoMap }
    pure (monitor, true)

/-- What is done with the rails after they were registered. -/
inductive PowerEvent where
  | refresh (env : Refresh)
  | switch (powerRail : String) (enabled : Bool)

def stepPower (monitor : PowerMonitor) : PowerEvent → Checked PowerMonitor
  | .refresh env => do
    let (monitor, _) ← refreshPowerStatus env monitor
    pure monitor
  | .switch powerRail enabled => do
    let files ← powerSamplingSwitch powerRail enabled monitor.files
    pure { monitor with files := files }

def runPower (monitor : PowerMonitor) (events : List PowerEvent) : Checked PowerMonitor :=
  events.foldlM stepPower monitor

section Rails

variable {env : Refresh} {powerRail : String} {monitor monitor' : PowerMonitor} {info : PowerRailInfo}
  {status : PowerStatus} {energyInfoMap : UnorderedMap String PowerSample}

/-- The power that is known for a rail. -/
def publishedPower (monitor : PowerMonitor) (powerRail : String) : Option ExactFloat :=
  (monitor.files.powerStatusMap.lookup powerRail).map PowerStatus.lastUpdatedAvgPower

/-- The average power of a source by the oldest sample of its history. -/
def averagePower (energyInfoMap : UnorderedMap String PowerSample) (powerRail : String)
    (powerHistory : List PowerSample) : ExactFloat :=
  match energyInfoMap.lookup powerRail, powerHistory with
  | some currSample, lastSample :: _ => (calculateAvgPower lastSample currSample).1
  | _, _ => .nan

theorem updateAveragePower_value {powerHistory powerHistory' : List PowerSample} {avgPower : ExactFloat}
    (hupdate : updateAveragePower energyInfoMap powerRail powerHistory = .ok (avgPower, powerHistory')) :
    avgPower = averagePower energyInfoMap powerRail powerHistory := by
  unfold updateAveragePower at hupdate
  unfold averagePower
  cases hsample : energyInfoMap.lookup powerRail with
  | none =>
    rw [hsample] at hupdate
    exact (ok_pair hupdate).1.symm
  | some currSample =>
    rw [hsample] at hupdate
    cases powerHistory with
    | nil => cases hupdate
    | cons lastSample rest => exact (ok_pair hupdate).1.symm

/-- A history moves on like a window whose samples accept the valid ones. -/
theorem updateAveragePower_of_sample {powerHistory : List PowerSample} {currSample : PowerSample}
    (hsample : energyInfoMap.lookup powerRail = some currSample) (hhistory : powerHistory ≠ []) :
    updateAveragePower energyInfoMap powerRail powerHistory =
      .ok (averagePower energyInfoMap powerRail powerHistory,
        slide (fun last curr ↦ (calculateAvgPower last curr).2) powerHistory currSample) := by
  cases powerHistory with
  | nil => exact absurd rfl hhistory
  | cons lastSample rest =>
    unfold updateAveragePower averagePower
    rw [hsample]
    rfl

/-- A rail that is due is computed, and its power published. -/
theorem updatePowerRail_of_due (hinfo : monitor.files.powerRailInfoMap.lookup powerRail = some info)
    (hstatus : monitor.files.powerStatusMap.lookup powerRail = some status)
    (hdue : status.isDue info (env.now powerRail) = true)
    (henergy : energyFor env powerRail monitor.energyInfoMap = some energyInfoMap) :
    updatePowerRail env powerRail monitor =
      (computeRailPower energyInfoMap powerRail info status.powerHistory).map fun computed ↦
        (⟨{ monitor.files with
            powerStatusMap := monitor.files.powerStatusMap.put powerRail
              { status with
                powerHistory := computed.2
                lastUpdatedAvgPower := nonnegativePower computed.1
                lastUpdateTime := env.now powerRail } }, energyInfoMap⟩,
          nonnegativePower computed.1) := by
  unfold updatePowerRail
  rw [hinfo, hstatus]
  simp only [hdue, if_true, henergy]
  cases computeRailPower energyInfoMap powerRail info status.powerHistory <;> rfl

theorem publishedPower_of_due (hinfo : monitor.files.powerRailInfoMap.lookup powerRail = some info)
    (hstatus : monitor.files.powerStatusMap.lookup powerRail = some status)
    (hdue : status.isDue info (env.now powerRail) = true)
    (henergy : energyFor env powerRail monitor.energyInfoMap = some energyInfoMap)
    {avgPower : ExactFloat}
    (hupdate : updatePowerRail env powerRail monitor = .ok (monitor', avgPower)) :
    publishedPower monitor' powerRail = some avgPower ∧
      ∃ computed, computeRailPower energyInfoMap powerRail info status.powerHistory = .ok computed ∧
        avgPower = nonnegativePower computed.1 := by
  rw [updatePowerRail_of_due hinfo hstatus hdue henergy] at hupdate
  cases hcomputed : computeRailPower energyInfoMap powerRail info status.powerHistory with
  | error fault =>
    rw [hcomputed] at hupdate
    cases hupdate
  | ok computed =>
    rw [hcomputed] at hupdate
    have hboth := ok_pair hupdate
    rw [← hboth.1, ← hboth.2]
    apply And.intro _ ⟨computed, rfl, rfl⟩
    unfold publishedPower
    rw [UnorderedMap.lookup_put, if_pos rfl]
    rfl

end Rails

end HardwareMediatek.Thermal
