import HardwareMediatek.Foundation.Checked
import HardwareMediatek.Thermal.Throttling

/-!
# Power rails

A rail has a status once it is registered. Rails without samples, or without a
delay between samples, are configured but not registered. Sampling a rail can
be switched off; its history is then forgotten.
-/

namespace HardwareMediatek.Thermal

/-- The rails that are configured, and what is known about those that are registered. -/
structure PowerFiles where
  powerRailInfoMap : UnorderedMap String PowerRailInfo
  powerStatusMap : PowerStatusMap

/-- `std::chrono::milliseconds::max()`. -/
def maxMilliseconds : ℤ := 2 ^ 63 - 1

/-- Rails that are never sampled are skipped by `registerPowerRailsToWatch`. -/
def PowerRailInfo.sampled (info : PowerRailInfo) : Bool :=
  info.powerSampleCount ≠ 0 && info.powerSampleDelay ≠ maxMilliseconds

/-- The energy sources that the power of a rail is computed from. -/
def PowerRailInfo.sources (rail : String) (info : PowerRailInfo) : List String :=
  match info.virtualPowerRailInfo with
  | some virtualInfo =>
    if virtualInfo.linkedPowerRails ≠ [] then virtualInfo.linkedPowerRails else [rail]
  | none => [rail]

/-- A history for every source of a rail, full of its current sample; none when a source is not
found. -/
def powerHistory (energyInfoMap : UnorderedMap String PowerSample) (count : ℤ) :
    List String → Option (List (List PowerSample))
  | [] => some []
  | source :: rest => do
    let currSample ← energyInfoMap.lookup source
    let histories ← powerHistory energyInfoMap count rest
    some (List.replicate count.toNat currSample :: histories)

/-- The loop of `registerPowerRailsToWatch`. -/
def registerPowerRails (energyInfoMap : UnorderedMap String PowerSample) :
    List (Sigma fun _ : String ↦ PowerRailInfo) → PowerStatusMap → Option PowerStatusMap
  | [], powerStatusMap => some powerStatusMap
  | ⟨rail, info⟩ :: rest, powerStatusMap =>
    if info.sampled then do
      let history ← powerHistory energyInfoMap info.powerSampleCount (info.sources rail)
      registerPowerRails energyInfoMap rest (powerStatusMap.put rail
        { lastUpdateTime := minTimePoint
          powerHistory := history
          lastUpdatedAvgPower := .nan
          enabled := true })
    else registerPowerRails energyInfoMap rest powerStatusMap

/-- The samples of a rail whose sampling is switched off. -/
def forgetSamples (status : PowerStatus) : PowerStatus :=
  { status with
    powerHistory := status.powerHistory.map fun history ↦ history.map fun _ ↦ ⟨0, 0⟩
    lastUpdatedAvgPower := .nan }

/-- An unknown rail is only logged; a rail that is known must have a status. -/
def powerSamplingSwitch (powerRail : String) (enabled : Bool) (files : PowerFiles) :
    Checked PowerFiles :=
  if powerRail ∈ files.powerRailInfoMap then do
    let status ← atKey files.powerStatusMap powerRail
    let status := { status with enabled := enabled }
    pure { files with
      powerStatusMap :=
        files.powerStatusMap.put powerRail (if enabled then status else forgetSamples status) }
  else .ok files

end HardwareMediatek.Thermal
