import HardwareMediatek.Thermal.HelperFrames

/-!
# What the commands for emulation do

A command changes the overrides of its target and of the watched sensors that are computed from it. What
it does to one sensor does not depend on the others.
-/

namespace HardwareMediatek.Thermal

open Foundation Relation UnorderedMap

section Commands

variable {sensorInfoMap : SensorInfoMap} {sensors : Set String} {fuel : ℕ} {m m' : SensorStatusMap}
  {name target : String}

theorem changeOverride_eq_ok {change : OverrideStatus → OverrideStatus}
    (hchange : changeOverride name change m = .ok m') :
    ChangesAt name (fun status ↦ { status with overrideStatus := change status.overrideStatus }) m
      m' := by
  unfold changeOverride at hchange
  cases hstatus : m.lookup name with
  | none =>
    rw [hstatus] at hchange
    cases hchange
  | some status =>
    rw [hstatus] at hchange
    rw [← Except.ok.inj hchange]
    exact changesAt_assign hstatus

/-! ## What is marked -/

/-- The commands mark sensors of the isolated set that the target is in. -/
theorem checkUpdateSensorForEmul_changesWithin (hisolated : IsIsolated sensorInfoMap sensors)
    {maxThrottling : Bool} (htarget : target ∈ sensors) {m₀ : SensorStatusMap}
    (h : ChangesWithin sensors m₀ m)
    (hcheck : checkUpdateSensorForEmul sensorInfoMap maxThrottling fuel target m = .ok m') :
    ChangesWithin sensors m₀ m' := by
  induction fuel generalizing target m m' with
  | zero => cases hcheck
  | succ fuel ih =>
    apply foldlM_keeps _ h hcheck
    intro entry hentry m m' h hround
    by_cases hrelated : entry.2.isRelatedTo target = true
    · rw [if_pos hrelated] at hround
      have hname : entry.1 ∈ sensors := by
        have hconnected : target ∈ linkedSensorsOf sensorInfoMap entry.1 := by
          unfold SensorInfo.isRelatedTo at hrelated
          rw [Bool.and_eq_true, Option.any_eq_true] at hrelated
          obtain ⟨virtualInfo, hvirtual⟩ := hrelated.2
          unfold linkedSensorsOf
          rw [lookup_of_mem_entries hentry, Option.bind_some, hvirtual.1]
          exact of_decide_eq_true hvirtual.2
        exact (hisolated entry.1 target (Or.inr (Or.inr (Or.inr hconnected)))).mpr htarget
      obtain ⟨middle, hmiddle⟩ := bind_eq_ok.mp hround
      exact ih hname (h.trans ((changeOverride_eq_ok hmiddle.1).within hname)) hmiddle.2
    · rw [if_neg hrelated] at hround
      rw [← Except.ok.inj hround]
      exact h

theorem overrideTarget_changesWithin (hisolated : IsIsolated sensorInfoMap sensors)
    {override : OverrideStatus} (htarget : target ∈ sensors)
    (hoverride : overrideTarget sensorInfoMap fuel m target override = .ok m') :
    ChangesWithin sensors m m' := by
  obtain ⟨middle, hmiddle⟩ := bind_eq_ok.mp hoverride
  exact checkUpdateSensorForEmul_changesWithin hisolated htarget
    ((changeOverride_eq_ok hmiddle.1).within htarget) hmiddle.2

theorem emulTemp_changesWithin (hisolated : IsIsolated sensorInfoMap sensors) {temp : ExactFloat}
    {maxThrottling answer : Bool} (htarget : target ∈ sensors)
    (hemul : emulTemp sensorInfoMap fuel m target temp maxThrottling = .ok (m', answer)) :
    ChangesWithin sensors m m' := by
  unfold emulTemp at hemul
  split at hemul
  · obtain ⟨final, hfinal⟩ := bind_eq_ok.mp hemul
    rw [← (ok_pair hfinal.2).1]
    exact overrideTarget_changesWithin hisolated htarget hfinal.1
  · rw [← (ok_pair hemul).1]
    exact ChangesWithin.refl _ _

theorem emulSeverity_changesWithin (hisolated : IsIsolated sensorInfoMap sensors) {severity : ℤ}
    {maxThrottling answer : Bool} (htarget : target ∈ sensors)
    (hemul : emulSeverity sensorInfoMap fuel m target severity maxThrottling = .ok (m', answer)) :
    ChangesWithin sensors m m' := by
  unfold emulSeverity at hemul
  split at hemul
  · split at hemul
    · rw [← (ok_pair hemul).1]
      exact ChangesWithin.refl _ _
    · split at hemul
      · cases hemul
      · obtain ⟨final, hfinal⟩ := bind_eq_ok.mp hemul
        rw [← (ok_pair hfinal.2).1]
        exact overrideTarget_changesWithin hisolated htarget hfinal.1
  · rw [← (ok_pair hemul).1]
    exact ChangesWithin.refl _ _

theorem overrideTarget_keys {override : OverrideStatus}
    (hoverride : overrideTarget sensorInfoMap fuel m target override = .ok m') : m'.keys = m.keys := by
  have hisolated : IsIsolated sensorInfoMap Set.univ := fun _ _ _ ↦ Iff.rfl
  exact (overrideTarget_changesWithin hisolated (Set.mem_univ target) hoverride).keys

theorem emulClear_keys {answer : Bool}
    (hclear : emulClear sensorInfoMap fuel m target = .ok (m', answer)) : m'.keys = m.keys := by
  unfold emulClear at hclear
  split at hclear
  · obtain ⟨final, hfinal⟩ := bind_eq_ok.mp hclear
    rw [← (ok_pair hfinal.2).1]
    let P : SensorStatusMap → Prop := fun other ↦ other.keys = m.keys
    apply foldlM_keeps (P := P) _ rfl hfinal.1
    exact fun name _ other other' h hoverride ↦ (overrideTarget_keys hoverride).trans h
  · split at hclear
    · obtain ⟨final, hfinal⟩ := bind_eq_ok.mp hclear
      rw [← (ok_pair hfinal.2).1]
      exact overrideTarget_keys hfinal.1
    · rw [← (ok_pair hclear).1]

end Commands

end HardwareMediatek.Thermal
