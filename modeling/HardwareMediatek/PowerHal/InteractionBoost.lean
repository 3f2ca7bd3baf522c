import HardwareMediatek.Foundation.ClockTimes
import HardwareMediatek.Foundation.EffectRuns

/-!
# Interaction boosts

A hint asks for a boost, unless the last boost was just issued or lasts until the new one would end. The
time since the last boost is in microseconds, and the durations it is compared with are in milliseconds.
The members that remember the last boost have no value before the first one.
-/

namespace HardwareMediatek.PowerHal

open Foundation

def kDefaultTouchBoostDuration : ℤ := 1
def kMaxInteractiveDuration : ℤ := 5000
def kMinInteractiveDuration : ℤ := 400
def kMaxTouchBoostDuration : ℤ := 1000

def mtkpowerHintAppTouch : ℤ := 25
def mtkpowerHintUxScrolling : ℤ := 43

structure Power where
  mPreviousInteractionTime : Timespec
  mTouchBoostDuration : ℤ
  mPreviousInteractionDuration : ℤ
  mPreviousInteractionHandle : ℤ
deriving DecidableEq, Repr

/-- A call of `handleInteractionHint`, with the clock and the handle that the library returns. -/
structure HintCall where
  targetDuration : ℤ
  now : Timespec
  handle : ℤ
deriving DecidableEq, Repr

inductive PowerEffect where
  /-- a boost that is asked for at some time, with the handle that is returned -/
  | cusLockHint (time : Timespec) (hint durationMs handle : ℤ)
  | lockRel (handle : ℤ)
deriving DecidableEq, Repr

/-- The constructor sets one member and leaves the others as they are found. -/
def construct (touchBoostDuration : ℤ) (found : Power) : Power :=
  { found with
    mTouchBoostDuration :=
      if touchBoostDuration < 0 ∨ kMaxTouchBoostDuration < touchBoostDuration then
        kDefaultTouchBoostDuration
      else touchBoostDuration }

/-- The time between, in microseconds. Division rounds towards zero. -/
def calcTimespanUs (start finish : Timespec) : ℤ :=
  (finish.tv_sec - start.tv_sec) * 1000000 + (finish.tv_nsec - start.tv_nsec).tdiv 1000

/-- `durationMs` for a hint. -/
def effectiveDuration (targetDuration : ℤ) : ℤ :=
  if kMinInteractiveDuration < targetDuration then
    if kMaxInteractiveDuration < targetDuration then kMaxInteractiveDuration else targetDuration
  else kMinInteractiveDuration

/-- The boost is left out. -/
def Skips (previousTime : Timespec) (previousDuration : ℤ) (now : Timespec) (durationMs : ℤ) : Prop :=
  calcTimespanUs previousTime now < 250000 ∧ durationMs ≤ 750 ∨
    durationMs ≤ previousDuration ∧ calcTimespanUs previousTime now ≤ previousDuration - durationMs

instance (previousTime : Timespec) (previousDuration : ℤ) (now : Timespec) (durationMs : ℤ) :
    Decidable (Skips previousTime previousDuration now durationMs) :=
  inferInstanceAs (Decidable (_ ∨ _))

/-- The new boost is asked for before the handle of the previous one is released. -/
def Power.issueBoost (power : Power) (now : Timespec) (durationMs interactionHandle : ℤ) :
    Power × List PowerEffect :=
  ({ power with
    mPreviousInteractionTime := now
    mPreviousInteractionDuration := durationMs
    mPreviousInteractionHandle := interactionHandle },
    .cusLockHint now mtkpowerHintUxScrolling durationMs interactionHandle ::
      if 0 < power.mPreviousInteractionHandle then [.lockRel power.mPreviousInteractionHandle] else [])

def handleInteractionHint (power : Power) (call : HintCall) : Power × List PowerEffect :=
  if call.targetDuration = 0 then
    if power.mTouchBoostDuration = 0 then (power, [])
    else (power, [.cusLockHint call.now mtkpowerHintAppTouch power.mTouchBoostDuration call.handle])
  else
    let durationMs := effectiveDuration call.targetDuration
    if Skips power.mPreviousInteractionTime power.mPreviousInteractionDuration call.now durationMs then
      (power, [])
    else power.issueBoost call.now durationMs call.handle

def hintStep (run : Power × List PowerEffect) (call : HintCall) : Power × List PowerEffect :=
  ((handleInteractionHint run.1 call).1, run.2 ++ (handleInteractionHint run.1 call).2)

/-- The members and the calls of the library after some hints. -/
def hintRun (start : Power) (calls : List HintCall) : Power × List PowerEffect :=
  calls.foldl hintStep (start, [])

/-! ## What is right -/

/-- An interaction boost, as it was issued. -/
structure Boost where
  time : Timespec
  durationMs : ℤ
deriving DecidableEq, Repr

def nanosPerMs : ℤ := 1000000

/-- The boost came less than 250 ms ago. -/
def Boost.IsRecent (boost : Boost) (now : Timespec) : Prop :=
  now.nanos - boost.time.nanos < 250 * nanosPerMs

/-- The boost ends no earlier than another one that starts now. -/
def Boost.Covers (boost : Boost) (now : Timespec) (durationMs : ℤ) : Prop :=
  now.nanos + durationMs * nanosPerMs ≤ boost.time.nanos + boost.durationMs * nanosPerMs

def PowerEffect.boost : PowerEffect → Option Boost
  | .cusLockHint time hint durationMs _ =>
    if hint = mtkpowerHintUxScrolling then some ⟨time, durationMs⟩ else none
  | .lockRel _ => none

def lastBoost (effects : List PowerEffect) : Option Boost := (effects.filterMap PowerEffect.boost).getLast?

/-- The interaction handles that are held after an effect. -/
def heldAfter (handles : List ℤ) : PowerEffect → List ℤ
  | .cusLockHint _ hint _ handle =>
    if hint = mtkpowerHintUxScrolling ∧ 0 < handle then handle :: handles else handles
  | .lockRel handle => handles.erase handle

/-- The interaction handles that have been returned and not been released. -/
def unreleased (effects : List PowerEffect) : List ℤ := effects.foldl heldAfter []

/-- A hint after some others issues no boost exactly when the last one is recent enough or covers it. -/
def HintRight (start : Power) (before : List HintCall) (call : HintCall) : Prop :=
  call.targetDuration ≠ 0 →
    (lastBoost (handleInteractionHint (hintRun start before).1 call).2 = none ↔
      ∃ boost ∈ lastBoost (hintRun start before).2,
        boost.IsRecent call.now ∧ effectiveDuration call.targetDuration ≤ 750 ∨
          boost.Covers call.now (effectiveDuration call.targetDuration))

structure BoostsRight (start : Power) (calls : List HintCall) : Prop where
  hints : EachAfter (HintRight start) calls
  handles : ∀ before, before <+: calls → (unreleased (hintRun start before).2).length ≤ 1

/-- Microseconds tell whether the boost is recent enough or covers a hint. A boost that covers a hint is
no older than the difference of the durations, in microseconds, or it is recent; one that is recent is
so after rounding; and one that is just as long is as old as a microsecond if it is older at all. -/
structure Boost.Tells (boost : Boost) (now : Timespec) (durationMs : ℤ) : Prop where
  covering : boost.Covers now durationMs →
    durationMs ≤ boost.durationMs ∧ calcTimespanUs boost.time now ≤ boost.durationMs - durationMs ∨
      boost.IsRecent now ∧ durationMs ≤ 750
  recent : boost.IsRecent now → durationMs ≤ 750 → calcTimespanUs boost.time now < 250000
  equal : boost.durationMs = durationMs → 750 < durationMs →
    calcTimespanUs boost.time now ≤ 0 → now.nanos ≤ boost.time.nanos

/-- The members that have no value do not keep the first boost back, and after it the last boost tells in
microseconds what is asked in milliseconds. -/
def HintTold (start : Power) (before : List HintCall) (call : HintCall) : Prop :=
  call.targetDuration ≠ 0 →
    match lastBoost (hintRun start before).2 with
    | none => ¬ Skips start.mPreviousInteractionTime start.mPreviousInteractionDuration call.now
        (effectiveDuration call.targetDuration)
    | some boost => boost.Tells call.now (effectiveDuration call.targetDuration)

section Durations

theorem effectiveDuration_bounds (targetDuration : ℤ) :
    400 ≤ effectiveDuration targetDuration ∧ effectiveDuration targetDuration ≤ 5000 := by
  unfold effectiveDuration kMinInteractiveDuration kMaxInteractiveDuration
  split_ifs <;> omega

/-- A time span is rounded to microseconds, up or down. -/
theorem calcTimespanUs_bounds (start finish : Timespec) :
    finish.nanos - start.nanos < calcTimespanUs start finish * 1000 + 1000 ∧
      calcTimespanUs start finish * 1000 - 1000 < finish.nanos - start.nanos := by
  unfold calcTimespanUs Timespec.nanos nanosPerSec
  have hsum := Int.mul_tdiv_add_tmod (finish.tv_nsec - start.tv_nsec) 1000
  have hlt := Int.tmod_lt_of_pos (finish.tv_nsec - start.tv_nsec) (by decide : (0 : ℤ) < 1000)
  have hgt := Int.lt_tmod_of_pos (finish.tv_nsec - start.tv_nsec) (by decide : (0 : ℤ) < 1000)
  omega

/-- The code keeps back the right boosts where its microseconds tell. -/
theorem skips_iff_tells {boost : Boost} (hboost : boost.durationMs ≤ 5000) (now : Timespec)
    (targetDuration : ℤ) :
    (Skips boost.time boost.durationMs now (effectiveDuration targetDuration) ↔
      boost.IsRecent now ∧ effectiveDuration targetDuration ≤ 750 ∨
        boost.Covers now (effectiveDuration targetDuration)) ↔
      boost.Tells now (effectiveDuration targetDuration) := by
  have hspan := calcTimespanUs_bounds boost.time now
  have hduration := effectiveDuration_bounds targetDuration
  unfold Skips
  constructor
  · intro h
    apply Boost.Tells.mk
    all_goals
      unfold Boost.IsRecent Boost.Covers nanosPerMs at *
      omega
  · intro h
    obtain ⟨hcovering, hrecent, hequal⟩ := h
    unfold Boost.IsRecent Boost.Covers nanosPerMs at *
    omega

end Durations

section Runs

variable {start power : Power} {effects : List PowerEffect}

/-- What a call comes to: nothing, a touch boost, or an interaction boost. -/
inductive HintCase (power : Power) (call : HintCall) : Power × List PowerEffect → Prop where
  | quiet (h : call.targetDuration ≠ 0 → Skips power.mPreviousInteractionTime
      power.mPreviousInteractionDuration call.now (effectiveDuration call.targetDuration)) :
      HintCase power call (power, [])
  | touch (htouch : call.targetDuration = 0) : HintCase power call
      (power, [.cusLockHint call.now mtkpowerHintAppTouch power.mTouchBoostDuration call.handle])
  | boost (hne : call.targetDuration ≠ 0) (h : ¬ Skips power.mPreviousInteractionTime
      power.mPreviousInteractionDuration call.now (effectiveDuration call.targetDuration)) :
      HintCase power call
        (power.issueBoost call.now (effectiveDuration call.targetDuration) call.handle)

theorem hintCase (power : Power) (call : HintCall) :
    HintCase power call (handleInteractionHint power call) := by
  unfold handleInteractionHint
  dsimp only
  split_ifs with htouch hoff hskips
  · exact HintCase.quiet fun hne ↦ absurd htouch hne
  · exact HintCase.touch htouch
  · exact HintCase.quiet fun _ ↦ hskips
  · exact HintCase.boost htouch hskips

theorem lastBoost_append (earlier later : List PowerEffect) :
    lastBoost (earlier ++ later) = (lastBoost later).or (lastBoost earlier) := by
  unfold lastBoost
  rw [List.filterMap_append, List.getLast?_append]

theorem unreleased_append (earlier later : List PowerEffect) :
    unreleased (earlier ++ later) = later.foldl heldAfter (unreleased earlier) :=
  List.foldl_append

@[simp]
theorem lastBoost_nil : lastBoost [] = none := rfl

@[simp]
theorem lastBoost_touch (now : Timespec) (durationMs handle : ℤ) :
    lastBoost [.cusLockHint now mtkpowerHintAppTouch durationMs handle] = none := rfl

@[simp]
theorem lastBoost_issueBoost (power : Power) (now : Timespec) (durationMs handle : ℤ) :
    lastBoost (power.issueBoost now durationMs handle).2 = some ⟨now, durationMs⟩ := by
  unfold Power.issueBoost
  dsimp only
  split <;> rfl

/-- The members remember the last boost, and the handle that may be unreleased. -/
structure Remembers (start : Power) (run : Power × List PowerEffect) : Prop where
  unset : lastBoost run.2 = none →
    run.1.mPreviousInteractionTime = start.mPreviousInteractionTime ∧
      run.1.mPreviousInteractionDuration = start.mPreviousInteractionDuration
  remembered : ∀ boost ∈ lastBoost run.2, run.1.mPreviousInteractionTime = boost.time ∧
    run.1.mPreviousInteractionDuration = boost.durationMs ∧ boost.durationMs ≤ 5000
  handles : unreleased run.2 = [] ∨
    0 < run.1.mPreviousInteractionHandle ∧ unreleased run.2 = [run.1.mPreviousInteractionHandle]

theorem remembers_start (start : Power) : Remembers start (start, []) where
  unset _ := ⟨rfl, rfl⟩
  remembered _ hboost := nomatch hboost
  handles := Or.inl rfl

/-- The handle that was held is released, and the new one is held. -/
theorem unreleased_issueBoost (now : Timespec) (durationMs handle : ℤ)
    (h : unreleased effects = [] ∨
      0 < power.mPreviousInteractionHandle ∧ unreleased effects = [power.mPreviousInteractionHandle]) :
    unreleased (effects ++ (power.issueBoost now durationMs handle).2) = [] ∨
      0 < handle ∧ unreleased (effects ++ (power.issueBoost now durationMs handle).2) = [handle] := by
  rw [unreleased_append]
  unfold Power.issueBoost
  dsimp only
  rw [List.foldl_cons, heldAfter]
  by_cases hhandle : 0 < handle
  · rw [if_pos ⟨rfl, hhandle⟩]
    rcases h with hnone | ⟨hheld, hone⟩
    · rw [hnone]
      split
      · rw [List.foldl_cons, List.foldl_nil, heldAfter]
        by_cases hsame : handle = power.mPreviousInteractionHandle
        · exact Or.inl (by rw [hsame, List.erase_cons_head])
        · exact Or.inr ⟨hhandle, List.erase_of_not_mem fun hmem ↦
            hsame (List.mem_singleton.mp hmem).symm⟩
      · exact Or.inr ⟨hhandle, rfl⟩
    · rw [hone, if_pos hheld, List.foldl_cons, List.foldl_nil, heldAfter]
      apply Or.inr
      apply And.intro hhandle
      by_cases hsame : handle = power.mPreviousInteractionHandle
      · rw [hsame, List.erase_cons_head]
      · rw [List.erase_cons_tail (by simpa using hsame), List.erase_cons_head]
  · rw [if_neg fun hholds ↦ hhandle hholds.2]
    apply Or.inl
    rcases h with hnone | ⟨hheld, hone⟩
    · rw [hnone]
      split <;> rfl
    · rw [hone, if_pos hheld, List.foldl_cons, List.foldl_nil, heldAfter, List.erase_cons_head]

theorem Remembers.step {run : Power × List PowerEffect} (h : Remembers start run) (call : HintCall) :
    Remembers start (hintStep run call) := by
  obtain ⟨power, effects⟩ := run
  have hcase := hintCase power call
  unfold hintStep
  dsimp only
  generalize handleInteractionHint power call = done at hcase
  cases hcase with
  | quiet _ =>
    rw [List.append_nil]
    exact h
  | touch _ =>
    have hlast : lastBoost (effects ++
        [.cusLockHint call.now mtkpowerHintAppTouch power.mTouchBoostDuration call.handle]) =
          lastBoost effects := by
      rw [lastBoost_append, lastBoost_touch, Option.none_or]
    have hheld : unreleased (effects ++
        [.cusLockHint call.now mtkpowerHintAppTouch power.mTouchBoostDuration call.handle]) =
          unreleased effects := by
      rw [unreleased_append, List.foldl_cons, List.foldl_nil, heldAfter]
      exact if_neg fun hhint ↦ absurd hhint.1 (by decide)
    exact ⟨fun hnone ↦ h.unset (hlast ▸ hnone), fun boost hboost ↦ h.remembered boost (hlast ▸ hboost),
      hheld ▸ h.handles⟩
  | boost _ _ =>
    have hlast : lastBoost (effects ++
        (power.issueBoost call.now (effectiveDuration call.targetDuration) call.handle).2) =
          some ⟨call.now, effectiveDuration call.targetDuration⟩ := by
      rw [lastBoost_append, lastBoost_issueBoost, Option.some_or]
    apply Remembers.mk
    · exact fun hnone ↦ nomatch hlast.symm.trans hnone
    · intro boost hboost
      rw [← Option.some.inj (hlast.symm.trans hboost)]
      exact ⟨rfl, rfl, (effectiveDuration_bounds _).2⟩
    · exact unreleased_issueBoost _ _ _ h.handles

theorem remembers_hintRun (start : Power) (calls : List HintCall) :
    Remembers start (hintRun start calls) := by
  induction calls using List.reverseRecOn with
  | nil => exact remembers_start start
  | append_singleton calls call ih =>
    have hconcat : hintRun start (calls ++ [call]) = hintStep (hintRun start calls) call := by
      unfold hintRun
      rw [List.foldl_concat]
    rw [hconcat]
    exact ih.step call

/-- After every call at most one handle is unreleased. -/
theorem length_unreleased_le (start : Power) (calls : List HintCall) :
    (unreleased (hintRun start calls).2).length ≤ 1 := by
  rcases (remembers_hintRun start calls).handles with hnone | ⟨-, hone⟩
  · rw [hnone]
    exact Nat.zero_le 1
  · rw [hone]
    exact Nat.le_refl 1

theorem lastBoost_handleInteractionHint (power : Power) {call : HintCall}
    (hne : call.targetDuration ≠ 0) :
    lastBoost (handleInteractionHint power call).2 = none ↔ Skips power.mPreviousInteractionTime
      power.mPreviousInteractionDuration call.now (effectiveDuration call.targetDuration) := by
  have hcase := hintCase power call
  generalize handleInteractionHint power call = done at hcase
  cases hcase with
  | quiet h => exact iff_of_true rfl (h hne)
  | touch htouch => exact absurd htouch hne
  | boost _ h =>
    rw [lastBoost_issueBoost]
    exact iff_of_false nofun h

theorem hintRight_iff (start : Power) (before : List HintCall) (call : HintCall) :
    HintRight start before call ↔ HintTold start before call := by
  have hinv := remembers_hintRun start before
  unfold HintRight HintTold
  apply imp_congr_right
  intro hne
  rw [lastBoost_handleInteractionHint _ hne]
  cases hlast : lastBoost (hintRun start before).2 with
  | none =>
    rw [(hinv.unset hlast).1, (hinv.unset hlast).2]
    exact iff_false_right fun h ↦ nomatch h
  | some boost =>
    obtain ⟨htime, hduration, hle⟩ := hinv.remembered boost hlast
    dsimp only
    rw [htime, hduration, ← skips_iff_tells hle]
    apply iff_congr Iff.rfl _
    constructor
    · intro h
      obtain ⟨boost', hboost', hholds⟩ := h
      rwa [← Option.some.inj hboost'] at hholds
    · exact fun hholds ↦ ⟨boost, rfl, hholds⟩

/-- The boosts are right along a sequence of hints exactly when microseconds tell, at each hint, what is
asked in milliseconds. -/
theorem boostsRight_iff (start : Power) (calls : List HintCall) :
    BoostsRight start calls ↔ EachAfter (HintTold start) calls := by
  have hhints : EachAfter (HintRight start) calls ↔ EachAfter (HintTold start) calls := by
    apply eachAfter_congr
    intro before call _ _ _ _
    exact hintRight_iff start before call
  rw [← hhints]
  constructor
  · exact fun h ↦ h.hints
  · exact fun h ↦ ⟨h, fun before _ ↦ length_unreleased_le start before⟩

/-- A boost of five seconds is followed by one of a second that it covers. -/
theorem boostsRight_covered_not :
    ¬ BoostsRight (construct 1 ⟨⟨0, 0⟩, 0, 0, 0⟩) [⟨5000, ⟨10, 0⟩, 1⟩, ⟨1000, ⟨11, 0⟩, 2⟩] := by
  intro h
  have hright := h.hints [⟨5000, ⟨10, 0⟩, 1⟩] ⟨1000, ⟨11, 0⟩, 2⟩ [] rfl (by decide)
  have hnone := hright.mpr ⟨⟨⟨10, 0⟩, 5000⟩, by decide, Or.inr (by unfold Boost.Covers; decide)⟩
  exact absurd hnone (by decide)

end Runs

end HardwareMediatek.PowerHal
