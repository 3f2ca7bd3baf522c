import HardwareMediatek.Foundation.EffectRuns
import HardwareMediatek.Wifi.InterfaceEnumeration
import Mathlib.Tactic.Common

/-!
# The end of the event loop

A handle of the Wifi HAL from its initialization until its event loop has ended: the interfaces are enumerated
again and again, commands are started and cancelled, `wifi_cleanup` asks the event loop to end, and the event
loop, on a thread of its own, frees the handle. `wifi_cleanup` sets its flag and wakes the loop in two steps,
and the loop can end in between.

Steps that the framework does not take are left out: a call with an interface that was not reported last,
and calls after `wifi_cleanup`.
-/

namespace HardwareMediatek.Wifi

open Foundation

inductive EventLoop where
  | notStarted
  | polling
  | awake
deriving DecidableEq, Repr

/-- How far `wifi_cleanup` has come. -/
inductive CleanupProgress where
  | notCalled
  | flagged
  | returned (written : Bool)
deriving DecidableEq, Repr

/-- What the rest of the system sees of `hal_info`. The pointer `interfaces` stands for the number of entries
written by the enumeration that set it, and the commands of the table for their ids. -/
structure HalHandle where
  interfaces : Option ℕ
  num_interfaces : ℕ
  commands : List ℤ
  cleaned_up_handler : Option ℕ
  cleanup : CleanupProgress
  loop : EventLoop
deriving DecidableEq, Repr

/-- `info->clean_up`. -/
def HalHandle.cleanUp (handle : HalHandle) : Bool := handle.cleanup ≠ .notCalled

/-- The pointer `cleaned_up_handler` is called, which may be `NULL`. -/
structure CleanedUp where
  handler : Option ℕ
deriving DecidableEq, Repr

/-- `wifi_init_interfaces`. The pointer is not touched before the array is allocated, becomes `NULL` where
there is no memory for it, and is left as it is where there is none for an entry. -/
def HalHandle.initInterfaces (handle : HalHandle) (env : EnumerationEnv) : HalHandle :=
  let table := (wifiInitInterfaces env ⟨fun _ ↦ none, 0, handle.num_interfaces, []⟩).2
  match env.counted, env.filled with
  | some counted, some _ =>
    if counted.countP isCounted = 0 then handle
    else if env.arrayMalloc then
      { handle with interfaces := some table.writes.length, num_interfaces := table.num_interfaces }
    else { handle with interfaces := none }
  | _, _ => handle

/-- The interfaces that `wifi_get_ifaces` frees before it enumerates them. -/
def HalHandle.freeInterfaces (handle : HalHandle) : HalHandle :=
  if 0 < handle.num_interfaces then { handle with interfaces := none, num_interfaces := 0 } else handle

/-- The interface that a caller names is one of those that were reported last. -/
def HalHandle.reported (handle : HalHandle) (index : ℕ) : Bool :=
  handle.interfaces.any fun filled ↦ index < min handle.num_interfaces filled

/-! ## Steps -/

/-- What `poll` reports for the socket of the events, or an error. -/
inductive PollResult where
  | failed
  | ready (err hup pollin : Bool)
deriving DecidableEq, Repr

inductive HalStep where
  | getIfaces (env : EnumerationEnv)
  /-- a request that the driver accepted -/
  | startCommand (id : ℤ) (index : ℕ)
  | cancelCommand (id : ℤ) (index : ℕ)
  /-- a completion event takes the first command with the id from the table -/
  | completeCommand (id : ℤ)
  | eventLoop
  /-- `wifi_cleanup` up to the flag -/
  | cleanup (handler : ℕ)
  /-- the write that wakes the loop, and whether it succeeds -/
  | writeExit (written : Bool)
  | poll (result : PollResult)
  /-- the condition at the end of a round -/
  | testCleanUp

inductive HalSystem where
  | live (handle : HalHandle)
  /-- the event loop has ended; `wifi_cleanup` may still be about to write -/
  | ended (writing : Bool)
deriving DecidableEq, Repr

/-- `internal_cleaned_up_handler` -/
def HalHandle.endLoop (handle : HalHandle) : HalSystem × List CleanedUp :=
  (.ended (handle.cleanup = .flagged), [⟨handle.cleaned_up_handler⟩])

/-- A round of the loop after `poll`. -/
def HalHandle.polled (handle : HalHandle) : PollResult → HalSystem × List CleanedUp
  | .failed => (.live { handle with loop := .awake }, [])
  | .ready err hup _ =>
    if !err && hup then handle.endLoop else (.live { handle with loop := .awake }, [])

/-- `poll` returns when it fails or something is ready. -/
def HalHandle.Returns (handle : HalHandle) : PollResult → Bool
  | .failed => true
  | .ready err hup pollin => err || hup || pollin || handle.cleanup = .returned true

def HalHandle.step (handle : HalHandle) : HalStep → Option (HalSystem × List CleanedUp)
  | .getIfaces env =>
    if handle.cleanup = .notCalled then some (.live (handle.freeInterfaces.initInterfaces env), []) else none
  | .startCommand id index =>
    if handle.cleanup = .notCalled ∧ handle.reported index then
      some (.live { handle with commands := handle.commands ++ [id] }, [])
    else none
  | .cancelCommand id index =>
    if handle.cleanup = .notCalled ∧ handle.reported index then
      some (.live { handle with commands := handle.commands.erase id }, [])
    else none
  | .completeCommand id =>
    if handle.loop = .awake then some (.live { handle with commands := handle.commands.erase id }, [])
    else none
  | .eventLoop =>
    if handle.loop = .notStarted then some (.live { handle with loop := .polling }, []) else none
  | .cleanup handler =>
    if handle.cleanup = .notCalled then
      some (.live { handle with cleaned_up_handler := some handler, cleanup := .flagged }, [])
    else none
  | .writeExit written =>
    if handle.cleanup = .flagged then some (.live { handle with cleanup := .returned written }, [])
    else none
  | .poll result =>
    if handle.loop = .polling ∧ handle.Returns result then some (handle.polled result) else none
  | .testCleanUp =>
    if handle.loop = .awake then
      if handle.cleanUp then some handle.endLoop else some (.live { handle with loop := .polling }, [])
    else none

/-- Behind its end the loop does nothing, and `wifi_cleanup` writes to the socket in `hal_info`. -/
def HalSystem.step : HalSystem → HalStep → Option (HalSystem × List CleanedUp)
  | .live handle, next => handle.step next
  | .ended true, .writeExit _ => some (.ended false, [])
  | _, _ => none

/-! ## Progress -/

section Progress

variable {handle : HalHandle}

/-- What the event loop does when nothing comes from the kernel. -/
def HalStep.isOfLoop : HalStep → Prop
  | .poll (.ready false false false) | .testCleanUp => True
  | _ => False

def HalSystem.hasEnded : HalSystem → Prop
  | .ended _ => True
  | .live _ => False

/-- The loop waits for an event that does not come. -/
def HalSystem.waits : HalSystem → Prop
  | .live handle => handle.loop = .polling ∧ handle.cleanup = .returned false
  | .ended _ => False

theorem canReach_ended_of_awake (hflag : handle.cleanUp = true) (hloop : handle.loop = .awake) :
    CanReach HalSystem.step HalStep.isOfLoop HalSystem.hasEnded (.live handle) := by
  apply CanReach.next (t := .testCleanUp) trivial
  · change (if _ then _ else _) = _
    rw [if_pos hloop, if_pos hflag]
  · exact .here trivial

def HalStep.isPoll : HalStep → Bool
  | .poll _ => true
  | _ => false

/-- `wifi_cleanup` has set its flag, and the handler before it. -/
def HalSystem.flagged (handler : Option ℕ) : HalSystem → Prop
  | .live handle => handle.cleanUp = true ∧ handle.cleaned_up_handler = handler
  | .ended _ => True

/-- How often `poll` can return behind the flag. -/
def HalSystem.pollsLeft : HalSystem → ℕ
  | .live handle => if handle.loop = .awake then 0 else 1
  | .ended _ => 0

/-- The calls of the handler, once the loop has ended. -/
def HalSystem.calls (handler : Option ℕ) : HalSystem → List CleanedUp
  | .live _ => []
  | .ended _ => [⟨handler⟩]

/-- Behind the flag a step keeps the flag and the handler, calls the handler when it ends the loop, and
uses up a return of `poll`. -/
structure HalHandle.KeepsFlag (handle : HalHandle) (next : HalStep) (final : HalSystem)
    (new : List CleanedUp) : Prop where
  flagged : final.flagged handle.cleaned_up_handler
  calls : new = final.calls handle.cleaned_up_handler
  polls : final.pollsLeft + (if next.isPoll then 1 else 0) ≤ (HalSystem.live handle).pollsLeft

theorem HalHandle.keepsFlag_endLoop {next : HalStep}
    (hpolls : (if next.isPoll then 1 else 0) ≤ (HalSystem.live handle).pollsLeft) :
    handle.KeepsFlag next handle.endLoop.1 handle.endLoop.2 where
  flagged := trivial
  calls := rfl
  polls := Nat.le_trans (Nat.le_of_eq (Nat.zero_add _)) hpolls

theorem HalHandle.step_flagged {next : HalStep} {final : HalSystem} {new : List CleanedUp}
    (hflag : handle.cleanUp = true) (hstep : handle.step next = some (final, new)) :
    handle.KeepsFlag next final new := by
  have hcalled : handle.cleanup ≠ .notCalled := of_decide_eq_true hflag
  cases next with
  | getIfaces env =>
    rw [HalHandle.step, if_neg hcalled] at hstep
    cases hstep
  | startCommand id index =>
    rw [HalHandle.step, if_neg fun h ↦ hcalled h.1] at hstep
    cases hstep
  | cancelCommand id index =>
    rw [HalHandle.step, if_neg fun h ↦ hcalled h.1] at hstep
    cases hstep
  | cleanup handler =>
    rw [HalHandle.step, if_neg hcalled] at hstep
    cases hstep
  | completeCommand id =>
    rw [HalHandle.step] at hstep
    split_ifs at hstep
    cases hstep
    exact ⟨⟨hflag, rfl⟩, rfl, Nat.le_refl _⟩
  | eventLoop =>
    rw [HalHandle.step] at hstep
    split_ifs at hstep with hloop
    cases hstep
    exact ⟨⟨hflag, rfl⟩, rfl, by simp [HalSystem.pollsLeft, HalStep.isPoll, hloop]⟩
  | writeExit written =>
    rw [HalHandle.step] at hstep
    split_ifs at hstep
    cases hstep
    exact ⟨⟨rfl, rfl⟩, rfl, Nat.le_refl _⟩
  | poll result =>
    rw [HalHandle.step] at hstep
    split_ifs at hstep with hpolling
    have hleft : (HalSystem.live handle).pollsLeft = 1 := by simp [HalSystem.pollsLeft, hpolling.1]
    have hawake : handle.KeepsFlag (.poll result) (.live { handle with loop := .awake }) [] :=
      ⟨⟨hflag, rfl⟩, rfl, Nat.le_of_eq hleft.symm⟩
    have hended : handle.KeepsFlag (.poll result) handle.endLoop.1 handle.endLoop.2 :=
      handle.keepsFlag_endLoop (Nat.le_of_eq hleft.symm)
    cases result with
    | failed =>
      cases hstep
      exact hawake
    | ready err hup pollin =>
      simp only [HalHandle.polled] at hstep
      split_ifs at hstep
      · cases hstep
        exact hended
      · cases hstep
        exact hawake
  | testCleanUp =>
    rw [HalHandle.step, if_pos hflag] at hstep
    split_ifs at hstep
    cases hstep
    exact handle.keepsFlag_endLoop (Nat.zero_le _)

/-- `poll` returns at most once behind the flag, and the handler is called at the end of the loop. -/
structure LastRound (handler : Option ℕ) (steps : List HalStep) (system : HalSystem)
    (effects : List CleanedUp) : Prop where
  flagged : system.flagged handler
  calls : effects = system.calls handler
  rounds : steps.countP HalStep.isPoll + system.pollsLeft ≤ 1

theorem LastRound.step {handler : Option ℕ} {steps : List HalStep} {system final : HalSystem}
    {effects new : List CleanedUp} {next : HalStep} (h : LastRound handler steps system effects)
    (hstep : system.step next = some (final, new)) :
    LastRound handler (steps ++ [next]) final (effects ++ new) := by
  have hrounds := h.rounds
  cases system with
  | live handle =>
    obtain ⟨hflag, rfl⟩ := h.flagged
    have hkeeps := HalHandle.step_flagged hflag hstep
    have hpolls := hkeeps.polls
    refine ⟨hkeeps.flagged, ?_, ?_⟩
    · rw [h.calls]
      exact hkeeps.calls
    · rw [List.countP_append, List.countP_singleton]
      omega
  | ended writing =>
    cases writing with
    | false => cases hstep
    | true =>
      cases next with
      | writeExit written =>
        cases hstep
        refine ⟨trivial, ?_, ?_⟩
        · rw [List.append_nil]
          exact h.calls
        · rw [List.countP_append]
          exact hrounds
      | _ => cases hstep

theorem lastRound_of_flag (hflag : handle.cleanUp = true) {steps : List HalStep} {final : HalSystem}
    {effects : List CleanedUp}
    (hrun : runSteps HalSystem.step (.live handle) steps = some (final, effects)) :
    LastRound handle.cleaned_up_handler steps final effects := by
  have hstart : LastRound handle.cleaned_up_handler [] (.live handle) [] := by
    refine ⟨⟨hflag, rfl⟩, rfl, ?_⟩
    simp only [HalSystem.pollsLeft, List.countP_nil]
    split_ifs <;> omega
  exact runSteps_keeps HalSystem.step (LastRound handle.cleaned_up_handler) hstart
    (fun _ _ _ _ _ _ h hstep ↦ h.step hstep) hrun

/-- Behind `wifi_cleanup` the loop ends by itself, unless it waits and the write has failed. Whatever
comes from the kernel, `poll` returns at most once more, and the handler is called when the loop has ended. -/
theorem cleanup_ends_iff {written : Bool} (hreturned : handle.cleanup = .returned written)
    (hstarted : handle.loop ≠ .notStarted) :
    (CanReach HalSystem.step HalStep.isOfLoop HalSystem.hasEnded (.live handle) ↔
      written = true ∨ handle.loop = .awake) ∧
      ∀ steps final effects, runSteps HalSystem.step (.live handle) steps = some (final, effects) →
        steps.countP HalStep.isPoll ≤ 1 ∧ effects = final.calls handle.cleaned_up_handler := by
  have hflag : handle.cleanUp = true := by simp [HalHandle.cleanUp, hreturned]
  refine ⟨?_, fun steps final effects hrun ↦
    ⟨Nat.le_of_add_right_le (lastRound_of_flag hflag hrun).rounds, (lastRound_of_flag hflag hrun).calls⟩⟩
  cases hloop : handle.loop with
  | notStarted => exact absurd hloop hstarted
  | awake => exact iff_of_true (canReach_ended_of_awake hflag hloop) (Or.inr rfl)
  | polling =>
    cases written with
    | true =>
      apply iff_of_true _ (Or.inl rfl)
      apply CanReach.next (t := .poll (.ready false false false)) trivial
      · change (if _ then _ else _) = _
        rw [if_pos ⟨hloop, by simp [HalHandle.Returns, hreturned]⟩]
      · apply canReach_ended_of_awake _ rfl
        exact hflag
    | false =>
      apply iff_of_false _ (by simp)
      apply not_canReach HalSystem.step HalSystem.waits
      · intro system next final new hwaits hkind hstep
        cases system with
        | live waiting =>
          cases next with
          | poll result =>
            cases result with
            | failed => exact hkind.elim
            | ready err hup pollin =>
              change (if _ then _ else _) = _ at hstep
              split_ifs at hstep with hreturns
              cases err <;> cases hup <;> cases pollin <;>
                simp_all [HalStep.isOfLoop, HalHandle.Returns, HalSystem.waits]
          | testCleanUp =>
            change (if _ then _ else _) = _ at hstep
            rw [hwaits.1] at hstep
            cases hstep
          | _ => exact hkind.elim
        | _ => exact hwaits.elim
      · intro system hwaits hended
        cases system with
        | live handle => exact hended
        | ended writing => exact hwaits
      · exact ⟨hloop, hreturned⟩

/-- A handle that waits for a write that has failed. -/
def waitingHandle : HalHandle where
  interfaces := some 1
  num_interfaces := 1
  commands := []
  cleaned_up_handler := some 7
  cleanup := .returned false
  loop := .polling

theorem cleanup_ends_iff_waiting :
    (CanReach HalSystem.step HalStep.isOfLoop HalSystem.hasEnded (.live waitingHandle) ↔
      false = true ∨ waitingHandle.loop = .awake) ∧
      ∀ steps final effects, runSteps HalSystem.step (.live waitingHandle) steps = some (final, effects) →
        steps.countP HalStep.isPoll ≤ 1 ∧ effects = final.calls waitingHandle.cleaned_up_handler :=
  cleanup_ends_iff rfl (by decide)

end Progress

end HardwareMediatek.Wifi
