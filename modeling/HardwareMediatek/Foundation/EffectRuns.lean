import Mathlib.Data.List.Basic
import Mathlib.Data.List.Induction
import Mathlib.Tactic.Common

/-!
# Runs of steps that leave effects

A system takes steps, some of which may be impossible, and each step leaves effects behind. Whether an
effect is right depends on the effects before it, and whether a step is in order on the steps before
it. When this agrees for every step that a system can take, it agrees for its runs.
-/

namespace HardwareMediatek.Foundation

section EachAfter

variable {α : Type}

/-- Every member of a list stands in a relation to the members before it. -/
def EachAfter (rel : List α → α → Prop) (list : List α) : Prop :=
  ∀ before x after, list = before ++ x :: after → rel before x

theorem eachAfter_nil (rel : List α → α → Prop) : EachAfter rel [] := by
  intro before x after hlist
  exact absurd hlist (by simp)

theorem eachAfter_append (rel : List α → α → Prop) (left right : List α) :
    EachAfter rel (left ++ right) ↔
      EachAfter rel left ∧ EachAfter (fun before ↦ rel (left ++ before)) right := by
  apply Iff.intro
  · intro heach
    apply And.intro
    · intro before x after hleft
      apply heach before x (after ++ right)
      rw [hleft, List.append_assoc, List.cons_append]
    · intro before x after hright
      apply heach (left ++ before) x after
      rw [hright, List.append_assoc]
  · intro hboth before x after hlist
    have hsplit := List.append_eq_append_iff.mp hlist
    rcases hsplit with hright | hleft
    · obtain ⟨middle, hmiddle⟩ := hright
      rw [hmiddle.1]
      exact hboth.2 middle x after hmiddle.2
    · obtain ⟨middle, hmiddle⟩ := hleft
      cases middle with
      | nil =>
        have hright : right = [] ++ x :: after := hmiddle.2.symm
        have hwhole : rel (left ++ []) x := hboth.2 [] x after hright
        rw [List.append_nil] at hwhole hmiddle
        rwa [hmiddle.1] at hwhole
      | cons y middle =>
        have hhead : x = y := (List.cons.inj hmiddle.2).1
        rw [hhead]
        exact hboth.1 before y middle hmiddle.1

theorem eachAfter_singleton (rel : List α → α → Prop) (x : α) :
    EachAfter rel [x] ↔ rel [] x := by
  apply Iff.intro
  · intro heach
    exact heach [] x [] rfl
  · intro hrel before y after hlist
    cases before with
    | nil => rwa [(List.cons.inj hlist).1] at hrel
    | cons z before => exact absurd (List.cons.inj hlist).2 (by simp)

theorem eachAfter_cons (rel : List α → α → Prop) (x : α) (list : List α) :
    EachAfter rel (x :: list) ↔ rel [] x ∧ EachAfter (fun before ↦ rel (x :: before)) list := by
  rw [← List.singleton_append, eachAfter_append, eachAfter_singleton]
  rfl

theorem eachAfter_concat (rel : List α → α → Prop) (list : List α) (x : α) :
    EachAfter rel (list ++ [x]) ↔ EachAfter rel list ∧ rel list x := by
  rw [eachAfter_append, eachAfter_singleton, List.append_nil]

/-- Some member of a list stands in a relation to the members before it. -/
def SomeAfter (rel : List α → α → Prop) (list : List α) : Prop :=
  ∃ before x after, list = before ++ x :: after ∧ rel before x

theorem not_someAfter (rel : List α → α → Prop) (list : List α) :
    ¬ SomeAfter rel list ↔ EachAfter (fun before x ↦ ¬ rel before x) list := by
  unfold SomeAfter EachAfter
  push Not
  rfl

theorem someAfter_concat (rel : List α → α → Prop) (list : List α) (x : α) :
    SomeAfter rel (list ++ [x]) ↔ SomeAfter rel list ∨ rel list x := by
  apply not_iff_not.mp
  rw [not_or, not_someAfter, not_someAfter, eachAfter_concat]

/-- Two relations that agree wherever both have held so far hold of the same lists. -/
theorem eachAfter_congr {left right : List α → α → Prop} {list : List α}
    (hiff : ∀ before x after, list = before ++ x :: after → EachAfter left before →
      EachAfter right before → (left before x ↔ right before x)) :
    EachAfter left list ↔ EachAfter right list := by
  induction list using List.reverseRecOn with
  | nil => exact iff_of_true (eachAfter_nil left) (eachAfter_nil right)
  | append_singleton list x ih =>
    have hearlier : EachAfter left list ↔ EachAfter right list := by
      apply ih
      intro before y after hlist
      apply hiff before y (after ++ [x])
      rw [hlist, List.append_assoc, List.cons_append]
    rw [eachAfter_concat, eachAfter_concat, hearlier]
    apply and_congr_right
    intro hright
    exact hiff list x [] rfl (hearlier.mpr hright) hright

/-- What each step keeps as long as a relation has held is kept by the whole list of steps. -/
theorem foldl_keeps {σ : Type} {step : σ → α → σ} {init : σ} {rel : List α → α → Prop}
    (inv : List α → σ → Prop) (hinit : inv [] init)
    (hstep : ∀ before x, inv before (before.foldl step init) → rel before x →
      inv (before ++ [x]) (step (before.foldl step init) x))
    {list : List α} (hlist : EachAfter rel list) : inv list (list.foldl step init) := by
  induction list using List.reverseRecOn with
  | nil => exact hinit
  | append_singleton list x ih =>
    have hsplit := (eachAfter_concat rel list x).mp hlist
    rw [List.foldl_concat]
    exact hstep list x (ih hsplit.1) hsplit.2

/-- Some member after the last one that starts anew has a property. -/
def anySince (starts holds : α → Bool) (list : List α) : Bool :=
  (list.reverse.takeWhile fun x ↦ !starts x).any holds

@[simp]
theorem anySince_nil (starts holds : α → Bool) : anySince starts holds [] = false := rfl

theorem anySince_concat (starts holds : α → Bool) (list : List α) (x : α) :
    anySince starts holds (list ++ [x]) = (!starts x && (holds x || anySince starts holds list)) := by
  unfold anySince
  rw [List.reverse_append, List.reverse_singleton, List.singleton_append, List.takeWhile_cons]
  cases starts x <;> rfl

theorem anySince_append (starts holds : α → Bool) (left right : List α) :
    anySince starts holds (left ++ right) =
      (anySince starts holds right || (!right.any starts && anySince starts holds left)) := by
  induction right using List.reverseRecOn with
  | nil => simp
  | append_singleton right x ih =>
    rw [← List.append_assoc, anySince_concat, anySince_concat, ih, List.any_append, List.any_cons,
      List.any_nil, Bool.or_false]
    generalize right.any starts = started
    cases started <;> cases starts x <;> cases holds x <;> rfl

end EachAfter

section Runs

variable {σ τ ε : Type} (step : σ → τ → Option (σ × List ε))

/-- The state after all steps, if each of them was possible, and the effects in their order. -/
def runSteps (init : σ) (steps : List τ) : Option (σ × List ε) :=
  steps.foldlM (fun run next ↦ (step run.1 next).map fun taken ↦ (taken.1, run.2 ++ taken.2))
    (init, [])

theorem runSteps_concat {init final : σ} {steps : List τ} {next : τ} {effects : List ε}
    (hrun : runSteps step init (steps ++ [next]) = some (final, effects)) :
    ∃ state before new, runSteps step init steps = some (state, before) ∧
      step state next = some (final, new) ∧ effects = before ++ new := by
  unfold runSteps at hrun
  rw [List.foldlM_append] at hrun
  obtain ⟨middle, hmiddle⟩ := Option.bind_eq_some_iff.mp hrun
  have hlast := hmiddle.2
  rw [List.foldlM_cons] at hlast
  obtain ⟨taken, htaken⟩ := Option.bind_eq_some_iff.mp hlast
  obtain ⟨result, hresult⟩ := Option.map_eq_some_iff.mp htaken.1
  have hfinal : taken = (final, effects) := Option.some.inj htaken.2
  rw [hfinal] at hresult
  refine ⟨middle.1, middle.2, result.2, hmiddle.1, ?_, ?_⟩
  · rw [hresult.1, ← (Prod.mk.inj hresult.2).1]
  · exact (Prod.mk.inj hresult.2).2.symm

theorem runSteps_append_singleton {init state final : σ} {steps : List τ} {next : τ}
    {before new : List ε} (hrun : runSteps step init steps = some (state, before))
    (hstep : step state next = some (final, new)) :
    runSteps step init (steps ++ [next]) = some (final, before ++ new) := by
  unfold runSteps at hrun ⊢
  rw [List.foldlM_append, hrun]
  simp [hstep]

/-- Every step that is possible leads from what holds of the steps taken, the state and the effects to
the same of the next ones. -/
def Keeps (inv : List τ → σ → List ε → Prop) : Prop :=
  ∀ steps state before next final new, inv steps state before →
    step state next = some (final, new) → inv (steps ++ [next]) final (before ++ new)

/-- An invariant of the steps taken, the state and the effects holds after every run. -/
theorem runSteps_keeps (inv : List τ → σ → List ε → Prop) {init : σ} (hinit : inv [] init [])
    (hstep : Keeps step inv)
    {steps : List τ} {final : σ} {effects : List ε}
    (hrun : runSteps step init steps = some (final, effects)) : inv steps final effects := by
  induction steps using List.reverseRecOn generalizing final effects with
  | nil =>
    have hsame := Prod.mk.inj (Option.some.inj hrun)
    rw [← hsame.1, ← hsame.2]
    exact hinit
  | append_singleton steps next ih =>
    obtain ⟨state, before, new, hnew⟩ := runSteps_concat step hrun
    rw [hnew.2.2]
    exact hstep steps state before next final new (ih hnew.1) hnew.2.1

/-- If the effects of each possible step are right exactly when the step is in order, those of a run
are right exactly when its steps are. -/
theorem eachAfter_effects_iff (inv : List τ → σ → List ε → Prop)
    (right : List ε → ε → Prop) (inOrder : List τ → τ → Prop) {init : σ} (hinit : inv [] init [])
    (hstep : Keeps step inv)
    (hiff : ∀ steps state before next final new, inv steps state before →
      step state next = some (final, new) →
        (EachAfter (fun earlier ↦ right (before ++ earlier)) new ↔ inOrder steps next))
    {steps : List τ} {final : σ} {effects : List ε}
    (hrun : runSteps step init steps = some (final, effects)) :
    EachAfter right effects ↔ EachAfter inOrder steps := by
  induction steps using List.reverseRecOn generalizing final effects with
  | nil =>
    have hsame := Prod.mk.inj (Option.some.inj hrun)
    rw [← hsame.2]
    exact iff_of_true (eachAfter_nil right) (eachAfter_nil inOrder)
  | append_singleton steps next ih =>
    obtain ⟨state, before, new, hnew⟩ := runSteps_concat step hrun
    have hinv := runSteps_keeps step inv hinit hstep hnew.1
    rw [hnew.2.2, eachAfter_append, eachAfter_concat, ih hnew.1,
      hiff steps state before next final new hinv hnew.2.1]

/-- If the effects of each possible step are right, those of a run are. -/
theorem eachAfter_effects (inv : List τ → σ → List ε → Prop) (right : List ε → ε → Prop) {init : σ}
    (hinit : inv [] init []) (hstep : Keeps step inv)
    (hright : ∀ steps state before next final new, inv steps state before →
      step state next = some (final, new) → EachAfter (fun earlier ↦ right (before ++ earlier)) new)
    {steps : List τ} {final : σ} {effects : List ε}
    (hrun : runSteps step init steps = some (final, effects)) : EachAfter right effects := by
  apply (eachAfter_effects_iff step inv right (fun _ _ ↦ True) hinit hstep _ hrun).mpr
  · exact fun _ _ _ _ ↦ trivial
  · intro steps state before next final new hinv htaken
    exact iff_of_true (hright steps state before next final new hinv htaken) trivial

/-- Steps of one kind lead from a state to some target. -/
inductive CanReach (kind : τ → Prop) (target : σ → Prop) : σ → Prop where
  | here {state : σ} (htarget : target state) : CanReach kind target state
  | next {state final : σ} {t : τ} {new : List ε} (hkind : kind t)
      (hstep : step state t = some (final, new)) (hrest : CanReach kind target final) :
      CanReach kind target state

/-- A trap: no step of the kind leads out of it, and the target is not in it. -/
theorem not_canReach (trap : σ → Prop) {kind : τ → Prop} {target : σ → Prop}
    (hstep : ∀ state next final new, trap state → kind next → step state next = some (final, new) →
      trap final)
    (hdisjoint : ∀ state, trap state → ¬ target state) {state : σ} (htrap : trap state) :
    ¬ CanReach step kind target state := by
  intro hreach
  induction hreach with
  | here htarget => exact hdisjoint _ htrap htarget
  | next hkind htaken _ ih => exact ih (hstep _ _ _ _ htrap hkind htaken)

/-- Every step of a list stands in a relation to the state that the steps before it lead to. -/
def EachStep (rel : σ → τ → Prop) (init : σ) (steps : List τ) : Prop :=
  EachAfter (fun before next ↦ ∀ state effects, runSteps step init before = some (state, effects) →
    rel state next) steps

theorem eachStep_concat (rel : σ → τ → Prop) (init : σ) (steps : List τ) (next : τ) :
    EachStep step rel init (steps ++ [next]) ↔
      EachStep step rel init steps ∧
        ∀ state effects, runSteps step init steps = some (state, effects) → rel state next :=
  eachAfter_concat _ steps next

/-- Relations that agree in the states of an invariant agree along the runs. -/
theorem eachStep_congr (inv : List τ → σ → List ε → Prop) {left right : σ → τ → Prop} {init : σ}
    (hinit : inv [] init []) (hstep : Keeps step inv)
    (hiff : ∀ steps state effects next, inv steps state effects → (left state next ↔ right state next))
    (steps : List τ) : EachStep step left init steps ↔ EachStep step right init steps := by
  apply eachAfter_congr
  intro before next _ _ _ _
  apply forall_congr'
  intro state
  apply forall_congr'
  intro effects
  apply imp_congr_right
  intro hrun
  exact hiff before state effects next (runSteps_keeps step inv hinit hstep hrun)

end Runs

end HardwareMediatek.Foundation
