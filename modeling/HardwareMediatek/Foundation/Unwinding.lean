import Mathlib.Data.List.Basic
import Mathlib.Order.Basic

/-!
# Runs that differ in hidden steps

Some of the steps of a system are hidden from an observer, to whom some states look the same. If a hidden
step changes nothing that the observer sees, and the others keep what is seen the same, then nobody
notices that hidden steps of a run are left out.
-/

namespace HardwareMediatek.Foundation

variable {ε α σ : Type} {hidden allowed : α → Prop} {step : σ → α → Except ε σ} {Same : σ → σ → Prop}

/-- The second list leaves out some hidden steps of the first one. -/
inductive Purged (hidden : α → Prop) : List α → List α → Prop where
  | nil : Purged hidden [] []
  | keep (a : α) {steps purged : List α} (rest : Purged hidden steps purged) :
      Purged hidden (a :: steps) (a :: purged)
  | drop {a : α} {steps purged : List α} (ishidden : hidden a) (rest : Purged hidden steps purged) :
      Purged hidden (a :: steps) purged

theorem purged_refl (steps : List α) : Purged hidden steps steps := by
  induction steps with
  | nil => exact .nil
  | cons a rest ih => exact .keep a ih

/-- The allowed steps that return, by themselves and next to each other. -/
structure Unwinds (hidden allowed : α → Prop) (step : σ → α → Except ε σ) (Same : σ → σ → Prop) :
    Prop where
  equivalence : Equivalence Same
  hides : ∀ a, allowed a → hidden a → ∀ s t, step s a = .ok t → Same s t
  keeps : ∀ a, allowed a → ¬ hidden a → ∀ s s' t t', Same s s' → step s a = .ok t →
    step s' a = .ok t' → Same t t'

/-- A step next to itself, hidden or not. -/
theorem Unwinds.both (h : Unwinds hidden allowed step Same) {a : α} (ha : allowed a) {s s' t t' : σ}
    (hsame : Same s s') (hstep : step s a = .ok t) (hstep' : step s' a = .ok t') : Same t t' := by
  by_cases hhidden : hidden a
  · have hfirst : Same t s := h.equivalence.symm (h.hides a ha hhidden s t hstep)
    have hsecond : Same s' t' := h.hides a ha hhidden s' t' hstep'
    exact h.equivalence.trans hfirst (h.equivalence.trans hsame hsecond)
  · exact h.keeps a ha hhidden s s' t t' hsame hstep hstep'

/-- What is left out of a run is not noticed. -/
theorem Unwinds.purged (h : Unwinds hidden allowed step Same) {steps purged : List α}
    (hpurged : Purged hidden steps purged) (hallowed : ∀ a ∈ steps, allowed a) {s s' t t' : σ}
    (hsame : Same s s') (hrun : steps.foldlM step s = .ok t) (hrun' : purged.foldlM step s' = .ok t') :
    Same t t' := by
  induction hpurged generalizing s s' with
  | nil =>
    rw [← Except.ok.inj hrun, ← Except.ok.inj hrun']
    exact hsame
  | keep a rest ih =>
    rw [List.foldlM_cons] at hrun hrun'
    cases hstep : step s a with
    | error halt =>
      rw [hstep] at hrun
      cases hrun
    | ok u =>
      cases hstep' : step s' a with
      | error halt =>
        rw [hstep'] at hrun'
        cases hrun'
      | ok u' =>
        rw [hstep] at hrun
        rw [hstep'] at hrun'
        exact ih (fun b hb ↦ hallowed b (List.mem_cons_of_mem a hb))
          (h.both (hallowed a List.mem_cons_self) hsame hstep hstep') hrun hrun'
  | @drop a steps purged ishidden rest ih =>
    rw [List.foldlM_cons] at hrun
    cases hstep : step s a with
    | error halt =>
      rw [hstep] at hrun
      cases hrun
    | ok u =>
      rw [hstep] at hrun
      have hfirst := h.hides a (hallowed a List.mem_cons_self) ishidden s u hstep
      exact ih (fun b hb ↦ hallowed b (List.mem_cons_of_mem a hb))
        (h.equivalence.trans (h.equivalence.symm hfirst) hsame) hrun hrun'

/-- The same run twice. -/
theorem Unwinds.run (h : Unwinds hidden allowed step Same) {steps : List α}
    (hallowed : ∀ a ∈ steps, allowed a) {s s' t t' : σ} (hsame : Same s s')
    (hrun : steps.foldlM step s = .ok t) (hrun' : steps.foldlM step s' = .ok t') : Same t t' :=
  h.purged (purged_refl steps) hallowed hsame hrun hrun'

end HardwareMediatek.Foundation
