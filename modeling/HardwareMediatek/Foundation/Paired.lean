import Mathlib.Data.List.Basic

/-!
# Two computations side by side

Two computations that may fail are paired when they fail in the same way or give results that stand in
a relation. A relation that each part of two programs keeps is kept by the programs.
-/

namespace HardwareMediatek.Foundation

section Paired

variable {ε α β γ δ : Type} {R : α → β → Prop} {S : γ → δ → Prop}

/-- The same failure, or related results. -/
def Paired (R : α → β → Prop) : Except ε α → Except ε β → Prop
  | .ok x, .ok y => R x y
  | .error halt, .error halt' => halt = halt'
  | _, _ => False

theorem paired_error (halt : ε) : Paired R (.error halt : Except ε α) (.error halt) := rfl

theorem Paired.mono {R' : α → β → Prop} {r : Except ε α} {r' : Except ε β} (h : Paired R r r')
    (himp : ∀ x y, R x y → R' x y) : Paired R' r r' := by
  cases r with
  | ok x =>
    cases r' with
    | ok y => exact himp x y h
    | error halt => exact h
  | error halt =>
    cases r' with
    | ok y => exact h
    | error halt' => exact h

theorem Paired.bind {r : Except ε α} {r' : Except ε β} {f : α → Except ε γ} {g : β → Except ε δ}
    (h : Paired R r r') (hnext : ∀ x y, R x y → Paired S (f x) (g y)) :
    Paired S (r >>= f) (r' >>= g) := by
  cases r with
  | ok x =>
    cases r' with
    | ok y => exact hnext x y h
    | error halt => exact h.elim
  | error halt =>
    cases r' with
    | ok y => exact h.elim
    | error halt' => exact h

theorem Paired.of_ok {r : Except ε α} {r' : Except ε β} (h : Paired R r r') {x : α} {y : β}
    (hr : r = .ok x) (hr' : r' = .ok y) : R x y := by
  rw [hr, hr'] at h
  exact h

/-- A computation next to itself, for what its results satisfy. -/
theorem paired_self {P : α → Prop} {r : Except ε α} :
    Paired (fun x y ↦ x = y ∧ P x) r r ↔ ∀ x, r = .ok x → P x := by
  cases r with
  | ok x =>
    apply Iff.intro
    · intro h y hy
      rw [← Except.ok.inj hy]
      exact h.2
    · intro h
      exact ⟨rfl, h x rfl⟩
  | error halt => exact iff_of_true rfl fun _ h ↦ nomatch h

/-- A loop. -/
theorem paired_foldlM {f : α → γ → Except ε α} {g : β → γ → Except ε β} {items : List γ}
    (hstep : ∀ item ∈ items, ∀ x y, R x y → Paired R (f x item) (g y item)) {x : α} {y : β}
    (h : R x y) : Paired R (items.foldlM f x) (items.foldlM g y) := by
  induction items generalizing x y with
  | nil => exact h
  | cons item rest ih =>
    rw [List.foldlM_cons, List.foldlM_cons]
    apply (hstep item List.mem_cons_self x y h).bind
    intro x y hxy
    exact ih (fun other hin ↦ hstep other (List.mem_cons_of_mem _ hin)) hxy

/-- A loop keeps what each round keeps. -/
theorem foldlM_keeps {P : α → Prop} {f : α → γ → Except ε α} {items : List γ}
    (hstep : ∀ item ∈ items, ∀ x y, P x → f x item = .ok y → P y) {x final : α} (h : P x)
    (hloop : items.foldlM f x = .ok final) : P final := by
  have hself : Paired (fun x y ↦ x = y ∧ P x) (items.foldlM f x) (items.foldlM f x) := by
    apply paired_foldlM _ ⟨rfl, h⟩
    intro item hin x y hxy
    rw [← hxy.1]
    exact paired_self.mpr fun y hy ↦ hstep item hin x y hxy.2 hy
  exact (hself.of_ok hloop hloop).2

/-- A loop whose rounds return and keep what they need returns. -/
theorem foldlM_total {P : α → Prop} {f : α → γ → Except ε α} {items : List γ}
    (hstep : ∀ item ∈ items, ∀ x, P x → ∃ y, f x item = .ok y ∧ P y) {x : α} (h : P x) :
    ∃ final, items.foldlM f x = .ok final ∧ P final := by
  induction items generalizing x with
  | nil => exact ⟨x, rfl, h⟩
  | cons item rest ih =>
    obtain ⟨y, hround, hy⟩ := hstep item List.mem_cons_self x h
    rw [List.foldlM_cons, hround]
    exact ih (fun other hin ↦ hstep other (List.mem_cons_of_mem _ hin)) hy

end Paired

end HardwareMediatek.Foundation
