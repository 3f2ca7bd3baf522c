import HardwareMediatek.Foundation.Paired
import Mathlib.Data.List.Induction
import Mathlib.Tactic.Common

/-!
# Invariants of loops

What a loop over a list keeps, with the items that are done; and what one round brings about and every
other round keeps.
-/

namespace HardwareMediatek.Foundation

section Loops

variable {α β γ ε : Type}

/-- What one round brings about and every round keeps holds after a loop with that round. -/
theorem foldl_establishes {P : α → Prop} {f : α → γ → α} {items : List γ} {item : γ}
    (hitem : item ∈ items) (hround : ∀ x, P (f x item)) (hkeeps : ∀ x other, P x → P (f x other))
    (x : α) : P (items.foldl f x) := by
  obtain ⟨before, after, rfl⟩ := List.append_of_mem hitem
  rw [List.foldl_append, List.foldl_cons]
  exact List.foldlRecOn after f (hround _) fun x hx other _ ↦ hkeeps x other hx

/-- An invariant of the items that are done holds of all items after the loop. -/
theorem foldlM_done {J : List γ → α → Prop} {f : α → γ → Except ε α} {items : List γ} {x final : α}
    (hstart : J [] x)
    (hround : ∀ done item x y, J done x → f x item = .ok y → J (done ++ [item]) y)
    (hloop : items.foldlM f x = .ok final) : J items final := by
  induction items using List.reverseRecOn generalizing final with
  | nil => exact Except.ok.inj hloop ▸ hstart
  | append_singleton items item ih =>
    rw [List.foldlM_append] at hloop
    cases hbefore : items.foldlM f x with
    | error halt =>
      rw [hbefore] at hloop
      cases hloop
    | ok y =>
      rw [hbefore] at hloop
      have hlast : [item].foldlM f y = .ok final := hloop
      rw [List.foldlM_cons] at hlast
      cases hitem : f y item with
      | error halt =>
        rw [hitem] at hlast
        cases hlast
      | ok z =>
        rw [hitem] at hlast
        exact Except.ok.inj hlast ▸ hround items item y z (ih hbefore) hitem

/-- A loop over different items reaches each of them once. -/
theorem foldlM_once {P Q : α → Prop} {f : α → γ → Except ε α} {items : List γ} {item : γ}
    (hitem : item ∈ items) (hnodup : items.Nodup)
    (hbefore : ∀ other, other ≠ item → ∀ x y, P x → f x other = .ok y → P y)
    (hround : ∀ x y, P x → f x item = .ok y → Q y)
    (hafter : ∀ other, other ≠ item → ∀ x y, Q x → f x other = .ok y → Q y) {x final : α} (h : P x)
    (hloop : items.foldlM f x = .ok final) : Q final := by
  obtain ⟨before, after, rfl⟩ := List.append_of_mem hitem
  have hapart := List.nodup_append.mp hnodup
  have hrest := List.nodup_cons.mp hapart.2.1
  rw [List.foldlM_append] at hloop
  cases hfirst : before.foldlM f x with
  | error halt =>
    rw [hfirst] at hloop
    cases hloop
  | ok y =>
    rw [hfirst] at hloop
    have hreached : P y := by
      apply foldlM_keeps _ h hfirst
      intro other hin
      exact hbefore other (hapart.2.2 other hin item List.mem_cons_self)
    have hlast : (item :: after).foldlM f y = .ok final := hloop
    rw [List.foldlM_cons] at hlast
    cases hmiddle : f y item with
    | error halt =>
      rw [hmiddle] at hlast
      cases hlast
    | ok z =>
      rw [hmiddle] at hlast
      apply foldlM_keeps _ (hround y z hreached hmiddle) hlast
      intro other hin
      apply hafter other
      intro hsame
      rw [hsame] at hin
      exact hrest.1 hin

/-- A loop that maps has a result for its first item, and results for the rest. -/
theorem mapM_cons_eq_ok {f : γ → Except ε β} {item : γ} {rest : List γ} {results : List β} :
    (item :: rest).mapM f = .ok results ↔
      ∃ first others, f item = .ok first ∧ rest.mapM f = .ok others ∧ first :: others = results := by
  rw [List.mapM_cons]
  cases f item with
  | error halt => simp [bind, Except.bind]
  | ok first =>
    cases rest.mapM f with
    | error halt => simp [bind, Except.bind]
    | ok others => simp [bind, Except.bind, pure, Except.pure]

/-- The results of a loop that maps are the results of its rounds. -/
theorem mem_of_mapM_eq_ok {f : γ → Except ε β} {items : List γ} {results : List β}
    (hloop : items.mapM f = .ok results) {result : β} :
    result ∈ results ↔ ∃ item ∈ items, f item = .ok result := by
  induction items generalizing results with
  | nil =>
    obtain rfl : [] = results := Except.ok.inj hloop
    simp
  | cons item rest ih =>
    obtain ⟨first, others, hitem, hrest, rfl⟩ := mapM_cons_eq_ok.mp hloop
    rw [List.mem_cons, ih hrest]
    constructor
    · rintro (rfl | ⟨other, hmem, hother⟩)
      · exact ⟨item, List.mem_cons_self, hitem⟩
      · exact ⟨other, List.mem_cons_of_mem _ hmem, hother⟩
    · rintro ⟨other, hmem, hother⟩
      rcases List.mem_cons.mp hmem with rfl | hmem
      · exact Or.inl (Except.ok.inj (hother.symm.trans hitem))
      · exact Or.inr ⟨other, hmem, hother⟩

/-- A loop that maps has one result for each item. -/
theorem length_of_mapM_eq_ok {f : γ → Except ε β} {items : List γ} {results : List β}
    (hloop : items.mapM f = .ok results) : results.length = items.length := by
  induction items generalizing results with
  | nil =>
    obtain rfl : [] = results := Except.ok.inj hloop
    rfl
  | cons item rest ih =>
    obtain ⟨first, others, -, hrest, rfl⟩ := mapM_cons_eq_ok.mp hloop
    rw [List.length_cons, List.length_cons, ih hrest]

theorem exists_of_mapM_eq_ok {f : γ → Except ε β} {items : List γ} {results : List β}
    (hloop : items.mapM f = .ok results) {item : γ} (hitem : item ∈ items) :
    ∃ result, f item = .ok result := by
  induction items generalizing results with
  | nil => cases hitem
  | cons first rest ih =>
    obtain ⟨result, others, hfirst, hrest, -⟩ := mapM_cons_eq_ok.mp hloop
    apply Or.elim (List.mem_cons.mp hitem)
    · intro hsame
      rw [hsame]
      exact ⟨result, hfirst⟩
    · exact ih hrest

end Loops

end HardwareMediatek.Foundation
