import Mathlib.Data.List.Induction
import Mathlib.Tactic.Common

/-!
# Running extremes

A fold keeps the most extreme value that it has met, beginning with a start. Values may be incomparable
with everything, as "not a number" is; such a value is never kept. What the fold keeps is an extreme of
the values exactly when one of them reaches the start.
-/

namespace HardwareMediatek.Foundation

section RunningExtremes

variable {α : Type}

/-- A strict order that is linear on the valid values and relates no others. -/
structure LinearOnValid (less : α → α → Prop) (valid : α → Prop) : Prop where
  validBoth : ∀ {x y}, less x y → valid x ∧ valid y
  irrefl : ∀ x, ¬less x x
  trans : ∀ {x y z}, less x y → less y z → less x z
  total : ∀ {x y}, valid x → valid y → less x y ∨ x = y ∨ less y x

/-- The same order, read the other way round. -/
theorem LinearOnValid.flip {less : α → α → Prop} {valid : α → Prop} (h : LinearOnValid less valid) :
    LinearOnValid (fun x y ↦ less y x) valid where
  validBoth hless := (h.validBoth hless).symm
  irrefl := h.irrefl
  trans hxy hyz := h.trans hyz hxy
  total hx hy := (h.total hy hx).imp id (Or.imp Eq.symm id)

/-- One of the values that no other value exceeds. -/
structure IsExtreme (less : α → α → Prop) (valid : α → Prop) (extreme : α) (values : List α) : Prop where
  mem : extreme ∈ values
  isValid : valid extreme
  notExceeded : ∀ value ∈ values, ¬less extreme value

variable (less : α → α → Prop) [DecidableRel less]

def runningExtreme (start : α) (values : List α) : α :=
  values.foldl (fun extreme value ↦ if less extreme value then value else extreme) start

theorem runningExtreme_concat (start : α) (values : List α) (value : α) :
    runningExtreme less start (values ++ [value]) =
      if less (runningExtreme less start values) value then value
      else runningExtreme less start values := by
  unfold runningExtreme
  rw [List.foldl_append, List.foldl_cons, List.foldl_nil]

variable {less} {valid : α → Prop} {start : α} {values : List α}

/-- The fold keeps the start or a value, one that is valid, that no value exceeds, and that the start
does not exceed. -/
theorem runningExtreme_keeps (h : LinearOnValid less valid) (hstart : valid start) :
    (runningExtreme less start values = start ∨ runningExtreme less start values ∈ values) ∧
      valid (runningExtreme less start values) ∧
      ¬less (runningExtreme less start values) start ∧
      ∀ value ∈ values, ¬less (runningExtreme less start values) value := by
  induction values using List.reverseRecOn with
  | nil => exact ⟨Or.inl rfl, hstart, h.irrefl start, fun _ hmem ↦ absurd hmem List.not_mem_nil⟩
  | append_singleton values value ih =>
    obtain ⟨hkept, hvalid, hfrom, hexceeds⟩ := ih
    rw [runningExtreme_concat]
    by_cases hless : less (runningExtreme less start values) value
    · rw [if_pos hless]
      refine ⟨Or.inr List.mem_concat_self, (h.validBoth hless).2, ?_, ?_⟩
      · exact fun hback ↦ hfrom (h.trans hless hback)
      · intro other hmem hother
        rcases List.mem_append.mp hmem with hbefore | hlast
        · exact hexceeds other hbefore (h.trans hless hother)
        · rw [List.mem_singleton.mp hlast] at hother
          exact h.irrefl value hother
    · rw [if_neg hless]
      refine ⟨hkept.imp_right (List.mem_append_left _), hvalid, hfrom, ?_⟩
      intro other hmem
      rcases List.mem_append.mp hmem with hbefore | hlast
      · exact hexceeds other hbefore
      · rw [List.mem_singleton.mp hlast]
        exact hless

/-- The fold keeps an extreme of the values exactly when a valid one of them is not exceeded by the
start. -/
theorem isExtreme_runningExtreme_iff (h : LinearOnValid less valid) (hstart : valid start) :
    IsExtreme less valid (runningExtreme less start values) values ↔
      ∃ value ∈ values, valid value ∧ ¬less value start := by
  obtain ⟨hkept, hvalid, hfrom, hexceeds⟩ := @runningExtreme_keeps α less _ valid start values h hstart
  constructor
  · intro hextreme
    exact ⟨_, hextreme.mem, hvalid, hfrom⟩
  · rintro ⟨value, hmem, hvalue, hreaches⟩
    refine ⟨hkept.elim (fun hsame ↦ ?_) id, hvalid, hexceeds⟩
    -- The fold keeps the start, and the value is as extreme as the start.
    have hnot := hexceeds value hmem
    rw [hsame] at hnot ⊢
    rcases h.total hstart hvalue with hless | rfl | hless
    · exact absurd hless hnot
    · exact hmem
    · exact absurd hless hreaches

end RunningExtremes

end HardwareMediatek.Foundation
