import Mathlib

/-!
# Multisets that know their greatest element

An `OrderedMultiset` keeps its elements in a list sorted from the greatest
down, as an ordered multiset container with the comparator "greater" does. Its
first element is its maximum, and one occurrence of a value can be inserted or
erased.

The second half is about shared ballots. A ballot `Mirrors` a collection of
votes when it holds exactly the votes and, beyond them, only copies of one
neutral value. Replacing one vote in the collection and in the ballot keeps
the mirror, and while no vote is below the neutral value the maximum of the
ballot is the maximum of the votes.
-/

namespace HardwareMediatek

/-- A finite multiset stored from its greatest element down. -/
structure OrderedMultiset (α : Type) [LinearOrder α] where
  elems : List α
  sorted : elems.Pairwise (· ≥ ·)

namespace OrderedMultiset

variable {α : Type} [LinearOrder α]

instance : EmptyCollection (OrderedMultiset α) := ⟨⟨[], List.Pairwise.nil⟩⟩

/-- The elements with their multiplicities, without the order. -/
def toMultiset (s : OrderedMultiset α) : Multiset α := s.elems

def insert (s : OrderedMultiset α) (x : α) : OrderedMultiset α where
  elems := s.elems.orderedInsert (· ≥ ·) x
  sorted := s.sorted.orderedInsert x _

/-- `erase(find(x))`: remove one occurrence of `x`, undefined when there is none. -/
def eraseOne (s : OrderedMultiset α) (x : α) : Option (OrderedMultiset α) :=
  if x ∈ s.elems then
    some ⟨s.elems.erase x, s.sorted.sublist List.erase_sublist⟩
  else none

/-- `*begin()`: the first element in the order of the container. -/
def begin? (s : OrderedMultiset α) : Option α := s.elems.head?

@[simp]
theorem toMultiset_empty : (∅ : OrderedMultiset α).toMultiset = 0 := rfl

@[simp]
theorem toMultiset_insert (s : OrderedMultiset α) (x : α) :
    (s.insert x).toMultiset = x ::ₘ s.toMultiset :=
  Multiset.coe_eq_coe.mpr (List.perm_orderedInsert _ x s.elems)

theorem eraseOne_of_mem {s : OrderedMultiset α} {x : α} (h : x ∈ s.toMultiset) :
    ∃ s', s.eraseOne x = some s' ∧ s'.toMultiset = s.toMultiset.erase x := by
  refine ⟨⟨s.elems.erase x, s.sorted.sublist List.erase_sublist⟩, ?_, ?_⟩
  · exact if_pos (Multiset.mem_coe.mp h)
  · exact (Multiset.coe_erase s.elems x).symm

theorem begin?_eq_some_iff {s : OrderedMultiset α} {x : α} :
    s.begin? = some x ↔ x ∈ s.toMultiset ∧ ∀ y ∈ s.toMultiset, y ≤ x := by
  obtain ⟨elems, hsorted⟩ := s
  cases elems with
  | nil => simp [begin?, toMultiset]
  | cons head rest =>
    have hhead : ∀ y ∈ rest, y ≤ head := fun y hy ↦ List.rel_of_pairwise_cons hsorted hy
    constructor
    · intro h
      obtain rfl : head = x := by simpa [begin?] using h
      exact ⟨by simp [toMultiset], by simpa [toMultiset] using hhead⟩
    · rintro ⟨hmem, hmax⟩
      have hle : head ≤ x := hmax head (by simp [toMultiset])
      have hge : x ≤ head := by
        rcases List.mem_cons.mp (Multiset.mem_coe.mp hmem) with rfl | hrest
        · exact le_rfl
        · exact hhead x hrest
      simp [begin?, le_antisymm hle hge]

theorem begin?_isSome {s : OrderedMultiset α} (h : s.toMultiset ≠ 0) : s.begin?.isSome := by
  obtain ⟨elems, hsorted⟩ := s
  cases elems with
  | nil => simp [toMultiset] at h
  | cons head rest => rfl

end OrderedMultiset

/-! ## Ballots -/

section Ballot

variable {α : Type}

/-- The ballot holds the votes and, beyond them, only copies of the neutral value. -/
def Mirrors (ballot votes : Multiset α) (neutral : α) : Prop :=
  ∃ extra : ℕ, ballot = votes + Multiset.replicate extra neutral

namespace Mirrors

variable {ballot votes : Multiset α} {neutral vote vote' : α}

theorem zero (neutral : α) : Mirrors (0 : Multiset α) 0 neutral := ⟨0, by simp⟩

theorem cons_vote (h : Mirrors ballot votes neutral) (vote : α) :
    Mirrors (vote ::ₘ ballot) (vote ::ₘ votes) neutral := by
  obtain ⟨extra, rfl⟩ := h
  exact ⟨extra, by rw [Multiset.cons_add]⟩

theorem cons_neutral (h : Mirrors ballot votes neutral) :
    Mirrors (neutral ::ₘ ballot) votes neutral := by
  obtain ⟨extra, rfl⟩ := h
  exact ⟨extra + 1, by rw [Multiset.replicate_succ, Multiset.add_cons]⟩

theorem mem (h : Mirrors ballot votes neutral) (hvote : vote ∈ votes) : vote ∈ ballot := by
  obtain ⟨extra, rfl⟩ := h
  exact Multiset.mem_add.mpr (Or.inl hvote)

/-- One vote is exchanged in the collection and in the ballot. -/
theorem replace [DecidableEq α] (h : Mirrors ballot (vote ::ₘ votes) neutral) (vote' : α) :
    Mirrors (vote' ::ₘ ballot.erase vote) (vote' ::ₘ votes) neutral := by
  obtain ⟨extra, rfl⟩ := h
  refine ⟨extra, ?_⟩
  rw [Multiset.cons_add, Multiset.erase_cons_head, Multiset.cons_add]

variable [LinearOrder α]

/-- While no vote is below the neutral value, the ballot and the votes have the same maximum. -/
theorem isGreatest_iff (h : Mirrors ballot votes neutral) (hvotes : votes ≠ 0)
    (hneutral : ∀ x ∈ votes, neutral ≤ x) :
    (vote ∈ ballot ∧ ∀ x ∈ ballot, x ≤ vote) ↔ (vote ∈ votes ∧ ∀ x ∈ votes, x ≤ vote) := by
  obtain ⟨extra, rfl⟩ := h
  obtain ⟨witness, hwitness⟩ := Multiset.exists_mem_of_ne_zero hvotes
  simp only [Multiset.mem_add, Multiset.mem_replicate]
  constructor
  · rintro ⟨hvote | ⟨-, rfl⟩, hmax⟩
    · exact ⟨hvote, fun x hx ↦ hmax x (Or.inl hx)⟩
    · have heq : witness = vote :=
        le_antisymm (hmax witness (Or.inl hwitness)) (hneutral witness hwitness)
      exact ⟨heq ▸ hwitness, fun x hx ↦ hmax x (Or.inl hx)⟩
  · rintro ⟨hvote, hmax⟩
    refine ⟨Or.inl hvote, ?_⟩
    rintro x (hx | ⟨-, rfl⟩)
    · exact hmax x hx
    · exact hneutral vote hvote

end Mirrors

end Ballot

end HardwareMediatek
