import HardwareMediatek.Foundation.ByteMemory

/-!
# Bytes written as lists and read from memory

Memory holds a list of bytes at an offset. Lists put one after the other are held one after the
other, and a number written with its low byte first is read back.
-/

namespace HardwareMediatek.Foundation

/-- The bytes from `pos` on are those of the list. -/
def Holds (bytes : Bytes) (pos : ℕ) (list : List UInt8) : Prop :=
  ∀ k (hk : k < list.length), bytes (pos + k) = list[k]

def le16 (value : ℕ) : List UInt8 := [UInt8.ofNat value, UInt8.ofNat (value / 256)]

def le32 (value : ℕ) : List UInt8 := le16 value ++ le16 (value / 65536)

section Holds

variable {bytes : Bytes} {pos : ℕ}

@[simp]
theorem length_le16 (value : ℕ) : (le16 value).length = 2 := rfl

@[simp]
theorem length_le32 (value : ℕ) : (le32 value).length = 4 := rfl

theorem holds_nil : Holds bytes pos [] := fun _ hk ↦ absurd hk (Nat.not_lt_zero _)

/-- A buffer that begins with the list. -/
theorem holds_getD (list : List UInt8) : Holds (fun pos ↦ list.getD pos 0) 0 list := by
  intro k hk
  simp [hk]

theorem holds_cons (head : UInt8) (tail : List UInt8) :
    Holds bytes pos (head :: tail) ↔ bytes pos = head ∧ Holds bytes (pos + 1) tail := by
  constructor
  · intro h
    apply And.intro
    · exact h 0 (Nat.succ_pos _)
    · intro k hk
      have := h (k + 1) (Nat.succ_lt_succ hk)
      rwa [show pos + 1 + k = pos + (k + 1) by omega]
  · intro h k hk
    cases k with
    | zero => exact h.1
    | succ k =>
      have := h.2 k (Nat.lt_of_succ_lt_succ hk)
      rwa [show pos + 1 + k = pos + (k + 1) by omega] at this

theorem holds_append (left right : List UInt8) :
    Holds bytes pos (left ++ right) ↔
      Holds bytes pos left ∧ Holds bytes (pos + left.length) right := by
  induction left generalizing pos with
  | nil => simp [holds_nil]
  | cons head left ih =>
    rw [List.cons_append, holds_cons, holds_cons, ih, and_assoc, List.length_cons,
      show pos + 1 + left.length = pos + (left.length + 1) by omega]

theorem u16At_of_holds {value : ℕ} (hvalue : value < 65536) (hholds : Holds bytes pos (le16 value)) :
    u16At bytes pos = value := by
  have hlow := (holds_cons _ _).mp hholds
  have hhigh := (holds_cons _ _).mp hlow.2
  rw [u16At, hlow.1, hhigh.1]
  simp only [UInt8.toNat_ofNat']
  omega

theorem u32At_of_holds {value : ℕ} (hvalue : value < 4294967296)
    (hholds : Holds bytes pos (le32 value)) : u32At bytes pos = value := by
  have hparts := (holds_append _ _).mp hholds
  have hlow : u16At bytes pos = value % 65536 := by
    apply u16At_of_holds (by omega)
    have hmod : le16 (value % 65536) = le16 value := by
      simp only [le16, List.cons.injEq, and_true]
      apply And.intro
      · apply UInt8.toNat_inj.mp
        simp only [UInt8.toNat_ofNat']
        omega
      · apply UInt8.toNat_inj.mp
        simp only [UInt8.toNat_ofNat']
        omega
    rw [hmod]
    exact hparts.1
  have hhigh : u16At bytes (pos + 2) = value / 65536 := u16At_of_holds (by omega) hparts.2
  rw [u32At, hlow, hhigh]
  omega

/-- An array of entries of one size is read back, one entry after the other. -/
theorem map_read_of_holds {α β : Type} {encode : α → List UInt8} {size : ℕ} {read : ℕ → β}
    {value : α → β} {entries : List α} (hsize : ∀ entry ∈ entries, (encode entry).length = size)
    (hread : ∀ entry ∈ entries, ∀ pos, Holds bytes pos (encode entry) → read pos = value entry)
    (hholds : Holds bytes pos (entries.flatMap encode)) :
    (List.range entries.length).map (fun i ↦ read (pos + size * i)) = entries.map value := by
  induction entries generalizing pos with
  | nil => rfl
  | cons entry entries ih =>
    rw [List.forall_mem_cons] at hsize hread
    rw [List.flatMap_cons, holds_append, hsize.1] at hholds
    rw [List.length_cons, List.range_succ_eq_map, List.map_cons, List.map_map, List.map_cons]
    congr 1
    · exact hread.1 pos hholds.1
    · rw [← ih hsize.2 hread.2 hholds.2]
      apply List.map_congr_left
      intro i _
      simp only [Function.comp_apply, Nat.mul_succ, Nat.add_comm size, Nat.add_assoc]

/-- Entries of one size make a block of that size for each. -/
theorem length_flatten_of_forall {size : ℕ} {entries : List (List UInt8)}
    (hentries : ∀ entry ∈ entries, entry.length = size) :
    entries.flatten.length = entries.length * size := by
  induction entries with
  | nil => simp
  | cons entry entries ih =>
    rw [List.forall_mem_cons] at hentries
    rw [List.flatten_cons, List.length_append, ih hentries.2, hentries.1, List.length_cons]
    rw [Nat.add_mul, Nat.one_mul, Nat.add_comm]

end Holds

end HardwareMediatek.Foundation
