import Mathlib.Logic.Function.Basic
import HardwareMediatek.Foundation.ByteEncoding

/-!
# Writing bytes through a pointer

A writer is a buffer, a pointer into it and the end of the furthest byte written so far. `Writes` says
all that a computation did to the buffer: which bytes are held from where on, that every other byte is
as before, and how far the writing went. What writes next to each other, over each other or around
bytes that were already right composes.
-/

namespace HardwareMediatek.Foundation

structure ByteWriter where
  bytes : Bytes
  pos : ℕ
  /-- One past the furthest byte written. -/
  written : ℕ

namespace ByteWriter

/-- `buffer[at] = byte`. -/
def store (writer : ByteWriter) (start : ℕ) (byte : UInt8) : ByteWriter :=
  { writer with
    bytes := Function.update writer.bytes start byte
    written := max writer.written (start + 1) }

/-- `*pos++ = byte`. -/
def push (writer : ByteWriter) (byte : UInt8) : ByteWriter :=
  { writer.store writer.pos byte with pos := writer.pos + 1 }

/-- `memcpy` of a list. -/
def storeAll (writer : ByteWriter) (start : ℕ) : List UInt8 → ByteWriter
  | [] => writer
  | byte :: list => (writer.store start byte).storeAll (start + 1) list

/-- Everything from the pointer to the limit is still zero. -/
def Fresh (writer : ByteWriter) (limit : ℕ) : Prop :=
  ∀ k, writer.pos ≤ k → k < limit → writer.bytes k = 0

/-- The bytes of the list are written from `start` on, and nothing else is. -/
structure Writes (before after : ByteWriter) (start : ℕ) (list : List UInt8) : Prop where
  holds : Holds after.bytes start list
  kept : ∀ k, k < start ∨ start + list.length ≤ k → after.bytes k = before.bytes k
  written : ∀ limit, after.written ≤ limit ↔
    before.written ≤ limit ∧ (list.length = 0 ∨ start + list.length ≤ limit)

/-- The list is written at the pointer, and the pointer is behind it. -/
structure Appends (before after : ByteWriter) (list : List UInt8) : Prop where
  writes : Writes before after before.pos list
  pos : after.pos = before.pos + list.length

variable {first second third : ByteWriter} {start : ℕ} {left right list : List UInt8}

theorem Writes.nil (writer : ByteWriter) (start : ℕ) : Writes writer writer start [] where
  holds := holds_nil
  kept := fun _ _ ↦ rfl
  written := by simp

theorem writes_store (writer : ByteWriter) (start : ℕ) (byte : UInt8) :
    Writes writer (writer.store start byte) start [byte] where
  holds := by
    rw [holds_cons]
    exact ⟨by simp only [store, Function.update_self], holds_nil⟩
  kept := by
    intro k hk
    have hne : k ≠ start := by
      rw [List.length_singleton] at hk
      omega
    exact Function.update_of_ne hne byte writer.bytes
  written := by
    intro limit
    simp only [store, List.length_singleton]
    omega

/-- What is written behind something does not change it. -/
theorem Writes.trans (hleft : Writes first second start left)
    (hright : Writes second third (start + left.length) right) :
    Writes first third start (left ++ right) where
  holds := by
    rw [holds_append]
    apply And.intro
    · intro k hk
      rw [hright.kept (start + k) (Or.inl (by omega))]
      exact hleft.holds k hk
    · exact hright.holds
  kept := by
    intro k hk
    rw [List.length_append] at hk
    rw [hright.kept k (by omega), hleft.kept k (by omega)]
  written := by
    intro limit
    rw [hright.written, hleft.written, List.length_append]
    omega

/-- Between two writes there may be bytes that are right as they are. -/
theorem Writes.trans_gap {gap : List UInt8} (hleft : Writes first second start left)
    (hgap : Holds first.bytes (start + left.length) gap)
    (hright : Writes second third (start + (left ++ gap).length) right) (hne : right ≠ []) :
    Writes first third start (left ++ gap ++ right) where
  holds := by
    rw [holds_append, holds_append]
    have hlength : (left ++ gap).length = left.length + gap.length := List.length_append
    refine ⟨⟨?_, ?_⟩, hright.holds⟩
    · intro k hk
      rw [hright.kept (start + k) (Or.inl (by omega))]
      exact hleft.holds k hk
    · intro k hk
      rw [hright.kept (start + left.length + k) (Or.inl (by omega)),
        hleft.kept (start + left.length + k) (Or.inr (by omega))]
      exact hgap k hk
  kept := by
    intro k hk
    rw [List.length_append, List.length_append] at hk
    have hlength : (left ++ gap).length = left.length + gap.length := List.length_append
    rw [hright.kept k (by omega), hleft.kept k (by omega)]
  written := by
    intro limit
    have hpos : 0 < right.length := List.length_pos_iff.mpr hne
    rw [hright.written, hleft.written]
    simp only [List.length_append]
    omega

/-- What is written over something of the same length replaces it. -/
theorem Writes.overwrite (hleft : Writes first second start left)
    (hright : Writes second third start right) (hlength : left.length = right.length) :
    Writes first third start right where
  holds := hright.holds
  kept := by
    intro k hk
    rw [hright.kept k hk, hleft.kept k (by omega)]
  written := by
    intro limit
    rw [hright.written, hleft.written, hlength]
    omega

/-- The front of what is written is written again. -/
theorem Writes.overwriteFront {front : List UInt8} (hboth : Writes first second start (left ++ right))
    (hfront : Writes second third start front) (hlength : left.length = front.length) :
    Writes first third start (front ++ right) where
  holds := by
    have hheld := (holds_append _ _).mp hboth.holds
    rw [holds_append]
    apply And.intro hfront.holds
    intro k hk
    rw [hfront.kept _ (Or.inr (by omega)), ← hlength]
    exact hheld.2 k hk
  kept := by
    intro k hk
    rw [List.length_append] at hk
    have hbothLength : (left ++ right).length = left.length + right.length := List.length_append
    rw [hfront.kept k (by omega), hboth.kept k (by omega)]
  written := by
    intro limit
    rw [hfront.written, hboth.written, List.length_append, List.length_append, hlength]
    omega

/-- A value put in place first, and what goes before it after that. -/
theorem Writes.inPlace (hvalue : Writes first second (start + left.length) right)
    (hall : Writes second third start (left ++ right)) :
    Writes first third start (left ++ right) where
  holds := hall.holds
  kept := by
    intro k hk
    have hlength : (left ++ right).length = left.length + right.length := List.length_append
    rw [hall.kept k hk, hvalue.kept k (by omega)]
  written := by
    intro limit
    rw [hall.written, hvalue.written, List.length_append]
    omega

theorem writes_storeAll (writer : ByteWriter) (start : ℕ) (list : List UInt8) :
    Writes writer (writer.storeAll start list) start list := by
  induction list generalizing writer start with
  | nil => exact Writes.nil writer start
  | cons byte list ih => exact (writes_store writer start byte).trans (ih _ (start + 1))

theorem storeAll_pos (writer : ByteWriter) (start : ℕ) (list : List UInt8) :
    (writer.storeAll start list).pos = writer.pos := by
  induction list generalizing writer start with
  | nil => rfl
  | cons byte list ih => exact ih (writer.store start byte) (start + 1)

theorem Appends.nil (writer : ByteWriter) : Appends writer writer [] where
  writes := Writes.nil writer writer.pos
  pos := rfl

theorem appends_push (writer : ByteWriter) (byte : UInt8) :
    Appends writer (writer.push byte) [byte] where
  writes :=
    ⟨(writes_store writer writer.pos byte).holds, (writes_store writer writer.pos byte).kept,
      (writes_store writer writer.pos byte).written⟩
  pos := rfl

theorem Appends.trans (hleft : Appends first second left) (hright : Appends second third right) :
    Appends first third (left ++ right) where
  writes := by
    apply hleft.writes.trans
    rw [← hleft.pos]
    exact hright.writes
  pos := by
    rw [hright.pos, hleft.pos, List.length_append, Nat.add_assoc]

theorem Appends.fresh {limit : ℕ} (happends : Appends first second list)
    (hfresh : first.Fresh limit) : second.Fresh limit := by
  intro k hk hlimit
  rw [happends.pos] at hk
  rw [happends.writes.kept k (Or.inr hk)]
  exact hfresh k (by omega) hlimit

/-- A writer whose pointer is at the end of what is written stays so. -/
theorem Appends.written_eq_pos (happends : Appends first second list)
    (hwritten : first.written = first.pos) : second.written = second.pos := by
  have hlimit := happends.writes.written
  rw [happends.pos]
  apply Nat.le_antisymm
  · rw [hlimit]
    omega
  · have := (hlimit second.written).mp (Nat.le_refl _)
    omega

end ByteWriter

end HardwareMediatek.Foundation
