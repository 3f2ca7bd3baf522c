import HardwareMediatek.Foundation.ByteMemory

/-!
# Elements laid end to end

An element is a byte that names it, a byte that counts the bytes of its body, and the body. A byte
string is split into elements as long as two bytes are left and the body fits in what follows.
-/

namespace HardwareMediatek.Foundation

/-- An element inside a byte string, with the offset of its body. -/
structure Element where
  id : ℕ
  start : ℕ
  length : ℕ
  deriving DecidableEq, Repr

def Element.limit (element : Element) : ℕ := element.start + element.length

def elementAt (bytes : Bytes) (pos : ℕ) : Element where
  id := (bytes pos).toNat
  start := pos + 2
  length := (bytes (pos + 1)).toNat

/-- The elements from `pos` on with `left` bytes to go, in at most `rounds` rounds. -/
def elementsFrom (bytes : Bytes) : ℕ → ℕ → ℕ → List Element
  | 0, _, _ => []
  | rounds + 1, pos, left =>
      if 2 ≤ left ∧ (elementAt bytes pos).length ≤ left - 2 then
        elementAt bytes pos ::
          elementsFrom bytes rounds (elementAt bytes pos).limit
            (left - 2 - (elementAt bytes pos).length)
      else []

/-- The elements of a string: every one takes at least two bytes. -/
def elements (bytes : Bytes) (length : ℕ) : List Element := elementsFrom bytes (length + 1) 0 length

section Split

variable {bytes : Bytes}

/-- An element lies behind the position that the split starts from, and inside the string. -/
theorem mem_elementsFrom {rounds pos left : ℕ} {element : Element}
    (helement : element ∈ elementsFrom bytes rounds pos left) :
    pos + 2 ≤ element.start ∧ element.limit ≤ pos + left := by
  induction rounds generalizing pos left with
  | zero => exact absurd helement List.not_mem_nil
  | succ rounds ih =>
    unfold elementsFrom at helement
    by_cases hfits : 2 ≤ left ∧ (elementAt bytes pos).length ≤ left - 2
    · rw [if_pos hfits, List.mem_cons] at helement
      rcases helement with hhead | htail
      · rw [hhead]
        unfold Element.limit
        change pos + 2 ≤ pos + 2 ∧ pos + 2 + (elementAt bytes pos).length ≤ pos + left
        omega
      · have hrest := ih htail
        change (pos + 2 + (elementAt bytes pos).length) + 2 ≤ _ ∧
          _ ≤ (pos + 2 + (elementAt bytes pos).length) + _ at hrest
        omega
    · rw [if_neg hfits] at helement
      exact absurd helement List.not_mem_nil

end Split

end HardwareMediatek.Foundation
