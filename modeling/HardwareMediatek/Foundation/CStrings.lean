import HardwareMediatek.Foundation.ByteEncoding
import Mathlib.Data.List.GetD

/-!
# Character buffers

The memory behind a pointer together with the regions written, and what the C library does to it. A
write has its effect wherever it lands, so that an overflow is seen in the regions and not hidden.
-/

namespace HardwareMediatek.Foundation

/-- The bytes of a string literal. -/
def bytesOf (literal : String) : List UInt8 := literal.toList.map fun char ↦ char.toNat.toUInt8

/-- A list of bytes in memory, with NUL bytes behind it. -/
def inMemory (data : List UInt8) : Bytes := fun pos ↦ data.getD pos 0

/-- The length of a string that has a NUL byte at `limit` if not before. -/
def strlenUpTo (bytes : Bytes) : ℕ → ℕ
  | 0 => 0
  | limit + 1 => if bytes 0 = 0 then 0 else strlenUpTo (fun pos ↦ bytes (pos + 1)) limit + 1

section Strlen

theorem strlenUpTo_le (bytes : Bytes) (limit : ℕ) : strlenUpTo bytes limit ≤ limit := by
  induction limit generalizing bytes with
  | zero => exact Nat.le_refl 0
  | succ limit ih =>
    unfold strlenUpTo
    by_cases hnul : bytes 0 = 0
    · rw [if_pos hnul]
      exact Nat.zero_le _
    · rw [if_neg hnul]
      exact Nat.succ_le_succ (ih _)

/-- The string ends with a NUL byte. -/
theorem strlenUpTo_nul {bytes : Bytes} {limit : ℕ} (hlimit : bytes limit = 0) :
    bytes (strlenUpTo bytes limit) = 0 := by
  induction limit generalizing bytes with
  | zero => exact hlimit
  | succ limit ih =>
    unfold strlenUpTo
    by_cases hnul : bytes 0 = 0
    · rw [if_pos hnul]
      exact hnul
    · rw [if_neg hnul]
      exact @ih (fun pos ↦ bytes (pos + 1)) hlimit

theorem strlenUpTo_eq_zero_iff (bytes : Bytes) (limit : ℕ) :
    strlenUpTo bytes limit = 0 ↔ limit = 0 ∨ bytes 0 = 0 := by
  cases limit with
  | zero => exact iff_of_true rfl (Or.inl rfl)
  | succ limit =>
    unfold strlenUpTo
    by_cases hnul : bytes 0 = 0
    · rw [if_pos hnul]
      exact iff_of_true rfl (Or.inr hnul)
    · rw [if_neg hnul]
      apply iff_of_false
      · exact Nat.succ_ne_zero _
      · intro hor
        exact hor.elim (Nat.succ_ne_zero _) hnul

/-- The length of a text is found by its NUL byte. -/
theorem strlenUpTo_of_holds {bytes : Bytes} {text : List UInt8} {limit : ℕ} (hlimit : text.length ≤ limit)
    (hnul : 0 ∉ text) (hholds : Holds bytes 0 (text ++ [0])) : strlenUpTo bytes limit = text.length := by
  induction text generalizing bytes limit with
  | nil =>
    apply (strlenUpTo_eq_zero_iff bytes limit).mpr
    exact Or.inr ((holds_cons 0 []).mp hholds).1
  | cons head text ih =>
    rw [List.length_cons] at hlimit
    rw [List.mem_cons, not_or] at hnul
    have hparts := (holds_cons head (text ++ [0])).mp hholds
    obtain ⟨limit, rfl⟩ := Nat.exists_eq_add_of_le' (Nat.le_of_add_left_le hlimit)
    have hrest : Holds (fun pos ↦ bytes (pos + 1)) 0 (text ++ [0]) := by
      intro k hk
      change bytes (0 + k + 1) = _
      rw [← hparts.2 k hk, Nat.add_right_comm]
    unfold strlenUpTo
    rw [if_neg (by rw [hparts.1]; exact Ne.symm hnul.1), ih (by omega) hnul.2 hrest, List.length_cons]

end Strlen

/-- Memory from a pointer on, and the regions of it that were written. -/
structure Buffer where
  bytes : Bytes
  writes : List Region

namespace Buffer

variable (buffer : Buffer)

def store (start : ℕ) (data : List UInt8) : Buffer where
  bytes pos :=
    if start ≤ pos ∧ pos < start + data.length then data.getD (pos - start) 0 else buffer.bytes pos
  writes := buffer.writes ++ [⟨start, data.length⟩]

def memset (start : ℕ) (byte : UInt8) (size : ℕ) : Buffer :=
  buffer.store start (List.replicate size byte)

def memcpy (start : ℕ) (source : Bytes) (size : ℕ) : Buffer :=
  buffer.store start ((List.range size).map source)

/-- `strncpy` fills what the source leaves with NUL bytes, and adds none behind a long source. -/
def strncpy (start : ℕ) (source : Bytes) (size : ℕ) : Buffer :=
  buffer.store start
    ((List.range size).map fun pos ↦ if pos < strlenUpTo source size then source pos else 0)

/-- `snprintf` of a text cuts it to the size. What it returns is the length of the whole text. -/
def snprintf (start size : ℕ) (text : List UInt8) : Buffer :=
  if size = 0 then buffer else buffer.store start (text.take (size - 1) ++ [0])

/-- `strlcpy` cuts the text to the size. -/
def strlcpy (start : ℕ) (text : List UInt8) (size : ℕ) : Buffer := buffer.snprintf start size text

/-- `strlcat` goes on at the NUL byte, if there is one inside the size. -/
def strlcat (start : ℕ) (text : List UInt8) (size : ℕ) : Buffer :=
  let length := strlenUpTo (fun pos ↦ buffer.bytes (start + pos)) size
  buffer.snprintf (start + length) (size - length) text

/-- A text with its NUL byte, inside the size. -/
structure HoldsText (start size : ℕ) (text : List UInt8) : Prop where
  holds : Holds buffer.bytes start (text ++ [0])
  fits : text.length < size

/-- Nothing is written at `limit` or after it. -/
def Within (limit : ℕ) : Prop := ∀ write ∈ buffer.writes, write.EndsBy limit

variable {buffer} {start limit : ℕ} {data : List UInt8}

theorem bytes_store_of_lt {pos : ℕ} (hpos : pos < start) :
    (buffer.store start data).bytes pos = buffer.bytes pos :=
  if_neg fun hinside ↦ Nat.not_le_of_lt hpos hinside.1

theorem bytes_store_of_le {pos : ℕ} (hpos : start + data.length ≤ pos) :
    (buffer.store start data).bytes pos = buffer.bytes pos :=
  if_neg fun hinside ↦ Nat.not_le_of_lt hinside.2 hpos

theorem bytes_store {offset : ℕ} (hoffset : offset < data.length) :
    (buffer.store start data).bytes (start + offset) = data.getD offset 0 := by
  have hinside : start ≤ start + offset ∧ start + offset < start + data.length := by omega
  unfold store
  dsimp only
  rw [if_pos hinside, Nat.add_sub_cancel_left]

theorem within_store_iff :
    (buffer.store start data).Within limit ↔
      buffer.Within limit ∧ (data = [] ∨ start + data.length ≤ limit) := by
  unfold Within store
  rw [List.forall_mem_append, List.forall_mem_singleton]
  apply and_congr_right
  intro _
  unfold Region.EndsBy
  rw [List.length_eq_zero_iff]

theorem length_take_nul (text : List UInt8) (size : ℕ) :
    (text.take size ++ [0]).length = min size text.length + 1 := by
  rw [List.length_append, List.length_take, List.length_singleton]

/-- `snprintf` keeps to its size. -/
theorem within_snprintf {size : ℕ} {text : List UInt8} (hsize : start + size ≤ limit)
    (hwithin : buffer.Within limit) : (buffer.snprintf start size text).Within limit := by
  unfold snprintf
  by_cases hzero : size = 0
  · rw [if_pos hzero]
    exact hwithin
  · rw [if_neg hzero, within_store_iff, length_take_nul]
    apply And.intro hwithin
    apply Or.inr
    omega

/-- A text that fits is followed by its NUL byte. -/
theorem bytes_snprintf_nul {size : ℕ} {text : List UInt8} (htext : text.length < size) :
    (buffer.snprintf start size text).bytes (start + text.length) = 0 := by
  unfold snprintf
  have htake : text.take (size - 1) = text := List.take_of_length_le (by omega)
  rw [if_neg (by omega), htake, bytes_store (by simp)]
  simp

theorem bytes_snprintf_of_lt {size pos : ℕ} {text : List UInt8} (hpos : pos < start) :
    (buffer.snprintf start size text).bytes pos = buffer.bytes pos := by
  unfold snprintf
  by_cases hzero : size = 0
  · rw [if_pos hzero]
  · rw [if_neg hzero]
    exact bytes_store_of_lt hpos

theorem holds_store (buffer : Buffer) (start : ℕ) (data : List UInt8) :
    Holds (buffer.store start data).bytes start data := by
  intro k hk
  rw [bytes_store hk, List.getD_eq_getElem _ _ hk]

theorem holds_snprintf (buffer : Buffer) (start : ℕ) {size : ℕ} {text : List UInt8}
    (htext : text.length < size) : Holds (buffer.snprintf start size text).bytes start (text ++ [0]) := by
  unfold snprintf
  rw [if_neg (by omega), List.take_of_length_le (by omega)]
  exact holds_store buffer start (text ++ [0])

theorem holdsText_strlcpy (buffer : Buffer) (start : ℕ) {size : ℕ} {text : List UInt8}
    (htext : text.length < size) : (buffer.strlcpy start text size).HoldsText start size text where
  holds := holds_snprintf buffer start htext
  fits := htext

/-- A text behind another one that it fits with. -/
theorem HoldsText.strlcat {size : ℕ} {first second : List UInt8} (h : buffer.HoldsText start size first)
    (hnul : 0 ∉ first) (hfits : (first ++ second).length < size) :
    (buffer.strlcat start second size).HoldsText start size (first ++ second) where
  fits := hfits
  holds := by
    have hlength : strlenUpTo (fun pos ↦ buffer.bytes (start + pos)) size = first.length := by
      apply strlenUpTo_of_holds (Nat.le_of_lt h.fits) hnul
      intro k hk
      rw [← h.holds k hk, Nat.zero_add]
    rw [List.length_append] at hfits
    unfold Buffer.strlcat
    dsimp only
    rw [hlength, List.append_assoc, holds_append]
    apply And.intro
    · intro k hk
      rw [bytes_snprintf_of_lt (by omega), h.holds k (by rw [List.length_append]; omega),
        List.getElem_append_left hk]
    · exact holds_snprintf buffer _ (by omega)

theorem within_strlcat {size : ℕ} {text : List UInt8} (hsize : start + size ≤ limit)
    (hwithin : buffer.Within limit) : (buffer.strlcat start text size).Within limit := by
  have hle := strlenUpTo_le (fun pos ↦ buffer.bytes (start + pos)) size
  exact within_snprintf (by omega) hwithin

/-- There is one text without NUL bytes at a place. -/
theorem HoldsText.inj {size : ℕ} {first second : List UInt8} (hfirst : buffer.HoldsText start size first)
    (hsecond : buffer.HoldsText start size second) (hnulFirst : 0 ∉ first) (hnulSecond : 0 ∉ second) :
    first = second := by
  have hlengths : ∀ text, 0 ∉ text → buffer.HoldsText start size text →
      strlenUpTo (fun pos ↦ buffer.bytes (start + pos)) size = text.length := by
    intro text hnul htext
    apply strlenUpTo_of_holds (Nat.le_of_lt htext.fits) hnul
    intro k hk
    rw [← htext.holds k hk, Nat.zero_add]
  have hlength := (hlengths first hnulFirst hfirst).symm.trans (hlengths second hnulSecond hsecond)
  apply List.ext_getElem hlength
  intro k hk hk'
  have hleft := hfirst.holds k (by rw [List.length_append]; omega)
  have hright := hsecond.holds k (by rw [List.length_append]; omega)
  rw [List.getElem_append_left hk] at hleft
  rw [List.getElem_append_left hk'] at hright
  rw [← hleft, hright]

end Buffer

end HardwareMediatek.Foundation
