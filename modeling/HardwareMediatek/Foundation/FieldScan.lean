import Mathlib.Data.UInt
import Mathlib.Tactic.Common

/-!
# Fields scanned from text

`sscanf` with directives for hexadecimal bytes, literal bytes and single characters. A field may begin
with blanks and a sign, so that there are more texts for a byte than its two digits.
-/

namespace HardwareMediatek.Foundation.Scan

def isSpace (byte : UInt8) : Bool := byte = 32 ∨ (9 ≤ byte ∧ byte ≤ 13)

def hexValue (byte : UInt8) : Option UInt8 :=
  if 48 ≤ byte ∧ byte ≤ 57 then some (byte - 48)
  else if 97 ≤ byte ∧ byte ≤ 102 then some (byte - 87)
  else if 65 ≤ byte ∧ byte ≤ 70 then some (byte - 55)
  else none

/-- The number that is read so far is continued as long as there are digits. -/
def readHex (value : UInt8) : List UInt8 → UInt8 × List UInt8
  | [] => (value, [])
  | byte :: rest =>
    match hexValue byte with
    | some digit => readHex (16 * value + digit) rest
    | none => (value, byte :: rest)

/-- Whether there is a minus, and what follows the sign. -/
def readSign : List UInt8 → Bool × List UInt8
  | [] => (false, [])
  | byte :: rest =>
    if byte = 45 then (true, rest) else if byte = 43 then (false, rest) else (false, byte :: rest)

/-- `0x` may stand before the digits. -/
def dropMarker : List UInt8 → List UInt8
  | zero :: x :: rest => if zero = 48 ∧ (x = 120 ∨ x = 88) then rest else zero :: x :: rest
  | field => field

/-- `%hhx` with a width that an `unsigned long` holds: the byte and the rest of the text. -/
def scanHex (width : ℕ) (text : List UInt8) : Option (UInt8 × List UInt8) :=
  let text := text.dropWhile isSpace
  let sign := readSign (text.take width)
  let field := dropMarker sign.2
  if (field.head?.bind hexValue).isSome then
    let number := readHex 0 field
    some (if sign.1 then -number.1 else number.1, number.2 ++ text.drop width)
  else none

inductive Directive where
  | hexByte (width : ℕ)
  | literal (byte : UInt8)
  /-- `%1c` -/
  | char
deriving DecidableEq, Repr

/-- The values that `sscanf` stores, in their order. It returns how many they are, or `EOF` if the text
ends before the first one. -/
def scan : List Directive → List UInt8 → List UInt8
  | [], _ => []
  | .hexByte width :: directives, text =>
    match scanHex width text with
    | some field => field.1 :: scan directives field.2
    | none => []
  | .literal _ :: _, [] => []
  | .literal byte :: directives, next :: text => if next = byte then scan directives text else []
  | .char :: _, [] => []
  | .char :: directives, next :: text => next :: scan directives text

/-! ## The texts of a byte -/

/-- Two digits. -/
inductive HexPair : List UInt8 → UInt8 → Prop where
  | digits {high low highValue lowValue : UInt8} (hhigh : hexValue high = some highValue)
      (hlow : hexValue low = some lowValue) : HexPair [high, low] (16 * highValue + lowValue)

/-- What `%2hhx` reads. -/
inductive HexField : List UInt8 → UInt8 → Prop where
  | pair {field : List UInt8} {value : UInt8} (hpair : HexPair field value) : HexField field value
  | digit {byte value : UInt8} (hbyte : hexValue byte = some value) : HexField [byte] value
  | plus {byte value : UInt8} (hbyte : hexValue byte = some value) : HexField [43, byte] value
  | minus {byte value : UInt8} (hbyte : hexValue byte = some value) : HexField [45, byte] (-value)
  | space {byte value : UInt8} {field : List UInt8} (hbyte : isSpace byte = true)
      (hfield : HexField field value) : HexField (byte :: field) value

/-- Fields with a separator between them, and their values. -/
inductive Joined (IsField : List UInt8 → UInt8 → Prop) (separator : UInt8) :
    List UInt8 → List UInt8 → Prop where
  | last {field : List UInt8} {value : UInt8} (hfield : IsField field value) :
      Joined IsField separator field [value]
  | cons {field text values : List UInt8} {value : UInt8} (hfield : IsField field value)
      (hrest : Joined IsField separator text values) :
      Joined IsField separator (field ++ separator :: text) (value :: values)

/-- Bytes with a separator between them, and nothing behind them. -/
def bytesFormat (separator : UInt8) : ℕ → List Directive
  | 0 => [.hexByte 2, .char]
  | count + 1 => .hexByte 2 :: .literal separator :: bytesFormat separator count

section Fields

variable {byte value : UInt8} {field text rest values : List UInt8}

theorem hexValue_of_isSpace (h : isSpace byte = true) : hexValue byte = none := by
  have hspace : byte = 32 ∨ 9 ≤ byte ∧ byte ≤ 13 := of_decide_eq_true h
  unfold hexValue
  simp only [← UInt8.toNat_inj, UInt8.le_iff_toNat_le, UInt8.reduceToNat] at hspace ⊢
  rw [if_neg (by omega), if_neg (by omega), if_neg (by omega)]

/-- A digit is no blank, no sign, and no letter of a marker. -/
theorem not_special_of_hexValue (h : hexValue byte = some value) :
    isSpace byte = false ∧ byte ≠ 45 ∧ byte ≠ 43 ∧ byte ≠ 120 ∧ byte ≠ 88 := by
  constructor
  · by_contra hspace
    exact nomatch h.symm.trans (hexValue_of_isSpace (Bool.not_eq_false _ ▸ hspace))
  · refine ⟨?_, ?_, ?_, ?_⟩
    all_goals
      rintro rfl
      exact nomatch h

theorem scanHex_space (hbyte : isSpace byte = true) (width : ℕ) (text : List UInt8) :
    scanHex width (byte :: text) = scanHex width text := by
  unfold scanHex
  rw [List.dropWhile_cons_of_pos hbyte]

/-- A field ends before a byte that can continue none. -/
def Stops (rest : List UInt8) : Prop :=
  ∀ byte ∈ rest.head?, hexValue byte = none ∧ byte ≠ 120 ∧ byte ≠ 88

theorem scanHex_of_hexPair (hpair : HexPair field value) (rest : List UInt8) :
    scanHex 2 (field ++ rest) = some (value, rest) := by
  obtain ⟨hhigh, hlow⟩ := hpair
  have hspecial := not_special_of_hexValue hhigh
  have hspecial' := not_special_of_hexValue hlow
  simp [scanHex, readSign, dropMarker, readHex, hspecial, hspecial', hhigh, hlow]

theorem scanHex_of_sign {sign : UInt8} (hsign : sign = 43 ∨ sign = 45) (hbyte : hexValue byte = some value)
    (rest : List UInt8) :
    scanHex 2 (sign :: byte :: rest) = some (if sign = 45 then -value else value, rest) := by
  have hspace : isSpace sign = false := by rcases hsign with rfl | rfl <;> rfl
  rcases hsign with rfl | rfl
  · simp [scanHex, readSign, dropMarker, readHex, hspace, hbyte]
  · simp [scanHex, readSign, dropMarker, readHex, hspace, hbyte]

theorem scanHex_of_digit (hbyte : hexValue byte = some value) (hrest : Stops rest) :
    scanHex 2 (byte :: rest) = some (value, rest) := by
  have hspecial := not_special_of_hexValue hbyte
  cases rest with
  | nil => simp [scanHex, readSign, dropMarker, readHex, hspecial, hbyte]
  | cons next rest =>
    have hnext := hrest next rfl
    simp [scanHex, readSign, dropMarker, readHex, hspecial, hbyte, hnext]

theorem scanHex_of_hexField (hfield : HexField field value) (hrest : Stops rest) :
    scanHex 2 (field ++ rest) = some (value, rest) := by
  induction hfield with
  | pair hpair => exact scanHex_of_hexPair hpair rest
  | digit hbyte => exact scanHex_of_digit hbyte hrest
  | plus hbyte => exact scanHex_of_sign (Or.inl rfl) hbyte rest
  | minus hbyte => exact scanHex_of_sign (Or.inr rfl) hbyte rest
  | space hbyte _ ih => exact (scanHex_space hbyte 2 _).trans ih

/-- A digit has to follow a sign. -/
theorem hexField_of_scanHex_sign {sign : UInt8} (hsign : sign = 43 ∨ sign = 45)
    (h : scanHex 2 (sign :: text) = some (value, rest)) :
    ∃ field, HexField field value ∧ sign :: text = field ++ rest := by
  have hspace : isSpace sign = false := by rcases hsign with rfl | rfl <;> rfl
  cases text with
  | nil => rcases hsign with rfl | rfl <;> exact nomatch h
  | cons next text =>
    cases hnext : hexValue next with
    | none =>
      rcases hsign with rfl | rfl <;>
        simp [scanHex, readSign, dropMarker, hspace, hnext] at h
    | some digit =>
      have hread := Option.some.inj (h.symm.trans (scanHex_of_sign hsign hnext text))
      rw [(Prod.mk.inj hread).1, (Prod.mk.inj hread).2]
      rcases hsign with rfl | rfl
      · exact ⟨[43, next], HexField.plus hnext, rfl⟩
      · exact ⟨[45, next], HexField.minus hnext, rfl⟩

/-- Without a sign and blanks a second digit is read where there is one. -/
theorem hexField_of_scanHex_digit (hspace : isSpace byte = false) (hsign : ¬ (byte = 43 ∨ byte = 45))
    (h : scanHex 2 (byte :: text) = some (value, rest)) :
    ∃ field, HexField field value ∧ byte :: text = field ++ rest := by
  rw [not_or] at hsign
  cases hbyte : hexValue byte with
  | none =>
    cases text with
    | nil => simp [scanHex, readSign, dropMarker, hspace, hsign, hbyte] at h
    | cons next text =>
      have hzero : byte ≠ 48 := by
        rintro rfl
        exact nomatch hbyte
      simp [scanHex, readSign, dropMarker, hspace, hsign, hbyte, hzero] at h
  | some digit =>
    cases text with
    | nil =>
      have hread := Option.some.inj (h.symm.trans (scanHex_of_digit hbyte (nofun : Stops [])))
      rw [(Prod.mk.inj hread).1, (Prod.mk.inj hread).2]
      exact ⟨[byte], HexField.digit hbyte, rfl⟩
    | cons next text =>
      cases hnext : hexValue next with
      | none =>
        by_cases hmarker : byte = 48 ∧ (next = 120 ∨ next = 88)
        · obtain ⟨rfl, hx⟩ := hmarker
          simp [scanHex, readSign, dropMarker, hspace, hx] at h
        · simp [scanHex, readSign, dropMarker, readHex, hspace, hsign, hmarker, hbyte, hnext] at h
          obtain ⟨rfl, rfl⟩ := h
          exact ⟨[byte], HexField.digit hbyte, rfl⟩
      | some low =>
        have hpair := HexPair.digits hbyte hnext
        have hread := Option.some.inj (h.symm.trans (scanHex_of_hexPair hpair text))
        rw [(Prod.mk.inj hread).1, (Prod.mk.inj hread).2]
        exact ⟨[byte, next], HexField.pair hpair, rfl⟩

theorem hexField_of_scanHex (h : scanHex 2 text = some (value, rest)) :
    ∃ field, HexField field value ∧ text = field ++ rest := by
  induction text with
  | nil => exact nomatch h
  | cons byte text ih =>
    cases hspace : isSpace byte with
    | true =>
      obtain ⟨field, hfield, htext⟩ := ih ((scanHex_space hspace 2 text).symm.trans h)
      exact ⟨byte :: field, HexField.space hspace hfield, congrArg (byte :: ·) htext⟩
    | false =>
      by_cases hsign : byte = 43 ∨ byte = 45
      · exact hexField_of_scanHex_sign hsign h
      · exact hexField_of_scanHex_digit hspace hsign h

end Fields

section Joined

variable {IsField : List UInt8 → UInt8 → Prop} {separator : UInt8} {text values : List UInt8}

theorem Joined.mono {IsOther : List UInt8 → UInt8 → Prop}
    (himp : ∀ field value, IsField field value → IsOther field value)
    (h : Joined IsField separator text values) : Joined IsOther separator text values := by
  induction h with
  | last hfield => exact Joined.last (himp _ _ hfield)
  | cons hfield _ ih => exact Joined.cons (himp _ _ hfield) ih

theorem Joined.length_hexPair (h : Joined HexPair separator text values) :
    text.length + 1 = 3 * values.length := by
  induction h with
  | last hfield =>
    obtain ⟨-, -⟩ := hfield
    rfl
  | cons hfield _ ih =>
    obtain ⟨-, -⟩ := hfield
    simp only [List.length_append, List.length_cons, List.length_nil] at *
    omega

theorem scan_hexByte {width : ℕ} {rest : List UInt8} {value : UInt8}
    (hread : scanHex width text = some (value, rest)) (directives : List Directive) :
    scan (.hexByte width :: directives) text = value :: scan directives rest := by
  rw [scan, hread]

theorem scan_hexByte_none {width : ℕ} (hread : scanHex width text = none)
    (directives : List Directive) : scan (.hexByte width :: directives) text = [] := by
  rw [scan, hread]

/-- Fields with separators between them are scanned to their end. -/
theorem scan_of_joined {count : ℕ} (hstops : Stops [separator]) (hlength : values.length = count + 1)
    (h : Joined HexField separator text values) : scan (bytesFormat separator count) text = values := by
  induction h generalizing count with
  | @last field value hfield =>
    obtain rfl : count = 0 := by simpa using hlength.symm
    have hread := scanHex_of_hexField hfield (nofun : Stops [])
    rw [List.append_nil] at hread
    exact scan_hexByte hread [.char]
  | @cons field text values value hfield hrest ih =>
    obtain ⟨count, rfl⟩ : ∃ rest, count = rest + 1 := by
      cases hrest <;> exact ⟨_, (Nat.succ.inj hlength).symm⟩
    have hread : scanHex 2 (field ++ separator :: text) = some (value, separator :: text) :=
      scanHex_of_hexField hfield hstops
    calc
      scan (bytesFormat separator (count + 1)) (field ++ separator :: text) =
          value :: scan (.literal separator :: bytesFormat separator count) (separator :: text) :=
        scan_hexByte hread _
      _ = value :: scan (bytesFormat separator count) text :=
        congrArg (value :: ·) (if_pos rfl)
      _ = value :: values := congrArg (value :: ·) (ih (Nat.succ.inj hlength))

/-- What is scanned with one value for each field are fields with separators between them. -/
theorem joined_of_scan {count : ℕ} (h : (scan (bytesFormat separator count) text).length = count + 1) :
    Joined HexField separator text (scan (bytesFormat separator count) text) := by
  induction count generalizing text with
  | zero =>
    unfold bytesFormat at h ⊢
    cases hread : scanHex 2 text with
    | none =>
      rw [scan_hexByte_none hread] at h
      exact absurd h (by decide)
    | some read =>
      obtain ⟨value, rest⟩ := read
      rw [scan_hexByte hread] at h ⊢
      obtain ⟨field, hfield, rfl⟩ := hexField_of_scanHex hread
      cases rest with
      | nil =>
        rw [List.append_nil]
        exact Joined.last hfield
      | cons next rest => exact absurd h (by simp [scan])
  | succ count ih =>
    unfold bytesFormat at h ⊢
    cases hread : scanHex 2 text with
    | none =>
      rw [scan_hexByte_none hread] at h
      exact nomatch h
    | some read =>
      obtain ⟨value, rest⟩ := read
      rw [scan_hexByte hread] at h ⊢
      obtain ⟨field, hfield, rfl⟩ := hexField_of_scanHex hread
      have hlength := Nat.succ.inj h
      cases rest with
      | nil => exact nomatch hlength
      | cons next rest =>
        unfold scan at hlength ⊢
        split at hlength
        · rename_i hnext
          rw [if_pos hnext, hnext]
          exact Joined.cons hfield (ih hlength)
        · exact nomatch hlength

end Joined

end HardwareMediatek.Foundation.Scan
