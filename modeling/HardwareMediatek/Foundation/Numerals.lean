import HardwareMediatek.Foundation.ExactFloat

/-!
# Numbers read from text

The conversions `atof` and `stoul` of the C and C++ standard libraries, on the
characters of a string. `atof` reads the longest prefix that is a number and
never fails; a prefix that is no number counts as zero. `stoul` fails when
there is no digit or when the number does not fit into 64 bits, and takes a
minus sign modulo `2 ^ 64`. Decimal fractions are read exactly.
-/

namespace HardwareMediatek

/-- `std::numeric_limits<int>::max()`. -/
def intMax : ℤ := 2147483647

/-- `std::numeric_limits<int>::min()`. -/
def intMin : ℤ := -2147483648

/-- Conversion of an integer to `int`, modulo `2 ^ 32`. -/
def wrapInt (n : ℤ) : ℤ := (n + 2147483648) % 4294967296 - 2147483648

theorem intMin_le_wrapInt (n : ℤ) : intMin ≤ wrapInt n := by
  simp only [intMin, wrapInt]
  omega

theorem wrapInt_le {n : ℤ} (hn : intMin ≤ n) : wrapInt n ≤ n := by
  simp only [intMin, wrapInt] at *
  omega

namespace Numerals

/-- `isspace` in the C locale. -/
def isSpace (c : Char) : Bool :=
  c == ' ' || (9 ≤ c.toNat && c.toNat ≤ 13)

/-- The value of a digit in a base up to sixteen. -/
def digitValue (base : ℕ) (c : Char) : Option ℕ :=
  let value :=
    if '0' ≤ c ∧ c ≤ '9' then some (c.toNat - '0'.toNat)
    else if 'a' ≤ c ∧ c ≤ 'f' then some (c.toNat - 'a'.toNat + 10)
    else if 'A' ≤ c ∧ c ≤ 'F' then some (c.toNat - 'A'.toNat + 10)
    else none
  value.filter (· < base)

/-- Read digits as long as there are any: the number so far, how many were read, the rest. -/
def digits (base : ℕ) : List Char → ℕ → ℕ → ℕ × ℕ × List Char
  | [], value, count => (value, count, [])
  | c :: rest, value, count =>
    match digitValue base c with
    | some digit => digits base rest (value * base + digit) (count + 1)
    | none => (value, count, c :: rest)

/-- An optional sign: whether it is a minus, and the rest. -/
def sign : List Char → Bool × List Char
  | '-' :: rest => (true, rest)
  | '+' :: rest => (false, rest)
  | text => (false, text)

/-- The exponent part after the letter `letter`; without any digit it is not part of the number. -/
def exponent (letter : Char) : List Char → ℤ
  | c :: rest =>
    if c.toLower = letter then
      let (negative, text) := sign rest
      let (value, _, _) := digits 10 text 0 0
      if negative then -(value : ℤ) else value
    else 0
  | [] => 0

/-- Digits, a fraction and an exponent; nothing when there is no digit at all. -/
def unsignedNumber (base : ℕ) (letter : Char) (exponentBase : ℚ) (text : List Char) : Option ℚ :=
  let (whole, wholeCount, rest) := digits base text 0 0
  let (mantissa, count, fractionCount, rest) :=
    match rest with
    | '.' :: fraction =>
      let (mantissa, fractionCount, rest') := digits base fraction whole 0
      (mantissa, wholeCount + fractionCount, fractionCount, rest')
    | _ => (whole, wholeCount, 0, rest)
  if count = 0 then none
  else some ((mantissa : ℚ) / (base : ℚ) ^ fractionCount * exponentBase ^ exponent letter rest)

def startsWith (word : List Char) (text : List Char) : Bool :=
  word.isPrefixOf (text.map Char.toLower)

/-- The number after the sign, in one of the forms `strtod` accepts. -/
def unsignedFloat (text : List Char) : ExactFloat :=
  if startsWith ['i', 'n', 'f'] text then ExactFloat.posInf
  else if startsWith ['n', 'a', 'n'] text then ExactFloat.nan
  else
    let hexadecimal :=
      if startsWith ['0', 'x'] text then unsignedNumber 16 'p' 2 (text.drop 2) else none
    ExactFloat.fin ((hexadecimal.orElse fun _ ↦ unsignedNumber 10 'e' 10 text).getD 0)

end Numerals

open Numerals

/-- `std::atof`. -/
def atof (text : String) : ExactFloat :=
  let (negative, rest) := sign (text.toList.dropWhile isSpace)
  if negative then -unsignedFloat rest else unsignedFloat rest

/-- `std::stoul`; nothing when it throws. -/
def stoul (text : String) : Option ℕ :=
  let (negative, rest) := sign (text.toList.dropWhile isSpace)
  let (value, count, _) := digits 10 rest 0 0
  if count = 0 ∨ 2 ^ 64 ≤ value then none
  else some (if negative then (2 ^ 64 - value) % 2 ^ 64 else value)

example : atof " -12.5e1x" = ExactFloat.fin (-125) := by decide +kernel
example : stoul "42 mW" = some 42 := by decide +kernel
example : (stoul "-5").map (fun n ↦ wrapInt n) = some (-5) := by decide +kernel

end HardwareMediatek
