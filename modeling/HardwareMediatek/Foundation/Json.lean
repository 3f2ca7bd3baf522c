import HardwareMediatek.Foundation.FloatFormat
import HardwareMediatek.Foundation.Numerals

/-!
# JSON values with checked access

A `Json` value and the accessors of a C++ JSON library. Reading a member of
something that is no object, an element of something that is no array, or
converting a value to a type it does not have is an assertion failure of that
library and gives no result here. A missing member or element reads as `null`.
-/

namespace HardwareMediatek

/-- A JSON value; a `real` is the `double` that was parsed, and also carries the text it is printed as. -/
inductive Json where
  | null
  | bool (b : Bool)
  | int (n : ℤ)
  | real (x : ℚ) (text : String)
  | str (s : String)
  | arr (elements : List Json)
  | obj (members : List (String × Json))

namespace Json

instance : Inhabited Json := ⟨null⟩

def isString : Json → Bool
  | str _ => true
  | _ => false

def isBool : Json → Bool
  | bool _ => true
  | _ => false

def isNull : Json → Bool
  | null => true
  | _ => false

/-- `value[key]`. Of several members with one key, the parser keeps the last one. -/
def get (key : String) : Json → Option Json
  | null => some null
  | obj members => some ((members.reverse.lookup key).getD null)
  | _ => none

/-- `value[index]`. -/
def at? (index : ℕ) : Json → Option Json
  | null => some null
  | arr elements => some (elements.getD index null)
  | _ => none

def size : Json → ℕ
  | arr elements => elements.length
  | obj members => (members.map Prod.fst).dedup.length
  | _ => 0

/-- `value.empty()`: `null`, or an array or object without elements. -/
def empty : Json → Bool
  | null => true
  | arr elements => elements.isEmpty
  | obj members => members.isEmpty
  | _ => false

/-- The elements a loop over the indices below `size` reads. -/
def items : Json → Option (List Json)
  | arr elements => some elements
  | obj members => if members.isEmpty then some [] else none
  | _ => some []

def asString : Json → Option String
  | null => some ""
  | bool b => some (if b then "true" else "false")
  | int n => some (toString n)
  | real _ text => some text
  | str s => some s
  | arr _ | obj _ => none

def asBool : Json → Option Bool
  | null => some false
  | bool b => some b
  | int n => some (decide (n ≠ 0))
  | real x _ => some (decide (x ≠ 0))
  | str _ | arr _ | obj _ => none

def asInt : Json → Option ℤ
  | null => some 0
  | bool b => some (if b then 1 else 0)
  | int n => if intMin ≤ n ∧ n ≤ intMax then some n else none
  | real x _ => if (intMin : ℚ) ≤ x ∧ x ≤ intMax then some (ExactFloat.truncate x) else none
  | str _ | arr _ | obj _ => none

def asFloat : Json → Option ExactFloat
  | null => some 0
  | bool b => some (if b then 1 else 0)
  | int n => some (binary32.round (ExactFloat.ofInt n))
  | real x _ => some (binary32.round (ExactFloat.fin x))
  | str _ | arr _ | obj _ => none

theorem round_of_asFloat {value : Json} {x : ExactFloat} (hx : value.asFloat = some x) :
    binary32.round x = x := by
  cases value <;> simp only [asFloat, Option.some.injEq, reduceCtorEq] at hx
  all_goals subst hx
  · exact binary32.round_zero
  · split_ifs
    · exact round_binary32_one
    · exact binary32.round_zero
  · exact binary32.round_round (by decide) _
  · exact binary32.round_round (by decide) _

end Json

end HardwareMediatek
