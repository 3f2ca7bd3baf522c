import HardwareMediatek.Foundation.ByteMemory
import Mathlib.Logic.Function.Basic
import Mathlib.Data.List.Basic

/-!
# Packed records

A packed record lies in memory field by field, each little endian in its width. A record that has been
read is a function from the names of its fields. Copying one record into another is a list of
assignments, each with the field that is set and the field it is set from.
-/

namespace HardwareMediatek.Foundation

/-- The number in `width` bytes, the lowest first. -/
def leAt (bytes : Bytes) (pos : ℕ) : ℕ → ℕ
  | 0 => 0
  | width + 1 => (bytes pos).toNat + 256 * leAt bytes (pos + 1) width

section Layouts

variable {Name : Type}

/-- The fields of a record in their order, each with its width in bytes. -/
abbrev Layout (Name : Type) := List (Name × ℕ)

namespace Layout

def names (layout : Layout Name) : List Name := layout.map Prod.fst

def size (layout : Layout Name) : ℕ := (layout.map Prod.snd).sum

variable [DecidableEq Name]

/-- The value of a field of the record at `pos`. -/
def read (layout : Layout Name) (bytes : Bytes) (pos : ℕ) (name : Name) : ℕ :=
  match layout with
  | [] => 0
  | (field, width) :: rest =>
    if name = field then leAt bytes pos width else Layout.read rest bytes (pos + width) name

end Layout

end Layouts

section Copies

variable {Name Value : Type}

/-- Every field is set from the one of its own name. -/
def sameNames (names : List Name) : List (Name × Name) := names.map fun name ↦ (name, name)

theorem faithful_sameNames (names : List Name) (source : Name → Value) :
    ∀ copy ∈ sameNames names, source copy.2 = source copy.1 :=
  List.forall_mem_map.mpr fun _ _ ↦ rfl

variable [DecidableEq Name]

/-- `target.a = source->b;` for each of the pairs, in their order. -/
def copyFields (copies : List (Name × Name)) (source target : Name → Value) : Name → Value :=
  copies.foldl (fun target copy ↦ Function.update target copy.1 (source copy.2)) target

theorem copyFields_of_not_mem {copies : List (Name × Name)} {name : Name}
    (source target : Name → Value) (hname : name ∉ copies.map Prod.fst) :
    copyFields copies source target name = target name := by
  induction copies generalizing target with
  | nil => rfl
  | cons copy copies ih =>
    rw [List.map_cons, List.mem_cons, not_or] at hname
    calc copyFields (copy :: copies) source target name
        = Function.update target copy.1 (source copy.2) name := ih _ hname.2
      _ = target name := Function.update_of_ne hname.1 _ target

/-- A field that is set once has the value it is set from. -/
theorem copyFields_of_mem {copies : List (Name × Name)} {copy : Name × Name}
    (source target : Name → Value) (hnodup : (copies.map Prod.fst).Nodup) (hcopy : copy ∈ copies) :
    copyFields copies source target copy.1 = source copy.2 := by
  induction copies generalizing target with
  | nil => exact absurd hcopy List.not_mem_nil
  | cons first copies ih =>
    rw [List.map_cons, List.nodup_cons] at hnodup
    apply (List.mem_cons.mp hcopy).elim
    · intro heq
      rw [heq]
      calc copyFields (first :: copies) source target first.1
          = Function.update target first.1 (source first.2) first.1 :=
            copyFields_of_not_mem source _ hnodup.1
        _ = source first.2 := Function.update_self first.1 (source first.2) target
    · exact ih _ hnodup.2

/-- The copy is faithful exactly when each field has the value of the field that it is set from. -/
theorem copyFields_faithful_iff {copies : List (Name × Name)} (source target : Name → Value)
    (hnodup : (copies.map Prod.fst).Nodup) :
    (∀ name ∈ copies.map Prod.fst, copyFields copies source target name = source name) ↔
      ∀ copy ∈ copies, source copy.2 = source copy.1 := by
  rw [List.forall_mem_map]
  apply forall₂_congr
  intro copy hcopy
  rw [copyFields_of_mem source target hnodup hcopy]

end Copies

end HardwareMediatek.Foundation
