import HardwareMediatek.Foundation.Checked
import HardwareMediatek.Foundation.NlIterator

/-!
# Tables of attributes

`nla_parse` sorts the attributes of a payload into a table by their types. A decoder that asks whether an
attribute is there stops with an error where it is not; one that does not ask follows a null pointer.
`Settles` is the judgement that a decoder follows none: it says what the result satisfies, and which errors
it stops with.
-/

namespace HardwareMediatek.Foundation

/-- The attribute of each type, where there is one. -/
abbrev AttrTable := ℕ → Option Payload

/-- The payload of an attribute inside a payload. -/
def Payload.nested (payload : Payload) (attr : AttrView) : Payload where
  bytes i := payload.bytes (attr.start + i)
  len := attr.length

/-- The upper two bits of a type are flags. -/
def nlaTypeMask (type : ℕ) : ℕ := type % 16384

/-- `nla_parse` without a policy. The last attribute of a type counts. -/
def nlaParse (maxtype : ℕ) (payload : Payload) : AttrTable := fun type ↦
  if type ≤ maxtype then
    ((payload.attrs.filter fun attr ↦ nlaTypeMask attr.type = type).getLast?).map payload.nested
  else none

def nlaGetU16 (payload : Payload) : UInt16 := UInt16.ofNat (u16At payload.bytes 0)

def nlaGetU32 (payload : Payload) : UInt32 := UInt32.ofNat (u32At payload.bytes 0)

/-- The attribute is copied, up to `count` bytes of it. -/
def nlaMemcpy (dest : Bytes) (src : Payload) (count : ℕ) : Bytes :=
  fun i ↦ if i < min count src.len then src.bytes i else dest i

/-- Why a decoder stops. -/
inductive Stop (ε : Type) where
  | fault (fault : Fault)
  | error (error : ε)

abbrev Decoder (ε α : Type) := Except (Stop ε) α

section Decoders

variable {ε α β : Type} (tb : AttrTable)

/-- All of these attributes are there. -/
def AttrTable.Has (types : List ℕ) : Prop := ∀ type ∈ types, (tb type).isSome = true

instance (types : List ℕ) : Decidable (tb.Has types) := inferInstanceAs (Decidable (∀ type ∈ types, _))

/-- `if (!tb[type]) return error;` for some types. -/
def AttrTable.require (types : List ℕ) (error : ε) : Decoder ε Unit :=
  if tb.Has types then .ok () else .error (.error error)

/-- An attribute that is used without being asked for. -/
def AttrTable.deref (type : ℕ) : Decoder ε Payload :=
  match tb type with
  | some attr => .ok attr
  | none => .error (.fault .nullPointer)

/-- An attribute that is asked for and then used. -/
def AttrTable.demand (type : ℕ) (error : ε) : Decoder ε Payload :=
  match tb type with
  | some attr => .ok attr
  | none => .error (.error error)

/-- A result satisfies `post`, an error is an allowed one, and there is no fault. -/
def Settles (decoder : Decoder ε α) (post : α → Prop) (allowed : ε → Prop) : Prop :=
  match decoder with
  | .ok result => post result
  | .error (.error error) => allowed error
  | .error (.fault _) => False

variable {tb} {types : List ℕ} {type : ℕ} {error : ε} {P : α → Prop} {allowed : ε → Prop}

@[simp]
theorem settles_ok {result : α} : Settles (.ok result) P allowed ↔ P result := Iff.rfl

@[simp]
theorem settles_error : Settles (.error (.error error) : Decoder ε α) P allowed ↔ allowed error := Iff.rfl

@[simp]
theorem settles_pure {result : α} : Settles (pure result) P allowed ↔ P result := Iff.rfl

theorem settles_bind {decoder : Decoder ε α} {f : α → Decoder ε β} {Q : β → Prop} :
    Settles (decoder >>= f) Q allowed ↔ Settles decoder (fun result ↦ Settles (f result) Q allowed) allowed := by
  cases decoder with
  | ok result => rfl
  | error stop =>
    cases stop with
    | fault fault => rfl
    | error error => rfl

theorem AttrTable.Has.mono {types' : List ℕ} (hhas : tb.Has types) (hsub : types' ⊆ types) : tb.Has types' :=
  fun type htype ↦ hhas type (hsub htype)

theorem AttrTable.Has.exists_eq_some (hhas : tb.Has types) (type : ℕ) (htype : type ∈ types) :
    ∃ attr, tb type = some attr :=
  Option.isSome_iff_exists.mp (hhas type htype)

theorem AttrTable.has_cons : tb.Has (type :: types) ↔ (∃ attr, tb type = some attr) ∧ tb.Has types := by
  unfold AttrTable.Has
  rw [List.forall_mem_cons, Option.isSome_iff_exists]

theorem AttrTable.has_singleton : tb.Has [type] ↔ ∃ attr, tb type = some attr := by
  unfold AttrTable.Has
  rw [List.forall_mem_singleton, Option.isSome_iff_exists]

theorem AttrTable.require_of_has (hhas : tb.Has types) : tb.require types error = .ok () := if_pos hhas

theorem AttrTable.deref_of_eq_some {attr : Payload} (hattr : tb type = some attr) :
    (tb.deref type : Decoder ε Payload) = .ok attr := by
  unfold AttrTable.deref
  rw [hattr]

theorem AttrTable.demand_of_eq_some {attr : Payload} (hattr : tb type = some attr) :
    tb.demand type error = .ok attr := by
  unfold AttrTable.demand
  rw [hattr]

theorem AttrTable.deref_eq_ok_iff {attr : Payload} :
    (tb.deref type : Decoder ε Payload) = .ok attr ↔ tb type = some attr := by
  unfold AttrTable.deref
  cases tb type with
  | some found => rw [Except.ok.injEq, Option.some.injEq]
  | none => exact iff_of_false (fun heq ↦ by cases heq) (fun heq ↦ by cases heq)

theorem AttrTable.demand_eq_ok_iff {attr : Payload} : tb.demand type error = .ok attr ↔ tb type = some attr := by
  unfold AttrTable.demand
  cases tb type with
  | some found => rw [Except.ok.injEq, Option.some.injEq]
  | none => exact iff_of_false (fun heq ↦ by cases heq) (fun heq ↦ by cases heq)

/-- Attributes that are required may be assumed afterwards. -/
theorem settles_require_bind {f : Unit → Decoder ε α} (herror : allowed error) :
    Settles (tb.require types error >>= f) P allowed ↔ (tb.Has types → Settles (f ()) P allowed) := by
  unfold AttrTable.require
  by_cases hhas : tb.Has types
  · rw [if_pos hhas, forall_prop_of_true hhas]
    rfl
  · rw [if_neg hhas]
    exact iff_of_true herror fun h ↦ absurd h hhas

/-- An attribute that is used has to be there. -/
theorem settles_deref {P : Payload → Prop} :
    Settles (tb.deref type : Decoder ε Payload) P allowed ↔ ∃ attr, tb type = some attr ∧ P attr := by
  unfold AttrTable.deref
  cases htype : tb type with
  | some attr => simp only [settles_ok, Option.some.injEq, exists_eq_left']
  | none =>
    apply iff_of_false not_false
    rintro ⟨found, hfound, _⟩
    cases hfound

/-- A decoder of the elements of a list that follows no null pointer. -/
theorem mapM_ok_or_error {f : α → Decoder ε β} (hf : ∀ x, (∃ y, f x = .ok y) ∨ f x = .error (.error error))
    (xs : List α) :
    ((∀ x ∈ xs, ∃ y, f x = .ok y) ∧ ∃ ys, xs.mapM f = .ok ys ∧ ys.length = xs.length) ∨
      (¬ (∀ x ∈ xs, ∃ y, f x = .ok y) ∧ xs.mapM f = .error (.error error)) := by
  induction xs with
  | nil => exact Or.inl ⟨fun x hx ↦ absurd hx List.not_mem_nil, [], List.mapM_nil, rfl⟩
  | cons x xs ih =>
    rw [List.mapM_cons, List.forall_mem_cons]
    rcases hf x with ⟨y, hy⟩ | herror
    · rw [hy]
      rcases ih with ⟨hall, ys, hys, hlength⟩ | ⟨hsome, herror⟩
      · rw [hys]
        exact Or.inl ⟨⟨⟨y, rfl⟩, hall⟩, y :: ys, rfl, congrArg Nat.succ hlength⟩
      · rw [herror]
        exact Or.inr ⟨fun h ↦ hsome h.2, rfl⟩
    · rw [herror]
      apply Or.inr
      apply And.intro
      · rintro ⟨⟨y, hy⟩, _⟩
        cases hy
      · rfl

variable (allowed) in
/-- What is asked of the number of decoded elements is asked of the list, if all of it is decoded. -/
theorem settles_mapM {f : α → Decoder ε β} (hf : ∀ x, (∃ y, f x = .ok y) ∨ f x = .error (.error error))
    (herror : allowed error) (xs : List α) (Q : ℕ → Prop) :
    Settles (xs.mapM f) (fun ys ↦ Q ys.length) allowed ↔ ((∀ x ∈ xs, ∃ y, f x = .ok y) → Q xs.length) := by
  rcases mapM_ok_or_error hf xs with ⟨hall, ys, hys, hlength⟩ | ⟨hsome, hstop⟩
  · rw [hys, forall_prop_of_true hall, ← hlength]
    rfl
  · rw [hstop]
    exact iff_of_true herror fun hall ↦ absurd hall hsome

end Decoders

end HardwareMediatek.Foundation
