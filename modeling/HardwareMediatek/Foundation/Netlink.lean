import Mathlib.Data.Int.Notation
import Mathlib.Data.List.Basic
import Mathlib.Tactic.Common

/-!
# Building netlink messages

A message is built by calls that append an attribute or open a nest, each of which the library may
refuse, and by calls that close a nest, which cannot fail. An attribute tree is built by the calls of
its pre-order walk; the calls build the tree exactly when none of them is refused.
-/

namespace HardwareMediatek.Foundation

/-- An attribute with a payload, or a nest of attributes. -/
inductive NlAttr (τ : Type) where
  | payload (type : τ) (data : List UInt8)
  | nest (type : τ) (attrs : List (NlAttr τ))

/-- The error of a refused call, a negative number. -/
structure KernelError where
  code : ℤ
  code_neg : code < 0

/-- A message under construction: its attributes, and the open nests with the innermost first. -/
structure NlMessage (τ : Type) where
  attrs : List (NlAttr τ) := []
  nests : List (τ × List (NlAttr τ)) := []

inductive BuildCall (τ : Type) where
  | put (type : τ) (data : List UInt8)
  | attrStart (type : τ)
  | attrEnd

/-- The bytes of a 16-bit number, the lowest first. -/
def u16Bytes (value : UInt16) : List UInt8 := [value.toUInt8, (value >>> 8).toUInt8]

/-- The bytes of a 32-bit number, the lowest first. -/
def u32Bytes (value : UInt32) : List UInt8 :=
  [value.toUInt8, (value >>> 8).toUInt8, (value >>> 16).toUInt8, (value >>> 24).toUInt8]

section Build

variable {τ : Type}

def NlAttr.type : NlAttr τ → τ
  | .payload type _ => type
  | .nest type _ => type

/-- An attribute goes into the innermost open nest. -/
def NlMessage.add (message : NlMessage τ) (attr : NlAttr τ) : NlMessage τ :=
  match message.nests with
  | [] => { message with attrs := message.attrs ++ [attr] }
  | (type, inner) :: outer => { message with nests := (type, inner ++ [attr]) :: outer }

def NlMessage.addAll (message : NlMessage τ) (attrs : List (NlAttr τ)) : NlMessage τ :=
  attrs.foldl NlMessage.add message

def BuildCall.apply (message : NlMessage τ) : BuildCall τ → NlMessage τ
  | .put type data => message.add (.payload type data)
  | .attrStart type => { message with nests := (type, []) :: message.nests }
  | .attrEnd =>
      match message.nests with
      | [] => message
      | (type, inner) :: outer => { message with nests := outer }.add (.nest type inner)

def BuildCall.fallible : BuildCall τ → Bool
  | .put _ _ => true
  | .attrStart _ => true
  | .attrEnd => false

/-- The calls in order, the fallible ones numbered from `next`; the first refusal ends the building. -/
def build (refused : ℕ → Option KernelError) :
    ℕ → List (BuildCall τ) → NlMessage τ → Except KernelError (NlMessage τ)
  | _, [], message => .ok message
  | next, call :: calls, message =>
      if call.fallible then
        match refused next with
        | some error => .error error
        | none => build refused (next + 1) calls (call.apply message)
      else build refused next calls (call.apply message)

mutual

/-- The calls that build one attribute. -/
def NlAttr.calls : NlAttr τ → List (BuildCall τ)
  | .payload type data => [.put type data]
  | .nest type attrs => .attrStart type :: (NlAttr.callsOf attrs ++ [.attrEnd])

def NlAttr.callsOf : List (NlAttr τ) → List (BuildCall τ)
  | [] => []
  | attr :: attrs => attr.calls ++ NlAttr.callsOf attrs

end

@[simp]
theorem NlAttr.callsOf_nil : NlAttr.callsOf ([] : List (NlAttr τ)) = [] := by
  simp only [NlAttr.callsOf]

@[simp]
theorem NlAttr.callsOf_cons (attr : NlAttr τ) (attrs : List (NlAttr τ)) :
    NlAttr.callsOf (attr :: attrs) = attr.calls ++ NlAttr.callsOf attrs := by
  simp only [NlAttr.callsOf]

@[simp]
theorem NlAttr.calls_payload (type : τ) (data : List UInt8) :
    (NlAttr.payload type data).calls = [.put type data] := by
  simp only [NlAttr.calls]

@[simp]
theorem NlAttr.calls_nest (type : τ) (attrs : List (NlAttr τ)) :
    (NlAttr.nest type attrs).calls = .attrStart type :: (NlAttr.callsOf attrs ++ [.attrEnd]) := by
  simp only [NlAttr.calls]

@[simp]
theorem NlAttr.callsOf_append (left right : List (NlAttr τ)) :
    NlAttr.callsOf (left ++ right) = NlAttr.callsOf left ++ NlAttr.callsOf right := by
  induction left with
  | nil => simp
  | cons attr attrs ih => simp only [List.cons_append, NlAttr.callsOf_cons, ih, List.append_assoc]

theorem NlMessage.addAll_open (message : NlMessage τ) (type : τ) (inner attrs : List (NlAttr τ)) :
    { message with nests := (type, inner) :: message.nests }.addAll attrs =
      { message with nests := (type, inner ++ attrs) :: message.nests } := by
  induction attrs generalizing inner with
  | nil => simp [NlMessage.addAll]
  | cons attr attrs ih =>
    have hstep := ih (inner ++ [attr])
    simp only [NlMessage.addAll, List.append_assoc, List.cons_append, List.nil_append] at hstep
    simpa only [NlMessage.addAll, List.foldl_cons, NlMessage.add] using hstep

mutual

/-- The calls of an attribute, all accepted, add the attribute. -/
theorem NlAttr.foldl_calls : ∀ (attr : NlAttr τ) (message : NlMessage τ),
    attr.calls.foldl BuildCall.apply message = message.add attr
  | .payload type data, message => by
    simp only [NlAttr.calls_payload, List.foldl_cons, List.foldl_nil, BuildCall.apply]
  | .nest type attrs, message => by
    have hinner := NlAttr.foldl_callsOf attrs { message with nests := (type, []) :: message.nests }
    simp only [NlAttr.calls_nest, List.foldl_cons, List.foldl_append, List.foldl_nil]
    rw [BuildCall.apply, hinner, NlMessage.addAll_open]
    simp only [BuildCall.apply, List.nil_append]

theorem NlAttr.foldl_callsOf : ∀ (attrs : List (NlAttr τ)) (message : NlMessage τ),
    (NlAttr.callsOf attrs).foldl BuildCall.apply message = message.addAll attrs
  | [], message => by simp [NlMessage.addAll]
  | attr :: attrs, message => by
    rw [NlAttr.callsOf_cons, List.foldl_append, NlAttr.foldl_calls attr, NlAttr.foldl_callsOf attrs]
    simp only [NlMessage.addAll, List.foldl_cons]

end

/-- None of the fallible calls, numbered from `next`, is refused. -/
def NoneRefused (refused : ℕ → Option KernelError) (next : ℕ) (calls : List (BuildCall τ)) : Prop :=
  ∀ k, k < calls.countP BuildCall.fallible → refused (next + k) = none

theorem noneRefused_cons {refused : ℕ → Option KernelError} {next : ℕ} {call : BuildCall τ}
    {calls : List (BuildCall τ)} (hfallible : call.fallible = true) :
    NoneRefused refused next (call :: calls) ↔
      refused next = none ∧ NoneRefused refused (next + 1) calls := by
  have hcount : (call :: calls).countP BuildCall.fallible = calls.countP BuildCall.fallible + 1 :=
    List.countP_cons_of_pos hfallible
  simp only [NoneRefused, hcount]
  constructor
  · intro h
    apply And.intro
    · exact h 0 (Nat.succ_pos _)
    · intro k hk
      have := h (k + 1) (by omega)
      rwa [show next + (k + 1) = next + 1 + k by omega] at this
  · intro h k hk
    cases k with
    | zero => exact h.1
    | succ k =>
      have := h.2 k (by omega)
      rwa [show next + 1 + k = next + (k + 1) by omega] at this

/-- Building succeeds exactly when no call is refused, and then every call has taken effect. -/
theorem build_eq_ok_iff (refused : ℕ → Option KernelError) (next : ℕ) (calls : List (BuildCall τ))
    (message result : NlMessage τ) :
    build refused next calls message = .ok result ↔
      NoneRefused refused next calls ∧ calls.foldl BuildCall.apply message = result := by
  induction calls generalizing next message with
  | nil => simp [build, NoneRefused]
  | cons call calls ih =>
    rw [List.foldl_cons, build]
    by_cases hfallible : call.fallible = true
    · rw [if_pos hfallible, noneRefused_cons hfallible]
      cases hrefused : refused next with
      | none => simp [ih]
      | some error => simp
    · have hcount : (call :: calls).countP BuildCall.fallible = calls.countP BuildCall.fallible :=
        List.countP_cons_of_neg hfallible
      rw [if_neg hfallible, ih]
      simp only [NoneRefused, hcount]

theorem build_calls_ok {refused : ℕ → Option KernelError} {next : ℕ} {attr : NlAttr τ}
    (hnone : NoneRefused refused next attr.calls) (message : NlMessage τ) :
    build refused next attr.calls message = .ok (message.add attr) := by
  apply (build_eq_ok_iff refused next attr.calls message (message.add attr)).mpr
  exact ⟨hnone, NlAttr.foldl_calls attr message⟩

/-- A refused call is what makes the building fail. -/
theorem exists_build_error {refused : ℕ → Option KernelError} {next : ℕ} {calls : List (BuildCall τ)}
    (hrefused : ¬ NoneRefused refused next calls) (message : NlMessage τ) :
    ∃ error, build refused next calls message = .error error := by
  cases hbuild : build refused next calls message with
  | error error => exact ⟨error, rfl⟩
  | ok result =>
    have := (build_eq_ok_iff refused next calls message result).mp hbuild
    exact absurd this.1 hrefused

end Build

end HardwareMediatek.Foundation
