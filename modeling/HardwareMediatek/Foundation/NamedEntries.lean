import HardwareMediatek.Foundation.Checked
import HardwareMediatek.Foundation.Loops
import HardwareMediatek.Foundation.UnorderedMap

/-!
# Lists of named entries

A parser that goes through a list of entries. An entry is passed over, or has a name and a value, or
ends the parser; so does a name whose mark has been seen before.
-/

namespace HardwareMediatek.Foundation

open UnorderedMap

/-- What is read of an entry before its name is looked for among the earlier ones, and what is read
of it afterwards. -/
structure EntryParser (α κ μ δ ν ε : Type) where
  header : α → Except ε (Option (κ × δ))
  mark : κ → μ
  duplicate : ε
  body : κ → δ → α → Except ε ν

/-- Assignments to a map, one after the other. -/
def putAll {κ ν : Type} [DecidableEq κ] (pairs : List (κ × ν)) (m : UnorderedMap κ ν) :
    UnorderedMap κ ν :=
  pairs.foldl (fun m pair ↦ m.put pair.1 pair.2) m

section PutAll

variable {κ ν : Type} [DecidableEq κ]

theorem putAll_concat (pairs : List (κ × ν)) (pair : κ × ν) (m : UnorderedMap κ ν) :
    putAll (pairs ++ [pair]) m = (putAll pairs m).put pair.1 pair.2 :=
  List.foldl_concat ..

/-- The last assignment to a key counts. -/
theorem lookup_putAll (pairs : List (κ × ν)) (m : UnorderedMap κ ν) (k : κ) :
    (putAll pairs m).lookup k =
      ((pairs.reverse.find? fun pair ↦ pair.1 = k).map Prod.snd).or (m.lookup k) := by
  induction pairs using List.reverseRecOn with
  | nil => rfl
  | append_singleton pairs pair ih =>
    rw [putAll_concat, lookup_put, ih, List.reverse_concat, List.find?_cons]
    by_cases hk : k = pair.1
    · simp [hk]
    · simp [hk, Ne.symm hk]

theorem lookup_putAll_of_nodup {pairs : List (κ × ν)} (hnodup : (pairs.map Prod.fst).Nodup) {k : κ}
    {v : ν} : (putAll pairs ∅).lookup k = some v ↔ (k, v) ∈ pairs := by
  rw [lookup_putAll, AList.lookup_empty, Option.or_none, Option.map_eq_some_iff]
  constructor
  · intro hfound
    obtain ⟨pair, hpair, hvalue⟩ := hfound
    have hkey : pair.1 = k := by simpa using List.find?_some hpair
    rw [← hkey, ← hvalue]
    exact List.mem_reverse.mp (List.mem_of_find?_eq_some hpair)
  · intro hmem
    have hsome : (pairs.reverse.find? fun pair ↦ pair.1 = k).isSome := by
      rw [List.find?_isSome]
      exact ⟨(k, v), List.mem_reverse.mpr hmem, by simp⟩
    obtain ⟨pair, hpair⟩ := Option.isSome_iff_exists.mp hsome
    have hkey : pair.1 = k := by simpa using List.find?_some hpair
    have hin : pair ∈ pairs := List.mem_reverse.mp (List.mem_of_find?_eq_some hpair)
    have hsame := List.inj_on_of_nodup_map hnodup hin hmem hkey
    exact ⟨pair, hpair, congrArg Prod.snd hsame⟩

end PutAll

/-- A loop that reads an element and then changes its state without failing reads all elements first. -/
theorem foldlM_eq_foldl {α β σ ε : Type} (read : α → Except ε β) (change : σ → β → σ) (entries : List α)
    (s : σ) :
    (entries.foldlM (fun s entry ↦ do
      let x ← read entry
      pure (change s x)) s : Except ε σ) = (fun xs ↦ xs.foldl change s) <$> entries.mapM read := by
  induction entries generalizing s with
  | nil => rfl
  | cons entry rest ih =>
    rw [List.foldlM_cons, List.mapM_cons]
    cases hread : read entry with
    | error halt => rfl
    | ok x =>
      simp only [bind, Except.bind, pure, Except.pure] at ih ⊢
      rw [ih]
      cases rest.mapM read <;> rfl

namespace EntryParser

variable {α κ μ δ ν ε : Type}

section Alone

variable (parser : EntryParser α κ μ δ ν ε)

/-- An entry without the others. -/
def alone (entry : α) : Except ε (Option (κ × ν)) := do
  match ← parser.header entry with
  | none => pure none
  | some (name, header) => do
    let value ← parser.body name header entry
    pure (some (name, value))

/-- The names and values of the entries that are not passed over. -/
def kept (entries : List α) : List (κ × ν) :=
  entries.filterMap fun entry ↦ (parser.alone entry).toOption.join

/-- The marks of the entries that are not passed over. -/
def marks (entries : List α) : List μ := (parser.kept entries).map fun pair ↦ parser.mark pair.1

variable {parser}

theorem mem_kept {entries : List α} {pair : κ × ν} :
    pair ∈ parser.kept entries ↔ ∃ entry ∈ entries, parser.alone entry = .ok (some pair) := by
  unfold kept
  rw [List.mem_filterMap]
  apply exists_congr
  intro entry
  apply and_congr_right
  intro _
  cases parser.alone entry with
  | error halt => simp [Except.toOption]
  | ok result => simp [Except.toOption]

theorem alone_eq_some {entry : α} {name : κ} {value : ν} :
    parser.alone entry = .ok (some (name, value)) ↔
      ∃ header, parser.header entry = .ok (some (name, header)) ∧
        parser.body name header entry = .ok value := by
  unfold alone
  cases parser.header entry with
  | error halt => simp [bind, Except.bind]
  | ok result =>
    cases result with
    | none => simp [bind, Except.bind, pure, Except.pure]
    | some pair =>
      cases hbody : parser.body pair.1 pair.2 entry <;>
        simp [bind, Except.bind, pure, Except.pure, hbody, Prod.ext_iff] <;> grind

theorem kept_concat_none {entries : List α} {entry : α} (halone : parser.alone entry = .ok none) :
    parser.kept (entries ++ [entry]) = parser.kept entries := by
  simp [kept, halone, Except.toOption]

theorem kept_concat_some {entries : List α} {entry : α} {pair : κ × ν}
    (halone : parser.alone entry = .ok (some pair)) :
    parser.kept (entries ++ [entry]) = parser.kept entries ++ [pair] := by
  simp [kept, halone, Except.toOption]

/-- Different marks belong to different names. -/
theorem nodup_names {entries : List α} (hnodup : (parser.marks entries).Nodup) :
    ((parser.kept entries).map Prod.fst).Nodup := by
  apply List.Nodup.of_map parser.mark
  rwa [List.map_map]

end Alone

variable [DecidableEq κ] [DecidableEq μ] (parser : EntryParser α κ μ δ ν ε)

/-- One round, with the marks that were seen and what was parsed. -/
def round (state : List μ × UnorderedMap κ ν) (entry : α) : Except ε (List μ × UnorderedMap κ ν) := do
  match ← parser.header entry with
  | none => pure state
  | some (name, header) =>
    if parser.mark name ∈ state.1 then .error parser.duplicate
    else do
      let value ← parser.body name header entry
      pure (parser.mark name :: state.1, state.2.put name value)

def parse (entries : List α) : Except ε (UnorderedMap κ ν) := do
  let final ← entries.foldlM parser.round ([], ∅)
  pure final.2

/-- The state of the loop behind some entries. -/
def reached (entries : List α) : List μ × UnorderedMap κ ν :=
  ((parser.marks entries).reverse, putAll (parser.kept entries) ∅)

variable {parser}

/-- A round adds what the entry is alone, unless its mark was seen before. -/
theorem round_eq_ok {state final : List μ × UnorderedMap κ ν} {entry : α} :
    parser.round state entry = .ok final ↔
      (parser.alone entry = .ok none ∧ final = state) ∨
        ∃ name value, parser.alone entry = .ok (some (name, value)) ∧ parser.mark name ∉ state.1 ∧
          final = (parser.mark name :: state.1, state.2.put name value) := by
  unfold round alone
  cases parser.header entry with
  | error halt => simp [bind, Except.bind]
  | ok header =>
    cases header with
    | none => simp [bind, Except.bind, pure, Except.pure, eq_comm]
    | some pair =>
      obtain ⟨name, header⟩ := pair
      cases hbody : parser.body name header entry with
      | error halt =>
        by_cases hseen : parser.mark name ∈ state.1 <;> simp [bind, Except.bind, hseen, hbody]
      | ok value =>
        by_cases hseen : parser.mark name ∈ state.1
        · simp only [bind, Except.bind, pure, Except.pure, hseen, hbody, if_true]
          apply iff_of_false (by simp)
          simp only [Except.ok.injEq, reduceCtorEq, false_and, false_or, Option.some.injEq,
            Prod.mk.injEq]
          intro hother
          obtain ⟨other, _, hsame, hnew, _⟩ := hother
          exact hnew (hsame.1 ▸ hseen)
        · simp [bind, Except.bind, pure, Except.pure, hseen, hbody, eq_comm]

omit [DecidableEq μ] in
theorem reached_concat_some {entries : List α} {entry : α} {pair : κ × ν}
    (halone : parser.alone entry = .ok (some pair)) :
    parser.reached (entries ++ [entry]) =
      (parser.mark pair.1 :: (parser.reached entries).1,
        (parser.reached entries).2.put pair.1 pair.2) := by
  simp [reached, marks, kept_concat_some halone, putAll_concat]

/-- The loop accepts what its entries are alone, if no two marks are the same. -/
theorem foldlM_round_eq_ok (entries : List α) (final : List μ × UnorderedMap κ ν) :
    entries.foldlM parser.round ([], ∅) = .ok final ↔
      (∀ entry ∈ entries, ∃ result, parser.alone entry = .ok result) ∧ (parser.marks entries).Nodup ∧
        final = parser.reached entries := by
  induction entries using List.reverseRecOn generalizing final with
  | nil => simp [pure, Except.pure, marks, kept, reached, putAll, eq_comm]
  | append_singleton entries entry ih =>
    have hlast : ∀ state, [entry].foldlM parser.round state = parser.round state entry := by
      intro state
      rw [List.foldlM_cons]
      cases parser.round state entry <;> rfl
    rw [List.foldlM_append, bind_eq_ok]
    simp only [hlast, ih, round_eq_ok, List.forall_mem_append, List.forall_mem_singleton]
    cases halone : parser.alone entry with
    | error halt => simp
    | ok result =>
      cases result with
      | none =>
        simp only [marks, reached, kept_concat_none halone]
        simp [and_assoc]
      | some pair =>
        have hmarks : (parser.marks (entries ++ [entry])).Nodup ↔
            parser.mark pair.1 ∉ parser.marks entries ∧ (parser.marks entries).Nodup := by
          rw [marks, kept_concat_some halone, List.map_append, List.map_singleton,
            (List.perm_append_singleton _ _).nodup_iff, List.nodup_cons]
          rfl
        have hseen : ∀ mark, mark ∈ (parser.reached entries).1 ↔ mark ∈ parser.marks entries :=
          fun mark ↦ List.mem_reverse
        rw [hmarks, reached_concat_some halone]
        constructor
        · intro hround
          obtain ⟨state, hstate, hentry⟩ := hround
          rw [hstate.2.2] at hentry
          cases hentry with
          | inl hnone => exact absurd (Except.ok.inj hnone.1) (by simp)
          | inr hsome =>
            obtain ⟨name, value, hpair, hnew, hfinal⟩ := hsome
            have hsame : pair = (name, value) := Option.some.inj (Except.ok.inj hpair)
            rw [hsame]
            exact ⟨⟨hstate.1, _, rfl⟩, ⟨fun hin ↦ hnew ((hseen _).mpr hin), hstate.2.1⟩, hfinal⟩
        · intro haccepted
          refine ⟨_, ⟨haccepted.1.1, haccepted.2.1.2, rfl⟩, Or.inr ⟨pair.1, pair.2, rfl, ?_, ?_⟩⟩
          · rw [hseen]
            exact haccepted.2.1.1
          · exact haccepted.2.2

/-- What is accepted, and what it is parsed into. -/
theorem parse_eq_ok {entries : List α} {parsed : UnorderedMap κ ν} :
    parser.parse entries = .ok parsed ↔
      (∀ entry ∈ entries, ∃ result, parser.alone entry = .ok result) ∧ (parser.marks entries).Nodup ∧
        parsed = putAll (parser.kept entries) ∅ := by
  unfold parse
  rw [bind_eq_ok]
  simp only [foldlM_round_eq_ok]
  constructor
  · intro hfinal
    obtain ⟨final, hreached, hparsed⟩ := hfinal
    rw [← Except.ok.inj hparsed, hreached.2.2]
    exact ⟨hreached.1, hreached.2.1, rfl⟩
  · intro haccepted
    exact ⟨_, ⟨haccepted.1, haccepted.2.1, rfl⟩, congrArg Except.ok haccepted.2.2.symm⟩

/-- A name has the value of its entry alone. -/
theorem parse_lookup {entries : List α} {parsed : UnorderedMap κ ν}
    (hparse : parser.parse entries = .ok parsed) (name : κ) (value : ν) :
    parsed.lookup name = some value ↔ ∃ entry ∈ entries, parser.alone entry = .ok (some (name, value)) := by
  have haccepted := parse_eq_ok.mp hparse
  rw [haccepted.2.2, lookup_putAll_of_nodup (nodup_names haccepted.2.1), mem_kept]

end EntryParser

end HardwareMediatek.Foundation
