import HardwareMediatek.Foundation.Numerals
import HardwareMediatek.Foundation.UnorderedMap

/-!
# Checked execution

A computation of a program of the C family that may run into a `Fault`, which
ends the program: a key that a map does not have, an index outside a vector,
an iterator without an element, an integer that overflows, or a null pointer.
Loops over containers may be left by `break`, and by a `return` that gives up.

`Meets` is the judgement about such a computation: what a result satisfies,
and which faults are allowed. Its rules follow the structure of a program: a
sequence, a loop with an invariant, a lookup.
-/

namespace HardwareMediatek

inductive Fault where
  /-- `.at()` on a map without the key. -/
  | outOfRange
  /-- `[]` on a vector beyond its elements. -/
  | badIndex
  /-- An operation on the end iterator. -/
  | badIterator
  | intOverflow
  | nullPointer
deriving DecidableEq, Repr

abbrev Checked := Except Fault

section Access

/-- `map.at(key)`. -/
def atKey {κ ν : Type} [DecidableEq κ] (m : UnorderedMap κ ν) (k : κ) : Checked ν :=
  match m.lookup k with
  | some v => .ok v
  | none => .error .outOfRange

/-- `vector[index]`. -/
def atIndex {α : Type} (xs : List α) (i : ℤ) : Checked α :=
  if 0 ≤ i then
    match xs[i.toNat]? with
    | some x => .ok x
    | none => .error .badIndex
  else .error .badIndex

/-- The result of an operation on `int`. -/
def checkedInt (n : ℤ) : Checked ℤ :=
  if intMin ≤ n ∧ n ≤ intMax then .ok n else .error .intOverflow

/-- `*pointer`. -/
def deref {α : Type} : Option α → Checked α
  | some x => .ok x
  | none => .error .nullPointer

end Access

/-! ## The judgement -/

/-- A result satisfies `post`; a fault is one of the `allowed` ones. -/
def Meets {α : Type} (r : Checked α) (post : α → Prop) (allowed : Fault → Prop) : Prop :=
  match r with
  | .ok x => post x
  | .error fault => allowed fault

section Meets

variable {α β : Type} {P : α → Prop} {allowed : Fault → Prop}

@[simp]
theorem meets_ok {x : α} : Meets (.ok x) P allowed ↔ P x := Iff.rfl

@[simp]
theorem meets_error {fault : Fault} :
    Meets (.error fault : Checked α) P allowed ↔ allowed fault := Iff.rfl

@[simp]
theorem meets_pure {x : α} : Meets (pure x) P allowed ↔ P x := Iff.rfl

/-- Nothing is asked of the computation. -/
theorem meets_true (r : Checked α) : Meets r (fun _ ↦ True) fun _ ↦ True := by
  cases r <;> trivial

/-- The result itself. -/
theorem meets_self (r : Checked α) : Meets r (fun x ↦ r = .ok x) fun _ ↦ True := by
  cases r <;> trivial

theorem Meets.of_ok {r : Checked α} (h : Meets r P allowed) {x : α} (hr : r = .ok x) :
    P x := by
  rw [hr] at h
  exact h

theorem Meets.of_error {r : Checked α} (h : Meets r P allowed) {fault : Fault}
    (hr : r = .error fault) : allowed fault := by
  rw [hr] at h
  exact h

theorem Meets.mono {r : Checked α} {Q : α → Prop} {allowed' : Fault → Prop}
    (h : Meets r P allowed) (hP : ∀ x, P x → Q x)
    (hallowed : ∀ fault, allowed fault → allowed' fault) : Meets r Q allowed' := by
  cases r with
  | ok x => exact hP x h
  | error fault => exact hallowed fault h

theorem Meets.imp {r : Checked α} {Q : α → Prop} (h : Meets r P allowed)
    (hP : ∀ x, P x → Q x) : Meets r Q allowed :=
  h.mono hP fun _ ↦ id

/-- Two judgements about one computation. -/
theorem Meets.and {r : Checked α} {Q : α → Prop} {allowed' : Fault → Prop} (h : Meets r P allowed)
    (h' : Meets r Q allowed') : Meets r (fun x ↦ P x ∧ Q x) fun fault ↦ allowed fault ∧ allowed' fault := by
  cases r with
  | ok x => exact ⟨h, h'⟩
  | error fault => exact ⟨h, h'⟩

/-- Sequencing: what the first part ensures is what the second part may use. -/
theorem Meets.bind {r : Checked α} {f : α → Checked β} {Q : β → Prop}
    (h : Meets r P allowed) (hf : ∀ x, P x → Meets (f x) Q allowed) :
    Meets (r >>= f) Q allowed := by
  cases r with
  | ok x => exact hf x h
  | error fault => exact h

theorem ok_pair {ε : Type} {x x' : α} {y y' : β}
    (h : (.ok (x, y) : Except ε (α × β)) = .ok (x', y')) : x = x' ∧ y = y' :=
  Prod.mk.inj (Except.ok.inj h)

theorem bind_eq_ok {ε : Type} {r : Except ε α} {f : α → Except ε β} {y : β} :
    (r >>= f) = .ok y ↔ ∃ x, r = .ok x ∧ f x = .ok y := by
  cases r with
  | ok x =>
    constructor
    · exact fun h ↦ ⟨x, rfl, h⟩
    · rintro ⟨x', hx', h⟩
      obtain rfl := Except.ok.inj hx'
      exact h
  | error fault =>
    constructor
    · intro h
      cases h
    · rintro ⟨_, hx, _⟩
      cases hx

theorem toOption_eq_some {ε : Type} {r : Except ε α} {x : α} (h : r.toOption = some x) : r = .ok x := by
  cases r with
  | error fault => cases h
  | ok y => exact congrArg Except.ok (Option.some.inj h)

/-- A fault of the first part is a fault of the sequence. -/
theorem ne_error_of_bind {r : Checked α} {f : α → Checked β} {fault : Fault}
    (h : (r >>= f) ≠ .error fault) : r ≠ .error fault := by
  rintro rfl
  exact h rfl

variable {κ ν : Type} [DecidableEq κ]

theorem deref_eq_ok {pointer : Option α} {x : α} : deref pointer = .ok x ↔ pointer = some x := by
  cases pointer <;> simp [deref]

theorem atKey_eq_ok {m : UnorderedMap κ ν} {k : κ} {v : ν} :
    atKey m k = .ok v ↔ m.lookup k = some v := by
  unfold atKey
  cases m.lookup k <;> simp

theorem atKey_of_lookup {m : UnorderedMap κ ν} {k : κ} {v : ν} (h : m.lookup k = some v) :
    atKey m k = .ok v := atKey_eq_ok.mpr h

theorem atKey_of_not_mem {m : UnorderedMap κ ν} {k : κ} (h : k ∉ m) :
    atKey m k = .error .outOfRange := by
  have hnone : m.lookup k = none := AList.lookup_eq_none.mpr h
  simp [atKey, hnone]

theorem meets_atKey {m : UnorderedMap κ ν} {k : κ} {P : ν → Prop}
    (hP : ∀ v, m.lookup k = some v → P v) (hmissing : k ∉ m → allowed .outOfRange) :
    Meets (atKey m k) P allowed := by
  cases h : m.lookup k with
  | some v =>
    rw [atKey_of_lookup h]
    exact hP v h
  | none =>
    have hmem := AList.lookup_eq_none.mp h
    rw [atKey_of_not_mem hmem]
    exact hmissing hmem

theorem meets_atKey_of_mem {m : UnorderedMap κ ν} {k : κ} {P : ν → Prop} (hk : k ∈ m)
    (hP : ∀ v, m.lookup k = some v → P v) : Meets (atKey m k) P allowed :=
  meets_atKey hP fun hmissing ↦ absurd hk hmissing

theorem atIndex_eq_ok {xs : List α} {i : ℤ} {x : α} :
    atIndex xs i = .ok x ↔ 0 ≤ i ∧ xs[i.toNat]? = some x := by
  unfold atIndex
  by_cases hi : 0 ≤ i
  · rw [if_pos hi]
    cases xs[i.toNat]? <;> simp [hi]
  · simp [hi]

theorem meets_atIndex {xs : List α} {i : ℤ} (hP : ∀ x, xs[i.toNat]? = some x → P x)
    (hbounds : (i < 0 ∨ (xs.length : ℤ) ≤ i) → allowed .badIndex) :
    Meets (atIndex xs i) P allowed := by
  unfold atIndex
  by_cases hi : 0 ≤ i
  · rw [if_pos hi]
    cases hx : xs[i.toNat]? with
    | some x => exact hP x hx
    | none =>
      have hlen := List.getElem?_eq_none_iff.mp hx
      exact hbounds (Or.inr (by omega))
  · rw [if_neg hi]
    exact hbounds (Or.inl (by omega))

theorem meets_atIndex_of_lt {xs : List α} {i : ℤ} (hi : 0 ≤ i) (hlt : i < xs.length) :
    Meets (atIndex xs i) (fun x ↦ x ∈ xs) allowed :=
  meets_atIndex (fun _ hx ↦ List.mem_of_getElem? hx) fun hout ↦ by omega

theorem checkedInt_eq_ok {n m : ℤ} : checkedInt n = .ok m ↔ (intMin ≤ n ∧ n ≤ intMax) ∧ n = m := by
  unfold checkedInt
  split <;> simp_all

theorem meets_checkedInt {n : ℤ} {P : ℤ → Prop} (hP : P n)
    (hoverflow : allowed .intOverflow) : Meets (checkedInt n) P allowed := by
  unfold checkedInt
  split
  · exact hP
  · exact hoverflow

end Meets

/-! ## Loops -/

/-- How the body of a loop ends: with the next element, by `break`, or by a `return` that gives
up. -/
inductive Flow (σ : Type) where
  | next (s : σ)
  | stop (s : σ)
  | giveUp (s : σ)
deriving DecidableEq

def Flow.state {σ : Type} : Flow σ → σ
  | .next s | .stop s | .giveUp s => s

section Loop

variable {α σ : Type}

/-- A loop over the elements of a container. -/
def iterate (body : α → σ → Checked (Flow σ)) : List α → σ → Checked (Flow σ)
  | [], s => .ok (.next s)
  | x :: xs, s =>
    match body x s with
    | .error fault => .error fault
    | .ok (.next s') => iterate body xs s'
    | .ok flow => .ok flow

/-- A loop that is neither left nor given up. -/
def forEach (body : α → σ → Checked σ) : List α → σ → Checked σ
  | [], s => .ok s
  | x :: xs, s =>
    match body x s with
    | .error fault => .error fault
    | .ok s' => forEach body xs s'

variable {I : σ → Prop} {allowed : Fault → Prop}

/-- What every round of a loop keeps holds after the loop, however it ends. -/
theorem meets_iterate {body : α → σ → Checked (Flow σ)} {xs : List α} {s : σ}
    (hbody : ∀ x ∈ xs, ∀ s, I s → Meets (body x s) (fun flow ↦ I flow.state) allowed)
    (hs : I s) : Meets (iterate body xs s) (fun flow ↦ I flow.state) allowed := by
  induction xs generalizing s with
  | nil => exact hs
  | cons x xs ih =>
    have hround := hbody x List.mem_cons_self s hs
    have hrest := fun s hs ↦ ih (s := s) (fun y hy ↦ hbody y (List.mem_cons_of_mem _ hy)) hs
    rw [iterate]
    match hx : body x s with
    | .error fault => exact hround.of_error hx
    | .ok (.next s') => exact hrest s' (hround.of_ok hx)
    | .ok (.stop s') => exact hround.of_ok hx
    | .ok (.giveUp s') => exact hround.of_ok hx

/-- What holds after a loop, by the way it ends. -/
def Flow.Ends (next stop giveUp : σ → Prop) : Flow σ → Prop
  | .next s => next s
  | .stop s => stop s
  | .giveUp s => giveUp s

/-- The rule for a loop whose invariant speaks about the elements still to come, and that may be
left. -/
theorem meets_iterate_rest {body : α → σ → Checked (Flow σ)} {J : List α → σ → Prop}
    {S G : σ → Prop} {xs : List α} {s : σ}
    (hbody : ∀ x rest s, J (x :: rest) s → Meets (body x s) (Flow.Ends (J rest) S G) allowed)
    (hs : J xs s) : Meets (iterate body xs s) (Flow.Ends (J []) S G) allowed := by
  induction xs generalizing s with
  | nil => exact hs
  | cons x xs ih =>
    have hround := hbody x xs s hs
    rw [iterate]
    match hx : body x s with
    | .error fault => exact hround.of_error hx
    | .ok (.next s') => exact ih (hround.of_ok hx)
    | .ok (.stop s') => exact hround.of_ok hx
    | .ok (.giveUp s') => exact hround.of_ok hx

/-- A loop over two lists goes through the first one, and then, unless it is left, through the
second. -/
theorem iterate_append (body : α → σ → Checked (Flow σ)) (xs ys : List α) (s : σ) :
    iterate body (xs ++ ys) s =
      match iterate body xs s with
      | .ok (.next s') => iterate body ys s'
      | result => result := by
  induction xs generalizing s with
  | nil => rfl
  | cons x xs ih =>
    rw [List.cons_append, iterate, iterate]
    match body x s with
    | .error fault => rfl
    | .ok (.next s') => exact ih s'
    | .ok (.stop s') => rfl
    | .ok (.giveUp s') => rfl

/-- The rule for a loop whose invariant speaks about the elements still to come. -/
theorem meets_forEach_rest {body : α → σ → Checked σ} {J : List α → σ → Prop} {xs : List α} {s : σ}
    (hbody : ∀ x rest s, J (x :: rest) s → Meets (body x s) (J rest) allowed) (hs : J xs s) :
    Meets (forEach body xs s) (J []) allowed := by
  induction xs generalizing s with
  | nil => exact hs
  | cons x xs ih =>
    have hround := hbody x xs s hs
    rw [forEach]
    match hx : body x s with
    | .error fault => exact hround.of_error hx
    | .ok s' => exact ih (hround.of_ok hx)

/-- The rule for a loop with an invariant, of which every round also ensures something about its
element. -/
theorem meets_forEach_each {body : α → σ → Checked σ} {P : α → Prop} {xs : List α} {s : σ}
    (hbody : ∀ x ∈ xs, ∀ s, I s → Meets (body x s) (fun s' ↦ I s' ∧ P x) allowed) (hs : I s) :
    Meets (forEach body xs s) (fun s' ↦ I s' ∧ ∀ x ∈ xs, P x) allowed := by
  induction xs generalizing s with
  | nil => exact ⟨hs, fun x hx ↦ absurd hx List.not_mem_nil⟩
  | cons x xs ih =>
    have hround := hbody x List.mem_cons_self s hs
    rw [forEach]
    match hx : body x s with
    | .error fault => exact hround.of_error hx
    | .ok s' =>
      obtain ⟨hs', hP⟩ := hround.of_ok hx
      apply (ih (fun y hy ↦ hbody y (List.mem_cons_of_mem _ hy)) hs').imp
      rintro s'' ⟨hs'', hrest⟩
      exact ⟨hs'', List.forall_mem_cons.mpr ⟨hP, hrest⟩⟩

theorem meets_forEach {body : α → σ → Checked σ} {xs : List α} {s : σ}
    (hbody : ∀ x ∈ xs, ∀ s, I s → Meets (body x s) I allowed) (hs : I s) :
    Meets (forEach body xs s) I allowed := by
  have heach := meets_forEach_each (P := fun _ ↦ True)
    (fun x hx s hs ↦ (hbody x hx s hs).imp fun _ hs' ↦ ⟨hs', trivial⟩) hs
  exact heach.imp fun _ h ↦ h.1

end Loop

/-! ## Rewriting a map in place -/

section AssignEach

variable {κ ν : Type} [DecidableEq κ]

/-- A loop over a map that replaces every value. -/
def assignEach (f : κ → ν → Checked ν) (m : UnorderedMap κ ν) : Checked (UnorderedMap κ ν) :=
  forEach (fun entry result ↦ do
    let value ← f entry.1 entry.2
    pure (result.assign entry.1 value)) m.entries m

/-- What holds in the middle of `assignEach`: the entries of `rest` are still to come, and the other
values are replaced. -/
structure Assigned (f : κ → ν → Checked ν) (m : UnorderedMap κ ν)
    (rest : List (Sigma fun _ : κ ↦ ν)) (result : UnorderedMap κ ν) : Prop where
  pending : ∀ entry ∈ rest, m.lookup entry.1 = some entry.2
  nodup : (rest.map Sigma.fst).Nodup
  keys : result.keys = m.keys
  done : ∀ k v, m.lookup k = some v → k ∉ rest.map Sigma.fst →
    ∃ value, f k v = .ok value ∧ result.lookup k = some value

theorem Assigned.assign {f : κ → ν → Checked ν} {m result : UnorderedMap κ ν}
    {entry : Sigma fun _ : κ ↦ ν} {rest : List (Sigma fun _ : κ ↦ ν)}
    (h : Assigned f m (entry :: rest) result) {value : ν} (hvalue : f entry.1 entry.2 = .ok value) :
    Assigned f m rest (result.assign entry.1 value) where
  pending entry' hentry' := h.pending entry' (List.mem_cons_of_mem _ hentry')
  nodup := (List.nodup_cons.mp h.nodup).2
  keys := (UnorderedMap.keys_assign _ _ _).trans h.keys
  done k v hk hdone := by
    have hentry := h.pending entry List.mem_cons_self
    by_cases hsame : k = entry.1
    · subst hsame
      obtain rfl : entry.2 = v := Option.some.inj (hentry.symm.trans hk)
      refine ⟨value, hvalue, UnorderedMap.lookup_assign_of_mem value ?_⟩
      exact (UnorderedMap.mem_iff_of_keys_eq h.keys _).mpr (UnorderedMap.mem_of_lookup hentry)
    · rw [UnorderedMap.lookup_assign_ne _ value hsame]
      exact h.done k v hk (by simp [hsame, hdone])

/-- Every value is replaced by its image, and no key is added or removed. -/
theorem meets_assignEach (f : κ → ν → Checked ν) (m : UnorderedMap κ ν) :
    Meets (assignEach f m)
      (fun result ↦ result.keys = m.keys ∧ ∀ k v, m.lookup k = some v →
        ∃ value, f k v = .ok value ∧ result.lookup k = some value) fun _ ↦ True := by
  have hstart : Assigned f m m.entries m :=
    ⟨fun _ hentry ↦ UnorderedMap.lookup_of_mem_entries hentry, m.nodupKeys, rfl,
      fun k v hk hdone ↦ absurd (List.mem_map_of_mem (UnorderedMap.mem_entries_iff.mpr hk)) hdone⟩
  unfold assignEach
  apply (meets_forEach_rest (fun entry rest result h ↦ ?_) hstart).imp
  · intro result h
    exact ⟨h.keys, fun k v hk ↦ h.done k v hk List.not_mem_nil⟩
  · cases hvalue : f entry.1 entry.2 with
    | ok value => exact h.assign hvalue
    | error fault => trivial

end AssignEach

end HardwareMediatek
