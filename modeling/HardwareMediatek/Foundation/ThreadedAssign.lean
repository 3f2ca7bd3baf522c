import HardwareMediatek.Foundation.Checked

/-!
# Rewriting a map with a state

A loop over a map that replaces every value and passes a state on from one round to the next.
-/

namespace HardwareMediatek

section ThreadedAssign

variable {κ ν σ : Type} [DecidableEq κ]

/-- A loop over a map that replaces every value, with a state that goes from round to round. -/
def assignEachWith (f : κ → ν → σ → Checked (ν × σ)) (m : UnorderedMap κ ν) (s : σ) :
    Checked (UnorderedMap κ ν × σ) :=
  forEach (fun entry result ↦ do
    let (value, s) ← f entry.1 entry.2 result.2
    pure (result.1.assign entry.1 value, s)) m.entries (m, s)

/-- What holds in the middle of the loop: the entries of `rest` are still to come, and the other values
stand in a relation to the values before. -/
structure AssignedWith (m : UnorderedMap κ ν) (Q : κ → ν → ν → Prop) (I : σ → Prop)
    (rest : List (Sigma fun _ : κ ↦ ν)) (result : UnorderedMap κ ν × σ) : Prop where
  pending : ∀ entry ∈ rest, m.lookup entry.1 = some entry.2
  keys : result.1.keys = m.keys
  state : I result.2
  done : ∀ k v, m.lookup k = some v → k ∉ rest.map Sigma.fst →
    ∃ value, result.1.lookup k = some value ∧ Q k v value

theorem AssignedWith.assign {m : UnorderedMap κ ν} {Q : κ → ν → ν → Prop} {I : σ → Prop}
    {entry : Sigma fun _ : κ ↦ ν} {rest : List (Sigma fun _ : κ ↦ ν)}
    {result : UnorderedMap κ ν × σ} (h : AssignedWith m Q I (entry :: rest) result) {value : ν} {s : σ}
    (hvalue : Q entry.1 entry.2 value) (hs : I s) :
    AssignedWith m Q I rest (result.1.assign entry.1 value, s) where
  pending entry' hentry' := h.pending entry' (List.mem_cons_of_mem _ hentry')
  keys := (UnorderedMap.keys_assign _ _ _).trans h.keys
  state := hs
  done k v hk hdone := by
    have hentry := h.pending entry List.mem_cons_self
    by_cases hsame : k = entry.1
    · subst hsame
      obtain rfl : entry.2 = v := Option.some.inj (hentry.symm.trans hk)
      refine ⟨value, UnorderedMap.lookup_assign_of_mem value ?_, hvalue⟩
      exact (UnorderedMap.mem_iff_of_keys_eq h.keys _).mpr (UnorderedMap.mem_of_lookup hentry)
    · rw [UnorderedMap.lookup_assign_ne _ value hsame]
      exact h.done k v hk (by simp [hsame, hdone])

/-- Every value is replaced by one that stands in a relation to it, no key is added or removed, and the
state keeps an invariant. -/
theorem meets_assignEachWith {f : κ → ν → σ → Checked (ν × σ)} {m : UnorderedMap κ ν} {s : σ}
    {Q : κ → ν → ν → Prop} {I : σ → Prop} {allowed : Fault → Prop}
    (hf : ∀ k v s, m.lookup k = some v → I s →
      Meets (f k v s) (fun result ↦ Q k v result.1 ∧ I result.2) allowed) (hs : I s) :
    Meets (assignEachWith f m s)
      (fun result ↦ result.1.keys = m.keys ∧ I result.2 ∧ ∀ k v, m.lookup k = some v →
        ∃ value, result.1.lookup k = some value ∧ Q k v value) allowed := by
  have hstart : AssignedWith m Q I m.entries (m, s) :=
    ⟨fun _ hentry ↦ UnorderedMap.lookup_of_mem_entries hentry, rfl, hs,
      fun k v hk hdone ↦ absurd (List.mem_map_of_mem (UnorderedMap.mem_entries_iff.mpr hk)) hdone⟩
  unfold assignEachWith
  apply (meets_forEach_rest (fun entry rest result h ↦ ?_) hstart).imp
  · intro result h
    exact ⟨h.keys, h.state, fun k v hk ↦ h.done k v hk List.not_mem_nil⟩
  · apply (hf entry.1 entry.2 result.2 (h.pending entry List.mem_cons_self) h.state).bind
    rintro ⟨value, s⟩ ⟨hvalue, hs⟩
    exact h.assign hvalue hs

/-- Every value afterwards is the result of a round. -/
theorem meets_assignEachWith_values {f : κ → ν → σ → Checked (ν × σ)} {m : UnorderedMap κ ν} (s : σ)
    {P : κ → ν → Prop} {allowed : Fault → Prop}
    (hf : ∀ k v s, m.lookup k = some v → Meets (f k v s) (fun result ↦ P k result.1) allowed) :
    Meets (assignEachWith f m s) (fun result ↦ ∀ k v, result.1.lookup k = some v → P k v) allowed := by
  have hloop := @meets_assignEachWith κ ν σ _ f m s (fun k _ value ↦ P k value) (fun _ ↦ True) allowed
    (fun k v s hk _ ↦ (hf k v s hk).imp fun result hresult ↦ ⟨hresult, trivial⟩) trivial
  apply hloop.imp
  rintro ⟨after, s'⟩ ⟨hkeys, -, hdone⟩ k v hlookup
  have hmem := (UnorderedMap.mem_iff_of_keys_eq hkeys k).mp (UnorderedMap.mem_of_lookup hlookup)
  obtain ⟨before, hbefore⟩ := UnorderedMap.mem_iff_lookup.mp hmem
  obtain ⟨value, hvalue, hP⟩ := hdone k before hbefore
  rw [hlookup] at hvalue
  exact Option.some.inj hvalue ▸ hP

/-- The rule for a loop that has returned, where nothing is said about faults. -/
theorem of_assignEachWith {f : κ → ν → σ → Checked (ν × σ)} {m m' : UnorderedMap κ ν} {s s' : σ}
    (Q : κ → ν → ν → Prop) (I : σ → Prop)
    (hf : ∀ k v s v' s', m.lookup k = some v → I s → f k v s = .ok (v', s') → Q k v v' ∧ I s')
    (hs : I s) (h : assignEachWith f m s = .ok (m', s')) :
    m'.keys = m.keys ∧ I s' ∧ ∀ k v, m.lookup k = some v →
      ∃ v', m'.lookup k = some v' ∧ Q k v v' := by
  have hloop : Meets (assignEachWith f m s) _ fun _ ↦ True :=
    meets_assignEachWith (Q := Q) (I := I) (fun k v s hk hs ↦ ?_) hs
  · exact hloop.of_ok h
  · cases hround : f k v s with
    | error fault => trivial
    | ok result => exact hf k v s result.1 result.2 hk hs hround

end ThreadedAssign

end HardwareMediatek
