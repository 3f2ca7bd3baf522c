import HardwareMediatek.Thermal.DeviceStates
import HardwareMediatek.Thermal.ParseThrottling
import Mathlib.Order.Bounds.Basic

/-!
# Limits and ceilings that are configured as frequencies

A binding may give the limits and the ceilings of its device as frequencies. One scan over the
available frequencies and the severities turns them into states. The scan ends with the shorter of
the two, so a severity whose frequency is below all available ones keeps the value that its array
started with. A ceiling starts at the greatest integer and is cut down to the greatest state of the
device; a limit starts at state 0, which does not throttle at all.
-/

namespace HardwareMediatek.Thermal

open UnorderedMap

/-! ## What the scan finds -/

section Scan

variable {limits : CdevArray} {frequencies : List ℤ} {severities : List ThrottlingSeverity}

/-- A state whose frequency is not above the limit. -/
def StateWithin (frequencies : List ℤ) (limit : ℤ) : Set ℕ :=
  {state | ∃ frequency, frequencies[state]? = some frequency ∧ frequency ≤ limit}

/-- The first state within the limit, for a list that is scanned from its start. -/
def firstWithin (frequencies : List ℤ) (limit : ℤ) : Option ℕ :=
  frequencies.findIdx? (· ≤ limit)

theorem firstWithin_eq_some_iff {limit : ℤ} {state : ℕ} :
    firstWithin frequencies limit = some state ↔ IsLeast (StateWithin frequencies limit) state := by
  unfold firstWithin
  rw [List.findIdx?_eq_some_iff_getElem]
  constructor
  · rintro ⟨hlt, hwithin, habove⟩
    refine ⟨⟨_, List.getElem?_eq_getElem hlt, of_decide_eq_true hwithin⟩, ?_⟩
    rintro state' ⟨frequency, hfrequency, hle⟩
    apply not_lt.mp
    intro hbefore
    obtain ⟨_, rfl⟩ := List.getElem?_eq_some_iff.mp hfrequency
    exact habove state' hbefore (decide_eq_true hle)
  · rintro ⟨⟨frequency, hfrequency, hle⟩, hleast⟩
    obtain ⟨hlt, rfl⟩ := List.getElem?_eq_some_iff.mp hfrequency
    refine ⟨hlt, decide_eq_true hle, fun state' hbefore hwithin ↦ ?_⟩
    have hmem : state' ∈ StateWithin frequencies limit :=
      ⟨_, List.getElem?_eq_getElem (hbefore.trans hlt), of_decide_eq_true hwithin⟩
    exact absurd (hleast hmem) (not_le.mpr hbefore)

theorem firstWithin_eq_none_iff {limit : ℤ} :
    firstWithin frequencies limit = none ↔ ∀ frequency ∈ frequencies, limit < frequency := by
  unfold firstWithin
  rw [List.findIdx?_eq_none_iff]
  simp only [decide_eq_false_iff_not, not_le]

/-- A smaller limit is met later. -/
theorem firstWithin_antitone {limit limit' : ℤ} {state state' : ℕ} (h : limit' ≤ limit)
    (hfirst : firstWithin frequencies limit = some state)
    (hfirst' : firstWithin frequencies limit' = some state') : state ≤ state' := by
  have hleast := (firstWithin_eq_some_iff.mp hfirst).2
  obtain ⟨frequency, hfrequency, hle⟩ := (firstWithin_eq_some_iff.mp hfirst').1
  exact hleast ⟨frequency, hfrequency, hle.trans h⟩

/-- A limit that no frequency meets is below every limit that some frequency meets. -/
theorem firstWithin_isSome_mono {limit limit' : ℤ} {state' : ℕ} (h : limit' ≤ limit)
    (hfirst' : firstWithin frequencies limit' = some state') :
    ∃ state, firstWithin frequencies limit = some state := by
  apply Option.ne_none_iff_exists'.mp
  rw [Ne, firstWithin_eq_none_iff]
  intro habove
  obtain ⟨frequency, hfrequency, hle⟩ := (firstWithin_eq_some_iff.mp hfirst').1
  exact absurd (hle.trans h) (not_le.mpr (habove frequency (List.mem_of_getElem? hfrequency)))

/-- The limits do not rise along the severities that are still to be scanned. -/
def Falling (limits : CdevArray) (severities : List ThrottlingSeverity) : Prop :=
  severities.Pairwise fun severity severity' ↦ limits severity' ≤ limits severity

/-- Each severity gets the first state within its limit, and keeps its value if there is none. The
frequencies that are skipped are above all the limits to come. -/
theorem searchStates_apply (hfalling : Falling limits severities) (hnodup : severities.Nodup)
    (index : ℤ) (states : CdevArray) (severity : ThrottlingSeverity) :
    searchStates limits frequencies index severities states severity =
      if severity ∈ severities then
        (firstWithin frequencies (limits severity)).elim (states severity) fun state ↦ index + state
      else states severity := by
  fun_induction searchStates limits frequencies index severities states with
  | case1 index states frequency slower head rest hwithin ih =>
    obtain ⟨-, hfalling'⟩ := List.pairwise_cons.mp hfalling
    obtain ⟨hhead, hnodup'⟩ := List.nodup_cons.mp hnodup
    rw [ih hfalling' hnodup']
    by_cases hsame : severity = head
    · subst hsame
      have hfirst : firstWithin (frequency :: slower) (limits severity) = some 0 := by
        simp [firstWithin, List.findIdx?_cons, hwithin]
      simp [hhead, hfirst]
    · simp [hsame]
  | case2 index states frequency slower head rest hwithin ih =>
    rw [ih hfalling hnodup]
    by_cases hmem : severity ∈ head :: rest
    · have hle : limits severity ≤ limits head := by
        rcases List.mem_cons.mp hmem with hsame | hrest
        · exact (congrArg limits hsame).le
        · exact (List.pairwise_cons.mp hfalling).1 severity hrest
      have habove : ¬frequency ≤ limits severity := not_le.mpr (hle.trans_lt (not_le.mp hwithin))
      have hnext : firstWithin (frequency :: slower) (limits severity) =
          (firstWithin slower (limits severity)).map (· + 1) := by
        simp [firstWithin, List.findIdx?_cons, habove]
      rw [if_pos hmem, if_pos hmem, hnext]
      cases firstWithin slower (limits severity) with
      | none => rfl
      | some state =>
        simp only [Option.map_some, Option.elim_some]
        push_cast
        ring
    · rw [if_neg hmem, if_neg hmem]
  | case3 frequencies index severities states hdone =>
    cases frequencies with
    | nil => simp [firstWithin]
    | cons frequency slower =>
      cases severities with
      | nil => simp
      | cons head rest => exact (hdone frequency slower head rest rfl rfl).elim

end Scan

/-! ## Accepted frequencies -/

section Accepted

variable {values : Json} {last : ℤ} {ret limits : CdevArray} {severities : List ThrottlingSeverity}

/-- Entries that are checked to fall do so, and the others keep their values. -/
theorem intEntries_falling (hnodup : severities.Nodup)
    (h : intEntries values false true severities last ret = .ok limits) :
    Falling limits severities ∧ (∀ severity ∈ severities, limits severity ≤ last) ∧
      ∀ severity ∉ severities, limits severity = ret severity := by
  induction severities generalizing last ret with
  | nil =>
    obtain rfl := Except.ok.inj h
    simp [Falling]
  | cons head rest ih =>
    obtain ⟨hhead, hnodup'⟩ := List.nodup_cons.mp hnodup
    obtain ⟨value, -, h⟩ := bind_eq_ok.mp h
    obtain ⟨entry, -, h⟩ := bind_eq_ok.mp h
    split at h
    · cases h
    · rename_i hchecked
      have hle : entry ≤ last := by simpa using hchecked
      obtain ⟨hfalling, hbelow, hkept⟩ := ih hnodup' h
      have hentry : limits head = entry := by
        rw [hkept head hhead]
        exact Function.update_self ..
      refine ⟨List.pairwise_cons.mpr ⟨fun severity hmem ↦ ?_, hfalling⟩, ?_, ?_⟩
      · rw [hentry]
        exact hbelow severity hmem
      · intro severity hmem
        rcases List.mem_cons.mp hmem with rfl | hrest
        · exact hentry.trans_le hle
        · exact (hbelow severity hrest).trans hle
      · intro severity hmem
        rw [List.mem_cons, not_or] at hmem
        rw [hkept severity hmem.2, Function.update_of_ne hmem.1]

/-- The frequencies that are accepted do not rise with the severity. -/
theorem getIntFromJsonValues_falling
    (h : getIntFromJsonValues values false true = .ok limits) :
    Falling limits ThrottlingSeverity.all := by
  unfold getIntFromJsonValues at h
  split at h
  · cases h
  · exact (intEntries_falling ThrottlingSeverity.nodup_all h).1

theorem Falling.antitone (h : Falling limits ThrottlingSeverity.all) : Antitone limits := by
  intro severity severity' hle
  have hall : ∀ severity severity' : ThrottlingSeverity, severity < severity' →
      [severity, severity'].Sublist ThrottlingSeverity.all := by
    intro severity severity'
    cases severity <;> cases severity' <;> decide
  rcases hle.eq_or_lt with rfl | hlt
  · exact le_rfl
  · exact (List.pairwise_cons.mp (h.sublist (hall severity severity' hlt))).1 severity'
      (List.mem_singleton_self _)

/-- The frequencies for every severity that a member of a binding configures, and the available ones
they are looked up in. -/
structure ConfiguresFrequencies (scalingFrequencyMap : ScalingFrequencyMap) (cdevName key : String)
    (value : Json) (frequencies : List ℤ) (limits : CdevArray) : Prop where
  available : scalingFrequencyMap.lookup cdevName = some frequencies
  accepted : ∃ member, value.get key = some member ∧ member.empty = false ∧
    getIntFromJsonValues member false true = .ok limits

/-- What the scan over all severities makes of the frequencies. -/
def statesWithin (frequencies : List ℤ) (limits states : CdevArray) : CdevArray :=
  fun severity ↦ (firstWithin frequencies (limits severity)).elim (states severity) Nat.cast

variable {scalingFrequencyMap : ScalingFrequencyMap} {cdevName key : String} {value : Json}
  {frequencies : List ℤ} {states : CdevArray}

theorem ConfiguresFrequencies.falling
    (h : ConfiguresFrequencies scalingFrequencyMap cdevName key value frequencies limits) :
    Falling limits ThrottlingSeverity.all := by
  obtain ⟨member, -, -, haccepted⟩ := h.accepted
  exact getIntFromJsonValues_falling haccepted

theorem ConfiguresFrequencies.searchStates
    (h : ConfiguresFrequencies scalingFrequencyMap cdevName key value frequencies limits) :
    searchStates limits frequencies 0 ThrottlingSeverity.all states =
      statesWithin frequencies limits states := by
  funext severity
  rw [searchStates_apply h.falling ThrottlingSeverity.nodup_all, if_pos (ThrottlingSeverity.mem_all severity)]
  simp only [zero_add]
  rfl

/-- A member that is configured is parsed. -/
theorem parseUnlessEmpty_of_get {α : Type} {default : α} {parse : Json → Parsing α} {member : Json}
    (hget : value.get key = some member) (hempty : member.empty = false) :
    parseUnlessEmpty key value default parse = parse member := by
  simp [parseUnlessEmpty, read, hget, hempty, bind, Except.bind]

theorem parseUnlessEmpty_of_empty {α : Type} {default : α} {parse : Json → Parsing α}
    {member : Json} (hget : value.get key = some member) (hempty : member.empty = true) :
    parseUnlessEmpty key value default parse = .ok default := by
  simp [parseUnlessEmpty, read, hget, hempty, bind, Except.bind, pure, Except.pure]

theorem ConfiguresFrequencies.parseFrequencies
    (h : ConfiguresFrequencies scalingFrequencyMap cdevName key value frequencies limits)
    {member : Json} (hget : value.get key = some member) :
    parseFrequencies scalingFrequencyMap cdevName states member =
      .ok (statesWithin frequencies limits states) := by
  obtain ⟨member', hget', -, haccepted⟩ := h.accepted
  rw [hget] at hget'
  obtain rfl := Option.some.inj hget'
  rw [← h.searchStates]
  simp [Thermal.parseFrequencies, h.available, haccepted, bind, Except.bind, pure, Except.pure]

/-- Of two members that may not both be configured, the other one is empty. -/
theorem empty_of_not_both {other : String} {both : Bool} {member : Json}
    (hboth : bothConfigured other key value = .ok both) (hcheck : check (!both) = .ok ())
    (hget : value.get key = some member) (hempty : member.empty = false) :
    ∃ member', value.get other = some member' ∧ member'.empty = true := by
  obtain ⟨member', hother, hboth⟩ := bind_eq_ok.mp hboth
  obtain ⟨_, hkey, hboth⟩ := bind_eq_ok.mp hboth
  have hmember' : value.get other = some member' := read_eq_ok.mp hother
  refine ⟨member', hmember', ?_⟩
  rw [read_eq_ok.mp hkey] at hget
  obtain rfl := Option.some.inj hget
  obtain rfl := Except.ok.inj hboth
  cases hempty' : member'.empty with
  | true => rfl
  | false => simp [check, hempty, hempty'] at hcheck

/-- The limits of an accepted binding start at state 0. -/
theorem ConfiguresFrequencies.parseLimit {result : CdevArray × Bool}
    (h : ConfiguresFrequencies scalingFrequencyMap cdevName "LimitInfoFrequency" value frequencies
      limits)
    (hparsed : parseLimit scalingFrequencyMap cdevName value = .ok result) :
    result.1 = statesWithin frequencies limits fun _ ↦ 0 := by
  obtain ⟨member, hget, hempty, -⟩ := h.accepted
  unfold Thermal.parseLimit at hparsed
  obtain ⟨both, hboth, hparsed⟩ := bind_eq_ok.mp hparsed
  obtain ⟨_, hcheck, hparsed⟩ := bind_eq_ok.mp hparsed
  obtain ⟨other, hother, hempty'⟩ := empty_of_not_both hboth hcheck hget hempty
  rw [parseUnlessEmpty_of_empty hother hempty'] at hparsed
  obtain ⟨_, hdefault, hparsed⟩ := bind_eq_ok.mp hparsed
  obtain rfl := Except.ok.inj hdefault
  dsimp only at hparsed
  rw [parseUnlessEmpty_of_get hget hempty, h.parseFrequencies hget] at hparsed
  obtain rfl := Except.ok.inj hparsed
  rfl

/-- The ceilings of an accepted binding start at the greatest integer. -/
theorem ConfiguresFrequencies.parsePidBinding {pid : PidBinding}
    (h : ConfiguresFrequencies scalingFrequencyMap cdevName "CdevCeilingFrequency" value frequencies
      limits)
    (hparsed : parsePidBinding scalingFrequencyMap cdevName value = .ok pid) :
    pid.cdevCeiling = statesWithin frequencies limits fun _ ↦ intMax := by
  obtain ⟨member, hget, hempty, -⟩ := h.accepted
  unfold Thermal.parsePidBinding at hparsed
  obtain ⟨weights, -, hparsed⟩ := bind_eq_ok.mp hparsed
  obtain ⟨both, hboth, hparsed⟩ := bind_eq_ok.mp hparsed
  obtain ⟨_, hcheck, hparsed⟩ := bind_eq_ok.mp hparsed
  obtain ⟨other, hother, hempty'⟩ := empty_of_not_both hboth hcheck hget hempty
  rw [parseUnlessEmpty_of_empty hother hempty'] at hparsed
  obtain ⟨ceiling, hceiling, hparsed⟩ := bind_eq_ok.mp hparsed
  obtain ⟨ceiling', hceiling', hparsed⟩ := bind_eq_ok.mp hparsed
  obtain ⟨release, -, hparsed⟩ := bind_eq_ok.mp hparsed
  obtain ⟨throttle, -, hparsed⟩ := bind_eq_ok.mp hparsed
  obtain rfl := Except.ok.inj hparsed
  obtain rfl := Except.ok.inj hceiling
  rw [parseUnlessEmpty_of_get hget hempty, h.parseFrequencies hget] at hceiling'
  exact (Except.ok.inj hceiling').symm

end Accepted

/-! ## The binding of a device -/

section Binding

variable {context : BindingContext} {cdevName : String} {value : Json}

/-- The binding of a device carries what its item configures. -/
structure BoundBy (context : BindingContext) (cdevName : String) (value : Json)
    (binding : BindedCdevInfo) : Prop where
  pid : ∃ pid, (if context.supportPid then
      parsePidBinding context.scalingFrequencyMap cdevName value else pure noPidBinding) = .ok pid ∧
    binding.cdevCeiling = pid.cdevCeiling
  limit : ∃ result, parseLimit context.scalingFrequencyMap cdevName value = .ok result ∧
    binding.limitInfo = result.1

theorem orClear_eq_completed {α : Type} {s s' : BindingState} {result : Parsing α}
    {next : α → Parsing (BindingState × Bool)} (h : orClear s result next = .ok (s', true)) :
    ∃ x, result = .ok x ∧ next x = .ok (s', true) := by
  match result, h with
  | .ok x, h => exact ⟨x, rfl, h⟩
  | .error .refused, h => cases h
  | .error .aborted, h => cases h

/-- One round: the device of the item is bound by it, and the other bindings stay. -/
theorem parseBindings_cons {rest : List Json} {s s' : BindingState}
    (h : parseBindings context (value :: rest) s = .ok (s', true)) :
    ∃ (name : String) (s₁ : BindingState) (binding : BindedCdevInfo),
      getString "CdevRequest" value = .ok name ∧ BoundBy context name value binding ∧
        s₁.bindedCdevInfoMap = s.bindedCdevInfoMap.put name binding ∧
        parseBindings context rest s₁ = .ok (s', true) := by
  obtain ⟨name, hname, h⟩ := bind_eq_ok.mp h
  split at h
  · cases h
  · obtain ⟨pid, hpid, h⟩ := orClear_eq_completed h
    obtain ⟨⟨limit, limited⟩, hlimit, h⟩ := orClear_eq_completed h
    obtain ⟨s₁, hfinish, h⟩ := orClear_eq_completed h
    obtain ⟨power, -, hfinish⟩ := bind_eq_ok.mp hfinish
    obtain ⟨disabled, -, hfinish⟩ := bind_eq_ok.mp hfinish
    obtain rfl := Except.ok.inj hfinish
    exact ⟨name, _, _, hname, ⟨⟨pid, hpid, rfl⟩, ⟨_, hlimit, rfl⟩⟩, rfl, h⟩

/-- Items of other devices leave the binding of a device as it is. -/
theorem parseBindings_lookup_of_ne {items : List Json} {s s' : BindingState}
    (h : parseBindings context items s = .ok (s', true))
    (hother : ∀ item ∈ items, getString "CdevRequest" item ≠ .ok cdevName) :
    s'.bindedCdevInfoMap.lookup cdevName = s.bindedCdevInfoMap.lookup cdevName := by
  induction items generalizing s with
  | nil =>
    obtain ⟨rfl, -⟩ := Prod.mk.injEq .. ▸ Except.ok.inj h
    rfl
  | cons item rest ih =>
    obtain ⟨name, s₁, binding, hname, -, hput, h⟩ := parseBindings_cons h
    have hne : cdevName ≠ name := by
      rintro rfl
      exact hother item List.mem_cons_self hname
    calc
      s'.bindedCdevInfoMap.lookup cdevName = s₁.bindedCdevInfoMap.lookup cdevName :=
        ih h fun item' hmem ↦ hother item' (List.mem_cons_of_mem _ hmem)
      _ = s.bindedCdevInfoMap.lookup cdevName := by
        rw [hput, lookup_put, if_neg hne]

/-- A device is bound by the last item that names it. -/
theorem parseBindings_boundBy {before after : List Json} {s s' : BindingState}
    (h : parseBindings context (before ++ value :: after) s = .ok (s', true))
    (hname : getString "CdevRequest" value = .ok cdevName)
    (hlast : ∀ item ∈ after, getString "CdevRequest" item ≠ .ok cdevName) :
    ∃ binding, s'.bindedCdevInfoMap.lookup cdevName = some binding ∧
      BoundBy context cdevName value binding := by
  induction before generalizing s with
  | nil =>
    obtain ⟨name, s₁, binding, hname', hbound, hput, h⟩ := parseBindings_cons h
    rw [hname] at hname'
    obtain rfl := Except.ok.inj hname'
    refine ⟨binding, ?_, hbound⟩
    rw [parseBindings_lookup_of_ne h hlast, hput, lookup_put, if_pos rfl]
  | cons item before ih =>
    obtain ⟨_, s₁, _, -, -, -, h⟩ := parseBindings_cons h
    exact ih h

end Binding

/-! ## States for frequencies -/

section Mapping

variable {frequencies : List ℤ} {limits states : CdevArray} {deepest : ℤ}

/-- The states do not fall with the severity, each is the lowest one within the limit of its severity,
and the deepest one if all available frequencies are above the limit. The states may be cut down
on the way. -/
structure MapsFrequencies (frequencies : List ℤ) (limits : CdevArray) (cut : ℤ → ℤ) (deepest : ℤ)
    (states : CdevArray) : Prop where
  monotone : Monotone states
  lowest : ∀ (severity : ThrottlingSeverity) (state : ℕ),
    IsLeast (StateWithin frequencies (limits severity)) state → states severity = cut state
  deepest : ∀ severity, (∀ frequency ∈ frequencies, limits severity < frequency) →
    states severity = deepest

/-- Some available frequency is not above the limit of a severity. -/
def LimitReachable (frequencies : List ℤ) (limit : ℤ) : Prop :=
  ∃ frequency ∈ frequencies, frequency ≤ limit

theorem limitReachable_iff {limit : ℤ} :
    LimitReachable frequencies limit ↔ ∃ state, firstWithin frequencies limit = some state := by
  rw [← Option.ne_none_iff_exists', Ne, firstWithin_eq_none_iff]
  simp [LimitReachable]

theorem not_limitReachable_iff {limit : ℤ} :
    ¬LimitReachable frequencies limit ↔ firstWithin frequencies limit = none := by
  simp [LimitReachable, firstWithin_eq_none_iff]

theorem statesWithin_of_some {severity : ThrottlingSeverity} {state : ℕ}
    (h : firstWithin frequencies (limits severity) = some state) :
    statesWithin frequencies limits states severity = state := by
  rw [statesWithin, h, Option.elim_some]

theorem statesWithin_of_none {severity : ThrottlingSeverity}
    (h : firstWithin frequencies (limits severity) = none) :
    statesWithin frequencies limits states severity = states severity := by
  rw [statesWithin, h, Option.elim_none]

variable {cut : ℤ → ℤ} {start : ℤ}

/-- Reachable limits come first, and their states do not fall. So the states as a whole do not fall if
none of them is cut down to more than the value at the start. -/
theorem monotone_statesWithin (hfalling : Antitone limits) (hcut : Monotone cut)
    (hstart : ∀ severity, LimitReachable frequencies (limits severity) ∨
      ∀ reached state, firstWithin frequencies (limits reached) = some state →
        cut state ≤ cut start) :
    Monotone fun severity ↦ cut (statesWithin frequencies limits (fun _ ↦ start) severity) := by
  intro severity severity' hle
  have hlimit := hfalling hle
  dsimp only
  cases hfirst' : firstWithin frequencies (limits severity') with
  | some state' =>
    obtain ⟨state, hfirst⟩ := firstWithin_isSome_mono hlimit hfirst'
    rw [statesWithin_of_some hfirst, statesWithin_of_some hfirst']
    apply hcut
    exact_mod_cast firstWithin_antitone hlimit hfirst hfirst'
  | none =>
    rw [statesWithin_of_none hfirst']
    cases hfirst : firstWithin frequencies (limits severity) with
    | none => rw [statesWithin_of_none hfirst]
    | some state =>
      rw [statesWithin_of_some hfirst]
      have hunreachable := not_limitReachable_iff.mpr hfirst'
      exact (hstart severity').resolve_left hunreachable severity state hfirst

/-- What the scan leaves is right exactly when it reaches every severity, or when the value at the start
is the deepest state and no reached severity gets more. -/
theorem mapsFrequencies_statesWithin_iff (hfalling : Antitone limits) (hcut : Monotone cut) :
    MapsFrequencies frequencies limits cut deepest
        (fun severity ↦ cut (statesWithin frequencies limits (fun _ ↦ start) severity)) ↔
      ∀ severity, LimitReachable frequencies (limits severity) ∨ cut start = deepest ∧
        ∀ reached state, firstWithin frequencies (limits reached) = some state →
          cut state ≤ cut start := by
  constructor
  · intro hmaps severity
    apply or_iff_not_imp_left.mpr
    intro hunreachable
    have hnone := not_limitReachable_iff.mp hunreachable
    refine ⟨?_, fun reached state hfirst ↦ ?_⟩
    · rw [← hmaps.deepest severity (firstWithin_eq_none_iff.mp hnone), statesWithin_of_none hnone]
    · have hbefore : reached ≤ severity := by
        apply not_lt.mp
        intro hlt
        obtain ⟨state', hfirst'⟩ := firstWithin_isSome_mono (hfalling hlt.le) hfirst
        rw [hnone] at hfirst'
        cases hfirst'
      have hle := hmaps.monotone hbefore
      rwa [statesWithin_of_none hnone, statesWithin_of_some hfirst] at hle
  · intro hreach
    refine ⟨?_, fun severity state hleast ↦ ?_, fun severity habove ↦ ?_⟩
    · exact monotone_statesWithin hfalling hcut fun severity ↦ (hreach severity).imp_right And.right
    · rw [statesWithin_of_some (firstWithin_eq_some_iff.mpr hleast)]
    · have hnone := firstWithin_eq_none_iff.mpr habove
      rw [statesWithin_of_none hnone]
      exact ((hreach severity).resolve_left (not_limitReachable_iff.mpr hnone)).1

/-- The ceilings start at the greatest integer, so they are right once they are cut down. -/
theorem mapsFrequencies_ceilings (hfalling : Antitone limits) (hdeepest : deepest ≤ intMax) :
    MapsFrequencies frequencies limits (min · deepest) deepest fun severity ↦
      min (statesWithin frequencies limits (fun _ ↦ intMax) severity) deepest := by
  apply (mapsFrequencies_statesWithin_iff hfalling fun _ _ hle ↦ min_le_min_right deepest hle).mpr
  intro severity
  refine Or.inr ⟨min_eq_right hdeepest, fun reached state hfirst ↦ ?_⟩
  rw [min_eq_right hdeepest]
  exact min_le_right _ _

/-- The limits start at state 0, so they are right only if each of them is reachable, or if the deepest
state is 0 and no reachable limit needs another state. -/
theorem mapsFrequencies_limits_iff (hfalling : Antitone limits) :
    MapsFrequencies frequencies limits id deepest (statesWithin frequencies limits fun _ ↦ 0) ↔
      ∀ severity, LimitReachable frequencies (limits severity) ∨ deepest = 0 ∧
        ∀ reached, LimitReachable frequencies (limits reached) →
          0 ∈ StateWithin frequencies (limits reached) := by
  apply (mapsFrequencies_statesWithin_iff hfalling monotone_id).trans
  apply forall_congr'
  intro severity
  apply or_congr_right
  apply and_congr eq_comm
  apply forall_congr'
  intro reached
  rw [limitReachable_iff]
  constructor
  · rintro hzero ⟨state, hfirst⟩
    have hle : (state : ℤ) ≤ 0 := hzero state hfirst
    have hstate : state = 0 := by omega
    exact hstate ▸ (firstWithin_eq_some_iff.mp hfirst).1
  · intro hzero state hfirst
    have hle := (firstWithin_eq_some_iff.mp hfirst).2 (hzero ⟨state, hfirst⟩)
    rw [id, id]
    exact_mod_cast hle

end Mapping

/-! ## The limits and ceilings of a binding -/

section Claim

variable {context : BindingContext} {cdevName : String} {value : Json} {cdevInfo : CdevInfo}

/-- The limits of a binding, and its ceilings once they are cut down to the greatest state of the
device, are the states for the frequencies that its item configures. -/
structure FrequenciesMapped (context : BindingContext) (cdevName : String) (value : Json)
    (cdevInfo : CdevInfo) (binding : BindedCdevInfo) : Prop where
  limits : ∀ frequencies limits, ConfiguresFrequencies context.scalingFrequencyMap cdevName
    "LimitInfoFrequency" value frequencies limits →
      MapsFrequencies frequencies limits id cdevInfo.maxState binding.limitInfo
  ceilings : context.supportPid = true → ∀ frequencies limits,
    ConfiguresFrequencies context.scalingFrequencyMap cdevName "CdevCeilingFrequency" value
      frequencies limits →
      MapsFrequencies frequencies limits (min · cdevInfo.maxState) cdevInfo.maxState
        (capCeilings cdevInfo binding).cdevCeiling

/-- Every configured limit is met by some available frequency; where one is not, the device has no
state but 0 and the limits that are met need no other. -/
def LimitsReachable (context : BindingContext) (cdevName : String) (value : Json)
    (cdevInfo : CdevInfo) : Prop :=
  ∀ frequencies limits, ConfiguresFrequencies context.scalingFrequencyMap cdevName
    "LimitInfoFrequency" value frequencies limits →
      ∀ severity, LimitReachable frequencies (limits severity) ∨ cdevInfo.maxState = 0 ∧
        ∀ reached, LimitReachable frequencies (limits reached) →
          0 ∈ StateWithin frequencies (limits reached)

theorem capCeilings_cdevCeiling (cdevInfo : CdevInfo) (binding : BindedCdevInfo) :
    (capCeilings cdevInfo binding).cdevCeiling =
      fun severity ↦ min (binding.cdevCeiling severity) cdevInfo.maxState := by
  funext severity
  rw [min_def]
  dsimp only [capCeilings]
  split
  · rw [if_neg (not_le.mpr ‹_›)]
  · rw [if_pos (not_lt.mp ‹_›)]

theorem BoundBy.ceilings {binding : BindedCdevInfo} (h : BoundBy context cdevName value binding)
    (hpid : context.supportPid = true) (hdeepest : cdevInfo.maxState ≤ intMax)
    {frequencies : List ℤ} {limits : CdevArray}
    (hconfigured : ConfiguresFrequencies context.scalingFrequencyMap cdevName "CdevCeilingFrequency"
      value frequencies limits) :
    MapsFrequencies frequencies limits (min · cdevInfo.maxState) cdevInfo.maxState
      (capCeilings cdevInfo binding).cdevCeiling := by
  obtain ⟨pid, hparsed, hceiling⟩ := h.pid
  rw [if_pos hpid] at hparsed
  rw [capCeilings_cdevCeiling, hceiling, hconfigured.parsePidBinding hparsed]
  exact mapsFrequencies_ceilings hconfigured.falling.antitone hdeepest

theorem BoundBy.limits_iff {binding : BindedCdevInfo} (h : BoundBy context cdevName value binding)
    {deepest : ℤ} {frequencies : List ℤ} {limits : CdevArray}
    (hconfigured : ConfiguresFrequencies context.scalingFrequencyMap cdevName "LimitInfoFrequency"
      value frequencies limits) :
    MapsFrequencies frequencies limits id deepest binding.limitInfo ↔
      ∀ severity, LimitReachable frequencies (limits severity) ∨ deepest = 0 ∧
        ∀ reached, LimitReachable frequencies (limits reached) →
          0 ∈ StateWithin frequencies (limits reached) := by
  obtain ⟨result, hparsed, hlimit⟩ := h.limit
  rw [hlimit, hconfigured.parseLimit hparsed]
  exact mapsFrequencies_limits_iff hconfigured.falling.antitone

variable {values : Json} {hardLimit : Bool} {before after : List Json}
  {s : BindingState} (h : parseBindedCdevInfo context values hardLimit = .ok (s, true))
  (hitems : values.items = some (before ++ value :: after))
  (hname : getString "CdevRequest" value = .ok cdevName)
  (hlast : ∀ item ∈ after, getString "CdevRequest" item ≠ .ok cdevName)

include h hitems hname hlast

theorem parseBindedCdevInfo_boundBy :
    ∃ binding, s.bindedCdevInfoMap.lookup cdevName = some binding ∧
      BoundBy context cdevName value binding := by
  obtain ⟨items, hread, h⟩ := bind_eq_ok.mp h
  rw [hitems] at hread
  obtain rfl := Except.ok.inj hread
  exact parseBindings_boundBy h hname hlast

/-- The frequencies of an item that binds its device are mapped as they should exactly when its limits
can be reached. -/
theorem frequenciesMapped_iff (hdeepest : cdevInfo.maxState ≤ intMax) :
    ∃ binding, s.bindedCdevInfoMap.lookup cdevName = some binding ∧
      (FrequenciesMapped context cdevName value cdevInfo binding ↔
        LimitsReachable context cdevName value cdevInfo) := by
  obtain ⟨binding, hlookup, hbound⟩ := parseBindedCdevInfo_boundBy h hitems hname hlast
  refine ⟨binding, hlookup, ?_⟩
  constructor
  · intro hmapped frequencies limits hconfigured
    exact (hbound.limits_iff hconfigured).mp (hmapped.limits frequencies limits hconfigured)
  · intro hreach
    constructor
    · intro frequencies limits hconfigured
      exact (hbound.limits_iff hconfigured).mpr (hreach frequencies limits hconfigured)
    · intro hpid frequencies limits hconfigured
      exact hbound.ceilings hpid hdeepest hconfigured

end Claim

/-! ## A limit below every frequency -/

section Example

/-- A device with three states. -/
def threeStates : CdevInfo := { (default : CdevInfo) with maxState := 2 }

/-- The last limit is below the lowest available frequency. -/
def limitedItem : Json :=
  .obj [("CdevRequest", .str "cpu"),
    ("LimitInfoFrequency", .arr [.int 3000, .int 3000, .int 2000, .int 2000, .int 1000, .int 1000,
      .int 500])]

def cpuContext : BindingContext where
  supportPid := false
  powerLinkDisabled := true
  scalingFrequencyMap := (∅ : ScalingFrequencyMap).put "cpu" [3000, 2000, 1000]
  coolingDeviceInfoMap := (∅ : CdevInfoMap).put "cpu" threeStates

/-- The array of limits that an array of numbers is read as. -/
def cpuLimits : CdevArray
  | .none | .light => 3000
  | .moderate | .severe => 2000
  | .critical | .emergency => 1000
  | .shutdown => 500

theorem limitedItem_configures :
    ConfiguresFrequencies cpuContext.scalingFrequencyMap "cpu" "LimitInfoFrequency" limitedItem
      [3000, 2000, 1000] cpuLimits := by
  refine ⟨by decide, _, rfl, rfl, ?_⟩
  apply congrArg Except.ok
  funext severity
  cases severity <;> rfl

theorem limitedItem_accepted :
    ∃ s, parseBindedCdevInfo cpuContext (.arr [limitedItem]) false = .ok (s, true) :=
  ⟨_, rfl⟩

theorem limitedItem_items : (Json.arr [limitedItem]).items = some ([] ++ limitedItem :: []) := rfl

theorem limitedItem_last :
    ∀ item ∈ ([] : List Json), getString "CdevRequest" item ≠ .ok "cpu" :=
  fun _ hmem ↦ nomatch hmem

theorem limitedItem_frequenciesMapped_iff :
    ∃ s binding, parseBindedCdevInfo cpuContext (.arr [limitedItem]) false = .ok (s, true) ∧
      s.bindedCdevInfoMap.lookup "cpu" = some binding ∧
      (FrequenciesMapped cpuContext "cpu" limitedItem threeStates binding ↔
        LimitsReachable cpuContext "cpu" limitedItem threeStates) := by
  obtain ⟨s, h⟩ := limitedItem_accepted
  have hdeepest : threeStates.maxState ≤ intMax := by decide
  obtain ⟨binding, hlookup, hiff⟩ :=
    frequenciesMapped_iff h limitedItem_items rfl limitedItem_last hdeepest
  exact ⟨s, binding, h, hlookup, hiff⟩

/-- The hottest severity of an accepted item is bound to state 0, although every available frequency
is above its limit. -/
theorem limitedItem_not_mapped :
    ∃ s binding, parseBindedCdevInfo cpuContext (.arr [limitedItem]) false = .ok (s, true) ∧
      s.bindedCdevInfoMap.lookup "cpu" = some binding ∧
      ¬FrequenciesMapped cpuContext "cpu" limitedItem threeStates binding := by
  obtain ⟨s, h⟩ := limitedItem_accepted
  obtain ⟨binding, hlookup, hbound⟩ :=
    parseBindedCdevInfo_boundBy h limitedItem_items rfl limitedItem_last
  refine ⟨s, binding, h, hlookup, fun hmapped ↦ ?_⟩
  have hmaps := hmapped.limits _ _ limitedItem_configures
  rcases (hbound.limits_iff limitedItem_configures).mp hmaps .shutdown with hreach | ⟨hzero, -⟩
  · exact absurd hreach (by unfold LimitReachable; decide)
  · exact absurd hzero (by decide)

end Example

end HardwareMediatek.Thermal
