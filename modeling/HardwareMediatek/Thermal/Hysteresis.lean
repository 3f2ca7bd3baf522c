import HardwareMediatek.Foundation.FloatOrder
import HardwareMediatek.Thermal.ParseThrottling
import HardwareMediatek.Thermal.SensorStatus

/-!
# Thresholds with a hysteresis

`ParseSensorInfo` accepts thresholds in their order, with hystereses that do not reach past the next
threshold. A severity is reached at its threshold and kept strictly above the threshold less the
hysteresis. With a hysteresis of zero, the threshold itself is reached and not kept.
-/

namespace HardwareMediatek.Thermal

/-! ## Parsing -/

/-- `std::numeric_limits<float>::min()`, the smallest positive normal number. -/
def floatMin : ExactFloat := .fin (1 / 2 ^ 126)

structure SensorThresholds where
  hotThresholds : ThrottlingArray
  hotHysteresis : ThrottlingArray
  coldThresholds : ThrottlingArray
  coldHysteresis : ThrottlingArray

/-- The loop over the values of thresholds. One that is not a number is not compared. -/
def thresholdEntries (values : Json) (outOfOrder : ExactFloat → ExactFloat → Bool) :
    List ThrottlingSeverity → ExactFloat → ThrottlingArray → Parsing ThrottlingArray
  | [], _, thresholds => .ok thresholds
  | severity :: rest, last, thresholds => do
    let value ← read (values.at? severity.toNat)
    let entry ← getFloatFromValue value
    if entry.isNaN then
      thresholdEntries values outOfOrder rest last (Function.update thresholds severity entry)
    else if outOfOrder entry last then .error .refused
    else thresholdEntries values outOfOrder rest entry (Function.update thresholds severity entry)

def parseSensorThreshold (key : String) (outOfOrder : ExactFloat → ExactFloat → Bool)
    (first : ExactFloat) (sensor : Json) : Parsing ThrottlingArray := do
  let values ← read (sensor.get key)
  if values.size = 0 then pure unsetArray
  else if values.size ≠ kThrottlingSeverityCount then .error .refused
  else thresholdEntries values outOfOrder ThrottlingSeverity.all first unsetArray

def hysteresisEntries (values : Json) :
    List ThrottlingSeverity → ThrottlingArray → Parsing ThrottlingArray
  | [], hysteresis => .ok hysteresis
  | severity :: rest, hysteresis => do
    let value ← read (values.at? severity.toNat)
    let entry ← getFloatFromValue value
    if entry.isNaN then .error .refused
    else hysteresisEntries values rest (Function.update hysteresis severity entry)

/-- Without values every hysteresis is zero. -/
def parseHysteresis (key : String) (sensor : Json) : Parsing ThrottlingArray := do
  let values ← read (sensor.get key)
  if values.size = 0 then pure fun _ ↦ 0
  else if values.size ≠ kThrottlingSeverityCount then .error .refused
  else hysteresisEntries values ThrottlingSeverity.all fun _ ↦ 0

/-- Some threshold overlaps the next one that is set. -/
def overlapped (thresholds : ThrottlingArray)
    (overlaps : ThrottlingSeverity → ThrottlingSeverity → Bool) : List ThrottlingSeverity → Bool
  | [] => false
  | severity :: rest =>
    (!(thresholds severity).isNaN &&
      (rest.find? fun next ↦ !(thresholds next).isNaN).any (overlaps severity)) ||
        overlapped thresholds overlaps rest

/-- A hot threshold reaches into the hysteresis of a higher one. -/
def hotOverlaps (thresholds hysteresis : ThrottlingArray) (low high : ThrottlingSeverity) : Bool :=
  binary32.round (thresholds high - hysteresis high) < thresholds low

def coldOverlaps (thresholds hysteresis : ThrottlingArray) (low high : ThrottlingSeverity) : Bool :=
  thresholds low < binary32.round (thresholds high + hysteresis high)

/-- The part of `ParseSensorInfo` about thresholds and hystereses. -/
def parseSensorThresholds (sensor : Json) : Parsing SensorThresholds := do
  let hotThresholds ← parseSensorThreshold "HotThreshold" (fun entry last ↦ entry < last) floatMin sensor
  let hotHysteresis ← parseHysteresis "HotHysteresis" sensor
  check !overlapped hotThresholds (hotOverlaps hotThresholds hotHysteresis) ThrottlingSeverity.all
  let coldThresholds ←
    parseSensorThreshold "ColdThreshold" (fun entry last ↦ last < entry) floatMax sensor
  let coldHysteresis ← parseHysteresis "ColdHysteresis" sensor
  check !overlapped coldThresholds (coldOverlaps coldThresholds coldHysteresis)
    ThrottlingSeverity.all
  pure ⟨hotThresholds, hotHysteresis, coldThresholds, coldHysteresis⟩

/-! ## The highest severity with a property -/

/-- The severities in the order of the loop. -/
def descending : List ThrottlingSeverity := [.shutdown, .emergency, .critical, .severe, .moderate, .light]

def highest (holds : ThrottlingSeverity → Bool) : ThrottlingSeverity :=
  (descending.find? holds).getD .none

theorem foldl_firstFound_of_ne (holds : ThrottlingSeverity → Bool) {found : ThrottlingSeverity}
    (hne : found ≠ .none) (severities : List ThrottlingSeverity) :
    severities.foldl (fun found severity ↦ firstFound found severity (holds severity)) found =
      found := by
  induction severities with
  | nil => rfl
  | cons severity rest ih =>
    rw [List.foldl_cons]
    unfold firstFound
    rw [if_neg fun hboth ↦ hne hboth.2]
    exact ih

theorem foldl_firstFound (holds : ThrottlingSeverity → Bool) {severities : List ThrottlingSeverity}
    (hnone : .none ∉ severities) :
    severities.foldl (fun found severity ↦ firstFound found severity (holds severity)) .none =
      (severities.find? holds).getD .none := by
  induction severities with
  | nil => rfl
  | cons severity rest ih =>
    rw [List.mem_cons, not_or] at hnone
    rw [List.foldl_cons]
    unfold firstFound
    by_cases hholds : holds severity = true
    · rw [if_pos ⟨hholds, rfl⟩, List.find?_cons_of_pos hholds]
      exact foldl_firstFound_of_ne holds (Ne.symm hnone.1) rest
    · rw [if_neg fun hboth ↦ hholds hboth.1, List.find?_cons_of_neg hholds]
      exact ih hnone.2

/-- The loop over the severities finds the highest one. -/
theorem foldl_firstFound_descending (holds : ThrottlingSeverity → Bool) :
    descending.foldl (fun found severity ↦ firstFound found severity (holds severity)) .none =
      highest holds :=
  foldl_firstFound holds (by decide)

theorem holds_highest {holds : ThrottlingSeverity → Bool} (hne : highest holds ≠ .none) :
    holds (highest holds) = true := by
  unfold highest at hne ⊢
  cases hfind : descending.find? holds with
  | none =>
    rw [hfind] at hne
    exact absurd rfl hne
  | some severity => exact List.find?_some hfind

theorem mem_descending {severity : ThrottlingSeverity} (hne : severity ≠ .none) :
    severity ∈ descending := by
  cases severity with
  | none => exact absurd rfl hne
  | light => decide
  | moderate => decide
  | severe => decide
  | critical => decide
  | emergency => decide
  | shutdown => decide

theorem pairwise_descending : descending.Pairwise fun high low ↦ low < high := by decide

theorem le_highest {holds : ThrottlingSeverity → Bool} {severity : ThrottlingSeverity}
    (hholds : holds severity = true) : severity ≤ highest holds := by
  by_cases hne : severity = .none
  · rw [hne]
    exact ThrottlingSeverity.none_le _
  · have hmem := mem_descending hne
    unfold highest
    cases hfind : descending.find? holds with
    | none => exact absurd hholds (List.find?_eq_none.mp hfind severity hmem)
    | some first =>
      have hsplit := List.find?_eq_some_iff_append.mp hfind
      obtain ⟨before, after, hafter⟩ := hsplit.2
      have hpairwise := pairwise_descending
      rw [hafter.1] at hmem hpairwise
      rw [List.pairwise_append] at hpairwise
      rw [List.mem_append, List.mem_cons] at hmem
      rcases hmem with hin | hrest
      · have hnot := hafter.2 severity hin
        rw [hholds] at hnot
        cases hnot
      · rcases hrest with hsame | hin
        · rw [hsame]
          exact le_rfl
        · exact le_of_lt (List.rel_of_pairwise_cons hpairwise.2.1 hin)

/-- A severity does not fall below one that is kept. -/
def withHysteresis (reached kept : ThrottlingSeverity → Bool) (prev : ThrottlingSeverity) :
    ThrottlingSeverity :=
  if highest reached < prev then highest kept else highest reached

/-- From a previous severity, a severity is found that is at least the raw one, at most that one or
the previous one, and found again. -/
structure HysteresisLaw (raw : ThrottlingSeverity) (evaluate : ThrottlingSeverity → ThrottlingSeverity)
    (prev : ThrottlingSeverity) : Prop where
  raw_le : raw ≤ evaluate prev
  le_max : evaluate prev ≤ max raw prev
  again : evaluate (evaluate prev) = evaluate prev

section HysteresisLaw

variable {reached kept : ThrottlingSeverity → Bool} {prev : ThrottlingSeverity}

/-- Nothing above a severity that is set and not reached is kept. -/
theorem highest_kept_le (hset : ∀ severity, prev < severity → prev ≠ .none → reached prev = false →
    kept severity = false) (hlt : highest reached < prev) : highest kept ≤ prev := by
  apply le_of_not_gt
  intro hgt
  have hne : prev ≠ .none := ne_of_gt (lt_of_le_of_lt (ThrottlingSeverity.none_le _) hlt)
  have hnot : reached prev = false := by
    rw [← Bool.not_eq_true]
    intro hreached
    exact absurd (le_highest hreached) (not_le_of_gt hlt)
  have hkept := holds_highest (ne_of_gt (lt_of_le_of_lt (ThrottlingSeverity.none_le prev) hgt))
  rw [hset _ hgt hne hnot] at hkept
  cases hkept

/-- A severity settles unless it falls to one that is reached and not kept. -/
theorem hysteresisLaw_withHysteresis_iff
    (hset : ∀ severity, prev < severity → prev ≠ .none → reached prev = false →
      kept severity = false)
    (hdown : ∀ low high, low < high → reached low = true → kept high = true → kept low = true) :
    HysteresisLaw (highest reached) (withHysteresis reached kept) prev ↔
      (highest reached < prev → highest reached ≠ .none → kept (highest reached) = true) := by
  by_cases hlt : highest reached < prev
  · have hfalls : withHysteresis reached kept prev = highest kept := if_pos hlt
    have hle := highest_kept_le hset hlt
    apply Iff.intro
    · intro hlaw _ hne
      have hreached := hlaw.raw_le
      rw [hfalls] at hreached
      have hkept : kept (highest kept) = true := by
        apply holds_highest
        intro hnone
        rw [hnone] at hreached
        exact hne (le_antisymm hreached (ThrottlingSeverity.none_le _))
      rcases lt_or_eq_of_le hreached with habove | hsame
      · exact hdown _ _ habove (holds_highest hne) hkept
      · rwa [hsame]
    · intro hkept
      have hreached : highest reached ≤ highest kept := by
        by_cases hne : highest reached = .none
        · rw [hne]
          exact ThrottlingSeverity.none_le _
        · exact le_highest (hkept hlt hne)
      apply HysteresisLaw.mk
      · rw [hfalls]
        exact hreached
      · rw [hfalls]
        exact le_max_of_le_right hle
      · rw [hfalls]
        unfold withHysteresis
        rcases lt_or_eq_of_le hreached with habove | hsame
        · exact if_pos habove
        · rw [hsame, if_neg (lt_irrefl _)]
  · have hstays : withHysteresis reached kept prev = highest reached := if_neg hlt
    apply iff_of_true
    · apply HysteresisLaw.mk
      · rw [hstays]
      · rw [hstays]
        exact le_max_left _ _
      · rw [hstays]
        exact if_neg (lt_irrefl _)
    · exact fun habove ↦ absurd habove hlt

end HysteresisLaw

/-! ## Thresholds that do not overlap -/

/-- No threshold reaches into the hysteresis of a higher severity. -/
def Apart (thresholds hysteresis : ThrottlingArray) : Prop :=
  ∀ low high, low < high → (thresholds low).isNaN = false → (thresholds high).isNaN = false →
    ¬ binary32.round (thresholds high - hysteresis high) < thresholds low

def reachedAt (thresholds : ThrottlingArray) (value : ExactFloat) (severity : ThrottlingSeverity) :
    Bool :=
  !(thresholds severity).isNaN && thresholds severity ≤ value

def keptAt (thresholds hysteresis : ThrottlingArray) (value : ExactFloat)
    (severity : ThrottlingSeverity) : Bool :=
  !(thresholds severity).isNaN && binary32.round (thresholds severity - hysteresis severity) < value

section Apart

variable {thresholds hysteresis : ThrottlingArray} {value : ExactFloat}
  {severity : ThrottlingSeverity}

theorem reachedAt_iff : reachedAt thresholds value severity = true ↔
    (thresholds severity).isNaN = false ∧ thresholds severity ≤ value := by
  unfold reachedAt
  rw [Bool.and_eq_true, Bool.not_eq_true', decide_eq_true_eq]

theorem keptAt_iff : keptAt thresholds hysteresis value severity = true ↔
    (thresholds severity).isNaN = false ∧
      binary32.round (thresholds severity - hysteresis severity) < value := by
  unfold keptAt
  rw [Bool.and_eq_true, Bool.not_eq_true', decide_eq_true_eq]

/-- Above a severity that is set and not reached, nothing is kept. -/
theorem Apart.not_keptAt (hapart : Apart thresholds hysteresis) {low : ThrottlingSeverity}
    (hlow : (thresholds low).isNaN = false) (hnot : reachedAt thresholds value low = false)
    (hlt : low < severity) : keptAt thresholds hysteresis value severity = false := by
  rw [← Bool.not_eq_true] at hnot ⊢
  intro hkept
  rw [keptAt_iff] at hkept
  have hvalue : value < thresholds low := by
    apply by_contra
    intro hnotLt
    apply hnot
    rw [reachedAt_iff]
    exact ⟨hlow, ExactFloat.le_of_not_lt hlow (ExactFloat.isNaN_right_of_lt hkept.2) hnotLt⟩
  exact hapart low severity hlt hlow hkept.1 (ExactFloat.lt_trans hkept.2 hvalue)

/-- Below a severity that is kept, every severity that is set is kept. -/
theorem Apart.keptAt_of_lt (hapart : Apart thresholds hysteresis) {low : ThrottlingSeverity}
    (hnonneg : 0 ≤ hysteresis low) (hfloat : binary32.round (thresholds low) = thresholds low)
    (hlow : (thresholds low).isNaN = false) (hlt : low < severity)
    (hkept : keptAt thresholds hysteresis value severity = true) :
    keptAt thresholds hysteresis value low = true := by
  rw [keptAt_iff] at hkept ⊢
  have hle : thresholds low ≤ binary32.round (thresholds severity - hysteresis severity) :=
    ExactFloat.le_of_not_lt hlow (ExactFloat.isNaN_left_of_lt hkept.2)
      (hapart low severity hlt hlow hkept.1)
  have hlt : thresholds low < value := ExactFloat.lt_of_le_of_lt hle hkept.2
  have hround : binary32.round (thresholds low - hysteresis low) ≤ binary32.round (thresholds low) :=
    binary32.round_mono (by decide) (ExactFloat.sub_le_of_lt hlt hnonneg)
  rw [hfloat] at hround
  exact ⟨hlow, ExactFloat.lt_of_le_of_lt hround hlt⟩

theorem Apart.hysteresisLaw_iff (hapart : Apart thresholds hysteresis)
    (hnonneg : ∀ severity, 0 ≤ hysteresis severity)
    (hfloat : ∀ severity, binary32.round (thresholds severity) = thresholds severity)
    {prev : ThrottlingSeverity}
    (hprev : prev = .none ∨ (thresholds prev).isNaN = false) :
    HysteresisLaw (highest (reachedAt thresholds value))
        (withHysteresis (reachedAt thresholds value) (keptAt thresholds hysteresis value)) prev ↔
      (highest (reachedAt thresholds value) < prev → highest (reachedAt thresholds value) ≠ .none →
        binary32.round (thresholds (highest (reachedAt thresholds value)) -
          hysteresis (highest (reachedAt thresholds value))) < value) := by
  rw [hysteresisLaw_withHysteresis_iff]
  · apply imp_congr_right
    intro _
    apply imp_congr_right
    intro hne
    rw [keptAt_iff, and_iff_right (reachedAt_iff.mp (holds_highest hne)).1]
  · intro severity hlt hne hnot
    exact hapart.not_keptAt (hprev.resolve_left hne) hnot hlt
  · intro low high hlt hreached hkept
    exact hapart.keptAt_of_lt (hnonneg low) (hfloat low) (reachedAt_iff.mp hreached).1 hlt hkept

end Apart

/-! ## The thresholds that are accepted -/

/-- Both thresholds are set only if they are in order. -/
def InOrder (outOfOrder : ExactFloat → ExactFloat → Bool) (thresholds : ThrottlingArray)
    (low high : ThrottlingSeverity) : Prop :=
  (thresholds low).isNaN = false → (thresholds high).isNaN = false →
    outOfOrder (thresholds high) (thresholds low) = false

/-- In a sequence in order, the first and the last value are in order. -/
def OrderTransitive (outOfOrder : ExactFloat → ExactFloat → Bool) : Prop :=
  ∀ x y z : ExactFloat, x.isNaN = false → y.isNaN = false → z.isNaN = false →
    outOfOrder y x = false → outOfOrder z y = false → outOfOrder z x = false

section Entries

variable {values : Json} {outOfOrder : ExactFloat → ExactFloat → Bool} {last : ExactFloat}
  {severities : List ThrottlingSeverity} {severity : ThrottlingSeverity}
  {thresholds accepted : ThrottlingArray}

/-- One round of the loop that goes on. -/
theorem thresholdEntries_cons
    (hok : thresholdEntries values outOfOrder (severity :: severities) last thresholds =
      .ok accepted) :
    ∃ entry : ExactFloat, binary32.round entry = entry ∧
      (entry.isNaN = false → outOfOrder entry last = false) ∧
      thresholdEntries values outOfOrder severities (if entry.isNaN then last else entry)
        (Function.update thresholds severity entry) = .ok accepted := by
  unfold thresholdEntries at hok
  obtain ⟨value, hvalue⟩ := bind_eq_ok.mp hok
  obtain ⟨entry, hentry⟩ := bind_eq_ok.mp hvalue.2
  apply Exists.intro entry
  have hrest := hentry.2
  by_cases hnan : entry.isNaN = true
  · rw [if_pos hnan] at hrest ⊢
    exact ⟨round_of_getFloatFromValue hentry.1, fun hset ↦ absurd hset (by rw [hnan]; decide), hrest⟩
  · rw [if_neg hnan] at hrest ⊢
    by_cases hout : outOfOrder entry last = true
    · rw [if_pos hout] at hrest
      cases hrest
    · rw [if_neg hout] at hrest
      exact ⟨round_of_getFloatFromValue hentry.1, fun _ ↦ Bool.eq_false_of_not_eq_true hout, hrest⟩

theorem thresholdEntries_other
    (hok : thresholdEntries values outOfOrder severities last thresholds = .ok accepted)
    (hnot : severity ∉ severities) : accepted severity = thresholds severity := by
  induction severities generalizing last thresholds with
  | nil => rw [Except.ok.inj hok]
  | cons first rest ih =>
    rw [List.mem_cons, not_or] at hnot
    obtain ⟨entry, hentry⟩ := thresholdEntries_cons hok
    rw [ih hentry.2.2 hnot.2, Function.update_of_ne hnot.1]

theorem round_of_thresholdEntries
    (hfloat : ∀ severity, binary32.round (thresholds severity) = thresholds severity)
    (hok : thresholdEntries values outOfOrder severities last thresholds = .ok accepted)
    (severity : ThrottlingSeverity) : binary32.round (accepted severity) = accepted severity := by
  induction severities generalizing last thresholds with
  | nil =>
    rw [← Except.ok.inj hok]
    exact hfloat severity
  | cons first rest ih =>
    obtain ⟨entry, hentry⟩ := thresholdEntries_cons hok
    apply ih _ hentry.2.2
    intro other
    by_cases hsame : other = first
    · rw [hsame, Function.update_self]
      exact hentry.1
    · rw [Function.update_of_ne hsame]
      exact hfloat other

theorem thresholdEntries_inOrder (htrans : OrderTransitive outOfOrder)
    (hok : thresholdEntries values outOfOrder severities last thresholds = .ok accepted)
    (hnodup : severities.Nodup) (hlast : last.isNaN = false) :
    (∀ severity ∈ severities, (accepted severity).isNaN = false →
        outOfOrder (accepted severity) last = false) ∧
      severities.Pairwise (InOrder outOfOrder accepted) := by
  induction severities generalizing last thresholds with
  | nil => exact ⟨fun severity hmem ↦ absurd hmem List.not_mem_nil, List.Pairwise.nil⟩
  | cons first rest ih =>
    rw [List.nodup_cons] at hnodup
    obtain ⟨entry, hentry⟩ := thresholdEntries_cons hok
    have hfirst : accepted first = entry := by
      rw [thresholdEntries_other hentry.2.2 hnodup.1, Function.update_self]
    by_cases hnan : entry.isNaN = true
    · rw [if_pos hnan] at hentry
      have hrest := ih hentry.2.2 hnodup.2 hlast
      apply And.intro
      · intro severity hmem hset
        rcases List.mem_cons.mp hmem with hsame | hin
        · rw [hsame, hfirst, hnan] at hset
          cases hset
        · exact hrest.1 severity hin hset
      · apply List.Pairwise.cons
        · intro severity _ hset
          rw [hfirst, hnan] at hset
          cases hset
        · exact hrest.2
    · rw [if_neg hnan] at hentry
      have hentryNaN : entry.isNaN = false := Bool.eq_false_of_not_eq_true hnan
      have hrest := ih hentry.2.2 hnodup.2 hentryNaN
      apply And.intro
      · intro severity hmem hset
        rcases List.mem_cons.mp hmem with hsame | hin
        · rw [hsame, hfirst]
          exact hentry.2.1 hentryNaN
        · exact htrans last entry (accepted severity) hlast hentryNaN hset (hentry.2.1 hentryNaN)
            (hrest.1 severity hin hset)
      · apply List.Pairwise.cons
        · intro severity hmem _ hset
          rw [hfirst]
          exact hrest.1 severity hmem hset
        · exact hrest.2

end Entries

/-- What holds between the severities in their order holds below every severity. -/
theorem rel_of_pairwise_all {rel : ThrottlingSeverity → ThrottlingSeverity → Prop}
    (hpairwise : ThrottlingSeverity.all.Pairwise rel) {low high : ThrottlingSeverity}
    (hlt : low < high) : rel low high := by
  have hget : ∀ severity : ThrottlingSeverity, ∃ hbound, ThrottlingSeverity.all.get
      ⟨severity.toNat, hbound⟩ = severity := by
    intro severity
    cases severity <;> exact ⟨by decide, rfl⟩
  obtain ⟨hlow, hlowGet⟩ := hget low
  obtain ⟨hhigh, hhighGet⟩ := hget high
  rw [← hlowGet, ← hhighGet]
  exact List.pairwise_iff_get.mp hpairwise _ _ hlt

theorem parseSensorThreshold_inOrder {key : String} {outOfOrder : ExactFloat → ExactFloat → Bool}
    {first : ExactFloat} {sensor : Json} {thresholds : ThrottlingArray}
    (htrans : OrderTransitive outOfOrder) (hfirst : first.isNaN = false)
    (hok : parseSensorThreshold key outOfOrder first sensor = .ok thresholds) :
    ThrottlingSeverity.all.Pairwise (InOrder outOfOrder thresholds) := by
  unfold parseSensorThreshold at hok
  obtain ⟨values, hvalues⟩ := bind_eq_ok.mp hok
  have hrest := hvalues.2
  by_cases hempty : values.size = 0
  · rw [if_pos hempty] at hrest
    rw [← Except.ok.inj hrest]
    apply List.pairwise_of_forall
    intro low high hset
    cases hset
  · rw [if_neg hempty] at hrest
    by_cases hsize : values.size ≠ kThrottlingSeverityCount
    · rw [if_pos hsize] at hrest
      cases hrest
    · rw [if_neg hsize] at hrest
      exact (thresholdEntries_inOrder htrans hrest ThrottlingSeverity.nodup_all hfirst).2

theorem round_of_parseSensorThreshold {key : String} {outOfOrder : ExactFloat → ExactFloat → Bool}
    {first : ExactFloat} {sensor : Json} {thresholds : ThrottlingArray}
    (hok : parseSensorThreshold key outOfOrder first sensor = .ok thresholds)
    (severity : ThrottlingSeverity) : binary32.round (thresholds severity) = thresholds severity := by
  unfold parseSensorThreshold at hok
  obtain ⟨values, -, hok⟩ := bind_eq_ok.mp hok
  split_ifs at hok
  · rw [← Except.ok.inj hok]
    rfl
  · exact round_of_thresholdEntries (fun _ ↦ rfl) hok severity

section Overlaps

variable {thresholds : ThrottlingArray} {overlaps : ThrottlingSeverity → ThrottlingSeverity → Bool}
  {inOrder : ThrottlingSeverity → ThrottlingSeverity → Prop}

/-- Only neighbours are compared. In order, no other thresholds overlap either. -/
theorem pairwise_of_not_overlapped
    (hinOrder : ∀ low mid high, (thresholds low).isNaN = false → (thresholds mid).isNaN = false →
      inOrder low mid → overlaps mid high = false → overlaps low high = false)
    {severities : List ThrottlingSeverity} (hpairwise : severities.Pairwise inOrder)
    (hnot : overlapped thresholds overlaps severities = false) :
    severities.Pairwise fun low high ↦ (thresholds low).isNaN = false →
      (thresholds high).isNaN = false → overlaps low high = false := by
  induction severities with
  | nil => exact List.Pairwise.nil
  | cons low rest ih =>
    unfold overlapped at hnot
    rw [Bool.or_eq_false_iff] at hnot
    rw [List.pairwise_cons] at hpairwise
    have hrest := ih hpairwise.2 hnot.2
    apply List.Pairwise.cons
    · intro high hmem hlow hhigh
      have hneighbour := hnot.1
      rw [hlow, Bool.not_false, Bool.true_and] at hneighbour
      cases hfind : rest.find? fun next ↦ !(thresholds next).isNaN with
      | none =>
        have hnone := List.find?_eq_none.mp hfind high hmem
        rw [hhigh] at hnone
        exact absurd rfl hnone
      | some mid =>
        rw [hfind] at hneighbour
        have hmid : overlaps low mid = false := hneighbour
        have hset : (thresholds mid).isNaN = false := by
          have hfound := List.find?_some hfind
          rwa [Bool.not_eq_true'] at hfound
        have hsplit := List.find?_eq_some_iff_append.mp hfind
        obtain ⟨before, after, hafter⟩ := hsplit.2
        rw [hafter.1, List.mem_append, List.mem_cons] at hmem
        rcases hmem with hin | hfrom
        · have hskipped := hafter.2 high hin
          rw [hhigh] at hskipped
          cases hskipped
        · rcases hfrom with hsame | hin
          · rw [hsame]
            exact hmid
          · rw [hafter.1, List.pairwise_append] at hrest
            have hmidIn : mid ∈ rest := List.mem_of_find?_eq_some hfind
            exact hinOrder low mid high hlow hset (hpairwise.1 mid hmidIn)
              (List.rel_of_pairwise_cons hrest.2.1 hin hset hhigh)
    · exact hrest

end Overlaps

/-- The accepted thresholds of both kinds do not overlap. The cold ones are hot ones of the other
sign. -/
theorem parseSensorThresholds_apart {sensor : Json} {accepted : SensorThresholds}
    (hok : parseSensorThresholds sensor = .ok accepted) :
    Apart accepted.hotThresholds accepted.hotHysteresis ∧
      Apart (fun severity ↦ -accepted.coldThresholds severity) accepted.coldHysteresis := by
  unfold parseSensorThresholds at hok
  obtain ⟨hotThresholds, hhot⟩ := bind_eq_ok.mp hok
  obtain ⟨hotHysteresis, hhotHysteresis⟩ := bind_eq_ok.mp hhot.2
  obtain ⟨hotChecked, hhotChecked⟩ := bind_eq_ok.mp hhotHysteresis.2
  obtain ⟨coldThresholds, hcold⟩ := bind_eq_ok.mp hhotChecked.2
  obtain ⟨coldHysteresis, hcoldHysteresis⟩ := bind_eq_ok.mp hcold.2
  obtain ⟨coldChecked, hcoldChecked⟩ := bind_eq_ok.mp hcoldHysteresis.2
  rw [← Except.ok.inj hcoldChecked.2]
  have hhotNot := check_eq_ok.mp hhotChecked.1
  have hcoldNot := check_eq_ok.mp hcoldChecked.1
  rw [Bool.not_eq_true'] at hhotNot hcoldNot
  apply And.intro
  · have hinOrder := parseSensorThreshold_inOrder
      (by
        intro x y z hx hy hz hxy hyz
        rw [decide_eq_false_iff_not] at *
        intro hzx
        exact hyz (ExactFloat.lt_of_lt_of_le hzx (ExactFloat.le_of_not_lt hx hy hxy)))
      rfl hhot.1
    intro low high hlt hlow hhigh
    have hnot := rel_of_pairwise_all (pairwise_of_not_overlapped (by
      intro low mid high hlow hmid hordered hover
      unfold hotOverlaps at hover ⊢
      rw [decide_eq_false_iff_not] at *
      intro hreaches
      have hle := ExactFloat.le_of_not_lt hlow hmid (of_decide_eq_false (hordered hlow hmid))
      exact hover (ExactFloat.lt_of_lt_of_le hreaches hle)) hinOrder hhotNot) hlt
    exact of_decide_eq_false (hnot hlow hhigh)
  · have hinOrder := parseSensorThreshold_inOrder
      (by
        intro x y z hx hy hz hxy hyz
        rw [decide_eq_false_iff_not] at *
        intro hxz
        exact hyz (ExactFloat.lt_of_le_of_lt (ExactFloat.le_of_not_lt hy hx hxy) hxz))
      rfl hcold.1
    intro low high hlt hlow hhigh
    rw [ExactFloat.isNaN_neg] at hlow hhigh
    have hnot := rel_of_pairwise_all (pairwise_of_not_overlapped (by
      intro low mid high hlow hmid hordered hover
      unfold coldOverlaps at hover ⊢
      rw [decide_eq_false_iff_not] at *
      intro hreaches
      have hle := ExactFloat.le_of_not_lt hmid hlow (of_decide_eq_false (hordered hlow hmid))
      exact hover (ExactFloat.lt_of_le_of_lt hle hreaches)) hinOrder hcoldNot) hlt
    have hnotLt := of_decide_eq_false (hnot hlow hhigh)
    rwa [ExactFloat.sub_def, ← ExactFloat.neg_add, FloatFormat.round_neg, ExactFloat.neg_lt_neg_iff]

/-- The accepted thresholds are values of the type. -/
theorem round_of_parseSensorThresholds {sensor : Json} {accepted : SensorThresholds}
    (hok : parseSensorThresholds sensor = .ok accepted) :
    (∀ severity, binary32.round (accepted.hotThresholds severity) = accepted.hotThresholds severity) ∧
      ∀ severity, binary32.round (accepted.coldThresholds severity) = accepted.coldThresholds severity := by
  unfold parseSensorThresholds at hok
  obtain ⟨hotThresholds, hhot, hok⟩ := bind_eq_ok.mp hok
  obtain ⟨hotHysteresis, -, hok⟩ := bind_eq_ok.mp hok
  obtain ⟨-, -, hok⟩ := bind_eq_ok.mp hok
  obtain ⟨coldThresholds, hcold, hok⟩ := bind_eq_ok.mp hok
  obtain ⟨coldHysteresis, -, hok⟩ := bind_eq_ok.mp hok
  obtain ⟨-, -, hok⟩ := bind_eq_ok.mp hok
  rw [← Except.ok.inj hok]
  exact ⟨round_of_parseSensorThreshold hhot, round_of_parseSensorThreshold hcold⟩

/-! ## The severity of a temperature -/

def SensorInfo.withThresholds (info : SensorInfo) (accepted : SensorThresholds) : SensorInfo :=
  { info with
    hotThresholds := accepted.hotThresholds
    hotHysteresis := accepted.hotHysteresis
    coldThresholds := accepted.coldThresholds
    coldHysteresis := accepted.coldHysteresis }

/-- The highest severity whose hot threshold is at most the value. -/
def rawHot (info : SensorInfo) (value : ExactFloat) : ThrottlingSeverity :=
  highest (reachedAt info.hotThresholds value)

/-- The highest severity whose cold threshold is at least the value. -/
def rawCold (info : SensorInfo) (value : ExactFloat) : ThrottlingSeverity :=
  highest fun severity ↦ !(info.coldThresholds severity).isNaN && value ≤ info.coldThresholds severity

/-- A severity that falls ends strictly inside the hysteresis of the one it falls to. -/
def HotFallInside (info : SensorInfo) (value : ExactFloat) (prev : ThrottlingSeverity) : Prop :=
  rawHot info value < prev → rawHot info value ≠ .none →
    binary32.round (info.hotThresholds (rawHot info value) - info.hotHysteresis (rawHot info value)) < value

def ColdFallInside (info : SensorInfo) (value : ExactFloat) (prev : ThrottlingSeverity) : Prop :=
  rawCold info value < prev → rawCold info value ≠ .none →
    value < binary32.round
      (info.coldThresholds (rawCold info value) + info.coldHysteresis (rawCold info value))

section Evaluation

variable (info : SensorInfo) (value : ExactFloat)

theorem getSeverityFromThresholds_hot (prevHot prevCold : ThrottlingSeverity) :
    (getSeverityFromThresholds info prevHot prevCold value).1 =
      withHysteresis (reachedAt info.hotThresholds value)
        (keptAt info.hotThresholds info.hotHysteresis value) prevHot := by
  unfold withHysteresis
  rw [← foldl_firstFound_descending, ← foldl_firstFound_descending]
  rfl

theorem coldReached_eq :
    (fun severity ↦ !(info.coldThresholds severity).isNaN && value ≤ info.coldThresholds severity) =
      reachedAt (fun severity ↦ -info.coldThresholds severity) (-value) := by
  funext severity
  unfold reachedAt
  rw [ExactFloat.isNaN_neg, decide_eq_decide.mpr ExactFloat.neg_le_neg_iff]

theorem coldKept_eq :
    (fun severity ↦ !(info.coldThresholds severity).isNaN &&
        value < binary32.round (info.coldThresholds severity + info.coldHysteresis severity)) =
      keptAt (fun severity ↦ -info.coldThresholds severity) info.coldHysteresis (-value) := by
  funext severity
  unfold keptAt
  rw [ExactFloat.isNaN_neg, ExactFloat.sub_def, ← ExactFloat.neg_add, FloatFormat.round_neg,
    decide_eq_decide.mpr ExactFloat.neg_lt_neg_iff]

theorem getSeverityFromThresholds_cold (prevHot prevCold : ThrottlingSeverity) :
    (getSeverityFromThresholds info prevHot prevCold value).2 =
      withHysteresis (reachedAt (fun severity ↦ -info.coldThresholds severity) (-value))
        (keptAt (fun severity ↦ -info.coldThresholds severity) info.coldHysteresis (-value))
        prevCold := by
  rw [← coldReached_eq, ← coldKept_eq]
  unfold withHysteresis
  rw [← foldl_firstFound_descending, ← foldl_firstFound_descending]
  rfl

end Evaluation

/-- With hystereses that are not negative, the law holds unless a severity falls to one of which the
value is only on the threshold. -/
theorem getSeverityFromThresholds_law_iff {sensor : Json} {accepted : SensorThresholds}
    (hok : parseSensorThresholds sensor = .ok accepted)
    (hhot : ∀ severity, 0 ≤ accepted.hotHysteresis severity)
    (hcold : ∀ severity, 0 ≤ accepted.coldHysteresis severity) {prevHot prevCold : ThrottlingSeverity}
    (hprevHot : prevHot = .none ∨ (accepted.hotThresholds prevHot).isNaN = false)
    (hprevCold : prevCold = .none ∨ (accepted.coldThresholds prevCold).isNaN = false)
    (info : SensorInfo) (value : ExactFloat) :
    HysteresisLaw (rawHot (info.withThresholds accepted) value)
          (fun prev ↦ (getSeverityFromThresholds (info.withThresholds accepted) prev prevCold value).1)
          prevHot ∧
        HysteresisLaw (rawCold (info.withThresholds accepted) value)
          (fun prev ↦ (getSeverityFromThresholds (info.withThresholds accepted) prevHot prev value).2)
          prevCold ↔
      HotFallInside (info.withThresholds accepted) value prevHot ∧
        ColdFallInside (info.withThresholds accepted) value prevCold := by
  have hapart := parseSensorThresholds_apart hok
  have hfloat := round_of_parseSensorThresholds hok
  apply and_congr
  · simp only [getSeverityFromThresholds_hot]
    exact hapart.1.hysteresisLaw_iff hhot hfloat.1 hprevHot
  · have hraw : rawCold (info.withThresholds accepted) value =
        highest (reachedAt (fun severity ↦ -accepted.coldThresholds severity) (-value)) :=
      congrArg highest (coldReached_eq (info.withThresholds accepted) value)
    simp only [getSeverityFromThresholds_cold]
    unfold ColdFallInside
    rw [hraw]
    rw [← ExactFloat.isNaN_neg] at hprevCold
    have hfloatCold : ∀ severity,
        binary32.round (-accepted.coldThresholds severity) = -accepted.coldThresholds severity :=
      fun severity ↦ by rw [FloatFormat.round_neg, hfloat.2]
    apply (hapart.2.hysteresisLaw_iff hcold hfloatCold hprevCold).trans
    rw [ExactFloat.sub_def, ← ExactFloat.neg_add, FloatFormat.round_neg, ExactFloat.neg_lt_neg_iff]
    rfl

/-- A sensor with hot thresholds and without a hysteresis. -/
def steppedSensor : Json :=
  .obj [("HotThreshold", .arr [.int 30, .int 40, .int 50, .int 60, .int 70, .int 80, .int 90])]

def steppedThresholds : ThrottlingArray
  | .none => .fin 30
  | .light => .fin 40
  | .moderate => .fin 50
  | .severe => .fin 60
  | .critical => .fin 70
  | .emergency => .fin 80
  | .shutdown => .fin 90

def steppedAccepted : SensorThresholds :=
  ⟨steppedThresholds, fun _ ↦ 0, unsetArray, fun _ ↦ 0⟩

theorem parseSensorThreshold_stepped :
    parseSensorThreshold "HotThreshold" (fun entry last ↦ entry < last) floatMin steppedSensor =
      .ok steppedThresholds := by
  have hentries : parseSensorThreshold "HotThreshold" (fun entry last ↦ entry < last) floatMin
      steppedSensor = .ok (ThrottlingSeverity.all.foldl (fun thresholds severity ↦
        Function.update thresholds severity (steppedThresholds severity)) unsetArray) := by
    with_unfolding_all rfl
  rw [hentries]
  apply congrArg Except.ok
  funext severity
  cases severity <;> rfl

theorem parseSensorThresholds_stepped :
    parseSensorThresholds steppedSensor = .ok steppedAccepted := by
  unfold parseSensorThresholds
  rw [parseSensorThreshold_stepped]
  with_unfolding_all rfl

theorem steppedAccepted_nonneg (severity : ThrottlingSeverity) :
    0 ≤ steppedAccepted.hotHysteresis severity ∧ 0 ≤ steppedAccepted.coldHysteresis severity :=
  ⟨ExactFloat.fin_le_fin.mpr le_rfl, ExactFloat.fin_le_fin.mpr le_rfl⟩

theorem steppedAccepted_moderate : ThrottlingSeverity.moderate = .none ∨
    (steppedAccepted.hotThresholds .moderate).isNaN = false := .inr rfl

/-- Between two thresholds the severity falls to the lower one. -/
theorem getSeverityFromThresholds_law_between :
    HysteresisLaw .light (fun prev ↦ (getSeverityFromThresholds
      ((default : SensorInfo).withThresholds steppedAccepted) prev .none (.fin 45)).1) .moderate := by
  have hlaw := (getSeverityFromThresholds_law_iff parseSensorThresholds_stepped
    (fun severity ↦ (steppedAccepted_nonneg severity).1)
    (fun severity ↦ (steppedAccepted_nonneg severity).2) steppedAccepted_moderate
    (.inl (rfl : ThrottlingSeverity.none = .none)) default (.fin 45)).mpr
      ⟨by intro _ _; decide +kernel, by intro hfalls; exact absurd hfalls (by decide +kernel)⟩
  exact hlaw.1

/-- On the lower threshold the severity falls to none. -/
theorem getSeverityFromThresholds_onThreshold :
    ¬ ∀ (sensor : Json) (accepted : SensorThresholds), parseSensorThresholds sensor = .ok accepted →
      (∀ severity, 0 ≤ accepted.hotHysteresis severity) →
      (∀ severity, 0 ≤ accepted.coldHysteresis severity) →
      ∀ prevHot prevCold : ThrottlingSeverity,
        (prevHot = .none ∨ (accepted.hotThresholds prevHot).isNaN = false) →
        (prevCold = .none ∨ (accepted.coldThresholds prevCold).isNaN = false) →
      ∀ (info : SensorInfo) (value : ExactFloat),
        HysteresisLaw (rawHot (info.withThresholds accepted) value)
            (fun prev ↦
              (getSeverityFromThresholds (info.withThresholds accepted) prev prevCold value).1)
            prevHot ∧
          HysteresisLaw (rawCold (info.withThresholds accepted) value)
            (fun prev ↦
              (getSeverityFromThresholds (info.withThresholds accepted) prevHot prev value).2)
            prevCold := by
  intro hlaw
  have hboth := hlaw steppedSensor steppedAccepted parseSensorThresholds_stepped
    (fun severity ↦ (steppedAccepted_nonneg severity).1)
    (fun severity ↦ (steppedAccepted_nonneg severity).2) .moderate .none steppedAccepted_moderate
    (.inl rfl) default (.fin 40)
  exact absurd hboth.1.raw_le (by decide +kernel)

end HardwareMediatek.Thermal
