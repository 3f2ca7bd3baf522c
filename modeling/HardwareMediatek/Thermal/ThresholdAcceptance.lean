import HardwareMediatek.Thermal.Hysteresis

/-!
# When thresholds are accepted

The hot thresholds of a sensor are accepted in rising order from the smallest positive normal
number on, the cold ones in falling order from the largest number on. The two starts are not mirror
images: hot thresholds at or below zero are refused, the cold ones of the other sign are not. An
overlap is looked for between a threshold and the next one that is set, by a comparison that a
difference without a value does not fail.
-/

namespace HardwareMediatek.Thermal

/-! ## The values of an array -/

/-- An array of the right length that is read as given numbers. -/
structure ReadsAs (values : Json) (array : ThrottlingArray) : Prop where
  size : values.size = kThrottlingSeverityCount
  entry : ∀ severity : ThrottlingSeverity, ∃ value, values.at? severity.toNat = some value ∧
    getFloatFromValue value = .ok (array severity)

section Arrays

variable {values : Json} {array : ThrottlingArray} {outOfOrder : ExactFloat → ExactFloat → Bool}
  {first last : ExactFloat} {severities : List ThrottlingSeverity} {ret : ThrottlingArray}

theorem thresholdEntries_cons_eq {severity : ThrottlingSeverity} (hreads : ReadsAs values array) :
    thresholdEntries values outOfOrder (severity :: severities) last ret =
      if (array severity).isNaN then
        thresholdEntries values outOfOrder severities last
          (Function.update ret severity (array severity))
      else if outOfOrder (array severity) last then .error .refused
      else thresholdEntries values outOfOrder severities (array severity)
        (Function.update ret severity (array severity)) := by
  obtain ⟨value, hvalue, hentry⟩ := hreads.entry severity
  rw [thresholdEntries, hvalue]
  simp only [read, hentry, bind, Except.bind]

/-- Values in order are accepted. Each of them follows the last one that is set. -/
theorem thresholdEntries_accepts (hreads : ReadsAs values array)
    (hlast : ∀ severity ∈ severities, (array severity).isNaN = false →
      outOfOrder (array severity) last = false)
    (hordered : severities.Pairwise (InOrder outOfOrder array)) :
    ∃ accepted, thresholdEntries values outOfOrder severities last ret = .ok accepted := by
  induction severities generalizing last ret with
  | nil => exact ⟨ret, rfl⟩
  | cons severity rest ih =>
    obtain ⟨hhead, hrest⟩ := List.pairwise_cons.mp hordered
    rw [thresholdEntries_cons_eq hreads]
    split
    · exact ih (fun severity' hmem ↦ hlast severity' (List.mem_cons_of_mem _ hmem)) hrest
    · rename_i hset
      have hset : (array severity).isNaN = false := Bool.eq_false_of_not_eq_true hset
      rw [hlast severity List.mem_cons_self hset]
      exact ih (fun severity' hmem hset' ↦ hhead severity' hmem hset hset') hrest

/-- What is accepted are the values that are read. -/
theorem thresholdEntries_reads (hreads : ReadsAs values array) {accepted : ThrottlingArray}
    (hok : thresholdEntries values outOfOrder severities last ret = .ok accepted)
    {severity : ThrottlingSeverity}
    (hvalue : severity ∈ severities ∨ ret severity = array severity) :
    accepted severity = array severity := by
  induction severities generalizing last ret with
  | nil =>
    rw [← Except.ok.inj hok]
    exact hvalue.resolve_left List.not_mem_nil
  | cons head rest ih =>
    have hnext : severity ∈ rest ∨
        Function.update ret head (array head) severity = array severity := by
      by_cases hsame : severity = head
      · subst hsame
        exact Or.inr (Function.update_self ..)
      · rw [Function.update_of_ne hsame]
        exact hvalue.imp_left fun hmem ↦ (List.mem_cons.mp hmem).resolve_left hsame
    rw [thresholdEntries_cons_eq hreads] at hok
    split at hok
    · exact ih hok hnext
    · split at hok
      · cases hok
      · exact ih hok hnext

theorem hysteresisEntries_cons_eq {severity : ThrottlingSeverity} (hreads : ReadsAs values array) :
    hysteresisEntries values (severity :: severities) ret =
      if (array severity).isNaN then .error .refused
      else hysteresisEntries values severities (Function.update ret severity (array severity)) := by
  obtain ⟨value, hvalue, hentry⟩ := hreads.entry severity
  rw [hysteresisEntries, hvalue]
  simp only [read, hentry, bind, Except.bind]

/-- Hystereses are accepted when all of them are numbers. -/
theorem hysteresisEntries_eq_ok (hreads : ReadsAs values array) :
    (∃ accepted, hysteresisEntries values severities ret = .ok accepted) ↔
      ∀ severity ∈ severities, (array severity).isNaN = false := by
  induction severities generalizing ret with
  | nil => exact iff_of_true ⟨ret, rfl⟩ fun _ hmem ↦ absurd hmem List.not_mem_nil
  | cons severity rest ih =>
    rw [hysteresisEntries_cons_eq hreads, List.forall_mem_cons]
    cases (array severity).isNaN with
    | true => simp
    | false => simpa using ih

theorem hysteresisEntries_reads (hreads : ReadsAs values array) {accepted : ThrottlingArray}
    (hok : hysteresisEntries values severities ret = .ok accepted) {severity : ThrottlingSeverity}
    (hvalue : severity ∈ severities ∨ ret severity = array severity) :
    accepted severity = array severity := by
  induction severities generalizing ret with
  | nil =>
    rw [← Except.ok.inj hok]
    exact hvalue.resolve_left List.not_mem_nil
  | cons head rest ih =>
    rw [hysteresisEntries_cons_eq hreads] at hok
    split at hok
    · cases hok
    · apply ih hok
      by_cases hsame : severity = head
      · subst hsame
        exact Or.inr (Function.update_self ..)
      · rw [Function.update_of_ne hsame]
        exact hvalue.imp_left fun hmem ↦ (List.mem_cons.mp hmem).resolve_left hsame

end Arrays

/-! ## Neighbours -/

/-- Two severities with thresholds and none between them. -/
structure Neighbours (thresholds : ThrottlingArray) (low high : ThrottlingSeverity) : Prop where
  lt : low < high
  lowSet : (thresholds low).isNaN = false
  highSet : (thresholds high).isNaN = false
  between : ∀ mid, low < mid → mid < high → (thresholds mid).isNaN = true

section Neighbours

variable {thresholds : ThrottlingArray} {overlaps : ThrottlingSeverity → ThrottlingSeverity → Bool}

/-- Over severities in their order, the scan for overlaps compares neighbours. -/
theorem overlapped_eq_false_iff {severities : List ThrottlingSeverity}
    (hsorted : severities.Pairwise (· < ·))
    (hupper : ∀ low ∈ severities, ∀ mid, low < mid → mid ∈ severities) :
    overlapped thresholds overlaps severities = false ↔
      ∀ low ∈ severities, ∀ high, Neighbours thresholds low high → overlaps low high = false := by
  induction severities with
  | nil => exact iff_of_true rfl fun _ hmem ↦ absurd hmem List.not_mem_nil
  | cons low rest ih =>
    obtain ⟨hhead, hrest⟩ := List.pairwise_cons.mp hsorted
    have hupper' : ∀ low ∈ rest, ∀ mid, low < mid → mid ∈ rest := by
      intro low' hmem mid hlt
      have hin := hupper low' (List.mem_cons_of_mem _ hmem) mid hlt
      exact (List.mem_cons.mp hin).resolve_left fun hsame ↦
        lt_asymm (hhead low' hmem) (hsame ▸ hlt)
    have hafter : ∀ mid, low < mid ↔ mid ∈ rest := by
      intro mid
      refine ⟨fun hlt ↦ ?_, hhead mid⟩
      exact (List.mem_cons.mp (hupper low List.mem_cons_self mid hlt)).resolve_left hlt.ne'
    rw [overlapped, Bool.or_eq_false_iff, ih hrest hupper', List.forall_mem_cons]
    apply and_congr_left'
    constructor
    · intro hscan high hneighbours
      have hmem := (hafter high).mp hneighbours.lt
      obtain ⟨before, after, hsplit⟩ := List.append_of_mem hmem
      have hfind : (rest.find? fun next ↦ !(thresholds next).isNaN) = some high := by
        rw [List.find?_eq_some_iff_append]
        refine ⟨by simp [hneighbours.highSet], before, after, hsplit, fun mid hmid ↦ ?_⟩
        have hlow : low < mid := (hafter mid).mpr (hsplit ▸ List.mem_append_left _ hmid)
        rw [hsplit, List.pairwise_append] at hrest
        simp [hneighbours.between mid hlow (hrest.2.2 mid hmid high List.mem_cons_self)]
      rw [hneighbours.lowSet, hfind] at hscan
      exact hscan
    · intro hneighbours
      cases hlow : (thresholds low).isNaN with
      | true => rfl
      | false =>
        cases hfind : rest.find? fun next ↦ !(thresholds next).isNaN with
        | none => rfl
        | some high =>
          obtain ⟨hset, before, after, hsplit, hskipped⟩ := List.find?_eq_some_iff_append.mp hfind
          apply hneighbours high
          have hmem : high ∈ rest := List.mem_of_find?_eq_some hfind
          refine ⟨(hafter high).mpr hmem, hlow, by simpa using hset, fun mid hlt hlt' ↦ ?_⟩
          have hmid := (hafter mid).mp hlt
          rw [hsplit, List.pairwise_append, List.pairwise_cons] at hrest
          rw [hsplit, List.mem_append, List.mem_cons] at hmid
          rcases hmid with hbefore | rfl | hbehind
          · simpa using hskipped mid hbefore
          · exact absurd hlt' (lt_irrefl _)
          · exact absurd hlt' (lt_asymm (hrest.2.1.1 mid hbehind))

theorem overlapped_all_iff :
    overlapped thresholds overlaps ThrottlingSeverity.all = false ↔
      ∀ low high, Neighbours thresholds low high → overlaps low high = false := by
  have hsorted : ThrottlingSeverity.all.Pairwise (· < ·) := by decide
  rw [overlapped_eq_false_iff hsorted fun _ _ mid _ ↦ ThrottlingSeverity.mem_all mid]
  simp only [ThrottlingSeverity.mem_all, true_imp_iff]

end Neighbours

/-! ## One half of the thresholds -/

/-- What the hot and the cold part of the parser differ in. -/
structure ThresholdHalf where
  thresholdKey : String
  hysteresisKey : String
  outOfOrder : ExactFloat → ExactFloat → Bool
  first : ExactFloat
  overlaps : ThrottlingArray → ThrottlingArray → ThrottlingSeverity → ThrottlingSeverity → Bool

def hotHalf : ThresholdHalf where
  thresholdKey := "HotThreshold"
  hysteresisKey := "HotHysteresis"
  outOfOrder := fun entry last ↦ entry < last
  first := floatMin
  overlaps := hotOverlaps

def coldHalf : ThresholdHalf where
  thresholdKey := "ColdThreshold"
  hysteresisKey := "ColdHysteresis"
  outOfOrder := fun entry last ↦ last < entry
  first := floatMax
  overlaps := coldOverlaps

namespace ThresholdHalf

/-- No check of this part refuses the sensor. -/
def Accepts (half : ThresholdHalf) (sensor : Json) : Prop :=
  ∃ thresholds hysteresis,
    parseSensorThreshold half.thresholdKey half.outOfOrder half.first sensor = .ok thresholds ∧
      parseHysteresis half.hysteresisKey sensor = .ok hysteresis ∧
      overlapped thresholds (half.overlaps thresholds hysteresis) ThrottlingSeverity.all = false

/-- A sensor configures two arrays of the right length. -/
structure Configures (half : ThresholdHalf) (sensor : Json)
    (thresholds hysteresis : ThrottlingArray) : Prop where
  threshold : ∃ values, sensor.get half.thresholdKey = some values ∧ ReadsAs values thresholds
  hysteresis : ∃ values, sensor.get half.hysteresisKey = some values ∧ ReadsAs values hysteresis

variable {half : ThresholdHalf} {sensor : Json} {thresholds hysteresis : ThrottlingArray}

theorem parseSensorThreshold_eq (hconfigures : half.Configures sensor thresholds hysteresis) :
    ∃ values, ReadsAs values thresholds ∧
      parseSensorThreshold half.thresholdKey half.outOfOrder half.first sensor =
        thresholdEntries values half.outOfOrder ThrottlingSeverity.all half.first unsetArray := by
  obtain ⟨values, hget, hreads⟩ := hconfigures.threshold
  refine ⟨values, hreads, ?_⟩
  simp [parseSensorThreshold, read, hget, hreads.size, kThrottlingSeverityCount, bind, Except.bind]

theorem parseHysteresis_eq (hconfigures : half.Configures sensor thresholds hysteresis) :
    ∃ values, ReadsAs values hysteresis ∧ parseHysteresis half.hysteresisKey sensor =
      hysteresisEntries values ThrottlingSeverity.all fun _ ↦ 0 := by
  obtain ⟨values, hget, hreads⟩ := hconfigures.hysteresis
  refine ⟨values, hreads, ?_⟩
  simp [parseHysteresis, read, hget, hreads.size, kThrottlingSeverityCount, bind, Except.bind]

/-- The checks, on the arrays themselves. -/
structure Passes (half : ThresholdHalf) (thresholds hysteresis : ThrottlingArray) : Prop where
  start : ∀ severity, (thresholds severity).isNaN = false →
    half.outOfOrder (thresholds severity) half.first = false
  order : ∀ low high, low < high → InOrder half.outOfOrder thresholds low high
  numbers : ∀ severity, (hysteresis severity).isNaN = false
  apart : ∀ low high, Neighbours thresholds low high →
    half.overlaps thresholds hysteresis low high = false

/-- The parser carries out the checks. -/
theorem accepts_iff_passes (htrans : OrderTransitive half.outOfOrder)
    (hfirst : half.first.isNaN = false)
    (hconfigures : half.Configures sensor thresholds hysteresis) :
    half.Accepts sensor ↔ half.Passes thresholds hysteresis := by
  obtain ⟨values, hreads, hparse⟩ := parseSensorThreshold_eq hconfigures
  obtain ⟨values', hreads', hparse'⟩ := parseHysteresis_eq hconfigures
  have hread : ∀ {accepted}, thresholdEntries values half.outOfOrder ThrottlingSeverity.all half.first
      unsetArray = .ok accepted → accepted = thresholds :=
    fun hok ↦ funext fun severity ↦ thresholdEntries_reads hreads hok (.inl severity.mem_all)
  have hread' : ∀ {accepted}, hysteresisEntries values' ThrottlingSeverity.all (fun _ ↦ 0) =
      .ok accepted → accepted = hysteresis :=
    fun hok ↦ funext fun severity ↦ hysteresisEntries_reads hreads' hok (.inl severity.mem_all)
  unfold Accepts
  rw [hparse, hparse']
  constructor
  · rintro ⟨accepted, accepted', hok, hok', hapart⟩
    obtain rfl := hread hok
    obtain rfl := hread' hok'
    obtain ⟨hstart, hordered⟩ := thresholdEntries_inOrder htrans hok ThrottlingSeverity.nodup_all hfirst
    refine ⟨fun severity ↦ hstart severity (ThrottlingSeverity.mem_all severity), ?_, ?_, ?_⟩
    · exact fun low high hlt ↦ rel_of_pairwise_all hordered hlt
    · have hnumbers := (hysteresisEntries_eq_ok hreads').mp ⟨_, hok'⟩
      exact fun severity ↦ hnumbers severity (ThrottlingSeverity.mem_all severity)
    · exact overlapped_all_iff.mp hapart
  · intro hpasses
    have hsorted : ThrottlingSeverity.all.Pairwise (· < ·) := by decide
    have hordered := hsorted.imp fun {low high} hlt ↦ hpasses.order low high hlt
    obtain ⟨accepted, hok⟩ := @thresholdEntries_accepts values thresholds half.outOfOrder half.first
      ThrottlingSeverity.all unsetArray hreads (fun severity _ ↦ hpasses.start severity) hordered
    obtain ⟨accepted', hok'⟩ := (@hysteresisEntries_eq_ok values' hysteresis ThrottlingSeverity.all
      (fun _ ↦ 0) hreads').mpr fun severity _ ↦ hpasses.numbers severity
    obtain rfl := hread hok
    obtain rfl := hread' hok'
    exact ⟨_, _, hok, hok', overlapped_all_iff.mpr hpasses.apart⟩

end ThresholdHalf

/-- A sensor is accepted when both of its parts are. -/
theorem parseSensorThresholds_accepts_iff {sensor : Json} :
    (∃ accepted, parseSensorThresholds sensor = .ok accepted) ↔
      hotHalf.Accepts sensor ∧ coldHalf.Accepts sensor := by
  unfold parseSensorThresholds ThresholdHalf.Accepts
  constructor
  · rintro ⟨accepted, hok⟩
    obtain ⟨hot, hhot, hok⟩ := bind_eq_ok.mp hok
    obtain ⟨hotHysteresis, hhotHysteresis, hok⟩ := bind_eq_ok.mp hok
    obtain ⟨_, hhotApart, hok⟩ := bind_eq_ok.mp hok
    obtain ⟨cold, hcold, hok⟩ := bind_eq_ok.mp hok
    obtain ⟨coldHysteresis, hcoldHysteresis, hok⟩ := bind_eq_ok.mp hok
    obtain ⟨_, hcoldApart, -⟩ := bind_eq_ok.mp hok
    exact ⟨⟨hot, hotHysteresis, hhot, hhotHysteresis, (Bool.not_eq_true' _).mp (check_eq_ok.mp hhotApart)⟩,
      ⟨cold, coldHysteresis, hcold, hcoldHysteresis, (Bool.not_eq_true' _).mp (check_eq_ok.mp hcoldApart)⟩⟩
  · rintro ⟨⟨hot, hotHysteresis, hhot, hhotHysteresis, hhotApart⟩,
      ⟨cold, coldHysteresis, hcold, hcoldHysteresis, hcoldApart⟩⟩
    refine ⟨⟨hot, hotHysteresis, cold, coldHysteresis⟩, ?_⟩
    apply bind_eq_ok.mpr ⟨hot, hhot, ?_⟩
    apply bind_eq_ok.mpr ⟨hotHysteresis, hhotHysteresis, ?_⟩
    apply bind_eq_ok.mpr ⟨(), check_eq_ok.mpr ((Bool.not_eq_true' _).mpr hhotApart), ?_⟩
    apply bind_eq_ok.mpr ⟨cold, hcold, ?_⟩
    apply bind_eq_ok.mpr ⟨coldHysteresis, hcoldHysteresis, ?_⟩
    exact bind_eq_ok.mpr ⟨(), check_eq_ok.mpr ((Bool.not_eq_true' _).mpr hcoldApart), rfl⟩

/-! ## Mirror images -/

section Mirror

variable {thresholds hysteresis : ThrottlingArray}

/-- The thresholds of the other sign. -/
def mirrored (thresholds : ThrottlingArray) : ThrottlingArray := fun severity ↦ -thresholds severity

theorem neighbours_mirrored {low high : ThrottlingSeverity} :
    Neighbours (mirrored thresholds) low high ↔ Neighbours thresholds low high := by
  constructor <;> intro h <;> refine ⟨h.lt, ?_, ?_, fun mid hlow hhigh ↦ ?_⟩
  · simpa [mirrored] using h.lowSet
  · simpa [mirrored] using h.highSet
  · simpa [mirrored] using h.between mid hlow hhigh
  · simpa [mirrored] using h.lowSet
  · simpa [mirrored] using h.highSet
  · simpa [mirrored] using h.between mid hlow hhigh

/-- The checks that both parts share: the order, numbers as hystereses, and no overlap. -/
structure Passable (thresholds hysteresis : ThrottlingArray) : Prop where
  order : ∀ low high, low < high → (thresholds low).isNaN = false →
    (thresholds high).isNaN = false → thresholds low ≤ thresholds high
  numbers : ∀ severity, (hysteresis severity).isNaN = false
  apart : ∀ low high, Neighbours thresholds low high →
    ¬binary32.round (thresholds high - hysteresis high) < thresholds low

/-- No threshold is below a bound. -/
def StartsAt (thresholds : ThrottlingArray) (bound : ExactFloat) : Prop :=
  ∀ severity, (thresholds severity).isNaN = false → bound ≤ thresholds severity

/-- Between neighbours, the threshold less its hysteresis is a number. -/
def DifferencesSet (thresholds hysteresis : ThrottlingArray) : Prop :=
  ∀ low high, Neighbours thresholds low high → (thresholds high - hysteresis high).isNaN = false

theorem not_lt_iff_le {x y : ExactFloat} (hx : x.isNaN = false) (hy : y.isNaN = false) :
    ¬y < x ↔ x ≤ y := by
  constructor
  · exact ExactFloat.le_of_not_lt hx hy
  · exact fun hle hlt ↦ ExactFloat.lt_irrefl _ (ExactFloat.lt_of_le_of_lt hle hlt)

theorem hotHalf_passes_iff :
    hotHalf.Passes thresholds hysteresis ↔
      Passable thresholds hysteresis ∧ StartsAt thresholds floatMin := by
  constructor
  · intro hpasses
    refine ⟨⟨fun low high hlt hlow hhigh ↦ ?_, hpasses.numbers, fun low high hneighbours ↦ ?_⟩,
      fun severity hset ↦ ?_⟩
    · exact (not_lt_iff_le hlow hhigh).mp
        (of_decide_eq_false (hpasses.order low high hlt hlow hhigh))
    · exact of_decide_eq_false (hpasses.apart low high hneighbours)
    · exact (not_lt_iff_le rfl hset).mp (of_decide_eq_false (hpasses.start severity hset))
  · rintro ⟨hpassable, hstart⟩
    refine ⟨fun severity hset ↦ ?_, fun low high hlt hlow hhigh ↦ ?_, hpassable.numbers,
      fun low high hneighbours ↦ ?_⟩
    · exact decide_eq_false ((not_lt_iff_le rfl hset).mpr (hstart severity hset))
    · exact decide_eq_false
        ((not_lt_iff_le hlow hhigh).mpr (hpassable.order low high hlt hlow hhigh))
    · exact decide_eq_false (hpassable.apart low high hneighbours)

theorem coldHalf_start_mirrored (severity : ThrottlingSeverity) :
    coldHalf.outOfOrder (mirrored thresholds severity) coldHalf.first =
      decide (thresholds severity < -floatMax) := by
  apply decide_eq_decide.mpr
  rw [← ExactFloat.neg_lt_neg_iff]
  simp [mirrored, coldHalf]

theorem coldHalf_order_mirrored (low high : ThrottlingSeverity) :
    coldHalf.outOfOrder (mirrored thresholds high) (mirrored thresholds low) =
      decide (thresholds high < thresholds low) :=
  decide_eq_decide.mpr ExactFloat.neg_lt_neg_iff

theorem coldHalf_overlaps_mirrored (low high : ThrottlingSeverity) :
    coldHalf.overlaps (mirrored thresholds) hysteresis low high =
      decide (binary32.round (thresholds high - hysteresis high) < thresholds low) := by
  apply decide_eq_decide.mpr
  simp only [mirrored]
  rw [ExactFloat.sub_def, ← ExactFloat.neg_lt_neg_iff, ← FloatFormat.round_neg, ExactFloat.neg_add,
    ExactFloat.neg_neg, ExactFloat.neg_neg]

/-- The cold part makes the same checks on the mirror image, but starts elsewhere. -/
theorem coldHalf_passes_mirrored_iff :
    coldHalf.Passes (mirrored thresholds) hysteresis ↔
      Passable thresholds hysteresis ∧ StartsAt thresholds (-floatMax) := by
  have hmirrored : ∀ severity, (mirrored thresholds severity).isNaN = (thresholds severity).isNaN :=
    fun severity ↦ ExactFloat.isNaN_neg _
  constructor
  · intro hpasses
    refine ⟨⟨fun low high hlt hlow hhigh ↦ ?_, hpasses.numbers, fun low high hneighbours ↦ ?_⟩,
      fun severity hset ↦ ?_⟩
    · have horder := hpasses.order low high hlt ((hmirrored low).trans hlow)
        ((hmirrored high).trans hhigh)
      rw [coldHalf_order_mirrored] at horder
      exact (not_lt_iff_le hlow hhigh).mp (of_decide_eq_false horder)
    · have hapart := hpasses.apart low high (neighbours_mirrored.mpr hneighbours)
      rw [coldHalf_overlaps_mirrored] at hapart
      exact of_decide_eq_false hapart
    · have hstart := hpasses.start severity ((hmirrored severity).trans hset)
      rw [coldHalf_start_mirrored] at hstart
      exact (not_lt_iff_le rfl hset).mp (of_decide_eq_false hstart)
  · rintro ⟨hpassable, hstart⟩
    refine ⟨fun severity hset ↦ ?_, fun low high hlt hlow hhigh ↦ ?_, hpassable.numbers,
      fun low high hneighbours ↦ ?_⟩
    · rw [hmirrored] at hset
      rw [coldHalf_start_mirrored]
      exact decide_eq_false ((not_lt_iff_le rfl hset).mpr (hstart severity hset))
    · rw [hmirrored] at hlow hhigh
      rw [coldHalf_order_mirrored]
      exact decide_eq_false
        ((not_lt_iff_le hlow hhigh).mpr (hpassable.order low high hlt hlow hhigh))
    · rw [coldHalf_overlaps_mirrored]
      exact decide_eq_false (hpassable.apart low high (neighbours_mirrored.mp hneighbours))

/-- What thresholds and hystereses should satisfy to be accepted. -/
structure WellSpaced (thresholds hysteresis : ThrottlingArray) : Prop where
  order : ∀ low high, low < high → (thresholds low).isNaN = false →
    (thresholds high).isNaN = false → thresholds low ≤ thresholds high
  numbers : ∀ severity, (hysteresis severity).isNaN = false
  spaced : ∀ low high, Neighbours thresholds low high →
    thresholds low ≤ binary32.round (thresholds high - hysteresis high)

/-- The check for an overlap lets differences pass that are no numbers. -/
theorem wellSpaced_iff :
    WellSpaced thresholds hysteresis ↔
      Passable thresholds hysteresis ∧ DifferencesSet thresholds hysteresis := by
  constructor
  · intro hspaced
    have hset : DifferencesSet thresholds hysteresis := by
      intro low high hneighbours
      rw [← FloatFormat.isNaN_round]
      rcases hspaced.spaced low high hneighbours with hlt | ⟨hsame, -⟩
      · exact ExactFloat.isNaN_right_of_lt hlt
      · exact hsame ▸ hneighbours.lowSet
    refine ⟨⟨hspaced.order, hspaced.numbers, fun low high hneighbours ↦ ?_⟩, hset⟩
    exact (not_lt_iff_le hneighbours.lowSet ((FloatFormat.isNaN_round _).trans (hset low high hneighbours))).mpr
      (hspaced.spaced low high hneighbours)
  · rintro ⟨hpassable, hset⟩
    refine ⟨hpassable.order, hpassable.numbers, fun low high hneighbours ↦ ?_⟩
    exact (not_lt_iff_le hneighbours.lowSet ((FloatFormat.isNaN_round _).trans (hset low high hneighbours))).mp
      (hpassable.apart low high hneighbours)

theorem startsAt_floatMax_of_floatMin (hstart : StartsAt thresholds floatMin) :
    StartsAt thresholds (-floatMax) := by
  intro severity hset
  have hle : -floatMax ≤ floatMin := by
    unfold floatMax floatMin
    rw [ExactFloat.neg_fin, ExactFloat.fin_le_fin]
    norm_num
  exact ExactFloat.le_trans hle (hstart severity hset)

/-- The sensor passes the part of `ParseSensorInfo` about thresholds and hystereses. -/
def ThresholdsAccepted (sensor : Json) : Prop := ∃ accepted, parseSensorThresholds sensor = .ok accepted

/-- Hot thresholds are accepted exactly when they are well spaced, and together with their mirror image
as cold ones. -/
def AcceptanceLaw (hot cold : Json) (thresholds hysteresis : ThrottlingArray) : Prop :=
  (ThresholdsAccepted hot ↔ WellSpaced thresholds hysteresis) ∧
    (ThresholdsAccepted hot ↔ ThresholdsAccepted cold)

theorem orderTransitive_hot : OrderTransitive hotHalf.outOfOrder := by
  intro x y z hx hy hz hxy hyz
  have hle := (not_lt_iff_le hx hy).mp (of_decide_eq_false hxy)
  have hle' := (not_lt_iff_le hy hz).mp (of_decide_eq_false hyz)
  exact decide_eq_false ((not_lt_iff_le hx hz).mpr (ExactFloat.le_trans hle hle'))

theorem orderTransitive_cold : OrderTransitive coldHalf.outOfOrder := by
  intro x y z hx hy hz hxy hyz
  have hle := (not_lt_iff_le hy hx).mp (of_decide_eq_false hxy)
  have hle' := (not_lt_iff_le hz hy).mp (of_decide_eq_false hyz)
  exact decide_eq_false ((not_lt_iff_le hz hx).mpr (ExactFloat.le_trans hle' hle))

theorem thresholdsAccepted_hot_iff {hot : Json}
    (hconfigures : hotHalf.Configures hot thresholds hysteresis) (hcold : coldHalf.Accepts hot) :
    ThresholdsAccepted hot ↔
      Passable thresholds hysteresis ∧ StartsAt thresholds floatMin := by
  calc
    ThresholdsAccepted hot ↔ hotHalf.Accepts hot ∧ coldHalf.Accepts hot :=
      parseSensorThresholds_accepts_iff
    _ ↔ hotHalf.Accepts hot := and_iff_left hcold
    _ ↔ hotHalf.Passes thresholds hysteresis :=
      ThresholdHalf.accepts_iff_passes orderTransitive_hot rfl hconfigures
    _ ↔ Passable thresholds hysteresis ∧ StartsAt thresholds floatMin := hotHalf_passes_iff

theorem thresholdsAccepted_cold_iff {cold : Json}
    (hconfigures : coldHalf.Configures cold (mirrored thresholds) hysteresis)
    (hhot : hotHalf.Accepts cold) :
    ThresholdsAccepted cold ↔
      Passable thresholds hysteresis ∧ StartsAt thresholds (-floatMax) := by
  calc
    ThresholdsAccepted cold ↔ hotHalf.Accepts cold ∧ coldHalf.Accepts cold :=
      parseSensorThresholds_accepts_iff
    _ ↔ coldHalf.Accepts cold := and_iff_right hhot
    _ ↔ coldHalf.Passes (mirrored thresholds) hysteresis :=
      ThresholdHalf.accepts_iff_passes orderTransitive_cold rfl hconfigures
    _ ↔ Passable thresholds hysteresis ∧ StartsAt thresholds (-floatMax) :=
      coldHalf_passes_mirrored_iff

/-- The law holds of arrays that are refused for their order, a hysteresis or an overlap. Of the others
it holds if no threshold is below the smallest positive normal number and every difference is a number,
or if a threshold is below all finite numbers and some difference is not a number. -/
theorem acceptanceLaw_iff {hot cold : Json}
    (hhot : hotHalf.Configures hot thresholds hysteresis) (hhotOther : coldHalf.Accepts hot)
    (hcold : coldHalf.Configures cold (mirrored thresholds) hysteresis)
    (hcoldOther : hotHalf.Accepts cold) :
    AcceptanceLaw hot cold thresholds hysteresis ↔
      (Passable thresholds hysteresis →
        StartsAt thresholds floatMin ∧ DifferencesSet thresholds hysteresis ∨
          ¬StartsAt thresholds (-floatMax) ∧ ¬DifferencesSet thresholds hysteresis) := by
  unfold AcceptanceLaw
  rw [thresholdsAccepted_hot_iff hhot hhotOther, thresholdsAccepted_cold_iff hcold hcoldOther,
    wellSpaced_iff]
  have hstart : StartsAt thresholds floatMin → StartsAt thresholds (-floatMax) :=
    startsAt_floatMax_of_floatMin
  tauto

end Mirror

/-! ## Thresholds below zero -/

section Example

def freezerThresholds : ThrottlingArray
  | .none => .fin (-10)
  | .light => .fin 0
  | .moderate => .fin 10
  | .severe => .fin 20
  | .critical => .fin 30
  | .emergency => .fin 40
  | .shutdown => .fin 50

def flat : Json := .arr [.int 0, .int 0, .int 0, .int 0, .int 0, .int 0, .int 0]

/-- Hot thresholds that start below zero. -/
def freezerHot : Json :=
  .obj [("HotThreshold", .arr [.int (-10), .int 0, .int 10, .int 20, .int 30, .int 40, .int 50]),
    ("HotHysteresis", flat)]

/-- The same thresholds as cold ones of the other sign. -/
def freezerCold : Json :=
  .obj [("ColdThreshold", .arr [.int 10, .int 0, .int (-10), .int (-20), .int (-30), .int (-40),
      .int (-50)]),
    ("ColdHysteresis", flat)]

theorem flat_readsAs : ReadsAs flat fun _ ↦ 0 := by
  refine ⟨rfl, fun severity ↦ ?_⟩
  cases severity <;> exact ⟨_, rfl, getFloatFromValue_int (by decide)⟩

theorem freezerHot_configures :
    hotHalf.Configures freezerHot freezerThresholds fun _ ↦ 0 := by
  refine ⟨⟨_, rfl, rfl, fun severity ↦ ?_⟩, ⟨_, rfl, flat_readsAs⟩⟩
  cases severity <;> exact ⟨_, rfl, getFloatFromValue_int (by decide)⟩

theorem freezerCold_configures :
    coldHalf.Configures freezerCold (mirrored freezerThresholds) fun _ ↦ 0 := by
  refine ⟨⟨_, rfl, rfl, fun severity ↦ ?_⟩, ⟨_, rfl, flat_readsAs⟩⟩
  cases severity <;> exact ⟨_, rfl, by with_unfolding_all rfl⟩

/-- Without cold thresholds the cold part accepts. -/
theorem freezerHot_other : coldHalf.Accepts freezerHot := ⟨_, _, rfl, rfl, rfl⟩

theorem freezerCold_other : hotHalf.Accepts freezerCold := ⟨_, _, rfl, rfl, rfl⟩

theorem freezer_passable : Passable freezerThresholds fun _ ↦ 0 where
  order low high hlt _ _ := by
    cases low <;> cases high <;> first | exact absurd hlt (by decide) | decide +kernel
  numbers _ := rfl
  apart low high hneighbours := by
    have hlt := hneighbours.lt
    cases low <;> cases high <;> first | exact absurd hlt (by decide) | decide +kernel

theorem freezer_acceptanceLaw_iff :
    AcceptanceLaw freezerHot freezerCold freezerThresholds (fun _ ↦ 0) ↔
      (Passable freezerThresholds (fun _ ↦ 0) →
        StartsAt freezerThresholds floatMin ∧ DifferencesSet freezerThresholds (fun _ ↦ 0) ∨
          ¬StartsAt freezerThresholds (-floatMax) ∧
            ¬DifferencesSet freezerThresholds fun _ ↦ 0) :=
  acceptanceLaw_iff freezerHot_configures freezerHot_other freezerCold_configures freezerCold_other

/-- Hot thresholds from -10 to 50 are refused, their mirror image is accepted. -/
theorem freezer_not_acceptanceLaw :
    ∃ hot cold thresholds hysteresis, hotHalf.Configures hot thresholds hysteresis ∧
      coldHalf.Accepts hot ∧ coldHalf.Configures cold (mirrored thresholds) hysteresis ∧
      hotHalf.Accepts cold ∧ ¬AcceptanceLaw hot cold thresholds hysteresis := by
  refine ⟨freezerHot, freezerCold, freezerThresholds, fun _ ↦ 0, freezerHot_configures,
    freezerHot_other, freezerCold_configures, freezerCold_other, ?_⟩
  rintro ⟨-, hmirror⟩
  have hcold : ThresholdsAccepted freezerCold := by
    apply (thresholdsAccepted_cold_iff freezerCold_configures freezerCold_other).mpr
    refine ⟨freezer_passable, fun severity _ ↦ ?_⟩
    cases severity <;> decide +kernel
  have hhot := hmirror.mpr hcold
  rw [thresholdsAccepted_hot_iff freezerHot_configures freezerHot_other] at hhot
  exact absurd (hhot.2 .none rfl) (by decide +kernel)

end Example

end HardwareMediatek.Thermal
