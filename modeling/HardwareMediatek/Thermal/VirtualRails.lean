import HardwareMediatek.Foundation.FiniteFloat
import HardwareMediatek.Thermal.AveragePower

/-!
# Virtual rails

The power of a virtual rail is a formula of the average powers of its linked rails. Only the weighted
sum has no value when one of them has none; the other formulas compare, and a comparison with "not a
number" is false, so that they go on with the rails that are left.
-/

namespace HardwareMediatek.Thermal

open Foundation ExactFloat

section Formulas

/-- An average power with its coefficient. -/
abbrev PowerTerm := ExactFloat × ExactFloat

/-- A negative coefficient is a bound from above, any other one from below. -/
def meetsThreshold (term : PowerTerm) : Bool :=
  (term.2 < 0 ∧ term.1 < -term.2) ∨ (0 ≤ term.2 ∧ term.2 ≤ term.1)

/-- What a formula means: a number of rails, a sum, or the largest or smallest of the products that a
`float` can have. -/
def formulaValue (formula : FormulaOption) (terms : List PowerTerm) : ExactFloat :=
  match formula with
  | .countThreshold => .fin (terms.countP meetsThreshold)
  | .weightedAvg => (terms.map fun term ↦ term.1 * term.2).sum
  | .maximum => (terms.map fun term ↦ term.1 * term.2).foldl ExactFloat.max (-floatMax)
  | .minimum => (terms.map fun term ↦ term.1 * term.2).foldl ExactFloat.min floatMax
  | _ => 0

/-- The power that a formula and an offset give: none when the value or the sum is negative. -/
def formulaPower (formula : FormulaOption) (offset : ExactFloat) (terms : List PowerTerm) :
    ExactFloat :=
  if formulaValue formula terms < 0 then .nan
  else nonnegativePower (formulaValue formula terms + offset)

/-- The linked rails that have an average power. -/
def validTerms (terms : List PowerTerm) : List PowerTerm := terms.filter fun term ↦ !term.1.isNaN

/-- The loop over the linked rails, with their average powers. -/
def foldFormula (formula : FormulaOption) : ℕ → List PowerTerm → ExactFloat → ExactFloat
  | _, [], value => value
  | i, term :: terms, value =>
    foldFormula formula (i + 1) terms ((applyFormula formula i term.1 term.2 value).getD value)

/-- The formulas that `ParsePowerRailInfo` knows. -/
def powerFormulas : List FormulaOption := [.countThreshold, .weightedAvg, .maximum, .minimum]

theorem foldFormula_countThreshold (i : ℕ) (terms : List PowerTerm) (count : ℚ) :
    foldFormula .countThreshold i terms (.fin count) =
      .fin (count + terms.countP meetsThreshold) := by
  induction terms generalizing i count with
  | nil => simp [foldFormula]
  | cons term terms ih =>
    have hround : (applyFormula .countThreshold i term.1 term.2 (.fin count)).getD (.fin count) =
        .fin (if meetsThreshold term then count + 1 else count) := by
      unfold applyFormula meetsThreshold
      rw [Option.getD_some]
      split <;> rename_i hmeets
      · simp only [hmeets, decide_true, if_true]
        rfl
      · simp only [hmeets, decide_false, Bool.false_eq_true, if_false]
    rw [foldFormula, hround, ih, List.countP_cons]
    by_cases hmeets : meetsThreshold term = true
    · simp only [hmeets, if_true]
      push_cast
      congr 1
      ring
    · simp [hmeets]

theorem foldFormula_weightedAvg (i : ℕ) (terms : List PowerTerm) (value : ExactFloat) :
    foldFormula .weightedAvg i terms value =
      value + (terms.map fun term ↦ term.1 * term.2).sum := by
  induction terms generalizing i value with
  | nil => exact (add_zero value).symm
  | cons term terms ih =>
    rw [foldFormula, ih, List.map_cons, List.sum_cons, ← add_assoc]
    rfl

theorem foldFormula_maximum (i : ℕ) (terms : List PowerTerm) (value : ExactFloat) :
    foldFormula .maximum (i + 1) terms value =
      (terms.map fun term ↦ term.1 * term.2).foldl ExactFloat.max value := by
  induction terms generalizing i value with
  | nil => rfl
  | cons term terms ih =>
    rw [foldFormula, ih, List.map_cons, List.foldl_cons]
    rfl

theorem foldFormula_minimum (i : ℕ) (terms : List PowerTerm) (value : ExactFloat) :
    foldFormula .minimum (i + 1) terms value =
      (terms.map fun term ↦ term.1 * term.2).foldl ExactFloat.min value := by
  induction terms generalizing i value with
  | nil => rfl
  | cons term terms ih =>
    rw [foldFormula, ih, List.map_cons, List.foldl_cons]
    rfl

/-- The loop computes what the formula means. -/
theorem foldFormula_eq {formula : FormulaOption} (hformula : formula ∈ powerFormulas)
    {terms : List PowerTerm} (hterms : terms ≠ []) :
    foldFormula formula 0 terms 0 = formulaValue formula terms := by
  cases terms with
  | nil => exact absurd rfl hterms
  | cons term terms =>
    simp only [powerFormulas, List.mem_cons, List.not_mem_nil, or_false] at hformula
    rcases hformula with rfl | rfl | rfl | rfl
    · exact (foldFormula_countThreshold 0 (term :: terms) 0).trans (by rw [zero_add, formulaValue])
    · exact (foldFormula_weightedAvg 0 (term :: terms) 0).trans (by rw [zero_add, formulaValue])
    · exact foldFormula_maximum 0 terms _
    · exact foldFormula_minimum 0 terms _

theorem max_nan (x : ExactFloat) : x.max .nan = x := if_neg (not_lt_nan x)

theorem min_nan (x : ExactFloat) : x.min .nan = x := if_neg (not_nan_lt x)

/-- A loop that passes over "not a number" passes over the rails without an average power. -/
theorem foldl_products_validTerms {f : ExactFloat → ExactFloat → ExactFloat}
    (hskip : ∀ value, f value .nan = value) (terms : List PowerTerm) (value : ExactFloat) :
    ((validTerms terms).map fun term ↦ term.1 * term.2).foldl f value =
      (terms.map fun term ↦ term.1 * term.2).foldl f value := by
  unfold validTerms
  rw [List.foldl_map, List.foldl_map, List.foldl_filter]
  congr 1
  funext value term
  cases hnan : term.1.isNaN with
  | false => rfl
  | true => rw [eq_nan_iff.mp hnan, nan_mul, hskip, if_neg (by simp)]

theorem isNaN_of_meetsThreshold {term : PowerTerm} (hmeets : meetsThreshold term = true) :
    term.1.isNaN = false := by
  unfold meetsThreshold at hmeets
  rcases of_decide_eq_true hmeets with hbelow | habove
  · exact isNaN_left_of_lt hbelow.2
  · apply Or.elim habove.2
    · exact isNaN_right_of_lt
    · intro hsame
      rw [← hsame.1]
      exact hsame.2

theorem countP_validTerms (terms : List PowerTerm) :
    (validTerms terms).countP meetsThreshold = terms.countP meetsThreshold := by
  unfold validTerms
  rw [List.countP_filter]
  apply List.countP_congr
  intro term _
  rw [Bool.and_eq_true, Bool.not_eq_true', and_iff_left_iff_imp]
  exact isNaN_of_meetsThreshold

/-- The formulas that compare leave out the rails without an average power. -/
theorem formulaValue_validTerms {formula : FormulaOption} (hformula : formula ≠ .weightedAvg)
    (terms : List PowerTerm) :
    formulaValue formula (validTerms terms) = formulaValue formula terms := by
  cases formula with
  | weightedAvg => exact absurd rfl hformula
  | countThreshold => exact congrArg (fun count : ℕ ↦ fin count) (countP_validTerms terms)
  | maximum => exact foldl_products_validTerms max_nan terms _
  | minimum => exact foldl_products_validTerms min_nan terms _
  | useMlModel | useLinearModel | previouslyPredicted => rfl

theorem sum_eq_nan {values : List ExactFloat} (hnan : ExactFloat.nan ∈ values) : values.sum = .nan := by
  induction values with
  | nil => cases hnan
  | cons value values ih =>
    rw [List.sum_cons]
    rcases List.mem_cons.mp hnan with hsame | hrest
    · rw [← hsame, nan_add]
    · rw [ih hrest, add_nan]

/-- The weighted sum has no value when some rail has none. -/
theorem formulaValue_weightedAvg_nan {terms : List PowerTerm}
    (hnan : ∃ term ∈ terms, term.1.isNaN = true) : formulaValue .weightedAvg terms = .nan := by
  apply sum_eq_nan
  obtain ⟨term, hterm⟩ := hnan
  apply List.mem_map.mpr
  exact ⟨term, hterm.1, by rw [eq_nan_iff.mp hterm.2, nan_mul]⟩

theorem formulaPower_nan {formula : FormulaOption} {offset : ExactFloat} {terms : List PowerTerm}
    (hvalue : formulaValue formula terms = .nan) : formulaPower formula offset terms = .nan := by
  unfold formulaPower
  rw [hvalue, if_neg (not_nan_lt 0), nan_add]
  exact if_neg (not_nan_lt 0)

/-- The order in which the loop's result is compared and shifted does not matter. -/
theorem nonnegativePower_offset (value offset : ExactFloat) :
    nonnegativePower (if 0 ≤ value then value + offset else value) =
      if value < 0 then .nan else nonnegativePower (value + offset) := by
  by_cases hnegative : value < 0
  · have hnot : ¬ 0 ≤ value := fun hle ↦ ExactFloat.lt_irrefl 0 (ExactFloat.lt_of_le_of_lt hle hnegative)
    rw [if_pos hnegative, if_neg hnot]
    exact if_pos hnegative
  · rw [if_neg hnegative]
    cases hnan : value.isNaN with
    | true => rw [eq_nan_iff.mp hnan, nan_add, ite_self]
    | false => rw [if_pos (ExactFloat.le_of_not_lt rfl hnan hnegative)]

end Formulas

section LinkedRails

variable {env : Refresh} {powerRail : String} {monitor monitor' : PowerMonitor} {info : PowerRailInfo}
  {status : PowerStatus} {energyInfoMap : UnorderedMap String PowerSample}
  {virtualInfo : VirtualPowerRailInfo} {formula : FormulaOption}

/-- What `ParsePowerRailInfo` accepts as a virtual rail. -/
structure VirtualPowerRailInfo.Parsed (virtualInfo : VirtualPowerRailInfo) : Prop where
  linked : virtualInfo.linkedPowerRails ≠ []
  sizes : virtualInfo.linkedPowerRails.length = virtualInfo.coefficients.length
  formula : virtualInfo.formula ∈ powerFormulas

/-- The average powers of the linked rails, with their coefficients. -/
def linkedTerms (energyInfoMap : UnorderedMap String PowerSample) (virtualInfo : VirtualPowerRailInfo)
    (histories : List (List PowerSample)) : List PowerTerm :=
  (List.zipWith (averagePower energyInfoMap) virtualInfo.linkedPowerRails histories).zip
    virtualInfo.coefficients

/-- The loop reaches every linked rail and folds the average powers. -/
theorem updateLinkedRails_value {i : ℕ} {rails : List String} {coefficients : List ExactFloat}
    {histories histories' : List (List PowerSample)} {value value' : ExactFloat}
    (hloop : updateLinkedRails energyInfoMap formula i rails coefficients histories value =
      .ok (value', histories')) :
    rails.length ≤ histories.length ∧
      value' = foldFormula formula i
        ((List.zipWith (averagePower energyInfoMap) rails histories).zip coefficients) value := by
  induction rails generalizing i coefficients histories histories' value value' with
  | nil => exact ⟨Nat.zero_le _, (ok_pair hloop).1.symm⟩
  | cons rail rails ih =>
    cases coefficients with
    | nil => cases hloop
    | cons coefficient coefficients =>
      cases histories with
      | nil => cases hloop
      | cons history histories =>
        rw [updateLinkedRails] at hloop
        obtain ⟨updated, hupdated, hrest⟩ := bind_eq_ok.mp hloop
        obtain ⟨rest, hlater, hpair⟩ := bind_eq_ok.mp hrest
        have hvalue : rest.1 = value' := (ok_pair hpair).1
        have hlength := ih hlater
        rw [updateAveragePower_value hupdated] at hlength
        rw [← hvalue]
        exact ⟨Nat.succ_le_succ hlength.1, hlength.2⟩

/-- No linked rail is left out. -/
theorem length_linkedTerms {histories : List (List PowerSample)} (hparsed : virtualInfo.Parsed)
    (hhistories : virtualInfo.linkedPowerRails.length ≤ histories.length) :
    (linkedTerms energyInfoMap virtualInfo histories).length =
      virtualInfo.linkedPowerRails.length := by
  unfold linkedTerms
  rw [List.length_zip, List.length_zipWith, ← hparsed.sizes, min_eq_left hhistories, min_self]

/-- The loop over the linked rails, and the offset. -/
theorem nonnegativePower_virtual {histories : List (List PowerSample)}
    {computed : ExactFloat × List (List PowerSample)}
    (hvirtual : info.virtualPowerRailInfo = some virtualInfo) (hparsed : virtualInfo.Parsed)
    (hcompute : computeRailPower energyInfoMap powerRail info histories = .ok computed) :
    nonnegativePower computed.1 = formulaPower virtualInfo.formula virtualInfo.offset
      (linkedTerms energyInfoMap virtualInfo histories) := by
  unfold computeRailPower at hcompute
  rw [hvirtual] at hcompute
  obtain ⟨looped, hloop, hcomputed⟩ := bind_eq_ok.mp hcompute
  have hvalue := updateLinkedRails_value hloop
  have hterms : linkedTerms energyInfoMap virtualInfo histories ≠ [] := by
    intro hnil
    have hlength := @length_linkedTerms energyInfoMap virtualInfo histories hparsed hvalue.1
    rw [hnil] at hlength
    exact hparsed.linked (List.eq_nil_of_length_eq_zero hlength.symm)
  have hformula : looped.1 = formulaValue virtualInfo.formula
      (linkedTerms energyInfoMap virtualInfo histories) :=
    hvalue.2.trans (foldFormula_eq hparsed.formula hterms)
  rw [← Except.ok.inj hcomputed, hformula]
  unfold formulaPower
  exact nonnegativePower_offset _ _

/-- A virtual rail has no power when a linked rail has none, and the power of its formula when all
have one, unless the formula gives power for the valid rails alone. -/
theorem virtualPower_correct_iff (hinfo : monitor.files.powerRailInfoMap.lookup powerRail = some info)
    (hvirtual : info.virtualPowerRailInfo = some virtualInfo) (hparsed : virtualInfo.Parsed)
    (hstatus : monitor.files.powerStatusMap.lookup powerRail = some status)
    (hdue : status.isDue info (env.now powerRail) = true)
    (henergy : energyFor env powerRail monitor.energyInfoMap = some energyInfoMap)
    {avgPower : ExactFloat}
    (hupdate : updatePowerRail env powerRail monitor = .ok (monitor', avgPower)) :
    let terms := linkedTerms energyInfoMap virtualInfo status.powerHistory
    (((∃ term ∈ terms, term.1.isNaN = true) → publishedPower monitor' powerRail = some .nan) ∧
      ((∀ term ∈ terms, term.1.isNaN = false) → publishedPower monitor' powerRail =
        some (formulaPower virtualInfo.formula virtualInfo.offset terms))) ↔
    (∀ term ∈ terms, term.1.isNaN = false) ∨ virtualInfo.formula = .weightedAvg ∨
      formulaPower virtualInfo.formula virtualInfo.offset (validTerms terms) = .nan := by
  intro terms
  have hpublished := publishedPower_of_due hinfo hstatus hdue henergy hupdate
  obtain ⟨computed, hcompute, hpower⟩ := hpublished.2
  have hvalue := nonnegativePower_virtual hvirtual hparsed hcompute
  rw [hpublished.1, hpower, hvalue]
  apply Iff.intro
  · intro hboth
    by_cases hvalid : ∀ term ∈ terms, term.1.isNaN = false
    · exact Or.inl hvalid
    · by_cases hformula : virtualInfo.formula = .weightedAvg
      · exact Or.inr (Or.inl hformula)
      · apply Or.inr (Or.inr _)
        push Not at hvalid
        have hnan := hboth.1 (by simpa using hvalid)
        rw [← Option.some.inj hnan]
        unfold formulaPower
        rw [formulaValue_validTerms hformula]
  · intro hcondition
    apply And.intro _ fun _ ↦ rfl
    intro hnan
    apply congrArg some
    rcases hcondition with hvalid | hformula | hnone
    · obtain ⟨term, hterm⟩ := hnan
      rw [hvalid term hterm.1] at hterm
      cases hterm.2
    · rw [hformula]
      exact formulaPower_nan (formulaValue_weightedAvg_nan hnan)
    · by_cases hformula : virtualInfo.formula = .weightedAvg
      · rw [hformula]
        exact formulaPower_nan (formulaValue_weightedAvg_nan hnan)
      · rw [← hnone]
        unfold formulaPower
        rw [formulaValue_validTerms hformula]

/-- A virtual rail that is the smallest of one rail, whose history was forgotten. -/
def smallestRail : VirtualPowerRailInfo where
  linkedPowerRails := ["S2M_VDD_CPUCL2"]
  coefficients := [1]
  offset := 0
  formula := .minimum

def smallestRailMonitor : PowerMonitor where
  files :=
    { powerRailInfoMap := (∅ : UnorderedMap String PowerRailInfo).insert "VDD_CPU"
        { powerSampleCount := 1
          powerSampleDelay := 1000
          virtualPowerRailInfo := some smallestRail }
      powerStatusMap := (∅ : PowerStatusMap).insert "VDD_CPU"
        { lastUpdateTime := minTimePoint
          powerHistory := [[⟨761330, 358356⟩]]
          lastUpdatedAvgPower := .nan
          enabled := true } }
  energyInfoMap := (∅ : UnorderedMap String PowerSample).insert "S2M_VDD_CPUCL2" ⟨761330, 358356⟩

/-- A later sample of the rail. -/
def laterSample : Refresh where
  reading := some [("S2M_VDD_CPUCL2", ⟨762330, 359356⟩)]
  rereading _ := none
  now _ := 5000000000

/-- Switched off and on again, the virtual rail has the largest power there is, although its only linked
rail has none. -/
theorem smallestRail_invents_power :
    (∃ term ∈ linkedTerms
        ((∅ : UnorderedMap String PowerSample).insert "S2M_VDD_CPUCL2" ⟨762330, 359356⟩)
        smallestRail [[⟨0, 0⟩]], term.1.isNaN = true) ∧
      ((runPower smallestRailMonitor [.switch "VDD_CPU" false, .switch "VDD_CPU" true,
        .refresh laterSample]).toOption.bind fun monitor ↦ publishedPower monitor "VDD_CPU") =
        some floatMax := by
  decide +kernel

/-- A refresh with the sample that the rail was registered with. -/
theorem virtualPower_correct_iff_smallestRail :
    ∃ monitor' avgPower,
      updatePowerRail laterSample "VDD_CPU" smallestRailMonitor = .ok (monitor', avgPower) ∧
      let terms := linkedTerms smallestRailMonitor.energyInfoMap smallestRail [[⟨761330, 358356⟩]]
      (((∃ term ∈ terms, term.1.isNaN = true) → publishedPower monitor' "VDD_CPU" = some .nan) ∧
        ((∀ term ∈ terms, term.1.isNaN = false) → publishedPower monitor' "VDD_CPU" =
          some (formulaPower .minimum 0 terms))) ↔
      (∀ term ∈ terms, term.1.isNaN = false) ∨ FormulaOption.minimum = .weightedAvg ∨
        formulaPower .minimum 0 (validTerms terms) = .nan := by
  have hsome : (updatePowerRail laterSample "VDD_CPU" smallestRailMonitor).toOption.isSome = true := by
    decide +kernel
  obtain ⟨result, hresult⟩ := Option.isSome_iff_exists.mp hsome
  have hupdate := toOption_eq_some hresult
  have hparsed : smallestRail.Parsed := ⟨by simp [smallestRail], rfl, by simp [smallestRail, powerFormulas]⟩
  exact ⟨result.1, result.2, hupdate,
    virtualPower_correct_iff rfl rfl hparsed rfl (by decide +kernel) rfl hupdate⟩

end LinkedRails

end HardwareMediatek.Thermal
