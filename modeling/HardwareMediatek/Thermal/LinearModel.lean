import HardwareMediatek.Foundation.Checked
import HardwareMediatek.Foundation.EffectRuns
import HardwareMediatek.Foundation.RingBuffer

/-!
# The linear model of a virtual sensor

A weighted sum of the last samples, plus an offset that depends on the sum. The samples are in a ring
that is written at the count of the samples and read backward with an index that wraps around; the first
sample is copied into all rows. The rows that are reserved are the storage of the ring.

Sizes and counts are numbers without bound, and sums are exact.
-/

namespace HardwareMediatek.Thermal

open Foundation

/-- The results of the linear model. -/
inductive LinearModelStatus where
  | ok
  | initFailed
  | invalidArgs
deriving DecidableEq, Repr

structure LinearModelInitData where
  coefficients : List ExactFloat
  prevSamplesOrder : ℕ
  usePrevSamples : Bool
  offsetThresholds : List ExactFloat
  offsetValues : List ExactFloat

structure VtEstimatorCommonData where
  offsetThresholds : List ExactFloat
  offsetValues : List ExactFloat
  numLinkedSensors : ℕ
  prevSamplesOrder : ℕ
  curSampleCount : ℕ
  usePrevSamples : Bool
  isInitialized : Bool

structure VtEstimatorLinearModelData where
  inputSamples : List (List ExactFloat)
  coefficients : List (List ExactFloat)

structure LinearModelEstimator where
  common : VtEstimatorCommonData
  linearModel : VtEstimatorLinearModelData

def LinearModelEstimator.create (numLinkedSensors : ℕ) : LinearModelEstimator where
  common :=
    { offsetThresholds := []
      offsetValues := []
      numLinkedSensors := numLinkedSensors
      prevSamplesOrder := 1
      curSampleCount := 0
      usePrevSamples := false
      isInitialized := false }
  linearModel := ⟨[], []⟩

/-- One row of coefficients for each sample. There is a coefficient for every index. -/
def coefficientRows (coefficients : List ExactFloat) (numLinkedSensors prevSamplesOrder : ℕ) :
    List (List ExactFloat) :=
  (List.range prevSamplesOrder).map fun i ↦
    (List.range numLinkedSensors).map fun j ↦ coefficients.getD (i * numLinkedSensors + j) 0

/-- `reserve`, where the rows that are reserved are there. -/
def reserveRows (rows : List (List ExactFloat)) (size : ℕ) : List (List ExactFloat) :=
  rows ++ List.replicate (size - rows.length) []

def linearModelInitialize (estimator : LinearModelEstimator) (data : LinearModelInitData) :
    LinearModelStatus × LinearModelEstimator :=
  let numLinkedSensors := estimator.common.numLinkedSensors
  if numLinkedSensors = 0 ∨ data.coefficients.length = 0 ∨ data.prevSamplesOrder = 0 then
    (.initFailed, estimator)
  else if data.coefficients.length ≠ numLinkedSensors * data.prevSamplesOrder then
    (.invalidArgs, estimator)
  else
    (.ok,
      { common := { estimator.common with
          usePrevSamples := data.usePrevSamples
          prevSamplesOrder := data.prevSamplesOrder
          offsetThresholds := data.offsetThresholds
          offsetValues := data.offsetValues
          isInitialized := true }
        linearModel :=
          { inputSamples := reserveRows estimator.linearModel.inputSamples data.prevSamplesOrder
            coefficients := estimator.linearModel.coefficients ++
              coefficientRows data.coefficients numLinkedSensors data.prevSamplesOrder } })

/-- `rows[index] = row`. -/
def assignRow (rows : List (List ExactFloat)) (index : ℕ) (row : List ExactFloat) :
    Checked (List (List ExactFloat)) :=
  if index < rows.length then .ok (rows.set index row) else .error .badIndex

/-- The loop over the linked sensors. -/
def weightedRow (coefficients sample : List ExactFloat) : List ℕ → ExactFloat → Checked ExactFloat
  | [], value => .ok value
  | j :: rest, value => do
    let coefficient ← atIndex coefficients j
    let reading ← atIndex sample j
    weightedRow coefficients sample rest (value + coefficient * reading)

/-- The loop over the samples, from the current one to previous ones. -/
def weightedSamples (common : VtEstimatorCommonData) (linearModel : VtEstimatorLinearModelData) :
    List ℕ → ℤ → ExactFloat → Checked ExactFloat
  | [], _, value => .ok value
  | i :: rest, inputLevel, value => do
    let coefficients ← atIndex linearModel.coefficients i
    let sample ← atIndex linearModel.inputSamples inputLevel
    let value ← weightedRow coefficients sample (List.range common.numLinkedSensors) value
    let inputLevel := inputLevel - 1
    weightedSamples common linearModel rest
      (if 0 ≤ inputLevel then inputLevel else common.prevSamplesOrder - 1) value

/-- The loop over the thresholds, from the last of so many. -/
def offsetBelow (offsetThresholds offsetValues : List ExactFloat) (value : ExactFloat) :
    ℕ → Checked ExactFloat
  | 0 => .ok 0
  | i + 1 => do
    let threshold ← atIndex offsetThresholds i
    if threshold < value then atIndex offsetValues i
    else offsetBelow offsetThresholds offsetValues value i

def calculateOffset (offsetThresholds offsetValues : List ExactFloat) (value : ExactFloat) :
    Checked ExactFloat :=
  offsetBelow offsetThresholds offsetValues value offsetThresholds.length

/-- The seeding of the rows before the first sample. -/
def seedRows (common : VtEstimatorCommonData) (rows : List (List ExactFloat))
    (thermistors : List ExactFloat) : Checked (List (List ExactFloat)) :=
  if common.curSampleCount = 0 then
    (List.range common.prevSamplesOrder).foldlM (fun rows i ↦ assignRow rows i thermistors) rows
  else .ok rows

/-- `LinearModelEstimate` with a place for the output, and what is written there. -/
def linearModelEstimate (estimator : LinearModelEstimator) (thermistors : List ExactFloat) :
    Checked (LinearModelStatus × Option (List ExactFloat) × LinearModelEstimator) :=
  let common := estimator.common
  if thermistors.length ≠ common.numLinkedSensors then .ok (.invalidArgs, none, estimator)
  else if common.isInitialized = false then .ok (.initFailed, none, estimator)
  else do
    let rows ← seedRows common estimator.linearModel.inputSamples thermistors
    let curSampleIndex := common.curSampleCount % common.prevSamplesOrder
    let rows ← assignRow rows curSampleIndex thermistors
    let linearModel := { estimator.linearModel with inputSamples := rows }
    let estimatedValue ← weightedSamples common linearModel (List.range common.prevSamplesOrder)
      curSampleIndex 0
    let offset ← calculateOffset common.offsetThresholds common.offsetValues estimatedValue
    pure (.ok, some [estimatedValue + offset],
      { common := { common with curSampleCount := common.curSampleCount + 1 }
        linearModel := linearModel })

/-! ## The window -/

/-- The sample so many steps before the last of a history, or the first sample. -/
def windowSample (samples : List (List ExactFloat)) (i : ℕ) : List ExactFloat :=
  samples.getD (max (samples.length - i) 1 - 1) []

/-- The weighted sum of the last samples. -/
def windowSum (data : LinearModelInitData) (numLinkedSensors : ℕ) (samples : List (List ExactFloat)) :
    ExactFloat :=
  ∑ i ∈ Finset.range data.prevSamplesOrder, ∑ j ∈ Finset.range numLinkedSensors,
    data.coefficients.getD (i * numLinkedSensors + j) 0 * (windowSample samples i).getD j 0

/-- The value of the last threshold that is strictly below. -/
def offsetOf (data : LinearModelInitData) (value : ExactFloat) : ExactFloat :=
  (((data.offsetThresholds.zip data.offsetValues).filter fun offset ↦ offset.1 < value).getLast?.map
    Prod.snd).getD 0

def windowValue (data : LinearModelInitData) (numLinkedSensors : ℕ)
    (samples : List (List ExactFloat)) : ExactFloat :=
  windowSum data numLinkedSensors samples + offsetOf data (windowSum data numLinkedSensors samples)

/-! ## The sums -/

theorem atIndex_of_getElem? {α : Type} {xs : List α} {i : ℕ} {x : α} (h : xs[i]? = some x) :
    atIndex xs i = .ok x := by
  unfold atIndex
  rw [if_pos (Int.natCast_nonneg i), Int.toNat_natCast, h]

/-- The loop over the linked sensors adds their products. -/
theorem weightedRow_eq {coefficients sample : List ExactFloat} {indices : List ℕ}
    (hcoefficients : ∀ j ∈ indices, j < coefficients.length) (hsample : ∀ j ∈ indices, j < sample.length)
    (value : ExactFloat) :
    weightedRow coefficients sample indices value =
      .ok (value + (indices.map fun j ↦ coefficients.getD j 0 * sample.getD j 0).sum) := by
  induction indices generalizing value with
  | nil => rw [List.map_nil, List.sum_nil, add_zero, weightedRow]
  | cons j rest ih =>
    obtain ⟨hj, hrest⟩ := List.forall_mem_cons.mp hcoefficients
    obtain ⟨hj', hrest'⟩ := List.forall_mem_cons.mp hsample
    rw [weightedRow, atIndex_of_getElem? (List.getElem?_eq_getElem hj),
      atIndex_of_getElem? (List.getElem?_eq_getElem hj')]
    simp only [bind, Except.bind]
    rw [ih hrest hrest', List.map_cons, List.sum_cons, List.getD_eq_getElem _ _ hj,
      List.getD_eq_getElem _ _ hj', add_assoc]

theorem getElem?_coefficientRows (coefficients : List ExactFloat) (numLinkedSensors : ℕ)
    {prevSamplesOrder i : ℕ} (hi : i < prevSamplesOrder) :
    (coefficientRows coefficients numLinkedSensors prevSamplesOrder)[i]? =
      some ((List.range numLinkedSensors).map fun j ↦
        coefficients.getD (i * numLinkedSensors + j) 0) := by
  unfold coefficientRows
  rw [List.getElem?_map, List.getElem?_range hi]
  rfl

theorem stepsBack_eq {samples : List (List ExactFloat)} (hsamples : samples ≠ []) (i : ℕ) :
    stepsBack samples i = some (windowSample samples i) := by
  have hpositive := List.length_pos_iff.mpr hsamples
  have hplace : max (samples.length - i) 1 - 1 = samples.length - 1 - i := by omega
  unfold stepsBack windowSample
  rw [hplace, List.getD_eq_getElem _ _ (by omega), List.getElem?_eq_getElem (by omega)]

theorem length_windowSample {samples : List (List ExactFloat)} (hsamples : samples ≠ []) {size : ℕ}
    (hsizes : ∀ sample ∈ samples, sample.length = size) (i : ℕ) :
    (windowSample samples i).length = size := by
  apply hsizes
  have hback := stepsBack_eq hsamples i
  exact List.mem_of_getElem? hback

section Sums

variable {data : LinearModelInitData} {common : VtEstimatorCommonData}
  {linearModel : VtEstimatorLinearModelData} {samples : List (List ExactFloat)}

/-- One round of the sum. -/
def rowSum (data : LinearModelInitData) (numLinkedSensors : ℕ) (samples : List (List ExactFloat))
    (i : ℕ) : ExactFloat :=
  ((List.range numLinkedSensors).map fun j ↦
    data.coefficients.getD (i * numLinkedSensors + j) 0 * (windowSample samples i).getD j 0).sum

/-- The loop over the samples adds the rounds that are left. -/
theorem weightedSamples_eq
    (hcoefficients : linearModel.coefficients =
      coefficientRows data.coefficients common.numLinkedSensors common.prevSamplesOrder)
    (hring : Foundation.RingHolds common.prevSamplesOrder linearModel.inputSamples samples)
    (hsamples : samples ≠ [])
    (hsizes : ∀ sample ∈ samples, sample.length = common.numLinkedSensors) (left : ℕ) :
    ∀ (i : ℕ) (inputLevel : ℤ) (value : ExactFloat), i + left = common.prevSamplesOrder →
      (0 < left → inputLevel = slotBack common.prevSamplesOrder samples.length i) →
        weightedSamples common linearModel (List.range' i left) inputLevel value =
          .ok (value + ((List.range' i left).map
            (rowSum data common.numLinkedSensors samples)).sum) := by
  induction left with
  | zero =>
    intro i inputLevel value _ _
    rw [List.range'_zero, List.map_nil, List.sum_nil, add_zero, weightedSamples]
  | succ left ih =>
    intro i inputLevel value hsum hlevel
    have hi : i < common.prevSamplesOrder := by omega
    rw [hlevel (Nat.succ_pos left), List.range'_succ, weightedSamples, hcoefficients,
      atIndex_of_getElem? (getElem?_coefficientRows _ _ hi),
      atIndex_of_getElem? ((hring.slots i hi).trans (stepsBack_eq hsamples i))]
    simp only [bind, Except.bind]
    rw [weightedRow_eq]
    · have hnext : 0 < left → (if 0 ≤ (slotBack common.prevSamplesOrder samples.length i : ℤ) - 1 then
          (slotBack common.prevSamplesOrder samples.length i : ℤ) - 1
          else (common.prevSamplesOrder : ℤ) - 1) =
            slotBack common.prevSamplesOrder samples.length (i + 1) := by
        intro hleft
        rw [slotBack_step (by omega)]
      have hround : ((List.range common.numLinkedSensors).map fun j ↦
          ((List.range common.numLinkedSensors).map fun j ↦
            data.coefficients.getD (i * common.numLinkedSensors + j) 0).getD j 0 *
              (windowSample samples i).getD j 0).sum =
            rowSum data common.numLinkedSensors samples i := by
        unfold rowSum
        congr 1
        apply List.map_congr_left
        intro j hj
        rw [List.getD_eq_getElem _ _ (by simpa using hj)]
        simp
      dsimp only
      rw [hround, ih (i + 1) _ _ (by omega) hnext, List.map_cons, List.sum_cons, ← add_assoc]
    · intro j hj
      rw [List.length_map, List.length_range]
      exact List.mem_range.mp hj
    · intro j hj
      rw [length_windowSample hsamples hsizes]
      exact List.mem_range.mp hj

end Sums

/-! ## The offset -/

section Offset

variable {thresholds values : List ExactFloat} {value : ExactFloat} {n : ℕ}

/-- A loop over the thresholds that ends has found the last of the first ones that are below. -/
theorem eq_of_offsetBelow (hn : n ≤ thresholds.length) {offset : ExactFloat}
    (hoffset : offsetBelow thresholds values value n = .ok offset) :
    offset = ((((thresholds.zip values).take n).filter fun offset ↦
      offset.1 < value).getLast?.map Prod.snd).getD 0 := by
  induction n with
  | zero => exact (Except.ok.inj hoffset).symm
  | succ i ih =>
    obtain ⟨threshold, hthreshold, hbelow⟩ := bind_eq_ok.mp hoffset
    have hget := (atIndex_eq_ok.mp hthreshold).2
    rw [Int.toNat_natCast] at hget
    rw [List.take_add_one, List.filter_append]
    by_cases hless : threshold < value
    · rw [if_pos hless] at hbelow
      have hvalue := (atIndex_eq_ok.mp hbelow).2
      rw [Int.toNat_natCast] at hvalue
      have hzip : (thresholds.zip values)[i]? = some (threshold, offset) :=
        List.getElem?_zip_eq_some.mpr ⟨hget, hvalue⟩
      rw [hzip]
      simp [hless]
    · rw [if_neg hless] at hbelow
      rw [ih (by omega) hbelow]
      have hnone : (thresholds.zip values)[i]?.toList.filter (fun offset ↦ offset.1 < value) = [] := by
        apply List.filter_eq_nil_iff.mpr
        intro offset hin
        have hzip := List.getElem?_zip_eq_some.mp (Option.mem_toList.mp hin)
        rw [← Option.some.inj (hget.symm.trans hzip.1)]
        simpa using hless
      rw [hnone, List.append_nil]

theorem exists_offsetBelow (hn : n ≤ thresholds.length) (hsame : thresholds.length = values.length) :
    ∃ offset, offsetBelow thresholds values value n = .ok offset := by
  induction n with
  | zero => exact ⟨0, rfl⟩
  | succ i ih =>
    rw [offsetBelow, atIndex_of_getElem? (List.getElem?_eq_getElem hn)]
    simp only [bind, Except.bind]
    split
    · exact ⟨_, atIndex_of_getElem? (List.getElem?_eq_getElem (hsame ▸ hn))⟩
    · exact ih (by omega)

end Offset

theorem calculateOffset_eq {data : LinearModelInitData}
    (hoffsets : data.offsetThresholds.length = data.offsetValues.length) (value : ExactFloat) :
    calculateOffset data.offsetThresholds data.offsetValues value = .ok (offsetOf data value) := by
  obtain ⟨offset, hoffset⟩ := @exists_offsetBelow _ _ value _ (Nat.le_refl _) hoffsets
  have hfound := eq_of_offsetBelow (Nat.le_refl _) hoffset
  rw [List.take_of_length_le (by rw [List.length_zip]; exact Nat.min_le_left _ _)] at hfound
  rw [calculateOffset, hoffset, hfound]
  rfl

/-! ## Runs -/

/-- An initialized estimator after some samples. -/
structure Estimated (data : LinearModelInitData) (numLinkedSensors : ℕ)
    (samples : List (List ExactFloat)) (estimator : LinearModelEstimator) : Prop where
  offsetThresholds : estimator.common.offsetThresholds = data.offsetThresholds
  offsetValues : estimator.common.offsetValues = data.offsetValues
  linked : estimator.common.numLinkedSensors = numLinkedSensors
  order : estimator.common.prevSamplesOrder = data.prevSamplesOrder
  curSampleCount : estimator.common.curSampleCount = samples.length
  isInitialized : estimator.common.isInitialized = true
  coefficients : estimator.linearModel.coefficients =
    coefficientRows data.coefficients numLinkedSensors data.prevSamplesOrder
  size : estimator.linearModel.inputSamples.length = data.prevSamplesOrder
  ring : samples ≠ [] →
    Foundation.RingHolds data.prevSamplesOrder estimator.linearModel.inputSamples samples

section Runs

variable {data : LinearModelInitData} {numLinkedSensors : ℕ} {estimator : LinearModelEstimator}
  {samples : List (List ExactFloat)} {sample : List ExactFloat}

/-- What the initialization of a new estimator accepts, and its estimator. -/
theorem estimated_initialize
    (hinit : linearModelInitialize (LinearModelEstimator.create numLinkedSensors) data =
      (.ok, estimator)) :
    0 < data.prevSamplesOrder ∧ Estimated data numLinkedSensors [] estimator := by
  unfold linearModelInitialize at hinit
  dsimp only at hinit
  split at hinit
  · cases (Prod.mk.inj hinit).1
  · rename_i haccepted
    split at hinit
    · cases (Prod.mk.inj hinit).1
    · obtain ⟨-, rfl⟩ := Prod.mk.inj hinit
      push Not at haccepted
      refine ⟨Nat.pos_of_ne_zero haccepted.2.2, rfl, rfl, rfl, rfl, rfl, rfl, List.nil_append _, ?_,
        fun hne ↦ absurd rfl hne⟩
      exact List.length_replicate

theorem assignRow_eq_ok {rows : List (List ExactFloat)} {index : ℕ} (hindex : index < rows.length)
    (row : List ExactFloat) : assignRow rows index row = .ok (rows.set index row) := if_pos hindex

/-- The first sample is copied into the first rows, one after the other. -/
theorem seed_range {rows : List (List ExactFloat)} (sample : List ExactFloat) {n : ℕ}
    (hn : n ≤ rows.length) :
    (List.range n).foldlM (fun rows i ↦ assignRow rows i sample) rows =
      .ok (List.replicate n sample ++ rows.drop n) := by
  induction n with
  | zero => rfl
  | succ n ih =>
    rw [List.range_succ, List.foldlM_append, ih (by omega)]
    simp only [bind, Except.bind, List.foldlM_cons, List.foldlM_nil, pure, Except.pure]
    rw [assignRow_eq_ok (by simp; omega)]
    dsimp only
    apply congrArg Except.ok
    calc
      _ = List.replicate n sample ++ (rows.drop n).set 0 sample := by
        rw [List.set_append_right _ _ (by simp), List.length_replicate, Nat.sub_self]
      _ = List.replicate n sample ++ sample :: rows.drop (n + 1) := by
        rw [List.drop_eq_getElem_cons (by omega), List.set_cons_zero]
      _ = List.replicate (n + 1) sample ++ rows.drop (n + 1) := by
        rw [List.replicate_succ', List.append_assoc, List.singleton_append]

/-- The rows before the sample is written. -/
theorem Estimated.seedRows (h : Estimated data numLinkedSensors samples estimator)
    (sample : List ExactFloat) :
    ∃ rows, seedRows estimator.common estimator.linearModel.inputSamples sample = .ok rows ∧
      rows.length = data.prevSamplesOrder ∧
        (samples = [] → rows = List.replicate data.prevSamplesOrder sample) ∧
          (samples ≠ [] → Foundation.RingHolds data.prevSamplesOrder rows samples) := by
  unfold Thermal.seedRows
  rw [h.curSampleCount, h.order]
  by_cases hfirst : samples = []
  · subst hfirst
    rw [List.length_nil, if_pos rfl, seed_range sample h.size.ge,
      List.drop_of_length_le h.size.le, List.append_nil]
    exact ⟨_, rfl, List.length_replicate, fun _ ↦ rfl, fun hne ↦ absurd rfl hne⟩
  · rw [if_neg (List.length_pos_iff.mpr hfirst).ne']
    exact ⟨_, rfl, h.size, fun hnil ↦ absurd hnil hfirst, h.ring⟩

/-- The ring with one more sample. -/
theorem ringHolds_next {rows : List (List ExactFloat)} (horder : 0 < data.prevSamplesOrder)
    (hseeded : samples = [] → rows = List.replicate data.prevSamplesOrder sample)
    (hring : samples ≠ [] → Foundation.RingHolds data.prevSamplesOrder rows samples) :
    Foundation.RingHolds data.prevSamplesOrder (rows.set (samples.length % data.prevSamplesOrder) sample)
      (samples ++ [sample]) := by
  by_cases hfirst : samples = []
  · subst hfirst
    rw [hseeded rfl, List.length_nil, Nat.zero_mod, List.nil_append]
    have hsame : (List.replicate data.prevSamplesOrder sample).set 0 sample =
        List.replicate data.prevSamplesOrder sample := by
      obtain ⟨order, horder⟩ := Nat.exists_eq_succ_of_ne_zero horder.ne'
      rw [horder, List.replicate_succ, List.set_cons_zero]
    rw [hsame]
    exact ringHolds_seed horder sample
  · exact (hring hfirst).write hfirst sample

theorem windowSum_eq (data : LinearModelInitData) (numLinkedSensors : ℕ)
    (samples : List (List ExactFloat)) :
    windowSum data numLinkedSensors samples =
      ((List.range' 0 data.prevSamplesOrder).map (rowSum data numLinkedSensors samples)).sum := by
  rw [← List.range_eq_range']
  rfl

/-- One estimate, of the window that ends with its sample. -/
theorem Estimated.estimate (h : Estimated data numLinkedSensors samples estimator)
    (horder : 0 < data.prevSamplesOrder)
    (hoffsets : data.offsetThresholds.length = data.offsetValues.length)
    (hsizes : ∀ other ∈ samples ++ [sample], other.length = numLinkedSensors) :
    ∃ next, linearModelEstimate estimator sample =
        .ok (.ok, some [windowValue data numLinkedSensors (samples ++ [sample])], next) ∧
      Estimated data numLinkedSensors (samples ++ [sample]) next := by
  obtain ⟨rows, hrows, hsize, hseeded, hring⟩ := h.seedRows sample
  have hnext := ringHolds_next horder hseeded hring
  have hlength : sample.length = numLinkedSensors :=
    hsizes sample List.mem_append_cons_self
  have hne : samples ++ [sample] ≠ [] := List.append_ne_nil_of_right_ne_nil _ (List.cons_ne_nil _ _)
  have hindex : samples.length % data.prevSamplesOrder < rows.length :=
    (Nat.mod_lt _ horder).trans_eq hsize.symm
  have hsum : weightedSamples estimator.common { estimator.linearModel with
        inputSamples := rows.set (samples.length % data.prevSamplesOrder) sample }
      (List.range data.prevSamplesOrder) (samples.length % data.prevSamplesOrder : ℕ) 0 =
        .ok (windowSum data numLinkedSensors (samples ++ [sample])) := by
    have hlevel : samples.length % data.prevSamplesOrder =
        slotBack data.prevSamplesOrder (samples ++ [sample]).length 0 := by
      rw [List.length_append, List.length_singleton, slotBack_zero]
    rw [windowSum_eq, List.range_eq_range', hlevel, ← h.order, ← h.linked,
      weightedSamples_eq _ _ hne _ _ _ _ _ (Nat.zero_add _) fun _ ↦ rfl, zero_add]
    · rw [h.linked, h.order]
      exact h.coefficients
    · rw [h.order]
      exact hlevel ▸ hnext
    · rw [h.linked]
      exact hsizes
  let next : LinearModelEstimator :=
    { common := { estimator.common with
        offsetThresholds := data.offsetThresholds
        offsetValues := data.offsetValues
        prevSamplesOrder := data.prevSamplesOrder
        curSampleCount := samples.length + 1 }
      linearModel := { estimator.linearModel with
        inputSamples := rows.set (samples.length % data.prevSamplesOrder) sample } }
  refine ⟨next, ?_, ?_⟩
  · unfold linearModelEstimate
    rw [if_neg (by rw [h.linked]; exact not_not.mpr hlength),
      if_neg (by rw [h.isInitialized]; decide), hrows]
    simp only [bind, Except.bind]
    rw [h.curSampleCount, h.order, assignRow_eq_ok hindex]
    dsimp only
    rw [hsum]
    dsimp only
    rw [h.offsetThresholds, h.offsetValues, calculateOffset_eq hoffsets]
    rfl
  · exact
      { offsetThresholds := rfl
        offsetValues := rfl
        linked := h.linked
        order := rfl
        curSampleCount := by rw [List.length_append, List.length_singleton]
        isInitialized := h.isInitialized
        coefficients := h.coefficients
        size := List.length_set.trans hsize
        ring := fun _ ↦ hnext }

/-- The estimates for samples that come one after the other. -/
def estimateStep (estimator : LinearModelEstimator) (sample : List ExactFloat) :
    Option (LinearModelEstimator × List (LinearModelStatus × Option (List ExactFloat))) :=
  (linearModelEstimate estimator sample).toOption.map fun (status, output, next) ↦
    (next, [(status, output)])

/-- Every estimate of a sequence is the value of the window that ends with its sample. -/
theorem linearModelEstimate_window
    (hinit : linearModelInitialize (LinearModelEstimator.create numLinkedSensors) data =
      (.ok, estimator))
    (hoffsets : data.offsetThresholds.length = data.offsetValues.length)
    (hsizes : ∀ sample ∈ samples, sample.length = numLinkedSensors) :
    ∃ final, runSteps estimateStep estimator samples = some (final,
      (List.range samples.length).map fun n ↦
        (.ok, some [windowValue data numLinkedSensors (samples.take (n + 1))])) := by
  obtain ⟨horder, hstart⟩ := estimated_initialize hinit
  suffices h : ∃ final, runSteps estimateStep estimator samples = some (final,
      (List.range samples.length).map fun n ↦
        (.ok, some [windowValue data numLinkedSensors (samples.take (n + 1))])) ∧
      Estimated data numLinkedSensors samples final by
    obtain ⟨final, hrun, -⟩ := h
    exact ⟨final, hrun⟩
  induction samples using List.reverseRecOn with
  | nil => exact ⟨estimator, rfl, hstart⟩
  | append_singleton samples sample ih =>
    obtain ⟨before, hrun, hbefore⟩ := ih fun other hmem ↦ hsizes other (List.mem_append_left _ hmem)
    obtain ⟨next, hestimate, hnext⟩ := hbefore.estimate horder hoffsets hsizes
    have hstep : estimateStep before sample = some (next,
        [(.ok, some [windowValue data numLinkedSensors (samples ++ [sample])])]) := by
      unfold estimateStep
      rw [hestimate]
      rfl
    refine ⟨next, ?_, hnext⟩
    rw [runSteps_append_singleton estimateStep hrun hstep]
    congr 2
    rw [List.length_append, List.length_singleton, List.range_succ, List.map_append]
    congr 1
    · apply List.map_congr_left
      intro n hn
      have hle : n + 1 ≤ samples.length := List.mem_range.mp hn
      rw [List.take_append_of_le_length hle]
    · rw [List.map_singleton, List.take_of_length_le]
      rw [List.length_append, List.length_singleton]

end Runs

/-! ## Two samples of one sensor -/

/-- The latest sample counts for a half, and so does the one before; above ten there is an offset. -/
def halvesData : LinearModelInitData where
  coefficients := [.fin (1 / 2), .fin (1 / 2)]
  prevSamplesOrder := 2
  usePrevSamples := true
  offsetThresholds := [.fin 10]
  offsetValues := [.fin 1]

/-- Fourteen on average, and the offset. -/
example : windowValue halvesData 1 [[.fin 8], [.fin 20]] = .fin 15 := by decide +kernel

theorem halves_window : ∃ estimator final,
    linearModelInitialize (LinearModelEstimator.create 1) halvesData = (.ok, estimator) ∧
      runSteps estimateStep estimator [[.fin 8], [.fin 20]] = some (final,
        (List.range 2).map fun n ↦
          (.ok, some [windowValue halvesData 1 ([[.fin 8], [.fin 20]].take (n + 1))])) := by
  have hsizes : ∀ sample ∈ [[ExactFloat.fin 8], [.fin 20]], sample.length = 1 := by decide
  obtain ⟨final, hrun⟩ := linearModelEstimate_window
    (show linearModelInitialize (LinearModelEstimator.create 1) halvesData = (.ok, _) from rfl) rfl hsizes
  exact ⟨_, final, rfl, hrun⟩

end HardwareMediatek.Thermal
