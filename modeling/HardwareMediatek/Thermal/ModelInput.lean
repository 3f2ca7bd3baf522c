import HardwareMediatek.Foundation.EffectRuns
import HardwareMediatek.Thermal.SensorStatus

/-!
# The input of a machine-learning model

A virtual sensor keeps its last samples in a ring buffer and hands them to a model, oldest first. A
sample at index 0 of the ring is copied to all other slots when fewer samples are allowed. The index
returns to 0 in the middle of a sequence of samples.
-/

namespace HardwareMediatek.Thermal

open Foundation

structure InputRangeInfo where
  minThreshold : ExactFloat
  maxThreshold : ExactFloat

/-- What `TFliteInitialize` sets. There is a range for every linked sensor. -/
structure TFliteConfig where
  numLinkedSensors : ℕ
  prevSamplesOrder : ℕ
  usePrevSamples : Bool
  supportUnderSampling : Bool
  enableInputValidation : Bool
  inputRange : ℕ → InputRangeInfo
  maxSampleInterval : ℤ

/-- The fields that one call leaves to the next. -/
structure TFliteState where
  curSampleCount : ℕ
  prevSampleTime : ℤ
  inputBuffer : ℕ → ExactFloat

/-- The arguments of a call, the two readings of the clock, and the answer of the model. -/
structure EstimateCall where
  thermistors : List ExactFloat
  hasOutput : Bool
  now : ℤ
  sampleTime : ℤ
  invokeResult : ℤ

inductive VtEstimatorStatus where
  | ok
  | invalidArgs
  | lowConfidence
  | underSampling
  | invokeFailed
deriving DecidableEq, Repr

/-- The input is there when the model was invoked. -/
structure EstimateResult where
  state : TFliteState
  status : VtEstimatorStatus
  modelInput : Option (List ExactFloat)

/-- The value is refused by the validation of the inputs. -/
def TFliteConfig.outOfRange (config : TFliteConfig) (i : ℕ) (value : ExactFloat) : Bool :=
  config.enableInputValidation &&
    (value < (config.inputRange i).minThreshold || (config.inputRange i).maxThreshold < value)

/-- Fill previous samples. -/
def fillPrevious (config : TFliteConfig) (i : ℕ) (value : ExactFloat)
    (inputBuffer : ℕ → ExactFloat) : ℕ → ExactFloat :=
  (List.range' 1 (config.prevSamplesOrder - 1)).foldl
    (fun inputBuffer j ↦ Function.update inputBuffer (j * config.numLinkedSensors + i) value)
    inputBuffer

/-- The loop over the linked sensors, and whether it has come to its end. -/
def copySamples (config : TFliteConfig) (curSampleIndex : ℕ) :
    List (ExactFloat × ℕ) → (ℕ → ExactFloat) → (ℕ → ExactFloat) × Bool
  | [], inputBuffer => (inputBuffer, true)
  | (value, i) :: rest, inputBuffer =>
    if config.outOfRange i value then (inputBuffer, false)
    else
      let inputBuffer :=
        Function.update inputBuffer (curSampleIndex * config.numLinkedSensors + i) value
      copySamples config curSampleIndex rest
        (if curSampleIndex = 0 ∧ config.supportUnderSampling then
          fillPrevious config i value inputBuffer
        else inputBuffer)

/-- The buffer as it is, or from the slot after the current one. -/
def prepareInput (config : TFliteConfig) (curSampleIndex : ℕ) (inputBuffer : ℕ → ExactFloat) :
    List ExactFloat :=
  let inputBufferSize := config.numLinkedSensors * config.prevSamplesOrder
  if config.usePrevSamples then
    let sampleStartIndex := ((curSampleIndex + 1) * config.numLinkedSensors) % inputBufferSize
    (List.range inputBufferSize).map fun i ↦ inputBuffer ((sampleStartIndex + i) % inputBufferSize)
  else (List.range inputBufferSize).map inputBuffer

/-- `TFliteEstimate` of an initialized model, up to the call of the model. -/
def tfliteEstimate (config : TFliteConfig) (state : TFliteState) (call : EstimateCall) :
    EstimateResult :=
  if call.thermistors.length ≠ config.numLinkedSensors ∨ call.hasOutput = false then
    ⟨state, .invalidArgs, none⟩
  else
    let curSampleCount :=
      if config.maxSampleInterval ≤ elapsedMs call.now state.prevSampleTime then 0
      else state.curSampleCount
    let curSampleIndex := curSampleCount % config.prevSamplesOrder
    let copied := copySamples config curSampleIndex call.thermistors.zipIdx state.inputBuffer
    if copied.2 then
      let state : TFliteState := ⟨curSampleCount + 1, call.sampleTime, copied.1⟩
      if state.curSampleCount < config.prevSamplesOrder ∧ config.supportUnderSampling = false then
        ⟨state, .underSampling, none⟩
      else
        ⟨state, if call.invokeResult = 0 then .ok else .invokeFailed,
          some (prepareInput config curSampleIndex state.inputBuffer)⟩
    else ⟨{ state with curSampleCount := 0, inputBuffer := copied.1 }, .lowConfidence, none⟩

/-! ## The true history -/

/-- The samples accepted since the last reset, and the time of the last one accepted. -/
structure SampleHistory where
  samples : List (List ExactFloat)
  lastTime : ℤ

/-- A stale gap resets the history, and so does a sample that is out of range. -/
def SampleHistory.record (config : TFliteConfig) (history : SampleHistory) (call : EstimateCall) :
    SampleHistory :=
  if call.thermistors.length ≠ config.numLinkedSensors ∨ call.hasOutput = false then history
  else
    let samples :=
      if config.maxSampleInterval ≤ elapsedMs call.now history.lastTime then [] else history.samples
    if call.thermistors.zipIdx.any fun sample ↦ config.outOfRange sample.2 sample.1 then
      { history with samples := [] }
    else ⟨samples ++ [call.thermistors], call.sampleTime⟩

/-- The last samples of a history, padded on the left with the first one. -/
def paddedHistory (order : ℕ) (samples : List (List ExactFloat)) : List (List ExactFloat) :=
  List.replicate (order - samples.length) (samples.headD []) ++
    samples.drop (samples.length - order)

/-! ## The slots of the buffer -/

theorem slotIndex_inj {n j j' i i' : ℕ} (hi : i < n) (hi' : i' < n) :
    j * n + i = j' * n + i' ↔ j = j' ∧ i = i' := by
  apply Iff.intro
  · intro hsame
    have hleft : j = j' := by
      calc
        j = (j * n + i) / n := by rw [Nat.mul_comm, Nat.mul_add_div (by omega), Nat.div_eq_of_lt hi, add_zero]
        _ = (j' * n + i') / n := by rw [hsame]
        _ = j' := by rw [Nat.mul_comm, Nat.mul_add_div (by omega), Nat.div_eq_of_lt hi', add_zero]
    rw [hleft] at hsame
    exact ⟨hleft, Nat.add_left_cancel hsame⟩
  · intro hboth
    rw [hboth.1, hboth.2]

/-- The slots that the current sample is written to. -/
def TFliteConfig.Writes (config : TFliteConfig) (curSampleIndex slot : ℕ) : Prop :=
  slot = curSampleIndex ∨ curSampleIndex = 0 ∧ config.supportUnderSampling = true

instance (config : TFliteConfig) (curSampleIndex slot : ℕ) :
    Decidable (config.Writes curSampleIndex slot) :=
  inferInstanceAs (Decidable (_ ∨ _))

section Slots

variable {config : TFliteConfig} {curSampleIndex slot i i' : ℕ} {value : ExactFloat}
  {inputBuffer : ℕ → ExactFloat}

theorem update_slot (hi : i < config.numLinkedSensors) (hi' : i' < config.numLinkedSensors) (j : ℕ)
    (inputBuffer : ℕ → ExactFloat) :
    Function.update inputBuffer (j * config.numLinkedSensors + i) value
        (slot * config.numLinkedSensors + i') =
      if slot = j ∧ i' = i then value else inputBuffer (slot * config.numLinkedSensors + i') := by
  rw [Function.update_apply]
  exact if_congr (slotIndex_inj hi' hi) rfl rfl

theorem foldl_update_slots (hi : i < config.numLinkedSensors) (hi' : i' < config.numLinkedSensors)
    (slots : List ℕ) (inputBuffer : ℕ → ExactFloat) :
    slots.foldl (fun inputBuffer j ↦
        Function.update inputBuffer (j * config.numLinkedSensors + i) value) inputBuffer
        (slot * config.numLinkedSensors + i') =
      if i' = i ∧ slot ∈ slots then value
      else inputBuffer (slot * config.numLinkedSensors + i') := by
  induction slots generalizing inputBuffer with
  | nil => rw [List.foldl_nil, if_neg fun hboth ↦ List.not_mem_nil hboth.2]
  | cons j rest ih =>
    rw [List.foldl_cons, ih, update_slot hi hi']
    by_cases hlater : i' = i ∧ slot ∈ rest
    · rw [if_pos hlater, if_pos ⟨hlater.1, List.mem_cons_of_mem _ hlater.2⟩]
    · rw [if_neg hlater]
      apply if_congr _ rfl rfl
      rw [List.mem_cons]
      tauto

/-- One round of the loop writes one value of the sample to its slots. -/
theorem copySample_slot (hi : i < config.numLinkedSensors) (hi' : i' < config.numLinkedSensors)
    (hslot : slot < config.prevSamplesOrder) :
    (if curSampleIndex = 0 ∧ config.supportUnderSampling then
        fillPrevious config i value
          (Function.update inputBuffer (curSampleIndex * config.numLinkedSensors + i) value)
      else Function.update inputBuffer (curSampleIndex * config.numLinkedSensors + i) value)
        (slot * config.numLinkedSensors + i') =
      if i' = i ∧ config.Writes curSampleIndex slot then value
      else inputBuffer (slot * config.numLinkedSensors + i') := by
  by_cases hfills : curSampleIndex = 0 ∧ config.supportUnderSampling = true
  · rw [if_pos hfills]
    unfold fillPrevious
    rw [foldl_update_slots hi hi', update_slot hi hi']
    by_cases hprevious : i' = i ∧ slot ∈ List.range' 1 (config.prevSamplesOrder - 1)
    · rw [if_pos hprevious, if_pos ⟨hprevious.1, Or.inr hfills⟩]
    · rw [if_neg hprevious]
      apply if_congr _ rfl rfl
      apply Iff.intro
      · intro hcurrent
        exact ⟨hcurrent.2, Or.inl hcurrent.1⟩
      · intro hwrites
        rw [List.mem_range'_1] at hprevious
        exact ⟨by omega, hwrites.1⟩
  · rw [if_neg hfills, update_slot hi hi']
    apply if_congr _ rfl rfl
    unfold TFliteConfig.Writes
    rw [or_iff_left hfills]
    exact and_comm

/-- The loop over the linked sensors writes the sample, unless a value is out of range. -/
theorem copySamples_slots (hslot : slot < config.prevSamplesOrder) (hi : i < config.numLinkedSensors)
    {rest : List ExactFloat} {start : ℕ} (hlength : start + rest.length = config.numLinkedSensors)
    (hrange : ¬ (rest.zipIdx start).any (fun sample ↦ config.outOfRange sample.2 sample.1) = true) :
    (copySamples config curSampleIndex (rest.zipIdx start) inputBuffer).1
        (slot * config.numLinkedSensors + i) =
      if start ≤ i ∧ config.Writes curSampleIndex slot then rest.getD (i - start) .nan
      else inputBuffer (slot * config.numLinkedSensors + i) := by
  induction rest generalizing start inputBuffer with
  | nil =>
    rw [List.length_nil] at hlength
    rw [if_neg fun hboth ↦ by omega]
    rfl
  | cons value rest ih =>
    rw [List.length_cons] at hlength
    rw [List.zipIdx_cons, List.any_cons, Bool.or_eq_true, not_or] at hrange
    rw [List.zipIdx_cons]
    unfold copySamples
    rw [if_neg hrange.1, ih (by omega) hrange.2, copySample_slot (by omega) hi hslot]
    by_cases hwrites : config.Writes curSampleIndex slot
    · by_cases hlater : start + 1 ≤ i
      · rw [if_pos ⟨hlater, hwrites⟩, if_pos ⟨by omega, hwrites⟩,
          show i - start = i - (start + 1) + 1 by omega, List.getD_cons_succ]
      · rw [if_neg fun hboth ↦ hlater hboth.1]
        by_cases hsame : i = start
        · rw [if_pos ⟨hsame, hwrites⟩, if_pos ⟨by omega, hwrites⟩, hsame, Nat.sub_self,
            List.getD_cons_zero]
        · rw [if_neg fun hboth ↦ hsame hboth.1, if_neg fun hboth ↦ by omega]
    · rw [if_neg fun hboth ↦ hwrites hboth.2, if_neg fun hboth ↦ hwrites hboth.2,
        if_neg fun hboth ↦ hwrites hboth.2]

theorem copySamples_ends (samples : List (ExactFloat × ℕ)) (inputBuffer : ℕ → ExactFloat) :
    (copySamples config curSampleIndex samples inputBuffer).2 =
      !samples.any fun sample ↦ config.outOfRange sample.2 sample.1 := by
  induction samples generalizing inputBuffer with
  | nil => rfl
  | cons sample rest ih =>
    unfold copySamples
    rw [List.any_cons]
    by_cases hout : config.outOfRange sample.2 sample.1 = true
    · rw [if_pos hout, hout]
      rfl
    · rw [if_neg hout, ih, Bool.eq_false_of_not_eq_true hout, Bool.false_or]

end Slots

/-! ## The buffer as a ring of samples -/

/-- The sample in a slot. -/
def slotSample (config : TFliteConfig) (inputBuffer : ℕ → ExactFloat) (slot : ℕ) : List ExactFloat :=
  (List.range config.numLinkedSensors).map fun i ↦ inputBuffer (slot * config.numLinkedSensors + i)

section Ring

variable {config : TFliteConfig} {inputBuffer : ℕ → ExactFloat} {curSampleIndex slot : ℕ}

theorem slotSample_copySamples {sample : List ExactFloat} (hslot : slot < config.prevSamplesOrder)
    (hlength : sample.length = config.numLinkedSensors)
    (hrange : ¬ sample.zipIdx.any (fun entry ↦ config.outOfRange entry.2 entry.1) = true) :
    slotSample config (copySamples config curSampleIndex sample.zipIdx inputBuffer).1 slot =
      if config.Writes curSampleIndex slot then sample else slotSample config inputBuffer slot := by
  have hentry : ∀ i < config.numLinkedSensors,
      (copySamples config curSampleIndex sample.zipIdx inputBuffer).1
          (slot * config.numLinkedSensors + i) =
        if config.Writes curSampleIndex slot then sample.getD i .nan
        else inputBuffer (slot * config.numLinkedSensors + i) := by
    intro i hi
    rw [copySamples_slots hslot hi (by omega) hrange]
    exact if_congr (and_iff_right (Nat.zero_le i)) rfl rfl
  unfold slotSample
  by_cases hwrites : config.Writes curSampleIndex slot
  · rw [if_pos hwrites, ← hlength]
    apply List.ext_getElem
    · rw [List.length_map, List.length_range]
    · intro i hi hi'
      rw [List.getElem_map, List.getElem_range, hlength, hentry i (by omega), if_pos hwrites,
        List.getD_eq_getElem _ _ hi']
  · rw [if_neg hwrites]
    apply List.map_congr_left
    intro i hi
    rw [hentry i (List.mem_range.mp hi), if_neg hwrites]

/-- A range of a multiple is read in blocks. -/
theorem map_range_mul {α : Type} (f : ℕ → α) (n order : ℕ) :
    (List.range (n * order)).map f =
      ((List.range order).map fun j ↦ (List.range n).map fun i ↦ f (j * n + i)).flatten := by
  induction order with
  | zero => rfl
  | succ order ih =>
    calc
      _ = (List.range (n * order)).map f ++ (List.range n).map fun i ↦ f (n * order + i) := by
        rw [Nat.mul_succ, List.range_add, List.map_append, List.map_map]
        rfl
      _ = ((List.range order).map fun j ↦ (List.range n).map fun i ↦ f (j * n + i)).flatten ++
          (List.range n).map fun i ↦ f (order * n + i) := by
        rw [ih, Nat.mul_comm n order]
      _ = ((List.range (order + 1)).map fun j ↦ (List.range n).map fun i ↦ f (j * n + i)).flatten := by
        rw [List.range_succ, List.map_append, List.flatten_append, List.map_singleton,
          List.flatten_singleton]

theorem add_mul_mod {n order a i : ℕ} (hi : i < n) (horder : 0 < order) :
    (a * n + i) % (n * order) = a % order * n + i := by
  have hbound : a % order * n + i < n * order := by
    calc
      a % order * n + i < a % order * n + n := by omega
      _ = (a % order + 1) * n := by ring
      _ ≤ order * n := Nat.mul_le_mul_right n (Nat.mod_lt a horder)
      _ = n * order := Nat.mul_comm order n
  calc
    (a * n + i) % (n * order) = (a % order * n + i + n * order * (a / order)) % (n * order) := by
      apply congrArg (· % (n * order))
      calc
        a * n + i = (order * (a / order) + a % order) * n + i := by rw [Nat.div_add_mod]
        _ = a % order * n + i + n * order * (a / order) := by ring
    _ = (a % order * n + i) % (n * order) := Nat.add_mul_mod_self_left _ _ _
    _ = a % order * n + i := Nat.mod_eq_of_lt hbound

/-- The input is the ring, read from the slot after the current one. -/
theorem prepareInput_eq (huse : config.usePrevSamples = true) (horder : 0 < config.prevSamplesOrder) :
    prepareInput config curSampleIndex inputBuffer =
      ((List.range config.prevSamplesOrder).map fun j ↦
        slotSample config inputBuffer ((curSampleIndex + 1 + j) % config.prevSamplesOrder)).flatten := by
  unfold prepareInput
  rw [if_pos huse, map_range_mul]
  apply congrArg
  apply List.map_congr_left
  intro j _
  apply List.map_congr_left
  intro i hi
  apply congrArg
  rw [Nat.mod_add_mod, ← add_mul_mod (List.mem_range.mp hi) horder]
  apply congrArg (· % _)
  ring

/-- Lists of equally long samples are told apart by what they hold. -/
theorem flatten_inj {α : Type} {n : ℕ} {left right : List (List α)}
    (hleft : ∀ sample ∈ left, sample.length = n) (hright : ∀ sample ∈ right, sample.length = n)
    (hlength : left.length = right.length) (hsame : left.flatten = right.flatten) : left = right := by
  induction left generalizing right with
  | nil => exact (List.length_eq_zero_iff.mp hlength.symm).symm
  | cons first rest ih =>
    cases right with
    | nil => cases hlength
    | cons first' rest' =>
      rw [List.flatten_cons, List.flatten_cons] at hsame
      have hfirst : first.length = first'.length := by
        rw [hleft first List.mem_cons_self, hright first' List.mem_cons_self]
      have hboth := List.append_inj hsame hfirst
      rw [hboth.1, ih (fun sample hin ↦ hleft sample (List.mem_cons_of_mem _ hin))
        (fun sample hin ↦ hright sample (List.mem_cons_of_mem _ hin))
        (Nat.succ.inj hlength) hboth.2]

theorem length_slotSample (config : TFliteConfig) (inputBuffer : ℕ → ExactFloat) (slot : ℕ) :
    (slotSample config inputBuffer slot).length = config.numLinkedSensors := by
  unfold slotSample
  rw [List.length_map, List.length_range]

end Ring

section Padded

variable (order : ℕ) (samples : List (List ExactFloat))

theorem length_paddedHistory : (paddedHistory order samples).length = order := by
  unfold paddedHistory
  rw [List.length_append, List.length_replicate, List.length_drop]
  omega

/-- Counting back from the end stops at the first sample. -/
theorem getD_paddedHistory (j : ℕ) :
    (paddedHistory order samples).getD j [] = samples.getD (samples.length + j - order) [] := by
  unfold paddedHistory
  by_cases hpadding : j < order - samples.length
  · have hfirst : samples.length + j - order = 0 := by omega
    rw [List.getD_append _ _ _ _ (by rwa [List.length_replicate]), List.getD_replicate _ hpadding,
      hfirst]
    cases samples with
    | nil => rfl
    | cons first rest => rfl
  · rw [List.getD_append_right _ _ _ _ (by rw [List.length_replicate]; omega),
      List.length_replicate, List.getD_eq_getElem?_getD, List.getD_eq_getElem?_getD,
      List.getElem?_drop]
    congr 2
    omega

theorem mem_of_mem_paddedHistory {sample : List ExactFloat} (hne : samples ≠ [])
    (hin : sample ∈ paddedHistory order samples) : sample ∈ samples := by
  unfold paddedHistory at hin
  apply Or.elim (List.mem_append.mp hin)
  · intro hpadding
    rw [List.eq_of_mem_replicate hpadding]
    cases samples with
    | nil => exact absurd rfl hne
    | cons first rest => exact List.mem_cons_self
  · exact List.mem_of_mem_drop

/-- A list of as many samples is the padded history if it agrees with it everywhere. -/
theorem map_range_eq_paddedHistory_iff (f : ℕ → List ExactFloat) :
    (List.range order).map f = paddedHistory order samples ↔
      ∀ j < order, f j = samples.getD (samples.length + j - order) [] := by
  apply Iff.intro
  · intro hsame j hj
    have hmapped : j < ((List.range order).map f).length := by
      rwa [List.length_map, List.length_range]
    rw [← getD_paddedHistory order samples j, ← hsame, List.getD_eq_getElem _ _ hmapped,
      List.getElem_map, List.getElem_range]
  · intro hall
    apply List.ext_getElem
    · rw [List.length_map, List.length_range, length_paddedHistory]
    · intro j _ hj'
      rw [length_paddedHistory] at hj'
      rw [List.getElem_map, List.getElem_range, hall j hj', ← getD_paddedHistory order samples j,
        List.getD_eq_getElem]

end Padded

/-! ## What the ring holds -/

/-- The first sample whose slot holds it still. -/
def firstInPlace (config : TFliteConfig) (count : ℕ) : ℕ :=
  if config.supportUnderSampling then (count - 1) / config.prevSamplesOrder * config.prevSamplesOrder
  else count - config.prevSamplesOrder

/-- The ring after some samples. With fewer samples allowed, the slots after the current one hold the
last sample at index 0. -/
structure RingHolds (config : TFliteConfig) (samples : List (List ExactFloat)) (state : TFliteState) :
    Prop where
  count : state.curSampleCount = samples.length
  lengths : ∀ sample ∈ samples, sample.length = config.numLinkedSensors
  recent : ∀ m < samples.length, firstInPlace config samples.length ≤ m →
    slotSample config state.inputBuffer (m % config.prevSamplesOrder) = samples.getD m []
  filled : config.supportUnderSampling = true → samples ≠ [] → ∀ slot < config.prevSamplesOrder,
    (samples.length - 1) % config.prevSamplesOrder < slot →
      slotSample config state.inputBuffer slot =
        samples.getD ((samples.length - 1) / config.prevSamplesOrder * config.prevSamplesOrder) []

/-- The samples among the last ones that were taken before the ring index was last 0 are all the same
as the one taken there. -/
def InPlace (config : TFliteConfig) (samples : List (List ExactFloat)) : Prop :=
  config.supportUnderSampling = true →
    ∀ m, samples.length ≤ m + config.prevSamplesOrder →
      m < (samples.length - 1) / config.prevSamplesOrder * config.prevSamplesOrder →
        samples.getD m [] =
          samples.getD ((samples.length - 1) / config.prevSamplesOrder * config.prevSamplesOrder) []

theorem pred_div_mod {count order : ℕ} (horder : 0 < order) (hne : count % order ≠ 0) :
    (count - 1) / order = count / order ∧ (count - 1) % order = count % order - 1 := by
  have hsplit := Nat.mod_add_div count order
  have hlt := Nat.mod_lt count horder
  rw [Nat.div_mod_unique horder]
  omega

section RingHolds

variable {config : TFliteConfig} {samples : List (List ExactFloat)} {state : TFliteState}
  {sample : List ExactFloat}

theorem RingHolds.empty (hcount : state.curSampleCount = 0) : RingHolds config [] state where
  count := hcount
  lengths _ hin := absurd hin List.not_mem_nil
  recent _ hm := absurd hm (Nat.not_lt_zero _)
  filled _ hne := absurd rfl hne

theorem getD_concat_of_lt {m : ℕ} (hm : m < samples.length) :
    (samples ++ [sample]).getD m [] = samples.getD m [] :=
  List.getD_append _ _ _ _ hm

theorem getD_concat_length : (samples ++ [sample]).getD samples.length [] = sample := by
  rw [List.getD_append_right _ _ _ _ le_rfl, Nat.sub_self, List.getD_cons_zero]

/-- The next sample enters the ring. -/
theorem RingHolds.push (h : RingHolds config samples state) (horder : 0 < config.prevSamplesOrder)
    (hlength : sample.length = config.numLinkedSensors)
    (hrange : ¬ sample.zipIdx.any (fun entry ↦ config.outOfRange entry.2 entry.1) = true)
    (sampleTime : ℤ) :
    RingHolds config (samples ++ [sample])
      ⟨samples.length + 1, sampleTime, (copySamples config
        (samples.length % config.prevSamplesOrder) sample.zipIdx state.inputBuffer).1⟩ := by
  have hslot : ∀ slot < config.prevSamplesOrder, slotSample config (copySamples config
      (samples.length % config.prevSamplesOrder) sample.zipIdx state.inputBuffer).1 slot =
        if config.Writes (samples.length % config.prevSamplesOrder) slot then sample
        else slotSample config state.inputBuffer slot :=
    fun slot hslot ↦ slotSample_copySamples hslot hlength hrange
  have hsplit := Nat.mod_add_div samples.length config.prevSamplesOrder
  have hcomm := Nat.mul_comm (samples.length / config.prevSamplesOrder) config.prevSamplesOrder
  have hmod := Nat.mod_lt samples.length horder
  apply RingHolds.mk
  · rw [List.length_append, List.length_singleton]
  · intro sample' hin
    apply Or.elim (List.mem_append.mp hin)
    · exact h.lengths sample'
    · intro hlast
      rw [List.mem_singleton.mp hlast]
      exact hlength
  · intro m hm hfirst
    rw [List.length_append, List.length_singleton] at hm hfirst
    rw [hslot _ (Nat.mod_lt m horder)]
    by_cases hlast : m = samples.length
    · rw [hlast, getD_concat_length]
      exact if_pos (Or.inl rfl)
    · have hlt : m < samples.length := by omega
      have hkept : ¬ config.Writes (samples.length % config.prevSamplesOrder)
          (m % config.prevSamplesOrder) ∧ firstInPlace config samples.length ≤ m := by
        unfold firstInPlace at hfirst ⊢
        unfold TFliteConfig.Writes
        by_cases hsupport : config.supportUnderSampling = true
        · rw [if_pos hsupport, Nat.add_sub_cancel] at hfirst
          have hne : samples.length % config.prevSamplesOrder ≠ 0 := by omega
          have hpred := pred_div_mod horder hne
          have hblock : m / config.prevSamplesOrder = samples.length / config.prevSamplesOrder ∧
              m % config.prevSamplesOrder =
                m - samples.length / config.prevSamplesOrder * config.prevSamplesOrder := by
            rw [Nat.div_mod_unique horder]
            omega
          rw [if_pos hsupport, hpred.1]
          omega
        · rw [if_neg hsupport] at hfirst ⊢
          apply And.intro
          · intro hwrites
            have hsame := hwrites.resolve_right fun hboth ↦ hsupport hboth.2
            have hdvd := Nat.dvd_of_mod_eq_zero (Nat.sub_mod_eq_zero_of_mod_eq hsame.symm)
            have hle := Nat.le_of_dvd (by omega) hdvd
            omega
          · omega
      rw [if_neg hkept.1, getD_concat_of_lt hlt]
      exact h.recent m hlt hkept.2
  · intro hsupport _ slot hslotLt hafter
    rw [List.length_append, List.length_singleton, Nat.add_sub_cancel] at hafter ⊢
    rw [hslot slot hslotLt]
    by_cases hzero : samples.length % config.prevSamplesOrder = 0
    · have hlast : samples.length / config.prevSamplesOrder * config.prevSamplesOrder =
          samples.length := by omega
      rw [hlast, getD_concat_length]
      exact if_pos (Or.inr ⟨hzero, hsupport⟩)
    · have hpred := pred_div_mod horder hzero
      have hne : samples ≠ [] := by
        intro hempty
        rw [hempty] at hzero
        exact hzero (Nat.zero_mod _)
      have hnot : ¬ config.Writes (samples.length % config.prevSamplesOrder) slot := by
        intro hwrites
        apply Or.elim hwrites
        · omega
        · exact fun hboth ↦ hzero hboth.1
      rw [if_neg hnot, getD_concat_of_lt (by omega), h.filled hsupport hne slot hslotLt (by omega),
        hpred.1]

/-- A position of the unrolled ring holds its sample, if the sample is in place or was padded. -/
theorem RingHolds.position (h : RingHolds config samples state) (hne : samples ≠ [])
    (henough : config.supportUnderSampling = false → config.prevSamplesOrder ≤ samples.length)
    {j : ℕ} (hj : j < config.prevSamplesOrder) :
    slotSample config state.inputBuffer
        (((samples.length - 1) % config.prevSamplesOrder + 1 + j) % config.prevSamplesOrder) =
      if config.supportUnderSampling = true ∧ samples.length + j - config.prevSamplesOrder <
          (samples.length - 1) / config.prevSamplesOrder * config.prevSamplesOrder then
        samples.getD ((samples.length - 1) / config.prevSamplesOrder * config.prevSamplesOrder) []
      else samples.getD (samples.length + j - config.prevSamplesOrder) [] := by
  have hpos : 0 < samples.length := List.length_pos_iff.mpr hne
  have hsplit := Nat.mod_add_div (samples.length - 1) config.prevSamplesOrder
  have hcomm := Nat.mul_comm ((samples.length - 1) / config.prevSamplesOrder) config.prevSamplesOrder
  have hmod := Nat.mod_lt (samples.length - 1) (by omega : 0 < config.prevSamplesOrder)
  by_cases hpadding : samples.length + j < config.prevSamplesOrder
  · -- fewer samples than slots: the index has never returned to 0
    have hsupport : config.supportUnderSampling = true := by
      rw [← Bool.not_eq_false]
      intro hoff
      have hfull := henough hoff
      omega
    have hsmall : (samples.length - 1) % config.prevSamplesOrder = samples.length - 1 :=
      Nat.mod_eq_of_lt (by omega)
    have hblock : (samples.length - 1) / config.prevSamplesOrder = 0 :=
      Nat.div_eq_of_lt (by omega)
    have hslot : (samples.length - 1 + 1 + j) % config.prevSamplesOrder = samples.length + j := by
      rw [Nat.sub_add_cancel hpos]
      exact Nat.mod_eq_of_lt hpadding
    have hfilled := h.filled hsupport hne (samples.length + j) hpadding (by omega)
    rw [hblock, Nat.zero_mul] at hfilled ⊢
    rw [hsmall, hslot, hfilled, if_neg fun hboth ↦ Nat.not_lt_zero _ hboth.2]
    congr 1
    omega
  · have hslot : ((samples.length - 1) % config.prevSamplesOrder + 1 + j) %
        config.prevSamplesOrder = (samples.length + j - config.prevSamplesOrder) %
          config.prevSamplesOrder := by
      rw [Nat.add_assoc, Nat.mod_add_mod, ← Nat.mod_eq_sub_mod (by omega)]
      congr 1
      omega
    rw [hslot]
    by_cases hbefore : config.supportUnderSampling = true ∧
        samples.length + j - config.prevSamplesOrder <
          (samples.length - 1) / config.prevSamplesOrder * config.prevSamplesOrder
    · rw [if_pos hbefore]
      apply h.filled hbefore.1 hne _ (Nat.mod_lt _ (by omega))
      -- the sample belongs to the block before the current one
      have hblock : (samples.length + j - config.prevSamplesOrder) / config.prevSamplesOrder =
            (samples.length - 1) / config.prevSamplesOrder - 1 ∧
          (samples.length + j - config.prevSamplesOrder) % config.prevSamplesOrder =
            (samples.length - 1) % config.prevSamplesOrder + 1 + j := by
        have hprev : config.prevSamplesOrder * ((samples.length - 1) / config.prevSamplesOrder - 1) =
            config.prevSamplesOrder * ((samples.length - 1) / config.prevSamplesOrder) -
              config.prevSamplesOrder := by
          rw [Nat.mul_sub, Nat.mul_one]
        rw [Nat.div_mod_unique (by omega)]
        have hblocks : config.prevSamplesOrder ≤
            config.prevSamplesOrder * ((samples.length - 1) / config.prevSamplesOrder) := by
          apply Nat.le_mul_of_pos_right
          apply Nat.pos_of_ne_zero
          intro hzero
          rw [hzero] at hbefore
          omega
        omega
      omega
    · rw [if_neg hbefore]
      apply h.recent _ (by omega)
      unfold firstInPlace
      by_cases hsupport : config.supportUnderSampling = true
      · rw [if_pos hsupport]
        have hin := not_and.mp hbefore hsupport
        omega
      · rw [if_neg hsupport]
        omega

/-- The unrolled ring is the padded history if and only if the samples are in place. -/
theorem RingHolds.prepareInput_iff (h : RingHolds config samples state)
    (huse : config.usePrevSamples = true) (horder : 0 < config.prevSamplesOrder)
    (hne : samples ≠ [])
    (henough : config.supportUnderSampling = false → config.prevSamplesOrder ≤ samples.length) :
    prepareInput config ((samples.length - 1) % config.prevSamplesOrder) state.inputBuffer =
        (paddedHistory config.prevSamplesOrder samples).flatten ↔ InPlace config samples := by
  have hflatten : prepareInput config ((samples.length - 1) % config.prevSamplesOrder)
        state.inputBuffer = (paddedHistory config.prevSamplesOrder samples).flatten ↔
      ∀ j < config.prevSamplesOrder, slotSample config state.inputBuffer
        (((samples.length - 1) % config.prevSamplesOrder + 1 + j) % config.prevSamplesOrder) =
          samples.getD (samples.length + j - config.prevSamplesOrder) [] := by
    rw [prepareInput_eq huse horder, ← map_range_eq_paddedHistory_iff]
    apply Iff.intro
    · intro hsame
      apply flatten_inj _ _ _ hsame
      · exact config.numLinkedSensors
      · intro sample hin
        obtain ⟨j, hj⟩ := List.mem_map.mp hin
        rw [← hj.2]
        exact length_slotSample _ _ _
      · intro sample hin
        apply h.lengths sample
        exact mem_of_mem_paddedHistory _ _ hne hin
      · rw [List.length_map, List.length_range, length_paddedHistory]
    · intro hsame
      rw [hsame]
  rw [hflatten]
  unfold InPlace
  apply Iff.intro
  · intro hall hsupport m hlast hm
    have hj : m + config.prevSamplesOrder - samples.length < config.prevSamplesOrder := by
      have hle := Nat.div_mul_le_self (samples.length - 1) config.prevSamplesOrder
      omega
    have hindex : samples.length + (m + config.prevSamplesOrder - samples.length) -
        config.prevSamplesOrder = m := by omega
    have hposition := h.position hne henough hj
    rw [hall _ hj, hindex, if_pos ⟨hsupport, hm⟩] at hposition
    exact hposition
  · intro hplace j hj
    rw [h.position hne henough hj]
    by_cases hbefore : config.supportUnderSampling = true ∧
        samples.length + j - config.prevSamplesOrder <
          (samples.length - 1) / config.prevSamplesOrder * config.prevSamplesOrder
    · rw [if_pos hbefore]
      exact (hplace hbefore.1 _ (by omega) hbefore.2).symm
    · rw [if_neg hbefore]

end RingHolds

/-! ## Runs of calls -/

/-- The sample of a call is taken: the arguments are valid and the values are in range. -/
def TFliteConfig.Accepts (config : TFliteConfig) (call : EstimateCall) : Prop :=
  call.thermistors.length = config.numLinkedSensors ∧ call.hasOutput = true ∧
    ¬ call.thermistors.zipIdx.any (fun sample ↦ config.outOfRange sample.2 sample.1) = true

def stateAfter (config : TFliteConfig) (init : TFliteState) (calls : List EstimateCall) : TFliteState :=
  calls.foldl (fun state call ↦ (tfliteEstimate config state call).state) init

/-- The samples accepted since the last reset. -/
def historyAfter (config : TFliteConfig) (init : TFliteState) (calls : List EstimateCall) :
    SampleHistory :=
  calls.foldl (SampleHistory.record config) ⟨[], init.prevSampleTime⟩

/-- What is kept between the calls. -/
structure TracksHistory (config : TFliteConfig) (history : SampleHistory) (state : TFliteState) :
    Prop where
  ring : RingHolds config history.samples state
  lastTime : state.prevSampleTime = history.lastTime

section Calls

variable {config : TFliteConfig} {history : SampleHistory} {state : TFliteState}
  {call : EstimateCall}

theorem RingHolds.orStale (h : RingHolds config history.samples state) (stale : Prop)
    [Decidable stale] :
    RingHolds config (if stale then [] else history.samples)
      { state with curSampleCount := if stale then 0 else state.curSampleCount } := by
  by_cases hstale : stale
  · rw [if_pos hstale, if_pos hstale]
    exact RingHolds.empty rfl
  · rw [if_neg hstale, if_neg hstale]
    exact h

/-- One call keeps track of the history, and the input of the model is the padded history if and only
if the samples are in place. -/
theorem TracksHistory.estimate (h : TracksHistory config history state)
    (huse : config.usePrevSamples = true) (horder : 0 < config.prevSamplesOrder) :
    TracksHistory config (history.record config call) (tfliteEstimate config state call).state ∧
      ((∀ input, (tfliteEstimate config state call).modelInput = some input →
          input = (paddedHistory config.prevSamplesOrder
            (history.record config call).samples).flatten) ↔
        (config.Accepts call → InPlace config (history.record config call).samples)) := by
  unfold SampleHistory.record tfliteEstimate TFliteConfig.Accepts
  by_cases hrefused : call.thermistors.length ≠ config.numLinkedSensors ∨ call.hasOutput = false
  · rw [if_pos hrefused, if_pos hrefused]
    apply And.intro h
    apply iff_of_true
    · intro input hinput
      cases hinput
    · intro haccepts
      apply Or.elim hrefused
      · exact fun hne ↦ absurd haccepts.1 hne
      · intro hoff
        rw [haccepts.2.1] at hoff
        cases hoff
  · rw [if_neg hrefused, if_neg hrefused]
    rw [not_or, not_not, Bool.not_eq_false] at hrefused
    dsimp only
    rw [← h.lastTime]
    by_cases hrange : call.thermistors.zipIdx.any
        (fun sample ↦ config.outOfRange sample.2 sample.1) = true
    · have hends : ∀ index, ¬ (copySamples config index call.thermistors.zipIdx
          state.inputBuffer).2 = true := by
        intro index
        rw [copySamples_ends, hrange]
        decide
      rw [if_pos hrange, if_neg (hends _)]
      apply And.intro
      · exact ⟨RingHolds.empty rfl, rfl⟩
      · apply iff_of_true
        · intro input hinput
          cases hinput
        · intro haccepts
          exact absurd hrange haccepts.2.2
    · have hends : ∀ index, (copySamples config index call.thermistors.zipIdx
          state.inputBuffer).2 = true := by
        intro index
        rw [copySamples_ends, Bool.eq_false_of_not_eq_true hrange]
        rfl
      rw [if_neg hrange, if_pos (hends _)]
      have hkept := h.ring.orStale
        (config.maxSampleInterval ≤ elapsedMs call.now state.prevSampleTime)
      generalize (if config.maxSampleInterval ≤ elapsedMs call.now state.prevSampleTime then []
        else history.samples) = samples at hkept ⊢
      have hcount := hkept.count
      change (if config.maxSampleInterval ≤ elapsedMs call.now state.prevSampleTime then 0
        else state.curSampleCount) = samples.length at hcount
      rw [hcount] at hkept ⊢
      have hpushed := hkept.push horder hrefused.1 hrange call.sampleTime
      have hne : samples ++ [call.thermistors] ≠ [] := by
        apply List.append_ne_nil_of_right_ne_nil
        exact List.cons_ne_nil _ _
      by_cases hfew : samples.length + 1 < config.prevSamplesOrder ∧
          config.supportUnderSampling = false
      · rw [if_pos hfew]
        apply And.intro
        · exact ⟨hpushed, rfl⟩
        · apply iff_of_true
          · intro input hinput
            cases hinput
          · intro _ hsupport
            rw [hfew.2] at hsupport
            cases hsupport
      · rw [if_neg hfew]
        apply And.intro
        · exact ⟨hpushed, rfl⟩
        · have henough : config.supportUnderSampling = false →
              config.prevSamplesOrder ≤ (samples ++ [call.thermistors]).length := by
            intro hoff
            rw [List.length_append, List.length_singleton]
            apply le_of_not_gt
            exact fun hlt ↦ hfew ⟨hlt, hoff⟩
          have hiff := hpushed.prepareInput_iff huse horder hne henough
          rw [List.length_append, List.length_singleton, Nat.add_sub_cancel] at hiff
          rw [← hiff]
          apply Iff.intro
          · intro hall _
            exact hall _ rfl
          · intro hsame input hinput
            rw [← Option.some.inj hinput]
            exact hsame ⟨hrefused.1, hrefused.2, hrange⟩

end Calls

theorem tracksHistory_after (config : TFliteConfig) {init : TFliteState}
    (huse : config.usePrevSamples = true) (horder : 0 < config.prevSamplesOrder)
    (hinit : init.curSampleCount = 0) (calls : List EstimateCall) :
    TracksHistory config (historyAfter config init calls) (stateAfter config init calls) := by
  induction calls using List.reverseRecOn with
  | nil => exact ⟨RingHolds.empty hinit, rfl⟩
  | append_singleton calls call ih =>
    unfold historyAfter stateAfter
    rw [List.foldl_append, List.foldl_append]
    exact (ih.estimate huse horder).1

/-- In every run of calls, the model is given the last samples since the reset, padded with the first
one, if and only if the samples of every accepted call are in place. -/
theorem modelInput_eq_paddedHistory_iff (config : TFliteConfig) (init : TFliteState)
    (huse : config.usePrevSamples = true) (horder : 1 < config.prevSamplesOrder)
    (hinit : init.curSampleCount = 0) (calls : List EstimateCall) :
    EachAfter (fun before call ↦ ∀ input,
        (tfliteEstimate config (stateAfter config init before) call).modelInput = some input →
          input = (paddedHistory config.prevSamplesOrder
            (historyAfter config init (before ++ [call])).samples).flatten) calls ↔
      EachAfter (fun before call ↦ config.Accepts call →
        InPlace config (historyAfter config init (before ++ [call])).samples) calls := by
  apply eachAfter_congr
  intro before call _ _ _ _
  have htracks := tracksHistory_after config huse (by omega) hinit before
  have hhistory : historyAfter config init (before ++ [call]) =
      (historyAfter config init before).record config call := by
    unfold historyAfter
    rw [List.foldl_concat]
  rw [hhistory]
  exact (htracks.estimate huse (by omega)).2

/-- A model of one sensor and two samples that allows fewer. -/
def pairConfig : TFliteConfig where
  numLinkedSensors := 1
  prevSamplesOrder := 2
  usePrevSamples := true
  supportUnderSampling := true
  enableInputValidation := false
  inputRange := fun _ ↦ ⟨.nan, .nan⟩
  maxSampleInterval := 1000

def pairState : TFliteState := ⟨0, 0, fun _ ↦ 0⟩

def pairCall (value : ExactFloat) : EstimateCall := ⟨[value], true, 0, 0, 0⟩

/-- The first two samples are padded and in place. -/
theorem modelInput_firstPair :
    EachAfter (fun before call ↦ ∀ input,
      (tfliteEstimate pairConfig (stateAfter pairConfig pairState before) call).modelInput =
        some input → input = (paddedHistory 2
          (historyAfter pairConfig pairState (before ++ [call])).samples).flatten)
      [pairCall (.fin 10), pairCall (.fin 20)] := by
  apply (modelInput_eq_paddedHistory_iff pairConfig pairState rfl (by decide) rfl _).mpr
  rw [eachAfter_cons, eachAfter_singleton]
  apply And.intro
  · intro _ _ m _ hm
    exact absurd hm (Nat.not_lt_zero m)
  · intro _ _ m _ hm
    exact absurd hm (Nat.not_lt_zero m)

/-- The third sample overwrites the second one, too. -/
theorem modelInput_thirdSample :
    ¬ ∀ (config : TFliteConfig) (init : TFliteState) (calls : List EstimateCall),
      config.usePrevSamples = true → 1 < config.prevSamplesOrder → init.curSampleCount = 0 →
        EachAfter (fun before call ↦ ∀ input,
          (tfliteEstimate config (stateAfter config init before) call).modelInput = some input →
            input = (paddedHistory config.prevSamplesOrder
              (historyAfter config init (before ++ [call])).samples).flatten) calls := by
  intro hinput
  have hthird := hinput pairConfig pairState
    [pairCall (.fin 10), pairCall (.fin 20), pairCall (.fin 30)] rfl (by decide) rfl
    [pairCall (.fin 10), pairCall (.fin 20)] (pairCall (.fin 30)) [] rfl [.fin 30, .fin 30] rfl
  exact absurd hthird (by decide +kernel)

end HardwareMediatek.Thermal
