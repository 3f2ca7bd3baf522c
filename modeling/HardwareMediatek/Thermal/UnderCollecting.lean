import HardwareMediatek.Thermal.ReadingEnds

/-!
# What is under collecting is passed on

A call that reads a rail, a prediction or a sensor that is under collecting gives no temperature and
writes no cache, and so do the calls above it. Only the variable for the backup sensor is not set
before it is read: when the backup is under collecting, the call goes on with what the variable holds.
-/

namespace HardwareMediatek.Thermal

/-- The call has read a backup sensor that is under collecting. -/
def ReadCall.usesCollectingBackup (call : ReadCall) : Bool :=
  call.inputs.any fun input ↦ input.isBackup && input.isUnder

/-- If the value depends on something that is under collecting, there is none. -/
def ReadCall.PassesOn (call : ReadCall) : Prop :=
  call.dependsOnCollecting = true →
    (∀ temp, call.outcome ≠ .okay temp) ∧ call.isCached = false

/-- The reading has given a value. -/
def ReadInput.isOkay : ReadInput → Bool
  | .rail power => !power.isNaN
  | .prediction (.okay _) => true
  | .sensor _ (.okay _) _ => true
  | _ => false

/-- The calls that have returned and what the call in progress has read: a call that does not pass on
has a backup to blame, its own or that of another call. -/
structure BackupsToBlame {ε : Type} (state : ReadState ε) : Prop where
  answered : ∀ call ∈ state.calls, call.usesCollectingBackup = true →
    ∃ temp, call.outcome = .okay temp
  calls : ∀ call ∈ state.calls, ¬ call.PassesOn →
    ∃ other ∈ state.calls, other.usesCollectingBackup = true
  inputs : ∀ isBackup temp, .sensor isBackup (.okay temp) true ∈ state.inputs →
    ∃ other ∈ state.calls, other.usesCollectingBackup = true

/-- A part of a call: the calls it makes, and what it reads. -/
structure ReadsMore {ε : Type} (state final : ReadState ε) (new : List ReadInput) : Prop where
  calls : ∀ call ∈ state.calls, call ∈ final.calls
  inputs : final.inputs = state.inputs ++ new
  keeps : BackupsToBlame state → BackupsToBlame final

/-- A whole call is recorded, and has its caller's inputs left as they are. -/
def Records {ε : Type} (read : Read ε) : Prop :=
  ∀ state name final call, read state name = .ok (final, call) →
    call ∈ final.calls ∧ ReadsMore state final []

section Parts

variable {ε : Type} {env : ReadEnv ε} {read : Read ε} {state middle final : ReadState ε}
  {new more : List ReadInput}

theorem ReadsMore.refl (state : ReadState ε) : ReadsMore state state [] :=
  ⟨fun _ h ↦ h, (List.append_nil _).symm, id⟩

theorem ReadsMore.trans (h : ReadsMore state middle new) (h' : ReadsMore middle final more) :
    ReadsMore state final (new ++ more) :=
  ⟨fun call hcall ↦ h'.calls call (h.calls call hcall),
    by rw [h'.inputs, h.inputs, List.append_assoc], fun hstate ↦ h'.keeps (h.keeps hstate)⟩

/-- What leaves the record alone. -/
theorem ReadsMore.of_eq (h : ReadsMore state middle new) (hcalls : final.calls = middle.calls)
    (hinputs : final.inputs = middle.inputs) : ReadsMore state final new := by
  apply ReadsMore.mk
  · rw [hcalls]
    exact h.calls
  · rw [hinputs]
    exact h.inputs
  · intro hstate
    have hmiddle := h.keeps hstate
    exact ⟨hcalls ▸ hmiddle.answered, hcalls ▸ hmiddle.calls,
      hinputs ▸ hcalls ▸ hmiddle.inputs⟩

theorem ReadsMore.note (h : ReadsMore state middle new) {input : ReadInput}
    (hblame : BackupsToBlame middle → ∀ isBackup temp, input = .sensor isBackup (.okay temp) true →
      ∃ other ∈ middle.calls, other.usesCollectingBackup = true) :
    ReadsMore state (middle.note input) (new ++ [input]) := by
  apply ReadsMore.mk
  · exact h.calls
  · rw [← List.append_assoc, ← h.inputs]
    rfl
  · intro hstate
    have hmiddle := h.keeps hstate
    refine ⟨hmiddle.answered, hmiddle.calls, ?_⟩
    intro isBackup temp hin
    apply (List.mem_append.mp hin).elim
    · exact hmiddle.inputs isBackup temp
    · intro hlast
      exact hblame hmiddle isBackup temp (List.mem_singleton.mp hlast).symm

/-- Reading a sensor notes the outcome. -/
theorem readDataByType_sensor (hread : Records read) {sensorData : String} {initial : ExactFloat}
    {isBackup : Bool} {value : Option ExactFloat}
    (hdata : readDataByType env read state sensorData initial .sensor isBackup =
      .ok (final, value)) :
    ∃ outcome dependsOnCollecting,
      ReadsMore state final [.sensor isBackup outcome dependsOnCollecting] ∧
        value = match outcome with
          | .okay temp => some temp
          | .underCollecting => some initial
          | .error => none := by
  obtain ⟨result, hresult⟩ := bind_eq_ok.mp hdata
  have hrecords := hread state sensorData result.1 result.2 hresult.1
  apply Exists.intro result.2.outcome
  apply Exists.intro result.2.dependsOnCollecting
  have hnote : ReadsMore state
      (result.1.note (.sensor isBackup result.2.outcome result.2.dependsOnCollecting))
        [.sensor isBackup result.2.outcome result.2.dependsOnCollecting] := by
    apply hrecords.2.note
    intro hblame isBackup' temp hinput
    have hsame := ReadInput.sensor.inj hinput
    apply hblame.calls result.2 hrecords.1
    intro hpasses
    exact (hpasses hsame.2.2).1 temp hsame.2.1
  have hrest := hresult.2
  dsimp only at hrest
  cases houtcome : result.2.outcome with
  | okay temp =>
    rw [houtcome] at hrest hnote
    obtain ⟨rfl, rfl⟩ := ok_pair hrest
    exact ⟨hnote, rfl⟩
  | underCollecting =>
    rw [houtcome] at hrest hnote
    obtain ⟨rfl, rfl⟩ := ok_pair hrest
    exact ⟨hnote, rfl⟩
  | error =>
    rw [houtcome] at hrest hnote
    obtain ⟨rfl, rfl⟩ := ok_pair hrest
    exact ⟨hnote, rfl⟩

/-- A part of a call that reads no backup, and has every reading give a value when it answers. -/
def PlainReads (state final : ReadState ε) (answers : Prop) : Prop :=
  ∃ new, ReadsMore state final new ∧ (∀ input ∈ new, input.isBackup = false) ∧
    (answers → ∀ input ∈ new, input.isOkay = true)

/-- A part of a call that answers if a backup is under collecting, and otherwise only when every
reading has given a value. -/
def CallReads (state final : ReadState ε) (answers : Prop) : Prop :=
  ∃ new, ReadsMore state final new ∧
    ((∃ input ∈ new, (input.isBackup && input.isUnder) = true) → answers) ∧
    (answers → ∀ input ∈ new,
      input.isOkay = true ∨ (input.isBackup && input.isUnder) = true)

theorem plainReads_nil {answers : Prop} (h : ReadsMore state final []) :
    PlainReads state final answers :=
  ⟨[], h, fun _ hin ↦ absurd hin List.not_mem_nil, fun _ _ hin ↦ absurd hin List.not_mem_nil⟩

theorem plainReads_singleton {answers : Prop} {input : ReadInput} (h : ReadsMore state final [input])
    (hbackup : input.isBackup = false) (hokay : answers → input.isOkay = true) :
    PlainReads state final answers := by
  refine ⟨[input], h, ?_, ?_⟩
  · intro other hin
    rwa [List.mem_singleton.mp hin]
  · intro hanswers other hin
    rw [List.mem_singleton.mp hin]
    exact hokay hanswers

theorem PlainReads.imp {answers answers' : Prop} (h : PlainReads state final answers)
    (himp : answers' → answers) : PlainReads state final answers' := by
  obtain ⟨new, hnew⟩ := h
  exact ⟨new, hnew.1, hnew.2.1, fun hanswers ↦ hnew.2.2 (himp hanswers)⟩

theorem PlainReads.trans {answers answers' : Prop} (h : PlainReads state middle answers)
    (h' : PlainReads middle final answers') (himp : answers' → answers) :
    PlainReads state final answers' := by
  obtain ⟨new, hnew⟩ := h
  obtain ⟨more, hmore⟩ := h'
  refine ⟨new ++ more, hnew.1.trans hmore.1, ?_, ?_⟩
  · intro input hin
    exact (List.mem_append.mp hin).elim (hnew.2.1 input) (hmore.2.1 input)
  · intro hanswers input hin
    exact (List.mem_append.mp hin).elim (hnew.2.2 (himp hanswers) input)
      (hmore.2.2 hanswers input)

theorem PlainReads.callReads {answers : Prop} (h : PlainReads state final answers) :
    CallReads state final answers := by
  obtain ⟨new, hnew⟩ := h
  refine ⟨new, hnew.1, ?_, fun hanswers input hin ↦ Or.inl (hnew.2.2 hanswers input hin)⟩
  intro hunder
  obtain ⟨input, hinput⟩ := hunder
  rw [hnew.2.1 input hinput.1, Bool.false_and] at hinput
  cases hinput.2

theorem PlainReads.callReads_trans {answers answers' : Prop} (h : PlainReads state middle answers)
    (h' : CallReads middle final answers') (himp : answers' → answers) :
    CallReads state final answers' := by
  obtain ⟨new, hnew⟩ := h
  obtain ⟨more, hmore⟩ := h'
  refine ⟨new ++ more, hnew.1.trans hmore.1, ?_, ?_⟩
  · intro hunder
    obtain ⟨input, hinput⟩ := hunder
    apply (List.mem_append.mp hinput.1).elim
    · intro hin
      have hunder := hinput.2
      rw [hnew.2.1 input hin, Bool.false_and] at hunder
      cases hunder
    · intro hin
      exact hmore.2.1 ⟨input, hin, hinput.2⟩
  · intro hanswers input hin
    apply (List.mem_append.mp hin).elim
    · intro hearlier
      exact Or.inl (hnew.2.2 (himp hanswers) input hearlier)
    · exact hmore.2.2 hanswers input

theorem CallReads.of_eq {answers answers' : Prop} (h : CallReads state middle answers)
    (hcalls : final.calls = middle.calls) (hinputs : final.inputs = middle.inputs)
    (hiff : answers ↔ answers') : CallReads state final answers' := by
  obtain ⟨new, hnew⟩ := h
  exact ⟨new, hnew.1.of_eq hcalls hinputs, fun hunder ↦ hiff.mp (hnew.2.1 hunder),
    fun hanswers ↦ hnew.2.2 (hiff.mpr hanswers)⟩

/-- A value read into a variable that was `NaN` is a `NaN` unless the reading has given a value. -/
theorem readDataByType_reads (hread : Records read) {sensorData : String} {type : SensorFusionType}
    {value : Option ExactFloat}
    (hdata : readDataByType env read state sensorData .nan type false = .ok (final, value)) :
    PlainReads state final (∃ reading, value = some reading ∧ reading.isNaN = false) := by
  cases type with
  | sensor =>
    obtain ⟨outcome, dependsOnCollecting, hmore⟩ := readDataByType_sensor hread hdata
    apply plainReads_singleton hmore.1 rfl
    intro hvalue
    obtain ⟨reading, hreading⟩ := hvalue
    cases outcome with
    | okay temp => rfl
    | underCollecting =>
      have hnan : some ExactFloat.nan = some reading := hmore.2.symm.trans hreading.1
      rw [← Option.some.inj hnan] at hreading
      cases hreading.2
    | error => cases hmore.2.symm.trans hreading.1
  | odpm =>
    unfold readDataByType at hdata
    dsimp only at hdata
    cases hstatus : env.powerStatusMap.lookup sensorData with
    | none =>
      rw [hstatus] at hdata
      cases hdata
    | some status =>
      rw [hstatus] at hdata
      have hnote : ReadsMore state (state.note (.rail status.lastUpdatedAvgPower))
          [.rail status.lastUpdatedAvgPower] :=
        (ReadsMore.refl state).note fun _ _ _ h ↦ nomatch h
      dsimp only at hdata
      by_cases hnan : status.lastUpdatedAvgPower.isNaN = true
      · rw [if_pos hnan] at hdata
        obtain ⟨rfl, rfl⟩ := ok_pair hdata
        apply plainReads_singleton hnote rfl
        intro hvalue
        obtain ⟨reading, hreading⟩ := hvalue
        rw [← Option.some.inj hreading.1, hnan] at hreading
        cases hreading.2
      · rw [if_neg hnan] at hdata
        obtain ⟨rfl, rfl⟩ := ok_pair hdata
        have hlog : ReadsMore state ((state.note (.rail status.lastUpdatedAvgPower)).log sensorData
            status.lastUpdatedAvgPower) [.rail status.lastUpdatedAvgPower] := hnote.of_eq rfl rfl
        apply plainReads_singleton hlog rfl
        intro _
        unfold ReadInput.isOkay
        rw [Bool.not_eq_true', Bool.eq_false_iff]
        exact hnan
  | constant =>
    rw [← (ok_pair hdata).1]
    exact plainReads_nil (ReadsMore.refl state)
  | cdev =>
    rw [← (ok_pair hdata).1]
    exact plainReads_nil (ReadsMore.refl state)

theorem readLinkedSensors_reads (hread : Records read) {sources : List (String × SensorFusionType)}
    {outcome : ReadOutcome (List ExactFloat)}
    (hlinked : readLinkedSensors env read sources state = .ok (final, outcome)) :
    PlainReads state final (∃ readings, outcome = .okay readings) := by
  induction sources generalizing state final outcome with
  | nil =>
    rw [← (ok_pair hlinked).1]
    exact plainReads_nil (ReadsMore.refl state)
  | cons source rest ih =>
    obtain ⟨result, hresult⟩ := bind_eq_ok.mp hlinked
    have hfirst := readDataByType_reads hread hresult.1
    have hrest := hresult.2
    cases hvalue : result.2 with
    | none =>
      dsimp only at hrest
      rw [hvalue] at hrest
      obtain ⟨rfl, rfl⟩ := ok_pair hrest
      exact hfirst.imp fun h ↦ nomatch h
    | some reading =>
      dsimp only at hrest
      rw [hvalue] at hrest hfirst
      dsimp only at hrest
      by_cases hnan : reading.isNaN = true
      · rw [if_pos hnan] at hrest
        obtain ⟨rfl, rfl⟩ := ok_pair hrest
        exact hfirst.imp fun h ↦ nomatch h
      · rw [if_neg hnan] at hrest
        obtain ⟨others, hothers⟩ := bind_eq_ok.mp hrest
        have hdone := ok_pair hothers.2
        have hmore := ih hothers.1
        rw [hdone.1] at hmore
        have hokay : (∃ readings, outcome = .okay readings) → ∃ readings, others.2 = .okay readings := by
          intro h
          rw [← hdone.2] at h
          cases hreadings : others.2 with
          | okay readings => exact ⟨readings, rfl⟩
          | underCollecting =>
            rw [hreadings] at h
            cases h with | intro _ h => cases h
          | error =>
            rw [hreadings] at h
            cases h with | intro _ h => cases h
        exact hfirst.trans (hmore.imp hokay)
          fun _ ↦ ⟨reading, rfl, Bool.eq_false_iff.mpr hnan⟩

theorem combineReadings_reads (hread : Records read) {formula : FormulaOption}
    {terms : List ((ExactFloat × String × SensorFusionType) × ℕ)} {tempVal : ExactFloat}
    {outcome : ReadOutcome ExactFloat}
    (hcombine : combineReadings env read formula terms tempVal state = .ok (final, outcome)) :
    PlainReads state final (∃ temp, outcome = .okay temp) := by
  induction terms generalizing state tempVal with
  | nil =>
    rw [← (ok_pair hcombine).1]
    exact plainReads_nil (ReadsMore.refl state)
  | cons term rest ih =>
    obtain ⟨result, hresult⟩ := bind_eq_ok.mp hcombine
    have hfirst := readDataByType_reads hread hresult.1
    have hrest := hresult.2
    cases hvalue : result.2 with
    | none =>
      dsimp only at hrest
      rw [hvalue] at hrest
      obtain ⟨rfl, rfl⟩ := ok_pair hrest
      exact hfirst.imp fun h ↦ nomatch h
    | some coefficient =>
      dsimp only at hrest
      rw [hvalue] at hrest hfirst
      dsimp only at hrest
      by_cases hnan : coefficient.isNaN = true
      · rw [if_pos hnan] at hrest
        obtain ⟨rfl, rfl⟩ := ok_pair hrest
        exact hfirst.imp fun h ↦ nomatch h
      · rw [if_neg hnan] at hrest
        have hvalid : ∃ reading, some coefficient = some reading ∧ reading.isNaN = false :=
          ⟨coefficient, rfl, Bool.eq_false_iff.mpr hnan⟩
        cases hformula : applyFormula formula term.2 term.1.1 coefficient tempVal with
        | none =>
          rw [hformula] at hrest
          have hdone := ok_pair hrest
          rw [← hdone.1]
          exact hfirst.imp fun _ ↦ hvalid
        | some tempVal =>
          rw [hformula] at hrest
          exact hfirst.trans (ih hrest) fun _ ↦ hvalid

variable {name : String} {info : SensorInfo} {virtualInfo : VirtualSensorInfo}

/-- The variable for the backup has a value unless reading the backup fails. -/
theorem readBackup_reads (hread : Records read) {initial : ExactFloat} {value : Option ExactFloat}
    (hdata : readDataByType env read state name initial .sensor true = .ok (final, value)) :
    CallReads state final (∃ temp, value = some temp) := by
  obtain ⟨outcome, dependsOnCollecting, hmore⟩ := readDataByType_sensor hread hdata
  refine ⟨_, hmore.1, ?_, ?_⟩
  · intro hunder
    obtain ⟨input, hinput⟩ := hunder
    rw [List.mem_singleton.mp hinput.1] at hinput
    cases outcome with
    | okay temp => exact ⟨temp, hmore.2⟩
    | underCollecting => exact ⟨initial, hmore.2⟩
    | error => cases hinput.2
  · intro hvalue input hin
    rw [List.mem_singleton.mp hin]
    obtain ⟨temp, htemp⟩ := hvalue
    cases outcome with
    | okay temp => exact Or.inl rfl
    | underCollecting => exact Or.inr rfl
    | error => cases hmore.2.symm.trans htemp

theorem runVirtualTempEstimator_reads (hread : Records read) {outputs : Option (List ExactFloat)}
    (hrun : runVirtualTempEstimator env read state name info virtualInfo = .ok (final, outputs)) :
    CallReads state final (∃ values, outputs = some values) := by
  unfold runVirtualTempEstimator at hrun
  cases hinputs : virtualInfo.linkedSensors.mapM fun sensor ↦ state.sensorLogMap.lookup sensor with
  | none =>
    rw [hinputs] at hrun
    rw [← (ok_pair hrun).1]
    exact (plainReads_nil (ReadsMore.refl state)).callReads
  | some modelInputs =>
    rw [hinputs] at hrun
    dsimp only at hrun
    generalize env.estimate state.started state.helpers name modelInputs = estimated at hrun
    have hstart : ReadsMore state { state with helpers := estimated.1 } [] :=
      (ReadsMore.refl state).of_eq rfl rfl
    have hbackup : readBackupSensor env read virtualInfo { state with helpers := estimated.1 } =
        .ok (final, outputs) → CallReads state final (∃ values, outputs = some values) := by
      intro hresult
      unfold readBackupSensor at hresult
      by_cases hempty : virtualInfo.backupSensor = ""
      · rw [if_pos hempty] at hresult
        rw [← (ok_pair hresult).1]
        exact (plainReads_nil hstart).callReads
      · rw [if_neg hempty] at hresult
        obtain ⟨backup, hread'⟩ := bind_eq_ok.mp hresult
        have hdone := ok_pair hread'.2
        have hnil : PlainReads state { state with helpers := estimated.1 } True :=
          plainReads_nil hstart
        have hreads := hnil.callReads_trans (readBackup_reads hread hread'.1) fun _ ↦ trivial
        rw [hdone.1] at hreads
        apply hreads.of_eq rfl rfl
        rw [← hdone.2]
        cases backup.2 with
        | none => simp
        | some temp => simp
    cases hanswer : estimated.2 with
    | ok values =>
      rw [hanswer] at hrun
      have hdone := ok_pair hrun
      rw [← hdone.1]
      have hupdate : ReadsMore state (if info.predictorInfo.any PredictorInfo.supportsPredictions then
          { state with helpers := env.updatePredictions state.started estimated.1 name values }
          else { state with helpers := estimated.1 }) [] := by
        split
        · exact hstart.of_eq rfl rfl
        · exact hstart
      exact (plainReads_nil hupdate).callReads
    | failed =>
      rw [hanswer] at hrun
      rw [← (ok_pair hrun).1]
      exact (plainReads_nil hstart).callReads
    | lowConfidence =>
      rw [hanswer] at hrun
      exact hbackup hrun
    | underSampling =>
      rw [hanswer] at hrun
      exact hbackup hrun

/-- A model that answers answers with a temperature. -/
theorem estimateVirtual_reads {outcome : ReadOutcome ExactFloat}
    (hmodel : estimateVirtual env read state name info virtualInfo = .ok (final, outcome))
    (hread : Records read) : CallReads state final (∃ temp, outcome = .okay temp) := by
  obtain ⟨result, hresult⟩ := bind_eq_ok.mp hmodel
  have hreads := runVirtualTempEstimator_reads hread hresult.1
  have hrest := hresult.2
  dsimp only at hrest
  cases houtputs : result.2 with
  | none =>
    rw [houtputs] at hrest hreads
    have hdone := ok_pair hrest
    rw [hdone.1] at hreads
    apply hreads.of_eq rfl rfl
    rw [← hdone.2]
    simp
  | some values =>
    rw [houtputs] at hrest hreads
    cases values with
    | nil => cases hrest
    | cons temp rest =>
      have hdone := ok_pair hrest
      rw [hdone.1] at hreads
      apply hreads.of_eq rfl rfl
      rw [← hdone.2]
      simp

theorem computeVirtual_reads (hread : Records read) {readings : List ExactFloat}
    {outcome : ReadOutcome ExactFloat}
    (hcompute : computeVirtual env read state name info virtualInfo readings =
      .ok (final, outcome)) : CallReads state final (∃ temp, outcome = .okay temp) := by
  have hformula : ∀ formula,
      combineVirtual env read state virtualInfo readings formula = .ok (final, outcome) →
        CallReads state final (∃ temp, outcome = .okay temp) := by
    intro formula hcombine
    obtain ⟨result, hresult⟩ := bind_eq_ok.mp hcombine
    have hreads := (combineReadings_reads hread hresult.1).callReads
    have hdone := ok_pair hresult.2
    rw [hdone.1] at hreads
    apply hreads.of_eq rfl rfl
    rw [← hdone.2]
    cases result.2 <;> simp [ReadOutcome.map]
  unfold computeVirtual at hcompute
  cases hvirtual : virtualInfo.formula with
  | previouslyPredicted =>
    rw [hvirtual] at hcompute
    obtain ⟨rfl, rfl⟩ := ok_pair hcompute
    generalize env.readPrediction state.started state.helpers name = prediction
    have hnote : ReadsMore state (state.note (.prediction prediction)) [.prediction prediction] :=
      (ReadsMore.refl state).note fun _ _ _ h ↦ nomatch h
    apply (plainReads_singleton hnote rfl _).callReads
    intro hokay
    obtain ⟨temp, htemp⟩ := hokay
    rw [htemp]
    rfl
  | useMlModel =>
    rw [hvirtual] at hcompute
    exact estimateVirtual_reads hcompute hread
  | useLinearModel =>
    rw [hvirtual] at hcompute
    exact estimateVirtual_reads hcompute hread
  | countThreshold =>
    rw [hvirtual] at hcompute
    exact hformula _ hcompute
  | weightedAvg =>
    rw [hvirtual] at hcompute
    exact hformula _ hcompute
  | maximum =>
    rw [hvirtual] at hcompute
    exact hformula _ hcompute
  | minimum =>
    rw [hvirtual] at hcompute
    exact hformula _ hcompute

theorem readComposition_reads (hread : Records read) {outcome : ReadOutcome ExactFloat}
    (hcomposition : readComposition env read state name info = .ok (final, outcome)) :
    CallReads state final (∃ temp, outcome = .okay temp) := by
  unfold readComposition at hcomposition
  cases hvirtual : info.virtualSensorInfo with
  | none =>
    rw [hvirtual] at hcomposition
    rw [← (ok_pair hcomposition).1]
    exact (plainReads_nil (ReadsMore.refl state)).callReads
  | some virtualInfo =>
    rw [hvirtual] at hcomposition
    obtain ⟨result, hresult⟩ := bind_eq_ok.mp hcomposition
    have hlinked := readLinkedSensors_reads hread hresult.1
    have hrest := hresult.2
    dsimp only at hrest
    cases hreadings : result.2 with
    | error =>
      rw [hreadings] at hrest
      obtain ⟨rfl, rfl⟩ := ok_pair hrest
      exact (hlinked.imp fun h ↦ nomatch h).callReads
    | underCollecting =>
      rw [hreadings] at hrest
      obtain ⟨rfl, rfl⟩ := ok_pair hrest
      exact (hlinked.imp fun h ↦ nomatch h).callReads
    | okay readings =>
      rw [hreadings] at hrest hlinked
      exact hlinked.callReads_trans (computeVirtual_reads hread hrest) fun _ ↦ ⟨readings, rfl⟩

theorem storeReading_keeps (state : ReadState ε) (name : String) (info : SensorInfo) (now : ℤ)
    (sinceLastUpdate : Option ℤ) (temp : ExactFloat) :
    (storeReading state name info now sinceLastUpdate temp).1.calls = state.calls ∧
      (storeReading state name info now sinceLastUpdate temp).1.inputs = state.inputs := by
  unfold storeReading
  cases state.sensorStatusMap.lookup name <;> exact ⟨rfl, rfl⟩

/-- The cache is written by a call that answers. -/
theorem readSensor_reads (hread : Records read) {forceNoCache isCached : Bool}
    {outcome : ReadOutcome ExactFloat}
    (hsensor : readSensor env forceNoCache read state name = .ok (final, outcome, isCached)) :
    CallReads state final (∃ temp, outcome = .okay temp) ∧
      (isCached = true → ∃ temp, outcome = .okay temp) := by
  have hlog : ∀ temp : ExactFloat, CallReads state (state.log name temp)
      (∃ temp', (.okay temp : ReadOutcome ExactFloat) = .okay temp') := by
    intro temp
    have hmore : ReadsMore state (state.log name temp) [] := (ReadsMore.refl state).of_eq rfl rfl
    exact (plainReads_nil hmore).callReads
  unfold readSensor at hsensor
  split at hsensor
  · split at hsensor
    · have hdone := ok_pair hsensor
      have houtcome := Prod.mk.inj hdone.2
      rw [← hdone.1, ← houtcome.1]
      exact ⟨hlog _, fun _ ↦ ⟨_, rfl⟩⟩
    · dsimp only at hsensor
      split at hsensor
      · have hdone := ok_pair hsensor
        have houtcome := Prod.mk.inj hdone.2
        rw [← hdone.1, ← houtcome.1]
        exact ⟨hlog _, fun _ ↦ ⟨_, rfl⟩⟩
      · obtain ⟨result, hresult⟩ := bind_eq_ok.mp hsensor
        have hreads := readComposition_reads hread hresult.1
        have hrest := hresult.2
        cases hreading : result.2 with
        | okay temp =>
          rw [hreading] at hrest hreads
          have hdone := ok_pair hrest
          have houtcome := Prod.mk.inj hdone.2
          rw [← hdone.1, ← houtcome.1]
          refine ⟨?_, fun _ ↦ ⟨_, rfl⟩⟩
          apply hreads.of_eq (storeReading_keeps _ _ _ _ _ _).1 (storeReading_keeps _ _ _ _ _ _).2
          exact iff_of_true ⟨temp, rfl⟩ ⟨_, rfl⟩
        | underCollecting =>
          rw [hreading] at hrest hreads
          have hdone := ok_pair hrest
          have houtcome := Prod.mk.inj hdone.2
          rw [← hdone.1, ← houtcome.1, ← houtcome.2]
          exact ⟨hreads, fun h ↦ nomatch h⟩
        | error =>
          rw [hreading] at hrest hreads
          have hdone := ok_pair hrest
          have houtcome := Prod.mk.inj hdone.2
          rw [← hdone.1, ← houtcome.1, ← houtcome.2]
          exact ⟨hreads, fun h ↦ nomatch h⟩
  · have hdone := ok_pair hsensor
    have houtcome := Prod.mk.inj hdone.2
    rw [← hdone.1, ← houtcome.1, ← houtcome.2]
    exact ⟨(plainReads_nil (ReadsMore.refl state)).callReads, fun h ↦ nomatch h⟩

end Parts

/-! ## Whole reads -/

section Calls

variable {ε : Type} {env : ReadEnv ε}

theorem readInput_of_not_okay {input : ReadInput}
    (hsettled : input.isOkay = true ∨ (input.isBackup && input.isUnder) = true)
    (hcollecting : input.isCollecting = true) :
    (input.isBackup && input.isUnder) = true ∨
      ∃ isBackup temp, input = .sensor isBackup (.okay temp) true := by
  apply hsettled.elim _ Or.inl
  intro hokay
  cases input with
  | rail power =>
    have hvalid : (!power.isNaN) = true := hokay
    have hnan : power.isNaN = true := hcollecting
    rw [hnan] at hvalid
    cases hvalid
  | prediction outcome =>
    cases outcome with
    | okay temp => cases hcollecting
    | underCollecting => cases hokay
    | error => cases hokay
  | sensor isBackup outcome dependsOnCollecting =>
    cases outcome with
    | okay temp =>
      have hdepends : dependsOnCollecting = true := hcollecting
      rw [hdepends]
      exact Or.inr ⟨isBackup, temp, rfl⟩
    | underCollecting => cases hokay
    | error => cases hokay

/-- A call is recorded, and passes on what is under collecting unless a backup is to blame. -/
theorem readThermalSensor_records (forceNoCache : Bool) (fuel : ℕ) :
    Records (readThermalSensor env forceNoCache fuel) := by
  induction fuel with
  | zero =>
    intro state name final call hread
    cases hread
  | succ fuel ih =>
    intro state name final call hread
    obtain ⟨result, hresult⟩ := bind_eq_ok.mp hread
    have hsensor := readSensor_reads ih hresult.1
    have hdone := ok_pair hresult.2
    obtain ⟨new, hnew⟩ := hsensor.1
    have hinputs : result.1.inputs = new := hnew.1.inputs
    have hcall : call = ⟨name, new, result.2.1, result.2.2⟩ := by
      rw [← hdone.2, hinputs]
    rw [← hdone.1, hdone.2]
    refine ⟨List.mem_append_right _ (List.mem_singleton_self call), ?_, ?_, ?_⟩
    · intro other hother
      exact List.mem_append_left _ (hnew.1.calls other hother)
    · exact (List.append_nil _).symm
    · intro hblame
      have hinner := hnew.1.keeps ⟨hblame.answered, hblame.calls,
        fun _ _ h ↦ absurd h List.not_mem_nil⟩
      have hwider : (∃ other ∈ result.1.calls, other.usesCollectingBackup = true) →
          ∃ other ∈ result.1.calls ++ [call], other.usesCollectingBackup = true := by
        intro hother
        obtain ⟨other, hother⟩ := hother
        exact ⟨other, List.mem_append_left _ hother.1, hother.2⟩
      apply BackupsToBlame.mk
      · intro other hother huses
        apply (List.mem_append.mp hother).elim
        · intro hearlier
          exact hinner.answered other hearlier huses
        · intro hlast
          rw [List.mem_singleton.mp hlast, hcall] at huses ⊢
          apply hnew.2.1
          obtain ⟨input, hinput⟩ := List.any_eq_true.mp huses
          exact ⟨input, hinput.1, hinput.2⟩
      · intro other hother hfails
        apply (List.mem_append.mp hother).elim
        · intro hearlier
          exact hwider (hinner.calls other hearlier hfails)
        · intro hlast
          rw [List.mem_singleton.mp hlast] at hfails
          by_cases hanswers : ∃ temp, call.outcome = .okay temp
          · have hdepends : call.dependsOnCollecting = true := by
              by_contra hindependent
              exact hfails fun h ↦ absurd h hindependent
            have hsettled := hnew.2.2 (by rwa [hcall] at hanswers)
            rw [hcall] at hdepends
            obtain ⟨input, hinput⟩ := List.any_eq_true.mp hdepends
            apply (readInput_of_not_okay (hsettled input hinput.1) hinput.2).elim
            · intro hbackup
              refine ⟨call, List.mem_append_right _ (List.mem_singleton_self call), ?_⟩
              rw [hcall]
              exact List.any_eq_true.mpr ⟨input, hinput.1, hbackup⟩
            · intro hokay
              obtain ⟨isBackup, temp, hinput'⟩ := hokay
              apply hwider
              apply hinner.inputs isBackup temp
              rw [hinputs, ← hinput']
              exact hinput.1
          · apply absurd _ hfails
            intro _
            apply And.intro
            · exact not_exists.mp hanswers
            · rw [Bool.eq_false_iff]
              intro hcached
              apply hanswers
              rw [hcall] at hcached ⊢
              exact hsensor.2 hcached
      · intro isBackup temp hin
        apply hwider
        obtain ⟨other, hother⟩ := hblame.inputs isBackup temp hin
        exact ⟨other, hnew.1.calls other hother.1, hother.2⟩

end Calls

/-! ## The caches -/

section Caches

variable {ε : Type} {env : ReadEnv ε} {read : Read ε} {state middle final : ReadState ε} {name : String}
  {info : SensorInfo} {virtualInfo : VirtualSensorInfo}

/-- The status of a sensor changes only by a call for it that writes the cache. -/
structure CachesByCalls (state final : ReadState ε) : Prop where
  calls : ∀ call ∈ state.calls, call ∈ final.calls
  caches : ∀ sensor, (∀ call ∈ final.calls, call.name = sensor → call.isCached = false) →
    final.sensorStatusMap.lookup sensor = state.sensorStatusMap.lookup sensor

theorem CachesByCalls.of_eq (hcalls : final.calls = state.calls)
    (hstatus : final.sensorStatusMap = state.sensorStatusMap) : CachesByCalls state final :=
  ⟨fun _ h ↦ hcalls ▸ h, fun _ _ ↦ by rw [hstatus]⟩

/-- A read that returns with the caches and calls that it began with. -/
theorem CachesByCalls.of_ok {β : Type} {value outcome : β}
    (hreturn : (.ok (middle, value) : Except Halt (ReadState ε × β)) = .ok (final, outcome))
    (hcalls : middle.calls = state.calls) (hstatus : middle.sensorStatusMap = state.sensorStatusMap) :
    CachesByCalls state final := by
  rw [← (ok_pair hreturn).1]
  exact CachesByCalls.of_eq hcalls hstatus

theorem CachesByCalls.trans (h : CachesByCalls state middle) (h' : CachesByCalls middle final) :
    CachesByCalls state final :=
  ⟨fun call hcall ↦ h'.calls call (h.calls call hcall), fun sensor hsensor ↦
    (h'.caches sensor hsensor).trans
      (h.caches sensor fun call hcall ↦ hsensor call (h'.calls call hcall))⟩

/-- Every call of a sensor writes caches by calls. -/
def ReadsByCalls (read : Read ε) : Prop :=
  ∀ state name final call, read state name = .ok (final, call) → CachesByCalls state final

theorem readDataByType_caches (hread : ReadsByCalls read) {sensorData : String}
    {initial : ExactFloat} {type : SensorFusionType} {isBackup : Bool} {value : Option ExactFloat}
    (hdata : readDataByType env read state sensorData initial type isBackup =
      .ok (final, value)) : CachesByCalls state final := by
  unfold readDataByType at hdata
  cases type with
  | sensor =>
    obtain ⟨result, hresult⟩ := bind_eq_ok.mp hdata
    apply (hread _ _ _ _ hresult.1).trans
    have hrest := hresult.2
    dsimp only at hrest
    split at hrest <;>
      · exact CachesByCalls.of_ok hrest rfl rfl
  | odpm =>
    dsimp only at hdata
    split at hdata
    · cases hdata
    · split at hdata <;>
        · exact CachesByCalls.of_ok hdata rfl rfl
  | constant =>
    exact CachesByCalls.of_ok hdata rfl rfl
  | cdev =>
    exact CachesByCalls.of_ok hdata rfl rfl

theorem readLinkedSensors_caches (hread : ReadsByCalls read)
    {sources : List (String × SensorFusionType)} {outcome : ReadOutcome (List ExactFloat)}
    (hlinked : readLinkedSensors env read sources state = .ok (final, outcome)) :
    CachesByCalls state final := by
  induction sources generalizing state final outcome with
  | nil =>
    exact CachesByCalls.of_ok hlinked rfl rfl
  | cons source rest ih =>
    obtain ⟨result, hresult⟩ := bind_eq_ok.mp hlinked
    apply (readDataByType_caches hread hresult.1).trans
    have hrest := hresult.2
    dsimp only at hrest
    split at hrest
    · exact CachesByCalls.of_ok hrest rfl rfl
    · split at hrest
      · exact CachesByCalls.of_ok hrest rfl rfl
      · obtain ⟨others, hothers⟩ := bind_eq_ok.mp hrest
        rw [← (ok_pair hothers.2).1]
        exact ih hothers.1

theorem combineReadings_caches (hread : ReadsByCalls read) {formula : FormulaOption}
    {terms : List ((ExactFloat × String × SensorFusionType) × ℕ)} {tempVal : ExactFloat}
    {outcome : ReadOutcome ExactFloat}
    (hcombine : combineReadings env read formula terms tempVal state = .ok (final, outcome)) :
    CachesByCalls state final := by
  induction terms generalizing state tempVal with
  | nil =>
    exact CachesByCalls.of_ok hcombine rfl rfl
  | cons term rest ih =>
    obtain ⟨result, hresult⟩ := bind_eq_ok.mp hcombine
    apply (readDataByType_caches hread hresult.1).trans
    have hrest := hresult.2
    dsimp only at hrest
    split at hrest
    · exact CachesByCalls.of_ok hrest rfl rfl
    · split at hrest
      · exact CachesByCalls.of_ok hrest rfl rfl
      · split at hrest
        · exact CachesByCalls.of_ok hrest rfl rfl
        · exact ih hrest

theorem runVirtualTempEstimator_caches (hread : ReadsByCalls read)
    {outputs : Option (List ExactFloat)}
    (hrun : runVirtualTempEstimator env read state name info virtualInfo = .ok (final, outputs)) :
    CachesByCalls state final := by
  unfold runVirtualTempEstimator at hrun
  split at hrun
  · exact CachesByCalls.of_ok hrun rfl rfl
  · dsimp only at hrun
    split at hrun
    · rw [← (ok_pair hrun).1]
      split <;> exact CachesByCalls.of_eq rfl rfl
    · exact CachesByCalls.of_ok hrun rfl rfl
    all_goals
      unfold readBackupSensor at hrun
      split at hrun
      · exact CachesByCalls.of_ok hrun rfl rfl
      · obtain ⟨backup, hbackup⟩ := bind_eq_ok.mp hrun
        rw [← (ok_pair hbackup.2).1]
        apply CachesByCalls.trans _ (readDataByType_caches hread hbackup.1)
        exact CachesByCalls.of_eq rfl rfl

theorem estimateVirtual_caches (hread : ReadsByCalls read) {outcome : ReadOutcome ExactFloat}
    (hmodel : estimateVirtual env read state name info virtualInfo = .ok (final, outcome)) :
    CachesByCalls state final := by
  obtain ⟨result, hresult⟩ := bind_eq_ok.mp hmodel
  have hrest := hresult.2
  dsimp only at hrest
  split at hrest
  · rw [← (ok_pair hrest).1]
    exact runVirtualTempEstimator_caches hread hresult.1
  · cases hrest
  · rw [← (ok_pair hrest).1]
    exact runVirtualTempEstimator_caches hread hresult.1

theorem computeVirtual_caches (hread : ReadsByCalls read) {readings : List ExactFloat}
    {outcome : ReadOutcome ExactFloat}
    (hcompute : computeVirtual env read state name info virtualInfo readings =
      .ok (final, outcome)) : CachesByCalls state final := by
  unfold computeVirtual at hcompute
  split at hcompute
  · exact CachesByCalls.of_ok hcompute rfl rfl
  · exact estimateVirtual_caches hread hcompute
  · exact estimateVirtual_caches hread hcompute
  · obtain ⟨result, hresult⟩ := bind_eq_ok.mp hcompute
    rw [← (ok_pair hresult.2).1]
    exact combineReadings_caches hread hresult.1

theorem readComposition_caches (hread : ReadsByCalls read) {outcome : ReadOutcome ExactFloat}
    (hcomposition : readComposition env read state name info = .ok (final, outcome)) :
    CachesByCalls state final := by
  unfold readComposition at hcomposition
  split at hcomposition
  · exact CachesByCalls.of_ok hcomposition rfl rfl
  · obtain ⟨result, hresult⟩ := bind_eq_ok.mp hcomposition
    apply (readLinkedSensors_caches hread hresult.1).trans
    have hrest := hresult.2
    dsimp only at hrest
    split at hrest
    · exact CachesByCalls.of_ok hrest rfl rfl
    · exact CachesByCalls.of_ok hrest rfl rfl
    · exact computeVirtual_caches hread hrest

theorem storeReading_other (state : ReadState ε) (name : String) (info : SensorInfo) (now : ℤ)
    (sinceLastUpdate : Option ℤ) (temp : ExactFloat) {sensor : String} (hother : sensor ≠ name) :
    (storeReading state name info now sinceLastUpdate temp).1.sensorStatusMap.lookup sensor =
      state.sensorStatusMap.lookup sensor := by
  unfold storeReading
  split
  · rfl
  · exact UnorderedMap.lookup_assign_ne _ _ hother

/-- The call in progress writes the cache of its own sensor, if any. -/
theorem readSensor_caches (hread : ReadsByCalls read) {forceNoCache isCached : Bool}
    {outcome : ReadOutcome ExactFloat}
    (hsensor : readSensor env forceNoCache read state name = .ok (final, outcome, isCached)) :
    ∃ before, CachesByCalls state before ∧ final.calls = before.calls ∧
      ∀ sensor, (isCached = true → sensor ≠ name) →
        final.sensorStatusMap.lookup sensor = before.sensorStatusMap.lookup sensor := by
  unfold readSensor at hsensor
  split at hsensor
  · split at hsensor
    · rw [← (ok_pair hsensor).1]
      exact ⟨state, CachesByCalls.of_eq rfl rfl, rfl, fun _ _ ↦ rfl⟩
    · dsimp only at hsensor
      split at hsensor
      · rw [← (ok_pair hsensor).1]
        exact ⟨state, CachesByCalls.of_eq rfl rfl, rfl, fun _ _ ↦ rfl⟩
      · obtain ⟨result, hresult⟩ := bind_eq_ok.mp hsensor
        refine ⟨result.1, readComposition_caches hread hresult.1, ?_⟩
        have hrest := hresult.2
        split at hrest
        · have hdone := ok_pair hrest
          rw [← hdone.1, ← (Prod.mk.inj hdone.2).2]
          exact ⟨(storeReading_keeps _ _ _ _ _ _).1,
            fun sensor hother ↦ storeReading_other _ _ _ _ _ _ (hother rfl)⟩
        · rw [← (ok_pair hrest).1]
          exact ⟨rfl, fun _ _ ↦ rfl⟩
  · rw [← (ok_pair hsensor).1]
    exact ⟨state, CachesByCalls.of_eq rfl rfl, rfl, fun _ _ ↦ rfl⟩

/-- What the record of a read says about the caches is what the read has done to them. -/
theorem readThermalSensor_caches (env : ReadEnv ε) (forceNoCache : Bool) (fuel : ℕ) :
    ReadsByCalls (readThermalSensor env forceNoCache fuel) := by
  induction fuel with
  | zero =>
    intro state name final call hread
    cases hread
  | succ fuel ih =>
    intro state name final call hread
    obtain ⟨result, hresult⟩ := bind_eq_ok.mp hread
    obtain ⟨before, hbefore⟩ := readSensor_caches ih hresult.1
    have hdone := (ok_pair hresult.2).1
    rw [← hdone]
    have hcalls : ∀ other ∈ before.calls, other ∈ result.1.calls ++
        [⟨name, result.1.inputs, result.2.1, result.2.2⟩] := by
      intro other hother
      rw [hbefore.2.1]
      exact List.mem_append_left _ hother
    apply CachesByCalls.mk
    · intro other hother
      exact hcalls other (hbefore.1.calls other hother)
    · intro sensor huncached
      have hown : result.2.2 = true → sensor ≠ name := by
        intro hcached hname
        have hlast := huncached _ (List.mem_append_right _ (List.mem_singleton_self _)) hname.symm
        rw [show result.2.2 = false from hlast] at hcached
        cases hcached
      calc result.1.sensorStatusMap.lookup sensor
          = before.sensorStatusMap.lookup sensor := hbefore.2.2 sensor hown
        _ = state.sensorStatusMap.lookup sensor :=
          hbefore.1.caches sensor fun other hother ↦ huncached other (hcalls other hother)

end Caches

section Calls

variable {ε : Type}

/-- For sensors without a cycle a read returns, and what is under collecting is passed on by all its
calls exactly when none of them reads a backup sensor that is under collecting. -/
theorem underCollecting_passedOn_iff (env : ReadEnv ε) (forceNoCache : Bool)
    (sensorStatusMap : SensorStatusMap) (helpers : ε) {name : String}
    (hacyclic : AcyclicFrom (ReadsFrom env.sensorInfoMap) name) :
    ((∃ bound, ∀ fuel ≥ bound,
        readThermalSensor env forceNoCache fuel (startReading sensorStatusMap helpers) name ≠
          .error .outOfFuel) ∧
      ∀ fuel final call,
        readThermalSensor env forceNoCache fuel (startReading sensorStatusMap helpers) name =
          .ok (final, call) →
            CachesByCalls (startReading sensorStatusMap helpers) final ∧
              ∀ other ∈ final.calls, other.PassesOn) ↔
      ∀ fuel final call,
        readThermalSensor env forceNoCache fuel (startReading sensorStatusMap helpers) name =
          .ok (final, call) → ∀ other ∈ final.calls, other.usesCollectingBackup = false := by
  have hends : ∃ bound, ∀ fuel ≥ bound,
      readThermalSensor env forceNoCache fuel (startReading sensorStatusMap helpers) name ≠
        .error .outOfFuel := by
    obtain ⟨bound, hbound⟩ := readThermalSensor_ends_of_acyclic env forceNoCache hacyclic
    exact ⟨bound, fun fuel hfuel ↦ hbound fuel hfuel _⟩
  have hstart : BackupsToBlame (startReading sensorStatusMap helpers) :=
    ⟨fun _ h ↦ absurd h List.not_mem_nil, fun _ h ↦ absurd h List.not_mem_nil,
      fun _ _ h ↦ absurd h List.not_mem_nil⟩
  rw [and_iff_right hends]
  apply forall_congr'
  intro fuel
  apply forall_congr'
  intro final
  apply forall_congr'
  intro call
  apply imp_congr_right
  intro hread
  have hblame := (readThermalSensor_records forceNoCache fuel _ name final call hread).2.keeps hstart
  rw [and_iff_right (readThermalSensor_caches env forceNoCache fuel _ name final call hread)]
  apply Iff.intro
  · intro hpasses other hother
    rw [Bool.eq_false_iff]
    intro huses
    have hcollecting : other.dependsOnCollecting = true := by
      obtain ⟨input, hinput⟩ := List.any_eq_true.mp huses
      apply List.any_eq_true.mpr
      refine ⟨input, hinput.1, ?_⟩
      have hunder := (Bool.and_eq_true_iff.mp hinput.2).2
      cases input with
      | rail power => exact hunder
      | prediction outcome => exact hunder
      | sensor isBackup outcome dependsOnCollecting => exact Bool.or_eq_true_iff.mpr (Or.inl hunder)
    obtain ⟨temp, htemp⟩ := hblame.answered other hother huses
    exact (hpasses other hother hcollecting).1 temp htemp
  · intro hnone other hother
    by_contra hfails
    obtain ⟨culprit, hculprit⟩ := hblame.calls other hother hfails
    rw [hnone culprit hculprit.1] at hculprit
    cases hculprit.2

end Calls

/-- A virtual sensor that links one source. -/
def linkingSensor (source : String) (type : SensorFusionType) (formula : FormulaOption)
    (backupSensor : String) : SensorInfo :=
  { (default : SensorInfo) with
    virtualSensorInfo := some ⟨[source], [type], ["1"], [.constant], 0, [], formula, "", backupSensor⟩ }

/-- A model for the skin over another sensor, with a backup that is computed from a rail. -/
def skinSensors (linked : String) : SensorInfoMap :=
  (((∅ : SensorInfoMap).insert "therm" default).insert "rail-temp"
    (linkingSensor "rail" .odpm .weightedAvg "")).insert "skin"
      (linkingSensor linked .sensor .useMlModel "rail-temp")

def skinStatuses : SensorStatusMap :=
  (((∅ : SensorStatusMap).insert "therm" default).insert "rail-temp" default).insert "skin" default

/-- The rail is under collecting, and an unset variable holds 7. -/
def skinEnv (linked : String) (answer : EstimateAnswer) : ReadEnv Unit where
  sensorInfoMap := skinSensors linked
  powerStatusMap := (∅ : PowerStatusMap).insert "rail" ⟨0, [], .nan, true⟩
  cdevMaxRequest _ := none
  readThermalFile _ _ := some "30"
  now _ := 0
  unset _ := .fin 7
  estimate _ helpers _ _ := (helpers, answer)
  updatePredictions _ helpers _ _ := helpers
  readPrediction _ _ _ := .error

theorem subSensorsOf_skinSensors (linked : String) {name : String} (hname : name ≠ "skin") :
    subSensorsOf (skinSensors linked) name = [] := by
  unfold subSensorsOf skinSensors
  rw [AList.lookup_insert_ne hname]
  by_cases hrail : name = "rail-temp"
  · rw [hrail]
    decide +kernel
  · by_cases htherm : name = "therm"
    · rw [htherm]
      decide +kernel
    · rw [AList.lookup_insert_ne hrail, AList.lookup_insert_ne htherm]
      rfl

theorem acyclicFrom_skinSensors {linked : String} (hlinked : linked ≠ "skin")
    (hsubs : subSensorsOf (skinSensors linked) "skin" = [linked, "rail-temp"]) :
    AcyclicFrom (ReadsFrom (skinSensors linked)) "skin" := by
  apply AcyclicFrom.of_rank fun name ↦ if name = "skin" then 1 else 0
  intro name sub hsub
  unfold ReadsFrom at hsub
  by_cases hname : name = "skin"
  · rw [hname, hsubs, List.mem_pair] at hsub
    rw [if_pos hname]
    apply hsub.elim
    · intro hsame
      rw [hsame, if_neg hlinked]
      exact Nat.zero_lt_one
    · intro hsame
      rw [hsame]
      decide
  · rw [subSensorsOf_skinSensors linked hname] at hsub
    exact absurd hsub List.not_mem_nil

/-- A sensor over one that is under collecting is under collecting, and its model is not asked. -/
theorem underCollecting_linkedSensor :
    ((∃ bound, ∀ fuel ≥ bound,
        readThermalSensor (skinEnv "rail-temp" .failed) false fuel (startReading skinStatuses ()) "skin" ≠
          .error .outOfFuel) ∧
      ∀ fuel final call,
        readThermalSensor (skinEnv "rail-temp" .failed) false fuel (startReading skinStatuses ()) "skin" =
          .ok (final, call) →
            CachesByCalls (startReading skinStatuses ()) final ∧
              ∀ other ∈ final.calls, other.PassesOn) ∧
      (readThermalSensor (skinEnv "rail-temp" .failed) false 2 (startReading skinStatuses ())
        "skin").toOption.map (fun result ↦ result.1.calls.map ReadCall.outcome) =
          some [.underCollecting, .underCollecting] := by
  refine ⟨(underCollecting_passedOn_iff (skinEnv "rail-temp" .failed) false skinStatuses ()
    (acyclicFrom_skinSensors (by decide) (by decide +kernel))).mpr ?_, rfl⟩
  intro fuel final call hread
  match fuel with
  | 0 => cases hread
  | 1 => cases hread
  | fuel + 2 =>
    have hcalls : some [false, false] = some (final.calls.map ReadCall.usesCollectingBackup) :=
      congrArg (fun result ↦
        result.toOption.map fun r ↦ r.1.calls.map ReadCall.usesCollectingBackup) hread
    intro other hother
    have hin := List.mem_map_of_mem (f := ReadCall.usesCollectingBackup) hother
    rw [← Option.some.inj hcalls, List.mem_pair, or_self] at hin
    exact hin

/-- The model is not sure of its answer, its backup is under collecting, and the temperature is what
an unset variable holds. -/
theorem underCollecting_unsetBackup :
    ¬ ∀ (env : ReadEnv Unit) (forceNoCache : Bool) (sensorStatusMap : SensorStatusMap)
      (helpers : Unit) (name : String), AcyclicFrom (ReadsFrom env.sensorInfoMap) name →
        ∀ fuel final call,
          readThermalSensor env forceNoCache fuel (startReading sensorStatusMap helpers) name =
            .ok (final, call) → ∀ other ∈ final.calls, other.PassesOn := by
  intro hall
  have hread : (readThermalSensor (skinEnv "therm" .lowConfidence) false 2
      (startReading skinStatuses ()) "skin").toOption.map (fun result ↦
        (result.1.calls.any fun call ↦ call.outcome = .okay (.fin 7) ∧
          call.dependsOnCollecting = true)) = some true := by decide +kernel
  cases hrun : readThermalSensor (skinEnv "therm" .lowConfidence) false 2 (startReading skinStatuses ())
      "skin" with
  | error halt =>
    rw [hrun] at hread
    cases hread
  | ok result =>
    rw [hrun] at hread
    obtain ⟨call, hcall⟩ := List.any_eq_true.mp (Option.some.inj hread)
    have hanswers := of_decide_eq_true hcall.2
    have hpasses := hall _ _ _ _ _
      (acyclicFrom_skinSensors (by decide) (by decide +kernel)) 2 result.1 result.2 hrun call hcall.1
    exact (hpasses hanswers.2).1 _ hanswers.1

end HardwareMediatek.Thermal
