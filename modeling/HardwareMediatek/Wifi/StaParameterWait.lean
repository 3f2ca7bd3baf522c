import HardwareMediatek.Wifi.NanSingleton

/-!
# Waiting for the statistics response

`getNanStaParameter` sends a request and waits on a condition variable that the event thread signals
after every event. The requester starts, sends, begins to wait and returns from the wait; the event
thread handles an event and signals. The deadline and wakeups without a signal end a wait as well.
-/

namespace HardwareMediatek.Wifi

open Foundation

section Handling

/-- What `handleNanResponse` reads of the timing and synchronisation statistics. -/
structure NanSyncStats where
  myRank : UInt64
  currAmBTT : UInt32
  currAmHopCount : UInt8
  ndpChannelFreq : UInt32
  deriving DecidableEq, Repr

structure NanStaParameter where
  master_rank : UInt64
  master_pref : UInt8
  random_factor : UInt8
  hop_count : UInt8
  beacon_transmit_time : UInt32
  ndp_channel_freq : UInt32
  deriving DecidableEq, Repr

def nanResponseStats : UInt32 := 7

structure NanResponseMsg where
  response_type : UInt32
  stats_type : UInt32
  sync_stats : NanSyncStats

/-- An event as it comes out of `handleEvent`: a response with what `getNanResponse` returned and
filled in, or another one, which may also have failed to parse. -/
inductive HandledEvent where
  | response (ret : ℤ) (rsp_data : NanResponseMsg)
  | other

/-- The response that the requester waits for. -/
def HandledEvent.timingSync : HandledEvent → Option NanSyncStats
  | .response ret rsp_data =>
      if ret = 0 ∧ rsp_data.response_type = nanResponseStats ∧
          rsp_data.stats_type.toNat = nanStatsIdDeTimingSync then
        some rsp_data.sync_stats
      else none
  | .other => none

def staParameterOf (pSyncStats : NanSyncStats) : NanStaParameter where
  master_rank := pSyncStats.myRank
  master_pref := ((pSyncStats.myRank &&& 0xFF00000000000000) >>> 56).toUInt8
  random_factor := ((pSyncStats.myRank &&& 0x00FF000000000000) >>> 48).toUInt8
  hop_count := pSyncStats.currAmHopCount
  beacon_transmit_time := pSyncStats.currAmBTT
  ndp_channel_freq := pSyncStats.ndpChannelFreq

end Handling

section Waiting

inductive RequesterPhase where
  | idle
  | started
  | sent
  | waiting
  deriving DecidableEq, Repr

/-- The requester, whether `mStaParam` points to its `*pRsp`, what that holds, and whether the event
thread has handled an event that it has yet to signal. -/
structure WaitSystem where
  requester : RequesterPhase := .idle
  mStaParam : Bool := false
  pRsp : NanStaParameter
  toSignal : Bool := false

inductive WaitStep where
  /-- `create` and `set_iface_id`, with what comes of them -/
  | start (ret : WifiError)
  /-- `putNanStats` and `requestEvent` -/
  | send (ret : WifiError)
  | beginWait
  /-- `pthread_cond_timedwait` returns a status without a signal, at the deadline `ETIMEDOUT` -/
  | unsignalled (status : ℕ)
  | handle (event : HandledEvent)
  | signal

inductive WaitEffect where
  | called
  | decoded (staParam : NanStaParameter)
  | returned (ret : WifiError)
  deriving DecidableEq, Repr

/-- `mStaParam = NULL; return ret;` -/
def WaitSystem.leave (system : WaitSystem) : WaitSystem :=
  { system with requester := .idle, mStaParam := false }

/-- What the call returns for the status of the wait. A timeout has a branch of its own, which
returns the same. -/
def retOfWait (status : ℤ) : WifiError := mapKernelErrortoWifiHalError status

def WaitSystem.step (system : WaitSystem) : WaitStep → Option (WaitSystem × List WaitEffect)
  | .start ret =>
      if system.requester = .idle then
        if ret = .success then
          some ({ system with requester := .started, mStaParam := true }, [.called])
        else some (system.leave, [.called, .returned ret])
      else none
  | .send ret =>
      if system.requester = .started then
        if ret = .success then some ({ system with requester := .sent }, [])
        else some (system.leave, [.returned ret])
      else none
  | .beginWait =>
      if system.requester = .sent then some ({ system with requester := .waiting }, []) else none
  | .unsignalled status =>
      if system.requester = .waiting then some (system.leave, [.returned (retOfWait status)])
      else none
  | .handle event =>
      if system.toSignal then none
      else
        match event.timingSync with
        | some pSyncStats =>
            if system.mStaParam then
              some ({ system with pRsp := staParameterOf pSyncStats, toSignal := true },
                [.decoded (staParameterOf pSyncStats)])
            else some ({ system with toSignal := true }, [])
        | none => some ({ system with toSignal := true }, [])
  | .signal =>
      if system.toSignal then
        if system.requester = .waiting then
          some ({ system.leave with toSignal := false }, [.returned (retOfWait 0)])
        else some ({ system with toSignal := false }, [])
      else none

end Waiting

section Order

def WaitEffect.isCalled : WaitEffect → Bool
  | .called => true
  | _ => false

def WaitEffect.isDecoded : WaitEffect → Bool
  | .decoded _ => true
  | _ => false

/-- A response was decoded into `*pRsp` since the last call began. -/
def decodedInCall (effects : List WaitEffect) : Bool :=
  anySince WaitEffect.isCalled WaitEffect.isDecoded effects

/-- Success means that a response was decoded during the call, and a timeout that none was. -/
def WaitEffect.Right (before : List WaitEffect) : WaitEffect → Prop
  | .returned ret =>
      (ret = .success → decodedInCall before = true) ∧
        (ret = .timedOut → decodedInCall before = false)
  | _ => True

/-- A call that comes as far as `mStaParam = pRsp`. -/
def WaitStep.starts : WaitStep → Bool
  | .start ret => ret = .success
  | _ => false

def WaitStep.answers : WaitStep → Bool
  | .handle event => event.timingSync.isSome
  | _ => false

/-- A response is handled after the call has set `mStaParam`. -/
def answered (steps : List WaitStep) : Bool := anySince WaitStep.starts WaitStep.answers steps

def WaitStep.endsWait : WaitStep → Bool
  | .signal => true
  | .unsignalled _ => true
  | _ => false

def WaitStep.isBeginWait : WaitStep → Bool
  | .beginWait => true
  | _ => false

/-- A wait has begun that no signal or return has ended. -/
def waits (steps : List WaitStep) : Bool := anySince WaitStep.endsWait WaitStep.isBeginWait steps

/-- What ends the wait comes after the response: the first signal behind its beginning, and a return
without one. A send that times out comes before the response. -/
def WaitStep.InOrder (steps : List WaitStep) : WaitStep → Prop
  | .send ret => ret = .timedOut → answered steps = false
  | .unsignalled _ => answered steps = true
  | .signal => waits steps = true → answered steps = true
  | _ => True

end Order

section Runs

variable {system final : WaitSystem} {steps : List WaitStep} {effects new : List WaitEffect}

/-- What the steps and effects of a run say about the system. -/
structure WaitSystemOf (steps : List WaitStep) (system : WaitSystem) (effects : List WaitEffect) :
    Prop where
  waiting : waits steps = true ↔ system.requester = .waiting
  mStaParam : system.mStaParam = true ↔ system.requester ≠ .idle
  decoded : system.requester ≠ .idle → decodedInCall effects = answered steps

theorem waitSystemOf_initial (pRsp : NanStaParameter) : WaitSystemOf [] { pRsp := pRsp } [] where
  waiting := by simp [waits]
  mStaParam := by simp
  decoded hidle := absurd rfl hidle

variable (steps) in
theorem waits_concat (step : WaitStep) :
    waits (steps ++ [step]) = (!step.endsWait && (step.isBeginWait || waits steps)) :=
  anySince_concat _ _ steps step

variable (steps) in
theorem answered_concat (step : WaitStep) :
    answered (steps ++ [step]) = (!step.starts && (step.answers || answered steps)) :=
  anySince_concat _ _ steps step

variable (effects) in
theorem decodedInCall_concat (effect : WaitEffect) :
    decodedInCall (effects ++ [effect]) =
      (!effect.isCalled && (effect.isDecoded || decodedInCall effects)) :=
  anySince_concat _ _ effects effect

/-- What each step can do. -/
inductive WaitSystem.StepCase (system : WaitSystem) :
    WaitStep → WaitSystem → List WaitEffect → Prop where
  | started (hidle : system.requester = .idle) :
      StepCase system (.start .success) { system with requester := .started, mStaParam := true }
        [.called]
  | notStarted {ret : WifiError} (hidle : system.requester = .idle) (hret : ret ≠ .success) :
      StepCase system (.start ret) system.leave [.called, .returned ret]
  | sent (hstarted : system.requester = .started) :
      StepCase system (.send .success) { system with requester := .sent } []
  | notSent {ret : WifiError} (hstarted : system.requester = .started) (hret : ret ≠ .success) :
      StepCase system (.send ret) system.leave [.returned ret]
  | begins (hsent : system.requester = .sent) :
      StepCase system .beginWait { system with requester := .waiting } []
  | unsignalled {status : ℕ} (hwaiting : system.requester = .waiting) :
      StepCase system (.unsignalled status) system.leave [.returned (retOfWait status)]
  | decoded {event : HandledEvent} {pSyncStats : NanSyncStats}
      (hevent : event.timingSync = some pSyncStats) (hparam : system.mStaParam = true) :
      StepCase system (.handle event)
        { system with pRsp := staParameterOf pSyncStats, toSignal := true }
        [.decoded (staParameterOf pSyncStats)]
  | passed {event : HandledEvent}
      (hpassed : event.timingSync = none ∨ system.mStaParam = false) :
      StepCase system (.handle event) { system with toSignal := true } []
  | woken (hwaiting : system.requester = .waiting) :
      StepCase system .signal { system.leave with toSignal := false } [.returned (retOfWait 0)]
  | lost (hnot : system.requester ≠ .waiting) :
      StepCase system .signal { system with toSignal := false } []

theorem WaitSystem.step_cases {step : WaitStep} (hstep : system.step step = some (final, new)) :
    system.StepCase step final new := by
  cases step with
  | start ret =>
    dsimp only [WaitSystem.step] at hstep
    split_ifs at hstep with hidle hret
    · cases hstep
      rw [hret]
      exact .started hidle
    · cases hstep
      exact .notStarted hidle hret
  | send ret =>
    dsimp only [WaitSystem.step] at hstep
    split_ifs at hstep with hstarted hret
    · cases hstep
      rw [hret]
      exact .sent hstarted
    · cases hstep
      exact .notSent hstarted hret
  | beginWait =>
    dsimp only [WaitSystem.step] at hstep
    split_ifs at hstep with hsent
    cases hstep
    exact .begins hsent
  | unsignalled status =>
    dsimp only [WaitSystem.step] at hstep
    split_ifs at hstep with hwaiting
    cases hstep
    exact .unsignalled hwaiting
  | handle event =>
    change (if system.toSignal = true then none else _) = _ at hstep
    by_cases hsignal : system.toSignal = true
    · rw [if_pos hsignal] at hstep
      cases hstep
    · rw [if_neg hsignal] at hstep
      cases hevent : event.timingSync with
      | none =>
        rw [hevent] at hstep
        cases hstep
        exact .passed (Or.inl hevent)
      | some pSyncStats =>
        rw [hevent] at hstep
        dsimp only at hstep
        by_cases hparam : system.mStaParam = true
        · rw [if_pos hparam] at hstep
          cases hstep
          exact .decoded hevent hparam
        · rw [if_neg hparam] at hstep
          cases hstep
          exact .passed (Or.inr (Bool.eq_false_iff.mpr hparam))
  | signal =>
    dsimp only [WaitSystem.step] at hstep
    split_ifs at hstep with hsignal hwaiting
    · cases hstep
      exact .woken hwaiting
    · cases hstep
      exact .lost hwaiting

/-- A step that neither returns nor starts, whatever it does to the phase of a call in progress. -/
theorem WaitSystemOf.step (hinv : WaitSystemOf steps system effects) {step : WaitStep}
    (hstep : system.step step = some (final, new)) :
    WaitSystemOf (steps ++ [step]) final (effects ++ new) := by
  have hwaits := hinv.waiting
  have hparam := hinv.mStaParam
  have hdecoded := hinv.decoded
  cases WaitSystem.step_cases hstep with
  | started hidle =>
    apply WaitSystemOf.mk
    · rw [waits_concat]
      simp [WaitStep.isBeginWait, hwaits, hidle]
    · simp
    · intro _
      rw [decodedInCall_concat, answered_concat]
      rfl
  | notStarted hidle hret =>
    apply WaitSystemOf.mk
    · rw [waits_concat]
      simp [WaitStep.isBeginWait, hwaits, hidle, WaitSystem.leave]
    · simp [WaitSystem.leave]
    · intro hnot
      exact absurd rfl hnot
  | sent hstarted =>
    apply WaitSystemOf.mk
    · rw [waits_concat]
      simp [WaitStep.isBeginWait, hwaits, hstarted]
    · simp [hparam, hstarted]
    · intro _
      rw [List.append_nil, answered_concat, hdecoded (by simp [hstarted])]
      rfl
  | notSent hstarted hret =>
    apply WaitSystemOf.mk
    · rw [waits_concat]
      simp [WaitStep.isBeginWait, hwaits, hstarted, WaitSystem.leave]
    · simp [WaitSystem.leave]
    · intro hnot
      exact absurd rfl hnot
  | begins hsent =>
    apply WaitSystemOf.mk
    · rw [waits_concat]
      simp [WaitStep.isBeginWait, WaitStep.endsWait]
    · simp [hparam, hsent]
    · intro _
      rw [List.append_nil, answered_concat, hdecoded (by simp [hsent])]
      rfl
  | unsignalled hwaiting =>
    apply WaitSystemOf.mk
    · rw [waits_concat]
      simp [WaitStep.endsWait, WaitSystem.leave]
    · simp [WaitSystem.leave]
    · intro hnot
      exact absurd rfl hnot
  | decoded hevent hset =>
    apply WaitSystemOf.mk
    · rw [waits_concat]
      simp [WaitStep.isBeginWait, WaitStep.endsWait, hwaits]
    · exact hparam
    · intro _
      rw [decodedInCall_concat, answered_concat]
      simp [WaitEffect.isCalled, WaitEffect.isDecoded, WaitStep.starts, WaitStep.answers, hevent]
  | passed hpassed =>
    apply WaitSystemOf.mk
    · rw [waits_concat]
      simp [WaitStep.isBeginWait, WaitStep.endsWait, hwaits]
    · exact hparam
    · intro hnot
      have hevent := hpassed.resolve_right (by rw [hparam.mpr hnot]; decide)
      rw [List.append_nil, answered_concat, hdecoded hnot]
      simp [WaitStep.starts, WaitStep.answers, hevent]
  | woken hwaiting =>
    apply WaitSystemOf.mk
    · rw [waits_concat]
      simp [WaitStep.endsWait, WaitSystem.leave]
    · simp [WaitSystem.leave]
    · intro hnot
      exact absurd rfl hnot
  | lost hnot =>
    apply WaitSystemOf.mk
    · rw [waits_concat]
      simp [WaitStep.endsWait, hnot]
    · exact hparam
    · intro hactive
      rw [List.append_nil, answered_concat, hdecoded hactive]
      rfl

theorem retOfWait_eq_success {status : ℤ} (hstatus : 0 ≤ status) : retOfWait status = .success :=
  (mapKernelErrortoWifiHalError_eq_success_iff status).mpr hstatus

/-- A wait ends well when a response was decoded before. -/
theorem returned_success_right_iff {status : ℤ} (hsuccess : retOfWait status = .success) :
    EachAfter (fun earlier ↦ WaitEffect.Right (effects ++ earlier)) [.returned (retOfWait status)] ↔
      decodedInCall effects = true := by
  rw [eachAfter_singleton, List.append_nil, hsuccess]
  apply Iff.intro
  · intro hright
    exact hright.1 rfl
  · intro hdecoded
    exact ⟨fun _ ↦ hdecoded, by intro htimeout; cases htimeout⟩

theorem waitStep_right_iff (hinv : WaitSystemOf steps system effects) {step : WaitStep}
    (hstep : system.step step = some (final, new)) :
    EachAfter (fun earlier ↦ WaitEffect.Right (effects ++ earlier)) new ↔ step.InOrder steps := by
  cases WaitSystem.step_cases hstep with
  | started hidle =>
    rw [eachAfter_singleton]
    exact Iff.rfl
  | notStarted hidle hret =>
    rename_i ret
    have hreset : decodedInCall (effects ++ [WaitEffect.called]) = false := by
      rw [decodedInCall_concat]
      rfl
    change EachAfter _ ([WaitEffect.called] ++ [WaitEffect.returned ret]) ↔ _
    rw [eachAfter_append, eachAfter_singleton, eachAfter_singleton]
    apply iff_of_true _ trivial
    apply And.intro trivial
    exact ⟨fun hsuccess ↦ absurd hsuccess hret, fun _ ↦ hreset⟩
  | sent hstarted =>
    apply iff_of_true (eachAfter_nil _)
    intro htimeout
    cases htimeout
  | notSent hstarted hret =>
    have hdecoded := hinv.decoded (by rw [hstarted]; decide)
    rw [eachAfter_singleton, List.append_nil]
    apply Iff.intro
    · intro hright htimeout
      rw [← hdecoded]
      exact hright.2 htimeout
    · intro hinOrder
      apply And.intro (fun hsuccess ↦ absurd hsuccess hret)
      intro htimeout
      rw [hdecoded]
      exact hinOrder htimeout
  | begins hsent => exact iff_of_true (eachAfter_nil _) trivial
  | unsignalled hwaiting =>
    rename_i status
    rw [returned_success_right_iff (retOfWait_eq_success (Int.natCast_nonneg status)),
      hinv.decoded (by rw [hwaiting]; decide)]
    exact Iff.rfl
  | decoded hevent hset =>
    rw [eachAfter_singleton]
    exact Iff.rfl
  | passed hpassed => exact iff_of_true (eachAfter_nil _) trivial
  | woken hwaiting =>
    rw [returned_success_right_iff (retOfWait_eq_success (Int.le_refl 0)),
      hinv.decoded (by rw [hwaiting]; decide)]
    apply Iff.intro
    · intro hanswered _
      exact hanswered
    · intro hinOrder
      exact hinOrder (hinv.waiting.mpr hwaiting)
  | lost hnot =>
    apply iff_of_true (eachAfter_nil _)
    intro hwaits
    exact absurd (hinv.waiting.mp hwaits) hnot

/-- A run of the requester and the event thread returns what it should exactly when its steps are in
order. -/
theorem waitSteps_right_iff {pRsp : NanStaParameter} {steps : List WaitStep} {system : WaitSystem}
    {effects : List WaitEffect}
    (hrun : runSteps WaitSystem.step { pRsp := pRsp } steps = some (system, effects)) :
    EachAfter WaitEffect.Right effects ↔ EachAfter WaitStep.InOrder steps :=
  eachAfter_effects_iff WaitSystem.step WaitSystemOf WaitEffect.Right WaitStep.InOrder
    (waitSystemOf_initial pRsp) (fun _ _ _ _ _ _ hinv hstep ↦ hinv.step hstep)
    (fun _ _ _ _ _ _ hinv hstep ↦ waitStep_right_iff hinv hstep) hrun

def unfilled : NanStaParameter := ⟨0, 0, 0, 0, 0, 0⟩

/-- A wait that another event ends, and one that nothing ends before the deadline. -/
theorem waitSteps_not_right :
    (∃ system effects,
      runSteps WaitSystem.step { pRsp := unfilled }
        [.start .success, .send .success, .beginWait, .handle .other, .signal] =
          some (system, effects) ∧ ¬ EachAfter WaitEffect.Right effects) ∧
    ∃ system effects,
      runSteps WaitSystem.step { pRsp := unfilled }
        [.start .success, .send .success, .beginWait, .unsignalled 110] =
          some (system, effects) ∧ ¬ EachAfter WaitEffect.Right effects := by
  apply And.intro
  · apply Exists.intro _
    apply Exists.intro _
    apply And.intro rfl
    intro heach
    have hreturned := heach [.called] _ _ rfl
    exact absurd (hreturned.1 rfl) (by decide)
  · apply Exists.intro _
    apply Exists.intro _
    apply And.intro rfl
    intro heach
    have hreturned := heach [.called] _ _ rfl
    exact absurd (hreturned.1 rfl) (by decide)

def timingSyncEvent : HandledEvent := .response 0 ⟨nanResponseStats, 3, ⟨0x8042000000000000, 5, 1, 2437⟩⟩

/-- The response is handled before the wait begins, and its signal is lost. -/
def answeredSteps : List WaitStep :=
  [.start .success, .send .success, .handle timingSyncEvent, .signal, .beginWait, .unsignalled 110]

theorem answeredSteps_right_iff :
    ∃ system effects,
      runSteps WaitSystem.step { pRsp := unfilled } answeredSteps = some (system, effects) ∧
        (EachAfter WaitEffect.Right effects ↔ EachAfter WaitStep.InOrder answeredSteps) := by
  have hrun : runSteps WaitSystem.step { pRsp := unfilled } answeredSteps = some (_, _) := rfl
  exact ⟨_, _, hrun, waitSteps_right_iff hrun⟩

end Runs

end HardwareMediatek.Wifi
