import HardwareMediatek.Wifi.NanSingleton

/-!
# Runs of the one NAN command object

What the object holds after a run is what the order of the steps says: the subcommand of the last
event, a message with the subcommand of the last event before it was created, and a pointer of the last
step that moved it. So a run sends and frees what it should exactly when its steps are in order.
-/

namespace HardwareMediatek.Wifi

open Foundation

section Cases

/-- What each step can do. -/
inductive NanSystem.StepCase (system : NanSystem) : NanStep → NanSystem → List NanEffect → Prop where
  | created {call : ℕ} {env : RequestEnv} {message : Message}
      (hphase : system.phase call = .notCalled)
      (hcreate : create system.nan.mVendor_id system.nan.mSubcmd env = .ok message) :
      StepCase system (.create call env)
        (system.advance { system.nan with mMsg := some message } call .created) []
  | notCreated {call : ℕ} {env : RequestEnv} (hphase : system.phase call = .notCalled) :
      StepCase system (.create call env)
        (system.advance { system.nan with mMsg := none } call .returned) []
  | bound {call : ℕ} {env : RequestEnv} {mMsg message : Message}
      (hphase : system.phase call = .created) (hmsg : system.nan.mMsg = some mMsg)
      (hset : setIfaceId env mMsg = .ok message) :
      StepCase system (.setIfaceId call env)
        (system.advance { system.nan with mMsg := some message } call .bound) []
  | notBound {call : ℕ} {env : RequestEnv} (hphase : system.phase call = .created) :
      StepCase system (.setIfaceId call env) (system.advance system.nan call .returned) []
  | put {call : ℕ} {env : PutStatsEnv} {mMsg : Message} (hphase : system.phase call = .bound)
      (hmsg : system.nan.mMsg = some mMsg) (hsucceeds : env.Succeeds) :
      StepCase system (.putNanStats call env)
        (system.advance
          { system.nan with
            mVendorData := some (.request call)
            mMsg := some (mMsg.add (.payload (.nl80211 .vendorData) nanStatsReqMsg)) }
          call .put)
        [.allocated call]
  | refused {call : ℕ} {env : PutStatsEnv} (hphase : system.phase call = .bound)
      (hmalloc : env.malloc = true) (hfails : ¬ env.Succeeds) :
      StepCase system (.putNanStats call env) (system.advance system.nan.cleanup call .returned)
        [.allocated call, .freed call (.request call)]
  | noMemory {call : ℕ} {env : PutStatsEnv} (hphase : system.phase call = .bound)
      (hmalloc : env.malloc = false) :
      StepCase system (.putNanStats call env) (system.advance system.nan.cleanup call .returned)
        (system.nan.freeVendorData call)
  | requested {call : ℕ} {env : RequestEnv} {sent : Option Message}
      (hphase : system.phase call = .put)
      (hmsg : env.cbAlloc = true ∧ env.cmdSock = true → system.nan.mMsg ≠ none)
      (hsent : sent = if env.cbAlloc = true ∧ env.cmdSock = true then system.nan.mMsg else none) :
      StepCase system (.requestEvent call env) (system.advance system.nan.cleanup call .returned)
        (sent.toList.map NanEffect.sent ++ system.nan.freeVendorData call)
  | event {event : NanVendorEvent} :
      StepCase system (.event event)
        { system with nan := system.nan.handleEvent event.attributes } []

theorem requestEvent_sent_eq (env : RequestEnv) (mMsg : Message) :
    (requestEvent env mMsg).sent =
      if env.cbAlloc = true ∧ env.cmdSock = true then some mMsg else none := by
  unfold requestEvent
  by_cases hcb : env.cbAlloc = true
  · by_cases hsock : env.cmdSock = true
    · by_cases hsend : env.sendStatus < 0
      · simp [hcb, hsock, hsend]
      · simp [hcb, hsock, hsend]
    · simp [hcb, hsock]
  · simp [hcb]

theorem NanSystem.step_cases {system next : NanSystem} {step : NanStep} {new : List NanEffect}
    (hstep : system.step step = some (next, new)) : system.StepCase step next new := by
  cases step with
  | create call env =>
    change (if system.phase call = .notCalled then _ else none) = _ at hstep
    by_cases hphase : system.phase call = .notCalled
    · rw [if_pos hphase] at hstep
      cases hcreate : create system.nan.mVendor_id system.nan.mSubcmd env with
      | ok message =>
        rw [hcreate] at hstep
        cases hstep
        exact .created hphase hcreate
      | error error =>
        rw [hcreate] at hstep
        cases hstep
        exact .notCreated hphase
    · rw [if_neg hphase] at hstep
      cases hstep
  | setIfaceId call env =>
    dsimp only [NanSystem.step] at hstep
    split at hstep
    · rename_i mMsg hphase hmsg
      cases hset : setIfaceId env mMsg with
      | ok message =>
        rw [hset] at hstep
        cases hstep
        exact .bound hphase hmsg hset
      | error error =>
        rw [hset] at hstep
        cases hstep
        exact .notBound hphase
    · cases hstep
  | putNanStats call env =>
    change (if system.phase call = .bound then _ else none) = _ at hstep
    by_cases hphase : system.phase call = .bound
    · rw [if_pos hphase] at hstep
      by_cases hmalloc : env.malloc = true
      · rw [if_pos hmalloc] at hstep
        split at hstep
        · rename_i mMsg hmsg hbytes
          cases hstep
          exact .put hphase hmsg ⟨hmalloc, hbytes⟩
        · rename_i mMsg error hmsg hbytes
          cases hstep
          apply NanSystem.StepCase.refused hphase hmalloc
          intro hsucceeds
          rw [hsucceeds.2] at hbytes
          cases hbytes
        · cases hstep
      · rw [if_neg hmalloc] at hstep
        cases hstep
        exact .noMemory hphase (Bool.eq_false_iff.mpr hmalloc)
    · rw [if_neg hphase] at hstep
      cases hstep
  | requestEvent call env =>
    change (if system.phase call = .put then _ else none) = _ at hstep
    by_cases hphase : system.phase call = .put
    · rw [if_pos hphase] at hstep
      split at hstep
      · rename_i mMsg hmsg
        cases hstep
        apply NanSystem.StepCase.requested hphase
        · intro _
          rw [hmsg]
          exact Option.some_ne_none mMsg
        · rw [hmsg, requestEvent_sent_eq]
      · rename_i hmsg
        by_cases hsends : env.cbAlloc = true ∧ env.cmdSock = true
        · rw [if_pos hsends] at hstep
          cases hstep
        · rw [if_neg hsends] at hstep
          cases hstep
          have hnone : (none : Option Message) =
              if env.cbAlloc = true ∧ env.cmdSock = true then system.nan.mMsg else none := by
            rw [if_neg hsends]
          exact .requested hphase (fun hyes ↦ absurd hyes hsends) hnone
    · rw [if_neg hphase] at hstep
      cases hstep
  | event event =>
    cases hstep
    exact .event

end Cases

section Histories

/-- The subcommand that an event leaves in the object. -/
def subcmdAfter : Option NanVendorEvent → UInt32
  | none => mtkSubcmdNan
  | some event => event.subcmd

/-- Where `mVendorData` points after the last step that moved it. -/
def vendorDataAfter : Option NanStep → Option VendorBuffer
  | some (.event _) => some .event
  | some (.putNanStats call env) => if env.Succeeds then some (.request call) else none
  | _ => none

variable (steps : List NanStep) (step : NanStep)

theorem lastEvent_concat :
    lastEvent (steps ++ [step]) = step.event?.or (lastEvent steps) := by
  unfold lastEvent
  rw [List.reverse_append, List.reverse_singleton, List.singleton_append, List.findSome?_cons]
  cases step.event? <;> rfl

theorem eventBeforeCreate_concat :
    eventBeforeCreate (steps ++ [step]) =
      if step.isCreate then lastEvent steps else eventBeforeCreate steps := by
  unfold eventBeforeCreate lastEvent
  rw [List.reverse_append, List.reverse_singleton, List.singleton_append, List.dropWhile_cons]
  cases step <;> rfl

theorem lastVendorDataStep_concat :
    lastVendorDataStep (steps ++ [step]) =
      if step.movesVendorData then some step else lastVendorDataStep steps := by
  unfold lastVendorDataStep
  rw [List.reverse_append, List.reverse_singleton, List.singleton_append, List.find?_cons]
  cases step.movesVendorData <;> rfl

theorem ownVendorData_iff (call : ℕ) :
    OwnVendorData steps call ↔
      ∀ buffer, vendorDataAfter (lastVendorDataStep steps) = some buffer →
        buffer = .request call := by
  unfold OwnVendorData
  cases hlast : lastVendorDataStep steps with
  | none => simp [vendorDataAfter]
  | some step =>
    cases step with
    | putNanStats other env => by_cases hsucceeds : env.Succeeds <;> simp [vendorDataAfter, hsucceeds]
    | event event => simp [vendorDataAfter]
    | create call env => simp [vendorDataAfter]
    | setIfaceId call env => simp [vendorDataAfter]
    | requestEvent call env => simp [vendorDataAfter]

end Histories

section Invariant

/-- The call has not come to its put function. -/
def StaParameterPhase.BeforePut (phase : StaParameterPhase) : Prop :=
  phase = .notCalled ∨ phase = .created ∨ phase = .bound

/-- The message that is created has the ids that the object had then. -/
structure CreatedMessage (steps : List NanStep) (message : Message) : Prop where
  nests : message.nests = []
  vendorId : messagePayloads (.nl80211 .vendorId) message = [u32Bytes ouiMtk]
  subcmd : messagePayloads (.nl80211 .vendorSubcmd) message =
    [u32Bytes (subcmdAfter (eventBeforeCreate steps))]

/-- What the steps and effects of a run say about the system. -/
structure SystemOf (steps : List NanStep) (system : NanSystem) (effects : List NanEffect) : Prop where
  vendor_id : system.nan.mVendor_id = ouiMtk
  subcmd : system.nan.mSubcmd = subcmdAfter (lastEvent steps)
  message : ∀ message, system.nan.mMsg = some message → CreatedMessage steps message
  vendorData : system.nan.mVendorData = vendorDataAfter (lastVendorDataStep steps)
  owned : ∀ call, system.nan.mVendorData = some (.request call) →
    .allocated call ∈ effects ∧ ∀ other, .freed other (.request call) ∉ effects
  beforePut : ∀ call, (system.phase call).BeforePut →
    system.nan.mVendorData ≠ some (.request call) ∧
      ∀ other, .freed other (.request call) ∉ effects

theorem systemOf_initial : SystemOf [] {} [] where
  vendor_id := rfl
  subcmd := rfl
  message message hmsg := by cases hmsg
  vendorData := rfl
  owned call hdata := by cases hdata
  beforePut call _ := And.intro (Option.some_ne_none _).symm fun other ↦ List.not_mem_nil

theorem messagePayloads_add {type added : AttrType} {message : Message} {data : List UInt8}
    (hnests : message.nests = []) (htype : added ≠ type) :
    messagePayloads type (message.add (.payload added data)) = messagePayloads type message := by
  unfold messagePayloads NlMessage.add
  rw [hnests]
  simp [htype]

theorem CreatedMessage.add {steps : List NanStep} {message : Message} {added : AttrType}
    {data : List UInt8} (hcreated : CreatedMessage steps message)
    (hid : added ≠ .nl80211 .vendorId) (hsubcmd : added ≠ .nl80211 .vendorSubcmd) :
    CreatedMessage steps (message.add (.payload added data)) where
  nests := by
    unfold NlMessage.add
    rw [hcreated.nests]
  vendorId := by rw [messagePayloads_add hcreated.nests hid, hcreated.vendorId]
  subcmd := by rw [messagePayloads_add hcreated.nests hsubcmd, hcreated.subcmd]

theorem createdMessage_of_create {system : NanSystem} {steps : List NanStep}
    {effects : List NanEffect} {call : ℕ} {env : RequestEnv} {message : Message}
    (hinv : SystemOf steps system effects)
    (hcreate : create system.nan.mVendor_id system.nan.mSubcmd env = .ok message) :
    CreatedMessage (steps ++ [.create call env]) message := by
  have hparts := (create_eq_ok_iff _ _ env message).mp hcreate
  have hattrs := hparts.2.2.1
  rw [hinv.vendor_id, hinv.subcmd] at hattrs
  apply CreatedMessage.mk hparts.2.2.2
  · unfold messagePayloads
    rw [hattrs]
    rfl
  · unfold messagePayloads
    rw [hattrs, eventBeforeCreate_concat]
    rfl

/-- Whoever is before its put function after a step of another call was so before. -/
theorem beforePut_of_advance {system : NanSystem} {nan : NanSingleton} {call other : ℕ}
    {phase : StaParameterPhase}
    (hother : ((system.advance nan call phase).phase other).BeforePut) :
    other = call ∧ phase.BeforePut ∨ other ≠ call ∧ (system.phase other).BeforePut := by
  change (Function.update system.phase call phase other).BeforePut at hother
  by_cases hsame : other = call
  · rw [hsame, Function.update_self] at hother
    exact Or.inl ⟨hsame, hother⟩
  · rw [Function.update_of_ne hsame] at hother
    exact Or.inr ⟨hsame, hother⟩

theorem not_beforePut_returned : ¬ StaParameterPhase.returned.BeforePut := by
  unfold StaParameterPhase.BeforePut
  decide

theorem not_beforePut_put : ¬ StaParameterPhase.put.BeforePut := by
  unfold StaParameterPhase.BeforePut
  decide

variable {system : NanSystem} {steps : List NanStep} {effects new : List NanEffect} {call : ℕ}

/-- A step before the put function, which leaves the pointer as it is. -/
theorem SystemOf.kept (hinv : SystemOf steps system effects)
    (hphase : (system.phase call).BeforePut) {step : NanStep}
    (hmoves : step.movesVendorData = false) (hevent : step.event? = none) (mMsg : Option Message)
    (hmsg : ∀ message, mMsg = some message → CreatedMessage (steps ++ [step]) message)
    (phase : StaParameterPhase) :
    SystemOf (steps ++ [step]) (system.advance { system.nan with mMsg := mMsg } call phase)
      (effects ++ []) := by
  rw [List.append_nil]
  apply SystemOf.mk
  · exact hinv.vendor_id
  · rw [lastEvent_concat, hevent]
    exact hinv.subcmd
  · exact hmsg
  · rw [lastVendorDataStep_concat, if_neg (by rw [hmoves]; exact Bool.false_ne_true)]
    exact hinv.vendorData
  · exact hinv.owned
  · intro other hother
    have hbefore := beforePut_of_advance hother
    apply hinv.beforePut other
    apply Or.elim hbefore
    · intro hsame
      rw [hsame.1]
      exact hphase
    · exact And.right

/-- A step that clears the pointer, after freeing it or the buffer of its own call. -/
theorem SystemOf.cleaned (hinv : SystemOf steps system effects) {step : NanStep}
    (hmoves : step.movesVendorData = true) (hafter : vendorDataAfter (some step) = none)
    (hevent : step.event? = none)
    (hnew : ∀ other buffer, NanEffect.freed other buffer ∈ new →
      buffer = .request call ∨ system.nan.mVendorData = some buffer) :
    SystemOf (steps ++ [step]) (system.advance system.nan.cleanup call .returned)
      (effects ++ new) := by
  apply SystemOf.mk
  · exact hinv.vendor_id
  · rw [lastEvent_concat, hevent]
    exact hinv.subcmd
  · intro message hmessage
    cases hmessage
  · rw [lastVendorDataStep_concat, if_pos hmoves, hafter]
    rfl
  · intro other hother
    cases hother
  · intro other hother
    apply And.intro (Option.some_ne_none _).symm
    intro freeing hfreed
    have hbefore := (beforePut_of_advance hother).resolve_left
      (fun hsame ↦ not_beforePut_returned hsame.2)
    have hfresh := hinv.beforePut other hbefore.2
    apply Or.elim (List.mem_append.mp hfreed)
    · exact hfresh.2 freeing
    · intro hfreed
      apply Or.elim (hnew freeing _ hfreed)
      · intro hsame
        exact hbefore.1 (VendorBuffer.request.inj hsame)
      · exact hfresh.1

/-- The put function, whose buffer is one that no one has freed. -/
theorem SystemOf.put (hinv : SystemOf steps system effects) {env : PutStatsEnv} {mMsg : Message}
    (hphase : system.phase call = .bound) (hmsg : system.nan.mMsg = some mMsg)
    (hsucceeds : env.Succeeds) :
    SystemOf (steps ++ [.putNanStats call env])
      (system.advance
        { system.nan with
          mVendorData := some (.request call)
          mMsg := some (mMsg.add (.payload (.nl80211 .vendorData) nanStatsReqMsg)) }
        call .put)
      (effects ++ [.allocated call]) := by
  have hfreed (other : ℕ) (buffer : VendorBuffer)
      (hmem : NanEffect.freed other buffer ∈ effects ++ [.allocated call]) :
      NanEffect.freed other buffer ∈ effects := by
    apply (List.mem_append.mp hmem).resolve_right
    intro hlast
    cases List.mem_singleton.mp hlast
  apply SystemOf.mk
  · exact hinv.vendor_id
  · rw [lastEvent_concat]
    exact hinv.subcmd
  · intro message hmessage
    cases hmessage
    have hcreated := hinv.message mMsg hmsg
    have hsame : CreatedMessage (steps ++ [.putNanStats call env]) mMsg := by
      apply CreatedMessage.mk hcreated.nests hcreated.vendorId
      rw [eventBeforeCreate_concat]
      exact hcreated.subcmd
    exact hsame.add (by decide) (by decide)
  · rw [lastVendorDataStep_concat]
    change some (VendorBuffer.request call) = if env.Succeeds then _ else _
    rw [if_pos hsucceeds]
  · intro other hother
    cases hother
    apply And.intro (List.mem_append_right effects (List.mem_singleton.mpr rfl))
    intro freeing hmem
    have hbound : (system.phase call).BeforePut := Or.inr (Or.inr hphase)
    exact (hinv.beforePut call hbound).2 freeing (hfreed freeing _ hmem)
  · intro other hother
    have hbefore := (beforePut_of_advance hother).resolve_left
      (fun hsame ↦ not_beforePut_put hsame.2)
    apply And.intro
    · intro hsame
      cases hsame
      exact hbefore.1 rfl
    · intro freeing hmem
      exact (hinv.beforePut other hbefore.2).2 freeing (hfreed freeing _ hmem)

theorem SystemOf.event (hinv : SystemOf steps system effects) (event : NanVendorEvent) :
    SystemOf (steps ++ [.event event])
      { system with nan := system.nan.handleEvent event.attributes } (effects ++ []) := by
  rw [List.append_nil]
  have hdata : (system.nan.handleEvent event.attributes).mVendorData =
      if event.vendor_data then some .event else system.nan.mVendorData := rfl
  have hrequest (other : ℕ)
      (hother : (system.nan.handleEvent event.attributes).mVendorData = some (.request other)) :
      system.nan.mVendorData = some (.request other) := by
    rw [hdata] at hother
    by_cases hvendor : event.vendor_data = true
    · rw [if_pos hvendor] at hother
      cases hother
    · rwa [if_neg hvendor] at hother
  apply SystemOf.mk
  · rfl
  · rw [lastEvent_concat]
    rfl
  · intro message hmessage
    have hcreated := hinv.message message hmessage
    apply CreatedMessage.mk hcreated.nests hcreated.vendorId
    rw [eventBeforeCreate_concat]
    exact hcreated.subcmd
  · rw [lastVendorDataStep_concat]
    change (if event.vendor_data then _ else _) =
      vendorDataAfter (if event.vendor_data then _ else _)
    by_cases hvendor : event.vendor_data = true
    · rw [if_pos hvendor, if_pos hvendor]
      rfl
    · rw [if_neg hvendor, if_neg hvendor]
      exact hinv.vendorData
  · intro other hother
    exact hinv.owned other (hrequest other hother)
  · intro other hother
    have hbefore := hinv.beforePut other hother
    apply And.intro _ hbefore.2
    intro hsame
    exact hbefore.1 (hrequest other hsame)

theorem mem_freeVendorData {nan : NanSingleton} {other : ℕ} {buffer : VendorBuffer}
    (hmem : NanEffect.freed other buffer ∈ nan.freeVendorData call) :
    nan.mVendorData = some buffer := by
  unfold NanSingleton.freeVendorData at hmem
  cases hdata : nan.mVendorData with
  | none =>
    rw [hdata] at hmem
    cases hmem
  | some found =>
    rw [hdata] at hmem
    cases List.mem_singleton.mp hmem
    rfl

theorem freed_notMem_sent {sent : Option Message} {other : ℕ} {buffer : VendorBuffer} :
    NanEffect.freed other buffer ∉ sent.toList.map NanEffect.sent := by
  intro hmem
  obtain ⟨message, hmessage⟩ := List.mem_map.mp hmem
  cases hmessage.2

/-- What one step makes of the invariant. -/
theorem SystemOf.step (hinv : SystemOf steps system effects) {next : NanStep} {final : NanSystem}
    (hstep : system.step next = some (final, new)) :
    SystemOf (steps ++ [next]) final (effects ++ new) := by
  cases NanSystem.step_cases hstep with
  | created hphase hcreate =>
    apply hinv.kept (Or.inl hphase) rfl rfl
    intro message hmessage
    cases hmessage
    exact createdMessage_of_create hinv hcreate
  | notCreated hphase =>
    apply hinv.kept (Or.inl hphase) rfl rfl
    intro message hmessage
    cases hmessage
  | bound hphase hmsg hset =>
    rename_i call env mMsg message
    have hcreated := hinv.message mMsg hmsg
    have hsame : CreatedMessage (steps ++ [.setIfaceId call env]) mMsg := by
      apply CreatedMessage.mk hcreated.nests hcreated.vendorId
      rw [eventBeforeCreate_concat]
      exact hcreated.subcmd
    apply hinv.kept (Or.inr (Or.inl hphase)) rfl rfl
    intro message hmessage
    cases hmessage
    rw [((setIfaceId_eq_ok_iff env mMsg message).mp hset).2]
    exact hsame.add (by decide) (by decide)
  | notBound hphase =>
    rename_i env
    apply hinv.kept (Or.inr (Or.inl hphase)) rfl rfl
    intro message hmessage
    have hcreated := hinv.message message hmessage
    apply CreatedMessage.mk hcreated.nests hcreated.vendorId
    rw [eventBeforeCreate_concat]
    exact hcreated.subcmd
  | put hphase hmsg hsucceeds => exact hinv.put hphase hmsg hsucceeds
  | refused hphase hmalloc hfails =>
    rename_i call env
    have hafter : vendorDataAfter (some (.putNanStats call env)) = none := if_neg hfails
    apply hinv.cleaned rfl hafter rfl
    intro other buffer hmem
    apply Or.inl
    have hlast := (List.mem_cons.mp hmem).resolve_left (by intro hfirst; cases hfirst)
    cases List.mem_singleton.mp hlast
    rfl
  | noMemory hphase hmalloc =>
    rename_i call env
    have hfails : ¬ env.Succeeds := by
      intro hsucceeds
      have hmemory := hsucceeds.1
      rw [hmalloc] at hmemory
      cases hmemory
    have hafter : vendorDataAfter (some (.putNanStats call env)) = none := if_neg hfails
    apply hinv.cleaned rfl hafter rfl
    intro other buffer hmem
    exact Or.inr (mem_freeVendorData hmem)
  | requested hphase hmsg hsent =>
    apply hinv.cleaned rfl rfl rfl
    intro other buffer hmem
    apply Or.inr
    exact mem_freeVendorData ((List.mem_append.mp hmem).resolve_left freed_notMem_sent)
  | event => exact hinv.event _

end Invariant

section Rights

variable {system : NanSystem} {steps : List NanStep} {effects : List NanEffect} {call : ℕ}

/-- Freeing the pointer is right if it is that of the call, as nobody has freed that one. -/
theorem freeVendorData_right_iff (hinv : SystemOf steps system effects) (call : ℕ)
    {before : List NanEffect} (hbefore : ∀ effect ∈ effects, effect ∈ before)
    (hfreed : ∀ other buffer, NanEffect.freed other buffer ∈ before →
      NanEffect.freed other buffer ∈ effects) :
    EachAfter (fun earlier ↦ NanEffect.Right (before ++ earlier)) (system.nan.freeVendorData call) ↔
      OwnVendorData steps call := by
  rw [ownVendorData_iff, ← hinv.vendorData]
  unfold NanSingleton.freeVendorData
  cases hdata : system.nan.mVendorData with
  | none => simp [eachAfter_nil]
  | some buffer =>
    dsimp only
    rw [eachAfter_singleton, List.append_nil]
    apply Iff.intro
    · intro hright found hfound
      rw [← Option.some.inj hfound]
      exact hright.1
    · intro hown
      have hsame := hown buffer rfl
      rw [hsame] at hdata
      have howned := hinv.owned call hdata
      apply And.intro hsame
      apply And.intro (hbefore _ howned.1)
      intro other hmem
      rw [hsame] at hmem
      exact howned.2 other (hfreed other _ hmem)

theorem subcmdAfter_bytes_iff (event : Option NanVendorEvent) :
    [u32Bytes (subcmdAfter event)] = [u32Bytes mtkSubcmdNan] ↔
      ∀ found, event = some found → found.ndp = false := by
  cases event with
  | none => simp [subcmdAfter]
  | some event =>
    have hbytes : u32Bytes mtkSubcmdNdp ≠ u32Bytes mtkSubcmdNan := by decide
    cases hndp : event.ndp <;> simp [subcmdAfter, NanVendorEvent.subcmd, hndp, hbytes]

theorem sent_right_iff (hinv : SystemOf steps system effects) {sends : Prop} [Decidable sends]
    (hput : sends → system.nan.mMsg ≠ none) :
    EachAfter (fun earlier ↦ NanEffect.Right (effects ++ earlier))
        ((if sends then system.nan.mMsg else none).toList.map NanEffect.sent) ↔
      (sends → ∀ event, eventBeforeCreate steps = some event → event.ndp = false) := by
  by_cases hsends : sends
  · rw [if_pos hsends]
    cases hmsg : system.nan.mMsg with
    | none => exact absurd hmsg (hput hsends)
    | some message =>
      have hcreated := hinv.message message hmsg
      change EachAfter _ [NanEffect.sent message] ↔ _
      rw [eachAfter_singleton, ← subcmdAfter_bytes_iff, ← hcreated.subcmd]
      apply Iff.intro
      · intro hright _
        exact hright.2
      · intro hsubcmd
        exact ⟨hcreated.vendorId, hsubcmd hsends⟩
  · rw [if_neg hsends]
    exact iff_of_true (eachAfter_nil _) (fun hyes ↦ absurd hyes hsends)

theorem freeVendorData_right_after (hinv : SystemOf steps system effects) (call : ℕ)
    (sent : Option Message) :
    EachAfter (fun earlier ↦ NanEffect.Right (effects ++ (sent.toList.map NanEffect.sent ++ earlier)))
        (system.nan.freeVendorData call) ↔ OwnVendorData steps call := by
  simp only [← List.append_assoc]
  apply freeVendorData_right_iff hinv call
  · intro effect hmem
    exact List.mem_append_left _ hmem
  · intro other buffer hmem
    exact (List.mem_append.mp hmem).resolve_right freed_notMem_sent

/-- The effects of one step are right exactly when it is taken in order. -/
theorem step_right_iff (hinv : SystemOf steps system effects) {next : NanStep} {final : NanSystem}
    {new : List NanEffect} (hstep : system.step next = some (final, new)) :
    EachAfter (fun earlier ↦ NanEffect.Right (effects ++ earlier)) new ↔ next.InOrder steps := by
  cases NanSystem.step_cases hstep with
  | created hphase hcreate => exact iff_of_true (eachAfter_nil _) trivial
  | notCreated hphase => exact iff_of_true (eachAfter_nil _) trivial
  | bound hphase hmsg hset => exact iff_of_true (eachAfter_nil _) trivial
  | notBound hphase => exact iff_of_true (eachAfter_nil _) trivial
  | event => exact iff_of_true (eachAfter_nil _) trivial
  | put hphase hmsg hsucceeds =>
    rename_i call env mMsg
    have hinOrder : (NanStep.putNanStats call env).InOrder steps := by
      intro hmalloc
      rw [hsucceeds.1] at hmalloc
      cases hmalloc
    rw [eachAfter_singleton]
    exact iff_of_true trivial hinOrder
  | refused hphase hmalloc hfails =>
    rename_i call env
    have hinOrder : (NanStep.putNanStats call env).InOrder steps := by
      intro hnone
      rw [hmalloc] at hnone
      cases hnone
    have hbound : (system.phase call).BeforePut := Or.inr (Or.inr hphase)
    apply iff_of_true _ hinOrder
    change EachAfter _ ([NanEffect.allocated call] ++ [NanEffect.freed call (.request call)])
    rw [eachAfter_append, eachAfter_singleton, eachAfter_singleton]
    apply And.intro trivial
    apply And.intro rfl
    apply And.intro
    · exact List.mem_append_right _ (List.mem_singleton.mpr rfl)
    · intro other hmem
      apply Or.elim (List.mem_append.mp hmem)
      · exact (hinv.beforePut call hbound).2 other
      · intro hlast
        cases List.mem_singleton.mp hlast
  | noMemory hphase hmalloc =>
    rename_i call env
    rw [freeVendorData_right_iff hinv call (fun effect ↦ id) (fun other buffer ↦ id)]
    apply Iff.intro
    · intro hown _
      exact hown
    · intro hinOrder
      exact hinOrder hmalloc
  | requested hphase hmsg hsent =>
    rename_i call env sent
    rw [eachAfter_append, freeVendorData_right_after hinv call sent, hsent]
    apply and_congr _ Iff.rfl
    exact sent_right_iff hinv hmsg

/-- A run of the object sends and frees what it should exactly when its steps are in order. -/
theorem nanSteps_right_iff {steps : List NanStep} {system : NanSystem} {effects : List NanEffect}
    (hrun : runSteps NanSystem.step {} steps = some (system, effects)) :
    EachAfter NanEffect.Right effects ↔ EachAfter NanStep.InOrder steps :=
  eachAfter_effects_iff NanSystem.step SystemOf NanEffect.Right NanStep.InOrder systemOf_initial
    (fun _ _ _ _ _ _ hinv hstep ↦ hinv.step hstep)
    (fun _ _ _ _ _ _ hinv hstep ↦ step_right_iff hinv hstep) hrun

/-- Everything is granted, and the kernel acknowledges. -/
def grantedEnv : RequestEnv where
  msgAlloc := true
  refused _ := none
  ifindex := 3
  cbAlloc := true
  cmdSock := true
  sendStatus := 0
  answer := 0
  answer_le := acknowledgement_le

/-- One call, with an event before it and one between the put function and `requestEvent`. -/
def stepsAround (first second : NanVendorEvent) : List NanStep :=
  [.event first, .create 0 grantedEnv, .setIfaceId 0 grantedEnv, .putNanStats 0 ⟨true, none⟩,
    .event second, .requestEvent 0 grantedEnv]

/-- After an NDP event the message has its subcommand; and when an event has brought vendor data in
between, it is the message of the event that is freed. -/
theorem stepsAround_not_right :
    (∃ system effects,
      runSteps NanSystem.step {} (stepsAround ⟨true, false⟩ ⟨false, false⟩) = some (system, effects) ∧
        ¬ EachAfter NanEffect.Right effects) ∧
    ∃ system effects,
      runSteps NanSystem.step {} (stepsAround ⟨false, true⟩ ⟨false, true⟩) = some (system, effects) ∧
        ¬ EachAfter NanEffect.Right effects := by
  apply And.intro
  · apply Exists.intro _
    apply Exists.intro _
    apply And.intro rfl
    intro heach
    have hsent := heach [.allocated 0] _ _ rfl
    exact absurd hsent.2 (by decide)
  · apply Exists.intro _
    apply Exists.intro _
    apply And.intro rfl
    intro heach
    have hfreed := heach [.allocated 0, _] _ _ rfl
    exact absurd hfreed.1 (by decide)

/-- Without events in between a call is in order. -/
def undisturbedSteps : List NanStep :=
  [.create 0 grantedEnv, .setIfaceId 0 grantedEnv, .putNanStats 0 ⟨true, none⟩,
    .requestEvent 0 grantedEnv, .event ⟨true, true⟩]

theorem undisturbedSteps_right_iff :
    ∃ system effects, runSteps NanSystem.step {} undisturbedSteps = some (system, effects) ∧
      (EachAfter NanEffect.Right effects ↔ EachAfter NanStep.InOrder undisturbedSteps) := by
  have hrun : runSteps NanSystem.step {} undisturbedSteps = some (_, _) := rfl
  exact ⟨_, _, hrun, nanSteps_right_iff hrun⟩

end Rights

end HardwareMediatek.Wifi
