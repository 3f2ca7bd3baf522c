import HardwareMediatek.Wifi.CommandLifetimes

/-!
# Which ranging request gets the results

Requests that the driver accepts wait for their results, and the driver completes them in their order.
All of them share one handler: the last request takes it over, and the first completion removes it.
-/

namespace HardwareMediatek.Wifi

open Foundation

section System

/-- An accepted request, or the completion of the oldest that waits. -/
inductive RttStep where
  | request (id : ℤ) (handler : ℕ)
  | completion (vendor_data : List UInt8)

structure RttState where
  info : HalInfo
  /-- Ids and handlers of the accepted requests that are not yet completed, oldest first. -/
  outstanding : List (ℤ × ℕ)

def RttStep.apply (state : RttState) : RttStep → RttState
  | .request id handler =>
      { info := (wifiRttRangeRequest state.info id handler true).2
        outstanding := state.outstanding ++ [(id, handler)] }
  | .completion vendor_data =>
      { info := (rttCompletionEvent state.info vendor_data).1
        outstanding := state.outstanding.tail }

/-- The request is accepted, and what is completed was requested. -/
def RttStep.Possible (state : RttState) : RttStep → Prop
  | .request id handler => (wifiRttRangeRequest state.info id handler true).1 = true
  | .completion _ => state.outstanding ≠ []

/-- The oldest request gets its results, in one call of its own handler with its own id. -/
def RttStep.Answers (state : RttState) : RttStep → Prop
  | .request _ _ => True
  | .completion vendor_data =>
      (rttCompletionEvent state.info vendor_data).2 =
        (state.outstanding.take 1).map fun request ↦ ⟨request.2, request.1, vendor_data⟩

/-- A completion has data and finds no other request waiting. -/
def RttStep.Alone (state : RttState) : RttStep → Prop
  | .request _ _ => True
  | .completion vendor_data => vendor_data ≠ [] ∧ state.outstanding.length = 1

def RttStep.requestId : RttStep → Option ℤ
  | .request id _ => some id
  | .completion _ => none

def requestIds (steps : List RttStep) : List ℤ := steps.filterMap RttStep.requestId

def runRttSteps (event_cb : ℕ → CbInfo ℕ) (cmd : ℕ → CmdInfo) (command : ℕ → WifiCommand)
    (steps : List RttStep) : RttState :=
  steps.foldl RttStep.apply ⟨HalInfo.initial event_cb cmd command, []⟩

end System

section Invariant

/-- As long as requests wait alone, the table of commands is the queue, and the handler that of the
last request. -/
structure RttState.Queued (state : RttState) : Prop where
  counted : state.info.Counted
  noDangling : state.info.NoDangling
  commands : state.info.commands.map state.info.command =
    state.outstanding.map fun request ↦ ⟨request.1, .rttRequest request.2⟩
  handlers : state.info.handlers = state.info.commands.getLast?.toList
  room : state.info.event_cb.capacity = defaultEventCbSize

variable {state : RttState}

theorem place_of_queued (hqueued : state.Queued) {p : ℕ} (hp : p ∈ state.info.commands) :
    state.info.placeOf p = ⟨googleOui, rttEventComplete, none⟩ := by
  have hmem := List.mem_map_of_mem (f := state.info.command) hp
  rw [hqueued.commands] at hmem
  obtain ⟨request, hrequest⟩ := List.mem_map.mp hmem
  unfold HalInfo.placeOf
  rw [← hrequest.2]
  rfl

/-- Handlers there are none or one, that of the last command. -/
theorem handlers_of_queued (hqueued : state.Queued) :
    state.info.handlers = [] ∨
      ∃ p ∈ state.info.commands, state.info.handlers = [p] ∧
        state.info.commands.getLast? = some p := by
  have hhandlers := hqueued.handlers
  cases hlast : state.info.commands.getLast? with
  | none =>
    rw [hlast] at hhandlers
    exact Or.inl hhandlers
  | some p =>
    rw [hlast] at hhandlers
    exact Or.inr ⟨p, List.mem_of_getLast? hlast, hhandlers, rfl⟩

/-- A request that the driver accepts takes the handler over. -/
theorem handlers_request (hqueued : state.Queued) {c : WifiCommand} {registered : HalInfo}
    {handler : ℕ} (hstarting : state.info.Starting c registered)
    (hkind : c.kind = .rttRequest handler) :
    (registered.registerVendorHandler c.kind.place state.info.next).handlers =
      [state.info.next] := by
  have hplaced := hstarting.counted.placed
  rcases handlers_of_queued hqueued with hnone | hone
  · have hempty : registered.handlers = [] := hstarting.handlers.trans hnone
    have hfree : ∀ q ∈ registered.handlers, registered.placeOf q ≠ c.kind.place := by
      rw [hempty]
      intro q hq
      cases hq
    have hroom : registered.event_cb.count < registered.event_cb.capacity := by
      rw [hstarting.table, hqueued.room, ← SlotArray.length_items]
      have hlength := congrArg List.length hnone
      unfold HalInfo.handlers at hlength
      rw [List.length_map, List.length_nil] at hlength
      rw [hlength]
      decide
    rw [handlers_register_adds hplaced c.kind _ hfree, if_pos hroom, hempty]
    rfl
  · obtain ⟨p, hp⟩ := hone
    have hlist : registered.handlers = [p] := hstarting.handlers.trans hp.2.1
    have hplace : registered.placeOf p = c.kind.place := by
      rw [hstarting.placeOf (hqueued.counted.commandsAllocated p hp.1),
        place_of_queued hqueued hp.1, hkind]
      rfl
    have hmem : p ∈ registered.handlers := by
      rw [hlist]
      exact List.mem_cons_self
    rw [handlers_register_replaces hplaced c.kind _ ⟨p, hmem, hplace⟩, hlist,
      List.map_singleton, if_pos hplace]

theorem queued_request (hqueued : state.Queued) {id : ℤ} {handler : ℕ}
    (hpossible : (RttStep.request id handler).Possible state) :
    ((RttStep.request id handler).apply state).Queued := by
  let c : WifiCommand := ⟨id, .rttRequest handler⟩
  have hcounted := hqueued.counted
  by_cases hroom : state.info.cmd.count < state.info.cmd.capacity
  · let entered := state.info.entered c (state.info.cmd.push ⟨id, state.info.next⟩ hroom)
    have hstarting : state.info.Starting c entered :=
      starting_entered hcounted hqueued.noDangling c hroom
    have hresult : (wifiRttRangeRequest state.info id handler true).2 =
        entered.registerVendorHandler c.kind.place state.info.next := by
      change (startCommand state.info c _).2 = _
      unfold startCommand
      rw [registerCmd_room hroom c]
      rfl
    have hcommands : entered.commands = state.info.commands ++ [state.info.next] :=
      commands_entered (c := c) (SlotArray.items_push _ _ hroom)
    change RttState.Queued ⟨_, _⟩
    rw [hresult]
    apply RttState.Queued.mk
    · exact hstarting.registered.1
    · exact hstarting.registered.2
    · change entered.commands.map (Function.update state.info.command state.info.next c) =
        (state.outstanding ++ [(id, handler)]).map _
      rw [hcommands, List.map_append, List.map_append, List.map_singleton, Function.update_self]
      congr 1
      rw [← hqueued.commands]
      apply List.map_congr_left
      intro p hp
      exact Function.update_of_ne (Nat.ne_of_lt (hcounted.commandsAllocated p hp)) _ _
    · have hlast : entered.commands.getLast?.toList = [state.info.next] := by
        rw [hcommands, List.getLast?_append, List.getLast?_singleton, Option.some_or]
        rfl
      exact (handlers_request hqueued hstarting rfl).trans hlast.symm
    · exact (capacity_apply (.registerVendor _ _ _ _) _).trans hqueued.room
  · change (startCommand state.info c _).1 = true at hpossible
    unfold startCommand at hpossible
    rw [registerCmd_full hroom c] at hpossible
    cases hpossible

theorem findHandler_queued (hqueued : state.Queued) {p : ℕ}
    (hlast : state.info.commands.getLast? = some p) :
    findHandler state.info googleOui rttEventComplete = some p := by
  have hplace := place_of_queued hqueued (List.mem_of_getLast? hlast)
  have hhandlers := hqueued.handlers
  rw [hlast] at hhandlers
  have hfind := findHandler_of_only hqueued.counted.placed (p := p)
    (by rw [hhandlers]; exact List.mem_cons_self)
    (by rw [hhandlers]; exact fun q hq _ _ ↦ List.mem_singleton.mp hq)
  rw [hplace] at hfind
  exact hfind

/-- The only command that is registered is the one found by its id. -/
theorem wifiGetCmd_only {info : HalInfo} (hcounted : info.Counted) {p : ℕ}
    (honly : info.commands = [p]) : info.wifiGetCmd (info.command p).mId = some p := by
  obtain ⟨entry, hentry⟩ := List.map_eq_singleton_iff.mp honly
  have hid := hcounted.ids entry (by rw [hentry.1]; exact List.mem_cons_self)
  rw [hentry.2] at hid
  rw [wifiGetCmd_eq, hentry.1, hid, List.find?_singleton, if_pos (decide_eq_true rfl),
    Option.map_some, hentry.2]

/-- The completion of the only request empties both tables. -/
structure HalInfo.Emptied (info after : HalInfo) : Prop where
  commands : after.commands = []
  handlers : after.handlers = []
  capacity : after.event_cb.capacity = info.event_cb.capacity

theorem emptied_completion {info : HalInfo} (hcounted : info.Counted) (hnone : info.NoDangling)
    {p handler : ℕ} (hcommands : info.commands = [p]) (hhandlers : info.handlers = [p])
    (hkind : (info.command p).kind = .rttRequest handler)
    (hfind : findHandler info googleOui rttEventComplete = some p) {vendor_data : List UInt8}
    (hdata : vendor_data ≠ []) : info.Emptied (rttCompletionEvent info vendor_data).1 := by
  let kind : CommandKind := .rttRequest handler
  have hcounted' := counted_unregister hcounted kind
  have htaken := taken_of_unregisterCmd hcounted' (noDangling_unregister hcounted hnone kind)
    (info.command p).mId
  have hget : info.wifiGetCmd (info.command p).mId = _ := htaken.get
  have hout := handlers_unregister hcounted.placed kind
  have hplace : info.placeOf p = kind.place := congrArg CommandKind.place hkind
  rw [hhandlers, List.filter_cons_of_neg (by simp [hplace]), List.filter_nil] at hout
  rw [wifiGetCmd_only hcounted hcommands] at hget
  rw [rttCompletionEvent_state hfind hkind hdata]
  generalize (info.unregisterVendorHandler (CommandKind.rttRequest handler).place).wifiUnregisterCmd
    (info.command p).mId = taken at htaken hget
  match taken with
  | (none, unregistered) => cases hget
  | (some q, unregistered) =>
    have hsame : p = q := Option.some.inj hget
    apply HalInfo.Emptied.mk
    · apply List.eq_nil_iff_forall_not_mem.mpr
      intro r hr
      have hr' := (htaken.mem_iff r).mp hr
      have hrp : r ∈ info.commands := hr'.1
      rw [hcommands] at hrp
      apply hr'.2
      rw [← hsame, List.mem_singleton.mp hrp]
    · exact htaken.handlers.trans hout
    · change unregistered.event_cb.capacity = _
      have hcapacity := congrArg (fun info ↦ info.event_cb.capacity) htaken.same
      exact hcapacity.trans (capacity_apply (.unregisterVendor _ _ _) _)

theorem queued_completion (hqueued : state.Queued) {vendor_data : List UInt8}
    (halone : (RttStep.completion vendor_data).Alone state) :
    ((RttStep.completion vendor_data).apply state).Queued := by
  obtain ⟨request, hrequest⟩ := List.length_eq_one_iff.mp halone.2
  have hcommands := hqueued.commands
  rw [hrequest, List.map_singleton] at hcommands
  obtain ⟨p, hp⟩ := List.map_eq_singleton_iff.mp hcommands
  have hlast : state.info.commands.getLast? = some p := by
    rw [hp.1]
    rfl
  have hhandlers := hqueued.handlers
  rw [hlast] at hhandlers
  have hfind := findHandler_queued hqueued hlast
  have hkind : (state.info.command p).kind = .rttRequest request.2 := by
    rw [hp.2]
  have hemptied := emptied_completion hqueued.counted hqueued.noDangling hp.1 hhandlers hkind hfind
    halone.1
  have hkeeps := keepsIf_rttCompletion hqueued.counted hqueued.noDangling vendor_data
  apply RttState.Queued.mk
  · exact hkeeps.counted
  · apply hkeeps.iff.mpr
    intro q hq _ r hr
    rw [hfind] at hq
    rw [← Option.some.inj hq, wifiGetCmd_only hqueued.counted hp.1] at hr
    rw [← Option.some.inj hq, ← Option.some.inj hr]
    exact Or.inl rfl
  · change (rttCompletionEvent _ _).1.commands.map _ = state.outstanding.tail.map _
    rw [hemptied.commands, hrequest]
    rfl
  · change (rttCompletionEvent _ _).1.handlers = (rttCompletionEvent _ _).1.commands.getLast?.toList
    rw [hemptied.commands, hemptied.handlers]
    rfl
  · exact hemptied.capacity.trans hqueued.room

theorem calls_empty (info : HalInfo) : (rttCompletionEvent info []).2 = [] := by
  unfold rttCompletionEvent rttHandleEvent
  cases findHandler info googleOui rttEventComplete with
  | none => rfl
  | some p =>
    dsimp only
    cases ((info.addRef p).command p).kind <;> rfl

theorem calls_completion {info : HalInfo} {p handler : ℕ}
    (hfind : findHandler info googleOui rttEventComplete = some p)
    (hkind : (info.command p).kind = .rttRequest handler) {vendor_data : List UInt8}
    (hdata : vendor_data ≠ []) :
    (rttCompletionEvent info vendor_data).2 = [⟨handler, (info.command p).mId, vendor_data⟩] := by
  rw [rttCompletionEvent_state hfind hkind hdata]
  split
  · rfl
  · rfl

/-- With distinct ids the oldest request is the one accepted last only if it is the only one. -/
theorem answers_iff (hqueued : state.Queued) (hids : (state.outstanding.map Prod.fst).Nodup)
    {step : RttStep} (hpossible : step.Possible state) : step.Answers state ↔ step.Alone state := by
  cases step with
  | request id handler => exact Iff.rfl
  | completion vendor_data =>
    unfold RttStep.Answers RttStep.Alone
    dsimp only
    cases houtstanding : state.outstanding with
    | nil => exact absurd houtstanding hpossible
    | cons request rest =>
      have hcommands := hqueued.commands
      cases hlast : state.info.commands.getLast? with
      | none =>
        rw [List.getLast?_eq_none_iff.mp hlast, houtstanding] at hcommands
        cases hcommands
      | some p =>
        have hfind := findHandler_queued hqueued hlast
        -- the handler found is that of the request accepted last
        have hcommand : ((request :: rest).getLast?.map fun request ↦
            (⟨request.1, .rttRequest request.2⟩ : WifiCommand)) = some (state.info.command p) := by
          rw [← houtstanding, ← List.getLast?_map, ← hcommands, List.getLast?_map, hlast]
          rfl
        obtain ⟨last, hlastRequest⟩ := Option.map_eq_some_iff.mp hcommand
        have hkind : (state.info.command p).kind = .rttRequest last.2 := by
          rw [← hlastRequest.2]
        have hid : (state.info.command p).mId = last.1 := by
          rw [← hlastRequest.2]
        by_cases hdata : vendor_data = []
        · rw [hdata, calls_empty]
          apply iff_of_false
          · intro hcall
            cases hcall
          · intro halone
            exact halone.1 rfl
        · rw [calls_completion hfind hkind hdata, hid, List.take_one]
          rw [houtstanding] at hids
          cases rest with
          | nil =>
            have hsame : request = last := Option.some.inj hlastRequest.1
            rw [hsame]
            exact iff_of_true rfl ⟨hdata, rfl⟩
          | cons other rest =>
            apply iff_of_false
            · intro hcall
              have hsame : last.1 = request.1 := congrArg RttCall.id (List.cons.inj hcall).1
              rw [List.getLast?_cons_cons] at hlastRequest
              have hmem := List.mem_of_getLast? hlastRequest.1
              rw [List.map_cons] at hids
              apply (List.nodup_cons.mp hids).1
              rw [← hsame]
              exact List.mem_map_of_mem hmem
            · intro halone
              have hlength := halone.2
              rw [List.length_cons, List.length_cons] at hlength
              omega

end Invariant

section Runs

variable (event_cb : ℕ → CbInfo ℕ) (cmd : ℕ → CmdInfo) (command : ℕ → WifiCommand)

theorem requestIds_concat (steps : List RttStep) (step : RttStep) :
    requestIds (steps ++ [step]) = requestIds steps ++ step.requestId.toList := by
  unfold requestIds
  rw [List.filterMap_append]
  cases hid : step.requestId with
  | none => rw [List.filterMap_cons_none hid]; rfl
  | some id => rw [List.filterMap_cons_some hid]; rfl

/-- The requests that wait are the last ones of the run. -/
theorem outstanding_suffix (steps : List RttStep) :
    ((runRttSteps event_cb cmd command steps).outstanding.map Prod.fst).Sublist
      (requestIds steps) := by
  induction steps using List.reverseRecOn with
  | nil => exact List.Sublist.refl _
  | append_singleton steps step ih =>
    unfold runRttSteps at ih ⊢
    rw [requestIds_concat, List.foldl_concat]
    cases step with
    | request id handler =>
      change ((_ ++ [(id, handler)]).map Prod.fst).Sublist _
      rw [List.map_append]
      exact ih.append (List.Sublist.refl _)
    | completion vendor_data =>
      change (List.map Prod.fst (List.tail _)).Sublist _
      rw [RttStep.requestId, Option.toList_none, List.append_nil]
      exact ((List.tail_sublist _).map _).trans ih

theorem queued_initial : (⟨HalInfo.initial event_cb cmd command, []⟩ : RttState).Queued where
  counted := counted_initial event_cb cmd command
  noDangling := noDangling_initial event_cb cmd command
  commands := rfl
  handlers := rfl
  room := rfl

theorem queued_run {steps : List RttStep}
    (hsteps : EachAfter (fun before step ↦ step.Possible (runRttSteps event_cb cmd command before) ∧
      step.Alone (runRttSteps event_cb cmd command before)) steps) :
    (runRttSteps event_cb cmd command steps).Queued := by
  let inv (_ : List RttStep) (state : RttState) : Prop := state.Queued
  apply foldl_keeps inv _ _ hsteps
  · exact queued_initial event_cb cmd command
  · intro before step hinv hboth
    cases step with
    | request id handler => exact queued_request hinv hboth.1
    | completion vendor_data => exact queued_completion hinv hboth.2

/-- For accepted requests with distinct ids and completions in their order: every completion is one
call with the id and the handler of its request exactly when each has data and finds no other request
waiting. -/
theorem rttRequests_answered_iff (steps : List RttStep) (hids : (requestIds steps).Nodup)
    (hpossible : EachAfter (fun before step ↦
      step.Possible (runRttSteps event_cb cmd command before)) steps) :
    EachAfter (fun before step ↦ step.Answers (runRttSteps event_cb cmd command before)) steps ↔
      EachAfter (fun before step ↦
        step.Alone (runRttSteps event_cb cmd command before)) steps := by
  apply eachAfter_congr
  intro before step after hsteps _ halone
  have hbefore : EachAfter (fun before step ↦
      step.Possible (runRttSteps event_cb cmd command before) ∧
        step.Alone (runRttSteps event_cb cmd command before)) before := by
    intro earlier other rest hearlier
    apply And.intro
    · apply hpossible earlier other (rest ++ step :: after)
      rw [hsteps, hearlier, List.append_assoc, List.cons_append]
    · exact halone earlier other rest hearlier
  have hqueued := queued_run event_cb cmd command hbefore
  have hdistinct : (requestIds before).Nodup := by
    rw [hsteps] at hids
    unfold requestIds at hids ⊢
    rw [List.filterMap_append] at hids
    exact (List.nodup_append.mp hids).1
  apply answers_iff hqueued
  · exact hdistinct.sublist (outstanding_suffix event_cb cmd command before)
  · exact hpossible before step after hsteps

/-- Two requests, the second after the first was completed. -/
def separateRequests : List RttStep :=
  [.request 1 10, .completion [1], .request 2 20, .completion [2]]

theorem possible_separateRequests :
    EachAfter (fun before step ↦ step.Possible
      (runRttSteps (fun _ ↦ unusedSlot) (fun _ ↦ unusedCmd) (fun _ ↦ unusedCommand) before))
      separateRequests := by
  unfold separateRequests
  rw [eachAfter_cons, eachAfter_cons, eachAfter_cons, eachAfter_singleton]
  apply And.intro (by change _ = true; decide)
  apply And.intro (by change _ ≠ []; decide)
  apply And.intro (by change _ = true; decide)
  change _ ≠ []
  decide

theorem rttRequests_answered_iff_separate :
    EachAfter (fun before step ↦ step.Answers
        (runRttSteps (fun _ ↦ unusedSlot) (fun _ ↦ unusedCmd) (fun _ ↦ unusedCommand) before))
        separateRequests ↔
      EachAfter (fun before step ↦ step.Alone
        (runRttSteps (fun _ ↦ unusedSlot) (fun _ ↦ unusedCmd) (fun _ ↦ unusedCommand) before))
        separateRequests :=
  rttRequests_answered_iff _ _ _ separateRequests (by decide) possible_separateRequests

/-- The results of the first of two requests go to the second. -/
theorem overlappingRequests_misanswered :
    let steps : List RttStep := [.request 1 10, .request 2 20, .completion [1]]
    (requestIds steps).Nodup ∧
    EachAfter (fun before step ↦ step.Possible
      (runRttSteps (fun _ ↦ unusedSlot) (fun _ ↦ unusedCmd) (fun _ ↦ unusedCommand) before)) steps ∧
    ¬ EachAfter (fun before step ↦ step.Answers
      (runRttSteps (fun _ ↦ unusedSlot) (fun _ ↦ unusedCmd) (fun _ ↦ unusedCommand) before))
      steps := by
  intro steps
  apply And.intro (by decide)
  apply And.intro
  · rw [eachAfter_cons, eachAfter_cons, eachAfter_singleton]
    apply And.intro (by change _ = true; decide)
    apply And.intro (by change _ = true; decide)
    change _ ≠ []
    decide
  · intro hanswers
    have hlast := hanswers [.request 1 10, .request 2 20] _ [] rfl
    change (rttCompletionEvent _ _).2 = _ at hlast
    exact absurd hlast (by decide)

end Runs

end HardwareMediatek.Wifi
