import HardwareMediatek.Wifi.ReplyDecoders
import HardwareMediatek.Wifi.RequestResponse

/-!
# Getters that decode replies

A getter hands pointers into its caller's memory to a command, and the command writes there while it
decodes the replies to its request. Each cell of the outputs keeps what was written to it last: the
caller's own value, one of the command's constructor, the cached one, or one from a reply.
-/

namespace HardwareMediatek.Wifi

open Foundation

/-- Where the value of a cell comes from. Replies are counted as `response_handler` gets them. -/
inductive Source where
  | caller
  | command
  | cache
  | reply (k : ℕ)
  deriving DecidableEq, Repr

/-- The cell was written before the `k`-th reply. -/
def Source.Before (k : ℕ) : Source → Prop
  | .reply j => j < k
  | _ => True

structure Cell (α : Type) where
  value : α
  source : Source
  deriving DecidableEq, Repr

def callerCell {α : Type} (value : α) : Cell α := ⟨value, .caller⟩

theorem Source.Before.mono {k l : ℕ} {source : Source} (hbefore : source.Before k) (hle : k ≤ l) :
    source.Before l := by
  cases source with
  | caller => trivial
  | command => trivial
  | cache => trivial
  | reply j => exact Nat.lt_of_lt_of_le hbefore hle

/-- The outputs of a command, and what it made of each message so far. -/
structure Responses (O : Type) where
  outputs : O
  statuses : List NlStatus := []

/-- What a getter returns: an error of `create` as it is, or the result of the request. -/
structure GetterResult (O : Type) where
  result : Except KernelError WifiError
  responses : Responses O

def GetterResult.Succeeds {O : Type} (getter : GetterResult O) : Prop := getter.result = .ok .success

/-- The request of a getter: what `create` reports, and what the kernel does with it. A message that
cannot be parsed is `none`. -/
structure GetterRequest where
  create : Option KernelError
  exchange : Exchange (Option VendorReply)

section Handling

variable {O : Type} (handleResponse : ℕ → VendorReply → O → NlStatus × O)

/-- What `handleResponse` returns goes back to the netlink library, which ignores it here. -/
def responseHandler (responses : Responses O) : Option VendorReply → Responses O
  | none => { responses with statuses := responses.statuses ++ [.skip] }
  | some reply =>
      let handled := handleResponse responses.statuses.length reply responses.outputs
      { outputs := handled.2, statuses := responses.statuses ++ [handled.1] }

def GetterRequest.run (request : GetterRequest) (outputs : O) : GetterResult O :=
  match request.create with
  | some error => { result := .error error, responses := { outputs := outputs } }
  | none =>
      let response := requestResponse request.exchange (responseHandler handleResponse)
        { outputs := outputs }
      { result := .ok response.1, responses := response.2 }

/-- A getter that refuses its arguments. -/
def refusedGetter (error : WifiError) (outputs : O) : GetterResult O where
  result := .ok error
  responses := { outputs := outputs }

end Handling

/-- The vendor data of a reply that carries some. -/
def VendorReply.payload (reply : VendorReply) : Option Payload :=
  if reply.isVendorCmd then reply.vendorData.filter fun payload ↦ payload.len ≠ 0 else none

/-- The tests that each `handleResponse` begins with. -/
def withPayload {O : Type} (reply : VendorReply) (outputs : O) (decode : Payload → NlStatus × O) :
    NlStatus × O :=
  if ¬ reply.isVendorCmd then (.skip, outputs)
  else
    match reply.vendorData with
    | none => (.skip, outputs)
    | some payload => if payload.len = 0 then (.skip, outputs) else decode payload

/-- The reply carries vendor data with some property. -/
def VendorReply.Carries (P : Payload → Prop) (reply : VendorReply) : Prop :=
  ∃ payload, reply.payload = some payload ∧ P payload

instance (P : Payload → Prop) [DecidablePred P] (reply : VendorReply) :
    Decidable (reply.Carries P) :=
  match hpayload : reply.payload with
  | none => isFalse fun ⟨_, hsome, _⟩ ↦ by rw [hpayload] at hsome; cases hsome
  | some payload =>
      if hholds : P payload then isTrue ⟨payload, hpayload, hholds⟩
      else isFalse fun ⟨_, hsome, hother⟩ ↦ by
        rw [hpayload] at hsome
        exact hholds (Option.some.inj hsome ▸ hother)

/-! ## What success means -/

section Meaning

variable {O : Type} (WrittenFrom : ℕ → O → Prop)

/-- Some message was accepted, and every output was written from it. -/
def Responses.Decoded (responses : Responses O) : Prop :=
  ∃ k, responses.statuses[k]? = some .ok ∧ WrittenFrom k responses.outputs

/-- Success comes with outputs decoded from a reply, and anything else with the outputs of the
caller. -/
def GetterResult.Honest (getter : GetterResult O) (callers : O) : Prop :=
  (getter.Succeeds → getter.responses.Decoded WrittenFrom) ∧
    (¬ getter.Succeeds → getter.responses.outputs = callers)

/-- A decoder seen from its replies: some of them touch the outputs, and of these some write all of
them and are accepted. `Older k` are the outputs without anything from the `k`-th reply on. -/
structure Decodes {ρ : Type} (handleResponse : ℕ → ρ → O → NlStatus × O)
    (Older : ℕ → O → Prop) (Touches Completes : ρ → Prop) : Prop where
  untouched : ∀ k reply outputs, ¬ Touches reply → (handleResponse k reply outputs).2 = outputs
  touched : ∀ k reply outputs, Touches reply → ¬ Older k (handleResponse k reply outputs).2
  older : ∀ k reply outputs, Older k outputs → Older (k + 1) (handleResponse k reply outputs).2
  mono : ∀ k l outputs, k ≤ l → Older k outputs → Older l outputs
  earlier : ∀ k j outputs, Older k outputs → WrittenFrom j outputs → j < k
  only : ∀ k j reply outputs, Touches reply →
    WrittenFrom j (handleResponse k reply outputs).2 → j = k
  completes : ∀ k reply outputs, Older k outputs → Touches reply →
    ((handleResponse k reply outputs).1 = .ok ∧ WrittenFrom k (handleResponse k reply outputs).2 ↔
      Completes reply)

end Meaning

/-- The last of some messages that touches the outputs. -/
def lastTouching (Touches : VendorReply → Prop) [DecidablePred Touches]
    (messages : List (Option VendorReply)) : Option VendorReply :=
  ((messages.filterMap id).filter fun reply ↦ Touches reply).getLast?

namespace GetterRequest

variable (request : GetterRequest)

/-- The messages that reach the command. -/
def handled : List (Option VendorReply) :=
  if request.create = none ∧ request.exchange.Sent then request.exchange.replies else []

/-- The request is acknowledged, or not sent at all for want of memory. -/
def Succeeds : Prop :=
  request.create = none ∧ (request.exchange.Acknowledged ∨ request.exchange.cbAlloc = false)

/-- When a success comes, the last reply that touches the outputs writes all of them; and when it does
not, no reply touches them, and neither does the command itself. -/
def RepliesComplete (Touches Completes : VendorReply → Prop) [DecidablePred Touches]
    (Keeps : Prop) : Prop :=
  (request.Succeeds → ∃ reply, lastTouching Touches request.handled = some reply ∧ Completes reply) ∧
    (¬ request.Succeeds → lastTouching Touches request.handled = none ∧ Keeps)

end GetterRequest

section Payloads

variable {O : Type} {decode : ℕ → Payload → O → NlStatus × O}

theorem withPayload_none {reply : VendorReply} (hpayload : reply.payload = none) (outputs : O)
    (decode : Payload → NlStatus × O) : withPayload reply outputs decode = (.skip, outputs) := by
  unfold withPayload
  unfold VendorReply.payload at hpayload
  by_cases hvendor : reply.isVendorCmd = true
  · rw [if_pos hvendor] at hpayload
    rw [if_neg (not_not_intro hvendor)]
    cases hdata : reply.vendorData with
    | none => rfl
    | some payload =>
      rw [hdata, Option.filter_some] at hpayload
      dsimp only
      by_cases hlen : payload.len = 0
      · rw [if_pos hlen]
      · rw [if_pos (decide_eq_true hlen)] at hpayload
        cases hpayload
  · rw [if_pos hvendor]

theorem withPayload_some {reply : VendorReply} {payload : Payload}
    (hpayload : reply.payload = some payload) (outputs : O) (decode : Payload → NlStatus × O) :
    withPayload reply outputs decode = decode payload := by
  unfold withPayload
  unfold VendorReply.payload at hpayload
  by_cases hvendor : reply.isVendorCmd = true
  · rw [if_pos hvendor] at hpayload
    have hparts := Option.filter_eq_some_iff.mp hpayload
    rw [if_neg (not_not_intro hvendor), hparts.1]
    exact if_neg (of_decide_eq_true hparts.2)
  · rw [if_neg hvendor] at hpayload
    cases hpayload

/-- A decoder of vendor data is one of replies. -/
theorem decodes_withPayload {WrittenFrom Older : ℕ → O → Prop} {Touches Completes : Payload → Prop}
    (hdecodes : Decodes WrittenFrom decode Older Touches Completes) :
    Decodes WrittenFrom
      (fun k reply outputs ↦ withPayload reply outputs fun payload ↦ decode k payload outputs) Older
      (VendorReply.Carries Touches) (VendorReply.Carries Completes) := by
  apply Decodes.mk
  · intro k reply outputs hnot
    cases hpayload : reply.payload with
    | none => rw [withPayload_none hpayload]
    | some payload =>
      rw [withPayload_some hpayload]
      apply hdecodes.untouched
      intro htouches
      exact hnot ⟨payload, hpayload, htouches⟩
  · intro k reply outputs htouches
    obtain ⟨payload, hpayload⟩ := htouches
    rw [withPayload_some hpayload.1]
    exact hdecodes.touched k payload outputs hpayload.2
  · intro k reply outputs holder
    cases hpayload : reply.payload with
    | none =>
      rw [withPayload_none hpayload]
      exact hdecodes.mono _ _ _ (Nat.le_succ k) holder
    | some payload =>
      rw [withPayload_some hpayload]
      exact hdecodes.older k payload outputs holder
  · exact hdecodes.mono
  · exact hdecodes.earlier
  · intro k j reply outputs htouches
    obtain ⟨payload, hpayload⟩ := htouches
    rw [withPayload_some hpayload.1]
    exact hdecodes.only k j payload outputs hpayload.2
  · intro k reply outputs holder htouches
    obtain ⟨payload, hpayload⟩ := htouches
    rw [withPayload_some hpayload.1, hdecodes.completes k payload outputs holder hpayload.2]
    apply Iff.intro
    · intro hcompletes
      exact ⟨payload, hpayload.1, hcompletes⟩
    · intro hcarries
      obtain ⟨other, hother⟩ := hcarries
      rw [hpayload.1] at hother
      exact Option.some.inj hother.1 ▸ hother.2

end Payloads

section Messages

variable {O : Type} {handleResponse : ℕ → VendorReply → O → NlStatus × O} {WrittenFrom : ℕ → O → Prop}
  {Older : ℕ → O → Prop} {Touches Completes : VendorReply → Prop}

/-- A status behind the ones that the outputs can come from changes nothing. -/
theorem decoded_concat (hdecodes : Decodes WrittenFrom handleResponse Older Touches Completes)
    {outputs : O} {statuses : List NlStatus} (holder : Older statuses.length outputs)
    (status : NlStatus) :
    (⟨outputs, statuses ++ [status]⟩ : Responses O).Decoded WrittenFrom ↔
      (⟨outputs, statuses⟩ : Responses O).Decoded WrittenFrom := by
  unfold Responses.Decoded
  apply exists_congr
  intro k
  apply and_congr_left
  intro hwritten
  have hlt := hdecodes.earlier statuses.length k outputs holder hwritten
  dsimp only
  rw [List.getElem?_append_left hlt]

variable [DecidablePred Touches]

theorem lastTouching_concat_none (messages : List (Option VendorReply)) :
    lastTouching Touches (messages ++ [none]) = lastTouching Touches messages := by
  unfold lastTouching
  rw [List.filterMap_append, show [none].filterMap id = ([] : List VendorReply) from rfl,
    List.append_nil]

theorem lastTouching_concat_some (messages : List (Option VendorReply)) (reply : VendorReply) :
    lastTouching Touches (messages ++ [some reply]) =
      if Touches reply then some reply else lastTouching Touches messages := by
  unfold lastTouching
  rw [List.filterMap_append, show [some reply].filterMap id = [reply] from rfl, List.filter_append,
    List.filter_singleton]
  by_cases htouches : Touches reply
  · rw [if_pos htouches, decide_eq_true htouches, cond_true, List.getLast?_concat]
  · rw [if_neg htouches, decide_eq_false htouches, cond_false, List.append_nil]

/-- What the messages leave: the outputs of the start, or what the last reply that touches them has
written, which is all of it exactly when that reply is complete. -/
structure Responses.FollowFrom (responses : Responses O) (WrittenFrom : ℕ → O → Prop)
    (Older : ℕ → O → Prop) (Touches Completes : VendorReply → Prop) [DecidablePred Touches]
    (start : O) (messages : List (Option VendorReply)) : Prop where
  older : Older responses.statuses.length responses.outputs
  untouched : lastTouching Touches messages = none → responses.outputs = start
  touched : ∀ reply, lastTouching Touches messages = some reply →
    (∃ k, ¬ Older k responses.outputs) ∧ (responses.Decoded WrittenFrom ↔ Completes reply)

theorem followFrom_responseHandler
    (hdecodes : Decodes WrittenFrom handleResponse Older Touches Completes) {start : O}
    {messages : List (Option VendorReply)} {responses : Responses O}
    (hfollows : responses.FollowFrom WrittenFrom Older Touches Completes start messages)
    (message : Option VendorReply) :
    (responseHandler handleResponse responses message).FollowFrom WrittenFrom Older Touches Completes
      start (messages ++ [message]) := by
  have holder := hfollows.older
  cases message with
  | none =>
    unfold responseHandler
    apply Responses.FollowFrom.mk
    · dsimp only
      rw [List.length_append, List.length_singleton]
      exact hdecodes.mono _ _ _ (Nat.le_succ _) holder
    · rw [lastTouching_concat_none]
      exact hfollows.untouched
    · intro reply
      rw [lastTouching_concat_none, decoded_concat hdecodes holder]
      exact hfollows.touched reply
  | some reply =>
    unfold responseHandler
    dsimp only
    generalize hstatuses : responses.statuses.length = k at holder
    apply Responses.FollowFrom.mk
    · dsimp only
      rw [List.length_append, List.length_singleton, hstatuses]
      exact hdecodes.older k reply _ holder
    · rw [lastTouching_concat_some]
      by_cases htouches : Touches reply
      · rw [if_pos htouches]
        exact fun hsome ↦ nomatch hsome
      · rw [if_neg htouches]
        dsimp only
        rw [hdecodes.untouched k reply _ htouches]
        exact hfollows.untouched
    · intro last hlast
      rw [lastTouching_concat_some] at hlast
      by_cases htouches : Touches reply
      · rw [if_pos htouches] at hlast
        rw [← Option.some.inj hlast]
        apply And.intro
        · exact ⟨k, hdecodes.touched k reply _ htouches⟩
        · rw [← hdecodes.completes k reply _ holder htouches]
          apply Iff.intro
          · intro hdecoded
            obtain ⟨j, hj⟩ := hdecoded
            have hsame := hdecodes.only k j reply _ htouches hj.2
            rw [hsame] at hj
            apply And.intro _ hj.2
            have hstatus := hj.1
            dsimp only at hstatus
            rw [← hstatuses, List.getElem?_concat_length] at hstatus
            exact hstatuses ▸ Option.some.inj hstatus
          · intro hboth
            apply Exists.intro k
            apply And.intro _ hboth.2
            dsimp only
            rw [hboth.1, ← hstatuses, List.getElem?_concat_length]
      · rw [if_neg htouches] at hlast
        rw [hdecodes.untouched k reply _ htouches, decoded_concat hdecodes (hstatuses ▸ holder)]
        exact hfollows.touched last hlast

theorem followFrom_foldl (hdecodes : Decodes WrittenFrom handleResponse Older Touches Completes)
    {start : O} (hstart : Older 0 start) (messages : List (Option VendorReply)) :
    (messages.foldl (responseHandler handleResponse) { outputs := start }).FollowFrom WrittenFrom Older
      Touches Completes start messages := by
  induction messages using List.reverseRecOn with
  | nil =>
    apply Responses.FollowFrom.mk hstart
    · intro _
      rfl
    · intro reply hreply
      cases hreply
  | append_singleton messages message ih =>
    rw [List.foldl_concat]
    exact followFrom_responseHandler hdecodes ih message

theorem run_succeeds_iff (request : GetterRequest) (start : O) :
    (request.run handleResponse start).Succeeds ↔ request.Succeeds := by
  unfold GetterRequest.run GetterResult.Succeeds GetterRequest.Succeeds
  cases request.create with
  | some error =>
    apply iff_of_false
    · intro hresult
      cases hresult
    · intro hboth
      cases hboth.1
  | none =>
    rw [and_iff_right rfl,
      ← requestResponse_eq_success_iff request.exchange (responseHandler handleResponse)
        { outputs := start }]
    exact ⟨fun hresult ↦ Except.ok.inj hresult, fun hresult ↦ congrArg Except.ok hresult⟩

theorem run_responses (request : GetterRequest) (start : O) :
    (request.run handleResponse start).responses =
      request.handled.foldl (responseHandler handleResponse) { outputs := start } := by
  unfold GetterRequest.run GetterRequest.handled
  cases request.create with
  | some error =>
    rw [if_neg fun hboth ↦ Option.some_ne_none error hboth.1]
    rfl
  | none =>
    dsimp only
    rw [requestResponse_command]
    by_cases hsent : request.exchange.Sent
    · rw [if_pos hsent, if_pos ⟨rfl, hsent⟩]
    · rw [if_neg hsent, if_neg fun hboth ↦ hsent hboth.2, List.foldl_nil]

/-- A request is honest about the outputs exactly when its replies are complete. -/
theorem honest_run_iff (hdecodes : Decodes WrittenFrom handleResponse Older Touches Completes)
    (request : GetterRequest) {start callers : O} (hstart : Older 0 start)
    (hcallers : Older 0 callers) :
    (request.run handleResponse start).Honest WrittenFrom callers ↔
      request.RepliesComplete Touches Completes (start = callers) := by
  have hfollows := followFrom_foldl hdecodes hstart request.handled
  unfold GetterResult.Honest GetterRequest.RepliesComplete
  rw [run_succeeds_iff, run_responses]
  generalize request.handled.foldl (responseHandler handleResponse) { outputs := start } = responses at hfollows
  cases hlast : lastTouching Touches request.handled with
  | none =>
    have houtputs := hfollows.untouched hlast
    apply and_congr
    · apply imp_congr_right
      intro _
      apply iff_of_false
      · intro hdecoded
        obtain ⟨k, hk⟩ := hdecoded
        have hwritten := hk.2
        rw [houtputs] at hwritten
        exact Nat.not_lt_zero k (hdecodes.earlier 0 k start hstart hwritten)
      · intro hreply
        obtain ⟨reply, hboth⟩ := hreply
        cases hboth.1
    · apply imp_congr_right
      intro _
      rw [houtputs, and_iff_right rfl]
  | some reply =>
    have htouched := hfollows.touched reply hlast
    apply and_congr
    · apply imp_congr_right
      intro _
      rw [htouched.2]
      apply Iff.intro
      · intro hcompletes
        exact ⟨reply, rfl, hcompletes⟩
      · intro hsome
        obtain ⟨last, hboth⟩ := hsome
        rw [Option.some.inj hboth.1]
        exact hboth.2
    · apply imp_congr_right
      intro _
      apply iff_of_false
      · intro houtputs
        obtain ⟨k, hnot⟩ := htouched.1
        rw [houtputs] at hnot
        exact hnot (hdecodes.mono 0 k callers (Nat.zero_le k) hcallers)
      · intro hboth
        cases hboth.1

theorem honest_refusedGetter {error : WifiError} (herror : error ≠ .success) (outputs : O) :
    (refusedGetter error outputs).Honest WrittenFrom outputs := by
  apply And.intro
  · intro hsucceeds
    exact absurd (Except.ok.inj hsucceeds) herror
  · intro _
    rfl

/-- A getter that checks its arguments first. -/
theorem honest_guarded_iff (hdecodes : Decodes WrittenFrom handleResponse Older Touches Completes)
    (request : GetterRequest) {start callers : O} (hstart : Older 0 start)
    (hcallers : Older 0 callers) (Refuses : Prop) [Decidable Refuses] {error : WifiError}
    (herror : error ≠ .success) :
    (if Refuses then refusedGetter error callers
      else request.run handleResponse start).Honest WrittenFrom callers ↔
      (¬ Refuses → request.RepliesComplete Touches Completes (start = callers)) := by
  by_cases hrefuses : Refuses
  · rw [if_pos hrefuses]
    apply iff_of_true
    · exact honest_refusedGetter herror callers
    · exact fun hnot ↦ absurd hrefuses hnot
  · rw [if_neg hrefuses, honest_run_iff hdecodes request hstart hcallers]
    exact (imp_iff_right hrefuses).symm

end Messages

end HardwareMediatek.Wifi
