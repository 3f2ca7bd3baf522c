import HardwareMediatek.Bluetooth.Lifecycle
import Mathlib.Data.List.Nodup

/-!
# Internal HCI commands

The vendor library transmits commands of its own and registers a callback for the event that completes
one. There is one place for the command that is outstanding. It outlives the vendor interface, and
events are compared with it at fixed offsets. The callbacks are numbered as they are registered.
-/

namespace HardwareMediatek.Bluetooth

open Foundation

def hciCommandCompleteEvent : UInt8 := 0x0E

/-- A callback as it was registered: its command, and the interface that transmitted it. -/
structure InternalCallback where
  number : ℕ
  opcode : UInt16
  session : ℕ
deriving DecidableEq

/-- The global `internal_command` and `g_vendor_interface`, with what has been counted. -/
structure CommandState where
  cb : Option InternalCallback
  opcode : UInt16
  g_vendor_interface : Option VendorInterface
  sessions : ℕ
  registered : ℕ
deriving DecidableEq

def initialCommands : CommandState := ⟨none, 0, none, 0, 0⟩

/-- A call of the vendor library or of the HAL, or an event with the bytes that lie behind it. -/
inductive CommandStep where
  | vendorInitialize (library : VendorLibrary)
  | shutdown
  | transmit (opcode : UInt16) (hasCallback : Bool)
  | event (hci_packet : List UInt8) (behind : ℕ → UInt8)

inductive CommandEffect where
  /-- a byte of an event of some length is read -/
  | read (index length : ℕ)
  | internal (callback : InternalCallback) (hci_packet : List UInt8)
  | client (hci_packet : List UInt8)
deriving DecidableEq

def packetByte (hci_packet : List UInt8) (behind : ℕ → UInt8) (index : ℕ) : UInt8 :=
  hci_packet.getD index (behind index)

def readOf (hci_packet : List UInt8) (index : ℕ) : CommandEffect := .read index hci_packet.length

/-- Two bytes, the lower one first. -/
def littleEndian (low high : UInt8) : UInt16 := low.toUInt16 ||| high.toUInt16 <<< 8

/-- The result with the bytes that are read for it. `kEventHeaderSize` is the one of the transport. -/
def internalCommandEventMatch (kEventHeaderSize : ℕ) (opcode : UInt16) (hci_packet : List UInt8)
    (behind : ℕ → UInt8) : Bool × List CommandEffect :=
  if packetByte hci_packet behind 0 ≠ hciCommandCompleteEvent then (false, [readOf hci_packet 0])
  else
    let opcodeOffset := kEventHeaderSize + 1
    (littleEndian (packetByte hci_packet behind opcodeOffset)
        (packetByte hci_packet behind (opcodeOffset + 1)) = opcode,
      [readOf hci_packet 0, readOf hci_packet opcodeOffset, readOf hci_packet (opcodeOffset + 1)])

/-- The place is filled before the command is sent, which needs an interface with a transport. -/
def transmitCb (state : CommandState) (opcode : UInt16) (hasCallback : Bool) : Option CommandState :=
  match state.g_vendor_interface with
  | some vendor =>
    if vendor.hci then
      some { state with
        cb := if hasCallback then some ⟨state.registered, opcode, vendor.serial⟩ else none
        opcode := opcode
        registered := state.registered + 1 }
    else none
  | none => none

def handleIncomingEvent (kEventHeaderSize : ℕ) (state : CommandState) (hci_packet : List UInt8)
    (behind : ℕ → UInt8) : CommandState × List CommandEffect :=
  match state.cb with
  | none => (state, [.client hci_packet])
  | some callback =>
    let matched := internalCommandEventMatch kEventHeaderSize state.opcode hci_packet behind
    if matched.1 then ({ state with cb := none }, matched.2 ++ [.internal callback hci_packet])
    else (state, matched.2 ++ [.client hci_packet])

def commandStep (kEventHeaderSize : ℕ) (state : CommandState) :
    CommandStep → Option (CommandState × List CommandEffect)
  | .vendorInitialize library =>
    match state.g_vendor_interface with
    | some _ => some (state, [])
    | none =>
      some ({ state with
        g_vendor_interface := some (openInterface state.sessions library).2
        sessions := state.sessions + 1 }, [])
  | .shutdown =>
    match state.g_vendor_interface with
    | some _ => some ({ state with g_vendor_interface := none }, [])
    | none => none
  | .transmit opcode hasCallback =>
    (transmitCb state opcode hasCallback).map fun final ↦ (final, [])
  | .event hci_packet behind =>
    match state.g_vendor_interface with
    | some vendor =>
      if vendor.hci then some (handleIncomingEvent kEventHeaderSize state hci_packet behind) else none
    | none => none

/-! ## What is right -/

/-- The event is the one that completes a command with this opcode. -/
def Completes (hci_packet : List UInt8) (opcode : UInt16) : Prop :=
  hci_packet[0]? = some hciCommandCompleteEvent ∧
    ∃ low high, hci_packet[3]? = some low ∧ hci_packet[4]? = some high ∧ littleEndian low high = opcode

/-- The callback was registered in the current session. -/
def CommandState.IsCurrent (state : CommandState) (callback : InternalCallback) : Prop :=
  ∃ vendor, state.g_vendor_interface = some vendor ∧ vendor.serial = callback.session

/-- The events that are delivered. -/
def delivered (effects : List CommandEffect) : List (List UInt8) :=
  effects.filterMap fun effect ↦
    match effect with
    | .read _ _ => none
    | .internal _ hci_packet => some hci_packet
    | .client hci_packet => some hci_packet

/-- The callbacks that are invoked. -/
def invoked (effects : List CommandEffect) : List ℕ :=
  effects.filterMap fun effect ↦
    match effect with
    | .internal callback _ => some callback.number
    | _ => none

/-- What one step may do. -/
structure ServesStep (state : CommandState) (next : CommandStep) (new : List CommandEffect) : Prop where
  once : ∀ hci_packet behind, next = .event hci_packet behind → delivered new = [hci_packet]
  matching : ∀ callback hci_packet, .internal callback hci_packet ∈ new →
    state.cb = some callback ∧ Completes hci_packet callback.opcode ∧ state.IsCurrent callback
  replaces : ∀ opcode hasCallback, next = .transmit opcode hasCallback →
    ∀ callback, state.cb = some callback → ¬ state.IsCurrent callback
  reads : ∀ index length, .read index length ∈ new → index < length

def Serves (kEventHeaderSize : ℕ) (state : CommandState) (next : CommandStep) : Prop :=
  ∀ final new, commandStep kEventHeaderSize state next = some (final, new) → ServesStep state next new

/-- A command is transmitted when none of the session is outstanding. While a callback is in its place
an event is not empty, one that completes a command is long enough to say which, and the callback
whose command it completes is of the session. -/
def InTurn (state : CommandState) (next : CommandStep) : Prop :=
  ∀ vendor callback, state.g_vendor_interface = some vendor → vendor.hci = true →
    state.cb = some callback →
      match next with
      | .transmit _ _ => vendor.serial ≠ callback.session
      | .event hci_packet _ =>
        hci_packet ≠ [] ∧ (hci_packet[0]? = some hciCommandCompleteEvent →
          5 ≤ hci_packet.length ∧
            (Completes hci_packet callback.opcode → vendor.serial = callback.session))
      | _ => True

/-! ## Events -/

section Events

variable {state final : CommandState} {hci_packet : List UInt8} {behind : ℕ → UInt8} {opcode : UInt16}

theorem packetByte_of_lt (behind : ℕ → UInt8) {index : ℕ} (hindex : index < hci_packet.length) :
    hci_packet[index]? = some (packetByte hci_packet behind index) := by
  unfold packetByte
  rw [List.getD_eq_getElem?_getD, List.getElem?_eq_getElem hindex]
  rfl

/-- The bytes that are read are bytes of the event. -/
theorem reads_internalCommandEventMatch_iff (opcode : UInt16) (hci_packet : List UInt8)
    (behind : ℕ → UInt8) :
    (∀ index length,
        .read index length ∈ (internalCommandEventMatch 2 opcode hci_packet behind).2 →
          index < length) ↔
      hci_packet ≠ [] ∧
        (hci_packet[0]? = some hciCommandCompleteEvent → 5 ≤ hci_packet.length) := by
  unfold internalCommandEventMatch
  cases hci_packet with
  | nil =>
    apply iff_of_false
    · intro hreads
      refine absurd (hreads 0 0 ?_) (Nat.lt_irrefl 0)
      split <;> exact List.mem_cons_self
    · intro h
      exact h.1 rfl
  | cons code rest =>
    rw [and_iff_right (List.cons_ne_nil code rest), List.getElem?_cons_zero, Option.some.injEq]
    change (∀ index length, _ ∈ (if code ≠ hciCommandCompleteEvent then _ else _ : Bool × _).2 → _) ↔ _
    by_cases hcode : code = hciCommandCompleteEvent
    · rw [if_neg (not_not.mpr hcode), imp_iff_right hcode]
      apply Iff.intro
      · intro hreads
        exact hreads 4 _ (List.mem_cons_of_mem _ (List.mem_cons_of_mem _ (List.mem_singleton_self _)))
      · intro hlength index length hread
        simp only [readOf, List.mem_cons, CommandEffect.read.injEq, List.not_mem_nil, or_false]
          at hread
        omega
    · rw [if_pos hcode]
      apply iff_of_true
      · intro index length hread
        have hsame := CommandEffect.read.inj (List.mem_singleton.mp hread)
        rw [hsame.1, hsame.2]
        exact Nat.succ_pos _
      · intro h
        exact absurd h hcode

/-- An event that is long enough matches when it completes the command. -/
theorem internalCommandEventMatch_iff (behind : ℕ → UInt8) (hnonempty : hci_packet ≠ [])
    (hlong : hci_packet[0]? = some hciCommandCompleteEvent → 5 ≤ hci_packet.length) :
    (internalCommandEventMatch 2 opcode hci_packet behind).1 = true ↔ Completes hci_packet opcode := by
  have hcode := packetByte_of_lt behind (List.length_pos_iff.mpr hnonempty)
  unfold internalCommandEventMatch Completes
  by_cases hcomplete : packetByte hci_packet behind 0 = hciCommandCompleteEvent
  · rw [hcomplete] at hcode
    have hlength := hlong hcode
    have hlow : hci_packet[3]? = _ := packetByte_of_lt behind (by omega)
    have hhigh : hci_packet[4]? = _ := packetByte_of_lt behind (by omega)
    rw [if_neg (not_not.mpr hcomplete), and_iff_right hcode, hlow, hhigh]
    dsimp only
    rw [decide_eq_true_iff]
    apply Iff.intro
    · intro hopcode
      exact ⟨_, _, rfl, rfl, hopcode⟩
    · intro hbytes
      obtain ⟨low, hbytes⟩ := hbytes
      obtain ⟨high, hbytes⟩ := hbytes
      rw [Option.some.inj hbytes.1, Option.some.inj hbytes.2.1]
      exact hbytes.2.2
  · rw [if_pos hcomplete]
    apply iff_of_false Bool.false_ne_true
    intro h
    rw [hcode] at h
    exact hcomplete (Option.some.inj h.1)

theorem not_internal_mem_match {callback : InternalCallback} {event : List UInt8} :
    .internal callback event ∉ (internalCommandEventMatch 2 opcode hci_packet behind).2 := by
  unfold internalCommandEventMatch
  split
  · exact fun hin ↦ nomatch List.mem_singleton.mp hin
  · simp [readOf]

theorem delivered_match :
    delivered (internalCommandEventMatch 2 opcode hci_packet behind).2 = [] := by
  unfold internalCommandEventMatch
  split <;> rfl

theorem invoked_match :
    invoked (internalCommandEventMatch 2 opcode hci_packet behind).2 = [] := by
  unfold internalCommandEventMatch
  split <;> rfl

theorem delivered_append (left right : List CommandEffect) :
    delivered (left ++ right) = delivered left ++ delivered right :=
  List.filterMap_append

theorem invoked_append (left right : List CommandEffect) :
    invoked (left ++ right) = invoked left ++ invoked right :=
  List.filterMap_append

/-- What is delivered while a callback is in its place. -/
theorem handleIncomingEvent_some {callback : InternalCallback} (hcb : state.cb = some callback) :
    handleIncomingEvent 2 state hci_packet behind =
      if (internalCommandEventMatch 2 state.opcode hci_packet behind).1 then
        ({ state with cb := none },
          (internalCommandEventMatch 2 state.opcode hci_packet behind).2 ++
            [.internal callback hci_packet])
      else
        (state, (internalCommandEventMatch 2 state.opcode hci_packet behind).2 ++
          [.client hci_packet]) := by
  unfold handleIncomingEvent
  rw [hcb]

theorem servesStep_event_iff {callback : InternalCallback} (hcb : state.cb = some callback)
    (hopcode : state.opcode = callback.opcode) :
    ServesStep state (.event hci_packet behind) (handleIncomingEvent 2 state hci_packet behind).2 ↔
      hci_packet ≠ [] ∧ (hci_packet[0]? = some hciCommandCompleteEvent →
        5 ≤ hci_packet.length ∧
          (Completes hci_packet callback.opcode → state.IsCurrent callback)) := by
  rw [handleIncomingEvent_some hcb]
  apply Iff.intro
  · intro hserves
    have hreads : ∀ index length,
        .read index length ∈ (internalCommandEventMatch 2 state.opcode hci_packet behind).2 →
          index < length := by
      intro index length hread
      apply hserves.reads
      split <;> exact List.mem_append_left _ hread
    have hlong := (reads_internalCommandEventMatch_iff _ _ _).mp hreads
    apply And.intro hlong.1
    intro hcode
    apply And.intro (hlong.2 hcode)
    intro hcompletes
    rw [← hopcode, ← internalCommandEventMatch_iff behind hlong.1 hlong.2] at hcompletes
    have hin := hserves.matching callback hci_packet
    rw [if_pos hcompletes] at hin
    exact (hin (List.mem_append_right _ (List.mem_singleton_self _))).2.2
  · intro hturn
    have hlong : hci_packet[0]? = some hciCommandCompleteEvent → 5 ≤ hci_packet.length :=
      fun hcode ↦ (hturn.2 hcode).1
    have hreads := (reads_internalCommandEventMatch_iff state.opcode hci_packet behind).mpr
      ⟨hturn.1, hlong⟩
    by_cases hmatch : (internalCommandEventMatch 2 state.opcode hci_packet behind).1 = true
    · rw [if_pos hmatch]
      have hcompletes := (internalCommandEventMatch_iff behind hturn.1 hlong).mp hmatch
      apply ServesStep.mk
      · intro event behind' hevent
        rw [(CommandStep.event.inj hevent).1, delivered_append, delivered_match]
        rfl
      · intro callback' event hin
        have hlast := (List.mem_append.mp hin).resolve_left not_internal_mem_match
        have hsame := CommandEffect.internal.inj (List.mem_singleton.mp hlast)
        rw [hsame.1, hsame.2, ← hopcode]
        apply And.intro hcb
        apply And.intro hcompletes
        exact (hturn.2 hcompletes.1).2 (hopcode ▸ hcompletes)
      · exact nofun
      · intro index length hread
        exact hreads index length ((List.mem_append.mp hread).resolve_right (by simp))
    · rw [if_neg hmatch]
      apply ServesStep.mk
      · intro event behind' hevent
        rw [(CommandStep.event.inj hevent).1, delivered_append, delivered_match]
        rfl
      · intro callback' event hin
        have hlast := (List.mem_append.mp hin).resolve_left not_internal_mem_match
        exact nomatch List.mem_singleton.mp hlast
      · exact nofun
      · intro index length hread
        exact hreads index length ((List.mem_append.mp hread).resolve_right (by simp))

end Events

/-! ## Runs -/

section Commands

variable {state final : CommandState} {next : CommandStep} {effects new : List CommandEffect}

/-- A callback is in its place or has been invoked, once. -/
structure CallbacksCounted (state : CommandState) (effects : List CommandEffect) : Prop where
  opcode : ∀ callback, state.cb = some callback → state.opcode = callback.opcode
  once : (invoked effects ++ state.cb.toList.map InternalCallback.number).Nodup
  numbered : ∀ number ∈ invoked effects ++ state.cb.toList.map InternalCallback.number,
    number < state.registered

theorem callbacksCounted_initial : CallbacksCounted initialCommands [] :=
  ⟨nofun, List.nodup_nil, fun _ hin ↦ absurd hin List.not_mem_nil⟩

theorem callbacksCounted_of_none (hcb : state.cb = none) (honce : (invoked effects).Nodup)
    (hnumbered : ∀ number ∈ invoked effects, number < state.registered) :
    CallbacksCounted state effects := by
  have hplace : invoked effects ++ state.cb.toList.map InternalCallback.number = invoked effects := by
    rw [hcb]
    exact List.append_nil _
  apply CallbacksCounted.mk
  · intro callback hsome
    rw [hcb] at hsome
    cases hsome
  · rwa [hplace]
  · rwa [hplace]

/-- A command is sent through an interface with a transport. -/
theorem transmitCb_some {opcode : UInt16} {hasCallback : Bool}
    (hsent : transmitCb state opcode hasCallback = some final) :
    ∃ vendor, state.g_vendor_interface = some vendor ∧ vendor.hci = true ∧
      final = { state with
        cb := if hasCallback then some ⟨state.registered, opcode, vendor.serial⟩ else none
        opcode := opcode
        registered := state.registered + 1 } := by
  unfold transmitCb at hsent
  cases hvendor : state.g_vendor_interface with
  | none =>
    rw [hvendor] at hsent
    cases hsent
  | some vendor =>
    rw [hvendor] at hsent
    by_cases hhci : vendor.hci = true
    · dsimp only at hsent
      rw [if_pos hhci] at hsent
      exact ⟨vendor, rfl, hhci, (Option.some.inj hsent).symm⟩
    · dsimp only at hsent
      rw [if_neg hhci] at hsent
      cases hsent

theorem commandStep_event {hci_packet : List UInt8} {behind : ℕ → UInt8}
    (hstep : commandStep 2 state (.event hci_packet behind) = some (final, new)) :
    ∃ vendor, state.g_vendor_interface = some vendor ∧ vendor.hci = true ∧
      handleIncomingEvent 2 state hci_packet behind = (final, new) := by
  unfold commandStep at hstep
  cases hvendor : state.g_vendor_interface with
  | none =>
    rw [hvendor] at hstep
    cases hstep
  | some vendor =>
    rw [hvendor] at hstep
    dsimp only at hstep
    by_cases hhci : vendor.hci = true
    · rw [if_pos hhci] at hstep
      exact ⟨vendor, rfl, hhci, Option.some.inj hstep⟩
    · rw [if_neg hhci] at hstep
      cases hstep

theorem CallbacksCounted.transmit (h : CallbacksCounted state effects) {opcode : UInt16}
    {hasCallback : Bool} (hsent : transmitCb state opcode hasCallback = some final) :
    CallbacksCounted final effects := by
  obtain ⟨vendor, hvendor⟩ := transmitCb_some hsent
  rw [hvendor.2.2]
  have hinvoked : ∀ number ∈ invoked effects, number < state.registered :=
    fun number hin ↦ h.numbered number (List.mem_append_left _ hin)
  have honce : (invoked effects).Nodup := h.once.of_append_left
  cases hasCallback with
  | false =>
    exact callbacksCounted_of_none rfl honce fun number hin ↦
      Nat.lt_succ_of_lt (hinvoked number hin)
  | true =>
    apply CallbacksCounted.mk
    · intro callback hcb
      rw [← Option.some.inj hcb]
    · apply List.Nodup.append honce (List.nodup_singleton _)
      intro number hin hlast
      rw [List.mem_singleton.mp hlast] at hin
      exact absurd (hinvoked _ hin) (Nat.lt_irrefl _)
    · intro number hin
      rcases List.mem_append.mp hin with hearlier | hlast
      · exact Nat.lt_succ_of_lt (hinvoked number hearlier)
      · rw [List.mem_singleton.mp hlast]
        exact Nat.lt_succ_self _

theorem CallbacksCounted.event (h : CallbacksCounted state effects) (hci_packet : List UInt8)
    (behind : ℕ → UInt8) :
    CallbacksCounted (handleIncomingEvent 2 state hci_packet behind).1
      (effects ++ (handleIncomingEvent 2 state hci_packet behind).2) := by
  cases hcb : state.cb with
  | none =>
    have hclient : handleIncomingEvent 2 state hci_packet behind = (state, [.client hci_packet]) := by
      unfold handleIncomingEvent
      rw [hcb]
    rw [hclient]
    apply CallbacksCounted.mk h.opcode
    · rw [invoked_append]
      exact (List.append_nil (invoked effects)).symm ▸ h.once
    · rw [invoked_append]
      exact (List.append_nil (invoked effects)).symm ▸ h.numbered
  | some callback =>
    have hplace : state.cb.toList.map InternalCallback.number = [callback.number] := by rw [hcb]; rfl
    have honce := hplace ▸ h.once
    have hnumbered := hplace ▸ h.numbered
    rw [handleIncomingEvent_some hcb]
    split
    · have hcalled : invoked (effects ++
          ((internalCommandEventMatch 2 state.opcode hci_packet behind).2 ++
            [.internal callback hci_packet])) = invoked effects ++ [callback.number] := by
        rw [invoked_append, invoked_append, invoked_match]
        rfl
      apply callbacksCounted_of_none rfl
      · rwa [hcalled]
      · rwa [hcalled]
    · have hcalled : invoked (effects ++
          ((internalCommandEventMatch 2 state.opcode hci_packet behind).2 ++
            [.client hci_packet])) = invoked effects := by
        rw [invoked_append, invoked_append, invoked_match]
        exact List.append_nil _
      apply CallbacksCounted.mk h.opcode
      · rw [hcalled]
        exact h.once
      · rw [hcalled]
        exact h.numbered

theorem CallbacksCounted.step (h : CallbacksCounted state effects)
    (hstep : commandStep 2 state next = some (final, new)) :
    CallbacksCounted final (effects ++ new) := by
  cases next with
  | vendorInitialize library =>
    unfold commandStep at hstep
    cases hvendor : state.g_vendor_interface with
    | none =>
      rw [hvendor] at hstep
      have hdone := Prod.mk.inj (Option.some.inj hstep)
      rw [← hdone.1, ← hdone.2, List.append_nil]
      exact ⟨h.opcode, h.once, h.numbered⟩
    | some vendor =>
      rw [hvendor] at hstep
      have hdone := Prod.mk.inj (Option.some.inj hstep)
      rw [← hdone.1, ← hdone.2, List.append_nil]
      exact h
  | shutdown =>
    unfold commandStep at hstep
    cases hvendor : state.g_vendor_interface with
    | none =>
      rw [hvendor] at hstep
      cases hstep
    | some vendor =>
      rw [hvendor] at hstep
      have hdone := Prod.mk.inj (Option.some.inj hstep)
      rw [← hdone.1, ← hdone.2, List.append_nil]
      exact ⟨h.opcode, h.once, h.numbered⟩
  | transmit opcode hasCallback =>
    obtain ⟨sent, hsent⟩ := Option.map_eq_some_iff.mp hstep
    have hdone := Prod.mk.inj hsent.2
    rw [← hdone.1, ← hdone.2, List.append_nil]
    exact h.transmit hsent.1
  | event hci_packet behind =>
    obtain ⟨vendor, hevent⟩ := commandStep_event hstep
    have hcounted := h.event hci_packet behind
    rwa [hevent.2.2] at hcounted

/-- A step without an event, and without a command while another is outstanding, is right. -/
theorem servesStep_nil (hevent : ∀ hci_packet behind, next ≠ .event hci_packet behind)
    (hreplaces : ∀ opcode hasCallback, next = .transmit opcode hasCallback →
      ∀ callback, state.cb = some callback → ¬ state.IsCurrent callback) :
    ServesStep state next [] :=
  ⟨fun hci_packet behind h ↦ absurd h (hevent hci_packet behind),
    fun _ _ hin ↦ absurd hin List.not_mem_nil, hreplaces,
    fun _ _ hin ↦ absurd hin List.not_mem_nil⟩

theorem serves_transmit_iff (opcode : UInt16) (hasCallback : Bool) :
    Serves 2 state (.transmit opcode hasCallback) ↔ InTurn state (.transmit opcode hasCallback) := by
  apply Iff.intro
  · intro hserves vendor callback hvendor hhci hcb hsame
    have hsent : ∃ final, transmitCb state opcode hasCallback = some final := by
      unfold transmitCb
      rw [hvendor]
      exact ⟨_, if_pos hhci⟩
    obtain ⟨final, hsent⟩ := hsent
    have hstep : commandStep 2 state (.transmit opcode hasCallback) = some (final, []) :=
      congrArg (Option.map fun final ↦ (final, [])) hsent
    exact (hserves final [] hstep).replaces opcode hasCallback rfl callback hcb
      ⟨vendor, hvendor, hsame⟩
  · intro hturn final new hstep
    obtain ⟨sent, hsent⟩ := Option.map_eq_some_iff.mp hstep
    rw [← (Prod.mk.inj hsent.2).2]
    apply servesStep_nil
    · exact fun _ _ h ↦ nomatch h
    · intro _ _ _ callback hcb hcurrent
      obtain ⟨vendor, hvendor⟩ := transmitCb_some hsent.1
      obtain ⟨vendor', hvendor'⟩ := hcurrent
      rw [← Option.some.inj (hvendor.1.symm.trans hvendor'.1)] at hvendor'
      exact hturn vendor callback hvendor.1 hvendor.2.1 hcb hvendor'.2

theorem serves_event_iff (h : CallbacksCounted state effects) (hci_packet : List UInt8)
    (behind : ℕ → UInt8) :
    Serves 2 state (.event hci_packet behind) ↔ InTurn state (.event hci_packet behind) := by
  apply Iff.intro
  · intro hserves vendor callback hvendor hhci hcb
    have hstep : commandStep 2 state (.event hci_packet behind) =
        some (handleIncomingEvent 2 state hci_packet behind) := by
      unfold commandStep
      rw [hvendor]
      exact if_pos hhci
    have hevent := (servesStep_event_iff hcb (h.opcode callback hcb)).mp (hserves _ _ hstep)
    apply And.intro hevent.1
    intro hcode
    apply And.intro (hevent.2 hcode).1
    intro hcompletes
    obtain ⟨vendor', hvendor'⟩ := (hevent.2 hcode).2 hcompletes
    rw [Option.some.inj (hvendor.symm.trans hvendor'.1)]
    exact hvendor'.2
  · intro hturn final new hstep
    obtain ⟨vendor, hvendor⟩ := commandStep_event hstep
    have hnew : (handleIncomingEvent 2 state hci_packet behind).2 = new :=
      congrArg Prod.snd hvendor.2.2
    rw [← hnew]
    cases hcb : state.cb with
    | none =>
      have hclient : handleIncomingEvent 2 state hci_packet behind =
          (state, [.client hci_packet]) := by
        unfold handleIncomingEvent
        rw [hcb]
      rw [hclient]
      apply ServesStep.mk
      · intro event behind' hevent
        rw [(CommandStep.event.inj hevent).1]
        rfl
      · exact fun _ _ hin ↦ nomatch List.mem_singleton.mp hin
      · exact nofun
      · exact fun _ _ hin ↦ nomatch List.mem_singleton.mp hin
    | some callback =>
      rw [servesStep_event_iff hcb (h.opcode callback hcb)]
      have hevent := hturn vendor callback hvendor.1 hvendor.2.1 hcb
      apply And.intro hevent.1
      intro hcode
      apply And.intro (hevent.2 hcode).1
      intro hcompletes
      exact ⟨vendor, hvendor.1, (hevent.2 hcode).2 hcompletes⟩

theorem serves_iff (h : CallbacksCounted state effects) (next : CommandStep) :
    Serves 2 state next ↔ InTurn state next := by
  cases next with
  | vendorInitialize library =>
    apply iff_of_true
    · intro final new hstep
      have hnew : new = [] := by
        unfold commandStep at hstep
        cases hvendor : state.g_vendor_interface <;> rw [hvendor] at hstep <;>
          exact (Prod.mk.inj (Option.some.inj hstep)).2.symm
      rw [hnew]
      exact servesStep_nil (fun _ _ h ↦ nomatch h) (fun _ _ h ↦ nomatch h)
    · exact fun _ _ _ _ _ ↦ trivial
  | shutdown =>
    apply iff_of_true
    · intro final new hstep
      have hnew : new = [] := by
        unfold commandStep at hstep
        cases hvendor : state.g_vendor_interface with
        | none =>
          rw [hvendor] at hstep
          cases hstep
        | some vendor =>
          rw [hvendor] at hstep
          exact (Prod.mk.inj (Option.some.inj hstep)).2.symm
      rw [hnew]
      exact servesStep_nil (fun _ _ h ↦ nomatch h) (fun _ _ h ↦ nomatch h)
    · exact fun _ _ _ _ _ ↦ trivial
  | transmit opcode hasCallback => exact serves_transmit_iff opcode hasCallback
  | event hci_packet behind => exact serves_event_iff h hci_packet behind

end Commands

/-- Commands are matched exactly in a run exactly when its steps are in turn. The header of an event
has its code and its length. -/
theorem internalCommands_matched_iff {kEventHeaderSize : ℕ} (hheader : kEventHeaderSize = 2)
    {steps : List CommandStep} {final : CommandState} {effects : List CommandEffect}
    (hrun : runSteps (commandStep kEventHeaderSize) initialCommands steps = some (final, effects)) :
    (EachStep (commandStep kEventHeaderSize) (Serves kEventHeaderSize) initialCommands steps ∧
        (invoked effects).Nodup) ↔
      EachStep (commandStep kEventHeaderSize) InTurn initialCommands steps := by
  subst hheader
  have hcounted := runSteps_keeps (commandStep 2)
    (fun _ state effects ↦ CallbacksCounted state effects) callbacksCounted_initial
    (fun _ _ _ _ _ _ h hstep ↦ h.step hstep) hrun
  have hiff := eachStep_congr (commandStep 2)
    (fun _ state effects ↦ CallbacksCounted state effects) callbacksCounted_initial
    (fun _ _ _ _ _ _ h hstep ↦ h.step hstep) (fun _ _ _ next h ↦ serves_iff h next) steps
  rw [hiff]
  exact and_iff_left hcounted.once.of_append_left

/-- A library that hands out one descriptor. -/
def oneDescriptor : VendorLibrary := ⟨true, true, 0, 1, fun _ ↦ 5⟩

/-- `HCI_Reset` is complete. -/
def resetComplete : List UInt8 := [0x0E, 4, 1, 0x03, 0x0C, 0]

/-- The library resets the controller in its first session. -/
def resetInFirst : List CommandStep := [.vendorInitialize oneDescriptor, .transmit 0x0C03 true]

def resetCallback : InternalCallback := ⟨0, 0x0C03, 0⟩

theorem runSteps_resetInFirst :
    runSteps (commandStep 2) initialCommands resetInFirst =
      some (⟨some resetCallback, 0x0C03, some ⟨0, true⟩, 1, 1⟩, []) := by
  decide +kernel

theorem inTurn_resetInFirst :
    EachStep (commandStep 2) InTurn initialCommands resetInFirst := by
  apply (eachStep_concat (commandStep 2) InTurn initialCommands
    [.vendorInitialize oneDescriptor] _).mpr
  apply And.intro
  · apply (eachStep_concat (commandStep 2) InTurn initialCommands [] _).mpr
    exact ⟨eachAfter_nil _, fun _ _ _ _ _ _ _ _ ↦ trivial⟩
  · intro state effects hrun vendor callback _ _ hcb
    have hnone : (none, []) = (state.cb, effects) :=
      congrArg (fun run ↦ (run.1.cb, run.2)) (Option.some.inj hrun)
    exact nomatch (Prod.mk.inj hnone).1.trans hcb

/-- The event goes to the callback. -/
theorem internalCommands_reset :
    EachStep (commandStep 2) (Serves 2) initialCommands
      (resetInFirst ++ [.event resetComplete fun _ ↦ 0]) := by
  have hrun : (runSteps (commandStep 2) initialCommands
      (resetInFirst ++ [.event resetComplete fun _ ↦ 0])).isSome = true := by decide +kernel
  obtain ⟨run, hrun⟩ := Option.isSome_iff_exists.mp hrun
  apply ((internalCommands_matched_iff rfl hrun).mpr _).1
  apply (eachStep_concat (commandStep 2) InTurn initialCommands resetInFirst _).mpr
  apply And.intro inTurn_resetInFirst
  intro state effects hreset vendor callback hvendor _ hcb
  have hstate := (Prod.mk.inj (Option.some.inj (runSteps_resetInFirst.symm.trans hreset))).1
  rw [← hstate] at hvendor hcb
  rw [← Option.some.inj hvendor, ← Option.some.inj hcb]
  exact ⟨by decide, fun _ ↦ ⟨by decide, fun _ ↦ rfl⟩⟩

/-- The event of a reset by the client goes to the callback of an earlier session. -/
theorem internalCommands_afterRestart :
    ¬ ∀ (kEventHeaderSize : ℕ), kEventHeaderSize = 2 →
      ∀ (steps : List CommandStep) (final : CommandState) (effects : List CommandEffect),
      runSteps (commandStep kEventHeaderSize) initialCommands steps = some (final, effects) →
        EachStep (commandStep kEventHeaderSize) (Serves kEventHeaderSize) initialCommands steps ∧
          (invoked effects).Nodup := by
  intro hall
  have hrun : (runSteps (commandStep 2) initialCommands
      (resetInFirst ++ [.shutdown, .vendorInitialize oneDescriptor] ++
        [.event resetComplete fun _ ↦ 0])).isSome = true := by decide +kernel
  obtain ⟨run, hrun⟩ := Option.isSome_iff_exists.mp hrun
  have hrestarted : runSteps (commandStep 2) initialCommands
      (resetInFirst ++ [.shutdown, .vendorInitialize oneDescriptor]) =
        some (⟨some resetCallback, 0x0C03, some ⟨1, true⟩, 2, 1⟩, []) := by decide +kernel
  have hserves := (hall 2 rfl _ _ _ hrun).1 _ _ [] rfl _ _ hrestarted
  have hevent := hserves _ _ rfl
  obtain ⟨vendor, hvendor⟩ := (hevent.matching resetCallback resetComplete (by decide +kernel)).2.2
  rw [← Option.some.inj hvendor.1] at hvendor
  exact absurd hvendor.2 (by decide)

end HardwareMediatek.Bluetooth
