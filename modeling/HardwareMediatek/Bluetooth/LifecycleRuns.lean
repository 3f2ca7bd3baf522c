import HardwareMediatek.Bluetooth.Lifecycle

/-!
# Interleavings of the Bluetooth HAL

The state decides which call may touch the interface: at most one call owns it, and where that call is
fits the state and the pointer. With the order of the steps this tells which interleavings go wrong.
-/

namespace HardwareMediatek.Bluetooth

open Foundation

/-- The call is between the critical sections of `initialize` or of `close`. -/
def Phase.Owns : Phase → Prop
  | .initializing => True
  | .initialized => True
  | .shuttingDown => True
  | .shutDown => True
  | _ => False

/-- The state and the pointer while a call is in a phase. -/
def Phase.Fits : Phase → HalState → Option VendorInterface → Prop
  | .initializing, state, vendor => state = .initializing ∧ vendor = none
  | .initialized, state, vendor => state = .initializing ∧ vendor ≠ none
  | .shuttingDown, state, vendor => (state = .initializing ∨ state = .closing) ∧ vendor ≠ none
  | .shutDown, state, vendor => (state = .initializing ∨ state = .closing) ∧ vendor = none
  | _, _, _ => True

theorem Phase.fits_of_not_owns {phase : Phase} (hfree : ¬ phase.Owns) (state : HalState)
    (vendor : Option VendorInterface) : phase.Fits state vendor := by
  cases phase with
  | idle => trivial
  | toClose => trivial
  | sending vendor => trivial
  | initializing => exact absurd trivial hfree
  | initialized => exact absurd trivial hfree
  | shuttingDown => exact absurd trivial hfree
  | shutDown => exact absurd trivial hfree

theorem Phase.state_of_owns {phase : Phase} (howns : phase.Owns) {state : HalState}
    {vendor : Option VendorInterface} (hfits : phase.Fits state vendor) :
    state = .initializing ∨ state = .closing := by
  cases phase with
  | idle => exact absurd howns id
  | toClose => exact absurd howns id
  | sending vendor => exact absurd howns id
  | initializing => exact Or.inl hfits.1
  | initialized => exact Or.inl hfits.1
  | shuttingDown => exact hfits.1
  | shutDown => exact hfits.1

/-- The state, the pointer and the calls fit together. -/
structure Hal.Ordered (hal : Hal) : Prop where
  fits : ∀ call, (hal.calls call).Fits hal.mState hal.g_vendor_interface
  owner : ∀ first second, (hal.calls first).Owns → (hal.calls second).Owns → first = second
  ready : hal.mState = .ready → hal.g_vendor_interface = none
  oneClient : hal.mState = .oneClient → hal.g_vendor_interface ≠ none
  closing : hal.mState = .closing → ∃ call, (hal.calls call).Owns

theorem ordered_initialHal (linked : Bool) : (initialHal linked).Ordered := by
  apply Hal.Ordered.mk
  · intro call
    trivial
  · intro first second hfirst
    exact absurd hfirst id
  · intro _
    rfl
  · intro hstate
    cases hstate
  · intro hstate
    cases hstate

section Steps

variable {hal : Hal} {call : ℕ}

theorem calls_setCall_self (phase : Phase) : (hal.setCall call phase).calls call = phase :=
  Function.update_self _ _ _

theorem calls_setCall_of_ne {other : ℕ} (hother : other ≠ call) (phase : Phase) :
    (hal.setCall call phase).calls other = hal.calls other :=
  Function.update_of_ne hother _ _

/-- In a state that no call owns, every call is free. -/
theorem not_owns_of_state (hordered : hal.Ordered) (hinitializing : hal.mState ≠ .initializing)
    (hclosing : hal.mState ≠ .closing) (call : ℕ) : ¬ (hal.calls call).Owns := by
  intro howns
  exact (Phase.state_of_owns howns (hordered.fits call)).elim hinitializing hclosing

/-- The phase of the owner keeps the other calls free. -/
theorem not_owns_of_phase (hordered : hal.Ordered) {phase : Phase} (hphase : hal.calls call = phase)
    (howns : phase.Owns) (other : ℕ) (hother : other ≠ call) : ¬ (hal.calls other).Owns :=
  fun hsecond ↦ hother (hordered.owner other call hsecond (hphase ▸ howns))

/-- A call that is free and stays free changes nothing about the order. -/
theorem ordered_setCall (hordered : hal.Ordered) (hfree : ¬ (hal.calls call).Owns) {phase : Phase}
    (hphase : ¬ phase.Owns) : (hal.setCall call phase).Ordered := by
  have howns : ∀ other, ((hal.setCall call phase).calls other).Owns → (hal.calls other).Owns := by
    intro other hother
    by_cases hcall : other = call
    · rw [hcall, calls_setCall_self] at hother
      exact absurd hother hphase
    · rwa [calls_setCall_of_ne hcall] at hother
  apply Hal.Ordered.mk
  · intro other
    by_cases hcall : other = call
    · rw [hcall, calls_setCall_self]
      exact Phase.fits_of_not_owns hphase _ _
    · rw [calls_setCall_of_ne hcall]
      exact hordered.fits other
  · intro first second hfirst hsecond
    exact hordered.owner first second (howns first hfirst) (howns second hsecond)
  · exact hordered.ready
  · exact hordered.oneClient
  · intro hstate
    obtain ⟨owner, howner⟩ := hordered.closing hstate
    apply Exists.intro owner
    rw [calls_setCall_of_ne]
    · exact howner
    · intro hsame
      rw [hsame] at howner
      exact hfree howner

/-- When the other calls are free, a call orders the state that it leaves. -/
theorem ordered_of_others (hothers : ∀ other, other ≠ call → ¬ (hal.calls other).Owns) {phase : Phase}
    (hfits : phase.Fits hal.mState hal.g_vendor_interface)
    (hready : hal.mState = .ready → hal.g_vendor_interface = none)
    (honeClient : hal.mState = .oneClient → hal.g_vendor_interface ≠ none)
    (hclosing : hal.mState = .closing → phase.Owns) : (hal.setCall call phase).Ordered := by
  have hcall : ∀ other, ((hal.setCall call phase).calls other).Owns → other = call := by
    intro other hother
    by_contra hne
    rw [calls_setCall_of_ne hne] at hother
    exact hothers other hne hother
  apply Hal.Ordered.mk
  · intro other
    by_cases hsame : other = call
    · rw [hsame, calls_setCall_self]
      exact hfits
    · rw [calls_setCall_of_ne hsame]
      exact Phase.fits_of_not_owns (hothers other hsame) _ _
  · intro first second hfirst hsecond
    rw [hcall first hfirst, hcall second hsecond]
  · exact hready
  · exact honeClient
  · intro hstate
    apply Exists.intro call
    rw [calls_setCall_self]
    exact hclosing hstate

theorem ordered_beginInitialize (hordered : hal.Ordered) (hfree : ¬ (hal.calls call).Owns) :
    (hal.beginInitialize call).Ordered := by
  unfold Hal.beginInitialize
  by_cases hready : hal.mState = .ready
  · rw [if_pos hready]
    have hnone := hordered.ready hready
    have hothers := not_owns_of_state hordered (by rw [hready]; decide) (by rw [hready]; decide)
    apply ordered_of_others
    · exact fun other _ ↦ hothers other
    · exact ⟨rfl, hnone⟩
    · intro hstate
      cases hstate
    · intro hstate
      cases hstate
    · intro hstate
      cases hstate
  · rw [if_neg hready]
    exact ordered_setCall hordered hfree id

theorem ordered_vendorInitialize (hordered : hal.Ordered) (hphase : hal.calls call = .initializing)
    (library : VendorLibrary) : (hal.vendorInitialize call library).Ordered := by
  have hfits := hordered.fits call
  rw [hphase] at hfits
  have hothers := not_owns_of_phase hordered hphase trivial
  unfold Hal.vendorInitialize
  rw [hfits.2]
  apply ordered_of_others
  · exact hothers
  · change Phase.Fits _ hal.mState _
    rw [hfits.1]
    cases (openInterface hal.allocated library).1 with
    | true => exact ⟨rfl, Option.some_ne_none _⟩
    | false => exact ⟨Or.inl rfl, Option.some_ne_none _⟩
  · intro hstate
    change hal.mState = .ready at hstate
    rw [hfits.1] at hstate
    cases hstate
  · intro _
    exact Option.some_ne_none _
  · intro _
    cases (openInterface hal.allocated library).1 <;> trivial

theorem ordered_shutdown (hordered : hal.Ordered) (hphase : hal.calls call = .shuttingDown) :
    (hal.shutdown call).Ordered := by
  have hfits := hordered.fits call
  rw [hphase] at hfits
  have hothers := not_owns_of_phase hordered hphase trivial
  apply ordered_of_others
  · exact hothers
  · exact ⟨hfits.1, rfl⟩
  · intro _
    rfl
  · intro hstate
    change hal.mState = .oneClient at hstate
    rw [hstate] at hfits
    exact absurd hfits.1 (by decide)
  · intro _
    trivial

theorem ordered_setReady (hordered : hal.Ordered) (hphase : hal.calls call = .shutDown) :
    (hal.setState call .ready).Ordered := by
  have hfits := hordered.fits call
  rw [hphase] at hfits
  have hothers := not_owns_of_phase hordered hphase trivial
  apply ordered_of_others
  · exact hothers
  · trivial
  · intro _
    exact hfits.2
  · intro hstate
    cases hstate
  · intro hstate
    cases hstate

theorem ordered_setOneClient (hordered : hal.Ordered) (hphase : hal.calls call = .initialized) :
    (hal.setState call .oneClient).Ordered := by
  have hfits := hordered.fits call
  rw [hphase] at hfits
  have hothers := not_owns_of_phase hordered hphase trivial
  apply ordered_of_others
  · exact hothers
  · trivial
  · intro hstate
    cases hstate
  · intro _
    exact hfits.2
  · intro hstate
    cases hstate

theorem ordered_close (hordered : hal.Ordered) (hfree : ¬ (hal.calls call).Owns) :
    (hal.close call).Ordered := by
  unfold Hal.close
  by_cases honeClient : hal.mState = .oneClient
  · rw [if_pos honeClient]
    have hsome := hordered.oneClient honeClient
    have hothers := not_owns_of_state hordered (by rw [honeClient]; decide)
      (by rw [honeClient]; decide)
    apply ordered_of_others
    · exact fun other _ ↦ hothers other
    · exact ⟨Or.inr rfl, hsome⟩
    · intro hstate
      cases hstate
    · intro hstate
      cases hstate
    · intro _
      trivial
  · rw [if_neg honeClient]
    exact ordered_setCall hordered hfree id

theorem ordered_serviceDied (hordered : hal.Ordered) (hfree : ¬ (hal.calls call).Owns) (alive : Bool) :
    (hal.serviceDied call alive).Ordered := by
  unfold Hal.serviceDied
  by_cases hdied : hal.linked ∧ ¬ alive
  · rw [if_pos hdied]
    exact ordered_setCall hordered hfree id
  · rw [if_neg hdied]
    exact hordered

/-! The phase that an action starts from. -/

theorem initializing_of_startsFrom {library : VendorLibrary} {phase : Phase}
    (hstarts : (Action.vendorInitialize library).startsFrom phase = true) : phase = .initializing := by
  cases phase <;> first | rfl | cases hstarts

theorem shuttingDown_of_startsFrom {phase : Phase} (hstarts : Action.shutdown.startsFrom phase = true) :
    phase = .shuttingDown := by
  cases phase <;> first | rfl | cases hstarts

theorem shutDown_of_startsFrom {phase : Phase} (hstarts : Action.setReady.startsFrom phase = true) :
    phase = .shutDown := by
  cases phase <;> first | rfl | cases hstarts

theorem initialized_of_startsFrom {phase : Phase}
    (hstarts : Action.setOneClient.startsFrom phase = true) : phase = .initialized := by
  cases phase <;> first | rfl | cases hstarts

/-- The actions of a call that does not own the interface. -/
def Action.Free : Action → Prop
  | .beginInitialize => True
  | .close => True
  | .serviceDied _ => True
  | .get => True
  | .send => True
  | _ => False

theorem not_owns_of_startsFrom {action : Action} {phase : Phase}
    (hstarts : action.startsFrom phase = true) (hfree : action.Free) : ¬ phase.Owns := by
  intro howns
  cases phase with
  | idle => exact howns
  | toClose => exact howns
  | sending vendor => exact howns
  | initializing => cases action <;> first | exact hfree | cases hstarts
  | initialized => cases action <;> first | exact hfree | cases hstarts
  | shuttingDown => cases action <;> first | exact hfree | cases hstarts
  | shutDown => cases action <;> first | exact hfree | cases hstarts

theorem ordered_apply (hordered : hal.Ordered) {action : Action}
    (hstarts : action.startsFrom (hal.calls call) = true) : (action.apply hal call).Ordered := by
  cases action with
  | beginInitialize => exact ordered_beginInitialize hordered (not_owns_of_startsFrom hstarts trivial)
  | vendorInitialize library =>
    exact ordered_vendorInitialize hordered (initializing_of_startsFrom hstarts) library
  | shutdown => exact ordered_shutdown hordered (shuttingDown_of_startsFrom hstarts)
  | setReady => exact ordered_setReady hordered (shutDown_of_startsFrom hstarts)
  | setOneClient => exact ordered_setOneClient hordered (initialized_of_startsFrom hstarts)
  | close => exact ordered_close hordered (not_owns_of_startsFrom hstarts trivial)
  | serviceDied alive =>
    exact ordered_serviceDied hordered (not_owns_of_startsFrom hstarts trivial) alive
  | get => exact ordered_setCall hordered (not_owns_of_startsFrom hstarts trivial) id
  | send => exact ordered_setCall hordered (not_owns_of_startsFrom hstarts trivial) id

end Steps

/-! ## What the order of the steps tells about the pointers -/

theorem transportOpen_concat (steps : List Step) (step : Step) :
    transportOpen (steps ++ [step]) =
      (!step.isShutdown && (step.opensOne || transportOpen steps)) :=
  anySince_concat _ _ steps step

theorem gotCurrent_concat (call : ℕ) (steps : List Step) (step : Step) :
    gotCurrent call (steps ++ [step]) =
      (!step.isVendorCall && (step.isGetOf call || gotCurrent call steps)) :=
  anySince_concat _ _ steps step

theorem closeAsked_concat (steps : List Step) (step : Step) :
    closeAsked (steps ++ [step]) = (!step.isInitialize && (step.isClose || closeAsked steps)) :=
  anySince_concat _ _ steps step

/-- What the steps tell about the interface, and about the pointers that the sends hold. -/
structure Hal.Recorded (hal : Hal) (steps : List Step) : Prop where
  transport : ∀ vendor, hal.g_vendor_interface = some vendor → vendor.hci = transportOpen steps
  noTransport : hal.g_vendor_interface = none → transportOpen steps = false
  allocated : ∀ vendor, hal.g_vendor_interface = some vendor → vendor.serial < hal.allocated
  held : ∀ call serial, hal.calls call = .sending (some serial) → serial < hal.allocated
  current : ∀ call pointer, hal.calls call = .sending pointer → gotCurrent call steps = true →
    pointer = hal.g_vendor_interface.map VendorInterface.serial
  stale : ∀ call serial, hal.calls call = .sending (some serial) → gotCurrent call steps = false →
    ∀ vendor, hal.g_vendor_interface = some vendor → vendor.serial ≠ serial

theorem recorded_initialHal (linked : Bool) : (initialHal linked).Recorded [] := by
  apply Hal.Recorded.mk
  · intro vendor hvendor
    cases hvendor
  · intro _
    rfl
  · intro vendor hvendor
    cases hvendor
  · intro call serial hsending
    cases hsending
  · intro call pointer hsending
    cases hsending
  · intro call serial hsending
    cases hsending

section Recording

variable {hal : Hal} {steps : List Step} {step : Step}

/-- The interface is kept, and no send starts. -/
structure Hal.SameVendor (hal after : Hal) : Prop where
  vendor : after.g_vendor_interface = hal.g_vendor_interface
  allocated : after.allocated = hal.allocated
  sending : ∀ call pointer, after.calls call = .sending pointer → hal.calls call = .sending pointer

theorem sending_of_setCall {call other : ℕ} {phase : Phase}
    (hphase : ∀ pointer, phase ≠ .sending pointer) {pointer : Option ℕ}
    (hsending : (hal.setCall call phase).calls other = .sending pointer) :
    hal.calls other = .sending pointer := by
  by_cases hcall : other = call
  · rw [hcall, calls_setCall_self] at hsending
    exact absurd hsending (hphase pointer)
  · rwa [calls_setCall_of_ne hcall] at hsending

theorem sameVendor_setCall {call : ℕ} {phase : Phase} (hphase : ∀ pointer, phase ≠ .sending pointer)
    (state : HalState) : hal.SameVendor (({ hal with mState := state } : Hal).setCall call phase) :=
  ⟨rfl, rfl, fun _ _ ↦ sending_of_setCall hphase⟩

/-- A step that keeps the interface and starts no send leaves what is recorded. -/
theorem recorded_keeps (hrecorded : hal.Recorded steps) {after : Hal}
    (hsame : hal.SameVendor after) (hshutdown : step.isShutdown = false)
    (hopens : step.opensOne = false) (hcall : step.isVendorCall = false)
    (hget : ∀ call, step.isGetOf call = false) : after.Recorded (steps ++ [step]) := by
  have htransport : transportOpen (steps ++ [step]) = transportOpen steps := by
    rw [transportOpen_concat, hshutdown, hopens]
    simp
  have hgot : ∀ call, gotCurrent call (steps ++ [step]) = gotCurrent call steps := by
    intro call
    rw [gotCurrent_concat, hcall, hget]
    simp
  apply Hal.Recorded.mk
  · rw [hsame.vendor, htransport]
    exact hrecorded.transport
  · rw [hsame.vendor, htransport]
    exact hrecorded.noTransport
  · rw [hsame.vendor, hsame.allocated]
    exact hrecorded.allocated
  · rw [hsame.allocated]
    intro call serial hafter
    exact hrecorded.held call serial (hsame.sending call _ hafter)
  · rw [hsame.vendor]
    intro call pointer hafter
    rw [hgot]
    exact hrecorded.current call pointer (hsame.sending call _ hafter)
  · rw [hsame.vendor]
    intro call serial hafter
    rw [hgot]
    exact hrecorded.stale call serial (hsame.sending call _ hafter)

theorem recorded_vendorInitialize (hordered : hal.Ordered) (hrecorded : hal.Recorded steps)
    {library : VendorLibrary} (haction : step.action = .vendorInitialize library)
    (hphase : hal.calls step.call = .initializing) :
    (hal.vendorInitialize step.call library).Recorded (steps ++ [step]) := by
  have hfits := hordered.fits step.call
  rw [hphase] at hfits
  have hshutdown : step.isShutdown = false := by rw [Step.isShutdown, haction]
  have hcall : step.isVendorCall = true := by rw [Step.isVendorCall, haction]
  have hopens : step.opensOne = decide (library.Opens ∧ library.fd_count = 1) := by
    rw [Step.opensOne, haction]
  have hgot : ∀ call, gotCurrent call (steps ++ [step]) = false := by
    intro call
    rw [gotCurrent_concat, hcall]
    rfl
  have htransport : transportOpen (steps ++ [step]) =
      decide (library.Opens ∧ library.fd_count = 1) := by
    rw [transportOpen_concat, hshutdown, hopens, hrecorded.noTransport hfits.2]
    simp
  have hopened : (openInterface hal.allocated library).2 =
      ⟨hal.allocated, library.Opens ∧ library.fd_count = 1⟩ := by
    unfold openInterface
    by_cases hlibrary : library.Opens
    · rw [if_pos hlibrary]
      simp [hlibrary]
    · rw [if_neg hlibrary]
      simp [hlibrary]
  unfold Hal.vendorInitialize
  rw [hfits.2]
  dsimp only
  rw [hopened]
  have hsending : ∀ other pointer, ((hal.setCall step.call (if (openInterface hal.allocated library).1
      then .initialized else .shuttingDown)).calls other) = .sending pointer →
        hal.calls other = .sending pointer := by
    intro other pointer
    apply sending_of_setCall
    intro pointer
    cases (openInterface hal.allocated library).1 <;> exact fun hne ↦ nomatch hne
  apply Hal.Recorded.mk
  · intro vendor hvendor
    rw [htransport, ← Option.some.inj hvendor]
  · intro hnone
    cases hnone
  · intro vendor hvendor
    rw [← Option.some.inj hvendor]
    exact Nat.lt_succ_self _
  · intro other serial hother
    exact Nat.lt_succ_of_lt (hrecorded.held other serial (hsending other _ hother))
  · intro other pointer _ hcurrent
    rw [hgot] at hcurrent
    cases hcurrent
  · intro other serial hother _ vendor hvendor
    have hheld := hrecorded.held other serial (hsending other _ hother)
    rw [← Option.some.inj hvendor]
    exact Nat.ne_of_gt hheld

theorem recorded_shutdown (hrecorded : hal.Recorded steps) (haction : step.action = .shutdown) :
    (hal.shutdown step.call).Recorded (steps ++ [step]) := by
  have hshutdown : step.isShutdown = true := by rw [Step.isShutdown, haction]
  have hcall : step.isVendorCall = true := by rw [Step.isVendorCall, haction]
  have hsending : ∀ other pointer, (hal.shutdown step.call).calls other = .sending pointer →
      hal.calls other = .sending pointer := by
    intro other pointer
    apply sending_of_setCall
    intro pointer hne
    cases hne
  apply Hal.Recorded.mk
  · intro vendor hvendor
    cases hvendor
  · intro _
    rw [transportOpen_concat, hshutdown]
    rfl
  · intro vendor hvendor
    cases hvendor
  · intro other serial hother
    exact hrecorded.held other serial (hsending other _ hother)
  · intro other pointer _ hcurrent
    rw [gotCurrent_concat, hcall] at hcurrent
    cases hcurrent
  · intro other serial _ _ vendor hvendor
    cases hvendor

theorem recorded_get (hrecorded : hal.Recorded steps) (haction : step.action = .get) :
    (hal.get step.call).Recorded (steps ++ [step]) := by
  have hshutdown : step.isShutdown = false := by rw [Step.isShutdown, haction]
  have hopens : step.opensOne = false := by rw [Step.opensOne, haction]
  have hcall : step.isVendorCall = false := by rw [Step.isVendorCall, haction]
  have hget : ∀ call, step.isGetOf call = decide (step.call = call) := by
    intro call
    rw [Step.isGetOf, haction]
  have htransport : transportOpen (steps ++ [step]) = transportOpen steps := by
    rw [transportOpen_concat, hshutdown, hopens]
    simp
  have hgot : ∀ call, gotCurrent call (steps ++ [step]) =
      (decide (step.call = call) || gotCurrent call steps) := by
    intro call
    rw [gotCurrent_concat, hcall, hget]
    simp
  unfold Hal.get
  apply Hal.Recorded.mk
  · rw [htransport]
    exact hrecorded.transport
  · rw [htransport]
    exact hrecorded.noTransport
  · exact hrecorded.allocated
  · intro other serial hother
    by_cases hsame : other = step.call
    · rw [hsame, calls_setCall_self] at hother
      obtain ⟨vendor, hvendor⟩ := Option.map_eq_some_iff.mp (Phase.sending.inj hother)
      rw [← hvendor.2]
      exact hrecorded.allocated vendor hvendor.1
    · rw [calls_setCall_of_ne hsame] at hother
      exact hrecorded.held other serial hother
  · intro other pointer hother hcurrent
    by_cases hsame : other = step.call
    · rw [hsame, calls_setCall_self] at hother
      exact (Phase.sending.inj hother).symm
    · rw [calls_setCall_of_ne hsame] at hother
      rw [hgot, decide_eq_false (Ne.symm hsame), Bool.false_or] at hcurrent
      exact hrecorded.current other pointer hother hcurrent
  · intro other serial hother hstale
    rw [hgot] at hstale
    have hparts := Bool.or_eq_false_iff.mp hstale
    have hne : other ≠ step.call := Ne.symm (of_decide_eq_false hparts.1)
    rw [calls_setCall_of_ne hne] at hother
    exact hrecorded.stale other serial hother hparts.2

/-- The steps that neither call into the vendor interface nor read the pointer. -/
def Action.Apart : Action → Prop
  | .vendorInitialize _ => False
  | .shutdown => False
  | .get => False
  | _ => True

theorem sameVendor_apply {action : Action} (hapart : action.Apart) (hal : Hal) (call : ℕ) :
    hal.SameVendor (action.apply hal call) := by
  cases action with
  | beginInitialize =>
    change hal.SameVendor (hal.beginInitialize call)
    unfold Hal.beginInitialize
    by_cases hready : hal.mState = .ready
    · rw [if_pos hready]
      exact sameVendor_setCall (fun _ hne ↦ by cases hne) _
    · rw [if_neg hready]
      exact sameVendor_setCall (fun _ hne ↦ by cases hne) hal.mState
  | vendorInitialize library => exact absurd hapart id
  | shutdown => exact absurd hapart id
  | setReady => exact sameVendor_setCall (fun _ hne ↦ by cases hne) _
  | setOneClient => exact sameVendor_setCall (fun _ hne ↦ by cases hne) _
  | close =>
    change hal.SameVendor (hal.close call)
    unfold Hal.close
    by_cases honeClient : hal.mState = .oneClient
    · rw [if_pos honeClient]
      exact sameVendor_setCall (fun _ hne ↦ by cases hne) _
    · rw [if_neg honeClient]
      exact sameVendor_setCall (fun _ hne ↦ by cases hne) hal.mState
  | serviceDied alive =>
    change hal.SameVendor (hal.serviceDied call alive)
    unfold Hal.serviceDied
    by_cases hdied : hal.linked ∧ ¬ alive
    · rw [if_pos hdied]
      exact sameVendor_setCall (fun _ hne ↦ by cases hne) hal.mState
    · rw [if_neg hdied]
      exact ⟨rfl, rfl, fun _ _ hsending ↦ hsending⟩
  | get => exact absurd hapart id
  | send => exact sameVendor_setCall (fun _ hne ↦ by cases hne) hal.mState

theorem recorded_apart (hrecorded : hal.Recorded steps) (hapart : step.action.Apart) :
    (step.action.apply hal step.call).Recorded (steps ++ [step]) := by
  apply recorded_keeps hrecorded (sameVendor_apply hapart hal step.call)
  · unfold Step.isShutdown
    cases haction : step.action <;> first | rfl | (rw [haction] at hapart; exact absurd hapart id)
  · unfold Step.opensOne
    cases haction : step.action <;> first | rfl | (rw [haction] at hapart; exact absurd hapart id)
  · unfold Step.isVendorCall
    cases haction : step.action <;> first | rfl | (rw [haction] at hapart; exact absurd hapart id)
  · intro call
    unfold Step.isGetOf
    cases haction : step.action <;> first | rfl | (rw [haction] at hapart; exact absurd hapart id)

theorem recorded_apply (hordered : hal.Ordered) (hrecorded : hal.Recorded steps)
    (henabled : step.Enabled hal) :
    (step.action.apply hal step.call).Recorded (steps ++ [step]) := by
  by_cases hapart : step.action.Apart
  · exact recorded_apart hrecorded hapart
  · unfold Step.Enabled at henabled
    cases haction : step.action with
    | vendorInitialize library =>
      rw [haction] at henabled
      exact recorded_vendorInitialize hordered hrecorded haction
        (initializing_of_startsFrom henabled)
    | shutdown => exact recorded_shutdown hrecorded haction
    | get => exact recorded_get hrecorded haction
    | beginInitialize => exact absurd (by rw [haction]; trivial) hapart
    | setReady => exact absurd (by rw [haction]; trivial) hapart
    | setOneClient => exact absurd (by rw [haction]; trivial) hapart
    | close => exact absurd (by rw [haction]; trivial) hapart
    | serviceDied alive => exact absurd (by rw [haction]; trivial) hapart
    | send => exact absurd (by rw [haction]; trivial) hapart

end Recording

section Interleavings

variable {linked : Bool}

theorem halAfter_concat (before : List Step) (step : Step) :
    halAfter linked (before ++ [step]) = step.action.apply (halAfter linked before) step.call := by
  unfold halAfter
  rw [List.foldl_append]
  rfl

/-- Every interleaving keeps the order, and its steps tell what they tell. -/
theorem halAfter_keeps {steps : List Step}
    (henabled : EachAfter (fun before step ↦ step.Enabled (halAfter linked before)) steps) :
    (halAfter linked steps).Ordered ∧ (halAfter linked steps).Recorded steps := by
  have hstep : ∀ before (step : Step), (halAfter linked before).Ordered ∧
      (halAfter linked before).Recorded before → step.Enabled (halAfter linked before) →
        (step.action.apply (halAfter linked before) step.call).Ordered ∧
          (step.action.apply (halAfter linked before) step.call).Recorded (before ++ [step]) := by
    intro before step hboth hnext
    exact ⟨ordered_apply hboth.1 hnext, recorded_apply hboth.1 hboth.2 hnext⟩
  exact foldl_keeps (fun (before : List Step) (hal : Hal) ↦ hal.Ordered ∧ hal.Recorded before)
    ⟨ordered_initialHal linked, recorded_initialHal linked⟩ hstep henabled

end Interleavings

section Respecting

variable {hal : Hal} {steps : List Step}

theorem hasTransport_iff (hrecorded : hal.Recorded steps) :
    hal.HasTransport ↔ transportOpen steps = true := by
  apply Iff.intro
  · intro htransport
    obtain ⟨vendor, hvendor⟩ := htransport
    rw [← hrecorded.transport vendor hvendor.1]
    exact hvendor.2
  · intro hopen
    cases hvendor : hal.g_vendor_interface with
    | none =>
      rw [hrecorded.noTransport hvendor] at hopen
      cases hopen
    | some vendor =>
      apply Exists.intro vendor
      apply And.intro hvendor
      rw [hrecorded.transport vendor hvendor]
      exact hopen

/-- A send reaches a transport when the pointer has been read since the vendor library was opened with
one descriptor. -/
theorem reaches_iff (hrecorded : hal.Recorded steps) {call : ℕ} {pointer : Option ℕ}
    (hsending : hal.calls call = .sending pointer) :
    hal.Reaches call ↔ transportOpen steps = true ∧ gotCurrent call steps = true := by
  rw [← hasTransport_iff hrecorded]
  apply Iff.intro
  · intro hreaches
    obtain ⟨vendor, hvendor⟩ := hreaches
    apply And.intro ⟨vendor, hvendor.1, hvendor.2.2⟩
    rw [← Bool.not_eq_false]
    intro hstale
    exact hrecorded.stale call vendor.serial hvendor.2.1 hstale vendor hvendor.1 rfl
  · intro hboth
    obtain ⟨vendor, hvendor⟩ := hboth.1
    apply Exists.intro vendor
    apply And.intro hvendor.1
    apply And.intro _ hvendor.2
    rw [hsending, hrecorded.current call pointer hsending hboth.2, hvendor.1]
    rfl

/-- While the state and the pointer fit together, only a state with one client can be in the way of a
close. -/
theorem closes_iff (hordered : hal.Ordered) (asked : Bool) :
    (asked = true → hal.mState ≠ .initializing →
      hal.g_vendor_interface = none ∨ ∃ call, hal.calls call = .shuttingDown) ↔
        (hal.mState = .oneClient → asked = false) := by
  apply Iff.intro
  · intro hcloses honeClient
    rw [← Bool.not_eq_true]
    intro hasked
    have hgone := hcloses hasked (by rw [honeClient]; decide)
    apply Or.elim hgone
    · exact hordered.oneClient honeClient
    · intro hshutting
      obtain ⟨call, hcall⟩ := hshutting
      have hfits := hordered.fits call
      rw [hcall, honeClient] at hfits
      exact absurd hfits.1 (by decide)
  · intro honeClient hasked hinitializing
    cases hstate : hal.mState with
    | ready => exact Or.inl (hordered.ready hstate)
    | initializing => exact absurd hstate hinitializing
    | oneClient =>
      rw [honeClient hstate] at hasked
      cases hasked
    | closing =>
      obtain ⟨call, hcall⟩ := hordered.closing hstate
      have hfits := hordered.fits call
      cases hphase : hal.calls call with
      | idle => exact absurd hcall (by rw [hphase]; exact id)
      | toClose => exact absurd hcall (by rw [hphase]; exact id)
      | sending pointer => exact absurd hcall (by rw [hphase]; exact id)
      | initializing =>
        rw [hphase, hstate] at hfits
        cases hfits.1
      | initialized =>
        rw [hphase, hstate] at hfits
        cases hfits.1
      | shuttingDown => exact Or.inr ⟨call, hphase⟩
      | shutDown =>
        rw [hphase] at hfits
        exact Or.inl hfits.2

end Respecting

section Settled

variable {linked : Bool} {before : List Step} {step : Step}

/-- With one client there is a transport, and no close has been asked for since `initialize` began. -/
def Settled (linked : Bool) (steps : List Step) : Prop :=
  (halAfter linked steps).mState = .oneClient →
    (halAfter linked steps).HasTransport ∧ closeAsked steps = false

theorem settled_of_respects
    (henabled : EachAfter (fun before step ↦ step.Enabled (halAfter linked before)) before)
    (hrespects : EachAfter (Respects linked) before) : Settled linked before := by
  have hkeeps := halAfter_keeps henabled
  cases before using List.reverseRecOn with
  | nil =>
    intro hstate
    cases hstate
  | append_singleton earlier last =>
    have hlast := ((eachAfter_concat _ earlier last).mp hrespects).2
    intro hstate
    apply And.intro
    · exact hlast.oneClient hstate
    · exact (closes_iff hkeeps.1 _).mp hlast.closes hstate

/-- A step that keeps the state and the interface, and is no close, leaves things settled. -/
theorem settled_same (hsettled : Settled linked before)
    (hstate : (halAfter linked (before ++ [step])).mState = (halAfter linked before).mState)
    (hvendor : (halAfter linked (before ++ [step])).g_vendor_interface =
      (halAfter linked before).g_vendor_interface)
    (hclose : step.isClose = false) : Settled linked (before ++ [step]) := by
  intro honeClient
  rw [hstate] at honeClient
  have hboth := hsettled honeClient
  unfold Hal.HasTransport
  rw [hvendor, closeAsked_concat, hclose, hboth.2]
  exact ⟨hboth.1, Bool.and_false _⟩

theorem settled_concat (hordered : (halAfter linked before).Ordered)
    (hsettled : Settled linked before) (henabled : step.Enabled (halAfter linked before))
    (haction : step.action ≠ .setOneClient) : Settled linked (before ++ [step]) := by
  have hconcat : halAfter linked (before ++ [step]) = _ := halAfter_concat before step
  have hfits := hordered.fits step.call
  unfold Step.Enabled at henabled
  cases hkind : step.action with
  | beginInitialize =>
    rw [hkind] at hconcat
    change _ = (halAfter linked before).beginInitialize step.call at hconcat
    unfold Hal.beginInitialize at hconcat
    by_cases hready : (halAfter linked before).mState = .ready
    · rw [if_pos hready] at hconcat
      intro honeClient
      rw [hconcat] at honeClient
      cases honeClient
    · rw [if_neg hready] at hconcat
      intro honeClient
      rw [hconcat] at honeClient
      apply And.intro
      · rw [hconcat]
        exact (hsettled honeClient).1
      · rw [closeAsked_concat, Step.isInitialize, hkind]
        rfl
  | vendorInitialize library =>
    rw [hkind] at henabled hconcat
    rw [initializing_of_startsFrom henabled] at hfits
    change _ = (halAfter linked before).vendorInitialize step.call library at hconcat
    unfold Hal.vendorInitialize at hconcat
    rw [hfits.2] at hconcat
    intro honeClient
    rw [hconcat] at honeClient
    change (halAfter linked before).mState = _ at honeClient
    rw [hfits.1] at honeClient
    cases honeClient
  | shutdown =>
    rw [hkind] at henabled hconcat
    rw [shuttingDown_of_startsFrom henabled] at hfits
    intro honeClient
    rw [hconcat] at honeClient
    change (halAfter linked before).mState = _ at honeClient
    rw [honeClient] at hfits
    exact absurd hfits.1 (by decide)
  | setReady =>
    rw [hkind] at hconcat
    intro honeClient
    rw [hconcat] at honeClient
    cases honeClient
  | setOneClient => exact absurd hkind haction
  | close =>
    rw [hkind] at hconcat
    change _ = (halAfter linked before).close step.call at hconcat
    unfold Hal.close at hconcat
    intro honeClient
    rw [hconcat] at honeClient
    by_cases hstate : (halAfter linked before).mState = .oneClient
    · rw [if_pos hstate] at honeClient
      cases honeClient
    · rw [if_neg hstate] at honeClient
      exact absurd honeClient hstate
  | serviceDied alive =>
    rw [hkind] at hconcat
    change _ = (halAfter linked before).serviceDied step.call alive at hconcat
    unfold Hal.serviceDied at hconcat
    have hclose : step.isClose = false := by rw [Step.isClose, hkind]
    by_cases hdied : (halAfter linked before).linked ∧ ¬ alive
    · rw [if_pos hdied] at hconcat
      exact settled_same hsettled (by rw [hconcat]; rfl) (by rw [hconcat]; rfl) hclose
    · rw [if_neg hdied] at hconcat
      exact settled_same hsettled (by rw [hconcat]) (by rw [hconcat]) hclose
  | get =>
    rw [hkind] at hconcat
    have hclose : step.isClose = false := by rw [Step.isClose, hkind]
    exact settled_same hsettled (by rw [hconcat]; rfl) (by rw [hconcat]; rfl) hclose
  | send =>
    rw [hkind] at hconcat
    have hclose : step.isClose = false := by rw [Step.isClose, hkind]
    exact settled_same hsettled (by rw [hconcat]; rfl) (by rw [hconcat]; rfl) hclose

/-- What a step has to respect, when the state after it is known to be settled or not. -/
theorem respects_iff_settled (hordered : (halAfter linked (before ++ [step])).Ordered)
    (hshutdown : step.action = .shutdown → (halAfter linked before).g_vendor_interface ≠ none) :
    Respects linked before step ↔
      Settled linked (before ++ [step]) ∧
        (step.action = .send → (halAfter linked before).Reaches step.call) := by
  apply Iff.intro
  · intro hrespects
    apply And.intro
    · intro honeClient
      apply And.intro
      · exact hrespects.oneClient honeClient
      · exact (closes_iff hordered _).mp hrespects.closes honeClient
    · exact hrespects.send
  · intro hboth
    apply Respects.mk
    · exact fun honeClient ↦ (hboth.1 honeClient).1
    · exact hboth.2
    · exact hshutdown
    · exact (closes_iff hordered _).mpr fun honeClient ↦ (hboth.1 honeClient).2

theorem settled_setOneClient (hrecorded : (halAfter linked before).Recorded before)
    (haction : step.action = .setOneClient) :
    Settled linked (before ++ [step]) ↔ transportOpen before = true ∧ closeAsked before = false := by
  have hconcat : halAfter linked (before ++ [step]) = _ := halAfter_concat before step
  rw [haction] at hconcat
  have hasked : closeAsked (before ++ [step]) = closeAsked before := by
    rw [closeAsked_concat, Step.isInitialize, Step.isClose, haction]
    exact Bool.true_and _
  unfold Settled
  rw [hasked, hconcat, ← hasTransport_iff hrecorded]
  apply Iff.intro
  · intro hsettled
    exact hsettled rfl
  · intro hboth _
    exact hboth

theorem sending_of_startsFrom {phase : Phase} (hstarts : Action.send.startsFrom phase = true) :
    ∃ pointer, phase = .sending pointer := by
  cases phase with
  | sending pointer => exact ⟨pointer, rfl⟩
  | idle => cases hstarts
  | toClose => cases hstarts
  | initializing => cases hstarts
  | initialized => cases hstarts
  | shuttingDown => cases hstarts
  | shutDown => cases hstarts

/-- Where everything has been right so far, a step is right exactly when it comes at the right time. -/
theorem respects_iff_timely
    (henabled : EachAfter (fun before step ↦ step.Enabled (halAfter linked before)) before)
    (hstep : step.Enabled (halAfter linked before)) (hsettled : Settled linked before) :
    Respects linked before step ↔ Timely before step := by
  have hkeeps := halAfter_keeps henabled
  have hafter : (halAfter linked (before ++ [step])).Ordered := by
    rw [halAfter_concat]
    exact ordered_apply hkeeps.1 hstep
  have hshutdown : step.action = .shutdown →
      (halAfter linked before).g_vendor_interface ≠ none := by
    intro haction
    have hfits := hkeeps.1.fits step.call
    unfold Step.Enabled at hstep
    rw [haction] at hstep
    rw [shuttingDown_of_startsFrom hstep] at hfits
    exact hfits.2
  rw [respects_iff_settled hafter hshutdown]
  by_cases honeClient : step.action = .setOneClient
  · rw [settled_setOneClient hkeeps.2 honeClient, Timely, honeClient]
    exact and_iff_left fun hsend ↦ nomatch hsend
  · have hkept := settled_concat hkeeps.1 hsettled hstep honeClient
    rw [and_iff_right hkept]
    by_cases hsend : step.action = .send
    · have hphase : ∃ pointer, (halAfter linked before).calls step.call = .sending pointer := by
        unfold Step.Enabled at hstep
        rw [hsend] at hstep
        exact sending_of_startsFrom hstep
      obtain ⟨pointer, hpointer⟩ := hphase
      rw [reaches_iff hkeeps.2 hpointer, Timely, hsend]
      exact ⟨fun himp ↦ himp rfl, fun hboth _ ↦ hboth⟩
    · apply iff_of_true
      · intro haction
        exact absurd haction hsend
      · unfold Timely
        cases haction : step.action <;> trivial

end Settled

/-- An interleaving respects the lifecycle exactly when each `initialize` that succeeds was given one
descriptor and saw no close, and each send falls between the opening and the shutdown of such an
interface. -/
theorem lifecycle_respected_iff {linked : Bool} (run : Interleaving linked) :
    EachAfter (Respects linked) run.steps ↔ EachAfter Timely run.steps := by
  apply eachAfter_congr
  intro before step after hsteps hrespects _
  have henabled := run.enabled
  rw [hsteps] at henabled
  have hsplit := (eachAfter_append _ before (step :: after)).mp henabled
  have hstep := ((eachAfter_cons _ step after).mp hsplit.2).1
  rw [List.append_nil] at hstep
  exact respects_iff_timely hsplit.1 hstep (settled_of_respects hsplit.1 hrespects)

/-- A vendor library that hands out a descriptor for each of two channels. -/
def twoChannels : VendorLibrary where
  handle := true
  interface := true
  status := 0
  fd_count := 2
  fd_list := fun channel ↦ channel + 3

/-- One client opens the library and sends. -/
def twoChannelRun : Interleaving false where
  steps := [⟨0, .beginInitialize⟩, ⟨0, .vendorInitialize twoChannels⟩, ⟨0, .setOneClient⟩, ⟨0, .get⟩,
    ⟨0, .send⟩]
  enabled := by
    rw [eachAfter_cons, eachAfter_cons, eachAfter_cons, eachAfter_cons, eachAfter_singleton]
    decide

theorem twoChannelRun_without_transport : ¬ EachAfter (Respects false) twoChannelRun.steps := by
  intro hrespects
  obtain ⟨vendor, hvendor⟩ := (hrespects (twoChannelRun.steps.take 4) ⟨0, .send⟩ [] rfl).send rfl
  have hvendors : (halAfter false (twoChannelRun.steps.take 4)).g_vendor_interface =
      some ⟨0, false⟩ := by decide
  rw [hvendors] at hvendor
  rw [← Option.some.inj hvendor.1] at hvendor
  cases hvendor.2.2

end HardwareMediatek.Bluetooth
