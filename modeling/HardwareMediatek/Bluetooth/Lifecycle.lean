import HardwareMediatek.Foundation.EffectRuns
import Mathlib.Data.Int.Notation
import Mathlib.Logic.Function.Basic

/-!
# The lifecycle of the Bluetooth HAL

`BluetoothHci` guards its four states with a mutex and the vendor interface with nothing: `initialize`
and `close` take turns through the state, and `send` reads the global pointer without looking at it.
Any number of calls are under way at a time, and each of them goes from one critical section or call
into `VendorInterface` to the next.
-/

namespace HardwareMediatek.Bluetooth

open Foundation

inductive HalState where
  | ready
  | initializing
  | oneClient
  | closing
  deriving DecidableEq, Repr

/-- What the vendor library answers while it is opened. -/
structure VendorLibrary where
  /-- `dlopen` finds the library -/
  handle : Bool
  /-- `dlsym` finds its interface -/
  interface : Bool
  /-- `init` -/
  status : ℤ
  /-- `BT_VND_OP_USERIAL_OPEN` -/
  fd_count : ℤ
  fd_list : ℕ → ℤ

def chMax : ℤ := 4
def invalidFd : ℤ := -1

/-- The library is there, powers the controller and hands out descriptors that are all valid. -/
def VendorLibrary.Opens (library : VendorLibrary) : Prop :=
  library.handle = true ∧ library.interface = true ∧ library.status = 0 ∧
    ¬ (library.fd_count < 1 ∨ chMax - 1 < library.fd_count) ∧
      ∀ i < library.fd_count.toNat, library.fd_list i ≠ invalidFd

instance (library : VendorLibrary) : Decidable library.Opens :=
  inferInstanceAs (Decidable (_ ∧ _ ∧ _ ∧ _ ∧ _))

/-- A vendor interface: the object it is, and whether its `hci_` is set. -/
structure VendorInterface where
  serial : ℕ
  hci : Bool
  deriving DecidableEq, Repr

/-- `Open` sets the transport only when there is one descriptor. -/
def openInterface (serial : ℕ) (library : VendorLibrary) : Bool × VendorInterface :=
  if library.Opens then (true, ⟨serial, library.fd_count = 1⟩) else (false, ⟨serial, false⟩)

/-- Where a call is. -/
inductive Phase where
  | idle
  /-- `initialize` has left `READY`, and `VendorInterface::Initialize` is next -/
  | initializing
  /-- `VendorInterface::Initialize` has succeeded, and `ONE_CLIENT` is next -/
  | initialized
  /-- a failed `initialize` or a `close`, and `VendorInterface::Shutdown` is next -/
  | shuttingDown
  /-- after `VendorInterface::Shutdown`, and `READY` is next -/
  | shutDown
  /-- a rejected `initialize` or the death of the client, and `close` is next -/
  | toClose
  /-- `send` has read the pointer to the interface -/
  | sending (vendor : Option ℕ)
  deriving DecidableEq, Repr

/-- What a call does without another call in between. -/
inductive Action where
  | beginInitialize
  | vendorInitialize (library : VendorLibrary)
  | shutdown
  | setReady
  | setOneClient
  | close
  | serviceDied (alive : Bool)
  | get
  | send

/-- A call and what it does next. -/
structure Step where
  call : ℕ
  action : Action

structure Hal where
  mState : HalState
  g_vendor_interface : Option VendorInterface
  /-- how many interfaces have been allocated -/
  allocated : ℕ
  calls : ℕ → Phase
  /-- the death recipient holds the callbacks of a client -/
  linked : Bool

/-- The service before its first call. No code calls `LinkToDeath`, and nothing here depends on it. -/
def initialHal (linked : Bool) : Hal where
  mState := .ready
  g_vendor_interface := none
  allocated := 0
  calls := fun _ ↦ .idle
  linked := linked

namespace Hal

variable (hal : Hal) (call : ℕ)

def setCall (phase : Phase) : Hal := { hal with calls := Function.update hal.calls call phase }

/-- The first critical section of `initialize`. -/
def beginInitialize : Hal :=
  if hal.mState = .ready then ({ hal with mState := .initializing } : Hal).setCall call .initializing
  else hal.setCall call .toClose

/-- `VendorInterface::Initialize` -/
def vendorInitialize (library : VendorLibrary) : Hal :=
  match hal.g_vendor_interface with
  | some _ => hal.setCall call .shuttingDown
  | none =>
      let opened := openInterface hal.allocated library
      ({ hal with
        g_vendor_interface := some opened.2
        allocated := hal.allocated + 1 } : Hal).setCall call
          (if opened.1 then .initialized else .shuttingDown)

/-- `VendorInterface::Shutdown` -/
def shutdown : Hal := ({ hal with g_vendor_interface := none } : Hal).setCall call .shutDown

def setState (state : HalState) : Hal := ({ hal with mState := state } : Hal).setCall call .idle

/-- The first critical section of `close`. -/
def close : Hal :=
  if hal.mState = .oneClient then ({ hal with mState := .closing } : Hal).setCall call .shuttingDown
  else hal.setCall call .idle

def serviceDied (alive : Bool) : Hal :=
  if hal.linked ∧ ¬ alive then hal.setCall call .toClose else hal

/-- `VendorInterface::get` -/
def get : Hal := hal.setCall call (.sending (hal.g_vendor_interface.map VendorInterface.serial))

/-- `VendorInterface::Send` leaves the interface as it is. -/
def send : Hal := hal.setCall call .idle

end Hal

/-- Whether a call can do something next. -/
def Action.startsFrom : Action → Phase → Bool
  | .beginInitialize, .idle => true
  | .vendorInitialize _, .initializing => true
  | .shutdown, .shuttingDown => true
  | .setReady, .shutDown => true
  | .setOneClient, .initialized => true
  | .close, .idle => true
  | .close, .toClose => true
  | .serviceDied _, .idle => true
  | .get, .idle => true
  | .send, .sending _ => true
  | _, _ => false

def Action.apply : Action → Hal → ℕ → Hal
  | .beginInitialize, hal, call => hal.beginInitialize call
  | .vendorInitialize library, hal, call => hal.vendorInitialize call library
  | .shutdown, hal, call => hal.shutdown call
  | .setReady, hal, call => hal.setState call .ready
  | .setOneClient, hal, call => hal.setState call .oneClient
  | .close, hal, call => hal.close call
  | .serviceDied alive, hal, call => hal.serviceDied call alive
  | .get, hal, call => hal.get call
  | .send, hal, call => hal.send call

def Step.Enabled (step : Step) (hal : Hal) : Prop :=
  step.action.startsFrom (hal.calls step.call) = true

instance (step : Step) (hal : Hal) : Decidable (step.Enabled hal) := inferInstanceAs (Decidable (_ = _))

def halAfter (linked : Bool) (steps : List Step) : Hal :=
  steps.foldl (fun hal step ↦ step.action.apply hal step.call) (initialHal linked)

/-- An interleaving of calls: each step can be taken where it stands. -/
structure Interleaving (linked : Bool) where
  steps : List Step
  enabled : EachAfter (fun before step ↦ step.Enabled (halAfter linked before)) steps

/-! ## What is right, and when -/

def Step.isInitialize (step : Step) : Bool :=
  match step.action with
  | .beginInitialize => true
  | _ => false

def Step.isClose (step : Step) : Bool :=
  match step.action with
  | .close => true
  | _ => false

def Step.isShutdown (step : Step) : Bool :=
  match step.action with
  | .shutdown => true
  | _ => false

def Step.isVendorCall (step : Step) : Bool :=
  match step.action with
  | .vendorInitialize _ => true
  | .shutdown => true
  | _ => false

def Step.isGetOf (call : ℕ) (step : Step) : Bool :=
  match step.action with
  | .get => step.call = call
  | _ => false

/-- The vendor library is opened and hands out one descriptor. -/
def Step.opensOne (step : Step) : Bool :=
  match step.action with
  | .vendorInitialize library => library.Opens ∧ library.fd_count = 1
  | _ => false

/-- A close has been asked for since the latest `initialize` began. -/
def closeAsked (steps : List Step) : Bool := anySince Step.isInitialize Step.isClose steps

/-- The vendor library opened last, and not shut down since, has handed out one descriptor. -/
def transportOpen (steps : List Step) : Bool := anySince Step.isShutdown Step.opensOne steps

/-- The call has read the pointer since the last call into the vendor interface. -/
def gotCurrent (call : ℕ) (steps : List Step) : Bool :=
  anySince Step.isVendorCall (Step.isGetOf call) steps

def Hal.HasTransport (hal : Hal) : Prop :=
  ∃ vendor, hal.g_vendor_interface = some vendor ∧ vendor.hci = true

/-- The pointer that a send has read is to the interface that is there, and that has a transport. -/
def Hal.Reaches (hal : Hal) (call : ℕ) : Prop :=
  ∃ vendor, hal.g_vendor_interface = some vendor ∧
    hal.calls call = .sending (some vendor.serial) ∧ vendor.hci = true

/-- What a step after some others has to respect. -/
structure Respects (linked : Bool) (before : List Step) (step : Step) : Prop where
  /-- with one client, there is an interface with a transport -/
  oneClient : (halAfter linked (before ++ [step])).mState = .oneClient →
    (halAfter linked (before ++ [step])).HasTransport
  /-- no send dereferences a null pointer, or an interface without a transport -/
  send : step.action = .send → (halAfter linked before).Reaches step.call
  /-- no shutdown without an interface -/
  shutdown : step.action = .shutdown → (halAfter linked before).g_vendor_interface ≠ none
  /-- after a close, once `initialize` has returned, no interface is left or its shutdown is next -/
  closes : closeAsked (before ++ [step]) = true →
    (halAfter linked (before ++ [step])).mState ≠ .initializing →
      (halAfter linked (before ++ [step])).g_vendor_interface = none ∨
        ∃ call, (halAfter linked (before ++ [step])).calls call = .shuttingDown

/-- The steps that have to come at the right time. An `initialize` succeeds with one descriptor and
without a close since it began, and a send reads the pointer and uses it between the opening of a library
that hands out one descriptor and the next shutdown. -/
def Timely (before : List Step) (step : Step) : Prop :=
  match step.action with
  | .setOneClient => transportOpen before = true ∧ closeAsked before = false
  | .send => transportOpen before = true ∧ gotCurrent step.call before = true
  | _ => True

end HardwareMediatek.Bluetooth
