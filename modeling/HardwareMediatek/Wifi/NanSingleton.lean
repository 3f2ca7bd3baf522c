import HardwareMediatek.Foundation.EffectRuns
import HardwareMediatek.Wifi.NanRequests
import Mathlib.Logic.Function.Basic

/-!
# The one NAN command object

`NanCommand::instance` handles the events of two subcommands and sends the statistics requests of
`getNanStaParameter`. Both use its vendor id, its subcommand and its pointer to vendor data. A system is
the object together with how far each call of `getNanStaParameter` has come; its steps are `create`,
`set_iface_id`, `putNanStats`, `requestEvent` and whole events, in any order.
-/

namespace HardwareMediatek.Wifi

open Foundation

section Object

/-- What `mVendorData` may point to: the buffer that `putNanStats` allocated in a call, or vendor data
inside the message of an event. -/
inductive VendorBuffer where
  | request (call : ℕ)
  | event
  deriving DecidableEq, Repr

structure NanSingleton where
  mVendor_id : UInt32 := ouiMtk
  mSubcmd : UInt32 := mtkSubcmdNan
  mVendorData : Option VendorBuffer := none
  mMsg : Option Message := none

/-- What a step does to the outside, with the call that does it. -/
inductive NanEffect where
  | allocated (call : ℕ)
  | freed (call : ℕ) (buffer : VendorBuffer)
  | sent (message : Message)

/-- The attributes of a vendor event that `handleEvent` looks at. -/
structure VendorEvent where
  vendor_id : Option UInt32
  subcmd : Option UInt32
  vendor_data : Bool

/-- `WifiVendorCommand::handleEvent`. -/
def NanSingleton.handleEvent (nan : NanSingleton) (event : VendorEvent) : NanSingleton :=
  match event.vendor_id, event.subcmd with
  | some vendor_id, some subcmd =>
      { nan with
        mVendor_id := vendor_id
        mSubcmd := subcmd
        mVendorData := if event.vendor_data then some .event else nan.mVendorData }
  | _, _ => nan

/-- `if (mVendorData) free(mVendorData);` -/
def NanSingleton.freeVendorData (nan : NanSingleton) (call : ℕ) : List NanEffect :=
  match nan.mVendorData with
  | none => []
  | some buffer => [.freed call buffer]

/-- The rest of `cleanup`, and of the end of `requestEvent`. -/
def NanSingleton.cleanup (nan : NanSingleton) : NanSingleton :=
  { nan with mVendorData := none, mMsg := none }

/-- The payloads of the attributes of one type. -/
def messagePayloads (type : AttrType) (message : Message) : List (List UInt8) :=
  message.attrs.filterMap fun attr ↦
    match attr with
    | .payload found data => if found = type then some data else none
    | .nest _ _ => none

end Object

section Calls

def nanMsgIdStatsReq : ℕ := 20
def nanStatsIdDeTimingSync : ℕ := 3

/-- `NanStatsReqMsg` for the timing and synchronisation statistics. -/
def nanStatsReqMsg : List UInt8 :=
  nanMsgHeader nanMsgIdStatsReq 12 0 1 ++ le32 (packBits [(8, nanStatsIdDeTimingSync), (1, 0), (23, 0)])

inductive StaParameterPhase where
  | notCalled
  | created
  | bound
  | put
  | returned
  deriving DecidableEq, Repr

/-- The events that are dispatched to the object: it is registered for two subcommands of one vendor. -/
structure NanVendorEvent where
  ndp : Bool
  vendor_data : Bool
  deriving DecidableEq, Repr

def NanVendorEvent.subcmd (event : NanVendorEvent) : UInt32 :=
  if event.ndp then mtkSubcmdNdp else mtkSubcmdNan

def NanVendorEvent.attributes (event : NanVendorEvent) : VendorEvent where
  vendor_id := some ouiMtk
  subcmd := some event.subcmd
  vendor_data := event.vendor_data

/-- What `malloc` and `put_bytes` answer. -/
structure PutStatsEnv where
  malloc : Bool
  put_bytes : Option KernelError

/-- The buffer is allocated and its bytes are put into the message. -/
def PutStatsEnv.Succeeds (env : PutStatsEnv) : Prop := env.malloc = true ∧ env.put_bytes = none

instance (env : PutStatsEnv) : Decidable env.Succeeds :=
  decidable_of_iff (env.malloc = true ∧ env.put_bytes.isNone = true)
    (and_congr_right fun _ ↦ Option.isNone_iff_eq_none)

/-- The steps of the calls of `getNanStaParameter`, which have numbers, and whole events. -/
inductive NanStep where
  | create (call : ℕ) (env : RequestEnv)
  | setIfaceId (call : ℕ) (env : RequestEnv)
  | putNanStats (call : ℕ) (env : PutStatsEnv)
  | requestEvent (call : ℕ) (env : RequestEnv)
  | event (event : NanVendorEvent)

structure NanSystem where
  nan : NanSingleton := {}
  phase : ℕ → StaParameterPhase := fun _ ↦ .notCalled

/-- The object after a step of a call, and how far the call is now. -/
def NanSystem.advance (system : NanSystem) (nan : NanSingleton) (call : ℕ)
    (phase : StaParameterPhase) : NanSystem where
  nan := nan
  phase := Function.update system.phase call phase

/-- The next state and the effects. A call takes its steps in their order, and there is no next state
when a message is used that is not there. -/
def NanSystem.step (system : NanSystem) : NanStep → Option (NanSystem × List NanEffect)
  | .create call env =>
      if system.phase call = .notCalled then
        match create system.nan.mVendor_id system.nan.mSubcmd env with
        | .ok message =>
            some (system.advance { system.nan with mMsg := some message } call .created, [])
        | .error _ => some (system.advance { system.nan with mMsg := none } call .returned, [])
      else none
  | .setIfaceId call env =>
      match system.phase call, system.nan.mMsg with
      | .created, some mMsg =>
          match setIfaceId env mMsg with
          | .ok message =>
              some (system.advance { system.nan with mMsg := some message } call .bound, [])
          | .error _ => some (system.advance system.nan call .returned, [])
      | _, _ => none
  | .putNanStats call env =>
      if system.phase call = .bound then
        if env.malloc then
          match system.nan.mMsg, env.put_bytes with
          | some mMsg, none =>
              let message := mMsg.add (.payload (.nl80211 .vendorData) nanStatsReqMsg)
              let nan :=
                { system.nan with mVendorData := some (.request call), mMsg := some message }
              some (system.advance nan call .put, [.allocated call])
          | some _, some _ =>
              let nan := { system.nan with mVendorData := some (.request call) }
              some (system.advance nan.cleanup call .returned,
                .allocated call :: nan.freeVendorData call)
          | none, _ => none
        else
          some (system.advance system.nan.cleanup call .returned, system.nan.freeVendorData call)
      else none
  | .requestEvent call env =>
      if system.phase call = .put then
        match system.nan.mMsg with
        | some mMsg =>
            some (system.advance system.nan.cleanup call .returned,
              (requestEvent env mMsg).sent.toList.map NanEffect.sent ++
                system.nan.freeVendorData call)
        | none =>
            if env.cbAlloc ∧ env.cmdSock then none
            else
              some (system.advance system.nan.cleanup call .returned,
                system.nan.freeVendorData call)
      else none
  | .event event => some ({ system with nan := system.nan.handleEvent event.attributes }, [])

end Calls

section Order

def NanStep.isCreate : NanStep → Bool
  | .create _ _ => true
  | _ => false

def NanStep.event? : NanStep → Option NanVendorEvent
  | .event received => some received
  | _ => none

/-- Steps that set `mVendorData` or clear it. -/
def NanStep.movesVendorData : NanStep → Bool
  | .putNanStats _ _ => true
  | .requestEvent _ _ => true
  | .event received => received.vendor_data
  | _ => false

def lastEvent (steps : List NanStep) : Option NanVendorEvent :=
  steps.reverse.findSome? NanStep.event?

/-- The last event before the last `create`. -/
def eventBeforeCreate (steps : List NanStep) : Option NanVendorEvent :=
  (steps.reverse.dropWhile fun step ↦ !step.isCreate).findSome? NanStep.event?

def lastVendorDataStep (steps : List NanStep) : Option NanStep :=
  steps.reverse.find? NanStep.movesVendorData

/-- The last step that moved `mVendorData` is neither an event nor the put function of another call. -/
def OwnVendorData (steps : List NanStep) (call : ℕ) : Prop :=
  match lastVendorDataStep steps with
  | some (.event _) => False
  | some (.putNanStats other env) => env.Succeeds → other = call
  | _ => True

/-- The order that requests need: no NDP event is the last one before the message is created, and the
pointer is still that of the call wherever it is freed. -/
def NanStep.InOrder (steps : List NanStep) : NanStep → Prop
  | .requestEvent call env =>
      (env.cbAlloc = true ∧ env.cmdSock = true →
        ∀ event, eventBeforeCreate steps = some event → event.ndp = false) ∧
      OwnVendorData steps call
  | .putNanStats call env => env.malloc = false → OwnVendorData steps call
  | _ => True

/-- Messages have the ids of a NAN request, and what is freed was allocated in the same call and is
freed for the first time. -/
def NanEffect.Right (before : List NanEffect) : NanEffect → Prop
  | .allocated _ => True
  | .freed call buffer =>
      buffer = .request call ∧ .allocated call ∈ before ∧ ∀ other, .freed other buffer ∉ before
  | .sent message =>
      messagePayloads (.nl80211 .vendorId) message = [u32Bytes ouiMtk] ∧
        messagePayloads (.nl80211 .vendorSubcmd) message = [u32Bytes mtkSubcmdNan]

end Order

end HardwareMediatek.Wifi
