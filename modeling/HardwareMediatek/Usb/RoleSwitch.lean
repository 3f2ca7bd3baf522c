import HardwareMediatek.Foundation.EffectRuns
import HardwareMediatek.Usb.PortStatus

/-!
# Switching the role of a port

A switch of a mode writes the type of the port and waits for a partner, which the worker thread reports
when it handles a kernel event; a switch of another role writes and reads its node until they agree. One
lock is held from the beginning of a switch to its end, another one while the callback is used. Taking
the callback away sends the worker a signal and waits for its end with the second lock held. The worker
looks for the signal only between two calls of `epoll_wait`, which the signal ends when it comes during
the call.
-/

namespace HardwareMediatek.Usb

open Foundation

section Nodes

def convertRoletoString : PortRole → String
  | .powerRole .source => "source"
  | .powerRole .sink => "sink"
  | .dataRole .host => "host"
  | .dataRole .device => "device"
  | .mode .ufp => "sink"
  | .mode .dfp => "source"
  | _ => "none"

/-- What is read back from the node is the role that was written. -/
def confirmsRole (role : PortRole) (written : String) : Bool :=
  extractRole (Thermal.trimText written) = convertRoletoString role

end Nodes

section Events

/-- What the worker does for a string of a kernel message. -/
inductive UeventAction where
  | partnerAdded
  | portChanged
deriving DecidableEq, Repr

/-- The whole text matches `(add)(.*)(-partner)`, where the dot is no end of a line. -/
def isPartnerAdded (text : String) : Bool :=
  let chars := text.toList
  "add".toList.isPrefixOf chars && "-partner".toList.isSuffixOf chars && 11 ≤ chars.length &&
    ((chars.drop 3).take (chars.length - 11)).all fun c ↦ c ≠ '\n' && c ≠ '\r'

def isPortChanged (text : String) : Bool := "DEVTYPE=typec_".toList.isPrefixOf text.toList

/-- An empty string ends the message. Nothing behind a change of a port is looked at. -/
def ueventActions : List String → List UeventAction
  | [] => []
  | text :: rest =>
    if text = "" then []
    else if isPartnerAdded text then .partnerAdded :: ueventActions rest
    else if isPortChanged text then [.portChanged]
    else ueventActions rest

example : ueventActions ["add@/devices/typec/port0/port0-partner", "SUBSYSTEM=typec",
    "DEVTYPE=typec_partner", "add@/x-partner"] = [.partnerAdded, .portChanged] := by decide +kernel

end Events

section System

structure SwitchCall where
  portName : String
  role : PortRole
  transactionId : ℤ
  /-- what `canSwitchRoleHelper` returned -/
  canSwitch : Bool
deriving DecidableEq, Repr

/-- Where the holder of `mRoleSwitchLock` is. -/
inductive SwitchPhase where
  | idle
  | opening (call : SwitchCall)
  | waiting (call : SwitchCall)
  | restoring (call : SwitchCall) (roleSwitch : Bool)
  | trying (call : SwitchCall) (tries : ℕ)
  | notifying (call : SwitchCall) (roleSwitch : Bool)
deriving DecidableEq, Repr

/-- Where the worker is: in front of its loop, at the rest of a message, between the test of
`destroyThread` and `epoll_wait`, or in that call. With nothing left to handle, the test comes next. -/
inductive WorkerPhase where
  | starting
  | handling (actions : List UeventAction)
  | polling
  | waiting
deriving DecidableEq, Repr

/-- The handler of the signal runs in the worker, and `epoll_wait` returns. -/
def WorkerPhase.interrupted : WorkerPhase → WorkerPhase
  | .waiting => .handling []
  | worker => worker

/-- While `setCallback` joins the worker, it holds `mLock`. -/
structure UsbSystem where
  phase : SwitchPhase := .idle
  mPartnerUp : Bool := false
  mCallback : Option ℕ := none
  worker : Option WorkerPhase := none
  destroyThread : Bool := false
  joining : Bool := false
deriving DecidableEq, Repr

/-- A port that the worker looks at, whether it has a partner, and whether its type can be written. -/
structure ListedPort where
  portName : String
  hasPartner : Bool
  isWritten : Bool
deriving DecidableEq, Repr

inductive UsbStep where
  | switchRole (call : SwitchCall)
  /-- the node is opened and written; nothing when it cannot be opened -/
  | openNode (write : Option Bool)
  /-- `pthread_cond_timedwait` returns, on a signal or without one -/
  | wake (timedOut : Bool)
  | switchToDrp (isWritten : Bool)
  | attempt (isWritten : Bool) (readBack : Option String)
  | notify
  /-- the socket and the epoll instance of the worker are there, or not -/
  | start (opened : Bool)
  /-- the worker looks at `destroyThread` -/
  | test
  | poll
  | receive (message : List String)
  /-- `epoll_wait` fails, and not because of a signal -/
  | failWait
  | handlePartner
  | handlePort (ports : List ListedPort)
  /-- with what `pthread_create` or `pthread_kill` comes to -/
  | setCallback (callback : Option ℕ) (succeeded : Bool)
  | joined
deriving DecidableEq, Repr

inductive UsbEffect where
  | called (call : SwitchCall)
  | wroteType (portName text : String)
  | restored (portName : String) (isWritten byWorker : Bool)
  /-- whether the role was written, and what was read back from the node -/
  | tried (isWritten : Bool) (readBack : Option String)
  | partnerAdded
  | timedOut
  | finished (call : SwitchCall) (roleSwitch : Bool) (callback : Option ℕ)
  | statusChanged (callback : ℕ)
deriving DecidableEq, Repr

def kRoleSwitchTries : ℕ := 20

/-- What a switch goes on with once it holds the lock. -/
def SwitchCall.entered (call : SwitchCall) : SwitchPhase :=
  if call.role.getTag = .mode then .opening call
  else if call.canSwitch then .trying call 0
  else .notifying call false

/-- The writes of the worker when no switch is in progress. -/
def restoreIdle (ports : List ListedPort) : List UsbEffect :=
  (ports.filter fun port ↦ !port.hasPartner).map fun port ↦
    .restored port.portName port.isWritten true

/-- `setCallback`, when the lock is free. -/
def UsbSystem.setCallback (system : UsbSystem) (callback : Option ℕ) (succeeded : Bool) :
    Option UsbSystem :=
  match system.mCallback, callback with
  | some _, none =>
    if succeeded then
      some { system with
        mCallback := none
        worker := system.worker.map WorkerPhase.interrupted
        destroyThread := system.destroyThread || system.worker.isSome
        joining := true }
    else if system.worker = none then some { system with mCallback := none }
    else none
  | none, some _ =>
    if succeeded then
      some { system with mCallback := callback, destroyThread := false, worker := some .starting }
    else some { system with mCallback := none, destroyThread := false }
  | _, _ => some { system with mCallback := callback }

def UsbSystem.step (system : UsbSystem) : UsbStep → Option (UsbSystem × List UsbEffect)
  | .switchRole call =>
    if system.phase = .idle then some ({ system with phase := call.entered }, [.called call]) else none
  | .openNode write =>
    match system.phase with
    | .opening call =>
      match write with
      | some true =>
        some ({ system with phase := .waiting call, mPartnerUp := false },
          [.wroteType call.portName (convertRoletoString call.role)])
      | some false =>
        some ({ system with phase := .restoring call false, mPartnerUp := false }, [])
      | none => some ({ system with phase := .restoring call false }, [])
    | _ => none
  | .wake timedOut =>
    match system.phase with
    | .waiting call =>
      if timedOut then some ({ system with phase := .restoring call false }, [.timedOut])
      else if system.mPartnerUp then some ({ system with phase := .restoring call true }, [])
      else some (system, [])
    | _ => none
  | .switchToDrp isWritten =>
    match system.phase with
    | .restoring call roleSwitch =>
      some ({ system with phase := .notifying call roleSwitch },
        [.restored call.portName isWritten false])
    | _ => none
  | .attempt isWritten readBack =>
    match system.phase with
    | .trying call tries =>
      if isWritten && readBack.any (confirmsRole call.role) then
        some ({ system with phase := .notifying call true }, [.tried isWritten readBack])
      else if tries + 1 < kRoleSwitchTries then
        some ({ system with phase := .trying call (tries + 1) }, [.tried isWritten readBack])
      else some ({ system with phase := .notifying call false }, [.tried isWritten readBack])
    | _ => none
  | .notify =>
    match system.phase with
    | .notifying call roleSwitch =>
      if system.joining then none
      else some ({ system with phase := .idle }, [.finished call roleSwitch system.mCallback])
    | _ => none
  | .start opened =>
    if system.worker = some .starting then
      some ({ system with worker := if opened then some (.handling []) else none }, [])
    else none
  | .test =>
    if system.worker = some (.handling []) then
      some ({ system with worker := if system.destroyThread then none else some .polling }, [])
    else none
  | .poll =>
    if system.worker = some .polling then some ({ system with worker := some .waiting }, [])
    else none
  | .receive message =>
    if system.worker = some .waiting then
      some ({ system with worker := some (.handling (ueventActions message)) }, [])
    else none
  | .failWait =>
    if system.worker = some .waiting then some ({ system with worker := none }, []) else none
  | .handlePartner =>
    match system.worker with
    | some (.handling (.partnerAdded :: rest)) =>
      some ({ system with worker := some (.handling rest), mPartnerUp := true }, [.partnerAdded])
    | _ => none
  | .handlePort ports =>
    match system.worker with
    | some (.handling (.portChanged :: rest)) =>
      if system.joining then none
      else
        some ({ system with worker := some (.handling rest) },
          (system.mCallback.toList.map UsbEffect.statusChanged) ++
            if system.phase = .idle then restoreIdle ports else [])
    | _ => none
  | .setCallback callback succeeded =>
    if system.joining then none
    else (system.setCallback callback succeeded).map fun system ↦ (system, [])
  | .joined =>
    if system.joining = true ∧ system.worker = none then some ({ system with joining := false }, [])
    else none

end System

end HardwareMediatek.Usb
