import HardwareMediatek.Foundation.CIntegers
import HardwareMediatek.Thermal.TripPoints
import Mathlib.Data.List.Forall2

/-!
# The status of the USB ports

One function reads the power role, the data role and the mode of a port. It starts with the alternative
it is asked for, but the text in a node decides which alternative it ends with. A port that cannot be
read ends the loop over the ports, with the status that the loop began with.
-/

namespace HardwareMediatek.Usb

open Foundation

inductive Status where
  | success
  | error
  | invalidArgument
  | unrecognizedRole
  | notSupported
deriving DecidableEq, Repr

inductive PortPowerRole where
  | none
  | source
  | sink
deriving DecidableEq, Repr

inductive PortDataRole where
  | none
  | host
  | device
deriving DecidableEq, Repr

inductive PortMode where
  | none
  | ufp
  | dfp
  | drp
  | audioAccessory
  | debugAccessory
deriving DecidableEq, Repr

inductive UsbDataStatus where
  | enabled
  | disabledForce
deriving DecidableEq, Repr

/-- The alternatives of the union `PortRole`. -/
inductive PortRole.Tag where
  | powerRole
  | dataRole
  | mode
deriving DecidableEq, Repr

inductive PortRole where
  | powerRole (role : PortPowerRole)
  | dataRole (role : PortDataRole)
  | mode (role : PortMode)
deriving DecidableEq, Repr

namespace PortRole

def getTag : PortRole → Tag
  | .powerRole _ => .powerRole
  | .dataRole _ => .dataRole
  | .mode _ => .mode

/-- No role, in an alternative. -/
def none : Tag → PortRole
  | .powerRole => .powerRole .none
  | .dataRole => .dataRole .none
  | .mode => .mode .none

/-! A `get` of another alternative ends the program. -/

def getPowerRole : PortRole → Option PortPowerRole
  | .powerRole role => some role
  | _ => Option.none

def getDataRole : PortRole → Option PortDataRole
  | .dataRole role => some role
  | _ => Option.none

def getMode : PortRole → Option PortMode
  | .mode role => some role
  | _ => Option.none

end PortRole

/-- What an entry of the reply holds, as far as the query fills it. -/
structure PortStatus where
  portName : String := ""
  currentPowerRole : PortPowerRole := .none
  currentDataRole : PortDataRole := .none
  currentMode : PortMode := .none
  canChangeMode : Bool := false
  canChangeDataRole : Bool := false
  canChangePowerRole : Bool := false
  supportedModes : List PortMode := []
  usbDataStatus : List UsbDataStatus := []
deriving DecidableEq, Repr

def kTypecPath : String := "/sys/class/typec/"
def kDataRoleNode : String := "/data_role"
def kPowerRoleNode : String := "/power_role"

section Roles

variable (readFileToString : String → Option String) (portName : String)

/-- The text between the brackets. A bracket that is closed before it is opened takes the rest. -/
def extractRole (roleName : String) : String :=
  match roleName.toList.idxOf? '[', roleName.toList.idxOf? ']' with
  | some first, some last =>
    String.ofList ((roleName.toList.drop (first + 1)).take (asSize ((last : ℤ) - first - 1)))
  | _, _ => roleName

/-- The text of a node is set, whatever alternative it belongs to. -/
def setRole (currentRole : PortRole) (roleName : String) : PortRole × Status :=
  if roleName = "source" then (.powerRole .source, .success)
  else if roleName = "sink" then (.powerRole .sink, .success)
  else if roleName = "host" then
    if currentRole.getTag = .dataRole then (.dataRole .host, .success) else (.mode .dfp, .success)
  else if roleName = "device" then
    if currentRole.getTag = .dataRole then (.dataRole .device, .success) else (.mode .ufp, .success)
  else if roleName ≠ "none" then (currentRole, .unrecognizedRole)
  else (currentRole, .success)

def roleFilename : PortRole.Tag → String
  | .powerRole => kTypecPath ++ portName ++ kPowerRoleNode
  | .dataRole => kTypecPath ++ portName ++ kDataRoleNode
  | .mode => kTypecPath ++ portName ++ kDataRoleNode

/-- The role that is in a node. -/
def roleText (tag : PortRole.Tag) : Option String :=
  (readFileToString (roleFilename portName tag)).map fun text ↦ extractRole (Thermal.trimText text)

def readRole (currentRole : PortRole) : PortRole × Status :=
  match roleText readFileToString portName currentRole.getTag with
  | some roleName => setRole currentRole roleName
  | none => (currentRole, .error)

def getAccessoryConnected : Option String :=
  (readFileToString (kTypecPath ++ portName ++ "-partner/accessory_mode")).map Thermal.trimText

/-- An accessory is a mode of its own. -/
def readMode (currentRole : PortRole) : PortRole × Status :=
  match getAccessoryConnected readFileToString portName with
  | none => (currentRole, .error)
  | some accessory =>
    if accessory = "analog_audio" then (.mode .audioAccessory, .success)
    else if accessory = "debug" then (.mode .debugAccessory, .success)
    else readRole readFileToString portName currentRole

def getCurrentRoleHelper (connected : Bool) (currentRole : PortRole) : PortRole × Status :=
  let cleared := PortRole.none currentRole.getTag
  if ¬ connected then (cleared, .success)
  else if cleared.getTag = .mode then readMode readFileToString portName cleared
  else readRole readFileToString portName cleared

def canSwitchRoleHelper : Bool :=
  match readFileToString (kTypecPath ++ portName ++ "-partner/supports_usb_power_delivery") with
  | some supportsPD => Thermal.trimText supportsPD = "yes"
  | none => false

end Roles

section Ports

/-- What the query depends on beside the ports. -/
structure PortEnv where
  readFileToString : String → Option String
  mUsbDataEnabled : Bool
  /-- `USB_AUDIO_ACCESSORY_SUPPORTED` -/
  audioAccessorySupported : Bool

/-- Why a port is not filled: a `get` of another alternative, or a role that cannot be read. -/
inductive PortStop where
  | aborted
  | done (entry : PortStatus)
deriving DecidableEq, Repr

variable (env : PortEnv)

/-- A role is read for an entry, and taken out of its alternative. -/
def takeRole {α : Type} (entry : PortStatus) (port : String × Bool) (currentRole : PortRole)
    (get : PortRole → Option α) : Except PortStop α :=
  let read := getCurrentRoleHelper env.readFileToString port.1 port.2 currentRole
  if read.2 = .success then
    match get read.1 with
    | some role => .ok role
    | none => .error .aborted
  else .error (.done entry)

/-- The round of the loop for a port. -/
def fillPort (port : String × Bool) (entry : PortStatus) : Except PortStop PortStatus := do
  let entry := { entry with portName := port.1 }
  let powerRole ← takeRole env entry port (.powerRole .none) PortRole.getPowerRole
  let entry := { entry with currentPowerRole := powerRole }
  let dataRole ← takeRole env entry port (.dataRole .none) PortRole.getDataRole
  let entry := { entry with currentDataRole := dataRole }
  let mode ← takeRole env entry port (.mode .none) PortRole.getMode
  let canSwitch := if port.2 then canSwitchRoleHelper env.readFileToString port.1 else false
  .ok { entry with
    currentMode := mode
    canChangeMode := true
    canChangeDataRole := canSwitch
    canChangePowerRole := canSwitch
    supportedModes := entry.supportedModes ++
      (if env.audioAccessorySupported then [.drp, .audioAccessory] else [.drp])
    usbDataStatus := entry.usbDataStatus ++
      [if env.mUsbDataEnabled then .enabled else .disabledForce] }

/-- The loop, over the ports and their entries. There are as many entries as ports. -/
def fillPorts : List (String × Bool) → List PortStatus → Option (List PortStatus)
  | port :: ports, entry :: entries =>
    match fillPort env port entry with
    | .ok filled => (fillPorts ports entries).map (filled :: ·)
    | .error (.done unfilled) => some (unfilled :: entries)
    | .error .aborted => none
  | _, entries => some entries

/-- The names are there with their connections, in the order of the map, if the directory can be
opened. The callers pass an empty vector. -/
def getPortStatusHelper (names : Option (List (String × Bool))) : Option (List PortStatus × Status) :=
  match names with
  | some ports =>
    (fillPorts env ports (List.replicate ports.length {})).map fun entries ↦ (entries, .success)
  | none => some ([{ supportedModes := [.ufp], usbDataStatus := [.enabled] }], .success)

end Ports

/-! ## What is right -/

section Consistency

variable (env : PortEnv) (port : String × Bool)

/-- The helper returns with the alternative that it was called with. -/
def KeepsAlternative : Prop :=
  ∀ currentRole : PortRole,
    (getCurrentRoleHelper env.readFileToString port.1 port.2 currentRole).1.getTag = currentRole.getTag

/-- Every field of the entry is set, the roles to what the nodes say. -/
structure IsFilled (entry : PortStatus) : Prop where
  portName : entry.portName = port.1
  powerRole : getCurrentRoleHelper env.readFileToString port.1 port.2 (.powerRole .none) =
    (.powerRole entry.currentPowerRole, .success)
  dataRole : getCurrentRoleHelper env.readFileToString port.1 port.2 (.dataRole .none) =
    (.dataRole entry.currentDataRole, .success)
  mode : getCurrentRoleHelper env.readFileToString port.1 port.2 (.mode .none) =
    (.mode entry.currentMode, .success)
  canChangeMode : entry.canChangeMode = true
  canChangeDataRole : entry.canChangeDataRole =
    if port.2 then canSwitchRoleHelper env.readFileToString port.1 else false
  canChangePowerRole : entry.canChangePowerRole =
    if port.2 then canSwitchRoleHelper env.readFileToString port.1 else false
  supportedModes : entry.supportedModes =
    if env.audioAccessorySupported then [.drp, .audioAccessory] else [.drp]
  usbDataStatus : entry.usbDataStatus = [if env.mUsbDataEnabled then .enabled else .disabledForce]

/-- The alternatives are kept, no `get` is applied to another one, and a success means that every port
has an entry that is filled. -/
structure ConsistentQuery (ports : List (String × Bool)) : Prop where
  keeps : ∀ port ∈ ports, KeepsAlternative env port
  returns : getPortStatusHelper env (some ports) ≠ none
  complete : ∀ entries, getPortStatusHelper env (some ports) = some (entries, .success) →
    List.Forall₂ (IsFilled env) ports entries

/-- The texts that stand for a role of an alternative. -/
def knownRoles : PortRole.Tag → List String
  | .powerRole => ["source", "sink", "none"]
  | .dataRole => ["host", "device", "none"]
  | .mode => ["host", "device", "none"]

/-- Where something is connected, each node has a role of its own kind, and the accessory can be read. -/
def RolesReadable : Prop :=
  port.2 = true →
    (∃ roleName ∈ knownRoles .powerRole,
        roleText env.readFileToString port.1 .powerRole = some roleName) ∧
      (∃ roleName ∈ knownRoles .dataRole,
        roleText env.readFileToString port.1 .dataRole = some roleName) ∧
      (getAccessoryConnected env.readFileToString port.1).isSome = true

/-- The query for an alternative succeeds with a role of it. -/
def Queries (tag : PortRole.Tag) : Prop :=
  let read := getCurrentRoleHelper env.readFileToString port.1 port.2 (PortRole.none tag)
  read.1.getTag = tag ∧ read.2 = .success

end Consistency

section Queries

variable {env : PortEnv} {port : String × Bool} {entry : PortStatus}

@[simp]
theorem getTag_none (tag : PortRole.Tag) : (PortRole.none tag).getTag = tag := by cases tag <;> rfl

/-- A text of another alternative changes the alternative, and an unknown one fails. -/
theorem setRole_iff (currentRole : PortRole) (roleName : String) :
    (setRole currentRole roleName).1.getTag = currentRole.getTag ∧
        (setRole currentRole roleName).2 = .success ↔
      roleName ∈ knownRoles currentRole.getTag := by
  unfold setRole
  cases currentRole
  all_goals
    simp only [PortRole.getTag, knownRoles, List.mem_cons, List.not_mem_nil, or_false]
    split_ifs <;> simp_all

theorem readRole_iff (tag : PortRole.Tag) :
    (readRole env.readFileToString port.1 (PortRole.none tag)).1.getTag = tag ∧
        (readRole env.readFileToString port.1 (PortRole.none tag)).2 = .success ↔
      ∃ roleName ∈ knownRoles tag, roleText env.readFileToString port.1 tag = some roleName := by
  unfold readRole
  rw [getTag_none]
  cases htext : roleText env.readFileToString port.1 tag with
  | none => simp
  | some roleName =>
    have hset := setRole_iff (PortRole.none tag) roleName
    rw [getTag_none] at hset
    simpa using hset

theorem queries_iff_readRole {tag : PortRole.Tag} (htag : tag ≠ .mode) (hconnected : port.2 = true) :
    Queries env port tag ↔
      ∃ roleName ∈ knownRoles tag, roleText env.readFileToString port.1 tag = some roleName := by
  rw [← readRole_iff]
  unfold Queries getCurrentRoleHelper
  dsimp only
  rw [if_neg (not_not.mpr hconnected), getTag_none, getTag_none, if_neg htag]

/-- The mode is read from the node of the data role, unless an accessory tells it. -/
theorem queries_mode_iff (hconnected : port.2 = true)
    (hdata : ∃ roleName ∈ knownRoles .dataRole,
      roleText env.readFileToString port.1 .dataRole = some roleName) :
    Queries env port .mode ↔ (getAccessoryConnected env.readFileToString port.1).isSome = true := by
  have hread := (readRole_iff .mode).mpr hdata
  unfold Queries getCurrentRoleHelper
  dsimp only
  rw [if_neg (not_not.mpr hconnected), getTag_none, getTag_none, if_pos rfl]
  unfold readMode
  cases getAccessoryConnected env.readFileToString port.1 with
  | none => simp
  | some accessory =>
    apply iff_of_true _ rfl
    dsimp only
    split
    · exact ⟨rfl, rfl⟩
    · split
      · exact ⟨rfl, rfl⟩
      · exact hread

theorem queries_iff (env : PortEnv) (port : String × Bool) :
    (∀ tag, Queries env port tag) ↔ RolesReadable env port := by
  unfold RolesReadable
  constructor
  · intro h hconnected
    have hpower := (queries_iff_readRole (by decide) hconnected).mp (h .powerRole)
    have hdata := (queries_iff_readRole (by decide) hconnected).mp (h .dataRole)
    exact ⟨hpower, hdata,
      (queries_mode_iff hconnected hdata).mp (h .mode)⟩
  · intro h tag
    cases hport : port.2 with
    | false =>
      unfold Queries getCurrentRoleHelper
      simp [hport]
    | true =>
      have hparts := h hport
      cases tag with
      | powerRole => exact (queries_iff_readRole (by decide) hport).mpr hparts.1
      | dataRole => exact (queries_iff_readRole (by decide) hport).mpr hparts.2.1
      | mode => exact (queries_mode_iff hport hparts.2.1).mpr hparts.2.2

/-- The helper starts anew, with no role of the alternative. -/
theorem keepsAlternative_of_queries (h : ∀ tag, Queries env port tag) : KeepsAlternative env port := by
  intro currentRole
  have hstart : getCurrentRoleHelper env.readFileToString port.1 port.2 currentRole =
      getCurrentRoleHelper env.readFileToString port.1 port.2 (PortRole.none currentRole.getTag) := by
    unfold getCurrentRoleHelper
    rw [getTag_none]
  rw [hstart]
  exact (h currentRole.getTag).1

/-- What a successful query holds. -/
theorem Queries.eq_some {tag : PortRole.Tag} (h : Queries env port tag) :
    ∃ role, role.getTag = tag ∧
      getCurrentRoleHelper env.readFileToString port.1 port.2 (PortRole.none tag) = (role, .success) :=
  ⟨_, h.1, Prod.ext rfl h.2⟩

theorem IsFilled.queries (h : IsFilled env port entry) (tag : PortRole.Tag) : Queries env port tag := by
  unfold Queries
  cases tag with
  | powerRole => exact h.powerRole ▸ ⟨rfl, rfl⟩
  | dataRole => exact h.dataRole ▸ ⟨rfl, rfl⟩
  | mode => exact h.mode ▸ ⟨rfl, rfl⟩

theorem takeRole_of_eq {α : Type} {get : PortRole → Option α} {currentRole role : PortRole} {value : α}
    (entry : PortStatus)
    (hread : getCurrentRoleHelper env.readFileToString port.1 port.2 currentRole = (role, .success))
    (hget : get role = some value) : takeRole env entry port currentRole get = .ok value := by
  unfold takeRole
  rw [hread]
  dsimp only
  rw [if_pos rfl, hget]

theorem Queries.powerRole (h : Queries env port .powerRole) :
    ∃ role, getCurrentRoleHelper env.readFileToString port.1 port.2 (.powerRole .none) =
      (.powerRole role, .success) := by
  obtain ⟨role, htag, hread⟩ := h.eq_some
  cases role with
  | powerRole role => exact ⟨role, hread⟩
  | dataRole role => cases htag
  | mode role => cases htag

theorem Queries.dataRole (h : Queries env port .dataRole) :
    ∃ role, getCurrentRoleHelper env.readFileToString port.1 port.2 (.dataRole .none) =
      (.dataRole role, .success) := by
  obtain ⟨role, htag, hread⟩ := h.eq_some
  cases role with
  | powerRole role => cases htag
  | dataRole role => exact ⟨role, hread⟩
  | mode role => cases htag

theorem Queries.mode (h : Queries env port .mode) :
    ∃ role, getCurrentRoleHelper env.readFileToString port.1 port.2 (.mode .none) =
      (.mode role, .success) := by
  obtain ⟨role, htag, hread⟩ := h.eq_some
  cases role with
  | powerRole role => cases htag
  | dataRole role => cases htag
  | mode role => exact ⟨role, hread⟩

/-- A port is filled when each of its roles is found. -/
theorem exists_filled (h : ∀ tag, Queries env port tag) :
    ∃ entry, fillPort env port {} = .ok entry ∧ IsFilled env port entry := by
  obtain ⟨power, hpower⟩ := (h .powerRole).powerRole
  obtain ⟨data, hdata⟩ := (h .dataRole).dataRole
  obtain ⟨mode, hmode⟩ := (h .mode).mode
  have htakePower : ∀ entry, takeRole env entry port (.powerRole .none) PortRole.getPowerRole =
      .ok power := fun entry ↦ takeRole_of_eq entry hpower rfl
  have htakeData : ∀ entry, takeRole env entry port (.dataRole .none) PortRole.getDataRole =
      .ok data := fun entry ↦ takeRole_of_eq entry hdata rfl
  have htakeMode : ∀ entry, takeRole env entry port (.mode .none) PortRole.getMode =
      .ok mode := fun entry ↦ takeRole_of_eq entry hmode rfl
  unfold fillPort
  simp only [bind, Except.bind, htakePower, htakeData, htakeMode]
  exact ⟨_, rfl, rfl, hpower, hdata, hmode, rfl, rfl, rfl, rfl, rfl⟩

theorem exists_fillPorts {ports : List (String × Bool)}
    (h : ∀ port ∈ ports, ∀ tag, Queries env port tag) :
    ∃ entries, fillPorts env ports (List.replicate ports.length {}) = some entries ∧
      List.Forall₂ (IsFilled env) ports entries := by
  induction ports with
  | nil => exact ⟨[], rfl, List.Forall₂.nil⟩
  | cons port ports ih =>
    rw [List.forall_mem_cons] at h
    obtain ⟨entry, hentry, hfilled⟩ := exists_filled h.1
    obtain ⟨entries, hentries, hrest⟩ := ih h.2
    apply Exists.intro (entry :: entries)
    rw [List.length_cons, List.replicate_succ, fillPorts, hentry]
    dsimp only
    rw [hentries]
    exact ⟨rfl, List.Forall₂.cons hfilled hrest⟩

theorem queries_of_filled {ports : List (String × Bool)} {entries : List PortStatus}
    (h : List.Forall₂ (IsFilled env) ports entries) : ∀ port ∈ ports, ∀ tag, Queries env port tag := by
  induction h with
  | nil => exact fun port hport ↦ absurd hport List.not_mem_nil
  | cons hfilled _ ih => exact List.forall_mem_cons.mpr ⟨hfilled.queries, ih⟩

end Queries

section Ports

variable {env : PortEnv}

/-- The status says nothing: it is a success whenever there is one. -/
theorem status_getPortStatusHelper {names : Option (List (String × Bool))} {entries : List PortStatus}
    {status : Status} (h : getPortStatusHelper env names = some (entries, status)) : status = .success := by
  unfold getPortStatusHelper at h
  cases names with
  | none => exact (Prod.mk.inj (Option.some.inj h)).2.symm
  | some ports =>
    obtain ⟨filled, -, hfilled⟩ := Option.map_eq_some_iff.mp h
    exact (Prod.mk.inj hfilled).2.symm

/-- A query is consistent if and only if the nodes of every port can be read and hold roles of their
own kind. -/
theorem consistentQuery_iff (env : PortEnv) (ports : List (String × Bool)) :
    ConsistentQuery env ports ↔ ∀ port ∈ ports, RolesReadable env port := by
  simp only [← queries_iff]
  constructor
  · intro h
    obtain ⟨entries, hentries⟩ := Option.ne_none_iff_exists'.mp h.returns
    have hsuccess : entries.2 = .success := status_getPortStatusHelper hentries
    apply queries_of_filled
    apply h.complete entries.1
    rw [hentries, ← hsuccess]
  · intro h
    obtain ⟨entries, hentries, hall⟩ := exists_fillPorts h
    have hquery : getPortStatusHelper env (some ports) = some (entries, .success) := by
      unfold getPortStatusHelper
      dsimp only
      rw [hentries]
      rfl
    apply ConsistentQuery.mk
    · exact fun port hport ↦ keepsAlternative_of_queries (h port hport)
    · rw [hquery]
      exact Option.some_ne_none _
    · intro entries' hentries'
      rw [hquery] at hentries'
      rw [← (Prod.mk.inj (Option.some.inj hentries')).1]
      exact hall

/-- The nodes of a port that supplies power to a device. -/
def hostPort (file : String) : Option String :=
  [("/sys/class/typec/port0/power_role", "[source] sink\n"),
    ("/sys/class/typec/port0/data_role", "[host] device\n")].lookup file

/-- The node of the accessory is gone, and the query succeeds without the mode of the port. -/
theorem not_consistentQuery_hostPort :
    ¬ ConsistentQuery ⟨hostPort, true, false⟩ [("port0", true)] := by
  intro h
  have hquery : getPortStatusHelper ⟨hostPort, true, false⟩ (some [("port0", true)]) =
      some ([{ portName := "port0", currentPowerRole := .source, currentDataRole := .host }],
        .success) := by decide +kernel
  have hfilled := (List.forall₂_cons.mp (h.complete _ hquery)).1
  exact Bool.false_ne_true hfilled.canChangeMode

/-- A data role in the node of the power role leaves another alternative behind. -/
example : (getCurrentRoleHelper (fun _ ↦ some "host") "port0" true (.powerRole .none)).1 = .mode .dfp := by
  decide +kernel

end Ports

end HardwareMediatek.Usb
