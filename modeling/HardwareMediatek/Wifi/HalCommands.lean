import HardwareMediatek.Wifi.HandlerTable

/-!
# Commands that outlive their call

A command that waits for events stays in the table of commands under its request id, and its handler
in the table of event handlers, with the command as argument. Commands are counted references: a
command starts with one, and whoever takes the last away deletes it. An address stands for one object
and is not used again.
-/

namespace HardwareMediatek.Wifi

open Foundation

def googleOui : UInt32 := 0x001A11
def ouiMediatek : UInt32 := 0x000CE7
def rttEventComplete : ℤ := 4
def wifiEventRssiMonitor : ℤ := 7
def mtkEventResetTriggered : ℤ := 15
def halSubsystemResetId : ℤ := 0
def defaultEventCbSize : ℕ := 64
def defaultCmdSize : ℕ := 64

/-- The name of an interface fits the field that keeps it. -/
structure Interface where
  name : IfaceName
  name_le : name.length ≤ maxIfacenameLen
  deriving DecidableEq

@[ext]
theorem Interface.ext {iface other : Interface} (hname : iface.name = other.name) :
    iface = other := by
  cases iface
  cases other
  congr

/-- The kinds of command that wait for events, with the handler that the caller gave. -/
inductive CommandKind where
  | setRSSIMonitor (mIfaceNameCache : Interface) (on_rssi_threshold_breached : Option ℕ)
  | rttRequest (on_rtt_results : ℕ)
  | setSubsystemRestartHandler (on_subsystem_restart : ℕ)

structure WifiCommand where
  mId : ℤ
  kind : CommandKind

structure CmdInfo where
  id : ℤ
  cmd : ℕ

structure HalInfo where
  event_cb : HandlerTable ℕ
  cmd : SlotArray CmdInfo
  command : ℕ → WifiCommand
  mRefs : ℕ → ℤ
  /-- The address of the next object. -/
  next : ℕ

/-- The arguments with which a command registers and unregisters its handler. -/
structure HandlerPlace where
  vendor_id : UInt32
  subcmd : ℤ
  ifname : Option Interface
  deriving DecidableEq

def CommandKind.place : CommandKind → HandlerPlace
  | .setRSSIMonitor mIfaceNameCache _ =>
      ⟨googleOui, wifiEventRssiMonitor, some mIfaceNameCache⟩
  | .rttRequest _ => ⟨googleOui, rttEventComplete, none⟩
  | .setSubsystemRestartHandler _ => ⟨ouiMediatek, mtkEventResetTriggered, none⟩

namespace HalInfo

variable (info : HalInfo)

/-- Both tables as they are allocated. -/
def initial (event_cb : ℕ → CbInfo ℕ) (cmd : ℕ → CmdInfo) (command : ℕ → WifiCommand) : HalInfo where
  event_cb := SlotArray.empty event_cb defaultEventCbSize
  cmd := SlotArray.empty cmd defaultCmdSize
  command := command
  mRefs _ := 0
  next := 0

def newCommand (c : WifiCommand) : HalInfo :=
  { info with
    command := Function.update info.command info.next c
    mRefs := Function.update info.mRefs info.next 1
    next := info.next + 1 }

def addRef (p : ℕ) : HalInfo :=
  { info with mRefs := Function.update info.mRefs p (info.mRefs p + 1) }

def releaseRef (p : ℕ) : HalInfo :=
  { info with mRefs := Function.update info.mRefs p (info.mRefs p - 1) }

def placeOf (p : ℕ) : HandlerPlace := (info.command p).kind.place

def registerVendorHandler (place : HandlerPlace) (p : ℕ) : HalInfo :=
  { info with
    event_cb := wifiRegisterVendorHandler info.event_cb place.vendor_id place.subcmd p
      (place.ifname.map Interface.name) }

/-- The registration finds an entry or room for one. -/
def registersVendorHandler (place : HandlerPlace) : Bool :=
  (info.event_cb.find fun cbi ↦ cbi.vendor_id = place.vendor_id ∧
    cbi.vendor_subcmd = place.subcmd ∧ cbi.hasIfname (place.ifname.map Interface.name)).isSome ∨
  info.event_cb.count < info.event_cb.capacity

def unregisterVendorHandler (place : HandlerPlace) : HalInfo :=
  { info with
    event_cb := wifiUnregisterVendorHandler info.event_cb place.vendor_id place.subcmd
      (place.ifname.map Interface.name) }

def wifiRegisterCmd (id : ℤ) (p : ℕ) : Option HalInfo :=
  if hroom : info.cmd.count < info.cmd.capacity then
    some { info with cmd := info.cmd.push ⟨id, p⟩ hroom }
  else none

def wifiUnregisterCmd (id : ℤ) : Option ℕ × HalInfo :=
  match info.cmd.find fun entry ↦ entry.id = id with
  | some i => (some (info.cmd.slots i).cmd, { info with cmd := info.cmd.removeAt i })
  | none => (none, info)

def wifiGetCmd (id : ℤ) : Option ℕ :=
  (info.cmd.find fun entry ↦ entry.id = id).map fun i ↦ (info.cmd.slots i).cmd

end HalInfo

section Start

variable (info : HalInfo)

/-- A new command is entered in the table and started; when it does not start, the first command with
its id is taken from the table and the new one released. -/
def startCommand (c : WifiCommand) (start : HalInfo → Bool × HalInfo) : Bool × HalInfo :=
  match (info.newCommand c).wifiRegisterCmd c.mId info.next with
  | none => (false, (info.newCommand c).releaseRef info.next)
  | some registered =>
    match start registered with
    | (true, started) => (true, started)
    | (false, failed) => (false, ((failed.wifiUnregisterCmd c.mId).2).releaseRef info.next)

/-- The handler is registered when the driver has accepted the request. -/
def startRSSIMonitor (iface : Interface) (p : ℕ) (accepted : Bool) : Bool × HalInfo :=
  if accepted then
    (true, info.registerVendorHandler ⟨googleOui, wifiEventRssiMonitor, some iface⟩ p)
  else (false, info)

/-- The handler is registered before the driver is asked. -/
def startRttRequest (p : ℕ) (accepted : Bool) : Bool × HalInfo :=
  (accepted, info.registerVendorHandler ⟨googleOui, rttEventComplete, none⟩ p)

def startSubsystemRestartHandler (p : ℕ) : Bool × HalInfo :=
  if info.registersVendorHandler ⟨ouiMediatek, mtkEventResetTriggered, none⟩ then
    (true, info.registerVendorHandler ⟨ouiMediatek, mtkEventResetTriggered, none⟩ p)
  else (false, info.unregisterVendorHandler ⟨ouiMediatek, mtkEventResetTriggered, none⟩)

/-- Whether the call succeeds, and what it leaves. -/
def wifiStartRssiMonitoring (id : ℤ) (iface : Interface) (eh : ℕ) (accepted : Bool) :
    Bool × HalInfo :=
  startCommand info ⟨id, .setRSSIMonitor iface (some eh)⟩ fun registered ↦
    startRSSIMonitor registered iface info.next accepted

def wifiRttRangeRequest (id : ℤ) (handler : ℕ) (accepted : Bool) : Bool × HalInfo :=
  startCommand info ⟨id, .rttRequest handler⟩ fun registered ↦
    startRttRequest registered info.next accepted

def wifiSetSubsystemRestartHandler (handler : ℕ) : Bool × HalInfo :=
  startCommand info ⟨halSubsystemResetId, .setSubsystemRestartHandler handler⟩ fun registered ↦
    startSubsystemRestartHandler registered info.next

end Start

section Cancel

variable (info : HalInfo)

/-- Whether the driver cancels makes no difference; a ranging request whose cancellation cannot be
built keeps its handler. -/
def cancel (p : ℕ) (built : Bool) : HalInfo :=
  match (info.command p).kind with
  | .setRSSIMonitor iface _ =>
      info.unregisterVendorHandler ⟨googleOui, wifiEventRssiMonitor, some iface⟩
  | .rttRequest _ =>
      if built then info.unregisterVendorHandler ⟨googleOui, rttEventComplete, none⟩ else info
  | .setSubsystemRestartHandler _ =>
      ((info.unregisterVendorHandler ⟨ouiMediatek, mtkEventResetTriggered, none⟩).wifiUnregisterCmd
        (info.command p).mId).2

def wifiCancelCmd (id : ℤ) (built : Bool) : Bool × HalInfo :=
  match info.wifiUnregisterCmd id with
  | (some p, unregistered) => (true, (cancel unregistered p built).releaseRef p)
  | (none, unchanged) => (false, unchanged)

/-- With the id -1 a command of the moment cancels what monitors the interface. -/
def wifiStopRssiMonitoring (id : ℤ) (iface : Interface) (built : Bool) : Bool × HalInfo :=
  if id = -1 then
    (true, (cancel (info.newCommand ⟨id, .setRSSIMonitor iface none⟩) info.next built).releaseRef
      info.next)
  else wifiCancelCmd info id built

end Cancel

section Events

variable (info : HalInfo)

/-- The argument of the first handler for a vendor and a subcommand. -/
def findHandler (vendor_id : UInt32) (subcmd : ℤ) : Option ℕ :=
  (info.event_cb.find fun cbi ↦ cbi.nl_cmd = nl80211CmdVendor ∧ cbi.vendor_id = vendor_id ∧
    cbi.vendor_subcmd = subcmd).map fun i ↦ (info.event_cb.slots i).callback

/-- `cur_rssi` and `BSSID` of an event whose version and type are the expected ones. -/
structure RssiBreach where
  cur_rssi : ℤ
  bssid : List UInt8
  deriving DecidableEq

/-- A call of `on_rssi_threshold_breached`. -/
structure RssiCall where
  handler : ℕ
  id : ℤ
  breach : RssiBreach
  deriving DecidableEq

/-- Commands of the other kinds are never found for this event. -/
def rssiHandleEvent (p : ℕ) (breach : RssiBreach) : Option RssiCall :=
  match (info.command p).kind with
  | .setRSSIMonitor _ on_rssi_threshold_breached =>
      on_rssi_threshold_breached.map fun handler ↦ ⟨handler, (info.command p).mId, breach⟩
  | .rttRequest _ => none
  | .setSubsystemRestartHandler _ => none

def rssiMonitorEvent (breach : RssiBreach) : Option RssiCall :=
  (findHandler info googleOui wifiEventRssiMonitor).bind fun p ↦ rssiHandleEvent info p breach

/-- A call of `on_rtt_results`, with the data that the results are read from. -/
structure RttCall where
  handler : ℕ
  id : ℤ
  vendor_data : List UInt8
  deriving DecidableEq

/-- Without vendor data nothing happens. Otherwise the handler is unregistered, the results are passed
on, and the first command with the id is released. -/
def rttHandleEvent (p : ℕ) (vendor_data : List UInt8) : HalInfo × List RttCall :=
  match (info.command p).kind with
  | .rttRequest on_rtt_results =>
      if vendor_data = [] then (info, [])
      else
        match (info.unregisterVendorHandler ⟨googleOui, rttEventComplete, none⟩).wifiUnregisterCmd
            (info.command p).mId with
        | (some cmd, unregistered) =>
            (unregistered.releaseRef cmd, [⟨on_rtt_results, (info.command p).mId, vendor_data⟩])
        | (none, unregistered) =>
            (unregistered, [⟨on_rtt_results, (info.command p).mId, vendor_data⟩])
  | .setRSSIMonitor _ _ => (info, [])
  | .setSubsystemRestartHandler _ => (info, [])

/-- The command holds a reference of its own while its handler runs. -/
def rttCompletionEvent (vendor_data : List UInt8) : HalInfo × List RttCall :=
  match findHandler info googleOui rttEventComplete with
  | some p =>
      ((rttHandleEvent (info.addRef p) p vendor_data).1.releaseRef p,
        (rttHandleEvent (info.addRef p) p vendor_data).2)
  | none => (info, [])

end Events

section Tables

variable (info : HalInfo)

/-- The arguments of the handlers, in the order of the table. -/
def HalInfo.handlers : List ℕ := info.event_cb.items.map CbInfo.callback

/-- The registered commands, in the order of the table. -/
def HalInfo.commands : List ℕ := info.cmd.items.map CmdInfo.cmd

theorem findHandler_eq (vendor_id : UInt32) (subcmd : ℤ) :
    findHandler info vendor_id subcmd =
      (info.event_cb.items.find? fun cbi ↦ cbi.nl_cmd = nl80211CmdVendor ∧
        cbi.vendor_id = vendor_id ∧ cbi.vendor_subcmd = subcmd).map CbInfo.callback := by
  rw [← SlotArray.map_find, Option.map_map]
  rfl

/-- The entry that a command registers. -/
def HalInfo.handlerEntry (p : ℕ) : CbInfo ℕ where
  nl_cmd := nl80211CmdVendor
  vendor_id := (info.placeOf p).vendor_id
  vendor_subcmd := (info.placeOf p).subcmd
  callback := p
  ifname := (((info.placeOf p).ifname.map Interface.name).getD []).take maxIfacenameLen

/-- Each handler stands in the entry of its own command, and no two in the same place. -/
structure HalInfo.WellPlaced : Prop where
  entries : ∀ cbi ∈ info.event_cb.items, cbi = info.handlerEntry cbi.callback
  distinct : (info.handlers.map info.placeOf).Nodup

/-- The entry of a command is selected by what another registers in the same place only. -/
theorem hasIfname_place_iff (kind other : CommandKind) (cbi : CbInfo ℕ)
    (hifname : cbi.ifname =
      ((kind.place.ifname.map Interface.name).getD []).take maxIfacenameLen) :
    (kind.place.vendor_id = other.place.vendor_id ∧ kind.place.subcmd = other.place.subcmd ∧
      cbi.hasIfname (other.place.ifname.map Interface.name) = true) ↔ kind.place = other.place := by
  cases kind with
  | setRSSIMonitor iface _ =>
    cases other with
    | setRSSIMonitor name _ =>
      have hnames : cbi.hasIfname (some name.name) = true ↔ iface = name := by
        apply decide_eq_true_iff.trans
        rw [hifname, List.take_take, Nat.min_self, List.take_of_length_le name.name_le]
        change iface.name.take _ = _ ↔ _
        rw [List.take_of_length_le iface.name_le]
        apply Iff.intro
        · exact Interface.ext
        · exact congrArg Interface.name
      simp [CommandKind.place, hnames]
    | rttRequest _ => simp [CommandKind.place, wifiEventRssiMonitor, rttEventComplete]
    | setSubsystemRestartHandler _ => simp [CommandKind.place, googleOui, ouiMediatek]
  | rttRequest _ =>
    cases other with
    | setRSSIMonitor _ _ => simp [CommandKind.place, wifiEventRssiMonitor, rttEventComplete]
    | rttRequest _ => simp [CommandKind.place, CbInfo.hasIfname]
    | setSubsystemRestartHandler _ => simp [CommandKind.place, googleOui, ouiMediatek]
  | setSubsystemRestartHandler _ =>
    cases other with
    | setRSSIMonitor _ _ => simp [CommandKind.place, googleOui, ouiMediatek]
    | rttRequest _ => simp [CommandKind.place, googleOui, ouiMediatek]
    | setSubsystemRestartHandler _ => simp [CommandKind.place, CbInfo.hasIfname]

end Tables

section Handlers

variable {info : HalInfo} (hplaced : info.WellPlaced)
include hplaced

theorem selected_iff (kind : CommandKind) {cbi : CbInfo ℕ} (hmem : cbi ∈ info.event_cb.items) :
    (cbi.vendor_id = kind.place.vendor_id ∧ cbi.vendor_subcmd = kind.place.subcmd ∧
      cbi.hasIfname (kind.place.ifname.map Interface.name) = true) ↔
      info.placeOf cbi.callback = kind.place := by
  have hentry := hplaced.entries cbi hmem
  have hvendor : cbi.vendor_id = (info.placeOf cbi.callback).vendor_id :=
    congrArg CbInfo.vendor_id hentry
  have hsubcmd : cbi.vendor_subcmd = (info.placeOf cbi.callback).subcmd :=
    congrArg CbInfo.vendor_subcmd hentry
  rw [hvendor, hsubcmd]
  exact hasIfname_place_iff _ kind cbi (congrArg CbInfo.ifname hentry)

/-- The handler that an event finds belongs to a command of the event's vendor and subcommand. -/
theorem place_of_findHandler {vendor_id : UInt32} {subcmd : ℤ} {p : ℕ}
    (hfind : findHandler info vendor_id subcmd = some p) :
    p ∈ info.handlers ∧ (info.placeOf p).vendor_id = vendor_id ∧ (info.placeOf p).subcmd = subcmd := by
  rw [findHandler_eq] at hfind
  obtain ⟨cbi, hcbi⟩ := Option.map_eq_some_iff.mp hfind
  have hmem := List.mem_of_find?_eq_some hcbi.1
  have hfound := List.find?_some hcbi.1
  have hholds := of_decide_eq_true hfound
  have hentry := hplaced.entries cbi hmem
  rw [← hcbi.2]
  apply And.intro (List.mem_map_of_mem hmem)
  exact ⟨(congrArg CbInfo.vendor_id hentry).symm.trans hholds.2.1,
    (congrArg CbInfo.vendor_subcmd hentry).symm.trans hholds.2.2⟩

/-- Two handlers in the same place are one. -/
theorem handler_unique {p q : ℕ} (hp : p ∈ info.handlers) (hq : q ∈ info.handlers)
    (hsame : info.placeOf p = info.placeOf q) : p = q :=
  List.inj_on_of_nodup_map hplaced.distinct hp hq hsame

/-- A handler is found when it is the only one for its vendor and subcommand. -/
theorem findHandler_of_only {p : ℕ} (hp : p ∈ info.handlers)
    (honly : ∀ q ∈ info.handlers, (info.placeOf q).vendor_id = (info.placeOf p).vendor_id →
      (info.placeOf q).subcmd = (info.placeOf p).subcmd → q = p) :
    findHandler info (info.placeOf p).vendor_id (info.placeOf p).subcmd = some p := by
  cases hfind : findHandler info (info.placeOf p).vendor_id (info.placeOf p).subcmd with
  | none =>
    rw [findHandler_eq] at hfind
    obtain ⟨cbi, hcbi⟩ := List.mem_map.mp hp
    have hentry := hplaced.entries cbi hcbi.1
    rw [hcbi.2] at hentry
    have hnot := List.find?_eq_none.mp (Option.map_eq_none_iff.mp hfind) cbi hcbi.1
    apply absurd _ hnot
    rw [hentry]
    exact decide_eq_true ⟨rfl, rfl, rfl⟩
  | some q =>
    have hq := place_of_findHandler hplaced hfind
    rw [honly q hq.1 hq.2.1 hq.2.2]

theorem nl_cmd_of_placed {cbi : CbInfo ℕ} (hmem : cbi ∈ info.event_cb.items) :
    cbi.nl_cmd = nl80211CmdVendor :=
  congrArg CbInfo.nl_cmd (hplaced.entries cbi hmem)

omit hplaced in
theorem handlers_split {before after : List (CbInfo ℕ)} {cbi : CbInfo ℕ}
    (hitems : info.event_cb.items = before ++ cbi :: after) :
    info.handlers = before.map CbInfo.callback ++ cbi.callback :: after.map CbInfo.callback := by
  unfold HalInfo.handlers
  rw [hitems, List.map_append, List.map_cons]

/-- Only the table and the places of its commands matter. -/
theorem placed_congr (other : HalInfo) (htable : other.event_cb = info.event_cb)
    (hplaces : ∀ p ∈ info.handlers, other.placeOf p = info.placeOf p) : other.WellPlaced := by
  have hhandlers : other.handlers = info.handlers := by
    unfold HalInfo.handlers
    rw [htable]
  apply HalInfo.WellPlaced.mk
  · intro cbi hmem
    rw [htable] at hmem
    have hentry := hplaced.entries cbi hmem
    have hplace := hplaces cbi.callback (List.mem_map_of_mem hmem)
    unfold HalInfo.handlerEntry at hentry ⊢
    rw [hplace]
    exact hentry
  · rw [hhandlers, List.map_congr_left hplaces]
    exact hplaced.distinct

/-- Unregistering takes the handlers of the place out of the table. -/
theorem handlers_unregister (kind : CommandKind) :
    (info.unregisterVendorHandler kind.place).handlers =
      info.handlers.filter (fun p ↦ info.placeOf p ≠ kind.place) := by
  change (wifiUnregisterVendorHandler _ _ _ _).items.map _ = _
  unfold wifiUnregisterVendorHandler
  split
  · rename_i i hfind
    obtain ⟨before, after, hfound⟩ := info.event_cb.foundAt_of_find hfind
    have hsplit := handlers_split hfound.items
    have hplace := (selected_iff hplaced kind hfound.mem).mp (of_decide_eq_true hfound.holds).2
    have hdistinct := hplaced.distinct
    rw [hsplit] at hdistinct ⊢
    rw [hfound.removed, ← hplace, filter_of_distinct hdistinct, List.map_append]
  · rename_i hfind
    have hnone := (info.event_cb.find_eq_none_iff _).mp hfind
    apply Eq.symm
    apply List.filter_eq_self.mpr
    intro p hp
    obtain ⟨cbi, hcbi⟩ := List.mem_map.mp hp
    apply decide_eq_true
    intro hplace
    rw [← hcbi.2] at hplace
    apply of_decide_eq_false (hnone cbi hcbi.1)
    apply And.intro (nl_cmd_of_placed hplaced hcbi.1)
    exact (selected_iff hplaced kind hcbi.1).mpr hplace

theorem found_of_place (kind : CommandKind) :
    (info.event_cb.find fun cbi ↦ cbi.vendor_id = kind.place.vendor_id ∧
      cbi.vendor_subcmd = kind.place.subcmd ∧
      cbi.hasIfname (kind.place.ifname.map Interface.name)) = none ↔
      ∀ p ∈ info.handlers, info.placeOf p ≠ kind.place := by
  apply (info.event_cb.find_eq_none_iff _).trans
  apply Iff.intro
  · intro hnone p hp hplace
    obtain ⟨cbi, hcbi⟩ := List.mem_map.mp hp
    rw [← hcbi.2] at hplace
    exact of_decide_eq_false (hnone cbi hcbi.1) ((selected_iff hplaced kind hcbi.1).mpr hplace)
  · intro hnone cbi hmem
    apply decide_eq_false
    intro hselects
    apply hnone cbi.callback (List.mem_map_of_mem hmem)
    exact (selected_iff hplaced kind hmem).mp hselects

/-- Registering replaces the handler of the place. -/
theorem handlers_register_replaces (kind : CommandKind) (p : ℕ)
    (htaken : ∃ q ∈ info.handlers, info.placeOf q = kind.place) :
    (info.registerVendorHandler kind.place p).handlers =
      info.handlers.map (fun q ↦ if info.placeOf q = kind.place then p else q) := by
  change (wifiRegisterVendorHandler _ _ _ _ _).items.map _ = _
  unfold wifiRegisterVendorHandler
  split
  · rename_i i hfind
    obtain ⟨before, after, hfound⟩ := info.event_cb.foundAt_of_find hfind
    have hsplit := handlers_split hfound.items
    have hplace := (selected_iff hplaced kind hfound.mem).mp (of_decide_eq_true hfound.holds)
    have hdistinct := hplaced.distinct
    rw [hsplit] at hdistinct ⊢
    rw [hfound.modified, ← hplace, map_of_distinct hdistinct, List.map_append, List.map_cons]
  · rename_i hfind
    obtain ⟨q, hq⟩ := htaken
    exact absurd hq.2 ((found_of_place hplaced kind).mp hfind q hq.1)

/-- Registering in a free place adds the handler behind the others, if there is room. -/
theorem handlers_register_adds (kind : CommandKind) (p : ℕ)
    (hfree : ∀ q ∈ info.handlers, info.placeOf q ≠ kind.place) :
    (info.registerVendorHandler kind.place p).handlers =
      if info.event_cb.count < info.event_cb.capacity then info.handlers ++ [p]
      else info.handlers := by
  change (wifiRegisterVendorHandler _ _ _ _ _).items.map _ = _
  unfold wifiRegisterVendorHandler
  have hnone := (found_of_place hplaced kind).mpr hfree
  split
  · rename_i i hfind
    rw [hnone] at hfind
    cases hfind
  · by_cases hroom : info.event_cb.count < info.event_cb.capacity
    · rw [dif_pos hroom, if_pos hroom, SlotArray.items_push, List.map_append, List.map_singleton]
      rfl
    · rw [dif_neg hroom, if_neg hroom]
      rfl

/-- What is in the table after a registration is the new handler or stands in another place. -/
theorem mem_handlers_register (kind : CommandKind) (p : ℕ) {q : ℕ}
    (hmem : q ∈ (info.registerVendorHandler kind.place p).handlers) :
    q = p ∨ q ∈ info.handlers ∧ info.placeOf q ≠ kind.place := by
  by_cases htaken : ∃ q ∈ info.handlers, info.placeOf q = kind.place
  · rw [handlers_register_replaces hplaced kind p htaken] at hmem
    obtain ⟨r, hr⟩ := List.mem_map.mp hmem
    by_cases hplace : info.placeOf r = kind.place
    · rw [if_pos hplace] at hr
      exact Or.inl hr.2.symm
    · rw [if_neg hplace] at hr
      rw [← hr.2]
      exact Or.inr ⟨hr.1, hplace⟩
  · have hfree : ∀ q ∈ info.handlers, info.placeOf q ≠ kind.place :=
      fun q hq hplace ↦ htaken ⟨q, hq, hplace⟩
    rw [handlers_register_adds hplaced kind p hfree] at hmem
    split at hmem
    · rcases List.mem_append.mp hmem with hq | hlast
      · exact Or.inr ⟨hq, hfree q hq⟩
      · exact Or.inl (List.mem_singleton.mp hlast)
    · exact Or.inr ⟨hmem, hfree q hmem⟩

/-- A new handler is in the table when it found an entry or room. -/
theorem mem_handlers_register_self (kind : CommandKind) {p : ℕ} (hnew : p ∉ info.handlers) :
    p ∈ (info.registerVendorHandler kind.place p).handlers ↔
      info.registersVendorHandler kind.place = true := by
  have hfound := found_of_place hplaced kind
  unfold HalInfo.registersVendorHandler
  by_cases htaken : ∃ q ∈ info.handlers, info.placeOf q = kind.place
  · rw [handlers_register_replaces hplaced kind p htaken]
    apply iff_of_true
    · obtain ⟨q, hq⟩ := htaken
      apply List.mem_map.mpr
      exact ⟨q, hq.1, if_pos hq.2⟩
    · apply decide_eq_true
      apply Or.inl
      apply Option.isSome_iff_ne_none.mpr
      intro hfind
      obtain ⟨q, hq⟩ := htaken
      exact hfound.mp hfind q hq.1 hq.2
  · have hfree : ∀ q ∈ info.handlers, info.placeOf q ≠ kind.place :=
      fun q hq hplace ↦ htaken ⟨q, hq, hplace⟩
    rw [handlers_register_adds hplaced kind p hfree, hfound.mpr hfree]
    by_cases hroom : info.event_cb.count < info.event_cb.capacity
    · rw [if_pos hroom]
      apply iff_of_true
      · exact List.mem_append_cons_self
      · exact decide_eq_true (Or.inr hroom)
    · rw [if_neg hroom]
      apply iff_of_false hnew
      intro hregisters
      apply Or.elim (of_decide_eq_true hregisters)
      · intro hsome
        cases hsome
      · exact hroom

theorem placed_unregister (kind : CommandKind) :
    (info.unregisterVendorHandler kind.place).WellPlaced := by
  apply HalInfo.WellPlaced.mk
  · intro cbi hmem
    apply hplaced.entries cbi
    change cbi ∈ (wifiUnregisterVendorHandler _ _ _ _).items at hmem
    unfold wifiUnregisterVendorHandler at hmem
    split at hmem
    · rename_i i hfind
      obtain ⟨before, after, hfound⟩ := info.event_cb.foundAt_of_find hfind
      rw [hfound.removed] at hmem
      rw [hfound.items]
      exact ((List.sublist_cons_self _ _).append_left _).subset hmem
    · exact hmem
  · rw [handlers_unregister hplaced kind]
    exact hplaced.distinct.sublist (List.filter_sublist.map _)

theorem entries_register (kind : CommandKind) {p : ℕ} (hp : info.placeOf p = kind.place)
    {cbi : CbInfo ℕ} (hmem : cbi ∈ (info.registerVendorHandler kind.place p).event_cb.items) :
    cbi = info.handlerEntry cbi.callback := by
  change cbi ∈ (wifiRegisterVendorHandler _ _ _ _ _).items at hmem
  unfold wifiRegisterVendorHandler at hmem
  split at hmem
  · rename_i i hfind
    obtain ⟨before, hbefore⟩ := info.event_cb.foundAt_of_find hfind
    obtain ⟨after, hfound⟩ := hbefore
    have hinside {entry : CbInfo ℕ} (hentry : entry ∈ before ++ info.event_cb.slots i :: after) :
        entry ∈ info.event_cb.items := by
      rw [hfound.items]
      exact hentry
    rw [hfound.modified] at hmem
    rcases List.mem_append.mp hmem with hbefore | hrest
    · exact hplaced.entries cbi (hinside (List.mem_append_left _ hbefore))
    · rcases List.mem_cons.mp hrest with hchanged | hafter
      · have hplace := (selected_iff hplaced kind hfound.mem).mp (of_decide_eq_true hfound.holds)
        rw [hchanged]
        dsimp only
        rw [hplaced.entries _ hfound.mem]
        unfold HalInfo.handlerEntry
        dsimp only
        rw [hplace, hp]
      · exact hplaced.entries cbi
          (hinside (List.mem_append_right _ (List.mem_cons_of_mem _ hafter)))
  · by_cases hroom : info.event_cb.count < info.event_cb.capacity
    · rw [dif_pos hroom, SlotArray.items_push] at hmem
      apply Or.elim (List.mem_append.mp hmem)
      · exact hplaced.entries cbi
      · intro hlast
        rw [List.mem_singleton.mp hlast]
        unfold HalInfo.handlerEntry
        dsimp only
        rw [hp]
    · rw [dif_neg hroom] at hmem
      exact hplaced.entries cbi hmem

theorem placed_register (kind : CommandKind) {p : ℕ} (hp : info.placeOf p = kind.place) :
    (info.registerVendorHandler kind.place p).WellPlaced := by
  apply HalInfo.WellPlaced.mk
  · intro cbi hmem
    exact entries_register hplaced kind hp hmem
  · change ((info.registerVendorHandler kind.place p).handlers.map info.placeOf).Nodup
    by_cases htaken : ∃ q ∈ info.handlers, info.placeOf q = kind.place
    · rw [handlers_register_replaces hplaced kind p htaken, List.map_map]
      have hsame : info.placeOf ∘ (fun q ↦ if info.placeOf q = kind.place then p else q) =
          info.placeOf := by
        funext q
        by_cases hq : info.placeOf q = kind.place
        · rw [Function.comp_apply, if_pos hq, hp, hq]
        · rw [Function.comp_apply, if_neg hq]
      rw [hsame]
      exact hplaced.distinct
    · have hfree : ∀ q ∈ info.handlers, info.placeOf q ≠ kind.place := by
        intro q hq hplace
        exact htaken ⟨q, hq, hplace⟩
      rw [handlers_register_adds hplaced kind p hfree]
      split
      · rw [List.map_append, List.map_singleton]
        apply List.nodup_append.mpr
        apply And.intro hplaced.distinct
        apply And.intro (List.nodup_singleton _)
        intro place hplace last hlast
        rw [List.mem_singleton.mp hlast, hp]
        obtain ⟨q, hq⟩ := List.mem_map.mp hplace
        rw [← hq.2]
        exact hfree q hq.1
      · exact hplaced.distinct

end Handlers

section Commands

variable {info : HalInfo}

theorem wifiGetCmd_eq (id : ℤ) :
    info.wifiGetCmd id = (info.cmd.items.find? fun entry ↦ entry.id = id).map CmdInfo.cmd := by
  rw [← SlotArray.map_find, Option.map_map]
  rfl

/-- What unregistering by id does: the first entry with the id is taken out, if there is one. -/
inductive HalInfo.Unregisters (info : HalInfo) (id : ℤ) : Option ℕ × HalInfo → Prop where
  | found {before after : List CmdInfo} {p : ℕ} {cmd : SlotArray CmdInfo}
      (hitems : info.cmd.items = before ++ ⟨id, p⟩ :: after)
      (hfirst : ∀ entry ∈ before, entry.id ≠ id) (hcmd : cmd.items = before ++ after)
      (hget : info.wifiGetCmd id = some p) : Unregisters info id (some p, { info with cmd := cmd })
  | missing (hnone : ∀ entry ∈ info.cmd.items, entry.id ≠ id) (hget : info.wifiGetCmd id = none) :
      Unregisters info id (none, info)

theorem wifiUnregisterCmd_cases (info : HalInfo) (id : ℤ) : info.Unregisters id (info.wifiUnregisterCmd id) := by
  unfold HalInfo.wifiUnregisterCmd
  split
  · rename_i i hfind
    obtain ⟨before, after, hfound⟩ := info.cmd.foundAt_of_find hfind
    have hid : (info.cmd.slots i).id = id := of_decide_eq_true hfound.holds
    have hentry : info.cmd.slots i = ⟨id, (info.cmd.slots i).cmd⟩ := by
      rw [← hid]
    have hitems := hfound.items
    rw [hentry] at hitems
    apply HalInfo.Unregisters.found hitems
    · intro entry hmem
      exact of_decide_eq_false (hfound.notBefore entry hmem)
    · exact hfound.removed
    · unfold HalInfo.wifiGetCmd
      rw [hfind]
      rfl
  · rename_i hfind
    apply HalInfo.Unregisters.missing
    · intro entry hmem
      exact of_decide_eq_false ((info.cmd.find_eq_none_iff _).mp hfind entry hmem)
    · unfold HalInfo.wifiGetCmd
      rw [hfind]
      rfl

end Commands

end HardwareMediatek.Wifi
