import HardwareMediatek.Wifi.CommandLifetimes

/-!
# Which monitor an RSSI event reaches

A monitor is active on an interface from a start that succeeded to the next one there, or to a stop of
its id or of the interface. The handlers stand under the names of the interfaces, but an event takes
the first that there is.
-/

namespace HardwareMediatek.Wifi

open Foundation

section System

/-- A call, or an event that the driver sends for an interface. -/
inductive RssiStep where
  | start (id : ℤ) (iface : Interface) (eh : ℕ) (accepted : Bool)
  | stop (id : ℤ) (iface : Interface) (built : Bool)
  | event (iface : Interface) (breach : RssiBreach)

/-- The monitor of an interface is the id and the handler that it was started with. -/
structure MonitorState where
  info : HalInfo
  active : Interface → Option (ℤ × ℕ)

/-- A start that succeeds makes its monitor the active one of the interface. -/
def MonitorState.afterStart (state : MonitorState) (id : ℤ) (iface : Interface) (eh : ℕ)
    (result : Bool × HalInfo) : MonitorState where
  info := result.2
  active :=
    if result.1 then Function.update state.active iface (some (id, eh)) else state.active

/-- The monitors that a stop is meant for: that of the interface, or that of the id. -/
def MonitorState.StoppedBy (state : MonitorState) (id : ℤ) (iface other : Interface) : Prop :=
  if id = -1 then other = iface else (state.active other).map Prod.fst = some id

instance (state : MonitorState) (id : ℤ) (iface other : Interface) :
    Decidable (state.StoppedBy id iface other) :=
  inferInstanceAs (Decidable (if id = -1 then other = iface else _))

def MonitorState.afterStop (state : MonitorState) (id : ℤ) (iface : Interface)
    (result : Bool × HalInfo) : MonitorState where
  info := result.2
  active other :=
    if result.1 = true ∧ state.StoppedBy id iface other then none else state.active other

def RssiStep.apply (state : MonitorState) : RssiStep → MonitorState
  | .start id iface eh accepted =>
      state.afterStart id iface eh (wifiStartRssiMonitoring state.info id iface eh accepted)
  | .stop id iface built =>
      state.afterStop id iface (wifiStopRssiMonitoring state.info id iface built)
  | .event _ _ => state

/-- An event is delivered to the active monitor of its interface, and to none if there is none. -/
def RssiStep.Delivers (state : MonitorState) : RssiStep → Prop
  | .event iface breach =>
      rssiMonitorEvent state.info breach =
        (state.active iface).map fun monitor ↦ ⟨monitor.2, monitor.1, breach⟩
  | .start .. => True
  | .stop .. => True

/-- The first handler in the table is that of the interface, or there is no handler and no active
monitor. -/
def RssiStep.FindsFirst (state : MonitorState) : RssiStep → Prop
  | .event iface _ =>
      match findHandler state.info googleOui wifiEventRssiMonitor with
      | some p => (state.info.placeOf p).ifname = some iface
      | none => state.active iface = none
  | .start .. => True
  | .stop .. => True

def RssiStep.startId : RssiStep → Option ℤ
  | .start id _ _ _ => some id
  | .stop .. => none
  | .event .. => none

def runRssiSteps (event_cb : ℕ → CbInfo ℕ) (cmd : ℕ → CmdInfo) (command : ℕ → WifiCommand)
    (steps : List RssiStep) : MonitorState :=
  steps.foldl RssiStep.apply ⟨HalInfo.initial event_cb cmd command, fun _ ↦ none⟩

end System

section Calls

variable {info : HalInfo}

/-- What a start leaves: its command, and under the name of its interface no other handler. -/
structure HalInfo.Starts (info : HalInfo) (c : WifiCommand) (result : Bool × HalInfo) : Prop where
  command : result.2.command = Function.update info.command info.next c
  commands : ∀ p ∈ result.2.commands, p = info.next ∨ p ∈ info.commands
  handlers : ∀ p ∈ result.2.handlers, result.1 = true ∧ p = info.next ∨
    p ∈ info.handlers ∧ (result.1 = true → info.placeOf p ≠ c.kind.place)

theorem starts_startRssiMonitoring (hcounted : info.Counted) (hnone : info.NoDangling) (id : ℤ)
    (iface : Interface) (eh : ℕ) (accepted : Bool) :
    info.Starts ⟨id, .setRSSIMonitor iface (some eh)⟩
      (wifiStartRssiMonitoring info id iface eh accepted) := by
  let c : WifiCommand := ⟨id, .setRSSIMonitor iface (some eh)⟩
  change info.Starts c (startCommand info c _)
  unfold startCommand
  by_cases hroom : info.cmd.count < info.cmd.capacity
  · rw [registerCmd_room hroom c]
    have hstarting := starting_entered hcounted hnone c hroom
    have hcommands (p : ℕ) (hp : p ∈ (info.entered c (info.cmd.push ⟨c.mId, info.next⟩
        hroom)).commands) : p = info.next ∨ p ∈ info.commands := by
      rw [commands_entered (SlotArray.items_push _ _ _)] at hp
      apply Or.elim (List.mem_append.mp hp)
      · exact Or.inr
      · intro hlast
        exact Or.inl (List.mem_singleton.mp hlast)
    cases accepted with
    | true =>
      apply HalInfo.Starts.mk
      · rfl
      · exact hcommands
      · intro p hp
        rcases mem_handlers_register hstarting.counted.placed c.kind info.next hp with hnew | hother
        · exact Or.inl ⟨rfl, hnew⟩
        · apply Or.inr
          rw [hstarting.handlers] at hother
          apply And.intro hother.1
          intro _ hplace
          apply hother.2
          rw [← hplace]
          exact placeOf_newCommand c (hcounted.handlersAllocated p hother.1)
    | false =>
      have htaken := taken_of_unregisterCmd hstarting.counted hstarting.noDangling c.mId
      apply HalInfo.Starts.mk
      · exact htaken.command
      · intro p hp
        exact hcommands p ((htaken.mem_iff p).mp hp).1
      · intro p hp
        apply Or.inr
        apply And.intro
        · rw [← hstarting.handlers, ← htaken.handlers]
          exact hp
        · intro hfalse
          cases hfalse
  · rw [registerCmd_full hroom c]
    apply HalInfo.Starts.mk
    · rfl
    · intro p hp
      exact Or.inr hp
    · intro p hp
      apply Or.inr
      apply And.intro hp
      intro hfalse
      cases hfalse

/-- What is left after the monitor of an interface was cancelled. -/
structure HalInfo.Stops (info : HalInfo) (iface : Interface) (after : HalInfo) : Prop where
  command : after.command = info.command
  commands : ∀ p ∈ after.commands, p ∈ info.commands
  handlers : ∀ p ∈ after.handlers, p ∈ info.handlers ∧
    info.placeOf p ≠ ⟨googleOui, wifiEventRssiMonitor, some iface⟩

theorem stops_cancel (hcounted : info.Counted) {p : ℕ} {iface : Interface} {eh : Option ℕ}
    (hkind : (info.command p).kind = .setRSSIMonitor iface eh) (built : Bool) :
    info.Stops iface ((cancel info p built).releaseRef p) := by
  unfold cancel
  rw [hkind]
  apply HalInfo.Stops.mk
  · rfl
  · intro q hq
    exact hq
  · intro q hq
    have hfilter : q ∈ (info.unregisterVendorHandler
        (CommandKind.setRSSIMonitor iface eh).place).handlers := hq
    rw [handlers_unregister hcounted.placed] at hfilter
    have hother := List.of_mem_filter hfilter
    exact ⟨List.mem_of_mem_filter hfilter, of_decide_eq_true hother⟩

end Calls

section Active

variable (state : MonitorState) {result : Bool × HalInfo}

theorem active_afterStart (hok : result.1 = true) (id : ℤ) (iface : Interface) (eh : ℕ) :
    (state.afterStart id iface eh result).active =
      Function.update state.active iface (some (id, eh)) :=
  if_pos hok

theorem active_afterStart_failed (hok : ¬ result.1 = true) (id : ℤ) (iface : Interface) (eh : ℕ) :
    (state.afterStart id iface eh result).active = state.active :=
  if_neg hok

theorem active_afterStop {id : ℤ} {iface other : Interface}
    (hnot : ¬ (result.1 = true ∧ state.StoppedBy id iface other)) :
    (state.afterStop id iface result).active other = state.active other :=
  if_neg hnot

theorem active_of_afterStop {id : ℤ} {iface other : Interface} {monitor : ℤ × ℕ}
    (hactive : (state.afterStop id iface result).active other = some monitor) :
    state.active other = some monitor := by
  unfold MonitorState.afterStop at hactive
  dsimp only at hactive
  split at hactive
  · cases hactive
  · exact hactive

end Active

section Invariant

/-- Some table has the command. -/
def HalInfo.Refers (info : HalInfo) (p : ℕ) : Prop := p ∈ info.commands ∨ p ∈ info.handlers

/-- Every handler is that of the monitor active on its interface, and ids stand for one command and
one interface. -/
structure MonitorState.Tracks (state : MonitorState) (started : List ℤ) : Prop where
  counted : state.info.Counted
  noDangling : state.info.NoDangling
  handlers : ∀ p ∈ state.info.handlers, ∃ iface eh,
    (state.info.command p).kind = .setRSSIMonitor iface (some eh) ∧
      state.active iface = some ((state.info.command p).mId, eh)
  commands : ∀ p ∈ state.info.commands, ∃ iface eh,
    (state.info.command p).kind = .setRSSIMonitor iface (some eh)
  referred : ∀ p, state.info.Refers p → (state.info.command p).mId ∈ started
  distinct : ∀ p q, state.info.Refers p → state.info.Refers q →
    (state.info.command p).mId = (state.info.command q).mId → p = q
  activeStarted : ∀ iface monitor, state.active iface = some monitor → monitor.1 ∈ started
  activeDistinct : ∀ iface other monitor same, state.active iface = some monitor →
    state.active other = some same → monitor.1 = same.1 → iface = other

variable {state : MonitorState} {started : List ℤ}

theorem refers_lt (htracks : state.Tracks started) {p : ℕ} (hp : state.info.Refers p) :
    p < state.info.next :=
  Or.elim hp (htracks.counted.commandsAllocated p) (htracks.counted.handlersAllocated p)

/-- Fewer references and fewer active monitors, but each handler keeps its own. -/
theorem tracks_shrinks (htracks : state.Tracks started) {after : MonitorState}
    (hkept : after.info.Counted ∧ after.info.NoDangling)
    (hcommand : ∀ p, state.info.Refers p → after.info.command p = state.info.command p)
    (hcommands : ∀ p ∈ after.info.commands, p ∈ state.info.commands)
    (hhandlers : ∀ p ∈ after.info.handlers, p ∈ state.info.handlers ∧
      ∀ iface eh, (state.info.command p).kind = .setRSSIMonitor iface (some eh) →
        after.active iface = state.active iface)
    (hactive : ∀ iface monitor, after.active iface = some monitor →
      state.active iface = some monitor) : after.Tracks started := by
  have hrefers (p : ℕ) (hp : after.info.Refers p) : state.info.Refers p :=
    Or.imp (hcommands p) (fun hmem ↦ (hhandlers p hmem).1) hp
  apply MonitorState.Tracks.mk hkept.1 hkept.2
  · intro p hp
    have hbefore := hhandlers p hp
    obtain ⟨iface, eh, hmonitor⟩ := htracks.handlers p hbefore.1
    rw [hcommand p (Or.inr hbefore.1)]
    apply Exists.intro iface
    apply Exists.intro eh
    rw [hbefore.2 iface eh hmonitor.1]
    exact hmonitor
  · intro p hp
    rw [hcommand p (Or.inl (hcommands p hp))]
    exact htracks.commands p (hcommands p hp)
  · intro p hp
    rw [hcommand p (hrefers p hp)]
    exact htracks.referred p (hrefers p hp)
  · intro p q hp hq hsame
    rw [hcommand p (hrefers p hp), hcommand q (hrefers q hq)] at hsame
    exact htracks.distinct p q (hrefers p hp) (hrefers q hq) hsame
  · intro iface monitor hmonitor
    exact htracks.activeStarted iface monitor (hactive iface monitor hmonitor)
  · intro iface other monitor same hmonitor hother
    exact htracks.activeDistinct iface other monitor same (hactive iface monitor hmonitor)
      (hactive other same hother)

theorem freeId_of_not_started (htracks : state.Tracks started) {id : ℤ} (hnew : id ∉ started) :
    state.info.FreeId id := by
  intro entry hentry hid
  apply hnew
  rw [← hid, ← htracks.counted.ids entry hentry]
  exact htracks.referred entry.cmd (Or.inl (List.mem_map_of_mem hentry))

theorem cancellable_of_tracks (htracks : state.Tracks started) (id : ℤ) (built : Bool) :
    state.info.Cancellable id built := by
  intro p _ hmem handler hkind
  obtain ⟨iface, eh, hmonitor⟩ := htracks.handlers p hmem
  rw [hkind] at hmonitor
  cases hmonitor.1

section Start

variable {id : ℤ} {iface : Interface} {eh : ℕ} {result : Bool × HalInfo}

theorem HalInfo.Starts.command_next {info : HalInfo} {c : WifiCommand}
    (hstarts : info.Starts c result) : result.2.command info.next = c := by
  rw [hstarts.command, Function.update_self]

theorem HalInfo.Starts.refers {info : HalInfo} {c : WifiCommand} (hstarts : info.Starts c result)
    {p : ℕ} (hp : result.2.Refers p) : p = info.next ∨ info.Refers p := by
  rcases hp with hmem | hmem
  · exact Or.imp_right Or.inl (hstarts.commands p hmem)
  · exact Or.imp And.right (fun hother ↦ Or.inr hother.1) (hstarts.handlers p hmem)

theorem command_of_starts (htracks : state.Tracks started) {c : WifiCommand}
    (hstarts : state.info.Starts c result) {p : ℕ} (hp : state.info.Refers p) :
    result.2.command p = state.info.command p := by
  rw [hstarts.command, Function.update_of_ne (Nat.ne_of_lt (refers_lt htracks hp))]

theorem mId_ne_of_not_started (htracks : state.Tracks started) (hnew : id ∉ started) {p : ℕ}
    (hp : state.info.Refers p) : (state.info.command p).mId ≠ id := by
  intro hid
  apply hnew
  rw [← hid]
  exact htracks.referred p hp

theorem active_ne_of_not_started (htracks : state.Tracks started) (hnew : id ∉ started)
    {name : Interface} {monitor : ℤ × ℕ} (hname : state.active name = some monitor) :
    monitor.1 ≠ id := by
  intro hid
  apply hnew
  rw [← hid]
  exact htracks.activeStarted name monitor hname

theorem active_of_afterStart {name : Interface} {monitor : ℤ × ℕ}
    (hname : (state.afterStart id iface eh result).active name = some monitor) :
    name = iface ∧ monitor = (id, eh) ∨ state.active name = some monitor := by
  by_cases hok : result.1 = true
  · rw [active_afterStart state hok] at hname
    by_cases hsame : name = iface
    · rw [hsame, Function.update_self] at hname
      exact Or.inl ⟨hsame, (Option.some.inj hname).symm⟩
    · rw [Function.update_of_ne hsame] at hname
      exact Or.inr hname
  · rw [active_afterStart_failed state hok] at hname
    exact Or.inr hname

variable (hstarts : state.info.Starts ⟨id, .setRSSIMonitor iface (some eh)⟩ result)

include hstarts

/-- The handler of the interface is the new one if the start succeeds, and the others stay. -/
theorem handlers_afterStart (htracks : state.Tracks started) {p : ℕ} (hp : p ∈ result.2.handlers) :
    ∃ name handler, (result.2.command p).kind = .setRSSIMonitor name (some handler) ∧
      (state.afterStart id iface eh result).active name =
        some ((result.2.command p).mId, handler) := by
  rcases hstarts.handlers p hp with hnext | hbefore
  · rw [hnext.2, hstarts.command_next]
    apply Exists.intro iface
    apply Exists.intro eh
    apply And.intro rfl
    rw [active_afterStart state hnext.1, Function.update_self]
  · rw [command_of_starts htracks hstarts (Or.inr hbefore.1)]
    obtain ⟨name, handler, hmonitor⟩ := htracks.handlers p hbefore.1
    apply Exists.intro name
    apply Exists.intro handler
    apply And.intro hmonitor.1
    by_cases hok : result.1 = true
    · have hne : name ≠ iface := by
        intro hsame
        apply hbefore.2 hok
        unfold HalInfo.placeOf
        rw [hmonitor.1, hsame]
        rfl
      rw [active_afterStart state hok, Function.update_of_ne hne]
      exact hmonitor.2
    · rw [active_afterStart_failed state hok]
      exact hmonitor.2

theorem commands_afterStart (htracks : state.Tracks started) {p : ℕ} (hp : p ∈ result.2.commands) :
    ∃ name handler, (result.2.command p).kind = .setRSSIMonitor name (some handler) := by
  rcases hstarts.commands p hp with hnext | hbefore
  · rw [hnext, hstarts.command_next]
    exact ⟨iface, eh, rfl⟩
  · rw [command_of_starts htracks hstarts (Or.inl hbefore)]
    exact htracks.commands p hbefore

theorem referred_afterStart (htracks : state.Tracks started) {p : ℕ} (hp : result.2.Refers p) :
    (result.2.command p).mId ∈ started ++ [id] := by
  rcases hstarts.refers hp with hnext | hbefore
  · rw [hnext, hstarts.command_next]
    exact List.mem_append_cons_self
  · rw [command_of_starts htracks hstarts hbefore]
    exact List.mem_append_left _ (htracks.referred p hbefore)

theorem distinct_afterStart (htracks : state.Tracks started) (hnew : id ∉ started) {p q : ℕ}
    (hp : result.2.Refers p) (hq : result.2.Refers q)
    (hsame : (result.2.command p).mId = (result.2.command q).mId) : p = q := by
  rcases hstarts.refers hp with hpnext | hpbefore
  · rcases hstarts.refers hq with hqnext | hqbefore
    · rw [hpnext, hqnext]
    · rw [hpnext, hstarts.command_next, command_of_starts htracks hstarts hqbefore] at hsame
      exact absurd hsame.symm (mId_ne_of_not_started htracks hnew hqbefore)
  · rw [command_of_starts htracks hstarts hpbefore] at hsame
    rcases hstarts.refers hq with hqnext | hqbefore
    · rw [hqnext, hstarts.command_next] at hsame
      exact absurd hsame (mId_ne_of_not_started htracks hnew hpbefore)
    · rw [command_of_starts htracks hstarts hqbefore] at hsame
      exact htracks.distinct p q hpbefore hqbefore hsame

omit hstarts

theorem activeStarted_afterStart (htracks : state.Tracks started) {name : Interface}
    {monitor : ℤ × ℕ}
    (hname : (state.afterStart id iface eh result).active name = some monitor) :
    monitor.1 ∈ started ++ [id] := by
  rcases active_of_afterStart hname with hnow | hbefore
  · rw [hnow.2]
    exact List.mem_append_cons_self
  · exact List.mem_append_left _ (htracks.activeStarted name monitor hbefore)

theorem activeDistinct_afterStart (htracks : state.Tracks started) (hnew : id ∉ started)
    {name other : Interface} {monitor same : ℤ × ℕ}
    (hname : (state.afterStart id iface eh result).active name = some monitor)
    (hother : (state.afterStart id iface eh result).active other = some same)
    (hsame : monitor.1 = same.1) : name = other := by
  rcases active_of_afterStart hname with hnow | hbefore
  · rcases active_of_afterStart hother with hthen | hbefore
    · rw [hnow.1, hthen.1]
    · rw [hnow.2] at hsame
      exact absurd hsame.symm (active_ne_of_not_started htracks hnew hbefore)
  · rcases active_of_afterStart hother with hthen | hthen
    · rw [hthen.2] at hsame
      exact absurd hsame (active_ne_of_not_started htracks hnew hbefore)
    · exact htracks.activeDistinct name other monitor same hbefore hthen hsame

end Start

theorem tracks_start (htracks : state.Tracks started) {id : ℤ} (hnew : id ∉ started)
    (iface : Interface) (eh : ℕ) (accepted : Bool) :
    ((RssiStep.start id iface eh accepted).apply state).Tracks (started ++ [id]) := by
  have hkeeps := keepsIf_startRssiMonitoring htracks.counted htracks.noDangling id iface eh accepted
  have hstarts := starts_startRssiMonitoring htracks.counted htracks.noDangling id iface eh accepted
  exact
    { counted := hkeeps.counted
      noDangling := hkeeps.iff.mpr (Or.inr (Or.inr (freeId_of_not_started htracks hnew)))
      handlers := fun _ hp ↦ handlers_afterStart hstarts htracks hp
      commands := fun _ hp ↦ commands_afterStart hstarts htracks hp
      referred := fun _ hp ↦ referred_afterStart hstarts htracks hp
      distinct := fun _ _ hp hq hsame ↦ distinct_afterStart hstarts htracks hnew hp hq hsame
      activeStarted := fun _ _ hname ↦ activeStarted_afterStart htracks hname
      activeDistinct := fun _ _ _ _ hname hother hsame ↦
        activeDistinct_afterStart htracks hnew hname hother hsame }

/-- A command of the moment is in no table. -/
theorem tracks_stopAll (htracks : state.Tracks started) (iface : Interface) (built : Bool) :
    ((RssiStep.stop (-1) iface built).apply state).Tracks started := by
  have hkeeps := keepsIf_stopRssiMonitoring htracks.counted htracks.noDangling (-1) iface built
  have hnone := hkeeps.iff.mpr (Or.inl rfl)
  let c : WifiCommand := ⟨-1, .setRSSIMonitor iface none⟩
  have hkind : ((state.info.newCommand c).command state.info.next).kind =
      .setRSSIMonitor iface none := by
    change (Function.update state.info.command state.info.next c state.info.next).kind = _
    rw [Function.update_self]
  have hstops := stops_cancel (counted_newCommand htracks.counted c) hkind built
  apply tracks_shrinks htracks ⟨hkeeps.counted, hnone⟩
  · intro p hp
    change ((cancel (state.info.newCommand c) state.info.next built).releaseRef
      state.info.next).command p = _
    rw [hstops.command]
    exact Function.update_of_ne (Nat.ne_of_lt (refers_lt htracks hp)) _ _
  · exact hstops.commands
  · intro p hp
    have hbefore := hstops.handlers p hp
    apply And.intro hbefore.1
    intro name eh hname
    have hne : name ≠ iface := by
      intro hsame
      apply hbefore.2
      rw [placeOf_newCommand c (refers_lt htracks (Or.inr hbefore.1))]
      unfold HalInfo.placeOf
      rw [hname, hsame]
      rfl
    apply active_afterStop
    intro hboth
    have hstopped := hboth.2
    unfold MonitorState.StoppedBy at hstopped
    rw [if_pos rfl] at hstopped
    exact hne hstopped
  · exact fun _ _ ↦ active_of_afterStop state

theorem tracks_stopId (htracks : state.Tracks started) {id : ℤ} (hid : id ≠ -1)
    (iface : Interface) (built : Bool) :
    ((RssiStep.stop id iface built).apply state).Tracks started := by
  have hkeeps := keepsIf_stopRssiMonitoring htracks.counted htracks.noDangling id iface built
  have hnone := hkeeps.iff.mpr (Or.inr (cancellable_of_tracks htracks id built))
  have htaken := taken_of_unregisterCmd htracks.counted htracks.noDangling id
  have hstop : wifiStopRssiMonitoring state.info id iface built = wifiCancelCmd state.info id built :=
    if_neg hid
  change (state.afterStop id iface _).Tracks _
  rw [hstop] at hkeeps hnone ⊢
  unfold wifiCancelCmd at hkeeps hnone ⊢
  generalize state.info.wifiUnregisterCmd id = taken at htaken hkeeps hnone ⊢
  obtain ⟨command, unregistered⟩ := taken
  cases command with
  | none =>
    apply tracks_shrinks htracks ⟨hkeeps.counted, hnone⟩
    · intro p _
      change unregistered.command p = _
      rw [htaken.command]
    · intro p hp
      exact ((htaken.mem_iff p).mp hp).1
    · intro p hp
      rw [← htaken.handlers]
      apply And.intro hp
      intro _ _ _
      apply active_afterStop
      intro hboth
      cases hboth.1
    · exact fun _ _ ↦ active_of_afterStop state
  | some p =>
    have hp := htaken.mem p rfl
    obtain ⟨name, eh, hkind⟩ := htracks.commands p hp.1
    have hcommand : unregistered.command = state.info.command := htaken.command
    rw [← hcommand] at hkind
    have hstops := stops_cancel htaken.counted hkind built
    apply tracks_shrinks htracks ⟨hkeeps.counted, hnone⟩
    · intro q _
      change ((cancel unregistered p built).releaseRef p).command q = _
      rw [hstops.command, hcommand]
    · intro q hq
      exact ((htaken.mem_iff q).mp (hstops.commands q hq)).1
    · intro q hq
      have hbefore := hstops.handlers q hq
      have hmem : q ∈ state.info.handlers := by
        rw [← htaken.handlers]
        exact hbefore.1
      apply And.intro hmem
      intro place handler hplace
      have hother : q ≠ p := by
        intro hsame
        apply hbefore.2
        unfold HalInfo.placeOf
        rw [hsame, hkind]
        rfl
      have hid' : (state.info.command q).mId ≠ id := by
        intro hsame
        apply hother
        apply htracks.distinct q p (Or.inr hmem) (Or.inl hp.1)
        rw [hsame, hp.2]
      obtain ⟨iface', eh', hmonitor⟩ := htracks.handlers q hmem
      have hsameKind := hplace.symm.trans hmonitor.1
      cases hsameKind
      apply active_afterStop
      intro hboth
      have hstopped := hboth.2
      unfold MonitorState.StoppedBy at hstopped
      rw [if_neg hid, hmonitor.2] at hstopped
      exact hid' (Option.some.inj hstopped)
    · exact fun _ _ ↦ active_of_afterStop state

theorem tracks_apply (htracks : state.Tracks started) (step : RssiStep)
    (hnew : ∀ id, step.startId = some id → id ∉ started) :
    (step.apply state).Tracks (started ++ step.startId.toList) := by
  cases step with
  | start id iface eh accepted => exact tracks_start htracks (hnew id rfl) iface eh accepted
  | stop id iface built =>
    rw [RssiStep.startId, Option.toList_none, List.append_nil]
    by_cases hall : id = -1
    · rw [hall]
      exact tracks_stopAll htracks iface built
    · exact tracks_stopId htracks hall iface built
  | event iface breach =>
    rw [RssiStep.startId, Option.toList_none, List.append_nil]
    exact htracks

end Invariant

section Runs

/-- An event reaches the active monitor of its interface exactly when the first handler is that of
the interface. -/
theorem delivers_iff {state : MonitorState} {started : List ℤ} (htracks : state.Tracks started)
    (step : RssiStep) : step.Delivers state ↔ step.FindsFirst state := by
  cases step with
  | start id iface eh accepted => exact Iff.rfl
  | stop id iface built => exact Iff.rfl
  | event iface breach =>
    unfold RssiStep.Delivers RssiStep.FindsFirst rssiMonitorEvent
    cases hfind : findHandler state.info googleOui wifiEventRssiMonitor with
    | none =>
      dsimp only
      rw [Option.bind_none]
      exact eq_comm.trans Option.map_eq_none_iff
    | some p =>
      have hp := (place_of_findHandler htracks.counted.placed hfind).1
      obtain ⟨name, eh, hmonitor⟩ := htracks.handlers p hp
      have hplace : (state.info.placeOf p).ifname = some name := by
        unfold HalInfo.placeOf
        rw [hmonitor.1]
        rfl
      have hcall : rssiHandleEvent state.info p breach =
          some ⟨eh, (state.info.command p).mId, breach⟩ := by
        unfold rssiHandleEvent
        rw [hmonitor.1]
        rfl
      dsimp only
      rw [Option.bind_some, hcall, hplace]
      apply Iff.intro
      · intro hdelivered
        obtain ⟨monitor, hactive⟩ := Option.map_eq_some_iff.mp hdelivered.symm
        have hid : monitor.1 = (state.info.command p).mId := congrArg RssiCall.id hactive.2
        rw [htracks.activeDistinct iface name monitor _ hactive.1 hmonitor.2 hid]
      · intro hsame
        rw [← Option.some.inj hsame, hmonitor.2]
        rfl

variable (event_cb : ℕ → CbInfo ℕ) (cmd : ℕ → CmdInfo) (command : ℕ → WifiCommand)

/-- The ids of the starts. -/
def startIds (steps : List RssiStep) : List ℤ := steps.filterMap RssiStep.startId

theorem startIds_concat (steps : List RssiStep) (step : RssiStep) :
    startIds (steps ++ [step]) = startIds steps ++ step.startId.toList := by
  unfold startIds
  rw [List.filterMap_append]
  cases hid : step.startId with
  | none => rw [List.filterMap_cons_none hid]; rfl
  | some id => rw [List.filterMap_cons_some hid]; rfl

theorem newIds_of_nodup {steps : List RssiStep} (hids : (startIds steps).Nodup) :
    EachAfter (fun before step ↦ ∀ id, step.startId = some id → id ∉ startIds before) steps := by
  intro before step after hsteps id hid hmem
  rw [hsteps] at hids
  unfold startIds at hids hmem
  rw [List.filterMap_append, List.filterMap_cons_some hid] at hids
  exact (List.nodup_append.mp hids).2.2 id hmem id List.mem_cons_self rfl

theorem tracks_initial :
    (⟨HalInfo.initial event_cb cmd command, fun _ ↦ none⟩ : MonitorState).Tracks [] := by
  have hrefers (p : ℕ) (hp : (HalInfo.initial event_cb cmd command).Refers p) : False := by
    rcases hp with hmem | hmem
    · cases hmem
    · cases hmem
  apply MonitorState.Tracks.mk
  · exact counted_initial event_cb cmd command
  · exact noDangling_initial event_cb cmd command
  · intro p hp
    exact (hrefers p (Or.inr hp)).elim
  · intro p hp
    exact (hrefers p (Or.inl hp)).elim
  · intro p hp
    exact (hrefers p hp).elim
  · intro p _ hp
    exact (hrefers p hp).elim
  · intro iface monitor hmonitor
    cases hmonitor
  · intro iface _ monitor _ hmonitor
    cases hmonitor

theorem tracks_run {steps : List RssiStep} (hids : (startIds steps).Nodup) :
    (runRssiSteps event_cb cmd command steps).Tracks (startIds steps) := by
  let inv (steps : List RssiStep) (state : MonitorState) : Prop := state.Tracks (startIds steps)
  apply foldl_keeps inv _ _ (newIds_of_nodup hids)
  · exact tracks_initial event_cb cmd command
  · intro before step hinv hnew
    change (step.apply _).Tracks (startIds (before ++ [step]))
    rw [startIds_concat]
    exact tracks_apply hinv step hnew

/-- When no two starts have the same id, every event is delivered to the active monitor of its
interface, and to none if there is none, exactly when each event finds the handler of its interface
first, or no handler and no active monitor. -/
theorem rssiEvents_delivered_iff (steps : List RssiStep) (hids : (startIds steps).Nodup) :
    EachAfter (fun before step ↦
        step.Delivers (runRssiSteps event_cb cmd command before)) steps ↔
      EachAfter (fun before step ↦
        step.FindsFirst (runRssiSteps event_cb cmd command before)) steps := by
  apply eachAfter_congr
  intro before step after hsteps _ _
  have hbefore : (startIds before).Nodup := by
    rw [hsteps] at hids
    unfold startIds at hids ⊢
    rw [List.filterMap_append] at hids
    exact (List.nodup_append.mp hids).1
  exact delivers_iff (tracks_run event_cb cmd command hbefore) step

def wlan0Interface : Interface := ⟨wlan0, by decide⟩

def wlan1Interface : Interface := ⟨wlan1, by decide⟩

def someBreach : RssiBreach := ⟨-70, [2, 0, 0, 0, 0, 1]⟩

/-- Two monitors, and an event for the interface of the one started first. -/
theorem rssiEvents_delivered_iff_first :
    let steps : List RssiStep := [.start 1 wlan0Interface 10 true, .start 2 wlan1Interface 20 true,
      .event wlan0Interface someBreach]
    (startIds steps).Nodup ∧
    (EachAfter (fun before step ↦ step.Delivers
        (runRssiSteps (fun _ ↦ unusedSlot) (fun _ ↦ unusedCmd) (fun _ ↦ unusedCommand) before)) steps ↔
      EachAfter (fun before step ↦ step.FindsFirst
        (runRssiSteps (fun _ ↦ unusedSlot) (fun _ ↦ unusedCmd) (fun _ ↦ unusedCommand) before))
        steps) :=
  ⟨by decide, rssiEvents_delivered_iff _ _ _ _ (by decide)⟩

/-- An event for the interface monitored second goes to the monitor of the first. -/
theorem rssiEvent_misdelivered :
    let steps : List RssiStep := [.start 1 wlan0Interface 10 true, .start 2 wlan1Interface 20 true,
      .event wlan1Interface someBreach]
    (startIds steps).Nodup ∧
    ¬ EachAfter (fun before step ↦ step.Delivers
      (runRssiSteps (fun _ ↦ unusedSlot) (fun _ ↦ unusedCmd) (fun _ ↦ unusedCommand) before))
      steps := by
  apply And.intro (by decide)
  intro hdelivered
  have hlast := hdelivered [.start 1 wlan0Interface 10 true, .start 2 wlan1Interface 20 true] _ [] rfl
  change rssiMonitorEvent _ _ = _ at hlast
  exact absurd hlast (by decide)

end Runs

end HardwareMediatek.Wifi
