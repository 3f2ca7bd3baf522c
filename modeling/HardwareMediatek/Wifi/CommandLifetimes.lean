import HardwareMediatek.Foundation.EffectRuns
import HardwareMediatek.Wifi.HalCommands
import Mathlib.Tactic.Common

/-!
# Commands that are deleted while they are referred to

Commands are started, cancelled and completed by an event, with any request ids and outcomes. A step
that releases a command leaves a reference to it behind exactly when it took another one from the
table of commands, or left the handler registered.
-/

namespace HardwareMediatek.Wifi

open Foundation

section System

/-- A call of the HAL or a completion event, with what the driver makes of it. -/
inductive HalCall where
  | startRssiMonitoring (id : ℤ) (iface : Interface) (eh : ℕ) (accepted : Bool)
  | stopRssiMonitoring (id : ℤ) (iface : Interface) (built : Bool)
  | setSubsystemRestartHandler (handler : ℕ)
  | rttRangeRequest (id : ℤ) (handler : ℕ) (accepted : Bool)
  | rttCompletion (vendor_data : List UInt8)
  | cancelCmd (id : ℤ) (built : Bool)

def HalCall.apply (info : HalInfo) : HalCall → HalInfo
  | .startRssiMonitoring id iface eh accepted => (wifiStartRssiMonitoring info id iface eh accepted).2
  | .stopRssiMonitoring id iface built => (wifiStopRssiMonitoring info id iface built).2
  | .setSubsystemRestartHandler handler => (wifiSetSubsystemRestartHandler info handler).2
  | .rttRangeRequest id handler accepted => (wifiRttRangeRequest info id handler accepted).2
  | .rttCompletion vendor_data => (rttCompletionEvent info vendor_data).1
  | .cancelCmd id built => (wifiCancelCmd info id built).2

/-- Every command in a table has a reference left. -/
def HalInfo.NoDangling (info : HalInfo) : Prop :=
  (∀ p ∈ info.commands, 0 < info.mRefs p) ∧ ∀ p ∈ info.handlers, 0 < info.mRefs p

/-- No command is registered under the id. -/
def HalInfo.FreeId (info : HalInfo) (id : ℤ) : Prop := ∀ entry ∈ info.cmd.items, entry.id ≠ id

def HalInfo.CmdFull (info : HalInfo) : Prop := ¬ info.cmd.count < info.cmd.capacity

/-- A cancelled ranging request whose handler is still registered has its cancellation built. -/
def HalInfo.Cancellable (info : HalInfo) (id : ℤ) (built : Bool) : Prop :=
  ∀ p, info.wifiGetCmd id = some p → p ∈ info.handlers →
    ∀ handler, (info.command p).kind = .rttRequest handler → built = true

/-- The calls that leave no command behind in a table that they delete. -/
def HalCall.KeepsNone (info : HalInfo) : HalCall → Prop
  | .startRssiMonitoring id _ _ accepted => accepted = true ∨ info.CmdFull ∨ info.FreeId id
  | .stopRssiMonitoring id _ built => id = -1 ∨ info.Cancellable id built
  | .setSubsystemRestartHandler _ =>
      info.registersVendorHandler ⟨ouiMediatek, mtkEventResetTriggered, none⟩ = true ∨
        info.CmdFull ∨ info.FreeId halSubsystemResetId
  | .rttRangeRequest id _ accepted =>
      accepted = true ∨ info.CmdFull ∨ info.FreeId id ∧
        info.registersVendorHandler ⟨googleOui, rttEventComplete, none⟩ = false
  | .rttCompletion vendor_data =>
      ∀ p, findHandler info googleOui rttEventComplete = some p → vendor_data ≠ [] →
        ∀ q, info.wifiGetCmd (info.command p).mId = some q → q = p ∨ q ∉ info.handlers
  | .cancelCmd id built => info.Cancellable id built

end System

section Invariant

variable {info : HalInfo}

/-- What holds of the tables and the counts as long as nothing dangles. -/
structure HalInfo.Counted (info : HalInfo) : Prop where
  placed : info.WellPlaced
  handlersAllocated : ∀ p ∈ info.handlers, p < info.next
  commandsAllocated : ∀ p ∈ info.commands, p < info.next
  commandsDistinct : info.commands.Nodup
  ids : ∀ entry ∈ info.cmd.items, (info.command entry.cmd).mId = entry.id
  single : ∀ p, 0 < info.mRefs p → info.mRefs p = 1

theorem placeOf_newCommand (c : WifiCommand) {p : ℕ} (hp : p < info.next) :
    (info.newCommand c).placeOf p = info.placeOf p := by
  unfold HalInfo.placeOf HalInfo.newCommand
  dsimp only
  rw [Function.update_of_ne (Nat.ne_of_lt hp)]

theorem counted_newCommand (hcounted : info.Counted) (c : WifiCommand) :
    (info.newCommand c).Counted := by
  have hcmd {p : ℕ} (hp : p ∈ info.commands) : p ≠ info.next :=
    Nat.ne_of_lt (hcounted.commandsAllocated p hp)
  apply HalInfo.Counted.mk
  · apply placed_congr hcounted.placed (info.newCommand c) rfl
    intro p hp
    exact placeOf_newCommand c (hcounted.handlersAllocated p hp)
  · intro p hp
    exact Nat.lt_succ_of_lt (hcounted.handlersAllocated p hp)
  · intro p hp
    exact Nat.lt_succ_of_lt (hcounted.commandsAllocated p hp)
  · exact hcounted.commandsDistinct
  · intro entry hentry
    change (Function.update info.command info.next c entry.cmd).mId = _
    rw [Function.update_of_ne (hcmd (List.mem_map_of_mem hentry))]
    exact hcounted.ids entry hentry
  · intro p
    change 0 < Function.update info.mRefs info.next 1 p → _ = (1 : ℤ)
    by_cases hp : p = info.next
    · rw [hp]
      intro _
      exact Function.update_self _ _ _
    · intro hpos
      change Function.update info.mRefs info.next 1 p = 1
      rw [Function.update_of_ne hp] at hpos ⊢
      exact hcounted.single p hpos

theorem noDangling_newCommand (hcounted : info.Counted) (hnone : info.NoDangling)
    (c : WifiCommand) : (info.newCommand c).NoDangling := by
  apply And.intro
  · intro p hp
    change 0 < Function.update info.mRefs info.next 1 p
    rw [Function.update_of_ne (Nat.ne_of_lt (hcounted.commandsAllocated p hp))]
    exact hnone.1 p hp
  · intro p hp
    change 0 < Function.update info.mRefs info.next 1 p
    rw [Function.update_of_ne (Nat.ne_of_lt (hcounted.handlersAllocated p hp))]
    exact hnone.2 p hp

theorem counted_releaseRef (hcounted : info.Counted) (p : ℕ) : (info.releaseRef p).Counted where
  placed := placed_congr hcounted.placed (info.releaseRef p) rfl fun _ _ ↦ rfl
  handlersAllocated := hcounted.handlersAllocated
  commandsAllocated := hcounted.commandsAllocated
  commandsDistinct := hcounted.commandsDistinct
  ids := hcounted.ids
  single := by
    intro q
    change 0 < Function.update info.mRefs p _ q → Function.update info.mRefs p _ q = 1
    by_cases hq : q = p
    · rw [hq, Function.update_self]
      intro hpos
      have hsingle := hcounted.single p (by omega)
      omega
    · rw [Function.update_of_ne hq]
      exact hcounted.single q

/-- Releasing the last reference to a command leaves none to it exactly when no table has it. -/
theorem noDangling_releaseRef_iff (hcounted : info.Counted) (hnone : info.NoDangling) {p : ℕ}
    (hp : 0 < info.mRefs p) :
    (info.releaseRef p).NoDangling ↔ p ∉ info.commands ∧ p ∉ info.handlers := by
  have hdeleted : (info.releaseRef p).mRefs p = 0 := by
    change Function.update info.mRefs p _ p = 0
    rw [Function.update_self, hcounted.single p hp]
    rfl
  have hkept {q : ℕ} (hq : q ≠ p) : (info.releaseRef p).mRefs q = info.mRefs q :=
    Function.update_of_ne hq _ _
  apply Iff.intro
  · intro hafter
    apply And.intro
    · intro hmem
      have hpos := hafter.1 p hmem
      omega
    · intro hmem
      have hpos := hafter.2 p hmem
      omega
  · intro hout
    apply And.intro
    · intro q hq
      rw [hkept (ne_of_mem_of_not_mem hq hout.1)]
      exact hnone.1 q hq
    · intro q hq
      rw [hkept (ne_of_mem_of_not_mem hq hout.2)]
      exact hnone.2 q hq

/-- The state in which a new command is started. -/
def HalInfo.entered (info : HalInfo) (c : WifiCommand) (cmd : SlotArray CmdInfo) : HalInfo :=
  { info.newCommand c with cmd := cmd }

theorem commands_entered {c : WifiCommand} {cmd : SlotArray CmdInfo}
    (hcmd : cmd.items = info.cmd.items ++ [⟨c.mId, info.next⟩]) :
    (info.entered c cmd).commands = info.commands ++ [info.next] := by
  change cmd.items.map CmdInfo.cmd = _
  rw [hcmd, List.map_append, List.map_singleton]
  rfl

theorem counted_entered (hcounted : info.Counted) {c : WifiCommand} {cmd : SlotArray CmdInfo}
    (hcmd : cmd.items = info.cmd.items ++ [⟨c.mId, info.next⟩]) : (info.entered c cmd).Counted := by
  have hnew := counted_newCommand hcounted c
  apply HalInfo.Counted.mk
  · exact placed_congr hnew.placed (info.entered c cmd) rfl fun _ _ ↦ rfl
  · exact hnew.handlersAllocated
  · intro p hp
    rw [commands_entered hcmd] at hp
    apply Or.elim (List.mem_append.mp hp)
    · exact hnew.commandsAllocated p
    · intro hlast
      rw [List.mem_singleton.mp hlast]
      exact Nat.lt_succ_self _
  · rw [commands_entered hcmd]
    apply List.nodup_append.mpr
    apply And.intro hcounted.commandsDistinct
    apply And.intro (List.nodup_singleton _)
    intro p hp q hq
    rw [List.mem_singleton.mp hq]
    exact Nat.ne_of_lt (hcounted.commandsAllocated p hp)
  · intro entry hentry
    change entry ∈ cmd.items at hentry
    rw [hcmd] at hentry
    apply Or.elim (List.mem_append.mp hentry)
    · exact hnew.ids entry
    · intro hlast
      rw [List.mem_singleton.mp hlast]
      change (Function.update info.command info.next c info.next).mId = _
      rw [Function.update_self]
  · exact hnew.single

theorem noDangling_entered (hcounted : info.Counted) (hnone : info.NoDangling) {c : WifiCommand}
    {cmd : SlotArray CmdInfo} (hcmd : cmd.items = info.cmd.items ++ [⟨c.mId, info.next⟩]) :
    (info.entered c cmd).NoDangling := by
  have hnew := noDangling_newCommand hcounted hnone c
  apply And.intro
  · intro p hp
    rw [commands_entered hcmd] at hp
    apply Or.elim (List.mem_append.mp hp)
    · exact hnew.1 p
    · intro hlast
      rw [List.mem_singleton.mp hlast]
      change 0 < Function.update info.mRefs info.next 1 info.next
      rw [Function.update_self]
      decide
  · exact hnew.2

theorem counted_unregister (hcounted : info.Counted) (kind : CommandKind) :
    (info.unregisterVendorHandler kind.place).Counted where
  placed := placed_unregister hcounted.placed kind
  handlersAllocated p hp := by
    rw [handlers_unregister hcounted.placed kind] at hp
    exact hcounted.handlersAllocated p (List.mem_of_mem_filter hp)
  commandsAllocated := hcounted.commandsAllocated
  commandsDistinct := hcounted.commandsDistinct
  ids := hcounted.ids
  single := hcounted.single

theorem noDangling_unregister (hcounted : info.Counted) (hnone : info.NoDangling)
    (kind : CommandKind) : (info.unregisterVendorHandler kind.place).NoDangling := by
  apply And.intro hnone.1
  intro p hp
  rw [handlers_unregister hcounted.placed kind] at hp
  exact hnone.2 p (List.mem_of_mem_filter hp)

theorem counted_register (hcounted : info.Counted) (kind : CommandKind) {p : ℕ}
    (hplace : info.placeOf p = kind.place) (hp : p < info.next) :
    (info.registerVendorHandler kind.place p).Counted where
  placed := placed_register hcounted.placed kind hplace
  handlersAllocated q hq := by
    rcases mem_handlers_register hcounted.placed kind p hq with hsame | hother
    · rw [hsame]
      exact hp
    · exact hcounted.handlersAllocated q hother.1
  commandsAllocated := hcounted.commandsAllocated
  commandsDistinct := hcounted.commandsDistinct
  ids := hcounted.ids
  single := hcounted.single

theorem noDangling_register (hcounted : info.Counted) (hnone : info.NoDangling)
    (kind : CommandKind) {p : ℕ} (hp : 0 < info.mRefs p) :
    (info.registerVendorHandler kind.place p).NoDangling := by
  apply And.intro hnone.1
  intro q hq
  rcases mem_handlers_register hcounted.placed kind p hq with hsame | hother
  · rw [hsame]
    exact hp
  · exact hnone.2 q hother.1

/-- Fewer entries in the table of commands. -/
theorem counted_sublist (hcounted : info.Counted) {cmd : SlotArray CmdInfo}
    (hsub : cmd.items.Sublist info.cmd.items) : { info with cmd := cmd }.Counted where
  placed := placed_congr hcounted.placed { info with cmd := cmd } rfl fun _ _ ↦ rfl
  handlersAllocated := hcounted.handlersAllocated
  commandsAllocated p hp := hcounted.commandsAllocated p ((hsub.map _).subset hp)
  commandsDistinct := hcounted.commandsDistinct.sublist (hsub.map _)
  ids entry hentry := hcounted.ids entry (hsub.subset hentry)
  single := hcounted.single

theorem noDangling_sublist (hnone : info.NoDangling) {cmd : SlotArray CmdInfo}
    (hsub : cmd.items.Sublist info.cmd.items) : { info with cmd := cmd }.NoDangling :=
  ⟨fun p hp ↦ hnone.1 p ((hsub.map _).subset hp), hnone.2⟩

/-- What unregistering by id leaves, and which command it takes out. -/
structure HalInfo.Taken (info : HalInfo) (id : ℤ) (taken : Option ℕ × HalInfo) : Prop where
  get : info.wifiGetCmd id = taken.1
  counted : taken.2.Counted
  noDangling : taken.2.NoDangling
  same : taken.2 = { info with cmd := taken.2.cmd }
  mem_iff : ∀ p, p ∈ taken.2.commands ↔ p ∈ info.commands ∧ taken.1 ≠ some p
  mem : ∀ p, taken.1 = some p → p ∈ info.commands ∧ (info.command p).mId = id

theorem HalInfo.Taken.mRefs {id : ℤ} {taken : Option ℕ × HalInfo} (htaken : info.Taken id taken) :
    taken.2.mRefs = info.mRefs := by
  rw [htaken.same]

theorem HalInfo.Taken.command {id : ℤ} {taken : Option ℕ × HalInfo} (htaken : info.Taken id taken) :
    taken.2.command = info.command := by
  rw [htaken.same]

theorem HalInfo.Taken.handlers {id : ℤ} {taken : Option ℕ × HalInfo}
    (htaken : info.Taken id taken) : taken.2.handlers = info.handlers := by
  rw [htaken.same]
  rfl

theorem taken_of_unregisterCmd (hcounted : info.Counted) (hnone : info.NoDangling) (id : ℤ) :
    info.Taken id (info.wifiUnregisterCmd id) := by
  have hcases := wifiUnregisterCmd_cases info id
  revert hcases
  generalize info.wifiUnregisterCmd id = taken
  intro hcases
  cases hcases with
  | @found before after p cmd hitems hfirst hcmd hget =>
    have hsub : cmd.items.Sublist info.cmd.items := by
      rw [hcmd, hitems]
      exact (List.sublist_cons_self _ _).append_left _
    have hcommands : info.commands = before.map CmdInfo.cmd ++ p :: after.map CmdInfo.cmd := by
      unfold HalInfo.commands
      rw [hitems, List.map_append, List.map_cons]
    have hdistinct := hcounted.commandsDistinct
    rw [hcommands] at hdistinct
    apply HalInfo.Taken.mk
    · exact hget
    · exact counted_sublist hcounted hsub
    · exact noDangling_sublist hnone hsub
    · rfl
    · intro q
      change q ∈ cmd.items.map CmdInfo.cmd ↔ _
      rw [hcmd, hcommands, List.map_append]
      have hout := (List.nodup_cons.mp (List.nodup_middle.mp hdistinct)).1
      by_cases hq : q = p
      · rw [hq]
        apply iff_of_false hout
        intro hboth
        exact hboth.2 rfl
      · have hne : some p ≠ some q := fun hsame ↦ hq (Option.some.inj hsame).symm
        simp [hq, hne]
    · intro q hq
      have hmem : (⟨id, p⟩ : CmdInfo) ∈ info.cmd.items := by
        rw [hitems]
        exact List.mem_append_cons_self
      rw [← Option.some.inj hq]
      exact ⟨List.mem_map_of_mem hmem, hcounted.ids _ hmem⟩
  | missing hfree hget =>
    apply HalInfo.Taken.mk
    · exact hget
    · exact hcounted
    · exact hnone
    · rfl
    · intro q
      simp
    · intro q hq
      cases hq

end Invariant

section Starting

variable {info : HalInfo}

/-- A step that keeps the tables and the counts in order leaves nothing dangling on a condition. -/
structure HalInfo.KeepsIf (after : HalInfo) (condition : Prop) : Prop where
  counted : after.Counted
  iff : after.NoDangling ↔ condition

theorem HalInfo.KeepsIf.congr {after : HalInfo} {condition other : Prop}
    (hkeeps : after.KeepsIf condition) (hiff : condition ↔ other) : after.KeepsIf other :=
  ⟨hkeeps.counted, hkeeps.iff.trans hiff⟩

theorem keepsIf_of_kept {after : HalInfo} {condition : Prop} (hcounted : after.Counted)
    (hnone : after.NoDangling) (hcondition : condition) : after.KeepsIf condition :=
  ⟨hcounted, iff_of_true hnone hcondition⟩

/-- The new command is the one found by its id unless an earlier one has the same. -/
theorem wifiGetCmd_entered_iff (hcounted : info.Counted) {id : ℤ} {after : HalInfo}
    (hcmd : after.cmd.items = info.cmd.items ++ [⟨id, info.next⟩]) :
    after.wifiGetCmd id = some info.next ↔ info.FreeId id := by
  rw [wifiGetCmd_eq, hcmd, List.find?_append]
  cases hfind : info.cmd.items.find? fun entry ↦ entry.id = id with
  | none =>
    apply iff_of_true
    · simp
    · intro entry hentry
      have hnot := List.find?_eq_none.mp hfind entry hentry
      exact fun hid ↦ hnot (decide_eq_true hid)
  | some entry =>
    have hentry := List.mem_of_find?_eq_some hfind
    apply iff_of_false
    · intro hsame
      have hnext : entry.cmd = info.next := Option.some.inj hsame
      have hlt := hcounted.commandsAllocated entry.cmd (List.mem_map_of_mem hentry)
      omega
    · intro hfree
      have hid := List.find?_some hfind
      exact hfree entry hentry (of_decide_eq_true hid)

/-- A started command is released after the first one with its id was taken from the table. -/
theorem keepsIf_failed (hcounted : info.Counted) {failed : HalInfo} {id : ℤ}
    (hfailed : failed.Counted) (hnone : failed.NoDangling)
    (hcmd : failed.cmd.items = info.cmd.items ++ [⟨id, info.next⟩])
    (hrefs : 0 < failed.mRefs info.next) :
    ((failed.wifiUnregisterCmd id).2.releaseRef info.next).KeepsIf
      (info.FreeId id ∧ info.next ∉ failed.handlers) := by
  have htaken := taken_of_unregisterCmd hfailed hnone id
  have hmem : info.next ∈ failed.commands := by
    unfold HalInfo.commands
    rw [hcmd, List.map_append]
    exact List.mem_append_cons_self
  have hpositive : 0 < (failed.wifiUnregisterCmd id).2.mRefs info.next := by
    rw [htaken.mRefs]
    exact hrefs
  apply HalInfo.KeepsIf.mk
  · exact counted_releaseRef htaken.counted info.next
  · rw [noDangling_releaseRef_iff htaken.counted htaken.noDangling hpositive, htaken.mem_iff,
      htaken.handlers, ← htaken.get, ← wifiGetCmd_entered_iff hcounted hcmd]
    apply and_congr_left
    intro _
    rw [not_and_not_right]
    exact ⟨fun himp ↦ himp hmem, fun hget _ ↦ hget⟩

/-- A command that finds no room is deleted at once. -/
theorem keepsIf_full (hcounted : info.Counted) (hnone : info.NoDangling) (c : WifiCommand) :
    ((info.newCommand c).releaseRef info.next).KeepsIf True := by
  have hnew := counted_newCommand hcounted c
  have hrefs : 0 < (info.newCommand c).mRefs info.next := by
    change 0 < Function.update info.mRefs info.next 1 info.next
    rw [Function.update_self]
    decide
  apply HalInfo.KeepsIf.mk (counted_releaseRef hnew info.next)
  rw [noDangling_releaseRef_iff hnew (noDangling_newCommand hcounted hnone c) hrefs]
  apply iff_of_true _ trivial
  apply And.intro
  · intro hmem
    exact Nat.lt_irrefl _ (hcounted.commandsAllocated _ hmem)
  · intro hmem
    exact Nat.lt_irrefl _ (hcounted.handlersAllocated _ hmem)

theorem registerCmd_full (hfull : info.CmdFull) (c : WifiCommand) :
    (info.newCommand c).wifiRegisterCmd c.mId info.next = none :=
  dif_neg hfull

theorem registerCmd_room (hroom : info.cmd.count < info.cmd.capacity) (c : WifiCommand) :
    (info.newCommand c).wifiRegisterCmd c.mId info.next =
      some (info.entered c (info.cmd.push ⟨c.mId, info.next⟩ hroom)) :=
  dif_pos hroom

/-- The state in which a new command is started. -/
structure HalInfo.Starting (info : HalInfo) (c : WifiCommand) (registered : HalInfo) : Prop where
  counted : registered.Counted
  noDangling : registered.NoDangling
  command : registered.command = Function.update info.command info.next c
  allocated : info.next < registered.next
  refs : 0 < registered.mRefs info.next
  table : registered.event_cb = info.event_cb
  items : registered.cmd.items = info.cmd.items ++ [⟨c.mId, info.next⟩]

theorem starting_entered (hcounted : info.Counted) (hnone : info.NoDangling) (c : WifiCommand)
    (hroom : info.cmd.count < info.cmd.capacity) :
    info.Starting c (info.entered c (info.cmd.push ⟨c.mId, info.next⟩ hroom)) := by
  have hcmd := SlotArray.items_push info.cmd ⟨c.mId, info.next⟩ hroom
  apply HalInfo.Starting.mk
  · exact counted_entered hcounted hcmd
  · exact noDangling_entered hcounted hnone hcmd
  · rfl
  · exact Nat.lt_succ_self _
  · change 0 < Function.update info.mRefs info.next 1 info.next
    rw [Function.update_self]
    decide
  · rfl
  · exact hcmd

/-- A start that fails keeps the new command registered and its reference. -/
structure HalInfo.FailsTo (registered failed : HalInfo) : Prop where
  counted : failed.Counted
  noDangling : failed.NoDangling
  cmd : failed.cmd = registered.cmd
  mRefs : failed.mRefs = registered.mRefs

/-- Starting keeps all references if the table is full, if the command starts, or if it fails without
a handler of its own and no other has its id. -/
theorem keepsIf_startCommand (hcounted : info.Counted) (hnone : info.NoDangling) (c : WifiCommand)
    (start : HalInfo → Bool × HalInfo) {condition : Prop}
    (hfull : info.CmdFull → condition)
    (hstarted : ∀ registered started, info.Starting c registered →
      start registered = (true, started) → started.Counted ∧ started.NoDangling ∧ condition)
    (hfailed : ∀ registered failed, info.Starting c registered →
      start registered = (false, failed) → registered.FailsTo failed ∧
        (¬ info.CmdFull → (info.FreeId c.mId ∧ info.next ∉ failed.handlers ↔ condition))) :
    (startCommand info c start).2.KeepsIf condition := by
  unfold startCommand
  by_cases hroom : info.cmd.count < info.cmd.capacity
  · rw [registerCmd_room hroom]
    have hstarting := starting_entered hcounted hnone c hroom
    dsimp only
    split
    · rename_i started hstart
      have hboth := hstarted _ started hstarting hstart
      exact keepsIf_of_kept hboth.1 hboth.2.1 hboth.2.2
    · rename_i failed hstart
      have hparts := hfailed _ failed hstarting hstart
      have hitems : failed.cmd.items = info.cmd.items ++ [⟨c.mId, info.next⟩] := by
        rw [hparts.1.cmd]
        exact hstarting.items
      have hpositive : 0 < failed.mRefs info.next := by
        rw [hparts.1.mRefs]
        exact hstarting.refs
      have hkeeps := keepsIf_failed hcounted hparts.1.counted hparts.1.noDangling hitems hpositive
      exact hkeeps.congr (hparts.2 (not_not_intro hroom))
  · rw [registerCmd_full hroom]
    exact (keepsIf_full hcounted hnone c).congr (iff_of_true trivial (hfull hroom))

theorem HalInfo.Starting.handlers {c : WifiCommand} {registered : HalInfo}
    (hstarting : info.Starting c registered) : registered.handlers = info.handlers := by
  unfold HalInfo.handlers
  rw [hstarting.table]

theorem HalInfo.Starting.place {c : WifiCommand} {registered : HalInfo}
    (hstarting : info.Starting c registered) : registered.placeOf info.next = c.kind.place := by
  unfold HalInfo.placeOf
  rw [hstarting.command, Function.update_self]

theorem HalInfo.Starting.placeOf {c : WifiCommand} {registered : HalInfo}
    (hstarting : info.Starting c registered) {p : ℕ} (hp : p < info.next) :
    registered.placeOf p = info.placeOf p := by
  unfold HalInfo.placeOf
  rw [hstarting.command, Function.update_of_ne (Nat.ne_of_lt hp)]

theorem HalInfo.Starting.registers {c : WifiCommand} {registered : HalInfo}
    (hstarting : info.Starting c registered) (place : HandlerPlace) :
    registered.registersVendorHandler place = info.registersVendorHandler place := by
  unfold HalInfo.registersVendorHandler
  rw [hstarting.table]

theorem next_not_mem_handlers (hcounted : info.Counted) : info.next ∉ info.handlers :=
  fun hmem ↦ Nat.lt_irrefl _ (hcounted.handlersAllocated _ hmem)

theorem HalInfo.Starting.registered {c : WifiCommand} {registered : HalInfo}
    (hstarting : info.Starting c registered) :
    (registered.registerVendorHandler c.kind.place info.next).Counted ∧
      (registered.registerVendorHandler c.kind.place info.next).NoDangling :=
  ⟨counted_register hstarting.counted c.kind hstarting.place hstarting.allocated,
    noDangling_register hstarting.counted hstarting.noDangling c.kind hstarting.refs⟩

theorem keepsIf_startRssiMonitoring (hcounted : info.Counted) (hnone : info.NoDangling) (id : ℤ)
    (iface : Interface) (eh : ℕ) (accepted : Bool) :
    (wifiStartRssiMonitoring info id iface eh accepted).2.KeepsIf
      (accepted = true ∨ info.CmdFull ∨ info.FreeId id) := by
  apply keepsIf_startCommand hcounted hnone
  · intro hfull
    exact Or.inr (Or.inl hfull)
  · intro registered started hstarting hstart
    cases accepted with
    | false => cases hstart
    | true =>
      rw [← (Prod.mk.inj hstart).2]
      exact ⟨hstarting.registered.1, hstarting.registered.2, Or.inl rfl⟩
  · intro registered failed hstarting hstart
    cases accepted with
    | true => cases hstart
    | false =>
      rw [← (Prod.mk.inj hstart).2]
      apply And.intro ⟨hstarting.counted, hstarting.noDangling, rfl, rfl⟩
      intro hroom
      rw [hstarting.handlers]
      simp [hroom, next_not_mem_handlers hcounted]

theorem keepsIf_rttRangeRequest (hcounted : info.Counted) (hnone : info.NoDangling) (id : ℤ)
    (handler : ℕ) (accepted : Bool) :
    (wifiRttRangeRequest info id handler accepted).2.KeepsIf
      (accepted = true ∨ info.CmdFull ∨ info.FreeId id ∧
        info.registersVendorHandler ⟨googleOui, rttEventComplete, none⟩ = false) := by
  apply keepsIf_startCommand hcounted hnone
  · intro hfull
    exact Or.inr (Or.inl hfull)
  · intro registered started hstarting hstart
    rw [← (Prod.mk.inj hstart).2]
    exact ⟨hstarting.registered.1, hstarting.registered.2, Or.inl (Prod.mk.inj hstart).1⟩
  · intro registered failed hstarting hstart
    rw [← (Prod.mk.inj hstart).2, (Prod.mk.inj hstart).1]
    apply And.intro ⟨hstarting.registered.1, hstarting.registered.2, rfl, rfl⟩
    intro hroom
    have hnew : info.next ∉ registered.handlers := by
      rw [hstarting.handlers]
      exact next_not_mem_handlers hcounted
    have hself := mem_handlers_register_self hstarting.counted.placed (.rttRequest handler) hnew
    rw [hstarting.registers] at hself
    change _ ∧ info.next ∉ (registered.registerVendorHandler
      (CommandKind.rttRequest handler).place info.next).handlers ↔ _
    rw [hself]
    simp [hroom, CommandKind.place]

theorem keepsIf_setSubsystemRestartHandler (hcounted : info.Counted) (hnone : info.NoDangling)
    (handler : ℕ) :
    (wifiSetSubsystemRestartHandler info handler).2.KeepsIf
      (info.registersVendorHandler ⟨ouiMediatek, mtkEventResetTriggered, none⟩ = true ∨
        info.CmdFull ∨ info.FreeId halSubsystemResetId) := by
  apply keepsIf_startCommand hcounted hnone
  · intro hfull
    exact Or.inr (Or.inl hfull)
  · intro registered started hstarting hstart
    unfold startSubsystemRestartHandler at hstart
    rw [hstarting.registers] at hstart
    split at hstart
    · rename_i hregisters
      rw [← (Prod.mk.inj hstart).2]
      exact ⟨hstarting.registered.1, hstarting.registered.2, Or.inl hregisters⟩
    · cases hstart
  · intro registered failed hstarting hstart
    unfold startSubsystemRestartHandler at hstart
    rw [hstarting.registers] at hstart
    split at hstart
    · cases hstart
    · rename_i hregisters
      have hunregister := handlers_unregister hstarting.counted.placed
        (.setSubsystemRestartHandler handler)
      rw [← (Prod.mk.inj hstart).2]
      apply And.intro
      · apply HalInfo.FailsTo.mk
        · exact counted_unregister hstarting.counted (.setSubsystemRestartHandler handler)
        · exact noDangling_unregister hstarting.counted hstarting.noDangling
            (.setSubsystemRestartHandler handler)
        · rfl
        · rfl
      · intro hroom
        have hout : info.next ∉ (registered.unregisterVendorHandler
            (CommandKind.setSubsystemRestartHandler handler).place).handlers := by
          rw [hunregister, hstarting.handlers]
          intro hmem
          exact next_not_mem_handlers hcounted (List.mem_of_mem_filter hmem)
        apply Iff.intro
        · intro hboth
          exact Or.inr (Or.inr hboth.1)
        · intro hany
          apply And.intro _ hout
          exact (hany.resolve_left hregisters).resolve_left hroom

end Starting

section Cancelling

variable {info : HalInfo}

/-- Before the last reference to a cancelled command is released. -/
structure HalInfo.Cancelled (info : HalInfo) (p : ℕ) (after : HalInfo) : Prop where
  counted : after.Counted
  noDangling : after.NoDangling
  refs : after.mRefs = info.mRefs
  commands : after.commands ⊆ info.commands

/-- A command in a handler table is out of it when its own place is unregistered. -/
theorem not_mem_unregister (hcounted : info.Counted) {p : ℕ} {kind : CommandKind}
    (hkind : info.placeOf p = kind.place) :
    p ∉ (info.unregisterVendorHandler kind.place).handlers := by
  rw [handlers_unregister hcounted.placed kind]
  intro hmem
  have hother := List.of_mem_filter hmem
  exact of_decide_eq_true hother hkind

theorem cancelled_unregister (hcounted : info.Counted) (hnone : info.NoDangling) (p : ℕ)
    (kind : CommandKind) : info.Cancelled p (info.unregisterVendorHandler kind.place) where
  counted := counted_unregister hcounted kind
  noDangling := noDangling_unregister hcounted hnone kind
  refs := rfl
  commands := List.Subset.refl _

/-- Cancelling takes the command out of the table of handlers, except for a ranging request whose
cancellation cannot be built. -/
theorem cancelled_cancel (hcounted : info.Counted) (hnone : info.NoDangling) (p : ℕ)
    (built : Bool) :
    info.Cancelled p (cancel info p built) ∧
      (p ∉ (cancel info p built).handlers ↔
        (p ∈ info.handlers → ∀ handler, (info.command p).kind = .rttRequest handler →
          built = true)) := by
  have hout {kind : CommandKind} (hkind : (info.command p).kind = kind) :=
    not_mem_unregister hcounted (p := p) (congrArg CommandKind.place hkind)
  unfold cancel
  cases hkind : (info.command p).kind with
  | setRSSIMonitor iface handler =>
    apply And.intro
    · exact cancelled_unregister hcounted hnone p (.setRSSIMonitor iface handler)
    · apply iff_of_true (hout hkind)
      intro _ other hother
      cases hother
  | rttRequest handler =>
    dsimp only
    cases built with
    | true =>
      rw [if_pos rfl]
      apply And.intro
      · exact cancelled_unregister hcounted hnone p (.rttRequest handler)
      · exact iff_of_true (hout hkind) fun _ _ _ ↦ rfl
    | false =>
      rw [if_neg Bool.false_ne_true]
      apply And.intro ⟨hcounted, hnone, rfl, List.Subset.refl _⟩
      apply Iff.intro
      · intro hnot hmem
        exact absurd hmem hnot
      · intro hbuilt hmem
        cases hbuilt hmem handler rfl
  | setSubsystemRestartHandler handler =>
    let kind := CommandKind.setSubsystemRestartHandler handler
    have hunregistered := cancelled_unregister hcounted hnone p kind
    have htaken := taken_of_unregisterCmd hunregistered.counted hunregistered.noDangling
      (info.command p).mId
    apply And.intro
    · apply HalInfo.Cancelled.mk htaken.counted htaken.noDangling
      · exact htaken.mRefs
      · intro q hq
        exact ((htaken.mem_iff q).mp hq).1
    · apply iff_of_true
      · intro hmem
        apply hout hkind
        rw [← htaken.handlers]
        exact hmem
      · intro _ other hother
        cases hother

theorem keepsIf_cancelCmd (hcounted : info.Counted) (hnone : info.NoDangling) (id : ℤ)
    (built : Bool) : (wifiCancelCmd info id built).2.KeepsIf (info.Cancellable id built) := by
  have htaken := taken_of_unregisterCmd hcounted hnone id
  revert htaken
  unfold wifiCancelCmd HalInfo.Cancellable
  generalize info.wifiUnregisterCmd id = taken
  intro htaken
  cases htake : taken.1 with
  | none =>
    have hpair : taken = (none, taken.2) := by
      rw [← htake]
    rw [htaken.get, htake]
    rw [hpair]
    apply keepsIf_of_kept htaken.counted htaken.noDangling
    intro p hp
    cases hp
  | some p =>
    have hpair : taken = (some p, taken.2) := by
      rw [← htake]
    have hp := htaken.mem p htake
    have hcancel := cancelled_cancel htaken.counted htaken.noDangling p built
    have hrefs : 0 < (cancel taken.2 p built).mRefs p := by
      rw [hcancel.1.refs, htaken.mRefs]
      exact hnone.1 p hp.1
    have hout : p ∉ (cancel taken.2 p built).commands := by
      intro hmem
      exact ((htaken.mem_iff p).mp (hcancel.1.commands hmem)).2 htake
    have hhandlers := htaken.handlers
    have hcommand := htaken.command
    rw [htaken.get, htake]
    rw [hpair]
    apply HalInfo.KeepsIf.mk
    · exact counted_releaseRef hcancel.1.counted p
    · change ((cancel taken.2 p built).releaseRef p).NoDangling ↔ _
      rw [noDangling_releaseRef_iff hcancel.1.counted hcancel.1.noDangling hrefs,
        and_iff_right hout, hcancel.2, hhandlers, hcommand]
      apply Iff.intro
      · intro hbuilt q hq
        rw [← Option.some.inj hq]
        exact hbuilt
      · intro hbuilt
        exact hbuilt p rfl

theorem keepsIf_stopRssiMonitoring (hcounted : info.Counted) (hnone : info.NoDangling) (id : ℤ)
    (iface : Interface) (built : Bool) :
    (wifiStopRssiMonitoring info id iface built).2.KeepsIf
      (id = -1 ∨ info.Cancellable id built) := by
  unfold wifiStopRssiMonitoring
  by_cases hall : id = -1
  · rw [if_pos hall]
    let c : WifiCommand := ⟨id, .setRSSIMonitor iface none⟩
    have hnew := counted_newCommand hcounted c
    have hkept := noDangling_newCommand hcounted hnone c
    have hcancel := cancelled_cancel hnew hkept info.next built
    have hkind : (info.newCommand c).command info.next = c := Function.update_self _ _ _
    have hrefs : 0 < (cancel (info.newCommand c) info.next built).mRefs info.next := by
      rw [hcancel.1.refs]
      change 0 < Function.update info.mRefs info.next 1 info.next
      rw [Function.update_self]
      decide
    apply HalInfo.KeepsIf.mk
    · exact counted_releaseRef hcancel.1.counted info.next
    · change ((cancel (info.newCommand c) info.next built).releaseRef info.next).NoDangling ↔ _
      rw [noDangling_releaseRef_iff hcancel.1.counted hcancel.1.noDangling hrefs, hcancel.2]
      apply iff_of_true _ (Or.inl hall)
      apply And.intro
      · intro hmem
        exact Nat.lt_irrefl _ (hcounted.commandsAllocated _ (hcancel.1.commands hmem))
      · intro hmem
        exact absurd hmem (next_not_mem_handlers hcounted)
  · rw [if_neg hall]
    have hkeeps := keepsIf_cancelCmd hcounted hnone id built
    exact hkeeps.congr (or_iff_right hall).symm

end Cancelling

section Completion

variable {info : HalInfo}

theorem addRef_releaseRef (p : ℕ) : (info.addRef p).releaseRef p = info := by
  have hrefs : (info.addRef p).mRefs p - 1 = info.mRefs p := by
    change Function.update info.mRefs p (info.mRefs p + 1) p - 1 = _
    rw [Function.update_self]
    omega
  unfold HalInfo.releaseRef
  rw [hrefs]
  unfold HalInfo.addRef
  dsimp only
  rw [Function.update_idem, Function.update_eq_self]

theorem releaseRef_between (p q : ℕ) :
    ((info.addRef p).releaseRef q).releaseRef p = info.releaseRef q := by
  have hrefs : (((info.addRef p).releaseRef q).releaseRef p).mRefs = (info.releaseRef q).mRefs := by
    funext r
    simp only [HalInfo.addRef, HalInfo.releaseRef, Function.update_apply]
    by_cases hrp : r = p <;> by_cases hrq : r = q <;> by_cases hpq : p = q <;> simp_all
  have hrest (refs : ℕ → ℤ) (heq : refs = (info.releaseRef q).mRefs) :
      { info with mRefs := refs } = info.releaseRef q := by
    rw [heq]
    rfl
  exact hrest _ hrefs

theorem unregisterCmd_addRef (info : HalInfo) (p : ℕ) (id : ℤ) :
    (info.addRef p).wifiUnregisterCmd id =
      ((info.wifiUnregisterCmd id).1, (info.wifiUnregisterCmd id).2.addRef p) := by
  unfold HalInfo.wifiUnregisterCmd HalInfo.addRef
  dsimp only
  cases info.cmd.find fun entry ↦ entry.id = id <;> rfl

/-- The reference held by the event does not outlast it. -/
theorem rttCompletionEvent_state {p : ℕ} {handler : ℕ}
    (hfind : findHandler info googleOui rttEventComplete = some p)
    (hkind : (info.command p).kind = .rttRequest handler) {vendor_data : List UInt8}
    (hdata : vendor_data ≠ []) :
    rttCompletionEvent info vendor_data =
      match (info.unregisterVendorHandler (CommandKind.rttRequest handler).place).wifiUnregisterCmd
          (info.command p).mId with
      | (some q, unregistered) =>
          (unregistered.releaseRef q, [⟨handler, (info.command p).mId, vendor_data⟩])
      | (none, unregistered) =>
          (unregistered, [⟨handler, (info.command p).mId, vendor_data⟩]) := by
  have hkind' : ((info.addRef p).command p).kind = .rttRequest handler := hkind
  unfold rttCompletionEvent rttHandleEvent
  rw [hfind]
  dsimp only
  rw [hkind']
  dsimp only
  rw [if_neg hdata]
  generalize htaken : (info.unregisterVendorHandler
    (CommandKind.rttRequest handler).place).wifiUnregisterCmd (info.command p).mId = taken
  have hcmd : ((info.addRef p).unregisterVendorHandler
      ⟨googleOui, rttEventComplete, none⟩).wifiUnregisterCmd ((info.addRef p).command p).mId =
        (taken.1, taken.2.addRef p) := by
    rw [← htaken]
    let unregistered := info.unregisterVendorHandler (CommandKind.rttRequest handler).place
    exact unregisterCmd_addRef unregistered p (info.command p).mId
  rw [hcmd]
  match taken with
  | (none, unregistered) =>
    dsimp only
    rw [addRef_releaseRef]
    rfl
  | (some q, unregistered) =>
    dsimp only
    rw [releaseRef_between]
    rfl

theorem kind_of_place {kind : CommandKind} (hvendor : kind.place.vendor_id = googleOui)
    (hsubcmd : kind.place.subcmd = rttEventComplete) : ∃ handler, kind = .rttRequest handler := by
  cases kind with
  | setRSSIMonitor iface handler => cases hsubcmd
  | rttRequest handler => exact ⟨handler, rfl⟩
  | setSubsystemRestartHandler handler => cases hvendor

/-- After the handler is unregistered only other commands are left in the table of handlers. -/
theorem mem_unregistered_iff (hcounted : info.Counted) {p : ℕ} {kind : CommandKind}
    (hp : p ∈ info.handlers) (hplace : info.placeOf p = kind.place) (q : ℕ) :
    q ∉ (info.unregisterVendorHandler kind.place).handlers ↔ q = p ∨ q ∉ info.handlers := by
  rw [handlers_unregister hcounted.placed kind]
  apply Iff.intro
  · intro hnot
    by_cases hq : q ∈ info.handlers
    · apply Or.inl
      apply handler_unique hcounted.placed hq hp
      rw [hplace]
      by_contra hother
      exact hnot (List.mem_filter.mpr ⟨hq, decide_eq_true hother⟩)
    · exact Or.inr hq
  · intro hor hmem
    have hfilter := List.mem_filter.mp hmem
    rcases hor with hsame | hout
    · apply of_decide_eq_true hfilter.2
      rw [hsame, hplace]
    · exact hout hfilter.1

theorem keepsIf_rttCompletion (hcounted : info.Counted) (hnone : info.NoDangling)
    (vendor_data : List UInt8) :
    (rttCompletionEvent info vendor_data).1.KeepsIf
      (∀ p, findHandler info googleOui rttEventComplete = some p → vendor_data ≠ [] →
        ∀ q, info.wifiGetCmd (info.command p).mId = some q → q = p ∨ q ∉ info.handlers) := by
  cases hfind : findHandler info googleOui rttEventComplete with
  | none =>
    have hsame : (rttCompletionEvent info vendor_data).1 = info := by
      unfold rttCompletionEvent
      rw [hfind]
    rw [hsame]
    apply keepsIf_of_kept hcounted hnone
    intro p hp
    cases hp
  | some p =>
    have hplace := place_of_findHandler hcounted.placed hfind
    obtain ⟨handler, hkind⟩ := kind_of_place hplace.2.1 hplace.2.2
    by_cases hdata : vendor_data = []
    · have hsame : (rttCompletionEvent info vendor_data).1 = info := by
        unfold rttCompletionEvent rttHandleEvent
        rw [hfind]
        have hkind' : ((info.addRef p).command p).kind = .rttRequest handler := hkind
        dsimp only
        rw [hkind', hdata]
        exact addRef_releaseRef p
      rw [hsame]
      apply keepsIf_of_kept hcounted hnone
      intro _ _ hnot
      exact absurd hdata hnot
    · rw [rttCompletionEvent_state hfind hkind hdata]
      have hcounted' := counted_unregister hcounted (.rttRequest handler)
      have hnone' := noDangling_unregister hcounted hnone (.rttRequest handler)
      have htaken := taken_of_unregisterCmd hcounted' hnone' (info.command p).mId
      have hget : (info.unregisterVendorHandler
          (CommandKind.rttRequest handler).place).wifiGetCmd (info.command p).mId =
            info.wifiGetCmd (info.command p).mId := rfl
      have hmem := mem_unregistered_iff hcounted hplace.1 (congrArg CommandKind.place hkind)
      revert htaken
      generalize (info.unregisterVendorHandler
        (CommandKind.rttRequest handler).place).wifiUnregisterCmd (info.command p).mId = taken
      intro htaken
      have hgot := hget.symm.trans htaken.get
      match taken with
      | (none, unregistered) =>
        apply keepsIf_of_kept htaken.counted htaken.noDangling
        intro r hr _ q hq
        rw [← Option.some.inj hr, hgot] at hq
        cases hq
      | (some q, unregistered) =>
        have hq := htaken.mem q rfl
        have hmRefs : unregistered.mRefs = info.mRefs := htaken.mRefs
        have hrefs : 0 < unregistered.mRefs q := by
          rw [hmRefs]
          exact hnone.1 q hq.1
        have hhandlers : unregistered.handlers = _ := htaken.handlers
        have hout : q ∉ unregistered.commands := fun hin ↦ ((htaken.mem_iff q).mp hin).2 rfl
        apply HalInfo.KeepsIf.mk
        · exact counted_releaseRef htaken.counted q
        · change (unregistered.releaseRef q).NoDangling ↔ _
          rw [noDangling_releaseRef_iff htaken.counted htaken.noDangling hrefs,
            and_iff_right hout, hhandlers, hmem q]
          apply Iff.intro
          · intro hor r hr _ s hs
            rw [← Option.some.inj hr, hgot] at hs
            rw [← Option.some.inj hr, ← Option.some.inj hs]
            exact hor
          · intro hall
            exact hall p rfl hdata q hgot

end Completion

section Runs

/-- What each call keeps, and when it leaves nothing dangling. -/
theorem keepsIf_apply {info : HalInfo} (hcounted : info.Counted) (hnone : info.NoDangling)
    (call : HalCall) : (call.apply info).KeepsIf (call.KeepsNone info) := by
  cases call with
  | startRssiMonitoring id iface eh accepted =>
    exact keepsIf_startRssiMonitoring hcounted hnone id iface eh accepted
  | stopRssiMonitoring id iface built =>
    exact keepsIf_stopRssiMonitoring hcounted hnone id iface built
  | setSubsystemRestartHandler handler =>
    exact keepsIf_setSubsystemRestartHandler hcounted hnone handler
  | rttRangeRequest id handler accepted =>
    exact keepsIf_rttRangeRequest hcounted hnone id handler accepted
  | rttCompletion vendor_data => exact keepsIf_rttCompletion hcounted hnone vendor_data
  | cancelCmd id built => exact keepsIf_cancelCmd hcounted hnone id built

/-- The tables after any calls, from tables that are allocated and empty. -/
def runHalCalls (event_cb : ℕ → CbInfo ℕ) (cmd : ℕ → CmdInfo) (command : ℕ → WifiCommand)
    (calls : List HalCall) : HalInfo :=
  calls.foldl HalCall.apply (HalInfo.initial event_cb cmd command)

variable (event_cb : ℕ → CbInfo ℕ) (cmd : ℕ → CmdInfo) (command : ℕ → WifiCommand)

theorem runHalCalls_concat (calls : List HalCall) (call : HalCall) :
    runHalCalls event_cb cmd command (calls ++ [call]) =
      call.apply (runHalCalls event_cb cmd command calls) := by
  unfold runHalCalls
  rw [List.foldl_concat]

theorem noDangling_initial : (HalInfo.initial event_cb cmd command).NoDangling :=
  ⟨fun _ hp ↦ absurd hp (by simp [HalInfo.initial, HalInfo.commands]),
    fun _ hp ↦ absurd hp (by simp [HalInfo.initial, HalInfo.handlers])⟩

theorem counted_initial : (HalInfo.initial event_cb cmd command).Counted := by
  have hhandlers : (HalInfo.initial event_cb cmd command).handlers = [] := rfl
  have hcommands : (HalInfo.initial event_cb cmd command).commands = [] := rfl
  apply HalInfo.Counted.mk
  · apply HalInfo.WellPlaced.mk
    · intro cbi hmem
      cases hmem
    · rw [hhandlers]
      exact List.nodup_nil
  · intro p hp
    rw [hhandlers] at hp
    cases hp
  · intro p hp
    rw [hcommands] at hp
    cases hp
  · rw [hcommands]
    exact List.nodup_nil
  · intro entry hentry
    cases hentry
  · intro p hp
    cases hp

/-- In a run whose states leave nothing dangling so far, the tables and the counts are in order. -/
theorem counted_run {calls : List HalCall}
    (hkept : EachAfter (fun before call ↦
      (runHalCalls event_cb cmd command (before ++ [call])).NoDangling) calls) :
    (runHalCalls event_cb cmd command calls).Counted ∧
      (runHalCalls event_cb cmd command calls).NoDangling := by
  let inv (_ : List HalCall) (info : HalInfo) : Prop := info.Counted ∧ info.NoDangling
  apply foldl_keeps inv _ _ hkept
  · exact ⟨counted_initial event_cb cmd command, noDangling_initial event_cb cmd command⟩
  · intro before call hinv hnone
    rw [runHalCalls_concat] at hnone
    exact ⟨(keepsIf_apply hinv.1 hinv.2 call).counted, hnone⟩

/-- No state of a run has a deleted command in a table exactly when each call, in the state it finds,
keeps the references to what it deletes. -/
theorem noDangling_run_iff (calls : List HalCall) :
    EachAfter (fun before call ↦
        (runHalCalls event_cb cmd command (before ++ [call])).NoDangling) calls ↔
      EachAfter (fun before call ↦
        call.KeepsNone (runHalCalls event_cb cmd command before)) calls := by
  apply eachAfter_congr
  intro before call after hcalls hkept horder
  have hinv := counted_run event_cb cmd command hkept
  rw [runHalCalls_concat]
  exact (keepsIf_apply hinv.1 hinv.2 call).iff

def unusedCmd : CmdInfo := ⟨0, 0⟩

def unusedCommand : WifiCommand := ⟨0, .rttRequest 0⟩

/-- A ranging request that the driver refuses stays behind as the argument of its handler. -/
theorem refusedRttRequest_dangles :
    ¬ EachAfter (fun before call ↦
        (runHalCalls (fun _ ↦ unusedSlot) (fun _ ↦ unusedCmd) (fun _ ↦ unusedCommand)
          (before ++ [call])).NoDangling) [.rttRangeRequest 7 1 false] := by
  intro hkept
  have hnone := (hkept [] _ [] rfl).2 0
  exact absurd (hnone (by decide)) (by decide)

end Runs

end HardwareMediatek.Wifi
