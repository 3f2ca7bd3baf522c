import HardwareMediatek.Foundation.SlotArray
import Mathlib.Data.Int.Notation
import Mathlib.Data.List.Nodup

/-!
# The table of event handlers

Four operations share one array of entries. Plain handlers are registered for a command, vendor
handlers for a vendor, a subcommand and possibly an interface. An interface name is the bytes before
its terminator, of which a slot has room for eight. A callback stands for the function and its
argument.
-/

namespace HardwareMediatek.Wifi

open Foundation

section Entries

variable {α : Type}

def maxIfacenameLen : ℕ := 8
def nl80211CmdVendor : ℤ := 103

abbrev IfaceName := List UInt8

structure CbInfo (α : Type) where
  nl_cmd : ℤ
  vendor_id : UInt32
  vendor_subcmd : ℤ
  callback : α
  ifname : IfaceName

abbrev HandlerTable (α : Type) := SlotArray (CbInfo α)

structure HandlerKey where
  nl_cmd : ℤ
  vendor_id : UInt32
  vendor_subcmd : ℤ
  ifname : IfaceName
  deriving DecidableEq, Repr

def CbInfo.key (cbi : CbInfo α) : HandlerKey where
  nl_cmd := cbi.nl_cmd
  vendor_id := cbi.vendor_id
  vendor_subcmd := cbi.vendor_subcmd
  ifname := cbi.ifname.take maxIfacenameLen

/-- Vendor and subcommand are not both those of a plain handler. -/
def CbInfo.ofVendor (cbi : CbInfo α) : Bool := cbi.vendor_id ≠ 0 ∨ cbi.vendor_subcmd ≠ 0

/-- `ifname == nullptr || 0 == strncmp(cbi->ifname, ifname, sizeof(cbi->ifname) - 1)` -/
def CbInfo.hasIfname (cbi : CbInfo α) : Option IfaceName → Bool
  | none => true
  | some ifname => cbi.ifname.take maxIfacenameLen = ifname.take maxIfacenameLen

end Entries

section Operations

variable {α : Type} (table : HandlerTable α)

def wifiRegisterHandler (cmd : ℤ) (callback : α) : HandlerTable α :=
  if hroom : table.count < table.capacity then
    table.push
      { table.slots table.count with
        nl_cmd := cmd
        vendor_id := 0
        vendor_subcmd := 0
        callback := callback }
      hroom
  else table

def wifiRegisterVendorHandler (id : UInt32) (subcmd : ℤ) (callback : α) (ifname : Option IfaceName) :
    HandlerTable α :=
  match table.find fun cbi ↦
      cbi.vendor_id = id ∧ cbi.vendor_subcmd = subcmd ∧ cbi.hasIfname ifname with
  | some i => table.modify i fun cbi ↦ { cbi with callback := callback }
  | none =>
      if hroom : table.count < table.capacity then
        table.push ⟨nl80211CmdVendor, id, subcmd, callback, (ifname.getD []).take maxIfacenameLen⟩
          hroom
      else table

def wifiUnregisterHandler (cmd : ℤ) : HandlerTable α :=
  if cmd = nl80211CmdVendor then table
  else
    match table.find fun cbi ↦ cbi.nl_cmd = cmd with
    | some i => table.removeAt i
    | none => table

def wifiUnregisterVendorHandler (id : UInt32) (subcmd : ℤ) (ifname : Option IfaceName) :
    HandlerTable α :=
  match table.find fun cbi ↦ cbi.nl_cmd = nl80211CmdVendor ∧ cbi.vendor_id = id ∧
      cbi.vendor_subcmd = subcmd ∧ cbi.hasIfname ifname with
  | some i => table.removeAt i
  | none => table

/-- A call of one of the four. -/
inductive HandlerOp (α : Type) where
  | register (cmd : ℤ) (callback : α)
  | registerVendor (id : UInt32) (subcmd : ℤ) (callback : α) (ifname : Option IfaceName)
  | unregister (cmd : ℤ)
  | unregisterVendor (id : UInt32) (subcmd : ℤ) (ifname : Option IfaceName)

def HandlerOp.apply : HandlerOp α → HandlerTable α
  | .register cmd callback => wifiRegisterHandler table cmd callback
  | .registerVendor id subcmd callback ifname =>
      wifiRegisterVendorHandler table id subcmd callback ifname
  | .unregister cmd => wifiUnregisterHandler table cmd
  | .unregisterVendor id subcmd ifname => wifiUnregisterVendorHandler table id subcmd ifname

def runHandlerOps (ops : List (HandlerOp α)) : HandlerTable α :=
  ops.foldl (fun table op ↦ op.apply table) table

/-- The key that an operation names, where no interface is the empty name. -/
def HandlerOp.key : HandlerOp α → HandlerKey
  | .register cmd _ => ⟨cmd, 0, 0, []⟩
  | .registerVendor id subcmd _ ifname =>
      ⟨nl80211CmdVendor, id, subcmd, (ifname.getD []).take maxIfacenameLen⟩
  | .unregister cmd => ⟨cmd, 0, 0, []⟩
  | .unregisterVendor id subcmd ifname =>
      ⟨nl80211CmdVendor, id, subcmd, (ifname.getD []).take maxIfacenameLen⟩

/-- The callback of a registration. -/
def HandlerOp.callback? : HandlerOp α → Option α
  | .register _ callback | .registerVendor _ _ callback _ => some callback
  | .unregister _ | .unregisterVendor _ _ _ => none

/-- The entries that an operation may change or remove, of which it takes the first. -/
def HandlerOp.selects : HandlerOp α → CbInfo α → Bool
  | .register _ _, _ => false
  | .registerVendor id subcmd _ ifname, cbi =>
      cbi.vendor_id = id ∧ cbi.vendor_subcmd = subcmd ∧ cbi.hasIfname ifname
  | .unregister cmd, cbi => cmd ≠ nl80211CmdVendor ∧ cbi.nl_cmd = cmd
  | .unregisterVendor id subcmd ifname, cbi =>
      cbi.nl_cmd = nl80211CmdVendor ∧ cbi.vendor_id = id ∧ cbi.vendor_subcmd = subcmd ∧
        cbi.hasIfname ifname

end Operations

section Effects

variable {α : Type} {table : HandlerTable α} (op : HandlerOp α)

/-- What an operation does to the entries. If it selects none, a registration adds one behind them if there
is room, and an unregistration does nothing. Otherwise it takes the first that it selects, and a
registration changes its callback, an unregistration removes it. -/
inductive HandlerOp.Effect (op : HandlerOp α) (room : Prop) (items : List (CbInfo α)) :
    List (CbInfo α) → Prop where
  | full {callback : α} (hcallback : op.callback? = some callback)
      (hnone : ∀ entry ∈ items, op.selects entry = false) (hroom : ¬ room) : Effect op room items items
  | absent (hcallback : op.callback? = none) (hnone : ∀ entry ∈ items, op.selects entry = false) :
      Effect op room items items
  | added (cbi : CbInfo α) (hcallback : op.callback? = some cbi.callback)
      (hnone : ∀ entry ∈ items, op.selects entry = false) (hroom : room)
      (hname : cbi.nl_cmd = op.key.nl_cmd ∧ cbi.vendor_id = op.key.vendor_id ∧
        cbi.vendor_subcmd = op.key.vendor_subcmd)
      (hifname : cbi.ofVendor → cbi.key = op.key) :
      Effect op room items (items ++ [cbi])
  | changed {before after : List (CbInfo α)} {cbi : CbInfo α} {callback : α}
      (hcallback : op.callback? = some callback) (hitems : items = before ++ cbi :: after)
      (hselects : op.selects cbi = true) (hfirst : ∀ entry ∈ before, op.selects entry = false) :
      Effect op room items (before ++ { cbi with callback := callback } :: after)
  | removed {before after : List (CbInfo α)} {cbi : CbInfo α} (hcallback : op.callback? = none)
      (hitems : items = before ++ cbi :: after) (hselects : op.selects cbi = true)
      (hfirst : ∀ entry ∈ before, op.selects entry = false) :
      Effect op room items (before ++ after)

theorem HandlerOp.Effect.of_found {p : CbInfo α → Bool} {i : ℕ} {op : HandlerOp α} {room : Prop}
    (hfind : table.find p = some i) (hselects : op.selects = p) :
    (op.callback? = none → op.Effect room table.items (table.removeAt i).items) ∧
      ∀ callback, op.callback? = some callback → op.Effect room table.items
        (table.modify i fun cbi ↦ { cbi with callback := callback }).items := by
  obtain ⟨before, after, hfound⟩ := table.foundAt_of_find hfind
  have hholds := hfound.holds
  have hfirst := hfound.notBefore
  rw [← hselects] at hholds hfirst
  apply And.intro
  · intro hcallback
    rw [hfound.removed]
    exact .removed hcallback hfound.items hholds hfirst
  · intro callback hcallback
    rw [hfound.modified]
    exact .changed hcallback hfound.items hholds hfirst

theorem HandlerOp.apply_effect :
    op.Effect (table.count < table.capacity) table.items (op.apply table).items := by
  cases op with
  | register cmd callback =>
    change Effect _ _ _ (wifiRegisterHandler table cmd callback).items
    unfold wifiRegisterHandler
    by_cases hroom : table.count < table.capacity
    · rw [dif_pos hroom, SlotArray.items_push]
      apply HandlerOp.Effect.added _ rfl (fun _ _ ↦ rfl) hroom
      · exact ⟨rfl, rfl, rfl⟩
      · intro hvendor
        exact absurd hvendor (by simp [CbInfo.ofVendor])
    · rw [dif_neg hroom]
      exact .full rfl (fun _ _ ↦ rfl) hroom
  | registerVendor id subcmd callback ifname =>
    change Effect _ _ _ (wifiRegisterVendorHandler table id subcmd callback ifname).items
    unfold wifiRegisterVendorHandler
    split
    · rename_i i hfind
      exact (HandlerOp.Effect.of_found hfind rfl).2 callback rfl
    · rename_i hfind
      have hnone := (table.find_eq_none_iff _).mp hfind
      by_cases hroom : table.count < table.capacity
      · rw [dif_pos hroom, SlotArray.items_push]
        apply HandlerOp.Effect.added _ rfl hnone hroom
        · exact ⟨rfl, rfl, rfl⟩
        · intro _
          unfold CbInfo.key HandlerOp.key
          rw [List.take_take, Nat.min_self]
      · rw [dif_neg hroom]
        exact .full rfl hnone hroom
  | unregister cmd =>
    change Effect _ _ _ (wifiUnregisterHandler table cmd).items
    unfold wifiUnregisterHandler
    by_cases hvendor : cmd = nl80211CmdVendor
    · rw [if_pos hvendor]
      apply HandlerOp.Effect.absent rfl
      intro entry _
      simp [HandlerOp.selects, hvendor]
    · have hselects : (HandlerOp.unregister cmd : HandlerOp α).selects =
          fun cbi : CbInfo α ↦ decide (cbi.nl_cmd = cmd) := by
        funext cbi
        simp [HandlerOp.selects, hvendor]
      rw [if_neg hvendor]
      split
      · rename_i i hfind
        exact (HandlerOp.Effect.of_found hfind hselects).1 rfl
      · rename_i hfind
        apply HandlerOp.Effect.absent rfl
        rw [hselects]
        exact (table.find_eq_none_iff _).mp hfind
  | unregisterVendor id subcmd ifname =>
    change Effect _ _ _ (wifiUnregisterVendorHandler table id subcmd ifname).items
    unfold wifiUnregisterVendorHandler
    split
    · rename_i i hfind
      exact (HandlerOp.Effect.of_found hfind rfl).1 rfl
    · rename_i hfind
      exact .absent rfl ((table.find_eq_none_iff _).mp hfind)

end Effects

section Integrity

variable {α : Type}

/-- Vendor entries have the vendor command and keys of their own. -/
structure VendorKeys (items : List (CbInfo α)) : Prop where
  nl_cmd : ∀ cbi ∈ items, cbi.ofVendor = true → cbi.nl_cmd = nl80211CmdVendor
  distinct : ((items.filter CbInfo.ofVendor).map CbInfo.key).Nodup

theorem vendorKeys_sublist {items kept : List (CbInfo α)} (hkeys : VendorKeys items)
    (hsub : kept.Sublist items) : VendorKeys kept where
  nl_cmd cbi hmem := hkeys.nl_cmd cbi (hsub.subset hmem)
  distinct := hkeys.distinct.sublist ((hsub.filter _).map _)

/-- The callback is not part of the key. -/
theorem vendorKeys_callback {before after : List (CbInfo α)} {cbi : CbInfo α} (callback : α)
    (hkeys : VendorKeys (before ++ cbi :: after)) :
    VendorKeys (before ++ { cbi with callback := callback } :: after) where
  nl_cmd entry hmem := by
    rcases List.mem_append.mp hmem with hbefore | hrest
    · exact hkeys.nl_cmd entry (List.mem_append_left _ hbefore)
    · rcases List.mem_cons.mp hrest with hsame | hafter
      · rw [hsame]
        exact hkeys.nl_cmd cbi List.mem_append_cons_self
      · exact hkeys.nl_cmd entry (List.mem_append_right _ (List.mem_cons_of_mem _ hafter))
  distinct := by
    have hdistinct := hkeys.distinct
    rw [List.filter_append, List.filter_cons] at hdistinct ⊢
    have hvendor : ({ cbi with callback := callback } : CbInfo α).ofVendor = cbi.ofVendor := rfl
    rw [hvendor]
    split_ifs with hof
    · rw [if_pos hof, List.map_append, List.map_cons] at hdistinct
      rw [List.map_append, List.map_cons]
      exact hdistinct
    · rw [if_neg hof] at hdistinct
      exact hdistinct

/-- A vendor entry with the key of an operation is one that the operation selects. -/
theorem selects_of_key {op : HandlerOp α} {cbi : CbInfo α} (hvendor : cbi.ofVendor = true)
    (hcmd : cbi.nl_cmd = nl80211CmdVendor) (hkey : cbi.key = op.key) : op.selects cbi = true := by
  have hid : cbi.vendor_id = op.key.vendor_id := congrArg HandlerKey.vendor_id hkey
  have hsubcmd : cbi.vendor_subcmd = op.key.vendor_subcmd := congrArg HandlerKey.vendor_subcmd hkey
  have hifname : cbi.ifname.take maxIfacenameLen = op.key.ifname := congrArg HandlerKey.ifname hkey
  have hzero (hids : op.key.vendor_id = 0 ∧ op.key.vendor_subcmd = 0) : False := by
    have hnonzero := of_decide_eq_true hvendor
    rw [hid, hsubcmd] at hnonzero
    exact Or.elim hnonzero (absurd hids.1) (absurd hids.2)
  have hname (ifname : Option IfaceName)
      (hfield : op.key.ifname = (ifname.getD []).take maxIfacenameLen) :
      cbi.hasIfname ifname = true := by
    cases ifname with
    | none => rfl
    | some name => exact decide_eq_true (hifname.trans hfield)
  cases op with
  | register cmd callback => exact absurd ⟨rfl, rfl⟩ hzero
  | unregister cmd => exact absurd ⟨rfl, rfl⟩ hzero
  | registerVendor id subcmd callback ifname =>
    exact decide_eq_true ⟨hid, hsubcmd, hname ifname rfl⟩
  | unregisterVendor id subcmd ifname =>
    exact decide_eq_true ⟨hcmd, hid, hsubcmd, hname ifname rfl⟩

theorem key_nl_cmd_of_vendor {op : HandlerOp α}
    (hids : op.key.vendor_id ≠ 0 ∨ op.key.vendor_subcmd ≠ 0) : op.key.nl_cmd = nl80211CmdVendor := by
  cases op with
  | register cmd callback => exact absurd hids (by simp [HandlerOp.key])
  | unregister cmd => exact absurd hids (by simp [HandlerOp.key])
  | registerVendor id subcmd callback ifname => rfl
  | unregisterVendor id subcmd ifname => rfl

/-- What is added as a vendor entry has a key that no entry had. -/
theorem vendorKeys_added {op : HandlerOp α} {items : List (CbInfo α)} {cbi : CbInfo α}
    (hkeys : VendorKeys items) (hnone : ∀ entry ∈ items, op.selects entry = false)
    (hname : cbi.nl_cmd = op.key.nl_cmd ∧ cbi.vendor_id = op.key.vendor_id ∧
      cbi.vendor_subcmd = op.key.vendor_subcmd)
    (hifname : cbi.ofVendor → cbi.key = op.key) : VendorKeys (items ++ [cbi]) where
  nl_cmd entry hmem hvendor := by
    rcases List.mem_append.mp hmem with hbefore | hlast
    · exact hkeys.nl_cmd entry hbefore hvendor
    · have hids := of_decide_eq_true hvendor
      rw [List.mem_singleton.mp hlast] at hids ⊢
      rw [hname.2.1, hname.2.2] at hids
      rw [hname.1]
      exact key_nl_cmd_of_vendor hids
  distinct := by
    rw [List.filter_append, List.map_append]
    by_cases hvendor : cbi.ofVendor = true
    · rw [List.filter_singleton, hvendor]
      apply List.nodup_append.mpr
      apply And.intro hkeys.distinct
      apply And.intro (List.nodup_singleton _)
      intro key hkey last hlast hsame
      obtain ⟨entry, hentry⟩ := List.mem_map.mp hkey
      have hmem := List.mem_filter.mp hentry.1
      have hop : entry.key = op.key := by
        rw [hentry.2, hsame, List.mem_singleton.mp hlast]
        exact hifname hvendor
      have hselects := selects_of_key hmem.2 (hkeys.nl_cmd entry hmem.1 hmem.2) hop
      rw [hnone entry hmem.1] at hselects
      cases hselects
    · rw [List.filter_singleton, Bool.eq_false_iff.mpr hvendor]
      rw [cond_false, List.map_nil, List.append_nil]
      exact hkeys.distinct

theorem vendorKeys_effect {op : HandlerOp α} {room : Prop} {items result : List (CbInfo α)}
    (hkeys : VendorKeys items) (heffect : op.Effect room items result) : VendorKeys result := by
  cases heffect with
  | full => exact hkeys
  | absent => exact hkeys
  | added cbi hcallback hnone hroom hname hifname => exact vendorKeys_added hkeys hnone hname hifname
  | changed hcallback hitems hselects hfirst =>
    rw [hitems] at hkeys
    exact vendorKeys_callback _ hkeys
  | removed hcallback hitems hselects hfirst =>
    rw [hitems] at hkeys
    apply vendorKeys_sublist hkeys
    exact (List.sublist_cons_self _ _).append_left _

theorem vendorKeys_run (slots : ℕ → CbInfo α) (capacity : ℕ) (ops : List (HandlerOp α)) :
    VendorKeys (runHandlerOps (SlotArray.empty slots capacity) ops).items := by
  have hempty : VendorKeys (SlotArray.empty slots capacity).items :=
    ⟨fun cbi hmem ↦ absurd hmem List.not_mem_nil, List.nodup_nil⟩
  unfold runHandlerOps
  generalize SlotArray.empty slots capacity = table at hempty ⊢
  induction ops generalizing table with
  | nil => exact hempty
  | cons op ops ih => exact ih (op.apply table) (vendorKeys_effect hempty (op.apply_effect))

/-- The operation names an interface and a vendor or subcommand that plain handlers do not have. -/
def HandlerOp.NamesOne : HandlerOp α → Prop
  | .registerVendor id subcmd _ ifname => ifname ≠ none ∧ (id ≠ 0 ∨ subcmd ≠ 0)
  | .unregisterVendor id subcmd ifname => ifname ≠ none ∧ (id ≠ 0 ∨ subcmd ≠ 0)
  | _ => False

/-- The registration of a vendor handler with the vendor and the subcommand of a plain one. -/
def HandlerOp.RegistersPlain : HandlerOp α → Prop
  | .registerVendor id subcmd _ _ => id = 0 ∧ subcmd = 0
  | _ => False

/-- Such an operation selects entries of its own key only. -/
theorem key_of_selects {op : HandlerOp α} {items : List (CbInfo α)} {cbi : CbInfo α}
    (hkeys : VendorKeys items) (hmem : cbi ∈ items) (hnames : op.NamesOne)
    (hselects : op.selects cbi = true) : cbi.key = op.key := by
  cases op with
  | register cmd callback => exact hnames.elim
  | unregister cmd => exact hnames.elim
  | registerVendor id subcmd callback ifname =>
    have hparts := of_decide_eq_true hselects
    have hvendor : cbi.ofVendor = true := by
      apply decide_eq_true
      rw [hparts.1, hparts.2.1]
      exact hnames.2
    cases ifname with
    | none => exact absurd rfl hnames.1
    | some name =>
      have hname := of_decide_eq_true hparts.2.2
      unfold CbInfo.key HandlerOp.key
      rw [hkeys.nl_cmd cbi hmem hvendor, hparts.1, hparts.2.1, hname]
      rfl
  | unregisterVendor id subcmd ifname =>
    have hparts := of_decide_eq_true hselects
    cases ifname with
    | none => exact absurd rfl hnames.1
    | some name =>
      have hname := of_decide_eq_true hparts.2.2.2
      unfold CbInfo.key HandlerOp.key
      rw [hparts.1, hparts.2.1, hparts.2.2.1, hname]
      rfl

/-- An operation keeps every entry but the one that it selects. -/
theorem mem_of_effect {op : HandlerOp α} {room : Prop} {items result : List (CbInfo α)}
    {cbi : CbInfo α} (heffect : op.Effect room items result) (hmem : cbi ∈ items)
    (hnot : op.selects cbi = false) : cbi ∈ result := by
  have hkept {before after : List (CbInfo α)} {taken : CbInfo α}
      (hitems : items = before ++ taken :: after) (hselects : op.selects taken = true) :
      cbi ∈ before ∨ cbi ∈ after := by
    rw [hitems] at hmem
    apply (List.mem_append.mp hmem).imp_right
    intro hrest
    apply (List.mem_cons.mp hrest).resolve_left
    intro hsame
    rw [hsame, hselects] at hnot
    cases hnot
  cases heffect with
  | full => exact hmem
  | absent => exact hmem
  | added added hcallback hnone hroom hname hifname => exact List.mem_append_left _ hmem
  | changed hcallback hitems hselects hfirst =>
    apply List.mem_append.mpr
    exact (hkept hitems hselects).imp_right (List.mem_cons_of_mem _)
  | removed hcallback hitems hselects hfirst => exact List.mem_append.mpr (hkept hitems hselects)

theorem capacity_apply (op : HandlerOp α) (table : HandlerTable α) :
    (op.apply table).capacity = table.capacity := by
  cases op with
  | register cmd callback =>
    change (wifiRegisterHandler table cmd callback).capacity = _
    unfold wifiRegisterHandler
    split_ifs <;> rfl
  | registerVendor id subcmd callback ifname =>
    change (wifiRegisterVendorHandler table id subcmd callback ifname).capacity = _
    unfold wifiRegisterVendorHandler
    split
    · rfl
    · split_ifs <;> rfl
  | unregister cmd =>
    change (wifiUnregisterHandler table cmd).capacity = _
    unfold wifiUnregisterHandler
    split_ifs
    · rfl
    · split <;> rfl
  | unregisterVendor id subcmd ifname =>
    change (wifiUnregisterVendorHandler table id subcmd ifname).capacity = _
    unfold wifiUnregisterVendorHandler
    split <;> rfl

theorem capacity_run (ops : List (HandlerOp α)) (table : HandlerTable α) :
    (runHandlerOps table ops).capacity = table.capacity := by
  induction ops generalizing table with
  | nil => rfl
  | cons op ops ih =>
    calc
      (runHandlerOps (op.apply table) ops).capacity = (op.apply table).capacity := ih (op.apply table)
      _ = table.capacity := capacity_apply op table

/-- After any operations: the count stays within the array, vendor entries have distinct keys, an
operation that takes no plain entry for one of a vendor adds, changes or removes what it is to, and one
that names an interface keeps the entries of all other keys. -/
theorem handlerTable_integrity (slots : ℕ → CbInfo α) (capacity : ℕ) (ops : List (HandlerOp α)) :
    let table := runHandlerOps (SlotArray.empty slots capacity) ops
    table.count ≤ capacity ∧
    ((table.items.filter CbInfo.ofVendor).map CbInfo.key).Nodup ∧
    ∀ op : HandlerOp α,
      (¬ op.RegistersPlain →
        op.Effect (table.count < capacity) table.items (op.apply table).items) ∧
      (op.NamesOne → ∀ cbi ∈ table.items, cbi.key ≠ op.key → cbi ∈ (op.apply table).items) := by
  have hkeys := vendorKeys_run slots capacity ops
  have hcapacity : (runHandlerOps (SlotArray.empty slots capacity) ops).capacity = capacity :=
    capacity_run ops (SlotArray.empty slots capacity)
  intro table
  apply And.intro
  · have hle := table.count_le
    rw [hcapacity] at hle
    exact hle
  · apply And.intro hkeys.distinct
    intro op
    apply And.intro
    · intro _
      have heffect : op.Effect (table.count < table.capacity) table.items (op.apply table).items :=
        op.apply_effect
      rwa [hcapacity] at heffect
    intro hnames cbi hmem hother
    apply mem_of_effect op.apply_effect hmem
    rw [← Bool.not_eq_true]
    intro hselects
    exact hother (key_of_selects hkeys hmem hnames hselects)

/-- A slot as it may be before its first use. -/
def unusedSlot : CbInfo ℕ := ⟨0, 0, 0, 0, []⟩

def wlan0 : IfaceName := [0x77, 0x6c, 0x61, 0x6e, 0x30]

def wlan1 : IfaceName := [0x77, 0x6c, 0x61, 0x6e, 0x31]

/-- Without an interface a vendor operation takes the entry of one, a plain registration adds a second
entry with the same key, and a vendor registration for the zero fields takes a plain entry. -/
theorem handlerTable_not_keyed :
    let empty := SlotArray.empty (fun _ ↦ unusedSlot) 64
    let named := runHandlerOps empty [.registerVendor 0x001A11 0x1500 1 (some wlan0)]
    let twice := runHandlerOps empty [.register 34 1, .register 34 2]
    let plain := runHandlerOps empty [.register 34 1]
    (∃ cbi ∈ named.items, cbi.key ≠ (HandlerOp.unregisterVendor 0x001A11 0x1500 none : HandlerOp ℕ).key ∧
      (wifiUnregisterVendorHandler named 0x001A11 0x1500 none).items = []) ∧
    ¬ (twice.items.map CbInfo.key).Nodup ∧
    ∃ cbi ∈ plain.items, cbi.callback = 1 ∧
      cbi.key ≠ (HandlerOp.registerVendor 0 0 2 none : HandlerOp ℕ).key ∧
      (wifiRegisterVendorHandler plain 0 0 2 none).items.map CbInfo.callback = [2] := by
  decide

end Integrity

end HardwareMediatek.Wifi
