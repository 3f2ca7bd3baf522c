import HardwareMediatek.Wifi.HandlerTable
import HardwareMediatek.Wifi.NanCommand

/-!
# Enumeration of interfaces

`wifi_init_interfaces` reads the directory of interfaces twice: it counts the first time, and fills an array
of that size the second time. Interfaces come and go between the two passes, and their names are cut to the
field that keeps them.
-/

namespace HardwareMediatek.Wifi

section Enumeration

/-- `interface_info`. The name is the C string in its field. -/
structure InterfaceInfo where
  name : IfaceName
  id : ℤ
  deriving DecidableEq, Repr

/-- `wlan`, `p2p` and `ap`. -/
def wifiPrefixes : List IfaceName := [[0x77, 0x6c, 0x61, 0x6e], [0x70, 0x32, 0x70], [0x61, 0x70]]

def isWifiInterface (name : IfaceName) : Bool := wifiPrefixes.any fun start ↦ start.isPrefixOf name

/-- Entries that begin with a dot are passed over. -/
def isCounted (d_name : IfaceName) : Bool := d_name.head? ≠ some 0x2e ∧ isWifiInterface d_name

/-- What the two passes meet with. A directory that cannot be opened is `none`. -/
structure EnumerationEnv where
  counted : Option (List IfaceName)
  filled : Option (List IfaceName)
  /-- `if_nametoindex`, during the second pass and afterwards -/
  nametoindex : IfaceName → ℤ
  arrayMalloc : Bool
  /-- whether there is memory for the entry with this number -/
  entryMalloc : ℕ → Bool

/-- `info->interfaces`, the entries that it was allocated with, and where it was written. -/
structure IfaceTable where
  interfaces : ℕ → Option InterfaceInfo
  allocated : ℕ
  num_interfaces : ℕ
  writes : List ℕ

variable (env : EnumerationEnv)

/-- The name is cut to its field, but its whole is looked up. -/
def getInterface (name : IfaceName) : InterfaceInfo where
  name := name.take maxIfacenameLen
  id := env.nametoindex name

/-- The second pass, from the `i`th entry of the array on. It ends with `false` where there is no memory. -/
def fillInterfaces : List IfaceName → ℕ → IfaceTable → Bool × IfaceTable
  | [], _, table => (true, table)
  | d_name :: rest, i, table =>
    if isCounted d_name then
      if env.entryMalloc i then
        fillInterfaces rest (i + 1)
          { table with
            interfaces := Function.update table.interfaces i (some (getInterface env d_name))
            writes := table.writes ++ [i] }
      else (false, table)
    else fillInterfaces rest i table

/-- The table as it was keeps its number of interfaces on an error. -/
def wifiInitInterfaces (table : IfaceTable) : WifiError × IfaceTable :=
  match env.counted with
  | none => (.unknown, table)
  | some counted =>
    let n := counted.countP isCounted
    if n = 0 then (.notAvailable, table)
    else
      match env.filled with
      | none => (.unknown, table)
      | some filled =>
        if env.arrayMalloc then
          match fillInterfaces env filled 0 ⟨fun _ ↦ none, n, table.num_interfaces, []⟩ with
          | (true, filledTable) => (.success, { filledTable with num_interfaces := n })
          | (false, filledTable) => (.outOfMemory, filledTable)
        else (.outOfMemory, table)

/-- What is reported: the entries of the array up to the number of interfaces. -/
def wifiGetIfaces : WifiError × IfaceTable × List (Option InterfaceInfo) :=
  let initialized := wifiInitInterfaces env ⟨fun _ ↦ none, 0, 0, []⟩
  match initialized.1 with
  | .success =>
    (.success, initialized.2, (List.range initialized.2.num_interfaces).map initialized.2.interfaces)
  | error => (error, initialized.2, [])

/-- Nothing is written behind the array, and a success reports the entries that were filled, each with a name
that stands for its interface. -/
structure EnumeratesSafely (counted filled : List IfaceName) (nametoindex : IfaceName → ℤ) : Prop where
  inside : ∀ arrayMalloc entryMalloc,
    let ifaces := wifiGetIfaces ⟨some counted, some filled, nametoindex, arrayMalloc, entryMalloc⟩
    ∀ i ∈ ifaces.2.1.writes, i < ifaces.2.1.allocated
  reported : ∀ arrayMalloc entryMalloc,
    let ifaces := wifiGetIfaces ⟨some counted, some filled, nametoindex, arrayMalloc, entryMalloc⟩
    ifaces.1 = .success →
      ifaces.2.2 = ifaces.2.1.writes.map ifaces.2.1.interfaces ∧
        ∀ entry ∈ ifaces.2.2, ∃ info, entry = some info ∧ nametoindex info.name = info.id

end Enumeration

section Passes

variable {env : EnumerationEnv}

/-- What the second pass leaves of a table whose first `i` entries are filled. -/
structure Filled (env : EnumerationEnv) (names : List IfaceName) (i : ℕ)
    (before after : IfaceTable) : Prop where
  writes : after.writes = before.writes ++ List.range' i (names.countP isCounted)
  entries : (List.range' i (names.countP isCounted)).map after.interfaces =
    (names.filter isCounted).map fun name ↦ some (getInterface env name)
  kept : ∀ k < i, after.interfaces k = before.interfaces k

variable (env) in
theorem fillInterfaces_allocated (names : List IfaceName) (i : ℕ) (table : IfaceTable) :
    (fillInterfaces env names i table).2.allocated = table.allocated := by
  induction names generalizing i table with
  | nil => rfl
  | cons d_name rest ih =>
    unfold fillInterfaces
    split
    · split
      · exact ih _ _
      · rfl
    · exact ih _ _

variable (env) in
/-- No entry is written beyond the number of interfaces in the directory. -/
theorem fillInterfaces_writes (names : List IfaceName) (i : ℕ) (table : IfaceTable) :
    ∀ k ∈ (fillInterfaces env names i table).2.writes,
      k ∈ table.writes ∨ k < i + names.countP isCounted := by
  induction names generalizing i table with
  | nil => exact fun k hk ↦ Or.inl hk
  | cons d_name rest ih =>
    intro k hk
    unfold fillInterfaces at hk
    rw [List.countP_cons]
    split at hk
    · rename_i hcounted
      rw [if_pos hcounted]
      split at hk
      · rcases ih _ _ k hk with hwritten | hlater
        · rw [List.mem_append, List.mem_singleton] at hwritten
          exact hwritten.imp_right fun heq ↦ by omega
        · exact Or.inr (by omega)
      · exact Or.inl hk
    · rename_i hcounted
      rw [if_neg hcounted]
      exact ih _ _ k hk

theorem filled_of_true (names : List IfaceName) (i : ℕ) (table : IfaceTable)
    (htrue : (fillInterfaces env names i table).1 = true) :
    Filled env names i table (fillInterfaces env names i table).2 := by
  induction names generalizing i table with
  | nil => exact ⟨(List.append_nil _).symm, rfl, fun _ _ ↦ rfl⟩
  | cons d_name rest ih =>
    unfold fillInterfaces at htrue ⊢
    by_cases hcounted : isCounted d_name = true
    · rw [if_pos hcounted] at htrue ⊢
      by_cases hmalloc : env.entryMalloc i = true
      · rw [if_pos hmalloc] at htrue ⊢
        have hrest := ih _ _ htrue
        apply Filled.mk
        · rw [hrest.writes, List.countP_cons, if_pos hcounted, List.range'_succ, List.append_assoc]
          rfl
        · rw [List.countP_cons, if_pos hcounted, List.range'_succ, List.map_cons, hrest.entries,
            hrest.kept i (Nat.lt_succ_self i), List.filter_cons_of_pos hcounted, List.map_cons]
          exact congrArg (· :: _) (Function.update_self i _ table.interfaces)
        · intro k hk
          exact (hrest.kept k (Nat.lt_succ_of_lt hk)).trans (Function.update_of_ne (Nat.ne_of_lt hk) _ _)
      · rw [if_neg hmalloc] at htrue
        cases htrue
    · rw [if_neg hcounted] at htrue ⊢
      have hrest := ih _ _ htrue
      apply Filled.mk
      · rw [hrest.writes, List.countP_cons, if_neg hcounted, Nat.add_zero]
      · rw [List.countP_cons, if_neg hcounted, Nat.add_zero, List.filter_cons_of_neg hcounted]
        exact hrest.entries
      · exact hrest.kept

theorem fillInterfaces_true (hmalloc : ∀ i, env.entryMalloc i = true) (names : List IfaceName) (i : ℕ)
    (table : IfaceTable) : (fillInterfaces env names i table).1 = true := by
  induction names generalizing i table with
  | nil => rfl
  | cons d_name rest ih =>
    unfold fillInterfaces
    rw [if_pos (hmalloc i)]
    split
    · exact ih _ _
    · exact ih _ _

/-- The table that the second pass starts with. -/
def clearedTable (n : ℕ) : IfaceTable := ⟨fun _ ↦ none, n, 0, []⟩

theorem wifiGetIfaces_of_zero {counted : List IfaceName} (hcounted : env.counted = some counted)
    (hzero : counted.countP isCounted = 0) : wifiGetIfaces env = (.notAvailable, clearedTable 0, []) := by
  unfold wifiGetIfaces wifiInitInterfaces
  rw [hcounted]
  dsimp only
  rw [if_pos hzero]
  rfl

theorem wifiGetIfaces_of_not_arrayMalloc {counted filled : List IfaceName}
    (hcounted : env.counted = some counted) (hfilled : env.filled = some filled)
    (hne : counted.countP isCounted ≠ 0) (hmalloc : env.arrayMalloc = false) :
    wifiGetIfaces env = (.outOfMemory, clearedTable 0, []) := by
  unfold wifiGetIfaces wifiInitInterfaces
  rw [hcounted, hfilled, hmalloc]
  dsimp only
  rw [if_neg hne]
  rfl

variable (env) in
theorem wifiGetIfaces_of_arrayMalloc {counted filled : List IfaceName}
    (hcounted : env.counted = some counted) (hfilled : env.filled = some filled)
    (hne : counted.countP isCounted ≠ 0) (hmalloc : env.arrayMalloc = true) :
    wifiGetIfaces env =
      let n := counted.countP isCounted
      let pass := fillInterfaces env filled 0 (clearedTable n)
      if pass.1 then
        (.success, { pass.2 with num_interfaces := n }, (List.range n).map pass.2.interfaces)
      else (.outOfMemory, pass.2, []) := by
  unfold wifiGetIfaces wifiInitInterfaces clearedTable
  rw [hcounted, hfilled, hmalloc]
  dsimp only
  rw [if_neg hne, if_pos rfl]
  generalize fillInterfaces env filled 0 _ = pass
  obtain ⟨complete, table⟩ := pass
  cases complete with
  | true => rfl
  | false => rfl

end Passes

section Safety

variable {counted filled : List IfaceName} {nametoindex : IfaceName → ℤ}

/-- The same number of interfaces, with names that mean the same when they are cut. -/
def SamePasses (counted filled : List IfaceName) (nametoindex : IfaceName → ℤ) : Prop :=
  filled.countP isCounted = counted.countP isCounted ∧
    ∀ name ∈ filled, isCounted name = true → nametoindex (name.take maxIfacenameLen) = nametoindex name

variable (filled nametoindex) in
/-- What is reported where there is memory for everything. -/
theorem wifiGetIfaces_of_memory (hne : counted.countP isCounted ≠ 0) :
    let env : EnumerationEnv := ⟨some counted, some filled, nametoindex, true, fun _ ↦ true⟩
    let pass := fillInterfaces env filled 0 (clearedTable (counted.countP isCounted))
    Filled env filled 0 (clearedTable (counted.countP isCounted)) pass.2 ∧
      wifiGetIfaces env =
        (.success, { pass.2 with num_interfaces := counted.countP isCounted },
          (List.range (counted.countP isCounted)).map pass.2.interfaces) := by
  intro env pass
  have htrue : pass.1 = true := fillInterfaces_true (fun _ ↦ rfl) filled 0 _
  have hget := wifiGetIfaces_of_arrayMalloc env rfl rfl hne rfl
  exact ⟨filled_of_true filled 0 _ htrue, hget.trans (if_pos htrue)⟩

theorem EnumeratesSafely.samePasses (hsafe : EnumeratesSafely counted filled nametoindex)
    (hne : counted.countP isCounted ≠ 0) : SamePasses counted filled nametoindex := by
  obtain ⟨hpass, hget⟩ := wifiGetIfaces_of_memory filled nametoindex hne
  have hreported := hsafe.reported true fun _ ↦ true
  dsimp only at hreported
  rw [hget] at hreported
  obtain ⟨hall, hnames⟩ := hreported rfl
  dsimp only at hall hnames
  rw [hpass.writes] at hall
  have hcount : filled.countP isCounted = counted.countP isCounted := by
    have hlength := congrArg List.length hall
    rw [List.length_map, List.length_range, List.length_map, List.length_append,
      List.length_range'] at hlength
    calc
      filled.countP isCounted = 0 + filled.countP isCounted := (Nat.zero_add _).symm
      _ = counted.countP isCounted := hlength.symm
  apply And.intro hcount
  intro name hmem hcounted
  have hentry :
      some (getInterface ⟨some counted, some filled, nametoindex, true, fun _ ↦ true⟩ name) ∈
        (List.range (counted.countP isCounted)).map
        (fillInterfaces ⟨some counted, some filled, nametoindex, true, fun _ ↦ true⟩ filled 0
          (clearedTable (counted.countP isCounted))).2.interfaces := by
    have hentries := hpass.entries
    rw [hcount, ← List.range_eq_range'] at hentries
    rw [hentries]
    exact List.mem_map_of_mem (List.mem_filter.mpr ⟨hmem, hcounted⟩)
  obtain ⟨info, hinfo, hresolves⟩ := hnames _ hentry
  cases hinfo
  exact hresolves

theorem SamePasses.inside (hsame : SamePasses counted filled nametoindex)
    (hne : counted.countP isCounted ≠ 0) (arrayMalloc : Bool) (entryMalloc : ℕ → Bool) :
    let ifaces := wifiGetIfaces ⟨some counted, some filled, nametoindex, arrayMalloc, entryMalloc⟩
    ∀ i ∈ ifaces.2.1.writes, i < ifaces.2.1.allocated := by
  intro ifaces i hi
  cases arrayMalloc with
  | false =>
    have hget : ifaces = _ := wifiGetIfaces_of_not_arrayMalloc rfl rfl hne rfl
    rw [hget] at hi
    exact absurd hi List.not_mem_nil
  | true =>
    have hget : ifaces = _ := wifiGetIfaces_of_arrayMalloc _ rfl rfl hne rfl
    let env : EnumerationEnv := ⟨some counted, some filled, nametoindex, true, entryMalloc⟩
    have hwrites := fillInterfaces_writes env filled 0 (clearedTable (counted.countP isCounted)) i
    have hallocated :=
      fillInterfaces_allocated env filled 0 (clearedTable (counted.countP isCounted))
    rw [hsame.1, Nat.zero_add] at hwrites
    rw [hget] at hi ⊢
    dsimp only at hi ⊢
    split at hi
    · rename_i htrue
      rw [if_pos htrue]
      exact Nat.lt_of_lt_of_eq ((hwrites hi).resolve_left List.not_mem_nil) hallocated.symm
    · rename_i hfalse
      rw [if_neg hfalse]
      exact Nat.lt_of_lt_of_eq ((hwrites hi).resolve_left List.not_mem_nil) hallocated.symm

theorem SamePasses.reported (hsame : SamePasses counted filled nametoindex)
    (hne : counted.countP isCounted ≠ 0) (arrayMalloc : Bool) (entryMalloc : ℕ → Bool) :
    let ifaces := wifiGetIfaces ⟨some counted, some filled, nametoindex, arrayMalloc, entryMalloc⟩
    ifaces.1 = .success →
      ifaces.2.2 = ifaces.2.1.writes.map ifaces.2.1.interfaces ∧
        ∀ entry ∈ ifaces.2.2, ∃ info, entry = some info ∧ nametoindex info.name = info.id := by
  intro ifaces hsuccess
  cases arrayMalloc with
  | false =>
    have hget : ifaces = _ := wifiGetIfaces_of_not_arrayMalloc rfl rfl hne rfl
    rw [hget] at hsuccess
    cases hsuccess
  | true =>
    have hget : ifaces = _ := wifiGetIfaces_of_arrayMalloc _ rfl rfl hne rfl
    dsimp only at hget
    split at hget
    · rename_i htrue
      have hpass := filled_of_true filled 0 _ htrue
      rw [hget]
      dsimp only
      have hentries := hpass.entries
      rw [hsame.1, ← List.range_eq_range'] at hentries
      constructor
      · rw [hpass.writes, hsame.1, ← List.range_eq_range']
        rfl
      · intro entry hentry
        rw [hentries] at hentry
        obtain ⟨name, hname, rfl⟩ := List.mem_map.mp hentry
        have hcounted := List.mem_filter.mp hname
        exact ⟨_, rfl, hsame.2 name hcounted.1 hcounted.2⟩
    · rw [hget] at hsuccess
      cases hsuccess

/-- The count of the first pass is neither checked nor replaced by the second pass. -/
theorem enumeratesSafely_iff (counted filled : List IfaceName) (nametoindex : IfaceName → ℤ) :
    EnumeratesSafely counted filled nametoindex ↔
      counted.countP isCounted = 0 ∨ SamePasses counted filled nametoindex := by
  by_cases hzero : counted.countP isCounted = 0
  · apply iff_of_true _ (Or.inl hzero)
    apply EnumeratesSafely.mk
    · intro arrayMalloc entryMalloc ifaces i hi
      have hget : ifaces = _ := wifiGetIfaces_of_zero rfl hzero
      rw [hget] at hi
      exact absurd hi List.not_mem_nil
    · intro arrayMalloc entryMalloc ifaces hsuccess
      have hget : ifaces = _ := wifiGetIfaces_of_zero rfl hzero
      rw [hget] at hsuccess
      cases hsuccess
  · rw [or_iff_right hzero]
    constructor
    · exact fun hsafe ↦ hsafe.samePasses hzero
    · exact fun hsame ↦ ⟨hsame.inside hzero, hsame.reported hzero⟩

/-- An interface that appears between the passes is written behind the array. -/
theorem not_enumeratesSafely_of_new_interface :
    ¬ EnumeratesSafely [[0x77, 0x6c, 0x61, 0x6e, 0x30]]
      [[0x77, 0x6c, 0x61, 0x6e, 0x30], [0x77, 0x6c, 0x61, 0x6e, 0x31]] fun name ↦ name.length := by
  intro hsafe
  have hinside := hsafe.inside true fun _ ↦ true
  exact absurd (hinside 1 (by decide)) (by decide)

end Safety

end HardwareMediatek.Wifi
