import HardwareMediatek.Foundation.EffectRuns
import HardwareMediatek.Wifi.HandlerTable
import HardwareMediatek.Wifi.RequestResponse

/-!
# Interfaces created by the HAL

The names of the interfaces that the HAL created are kept in a vector. A deletion erases the name
whatever the kernel answers, and the cleanup walks the vector that each of its deletions shrinks: the
position goes on, the elements move to the front.
-/

namespace HardwareMediatek.Wifi

open Foundation

section Calls

inductive WifiInterfaceType where
  | sta
  | ap
  | p2p
  | nan
  | other (value : ℕ)

inductive Nl80211Iftype where
  | station
  | ap
  | p2pDevice
  | nan

def nl80211Iftype : WifiInterfaceType → Option Nl80211Iftype
  | .sta => some .station
  | .ap => some .ap
  | .p2p => some .p2pDevice
  | .nan => some .nan
  | .other _ => none

/-- What the system answers during a creation. -/
structure CreateKernel where
  /-- `if_nametoindex("wlan0")` -/
  ctrl_iface_index : ℕ
  /-- `if_nametoindex(ifname)` -/
  ifindex : ℕ
  msgAlloc : Bool
  exchange : Exchange Unit

/-- What the system answers during a deletion. -/
structure DeleteKernel where
  msgAlloc : Bool
  ifindex : ℕ
  exchange : Exchange Unit

/-- Neither command makes anything of a reply. -/
def handleNothing (command : Unit) (_ : Unit) : Unit := command

def AddInterfaceCommand.requestResponse (kernel : CreateKernel) : WifiError :=
  if kernel.msgAlloc then (Wifi.requestResponse kernel.exchange handleNothing ()).1
  else .outOfMemory

def DeleteInterfaceCommand.requestResponse (kernel : DeleteKernel) : WifiError :=
  if kernel.msgAlloc then
    if kernel.ifindex = 0 then .unknown
    else (Wifi.requestResponse kernel.exchange handleNothing ()).1
  else .outOfMemory

/-- The deletion is asked of the kernel. -/
def DeleteKernel.Issues (kernel : DeleteKernel) : Prop :=
  kernel.msgAlloc = true ∧ kernel.ifindex ≠ 0 ∧ kernel.exchange.Sent

instance (kernel : DeleteKernel) : Decidable kernel.Issues := inferInstanceAs (Decidable (_ ∧ _))

variable (hal_created_ifaces : List IfaceName)

def isHalCreatedIface (ifname : IfaceName) : Bool := hal_created_ifaces.any fun iface ↦ iface = ifname

/-- What is returned, and the vector that is left. -/
def wifiVirtualInterfaceCreate (ifname : Option IfaceName) (iface_type : WifiInterfaceType)
    (kernel : CreateKernel) : WifiError × List IfaceName :=
  match ifname with
  | none => (.invalidArgs, hal_created_ifaces)
  | some ifname =>
    match nl80211Iftype iface_type with
    | none => (.invalidArgs, hal_created_ifaces)
    | some _ =>
      if kernel.ctrl_iface_index = 0 then (.unknown, hal_created_ifaces)
      else if kernel.ifindex ≠ 0 then (.success, hal_created_ifaces)
      else if AddInterfaceCommand.requestResponse kernel = .success then
        (.success, hal_created_ifaces ++ [ifname])
      else (AddInterfaceCommand.requestResponse kernel, hal_created_ifaces)

structure Deletion where
  result : WifiError
  hal_created_ifaces : List IfaceName
  /-- the name in the request, if one was sent -/
  request : Option IfaceName

def wifiVirtualInterfaceDelete (ifname : Option IfaceName) (kernel : DeleteKernel) : Deletion :=
  match ifname with
  | none => ⟨.invalidArgs, hal_created_ifaces, none⟩
  | some ifname =>
    if isHalCreatedIface hal_created_ifaces ifname then
      { result := DeleteInterfaceCommand.requestResponse kernel
        hal_created_ifaces := hal_created_ifaces.filter fun iface ↦ iface ≠ ifname
        request := if kernel.Issues then some ifname else none }
    else ⟨.success, hal_created_ifaces, none⟩

structure Removal where
  requests : List IfaceName
  readErased : Bool
  deriving DecidableEq

/-- The walk with `rounds` to go, at position `k` of a vector that has shrunk since it started. -/
def removeLoop (kernel : ℕ → DeleteKernel) : ℕ → ℕ → List IfaceName → List IfaceName → Removal
  | 0, _, _, requests => ⟨requests, false⟩
  | rounds + 1, k, ifaces, requests =>
    match ifaces[k]? with
    | none => ⟨requests, true⟩
    | some iface =>
        let deletion := wifiVirtualInterfaceDelete ifaces (some iface) (kernel k)
        removeLoop kernel rounds (k + 1) deletion.hal_created_ifaces
          (requests ++ deletion.request.toList)

/-- The bounds of the walk are taken when it starts. -/
def removeAllHalCreatedIfaces (kernel : ℕ → DeleteKernel) : Removal :=
  removeLoop kernel hal_created_ifaces.length 0 hal_created_ifaces []

end Calls

section System

/-- The vector, and the interfaces that the kernel created for the HAL and did not delete for it. -/
structure IfaceState where
  hal_created_ifaces : List IfaceName
  created : IfaceName → Bool

inductive IfaceCall where
  | create (ifname : Option IfaceName) (iface_type : WifiInterfaceType) (kernel : CreateKernel)
  | delete (ifname : Option IfaceName) (kernel : DeleteKernel)

/-- The creation is put into a request. -/
def CreateKernel.Asked (kernel : CreateKernel) (iface_type : WifiInterfaceType) : Prop :=
  (nl80211Iftype iface_type).isSome = true ∧ kernel.ctrl_iface_index ≠ 0 ∧ kernel.ifindex = 0 ∧
    kernel.msgAlloc = true

instance (kernel : CreateKernel) (iface_type : WifiInterfaceType) :
    Decidable (kernel.Asked iface_type) :=
  inferInstanceAs (Decidable (_ ∧ _))

def DeleteKernel.Deletes (kernel : DeleteKernel) : Prop :=
  kernel.Issues ∧ kernel.exchange.answer = 0

instance (kernel : DeleteKernel) : Decidable kernel.Deletes := inferInstanceAs (Decidable (_ ∧ _))

def IfaceCall.created (state : IfaceState) : IfaceCall → IfaceName → Bool
  | .create (some ifname) iface_type kernel =>
      if kernel.Asked iface_type ∧ kernel.exchange.Acknowledged then
        Function.update state.created ifname true
      else state.created
  | .delete (some ifname) kernel =>
      if isHalCreatedIface state.hal_created_ifaces ifname = true ∧ kernel.Deletes then
        Function.update state.created ifname false
      else state.created
  | .create none _ _ => state.created
  | .delete none _ => state.created

def IfaceCall.apply (state : IfaceState) (call : IfaceCall) : IfaceState where
  hal_created_ifaces :=
    match call with
    | .create ifname iface_type kernel =>
        (wifiVirtualInterfaceCreate state.hal_created_ifaces ifname iface_type kernel).2
    | .delete ifname kernel =>
        (wifiVirtualInterfaceDelete state.hal_created_ifaces ifname kernel).hal_created_ifaces
  created := call.created state

def runIfaceCalls (calls : List IfaceCall) : IfaceState :=
  calls.foldl IfaceCall.apply ⟨[], fun _ ↦ false⟩

/-- The vector has exactly the interfaces created and not deleted. -/
def IfaceState.Tracked (state : IfaceState) : Prop :=
  ∀ ifname, ifname ∈ state.hal_created_ifaces ↔ state.created ifname = true

/-- One request for each interface, and no element is read after it was erased. -/
structure Removal.Removes (removal : Removal) (created : IfaceName → Bool) : Prop where
  alive : removal.readErased = false
  once : removal.requests.Nodup
  each : ∀ ifname, ifname ∈ removal.requests ↔ created ifname = true

/-- A creation is not taken for done without memory for the callbacks, and the kernel deletes what it
is asked to. -/
def IfaceCall.KeepsTrack (state : IfaceState) : IfaceCall → Prop
  | .create (some ifname) iface_type kernel =>
      kernel.Asked iface_type → kernel.exchange.cbAlloc = true ∨
        ifname ∈ state.hal_created_ifaces
  | .delete (some ifname) kernel => ifname ∈ state.hal_created_ifaces → kernel.Deletes
  | .create none _ _ => True
  | .delete none _ => True

end System

section Tracking

theorem isHalCreatedIface_iff (ifaces : List IfaceName) (ifname : IfaceName) :
    isHalCreatedIface ifaces ifname = true ↔ ifname ∈ ifaces := by
  unfold isHalCreatedIface
  simp

/-- The vector gains the name when the creation is asked for and acknowledged, or not sent for want of
memory for the callbacks. -/
theorem create_ifaces (ifaces : List IfaceName) (ifname : IfaceName)
    (iface_type : WifiInterfaceType) (kernel : CreateKernel) :
    (wifiVirtualInterfaceCreate ifaces (some ifname) iface_type kernel).2 =
      if kernel.Asked iface_type ∧
        (kernel.exchange.Acknowledged ∨ kernel.exchange.cbAlloc = false) then ifaces ++ [ifname]
      else ifaces := by
  have hsuccess := requestResponse_eq_success_iff kernel.exchange handleNothing ()
  unfold wifiVirtualInterfaceCreate
  dsimp only
  by_cases hgain : kernel.Asked iface_type ∧
      (kernel.exchange.Acknowledged ∨ kernel.exchange.cbAlloc = false)
  · obtain ⟨type, htype⟩ := Option.isSome_iff_exists.mp hgain.1.1
    have hdone : AddInterfaceCommand.requestResponse kernel = .success := by
      unfold AddInterfaceCommand.requestResponse
      rw [if_pos hgain.1.2.2.2]
      exact hsuccess.mpr hgain.2
    rw [if_pos hgain, htype]
    dsimp only
    rw [if_neg hgain.1.2.1, if_neg (not_not_intro hgain.1.2.2.1), if_pos hdone]
  · rw [if_neg hgain]
    cases htype : nl80211Iftype iface_type with
    | none => rfl
    | some type =>
      dsimp only
      by_cases hctrl : kernel.ctrl_iface_index = 0
      · rw [if_pos hctrl]
      · rw [if_neg hctrl]
        by_cases hindex : kernel.ifindex = 0
        · rw [if_neg (not_not_intro hindex), if_neg]
          intro hdone
          unfold AddInterfaceCommand.requestResponse at hdone
          by_cases halloc : kernel.msgAlloc = true
          · rw [if_pos halloc] at hdone
            apply hgain
            exact ⟨⟨by rw [htype]; rfl, hctrl, hindex, halloc⟩, hsuccess.mp hdone⟩
          · rw [if_neg halloc] at hdone
            cases hdone
        · rw [if_pos hindex]

theorem delete_ifaces (ifaces : List IfaceName) (ifname : IfaceName) (kernel : DeleteKernel) :
    (wifiVirtualInterfaceDelete ifaces (some ifname) kernel).hal_created_ifaces =
      ifaces.filter fun iface ↦ iface ≠ ifname := by
  unfold wifiVirtualInterfaceDelete
  dsimp only
  by_cases hmem : isHalCreatedIface ifaces ifname = true
  · rw [if_pos hmem]
  · rw [if_neg hmem]
    apply Eq.symm
    apply List.filter_eq_self.mpr
    intro iface hiface
    apply decide_eq_true
    intro hsame
    rw [hsame] at hiface
    exact hmem ((isHalCreatedIface_iff ifaces ifname).mpr hiface)

theorem tracked_create_iff {state : IfaceState} (htracked : state.Tracked) (ifname : IfaceName)
    (iface_type : WifiInterfaceType) (kernel : CreateKernel) :
    ((IfaceCall.create (some ifname) iface_type kernel).apply state).Tracked ↔
      (IfaceCall.create (some ifname) iface_type kernel).KeepsTrack state := by
  unfold IfaceState.Tracked IfaceCall.apply IfaceCall.created IfaceCall.KeepsTrack
  dsimp only
  rw [create_ifaces]
  by_cases hasked : kernel.Asked iface_type
  · by_cases hack : kernel.exchange.Acknowledged
    · rw [if_pos ⟨hasked, Or.inl hack⟩, if_pos ⟨hasked, hack⟩]
      apply iff_of_true
      · intro name
        rw [List.mem_append, List.mem_singleton, htracked name, Function.update_apply]
        by_cases hname : name = ifname <;> simp [hname]
      · intro _
        exact Or.inl hack.1.1
    · have hnotCreated : ¬ (kernel.Asked iface_type ∧ kernel.exchange.Acknowledged) :=
        fun hboth ↦ hack hboth.2
      rw [if_neg hnotCreated]
      by_cases hcb : kernel.exchange.cbAlloc = true
      · rw [if_neg (by simp [hack, hcb])]
        exact iff_of_true htracked fun _ ↦ Or.inl hcb
      · rw [if_pos ⟨hasked, Or.inr (Bool.eq_false_iff.mpr hcb)⟩]
        apply Iff.intro
        · intro hafter _
          apply Or.inr
          apply (htracked ifname).mpr
          exact (hafter ifname).mp List.mem_append_cons_self
        · intro hkeeps name
          have hmem := (hkeeps hasked).resolve_left hcb
          rw [List.mem_append, List.mem_singleton, ← htracked name, or_iff_left_iff_imp]
          intro hname
          rw [hname]
          exact hmem
  · rw [if_neg fun hboth ↦ hasked hboth.1, if_neg fun hboth ↦ hasked hboth.1]
    exact iff_of_true htracked fun h ↦ absurd h hasked

theorem tracked_delete_iff {state : IfaceState} (htracked : state.Tracked) (ifname : IfaceName)
    (kernel : DeleteKernel) :
    ((IfaceCall.delete (some ifname) kernel).apply state).Tracked ↔
      (IfaceCall.delete (some ifname) kernel).KeepsTrack state := by
  unfold IfaceState.Tracked IfaceCall.apply IfaceCall.created IfaceCall.KeepsTrack
  dsimp only
  rw [delete_ifaces]
  have hfilter (name : IfaceName) :
      name ∈ (state.hal_created_ifaces.filter fun iface ↦ iface ≠ ifname) ↔
        state.created name = true ∧ name ≠ ifname := by
    rw [List.mem_filter, htracked name, decide_eq_true_iff]
  by_cases hmem : ifname ∈ state.hal_created_ifaces
  · have hcreated := (isHalCreatedIface_iff _ _).mpr hmem
    by_cases hdeletes : kernel.Deletes
    · rw [if_pos ⟨hcreated, hdeletes⟩]
      apply iff_of_true
      · intro name
        rw [hfilter, Function.update_apply]
        by_cases hname : name = ifname <;> simp [hname]
      · intro _
        exact hdeletes
    · rw [if_neg fun hboth ↦ hdeletes hboth.2]
      apply iff_of_false
      · intro hafter
        have hgone := (hafter ifname).mpr ((htracked ifname).mp hmem)
        exact ((hfilter ifname).mp hgone).2 rfl
      · intro hkeeps
        exact hdeletes (hkeeps hmem)
  · rw [if_neg fun hboth ↦ hmem ((isHalCreatedIface_iff _ _).mp hboth.1)]
    apply iff_of_true
    · intro name
      rw [hfilter, and_iff_left_iff_imp]
      intro hname hsame
      rw [hsame] at hname
      exact hmem ((htracked ifname).mpr hname)
    · intro hin
      exact absurd hin hmem

/-- From a state in order, a call leads to one in order exactly when it keeps track. -/
theorem tracked_apply_iff {state : IfaceState} (htracked : state.Tracked) (call : IfaceCall) :
    (call.apply state).Tracked ↔ call.KeepsTrack state := by
  cases call with
  | create ifname iface_type kernel =>
    cases ifname with
    | none => exact iff_of_true htracked trivial
    | some ifname => exact tracked_create_iff htracked ifname iface_type kernel
  | delete ifname kernel =>
    cases ifname with
    | none => exact iff_of_true htracked trivial
    | some ifname => exact tracked_delete_iff htracked ifname kernel

end Tracking

section Removing

variable (kernel : ℕ → DeleteKernel)

theorem length_delete_lt {ifaces : List IfaceName} {iface : IfaceName} (hiface : iface ∈ ifaces)
    (kernel : DeleteKernel) :
    (wifiVirtualInterfaceDelete ifaces (some iface) kernel).hal_created_ifaces.length <
      ifaces.length := by
  rw [delete_ifaces]
  apply List.length_filter_lt_length_iff_exists.mpr
  apply Exists.intro iface
  exact ⟨hiface, by simp⟩

/-- Away from the front, with no more elements than rounds, the walk reaches an erased element. -/
theorem removeLoop_readErased {rounds k : ℕ} {ifaces requests : List IfaceName}
    (hrounds : 0 < rounds) (hk : 0 < k) (hlength : ifaces.length ≤ rounds) :
    (removeLoop kernel rounds k ifaces requests).readErased = true := by
  induction rounds generalizing k ifaces requests with
  | zero => omega
  | succ rounds ih =>
    unfold removeLoop
    cases hiface : ifaces[k]? with
    | none => rfl
    | some iface =>
      have hbound := (List.getElem?_eq_some_iff.mp hiface).1
      have hshrinks := length_delete_lt (List.mem_of_getElem? hiface) (kernel k)
      exact ih (by omega) (by omega) (by omega)

theorem removeAll_readErased {ifaces : List IfaceName} (htwo : 2 ≤ ifaces.length) :
    (removeAllHalCreatedIfaces ifaces kernel).readErased = true := by
  cases ifaces with
  | nil => simp at htwo
  | cons iface rest =>
    have hshrinks := length_delete_lt (List.mem_cons_self (a := iface) (l := rest)) (kernel 0)
    rw [List.length_cons] at htwo hshrinks
    unfold removeAllHalCreatedIfaces
    rw [List.length_cons]
    unfold removeLoop
    exact removeLoop_readErased kernel (by omega) (by omega) (by omega)

theorem removeAll_single (iface : IfaceName) :
    removeAllHalCreatedIfaces [iface] kernel =
      ⟨if (kernel 0).Issues then [iface] else [], false⟩ := by
  have hcreated : isHalCreatedIface [iface] iface = true :=
    (isHalCreatedIface_iff _ _).mpr List.mem_cons_self
  unfold removeAllHalCreatedIfaces removeLoop removeLoop wifiVirtualInterfaceDelete
  dsimp only [List.length_singleton, List.getElem?_cons_zero]
  rw [if_pos hcreated]
  by_cases hissues : (kernel 0).Issues
  · rw [if_pos hissues, if_pos hissues]
    rfl
  · rw [if_neg hissues, if_neg hissues]
    rfl

/-- The cleanup removes what is tracked exactly when there is at most one interface, whose deletion is
asked of the kernel. -/
theorem removes_iff {state : IfaceState} (htracked : state.Tracked) :
    (removeAllHalCreatedIfaces state.hal_created_ifaces kernel).Removes state.created ↔
      state.hal_created_ifaces.length ≤ 1 ∧
        (state.hal_created_ifaces ≠ [] → (kernel 0).Issues) := by
  unfold IfaceState.Tracked at htracked
  cases hifaces : state.hal_created_ifaces with
  | nil =>
    rw [hifaces] at htracked
    apply iff_of_true
    · exact ⟨rfl, List.nodup_nil, htracked⟩
    · exact ⟨Nat.zero_le _, fun hne ↦ absurd rfl hne⟩
  | cons iface rest =>
    cases rest with
    | nil =>
      rw [hifaces] at htracked
      rw [removeAll_single]
      by_cases hissues : (kernel 0).Issues
      · rw [if_pos hissues]
        apply iff_of_true
        · exact ⟨rfl, List.nodup_singleton _, htracked⟩
        · exact ⟨Nat.le_refl _, fun _ ↦ hissues⟩
      · rw [if_neg hissues]
        apply iff_of_false
        · intro hremoves
          have hcreated := (htracked iface).mp List.mem_cons_self
          have hrequest := (hremoves.each iface).mpr hcreated
          cases hrequest
        · intro hone
          exact hissues (hone.2 (List.cons_ne_nil _ _))
    | cons other rest =>
      apply iff_of_false
      · intro hremoves
        have htwo : 2 ≤ (iface :: other :: rest).length := by
          rw [List.length_cons, List.length_cons]
          omega
        have herased := removeAll_readErased kernel htwo
        have halive := hremoves.alive
        rw [herased] at halive
        cases halive
      · intro hone
        have hle := hone.1
        rw [List.length_cons, List.length_cons] at hle
        omega

end Removing

section Runs

theorem tracked_initial : (⟨[], fun _ ↦ false⟩ : IfaceState).Tracked :=
  fun _ ↦ iff_of_false List.not_mem_nil Bool.false_ne_true

theorem runIfaceCalls_concat (calls : List IfaceCall) (call : IfaceCall) :
    runIfaceCalls (calls ++ [call]) = call.apply (runIfaceCalls calls) := by
  unfold runIfaceCalls
  rw [List.foldl_concat]

theorem tracked_run {calls : List IfaceCall}
    (hkept : EachAfter (fun before call ↦ (runIfaceCalls (before ++ [call])).Tracked) calls) :
    (runIfaceCalls calls).Tracked := by
  let inv (_ : List IfaceCall) (state : IfaceState) : Prop := state.Tracked
  apply foldl_keeps inv _ _ hkept
  · exact tracked_initial
  · intro before call _ hafter
    rw [runIfaceCalls_concat] at hafter
    exact hafter

/-- For every run of creations and deletions and every cleanup after it: the vector has the created
interfaces throughout and the cleanup removes each of them once exactly when every call keeps track
and at most one interface is left, whose deletion is asked of the kernel. -/
theorem createdInterfaces_tracked_iff (calls : List IfaceCall) (kernel : ℕ → DeleteKernel) :
    (EachAfter (fun before call ↦ (runIfaceCalls (before ++ [call])).Tracked) calls ∧
      (removeAllHalCreatedIfaces (runIfaceCalls calls).hal_created_ifaces kernel).Removes
        (runIfaceCalls calls).created) ↔
    EachAfter (fun before call ↦ call.KeepsTrack (runIfaceCalls before)) calls ∧
      (runIfaceCalls calls).hal_created_ifaces.length ≤ 1 ∧
      ((runIfaceCalls calls).hal_created_ifaces ≠ [] → (kernel 0).Issues) := by
  have hsteps : EachAfter (fun before call ↦ (runIfaceCalls (before ++ [call])).Tracked) calls ↔
      EachAfter (fun before call ↦ call.KeepsTrack (runIfaceCalls before)) calls := by
    apply eachAfter_congr
    intro before call after _ hkept _
    rw [runIfaceCalls_concat]
    exact tracked_apply_iff (tracked_run hkept) call
  rw [← hsteps]
  apply and_congr_right
  intro hkept
  exact removes_iff kernel (tracked_run hkept)

def acknowledged : Exchange Unit := ⟨true, 0, [], 0, acknowledgement_le⟩

def createWlan (ifname : IfaceName) : IfaceCall := .create (some ifname) .sta ⟨3, 0, true, acknowledged⟩

/-- With two interfaces the cleanup reads the second place after the first was erased. -/
theorem cleanup_of_two_reads_erased :
    let calls := [createWlan wlan0, createWlan wlan1]
    ¬ (EachAfter (fun before call ↦ (runIfaceCalls (before ++ [call])).Tracked) calls ∧
      (removeAllHalCreatedIfaces (runIfaceCalls calls).hal_created_ifaces
        fun _ ↦ ⟨true, 4, acknowledged⟩).Removes (runIfaceCalls calls).created) := by
  intro calls hboth
  exact absurd hboth.2.alive (by decide)

end Runs

end HardwareMediatek.Wifi
