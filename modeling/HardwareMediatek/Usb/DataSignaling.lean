import HardwareMediatek.Foundation.EffectRuns
import HardwareMediatek.Thermal.TripPoints

/-!
# USB data signaling

The gadget is pulled up by the name of the controller in one node, and the controller is forced to a
mode through another. A call that fails may have written the first node already, and leaves the flag
as it was.
-/

namespace HardwareMediatek.Usb

open Foundation

/-- What the nodes last accepted, the writes to mode nodes with their files from the latest on. -/
structure UsbData where
  pullup : String
  modeWrites : List (String × String)
  mUsbDataEnabled : Bool
deriving DecidableEq

/-- A call of `enableUsbData` with what its reads and writes come to. -/
structure EnableCall where
  inEnable : Bool
  controller : String
  isPullupRead : Bool
  acceptsPullup : String → Bool
  acceptsMode : String → Bool
  hasCallback : Bool

/-- What a call replies, and whether there is a callback to notify. -/
structure DataStatus where
  inEnable : Bool
  isSuccess : Bool
  isNotified : Bool
deriving DecidableEq

def kModePaths : List (String → String) :=
  [fun controller ↦ "/sys/class/udc/" ++ controller ++ "/device/mode",
    fun controller ↦ "/sys/class/udc/" ++ controller ++ "/device/cmode"]

/-- The mode nodes that a controller may have. -/
def modeFiles (controller : String) : List String := kModePaths.map fun path ↦ path controller

def setMtu3DrForceMode (data : UsbData) (call : EnableCall) (mode : String) : UsbData × Bool :=
  match (modeFiles call.controller).find? call.acceptsMode with
  | none => (data, false)
  | some filename => ({ data with modeWrites := (filename, mode) :: data.modeWrites }, true)

/-- The text to write when the pullup node has been read. -/
def pullupText (pullup : String) (call : EnableCall) : Option String :=
  if call.inEnable then
    if Thermal.trimText pullup ≠ call.controller then some call.controller else none
  else if Thermal.trimText pullup = call.controller then some "none" else none

def writePullup (data : UsbData) (call : EnableCall) : UsbData × Bool :=
  if call.isPullupRead then
    match pullupText data.pullup call with
    | none => (data, true)
    | some text =>
      if call.acceptsPullup text then ({ data with pullup := text }, true) else (data, false)
  else (data, true)

/-- The part before `out`, with `result`. -/
def setUsbData (data : UsbData) (call : EnableCall) : UsbData × Bool :=
  if call.controller = "" then (data, false)
  else if call.inEnable && data.mUsbDataEnabled then (data, true)
  else
    let pulled := writePullup data call
    let forced := setMtu3DrForceMode pulled.1 call (if call.inEnable then "1" else "0")
    (forced.1, pulled.2 && forced.2)

def enableUsbData (data : UsbData) (call : EnableCall) : UsbData × DataStatus :=
  let set := setUsbData data call
  (if set.2 then { set.1 with mUsbDataEnabled := call.inEnable } else set.1,
    ⟨call.inEnable, set.2, call.hasCallback⟩)

def usbStep (data : UsbData) (call : EnableCall) : Option (UsbData × List DataStatus) :=
  let done := enableUsbData data call
  some (done.1, [done.2])

/-! ## What a status says -/

/-- The pullup node accepted the name of the controller, or holds it. -/
def UsbData.PulledUp (data : UsbData) (controller : String) : Prop :=
  data.pullup = controller ∨ Thermal.trimText data.pullup = controller

/-- The mode that the controller last accepted. -/
def UsbData.mode (data : UsbData) (controller : String) : Option String :=
  (data.modeWrites.find? fun write ↦ write.1 ∈ modeFiles controller).map Prod.snd

/-- The nodes are as a successful call for this direction says. -/
def UsbData.Signals (data : UsbData) (controller : String) (inEnable : Bool) : Prop :=
  (data.PulledUp controller ↔ inEnable = true) ∧
    data.mode controller = some (if inEnable then "1" else "0")

/-- If the call notifies a success, the nodes are as it says. -/
def TellsTruth (data : UsbData) (call : EnableCall) : Prop :=
  ∀ final new, usbStep data call = some (final, new) →
    ∀ status ∈ new, status.isNotified = true → status.isSuccess = true →
      final.Signals call.controller status.inEnable

/-- Some mode node of the controller accepts writes. -/
def EnableCall.CanForce (call : EnableCall) : Prop :=
  ∃ filename ∈ modeFiles call.controller, call.acceptsMode filename = true

/-- A call for data that finds the flag set finds the nodes right; another one can read the pullup
node, or finds it right, unless the mode cannot be forced; and a call against data that finds the
gadget pulled up can read that, by a name that trimming keeps and that is not `none`. -/
def FindsNodes (data : UsbData) (call : EnableCall) : Prop :=
  call.hasCallback = true → call.controller ≠ "" →
    if call.inEnable = true ∧ data.mUsbDataEnabled = true then data.Signals call.controller true
    else if call.inEnable = true then
      call.CanForce → call.isPullupRead = true ∨ data.PulledUp call.controller
    else
      call.CanForce → data.PulledUp call.controller →
        call.isPullupRead = true ∧ Thermal.trimText data.pullup = call.controller ∧
          (call.acceptsPullup "none" = true → call.controller ≠ "none")

/-- The direction of the last successful call. -/
def lastEnabled (statuses : List DataStatus) : Bool :=
  (((statuses.filter DataStatus.isSuccess).getLast?).map DataStatus.inEnable).getD true

section Calls

variable {data : UsbData} {call : EnableCall}

theorem setMtu3DrForceMode_of_canForce (data : UsbData) (hforce : call.CanForce) (mode : String) :
    (setMtu3DrForceMode data call mode).2 = true ∧
      (setMtu3DrForceMode data call mode).1.pullup = data.pullup ∧
      (setMtu3DrForceMode data call mode).1.mode call.controller = some mode := by
  unfold setMtu3DrForceMode
  cases hfind : (modeFiles call.controller).find? call.acceptsMode with
  | none =>
    obtain ⟨filename, haccepts⟩ := hforce
    exact absurd haccepts.2 (List.find?_eq_none.mp hfind filename haccepts.1)
  | some filename =>
    have hfile : filename ∈ modeFiles call.controller := List.mem_of_find?_eq_some hfind
    apply And.intro rfl
    apply And.intro rfl
    have hfirst : ((filename, mode) :: data.modeWrites).find?
        (fun write ↦ write.1 ∈ modeFiles call.controller) = some (filename, mode) :=
      List.find?_cons_of_pos (decide_eq_true hfile)
    exact congrArg (Option.map Prod.snd) hfirst

theorem setMtu3DrForceMode_of_not_canForce (data : UsbData) (hforce : ¬ call.CanForce) (mode : String) :
    (setMtu3DrForceMode data call mode).2 = false := by
  unfold setMtu3DrForceMode
  cases hfind : (modeFiles call.controller).find? call.acceptsMode with
  | none => rfl
  | some filename =>
    exact absurd ⟨filename, List.mem_of_find?_eq_some hfind, List.find?_some hfind⟩ hforce

/-- An enabling write that succeeds leaves the gadget pulled up unless the node could not be read. -/
theorem pulledUp_writePullup_of_enable (henable : call.inEnable = true)
    (hsuccess : (writePullup data call).2 = true) :
    (writePullup data call).1.PulledUp call.controller ↔
      call.isPullupRead = true ∨ data.PulledUp call.controller := by
  unfold writePullup at hsuccess ⊢
  by_cases hread : call.isPullupRead = true
  · rw [if_pos hread] at hsuccess ⊢
    apply iff_of_true _ (Or.inl hread)
    unfold pullupText at hsuccess ⊢
    rw [if_pos henable] at hsuccess ⊢
    by_cases hheld : Thermal.trimText data.pullup = call.controller
    · rw [if_neg (not_not.mpr hheld)]
      exact Or.inr hheld
    · rw [if_pos hheld] at hsuccess ⊢
      by_cases haccepts : call.acceptsPullup call.controller = true
      · dsimp only
        rw [if_pos haccepts]
        exact Or.inl rfl
      · dsimp only at hsuccess
        rw [if_neg haccepts] at hsuccess
        cases hsuccess
  · rw [if_neg hread]
    exact (or_iff_right hread).symm

/-- A disabling write that succeeds takes a name away that it has read, unless it is `none`. -/
theorem pulledUp_writePullup_of_disable (hdisable : call.inEnable = false)
    (hsuccess : (writePullup data call).2 = true) :
    (writePullup data call).1.PulledUp call.controller ↔
      data.PulledUp call.controller ∧ ¬ (call.isPullupRead = true ∧
        Thermal.trimText data.pullup = call.controller ∧ call.controller ≠ "none") := by
  unfold writePullup at hsuccess ⊢
  by_cases hread : call.isPullupRead = true
  · rw [if_pos hread] at hsuccess ⊢
    unfold pullupText at hsuccess ⊢
    rw [if_neg (Bool.eq_false_iff.mp hdisable)] at hsuccess ⊢
    by_cases hheld : Thermal.trimText data.pullup = call.controller
    · rw [if_pos hheld] at hsuccess ⊢
      by_cases haccepts : call.acceptsPullup "none" = true
      · dsimp only
        rw [if_pos haccepts]
        have hnone : UsbData.PulledUp { data with pullup := "none" } call.controller ↔
            call.controller = "none" := by
          have htrim : Thermal.trimText "none" = "none" := by decide
          unfold UsbData.PulledUp
          rw [htrim, or_self, eq_comm]
        rw [hnone]
        apply Iff.intro
        · intro hname
          exact ⟨Or.inr hheld, fun h ↦ h.2.2 hname⟩
        · intro h
          by_contra hname
          exact h.2 ⟨hread, hheld, hname⟩
      · dsimp only at hsuccess
        rw [if_neg haccepts] at hsuccess
        cases hsuccess
    · rw [if_neg hheld]
      exact (and_iff_left fun h ↦ hheld h.2.1).symm
  · rw [if_neg hread]
    exact (and_iff_left fun h ↦ hread h.1).symm

/-- Only a disabling write of `none` can fail by what the node holds. -/
theorem writePullup_fails_of_disable (hdisable : call.inEnable = false)
    (hfail : (writePullup data call).2 = false) :
    call.isPullupRead = true ∧ Thermal.trimText data.pullup = call.controller ∧
      call.acceptsPullup "none" = false := by
  unfold writePullup at hfail
  by_cases hread : call.isPullupRead = true
  · rw [if_pos hread] at hfail
    unfold pullupText at hfail
    rw [if_neg (Bool.eq_false_iff.mp hdisable)] at hfail
    by_cases hheld : Thermal.trimText data.pullup = call.controller
    · rw [if_pos hheld] at hfail
      cases haccepts : call.acceptsPullup "none" with
      | false => exact ⟨hread, hheld, rfl⟩
      | true =>
        dsimp only at hfail
        rw [if_pos haccepts] at hfail
        cases hfail
    · rw [if_neg hheld] at hfail
      cases hfail
  · rw [if_neg hread] at hfail
    cases hfail

/-- The status of a call and the nodes after it, by its two writes. -/
theorem setUsbData_signals_iff (hcontroller : call.controller ≠ "")
    (hwork : ¬ (call.inEnable = true ∧ data.mUsbDataEnabled = true)) :
    ((setUsbData data call).2 = true →
        (setUsbData data call).1.Signals call.controller call.inEnable) ↔
      (call.CanForce → (writePullup data call).2 = true →
        ((writePullup data call).1.PulledUp call.controller ↔ call.inEnable = true)) := by
  have hbusy : ¬ (call.inEnable && data.mUsbDataEnabled) = true := by
    rwa [Bool.and_eq_true]
  unfold setUsbData
  rw [if_neg hcontroller, if_neg hbusy]
  dsimp only
  by_cases hforce : call.CanForce
  · have hforced := setMtu3DrForceMode_of_canForce (writePullup data call).1 hforce
      (if call.inEnable then "1" else "0")
    rw [hforced.1, Bool.and_true]
    unfold UsbData.Signals
    rw [and_iff_left hforced.2.2]
    unfold UsbData.PulledUp
    rw [hforced.2.1]
    exact (imp_iff_right hforce).symm
  · rw [setMtu3DrForceMode_of_not_canForce _ hforce, Bool.and_false]
    exact iff_of_true nofun fun h ↦ absurd h hforce

theorem tellsTruth_iff_signals (data : UsbData) (call : EnableCall) :
    TellsTruth data call ↔ (call.hasCallback = true → (setUsbData data call).2 = true →
      (setUsbData data call).1.Signals call.controller call.inEnable) := by
  have hflag : ∀ (set : UsbData × Bool),
      (if set.2 then { set.1 with mUsbDataEnabled := call.inEnable } else set.1).Signals
        call.controller call.inEnable ↔ set.1.Signals call.controller call.inEnable := by
    intro set
    split <;> rfl
  rw [← hflag]
  apply Iff.intro
  · intro htruth
    exact htruth _ _ rfl _ (List.mem_singleton_self _)
  · intro hsignals final new hstep status hin
    have hdone := Prod.mk.inj (Option.some.inj hstep)
    rw [← hdone.2, List.mem_singleton] at hin
    rw [hin, ← hdone.1]
    exact hsignals

theorem tellsTruth_iff (data : UsbData) (call : EnableCall) :
    TellsTruth data call ↔ FindsNodes data call := by
  rw [tellsTruth_iff_signals]
  apply imp_congr_right
  intro _
  by_cases hcontroller : call.controller = ""
  · unfold setUsbData
    rw [if_pos hcontroller]
    exact iff_of_true nofun fun h ↦ absurd hcontroller h
  rw [forall_prop_of_true hcontroller]
  by_cases hskip : call.inEnable = true ∧ data.mUsbDataEnabled = true
  · rw [if_pos hskip]
    unfold setUsbData
    rw [if_neg hcontroller, hskip.1, hskip.2]
    exact forall_prop_of_true rfl
  · rw [if_neg hskip, setUsbData_signals_iff hcontroller hskip]
    cases henable : call.inEnable with
    | true =>
      rw [if_pos rfl]
      apply imp_congr_right
      intro _
      rw [iff_true_right rfl]
      apply Iff.intro
      · intro hpulled
        by_cases hread : call.isPullupRead = true
        · exact Or.inl hread
        · have hunread : writePullup data call = (data, true) := if_neg hread
          rw [hunread] at hpulled
          exact Or.inr (hpulled rfl)
      · intro hfound hsuccess
        exact (pulledUp_writePullup_of_enable henable hsuccess).mpr hfound
    | false =>
      rw [if_neg Bool.false_ne_true]
      apply imp_congr_right
      intro _
      rw [iff_false_right Bool.false_ne_true]
      apply Iff.intro
      · intro hdown hup
        cases hsuccess : (writePullup data call).2 with
        | false =>
          have hfail := writePullup_fails_of_disable henable hsuccess
          exact ⟨hfail.1, hfail.2.1, fun h ↦ absurd (hfail.2.2.symm.trans h) Bool.false_ne_true⟩
        | true =>
          have hstill := hdown hsuccess
          rw [pulledUp_writePullup_of_disable henable hsuccess, not_and, not_not] at hstill
          exact ⟨(hstill hup).1, (hstill hup).2.1, fun _ ↦ (hstill hup).2.2⟩
      · intro hfound hsuccess
        rw [pulledUp_writePullup_of_disable henable hsuccess, not_and, not_not]
        intro hup
        have hheld := hfound hup
        apply And.intro hheld.1
        apply And.intro hheld.2.1
        apply hheld.2.2
        have hwrite : pullupText data.pullup call = some "none" := by
          unfold pullupText
          rw [if_neg (Bool.eq_false_iff.mp henable), if_pos hheld.2.1]
        unfold writePullup at hsuccess
        rw [if_pos hheld.1, hwrite] at hsuccess
        by_contra haccepts
        dsimp only at hsuccess
        rw [if_neg haccepts] at hsuccess
        cases hsuccess

end Calls

/-! ## Sequences of calls -/

theorem lastEnabled_concat (statuses : List DataStatus) (status : DataStatus) :
    lastEnabled (statuses ++ [status]) =
      if status.isSuccess then status.inEnable else lastEnabled statuses := by
  unfold lastEnabled
  rw [List.filter_append]
  cases hsuccess : status.isSuccess with
  | false =>
    rw [List.filter_singleton, hsuccess, cond_false, List.append_nil]
    rfl
  | true =>
    rw [List.filter_singleton, hsuccess, cond_true, List.getLast?_concat]
    rfl

theorem setUsbData_keeps_flag (data : UsbData) (call : EnableCall) :
    (setUsbData data call).1.mUsbDataEnabled = data.mUsbDataEnabled := by
  have hpullup : (writePullup data call).1.mUsbDataEnabled = data.mUsbDataEnabled := by
    unfold writePullup
    split
    · split
      · rfl
      · split <;> rfl
    · rfl
  have hmode : ∀ (before : UsbData) (mode : String),
      (setMtu3DrForceMode before call mode).1.mUsbDataEnabled = before.mUsbDataEnabled := by
    intro before mode
    unfold setMtu3DrForceMode
    split <;> rfl
  unfold setUsbData
  split
  · rfl
  · split
    · rfl
    · exact (hmode _ _).trans hpullup

/-- The flag is the direction of the last successful call. -/
theorem mUsbDataEnabled_eq_lastEnabled {init final : UsbData} {calls : List EnableCall}
    {statuses : List DataStatus} (hinit : init.mUsbDataEnabled = true)
    (hrun : runSteps usbStep init calls = some (final, statuses)) :
    final.mUsbDataEnabled = lastEnabled statuses := by
  apply runSteps_keeps usbStep (fun _ data statuses ↦ data.mUsbDataEnabled = lastEnabled statuses)
    hinit _ hrun
  intro _ data before call after new hflag hstep
  have hdone := Prod.mk.inj (Option.some.inj hstep)
  rw [← hdone.1, ← hdone.2, lastEnabled_concat]
  unfold enableUsbData
  dsimp only
  split
  · rfl
  · rw [setUsbData_keeps_flag]
    exact hflag

/-- A success says how the nodes are in a sequence of calls exactly when each call finds them so, or
can read and write what it needs to. -/
theorem usbData_truthful_iff {pullup : String} {modeWrites : List (String × String)}
    {calls : List EnableCall} {final : UsbData} {statuses : List DataStatus}
    (hrun : runSteps usbStep ⟨pullup, modeWrites, true⟩ calls = some (final, statuses)) :
    (EachStep usbStep TellsTruth ⟨pullup, modeWrites, true⟩ calls ∧
        final.mUsbDataEnabled = lastEnabled statuses) ↔
      EachStep usbStep FindsNodes ⟨pullup, modeWrites, true⟩ calls := by
  rw [and_iff_left (mUsbDataEnabled_eq_lastEnabled rfl hrun)]
  apply eachStep_congr usbStep (fun _ _ _ ↦ True) trivial (fun _ _ _ _ _ _ _ _ ↦ trivial)
  intro _ data _ call _
  exact tellsTruth_iff data call

/-- A call for the controller `usb0` whose mode nodes accept everything or nothing. -/
def usb0Call (inEnable acceptsMode : Bool) : EnableCall :=
  ⟨inEnable, "usb0", true, fun _ ↦ true, fun _ ↦ acceptsMode, true⟩

/-- A gadget that is pulled up. -/
def usb0Data : UsbData := ⟨"usb0\n", [("/sys/class/udc/usb0/device/mode", "1")], true⟩

theorem runSteps_usb0 (acceptsMode : Bool) :
    runSteps usbStep usb0Data [usb0Call false acceptsMode] =
      some (⟨"none", if acceptsMode then ("/sys/class/udc/usb0/device/mode", "0") ::
        usb0Data.modeWrites else usb0Data.modeWrites, !acceptsMode⟩, [⟨false, acceptsMode, true⟩]) := by
  cases acceptsMode <;> decide +kernel

/-- The gadget is pulled down and up again. -/
theorem usbData_downAndUp :
    EachStep usbStep TellsTruth usb0Data [usb0Call false true, usb0Call true true] := by
  have hrun : (runSteps usbStep usb0Data [usb0Call false true, usb0Call true true]).isSome = true :=
    rfl
  obtain ⟨run, hrun⟩ := Option.isSome_iff_exists.mp hrun
  apply ((usbData_truthful_iff hrun).mpr _).1
  apply (eachStep_concat usbStep FindsNodes usb0Data [usb0Call false true] _).mpr
  apply And.intro
  · apply (eachStep_concat usbStep FindsNodes usb0Data [] _).mpr
    apply And.intro (eachAfter_nil _)
    intro data statuses hstart _ _
    rw [← (Prod.mk.inj (Option.some.inj hstart)).1, if_neg (by decide), if_neg (by decide)]
    intro _ _
    exact ⟨rfl, by decide, fun _ ↦ by decide⟩
  · intro data statuses hdisabled _ _
    have hdata := Option.some.inj (hdisabled.symm.trans (runSteps_usb0 true))
    rw [(Prod.mk.inj hdata).1, if_neg (by decide), if_pos rfl]
    exact fun _ ↦ Or.inl rfl

/-- The gadget is pulled down, its mode cannot be forced, and the next call finds the flag set. -/
theorem usbData_halfDisabled :
    ¬ ∀ (pullup : String) (modeWrites : List (String × String)) (calls : List EnableCall)
      (final : UsbData) (statuses : List DataStatus),
      runSteps usbStep ⟨pullup, modeWrites, true⟩ calls = some (final, statuses) →
        EachStep usbStep TellsTruth ⟨pullup, modeWrites, true⟩ calls ∧
          final.mUsbDataEnabled = lastEnabled statuses := by
  intro hall
  have hrun : (runSteps usbStep usb0Data [usb0Call false false, usb0Call true true]).isSome = true :=
    rfl
  obtain ⟨run, hrun⟩ := Option.isSome_iff_exists.mp hrun
  have htruth := (hall _ _ _ _ _ hrun).1 [usb0Call false false] (usb0Call true true) [] rfl
    _ _ (runSteps_usb0 false)
  have hsignals := htruth _ _ rfl _ (List.mem_singleton_self _) rfl rfl
  exact absurd (hsignals.1.mpr rfl) (by unfold UsbData.PulledUp; decide)

end HardwareMediatek.Usb
