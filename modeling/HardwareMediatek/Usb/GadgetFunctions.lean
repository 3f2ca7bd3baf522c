import Mathlib.Data.List.Basic
import Mathlib.Data.Int.Notation

/-!
# The functions of the USB gadget

`setCurrentUsbFunctions` takes the gadget down and sets it up again, and tells a callback what came of
it. The callback is called in three places of two functions, and what it answers is handled differently
in each of them.
-/

namespace HardwareMediatek.Usb

inductive GadgetStatus where
  | success
  | error
  | functionsApplied
  | functionsNotApplied
  | configurationNotSupported
deriving DecidableEq, Repr

/-- A binder status: `ok`, or a service specific error with its message. -/
inductive ScopedAStatus where
  | ok
  | serviceSpecificError (code : ℤ) (message : String)
deriving DecidableEq, Repr

namespace GadgetFunction

def none : UInt64 := 0
def adb : UInt64 := 1
def accessory : UInt64 := 2
def mtp : UInt64 := 4
def midi : UInt64 := 8
def ptp : UInt64 := 16
def rndis : UInt64 := 32
def audioSource : UInt64 := 64
def uvc : UInt64 := 128
def ncm : UInt64 := 1024

end GadgetFunction

/-- A call of `setCurrentUsbFunctionsCb`. -/
structure FunctionsCall where
  functions : UInt64
  status : GadgetStatus
  transactionId : ℤ
deriving DecidableEq, Repr

/-- Whether a call succeeds, after the calls before it. -/
abbrev GadgetCallback := List FunctionsCall → FunctionsCall → Bool

/-- What the gadget library, the files and the wait come to. -/
structure GadgetEnv where
  resetGadget : GadgetStatus
  setVidPid : String → String → GadgetStatus
  /-- the status, `ffsEnabled` and the number of functions -/
  addGenericAndroidFunctions : UInt64 → GadgetStatus × Bool × ℤ
  addAdb : ℤ → GadgetStatus × ℤ
  /-- nonzero when the function cannot be linked -/
  linkFunction : String → ℤ → ℤ
  /-- the text that is written, and the file -/
  writeStringToFile : String → String → Bool
  waitForPullUp : UInt64 → Bool
  kGadgetName : String

def pullupPath : String := "/config/usb_gadget/g1/UDC"
def udcPath : String := "/sys/class/udc/"
def savingPath : String := "device/saving"

def getUdcNodeHelper (env : GadgetEnv) (path : String) : String := udcPath ++ env.kGadgetName ++ "/" ++ path

structure UsbGadget where
  mCurrentUsbFunctions : UInt64
  mCurrentUsbFunctionsApplied : Bool
  /-- the files that were written so far, with the texts -/
  writes : List (String × String)
  /-- the calls of the callback so far -/
  calls : List FunctionsCall
deriving DecidableEq

/-- A write to a file, and whether it succeeds. -/
def UsbGadget.write (gadget : UsbGadget) (env : GadgetEnv) (text path : String) : UsbGadget × Bool :=
  if env.writeStringToFile text path then
    ({ gadget with writes := gadget.writes ++ [(path, text)] }, true)
  else (gadget, false)

/-- A call with a status, and whether it succeeds. -/
def UsbGadget.call (gadget : UsbGadget) (functions : UInt64) (transactionId : ℤ)
    (callback : GadgetCallback) (status : GadgetStatus) : UsbGadget × Bool :=
  ({ gadget with calls := gadget.calls ++ [⟨functions, status, transactionId⟩] },
    callback gadget.calls ⟨functions, status, transactionId⟩)

section Validate

structure UsbIds where
  vid : String
  pid : String
  saving : String := ""
deriving DecidableEq, Repr

open GadgetFunction in
/-- The cases of the switch. -/
def usbIds : List (UInt64 × UsbIds) :=
  [(mtp, { vid := "0x0E8D", pid := "0x2008", saving := "2" }),
    (adb ||| mtp, { vid := "0x0E8D", pid := "0x201D" }),
    (rndis, { vid := "0x0E8D", pid := "0x2004" }),
    (adb ||| rndis, { vid := "0x0E8D", pid := "0x2005" }),
    (ptp, { vid := "0x0E8D", pid := "0x200B", saving := "2" }),
    (adb ||| ptp, { vid := "0x0E8D", pid := "0x200C" }),
    (adb, { vid := "0x0E8D", pid := "0x201C" }),
    (midi, { vid := "0x0E8D", pid := "0x2046" }),
    (adb ||| midi, { vid := "0x0E8D", pid := "0x2048" }),
    (accessory, { vid := "0x18d1", pid := "0x2d00" }),
    (adb ||| accessory, { vid := "0x18d1", pid := "0x2d01" }),
    (audioSource, { vid := "0x18d1", pid := "0x2d02" }),
    (adb ||| audioSource, { vid := "0x18d1", pid := "0x2d03" }),
    (accessory ||| audioSource, { vid := "0x18d1", pid := "0x2d04" }),
    (adb ||| accessory ||| audioSource, { vid := "0x18d1", pid := "0x2d05" }),
    (ncm, { vid := "0x0E8D", pid := "0x2067" }),
    (adb ||| ncm, { vid := "0x0E8D", pid := "0x206A" }),
    (uvc, { vid := "0x18d1", pid := "0x4eed" }),
    (adb ||| uvc, { vid := "0x18d1", pid := "0x4eee" })]

/-- What the switch and the library say. -/
def vidPidStatus (env : GadgetEnv) (functions : UInt64) : GadgetStatus :=
  match usbIds.lookup functions with
  | some ids => env.setVidPid ids.vid ids.pid
  | none => .configurationNotSupported

/-- A failure to write the saving state is only logged. -/
def validateAndSetVidPid (env : GadgetEnv) (functions : UInt64) (gadget : UsbGadget) :
    UsbGadget × GadgetStatus :=
  match usbIds.lookup functions with
  | some ids =>
    let status := env.setVidPid ids.vid ids.pid
    if status ≠ .success ∨ ids.saving = "" then (gadget, status)
    else ((gadget.write env ids.saving (getUdcNodeHelper env savingPath)).1, status)
  | none => (gadget, .configurationNotSupported)

end Validate

section Setup

variable (env : GadgetEnv) (functions : UInt64) (callback : Option GadgetCallback)
  (transactionId : ℤ) (gadget : UsbGadget)

def tearDownGadget : GadgetStatus :=
  if env.resetGadget ≠ .success then .error else .success

/-- The functions are linked: whether one of them needs its descriptors written. -/
def linkFunctions : Option Bool :=
  let generic := env.addGenericAndroidFunctions functions
  if generic.1 ≠ .success then none
  else
    let isAdb : Bool := functions &&& GadgetFunction.adb ≠ 0
    let adb := if isAdb then env.addAdb generic.2.2 else (.success, generic.2.2)
    if adb.1 ≠ .success then none
    else if functions &&& GadgetFunction.ncm ≠ 0 ∧ env.linkFunction "ncm.gs9" adb.2 ≠ 0 then none
    else some (isAdb || generic.2.1)

def setupFunctions (timeout : UInt64) : UsbGadget × GadgetStatus :=
  match linkFunctions env functions with
  | none => (gadget, .error)
  | some false =>
    let pulled := gadget.write env env.kGadgetName pullupPath
    if pulled.2 then
      let applied := { pulled.1 with mCurrentUsbFunctionsApplied := true }
      match callback with
      | some callback => ((applied.call functions transactionId callback .success).1, .success)
      | none => (applied, .success)
    else (gadget, .error)
  | some true =>
    match callback with
    | some callback =>
      let pullup := env.waitForPullUp timeout
      let called := gadget.call functions transactionId callback (if pullup then .success else .error)
      (called.1, if called.2 then .success else .error)
    | none => (gadget, .success)

/-- The error label. -/
def reportError (status : GadgetStatus) : UsbGadget × ScopedAStatus :=
  match callback with
  | none => (gadget, .serviceSpecificError (-1) "Usb Gadget setcurrent functions failed")
  | some callback =>
    ((gadget.call functions transactionId callback status).1,
      .serviceSpecificError (-1) "Error while calling setCurrentUsbFunctionsCb")

/-- The block for no functions. Its last return stands behind the check of the call, not in it. -/
def setNoFunctions (status : GadgetStatus) : UsbGadget × ScopedAStatus :=
  let written := (gadget.write env "0" (getUdcNodeHelper env savingPath)).1
  match callback with
  | none => (written, .serviceSpecificError (-1) "callback == NULL")
  | some callback =>
    ((written.call functions transactionId callback status).1,
      .serviceSpecificError (-1) "Error while calling setCurrentUsbFunctionsCb")

def setCurrentUsbFunctions (timeout : ℤ) : UsbGadget × ScopedAStatus :=
  let gadget := { gadget with mCurrentUsbFunctions := functions, mCurrentUsbFunctionsApplied := false }
  let status := tearDownGadget env
  if status ≠ .success then reportError functions callback transactionId gadget status
  else if functions = GadgetFunction.none then
    setNoFunctions env functions callback transactionId gadget status
  else
    let validated := validateAndSetVidPid env functions gadget
    if validated.2 ≠ .success then
      reportError functions callback transactionId validated.1 validated.2
    else
      let setup :=
        setupFunctions env functions callback transactionId validated.1 (UInt64.ofInt timeout)
      if setup.2 ≠ .success then reportError functions callback transactionId setup.1 setup.2
      else (setup.1, .ok)

end Setup

/-! ## What is reported -/

section Outcome

variable (env : GadgetEnv) (functions : UInt64) (callback : GadgetCallback) (transactionId : ℤ)
  (gadget : UsbGadget) (timeout : ℤ)

/-- The callback is called once, and the call of the service is `ok` if and only if that call carried a
success and succeeded. -/
def ReportsOutcome (done : UsbGadget × ScopedAStatus) : Prop :=
  ∃ call, done.1.calls = gadget.calls ++ [call] ∧
    (done.2 = .ok ↔ call.status = .success ∧ callback gadget.calls call = true)

/-- Whether the callback takes a success. -/
def takesSuccess : Bool := callback gadget.calls ⟨functions, .success, transactionId⟩

/-- Once the gadget is down, the callback refuses to hear that there are no functions. Where functions
are set up, it takes a success, and descriptors that are waited for are written in time. -/
def OutcomeFollows : Prop :=
  env.resetGadget = .success →
    if functions = GadgetFunction.none then takesSuccess functions callback transactionId gadget = false
    else
      vidPidStatus env functions = .success →
        match linkFunctions env functions with
        | none => True
        | some false => env.writeStringToFile env.kGadgetName pullupPath = true →
            takesSuccess functions callback transactionId gadget = true
        | some true => env.waitForPullUp (UInt64.ofInt timeout) = true ∧
            takesSuccess functions callback transactionId gadget = true

end Outcome

section Exits

variable {env : GadgetEnv} {functions : UInt64} {callback : GadgetCallback} {transactionId : ℤ}
  {gadget before : UsbGadget} {status : GadgetStatus}

@[simp]
theorem calls_write (env : GadgetEnv) (text path : String) :
    (gadget.write env text path).1.calls = gadget.calls := by
  unfold UsbGadget.write
  split <;> rfl

@[simp]
theorem snd_write (env : GadgetEnv) (text path : String) :
    (gadget.write env text path).2 = env.writeStringToFile text path := by
  unfold UsbGadget.write
  split
  · rename_i hwrites
    exact hwrites.symm
  · rename_i hfails
    exact (Bool.eq_false_iff.mpr hfails).symm

theorem calls_validateAndSetVidPid (env : GadgetEnv) (functions : UInt64) (gadget : UsbGadget) :
    (validateAndSetVidPid env functions gadget).1.calls = gadget.calls := by
  unfold validateAndSetVidPid
  split
  · dsimp only
    split
    · rfl
    · exact calls_write _ _ _
  · rfl

theorem snd_validateAndSetVidPid (env : GadgetEnv) (functions : UInt64) (gadget : UsbGadget) :
    (validateAndSetVidPid env functions gadget).2 = vidPidStatus env functions := by
  unfold validateAndSetVidPid vidPidStatus
  cases usbIds.lookup functions with
  | none => rfl
  | some ids =>
    dsimp only
    split <;> rfl

/-- An error is reported as one, where it is the first thing that is reported. -/
theorem reportsOutcome_reportError (hcalls : gadget.calls = before.calls) (hstatus : status ≠ .success) :
    ReportsOutcome callback before
      (reportError functions (some callback) transactionId gadget status) := by
  apply Exists.intro ⟨functions, status, transactionId⟩
  apply And.intro
  · exact congrArg (· ++ _) hcalls
  · exact iff_of_false nofun fun h ↦ hstatus h.1

/-- Without functions an error is returned whatever the callback answers. -/
theorem reportsOutcome_setNoFunctions_iff (hcalls : gadget.calls = before.calls) :
    ReportsOutcome callback before
        (setNoFunctions env functions (some callback) transactionId gadget .success) ↔
      takesSuccess functions callback transactionId before = false := by
  have hdone : (setNoFunctions env functions (some callback) transactionId gadget .success).1.calls =
      before.calls ++ [⟨functions, .success, transactionId⟩] := by
    unfold setNoFunctions UsbGadget.call
    dsimp only
    rw [calls_write, hcalls]
  unfold takesSuccess
  rw [← Bool.not_eq_true]
  constructor
  · intro h
    obtain ⟨call, hcall, hok⟩ := h
    rw [hdone, List.append_cancel_left_eq, List.singleton_inj] at hcall
    subst hcall
    intro htakes
    exact nomatch hok.mpr ⟨rfl, htakes⟩
  · intro hrefuses
    exact ⟨_, hdone, iff_of_false nofun fun h ↦ hrefuses h.2⟩

/-- A function that cannot be linked is an error that nobody has heard of yet. -/
theorem setupFunctions_of_none (hlink : linkFunctions env functions = none) (timeout : UInt64) :
    setupFunctions env functions (some callback) transactionId gadget timeout = (gadget, .error) := by
  unfold setupFunctions
  rw [hlink]

/-- Without descriptors to wait for, the answer of the callback is dropped. -/
theorem setupFunctions_of_false (hlink : linkFunctions env functions = some false) (timeout : UInt64) :
    setupFunctions env functions (some callback) transactionId gadget timeout =
      if env.writeStringToFile env.kGadgetName pullupPath = true then
        (((({ (gadget.write env env.kGadgetName pullupPath).1 with
          mCurrentUsbFunctionsApplied := true } : UsbGadget)).call functions transactionId callback
            .success).1, .success)
      else (gadget, .error) := by
  unfold setupFunctions
  rw [hlink]
  dsimp only
  rw [snd_write]

/-- With descriptors, the status that is returned is the answer of the callback alone. -/
theorem setupFunctions_of_true (hlink : linkFunctions env functions = some true) (timeout : UInt64) :
    setupFunctions env functions (some callback) transactionId gadget timeout =
      let called := gadget.call functions transactionId callback
        (if env.waitForPullUp timeout then .success else .error)
      (called.1, if called.2 then .success else .error) := by
  unfold setupFunctions
  rw [hlink]

/-- What is left to do when the functions have been set up. -/
def finishSetup (functions : UInt64) (callback : GadgetCallback) (transactionId : ℤ)
    (setup : UsbGadget × GadgetStatus) : UsbGadget × ScopedAStatus :=
  if setup.2 ≠ .success then
    reportError functions (some callback) transactionId setup.1 setup.2
  else (setup.1, .ok)

theorem reportsOutcome_immediate_iff (hcalls : gadget.calls = before.calls)
    (hlink : linkFunctions env functions = some false) (timeout : UInt64) :
    ReportsOutcome callback before (finishSetup functions callback transactionId
        (setupFunctions env functions (some callback) transactionId gadget timeout)) ↔
      (env.writeStringToFile env.kGadgetName pullupPath = true →
        takesSuccess functions callback transactionId before = true) := by
  rw [setupFunctions_of_false hlink]
  by_cases hwrites : env.writeStringToFile env.kGadgetName pullupPath = true
  · rw [if_pos hwrites, imp_iff_right hwrites]
    have hdone : ((({ (gadget.write env env.kGadgetName pullupPath).1 with
        mCurrentUsbFunctionsApplied := true } : UsbGadget)).call functions transactionId callback
          .success).1.calls = before.calls ++ [⟨functions, .success, transactionId⟩] := by
      unfold UsbGadget.call
      dsimp only
      rw [calls_write, hcalls]
    constructor
    · intro h
      obtain ⟨call, hcall, hok⟩ := h
      have hsame := hdone.symm.trans hcall
      rw [List.append_cancel_left_eq, List.singleton_inj] at hsame
      rw [← hsame] at hok
      exact (hok.mp rfl).2
    · intro htakes
      exact ⟨_, hdone, iff_of_true rfl ⟨rfl, htakes⟩⟩
  · rw [if_neg hwrites]
    apply iff_of_true _ fun h ↦ absurd h hwrites
    exact reportsOutcome_reportError hcalls nofun

/-- An answer that is an error is followed by a second call, and a missing pull-up by an `ok`. -/
theorem reportsOutcome_waited_iff (hcalls : gadget.calls = before.calls)
    (hlink : linkFunctions env functions = some true) (timeout : UInt64) :
    ReportsOutcome callback before (finishSetup functions callback transactionId
        (setupFunctions env functions (some callback) transactionId gadget timeout)) ↔
      env.waitForPullUp timeout = true ∧
        takesSuccess functions callback transactionId before = true := by
  rw [setupFunctions_of_true hlink]
  dsimp only
  generalize hstatus : (if env.waitForPullUp timeout then GadgetStatus.success else .error) = status
  have hpulled : status = .success ↔ env.waitForPullUp timeout = true := by
    rw [← hstatus]
    cases env.waitForPullUp timeout with
    | true => exact iff_of_true rfl rfl
    | false => exact iff_of_false nofun nofun
  have hcall : (gadget.call functions transactionId callback status).1.calls =
      before.calls ++ [⟨functions, status, transactionId⟩] := congrArg (· ++ _) hcalls
  have hanswer : (gadget.call functions transactionId callback status).2 =
      callback before.calls ⟨functions, status, transactionId⟩ := by
    unfold UsbGadget.call
    rw [hcalls]
  rw [hanswer]
  cases htakes : callback before.calls ⟨functions, status, transactionId⟩ with
  | false =>
    apply iff_of_false
    · intro h
      obtain ⟨call, hcalls', -⟩ := h
      have htwice : (gadget.call functions transactionId callback status).1.calls ++
          [⟨functions, .error, transactionId⟩] = before.calls ++ [call] := hcalls'
      have hlength := congrArg List.length htwice
      simp only [hcall, List.length_append, List.length_singleton] at hlength
      omega
    · intro h
      rw [hpulled.mpr h.1] at htakes
      exact absurd (htakes.symm.trans h.2) Bool.false_ne_true
  | true =>
    constructor
    · intro h
      obtain ⟨call, hcalls', hok⟩ := h
      have hsame := hcall.symm.trans hcalls'
      rw [List.append_cancel_left_eq, List.singleton_inj] at hsame
      rw [← hsame] at hok
      have hsuccess := (hok.mp rfl).1
      dsimp only at hsuccess
      rw [hsuccess] at htakes
      exact ⟨hpulled.mp hsuccess, htakes⟩
    · intro h
      exact ⟨_, hcall, iff_of_true rfl ⟨hpulled.mpr h.1, htakes⟩⟩

end Exits

/-- The outcome is reported, once and truly, if and only if it follows from what the callback answers. -/
theorem setCurrentUsbFunctions_reports_iff (env : GadgetEnv) (functions : UInt64)
    (callback : GadgetCallback) (transactionId : ℤ) (gadget : UsbGadget) (timeout : ℤ) :
    ReportsOutcome callback gadget
        (setCurrentUsbFunctions env functions (some callback) transactionId gadget timeout) ↔
      OutcomeFollows env functions callback transactionId gadget timeout := by
  unfold setCurrentUsbFunctions OutcomeFollows tearDownGadget
  by_cases hreset : env.resetGadget = .success
  · rw [if_neg (not_not.mpr hreset), if_neg (not_not.mpr rfl), imp_iff_right hreset]
    by_cases hnone : functions = GadgetFunction.none
    · rw [if_pos hnone, if_pos hnone]
      exact reportsOutcome_setNoFunctions_iff rfl
    · rw [if_neg hnone, if_neg hnone]
      dsimp only
      rw [snd_validateAndSetVidPid]
      have hcalls := calls_validateAndSetVidPid env functions
        { gadget with mCurrentUsbFunctions := functions, mCurrentUsbFunctionsApplied := false }
      by_cases hvalid : vidPidStatus env functions = .success
      · rw [if_neg (not_not.mpr hvalid), imp_iff_right hvalid]
        cases hlink : linkFunctions env functions with
        | none =>
          rw [setupFunctions_of_none hlink, if_pos nofun]
          exact iff_of_true (reportsOutcome_reportError hcalls nofun) trivial
        | some waits =>
          cases waits with
          | false => exact reportsOutcome_immediate_iff hcalls hlink _
          | true => exact reportsOutcome_waited_iff hcalls hlink _
      · rw [if_pos hvalid]
        exact iff_of_true (reportsOutcome_reportError hcalls hvalid) fun h ↦ absurd h hvalid
  · rw [if_pos hreset, if_pos nofun]
    exact iff_of_true (reportsOutcome_reportError rfl nofun) fun h ↦ absurd h hreset

/-- A gadget of the controller `usb0` for which everything succeeds. -/
def workingGadget : GadgetEnv where
  resetGadget := .success
  setVidPid := fun _ _ ↦ .success
  addGenericAndroidFunctions := fun _ ↦ (.success, false, 0)
  addAdb := fun i ↦ (.success, i + 1)
  linkFunction := fun _ _ ↦ 0
  writeStringToFile := fun _ _ ↦ true
  waitForPullUp := fun _ ↦ true
  kGadgetName := "usb0"

/-- A callback that takes everything hears of the success, and the service returns an error. -/
theorem setCurrentUsbFunctions_none_not_reports :
    ¬ ReportsOutcome (fun _ _ ↦ true) ⟨0, false, [], []⟩
      (setCurrentUsbFunctions workingGadget GadgetFunction.none (some fun _ _ ↦ true) 7
        ⟨0, false, [], []⟩ 1000) := by
  intro h
  obtain ⟨call, hcalls, hok⟩ := h
  have hdone : (setCurrentUsbFunctions workingGadget GadgetFunction.none (some fun _ _ ↦ true) 7
      ⟨0, false, [], []⟩ 1000).1.calls = [⟨0, .success, 7⟩] := by decide +kernel
  have hcall : (⟨0, .success, 7⟩ : FunctionsCall) = call := List.singleton_inj.mp (hdone.symm.trans hcalls)
  rw [← hcall] at hok
  exact absurd (hok.mpr ⟨rfl, rfl⟩) (by decide +kernel)

end HardwareMediatek.Usb
