import HardwareMediatek.Usb.RoleSwitch

/-!
# Runs of role switches

What a switch reports is measured by a record of what has happened since it began, which is kept beside
the system. The record says the same as the phase of the switch, whatever the worker and the callers do
in between.
-/

namespace HardwareMediatek.Usb

open Foundation

section Record

/-- The role was written, and it is the one that was read back. -/
def SwitchCall.confirms (call : SwitchCall) (isWritten : Bool) (readBack : Option String) : Bool :=
  isWritten && readBack.any (confirmsRole call.role)

/-- What has happened since the last switch began: whether the type was written and a partner was
handled afterwards, whether the wait timed out, the attempts at a node, and whether one of them was
confirmed. -/
structure Progress where
  call : Option SwitchCall := none
  isTypeWritten : Bool := false
  hasPartner : Bool := false
  hasTimedOut : Bool := false
  isConfirmed : Bool := false
  tries : ℕ := 0
deriving DecidableEq, Repr

def Progress.after (progress : Progress) : UsbEffect → Progress
  | .called call => { call := some call }
  | .wroteType _ _ => { progress with isTypeWritten := true, hasPartner := false }
  | .partnerAdded => { progress with hasPartner := true }
  | .timedOut => { progress with hasTimedOut := true }
  | .tried isWritten readBack =>
    { progress with
      isConfirmed := progress.isConfirmed || progress.call.any (·.confirms isWritten readBack)
      tries := progress.tries + 1 }
  | .finished _ _ _ => { progress with call := none }
  | .restored _ _ _ | .statusChanged _ => progress

def progressOf (effects : List UsbEffect) : Progress := effects.foldl Progress.after {}

/-- A mode was switched when its type was written and the wait did not time out, and a partner has been
handled since; another role was switched when it was read back, for which there are twenty attempts. -/
def Progress.Reports (progress : Progress) (call : SwitchCall) (roleSwitch : Bool) : Prop :=
  progress.call = some call ∧
    if call.role.getTag = .mode then
      (roleSwitch = true ↔ progress.isTypeWritten = true ∧ progress.hasTimedOut = false) ∧
        (roleSwitch = true → progress.hasPartner = true)
    else
      roleSwitch = progress.isConfirmed ∧ progress.tries ≤ kRoleSwitchTries ∧
        (roleSwitch = false → progress.tries = if call.canSwitch then kRoleSwitchTries else 0)

/-- What is reported is what has happened, and only a switch that has begun is reported. -/
def UsbEffect.ReportsTruly (before : List UsbEffect) : UsbEffect → Prop
  | .finished call roleSwitch _ => (progressOf before).Reports call roleSwitch
  | _ => True

/-- One switch at a time, and nothing else writes the type of a port meanwhile. -/
def UsbEffect.WritesAlone (before : List UsbEffect) : UsbEffect → Prop
  | .called _ => (progressOf before).call = none
  | .wroteType portName text => ∃ call, (progressOf before).call = some call ∧
      portName = call.portName ∧ text = convertRoletoString call.role ∧ call.role.getTag = .mode
  | .restored portName _ byWorker =>
    if byWorker then (progressOf before).call = none
    else ∃ call, (progressOf before).call = some call ∧ portName = call.portName
  | _ => True

def UsbEffect.restores (portName : String) : UsbEffect → Bool
  | .restored restoredName _ _ => restoredName = portName
  | _ => false

def UsbEffect.forces (portName : String) : UsbEffect → Bool
  | .wroteType writtenName _ => writtenName = portName
  | _ => false

/-- The type of the port was written, and since then nobody has tried to switch it back. -/
def isForced (portName : String) (effects : List UsbEffect) : Bool :=
  anySince (UsbEffect.restores portName) (UsbEffect.forces portName) effects

def SwitchPhase.call : SwitchPhase → Option SwitchCall
  | .idle => none
  | .opening call | .waiting call | .restoring call _ | .trying call _ | .notifying call _ => some call

/-- The ports whose type is written and not restored yet. -/
def SwitchPhase.forced : SwitchPhase → Option String
  | .waiting call | .restoring call _ => some call.portName
  | _ => none

end Record

section Cases

/-- What each step can do. -/
inductive UsbSystem.StepCase (system : UsbSystem) : UsbStep → UsbSystem → List UsbEffect → Prop where
  | called {call : SwitchCall} (hidle : system.phase = .idle) :
      StepCase system (.switchRole call) { system with phase := call.entered } [.called call]
  | written {call : SwitchCall} (hphase : system.phase = .opening call) :
      StepCase system (.openNode (some true))
        { system with phase := .waiting call, mPartnerUp := false }
        [.wroteType call.portName (convertRoletoString call.role)]
  | unwritten {call : SwitchCall} {write : Option Bool} {mPartnerUp : Bool}
      (hphase : system.phase = .opening call) (hwrite : write ≠ some true) :
      StepCase system (.openNode write)
        { system with phase := .restoring call false, mPartnerUp := mPartnerUp } []
  | timedOut {call : SwitchCall} (hphase : system.phase = .waiting call) :
      StepCase system (.wake true) { system with phase := .restoring call false } [.timedOut]
  | woken {call : SwitchCall} (hphase : system.phase = .waiting call)
      (hpartner : system.mPartnerUp = true) :
      StepCase system (.wake false) { system with phase := .restoring call true } []
  | waitsAgain {call : SwitchCall} (hphase : system.phase = .waiting call)
      (hpartner : system.mPartnerUp = false) : StepCase system (.wake false) system []
  | restored {call : SwitchCall} {roleSwitch isWritten : Bool}
      (hphase : system.phase = .restoring call roleSwitch) :
      StepCase system (.switchToDrp isWritten) { system with phase := .notifying call roleSwitch }
        [.restored call.portName isWritten false]
  | confirmed {call : SwitchCall} {tries : ℕ} {isWritten : Bool} {readBack : Option String}
      (hphase : system.phase = .trying call tries)
      (hconfirms : call.confirms isWritten readBack = true) :
      StepCase system (.attempt isWritten readBack) { system with phase := .notifying call true }
        [.tried isWritten readBack]
  | triesAgain {call : SwitchCall} {tries : ℕ} {isWritten : Bool} {readBack : Option String}
      (hphase : system.phase = .trying call tries)
      (hconfirms : call.confirms isWritten readBack = false) (hmore : tries + 1 < kRoleSwitchTries) :
      StepCase system (.attempt isWritten readBack) { system with phase := .trying call (tries + 1) }
        [.tried isWritten readBack]
  | refused {call : SwitchCall} {tries : ℕ} {isWritten : Bool} {readBack : Option String}
      (hphase : system.phase = .trying call tries)
      (hconfirms : call.confirms isWritten readBack = false) (hlast : ¬ tries + 1 < kRoleSwitchTries) :
      StepCase system (.attempt isWritten readBack) { system with phase := .notifying call false }
        [.tried isWritten readBack]
  | notified {call : SwitchCall} {roleSwitch : Bool}
      (hphase : system.phase = .notifying call roleSwitch) (hfree : system.joining = false) :
      StepCase system .notify { system with phase := .idle }
        [.finished call roleSwitch system.mCallback]
  | started {opened : Bool} (hworker : system.worker = some .starting) :
      StepCase system (.start opened)
        { system with worker := if opened then some (.handling []) else none } []
  | tested (hworker : system.worker = some (.handling [])) :
      StepCase system .test
        { system with worker := if system.destroyThread then none else some .polling } []
  | polled (hworker : system.worker = some .polling) :
      StepCase system .poll { system with worker := some .waiting } []
  | received {message : List String} (hworker : system.worker = some .waiting) :
      StepCase system (.receive message)
        { system with worker := some (.handling (ueventActions message)) } []
  | waitFailed (hworker : system.worker = some .waiting) :
      StepCase system .failWait { system with worker := none } []
  | partner {rest : List UeventAction}
      (hworker : system.worker = some (.handling (.partnerAdded :: rest))) :
      StepCase system .handlePartner
        { system with worker := some (.handling rest), mPartnerUp := true } [.partnerAdded]
  | port {rest : List UeventAction} {ports : List ListedPort}
      (hworker : system.worker = some (.handling (.portChanged :: rest)))
      (hfree : system.joining = false) :
      StepCase system (.handlePort ports) { system with worker := some (.handling rest) }
        ((system.mCallback.toList.map UsbEffect.statusChanged) ++
          if system.phase = .idle then restoreIdle ports else [])
  | callbackSet {callback : Option ℕ} {succeeded : Bool} {final : UsbSystem}
      (hfree : system.joining = false) (hset : system.setCallback callback succeeded = some final) :
      StepCase system (.setCallback callback succeeded) final []
  | joined (hjoining : system.joining = true) (hworker : system.worker = none) :
      StepCase system .joined { system with joining := false } []

variable {system final : UsbSystem} {next : UsbStep} {new : List UsbEffect}

theorem UsbSystem.step_cases (hstep : system.step next = some (final, new)) :
    system.StepCase next final new := by
  cases next with
  | switchRole call =>
    dsimp only [UsbSystem.step] at hstep
    split_ifs at hstep with hidle
    cases hstep
    exact .called hidle
  | openNode write =>
    dsimp only [UsbSystem.step] at hstep
    cases hphase : system.phase <;> rw [hphase] at hstep <;> try cases hstep
    cases write with
    | none =>
      cases hstep
      exact .unwritten hphase (by simp)
    | some ok =>
      cases ok with
      | false =>
        cases hstep
        exact .unwritten hphase (by simp)
      | true =>
        cases hstep
        exact .written hphase
  | wake timedOut =>
    dsimp only [UsbSystem.step] at hstep
    cases hphase : system.phase <;> rw [hphase] at hstep <;> try cases hstep
    cases timedOut with
    | true =>
      cases hstep
      exact .timedOut hphase
    | false =>
      dsimp only at hstep
      rw [if_neg Bool.false_ne_true] at hstep
      split_ifs at hstep with hpartner
      · cases hstep
        exact .woken hphase hpartner
      · cases hstep
        exact .waitsAgain hphase (Bool.eq_false_iff.mpr hpartner)
  | switchToDrp isWritten =>
    dsimp only [UsbSystem.step] at hstep
    cases hphase : system.phase <;> rw [hphase] at hstep <;> try cases hstep
    exact .restored hphase
  | attempt isWritten readBack =>
    dsimp only [UsbSystem.step] at hstep
    cases hphase : system.phase <;> rw [hphase] at hstep <;> try cases hstep
    dsimp only at hstep
    split_ifs at hstep with hconfirmed hmore
    · cases hstep
      exact .confirmed hphase hconfirmed
    · cases hstep
      exact .triesAgain hphase (Bool.eq_false_iff.mpr hconfirmed) hmore
    · cases hstep
      exact .refused hphase (Bool.eq_false_iff.mpr hconfirmed) hmore
  | notify =>
    dsimp only [UsbSystem.step] at hstep
    cases hphase : system.phase <;> rw [hphase] at hstep <;> try cases hstep
    dsimp only at hstep
    split_ifs at hstep with hjoining
    cases hstep
    exact .notified hphase (Bool.eq_false_iff.mpr hjoining)
  | start opened =>
    dsimp only [UsbSystem.step] at hstep
    split at hstep
    · rename_i hworker
      cases hstep
      exact .started hworker
    · cases hstep
  | test =>
    dsimp only [UsbSystem.step] at hstep
    split at hstep
    · rename_i hworker
      cases hstep
      exact .tested hworker
    · cases hstep
  | poll =>
    dsimp only [UsbSystem.step] at hstep
    split_ifs at hstep with hworker
    cases hstep
    exact .polled hworker
  | receive message =>
    dsimp only [UsbSystem.step] at hstep
    split_ifs at hstep with hworker
    cases hstep
    exact .received hworker
  | failWait =>
    dsimp only [UsbSystem.step] at hstep
    split_ifs at hstep with hworker
    cases hstep
    exact .waitFailed hworker
  | handlePartner =>
    dsimp only [UsbSystem.step] at hstep
    split at hstep
    · rename_i rest hworker
      cases hstep
      exact .partner hworker
    · cases hstep
  | handlePort ports =>
    dsimp only [UsbSystem.step] at hstep
    split at hstep
    · rename_i rest hworker
      by_cases hjoining : system.joining = true
      · rw [if_pos hjoining] at hstep
        cases hstep
      · rw [if_neg hjoining] at hstep
        cases hstep
        exact .port hworker (Bool.eq_false_iff.mpr hjoining)
    · cases hstep
  | setCallback callback succeeded =>
    dsimp only [UsbSystem.step] at hstep
    split_ifs at hstep with hjoining
    obtain ⟨final, hset, hsame⟩ := Option.map_eq_some_iff.mp hstep
    cases hsame
    exact .callbackSet (Bool.eq_false_iff.mpr hjoining) hset
  | joined =>
    dsimp only [UsbSystem.step] at hstep
    split_ifs at hstep with hjoins
    cases hstep
    exact .joined hjoins.1 hjoins.2

/-- Setting the callback is no business of a switch. -/
theorem UsbSystem.setCallback_phase {callback : Option ℕ} {succeeded : Bool}
    (hset : system.setCallback callback succeeded = some final) :
    final.phase = system.phase ∧ final.mPartnerUp = system.mPartnerUp := by
  unfold UsbSystem.setCallback at hset
  split at hset
  · split_ifs at hset <;> cases hset <;> exact ⟨rfl, rfl⟩
  · split_ifs at hset <;> cases hset <;> exact ⟨rfl, rfl⟩
  · cases hset
    exact ⟨rfl, rfl⟩

end Cases

section Effects

theorem progressOf_concat (effects : List UsbEffect) (effect : UsbEffect) :
    progressOf (effects ++ [effect]) = (progressOf effects).after effect := by
  simp [progressOf]

/-- What the worker does for a change of a port. -/
def IsPortChange (new : List UsbEffect) : Prop :=
  ∀ effect ∈ new, (∃ callback, effect = .statusChanged callback) ∨
    ∃ portName isWritten, effect = .restored portName isWritten true

theorem isPortChange_port (callback : Option ℕ) (ports : List ListedPort) (phase : SwitchPhase) :
    IsPortChange ((callback.toList.map UsbEffect.statusChanged) ++
      if phase = .idle then restoreIdle ports else []) := by
  intro effect heffect
  cases List.mem_append.mp heffect with
  | inl hstatus =>
    obtain ⟨callback, _, hsame⟩ := List.mem_map.mp hstatus
    exact Or.inl ⟨callback, hsame.symm⟩
  | inr hrestored =>
    split_ifs at hrestored
    · obtain ⟨port, _, hsame⟩ := List.mem_map.mp hrestored
      exact Or.inr ⟨port.portName, port.isWritten, hsame.symm⟩
    · exact absurd hrestored List.not_mem_nil

/-- A change of a port is no progress of a switch. -/
theorem progressOf_portChange (effects : List UsbEffect) {new : List UsbEffect}
    (hchange : IsPortChange new) : progressOf (effects ++ new) = progressOf effects := by
  induction new using List.reverseRecOn with
  | nil => rw [List.append_nil]
  | append_singleton new effect ih =>
    have hlast := hchange effect (by simp)
    have hearlier : IsPortChange new := fun x hx ↦ hchange x (List.mem_append_left _ hx)
    rw [← List.append_assoc, progressOf_concat, ih hearlier]
    cases hlast with
    | inl hstatus =>
      obtain ⟨callback, hsame⟩ := hstatus
      rw [hsame]
      rfl
    | inr hrestored =>
      obtain ⟨portName, isWritten, hsame⟩ := hrestored
      rw [hsame]
      rfl

theorem isForced_concat (portName : String) (effects : List UsbEffect) (effect : UsbEffect) :
    isForced portName (effects ++ [effect]) =
      (!effect.restores portName && (effect.forces portName || isForced portName effects)) :=
  anySince_concat _ _ effects effect

theorem isForced_portChange {portName : String} {effects new : List UsbEffect}
    (hchange : IsPortChange new) (hforced : isForced portName (effects ++ new) = true) :
    isForced portName effects = true := by
  induction new using List.reverseRecOn with
  | nil => rwa [List.append_nil] at hforced
  | append_singleton new effect ih =>
    have hearlier : IsPortChange new := fun x hx ↦ hchange x (List.mem_append_left _ hx)
    apply ih hearlier
    rw [← List.append_assoc, isForced_concat] at hforced
    cases hchange effect (by simp) with
    | inl hstatus =>
      obtain ⟨callback, hsame⟩ := hstatus
      rw [hsame] at hforced
      simpa [UsbEffect.forces, UsbEffect.restores] using hforced
    | inr hrestored =>
      obtain ⟨portName, isWritten, hsame⟩ := hrestored
      rw [hsame] at hforced
      simp only [UsbEffect.forces, Bool.false_or, Bool.and_eq_true] at hforced
      exact hforced.2

end Effects

section Invariant

/-- What the phase of a switch says about what has happened since it began. -/
def SwitchPhase.Describes (mPartnerUp : Bool) (progress : Progress) : SwitchPhase → Prop
  | .idle => progress.call = none
  | .opening call =>
    progress.call = some call ∧ progress.isTypeWritten = false ∧ progress.hasTimedOut = false ∧
      call.role.getTag = .mode
  | .waiting call =>
    progress.call = some call ∧ progress.isTypeWritten = true ∧ progress.hasTimedOut = false ∧
      progress.hasPartner = mPartnerUp ∧ call.role.getTag = .mode
  | .restoring call roleSwitch => progress.Reports call roleSwitch
  | .trying call tries =>
    progress.call = some call ∧ progress.isConfirmed = false ∧ progress.tries = tries ∧
      tries < kRoleSwitchTries ∧ call.role.getTag ≠ .mode ∧ call.canSwitch = true
  | .notifying call roleSwitch => progress.Reports call roleSwitch

/-- The record and the phase agree, and only the switch in progress keeps the type of its port. -/
structure SwitchOf (system : UsbSystem) (effects : List UsbEffect) : Prop where
  phase : system.phase.Describes system.mPartnerUp (progressOf effects)
  forced : ∀ portName, isForced portName effects = true → system.phase.forced = some portName

variable {system final : UsbSystem} {effects new : List UsbEffect} {next : UsbStep}

theorem switchOf_initial : SwitchOf {} [] where
  phase := rfl
  forced _ hforced := absurd hforced (by simp [isForced])

/-- The holder of the lock is the switch of the record. -/
theorem SwitchOf.call (h : SwitchOf system effects) :
    (progressOf effects).call = system.phase.call := by
  have hphase := h.phase
  cases hcase : system.phase <;> rw [hcase] at hphase
  · exact hphase
  all_goals exact hphase.1

theorem Progress.Reports.partner {progress : Progress} {call : SwitchCall} {roleSwitch : Bool}
    (h : progress.Reports call roleSwitch) :
    (progress.after .partnerAdded).Reports call roleSwitch := by
  apply And.intro h.1
  have hreport := h.2
  by_cases hmode : call.role.getTag = .mode
  · rw [if_pos hmode] at hreport ⊢
    exact ⟨hreport.1, fun _ ↦ rfl⟩
  · rw [if_neg hmode] at hreport ⊢
    exact hreport

/-- A partner that comes up is recorded for a switch that waits, and changes nothing for another one. -/
theorem SwitchPhase.Describes.partner {phase : SwitchPhase} {mPartnerUp : Bool} {progress : Progress}
    (h : phase.Describes mPartnerUp progress) :
    phase.Describes true (progress.after .partnerAdded) := by
  cases phase with
  | idle => exact h
  | opening call => exact h
  | waiting call => exact ⟨h.1, h.2.1, h.2.2.1, rfl, h.2.2.2.2⟩
  | restoring call roleSwitch => exact Progress.Reports.partner h
  | trying call tries => exact h
  | notifying call roleSwitch => exact Progress.Reports.partner h

/-- A switch begins with nothing on record. -/
theorem SwitchCall.entered_describes (call : SwitchCall) (mPartnerUp : Bool) :
    call.entered.Describes mPartnerUp { call := some call } := by
  unfold SwitchCall.entered
  split_ifs with hmode hswitch
  · exact ⟨rfl, rfl, rfl, hmode⟩
  · exact ⟨rfl, rfl, rfl, by decide, hmode, hswitch⟩
  · refine ⟨rfl, ?_⟩
    rw [if_neg hmode]
    exact ⟨rfl, Nat.zero_le _, fun _ ↦ (if_neg hswitch).symm⟩

/-- Nothing was written, so nothing was switched. -/
theorem SwitchPhase.Describes.unwritten {call : SwitchCall} {mPartnerUp : Bool} {progress : Progress}
    (h : (SwitchPhase.opening call).Describes mPartnerUp progress) : progress.Reports call false := by
  refine ⟨h.1, ?_⟩
  rw [if_pos h.2.2.2, h.2.1]
  simp

theorem SwitchPhase.Describes.timedOut {call : SwitchCall} {mPartnerUp : Bool} {progress : Progress}
    (h : (SwitchPhase.waiting call).Describes mPartnerUp progress) :
    (progress.after .timedOut).Reports call false := by
  refine ⟨h.1, ?_⟩
  rw [if_pos h.2.2.2.2]
  simp [Progress.after]

theorem SwitchPhase.Describes.woken {call : SwitchCall} {progress : Progress}
    (h : (SwitchPhase.waiting call).Describes true progress) : progress.Reports call true := by
  refine ⟨h.1, ?_⟩
  rw [if_pos h.2.2.2.2, h.2.1, h.2.2.1, h.2.2.2.1]
  simp

/-- What an attempt adds to the record of its switch. -/
theorem SwitchPhase.Describes.isConfirmed_tried {call : SwitchCall} {tries : ℕ} {mPartnerUp : Bool}
    {progress : Progress} (h : (SwitchPhase.trying call tries).Describes mPartnerUp progress)
    (isWritten : Bool) (readBack : Option String) :
    (progress.after (.tried isWritten readBack)).isConfirmed = call.confirms isWritten readBack := by
  change (progress.isConfirmed || progress.call.any (·.confirms isWritten readBack)) = _
  rw [h.1, h.2.1]
  rfl

theorem SwitchPhase.Describes.confirmed {call : SwitchCall} {tries : ℕ} {mPartnerUp : Bool}
    {progress : Progress} (h : (SwitchPhase.trying call tries).Describes mPartnerUp progress)
    {isWritten : Bool} {readBack : Option String} (hconfirms : call.confirms isWritten readBack = true) :
    (progress.after (.tried isWritten readBack)).Reports call true := by
  refine ⟨h.1, ?_⟩
  rw [if_neg h.2.2.2.2.1, h.isConfirmed_tried, hconfirms]
  refine ⟨rfl, ?_, by simp⟩
  change progress.tries + 1 ≤ kRoleSwitchTries
  rw [h.2.2.1]
  exact h.2.2.2.1

theorem SwitchPhase.Describes.triesAgain {call : SwitchCall} {tries : ℕ} {mPartnerUp : Bool}
    {progress : Progress} (h : (SwitchPhase.trying call tries).Describes mPartnerUp progress)
    {isWritten : Bool} {readBack : Option String} (hconfirms : call.confirms isWritten readBack = false)
    (hmore : tries + 1 < kRoleSwitchTries) :
    (SwitchPhase.trying call (tries + 1)).Describes mPartnerUp
      (progress.after (.tried isWritten readBack)) :=
  ⟨h.1, (h.isConfirmed_tried isWritten readBack).trans hconfirms, congrArg (· + 1) h.2.2.1, hmore,
    h.2.2.2.2⟩

/-- The last attempt has failed. -/
theorem SwitchPhase.Describes.refused {call : SwitchCall} {tries : ℕ} {mPartnerUp : Bool}
    {progress : Progress} (h : (SwitchPhase.trying call tries).Describes mPartnerUp progress)
    {isWritten : Bool} {readBack : Option String} (hconfirms : call.confirms isWritten readBack = false)
    (hlast : ¬ tries + 1 < kRoleSwitchTries) :
    (progress.after (.tried isWritten readBack)).Reports call false := by
  have htries : (progress.after (.tried isWritten readBack)).tries = tries + 1 :=
    congrArg (· + 1) h.2.2.1
  have hbound := h.2.2.2.1
  refine ⟨h.1, ?_⟩
  rw [if_neg h.2.2.2.2.1, h.isConfirmed_tried, hconfirms, htries]
  refine ⟨rfl, hbound, fun _ ↦ ?_⟩
  rw [if_pos h.2.2.2.2.2]
  omega

/-- The phase after a step describes the record with its effects. -/
theorem SwitchOf.describes_step (h : SwitchOf system effects)
    (hstep : system.step next = some (final, new)) :
    final.phase.Describes final.mPartnerUp (progressOf (effects ++ new)) := by
  have hdescribes := h.phase
  cases UsbSystem.step_cases hstep with
  | called hidle =>
    rw [progressOf_concat]
    exact SwitchCall.entered_describes _ system.mPartnerUp
  | written hphase =>
    rw [hphase] at hdescribes
    rw [progressOf_concat]
    exact ⟨hdescribes.1, rfl, hdescribes.2.2.1, rfl, hdescribes.2.2.2⟩
  | unwritten hphase hwrite =>
    rw [hphase] at hdescribes
    rw [List.append_nil]
    exact hdescribes.unwritten
  | timedOut hphase =>
    rw [hphase] at hdescribes
    rw [progressOf_concat]
    exact hdescribes.timedOut
  | woken hphase hpartner =>
    rw [hphase, hpartner] at hdescribes
    rw [List.append_nil]
    exact hdescribes.woken
  | restored hphase =>
    rw [hphase] at hdescribes
    rw [progressOf_concat]
    exact hdescribes
  | confirmed hphase hconfirms =>
    rw [hphase] at hdescribes
    rw [progressOf_concat]
    exact hdescribes.confirmed hconfirms
  | triesAgain hphase hconfirms hmore =>
    rw [hphase] at hdescribes
    rw [progressOf_concat]
    exact hdescribes.triesAgain hconfirms hmore
  | refused hphase hconfirms hlast =>
    rw [hphase] at hdescribes
    rw [progressOf_concat]
    exact hdescribes.refused hconfirms hlast
  | notified hphase hfree =>
    rw [progressOf_concat]
    rfl
  | partner hworker =>
    rw [progressOf_concat]
    exact hdescribes.partner
  | port hworker hfree =>
    rw [progressOf_portChange effects (isPortChange_port _ _ _)]
    exact hdescribes
  | callbackSet hfree hset =>
    have hsame := UsbSystem.setCallback_phase hset
    rw [List.append_nil, hsame.1, hsame.2]
    exact hdescribes
  | waitsAgain | started | tested | polled | received | waitFailed | joined =>
    rw [List.append_nil]
    exact hdescribes

/-- A port that was forced and is not restored by an effect was forced by it, or before. -/
theorem SwitchOf.forced_concat (h : SwitchOf system effects) {effect : UsbEffect} {portName : String}
    (hforced : isForced portName (effects ++ [effect]) = true) :
    effect.restores portName = false ∧
      (effect.forces portName = true ∨ system.phase.forced = some portName) := by
  rw [isForced_concat, Bool.and_eq_true, Bool.not_eq_true', Bool.or_eq_true] at hforced
  exact ⟨hforced.1, hforced.2.imp_right (h.forced portName)⟩

theorem SwitchOf.forced_step (h : SwitchOf system effects)
    (hstep : system.step next = some (final, new)) {portName : String}
    (hforced : isForced portName (effects ++ new) = true) : final.phase.forced = some portName := by
  cases UsbSystem.step_cases hstep with
  | called hphase | confirmed hphase | triesAgain hphase | refused hphase | notified hphase =>
    have hbefore := (h.forced_concat hforced).2
    rw [hphase] at hbefore
    simp [UsbEffect.forces, SwitchPhase.forced] at hbefore
  | written hphase =>
    have hbefore := (h.forced_concat hforced).2
    rw [hphase] at hbefore
    have hsame := hbefore.resolve_right (by simp [SwitchPhase.forced])
    exact congrArg some (of_decide_eq_true hsame)
  | unwritten hphase hwrite =>
    rw [List.append_nil] at hforced
    have hnone := h.forced portName hforced
    rw [hphase] at hnone
    exact absurd hnone (by simp [SwitchPhase.forced])
  | timedOut hphase =>
    have hbefore := (h.forced_concat hforced).2
    rw [hphase] at hbefore
    exact hbefore.resolve_left (by simp [UsbEffect.forces])
  | woken hphase hpartner =>
    rw [List.append_nil] at hforced
    have hport := h.forced portName hforced
    rw [hphase] at hport
    exact hport
  | restored hphase =>
    obtain ⟨hnot, hbefore⟩ := h.forced_concat hforced
    rw [hphase] at hbefore
    have hsame := Option.some.inj (hbefore.resolve_left (by simp [UsbEffect.forces]))
    exact absurd hsame (of_decide_eq_false hnot)
  | partner hworker => exact (h.forced_concat hforced).2.resolve_left (by simp [UsbEffect.forces])
  | port hworker hfree =>
    exact h.forced portName (isForced_portChange (isPortChange_port _ _ _) hforced)
  | callbackSet hfree hset =>
    rw [List.append_nil] at hforced
    rw [(UsbSystem.setCallback_phase hset).1]
    exact h.forced portName hforced
  | waitsAgain | started | tested | polled | received | waitFailed | joined =>
    rw [List.append_nil] at hforced
    exact h.forced portName hforced

theorem SwitchOf.step (h : SwitchOf system effects) (hstep : system.step next = some (final, new)) :
    SwitchOf final (effects ++ new) :=
  ⟨h.describes_step hstep, fun _ ↦ h.forced_step hstep⟩

theorem switchOf_run {steps : List UsbStep}
    (hrun : runSteps UsbSystem.step {} steps = some (final, effects)) : SwitchOf final effects :=
  runSteps_keeps UsbSystem.step (fun _ system effects ↦ SwitchOf system effects) switchOf_initial
    (fun _ _ _ _ _ _ h hstep ↦ h.step hstep) hrun

end Invariant

section Reports

variable {steps : List UsbStep} {system final : UsbSystem} {effects new : List UsbEffect}
  {next : UsbStep}

theorem IsPortChange.reportsTruly (hchange : IsPortChange new) :
    EachAfter (fun earlier ↦ UsbEffect.ReportsTruly (effects ++ earlier)) new := by
  intro before effect after hnew
  cases hchange effect (by simp [hnew]) with
  | inl hstatus =>
    obtain ⟨callback, hsame⟩ := hstatus
    rw [hsame]
    exact trivial
  | inr hrestored =>
    obtain ⟨portName, isWritten, hsame⟩ := hrestored
    rw [hsame]
    exact trivial

/-- Only the end of a switch reports one. -/
theorem SwitchOf.reportsTruly (h : SwitchOf system effects)
    (hstep : system.step next = some (final, new)) :
    EachAfter (fun earlier ↦ UsbEffect.ReportsTruly (effects ++ earlier)) new := by
  have hdescribes := h.phase
  cases UsbSystem.step_cases hstep with
  | port hworker hfree => exact (isPortChange_port _ _ _).reportsTruly
  | notified hphase hfree =>
    rw [hphase] at hdescribes
    rw [eachAfter_singleton, List.append_nil]
    exact hdescribes
  | unwritten | woken | waitsAgain | started | tested | polled | received | waitFailed | callbackSet
    | joined =>
    exact eachAfter_nil _
  | called | written | timedOut | restored | confirmed | triesAgain | refused | partner =>
    rw [eachAfter_singleton]
    exact trivial

/-- Whatever the kernel, the worker and the callers do, a callback is told of a switch what has happened
to it: a partner that was handled before the type was written, or a node from which another role is read
back, is not taken for a success. -/
theorem switchRole_reports_truly
    (hrun : runSteps UsbSystem.step {} steps = some (final, effects)) :
    EachAfter UsbEffect.ReportsTruly effects :=
  eachAfter_effects UsbSystem.step (fun _ system effects ↦ SwitchOf system effects)
    UsbEffect.ReportsTruly switchOf_initial (fun _ _ _ _ _ _ h hstep ↦ h.step hstep)
    (fun _ _ _ _ _ _ h hstep ↦ h.reportsTruly hstep) hrun

theorem switchRole_reports_truly_partner :
    EachAfter UsbEffect.ReportsTruly
      [.called ⟨"port0", .mode .dfp, 5, false⟩, .wroteType "port0" "source", .partnerAdded,
        .restored "port0" true false, .finished ⟨"port0", .mode .dfp, 5, false⟩ true (some 7)] := by
  have hrun : runSteps UsbSystem.step {}
      [.setCallback (some 7) true, .switchRole ⟨"port0", .mode .dfp, 5, false⟩,
        .start true, .test, .poll, .openNode (some true), .receive ["add@/class/typec/port0-partner"],
        .handlePartner, .wake false, .switchToDrp true, .notify] =
      some ({ mPartnerUp := true, mCallback := some 7, worker := some (.handling []) },
        [.called ⟨"port0", .mode .dfp, 5, false⟩, .wroteType "port0" "source", .partnerAdded,
          .restored "port0" true false, .finished ⟨"port0", .mode .dfp, 5, false⟩ true (some 7)]) := by
    decide +kernel
  exact switchRole_reports_truly hrun

end Reports

section Writes

variable {steps : List UsbStep} {system final : UsbSystem} {effects new : List UsbEffect}
  {next : UsbStep}

/-- The worker writes only when no switch is in progress. -/
theorem isPortChange_writesAlone (hidle : system.phase = .idle → (progressOf effects).call = none)
    (callback : Option ℕ) (ports : List ListedPort) :
    EachAfter (fun earlier ↦ UsbEffect.WritesAlone (effects ++ earlier))
      ((callback.toList.map UsbEffect.statusChanged) ++
        if system.phase = .idle then restoreIdle ports else []) := by
  have hchange := isPortChange_port callback ports system.phase
  intro before effect after hnew
  have hbefore : IsPortChange before := fun x hx ↦ hchange x (by simp [hnew, hx])
  have hmember : effect ∈ (callback.toList.map UsbEffect.statusChanged) ++
      if system.phase = .idle then restoreIdle ports else [] := by simp [hnew]
  cases List.mem_append.mp hmember with
  | inl hstatus =>
    obtain ⟨callback, _, hsame⟩ := List.mem_map.mp hstatus
    rw [← hsame]
    exact trivial
  | inr hrestored =>
    split_ifs at hrestored with hphase
    · obtain ⟨port, _, hsame⟩ := List.mem_map.mp hrestored
      rw [← hsame]
      change (progressOf (effects ++ before)).call = none
      rw [progressOf_portChange effects hbefore]
      exact hidle hphase
    · exact absurd hrestored List.not_mem_nil

theorem SwitchOf.writesAlone (h : SwitchOf system effects)
    (hstep : system.step next = some (final, new)) :
    EachAfter (fun earlier ↦ UsbEffect.WritesAlone (effects ++ earlier)) new := by
  have hdescribes := h.phase
  have hcall := h.call
  cases UsbSystem.step_cases hstep with
  | port hworker hfree =>
    apply isPortChange_writesAlone
    intro hidle
    rw [hcall, hidle]
    rfl
  | called hidle =>
    rw [hidle] at hcall
    rw [eachAfter_singleton, List.append_nil]
    exact hcall
  | written hphase =>
    rename_i call
    rw [hphase] at hdescribes
    rw [eachAfter_singleton, List.append_nil]
    exact ⟨call, hdescribes.1, rfl, rfl, hdescribes.2.2.2⟩
  | restored hphase =>
    rename_i call roleSwitch isWritten
    rw [hphase] at hdescribes
    rw [eachAfter_singleton, List.append_nil]
    exact ⟨call, hdescribes.1, rfl⟩
  | unwritten | woken | waitsAgain | started | tested | polled | received | waitFailed | callbackSet
    | joined =>
    exact eachAfter_nil _
  | timedOut | confirmed | triesAgain | refused | notified | partner =>
    rw [eachAfter_singleton]
    exact trivial

/-- The type of a port is written by one switch at a time, and switched back by it before it ends; the
worker writes only between the switches. So a port whose type nobody has tried to switch back is the one
of the switch in progress. -/
theorem switchRole_writes_alone
    (hrun : runSteps UsbSystem.step {} steps = some (final, effects)) :
    EachAfter UsbEffect.WritesAlone effects ∧
      ∀ portName, isForced portName effects = true → final.phase.forced = some portName := by
  apply And.intro
  · exact eachAfter_effects UsbSystem.step (fun _ system effects ↦ SwitchOf system effects)
      UsbEffect.WritesAlone switchOf_initial (fun _ _ _ _ _ _ h hstep ↦ h.step hstep)
      (fun _ _ _ _ _ _ h hstep ↦ h.writesAlone hstep) hrun
  · exact (switchOf_run hrun).forced

theorem switchRole_writes_alone_waiting :
    EachAfter UsbEffect.WritesAlone
        [.statusChanged 7, .restored "port0" true true, .called ⟨"port0", .mode .ufp, 5, false⟩,
          .wroteType "port0" "sink"] ∧
      ∀ portName, isForced portName [.statusChanged 7, .restored "port0" true true,
        .called ⟨"port0", .mode .ufp, 5, false⟩, .wroteType "port0" "sink"] = true →
          SwitchPhase.forced (.waiting ⟨"port0", .mode .ufp, 5, false⟩) = some portName := by
  have hrun : runSteps UsbSystem.step {}
      [.setCallback (some 7) true, .start true, .test, .poll, .receive ["DEVTYPE=typec_port"],
        .handlePort [⟨"port0", false, true⟩, ⟨"port1", true, true⟩],
        .switchRole ⟨"port0", .mode .ufp, 5, false⟩, .openNode (some true)] =
      some ({ phase := .waiting ⟨"port0", .mode .ufp, 5, false⟩, mCallback := some 7,
              worker := some (.handling []) },
        [.statusChanged 7, .restored "port0" true true, .called ⟨"port0", .mode .ufp, 5, false⟩,
          .wroteType "port0" "sink"]) := by
    decide +kernel
  exact switchRole_writes_alone hrun

end Writes

section Join

/-- What the worker does by itself. -/
def UsbStep.isOfWorker : UsbStep → Prop
  | .handlePartner | .handlePort _ | .start _ | .test | .poll | .joined => True
  | _ => False

/-- The worker has a change of a port before it, for which it needs the callback. -/
def UsbSystem.OwesStatus (system : UsbSystem) : Prop :=
  ∃ actions, system.worker = some (.handling actions) ∧ .portChanged ∈ actions

/-- The worker has tested `destroyThread`, and nothing ends `epoll_wait` but the kernel. -/
def UsbSystem.AwaitsEvent (system : UsbSystem) : Prop :=
  system.worker = some .polling ∨ system.worker = some .waiting

/-- Who waits for the worker has told it to end. -/
def UsbSystem.JoinTold (system : UsbSystem) : Prop :=
  system.joining = true → system.worker.isSome = true → system.destroyThread = true

def UsbEffect.usesCallback : UsbEffect → Bool
  | .finished _ _ _ | .statusChanged _ => true
  | _ => false

variable {steps : List UsbStep} {system final : UsbSystem} {effects new : List UsbEffect}
  {next : UsbStep}

theorem UsbSystem.setCallback_joinTold {callback : Option ℕ} {succeeded : Bool}
    (hfree : system.joining = false) (hset : system.setCallback callback succeeded = some final) :
    final.JoinTold := by
  unfold UsbSystem.setCallback at hset
  split at hset
  · split_ifs at hset
    · cases hset
      intro _ hworker
      rw [Option.isSome_map] at hworker
      simp [hworker]
    · cases hset
      exact fun hjoining ↦ absurd hjoining (by simp [hfree])
  · split_ifs at hset <;> cases hset <;> exact fun hjoining ↦ absurd hjoining (by simp [hfree])
  · cases hset
    exact fun hjoining ↦ absurd hjoining (by simp [hfree])

theorem UsbSystem.JoinTold.step (h : system.JoinTold)
    (hstep : system.step next = some (final, new)) : final.JoinTold := by
  cases UsbSystem.step_cases hstep with
  | called | written | unwritten | timedOut | woken | waitsAgain | restored | confirmed | triesAgain
    | refused | notified => exact h
  | started hworker | tested hworker | polled hworker | received hworker | partner hworker =>
    exact fun hjoining _ ↦ h hjoining (by simp [hworker])
  | port hworker hfree => exact fun hjoining _ ↦ absurd hjoining (by simp [hfree])
  | waitFailed hworker => exact fun _ hsome ↦ absurd hsome (by simp)
  | callbackSet hfree hset => exact UsbSystem.setCallback_joinTold hfree hset
  | joined => exact fun hjoining ↦ absurd hjoining (by simp)

theorem joinTold_run (hrun : runSteps UsbSystem.step {} steps = some (final, effects)) :
    final.JoinTold :=
  runSteps_keeps UsbSystem.step (fun _ system _ ↦ system.JoinTold) (fun _ hsome ↦ absurd hsome (by simp))
    (fun _ _ _ _ _ _ h hstep ↦ h.step hstep) hrun

/-- The worker that owes a status to the holder of the lock is stuck, and so is the holder. -/
theorem UsbSystem.OwesStatus.step (howes : system.OwesStatus) (hjoining : system.joining = true)
    (hstep : system.step next = some (final, new)) :
    (final.OwesStatus ∧ final.joining = true) ∧ ∀ effect ∈ new, effect.usesCallback = false := by
  obtain ⟨actions, hactions, hchange⟩ := howes
  cases UsbSystem.step_cases hstep with
  | called | written | timedOut | restored | confirmed | triesAgain | refused =>
    exact ⟨⟨⟨actions, hactions, hchange⟩, hjoining⟩, by simp [UsbEffect.usesCallback]⟩
  | unwritten | woken | waitsAgain =>
    exact ⟨⟨⟨actions, hactions, hchange⟩, hjoining⟩, by simp⟩
  | notified hphase hfree => exact absurd hfree (by simp [hjoining])
  | port hworker hfree => exact absurd hfree (by simp [hjoining])
  | callbackSet hfree hset => exact absurd hfree (by simp [hjoining])
  | tested hworker =>
    rw [WorkerPhase.handling.inj (Option.some.inj (hactions.symm.trans hworker))] at hchange
    exact absurd hchange List.not_mem_nil
  | started hworker | polled hworker | received hworker | waitFailed hworker | joined _ hworker =>
    exact absurd (hactions.symm.trans hworker) (by simp)
  | partner hworker =>
    rename_i rest
    rw [WorkerPhase.handling.inj (Option.some.inj (hactions.symm.trans hworker))] at hchange
    have hrest : UeventAction.portChanged ∈ rest := by simpa using hchange
    exact ⟨⟨⟨rest, rfl, hrest⟩, hjoining⟩, by simp [UsbEffect.usesCallback]⟩

theorem owesStatus_run (howes : system.OwesStatus) (hjoining : system.joining = true)
    (hrun : runSteps UsbSystem.step system steps = some (final, effects)) :
    (final.OwesStatus ∧ final.joining = true) ∧ ∀ effect ∈ effects, effect.usesCallback = false := by
  apply runSteps_keeps UsbSystem.step (fun _ state effects ↦
    (state.OwesStatus ∧ state.joining = true) ∧ ∀ effect ∈ effects, effect.usesCallback = false)
    ⟨⟨howes, hjoining⟩, by simp⟩ _ hrun
  intro _ state before next final new h hstep
  have hnext := h.1.1.step h.1.2 hstep
  apply And.intro hnext.1
  intro effect heffect
  exact (List.mem_append.mp heffect).elim (h.2 effect) (hnext.2 effect)

/-- Behind its test, the worker comes to `epoll_wait` by itself, and no further. -/
theorem UsbSystem.AwaitsEvent.step (hawaits : system.AwaitsEvent) (hjoining : system.joining = true)
    (hworker : next.isOfWorker) (hstep : system.step next = some (final, new)) :
    final.AwaitsEvent ∧ final.joining = true := by
  cases UsbSystem.step_cases hstep with
  | polled => exact ⟨Or.inr rfl, hjoining⟩
  | started hphase | tested hphase | partner hphase | port hphase | joined _ hphase =>
    exact hawaits.elim (fun hpolling ↦ absurd (hpolling.symm.trans hphase) (by simp))
      (fun hwaiting ↦ absurd (hwaiting.symm.trans hphase) (by simp))
  | _ => exact False.elim hworker

variable {kind : UsbStep → Prop}

/-- A worker with nothing but partners before it handles them, ends, and is joined. -/
theorem canReach_joined (hkind : ∀ next : UsbStep, next.isOfWorker → kind next)
    {actions : List UeventAction} (hworker : system.worker = some (.handling actions))
    (hactions : .portChanged ∉ actions) (hjoining : system.joining = true)
    (htold : system.destroyThread = true) :
    CanReach UsbSystem.step kind (fun state ↦ state.joining = false) system := by
  induction actions generalizing system with
  | nil =>
    apply CanReach.next (t := .test) (hkind .test trivial)
    · exact if_pos hworker
    · apply CanReach.next (t := .joined) (hkind .joined trivial)
      · exact if_pos ⟨hjoining, if_pos htold⟩
      · exact .here rfl
  | cons action rest ih =>
    cases action with
    | portChanged => exact absurd List.mem_cons_self hactions
    | partnerAdded =>
      have hstep : system.step .handlePartner =
          some ({ system with worker := some (.handling rest), mPartnerUp := true },
            [.partnerAdded]) := by
        simp only [UsbSystem.step, hworker]
      apply CanReach.next (t := .handlePartner) (hkind .handlePartner trivial) hstep
      exact ih rfl (fun hrest ↦ hactions (List.mem_cons_of_mem _ hrest)) hjoining htold

/-- A message with nothing to do wakes the worker. -/
theorem canReach_joined_of_waiting (hworker : system.worker = some .waiting)
    (hjoining : system.joining = true) (htold : system.destroyThread = true) :
    CanReach UsbSystem.step (fun next ↦ next.isOfWorker ∨ next = .receive [])
      (fun state ↦ state.joining = false) system := by
  refine CanReach.next (t := .receive []) (Or.inr rfl) (if_pos hworker) ?_
  exact canReach_joined (fun _ ↦ Or.inl) rfl List.not_mem_nil hjoining htold

theorem UsbSystem.AwaitsEvent.canReach_joined (hawaits : system.AwaitsEvent)
    (hjoining : system.joining = true) (htold : system.destroyThread = true) :
    CanReach UsbSystem.step (fun next ↦ next.isOfWorker ∨ next = .receive [])
      (fun state ↦ state.joining = false) system := by
  cases hawaits with
  | inl hpolling =>
    refine CanReach.next (t := .poll) (Or.inl trivial) (if_pos hpolling) ?_
    exact canReach_joined_of_waiting rfl hjoining htold
  | inr hwaiting => exact canReach_joined_of_waiting hwaiting hjoining htold

/-- A worker that owes nothing and can look at `destroyThread` again ends by itself. -/
theorem canReach_joined_of_free (hfree : ¬ system.OwesStatus) (hawaits : ¬ system.AwaitsEvent)
    (hjoining : system.joining = true) (htold : system.JoinTold) :
    CanReach UsbSystem.step UsbStep.isOfWorker (fun state ↦ state.joining = false) system := by
  cases hworker : system.worker with
  | none =>
    apply CanReach.next (t := .joined) trivial
    · exact if_pos ⟨hjoining, hworker⟩
    · exact .here rfl
  | some worker =>
    have hdestroy := htold hjoining (by simp [hworker])
    cases worker with
    | starting =>
      apply CanReach.next (t := .start true) trivial (if_pos hworker)
      exact Usb.canReach_joined (fun _ ↦ id) rfl List.not_mem_nil hjoining hdestroy
    | handling actions =>
      exact Usb.canReach_joined (fun _ ↦ id) hworker (fun hchange ↦ hfree ⟨actions, hworker, hchange⟩)
        hjoining hdestroy
    | polling => exact absurd (Or.inl hworker) hawaits
    | waiting => exact absurd (Or.inr hworker) hawaits

/-- Taking the callback away comes to its end by what the worker does exactly when the worker has no
change of a port before it, and was not between its test and `epoll_wait` when the signal came. In that
case a kernel message with nothing to do for it ends the wait; with a change of a port before the worker
it never ends, whatever else happens: the lock stays taken, and no switch and no status is reported any
more. -/
theorem setCallback_joins_iff (hrun : runSteps UsbSystem.step {} steps = some (system, effects))
    (hjoining : system.joining = true) :
    (CanReach UsbSystem.step UsbStep.isOfWorker (fun state ↦ state.joining = false) system ↔
      ¬ system.OwesStatus ∧ ¬ system.AwaitsEvent) ∧
      (system.AwaitsEvent → CanReach UsbSystem.step (fun next ↦ next.isOfWorker ∨ next = .receive [])
        (fun state ↦ state.joining = false) system) ∧
      (system.OwesStatus → ∀ more final later, runSteps UsbSystem.step system more = some (final, later) →
        final.joining = true ∧ ∀ effect ∈ later, effect.usesCallback = false) := by
  have htold := joinTold_run hrun
  refine ⟨⟨fun hreach ↦ ⟨fun howes ↦ ?_, fun hawaits ↦ ?_⟩, fun hfree ↦ ?_⟩, fun hawaits ↦ ?_,
    fun howes more final later hmore ↦ ?_⟩
  · apply not_canReach UsbSystem.step (fun state ↦ state.OwesStatus ∧ state.joining = true) _ _
      ⟨howes, hjoining⟩ hreach
    · exact fun state next final new htrap _ hstep ↦ (htrap.1.step htrap.2 hstep).1
    · exact fun state htrap hfree ↦ absurd hfree (by simp [htrap.2])
  · apply not_canReach UsbSystem.step (fun state ↦ state.AwaitsEvent ∧ state.joining = true) _ _
      ⟨hawaits, hjoining⟩ hreach
    · exact fun state next final new htrap hworker hstep ↦ htrap.1.step htrap.2 hworker hstep
    · exact fun state htrap hfree ↦ absurd hfree (by simp [htrap.2])
  · exact canReach_joined_of_free hfree.1 hfree.2 hjoining htold
  · apply hawaits.canReach_joined hjoining
    exact htold hjoining (hawaits.elim (fun h ↦ by simp [h]) (fun h ↦ by simp [h]))
  · have hstuck := owesStatus_run howes hjoining hmore
    exact ⟨hstuck.1.2, hstuck.2⟩

/-- The callback is taken away while the worker is about to report a change of a port, and between its
test and `epoll_wait`. -/
theorem setCallback_joins_iff_stuck :
    ¬ CanReach UsbSystem.step UsbStep.isOfWorker (fun state ↦ state.joining = false)
        { worker := some (.handling [.portChanged]), destroyThread := true, joining := true } ∧
      ¬ CanReach UsbSystem.step UsbStep.isOfWorker (fun state ↦ state.joining = false)
        { worker := some .polling, destroyThread := true, joining := true } := by
  have howing : runSteps UsbSystem.step {}
      [.setCallback (some 7) true, .start true, .test, .poll, .receive ["DEVTYPE=typec_port"],
        .setCallback none true] =
      some ({ worker := some (.handling [.portChanged]), destroyThread := true, joining := true },
        []) := by
    decide +kernel
  have hpolling : runSteps UsbSystem.step {}
      [.setCallback (some 7) true, .start true, .test, .setCallback none true] =
      some ({ worker := some .polling, destroyThread := true, joining := true }, []) := by
    decide +kernel
  constructor
  · intro hreach
    exact ((setCallback_joins_iff howing rfl).1.mp hreach).1 ⟨_, rfl, List.mem_singleton_self _⟩
  · intro hreach
    exact ((setCallback_joins_iff hpolling rfl).1.mp hreach).2 (Or.inl rfl)

end Join

end HardwareMediatek.Usb
