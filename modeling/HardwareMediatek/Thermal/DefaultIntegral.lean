import HardwareMediatek.Foundation.FilteredSums
import HardwareMediatek.Thermal.FailedAllocation

/-!
# The default of the integral term

The integral term starts at a percentage of the power of the bound devices. The power of a device is
looked up with the result of a call instead of the vote that the call writes, so it is the power of
state 1 whatever the vote is.
-/

namespace HardwareMediatek.Thermal

/-- The power of a device at its aggregated maximum vote. -/
def powerAtVote (coolingDeviceInfoMap : CdevInfoMap) (votes : CdevAllRequestMap) (cdev : String) :
    Option ExactFloat := do
  let cdevInfo ← coolingDeviceInfoMap.lookup cdev
  let requestSet ← votes.lookup cdev
  let vote ← requestSet.begin?
  (atIndex cdevInfo.state2power vote).toOption

/-- The power of a device in state 1. -/
def powerAtOne (coolingDeviceInfoMap : CdevInfoMap) (cdev : String) : Option ExactFloat :=
  (coolingDeviceInfoMap.lookup cdev).bind fun cdevInfo ↦ cdevInfo.state2power[1]?

/-- The powers of all bound devices. -/
def sumOfPowers (info : ThrottlingInfo) (power : String → Option ExactFloat) : ExactFloat :=
  (info.bindedCdevInfoMap.entries.map fun pair ↦ (power pair.1).getD .nan).sum

section Default

variable {info : ThrottlingInfo} {coolingDeviceInfoMap : CdevInfoMap} {votes : CdevAllRequestMap}

/-- A summand is the power of state 1, which the device must have. -/
theorem addDefaultIBudget_eq {pair : BindedCdevEntry}
    (hvote : (powerAtVote coolingDeviceInfoMap votes pair.1).isSome) (sum : ExactFloat) :
    addDefaultIBudget coolingDeviceInfoMap votes pair sum =
      match powerAtOne coolingDeviceInfoMap pair.1 with
      | some power => .ok (sum + power)
      | none => .error .badIndex := by
  unfold powerAtVote at hvote
  cases hdevice : coolingDeviceInfoMap.lookup pair.1 with
  | none =>
    rw [hdevice] at hvote
    cases hvote
  | some cdevInfo =>
    cases hvotes : votes.lookup pair.1 with
    | none =>
      rw [hdevice, hvotes] at hvote
      cases hvote
    | some requestSet =>
      cases hmax : requestSet.begin? with
      | none =>
        rw [hdevice, hvotes] at hvote
        change (requestSet.begin? >>= _).isSome = true at hvote
        rw [hmax] at hvote
        cases hvote
      | some vote =>
        have hfound : getCdevMaxRequest votes pair.1 = .ok (some vote) := by
          rw [getCdevMaxRequest, hvotes]
          dsimp only
          rw [hmax]
        unfold addDefaultIBudget
        rw [atKey_of_lookup hdevice, hfound, powerAtOne, hdevice, Option.bind_some]
        change (atIndex cdevInfo.state2power 1 >>= fun power ↦ pure (sum + power)) = _
        cases hone : cdevInfo.state2power[1]? with
        | none =>
          have hout : atIndex cdevInfo.state2power 1 = .error .badIndex := by
            rw [atIndex, if_pos zero_le_one, Int.toNat_one, hone]
          rw [hout]
          rfl
        | some power =>
          have hin : atIndex cdevInfo.state2power 1 = .ok power :=
            atIndex_eq_ok.mpr ⟨zero_le_one, hone⟩
          rw [hin]
          rfl

/-- The loop adds up the powers of state 1, if all devices have it. -/
theorem forEach_addDefaultIBudget {pairs : List BindedCdevEntry}
    (hvotes : ∀ pair ∈ pairs, (powerAtVote coolingDeviceInfoMap votes pair.1).isSome)
    (sum result : ExactFloat) :
    forEach (addDefaultIBudget coolingDeviceInfoMap votes) pairs sum = .ok result ↔
      (∀ pair ∈ pairs, (powerAtOne coolingDeviceInfoMap pair.1).isSome) ∧
        result = sum +
          (pairs.map fun pair ↦ (powerAtOne coolingDeviceInfoMap pair.1).getD .nan).sum := by
  induction pairs generalizing sum with
  | nil =>
    rw [forEach, Except.ok.injEq, List.map_nil, List.sum_nil, add_zero, eq_comm]
    exact (and_iff_right fun _ hpair ↦ absurd hpair List.not_mem_nil).symm
  | cons pair rest ih =>
    have hrest := ih fun pair' hpair' ↦ hvotes pair' (List.mem_cons_of_mem _ hpair')
    rw [forEach, addDefaultIBudget_eq (hvotes pair List.mem_cons_self), List.forall_mem_cons,
      List.map_cons, List.sum_cons]
    cases hone : powerAtOne coolingDeviceInfoMap pair.1 with
    | none =>
      apply iff_of_false
      · intro hfault
        cases hfault
      · exact fun hall ↦ Bool.false_ne_true hall.1.1
    | some power =>
      change forEach _ rest (sum + power) = _ ↔ _
      rw [hrest, Option.getD_some, add_assoc, Option.isSome_some]
      tauto

/-- The first cycle starts from a percentage of the powers at the maximum votes if and only if every
bound device has a state 1 and the powers of the states 1 have the same sum, or none of it counts. -/
theorem initialIBudget_atVotes_iff {percent : ℚ} (hpercent : info.iDefaultPct = .fin percent)
    (hvotes : ∀ pair ∈ info.bindedCdevInfoMap.entries,
      (powerAtVote coolingDeviceInfoMap votes pair.1).isSome) {iBudget : ExactFloat}
    (hunset : iBudget.isNaN = true) :
    initialIBudget info coolingDeviceInfoMap votes iBudget =
        .ok (sumOfPowers info (powerAtVote coolingDeviceInfoMap votes) * .fin percent / .fin 100) ↔
      (∀ pair ∈ info.bindedCdevInfoMap.entries, (powerAtOne coolingDeviceInfoMap pair.1).isSome) ∧
        (sumOfPowers info (powerAtOne coolingDeviceInfoMap) =
            sumOfPowers info (powerAtVote coolingDeviceInfoMap votes) ∨
          percent = 0 ∧ (sumOfPowers info (powerAtOne coolingDeviceInfoMap)).isFinite =
            (sumOfPowers info (powerAtVote coolingDeviceInfoMap votes)).isFinite) := by
  have hloop := forEach_addDefaultIBudget hvotes 0
  unfold initialIBudget
  rw [if_pos hunset, hpercent, ExactFloat.isNaN_fin, if_neg Bool.false_ne_true, bind_eq_ok]
  rw [← ExactFloat.scaled_eq_iff]
  apply Iff.intro
  · rintro ⟨sum, hsum, hresult⟩
    have hboth := (hloop sum).mp hsum
    rw [zero_add] at hboth
    have hsame := Except.ok.inj hresult
    rw [hboth.2] at hsame
    exact ⟨hboth.1, hsame⟩
  · rintro ⟨hone, hsame⟩
    have hsum := (hloop (sumOfPowers info (powerAtOne coolingDeviceInfoMap))).mpr
      ⟨hone, (zero_add _).symm⟩
    exact ⟨_, hsum, congrArg Except.ok hsame⟩

end Default

/-! ## A device that votes for state 0 -/

/-- A sensor that starts from all the power of its processor. -/
def percentInfo : ThrottlingInfo :=
  { (default : ThrottlingInfo) with
    iDefaultPct := .fin 100
    bindedCdevInfoMap := (∅ : BindedCdevInfoMap).insert "cpu" default }

/-- The processor has two states. -/
def percentDevices : CdevInfoMap :=
  (∅ : CdevInfoMap).insert "cpu"
    { (default : CdevInfo) with state2power := [.fin 1000, .fin 600], maxState := 1 }

def percentVotes (vote : ℤ) : CdevAllRequestMap :=
  (∅ : CdevAllRequestMap).insert "cpu" ((∅ : OrderedMultiset ℤ).insert vote)

theorem percentInfo_votes {vote : ℤ}
    (hvote : (powerAtVote percentDevices (percentVotes vote) "cpu").isSome = true) :
    ∀ pair ∈ percentInfo.bindedCdevInfoMap.entries,
      (powerAtVote percentDevices (percentVotes vote) pair.1).isSome := by
  intro pair hpair
  rw [List.mem_singleton.mp hpair]
  exact hvote

/-- At a vote for state 1 the integral term starts from the power of that vote. -/
theorem percentInfo_atOne :
    initialIBudget percentInfo percentDevices (percentVotes 1) .nan =
      .ok (sumOfPowers percentInfo (powerAtVote percentDevices (percentVotes 1)) * .fin 100 /
        .fin 100) := by
  apply (initialIBudget_atVotes_iff rfl (percentInfo_votes (by decide +kernel)) rfl).mpr
  apply And.intro
  · intro pair hpair
    rw [List.mem_singleton.mp hpair]
    rfl
  · exact Or.inl (by decide +kernel)

/-- At a vote for state 0 it does not. -/
theorem percentInfo_atZero :
    ¬ ∀ (info : ThrottlingInfo) (coolingDeviceInfoMap : CdevInfoMap) (votes : CdevAllRequestMap)
      (percent : ℚ) (iBudget : ExactFloat), info.iDefaultPct = .fin percent →
        (∀ pair ∈ info.bindedCdevInfoMap.entries,
          (powerAtVote coolingDeviceInfoMap votes pair.1).isSome) → iBudget.isNaN = true →
          initialIBudget info coolingDeviceInfoMap votes iBudget =
            .ok (sumOfPowers info (powerAtVote coolingDeviceInfoMap votes) * .fin percent /
              .fin 100) := by
  intro hinitial
  have hzero := hinitial percentInfo percentDevices (percentVotes 0) 100 .nan rfl
    (percentInfo_votes (by decide +kernel)) rfl
  have hvalue : (initialIBudget percentInfo percentDevices (percentVotes 0) .nan).toOption =
      some (.fin 600) := by decide +kernel
  rw [hzero] at hvalue
  exact absurd hvalue (by decide +kernel)

end HardwareMediatek.Thermal
