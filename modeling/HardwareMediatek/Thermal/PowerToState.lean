import HardwareMediatek.Thermal.GrantedPower

/-!
# The state of a granted power

The stored power is an integer. A power between an integer and a table entry above that integer loses
the state of the entry when it is stored.
-/

namespace HardwareMediatek.Thermal

/-- In a strictly decreasing table, the state that is found is at most an index exactly when the index
is the last one or the budget covers its power. -/
theorem powerToState_le_iff {table : List ℚ} (hsorted : table.Pairwise fun x y ↦ y < x) {budget : ℚ}
    {state : ℤ} (hstate : powerToState (.fin budget) (table.map ExactFloat.fin) = .ok state) {k : ℕ}
    {power : ℚ} (hk : table[k]? = some power) :
    state ≤ k ↔ k + 1 = table.length ∨ power ≤ budget := by
  induction table generalizing state k with
  | nil => cases hk
  | cons first rest ih =>
    cases rest with
    | nil =>
      have hzero : (0 : ℤ) = state := Except.ok.inj hstate
      have hlast : k = 0 := by
        have hlt := (List.getElem?_eq_some_iff.mp hk).1
        rw [List.length_singleton] at hlt
        omega
      rw [← hzero, hlast]
      exact iff_of_true le_rfl (Or.inl rfl)
    | cons second rest =>
      have hhead := List.pairwise_cons.mp hsorted
      change (if ExactFloat.fin first ≤ ExactFloat.fin budget then Except.ok 0
        else powerToState (.fin budget) ((second :: rest).map ExactFloat.fin) >>= _) = _ at hstate
      by_cases hcovers : first ≤ budget
      · rw [if_pos (ExactFloat.fin_le_fin.mpr hcovers)] at hstate
        have hzero : (0 : ℤ) = state := Except.ok.inj hstate
        have hbelow : power ≤ first := by
          cases k with
          | zero => exact (Option.some.inj hk).ge
          | succ k => exact (hhead.1 power (List.mem_of_getElem? hk)).le
        rw [← hzero]
        exact iff_of_true (Int.natCast_nonneg k) (Or.inr (hbelow.trans hcovers))
      · rw [if_neg fun hle ↦ hcovers (ExactFloat.fin_le_fin.mp hle)] at hstate
        obtain ⟨lower, hlower⟩ := bind_eq_ok.mp hstate
        have hnext : lower + 1 = state := Except.ok.inj hlower.2
        cases k with
        | zero =>
          have hnonneg := ((powerToState_nonneg _ _).of_ok hlower.1).1
          have hpower : first = power := Option.some.inj hk
          apply iff_of_false
          · omega
          · rw [← hpower, List.length_cons, List.length_cons]
            intro hboth
            apply Or.elim hboth
            · intro hlength
              omega
            · exact hcovers
        | succ k =>
          have hrest := ih hhead.2 hlower.1 (k := k) hk
          rw [List.length_cons, Nat.add_right_cancel_iff, ← hrest, ← hnext]
          push_cast
          exact add_le_add_iff_right 1

/-- A table of powers: strictly decreasing and not negative. -/
structure IsPowerTable (cdevInfo : CdevInfo) (table : List ℚ) : Prop where
  entries : cdevInfo.state2power = table.map ExactFloat.fin
  decreasing : table.Pairwise fun x y ↦ y < x
  nonneg : ∀ power ∈ table, 0 ≤ power

/-- The state of a device is at most every state whose power it was granted if and only if storing the
power loses no entry of the table before the last one. -/
theorem grantedState_le_iff {input : UpdateInput} {info : ThrottlingInfo} {votes : CdevAllRequestMap}
    {status after : ThermalThrottlingStatus} {computed : ExactFloat} {pid : PidTerms}
    {pair : BindedCdevEntry} {cdevInfo : CdevInfo} {s : AllocationState}
    {granted : ExactFloat} {table : List ℚ} (htable : IsPowerTable cdevInfo table)
    (hcomputed : updatePowerBudget input info votes status = .ok (computed, pid))
    (hgrant : GrantRound input votes status (selectBindings info status.profile)
      (input.round computed) pair cdevInfo s granted)
    (hupdate : updatePid input info votes status = .ok after) : ∃ state,
    after.pidCdevRequestMap.lookup pair.1 = some state ∧
      ((∀ (k : ℕ) (power : ℚ), table[k]? = some power → .fin power ≤ granted → state ≤ k) ↔
        ∀ (k : ℕ) (power : ℚ), k + 1 < table.length → table[k]? = some power →
          .fin power ≤ granted → power ≤ toInt granted) := by
  obtain ⟨state, hstate⟩ := hgrant.request hcomputed rfl hupdate
  have hfound := hstate.1
  rw [htable.entries] at hfound
  have hle := fun (k : ℕ) (power : ℚ) (hk : table[k]? = some power) ↦
    powerToState_le_iff htable.decreasing hfound hk
  apply Exists.intro state
  apply And.intro hstate.2
  apply Iff.intro
  · intro hall k power hlast hk hcovers
    have hstored := (hle k power hk).mp (hall k power hk hcovers)
    exact hstored.resolve_left hlast.ne
  · intro hnone k power hk hcovers
    apply (hle k power hk).mpr
    have hlt := (List.getElem?_eq_some_iff.mp hk).1
    by_cases hlast : k + 1 = table.length
    · exact Or.inl hlast
    · exact Or.inr (hnone k power (by omega) hk hcovers)

/-! ## A device with a fractional power -/

/-- A sensor whose budget is always 2000 mW. -/
def ampleInfo : ThrottlingInfo :=
  { (default : ThrottlingInfo) with
    kPo := fun _ ↦ 0
    kPu := fun _ ↦ 0
    kIo := fun _ ↦ 0
    kIu := fun _ ↦ 0
    kD := fun _ ↦ 0
    iMax := fun _ ↦ 0
    maxAllocPower := fun _ ↦ .fin 2000
    minAllocPower := fun _ ↦ .fin 2000
    sPower := fun _ ↦ .fin 2000
    iCutoff := fun _ ↦ 0
    bindedCdevInfoMap := (∅ : BindedCdevInfoMap).insert "cpu"
      { (default : BindedCdevInfo) with cdevWeightForPid := fun _ ↦ 1 } }

/-- The device has two states. -/
def ampleDevice (power : ℚ) : CdevInfo :=
  { (default : CdevInfo) with state2power := [power, 500].map ExactFloat.fin, maxState := 1 }

def ampleInput (power : ℚ) : UpdateInput :=
  { linkedInput with
    sensorInfo := { (default : SensorInfo) with
      hotThresholds := fun _ ↦ .fin 50
      throttlingInfo := some ampleInfo }
    coolingDeviceInfoMap := (∅ : CdevInfoMap).insert "cpu" (ampleDevice power) }

def ampleVotes : CdevAllRequestMap := (∅ : CdevAllRequestMap).insert "cpu" ((∅ : OrderedMultiset ℤ).insert 0)

/-- The second pass in front of the device, which has no rail. -/
def ampleState (power : ℚ) : AllocationState :=
  settlePass (ampleInput power).round
    { initialAllocation (ampleInput power) (linkedStatus intMax 0) ampleInfo.bindedCdevInfoMap
      ((ampleInput power).round (.fin 2000)) with powerDataInvalid := true }

def ampleBinding : BindedCdevEntry :=
  ⟨"cpu", { (default : BindedCdevInfo) with cdevWeightForPid := fun _ ↦ 1 }⟩

/-- The device is granted the power of state 0. -/
theorem ampleRound {power : ℚ}
    (hgrants : grantedPower (ampleInput power) ampleVotes (linkedStatus intMax 0) ampleBinding
      (ampleDevice power) (powerAdjustment (ampleInput power) ampleBinding (ampleState power))
      (ampleState power) = .ok (some (.fin power))) :
    GrantRound (ampleInput power) ampleVotes (linkedStatus intMax 0)
      (selectBindings ampleInfo (linkedStatus intMax 0).profile)
      ((ampleInput power).round (.fin 2000)) ampleBinding (ampleDevice power) (ampleState power)
      (.fin power) := by
  apply GrantRound.mk
  · exact ⟨ampleState power, [], [], ampleState power, ⟨_, rfl, Or.inr rfl⟩, rfl, rfl,
      List.not_mem_nil, rfl⟩
  · rfl
  · have hunread : powerAdjustment (ampleInput power) ampleBinding (ampleState power) = .nan :=
      congrArg binary32.round (ExactFloat.sub_nan _)
    rw [hunread, atMaxState, if_neg (ExactFloat.not_nan_lt _)]
  · exact AList.mem_keys.mpr List.mem_cons_self
  · exact hgrants

theorem ampleTable (power : ℚ) (hpower : 500 < power) :
    IsPowerTable (ampleDevice power) [power, 500] := by
  apply IsPowerTable.mk rfl
  · exact List.pairwise_pair.mpr hpower
  · intro x hx
    rcases List.mem_cons.mp hx with hfirst | hsecond
    · rw [hfirst]
      linarith
    · rw [List.mem_singleton.mp hsecond]
      norm_num

/-- The budget of an update and the request of the device after it. -/
def ampleResult (power : ℚ) : Option ExactFloat × Option ℤ :=
  ((updatePowerBudget (ampleInput power) ampleInfo ampleVotes (linkedStatus intMax 0)).toOption.map
      Prod.fst,
    (updatePid (ampleInput power) ampleInfo ampleVotes (linkedStatus intMax 0)).toOption.bind
      fun after ↦ after.pidCdevRequestMap.lookup "cpu")

theorem ampleResult_spec (power : ℚ) (request : ℤ)
    (hresult : ampleResult power = (some (.fin 2000), some request)) : ∃ pid after,
    updatePowerBudget (ampleInput power) ampleInfo ampleVotes (linkedStatus intMax 0) =
        .ok (.fin 2000, pid) ∧
      updatePid (ampleInput power) ampleInfo ampleVotes (linkedStatus intMax 0) = .ok after ∧
      after.pidCdevRequestMap.lookup "cpu" = some request := by
  have hparts := Prod.mk.inj hresult
  cases hbudget : updatePowerBudget (ampleInput power) ampleInfo ampleVotes
      (linkedStatus intMax 0) with
  | error fault =>
    rw [hbudget] at hparts
    cases hparts.1
  | ok total =>
    cases hupdate : updatePid (ampleInput power) ampleInfo ampleVotes (linkedStatus intMax 0) with
    | error fault =>
      rw [hupdate] at hparts
      cases hparts.2
    | ok after =>
      rw [hbudget, hupdate] at hparts
      have htotal : total.1 = .fin 2000 := Option.some.inj hparts.1
      rw [← htotal]
      exact ⟨total.2, after, rfl, rfl, hparts.2⟩

/-- A power of 1000 mW keeps its state when it is stored. -/
theorem amplePower_released : ∃ pid after state,
    updatePowerBudget (ampleInput 1000) ampleInfo ampleVotes (linkedStatus intMax 0) =
        .ok (.fin 2000, pid) ∧
      updatePid (ampleInput 1000) ampleInfo ampleVotes (linkedStatus intMax 0) = .ok after ∧
      after.pidCdevRequestMap.lookup "cpu" = some state ∧
      ∀ (k : ℕ) (power : ℚ), [1000, 500][k]? = some power → .fin power ≤ ExactFloat.fin 1000 →
        state ≤ k := by
  obtain ⟨pid, after, htotal, hupdate, -⟩ := ampleResult_spec 1000 0 (by decide +kernel)
  obtain ⟨state, hstate⟩ := grantedState_le_iff (ampleTable 1000 (by norm_num)) htotal
      (ampleRound (by decide +kernel)) hupdate
  refine ⟨pid, after, state, htotal, hupdate, hstate.1, hstate.2.mpr ?_⟩
  intro k power hlast hk _
  have hzero : k = 0 := by
    rw [List.length_cons, List.length_singleton] at hlast
    omega
  rw [hzero] at hk
  have hpower : (1000 : ℚ) = power := Option.some.inj hk
  rw [← hpower]
  decide +kernel

/-- A power of 1000.5 mW does not. -/
theorem amplePower_throttled :
    ¬ ∀ (input : UpdateInput) (info : ThrottlingInfo) (votes : CdevAllRequestMap)
      (status after : ThermalThrottlingStatus) (computed : ExactFloat) (pid : PidTerms)
      (pair : BindedCdevEntry) (cdevInfo : CdevInfo) (s : AllocationState)
      (granted : ExactFloat) (table : List ℚ), IsPowerTable cdevInfo table →
        updatePowerBudget input info votes status = .ok (computed, pid) →
        GrantRound input votes status (selectBindings info status.profile) (input.round computed)
          pair cdevInfo s granted →
        updatePid input info votes status = .ok after →
          ∀ (k : ℕ) (power : ℚ) (state : ℤ), table[k]? = some power → .fin power ≤ granted →
            after.pidCdevRequestMap.lookup pair.1 = some state → state ≤ k := by
  intro hle
  obtain ⟨pid, after, htotal, hupdate, hrequest⟩ :=
    ampleResult_spec (2001 / 2) 1 (by decide +kernel)
  have hstate := hle _ _ _ _ _ _ _ _ _ _ _ _ (ampleTable (2001 / 2) (by norm_num)) htotal
    (ampleRound (by decide +kernel)) hupdate 0 (2001 / 2) 1 rfl (ExactFloat.fin_le_fin.mpr le_rfl)
    hrequest
  exact absurd hstate (by decide)

end HardwareMediatek.Thermal
