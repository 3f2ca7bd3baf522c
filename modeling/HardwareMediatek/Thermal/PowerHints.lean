import HardwareMediatek.Foundation.UnorderedMap
import HardwareMediatek.Thermal.Info

/-!
# Power hints

The power HAL has a thermal mode for every sensor and severity, of which some are supported. A severity
that is not supported counts as the next lower one that is. A hint sets the modes of a sensor when the
severity that counts has changed; when the power HAL is back, the modes are set again.
-/

namespace HardwareMediatek.Thermal

open UnorderedMap

structure PowerHintStatus where
  hintSeverityMap : UnorderedMap ThrottlingSeverity ThrottlingSeverity
  prevHintSeverity : ThrottlingSeverity

instance : Inhabited PowerHintStatus := ⟨∅, .none⟩

/-- A call of `setMode`. -/
structure SetMode where
  type : String
  severity : ThrottlingSeverity
  enable : Bool
deriving DecidableEq

structure PowerHalService where
  powerHalAidlExist : Bool
  supportedPowerhintMap : UnorderedMap String PowerHintStatus

/-- `hint_severity_map[severity]`. -/
def PowerHintStatus.hintSeverity (status : PowerHintStatus) (severity : ThrottlingSeverity) :
    ThrottlingSeverity :=
  (status.hintSeverityMap.lookup severity).getD .none

/-- `supported_powerhint_map_[name]`. -/
def PowerHalService.hintStatus (service : PowerHalService) (name : String) : PowerHintStatus :=
  (service.supportedPowerhintMap.lookup name).getD default

/-- One round of the loop over the severities, with the last one that is supported. -/
def updateHint (isModeSupported : ThrottlingSeverity → Bool)
    (found : ThrottlingSeverity × UnorderedMap ThrottlingSeverity ThrottlingSeverity)
    (severity : ThrottlingSeverity) :
    ThrottlingSeverity × UnorderedMap ThrottlingSeverity ThrottlingSeverity :=
  if severity = .none then (found.1, found.2.put .none .none)
  else
    let currentSeverity := if isModeSupported severity then severity else found.1
    (currentSeverity, found.2.put severity currentSeverity)

/-- Sensors that send no hints are left out. -/
def updateSupportedPowerHints (isModeSupported : String → ThrottlingSeverity → Bool)
    (sensorInfoMap : UnorderedMap String SensorInfo) (service : PowerHalService) : PowerHalService :=
  sensorInfoMap.entries.foldl
    (fun service sensor ↦
      if sensor.2.sendPowerhint then
        let status := service.hintStatus sensor.1
        let found := ThrottlingSeverity.all.foldl (updateHint (isModeSupported sensor.1))
          (.none, status.hintSeverityMap)
        { service with
          supportedPowerhintMap := service.supportedPowerhintMap.put sensor.1
            { status with hintSeverityMap := found.2 } }
      else service)
    service

/-- A sensor that was not known is known from then on. -/
def sendPowerExtHint (t : Temperature) (service : PowerHalService) : PowerHalService × List SetMode :=
  let status := service.hintStatus t.name
  let currentHintSeverity := status.hintSeverity t.throttlingStatus
  let withPrev (prevHintSeverity : ThrottlingSeverity) : PowerHalService :=
    { service with
      supportedPowerhintMap := service.supportedPowerhintMap.put t.name
        { status with prevHintSeverity := prevHintSeverity } }
  if !service.powerHalAidlExist then (withPrev status.prevHintSeverity, [])
  else if status.prevHintSeverity = currentHintSeverity then (withPrev status.prevHintSeverity, [])
  else
    (withPrev currentHintSeverity,
      (ThrottlingSeverity.all.filter fun severity ↦ severity = status.hintSeverity severity).map
        fun severity ↦ ⟨t.name, severity, severity ≤ currentHintSeverity⟩)

/-- The modes of all sensors are set again if the power HAL can be connected. -/
def reconnect (connected : Bool) (service : PowerHalService) : List SetMode :=
  if !connected then []
  else service.supportedPowerhintMap.entries.flatMap fun sensor ↦
    ThrottlingSeverity.all.map fun severity ↦
      ⟨sensor.1, severity, severity ≤ sensor.2.prevHintSeverity⟩

/-! ## The severity that counts -/

section EffectiveSeverity

variable {isModeSupported : ThrottlingSeverity → Bool}

/-- No throttling is always supported. -/
def Supported (isModeSupported : ThrottlingSeverity → Bool) (severity : ThrottlingSeverity) : Prop :=
  severity = .none ∨ isModeSupported severity = true

instance (isModeSupported : ThrottlingSeverity → Bool) (severity : ThrottlingSeverity) :
    Decidable (Supported isModeSupported severity) := inferInstanceAs (Decidable (_ ∨ _))

/-- The last severity of a list that is supported. -/
def lastSupported (isModeSupported : ThrottlingSeverity → Bool) (severities : List ThrottlingSeverity) :
    ThrottlingSeverity :=
  severities.foldl (fun current severity ↦
    if severity ≠ .none ∧ isModeSupported severity then severity else current) .none

/-- The severity that another one counts as. -/
def effectiveSeverity (isModeSupported : ThrottlingSeverity → Bool) (severity : ThrottlingSeverity) :
    ThrottlingSeverity :=
  lastSupported isModeSupported (ThrottlingSeverity.all.filter fun lower ↦ lower ≤ severity)

theorem lastSupported_concat (severities : List ThrottlingSeverity) (severity : ThrottlingSeverity) :
    lastSupported isModeSupported (severities ++ [severity]) =
      if severity ≠ .none ∧ isModeSupported severity then severity
      else lastSupported isModeSupported severities := by
  unfold lastSupported
  rw [List.foldl_concat]

/-- What counts is supported, is in the list, and has no supported severity of the list above it. -/
theorem lastSupported_spec {severities : List ThrottlingSeverity} (hsorted : severities.Pairwise (· < ·)) :
    Supported isModeSupported (lastSupported isModeSupported severities) ∧
      (lastSupported isModeSupported severities = .none ∨
        lastSupported isModeSupported severities ∈ severities) ∧
      ∀ severity ∈ severities, Supported isModeSupported severity →
        severity ≤ lastSupported isModeSupported severities := by
  induction severities using List.reverseRecOn with
  | nil => exact ⟨Or.inl rfl, Or.inl rfl, fun severity hin ↦ absurd hin List.not_mem_nil⟩
  | append_singleton severities last ih =>
    have hsplit := List.pairwise_append.mp hsorted
    have hbefore := ih hsplit.1
    rw [lastSupported_concat]
    by_cases hlast : last ≠ .none ∧ isModeSupported last = true
    · rw [if_pos hlast]
      refine ⟨Or.inr hlast.2, Or.inr (by simp), ?_⟩
      intro severity hin _
      rcases List.mem_append.mp hin with hearlier | hsame
      · exact (hsplit.2.2 severity hearlier last List.mem_cons_self).le
      · rw [List.mem_singleton.mp hsame]
    · rw [if_neg hlast]
      refine ⟨hbefore.1, hbefore.2.1.imp_right fun hin ↦ List.mem_append_left _ hin, ?_⟩
      intro severity hin hsupported
      rcases List.mem_append.mp hin with hearlier | hsame
      · exact hbefore.2.2 severity hearlier hsupported
      · rw [List.mem_singleton.mp hsame] at hsupported ⊢
        have hnone : last = .none := by
          by_contra hne
          exact hlast ⟨hne, hsupported.resolve_left hne⟩
        rw [hnone]
        exact ThrottlingSeverity.none_le _

theorem pairwise_all : ThrottlingSeverity.all.Pairwise (· < ·) := by decide

theorem effectiveSeverity_supported (severity : ThrottlingSeverity) :
    Supported isModeSupported (effectiveSeverity isModeSupported severity) :=
  (lastSupported_spec (pairwise_all.filter _)).1

theorem effectiveSeverity_le (severity : ThrottlingSeverity) :
    effectiveSeverity isModeSupported severity ≤ severity := by
  have hspec := (@lastSupported_spec isModeSupported _
    (pairwise_all.filter fun lower ↦ lower ≤ severity)).2.1
  rcases hspec with hnone | hin
  · exact hnone.trans_le (ThrottlingSeverity.none_le severity)
  · exact of_decide_eq_true (List.mem_filter.mp hin).2

/-- The supported severities up to one are those up to what it counts as. -/
theorem le_effectiveSeverity_iff {severity lower : ThrottlingSeverity}
    (hsupported : Supported isModeSupported lower) :
    lower ≤ effectiveSeverity isModeSupported severity ↔ lower ≤ severity := by
  apply Iff.intro
  · intro hle
    exact hle.trans (effectiveSeverity_le severity)
  · intro hle
    apply (lastSupported_spec (pairwise_all.filter _)).2.2 lower _ hsupported
    exact List.mem_filter.mpr ⟨ThrottlingSeverity.mem_all lower, decide_eq_true hle⟩

/-- A severity is supported when it counts as itself. -/
theorem effectiveSeverity_eq_self_iff {severity : ThrottlingSeverity} :
    severity = effectiveSeverity isModeSupported severity ↔ Supported isModeSupported severity := by
  apply Iff.intro
  · intro hsame
    rw [hsame]
    exact effectiveSeverity_supported severity
  · intro hsupported
    exact le_antisymm ((le_effectiveSeverity_iff hsupported).mpr le_rfl) (effectiveSeverity_le severity)

end EffectiveSeverity

/-! ## What is found to be supported -/

section Update

variable {isModeSupported : ThrottlingSeverity → Bool}

/-- The loop records for every severity what it counts as. -/
theorem foldl_updateHint {severities : List ThrottlingSeverity} (hsorted : severities.Pairwise (· < ·))
    (hints : UnorderedMap ThrottlingSeverity ThrottlingSeverity) :
    (severities.foldl (updateHint isModeSupported) (.none, hints)).1 =
        lastSupported isModeSupported severities ∧
      ∀ severity ∈ severities,
        (severities.foldl (updateHint isModeSupported) (.none, hints)).2.lookup severity =
          some (lastSupported isModeSupported (severities.filter fun lower ↦ lower ≤ severity)) := by
  induction severities using List.reverseRecOn with
  | nil => exact ⟨rfl, fun severity hin ↦ absurd hin List.not_mem_nil⟩
  | append_singleton severities last ih =>
    have hsplit := List.pairwise_append.mp hsorted
    have hbefore := ih hsplit.1
    have hbelow : ∀ severity ∈ severities, severity < last :=
      fun severity hin ↦ hsplit.2.2 severity hin last List.mem_cons_self
    have hwhole : (severities ++ [last]).filter (fun lower ↦ lower ≤ last) = severities ++ [last] := by
      apply List.filter_eq_self.mpr
      intro severity hin
      apply decide_eq_true
      apply Or.elim (List.mem_append.mp hin)
      · exact fun hearlier ↦ (hbelow severity hearlier).le
      · exact fun hsame ↦ (List.mem_singleton.mp hsame).le
    have hlast : (severities ++ [last]).foldl (updateHint isModeSupported) (.none, hints) =
        (lastSupported isModeSupported (severities ++ [last]),
          (severities.foldl (updateHint isModeSupported) (.none, hints)).2.put last
            (lastSupported isModeSupported (severities ++ [last]))) := by
      rw [List.foldl_concat, lastSupported_concat, ← hbefore.1]
      unfold updateHint
      by_cases hnone : last = .none
      · have hempty : severities = [] := by
          apply List.eq_nil_iff_forall_not_mem.mpr
          intro severity hin
          have hlt := hbelow severity hin
          rw [hnone] at hlt
          exact absurd hlt (ThrottlingSeverity.none_le severity).not_gt
        rw [hnone, hempty]
        rfl
      · rw [if_neg hnone]
        simp only [ne_eq, hnone, not_false_eq_true, true_and]
    rw [hlast]
    apply And.intro rfl
    intro severity hin
    rw [lookup_put]
    by_cases hsame : severity = last
    · rw [if_pos hsame, hsame, hwhole]
    · have hearlier : severity ∈ severities := by
        apply (List.mem_append.mp hin).resolve_right
        rw [List.mem_singleton]
        exact hsame
      have hdrop : (severities ++ [last]).filter (fun lower ↦ lower ≤ severity) =
          severities.filter fun lower ↦ lower ≤ severity := by
        rw [List.filter_append, List.filter_cons_of_neg, List.filter_nil, List.append_nil]
        rw [decide_eq_true_eq, not_le]
        exact hbelow severity hearlier
      rw [if_neg hsame, hdrop]
      exact hbefore.2 severity hearlier

/-- What the service knows after it was asked what the power HAL supports. -/
structure HintsFound (isModeSupported : String → ThrottlingSeverity → Bool)
    (sensors : List SensorEntry) (service : PowerHalService) : Prop where
  exist : service.powerHalAidlExist = true
  sensors : ∀ name, name ∈ service.supportedPowerhintMap ↔
    ∃ sensor ∈ sensors, sensor.1 = name ∧ sensor.2.sendPowerhint = true
  hints : ∀ name status, service.supportedPowerhintMap.lookup name = some status →
    (∀ severity, status.hintSeverity severity = effectiveSeverity (isModeSupported name) severity) ∧
      status.prevHintSeverity = .none

/-- The severities that count are recorded for every sensor that sends hints. -/
theorem hintsFound_update (isModeSupported : String → ThrottlingSeverity → Bool)
    (sensorInfoMap : UnorderedMap String SensorInfo) :
    HintsFound isModeSupported sensorInfoMap.entries
      (updateSupportedPowerHints isModeSupported sensorInfoMap ⟨true, ∅⟩) := by
  unfold updateSupportedPowerHints
  induction sensorInfoMap.entries using List.reverseRecOn with
  | nil =>
    refine ⟨rfl, fun name ↦ ?_, fun name status hstatus ↦ (nomatch hstatus)⟩
    simp [AList.notMem_empty]
  | append_singleton sensors sensor ih =>
    rw [List.foldl_concat]
    generalize sensors.foldl _ _ = service at *
    cases hsends : sensor.2.sendPowerhint with
    | false =>
      rw [if_neg Bool.false_ne_true]
      refine ⟨ih.exist, fun name ↦ ?_, ih.hints⟩
      rw [ih.sensors]
      simp [hsends, or_and_right, exists_or]
    | true =>
      rw [if_pos rfl]
      refine ⟨ih.exist, ?_, ?_⟩
      · intro name
        rw [mem_put, ih.sensors]
        simp only [List.mem_append, List.mem_singleton, or_and_right, exists_or, exists_eq_left, hsends,
          and_true]
        rw [or_comm, eq_comm]
      · intro name status hstatus
        rw [lookup_put] at hstatus
        by_cases hname : name = sensor.1
        · rw [if_pos hname] at hstatus
          rw [← Option.some.inj hstatus, hname]
          apply And.intro
          · intro severity
            have hloop := (@foldl_updateHint (isModeSupported sensor.1) _ pairwise_all
              (service.hintStatus sensor.1).hintSeverityMap).2 severity (ThrottlingSeverity.mem_all severity)
            unfold PowerHintStatus.hintSeverity
            rw [hloop]
            rfl
          · unfold PowerHalService.hintStatus
            cases hknown : service.supportedPowerhintMap.lookup sensor.1 with
            | none => rfl
            | some known => exact (ih.hints sensor.1 known hknown).2
        · rw [if_neg hname] at hstatus
          exact ih.hints name status hstatus

end Update

end HardwareMediatek.Thermal
