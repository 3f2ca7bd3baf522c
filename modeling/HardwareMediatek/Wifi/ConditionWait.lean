import HardwareMediatek.Foundation.ClockTimes
import HardwareMediatek.Wifi.NanCommand

/-!
# The deadline of a timed wait

`Condition::wait` adds the current time to a relative one. The microseconds carry into the seconds when
the sum of the nanoseconds is above a second, so a sum of exactly a second is left as it is.
-/

namespace HardwareMediatek.Wifi

open Foundation

section Deadline

variable (longBits : ℕ) (abstime : Timespec) (now : Timeval)

/-- What is passed to `pthread_cond_timedwait`. -/
def conditionDeadline : Checked Timespec := do
  let sec ← checkedLong longBits (abstime.tv_sec + now.tv_sec)
  let usec ← checkedLong longBits (now.tv_usec * 1000)
  let nsec ← checkedLong longBits (abstime.tv_nsec + usec)
  if nsec > 1000 * 1000 * 1000 ∨ nsec < 0 then
    let carried ← checkedLong longBits (sec + 1)
    let rest ← checkedLong longBits (nsec - 1000 * 1000 * 1000)
    .ok ⟨carried, rest⟩
  else .ok ⟨sec, nsec⟩

/-- The status of the wait, by what the library answers for a deadline. -/
def conditionWait (timedwait : Timespec → ℤ) : Checked ℤ := do
  let deadline ← conditionDeadline longBits abstime now
  .ok (timedwait deadline)

/-- The normal time that is the current one and the relative one together. -/
structure IsDeadline (deadline : Timespec) : Prop where
  isNormal : deadline.IsNormal
  nanos : deadline.nanos = now.nanos + abstime.nanos

/-- Seconds that neither overflow when they are added nor when the carry is. -/
structure SecondsFit : Prop where
  sum : InLong longBits (abstime.tv_sec + now.tv_sec)
  carried : InLong longBits ((now.nanos + abstime.nanos) / nanosPerSec)

end Deadline

section Sums

variable {longBits : ℕ} {abstime : Timespec} {now : Timeval}

/-- The seconds of the sum are those of the parts, and a carry if the nanoseconds make a second. -/
theorem seconds_eq (habstime : abstime.IsNormal) (hnow : now.IsNormal) :
    (now.nanos + abstime.nanos) / nanosPerSec = abstime.tv_sec + now.tv_sec +
      if nanosPerSec ≤ abstime.tv_nsec + now.tv_usec * 1000 then 1 else 0 := by
  unfold Timespec.IsNormal at habstime
  unfold Timeval.IsNormal at hnow
  unfold Timespec.nanos Timeval.nanos
  unfold nanosPerSec at *
  split <;> omega

theorem conditionDeadline_eq (hbits : 32 ≤ longBits) (habstime : abstime.IsNormal)
    (hnow : now.IsNormal) (hseconds : SecondsFit longBits abstime now) :
    conditionDeadline longBits abstime now =
      .ok (if nanosPerSec < abstime.tv_nsec + now.tv_usec * 1000 then
        ⟨abstime.tv_sec + now.tv_sec + 1, abstime.tv_nsec + now.tv_usec * 1000 - nanosPerSec⟩
      else ⟨abstime.tv_sec + now.tv_sec, abstime.tv_nsec + now.tv_usec * 1000⟩) := by
  have hcarried := hseconds.carried
  rw [seconds_eq habstime hnow] at hcarried
  obtain ⟨hnsec, hnsecLt⟩ := habstime
  obtain ⟨husec, husecLt⟩ := hnow
  unfold nanosPerSec at *
  have husecFits : InLong longBits (now.tv_usec * 1000) := inLong_of_small hbits (by omega) (by omega)
  have hnsecFits : InLong longBits (abstime.tv_nsec + now.tv_usec * 1000) :=
    inLong_of_small hbits (by omega) (by omega)
  have hbillion : (1000 * 1000 * 1000 : ℤ) = 1000000000 := by norm_num
  unfold conditionDeadline
  rw [checkedLong_of_inLong hseconds.sum, checkedLong_of_inLong husecFits, hbillion]
  simp only [bind, Except.bind]
  rw [checkedLong_of_inLong hnsecFits]
  dsimp only
  by_cases habove : 1000000000 < abstime.tv_nsec + now.tv_usec * 1000
  · rw [if_pos (by omega)] at hcarried
    have hrestFits : InLong longBits (abstime.tv_nsec + now.tv_usec * 1000 - 1000000000) :=
      inLong_of_small hbits (by omega) (by omega)
    rw [if_pos (Or.inl habove), if_pos habove, checkedLong_of_inLong hcarried,
      checkedLong_of_inLong hrestFits]
  · rw [if_neg (by omega), if_neg habove]

/-- The deadline stands for the right time, normal or not. -/
theorem nanos_conditionDeadline (hbits : 32 ≤ longBits) (habstime : abstime.IsNormal)
    (hnow : now.IsNormal) (hseconds : SecondsFit longBits abstime now) :
    ∃ deadline, conditionDeadline longBits abstime now = .ok deadline ∧
      deadline.nanos = now.nanos + abstime.nanos ∧
        (deadline.IsNormal ↔ abstime.tv_nsec + now.tv_usec * 1000 ≠ nanosPerSec) := by
  apply Exists.intro _
  apply And.intro (conditionDeadline_eq hbits habstime hnow hseconds)
  obtain ⟨hnsec, hnsecLt⟩ := habstime
  obtain ⟨husec, husecLt⟩ := hnow
  unfold Timespec.nanos Timeval.nanos Timespec.IsNormal
  unfold nanosPerSec at *
  split
  · dsimp only
    omega
  · dsimp only
    omega

/-- The deadline is right unless the nanoseconds make exactly a second. -/
theorem conditionDeadline_isDeadline_iff (hbits : 32 ≤ longBits) (habstime : abstime.IsNormal)
    (hnow : now.IsNormal) (hseconds : SecondsFit longBits abstime now) :
    (∃ deadline, conditionDeadline longBits abstime now = .ok deadline ∧
        IsDeadline abstime now deadline) ↔
      abstime.tv_nsec + now.tv_usec * 1000 ≠ nanosPerSec := by
  obtain ⟨deadline, hdeadline, hnanos, hnormal⟩ :=
    nanos_conditionDeadline hbits habstime hnow hseconds
  rw [← hnormal]
  constructor
  · intro h
    obtain ⟨deadline', hdeadline', hright⟩ := h
    rw [Except.ok.inj (hdeadline.symm.trans hdeadline')]
    exact hright.isNormal
  · exact fun hisNormal ↦ ⟨deadline, hdeadline, hisNormal, hnanos⟩

/-- A second and a half from a time with three quarters of a second. -/
theorem conditionDeadline_isDeadline_half :
    (∃ deadline, conditionDeadline 64 ⟨1, 500000000⟩ ⟨1700000000, 750000⟩ = .ok deadline ∧
        IsDeadline ⟨1, 500000000⟩ ⟨1700000000, 750000⟩ deadline) ↔
      (500000000 : ℤ) + 750000 * 1000 ≠ nanosPerSec :=
  conditionDeadline_isDeadline_iff (by decide) (by decide) (by decide)
    ⟨by decide, by decide⟩

/-- Two halves of a second make the deadline one that the library refuses. -/
theorem not_isDeadline_of_halves :
    ¬ ∃ deadline, conditionDeadline 64 ⟨0, 500000000⟩ ⟨1700000000, 500000⟩ = .ok deadline ∧
      IsDeadline ⟨0, 500000000⟩ ⟨1700000000, 500000⟩ deadline := by
  intro h
  obtain ⟨deadline, hdeadline, hright⟩ := h
  have hexplicit : conditionDeadline 64 ⟨0, 500000000⟩ ⟨1700000000, 500000⟩ =
      .ok ⟨1700000000, 1000000000⟩ := by decide
  rw [← Except.ok.inj (hexplicit.symm.trans hdeadline)] at hright
  exact absurd hright.isNormal (by decide)

end Sums

/-! ## The wait for the parameters of a station -/

section Callers

variable {longBits : ℕ} {now : Timeval} {timedwait : Timespec → ℤ}

/-- How long the request for the parameters of a station waits. -/
def staParameterTimeout : Timespec := ⟨4, 0⟩

/-- The only wait with a time has whole seconds, and its deadline is right. -/
theorem conditionWait_staParameterTimeout (hbits : 32 ≤ longBits) (hnow : now.IsNormal)
    (hseconds : SecondsFit longBits staParameterTimeout now) :
    ∃ deadline, IsDeadline staParameterTimeout now deadline ∧
      conditionWait longBits staParameterTimeout now timedwait = .ok (timedwait deadline) := by
  have hne : staParameterTimeout.tv_nsec + now.tv_usec * 1000 ≠ nanosPerSec := by
    obtain ⟨husec, husecLt⟩ := hnow
    unfold staParameterTimeout nanosPerSec
    dsimp only
    omega
  obtain ⟨deadline, hdeadline, hnanos, hnormal⟩ :=
    nanos_conditionDeadline hbits (by decide) hnow hseconds
  apply Exists.intro deadline
  apply And.intro ⟨hnormal.mpr hne, hnanos⟩
  unfold conditionWait
  rw [hdeadline]
  rfl

end Callers

end HardwareMediatek.Wifi
