import HardwareMediatek.Foundation.Checked

/-!
# Times of a clock

A clock tells seconds with nanoseconds or microseconds behind them. A time is normal when its
nanoseconds are less than a second, and a normal time is told by the nanoseconds it stands for.
-/

namespace HardwareMediatek.Foundation

def nanosPerSec : ℤ := 1000000000

structure Timespec where
  tv_sec : ℤ
  tv_nsec : ℤ
deriving DecidableEq, Repr

structure Timeval where
  tv_sec : ℤ
  tv_usec : ℤ
deriving DecidableEq, Repr

namespace Timespec

def IsNormal (time : Timespec) : Prop := 0 ≤ time.tv_nsec ∧ time.tv_nsec < nanosPerSec

instance (time : Timespec) : Decidable time.IsNormal := inferInstanceAs (Decidable (_ ∧ _))

def nanos (time : Timespec) : ℤ := time.tv_sec * nanosPerSec + time.tv_nsec

end Timespec

namespace Timeval

def IsNormal (time : Timeval) : Prop := 0 ≤ time.tv_usec ∧ time.tv_usec < 1000000

instance (time : Timeval) : Decidable time.IsNormal := inferInstanceAs (Decidable (_ ∧ _))

def nanos (time : Timeval) : ℤ := time.tv_sec * nanosPerSec + time.tv_usec * 1000

end Timeval

/-! ## Arithmetic in `long` -/

section Long

variable {longBits : ℕ} {n : ℤ}

def InLong (longBits : ℕ) (n : ℤ) : Prop := -2 ^ (longBits - 1) ≤ n ∧ n < 2 ^ (longBits - 1)

instance (longBits : ℕ) (n : ℤ) : Decidable (InLong longBits n) := inferInstanceAs (Decidable (_ ∧ _))

/-- The result of an operation on `long`. -/
def checkedLong (longBits : ℕ) (n : ℤ) : Checked ℤ :=
  if InLong longBits n then .ok n else .error .intOverflow

theorem checkedLong_of_inLong (hn : InLong longBits n) : checkedLong longBits n = .ok n := if_pos hn

/-- What fits 32 bits fits every `long`. -/
theorem inLong_of_small (hbits : 32 ≤ longBits) (hlow : -2147483648 ≤ n) (hhigh : n < 2147483648) :
    InLong longBits n := by
  have hpow : (2147483648 : ℤ) ≤ 2 ^ (longBits - 1) := by
    calc
      (2147483648 : ℤ) = 2 ^ 31 := by norm_num
      _ ≤ 2 ^ (longBits - 1) := pow_le_pow_right₀ (by norm_num) (by omega)
  unfold InLong
  omega

end Long

end HardwareMediatek.Foundation
