import Mathlib.Data.Int.Log
import Mathlib.Data.Rat.Floor
import Mathlib.Tactic.FieldSimp
import Mathlib.Tactic.Positivity

/-!
# Binary64 numbers

The double that stands for a rational number: 53 significant bits, the last one no less
than 2^-1074, the nearest of them, and of two as near the even one. What would be 2^1024
or more is infinite. The whole numbers below 2^53 stand for themselves.
-/

/-- A double that is a number, or infinite; the two zeros are one. -/
inductive Binary64 where
  | finite (value : ℚ)
  | infinite (negative : Bool)
deriving DecidableEq

namespace Binary64

/-- Two to this is the least number with no double. -/
def maxExponent : ℕ := 1024

/-- The exponent of the last bit of the doubles around a number. -/
def lastExponent (x : ℚ) : ℤ := max (Int.log 2 |x| - 52) (-1074)

/-- The nearest whole number, and of two as near the even one. -/
def nearest (x : ℚ) : ℤ :=
  if 2 * Int.fract x < 1 ∨ 2 * Int.fract x = 1 ∧ ⌊x⌋ % 2 = 0 then ⌊x⌋ else ⌊x⌋ + 1

def round (x : ℚ) : Binary64 :=
  let value : ℚ := nearest (x / 2 ^ lastExponent x) * 2 ^ lastExponent x
  if |value| < 2 ^ maxExponent then .finite value else .infinite (x < 0)

/-- A number and a double are added. -/
def add (x : ℚ) : Binary64 → Binary64
  | .finite y => round (x + y)
  | .infinite negative => .infinite negative

/-! ## Whole numbers -/

@[simp] theorem nearest_intCast (n : ℤ) : nearest n = n := by
  simp [nearest]

/-- The last bit of a number below 2^53 is not above its units. -/
theorem lastExponent_nonpos {n : ℤ} (small : n.natAbs < 2 ^ 53) : lastExponent n ≤ 0 := by
  have size : |(n : ℚ)| = ((n.natAbs : ℕ) : ℚ) := by
    rw [← Int.cast_abs, Int.abs_eq_natAbs, Int.cast_natCast]
  have bits : Nat.log 2 n.natAbs ≤ 52 := by
    obtain zero | pos := Nat.eq_zero_or_pos n.natAbs
    · rw [zero]
      simp
    · have below := Nat.log_lt_of_lt_pow pos.ne' small
      omega
  rw [lastExponent, size, Int.log_natCast]
  omega

/-- **A whole number below 2^53 stands for itself.** -/
theorem round_intCast {n : ℤ} (small : n.natAbs < 2 ^ 53) : round n = .finite n := by
  obtain ⟨k, exponent⟩ := Int.exists_eq_neg_ofNat (lastExponent_nonpos small)
  have scaled : (n : ℚ) / 2 ^ lastExponent n = ((n * 2 ^ k : ℤ) : ℚ) := by
    rw [exponent, zpow_neg, zpow_natCast, div_inv_eq_mul]
    push_cast
    rfl
  have value : ((n * 2 ^ k : ℤ) : ℚ) * 2 ^ lastExponent n = n := by
    rw [← scaled]
    field_simp
  have size : |(n : ℚ)| < 2 ^ maxExponent := by
    have wide : 2 ^ 53 ≤ 2 ^ maxExponent := Nat.pow_le_pow_right (by omega) (by decide)
    have whole : |n| < 2 ^ maxExponent := by
      rw [Int.abs_eq_natAbs]
      exact_mod_cast small.trans_le wide
    exact_mod_cast whole
  simp only [round, scaled, nearest_intCast, value]
  exact if_pos size

@[simp] theorem round_natCast {n : ℕ} (small : n < 2 ^ 53) : round n = .finite n := by
  have rounded := round_intCast (n := (n : ℤ)) small
  exact_mod_cast rounded

/-- A small fraction is lost in a large sum. -/
example : add 1700000000000 (round 30000.0001) = .finite 1700000030000 := by decide +kernel

example : add 0 (round 0.5) = .finite 0.5 := by decide +kernel

end Binary64
