import Mathlib.Algebra.Order.Field.Power
import Mathlib.Algebra.Order.Ring.Rat
import RpcGuard.Number

/-!
# Numbers as rationals

What a number is worth, as a rational: a binary64 value is its significand times a power of two. The
ways to compute with numbers are judged by it, such as the test whether one lies between zero and a
bound.
-/

namespace RpcGuard

/-- The rational that a binary64 value stands for, unless it is infinite or no number. -/
def Binary64.value? : Binary64 → Option ℚ
  | finite negative significand exponent =>
    some ((if negative then -1 else 1) * (significand * 2 ^ exponent))
  | _ => none

/-- The rational that a number stands for. -/
def Number.value? : Number → Option ℚ
  | natural n => some n.toNat
  | negative n => some n
  | float x => x.value?

/-- The number is not below zero, but below a bound. -/
def Number.Within (bound : ℕ) (n : Number) : Prop := ∃ q, n.value? = some q ∧ 0 ≤ q ∧ q < bound

namespace Binary64

/-- A power of two is a natural number or one over such a number. -/
theorem two_zpow_of_nonneg {e : ℤ} (h : 0 ≤ e) : (2 : ℚ) ^ e = (2 ^ e.toNat : ℕ) := by
  rw [Nat.cast_pow, Nat.cast_ofNat, ← zpow_natCast, Int.toNat_of_nonneg h]

theorem two_zpow_of_neg {e : ℤ} (h : ¬0 ≤ e) : (2 : ℚ) ^ e = ((2 ^ (-e).toNat : ℕ) : ℚ)⁻¹ := by
  rw [← two_zpow_of_nonneg (by omega), zpow_neg, inv_inv]

/-- The sign of a value that is not below zero does not count. -/
theorem sign_mul_eq {s : Bool} {m : ℕ} (h : ¬(s = true ∧ m ≠ 0)) (e : ℤ) :
    (if s = true then -1 else 1) * ((m : ℚ) * 2 ^ e) = m * 2 ^ e := by
  cases s with
  | false => exact one_mul _
  | true =>
    have hm : m = 0 := by simpa using h
    rw [hm, Nat.cast_zero, zero_mul, mul_zero]

/-- Rounding to a natural number below a bound succeeds for the values from zero on that lie below
it. -/
theorem toNatBelow?_isSome_iff {bound : ℕ} {x : Binary64} :
    (x.toNatBelow? bound).isSome ↔ ∃ q, x.value? = some q ∧ 0 ≤ q ∧ q < bound := by
  cases x with
  | infinite s => simp [toNatBelow?, value?]
  | nan => simp [toNatBelow?, value?]
  | finite s m e =>
    have hpos : (0 : ℚ) < 2 ^ e := zpow_pos two_pos e
    simp only [value?, Option.some.injEq, exists_eq_left', toNatBelow?]
    by_cases hbelow : s = true ∧ m ≠ 0
    · have hm : (0 : ℚ) < m * 2 ^ e :=
        mul_pos (Nat.cast_pos.mpr (Nat.pos_of_ne_zero hbelow.2)) hpos
      rw [if_pos hbelow, if_pos hbelow.1, neg_one_mul, neg_nonneg]
      simp [hm.not_ge]
    · have hnonneg : 0 ≤ (m : ℚ) * 2 ^ e := mul_nonneg (Nat.cast_nonneg m) hpos.le
      rw [if_neg hbelow, sign_mul_eq hbelow, and_iff_right hnonneg]
      -- both sides compare natural numbers once the power of two is cleared
      by_cases he : 0 ≤ e
      · rw [if_pos he, two_zpow_of_nonneg he, ← Nat.cast_mul, Nat.cast_lt]
        split <;> simp [*]
      · have hd : (0 : ℚ) < (2 ^ (-e).toNat : ℕ) := Nat.cast_pos.mpr (Nat.two_pow_pos _)
        rw [if_neg he, two_zpow_of_neg he, ← div_eq_mul_inv, div_lt_iff₀ hd, ← Nat.cast_mul,
          Nat.cast_lt]
        split <;> simp [*]

end Binary64

end RpcGuard
