import Mathlib.Algebra.Order.Floor.Semifield
import Mathlib.Data.Rat.Floor
import RpcGuard.Decimal
import RpcGuard.Proofs.Number

/-!
# Rounding

Two kinds of rounding, judged by rationals. A ratio is rounded to a value of the binary64 format:
its significand has at most 53 bits, and its exponent is in range (`Binary64.inFormat_of_nearest?`).
So is the quick value of a numeral, which is made of such roundings. And a binary64 value is rounded
to a natural number, a half going up (`Binary64.toNatBelow?_eq_some_iff`); for values of the format
the result stays below the bound that they are below (`Binary64.lt_of_toNatBelow?`).
-/

namespace RpcGuard

namespace Binary64

/-! ## The format -/

/-- The magnitude belongs to the format. -/
structure Magnitude.InFormat (x : Magnitude) : Prop where
  significand_lt : x.significand < 2 ^ 53
  le_exponent : minExponent ≤ x.exponent
  exponent_le : x.exponent ≤ maxExponent

/-- The value is a finite one of the format. -/
def InFormat : Binary64 → Prop
  | finite _ significand exponent => Magnitude.InFormat ⟨significand, exponent⟩
  | _ => False

theorem Magnitude.inFormat_zero : zero.InFormat where
  significand_lt := by decide
  le_exponent := le_refl minExponent
  exponent_le := by decide

/-! ## Ratios -/

theorem le_divNearest (n d : ℕ) : n / d ≤ divNearest n d := by
  unfold divNearest
  dsimp only
  split <;> omega

theorem divNearest_le (n d : ℕ) : divNearest n d ≤ n / d + 1 := by
  unfold divNearest
  dsimp only
  split <;> omega

theorem scaled_div (n d : ℕ) (e : ℤ) :
    ((scaled n d e).1 : ℚ) / (scaled n d e).2 = n / d / 2 ^ e := by
  unfold scaled
  by_cases he : 0 ≤ e
  · rw [if_pos he, two_zpow_of_nonneg he, Nat.cast_mul, div_mul_eq_div_div]
  · rw [if_neg he, two_zpow_of_neg he, Nat.cast_mul, div_inv_eq_mul, div_mul_eq_mul_div]

theorem scaled_pos {d : ℕ} (hd : 0 < d) (n : ℕ) (e : ℤ) : 0 < (scaled n d e).2 := by
  unfold scaled
  split
  · exact Nat.mul_pos hd (Nat.two_pow_pos _)
  · exact hd

/-- A ratio is known to one bit from the lengths of its parts. -/
theorem div_lt_two_zpow {d : ℕ} (hd : 0 < d) (n : ℕ) :
    (n : ℚ) / d < 2 ^ ((n.log2 : ℤ) + 1 - d.log2) := by
  have hn : (n : ℚ) < 2 ^ (n.log2 + 1) := by exact_mod_cast Nat.lt_log2_self
  have hd' : (2 : ℚ) ^ d.log2 ≤ d := by exact_mod_cast Nat.log2_self_le hd.ne'
  rw [div_lt_iff₀ (Nat.cast_pos.mpr hd)]
  calc (n : ℚ) < 2 ^ (n.log2 + 1) := hn
    _ = 2 ^ ((n.log2 : ℤ) + 1 - d.log2) * 2 ^ d.log2 := by
        rw [← zpow_natCast, ← zpow_natCast, ← zpow_add₀ two_ne_zero]
        congr 1
        push_cast
        ring
    _ ≤ 2 ^ ((n.log2 : ℤ) + 1 - d.log2) * d := mul_le_mul_of_nonneg_left hd' (by positivity)

/-- At its exponent, a ratio has at most 53 bits before the point. -/
theorem div_lt_exponentOf {d : ℕ} (hd : 0 < d) (n : ℕ) :
    (n : ℚ) / d < 2 ^ 53 * 2 ^ exponentOf n d := by
  unfold exponentOf
  dsimp only
  generalize he : (n.log2 : ℤ) - d.log2 - 52 = e
  -- the guess from the lengths is right or too large by one
  have hguess : (n : ℚ) / d < 2 ^ 53 * 2 ^ (if (scaled n d e).1 < 2 ^ 52 * (scaled n d e).2 then
      e - 1 else e) := by
    split
    · next hsmall =>
      have hratio : ((scaled n d e).1 : ℚ) / (scaled n d e).2 < 2 ^ 52 := by
        rw [div_lt_iff₀ (Nat.cast_pos.mpr (scaled_pos hd n e))]
        exact_mod_cast hsmall
      rw [scaled_div, div_lt_iff₀ (by positivity)] at hratio
      calc (n : ℚ) / d < 2 ^ 52 * 2 ^ e := hratio
        _ = 2 ^ 53 * 2 ^ (e - 1) := by rw [zpow_sub_one₀ two_ne_zero]; ring
    · calc (n : ℚ) / d < 2 ^ ((n.log2 : ℤ) + 1 - d.log2) := div_lt_two_zpow hd n
        _ = 2 ^ (53 + e) := by rw [← he]; congr 1; ring
        _ = 2 ^ 53 * 2 ^ e := by rw [zpow_add₀ two_ne_zero]; rfl
  refine hguess.trans_le (mul_le_mul_of_nonneg_left ?_ (by positivity))
  exact zpow_le_zpow_right₀ one_le_two (le_max_right _ _)

theorem div_scaled_lt (n d : ℕ) :
    (scaled n d (exponentOf n d)).1 / (scaled n d (exponentOf n d)).2 < 2 ^ 53 := by
  rcases Nat.eq_zero_or_pos d with rfl | hd
  · have hzero : (scaled n 0 (exponentOf n 0)).2 = 0 := by
      unfold scaled
      split
      · exact Nat.zero_mul _
      · rfl
    rw [hzero, Nat.div_zero]
    exact Nat.two_pow_pos _
  · have hb := scaled_pos hd n (exponentOf n d)
    rw [Nat.div_lt_iff_lt_mul hb]
    have hratio := scaled_div n d (exponentOf n d)
    rw [div_eq_iff (Nat.cast_pos.mpr hb).ne'] at hratio
    have hlt : (n : ℚ) / d / 2 ^ exponentOf n d < 2 ^ 53 := by
      rw [div_lt_iff₀ (by positivity)]
      exact div_lt_exponentOf hd n
    have hcast : ((scaled n d (exponentOf n d)).1 : ℚ) <
        2 ^ 53 * (scaled n d (exponentOf n d)).2 := by
      rw [hratio]
      exact mul_lt_mul_of_pos_right hlt (Nat.cast_pos.mpr hb)
    exact_mod_cast hcast

/-- The magnitude of a rounded significand. If rounding took one bit more, the significand is a
power of two, and half of it stands at the next exponent. -/
def Magnitude.carried (significand : ℕ) (exponent : ℤ) : Magnitude :=
  if significand = 2 ^ 53 then ⟨2 ^ 52, exponent + 1⟩ else ⟨significand, exponent⟩

theorem nearest?_eq {n : ℕ} (hn : n ≠ 0) (d : ℕ) :
    nearest? n d =
      let x := Magnitude.carried
        (divNearest (scaled n d (exponentOf n d)).1 (scaled n d (exponentOf n d)).2)
        (exponentOf n d)
      if x.exponent > maxExponent then none else some x := by
  unfold nearest? Magnitude.carried
  rw [if_neg hn]
  dsimp only
  split <;> rfl

/-- What a ratio is rounded to belongs to the format. -/
theorem inFormat_of_nearest? {n d : ℕ} {x : Magnitude} (h : nearest? n d = some x) :
    x.InFormat := by
  by_cases hn : n = 0
  · unfold nearest? at h
    rw [if_pos hn] at h
    obtain rfl := Option.some.inj h
    exact Magnitude.inFormat_zero
  · rw [nearest?_eq hn] at h
    dsimp only at h
    split at h
    · cases h
    · next hmax =>
      obtain rfl := Option.some.inj h
      have hle := divNearest_le (scaled n d (exponentOf n d)).1 (scaled n d (exponentOf n d)).2
      have hlt := div_scaled_lt n d
      have hmin : minExponent ≤ exponentOf n d := le_max_left _ _
      refine ⟨?_, ?_, not_lt.mp hmax⟩
      · unfold Magnitude.carried
        split
        · exact Nat.pow_lt_pow_right one_lt_two (Nat.lt_succ_self _)
        · dsimp only
          omega
      · unfold Magnitude.carried
        split
        · exact hmin.trans (Int.le_add_one (le_refl _))
        · exact hmin

/-- A natural number of 64 bits other than zero has a closest value, which is not zero. -/
theorem exists_nearest?_one {n : ℕ} (hn : n ≠ 0) (hlt : n < 2 ^ 64) :
    ∃ x, nearest? n 1 = some x ∧ 0 < x.significand := by
  have hlog : n.log2 < 64 := (Nat.log2_lt hn).mpr hlt
  have hexponent : exponentOf n 1 ≤ n.log2 := by
    unfold exponentOf minExponent
    dsimp only
    have hone : (1 : ℕ).log2 = 0 := by decide
    rw [hone]
    split <;> omega
  have hpos : 0 < divNearest (scaled n 1 (exponentOf n 1)).1 (scaled n 1 (exponentOf n 1)).2 := by
    have hb := scaled_pos one_pos n (exponentOf n 1)
    have hratio : (1 : ℚ) ≤ (scaled n 1 (exponentOf n 1)).1 / (scaled n 1 (exponentOf n 1)).2 := by
      rw [scaled_div, Nat.cast_one, div_one, one_le_div (by positivity)]
      calc (2 : ℚ) ^ exponentOf n 1 ≤ 2 ^ (n.log2 : ℤ) := zpow_le_zpow_right₀ one_le_two hexponent
        _ = ((2 ^ n.log2 : ℕ) : ℚ) := by push_cast; rw [zpow_natCast]
        _ ≤ n := Nat.cast_le.mpr (Nat.log2_self_le hn)
    rw [one_le_div (Nat.cast_pos.mpr hb), Nat.cast_le] at hratio
    exact (Nat.div_pos hratio hb).trans_le (le_divNearest _ _)
  rw [nearest?_eq hn]
  dsimp only
  refine ⟨_, if_neg ?_, ?_⟩
  · unfold Magnitude.carried maxExponent
    split <;> dsimp only <;> omega
  · unfold Magnitude.carried
    split
    · exact Nat.two_pow_pos _
    · exact hpos

theorem inFormat_ofMagnitude {x : Magnitude} (h : x.InFormat) (negative : Bool) :
    (ofMagnitude negative x).InFormat := h

end Binary64

/-! ## Numerals -/

namespace Decimal

open Binary64 (Magnitude)

theorem inFormat_of_scale? {fuel : ℕ} {x y : Magnitude} {k : ℤ} (hx : x.InFormat)
    (h : scale? fuel x k = some y) : y.InFormat := by
  induction fuel generalizing x k with
  | zero =>
    obtain rfl := Option.some.inj h
    exact hx
  | succ fuel ih =>
    rw [scale?] at h
    split at h
    · split at h
      · exact Binary64.inFormat_of_nearest? h
      · exact Binary64.inFormat_of_nearest? h
    · split at h
      · obtain rfl := Option.some.inj h
        exact hx
      · split at h
        · cases h
        · obtain ⟨z, hz, hy⟩ := Option.bind_eq_some_iff.mp h
          exact ih (Binary64.inFormat_of_nearest? hz) hy

/-- The quick value of a numeral belongs to the format. -/
theorem inFormat_of_quick? {x : Decimal} {y : Binary64} (h : x.quick? = some y) : y.InFormat := by
  have hscaled : ∀ {n k z}, quickScaled? n k = some z → Magnitude.InFormat z := by
    intro n k z hz
    obtain ⟨w, hw, hscale⟩ := Option.bind_eq_some_iff.mp hz
    exact inFormat_of_scale? (Binary64.inFormat_of_nearest? hw) hscale
  have hsigned : ∀ {z? : Option Magnitude}, (∀ z, z? = some z → z.InFormat) →
      (do return Binary64.ofMagnitude x.negative (← z?)) = some y → y.InFormat := by
    intro z? hz? hy
    obtain ⟨z, hz, hy⟩ := Option.bind_eq_some_iff.mp hy
    obtain rfl := Option.some.inj hy
    exact Binary64.inFormat_ofMagnitude (hz? z hz) _
  unfold quick? at h
  dsimp only at h
  split at h
  · exact hsigned (fun _ => hscaled) h
  · split at h
    · exact hsigned (fun _ => hscaled) h
    · split at h
      · refine hsigned (fun z hz => ?_) h
        obtain rfl := Option.some.inj hz
        exact Magnitude.inFormat_zero
      · cases h

end Decimal

/-! ## Rounding to natural numbers -/

namespace Binary64

/-- What a value is rounded to is the closest natural number, a half going up. -/
theorem toNatBelow?_eq_floor {bound k : ℕ} {x : Binary64} {q : ℚ} (hq : x.value? = some q)
    (h : x.toNatBelow? bound = some k) : k = ⌊q + 1 / 2⌋₊ := by
  cases x with
  | infinite s => cases hq
  | nan => cases hq
  | finite s m e =>
    obtain rfl := Option.some.inj hq
    unfold toNatBelow? at h
    dsimp only at h
    obtain ⟨hbelow, h⟩ := Option.ite_none_left_eq_some.mp h
    rw [sign_mul_eq hbelow]
    split at h
    · next he =>
      obtain ⟨-, hk⟩ := Option.ite_none_right_eq_some.mp h
      obtain rfl := Option.some.inj hk
      have hhalf : (0 : ℚ) ≤ 1 / 2 ∧ (1 / 2 : ℚ) < 1 := by norm_num
      rw [two_zpow_of_nonneg he, ← Nat.cast_mul, eq_comm,
        Nat.floor_eq_iff (add_nonneg (Nat.cast_nonneg _) hhalf.1)]
      exact ⟨le_add_of_nonneg_right hhalf.1, add_lt_add_right hhalf.2 _⟩
    · next he =>
      obtain ⟨-, hk⟩ := Option.ite_none_right_eq_some.mp h
      obtain rfl := Option.some.inj hk
      have hd : (0 : ℚ) < (2 ^ (-e).toNat : ℕ) := Nat.cast_pos.mpr (Nat.two_pow_pos _)
      have hsum : (m : ℚ) * 2 ^ e + 1 / 2 =
          ((2 * m + 2 ^ (-e).toNat : ℕ) : ℚ) / ((2 * 2 ^ (-e).toNat : ℕ) : ℚ) := by
        rw [two_zpow_of_neg he, Nat.cast_add, Nat.cast_mul, Nat.cast_mul, Nat.cast_ofNat]
        field_simp
      rw [hsum, Nat.floor_div_eq_div]

theorem toNatBelow?_eq_some_iff {bound k : ℕ} {x : Binary64} {q : ℚ} (hq : x.value? = some q) :
    x.toNatBelow? bound = some k ↔ (0 ≤ q ∧ q < bound) ∧ k = ⌊q + 1 / 2⌋₊ := by
  have hrange : (x.toNatBelow? bound).isSome ↔ 0 ≤ q ∧ q < bound := by
    rw [toNatBelow?_isSome_iff, hq]
    simp
  constructor
  · intro h
    exact ⟨hrange.mp (by rw [h]; rfl), toNatBelow?_eq_floor hq h⟩
  · rintro ⟨hwithin, rfl⟩
    obtain ⟨k, hk⟩ := Option.isSome_iff_exists.mp (hrange.mpr hwithin)
    rw [hk, toNatBelow?_eq_floor hq hk]

/-- Rounding does not lead to the bound: a value of the format that has a fraction has few bits. -/
theorem lt_of_toNatBelow? {bound k : ℕ} {x : Binary64} (hx : x.InFormat) (hbound : 2 ^ 53 < bound)
    (h : x.toNatBelow? bound = some k) : k < bound := by
  cases x with
  | infinite s => cases h
  | nan => cases h
  | finite s m e =>
    have hm : m < 2 ^ 53 := Magnitude.InFormat.significand_lt hx
    unfold toNatBelow? at h
    dsimp only at h
    obtain ⟨-, h⟩ := Option.ite_none_left_eq_some.mp h
    split at h
    · obtain ⟨hlt, hk⟩ := Option.ite_none_right_eq_some.mp h
      obtain rfl := Option.some.inj hk
      exact hlt
    · obtain ⟨-, hk⟩ := Option.ite_none_right_eq_some.mp h
      obtain rfl := Option.some.inj hk
      have hd := Nat.two_pow_pos (-e).toNat
      have hle : (2 * m + 2 ^ (-e).toNat) / (2 * 2 ^ (-e).toNat) ≤ m + 1 := by
        refine Nat.div_le_of_le_mul ?_
        nlinarith
      omega

end Binary64

end RpcGuard
