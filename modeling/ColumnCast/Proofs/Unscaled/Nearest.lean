import ColumnCast.Unscaled
import Mathlib.Algebra.Order.Field.Power
import Mathlib.Algebra.Order.Ring.Abs
import Mathlib.Data.Rat.Cast.Order
import Mathlib.Tactic.FieldSimp
import Mathlib.Tactic.Linarith
import Mathlib.Tactic.Positivity
import Mathlib.Tactic.Ring

/-!
# The nearest integer, ties away from zero

`IsNearestAway x r` says that `r` is the integer nearest to the fraction `x`, an exact tie going
away from zero. There is at most one such integer (`IsNearestAway.unique`), and
`Unscaled.roundedQuotient` finds it for a quotient with a positive divisor
(`isNearestAway_roundedQuotient`).
-/

namespace ColumnCast

/-- The magnitude of an integer as a fraction. -/
theorem abs_intCast_eq_natAbs (n : ℤ) : |(n : ℚ)| = (n.natAbs : ℚ) := by
  rw [← Int.cast_abs, Int.abs_eq_natAbs, Int.cast_natCast]

/-- `r` is the integer nearest to `x`; of two equally near integers it is the one further from
zero. -/
structure IsNearestAway (x : ℚ) (r : ℤ) : Prop where
  close : |x - r| ≤ 1 / 2
  away : |x - r| = 1 / 2 → |x| < |(r : ℚ)|

namespace IsNearestAway

variable {x : ℚ} {r r' : ℤ}

/-- An integer is nearest to itself. -/
theorem intCast (n : ℤ) : IsNearestAway n n :=
  ⟨by simp, fun h => absurd h (by norm_num)⟩

protected theorem neg (h : IsNearestAway x r) : IsNearestAway (-x) (-r) := by
  have hdist : |-x - ((-r : ℤ) : ℚ)| = |x - r| := by
    rw [← abs_neg (x - r)]
    congr 1
    push_cast
    ring
  refine ⟨hdist ▸ h.close, fun htie => ?_⟩
  rw [Int.cast_neg, abs_neg, abs_neg]
  exact h.away (hdist ▸ htie)

/-- Two nearest integers cannot be neighbours: the fraction would lie half-way between them and
be nearer to zero than both. -/
private theorem not_succ (h : IsNearestAway x r) (h' : IsNearestAway x (r + 1)) : False := by
  obtain ⟨-, hhigh⟩ := abs_le.mp h.close
  obtain ⟨hlow, -⟩ := abs_le.mp h'.close
  push_cast at hlow
  have hx : x = r + 1 / 2 := by linarith
  have haway := h.away (by rw [hx, add_sub_cancel_left]; norm_num)
  have haway' := h'.away (by
    rw [hx, abs_sub_comm]
    push_cast
    rw [show (r : ℚ) + 1 - (r + 1 / 2) = 1 / 2 by ring]
    norm_num)
  rcases le_or_gt 0 r with hr | hr
  · have hrQ : (0 : ℚ) ≤ r := by exact_mod_cast hr
    rw [hx, abs_of_nonneg (by linarith), abs_of_nonneg hrQ] at haway
    linarith
  · have hrQ : (r : ℚ) + 1 ≤ 0 := by exact_mod_cast hr
    push_cast at haway'
    rw [hx, abs_of_nonpos (by linarith), abs_of_nonpos hrQ] at haway'
    linarith

/-- **Uniqueness.** A fraction has one nearest integer. -/
theorem unique (h : IsNearestAway x r) (h' : IsNearestAway x r') : r = r' := by
  obtain ⟨hlow, hhigh⟩ := abs_le.mp h.close
  obtain ⟨hlow', hhigh'⟩ := abs_le.mp h'.close
  have hle : r ≤ r' + 1 := by
    have : (r : ℚ) ≤ ((r' + 1 : ℤ) : ℚ) := by push_cast; linarith
    exact_mod_cast this
  have hle' : r' ≤ r + 1 := by
    have : (r' : ℚ) ≤ ((r + 1 : ℤ) : ℚ) := by push_cast; linarith
    exact_mod_cast this
  by_contra hne
  rcases (by omega : r' = r + 1 ∨ r = r' + 1) with rfl | rfl
  · exact not_succ h h'
  · exact not_succ h' h

/-- **Order.** Of two fractions, the lesser one does not have the greater nearest integer. -/
theorem mono {x' : ℚ} (h : IsNearestAway x r) (h' : IsNearestAway x' r') (hx : x ≤ x') :
    r ≤ r' := by
  by_contra hlt
  have hstep : (r' : ℚ) + 1 ≤ r := by exact_mod_cast not_le.mp hlt
  obtain ⟨hlow, -⟩ := abs_le.mp h.close
  obtain ⟨-, hhigh⟩ := abs_le.mp h'.close
  -- both fractions would lie at the one point half-way between the two integers
  have heq : x = x' := by linarith
  subst heq
  exact hlt (h.unique h').le

/-- A fraction below one half rounds to zero. -/
theorem zero_of_abs_lt (hx : |x| < 1 / 2) : IsNearestAway x 0 := by
  refine ⟨?_, fun htie => ?_⟩
  · rw [Int.cast_zero, sub_zero]
    exact hx.le
  · rw [Int.cast_zero, sub_zero] at htie
    exact absurd htie hx.ne

/-- Rounding a fraction of half the size of an integer or less does not pass the integer. -/
theorem natAbs_le (h : IsNearestAway x r) {n : ℕ} (hx : |x| ≤ n / 2) : r.natAbs ≤ n := by
  have hr : |(r : ℚ)| ≤ |x| + 1 / 2 := by
    have := abs_sub_abs_le_abs_sub (r : ℚ) x
    rw [abs_sub_comm] at this
    linarith [h.close]
  have hlt : |(r : ℚ)| < n + 1 := by
    have hn : (0 : ℚ) ≤ n := Nat.cast_nonneg n
    linarith
  rw [abs_intCast_eq_natAbs] at hlt
  exact Nat.le_of_lt_succ (by exact_mod_cast hlt)

end IsNearestAway

namespace Unscaled

/-! ### Rounded quotients -/

/-- The rounded quotient changes its sign with the dividend. -/
theorem roundedQuotient_neg (a : ℤ) {b : ℤ} (hb : b ≠ 0) :
    roundedQuotient (-a) b = -roundedQuotient a b := by
  unfold roundedQuotient
  dsimp only
  rw [Int.neg_tdiv, Int.neg_tmod, Int.natAbs_neg]
  by_cases hcond : b.natAbs ≤ 2 * (a.tmod b).natAbs
  · have ha : a ≠ 0 := by
      rintro rfl
      simp only [Int.zero_tmod, Int.natAbs_zero] at hcond
      omega
    rw [if_pos hcond, if_pos hcond]
    split_ifs <;> omega
  · rw [if_neg hcond, if_neg hcond]

/-- The quotient of a natural dividend: one more than the whole part from the half on. -/
private theorem roundedQuotient_of_nonneg {a b : ℤ} (ha : 0 ≤ a) (hb : 0 < b) :
    roundedQuotient a b = if b ≤ 2 * (a % b) then a / b + 1 else a / b := by
  have hmod := Int.emod_nonneg a hb.ne'
  unfold roundedQuotient
  dsimp only
  rw [Int.tdiv_eq_ediv_of_nonneg ha, Int.tmod_eq_emod_of_nonneg ha]
  by_cases hcond : b ≤ 2 * (a % b)
  · rw [if_pos (by omega), if_pos hcond, if_neg (by omega)]
  · rw [if_neg (by omega), if_neg hcond]

private theorem isNearestAway_of_nonneg {a b : ℤ} (ha : 0 ≤ a) (hb : 0 < b) :
    IsNearestAway ((a : ℚ) / b) (roundedQuotient a b) := by
  have hdiv := Int.mul_ediv_add_emod a b
  have hmod := Int.emod_nonneg a hb.ne'
  have hlt := Int.emod_lt_of_pos a hb
  have hquot := Int.ediv_nonneg ha hb.le
  rw [roundedQuotient_of_nonneg ha hb]
  generalize a / b = q at *
  generalize a % b = m at *
  subst hdiv
  have hbQ : (0 : ℚ) < b := by exact_mod_cast hb
  have hmQ : (0 : ℚ) ≤ m := by exact_mod_cast hmod
  have hltQ : (m : ℚ) < b := by exact_mod_cast hlt
  have hquotQ : (0 : ℚ) ≤ q := by exact_mod_cast hquot
  have hx : ((b * q + m : ℤ) : ℚ) / b = q + m / b := by
    push_cast
    field_simp
  have hfrac : (0 : ℚ) ≤ m / b := by positivity
  rw [hx]
  split_ifs with hcond
  · have hcondQ : (1 : ℚ) / 2 ≤ m / b := by
      rw [div_le_div_iff₀ (by norm_num) hbQ, one_mul, mul_comm]
      exact_mod_cast hcond
    have hfrac_lt : (m : ℚ) / b < 1 := (div_lt_one hbQ).mpr hltQ
    constructor
    · rw [abs_le]
      push_cast
      constructor <;> linarith
    · intro _
      rw [abs_of_nonneg (by linarith), abs_of_nonneg (by push_cast; linarith)]
      push_cast
      linarith
  · have hcondQ : (m : ℚ) / b < 1 / 2 := by
      rw [div_lt_div_iff₀ hbQ (by norm_num), one_mul, mul_comm]
      exact_mod_cast not_le.mp hcond
    have hdist : |(q : ℚ) + m / b - q| = m / b := by
      rw [add_sub_cancel_left, abs_of_nonneg hfrac]
    constructor
    · rw [hdist]
      exact hcondQ.le
    · rw [hdist]
      exact fun htie => absurd htie hcondQ.ne

/-- **Rounded division.** With a positive divisor the rounded quotient is the nearest integer,
a tie going away from zero. -/
theorem isNearestAway_roundedQuotient (a : ℤ) {b : ℤ} (hb : 0 < b) :
    IsNearestAway ((a : ℚ) / b) (roundedQuotient a b) := by
  rcases le_total 0 a with ha | ha
  · exact isNearestAway_of_nonneg ha hb
  · have h := (isNearestAway_of_nonneg (neg_nonneg.mpr ha) hb).neg
    rwa [roundedQuotient_neg a hb.ne', neg_neg, Int.cast_neg, neg_div, neg_neg] at h

end Unscaled

end ColumnCast
