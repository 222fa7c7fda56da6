import ColumnCast.Proofs.Unscaled.Nearest

/-!
# Rounded division and the sign of the divisor

`NearestQuotient a b q` says in integers that `q` is the integer nearest to `a / b`, an exact half
going away from zero. Rounded division truncates and then steps by the sign of the dividend, which
is the sign of the quotient when the divisor is positive. With a negative divisor the step goes
the other way, so that the result is nearest only where no step is made
(`Unscaled.divide_nearest_iff`).
-/

namespace ColumnCast

/-- `q` is the integer nearest to `a / b`; of two equally near integers it is the one further from
zero. -/
structure NearestQuotient (a b q : ℤ) : Prop where
  close : 2 * |a - q * b| ≤ |b|
  away : 2 * |a - q * b| = |b| → |a| < |q| * |b|

/-- The fraction that truncation **drops** from `a / b` is at least one half. -/
def DropsHalf (a b : ℤ) : Prop :=
  b.natAbs ≤ 2 * (a.natAbs % b.natAbs)

variable {a b q r : ℤ}

/-! ### Nearest quotients -/

/-- The integers nearest to a fraction, in terms of its two sides. -/
private theorem nearestQuotient_iff (hb : b ≠ 0) :
    NearestQuotient a b q ↔ IsNearestAway ((a : ℚ) / b) q := by
  have hbQ : (b : ℚ) ≠ 0 := by exact_mod_cast hb
  have hpos : (0 : ℚ) < |(b : ℚ)| := abs_pos.mpr hbQ
  have hdist : |(a : ℚ) / b - q| = |((a - q * b : ℤ) : ℚ)| / |(b : ℚ)| := by
    rw [← abs_div]
    congr 1
    push_cast
    field_simp
  have hclose : |(a : ℚ) / b - q| ≤ 1 / 2 ↔ 2 * |a - q * b| ≤ |b| := by
    rw [hdist, div_le_div_iff₀ hpos two_pos, one_mul, mul_comm]
    exact_mod_cast Iff.rfl
  have htie : |(a : ℚ) / b - q| = 1 / 2 ↔ 2 * |a - q * b| = |b| := by
    rw [hdist, div_eq_div_iff hpos.ne' two_ne_zero, one_mul, mul_comm]
    exact_mod_cast Iff.rfl
  have haway : |(a : ℚ) / b| < |(q : ℚ)| ↔ |a| < |q| * |b| := by
    rw [abs_div, div_lt_iff₀ hpos]
    exact_mod_cast Iff.rfl
  constructor
  · rintro ⟨h1, h2⟩
    exact ⟨hclose.mpr h1, fun h => haway.mpr (h2 (htie.mp h))⟩
  · rintro ⟨h1, h2⟩
    exact ⟨hclose.mp h1, fun h => haway.mp (h2 (htie.mpr h))⟩

namespace NearestQuotient

/-- **Uniqueness.** A quotient has one nearest integer. -/
theorem unique (hb : b ≠ 0) (h : NearestQuotient a b q) (h' : NearestQuotient a b r) : q = r :=
  IsNearestAway.unique ((nearestQuotient_iff hb).mp h) ((nearestQuotient_iff hb).mp h')

/-- The nearest integer changes its sign with the divisor. -/
private theorem neg_right (h : NearestQuotient a b q) : NearestQuotient a (-b) (-q) := by
  obtain ⟨hclose, haway⟩ := h
  constructor
  · rwa [neg_mul_neg, abs_neg]
  · rwa [neg_mul_neg, abs_neg, abs_neg]

end NearestQuotient

/-- What is dropped does not depend on the sign of the divisor. -/
private theorem dropsHalf_neg_right : DropsHalf a (-b) ↔ DropsHalf a b := by
  rw [DropsHalf, Int.natAbs_neg]
  exact Iff.rfl

private theorem DropsHalf.ne_zero (hb : b ≠ 0) (h : DropsHalf a b) : a ≠ 0 := by
  rintro rfl
  rw [DropsHalf, Int.natAbs_zero, Nat.zero_mod] at h
  omega

private theorem DropsHalf.sign_ne_zero (hb : b ≠ 0) (h : DropsHalf a b) : a.sign ≠ 0 :=
  mt Int.sign_eq_zero_iff_zero.mp (h.ne_zero hb)

namespace Unscaled

/-! ### The step after truncation -/

theorem roundedQuotient_of_dropsHalf (hb : b ≠ 0) (h : DropsHalf a b) :
    roundedQuotient a b = a.tdiv b + a.sign := by
  have hcond : b.natAbs ≤ 2 * (a.tmod b).natAbs := by rwa [Int.natAbs_tmod]
  unfold roundedQuotient
  dsimp only
  rw [if_pos hcond]
  rcases lt_or_gt_of_ne (h.ne_zero hb) with ha | ha
  · rw [if_pos ha, Int.sign_eq_neg_one_of_neg ha, sub_eq_add_neg]
  · rw [if_neg ha.not_gt, Int.sign_eq_one_of_pos ha]

theorem roundedQuotient_of_not_dropsHalf (h : ¬DropsHalf a b) :
    roundedQuotient a b = a.tdiv b := by
  have hcond : ¬b.natAbs ≤ 2 * (a.tmod b).natAbs := by rwa [Int.natAbs_tmod]
  unfold roundedQuotient
  dsimp only
  rw [if_neg hcond]

/-- The quotient by the opposite divisor, where a step is made: both steps go the same way. -/
private theorem roundedQuotient_neg_right_of_dropsHalf (hb : b ≠ 0) (h : DropsHalf a b) :
    roundedQuotient a (-b) = -roundedQuotient a b + 2 * a.sign := by
  rw [roundedQuotient_of_dropsHalf hb h,
    roundedQuotient_of_dropsHalf (neg_ne_zero.mpr hb) (dropsHalf_neg_right.mpr h), Int.tdiv_neg]
  ring

private theorem roundedQuotient_neg_right_of_not_dropsHalf (h : ¬DropsHalf a b) :
    roundedQuotient a (-b) = -roundedQuotient a b := by
  rw [roundedQuotient_of_not_dropsHalf h,
    roundedQuotient_of_not_dropsHalf (dropsHalf_neg_right.not.mpr h), Int.tdiv_neg]

/-- The opposite quotient is found exactly where no step is made. -/
private theorem roundedQuotient_neg_right_iff (hb : b ≠ 0) :
    roundedQuotient a (-b) = -roundedQuotient a b ↔ ¬DropsHalf a b := by
  refine ⟨fun heq h => ?_, roundedQuotient_neg_right_of_not_dropsHalf⟩
  have hsign := h.sign_ne_zero hb
  rw [roundedQuotient_neg_right_of_dropsHalf hb h] at heq
  omega

private theorem nearestQuotient_of_pos (a : ℤ) (hb : 0 < b) :
    NearestQuotient a b (roundedQuotient a b) :=
  (nearestQuotient_iff hb.ne').mpr (isNearestAway_roundedQuotient a hb)

/-- With a negative divisor, the opposite of the quotient by the positive one is nearest. -/
private theorem nearestQuotient_of_neg (a : ℤ) (hb : b < 0) :
    NearestQuotient a b (-roundedQuotient a (-b)) := by
  have h := (nearestQuotient_of_pos a (neg_pos.mpr hb)).neg_right
  rwa [neg_neg] at h

private theorem divide?_of_ne_zero (a : ℤ) (hb : b ≠ 0) :
    divide? a b = some (roundedQuotient a b) :=
  if_neg hb

/-- **Rounded division.** The quotient is nearest, an exact half going away from zero, when the
divisor is positive or no step is made. With a negative divisor a step takes it two past the
nearest integer. It changes its sign with the dividend, and with the divisor where no step is
made. -/
theorem divide_nearest_iff (a : ℤ) (hb : b ≠ 0) :
    ∃ q, divide? a b = some q ∧
      (NearestQuotient a b q ↔ 0 < b ∨ ¬DropsHalf a b) ∧
      (b < 0 → DropsHalf a b → NearestQuotient a b (q - 2 * a.sign)) ∧
      divide? (-a) b = some (-q) ∧
      (divide? a (-b) = some (-q) ↔ ¬DropsHalf a b) := by
  have hstep : b < 0 → DropsHalf a b →
      NearestQuotient a b (roundedQuotient a b - 2 * a.sign) := by
    intro hneg hdrops
    have h := nearestQuotient_of_neg a hneg
    rwa [roundedQuotient_neg_right_of_dropsHalf hb hdrops, neg_add, neg_neg, ← sub_eq_add_neg] at h
  refine ⟨_, divide?_of_ne_zero a hb, ⟨fun hnearest => ?_, ?_⟩, hstep, ?_, ?_⟩
  · by_contra hnot
    rw [not_or, not_lt, not_not] at hnot
    obtain ⟨hle, hdrops⟩ := hnot
    have heq := hnearest.unique hb (hstep (lt_of_le_of_ne hle hb) hdrops)
    have hsign := hdrops.sign_ne_zero hb
    omega
  · rintro (hpos | hdrops)
    · exact nearestQuotient_of_pos a hpos
    · rcases lt_or_gt_of_ne hb with hneg | hpos
      · have h := nearestQuotient_of_neg a hneg
        rwa [roundedQuotient_neg_right_of_not_dropsHalf hdrops, neg_neg] at h
      · exact nearestQuotient_of_pos a hpos
  · rw [divide?_of_ne_zero _ hb, roundedQuotient_neg a hb]
  · rw [divide?_of_ne_zero a (neg_ne_zero.mpr hb), Option.some.injEq,
      roundedQuotient_neg_right_iff hb]

/-- A negative dividend: minus three and a half goes to minus four. -/
theorem divide_nearest_iff_two : ∃ q, divide? (-7) 2 = some q ∧ NearestQuotient (-7) 2 q := by
  obtain ⟨q, hq, hnearest, -⟩ := divide_nearest_iff (-7) (b := 2) (by decide)
  exact ⟨q, hq, hnearest.mpr (Or.inl (by decide))⟩

/-- A negative divisor: minus one and a half is truncated to minus one and goes on to zero, past
the nearest integer, which is minus two. The opposite divisor gives two. -/
theorem divide_not_nearest :
    divide? 3 (-2) = some 0 ∧ ¬NearestQuotient 3 (-2) 0 ∧ NearestQuotient 3 (-2) (-2) ∧
      divide? 3 2 = some 2 := by
  refine ⟨by decide, fun h => ?_, ⟨by decide, by decide⟩, by decide⟩
  exact absurd h.close (by decide)

end Unscaled

end ColumnCast
