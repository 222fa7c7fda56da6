import ColumnCast.Proofs.Text.Numeral
import ColumnCast.Unscaled
import Mathlib.Data.Rat.Defs
import Mathlib.Tactic.FieldSimp
import Mathlib.Tactic.Positivity

/-!
# Fixed-point texts and the numbers they write

`FixedPoint.Writes` says which texts are decimal fractions with a given number of digits after the
point, and which number each of them writes. `FixedPoint.text` writes `v / 10 ^ s`
(`FixedPoint.writes_ofInt`). Without its point a decimal fraction is an integer numeral
(`FixedPoint.Writes.exists_parseInt?`), so the text of a number has no second reading and no
second number (`FixedPoint.writes_ofInt_iff`, `FixedPoint.ofInt_injective`).
-/

namespace ColumnCast

namespace FixedPoint

open Numeral (Digits)

variable {scale m n : ℕ} {cs : List Char} {q : ℚ}

/-! ### Decimal fractions -/

/-- The digits before the point: no zero comes first unless it is the only one. -/
structure Whole (cs : List Char) (n : ℕ) : Prop where
  digits : Digits cs n
  head : cs.head? = some '0' → cs = ['0']

/-- The texts of a number without a sign: a whole part and, unless the scale is zero, a point and
as many digits as the scale says. -/
inductive Unsigned (scale : ℕ) : List Char → ℚ → Prop
  | whole {cs : List Char} {n : ℕ} (hscale : scale = 0) (h : Whole cs n) : Unsigned scale cs n
  | point {cs fraction : List Char} {m n : ℕ} (h : Whole cs m) (hfraction : Digits fraction n)
      (hscale : fraction.length = scale) :
      Unsigned scale (cs ++ '.' :: fraction) (m + n / 10 ^ scale)

/-- The texts of a number as a **decimal fraction** with `scale` digits after the point. -/
inductive Writes (scale : ℕ) : List Char → ℚ → Prop
  | bare {cs : List Char} {q : ℚ} (h : Unsigned scale cs q) : Writes scale cs q
  | minus {cs : List Char} {q : ℚ} (h : Unsigned scale cs q) : Writes scale ('-' :: cs) (-q)

/-- The text without its point. -/
def withoutPoint (cs : List Char) : List Char :=
  cs.filter (· ≠ '.')

private theorem withoutPoint_of_digits (h : Digits cs n) : withoutPoint cs = cs := by
  refine List.filter_eq_self.mpr fun c hc => decide_eq_true ?_
  rintro rfl
  exact absurd (h.isDigit '.' hc) (by decide)

/-- Without the point, the whole part and the fraction are one row of digits. -/
private theorem Unsigned.exists_digits (h : Unsigned scale cs q) :
    ∃ n : ℕ, Digits (withoutPoint cs) n ∧ q = n / 10 ^ scale := by
  cases h with
  | @whole cs n hscale h =>
    refine ⟨n, ?_, by rw [hscale, pow_zero, div_one]⟩
    rw [withoutPoint_of_digits h.digits]
    exact h.digits
  | @point cs fraction m n h hfraction hscale =>
    refine ⟨m * 10 ^ scale + n, ?_, ?_⟩
    · have hpoint : withoutPoint (cs ++ '.' :: fraction) =
          withoutPoint cs ++ withoutPoint fraction := by
        simp [withoutPoint]
      rw [hpoint, withoutPoint_of_digits h.digits, withoutPoint_of_digits hfraction, ← hscale]
      exact h.digits.append hfraction
    · push_cast
      field_simp

/-- A text without a sign holds none. -/
private theorem Unsigned.minus_notMem (h : Unsigned scale cs q) : '-' ∉ cs := by
  have hdigits {ds : List Char} {n : ℕ} (h : Digits ds n) : '-' ∉ ds := fun hmem =>
    absurd (h.isDigit '-' hmem) (by decide)
  cases h with
  | whole _ h => exact hdigits h.digits
  | point h hfraction _ => simp [hdigits h.digits, hdigits hfraction]

/-- **Without its point** a decimal fraction is a numeral of the number that was scaled. -/
theorem Writes.exists_parseInt? (h : Writes scale cs q) :
    ∃ v : ℤ, Numeral.parseInt? (withoutPoint cs) = some v ∧ q = v / 10 ^ scale := by
  cases h with
  | bare h =>
    obtain ⟨n, hn, rfl⟩ := h.exists_digits
    exact ⟨n, Numeral.parseInt?_eq_some_iff.mpr (.bare hn), by rw [Int.cast_natCast]⟩
  | @minus cs _ h =>
    obtain ⟨n, hn, rfl⟩ := h.exists_digits
    have hsign : withoutPoint ('-' :: cs) = '-' :: withoutPoint cs := by simp [withoutPoint]
    refine ⟨-n, ?_, ?_⟩
    · rw [hsign]
      exact Numeral.parseInt?_eq_some_iff.mpr (.minus hn)
    · push_cast
      rw [neg_div]

/-! ### Writing -/

private theorem length_padded (width n : ℕ) :
    (padded width n).length = max width (Numeral.ofNat n).length := by
  rw [padded, List.length_append, List.length_replicate, Nat.sub_add_eq_max]

private theorem digits_padded (width n : ℕ) : Digits (padded width n) n :=
  (Numeral.digits_ofNat n).replicate_append _

/-- With more digits than the scale asks for nothing is filled up, and with fewer the whole part
is a single zero. -/
private theorem head_take_padded (hscale : scale ≠ 0)
    (h : ((padded (scale + 1) n).take ((padded (scale + 1) n).length - scale)).head? = some '0') :
    (padded (scale + 1) n).take ((padded (scale + 1) n).length - scale) = ['0'] := by
  rw [length_padded] at h ⊢
  rcases le_or_gt (Numeral.ofNat n).length scale with hle | hlt
  · -- one digit is left for the whole part
    rw [max_eq_left (by omega), Nat.add_sub_cancel_left] at h ⊢
    obtain ⟨c, rest, hpadded⟩ : ∃ c rest, padded (scale + 1) n = c :: rest :=
      List.exists_cons_of_ne_nil (digits_padded _ n).ne_nil
    rw [hpadded] at h ⊢
    exact congrArg (· :: []) (Option.some.inj h)
  · have hpadded : padded (scale + 1) n = Numeral.ofNat n := by
      rw [padded, Nat.sub_eq_zero_of_le hlt, List.replicate_zero, List.nil_append]
    rw [hpadded, List.head?_take, if_neg (by omega)] at h
    -- a zero at the front is the numeral of zero, which has one digit
    have hn : n = 0 := by_contra fun hne => Numeral.head?_ofNat_ne_zero hne h
    subst hn
    exact absurd (show (Numeral.ofNat 0).length ≤ 1 from le_rfl) (by omega)

private theorem whole_ofNat (n : ℕ) : Whole (Numeral.ofNat n) n where
  digits := Numeral.digits_ofNat n
  head h := by
    have hn : n = 0 := by_contra fun hne => Numeral.head?_ofNat_ne_zero hne h
    subst hn
    rfl

/-- A number without a sign is written as its `10 ^ scale`-th part. -/
private theorem unsigned_magnitude (n scale : ℕ) :
    Unsigned scale (magnitude n scale) (n / 10 ^ scale) := by
  by_cases hscale : scale = 0
  · have hwhole := Unsigned.whole hscale (whole_ofNat n)
    rwa [magnitude, if_pos hscale, hscale, pow_zero, div_one, ← hscale]
  · rw [magnitude, if_neg hscale]
    have hlength : scale < (padded (scale + 1) n).length := by
      rw [length_padded]
      exact lt_max_of_lt_left (Nat.lt_succ_self scale)
    have hhead := head_take_padded hscale (n := n)
    have hdigits := digits_padded (scale + 1) n
    dsimp only
    generalize padded (scale + 1) n = digits at hlength hhead hdigits ⊢
    have hwhole : (digits.take (digits.length - scale)).length = digits.length - scale := by
      rw [List.length_take]
      omega
    have hfraction : (digits.drop (digits.length - scale)).length = scale := by
      rw [List.length_drop]
      omega
    rw [← List.take_append_drop (digits.length - scale) digits] at hdigits
    obtain ⟨m, k, hm, hk, rfl⟩ := hdigits.exists_append
      (List.ne_nil_of_length_pos (by omega)) (List.ne_nil_of_length_pos (by omega))
    have hvalue : ((m * 10 ^ (digits.drop (digits.length - scale)).length + k : ℕ) : ℚ) /
        10 ^ scale = m + k / 10 ^ scale := by
      rw [hfraction]
      push_cast
      field_simp
    rw [hvalue]
    exact .point ⟨hm, hhead⟩ hk hfraction

/-- **Writing.** The text of `v` at a scale writes the number `v / 10 ^ scale`. -/
theorem writes_ofInt (v : ℤ) (scale : ℕ) : Writes scale (ofInt v scale) (v / 10 ^ scale) := by
  have habs := unsigned_magnitude v.natAbs scale
  rw [ofInt]
  split_ifs with h
  · have hcast : (v : ℚ) = -(v.natAbs : ℚ) := by
      rw [← Int.cast_natCast, Int.ofNat_natAbs_of_nonpos h.le, Int.cast_neg, neg_neg]
    rw [hcast, neg_div]
    exact .minus habs
  · have hcast : (v : ℚ) = v.natAbs := by
      rw [← Int.cast_natCast, Int.natAbs_of_nonneg (not_lt.mp h)]
    rw [hcast]
    exact .bare habs

/-- Only the texts of negative numbers have a sign. -/
theorem minus_mem_ofInt_iff {v : ℤ} : '-' ∈ ofInt v scale ↔ v < 0 := by
  have habs := (unsigned_magnitude v.natAbs scale).minus_notMem
  rw [ofInt]
  split_ifs with h
  · simp [h]
  · exact iff_of_false habs h

/-- The number is read back from its text without the point. -/
theorem parseInt?_ofInt (v : ℤ) (scale : ℕ) :
    Numeral.parseInt? (withoutPoint (ofInt v scale)) = some v := by
  obtain ⟨w, hw, hvalue⟩ := (writes_ofInt v scale).exists_parseInt?
  have hpow : (10 : ℚ) ^ scale ≠ 0 := by positivity
  rw [hw, Int.cast_injective ((div_left_inj' hpow).mp hvalue)]

/-- The text of a number writes no other number. -/
theorem writes_ofInt_iff {v : ℤ} : Writes scale (ofInt v scale) q ↔ q = v / 10 ^ scale := by
  constructor
  · intro h
    obtain ⟨w, hw, rfl⟩ := h.exists_parseInt?
    rw [parseInt?_ofInt] at hw
    rw [Option.some.inj hw]
  · rintro rfl
    exact writes_ofInt v scale

/-- Different numbers have different texts at one scale. -/
theorem ofInt_injective (scale : ℕ) : Function.Injective fun v => ofInt v scale := by
  intro v w h
  have hv := parseInt?_ofInt v scale
  rw [show ofInt v scale = ofInt w scale from h, parseInt?_ofInt] at hv
  exact (Option.some.inj hv).symm

theorem toList_text (v : ℤ) (scale : ℕ) : (text v scale).toList = ofInt v scale :=
  String.toList_ofList

end FixedPoint

end ColumnCast
