import ColumnCast.Cast.Numeric
import ColumnCast.Proofs.Float.Neighbour

/-!
# Between the two floating-point types

A double becomes the float that renders it: what is not finite stays what it is, and a finite
number keeps its sign and becomes the nearest finite float. A finite double whose magnitude is
greater than every float is an overflow and never an infinity. A float that is widened is the same
number, and narrowing gives back its pattern (`NumericCast.narrowing_exact`).
-/

namespace ColumnCast

/-! ### One number in two formats -/

/-- Two decoded patterns are the **same number**: signs and infinities agree, and so do the values
of finite numbers. -/
inductive Number.Same : Number → Number → Prop
  | nan : Same nan nan
  | infinite (negative : Bool) : Same (infinite negative) (infinite negative)
  | finite (negative : Bool) {significand significand' : ℕ} {exponent exponent' : ℤ}
      (hvalue : (significand : ℚ) * 2 ^ exponent = significand' * 2 ^ exponent') :
      Same (finite negative significand exponent) (finite negative significand' exponent')

namespace Number.Same

variable {number number' : Number}

theorem refl (number : Number) : number.Same number := by
  cases number with
  | nan => exact .nan
  | infinite negative => exact .infinite negative
  | finite negative significand exponent => exact .finite negative rfl

theorem value_eq (h : number.Same number') : number.value = number'.value := by
  cases h with
  | nan => rfl
  | infinite => rfl
  | finite negative hvalue => rw [value_finite, value_finite, hvalue]

theorem isFinite_iff (h : number.Same number') : number.IsFinite ↔ number'.IsFinite := by
  cases h <;> exact Iff.rfl

theorem eq_nan_iff (h : number.Same number') : number = .nan ↔ number' = .nan := by
  cases h <;> simp

theorem eq_infinite_iff (h : number.Same number') {negative : Bool} :
    number = .infinite negative ↔ number' = .infinite negative := by
  cases h <;> simp

end Number.Same

namespace FloatFormat

variable {f : FloatFormat} {bits bits' : f.Bits} {number : Number}

/-- The pattern **renders** a number in the format: what is not finite as itself, and a finite
number under its own sign as the nearest number of the format. -/
inductive Renders (f : FloatFormat) : Number → f.Bits → Prop
  | nan {bits : f.Bits} (hdecode : f.decode bits = .nan) : Renders f .nan bits
  | infinite {bits : f.Bits} {negative : Bool} (hdecode : f.decode bits = .infinite negative) :
      Renders f (.infinite negative) bits
  | finite {bits : f.Bits} {negative : Bool} {significand significand' : ℕ}
      {exponent exponent' : ℤ} (hdecode : f.decode bits = .finite negative significand' exponent')
      (hnearest : f.IsNearest (Number.finite negative significand exponent).value bits) :
      Renders f (.finite negative significand exponent) bits

/-- Rounding renders every number but the finite ones beyond the format. -/
private theorem renders_ofNumber (hf : 2 ≤ f.exponentBits) (hdigits : 0 < f.fractionBits)
    (hrange : ¬(number.IsFinite ∧ f.Exceeds number.value)) :
    f.Renders number (f.ofNumber number) := by
  cases number with
  | nan => exact .nan (decode_notANumber hdigits)
  | infinite negative => exact .infinite (decode_infinity negative)
  | finite negative significand exponent =>
    have hle : (significand : ℚ) * 2 ^ exponent ≤ f.greatest := by
      rw [exceeds_iff hf, Number.abs_value_finite] at hrange
      exact not_lt.mp fun hlt => hrange ⟨trivial, hlt⟩
    obtain ⟨⟨significand', exponent', hdecode⟩, hnearest⟩ :=
      isNearest_ofNumber hf hdigits negative hle
    exact .finite hdecode hnearest

/-- A number of the format is rendered by its own pattern. -/
private theorem Renders.of_same (hsame : (f.decode bits).Same number) : f.Renders number bits := by
  generalize hdecode : f.decode bits = decoded at hsame
  cases hsame with
  | nan => exact .nan hdecode
  | infinite negative => exact .infinite hdecode
  | @finite negative significand significand' exponent exponent' hvalue =>
    have hnearest : f.IsNearest (Number.finite negative significand' exponent').value bits := by
      refine isNearest_of_value_eq (Number.isFinite_of_eq hdecode) ?_
      rw [hdecode, Number.value_finite, Number.value_finite, hvalue]
    exact .finite hdecode hnearest

/-- A number is rendered by one pattern, unless it is not a number. -/
private theorem Renders.unique (hf : 2 ≤ f.exponentBits) (hdigits : 0 < f.fractionBits)
    (h : f.Renders number bits) (h' : f.Renders number bits') (hnan : number ≠ .nan) :
    bits = bits' := by
  cases h with
  | nan => exact absurd rfl hnan
  | infinite hdecode =>
    cases h' with
    | infinite hdecode' => rw [eq_infinity_of_decode hdecode, eq_infinity_of_decode hdecode']
  | @finite _ negative _ _ _ _ hdecode hnearest =>
    cases h' with
    | finite hdecode' hnearest' =>
      refine eq_of_decode_finite hdecode hdecode' ?_
      have heq := hnearest.unique hf hdigits hnearest'
      rw [hdecode, hdecode'] at heq
      rw [← Number.abs_value_finite negative, heq, Number.abs_value_finite]

end FloatFormat

/-- Exactly the finite numbers that exceed a format are beyond its `maxFinite`. -/
private theorem Number.beyond_maxFinite_iff {f : FloatFormat} (hf : 2 ≤ f.exponentBits)
    (hmax : 0 ≤ f.maxExponent) {number : Number} :
    number.beyond f.maxFinite = true ↔ number.IsFinite ∧ f.Exceeds number.value := by
  cases number with
  | nan => exact iff_of_false nofun fun h => h.1
  | infinite => exact iff_of_false nofun fun h => h.1
  | finite negative significand exponent =>
    rw [beyond_finite_iff, FloatFormat.natCast_maxFinite hmax, FloatFormat.exceeds_iff hf]
    exact (and_iff_right trivial).symm

open FloatFormat (single double)

/-- Widening keeps the number. -/
theorem Binary32.same_decode_widen (bits : Binary32) :
    (single.decode bits).Same (double.decode bits.widen) := by
  cases hdecode : single.decode bits with
  | nan =>
    rw [decode_widen_nan hdecode]
    exact .nan
  | infinite negative =>
    rw [decode_widen_infinite hdecode]
    exact .infinite negative
  | finite negative significand exponent =>
    obtain ⟨significand', exponent', hwiden, hvalue⟩ := decode_widen_finite hdecode
    rw [hwiden]
    exact .finite negative hvalue.symm

namespace NumericCast

/-- The conversion of floats to doubles. -/
def widening : NumericCast :=
  ⟨.float, .double, by decide⟩

/-- The conversion of doubles to floats. -/
def narrowing : NumericCast :=
  ⟨.double, .float, by decide⟩

/-- A finite double that exceeds the floats is refused. -/
private theorem narrowing_of_exceeds {bits : Binary64}
    (h : (double.decode bits).IsFinite ∧ single.Exceeds (double.decode bits).value) :
    narrowing.convert (.float64 bits) = .error (.overflow (.double bits)) := by
  have hbeyond := (Number.beyond_maxFinite_iff (by decide) (by decide)).mpr h
  exact if_pos hbeyond

/-- Any other double is rendered as a float. -/
private theorem narrowing_of_not_exceeds {bits : Binary64}
    (h : ¬((double.decode bits).IsFinite ∧ single.Exceeds (double.decode bits).value)) :
    narrowing.convert (.float64 bits) = .ok (.float32 bits.narrow) ∧
      single.Renders (double.decode bits) bits.narrow := by
  refine ⟨if_neg ?_, FloatFormat.renders_ofNumber (by decide) (by decide) h⟩
  rwa [Number.beyond_maxFinite_iff (by decide) (by decide)]

/-- A float is in the range of the floats when it is widened. -/
private theorem not_exceeds_widen (bits : Binary32) :
    ¬((double.decode bits.widen).IsFinite ∧ single.Exceeds (double.decode bits.widen).value) := by
  rintro ⟨hfinite, hexceeds⟩
  have hsame := bits.same_decode_widen
  refine FloatFormat.not_exceeds_of_represents (by decide) ?_ hexceeds
  exact ⟨bits, hsame.isFinite_iff.mpr hfinite, hsame.value_eq⟩

/-- **Narrowing and widening.** Exactly the finite doubles that exceed the floats are an overflow
when they are narrowed, and every other double becomes the float that renders it. A float that is
a number is widened to the same number, and narrowing gives back its pattern. -/
theorem narrowing_exact :
    (∀ bits : Binary64,
      (narrowing.convert (.float64 bits) = .error (.overflow (.double bits)) ↔
        (double.decode bits).IsFinite ∧ single.Exceeds (double.decode bits).value) ∧
      (¬((double.decode bits).IsFinite ∧ single.Exceeds (double.decode bits).value) →
        ∃ w, narrowing.convert (.float64 bits) = .ok (.float32 w) ∧
          single.Renders (double.decode bits) w)) ∧
    ∀ bits : Binary32, single.decode bits ≠ .nan →
      ∃ w, widening.convert (.float32 bits) = .ok (.float64 w) ∧
        (single.decode bits).Same (double.decode w) ∧
        narrowing.convert (.float64 w) = .ok (.float32 bits) := by
  constructor
  · intro bits
    refine ⟨⟨fun herror => ?_, narrowing_of_exceeds⟩,
      fun h => ⟨_, narrowing_of_not_exceeds h⟩⟩
    by_contra h
    rw [(narrowing_of_not_exceeds h).1] at herror
    cases herror
  · intro bits hnan
    have hsame := bits.same_decode_widen
    obtain ⟨hnarrow, hrenders⟩ := narrowing_of_not_exceeds (not_exceeds_widen bits)
    refine ⟨bits.widen, rfl, hsame, ?_⟩
    have hwiden : double.decode bits.widen ≠ .nan := fun h => hnan (hsame.eq_nan_iff.mpr h)
    rw [hnarrow, hrenders.unique (by decide) (by decide) (.of_same hsame) hwiden]

/-- The first double above the floats is an overflow, the double of the greatest float is rendered,
and the least positive float comes back. -/
theorem narrowing_exact_edges :
    narrowing.convert (.float64 0x47EFFFFFE0000001#64) =
        .error (.overflow (.double 0x47EFFFFFE0000001#64)) ∧
      (∃ w, narrowing.convert (.float64 0x47EFFFFFE0000000#64) = .ok (.float32 w) ∧
        single.Renders (.finite false 0x1FFFFFE0000000 75) w) ∧
      ∃ w, widening.convert (.float32 1#32) = .ok (.float64 w) ∧
        (Number.finite false 1 (-149)).Same (double.decode w) ∧
        narrowing.convert (.float64 w) = .ok (.float32 1#32) := by
  have habove : double.decode 0x47EFFFFFE0000001#64 = .finite false 0x1FFFFFE0000001 75 := by
    decide
  have hgreatest : double.decode 0x47EFFFFFE0000000#64 = .finite false 0x1FFFFFE0000000 75 := by
    decide
  have hleast : single.decode 1#32 = .finite false 1 (-149) := by decide
  obtain ⟨hnarrowing, hwidening⟩ := narrowing_exact
  refine ⟨(hnarrowing _).1.mpr ?_, ?_, ?_⟩
  · rw [habove, FloatFormat.exceeds_iff (by decide), FloatFormat.greatest_single,
      Number.abs_value_finite]
    exact ⟨trivial, by norm_num⟩
  · rw [← hgreatest]
    refine (hnarrowing _).2 ?_
    rw [hgreatest, FloatFormat.exceeds_iff (by decide), FloatFormat.greatest_single,
      Number.abs_value_finite]
    norm_num
  · rw [← hleast]
    exact hwidening 1#32 (by rw [hleast]; nofun)

end NumericCast

end ColumnCast
