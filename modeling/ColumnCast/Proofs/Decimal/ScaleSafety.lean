import ColumnCast.Proofs.ColumnType.Capacity
import ColumnCast.Proofs.Decimal.Path

/-!
# Growing scales are safe

A pair of decimals whose scale grows is accepted exactly when every value of the source's
precision stays, at the scale of the target, within the target's precision
(`validateScales_iff_forall_lt`). So a built converter never reports the precision on such a
value, and a refused pair has a value on which it would. Whether one of these values also comes as
an input depends on the digits of the source's form (`DecimalCast.exists_overflows_iff`): it does
for every usable source (`Converter.scale_safety`), but not for every machine word that declares
more digits than it has (`Converter.validate_refuses_convertible`).
-/

namespace ColumnCast

variable {s t : DecimalType}

/-! ### The check on scales -/

/-- The digits that a value may have so as to stay within the target's precision. The first one to
**overflow** is the power of ten with this exponent. -/
def safeDigits (s t : DecimalType) : ℕ :=
  t.precision.toNat - (t.scale.toNat - s.scale.toNat)

private theorem validateScales_iff (hscale : s.scale < t.scale) :
    validateScales s t = .ok () ↔ requiredPrecision s t ≤ t.precision.toNat := by
  unfold validateScales
  split_ifs with hrefused
  · exact iff_of_false (by simp) (not_le.mpr hrefused.2)
  · exact iff_of_true rfl (not_lt.mp fun hlt => hrefused ⟨hscale, hlt⟩)

section Overflow

variable (hsound : t.scale ≤ t.precision)
include hsound

/-- The digits that a scale gains are digits of the target. -/
private theorem safeDigits_add :
    safeDigits s t + (t.scale.toNat - s.scale.toNat) = t.precision.toNat := by
  have hle : t.scale.toNat ≤ t.precision.toNat := UInt32.le_iff_toNat_le.mp hsound
  unfold safeDigits
  omega

private theorem requiredPrecision_le_iff :
    requiredPrecision s t ≤ t.precision.toNat ↔ s.precision.toNat ≤ safeDigits s t := by
  have hadd := safeDigits_add (s := s) hsound
  unfold requiredPrecision
  omega

/-- In a refused pair the first value to overflow is within the source's precision. -/
private theorem ten_pow_safeDigits_lt (hrefused : t.precision.toNat < requiredPrecision s t) :
    (10 : ℤ) ^ safeDigits s t < 10 ^ s.precision.toNat := by
  rw [← not_le, requiredPrecision_le_iff hsound, not_le] at hrefused
  exact pow_lt_pow_right₀ (by norm_num) hrefused

/-- At the target's scale the target's precision bounds the digits at the source's scale. -/
private theorem abs_mul_lt_iff {v : ℤ} :
    |v * 10 ^ (t.scale.toNat - s.scale.toNat)| < 10 ^ t.precision.toNat ↔
      |v| < 10 ^ safeDigits s t := by
  have hten : (0 : ℤ) < 10 ^ (t.scale.toNat - s.scale.toNat) := by positivity
  rw [abs_mul, abs_of_pos hten, ← safeDigits_add (s := s) hsound, pow_add]
  exact mul_lt_mul_iff_left₀ hten

end Overflow

/-- The first value to overflow, here below zero. -/
private theorem abs_neg_ten_pow (k : ℕ) : |-(10 : ℤ) ^ k| = 10 ^ k := by
  rw [abs_neg, abs_of_nonneg (by positivity)]

/-- **Sound and tight.** The check accepts exactly the pairs all of whose values fit. -/
theorem validateScales_iff_forall_lt (hscale : s.scale < t.scale)
    (hsound : t.scale ≤ t.precision) :
    validateScales s t = .ok () ↔
      ∀ v : ℤ, |v| < 10 ^ s.precision.toNat →
        |v * 10 ^ (t.scale.toNat - s.scale.toNat)| < 10 ^ t.precision.toNat := by
  simp only [validateScales_iff hscale, abs_mul_lt_iff hsound]
  constructor
  · intro hle v hv
    rw [requiredPrecision_le_iff hsound] at hle
    exact hv.trans_le (pow_le_pow_right₀ (by norm_num) hle)
  · intro hfits
    by_contra hrefused
    have hwithin := ten_pow_safeDigits_lt hsound (not_le.mp hrefused)
    rw [← abs_neg_ten_pow] at hwithin
    exact (hfits _ hwithin).ne (abs_neg_ten_pow _)

/-! ### What the converter does -/

namespace DecimalCast

variable {f g : DecimalForm} {x : Value} {v : ℤ}

/-- An input **overflows** between two decimal types: it stores a value within the precision of the
source, and is refused for the precision of the target. -/
def Overflows (f : DecimalForm) (s : DecimalType) (g : DecimalForm) (t : DecimalType)
    (x : Value) : Prop :=
  ∃ v, f.decode x = .ok v ∧ |v| < 10 ^ s.precision.toNat ∧
    (between f s g t).convert x = .error (.overflow (.precision t.precision))

/-- A value within the source's precision is rescaled exactly, and its precision decided. -/
private theorem convert_of_scale_le (hscale : s.scale ≤ t.scale) (hv : f.decode x = .ok v)
    (hwithin : |v| < 10 ^ s.precision.toNat) :
    (between f s g t).convert x =
      if |v * 10 ^ (t.scale.toNat - s.scale.toNat)| < 10 ^ t.precision.toNat then
        g.encode (v * 10 ^ (t.scale.toNat - s.scale.toNat))
      else .error (.overflow (.precision t.precision)) := by
  have hle : s.scale.toNat ≤ t.scale.toNat := UInt32.le_iff_toNat_le.mp hscale
  have hbits := bits_lt_of_abs_lt hwithin
  have hdelta : (between f s g t).scaleDelta = ((t.scale.toNat - s.scale.toNat : ℕ) : ℤ) :=
    (Nat.cast_sub hle).symm
  have hrescale : Unscaled.rescale v (between f s g t).scaleDelta =
      v * 10 ^ (t.scale.toNat - s.scale.toNat) := by
    rw [hdelta, Unscaled.rescale_natCast ((Nat.sub_le _ _).trans_lt t.scale.toNat_lt)]
  have hfits := Unscaled.fitsPrecision_iff
    (bits_rescale_lt hbits (abs_scaleDelta_between_lt f g s t)) t.precision.toNat_lt
  have hconvert := convert_of_decode (c := between f s g t) hv
  rw [hrescale] at hfits hconvert
  rw [hconvert]
  exact if_congr hfits rfl rfl

/-- An encoder never reports a precision. -/
private theorem encode_ne_precision {limit : UInt32} :
    g.encode v ≠ .error (.overflow (.precision limit)) := by
  by_cases hholds : g.Holds v
  · obtain ⟨y, hy, -⟩ := DecimalForm.encode_of_holds hholds
    simp [hy]
  · obtain ⟨cause, herror, hcause⟩ := DecimalForm.encode_of_not_holds hholds
    simp [herror, hcause.ne_precision]

/-- An input overflows when its value does. -/
private theorem overflows_iff (hscale : s.scale < t.scale) (hsound : t.scale ≤ t.precision)
    (hv : f.decode x = .ok v) :
    Overflows f s g t x ↔ |v| < 10 ^ s.precision.toNat ∧ 10 ^ safeDigits s t ≤ |v| := by
  constructor
  · rintro ⟨w, hw, hwithin, herror⟩
    obtain rfl : w = v := Except.ok.inj (hw.symm.trans hv)
    refine ⟨hwithin, not_lt.mp fun hfits => ?_⟩
    rw [convert_of_scale_le (UInt32.le_of_lt hscale) hw hwithin,
      if_pos ((abs_mul_lt_iff hsound).mpr hfits)] at herror
    exact encode_ne_precision herror
  · rintro ⟨hwithin, hlarge⟩
    refine ⟨v, hv, hwithin, ?_⟩
    rw [convert_of_scale_le (UInt32.le_of_lt hscale) hv hwithin,
      if_neg fun hfits => ((abs_mul_lt_iff hsound).mp hfits).not_ge hlarge]

end DecimalCast

/-! ### Which inputs there are -/

namespace DecimalForm

variable {f : DecimalForm} {x : Value} {v : ℤ} {k : ℕ}

/-- The form stores values of more than `k` digits: a machine word has ten or nineteen of them, the
last one not in full, and bytes have any number. -/
def Exceeds : DecimalForm → ℕ → Prop
  | int32, k => k ≤ 9
  | int64, k => k ≤ 18
  | byteArray, _ => True
  | fixedLenByteArray _, _ => True

/-- A stored value of more than `k` digits shows that the form has them. -/
private theorem exceeds_of_le_abs (hx : f.decode x = .ok v) (hv : 10 ^ k ≤ |v|) : f.Exceeds k := by
  have hword {b : ℕ} (m : ℕ) (hb : 2 ^ b < 10 ^ (m + 1)) (habs : |v| ≤ 2 ^ b) : k ≤ m := by
    have hpow : (10 : ℤ) ^ k < 10 ^ (m + 1) := (hv.trans habs).trans_lt (by exact_mod_cast hb)
    exact Nat.le_of_lt_succ ((pow_lt_pow_iff_right₀ (by norm_num)).mp hpow)
  cases f with
  | int32 =>
    cases x <;> simp only [decode, reduceCtorEq, Except.ok.injEq] at hx
    case int32 n =>
      rw [← hx] at hword
      exact hword (b := 31) 9 (by norm_num) (abs_le.mpr ⟨n.le_toInt, n.toInt_lt.le⟩)
  | int64 =>
    cases x <;> simp only [decode, reduceCtorEq, Except.ok.injEq] at hx
    case int64 n =>
      rw [← hx] at hword
      exact hword (b := 63) 18 (by norm_num) (abs_le.mpr ⟨n.le_toInt, n.toInt_lt.le⟩)
  | byteArray => trivial
  | fixedLenByteArray length => trivial

/-- A form that has more than `k` digits stores the least value of them. -/
private theorem exists_decode_of_exceeds (h : f.Exceeds k) : ∃ x, f.decode x = .ok (-10 ^ k) := by
  have hword {b : ℕ} (m : ℕ) (hb : 10 ^ m ≤ 2 ^ b) (hk : k ≤ m) : (10 : ℤ) ^ k ≤ 2 ^ b :=
    (pow_le_pow_right₀ (by norm_num) hk).trans (by exact_mod_cast hb)
  have hpos : (0 : ℤ) < 10 ^ k := by positivity
  cases f with
  | int32 =>
    have hle := hword (b := 31) 9 (by norm_num) h
    obtain ⟨x, -, hx⟩ := encode_of_holds (f := int32) (v := -10 ^ k) ⟨by omega, by omega⟩
    exact ⟨x, hx⟩
  | int64 =>
    have hle := hword (b := 63) 18 (by norm_num) h
    obtain ⟨x, -, hx⟩ := encode_of_holds (f := int64) (v := -10 ^ k) ⟨by omega, by omega⟩
    exact ⟨x, hx⟩
  | byteArray => exact ⟨.bytes _, congrArg Except.ok (TwosComplement.decode_encode _ 0)⟩
  | fixedLenByteArray length =>
    exact ⟨.bytes _, congrArg Except.ok (TwosComplement.decode_encode _ 0)⟩

/-- A form that holds all values of `p` digits also holds the next power of ten below zero. -/
private theorem HoldsDigits.holds_neg_ten_pow {p : ℕ} (h : f.HoldsDigits p)
    (hf : f ≠ fixedLenByteArray 0) (hk : k ≤ p) : f.Holds (-10 ^ k) := by
  have hbits := (holdsDigits_iff hf).mp (h.mono hk)
  have hpos : (0 : ℤ) < 10 ^ k := by positivity
  have hrange (b : ℕ) (hb : f.bits? = some b) : -2 ^ b ≤ -(10 : ℤ) ^ k ∧ -(10 : ℤ) ^ k < 2 ^ b := by
    have hle : (10 : ℤ) ^ k ≤ 2 ^ b := by exact_mod_cast hbits b hb
    omega
  cases f with
  | int32 => exact hrange 31 rfl
  | int64 => exact hrange 63 rfl
  | byteArray => trivial
  | fixedLenByteArray length =>
    exact ⟨Nat.pos_of_ne_zero fun hzero => hf (hzero ▸ rfl), hrange (8 * length - 1) rfl⟩

/-- A usable source stores every power of ten within its precision, in its own width. -/
private theorem exists_canonical_of_usable {source : ColumnType} (hs : source.decimal? = some s)
    (hf : ofPhysical? source.physical = some f) (husable : source.fault? = none)
    (hk : (10 : ℤ) ^ k < 10 ^ s.precision.toNat) :
    ∃ x, f.Canonical x ∧ f.decode x = .ok (-10 ^ k) := by
  rw [ColumnType.eq_of_decimal hs] at husable
  obtain ⟨hlength, -, hpos, hscale, -⟩ := ColumnType.fault?_decimal_iff.mp husable
  have hdigits : f.HoldsDigits (s.precision.toNat - 1) :=
    TargetType.holdsDigits_pred_of_isOk hf hlength hpos hscale
      (TargetType.isOk_ofColumnType_iff.mpr husable)
  have hne : f ≠ fixedLenByteArray 0 := by
    rintro rfl
    exact (length_bounds hf hlength).1.ne rfl
  have hlt : k < s.precision.toNat := (pow_lt_pow_iff_right₀ (by norm_num)).mp hk
  obtain ⟨x, hx, hdecode⟩ := encode_of_holds (hdigits.holds_neg_ten_pow hne (Nat.le_pred_of_lt hlt))
  exact ⟨x, canonical_of_encode hx, hdecode⟩

end DecimalForm

namespace DecimalCast

variable {f g : DecimalForm} {x : Value}

/-- In a refused pair, the least value that overflows does so as an input. -/
private theorem overflows_of_decode (hscale : s.scale < t.scale) (hsound : t.scale ≤ t.precision)
    (hrefused : t.precision.toNat < requiredPrecision s t)
    (hx : f.decode x = .ok (-10 ^ safeDigits s t)) : Overflows f s g t x := by
  rw [overflows_iff hscale hsound hx, abs_neg_ten_pow]
  exact ⟨ten_pow_safeDigits_lt hsound hrefused, le_rfl⟩

/-- **Tight on inputs.** A refused pair has an input that overflows when the form of the source
has the digits for it. -/
theorem exists_overflows_iff (hscale : s.scale < t.scale) (hsound : t.scale ≤ t.precision)
    (hrefused : t.precision.toNat < requiredPrecision s t) :
    (∃ x, Overflows f s g t x) ↔ f.Exceeds (safeDigits s t) := by
  constructor
  · rintro ⟨x, hover⟩
    obtain ⟨v, hv, -⟩ := id hover
    exact DecimalForm.exceeds_of_le_abs hv ((overflows_iff hscale hsound hv).mp hover).2
  · intro hexceeds
    obtain ⟨x, hx⟩ := DecimalForm.exists_decode_of_exceeds hexceeds
    exact ⟨x, overflows_of_decode hscale hsound hrefused hx⟩

end DecimalCast

namespace Converter

variable {source : ColumnType} {target : TargetType} {f : DecimalForm}

/-- **Scale safety.** For decimals whose scale grows, validation accepts exactly the pairs on
which every value of the source's precision fits the target's. The converter of an accepted
pair never reports the precision on such a value. A refused pair has such a value on which the
conversion does, and has an input that overflows if the form of the source has the digits for it:
bytes always have them, and a usable source has them in its own width. -/
theorem scale_safety (hs : source.decimal? = some s) (ht : target.decimal? = some t)
    (hf : DecimalForm.ofPhysical? source.physical = some f) (hscale : s.scale < t.scale) :
    (validate source target = .ok () ↔ ∀ v : ℤ, |v| < 10 ^ s.precision.toNat →
      |v * 10 ^ (t.scale.toNat - s.scale.toNat)| < 10 ^ t.precision.toNat) ∧
    (∀ c, build source target = .ok c → ∀ x v limit, f.decode x = .ok v →
      |v| < 10 ^ s.precision.toNat → c.convert x ≠ .error (.overflow (.precision limit))) ∧
    ∀ e, validate source target = .error e →
      e = .scaleIncompatibility s.scale t.scale (requiredPrecision s t) t.precision ∧
      ∃ g, DecimalForm.ofPhysical? target.physical = some g ∧
        (∃ v : ℤ, |v| < 10 ^ s.precision.toNat ∧
          10 ^ t.precision.toNat ≤ |v * 10 ^ (t.scale.toNat - s.scale.toNat)| ∧
          ∀ x, f.decode x = .ok v → DecimalCast.Overflows f s g t x) ∧
        ((∃ x, DecimalCast.Overflows f s g t x) ↔ f.Exceeds (safeDigits s t)) ∧
        (source.physical.isBinary = true → ∃ x, DecimalCast.Overflows f s g t x) ∧
        (source.fault? = none → ∃ x, f.Canonical x ∧ DecimalCast.Overflows f s g t x) := by
  obtain ⟨⟨g, hg⟩, hsound⟩ := TargetType.exists_form ht
  have haccept := validateScales_iff_forall_lt hscale hsound
  rw [validate_decimal hs ht hf hg]
  refine ⟨haccept, fun c hbuild x v limit hv hwithin => ?_, fun e he => ?_⟩
  · obtain ⟨hscales, rfl⟩ := (build_decimal_iff hs ht hf hg).mp hbuild
    rw [convert_decimal (DecimalForm.ne_null_of_decode hv),
      DecimalCast.convert_of_scale_le (UInt32.le_of_lt hscale) hv hwithin,
      if_pos (haccept.mp hscales v hwithin)]
    exact DecimalCast.encode_ne_precision
  · obtain ⟨herror, hrefused⟩ := validateScales_error he
    have htight := DecimalCast.exists_overflows_iff (f := f) (g := g) hscale hsound hrefused
    refine ⟨herror, g, hg, ⟨-10 ^ safeDigits s t, ?_, ?_, fun x hx => ?_⟩, htight,
      fun hbinary => ?_, fun husable => ?_⟩
    · rw [abs_neg_ten_pow]
      exact ten_pow_safeDigits_lt hsound hrefused
    · rw [← not_lt, abs_mul_lt_iff hsound, abs_neg_ten_pow]
      exact lt_irrefl _
    · exact DecimalCast.overflows_of_decode hscale hsound hrefused hx
    · obtain ⟨x, hx⟩ := DecimalForm.exists_decode_of_isBinary hf hbinary (-10 ^ safeDigits s t)
      exact ⟨x, DecimalCast.overflows_of_decode hscale hsound hrefused hx⟩
    · obtain ⟨x, hcanonical, hx⟩ := DecimalForm.exists_canonical_of_usable hs hf husable
        (ten_pow_safeDigits_lt hsound hrefused)
      exact ⟨x, hcanonical, DecimalCast.overflows_of_decode hscale hsound hrefused hx⟩

/-- Two more digits after the point do not fit eighteen digits that are all in use. -/
theorem scale_safety_int64 :
    ∃ x, DecimalForm.int64.Canonical x ∧ DecimalCast.Overflows .int64 ⟨18, 2⟩ .int64 ⟨18, 4⟩ x := by
  have hs : ColumnType.decimal? ⟨.int64, .decimal ⟨18, 2⟩⟩ = some ⟨18, 2⟩ := rfl
  have ht : (TargetType.mk ⟨.int64, .decimal ⟨18, 4⟩⟩ (by decide)).decimal? =
      some ⟨18, 4⟩ := rfl
  obtain ⟨-, -, hrefused⟩ := scale_safety (f := .int64) hs ht rfl (by decide)
  obtain ⟨-, g, hg, -, -, -, husable⟩ := hrefused (.scaleIncompatibility 2 4 20 18) (by decide)
  obtain rfl : DecimalForm.int64 = g := Option.some.inj hg
  exact husable (by decide)

/-- A refused pair without an input that overflows: the source declares twenty digits, but its
32-bit integers have ten, so that each of them is converted. -/
theorem validate_refuses_convertible :
    validate ⟨.int32, .decimal ⟨20, 0⟩⟩ ⟨⟨.int64, .decimal ⟨18, 1⟩⟩, by decide⟩ =
        .error (.scaleIncompatibility 0 1 21 18) ∧
      (∀ n : Int32, ∃ y,
        (DecimalCast.between .int32 ⟨20, 0⟩ .int64 ⟨18, 1⟩).convert (.int32 n) = .ok y) ∧
      ¬∃ x, DecimalCast.Overflows .int32 ⟨20, 0⟩ .int64 ⟨18, 1⟩ x := by
  have hscale : (⟨20, 0⟩ : DecimalType).scale < (⟨18, 1⟩ : DecimalType).scale := by decide
  have hsound : (⟨18, 1⟩ : DecimalType).scale ≤ (⟨18, 1⟩ : DecimalType).precision := by decide
  refine ⟨by decide, fun n => ?_, ?_⟩
  · have hlow := n.le_toInt
    have hhigh := n.toInt_lt
    have hwithin : |n.toInt| < 10 ^ 20 := abs_lt.mpr ⟨by omega, by omega⟩
    have hfits : |n.toInt * 10 ^ 1| < 10 ^ 18 := abs_lt.mpr ⟨by omega, by omega⟩
    obtain ⟨y, hy, -⟩ := DecimalForm.encode_of_holds (f := .int64) (v := n.toInt * 10 ^ 1)
      ⟨by omega, by omega⟩
    have hconvert := DecimalCast.convert_of_scale_le (f := .int32) (g := .int64)
      (x := .int32 n) (UInt32.le_of_lt hscale) rfl hwithin
    exact ⟨y, hconvert.trans ((if_pos hfits).trans hy)⟩
  · rw [DecimalCast.exists_overflows_iff hscale hsound (by decide)]
    exact fun h => absurd (show 17 ≤ 9 from h) (by decide)

end Converter

end ColumnCast
