import ColumnCast.Proofs.ColumnType.Usable
import ColumnCast.Proofs.Decimal.Form

/-!
# The precision that a physical type is taken to hold

A form stores every value of `p` digits when `10 ^ p` is at most the magnitude of its least
value (`DecimalForm.holdsDigits_iff`). The machine words and the byte arrays without a length
are taken to hold exactly these precisions. The precision of a fixed length comes from a
rounded product, which is never too small (`holdsPrecision_iff`) and at most one digit too
large (`TargetType.holdsDigits_pred_of_isOk`); it is too large where the product is so near
below the next integer that the rounding reaches it
(`TargetType.isOk_ofColumnType_iff_holdsDigits_iff`).
-/

namespace ColumnCast

/-! ### The digits that a form stores -/

namespace DecimalForm

/-- Every value of at most `precision` digits is encoded. -/
def HoldsDigits (f : DecimalForm) (precision : ℕ) : Prop :=
  ∀ v : ℤ, |v| < 10 ^ precision → (f.encode v).isOk = true

theorem HoldsDigits.mono {f : DecimalForm} {p q : ℕ} (h : f.HoldsDigits p) (hle : q ≤ p) :
    f.HoldsDigits q := fun v hv =>
  h v (hv.trans_le (pow_le_pow_right₀ (by norm_num) hle))

/-- The number of bits of the form apart from the sign, if there is a limit. -/
def bits? : DecimalForm → Option ℕ
  | int32 => some 31
  | int64 => some 63
  | byteArray => none
  | fixedLenByteArray length => some (8 * length - 1)

/-- Two's complement of `b` bits and a sign includes all values of `p` digits when `10 ^ p` is at
most `2 ^ b`. -/
private theorem forall_abs_lt_ten_pow_iff {p b : ℕ} :
    (∀ v : ℤ, |v| < 10 ^ p → -2 ^ b ≤ v ∧ v < 2 ^ b) ↔ 10 ^ p ≤ 2 ^ b := by
  constructor
  · intro h
    have hpos : (0 : ℤ) < 10 ^ p := by positivity
    have hgreatest := (h (10 ^ p - 1) (by rw [abs_of_nonneg (by omega)]; omega)).2
    have hle : (10 : ℤ) ^ p ≤ 2 ^ b := by omega
    exact_mod_cast hle
  · intro h v hv
    have hle : (10 : ℤ) ^ p ≤ 2 ^ b := by exact_mod_cast h
    rw [abs_lt] at hv
    omega

private theorem fixedLenByteArray_ne_zero {length : ℕ} (h : 0 < length) :
    fixedLenByteArray length ≠ fixedLenByteArray 0 := fun heq =>
  h.ne' (fixedLenByteArray.inj heq)

/-- **Capacity.** A form of some bytes stores all values of `p` digits when `10 ^ p` is at most
`2 ^ b` for its bits `b`. -/
theorem holdsDigits_iff {f : DecimalForm} {p : ℕ} (hf : f ≠ fixedLenByteArray 0) :
    f.HoldsDigits p ↔ ∀ b, f.bits? = some b → 10 ^ p ≤ 2 ^ b := by
  unfold HoldsDigits
  simp only [isOk_encode_iff]
  cases f with
  | int32 =>
    simp only [Holds, bits?, Option.some.injEq, forall_eq', forall_abs_lt_ten_pow_iff]
  | int64 =>
    simp only [Holds, bits?, Option.some.injEq, forall_eq', forall_abs_lt_ten_pow_iff]
  | byteArray => simp only [Holds, bits?, reduceCtorEq, false_implies, implies_true]
  | fixedLenByteArray length =>
    have hpos : 0 < length := Nat.pos_of_ne_zero fun h => hf (h ▸ rfl)
    simp only [Holds, TwosComplement.InRange, bits?, Option.some.injEq, forall_eq', hpos,
      true_and, forall_abs_lt_ten_pow_iff]

/-- The fixed lengths whose estimate takes them to hold `precision` digits although they do not:
the product of the bits and the logarithm is below `precision`, but by at most half a spacing
of the doubles there. -/
def Overstates (f : DecimalForm) (precision : ℕ) : Prop :=
  ∃ length, f = fixedLenByteArray length ∧ 2 ^ (8 * length - 1) < 10 ^ precision ∧
    precision * 2 ^ 54 ≤
      (8 * length - 1) * DigitCount.log10Of2 + 2 ^ ((precision - 1).log2 + 1)

private theorem not_holdsDigits_of_overstates {f : DecimalForm} {p : ℕ} (h : f.Overstates p) :
    ¬f.HoldsDigits p := by
  obtain ⟨length, rfl, hlt, -⟩ := h
  intro hholds
  rcases Nat.eq_zero_or_pos length with rfl | hpos
  · have hzero := hholds 0 (by positivity)
    exact absurd hzero (by decide)
  · have hfit := (holdsDigits_iff (fixedLenByteArray_ne_zero hpos)).mp hholds
    exact hlt.not_ge (hfit _ rfl)

end DecimalForm

/-! ### The precision that is accepted -/

/-- Between two powers of ten, a power of two reaches exactly the lower ones. -/
private theorem ten_pow_le_two_pow_iff {t b p : ℕ} (hreached : 10 ^ t ≤ 2 ^ b)
    (hmissed : 2 ^ b < 10 ^ (t + 1)) : 10 ^ p ≤ 2 ^ b ↔ p ≤ t := by
  constructor
  · intro h
    exact Nat.le_of_lt_succ ((Nat.pow_lt_pow_iff_right (by norm_num)).mp (h.trans_lt hmissed))
  · intro h
    exact (Nat.pow_le_pow_right (by norm_num) h).trans hreached

private theorem DecimalForm.holdsDigits_iff_le {f : DecimalForm} {t b p : ℕ}
    (hf : f ≠ .fixedLenByteArray 0) (hb : f.bits? = some b) (hreached : 10 ^ t ≤ 2 ^ b)
    (hmissed : 2 ^ b < 10 ^ (t + 1)) : f.HoldsDigits p ↔ p ≤ t := by
  rw [DecimalForm.holdsDigits_iff hf, ← ten_pow_le_two_pow_iff hreached hmissed]
  simp only [hb, Option.some.injEq, forall_eq']

/-- The estimate reaches the digits that the bits give. -/
private theorem DigitCount.le_floor_of_ten_pow_le {bits p : ℕ} (hbits : 4 ≤ bits)
    (hlt : bits < 2 ^ 50)
    (hp1 : 1 ≤ p) (hp : p ≤ 2 ^ 52) (h : 10 ^ p ≤ 2 ^ bits) : p ≤ DigitCount.floor bits := by
  have hproduct : p * 2 ^ 54 ≤ bits * DigitCount.log10Of2 := by
    rw [← not_lt, ← pow2_eq]
    exact fun hless => (DigitCount.two_pow_lt_ten_pow hless).not_ge h
  exact (DigitCount.le_floor_iff hbits hlt hp1 hp).mpr (le_add_right hproduct)

variable {P : Physical} {f : DecimalForm} {d : DecimalType}

private theorem DecimalForm.Overstates.isBinary {p : ℕ} (h : f.Overstates p)
    (hf : DecimalForm.ofPhysical? P = some f) : P.isBinary = true := by
  obtain ⟨length, rfl, -⟩ := h
  cases P <;> cases hf
  rfl

/-- The length of a form that a usable type stores decimals in. -/
theorem DecimalForm.length_bounds {length : ℕ}
    (hf : DecimalForm.ofPhysical? P = some (.fixedLenByteArray length))
    (hP : P ≠ .fixedLenByteArray 0) : 0 < length ∧ length < 2 ^ 32 := by
  cases P <;> cases hf
  case fixedLenByteArray n =>
    refine ⟨Nat.pos_of_ne_zero fun h => hP ?_, n.toNat_lt⟩
    exact congrArg _ (UInt32.toNat_inj.mp h)

/-- A physical type is taken to hold the precisions that its form holds, and those that its
length overstates. -/
theorem holdsPrecision_iff {precision : UInt32} (hf : DecimalForm.ofPhysical? P = some f)
    (hP : P ≠ .fixedLenByteArray 0) (hprecision : 0 < precision) :
    P.holdsPrecision precision = true ↔
      f.HoldsDigits precision.toNat ∨ f.Overstates precision.toNat := by
  have hpos : 1 ≤ precision.toNat := UInt32.lt_iff_toNat_lt.mp hprecision
  have hsize := precision.toNat_lt
  cases P <;> cases hf
  case int32 =>
    have hexact : DecimalForm.int32.HoldsDigits precision.toNat ↔ precision.toNat ≤ 9 :=
      DecimalForm.holdsDigits_iff_le (b := 31) (by simp) rfl (by norm_num) (by norm_num)
    rw [hexact, or_iff_left fun hover =>
      absurd (hover.isBinary (P := .int32) rfl) (by decide)]
    exact decide_eq_true_iff
  case int64 =>
    have hexact : DecimalForm.int64.HoldsDigits precision.toNat ↔ precision.toNat ≤ 18 :=
      DecimalForm.holdsDigits_iff_le (b := 63) (by simp) rfl (by norm_num) (by norm_num)
    rw [hexact, or_iff_left fun hover =>
      absurd (hover.isBinary (P := .int64) rfl) (by decide)]
    exact decide_eq_true_iff
  case byteArray =>
    refine iff_of_true rfl (Or.inl ?_)
    rw [DecimalForm.holdsDigits_iff (by simp)]
    intro b hb
    cases hb
  case fixedLenByteArray length =>
    obtain ⟨hlength, hlt⟩ := DecimalForm.length_bounds rfl hP
    have hfloor : (Physical.fixedLenByteArray length).holdsPrecision precision = true ↔
        precision.toNat ≤ DigitCount.floor (8 * length.toNat - 1) := by
      have hle : precision.toNat ≤ UInt32.size - 1 := Nat.le_pred_of_lt hsize
      exact decide_eq_true_iff.trans (le_min_iff.trans (and_iff_left hle))
    have hreach : precision.toNat ≤ DigitCount.floor (8 * length.toNat - 1) ↔ _ :=
      DigitCount.le_floor_iff (by omega) (by omega) hpos (by omega)
    rw [hfloor, DecimalForm.holdsDigits_iff (DecimalForm.fixedLenByteArray_ne_zero hlength)]
    simp only [DecimalForm.bits?, Option.some.injEq, forall_eq']
    -- the estimate reaches the precision by the bits, or else by its rounding
    constructor
    · intro h
      rcases le_or_gt (10 ^ precision.toNat) (2 ^ (8 * length.toNat - 1)) with hfit | hmiss
      · exact Or.inl hfit
      · exact Or.inr ⟨_, rfl, hmiss, hreach.mp h⟩
    · rintro (hfit | ⟨_, heq, -, hnear⟩)
      · exact DigitCount.le_floor_of_ten_pow_le (by omega) (by omega) hpos (by omega) hfit
      · cases heq
        exact hreach.mpr hnear

namespace TargetType

theorem isOk_ofColumnType_iff {t : ColumnType} :
    (ofColumnType t).isOk = true ↔ t.fault? = none := by
  unfold ofColumnType
  split <;> simp_all [Except.isOk, Except.toBool]

/-- A decimal target is accepted when its form holds the precision or overstates it. -/
private theorem isOk_ofColumnType_decimal_iff (hf : DecimalForm.ofPhysical? P = some f)
    (hP : P ≠ .fixedLenByteArray 0) (hprecision : 0 < d.precision)
    (hscale : d.scale ≤ d.precision) :
    (ofColumnType ⟨P, .decimal d⟩).isOk = true ↔
      f.HoldsDigits d.precision.toNat ∨ f.Overstates d.precision.toNat := by
  have hcarrier := DecimalForm.exists_ofPhysical?_iff.mp ⟨f, hf⟩
  rw [isOk_ofColumnType_iff, ColumnType.fault?_decimal_iff, ← holdsPrecision_iff hf hP hprecision]
  simp only [hP, ne_eq, not_false_eq_true, hcarrier, hprecision, hscale, true_and]

/-- **Exact capacity.** A decimal target is accepted exactly when its form stores every value of
its precision, unless its length overstates the precision. -/
theorem isOk_ofColumnType_iff_holdsDigits_iff (hf : DecimalForm.ofPhysical? P = some f)
    (hP : P ≠ .fixedLenByteArray 0) (hprecision : 0 < d.precision)
    (hscale : d.scale ≤ d.precision) :
    ((ofColumnType ⟨P, .decimal d⟩).isOk = true ↔ f.HoldsDigits d.precision.toNat) ↔
      ¬f.Overstates d.precision.toNat := by
  rw [isOk_ofColumnType_decimal_iff hf hP hprecision hscale]
  constructor
  · intro hiff hover
    exact DecimalForm.not_holdsDigits_of_overstates hover (hiff.mp (Or.inr hover))
  · intro hover
    exact or_iff_left hover

/-- **At most one digit too many.** All digits but one of an accepted precision are held. -/
theorem holdsDigits_pred_of_isOk (hf : DecimalForm.ofPhysical? P = some f)
    (hP : P ≠ .fixedLenByteArray 0) (hprecision : 0 < d.precision)
    (hscale : d.scale ≤ d.precision) (hok : (ofColumnType ⟨P, .decimal d⟩).isOk = true) :
    f.HoldsDigits (d.precision.toNat - 1) := by
  have hpos : 1 ≤ d.precision.toNat := UInt32.lt_iff_toNat_lt.mp hprecision
  have hsize := d.precision.toNat_lt
  rcases (isOk_ofColumnType_decimal_iff hf hP hprecision hscale).mp hok with hholds | hover
  · exact hholds.mono (Nat.sub_le _ _)
  · obtain ⟨length, rfl, -, hnear⟩ := hover
    obtain ⟨hlength, hlt⟩ := DecimalForm.length_bounds hf hP
    have hreach : d.precision.toNat ≤ DigitCount.floor (8 * length - 1) :=
      (DigitCount.le_floor_iff (by omega) (by omega) hpos (by omega)).mpr hnear
    rw [DecimalForm.holdsDigits_iff (DecimalForm.fixedLenByteArray_ne_zero hlength)]
    intro b hb
    rw [← Option.some.inj hb]
    exact (DigitCount.ten_pow_lt_of_lt_floor (by omega) (by omega)).le

/-- Sixteen bytes hold 38 digits and are not overstated there. -/
theorem isOk_ofColumnType_iff_holdsDigits_sixteen :
    ((ofColumnType ⟨.fixedLenByteArray 16, .decimal ⟨38, 4⟩⟩).isOk = true ↔
        (DecimalForm.fixedLenByteArray 16).HoldsDigits 38) ↔
      ¬(DecimalForm.fixedLenByteArray 16).Overstates 38 :=
  isOk_ofColumnType_iff_holdsDigits_iff (d := ⟨38, 4⟩) rfl (by decide) (by decide) (by decide)

/-- A length that is overstated: its `977617999` bits hold `294292341` digits, and one
more is accepted. -/
theorem ofColumnType_overstated :
    (ofColumnType ⟨.fixedLenByteArray 122202250, .decimal ⟨294292342, 0⟩⟩).isOk = true ∧
      ¬(DecimalForm.fixedLenByteArray 122202250).HoldsDigits 294292342 := by
  have hmiss : 2 ^ (8 * 122202250 - 1) < 10 ^ 294292342 :=
    TenPower.two_pow_lt_of_approx (k := 29) (a := 127) (by decide +kernel) (by decide +kernel)
      (by decide +kernel)
  have hover : (DecimalForm.fixedLenByteArray 122202250).Overstates 294292342 :=
    ⟨122202250, rfl, hmiss, by decide +kernel⟩
  refine ⟨?_, DecimalForm.not_holdsDigits_of_overstates hover⟩
  exact (isOk_ofColumnType_decimal_iff (d := ⟨294292342, 0⟩) rfl (by decide) (by decide)
    (by decide)).mpr (Or.inr hover)

end TargetType

end ColumnCast
