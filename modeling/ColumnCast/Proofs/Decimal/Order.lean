import ColumnCast.Proofs.Decimal.Path

/-!
# Conversions between decimals and the order of values

Rounding keeps the order of values, and the values that a precision and a form leave room for lie
around zero without a gap. So a built converter keeps the order of the values that it converts,
and these are all the values between any two of them (`Converter.convert_order`).
-/

namespace ColumnCast

namespace DecimalForm

/-- The value **shows** a number in a form, in fewer than `2 ^ 46` bytes. -/
structure Shows (f : DecimalForm) (x : Value) (v : ℤ) : Prop where
  decode_eq : f.decode x = .ok v
  byteCount_lt : x.byteCount < 2 ^ 46

variable {f : DecimalForm} {u v w : ℤ}

/-- What a form holds lies around zero without a gap. -/
private theorem Holds.of_between (hu : f.Holds u) (hw : f.Holds w) (huv : u ≤ v) (hvw : v ≤ w) :
    f.Holds v := by
  cases f with
  | int32 => exact ⟨hu.1.trans huv, hvw.trans_lt hw.2⟩
  | int64 => exact ⟨hu.1.trans huv, hvw.trans_lt hw.2⟩
  | byteArray => trivial
  | fixedLenByteArray length =>
    exact ⟨hu.1, hu.2.1.trans huv, hvw.trans_lt hw.2.2⟩

/-- A form of a usable type holds zero. -/
private theorem holds_zero {p : Physical} (hf : ofPhysical? p = some f)
    (hlength : p ≠ .fixedLenByteArray 0) : f.Holds 0 := by
  cases p <;> cases hf
  case int32 => exact ⟨by norm_num, by norm_num⟩
  case int64 => exact ⟨by norm_num, by norm_num⟩
  case byteArray => trivial
  case fixedLenByteArray length =>
    have hpos : 0 < length.toNat := by
      rw [Nat.pos_iff_ne_zero]
      intro hzero
      exact hlength (congrArg _ (UInt32.toNat_inj.mp hzero))
    exact ⟨hpos, neg_nonpos.mpr (by positivity), by positivity⟩

end DecimalForm

namespace DecimalCast

variable {c : DecimalCast} {x y z : Value} {u v w : ℤ}

/-- **Acceptance.** A value is converted when, at the scale of the target, it is within the
target's precision and its form holds it. -/
theorem exists_convert_iff (hv : c.source.Shows x v) (hd : |c.scaleDelta| < 2 ^ 32) :
    (∃ y, c.convert x = .ok y) ↔
      |Unscaled.rescale v c.scaleDelta| < 10 ^ c.targetPrecision.toNat ∧
        c.target.Holds (Unscaled.rescale v c.scaleDelta) := by
  have hbits := bits_lt_of_decode hv.decode_eq hv.byteCount_lt
  obtain ⟨hexceeds, hstored, hwide⟩ := convert_delivers hv.decode_eq hbits hd
  constructor
  · rintro ⟨y, hy⟩
    -- an accepted value meets neither of the two refusals
    rw [hy] at hexceeds hwide
    have hwithin : |Unscaled.rescale v c.scaleDelta| < 10 ^ c.targetPrecision.toNat := by
      by_contra hnot
      obtain ⟨e, herror, -⟩ := hexceeds (not_lt.mp hnot)
      cases herror
    refine ⟨hwithin, ?_⟩
    by_contra hnot
    obtain ⟨cause, herror, -⟩ := hwide hwithin hnot
    cases herror
  · rintro ⟨hwithin, hholds⟩
    obtain ⟨y, hy, -⟩ := hstored hwithin hholds
    exact ⟨y, hy⟩

/-- A conversion keeps the order of values. -/
private theorem convert_mono {x' y' : Value} (hv : c.source.Shows x v) (hw : c.source.Shows y w)
    (hd : |c.scaleDelta| < 2 ^ 32) (hle : v ≤ w) (hx : c.convert x = .ok x')
    (hy : c.convert y = .ok y') :
    ∃ r q, c.target.decode x' = .ok r ∧ c.target.decode y' = .ok q ∧ r ≤ q := by
  obtain ⟨v', hv', hbits, -, hr⟩ := exists_rescaled hx hv.byteCount_lt hd
  obtain ⟨w', hw', hbits', -, hq⟩ := exists_rescaled hy hw.byteCount_lt hd
  obtain rfl : v = v' := Except.ok.inj (hv.decode_eq.symm.trans hv')
  obtain rfl : w = w' := Except.ok.inj (hw.decode_eq.symm.trans hw')
  exact ⟨_, _, hr, hq, Unscaled.rescale_mono (hbits.trans (by norm_num))
    (hbits'.trans (by norm_num)) hd hle⟩

/-- A conversion accepts what lies between two values that it accepts. -/
private theorem exists_convert_of_between (hu : c.source.Shows x u) (hv : c.source.Shows y v)
    (hw : c.source.Shows z w) (hd : |c.scaleDelta| < 2 ^ 32) (huv : u ≤ v) (hvw : v ≤ w)
    (hx : ∃ x', c.convert x = .ok x') (hz : ∃ z', c.convert z = .ok z') :
    ∃ y', c.convert y = .ok y' := by
  obtain ⟨hlow, hholds⟩ := (exists_convert_iff hu hd).mp hx
  obtain ⟨hhigh, hholds'⟩ := (exists_convert_iff hw hd).mp hz
  have hbits {x : Value} {v : ℤ} (h : c.source.Shows x v) : Unscaled.bits v < 2 ^ 53 :=
    (bits_lt_of_decode h.decode_eq h.byteCount_lt).trans (by norm_num)
  -- what lies between the values lies between the rescaled ones
  have hle := Unscaled.rescale_mono (hbits hu) (hbits hv) hd huv
  have hge := Unscaled.rescale_mono (hbits hv) (hbits hw) hd hvw
  refine (exists_convert_iff hv hd).mpr ⟨?_, hholds.of_between hholds' hle hge⟩
  exact abs_lt.mpr ⟨(abs_lt.mp hlow).1.trans_le hle, hge.trans_lt (abs_lt.mp hhigh).2⟩

end DecimalCast

namespace Converter

variable {source : ColumnType} {target : TargetType} {s t : DecimalType} {c : Converter}

/-- **Order.** A built converter between decimals reads every value of the source's kind. It
keeps the order of the values that it converts; it converts zero, and with two values everything
that lies between them. -/
theorem convert_order (hs : source.decimal? = some s) (ht : target.decimal? = some t)
    (hbuild : build source target = .ok c) :
    ∃ f g, DecimalForm.ofPhysical? source.physical = some f ∧
      DecimalForm.ofPhysical? target.physical = some g ∧
      (∀ x : Value, x.kind = f.valueKind → x.byteCount < 2 ^ 46 → ∃ v, f.Shows x v) ∧
      (∀ x y v w x' y', f.Shows x v → f.Shows y w → v ≤ w →
        c.convert x = .ok x' → c.convert y = .ok y' →
          ∃ r q, g.decode x' = .ok r ∧ g.decode y' = .ok q ∧ r ≤ q) ∧
      (∀ x, f.Shows x 0 → ∃ x', c.convert x = .ok x') ∧
      ∀ x y z u v w, f.Shows x u → f.Shows y v → f.Shows z w → u ≤ v → v ≤ w →
        (∃ x', c.convert x = .ok x') → (∃ z', c.convert z = .ok z') →
          ∃ y', c.convert y = .ok y' := by
  obtain ⟨⟨f, hf⟩, ⟨g, hg⟩⟩ := exists_forms_of_build hs ht hbuild
  obtain ⟨-, rfl⟩ := (build_decimal_iff hs ht hf hg).mp hbuild
  have hd := DecimalCast.abs_scaleDelta_between_lt f g s t
  have hcast {x : Value} {v : ℤ} (hv : f.Shows x v) :
      (decimal (.between f s g t)).convert x = (DecimalCast.between f s g t).convert x :=
    convert_decimal (DecimalForm.ne_null_of_decode hv.decode_eq)
  refine ⟨f, g, hf, hg, fun x hkind hlen => ?_, fun x y v w x' y' hv hw hle hx hy => ?_,
    fun x hzero => ?_, fun x y z u v w hu hv hw huv hvw hx hz => ?_⟩
  · obtain ⟨v, hv⟩ := DecimalForm.exists_decode hkind
    exact ⟨v, hv, hlen⟩
  · rw [hcast hv] at hx
    rw [hcast hw] at hy
    exact DecimalCast.convert_mono hv hw hd hle hx hy
  · -- a usable target has a length, without which not even zero would fit
    have hsound := target.sound
    rw [ColumnType.eq_of_decimal ht, ColumnType.fault?_decimal_iff] at hsound
    rw [hcast hzero, DecimalCast.exists_convert_iff hzero hd, Unscaled.rescale_zero hd, abs_zero]
    exact ⟨by positivity, DecimalForm.holds_zero hg hsound.1⟩
  · rw [hcast hu] at hx
    rw [hcast hw] at hz
    rw [hcast hv]
    exact DecimalCast.exists_convert_of_between hu hv hw hd huv hvw hx hz

/-- Negative and positive ties keep their order on the way to two bytes, and 1.2345 is converted
as zero and 99.9949 are. -/
theorem convert_order_two_bytes :
    ∃ c, build ⟨.int64, .decimal ⟨12, 4⟩⟩
        ⟨⟨.fixedLenByteArray 2, .decimal ⟨4, 2⟩⟩, by decide +kernel⟩ = .ok c ∧
      (∃ r q : ℤ, (DecimalForm.fixedLenByteArray 2).decode (.bytes [255, 254]) = .ok r ∧
        (DecimalForm.fixedLenByteArray 2).decode (.bytes [0, 1]) = .ok q ∧ r ≤ q) ∧
      ∃ y', c.convert (.int64 12345) = .ok y' := by
  have hbuild : build ⟨.int64, .decimal ⟨12, 4⟩⟩
      ⟨⟨.fixedLenByteArray 2, .decimal ⟨4, 2⟩⟩, by decide +kernel⟩ =
        .ok (.decimal (.between .int64 ⟨12, 4⟩ (.fixedLenByteArray 2) ⟨4, 2⟩)) := by
    decide +kernel
  obtain ⟨f, g, hf, hg, -, hmono, hzero, hbetween⟩ :=
    convert_order (s := ⟨12, 4⟩) (t := ⟨4, 2⟩) rfl rfl hbuild
  obtain rfl : DecimalForm.int64 = f := Option.some.inj hf
  obtain rfl : DecimalForm.fixedLenByteArray 2 = g := Option.some.inj hg
  have hshows (n : Int64) : DecimalForm.int64.Shows (.int64 n) n.toInt :=
    ⟨rfl, show 0 < 2 ^ 46 by decide⟩
  refine ⟨_, hbuild, ?_, ?_⟩
  · exact hmono _ _ _ _ _ _ (hshows (-150)) (hshows 50) (by decide) (by decide +kernel)
      (by decide +kernel)
  · exact hbetween _ _ _ _ _ _ (hshows 0) (hshows 12345) (hshows 999949) (by decide) (by decide)
      (hzero _ (hshows 0)) ⟨.bytes [39, 15], by decide +kernel⟩

end Converter

end ColumnCast
