import ColumnCast.Proofs.Decimal.Cast

/-!
# Paths of decimal conversions

A conversion to a scale that is not smaller loses nothing, so what follows it can start from
the original value as well: `DecimalCast.convert_convert` for the conversions,
`Converter.decimal_path` for built converters. With the first type as the last one this is a
round trip, which gives a canonical value of the same number back.
-/

namespace ColumnCast

namespace DecimalCast

variable {f g h : DecimalForm} {a b c : DecimalType} {x y : Value}

/-- What is known of a value that was converted. -/
theorem exists_rescaled {k : DecimalCast} (hconvert : k.convert x = .ok y)
    (hlen : x.byteCount < 2 ^ 46) (hd : |k.scaleDelta| < 2 ^ 32) :
    ∃ v, k.source.decode x = .ok v ∧ Unscaled.bits v < 2 ^ 49 ∧
      |Unscaled.rescale v k.scaleDelta| < 10 ^ k.targetPrecision.toNat ∧
        k.target.decode y = .ok (Unscaled.rescale v k.scaleDelta) := by
  obtain ⟨v, hv⟩ := decode_of_convert hconvert
  have hbits := bits_lt_of_decode hv hlen
  rw [convert_of_decode hv] at hconvert
  split_ifs at hconvert with hfits
  rw [Unscaled.fitsPrecision_iff (bits_rescale_lt hbits hd) k.targetPrecision.toNat_lt] at hfits
  exact ⟨v, hv, hbits, hfits, DecimalForm.decode_of_encode hconvert⟩

/-- A value within any precision has few bits. -/
theorem bits_lt_of_abs_lt {r : ℤ} {precision : UInt32} (hr : |r| < 10 ^ precision.toNat) :
    Unscaled.bits r < 2 ^ 49 := by
  have hbits := Unscaled.bits_le_of_abs_lt_ten_pow hr
  have hprecision := precision.toNat_lt
  omega

/-- **Path independence.** After a conversion to a scale that is not smaller, a second one gives
what the direct one gives, errors included. -/
theorem convert_convert (hscale : a.scale ≤ b.scale) (hlen : x.byteCount < 2 ^ 46)
    (hconvert : (between f a g b).convert x = .ok y) :
    (between g b h c).convert y = (between f a h c).convert x := by
  have hdab := abs_scaleDelta_between_lt f g a b
  have hdbc := abs_scaleDelta_between_lt g h b c
  have hdac := abs_scaleDelta_between_lt f h a c
  obtain ⟨v, hv, hbits, -, hy⟩ := exists_rescaled hconvert hlen hdab
  have hnonneg : 0 ≤ (between f a g b).scaleDelta :=
    sub_nonneg.mpr (Int.ofNat_le.mpr (UInt32.le_iff_toNat_le.mp hscale))
  have hsum : (between f a g b).scaleDelta + (between g b h c).scaleDelta =
      (between f a h c).scaleDelta := by
    change (b.scale.toNat : ℤ) - a.scale.toNat + (c.scale.toNat - b.scale.toNat) =
      c.scale.toNat - a.scale.toNat
    ring
  have hrescale := Unscaled.rescale_rescale (hbits.trans (by norm_num)) hnonneg hdab hdbc
    (hsum ▸ hdac)
  rw [hsum] at hrescale
  have hdirect := convert_of_decode (c := between f a h c) hv
  have honward := convert_of_decode (c := between g b h c) hy
  rw [hdirect, honward, hrescale]
  rfl

/-- Within its own precision, a value that stays at its scale is encoded as it is. -/
private theorem convert_self {v : ℤ} (hv : f.decode x = .ok v)
    (hwithin : |v| < 10 ^ a.precision.toNat) : (between f a f a).convert x = f.encode v := by
  have hbits := bits_lt_of_abs_lt hwithin
  have hdelta : (between f a f a).scaleDelta = ((0 : ℕ) : ℤ) := sub_self _
  have hrescale : Unscaled.rescale v (between f a f a).scaleDelta = v := by
    rw [hdelta, Unscaled.rescale_natCast (by norm_num), pow_zero, mul_one]
  have hfits : Unscaled.fitsPrecision v (between f a f a).targetPrecision.toNat = true :=
    (Unscaled.fitsPrecision_iff (hbits.trans (by norm_num)) a.precision.toNat_lt).mpr hwithin
  have hconvert := convert_of_decode (c := between f a f a) hv
  rw [hrescale, if_pos hfits] at hconvert
  exact hconvert

end DecimalCast

namespace Converter

variable {A : ColumnType} {B : TargetType} {a b : DecimalType} {ab : Converter} {x y : Value}

/-- **Paths and round trips.** When a value was converted to a decimal of a scale that is not
smaller, converting on gives what converting the value itself gives, errors included. Back at
its own type, a value within the precision comes back as the canonical value of its number,
and so as itself when it was canonical. -/
theorem decimal_path (ha : A.decimal? = some a) (hb : B.decimal? = some b)
    (hscale : a.scale ≤ b.scale) (hab : build A B = .ok ab) (hlen : x.byteCount < 2 ^ 46)
    (hx : ab.convert x = .ok y) :
    (∀ (C : TargetType) (c : DecimalType) (bc ac : Converter), C.decimal? = some c →
      build B.toColumnType C = .ok bc → build A C = .ok ac → bc.convert y = ac.convert x) ∧
    ∀ (A' : TargetType) (ba : Converter), A'.toColumnType = A →
      build B.toColumnType A' = .ok ba →
      ∀ (f : DecimalForm) (v : ℤ), DecimalForm.ofPhysical? A.physical = some f →
        f.decode x = .ok v → |v| < 10 ^ a.precision.toNat →
          (f.Holds v → ∃ z, ba.convert y = .ok z ∧ f.decode z = .ok v ∧ f.Canonical z) ∧
          (f.Canonical x → ba.convert y = .ok x) := by
  obtain ⟨⟨f, hf⟩, ⟨g, hg⟩⟩ := exists_forms_of_build ha hb hab
  obtain ⟨-, rfl⟩ := (build_decimal_iff ha hb hf hg).mp hab
  refine ⟨fun C c bc ac hc hbc hac => ?_, fun A' ba hA' hba f' v hf' hv hwithin => ?_⟩
  · -- the forms of the three types are the same on both paths
    obtain ⟨-, h, hh⟩ := exists_forms_of_build hb hc hbc
    obtain ⟨-, rfl⟩ := (build_decimal_iff hb hc hg hh).mp hbc
    obtain ⟨-, rfl⟩ := (build_decimal_iff ha hc hf hh).mp hac
    rcases eq_or_ne x .null with rfl | hnull
    · rw [← Except.ok.inj hx]
      rfl
    · rw [convert_decimal hnull] at hx ⊢
      obtain ⟨_, -, -, -, hy⟩ :=
        DecimalCast.exists_rescaled hx hlen (DecimalCast.abs_scaleDelta_between_lt f g a b)
      rw [convert_decimal (DecimalForm.ne_null_of_decode hy)]
      exact DecimalCast.convert_convert hscale hlen hx
  · -- the way back is the way on for `C = A`, and that is as direct as no way at all
    subst hA'
    obtain rfl : f = f' := Option.some.inj (hf.symm.trans hf')
    obtain ⟨-, rfl⟩ := (build_decimal_iff hb ha hg hf).mp hba
    rw [convert_decimal (DecimalForm.ne_null_of_decode hv)] at hx
    obtain ⟨_, -, -, -, hy⟩ :=
      DecimalCast.exists_rescaled hx hlen (DecimalCast.abs_scaleDelta_between_lt f g a b)
    have hback : (decimal (.between g b f a)).convert y = f.encode v := by
      rw [convert_decimal (DecimalForm.ne_null_of_decode hy),
        DecimalCast.convert_convert hscale hlen hx, DecimalCast.convert_self hv hwithin]
    refine ⟨fun hholds => ?_, fun hcanonical => ?_⟩
    · obtain ⟨z, hz, hdecode⟩ := DecimalForm.encode_of_holds hholds
      exact ⟨z, hback.trans hz, hdecode, DecimalForm.canonical_of_encode hz⟩
    · obtain ⟨z, hz, hdecode⟩ := DecimalForm.encode_of_holds (hcanonical.holds hv)
      rw [hback, hz, (DecimalForm.canonical_of_encode hz).unique hcanonical hdecode hv]

/-- Four bytes go by way of a 64-bit integer to one digit less, and back. -/
theorem decimal_path_four_bytes :
    (decimal (.between .int64 ⟨12, 4⟩ .int32 ⟨7, 1⟩)).convert (.int64 1234500) =
        (decimal (.between (.fixedLenByteArray 4) ⟨9, 2⟩ .int32 ⟨7, 1⟩)).convert
          (.bytes [0, 0, 48, 57]) ∧
      (decimal (.between .int64 ⟨12, 4⟩ (.fixedLenByteArray 4) ⟨9, 2⟩)).convert
        (.int64 1234500) = .ok (.bytes [0, 0, 48, 57]) := by
  have hab : build ⟨.fixedLenByteArray 4, .decimal ⟨9, 2⟩⟩
      ⟨⟨.int64, .decimal ⟨12, 4⟩⟩, by decide +kernel⟩ =
        .ok (.decimal (.between (.fixedLenByteArray 4) ⟨9, 2⟩ .int64 ⟨12, 4⟩)) := by
    decide +kernel
  have hx : (decimal (.between (.fixedLenByteArray 4) ⟨9, 2⟩ .int64 ⟨12, 4⟩)).convert
      (.bytes [0, 0, 48, 57]) = .ok (.int64 1234500) := by
    decide +kernel
  obtain ⟨hpath, hback⟩ := decimal_path (a := ⟨9, 2⟩) (b := ⟨12, 4⟩) rfl rfl (by decide) hab
    (by decide) hx
  have honward : build ⟨.int64, .decimal ⟨12, 4⟩⟩
      ⟨⟨.int32, .decimal ⟨7, 1⟩⟩, by decide +kernel⟩ =
        .ok (.decimal (.between .int64 ⟨12, 4⟩ .int32 ⟨7, 1⟩)) := by
    decide +kernel
  have hreturn : build ⟨.int64, .decimal ⟨12, 4⟩⟩
      ⟨⟨.fixedLenByteArray 4, .decimal ⟨9, 2⟩⟩, by decide +kernel⟩ =
        .ok (.decimal (.between .int64 ⟨12, 4⟩ (.fixedLenByteArray 4) ⟨9, 2⟩)) := by
    decide +kernel
  refine ⟨hpath _ ⟨7, 1⟩ _ _ rfl honward (by decide +kernel), ?_⟩
  exact (hback _ _ rfl hreturn (.fixedLenByteArray 4) 12345 rfl rfl (by decide +kernel)).2
    ⟨by decide, rfl⟩

end Converter

end ColumnCast
