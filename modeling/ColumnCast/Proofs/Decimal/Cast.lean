import ColumnCast.Proofs.Decimal.Build

/-!
# What a conversion between decimals computes

A conversion decodes the unscaled value, moves it to the other scale with rounding to the
nearest integer, and delivers the outcome: stored in the target's form, or refused because the
precision is exceeded, or else because the form is too narrow
(`Converter.convert_decimal_nearest`).
-/

namespace ColumnCast

/-- What a conversion owes for the rescaled value `r`: the error about the precision when `r`
has too many digits, else a value that decodes to `r` when the form holds `r`, else an error
about the width. -/
structure DecimalForm.Delivers (g : DecimalForm) (precision : UInt32) (r : ℤ)
    (result : Except ConversionError Value) : Prop where
  exceeds : 10 ^ precision.toNat ≤ |r| → ∃ e, result = .error e ∧ e.kind = .overflow ∧
    e.message = "decimal value exceeds precision " ++ Numeral.nat precision.toNat
  stored : |r| < 10 ^ precision.toNat → g.Holds r → ∃ y, result = .ok y ∧ g.decode y = .ok r
  tooWide : |r| < 10 ^ precision.toNat → ¬g.Holds r →
    ∃ cause, result = .error (.overflow cause) ∧ g.TooWide r cause

namespace DecimalCast

variable {c : DecimalCast} {x : Value} {v : ℤ}

/-- A conversion after its decoding. -/
theorem convert_of_decode (h : c.source.decode x = .ok v) :
    c.convert x =
      if Unscaled.fitsPrecision (Unscaled.rescale v c.scaleDelta) c.targetPrecision.toNat then
        c.target.encode (Unscaled.rescale v c.scaleDelta)
      else .error (.overflow (.precision c.targetPrecision)) := by
  unfold convert
  rw [h]
  rfl

/-- A converted value was decoded. -/
theorem decode_of_convert {y : Value} (h : c.convert x = .ok y) :
    ∃ v, c.source.decode x = .ok v := by
  cases hdecode : c.source.decode x with
  | ok v => exact ⟨v, rfl⟩
  | error e =>
    unfold convert at h
    rw [hdecode] at h
    cases h

theorem abs_scaleDelta_between_lt (f g : DecimalForm) (s t : DecimalType) :
    |(between f s g t).scaleDelta| < 2 ^ 32 := by
  have hs := s.scale.toNat_lt
  have ht := t.scale.toNat_lt
  change |(t.scale.toNat : ℤ) - s.scale.toNat| < 2 ^ 32
  rw [abs_lt]
  omega

/-- A value of fewer than `2 ^ 46` bytes has fewer than `2 ^ 49` bits. -/
theorem bits_lt_of_decode {f : DecimalForm} (h : f.decode x = .ok v)
    (hlen : x.byteCount < 2 ^ 46) : Unscaled.bits v < 2 ^ 49 := by
  have hbits := DecimalForm.bits_le_of_decode h
  omega

/-- Such a value stays below `2 ^ 50` bits when it is moved to any other scale. -/
theorem bits_rescale_lt {d : ℤ} (hv : Unscaled.bits v < 2 ^ 49) (hd : |d| < 2 ^ 32) :
    Unscaled.bits (Unscaled.rescale v d) < 2 ^ 50 := by
  have hbits := Unscaled.bits_rescale_le (hv.trans (by norm_num)) hd
  rw [abs_lt] at hd
  omega

/-- **Delivery.** Up to the size of the value, a conversion treats the rescaled value as it
owes. -/
theorem convert_delivers (h : c.source.decode x = .ok v) (hv : Unscaled.bits v < 2 ^ 49)
    (hd : |c.scaleDelta| < 2 ^ 32) :
    c.target.Delivers c.targetPrecision (Unscaled.rescale v c.scaleDelta) (c.convert x) := by
  have hfits := Unscaled.fitsPrecision_iff (bits_rescale_lt hv hd) c.targetPrecision.toNat_lt
  have hconvert := convert_of_decode h
  constructor
  · intro hexceeds
    rw [if_neg fun hfit => (hfits.mp hfit).not_ge hexceeds] at hconvert
    exact ⟨_, hconvert, rfl, rfl⟩
  · intro hwithin hholds
    obtain ⟨y, hy, hdecode⟩ := DecimalForm.encode_of_holds hholds
    rw [if_pos (hfits.mpr hwithin), hy] at hconvert
    exact ⟨y, hconvert, hdecode⟩
  · intro hwithin hholds
    obtain ⟨cause, herror, hcause⟩ := DecimalForm.encode_of_not_holds hholds
    rw [if_pos (hfits.mpr hwithin), herror] at hconvert
    exact ⟨cause, hconvert, hcause⟩

end DecimalCast

namespace Converter

variable {source : ColumnType} {target : TargetType} {s t : DecimalType} {c : Converter}

/-- Only null is kept from the conversion of the family. -/
theorem convert_of_ne_null {x : Value} (hx : x ≠ .null) :
    c.convert x =
      match c with
      | .numeric cast => cast.convert x
      | .binary cast => cast.convert x
      | .decimal cast => cast.convert x
      | .int96 cast => cast.convert x := by
  cases x with
  | null => exact absurd rfl hx
  | _ => rfl

theorem convert_decimal {cast : DecimalCast} {x : Value} (hx : x ≠ .null) :
    (decimal cast).convert x = cast.convert x :=
  convert_of_ne_null hx

/-- **The meaning of a decimal conversion.** A built converter between decimals decodes every
value of the source's kind to some `v`, takes for `r` the integer nearest to `v` at the scale
of the target, ties away from zero, and delivers `r` in the form of the target. -/
theorem convert_decimal_nearest (hs : source.decimal? = some s) (ht : target.decimal? = some t)
    (hbuild : build source target = .ok c) :
    ∃ f g, DecimalForm.ofPhysical? source.physical = some f ∧
      DecimalForm.ofPhysical? target.physical = some g ∧
      ∀ x : Value, x.kind = f.valueKind → x.byteCount < 2 ^ 46 →
        ∃ v r, f.decode x = .ok v ∧
          IsNearestAway ((v : ℚ) * 10 ^ ((t.scale.toNat : ℤ) - s.scale.toNat)) r ∧
          (s.scale ≤ t.scale → r = v * 10 ^ (t.scale.toNat - s.scale.toNat)) ∧
          g.Delivers t.precision r (c.convert x) := by
  obtain ⟨⟨f, hf⟩, ⟨g, hg⟩⟩ := exists_forms_of_build hs ht hbuild
  obtain ⟨-, rfl⟩ := (build_decimal_iff hs ht hf hg).mp hbuild
  refine ⟨f, g, hf, hg, fun x hkind hlen => ?_⟩
  obtain ⟨v, hv⟩ := DecimalForm.exists_decode hkind
  have hbits := DecimalCast.bits_lt_of_decode hv hlen
  have hdelta := DecimalCast.abs_scaleDelta_between_lt f g s t
  refine ⟨v, Unscaled.rescale v ((t.scale.toNat : ℤ) - s.scale.toNat), hv,
    Unscaled.isNearestAway_rescale (hbits.trans (by norm_num)) hdelta, fun hscale => ?_, ?_⟩
  · have hle : s.scale.toNat ≤ t.scale.toNat := UInt32.le_iff_toNat_le.mp hscale
    rw [← Nat.cast_sub hle, Unscaled.rescale_natCast
      ((Nat.sub_le _ _).trans_lt t.scale.toNat_lt)]
  · rw [convert_decimal (DecimalForm.ne_null_of_decode hv)]
    exact DecimalCast.convert_delivers hv hbits hdelta

/-- Two digits are dropped from a 64-bit integer on its way to four bytes. -/
theorem convert_decimal_nearest_int64 :
    ∃ c, build ⟨.int64, .decimal ⟨12, 4⟩⟩
        ⟨⟨.fixedLenByteArray 4, .decimal ⟨9, 2⟩⟩, by decide +kernel⟩ = .ok c ∧
      ∃ v r, DecimalForm.int64.decode (.int64 1234550) = .ok v ∧
        IsNearestAway ((v : ℚ) * 10 ^ ((2 : ℤ) - 4)) r ∧
        (DecimalForm.fixedLenByteArray 4).Delivers 9 r (c.convert (.int64 1234550)) := by
  have hbuild : build ⟨.int64, .decimal ⟨12, 4⟩⟩
      ⟨⟨.fixedLenByteArray 4, .decimal ⟨9, 2⟩⟩, by decide +kernel⟩ =
        .ok (.decimal (.between .int64 ⟨12, 4⟩ (.fixedLenByteArray 4) ⟨9, 2⟩)) := by
    decide +kernel
  obtain ⟨f, g, hf, hg, h⟩ := convert_decimal_nearest (s := ⟨12, 4⟩) (t := ⟨9, 2⟩) rfl rfl hbuild
  obtain rfl : DecimalForm.int64 = f := Option.some.inj hf
  obtain rfl : DecimalForm.fixedLenByteArray 4 = g := Option.some.inj hg
  obtain ⟨v, r, hv, hr, -, hdelivers⟩ := h (.int64 1234550) rfl (by decide)
  exact ⟨_, hbuild, v, r, hv, hr, hdelivers⟩

end Converter

end ColumnCast
