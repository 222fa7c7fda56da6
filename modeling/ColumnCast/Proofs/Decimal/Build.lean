import ColumnCast.Cast.Converter
import ColumnCast.Proofs.ColumnType.Usable
import ColumnCast.Proofs.Decimal.Form

/-!
# Which decimal converters are built

Decimal types between which a converter is built have forms
(`Converter.exists_forms_of_build`). Between types with forms, `Converter.build` gives the
conversion between the forms exactly when the scales are compatible
(`Converter.build_decimal_iff`).
-/

namespace ColumnCast

variable {source : ColumnType} {target : TargetType} {s t : DecimalType}

/-! ### Keys and forms -/

private theorem ColumnType.key_of_decimal (hs : source.decimal? = some s) :
    source.key = .decimal source.physical.carrier := by
  rw [eq_of_decimal hs]
  rfl

private theorem isAllowed_decimal_iff {a b : Carrier} :
    isAllowed (.decimal a) (.decimal b) = true ↔ a ∈ decimalCarriers ∧ b ∈ decimalCarriers := by
  cases a <;> cases b <;> decide

/-- The carriers of decimals are the ones with a form. -/
private theorem mem_decimalCarriers_iff {p : Physical} :
    p.carrier ∈ decimalCarriers ↔ ∃ f, DecimalForm.ofPhysical? p = some f := by
  cases p <;> simp [Physical.carrier, decimalCarriers, DecimalForm.ofPhysical?]

/-- A decimal target breaks no rule, so that it has a form, and its scale is within its
precision. -/
theorem TargetType.exists_form (ht : target.decimal? = some t) :
    (∃ g, DecimalForm.ofPhysical? target.physical = some g) ∧ t.scale ≤ t.precision := by
  have hsound := target.sound
  rw [ColumnType.eq_of_decimal ht, ColumnType.fault?_decimal_iff] at hsound
  obtain ⟨-, hcarrier, -, hscale, -⟩ := hsound
  exact ⟨DecimalForm.exists_ofPhysical?_iff.mpr hcarrier, hscale⟩

/-- A refusal names the precision that is missing. -/
theorem validateScales_error {e : ConversionError} (h : validateScales s t = .error e) :
    e = .scaleIncompatibility s.scale t.scale (requiredPrecision s t) t.precision ∧
      t.precision.toNat < requiredPrecision s t := by
  unfold validateScales at h
  split_ifs at h with hrefused
  exact ⟨(Except.error.inj h).symm, hrefused.2⟩

namespace Converter

/-! ### Validation and dispatch -/

/-- Decimals with forms are validated by their scales alone. -/
theorem validate_decimal {f g : DecimalForm} (hs : source.decimal? = some s)
    (ht : target.decimal? = some t) (hf : DecimalForm.ofPhysical? source.physical = some f)
    (hg : DecimalForm.ofPhysical? target.physical = some g) :
    validate source target = validateScales s t := by
  have hallowed : isAllowed source.key target.key = true := by
    rw [ColumnType.key_of_decimal hs, ColumnType.key_of_decimal ht, isAllowed_decimal_iff,
      mem_decimalCarriers_iff, mem_decimalCarriers_iff]
    exact ⟨⟨f, hf⟩, ⟨g, hg⟩⟩
  unfold validate
  rw [if_pos hallowed, hs, ht]

/-- Decimals that are allowed have forms. -/
theorem exists_forms_of_validate (hs : source.decimal? = some s) (ht : target.decimal? = some t)
    (hvalid : validate source target = .ok ()) :
    (∃ f, DecimalForm.ofPhysical? source.physical = some f) ∧
      ∃ g, DecimalForm.ofPhysical? target.physical = some g := by
  unfold validate at hvalid
  split_ifs at hvalid with hallowed
  rwa [ColumnType.key_of_decimal hs, ColumnType.key_of_decimal ht, isAllowed_decimal_iff,
    mem_decimalCarriers_iff, mem_decimalCarriers_iff] at hallowed

/-- Types with a form are no timestamps, and decimals among them are dispatched as decimals. -/
theorem dispatch_decimal {target : ColumnType} {f g : DecimalForm}
    (hs : source.decimal? = some s) (ht : target.decimal? = some t)
    (hf : DecimalForm.ofPhysical? source.physical = some f)
    (hg : DecimalForm.ofPhysical? target.physical = some g) :
    dispatch source target = .ok (.decimal (.between f s g t)) := by
  have hcarrier : ¬(source.physical = .int96 ∧ target.physical = .int64) := by
    rintro ⟨h, -⟩
    rw [h] at hf
    cases hf
  have hdecimal : source.logical.isDecimal = true := by
    unfold Logical.isDecimal
    rw [show source.logical.decimal? = some s from hs]
    rfl
  unfold dispatch DecimalCast.ofTypes?
  rw [if_neg hcarrier, hdecimal, hs, ht, hf, hg]
  rfl

/-- A converter is built only after validation. -/
theorem validate_of_build {c : Converter} (hbuild : build source target = .ok c) :
    validate source target = .ok () := by
  cases hvalid : validate source target with
  | ok _ => rfl
  | error e =>
    have hrefused : build source target = .error e := by
      change (validate source target).bind (fun _ => dispatch source target.toColumnType) = _
      rw [hvalid]
      rfl
    rw [hbuild] at hrefused
    cases hrefused

/-- Decimals between which a converter is built have forms. -/
theorem exists_forms_of_build {c : Converter} (hs : source.decimal? = some s)
    (ht : target.decimal? = some t) (hbuild : build source target = .ok c) :
    (∃ f, DecimalForm.ofPhysical? source.physical = some f) ∧
      ∃ g, DecimalForm.ofPhysical? target.physical = some g :=
  exists_forms_of_validate hs ht (validate_of_build hbuild)

/-- **Built converters.** Between decimals with forms, `build` gives the conversion between the
forms, provided that the scales are compatible. -/
theorem build_decimal_iff {c : Converter} {f g : DecimalForm} (hs : source.decimal? = some s)
    (ht : target.decimal? = some t) (hf : DecimalForm.ofPhysical? source.physical = some f)
    (hg : DecimalForm.ofPhysical? target.physical = some g) :
    build source target = .ok c ↔
      validateScales s t = .ok () ∧ c = .decimal (.between f s g t) := by
  have hdispatch := dispatch_decimal hs ht hf hg
  rw [← validate_decimal hs ht hf hg]
  constructor
  · intro hbuild
    have hvalid := validate_of_build hbuild
    have hdispatched : build source target = dispatch source target.toColumnType := by
      unfold build
      rw [hvalid]
      rfl
    rw [hdispatched, hdispatch] at hbuild
    exact ⟨hvalid, (Except.ok.inj hbuild).symm⟩
  · rintro ⟨hvalid, rfl⟩
    unfold build
    rw [hvalid]
    exact hdispatch

end Converter

end ColumnCast
