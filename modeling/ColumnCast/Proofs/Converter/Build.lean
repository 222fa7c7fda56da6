import ColumnCast.Proofs.ColumnType.Key
import ColumnCast.Proofs.ColumnType.Usable
import ColumnCast.Proofs.Decimal.Build

/-!
# Which converters are built

`Converter.Serves` lists the pairs of types that have a converter, with that converter. These
are the pairs that validation accepts (`Converter.validate_iff_exists_serves`), and `build`
gives the listed converter (`Converter.build_iff_serves`), so that what dispatching asks on its
own never refuses a pair (`Converter.build_error_iff`).
-/

namespace ColumnCast

/-- Any two types of plain bytes have a cast. -/
theorem ColumnType.PlainBytes.exists_cast {source target : ColumnType}
    (hs : source.PlainBytes) (ht : target.PlainBytes) :
    ∃ cast, BinaryCast.ofTypes? source target = some cast := by
  cases hs <;> cases ht <;> exact ⟨_, rfl⟩

namespace Converter

/-- The converter that **serves** a pair of column types, in four families: twelve-byte
timestamps, plain numbers, plain bytes and decimals. -/
inductive Serves : ColumnType → ColumnType → Converter → Prop
  | int96 (unit : TimeUnit) :
      Serves ⟨.int96, .bare⟩ ⟨.int64, .timestamp unit⟩ (.int96 ⟨unit⟩)
  | numeric {p q : Physical} (cast : NumericCast)
      (hsource : NumericType.ofPhysical? p = some cast.source)
      (htarget : NumericType.ofPhysical? q = some cast.target) :
      Serves ⟨p, .bare⟩ ⟨q, .bare⟩ (.numeric cast)
  | binary {source target : ColumnType} {cast : BinaryCast} (hsource : source.PlainBytes)
      (htarget : target.PlainBytes) (hcast : BinaryCast.ofTypes? source target = some cast) :
      Serves source target (.binary cast)
  | decimal {p q : Physical} {s t : DecimalType} {f g : DecimalForm}
      (hsource : DecimalForm.ofPhysical? p = some f)
      (htarget : DecimalForm.ofPhysical? q = some g) (hscales : validateScales s t = .ok ()) :
      Serves ⟨p, .decimal s⟩ ⟨q, .decimal t⟩ (.decimal (.between f s g t))

variable {source : ColumnType} {target : TargetType} {c : Converter}

/-! ### Validation -/

/-- Where one side is no decimal, the allow-list decides. -/
private theorem validate_of_not_decimal (h : source.decimal? = none ∨ target.decimal? = none) :
    validate source target = .ok () ↔ isAllowed source.key target.key = true := by
  unfold validate
  split_ifs with hallowed
  · refine iff_of_true ?_ hallowed
    rcases h with hs | ht
    · rw [hs]
    · rw [ht]
      cases source.decimal? <;> rfl
  · exact iff_of_false (by simp) hallowed

/-- A pair that is served is valid. -/
private theorem validate_of_serves (h : Serves source target.toColumnType c) :
    validate source target = .ok () := by
  obtain ⟨t, hsound⟩ := target
  change Serves source t c at h
  cases h with
  | int96 unit =>
    rw [validate_of_not_decimal (Or.inl rfl), isAllowed_key_iff]
    exact Or.inr (Or.inl ⟨rfl, unit, rfl⟩)
  | numeric cast hp hq =>
    rw [validate_of_not_decimal (Or.inl rfl), isAllowed_key_iff]
    exact Or.inl ⟨rfl, rfl, cast.source, cast.target, cast.distinct, hp, hq⟩
  | binary hs ht hcast =>
    have hplain : source.decimal? = none := by cases hs <;> rfl
    rw [validate_of_not_decimal (Or.inl hplain), isAllowed_key_iff]
    exact Or.inr (Or.inr (Or.inl ⟨hs, ht⟩))
  | decimal hp hq hscales => rw [validate_decimal rfl rfl hp hq, hscales]

/-- A valid pair is on the allow-list. -/
theorem isAllowed_of_validate (h : validate source target = .ok ()) :
    isAllowed source.key target.key = true := by
  unfold validate at h
  split_ifs at h with hallowed
  exact hallowed

/-- A valid pair is served. -/
theorem exists_serves_of_validate (h : validate source target = .ok ()) :
    ∃ c, Serves source target.toColumnType c := by
  rcases isAllowed_key_iff.mp (isAllowed_of_validate h) with
    ⟨hs, ht, m, n, hne, hm, hn⟩ | ⟨rfl, unit, hunit⟩ | ⟨hs, ht⟩ | ⟨⟨s, hs⟩, ⟨t, ht⟩, -⟩
  · have hsource : source = ⟨source.physical, .bare⟩ := congrArg (ColumnType.mk _) hs
    have htarget : target.toColumnType = ⟨target.physical, .bare⟩ :=
      congrArg (ColumnType.mk _) ht
    rw [hsource, htarget]
    exact ⟨_, .numeric ⟨m, n, hne⟩ hm hn⟩
  · have htarget : target.toColumnType = ⟨.int64, .timestamp unit⟩ :=
      congrArg₂ ColumnType.mk (target.usable.timestamp unit hunit) hunit
    rw [htarget]
    exact ⟨_, .int96 unit⟩
  · obtain ⟨cast, hcast⟩ := hs.exists_cast ht
    exact ⟨_, .binary hs ht hcast⟩
  · obtain ⟨⟨f, hf⟩, ⟨g, hg⟩⟩ := exists_forms_of_validate hs ht h
    rw [validate_decimal hs ht hf hg] at h
    rw [ColumnType.eq_of_decimal hs, ColumnType.eq_of_decimal ht]
    exact ⟨_, .decimal hf hg h⟩

/-- **Valid pairs.** Validation accepts the pairs that are served. -/
theorem validate_iff_exists_serves :
    validate source target = .ok () ↔ ∃ c, Serves source target.toColumnType c :=
  ⟨exists_serves_of_validate, fun ⟨_, h⟩ => validate_of_serves h⟩

/-! ### Dispatch -/

/-- Dispatching finds the converter that serves a pair. -/
private theorem dispatch_of_serves {source target : ColumnType} (h : Serves source target c) :
    dispatch source target = .ok c := by
  cases h with
  | int96 unit => rfl
  | @numeric p q cast hp hq =>
    obtain ⟨m, n, hne⟩ := cast
    have hcast : NumericCast.ofPhysical? p q = some ⟨m, n, hne⟩ := by
      unfold NumericCast.ofPhysical? NumericCast.ofTypes?
      rw [hp, hq]
      exact dif_pos hne
    have hnumeric : p.isNumeric = true ∧ q.isNumeric = true := by
      cases p <;> cases hp <;> cases q <;> cases hq <;> exact ⟨rfl, rfl⟩
    have hcarrier : ¬(p = .int96 ∧ q = .int64) := by
      rintro ⟨rfl, -⟩
      cases hp
    unfold dispatch
    simp [hcarrier, hnumeric, hcast, Logical.isDecimal, Logical.decimal?]
  | binary hs ht hcast =>
    cases hs <;> cases ht <;> rw [← Option.some.inj hcast] <;> rfl
  | decimal hp hq => exact dispatch_decimal rfl rfl hp hq

/-- A pair is served by one converter. -/
theorem Serves.unique {source target : ColumnType} {c d : Converter}
    (hc : Serves source target c) (hd : Serves source target d) : c = d :=
  Except.ok.inj ((dispatch_of_serves hc).symm.trans (dispatch_of_serves hd))

/-! ### Building -/

/-- After validation, building is dispatching. -/
private theorem build_of_validate (h : validate source target = .ok ()) :
    build source target = dispatch source target.toColumnType := by
  unfold build
  rw [h]
  rfl

/-- **Built converters.** Building gives the converter that serves the pair. -/
theorem build_iff_serves : build source target = .ok c ↔ Serves source target.toColumnType c := by
  constructor
  · intro hbuild
    have hvalid := validate_of_build hbuild
    obtain ⟨d, hd⟩ := exists_serves_of_validate hvalid
    rw [build_of_validate hvalid, dispatch_of_serves hd] at hbuild
    rwa [← Except.ok.inj hbuild]
  · intro h
    rw [build_of_validate (validate_of_serves h), dispatch_of_serves h]

/-- **Refusals.** Building fails with the errors of validation. -/
theorem build_error_iff {e : ConversionError} :
    build source target = .error e ↔ validate source target = .error e := by
  cases hvalid : validate source target with
  | ok _ =>
    obtain ⟨c, hc⟩ := exists_serves_of_validate hvalid
    rw [build_iff_serves.mpr hc]
    simp
  | error fault =>
    have hbuild : build source target = .error fault := by
      unfold build
      rw [hvalid]
      rfl
    rw [hbuild, Except.error.injEq, Except.error.injEq]

/-- Validation reports that a pair is not supported or that its scales are incompatible. -/
theorem validate_error_cases {e : ConversionError} (h : validate source target = .error e) :
    e = .unsupportedConversion source.key.text target.key.text ∨
      ∃ s t, source.decimal? = some s ∧ target.decimal? = some t ∧
        e = .scaleIncompatibility s.scale t.scale (requiredPrecision s t) t.precision := by
  unfold validate at h
  split_ifs at h with hallowed
  · split at h
    · next s t hs ht => exact Or.inr ⟨s, t, hs, ht, (validateScales_error h).1⟩
    · cases h
  · exact Or.inl (Except.error.inj h).symm

end Converter

end ColumnCast
