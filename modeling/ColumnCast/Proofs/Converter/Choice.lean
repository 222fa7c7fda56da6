import ColumnCast.Proofs.Converter.Build

/-!
# What the types say about their converter

Validation and building accept the same pairs of types and refuse the others with the same
error. The accepted pairs are those that a converter serves, and which one it is can be told from
the two types: its family, the unit, the number types, the forms and scales, the length
(`Converter.build_agrees_with_validate`).
-/

namespace ColumnCast

namespace Converter

/-- The converter is the one that the two column types **call for**, family by family with the
parameters of each. -/
structure CalledForBy (c : Converter) (source target : ColumnType) : Prop where
  int96_iff : ∀ unit, c = .int96 ⟨unit⟩ ↔
    source = ⟨.int96, .bare⟩ ∧ target = ⟨.int64, .timestamp unit⟩
  numeric_iff : ∀ cast, c = .numeric cast ↔
    source.logical = .bare ∧ target.logical = .bare ∧
      NumericType.ofPhysical? source.physical = some cast.source ∧
      NumericType.ofPhysical? target.physical = some cast.target
  decimal_iff : (∃ cast, c = .decimal cast) ↔
    (∃ s, source.decimal? = some s) ∧ ∃ t, target.decimal? = some t
  decimal_parameters : ∀ cast s t, c = .decimal cast →
    source.decimal? = some s → target.decimal? = some t →
      DecimalForm.ofPhysical? source.physical = some cast.source ∧
      DecimalForm.ofPhysical? target.physical = some cast.target ∧
      cast.scaleDelta = (t.scale.toNat : ℤ) - s.scale.toNat ∧
      cast.targetPrecision = t.precision
  binary_iff : (∃ cast, c = .binary cast) ↔ source.PlainBytes ∧ target.PlainBytes
  validateUtf8_iff : c = .binary .validateUtf8 ↔
    target.logical = .string ∧ source.logical ≠ .string
  padToFixed_iff : ∀ n, c = .binary (.padToFixed n) ↔
    source.physical = .byteArray ∧
      ∃ length, target = ⟨.fixedLenByteArray length, .bare⟩ ∧ length.toNat = n
  resize_iff : ∀ n, c = .binary (.resize n) ↔
    (∃ length, source.physical = .fixedLenByteArray length) ∧
      ∃ length, target = ⟨.fixedLenByteArray length, .bare⟩ ∧ length.toNat = n

variable {source target : ColumnType} {c : Converter}

/-- A converter that serves two types is called for by them: what it is settles the types, and
types that call for another one would be served by both. -/
theorem Serves.calledForBy (h : Serves source target c) : c.CalledForBy source target where
  int96_iff unit := by
    constructor
    · rintro rfl
      cases h
      exact ⟨rfl, rfl⟩
    · rintro ⟨rfl, rfl⟩
      exact h.unique (.int96 unit)
  numeric_iff cast := by
    constructor
    · rintro rfl
      cases h with
      | numeric _ hp hq => exact ⟨rfl, rfl, hp, hq⟩
    · obtain ⟨p, l⟩ := source
      obtain ⟨q, k⟩ := target
      rintro ⟨rfl, rfl, hp, hq⟩
      exact h.unique (.numeric cast hp hq)
  decimal_iff := by
    constructor
    · rintro ⟨cast, rfl⟩
      cases h
      exact ⟨⟨_, rfl⟩, _, rfl⟩
    · rintro ⟨⟨s, hs⟩, -⟩
      cases h with
      | decimal => exact ⟨_, rfl⟩
      | int96 => cases hs
      | numeric => cases hs
      | binary hplain => cases hplain <;> cases hs
  decimal_parameters cast s t := by
    rintro rfl hs ht
    cases h with
    | decimal hp hq =>
      cases hs
      cases ht
      exact ⟨hp, hq, rfl, rfl⟩
  binary_iff := by
    constructor
    · rintro ⟨cast, rfl⟩
      cases h with
      | binary hs ht => exact ⟨hs, ht⟩
    · rintro ⟨hs, ht⟩
      obtain ⟨cast, hcast⟩ := hs.exists_cast ht
      exact ⟨cast, h.unique (.binary hs ht hcast)⟩
  validateUtf8_iff := by
    constructor
    · rintro rfl
      cases h with
      | binary hs ht hcast => cases hs <;> cases ht <;> cases hcast <;> exact ⟨rfl, by simp⟩
    · rintro ⟨ht, hs⟩
      cases h with
      | binary hsource htarget hcast =>
        cases htarget <;> cases ht
        cases hsource with
        | byteArray => exact congrArg Converter.binary (Option.some.inj hcast).symm
        | text => exact absurd rfl hs
        | fixedLenByteArray => exact congrArg Converter.binary (Option.some.inj hcast).symm
      | int96 => cases ht
      | numeric => cases ht
      | decimal => cases ht
  padToFixed_iff n := by
    constructor
    · rintro rfl
      cases h with
      | binary hs ht hcast => cases hs <;> cases ht <;> cases hcast <;> exact ⟨rfl, _, rfl, rfl⟩
    · rintro ⟨hs, length, rfl, rfl⟩
      cases h with
      | binary hsource _ hcast =>
        cases hsource with
        | byteArray => exact congrArg Converter.binary (Option.some.inj hcast).symm
        | text => exact congrArg Converter.binary (Option.some.inj hcast).symm
        | fixedLenByteArray => cases hs
      | numeric cast hp =>
        cases hs
        cases hp
  resize_iff n := by
    constructor
    · rintro rfl
      cases h with
      | binary hs ht hcast =>
        cases hs <;> cases ht <;> cases hcast
        exact ⟨⟨_, rfl⟩, _, rfl, rfl⟩
    · rintro ⟨⟨size, hs⟩, length, rfl, rfl⟩
      cases h with
      | binary hsource _ hcast =>
        cases hsource with
        | byteArray => cases hs
        | text => cases hs
        | fixedLenByteArray => exact congrArg Converter.binary (Option.some.inj hcast).symm
      | numeric cast hp =>
        cases hs
        cases hp

/-- **Validation decides.** Building succeeds when validation does and fails with its error
otherwise, so the errors that only dispatching knows are never seen. Every pair that a converter
serves is built, with that converter and no other, and what is built is the converter that the
types call for. -/
theorem build_agrees_with_validate (source : ColumnType) (target : TargetType) :
    ((∃ c, build source target = .ok c) ↔ validate source target = .ok ()) ∧
    (∀ e, build source target = .error e ↔ validate source target = .error e) ∧
    (∀ e, build source target = .error e →
      (∀ s t, e ≠ .noConverter s t) ∧ ∀ logical, e ≠ .unsupportedTimestamp logical) ∧
    (∀ c, build source target = .ok c ↔ Serves source target.toColumnType c) ∧
    ∀ c, build source target = .ok c → c.CalledForBy source target.toColumnType := by
  refine ⟨?_, fun e => build_error_iff, fun e he => ?_, fun c => build_iff_serves, fun c hc => ?_⟩
  · simp only [build_iff_serves, validate_iff_exists_serves]
  · rcases validate_error_cases (build_error_iff.mp he) with rfl | ⟨s, t, -, -, rfl⟩
    · exact ⟨nofun, nofun⟩
    · exact ⟨nofun, nofun⟩
  · exact (build_iff_serves.mp hc).calledForBy

/-- Three bytes are validated when they become text; a decimal on a floating-point number, which
no usable type is, is refused by validation already. -/
theorem build_agrees_with_validate_text :
    (binary .validateUtf8).CalledForBy ⟨.fixedLenByteArray 3, .bare⟩ ⟨.byteArray, .string⟩ ∧
      build ⟨.float, .decimal ⟨5, 2⟩⟩ ⟨⟨.int32, .decimal ⟨5, 2⟩⟩, by decide⟩ =
        .error (.unsupportedConversion "FLOAT:DECIMAL" "INT32:DECIMAL") := by
  obtain ⟨-, -, -, hserved, hcalled⟩ :=
    build_agrees_with_validate ⟨.fixedLenByteArray 3, .bare⟩ ⟨⟨.byteArray, .string⟩, by decide⟩
  obtain ⟨-, herror, -⟩ := build_agrees_with_validate ⟨.float, .decimal ⟨5, 2⟩⟩
    ⟨⟨.int32, .decimal ⟨5, 2⟩⟩, by decide⟩
  have hserves : Serves ⟨.fixedLenByteArray 3, .bare⟩ ⟨.byteArray, .string⟩
      (.binary .validateUtf8) :=
    .binary (.fixedLenByteArray 3) .text rfl
  exact ⟨hcalled _ ((hserved _).mpr hserves), (herror _).mpr (by decide +kernel)⟩

end Converter

end ColumnCast
