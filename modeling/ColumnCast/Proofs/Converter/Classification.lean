import ColumnCast.Proofs.Converter.Choice
import ColumnCast.Proofs.Converter.Preservation
import ColumnCast.Proofs.Float.Widening
import ColumnCast.Proofs.Int96.Codec

/-!
# Why a converter refuses a value

A value of another form than the source type stores is a type mismatch, whatever else may be wrong
with it. A value of that form has a counterpart, exceeds the target, or is invalid, and it is
invalid for the few causes that `Value.Meaningless` lists (`Converter.convert_classified`): a
number that is not finite becomes no integer, bytes that are no text become no text, and twelve
bytes that are laid out otherwise are no instant.
-/

namespace ColumnCast

open FloatFormat (single double)

variable {p q : Physical} {v : Value} {cause : Invalidity} {result : Except ConversionError Value}

/-! ### Invalid values -/

/-- The floating-point number that a value is for a physical type that stores such numbers. -/
def Physical.number? : Physical → Value → Option Number
  | float, .float32 bits => some (single.decode bits)
  | double, .float64 bits => some (FloatFormat.double.decode bits)
  | _, _ => none

/-- The physical type of an integer type. -/
def IntegerKind.physical : IntegerKind → Physical
  | int32 => .int32
  | int64 => .int64

private theorem IntegerKind.physical_injective : Function.Injective physical := by
  intro kind kind' h
  cases kind <;> cases kind' <;> first | rfl | cases h

/-- A number that is not finite has no integer part, for this cause. -/
inductive Number.NoInteger (integer : IntegerKind) : Number → Invalidity → Prop
  | nan : NoInteger integer .nan (.notANumber integer)
  | infinite (negative : Bool) : NoInteger integer (.infinite negative) (.infinite integer)

/-- A value has **no counterpart** in the target type, for this cause: it is a floating-point
number on its way to an integer and not finite, it is to become text and is malformed, or it is
no instant, because it has not twelve bytes or its time is not within a day. -/
inductive Value.Meaningless (source target : ColumnType) : Value → Invalidity → Prop
  | number {v : Value} {number : Number} {integer : IntegerKind} {cause : Invalidity}
      (hnumber : source.physical.number? v = some number)
      (htarget : target.physical = integer.physical) (hcause : number.NoInteger integer cause) :
      Meaningless source target v cause
  | malformedText {content : Bytes} (htarget : target.logical = .string)
      (hsource : source.logical ≠ .string) (hmalformed : ¬Utf8.WellFormed content) :
      Meaningless source target (.bytes content) .malformedText
  | int96Length {content : Bytes} (hsource : source.physical = .int96)
      (hlength : content.length ≠ 12) :
      Meaningless source target (.bytes content) (.int96Length content.length)
  | nanosOfDay {content : Bytes} (hsource : source.physical = .int96)
      (hlength : content.length = 12)
      (htime : ¬(0 ≤ Int96.nanosOfDay content ∧ Int96.nanosOfDay content < 86400000000000)) :
      Meaningless source target (.bytes content) (.nanosOfDay (Int96.nanosOfDay content))

/-! ### Judged results -/

/-- The result of converting a value of the right form, **judged** by the causes that make the
value invalid: a cause is reported, and without one there is a value or an overflow. -/
inductive Judged (invalid : Invalidity → Prop) : Except ConversionError Value → Prop
  | value (w : Value) (hvalid : ∀ cause, ¬invalid cause) : Judged invalid (.ok w)
  | overflow (excess : Overflow) (hvalid : ∀ cause, ¬invalid cause) :
      Judged invalid (.error (.overflow excess))
  | invalid {cause : Invalidity} (hcause : ∀ other, invalid other ↔ other = cause) :
      Judged invalid (.error (.invalidValue cause))

namespace Judged

variable {invalid invalid' : Invalidity → Prop}

private theorem congr (h : Judged invalid result) (hiff : ∀ cause, invalid cause ↔ invalid' cause) :
    Judged invalid' result := by
  obtain rfl : invalid = invalid' := funext fun cause => propext (hiff cause)
  exact h

private theorem eq_invalidValue_iff (h : Judged invalid result) :
    result = .error (.invalidValue cause) ↔ invalid cause := by
  cases h with
  | value w hvalid => exact iff_of_false nofun (hvalid cause)
  | overflow excess hvalid => exact iff_of_false nofun (hvalid cause)
  | @invalid reported hcause =>
    rw [hcause, Except.error.injEq, ConversionError.invalidValue.injEq, eq_comm]

private theorem exists_eq (h : Judged invalid result) :
    (∃ w, result = .ok w) ∨ (∃ excess, result = .error (.overflow excess)) ∨
      ∃ cause, result = .error (.invalidValue cause) := by
  cases h with
  | value w => exact .inl ⟨w, rfl⟩
  | overflow excess => exact .inr (.inl ⟨excess, rfl⟩)
  | @invalid cause => exact .inr (.inr ⟨cause, rfl⟩)

/-- What is neither refused for its form nor invalid is judged to have no cause. -/
private theorem of_valid (hvalid : ∀ cause, ¬invalid cause)
    (h : (∃ w, result = .ok w) ∨ ∃ excess, result = .error (.overflow excess)) :
    Judged invalid result := by
  rcases h with ⟨w, rfl⟩ | ⟨excess, rfl⟩
  · exact .value w hvalid
  · exact .overflow excess hvalid

end Judged

/-- The result of converting a value from one type to another, **classified**: another form than
the source stores is a type mismatch that names both, and the right form is judged. -/
structure Value.Classified (v : Value) (source target : ColumnType)
    (result : Except ConversionError Value) : Prop where
  mismatch : v.kind ≠ source.physical.valueKind →
    result = .error (.typeMismatch source.physical.valueKind v.kind)
  judged : v.kind = source.physical.valueKind → Judged (v.Meaningless source target) result

/-! ### Numbers -/

/-- Widening a number keeps the causes for which it becomes no integer. -/
private theorem Binary32.noInteger_decode_widen_iff {bits : Binary32} {integer : IntegerKind} :
    (double.decode bits.widen).NoInteger integer cause ↔
      (single.decode bits).NoInteger integer cause := by
  cases hdecode : single.decode bits with
  | nan => rw [decode_widen_nan hdecode]
  | infinite negative => rw [decode_widen_infinite hdecode]
  | finite negative significand exponent =>
    obtain ⟨significand', exponent', hwiden, -⟩ := decode_widen_finite hdecode
    rw [hwiden]
    exact iff_of_false nofun nofun

namespace NumericCast

private theorem convert_of_kind_ne {c : NumericCast} (h : v.kind ≠ c.source.valueKind) :
    c.convert v = .error (.typeMismatch c.source.valueKind v.kind) := by
  unfold convert
  split
  · next hsource => exact absurd (by rw [hsource]; rfl) h
  · next hsource => exact absurd (by rw [hsource]; rfl) h
  · next hsource => exact absurd (by rw [hsource]; rfl) h
  · next hsource => exact absurd (by rw [hsource]; rfl) h
  · rfl

/-- A number has an integer part, in range or not, unless it is not finite. -/
private theorem truncate_judged (source : ValueKind) (bits : Binary64) (integer : IntegerKind) :
    Judged (fun cause => (double.decode bits).NoInteger integer cause)
      (truncate source bits integer) := by
  unfold truncate
  cases double.decode bits with
  | nan =>
    refine .invalid fun other => ⟨?_, ?_⟩
    · rintro ⟨⟩
      rfl
    · rintro rfl
      exact .nan
  | infinite negative =>
    refine .invalid fun other => ⟨?_, ?_⟩
    · rintro ⟨⟩
      rfl
    · rintro rfl
      exact .infinite negative
  | finite negative significand exponent =>
    refine .of_valid (fun _ => nofun) ?_
    simp only [Number.truncate?]
    split
    · exact .inl ⟨_, rfl⟩
    · exact .inr ⟨_, rfl⟩

private theorem ofInt64_cases (n : Int64) (t : NumericType) :
    (∃ w, ofInt64 n t = .ok w) ∨ ∃ excess, ofInt64 n t = .error (.overflow excess) := by
  cases t with
  | int32 =>
    rw [ofInt64]
    split
    · exact .inl ⟨_, rfl⟩
    · exact .inr ⟨_, rfl⟩
  | _ => exact .inl ⟨_, rfl⟩

/-- A floating-point number is invalid for an integer type only. -/
private theorem ofFloating_judged (source : ValueKind) (bits : Binary64) {t : NumericType}
    (hq : NumericType.ofPhysical? q = some t) :
    Judged (fun cause => ∃ integer : IntegerKind, q = integer.physical ∧
      (double.decode bits).NoInteger integer cause) (ofFloating source bits t) := by
  have hinteger (kind : IntegerKind) : Judged (fun cause => ∃ integer : IntegerKind,
      kind.physical = integer.physical ∧ (double.decode bits).NoInteger integer cause)
      (truncate source bits kind) := by
    refine (truncate_judged source bits kind).congr fun cause => ?_
    constructor
    · exact fun h => ⟨kind, rfl, h⟩
    · rintro ⟨integer, hkind, h⟩
      rwa [IntegerKind.physical_injective hkind]
  have hfloating (hnot : ∀ integer : IntegerKind, q ≠ integer.physical)
      (h : (∃ w, ofFloating source bits t = .ok w) ∨
        ∃ excess, ofFloating source bits t = .error (.overflow excess)) :
      Judged (fun cause => ∃ integer : IntegerKind, q = integer.physical ∧
        (double.decode bits).NoInteger integer cause) (ofFloating source bits t) := by
    refine .of_valid ?_ h
    rintro cause ⟨integer, hq, -⟩
    exact hnot integer hq
  cases q <;> cases hq
  case int32 => exact hinteger .int32
  case int64 => exact hinteger .int64
  case float =>
    refine hfloating (fun integer => by cases integer <;> decide) ?_
    rw [ofFloating, narrow]
    split_ifs
    · exact .inr ⟨_, rfl⟩
    · exact .inl ⟨_, rfl⟩
  case double => exact hfloating (fun integer => by cases integer <;> decide) (.inl ⟨_, rfl⟩)

/-- A number of the source type is invalid when the target is an integer type and it has no
integer part. -/
private theorem judged {c : NumericCast} (hp : NumericType.ofPhysical? p = some c.source)
    (hq : NumericType.ofPhysical? q = some c.target) (hkind : v.kind = p.valueKind) :
    Judged (fun cause => ∃ number, p.number? v = some number ∧
      ∃ integer : IntegerKind, q = integer.physical ∧ number.NoInteger integer cause)
      (c.convert v) := by
  obtain ⟨source, target, hne⟩ := c
  cases p <;> cases hp <;> cases v <;> cases hkind
  case int32.refl.int32.refl n => exact .value _ fun _ => nofun
  case int64.refl.int64.refl n => exact .of_valid (fun _ => nofun) (ofInt64_cases n target)
  case float.refl.float32.refl bits =>
    refine (ofFloating_judged .float32 bits.widen hq).congr fun cause => ?_
    simp only [Physical.number?, Option.some.injEq, exists_eq_left',
      Binary32.noInteger_decode_widen_iff]
  case double.refl.float64.refl bits =>
    refine (ofFloating_judged .float64 bits hq).congr fun cause => ?_
    simp only [Physical.number?, Option.some.injEq, exists_eq_left']

private theorem classified {c : NumericCast} (hp : NumericType.ofPhysical? p = some c.source)
    (hq : NumericType.ofPhysical? q = some c.target) :
    v.Classified ⟨p, .bare⟩ ⟨q, .bare⟩ (c.convert v) where
  mismatch hkind := by
    have hkinds := NumericType.valueKind_of_ofPhysical? hp
    dsimp only at hkind ⊢
    rw [hkinds] at hkind ⊢
    exact convert_of_kind_ne hkind
  judged hkind := by
    refine (judged hp hq hkind).congr fun cause => ⟨?_, fun h => ?_⟩
    · rintro ⟨number, hnumber, integer, htarget, hcause⟩
      exact .number hnumber htarget hcause
    · cases h with
      | number hnumber htarget hcause => exact ⟨_, hnumber, _, htarget, hcause⟩
      | malformedText htarget => cases htarget
      | int96Length hsource =>
        cases hsource
        cases hp
      | nanosOfDay hsource =>
        cases hsource
        cases hp

end NumericCast

/-! ### Byte sequences -/

namespace BinaryCast

/-- Bytes are invalid when they have to be text and are none. -/
private theorem convertBytes_judged (c : BinaryCast) (content : Bytes) :
    Judged (fun cause => c = .validateUtf8 ∧ ¬Utf8.WellFormed content ∧ cause = .malformedText)
      ((c.convertBytes content).map .bytes) := by
  have hvalid (hne : c ≠ .validateUtf8) (cause : Invalidity) :
      ¬(c = .validateUtf8 ∧ ¬Utf8.WellFormed content ∧ cause = .malformedText) :=
    fun h => hne h.1
  cases c with
  | padToFixed length =>
    refine .of_valid (hvalid (by simp)) ?_
    rw [convertBytes]
    split_ifs
    · exact .inr ⟨_, rfl⟩
    · exact .inl ⟨_, rfl⟩
  | unfix => exact .value _ (hvalid (by simp))
  | resize length =>
    refine .of_valid (hvalid (by simp)) ?_
    rw [convertBytes]
    split_ifs
    · exact .inr ⟨_, rfl⟩
    · exact .inl ⟨_, rfl⟩
  | validateUtf8 =>
    rw [convertBytes]
    split_ifs with hdecode
    · exact .value _ fun _ h => h.2.1 (Utf8.isSome_decode?_iff.mp hdecode)
    · rw [Utf8.isSome_decode?_iff] at hdecode
      exact .invalid fun other => ⟨fun h => h.2.2, fun h => ⟨rfl, hdecode, h⟩⟩
  | passThrough => exact .value _ (hvalid (by simp))

private theorem classified {source target : ColumnType} {c : BinaryCast} (hs : source.PlainBytes)
    (ht : target.PlainBytes) (hcast : ofTypes? source target = some c) :
    v.Classified source target (c.convert v) where
  mismatch hkind := by
    have hbytes : source.physical.valueKind = .bytes := by cases hs <;> rfl
    rw [hbytes] at hkind ⊢
    cases v with
    | bytes content => exact absurd rfl hkind
    | _ => rfl
  judged hkind := by
    have hbytes : source.physical.valueKind = .bytes := by cases hs <;> rfl
    rw [hbytes] at hkind
    cases v <;> cases hkind
    case bytes.refl content =>
      have hvalidate := (Converter.Serves.binary hs ht hcast).calledForBy.validateUtf8_iff
      rw [Converter.binary.injEq] at hvalidate
      refine (convertBytes_judged c content).congr fun cause => ?_
      rw [hvalidate]
      constructor
      · rintro ⟨⟨htarget, hsource⟩, hmalformed, rfl⟩
        exact .malformedText htarget hsource hmalformed
      · intro h
        cases h with
        | number hnumber => cases hs <;> cases hnumber
        | malformedText htarget hsource hmalformed =>
          exact ⟨⟨htarget, hsource⟩, hmalformed, rfl⟩
        | int96Length hsource => cases hs <;> cases hsource
        | nanosOfDay hsource => cases hs <;> cases hsource

end BinaryCast

/-! ### Timestamps -/

namespace Int96Cast

/-- Bytes are invalid when their number or their time is that of no instant. -/
private theorem convert_judged (c : Int96Cast) (content : Bytes) :
    Judged (fun cause => content.length ≠ 12 ∧ cause = .int96Length content.length ∨
      content.length = 12 ∧
        ¬(0 ≤ Int96.nanosOfDay content ∧ Int96.nanosOfDay content < 86400000000000) ∧
          cause = .nanosOfDay (Int96.nanosOfDay content))
      (c.convert (.bytes content)) := by
  rw [convert]
  by_cases hlength : content.length = 12
  · by_cases htime : 0 ≤ Int96.nanosOfDay content ∧ Int96.nanosOfDay content < 86400000000000
    · refine .of_valid (fun cause h => ?_) ?_
      · exact h.elim (fun h => h.1 hlength) fun h => h.2.1 htime
      · rcases Int96.decode_cases ⟨hlength, htime.1, htime.2⟩ with ⟨n, hn⟩ | ⟨excess, hexcess⟩
        · exact .inl ⟨_, by rw [hn]; rfl⟩
        · exact .inr ⟨excess, by rw [hexcess]; rfl⟩
    · rw [Int96.decode_of_time hlength htime]
      refine .invalid fun other => ⟨fun h => ?_, fun h => .inr ⟨hlength, htime, h⟩⟩
      exact h.elim (fun h => absurd hlength h.1) fun h => h.2.2
  · rw [Int96.decode_of_length_ne hlength]
    refine .invalid fun other => ⟨fun h => ?_, fun h => .inl ⟨hlength, h⟩⟩
    exact h.elim (fun h => h.2) fun h => absurd h.1 hlength

private theorem classified {c : Int96Cast} {unit : TimeUnit} :
    v.Classified ⟨.int96, .bare⟩ ⟨.int64, .timestamp unit⟩ (c.convert v) where
  mismatch hkind := by
    cases v with
    | bytes content => exact absurd rfl hkind
    | _ => rfl
  judged hkind := by
    cases v <;> cases hkind
    case bytes.refl content =>
      refine (convert_judged c content).congr fun cause => ⟨?_, fun h => ?_⟩
      · rintro (⟨hlength, rfl⟩ | ⟨hlength, htime, rfl⟩)
        · exact .int96Length rfl hlength
        · exact .nanosOfDay rfl hlength htime
      · cases h with
        | number hnumber => cases hnumber
        | malformedText htarget => cases htarget
        | int96Length _ hlength => exact .inl ⟨hlength, rfl⟩
        | nanosOfDay _ hlength htime => exact .inr ⟨hlength, htime, rfl⟩

end Int96Cast

/-! ### Decimals -/

namespace DecimalForm

private theorem decode_of_kind_ne {f : DecimalForm} (h : v.kind ≠ f.valueKind) :
    f.decode v = .error (.typeMismatch f.valueKind v.kind) := by
  cases f <;> cases v <;> first | rfl | exact absurd rfl h

end DecimalForm

namespace DecimalCast

/-- A decimal is never invalid. -/
private theorem convert_cases {c : DecimalCast} (hkind : v.kind = c.source.valueKind) :
    (∃ w, c.convert v = .ok w) ∨ ∃ excess, c.convert v = .error (.overflow excess) := by
  obtain ⟨n, hn⟩ := DecimalForm.exists_decode hkind
  rw [convert_of_decode hn]
  split_ifs
  · by_cases hholds : c.target.Holds (Unscaled.rescale n c.scaleDelta)
    · obtain ⟨w, hw, -⟩ := DecimalForm.encode_of_holds hholds
      exact .inl ⟨w, hw⟩
    · obtain ⟨excess, hexcess, -⟩ := DecimalForm.encode_of_not_holds hholds
      exact .inr ⟨excess, hexcess⟩
  · exact .inr ⟨_, rfl⟩

private theorem classified {c : DecimalCast} {s t : DecimalType}
    (hp : DecimalForm.ofPhysical? p = some c.source) :
    v.Classified ⟨p, .decimal s⟩ ⟨q, .decimal t⟩ (c.convert v) where
  mismatch hkind := by
    have hkinds := DecimalForm.valueKind_of_ofPhysical? hp
    dsimp only at hkind ⊢
    rw [hkinds] at hkind ⊢
    rw [convert, DecimalForm.decode_of_kind_ne hkind]
    rfl
  judged hkind := by
    have hkinds := DecimalForm.valueKind_of_ofPhysical? hp
    refine .of_valid (fun cause h => ?_) (convert_cases (hkind.trans hkinds))
    cases h with
    | number hnumber => cases p <;> first | cases hnumber | cases hp
    | malformedText htarget => cases htarget
    | int96Length hsource =>
      cases hsource
      cases hp
    | nanosOfDay hsource =>
      cases hsource
      cases hp

end DecimalCast

/-! ### Built converters -/

namespace Converter

variable {source : ColumnType}

/-- Whatever a converter that serves two types makes of a value is classified by them. -/
private theorem Serves.classified {target : ColumnType} {c : Converter} (h : Serves source target c)
    (hv : v ≠ .null) : v.Classified source target (c.convert v) := by
  rw [convert_of_ne_null hv]
  cases h with
  | int96 unit => exact Int96Cast.classified
  | numeric cast hp hq => exact NumericCast.classified hp hq
  | binary hs ht hcast => exact BinaryCast.classified hs ht hcast
  | decimal hp hq hscales => exact DecimalCast.classified hp

/-- **Why a converter refuses a value.** A value that is not null is a type mismatch exactly when
it is not of the form that the source type stores, and the error names that form and its own. A
value of that form is converted, an overflow or invalid, and it is invalid exactly when it has no
counterpart in the target type, for the cause that is reported. -/
theorem convert_classified {target : TargetType} {c : Converter}
    (hbuild : build source target = .ok c) (hv : v ≠ .null) :
    (∀ expected found, c.convert v = .error (.typeMismatch expected found) ↔
      v.kind ≠ source.physical.valueKind ∧
        expected = source.physical.valueKind ∧ found = v.kind) ∧
    (v.kind = source.physical.valueKind →
      (∃ w, c.convert v = .ok w) ∨ (∃ excess, c.convert v = .error (.overflow excess)) ∨
        ∃ cause, c.convert v = .error (.invalidValue cause)) ∧
    ∀ cause, c.convert v = .error (.invalidValue cause) ↔
      v.kind = source.physical.valueKind ∧ v.Meaningless source target.toColumnType cause := by
  obtain ⟨hmismatch, hjudged⟩ := (build_iff_serves.mp hbuild).classified hv
  by_cases hkind : v.kind = source.physical.valueKind
  · have h := hjudged hkind
    refine ⟨fun expected found => iff_of_false (fun herror => ?_) fun hne => hne.1 hkind,
      fun _ => h.exists_eq, fun cause => ?_⟩
    · rcases h.exists_eq with ⟨w, hw⟩ | ⟨excess, hexcess⟩ | ⟨cause, hcause⟩
      · cases hw.symm.trans herror
      · cases hexcess.symm.trans herror
      · cases hcause.symm.trans herror
    · rw [h.eq_invalidValue_iff, and_iff_right hkind]
  · rw [hmismatch hkind]
    refine ⟨fun expected found => ?_, fun h => absurd h hkind,
      fun cause => iff_of_false nofun fun h => hkind h.1⟩
    rw [Except.error.injEq, ConversionError.typeMismatch.injEq, and_iff_right hkind,
      eq_comm (a := expected), eq_comm (a := found)]

/-- A double that is no number becomes no 32-bit integer, and a float is refused for its form. -/
theorem convert_classified_nan :
    (numeric ⟨.double, .int32, by decide⟩).convert (.float64 0x7FF8000000000000#64) =
        .error (.invalidValue (.notANumber .int32)) ∧
      (numeric ⟨.double, .int32, by decide⟩).convert (.float32 0x7FC00000#32) =
        .error (.typeMismatch .float64 .float32) := by
  have hbuild : build ⟨.double, .bare⟩ ⟨⟨.int32, .bare⟩, rfl⟩ =
      .ok (numeric ⟨.double, .int32, by decide⟩) :=
    rfl
  obtain ⟨-, -, hinvalid⟩ :=
    convert_classified (v := .float64 0x7FF8000000000000#64) hbuild nofun
  obtain ⟨hmismatch, -⟩ := convert_classified (v := .float32 0x7FC00000#32) hbuild nofun
  have hnan : double.decode 0x7FF8000000000000#64 = .nan := by decide
  exact ⟨(hinvalid _).mpr ⟨rfl, .number (congrArg some hnan) rfl .nan⟩,
    (hmismatch _ _).mpr ⟨nofun, rfl, rfl⟩⟩

end Converter

end ColumnCast
