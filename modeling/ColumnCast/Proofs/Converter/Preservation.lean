import ColumnCast.Proofs.Converter.Build
import ColumnCast.Proofs.Decimal.Path
import ColumnCast.Proofs.Text.Utf8

/-!
# Converted values fit their column

What a built converter gives can be stored under the target type: null for null only, and else
a value of the kind of the target's physical type, of its length, of at most its precision, and
well-formed text where the target is text (`Converter.convert_fits`).
-/

namespace ColumnCast

/-- The kind of the values that a physical type stores. -/
def Physical.valueKind : Physical → ValueKind
  | boolean => .boolean
  | int32 => .int32
  | int64 => .int64
  | float => .float32
  | double => .float64
  | int96 | byteArray | fixedLenByteArray _ => .bytes

variable {p : Physical} {v w : Value}

private theorem Physical.valueKind_ne_null (p : Physical) : p.valueKind ≠ .null := by
  cases p <;> simp [valueKind]

theorem Value.kind_eq_null_iff : v.kind = .null ↔ v = .null := by
  cases v <;> simp [kind]

/-! ### Numbers -/

namespace IntegerKind

/-- The kind of the values of an integer type. -/
def valueKind : IntegerKind → ValueKind
  | int32 => .int32
  | int64 => .int64

end IntegerKind

namespace NumericCast

private theorem kind_of_ofInteger? {n : ℤ} {target : IntegerKind}
    (h : ofInteger? n target = some w) : w.kind = target.valueKind := by
  cases target with
  | int32 =>
    obtain ⟨m, -, rfl⟩ := Option.map_eq_some_iff.mp h
    rfl
  | int64 =>
    obtain ⟨m, -, rfl⟩ := Option.map_eq_some_iff.mp h
    rfl

private theorem kind_of_truncate {source : ValueKind} {bits : Binary64} {target : IntegerKind}
    (h : truncate source bits target = .ok w) : w.kind = target.valueKind := by
  simp only [truncate] at h
  split at h
  · split at h
    · next m hm =>
      rw [← Except.ok.inj h]
      exact kind_of_ofInteger? hm
    · cases h
  · split_ifs at h

private theorem kind_of_ofInt64 {n : Int64} {t : NumericType} (h : ofInt64 n t = .ok w) :
    w.kind = t.valueKind := by
  cases t with
  | int32 =>
    rw [ofInt64] at h
    split at h
    · rw [← Except.ok.inj h]
      rfl
    · cases h
  | _ =>
    rw [← Except.ok.inj h]
    rfl

private theorem kind_of_ofFloating {source : ValueKind} {bits : Binary64} {t : NumericType}
    (h : ofFloating source bits t = .ok w) : w.kind = t.valueKind := by
  cases t with
  | int32 => exact kind_of_truncate h
  | int64 => exact kind_of_truncate h
  | float =>
    rw [ofFloating, narrow] at h
    split_ifs at h
    rw [← Except.ok.inj h]
    rfl
  | double =>
    rw [← Except.ok.inj h]
    rfl

/-- A number becomes one of the target's kind. -/
private theorem kind_of_convert {c : NumericCast} (h : c.convert v = .ok w) :
    w.kind = c.target.valueKind := by
  unfold convert at h
  split at h
  · rw [← Except.ok.inj h]
    cases c.target <;> rfl
  · exact kind_of_ofInt64 h
  · exact kind_of_ofFloating h
  · exact kind_of_ofFloating h
  · cases h

end NumericCast

theorem NumericType.valueKind_of_ofPhysical? {n : NumericType}
    (h : NumericType.ofPhysical? p = some n) : p.valueKind = n.valueKind := by
  cases p <;> cases h <;> rfl

/-! ### Byte sequences -/

namespace BinaryCast

/-- Bytes become bytes. -/
theorem exists_bytes_of_convert {c : BinaryCast} (h : c.convert v = .ok w) :
    ∃ before after, v = .bytes before ∧ w = .bytes after ∧
      c.convertBytes before = .ok after := by
  cases v with
  | bytes before =>
    rw [convert] at h
    cases hconvert : c.convertBytes before with
    | ok after =>
      rw [hconvert] at h
      exact ⟨before, after, rfl, (Except.ok.inj h).symm, hconvert⟩
    | error e =>
      rw [hconvert] at h
      cases h
  | _ => cases h

theorem length_padRight {n : ℕ} {bytes : Bytes} (h : bytes.length ≤ n) :
    (padRight n bytes).length = n := by
  rw [padRight, List.length_append, List.length_replicate, Nat.add_sub_cancel' h]

/-- Both ways to a fixed length reach it. -/
private theorem length_convertBytes {c : BinaryCast} {n : ℕ} {before after : Bytes}
    (hc : c = .padToFixed n ∨ c = .resize n) (h : c.convertBytes before = .ok after) :
    after.length = n := by
  rcases hc with rfl | rfl
  · rw [convertBytes] at h
    split_ifs at h with hlength
    rw [← Except.ok.inj h, length_padRight (not_lt.mp hlength)]
  · rw [convertBytes] at h
    split_ifs at h with hzero
    rw [← Except.ok.inj h, length_padRight (List.length_take_le n before)]

private theorem wellFormed_of_validateUtf8 {before after : Bytes}
    (h : convertBytes .validateUtf8 before = .ok after) : Utf8.WellFormed after := by
  rw [convertBytes] at h
  split_ifs at h with hdecode
  rw [← Except.ok.inj h]
  exact Utf8.isSome_decode?_iff.mp hdecode

end BinaryCast

/-! ### Decimals -/

namespace DecimalForm

theorem valueKind_of_ofPhysical? {f : DecimalForm} (h : ofPhysical? p = some f) :
    p.valueKind = f.valueKind := by
  cases p <;> cases h <;> rfl

private theorem Canonical.kind {f : DecimalForm} (h : f.Canonical v) : v.kind = f.valueKind := by
  cases f <;> cases v <;> first | rfl | exact h.elim

private theorem length_of_encode {n : ℕ} {r : ℤ} (h : (fixedLenByteArray n).encode r = .ok w) :
    ∃ content, w = .bytes content ∧ content.length = n := by
  have hcanonical := canonical_of_encode h
  cases w <;> first | exact hcanonical.elim | exact ⟨_, rfl, hcanonical.2⟩

end DecimalForm

namespace DecimalCast

/-- What is converted was encoded in the form of the target. -/
theorem exists_encode_of_convert {c : DecimalCast} (h : c.convert v = .ok w) :
    ∃ r, c.target.encode r = .ok w := by
  obtain ⟨u, hu⟩ := decode_of_convert h
  rw [convert_of_decode hu] at h
  split_ifs at h
  exact ⟨_, h⟩

end DecimalCast

/-! ### Built converters -/

/-- The outcome `w` of converting `v` **fits** the target type: it is a value that a column of
this type stores. Precision is promised for values of fewer than `2 ^ 46` bytes, and text that
was text before is as well formed as it was. -/
structure Value.Fits (w : Value) (source target : ColumnType) (v : Value) : Prop where
  null_iff : w = .null ↔ v = .null
  kind : v ≠ .null → w.kind = target.physical.valueKind
  length : v ≠ .null → ∀ length, target.physical = .fixedLenByteArray length →
    ∃ content, w = .bytes content ∧ content.length = length.toNat
  precision : v ≠ .null → v.byteCount < 2 ^ 46 → ∀ t, target.decimal? = some t →
    ∃ g r, DecimalForm.ofPhysical? target.physical = some g ∧ g.decode w = .ok r ∧
      |r| < 10 ^ t.precision.toNat
  wellFormed : target.logical = .string →
    (source.logical ≠ .string ∨ ∀ content, v = .bytes content → Utf8.WellFormed content) →
      ∀ content, w = .bytes content → Utf8.WellFormed content

/-- Null fits every column. -/
private theorem Value.null_fits (source target : ColumnType) :
    Value.null.Fits source target .null where
  null_iff := Iff.rfl
  kind hv := absurd rfl hv
  length hv := absurd rfl hv
  precision hv := absurd rfl hv
  wellFormed _ _ _ h := by cases h

namespace Converter

variable {source target : ColumnType}

/-- A value of the kind of the target is not null. -/
private theorem null_iff_of_kind (hv : v ≠ .null) (hkind : w.kind = p.valueKind) :
    w = .null ↔ v = .null := by
  rw [← Value.kind_eq_null_iff, hkind]
  exact iff_of_false p.valueKind_ne_null hv

private theorem fits_int96 {cast : Int96Cast} {unit : TimeUnit} (hv : v ≠ .null)
    (h : cast.convert v = .ok w) : w.Fits ⟨.int96, .bare⟩ ⟨.int64, .timestamp unit⟩ v := by
  have hkind : w.kind = Physical.int64.valueKind := by
    cases v with
    | bytes content =>
      rw [Int96Cast.convert] at h
      cases hdecode : Int96.decode content with
      | ok nanos =>
        rw [hdecode] at h
        rw [← Except.ok.inj h]
        rfl
      | error e =>
        rw [hdecode] at h
        cases h
    | _ => cases h
  exact ⟨null_iff_of_kind hv hkind, fun _ => hkind, nofun, nofun, nofun⟩

private theorem fits_numeric {q : Physical} {cast : NumericCast}
    (hq : NumericType.ofPhysical? q = some cast.target) (hv : v ≠ .null)
    (h : cast.convert v = .ok w) : w.Fits ⟨p, .bare⟩ ⟨q, .bare⟩ v := by
  have hkind : w.kind = q.valueKind := by
    rw [NumericCast.kind_of_convert h, NumericType.valueKind_of_ofPhysical? hq]
  refine ⟨null_iff_of_kind hv hkind, fun _ => hkind, ?_, nofun, nofun⟩
  rintro - length rfl
  cases hq

private theorem fits_binary {cast : BinaryCast} (hs : source.PlainBytes) (ht : target.PlainBytes)
    (hcast : BinaryCast.ofTypes? source target = some cast) (hv : v ≠ .null)
    (h : cast.convert v = .ok w) : w.Fits source target v := by
  obtain ⟨before, after, rfl, rfl, hconvert⟩ := BinaryCast.exists_bytes_of_convert h
  have hkind : (Value.bytes after).kind = target.physical.valueKind := by cases ht <;> rfl
  refine ⟨null_iff_of_kind hv hkind, fun _ => hkind, fun _ length hlength => ?_,
    fun _ _ t hdecimal => ?_, fun htext hgiven content hcontent => ?_⟩
  · refine ⟨after, rfl, BinaryCast.length_convertBytes ?_ hconvert⟩
    cases ht <;> cases hlength
    cases hs with
    | byteArray => exact Or.inl (Option.some.inj hcast).symm
    | text => exact Or.inl (Option.some.inj hcast).symm
    | fixedLenByteArray => exact Or.inr (Option.some.inj hcast).symm
  · cases ht <;> cases hdecimal
  · rw [← Value.bytes.inj hcontent]
    cases ht <;> cases htext
    -- text stays as it is, and anything else is validated on becoming text
    cases hs with
    | text =>
      cases hcast
      rw [← Except.ok.inj hconvert]
      exact hgiven.resolve_left (fun hne => hne rfl) before rfl
    | byteArray =>
      cases hcast
      exact BinaryCast.wellFormed_of_validateUtf8 hconvert
    | fixedLenByteArray =>
      cases hcast
      exact BinaryCast.wellFormed_of_validateUtf8 hconvert

private theorem fits_decimal {q : Physical} {s t : DecimalType} {f g : DecimalForm}
    (hq : DecimalForm.ofPhysical? q = some g) (hv : v ≠ .null)
    (h : (DecimalCast.between f s g t).convert v = .ok w) :
    w.Fits ⟨p, .decimal s⟩ ⟨q, .decimal t⟩ v := by
  obtain ⟨r, hr⟩ := DecimalCast.exists_encode_of_convert h
  have hkind : w.kind = q.valueKind := by
    rw [(DecimalForm.canonical_of_encode hr).kind, DecimalForm.valueKind_of_ofPhysical? hq]
    rfl
  refine ⟨null_iff_of_kind hv hkind, fun _ => hkind, fun _ length hlength => ?_,
    fun _ hsize t' ht => ?_, nofun⟩
  · cases hlength
    cases hq
    exact DecimalForm.length_of_encode hr
  · cases ht
    obtain ⟨u, -, -, hwithin, hdecode⟩ :=
      DecimalCast.exists_rescaled h hsize (DecimalCast.abs_scaleDelta_between_lt f g s t)
    exact ⟨g, _, hq, hdecode, hwithin⟩

/-- **Type preservation.** Whatever a built converter gives fits the target type. -/
theorem convert_fits {target : TargetType} {c : Converter} (hbuild : build source target = .ok c)
    (hconvert : c.convert v = .ok w) : w.Fits source target.toColumnType v := by
  rcases eq_or_ne v .null with rfl | hv
  · rw [← Except.ok.inj hconvert]
    exact Value.null_fits _ _
  · have hserves := build_iff_serves.mp hbuild
    generalize target.toColumnType = t at hserves
    rw [convert_of_ne_null hv] at hconvert
    cases hserves with
    | int96 unit => exact fits_int96 hv hconvert
    | numeric cast _ hq => exact fits_numeric hq hv hconvert
    | binary hs ht hcast => exact fits_binary hs ht hcast hv hconvert
    | decimal _ hq _ => exact fits_decimal hq hv hconvert

/-- A decimal of four bytes becomes the unscaled value of a 64-bit one. -/
theorem convert_fits_four_bytes :
    (Value.int64 1234500).Fits ⟨.fixedLenByteArray 4, .decimal ⟨9, 2⟩⟩ ⟨.int64, .decimal ⟨12, 4⟩⟩
      (.bytes [0, 0, 48, 57]) := by
  have hbuild : build ⟨.fixedLenByteArray 4, .decimal ⟨9, 2⟩⟩
      ⟨⟨.int64, .decimal ⟨12, 4⟩⟩, by decide +kernel⟩ =
        .ok (.decimal (.between (.fixedLenByteArray 4) ⟨9, 2⟩ .int64 ⟨12, 4⟩)) := by
    decide +kernel
  have hconvert : (decimal (.between (.fixedLenByteArray 4) ⟨9, 2⟩ .int64 ⟨12, 4⟩)).convert
      (.bytes [0, 0, 48, 57]) = .ok (.int64 1234500) := by
    decide +kernel
  exact convert_fits hbuild hconvert

end Converter

end ColumnCast
