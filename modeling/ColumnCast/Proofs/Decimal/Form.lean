import ColumnCast.Cast.Decimal
import ColumnCast.Proofs.Text.Numeral
import ColumnCast.Proofs.Unscaled.Rescale
import ColumnCast.Proofs.Unscaled.TwosComplement

/-!
# The forms of decimals as codecs

`DecimalForm.Holds` says which unscaled values a form can store. These are the values that
`encode` writes (`encode_of_holds`); any other one is refused for its width
(`encode_of_not_holds`). Among the values that decode to one number, `DecimalForm.Canonical`
picks the one that `encode` writes (`canonical_of_encode`, `Canonical.unique`).
-/

namespace ColumnCast

/-- The number of bytes of a byte sequence; other values have a size of their own. -/
def Value.byteCount : Value → ℕ
  | .bytes content => content.length
  | _ => 0

namespace DecimalForm

/-- The physical types that hold decimals are the ones with a form. -/
theorem exists_ofPhysical?_iff {p : Physical} :
    (∃ f, ofPhysical? p = some f) ↔ p.holdsDecimal = true := by
  cases p <;> simp [ofPhysical?, Physical.holdsDecimal]

/-! ### Decoding -/

/-- A value of the form's own kind is read. -/
theorem exists_decode {f : DecimalForm} {x : Value} (hx : x.kind = f.valueKind) :
    ∃ v, f.decode x = .ok v := by
  cases f <;> cases x <;> simp [Value.kind, valueKind, decode] at hx ⊢

/-- Bytes of any length are read by the forms that store bytes. -/
theorem exists_decode_of_isBinary {p : Physical} {f : DecimalForm} (hf : ofPhysical? p = some f)
    (hp : p.isBinary = true) (v : ℤ) : ∃ x, f.decode x = .ok v := by
  refine ⟨.bytes (TwosComplement.encode v 0), ?_⟩
  cases p <;> cases hf
  case int32 => cases hp
  case int64 => cases hp
  case byteArray => exact congrArg Except.ok (TwosComplement.decode_encode v 0)
  case fixedLenByteArray => exact congrArg Except.ok (TwosComplement.decode_encode v 0)

/-- Null has no form. -/
theorem ne_null_of_decode {f : DecimalForm} {x : Value} {v : ℤ} (h : f.decode x = .ok v) :
    x ≠ .null := by
  rintro rfl
  cases f <;> cases h

/-- A machine word decodes to at most 64 bits, a byte sequence to at most eight bits a byte. -/
theorem bits_le_of_decode {f : DecimalForm} {x : Value} {v : ℤ} (h : f.decode x = .ok v) :
    Unscaled.bits v ≤ max 64 (8 * x.byteCount) := by
  have hbytes : ∀ bytes : Bytes,
      Unscaled.bits (TwosComplement.decode bytes) ≤ 8 * bytes.length := by
    intro bytes
    rcases eq_or_ne bytes [] with rfl | hne
    · exact le_rfl
    · obtain ⟨hlow, hhigh⟩ := TwosComplement.inRange_decode hne
      have hpow : (2 : ℤ) ^ (8 * bytes.length - 1) < 2 ^ (8 * bytes.length) :=
        pow_lt_pow_right₀ (by norm_num) (Nat.sub_lt (by
          have := List.length_pos_iff.mpr hne
          omega) one_pos)
      have hcast : ((2 ^ (8 * bytes.length) : ℕ) : ℤ) = 2 ^ (8 * bytes.length) := by
        push_cast
        rfl
      rw [Unscaled.bits_le_iff]
      omega
  cases f <;> cases x <;> simp only [decode, reduceCtorEq, Except.ok.injEq] at h
  case int32.int32 n =>
    have hlow := n.le_toInt
    have hhigh := n.toInt_lt
    rw [← h]
    refine le_max_of_le_left (Unscaled.bits_le_iff.mpr ?_)
    omega
  case int64.int64 n =>
    have hlow := n.le_toInt
    have hhigh := n.toInt_lt
    rw [← h]
    refine le_max_of_le_left (Unscaled.bits_le_iff.mpr ?_)
    omega
  case byteArray.bytes content =>
    rw [← h]
    exact le_max_of_le_right (hbytes content)
  case fixedLenByteArray.bytes _ content =>
    rw [← h]
    exact le_max_of_le_right (hbytes content)

/-! ### Encoding -/

/-- The values that a form can store: those of the machine word, or of the range of the bytes;
a form of no bytes stores none. -/
def Holds : DecimalForm → ℤ → Prop
  | int32, v => -2 ^ 31 ≤ v ∧ v < 2 ^ 31
  | int64, v => -2 ^ 63 ≤ v ∧ v < 2 ^ 63
  | byteArray, _ => True
  | fixedLenByteArray length, v => 0 < length ∧ TwosComplement.InRange length v

/-- The overflow that reports a value as too wide for a form. -/
inductive TooWide (v : ℤ) : DecimalForm → Overflow → Prop
  | int32 : TooWide v .int32 (.unscaled v .int32)
  | int64 : TooWide v .int64 (.unscaled v .int64)
  | fixedLenByteArray (length : ℕ) :
      TooWide v (.fixedLenByteArray length) (.width (TwosComplement.byteLength v) length)

/-- A width is not a precision. -/
theorem TooWide.ne_precision {f : DecimalForm} {v : ℤ} {cause : Overflow} {limit : UInt32}
    (h : TooWide v f cause) : cause ≠ .precision limit := by
  cases h <;> simp

/-- A form of some bytes stores what does not need more of them. -/
private theorem holds_fixedLenByteArray_iff {length : ℕ} {v : ℤ} :
    (fixedLenByteArray length).Holds v ↔ TwosComplement.byteLength v ≤ length := by
  constructor
  · rintro ⟨hpos, hrange⟩
    exact (TwosComplement.byteLength_le_iff hpos).mpr hrange
  · intro h
    have hpos := (TwosComplement.byteLength_pos v).trans_le h
    exact ⟨hpos, (TwosComplement.byteLength_le_iff hpos).mp h⟩

/-- **Encoding what fits.** A form stores the values it holds, and they are read back. -/
theorem encode_of_holds {f : DecimalForm} {v : ℤ} (h : f.Holds v) :
    ∃ y, f.encode v = .ok y ∧ f.decode y = .ok v := by
  cases f with
  | int32 =>
    have hn : (Int32.ofInt v).toInt = v := Int32.toInt_ofInt_of_le h.1 h.2
    have hword := Numeral.toInt32?_eq_some_iff.mpr hn
    exact ⟨.int32 (.ofInt v), by rw [encode, hword], by rw [decode, hn]⟩
  | int64 =>
    have hn : (Int64.ofInt v).toInt = v := Int64.toInt_ofInt_of_le h.1 h.2
    have hword := Numeral.toInt64?_eq_some_iff.mpr hn
    exact ⟨.int64 (.ofInt v), by rw [encode, hword], by rw [decode, hn]⟩
  | byteArray =>
    exact ⟨_, rfl, by rw [decode, TwosComplement.decode_encode]⟩
  | fixedLenByteArray length =>
    have hlength := holds_fixedLenByteArray_iff.mp h
    refine ⟨_, by rw [encode, if_neg (not_lt.mpr hlength)], ?_⟩
    rw [decode, TwosComplement.decode_encode]

/-- **Encoding what does not fit.** Any other value is refused for its width. -/
theorem encode_of_not_holds {f : DecimalForm} {v : ℤ} (h : ¬f.Holds v) :
    ∃ cause, f.encode v = .error (.overflow cause) ∧ TooWide v f cause := by
  cases f with
  | int32 => exact ⟨_, by rw [encode, Numeral.toInt32?_eq_none_iff.mpr h], .int32⟩
  | int64 => exact ⟨_, by rw [encode, Numeral.toInt64?_eq_none_iff.mpr h], .int64⟩
  | byteArray => exact absurd trivial h
  | fixedLenByteArray length =>
    rw [holds_fixedLenByteArray_iff, not_le] at h
    exact ⟨_, by rw [encode, if_pos h], .fixedLenByteArray length⟩

/-- What was encoded is read back. -/
theorem decode_of_encode {f : DecimalForm} {v : ℤ} {y : Value} (h : f.encode v = .ok y) :
    f.decode y = .ok v := by
  by_cases hholds : f.Holds v
  · obtain ⟨z, hz, hdecode⟩ := encode_of_holds hholds
    rw [h] at hz
    rw [Except.ok.inj hz, hdecode]
  · obtain ⟨cause, herror, -⟩ := encode_of_not_holds hholds
    rw [h] at herror
    cases herror

/-- A form encodes exactly the values it holds. -/
theorem isOk_encode_iff {f : DecimalForm} {v : ℤ} : (f.encode v).isOk ↔ f.Holds v := by
  constructor
  · intro hok
    by_contra h
    obtain ⟨cause, herror, -⟩ := encode_of_not_holds h
    rw [herror] at hok
    exact absurd hok (by simp [Except.isOk, Except.toBool])
  · intro h
    obtain ⟨y, hy, -⟩ := encode_of_holds h
    rw [hy]
    rfl

/-! ### Canonical values -/

/-- The value is the one of its form that encoding gives: a byte sequence of the length of the
form or, where the form has no length, without a shorter one for the same number. -/
def Canonical : DecimalForm → Value → Prop
  | int32, .int32 _ => True
  | int64, .int64 _ => True
  | byteArray, .bytes content => content ≠ [] ∧ ∀ other, other ≠ [] →
      TwosComplement.decode other = TwosComplement.decode content →
        content.length ≤ other.length
  | fixedLenByteArray length, .bytes content => 0 < length ∧ content.length = length
  | _, _ => False

/-- Encoding gives canonical values. -/
theorem canonical_of_encode {f : DecimalForm} {v : ℤ} {y : Value} (h : f.encode v = .ok y) :
    f.Canonical y := by
  cases f with
  | int32 =>
    rw [encode] at h
    split at h
    · rw [← Except.ok.inj h]
      trivial
    · cases h
  | int64 =>
    rw [encode] at h
    split at h
    · rw [← Except.ok.inj h]
      trivial
    · cases h
  | byteArray =>
    rw [← Except.ok.inj h]
    have hlength := TwosComplement.length_encode v 0
    rw [Nat.max_zero] at hlength
    -- any other bytes of the number are as many as its width at least
    refine ⟨?_, fun other hother hdecode => ?_⟩
    · rw [← List.length_pos_iff, hlength]
      exact TwosComplement.byteLength_pos v
    · rw [TwosComplement.decode_encode] at hdecode
      rw [hlength, ← hdecode]
      exact TwosComplement.byteLength_decode_le hother
  | fixedLenByteArray length =>
    rw [encode] at h
    split_ifs at h with hlength
    rw [← Except.ok.inj h]
    have hpos := TwosComplement.byteLength_pos v
    refine ⟨by omega, ?_⟩
    rw [TwosComplement.length_encode]
    omega

/-- A canonical value decodes to a value that its form holds. -/
theorem Canonical.holds {f : DecimalForm} {x : Value} {v : ℤ} (hx : f.Canonical x)
    (h : f.decode x = .ok v) : f.Holds v := by
  cases f <;> cases x <;> simp only [decode, reduceCtorEq, Except.ok.injEq] at h
  case int32.int32 n =>
    rw [← h]
    exact ⟨n.le_toInt, n.toInt_lt⟩
  case int64.int64 n =>
    rw [← h]
    exact ⟨n.le_toInt, n.toInt_lt⟩
  case byteArray.bytes content => trivial
  case fixedLenByteArray.bytes length content =>
    obtain ⟨hpos, hlength⟩ := hx
    rw [← hlength] at hpos ⊢
    rw [← h]
    exact ⟨hpos, TwosComplement.inRange_decode (List.length_pos_iff.mp hpos)⟩

/-- **Uniqueness.** Canonical values of one form that decode to one number are equal. -/
theorem Canonical.unique {f : DecimalForm} {x y : Value} {v : ℤ} (hx : f.Canonical x)
    (hy : f.Canonical y) (hdx : f.decode x = .ok v) (hdy : f.decode y = .ok v) : x = y := by
  -- at one length a number has one sequence of bytes
  have hbytes : ∀ p q : Bytes, p ≠ [] → q ≠ [] → p.length = q.length →
      TwosComplement.decode p = TwosComplement.decode q → p = q := by
    intro p q hp hq hlength hdecode
    rw [← TwosComplement.encode_decode hp, hdecode, hlength, TwosComplement.encode_decode hq]
  cases f <;> cases x <;> simp only [decode, reduceCtorEq, Except.ok.injEq] at hdx <;>
    cases y <;> simp only [decode, reduceCtorEq, Except.ok.injEq] at hdy
  case int32.int32.int32 m n =>
    rw [Int32.toInt_inj.mp (hdx.trans hdy.symm)]
  case int64.int64.int64 m n =>
    rw [Int64.toInt_inj.mp (hdx.trans hdy.symm)]
  case byteArray.bytes.bytes p q =>
    have hdecode := hdx.trans hdy.symm
    obtain ⟨hp, hpmin⟩ := hx
    obtain ⟨hq, hqmin⟩ := hy
    have hlength := le_antisymm (hpmin q hq hdecode.symm) (hqmin p hp hdecode)
    rw [hbytes p q hp hq hlength hdecode]
  case fixedLenByteArray.bytes.bytes length p q =>
    obtain ⟨hpos, hp⟩ := hx
    obtain ⟨-, hq⟩ := hy
    have hpne : p ≠ [] := List.length_pos_iff.mp (hp ▸ hpos)
    have hqne : q ≠ [] := List.length_pos_iff.mp (hq ▸ hpos)
    rw [hbytes p q hpne hqne (hp.trans hq.symm) (hdx.trans hdy.symm)]

end DecimalForm

end ColumnCast
