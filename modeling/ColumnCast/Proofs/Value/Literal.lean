import ColumnCast.Proofs.Text.Hex
import ColumnCast.Proofs.Text.Numeral
import ColumnCast.Value.Display
import ColumnCast.Value.Literal

/-!
# What literals mean

`Value.Means` says, without reference to the reader, which value the text of a literal stands for
in a column of integers or of byte sequences. A literal is read as what it means
(`Value.parseLiteral_eq_ok_iff`) and refused as an invalid value when it means nothing
(`Value.kind_of_parseLiteral`). So integers are read back as they are shown, and byte sequences
from their hexadecimal digits (`Value.parseLiteral_exact`).
-/

namespace ColumnCast

open Text (Trimmed)

/-! ### The marker of hexadecimal digits -/

namespace Hex

variable {cs digits : List Char} {b : Bytes}

/-- Behind the marker `0x` or `0X` stand these characters. -/
def Marked (cs digits : List Char) : Prop :=
  cs = '0' :: 'x' :: digits ∨ cs = '0' :: 'X' :: digits

private theorem stripMarker?_eq_some_iff : stripMarker? cs = some digits ↔ Marked cs digits := by
  unfold stripMarker? Marked
  split
  · simp [eq_comm]
  · simp [eq_comm]
  · next hlower hupper =>
    refine iff_of_false (by simp) ?_
    rintro (rfl | rfl)
    · exact hlower _ rfl
    · exact hupper _ rfl

private theorem stripMarker?_eq_none_iff :
    stripMarker? cs = none ↔ ∀ digits, ¬Marked cs digits := by
  rw [Option.eq_none_iff_forall_ne_some]
  exact forall_congr' fun digits => not_congr stripMarker?_eq_some_iff

private theorem Marked.unique {digits' : List Char} (h : Marked cs digits)
    (h' : Marked cs digits') : digits = digits' := by
  rw [← stripMarker?_eq_some_iff] at h h'
  exact Option.some.inj (h.symm.trans h')

/-- The second character of the marker is no digit. -/
private theorem Marked.not_writes (h : Marked cs digits) : ¬Writes cs b := by
  have hmark (d : ℕ) : ¬IsDigit 'x' d ∧ ¬IsDigit 'X' d := by
    simp only [isDigit_iff_toNat, Char.reduceToNat]
    omega
  intro hwrites
  rcases h with rfl | rfl
  · obtain ⟨d, hd⟩ := hwrites.isDigit 'x' (by simp)
    exact (hmark d).1 hd
  · obtain ⟨d, hd⟩ := hwrites.isDigit 'X' (by simp)
    exact (hmark d).2 hd

/-- What is left without a marker, if there is one, consists of hexadecimal digits. -/
private theorem decode?_getD_stripMarker?_iff :
    decode? ((stripMarker? cs).getD cs) = some b ↔
      ∃ digits, (Marked cs digits ∨ cs = digits) ∧ Writes digits b := by
  rw [decode?_eq_some_iff]
  cases hstrip : stripMarker? cs with
  | some digits =>
    have hmarked := stripMarker?_eq_some_iff.mp hstrip
    constructor
    · intro h
      exact ⟨digits, .inl hmarked, h⟩
    · rintro ⟨other, hother | rfl, h⟩
      · rwa [Option.getD_some, hmarked.unique hother]
      · exact absurd h hmarked.not_writes
  | none =>
    have hmarked := stripMarker?_eq_none_iff.mp hstrip
    constructor
    · intro h
      exact ⟨cs, .inr rfl, h⟩
    · rintro ⟨other, hother | rfl, h⟩
      · exact absurd hother (hmarked other)
      · exact h

end Hex

namespace Value

variable {text : String} {cs : List Char} {p : Physical} {v : Value} {b : Bytes}

/-! ### The meaning of a literal -/

/-- The word for the null value, in any case. -/
def SpellsNull (cs : List Char) : Prop :=
  List.Forall₂ (fun c letter => c = letter ∨ c = letter.toUpper) cs ['n', 'u', 'l', 'l']

/-- The bytes that a text stands for: its hexadecimal digits if it is marked as such, and else the
bytes of the text itself, in which blanks count. -/
inductive MeansBytes (cs : List Char) : Bytes → Prop
  | hexadecimal {digits : List Char} {b : Bytes} (hdigits : Hex.Marked (Text.trim cs) digits)
      (h : Hex.Writes digits b) : MeansBytes cs b
  | text (hdigits : ∀ digits, ¬Hex.Marked (Text.trim cs) digits) : MeansBytes cs (Utf8.encode cs)

/-- What a text **means** as a literal of integers or of byte sequences. -/
def Means (cs : List Char) : Physical → Value → Prop
  | .int32, v => ∃ n : Int32, Numeral.Writes (Text.trim cs) n.toInt ∧ int32 n = v
  | .int64, v => ∃ n : Int64, Numeral.Writes (Text.trim cs) n.toInt ∧ int64 n = v
  | .int96, v => ∃ b, (∃ digits, (Hex.Marked (Text.trim cs) digits ∨ Text.trim cs = digits) ∧
      Hex.Writes digits b) ∧ bytes b = v
  | .byteArray, v | .fixedLenByteArray _, v => ∃ b, MeansBytes cs b ∧ bytes b = v
  | .boolean, _ | .float, _ | .double, _ => False

private theorem isNullLiteral_iff : isNullLiteral cs = true ↔ SpellsNull cs :=
  decide_eq_true_iff.trans (Text.lower_eq_iff (List.all_eq_true.mp (by decide)))

private theorem SpellsNull.exists_cons (h : SpellsNull cs) :
    ∃ c rest, cs = c :: rest ∧ (c = 'n' ∨ c = 'N') := by
  obtain ⟨c, rest, hc, -, rfl⟩ := List.forall₂_cons_right_iff.mp h
  exact ⟨c, rest, rfl, hc⟩

/-! ### Reading -/

private theorem expect_eq_ok_iff {kind : LiteralKind} {o : Option Value} :
    parseTrimmed.expect kind o = .ok v ↔ o = some v := by
  cases o <;> simp [parseTrimmed.expect]

private theorem parseTrimmed_byteArray_eq_ok_iff :
    parseTrimmed cs (Text.trim cs) .byteArray = .ok v ↔ ∃ b, MeansBytes cs b ∧ bytes b = v := by
  rw [parseTrimmed]
  cases hstrip : Hex.stripMarker? (Text.trim cs) with
  | some digits =>
    have hmarked := Hex.stripMarker?_eq_some_iff.mp hstrip
    dsimp only
    rw [expect_eq_ok_iff, Option.map_eq_some_iff]
    simp only [Hex.decode?_eq_some_iff]
    refine exists_congr fun b => and_congr_left fun _ => ⟨.hexadecimal hmarked, fun h => ?_⟩
    rcases h with ⟨hdigits, h⟩ | hdigits
    · rwa [hmarked.unique hdigits]
    · exact absurd hmarked (hdigits digits)
  | none =>
    have hmarked := Hex.stripMarker?_eq_none_iff.mp hstrip
    dsimp only
    rw [Except.ok.injEq]
    constructor
    · rintro rfl
      exact ⟨_, .text hmarked, rfl⟩
    · rintro ⟨b, ⟨hdigits, -⟩ | -, rfl⟩
      · exact absurd hdigits (hmarked _)
      · rfl

/-- A literal without the blanks around it is read as what it means. -/
private theorem parseTrimmed_eq_ok_iff (hp : p ∉ [.boolean, .float, .double]) :
    parseTrimmed cs (Text.trim cs) p = .ok v ↔ Means cs p v := by
  cases p with
  | int32 =>
    rw [parseTrimmed, expect_eq_ok_iff, Option.map_eq_some_iff]
    simp only [Numeral.parseInt?_bind_toInt32?_eq_some_iff, Means]
  | int64 =>
    rw [parseTrimmed, expect_eq_ok_iff, Option.map_eq_some_iff]
    simp only [Numeral.parseInt?_bind_toInt64?_eq_some_iff, Means]
  | int96 =>
    rw [parseTrimmed, expect_eq_ok_iff, Option.map_eq_some_iff]
    simp only [Hex.decode?_getD_stripMarker?_iff, Means]
  | byteArray => exact parseTrimmed_byteArray_eq_ok_iff
  | fixedLenByteArray length => exact parseTrimmed_byteArray_eq_ok_iff
  | _ => exact absurd (by decide) hp

private theorem parseLiteral_of_spellsNull (h : SpellsNull (Text.trim text.toList)) :
    parseLiteral text p = .ok .null := by
  unfold parseLiteral
  exact if_pos (isNullLiteral_iff.mpr h)

/-- **Literals** are read as what they mean. -/
theorem parseLiteral_eq_ok_iff (hnull : ¬SpellsNull (Text.trim text.toList))
    (hp : p ∉ [.boolean, .float, .double]) :
    parseLiteral text p = .ok v ↔ Means text.toList p v := by
  rw [← parseTrimmed_eq_ok_iff hp, parseLiteral, if_neg (mt isNullLiteral_iff.mp hnull)]
  split
  · next w hw => rw [hw, Except.ok.injEq, Except.ok.injEq]
  · next kind hkind => exact iff_of_false nofun (by rw [hkind]; exact nofun)

/-- Whatever is refused is refused as an invalid value. -/
theorem kind_of_parseLiteral {e : ConversionError} (h : parseLiteral text p = .error e) :
    e.kind = .invalidValue := by
  unfold parseLiteral at h
  dsimp only at h
  split_ifs at h
  split at h
  · cases h
  · rw [← Except.error.inj h]
    rfl

/-! ### Reading back -/

/-- A text of digits and signs, or one that begins with a digit, does not spell the null value. -/
private theorem not_spellsNull_of_head {c : Char} {rest : List Char} (h : c.isAlpha = false) :
    ¬SpellsNull (c :: rest) := by
  intro hnull
  obtain ⟨d, ds, hcons, hd⟩ := hnull.exists_cons
  obtain ⟨rfl, rfl⟩ := List.cons.inj hcons
  rcases hd with rfl | rfl <;> cases h

private theorem not_spellsNull_of_writes {n : ℤ} (h : Numeral.Writes cs n) : ¬SpellsNull cs := by
  intro hnull
  obtain ⟨c, rest, rfl, -⟩ := hnull.exists_cons
  exact not_spellsNull_of_head (h.isAlpha List.mem_cons_self) hnull

/-- A literal without blanks around it is read as what it means. -/
private theorem parseLiteral_ofList (htrimmed : Trimmed cs) (hnull : ¬SpellsNull cs)
    (hp : p ∉ [.boolean, .float, .double]) (h : Means cs p v) :
    parseLiteral (String.ofList cs) p = .ok v := by
  have hlist : (String.ofList cs).toList = cs := String.toList_ofList
  rw [parseLiteral_eq_ok_iff (by rwa [hlist, htrimmed.trim_eq]) hp, hlist]
  exact h

private theorem parseLiteral_display_int32 (n : Int32) :
    parseLiteral (display (.int32 n)) .int32 = .ok (.int32 n) := by
  have hwrites := Numeral.writes_ofInt n.toInt
  refine parseLiteral_ofList hwrites.trimmed (not_spellsNull_of_writes hwrites)
    (by decide) ⟨n, ?_, rfl⟩
  rwa [hwrites.trimmed.trim_eq]

private theorem parseLiteral_display_int64 (n : Int64) :
    parseLiteral (display (.int64 n)) .int64 = .ok (.int64 n) := by
  have hwrites := Numeral.writes_ofInt n.toInt
  refine parseLiteral_ofList hwrites.trimmed (not_spellsNull_of_writes hwrites)
    (by decide) ⟨n, ?_, rfl⟩
  rwa [hwrites.trimmed.trim_eq]

/-- Hexadecimal digits behind their marker are read as their bytes. -/
private theorem parseLiteral_marked {digits : List Char} (h : Hex.Writes digits b)
    (hp : p = .int96 ∨ p.isBinary = true) :
    parseLiteral (String.ofList ('0' :: 'x' :: digits)) p = .ok (.bytes b) := by
  have htrimmed : Trimmed ('0' :: 'x' :: digits) := by
    refine Text.trimmed_of_forall fun c hc => Text.isBlank_of_toNat ?_ ?_
    all_goals
      rw [List.mem_cons, List.mem_cons] at hc
      rcases hc with rfl | rfl | hc
      · decide
      · decide
      · obtain ⟨d, hd⟩ := h.isDigit c hc
        have hnat := hd.toNat_bounds
        omega
  have hmarked : Hex.Marked (Text.trim ('0' :: 'x' :: digits)) digits := by
    rw [htrimmed.trim_eq]
    exact .inl rfl
  have hnull : ¬SpellsNull ('0' :: 'x' :: digits) := not_spellsNull_of_head rfl
  cases p with
  | int96 =>
    exact parseLiteral_ofList htrimmed hnull (by simp) ⟨b, ⟨digits, .inl hmarked, h⟩, rfl⟩
  | byteArray =>
    exact parseLiteral_ofList htrimmed hnull (by simp) ⟨b, .hexadecimal hmarked h, rfl⟩
  | fixedLenByteArray length =>
    exact parseLiteral_ofList htrimmed hnull (by simp) ⟨b, .hexadecimal hmarked h, rfl⟩
  | _ => rcases hp with hp | hp <;> cases hp

/-- **Literals are read exactly.** A literal that spells the null value is null. Any other one is
read as what it means, if it means anything, and refused as an invalid value if not; where digits
are marked as hexadecimal, an even number of them is needed. The texts of 32-bit and 64-bit
integers are read back, and byte sequences are read from their digits behind the marker. -/
theorem parseLiteral_exact :
    (∀ text p, SpellsNull (Text.trim text.toList) → parseLiteral text p = .ok .null) ∧
    (∀ text p, ¬SpellsNull (Text.trim text.toList) → p ∉ [.boolean, .float, .double] →
      ∀ v, parseLiteral text p = .ok v ↔ Means text.toList p v) ∧
    (∀ text p e, parseLiteral text p = .error e → e.kind = .invalidValue) ∧
    (∀ digits, (∃ b, Hex.Writes digits b) ↔
      Even digits.length ∧ ∀ c ∈ digits, ∃ d, Hex.IsDigit c d) ∧
    (∀ n, parseLiteral (display (.int32 n)) .int32 = .ok (.int32 n)) ∧
    (∀ n, parseLiteral (display (.int64 n)) .int64 = .ok (.int64 n)) ∧
    ∀ b p, p = .int96 ∨ p.isBinary = true →
      parseLiteral ("0x" ++ Hex.text b) p = .ok (.bytes b) := by
  refine ⟨fun text p => parseLiteral_of_spellsNull, fun text p hnull hp v =>
    parseLiteral_eq_ok_iff hnull hp, fun text p e => kind_of_parseLiteral,
    fun digits => Hex.exists_writes_iff, parseLiteral_display_int32, parseLiteral_display_int64,
    fun b p hp => ?_⟩
  have htext : "0x" ++ Hex.text b = String.ofList ('0' :: 'x' :: Hex.encode b) := by
    rw [← String.toList_inj, String.toList_append]
    simp only [Hex.text, String.toList_ofList]
    rfl
  rw [htext]
  exact parseLiteral_marked (Hex.writes_encode b) hp

/-- Blanks around an integer do not count, and a sign and leading zeros are read; the marker alone
stands for no bytes, and three digits behind it for none either. -/
theorem parseLiteral_exact_four_literals :
    (SpellsNull (Text.trim " NULL".toList) ∧ parseLiteral " NULL" .int32 = .ok .null) ∧
    (¬SpellsNull (Text.trim " -0042\n".toList) ∧
      parseLiteral " -0042\n" .int32 = .ok (.int32 (-42))) ∧
    (∃ e, parseLiteral "0xabc" .byteArray = .error e ∧ e.kind = .invalidValue) ∧
    parseLiteral ("0x" ++ Hex.text []) .int96 = .ok (.bytes []) := by
  have htrim : Text.trim " -0042\n".toList = ['-', '0', '0', '4', '2'] := by decide
  have hwrites : Numeral.Writes ['-', '0', '0', '4', '2'] (-42) :=
    Numeral.parseInt?_eq_some_iff.mp (by decide)
  have hnull : SpellsNull (Text.trim " NULL".toList) := isNullLiteral_iff.mp (by decide)
  have hnotNull : ¬SpellsNull (Text.trim " -0042\n".toList) := by
    rw [htrim]
    exact not_spellsNull_of_writes hwrites
  obtain ⟨e, he⟩ : ∃ e, parseLiteral "0xabc" .byteArray = .error e := ⟨_, rfl⟩
  refine ⟨⟨hnull, parseLiteral_exact.1 _ _ hnull⟩, ⟨hnotNull, ?_⟩,
    ⟨e, he, parseLiteral_exact.2.2.1 _ _ _ he⟩,
    parseLiteral_exact.2.2.2.2.2.2 [] .int96 (.inl rfl)⟩
  rw [parseLiteral_exact.2.1 _ .int32 hnotNull (by decide)]
  refine ⟨-42, ?_, rfl⟩
  rw [htrim]
  exact hwrites

end Value

end ColumnCast
