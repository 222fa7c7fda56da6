import ColumnCast.ColumnType.Descriptor
import ColumnCast.Proofs.Except
import ColumnCast.Proofs.Text.Numeral

/-!
# The sides of a type text

One side of a type text is a name and what stands behind it (`Descriptor.token?_eq_some_iff`):
nothing (`token_eq_ok_none_iff`), or blanks and parameters in parentheses (`called_iff`). What
the parameters of a length and of a decimal type have to be is said by `length_eq_ok_iff` and
`decimalType_eq_ok_iff`.
-/

namespace ColumnCast

namespace Descriptor

open Text (AllBlank Trimmed)
open Numeral (Writes)

variable {cs part rest raw : List Char} {name : String}

/-! ### Names and what stands behind them -/

/-- A text that can stand as a name. -/
structure IsName (name : List Char) : Prop where
  ne_nil : name ≠ []
  isNameChar : ∀ c ∈ name, isNameChar c = true

theorem isNameChar_of_isBlank {c : Char} (h : Text.isBlank c = true) : isNameChar c = false := by
  have hnat := Text.toNat_of_isBlank h
  have hunderscore : c ≠ '_' := by
    rintro rfl
    revert hnat
    decide
  rw [isNameChar, Bool.or_eq_false_iff, Bool.or_eq_false_iff, decide_eq_false_iff_not,
    Bool.eq_false_iff, Bool.eq_false_iff]
  refine ⟨⟨?_, ?_⟩, hunderscore⟩
  · rw [ne_eq, Text.isUpper_iff_toNat]
    omega
  · rw [ne_eq, Char.isDigit_iff_toNat]
    simp only [Char.reduceToNat]
    omega

/-- What stands behind a name: blanks, and parentheses if there are parameters. -/
inductive Behind : Option (List Char) → List Char → Prop
  | nothing {gap : List Char} (hgap : AllBlank gap) : Behind none gap
  | parentheses {gap inner : List Char} (hgap : AllBlank gap) (hopen : '(' ∉ inner)
      (hclose : ')' ∉ inner) : Behind (some (Text.trim inner)) (gap ++ '(' :: (inner ++ [')']))

private theorem parameters?_eq_some_none_iff : parameters? cs = some none ↔ cs = [] := by
  unfold parameters?
  split
  · simp
  · split <;> simp
  · next hnil _ => simpa using hnil

private theorem span_parentheses_iff {inner : List Char} :
    (cs.span fun c => c ≠ '(' ∧ c ≠ ')') = (inner, [')']) ↔
      cs = inner ++ [')'] ∧ '(' ∉ inner ∧ ')' ∉ inner := by
  have hinner : (∀ c ∈ inner, decide (c ≠ '(' ∧ c ≠ ')') = true) ↔ '(' ∉ inner ∧ ')' ∉ inner := by
    simp only [decide_eq_true_eq]
    constructor
    · intro h
      exact ⟨fun hmem => (h _ hmem).1 rfl, fun hmem => (h _ hmem).2 rfl⟩
    · rintro ⟨hopen, hclose⟩ c hc
      exact ⟨fun heq => hopen (heq ▸ hc), fun heq => hclose (heq ▸ hc)⟩
  rw [Text.span_eq_iff, hinner]
  simp

private theorem parameters?_eq_some_some_iff :
    parameters? cs = some (some raw) ↔
      ∃ inner, cs = '(' :: (inner ++ [')']) ∧ '(' ∉ inner ∧ ')' ∉ inner ∧
        Text.trim inner = raw := by
  constructor
  · intro h
    unfold parameters? at h
    split at h
    · cases h
    · split at h
      · next rest _ inner hspan =>
        obtain ⟨rfl, hopen, hclose⟩ := span_parentheses_iff.mp hspan
        exact ⟨inner, rfl, hopen, hclose, Option.some.inj (Option.some.inj h)⟩
      · cases h
    · cases h
  · rintro ⟨inner, rfl, hopen, hclose, rfl⟩
    simp only [parameters?, span_parentheses_iff.mpr ⟨rfl, hopen, hclose⟩]

private theorem parameters?_trimLeft_iff {params : Option (List Char)} :
    parameters? (Text.trimLeft rest) = some params ↔ Behind params rest := by
  have hopenBlank : Text.isBlank '(' = false := by decide
  cases params with
  | none =>
    rw [parameters?_eq_some_none_iff, Text.trimLeft_eq_nil_iff]
    constructor
    · exact .nothing
    · rintro ⟨hgap⟩
      exact hgap
  | some raw =>
    simp only [parameters?_eq_some_some_iff, Text.trimLeft_eq_cons_iff hopenBlank]
    constructor
    · rintro ⟨inner, ⟨gap, hgap, rfl⟩, hopen, hclose, rfl⟩
      exact .parentheses hgap hopen hclose
    · intro h
      cases h with
      | parentheses hgap hopen hclose => exact ⟨_, ⟨_, hgap, rfl⟩, hopen, hclose, rfl⟩

/-- A name ends where the text behind it begins. -/
private theorem Behind.head {params : Option (List Char)} (h : Behind params rest) :
    ∀ c ∈ rest.head?, isNameChar c = false := by
  intro c hc
  cases h with
  | nothing hgap => exact isNameChar_of_isBlank (hgap c (List.mem_of_mem_head? hc))
  | @parentheses gap _ hgap _ _ =>
    cases gap with
    | nil =>
      obtain rfl := Option.some.inj hc
      rfl
    | cons d gap =>
      obtain rfl := Option.some.inj hc
      exact isNameChar_of_isBlank (hgap d List.mem_cons_self)

/-- **One side of a type text** is a name and what stands behind it. -/
theorem token?_eq_some_iff {t : Token} :
    token? cs = some t ↔
      IsName t.name.toList ∧ ∃ rest, cs = t.name.toList ++ rest ∧ Behind t.parameters? rest := by
  constructor
  · intro h
    unfold token? at h
    split at h
    · cases h
    · next name rest hne hspan =>
      obtain ⟨rfl, hname, -⟩ := Text.span_eq_iff.mp hspan
      obtain ⟨params, hparams, rfl⟩ := Option.map_eq_some_iff.mp h
      simp only [String.toList_ofList]
      exact ⟨⟨fun hnil => hne hnil, hname⟩, rest, rfl, parameters?_trimLeft_iff.mp hparams⟩
  · rintro ⟨⟨hne, hname⟩, rest, rfl, hrest⟩
    have hspan := Text.span_eq_iff.mpr ⟨rfl, hname, hrest.head⟩
    unfold token?
    rw [hspan]
    split
    · next heq => exact absurd (congrArg Prod.fst heq) hne
    · next heq =>
      obtain ⟨rfl, rfl⟩ := Prod.mk.inj heq
      rw [parameters?_trimLeft_iff.mpr hrest, Option.map_some, String.ofList_toList]

theorem token_eq_ok_iff {t : Token} : token part = .ok t ↔ token? (Text.upper part) = some t := by
  unfold token
  split
  · next u hu => rw [hu, Except.ok.injEq, Option.some.injEq]
  · next hnone => simp [hnone]

/-- A name without parameters. -/
theorem token_eq_ok_none_iff (hname : IsName name.toList) (hpart : Trimmed part) :
    token part = .ok ⟨name, none⟩ ↔ Text.upper part = name.toList := by
  rw [token_eq_ok_iff, token?_eq_some_iff]
  constructor
  · rintro ⟨-, gap, hupper, ⟨hgap⟩⟩
    have hletters : ∀ c ∈ gap, c.isAlpha = false := fun c hc => Text.isAlpha_of_isBlank (hgap c hc)
    obtain ⟨word, hword, rfl⟩ := (Text.upper_eq_append_iff hletters).mp hupper
    rw [hpart.eq_nil_of_append hgap, List.append_nil, hword]
  · intro h
    exact ⟨hname, [], by rw [List.append_nil, h], .nothing nofun⟩

/-- A side of a type text that **calls** a name, in any letter case, with parameters that have
the property. -/
def Called (name : String) (P : List Char → Prop) (part : List Char) : Prop :=
  ∃ word gap inner, Text.upper word = name.toList ∧ AllBlank gap ∧ P inner ∧
    part = word ++ (gap ++ '(' :: (inner ++ [')']))

/-- A name with parameters, when these have neither letters nor parentheses in them and their
property does not depend on the blanks at their ends. -/
theorem called_iff {P R : List Char → Prop} (hname : IsName name.toList)
    (hP : ∀ inner, P inner → ∀ c ∈ inner, c.isAlpha = false ∧ c ∉ ['(', ')'])
    (hR : ∀ inner, P inner ↔ R (Text.trim inner)) :
    Called name P part ↔ ∃ raw, token part = .ok ⟨name, some raw⟩ ∧ R raw := by
  have hletters {gap inner : List Char} (hgap : AllBlank gap) (hinner : P inner) :
      ∀ c ∈ gap ++ '(' :: (inner ++ [')']), c.isAlpha = false := by
    -- upper case leaves all of this as it is
    simp only [List.forall_mem_append, List.forall_mem_cons]
    exact ⟨fun c hc => Text.isAlpha_of_isBlank (hgap c hc), rfl,
      fun c hc => (hP inner hinner c hc).1, rfl, nofun⟩
  simp only [token_eq_ok_iff, token?_eq_some_iff]
  constructor
  · rintro ⟨word, gap, inner, hword, hgap, hinner, rfl⟩
    refine ⟨Text.trim inner, ⟨hname, _, ?_, .parentheses hgap ?_ ?_⟩, (hR inner).mp hinner⟩
    · exact (Text.upper_eq_append_iff (hletters hgap hinner)).mpr ⟨word, hword, rfl⟩
    · exact fun hmem => (hP inner hinner _ hmem).2 (by decide)
    · exact fun hmem => (hP inner hinner _ hmem).2 (by decide)
  · rintro ⟨raw, ⟨-, rest, hupper, hrest⟩, hraw⟩
    cases hrest with
    | @parentheses gap inner hgap _ _ =>
      have hinner := (hR inner).mpr hraw
      obtain ⟨word, hword, rfl⟩ := (Text.upper_eq_append_iff (hletters hgap hinner)).mp hupper
      exact ⟨word, gap, inner, hword, hgap, hinner, rfl⟩

/-! ### Parameters -/

theorem numeral_eq_ok_iff {parameter : TypeParameter} {n : ℤ} :
    numeral parameter raw = .ok n ↔ Writes raw n ∧ -2 ^ 63 ≤ n ∧ n < 2 ^ 63 := by
  constructor
  · intro h
    unfold numeral at h
    split at h
    · next k hk =>
      rw [← Except.ok.inj h]
      exact ⟨Numeral.parseInt?_bind_toInt64?_eq_some_iff.mp hk, k.le_toInt, k.toInt_lt⟩
    · cases h
  · rintro ⟨h, hlow, hhigh⟩
    have hk : (Int64.ofInt n).toInt = n := Int64.toInt_ofInt_of_le hlow hhigh
    rw [numeral, Numeral.parseInt?_bind_toInt64?_eq_some_iff.mpr (hk.symm ▸ h)]
    exact congrArg Except.ok hk

theorem word_eq_ok_iff {parameter : TypeParameter} {n : ℤ} {m : UInt32} :
    word parameter n = .ok m ↔ n.toNat = m.toNat := by
  unfold word
  split_ifs with h
  · rw [Except.ok.injEq, ← UInt32.toNat_inj, UInt32.toNat_ofNat_of_lt' h]
  · refine iff_of_false (by simp) fun heq => h ?_
    rw [heq]
    exact m.toNat_lt

/-- A length is read from a numeral of it. -/
theorem length_eq_ok_iff {n : UInt32} : length raw = .ok n ↔ 0 < n ∧ Writes raw n.toNat := by
  have hn := n.toNat_lt
  unfold length
  simp only [Except.bind_eq_ok_iff, numeral_eq_ok_iff, Except.ite_throw_eq_ok_iff, word_eq_ok_iff,
    UInt32.lt_iff_toNat_lt, UInt32.toNat_zero]
  constructor
  · rintro ⟨k, ⟨hk, -, -⟩, hpos, hword⟩
    obtain rfl : k = n.toNat := by omega
    exact ⟨by omega, hk⟩
  · rintro ⟨hpos, h⟩
    exact ⟨n.toNat, ⟨h, by omega, by omega⟩, by omega, Int.toNat_natCast _⟩

/-- A decimal type is read from two numerals with a comma between them. -/
theorem decimalType_eq_ok_iff {d : DecimalType} :
    decimalType raw = .ok d ↔ 0 < d.precision ∧
      ∃ first second, (Text.splitAll ',' raw).map Text.trim = [first, second] ∧
        Writes first d.precision.toNat ∧ Writes second d.scale.toNat := by
  have hprecision := d.precision.toNat_lt
  have hscale := d.scale.toNat_lt
  unfold decimalType
  split
  · next x y hpieces =>
    simp only [Except.bind_eq_ok_iff, numeral_eq_ok_iff, Except.ite_throw_eq_ok_iff,
      word_eq_ok_iff, UInt32.lt_iff_toNat_lt, UInt32.toNat_zero]
    constructor
    · rintro ⟨p, ⟨hp, -, -⟩, s, ⟨hs, -, -⟩, hpos, hnonneg, m, hm, n, hn, hd⟩
      obtain rfl := Except.ok.inj hd
      obtain rfl : p = m.toNat := by omega
      obtain rfl : s = n.toNat := by omega
      exact ⟨show 0 < m.toNat by omega, x, y, hpieces, hp, hs⟩
    · rintro ⟨hpos, first, second, heq, hp, hs⟩
      obtain ⟨rfl, rfl⟩ : x = first ∧ y = second := by simpa using hpieces.symm.trans heq
      exact ⟨d.precision.toNat, ⟨hp, by omega, by omega⟩, d.scale.toNat,
        ⟨hs, by omega, by omega⟩, by omega, by omega, d.precision, rfl, d.scale, rfl, rfl⟩
  · next hpieces =>
    refine iff_of_false (by simp) ?_
    rintro ⟨-, first, second, heq, -⟩
    exact hpieces first second heq

end Descriptor

end ColumnCast
