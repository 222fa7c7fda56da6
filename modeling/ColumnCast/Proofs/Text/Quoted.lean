import ColumnCast.Proofs.Text.Hex
import ColumnCast.Text.Quoted
import Mathlib.Data.List.Forall2

/-!
# Reading quoted text

`Shows` lists the forms that a character may take between quotation marks, and `Quotes` the texts
that are made of them. Which characters stand for themselves and which are given by their code
point is left open, so nothing here depends on the characters that count as printable.

No two forms can be confused: `firstShown?` reads the first character back, and from that a quoted
text tells what it quotes and where it ends (`Quotes.append_inj`). What `quoteWith` writes is such
a text (`quotes_quoteWith`).
-/

namespace ColumnCast

namespace Text

variable {marks cs : List Char} {c : Char}

/-- The characters with an escape letter of their own, with their letters. -/
def escapeLetters : List (Char × Char) :=
  [('\x00', '0'), ('\t', 't'), ('\n', 'n'), ('\r', 'r')]

/-- The forms that **show** a character in quoted text. A backslash and the quotation marks take a
backslash; any other character may stand for itself or be given by its code point, or else by its
escape letter. -/
inductive Shows (marks : List Char) (c : Char) : List Char → Prop
  | marked (h : c = '\\' ∨ c ∈ marks) : Shows marks c ['\\', c]
  | letter {x : Char} (h : (c, x) ∈ escapeLetters) : Shows marks c ['\\', x]
  | plain (h : ¬(c = '\\' ∨ c ∈ marks)) : Shows marks c [c]
  | codePoint (h : ¬(c = '\\' ∨ c ∈ marks)) : Shows marks c (codePointEscape c)

/-- A text between double quotes that **quotes** another one, character by character. -/
def Quotes (marks cs text : List Char) : Prop :=
  ∃ parts, List.Forall₂ (Shows marks) cs parts ∧
    text = quoteMark :: (parts.flatten ++ [quoteMark])

/-- Behind a backslash, none of the quotation marks is taken for the letter of an escape. -/
def Separate (marks : List Char) : Prop :=
  ∀ mark ∈ marks, mark ∉ 'u' :: escapeLetters.map Prod.snd

theorem separate_quoteMark : Separate [quoteMark] :=
  List.forall_mem_singleton.mpr (by decide)

theorem Quotes.head?_eq {text : List Char} (h : Quotes marks cs text) :
    text.head? = some quoteMark := by
  obtain ⟨parts, -, rfl⟩ := h
  rfl

/-! ### Reading one character -/

/-- The character that is meant by this one behind a backslash. -/
def ofEscapeLetter (x : Char) : Char :=
  ((escapeLetters.find? fun entry => entry.2 = x).map Prod.fst).getD x

/-- The first character that is shown, and the text behind its form. A quotation mark without a
backslash shows none. -/
def firstShown? (marks : List Char) : List Char → Option (Char × List Char)
  | '\\' :: 'u' :: '\x7b' :: rest =>
    let (digits, behind) := rest.span (· ≠ '\x7d')
    (Hex.number? digits).map fun n => (Char.ofNat n, behind.tail)
  | '\\' :: x :: rest => some (ofEscapeLetter x, rest)
  | c :: rest => if c ∈ marks then none else some (c, rest)
  | [] => none

private theorem ofEscapeLetter_of_mem {x : Char} (h : (c, x) ∈ escapeLetters) :
    ofEscapeLetter x = c := by
  have htable : ∀ entry ∈ escapeLetters, ofEscapeLetter entry.2 = entry.1 := by decide
  exact htable (c, x) h

private theorem ofEscapeLetter_of_notMem (h : c ∉ escapeLetters.map Prod.snd) :
    ofEscapeLetter c = c := by
  have hnone : escapeLetters.find? (fun entry => entry.2 = c) = none := by
    rw [List.find?_eq_none]
    intro entry hentry hc
    exact h (List.mem_map.mpr ⟨entry, hentry, of_decide_eq_true hc⟩)
  rw [ofEscapeLetter, hnone]
  rfl

private theorem firstShown?_backslash {x : Char} (rest : List Char) (h : x ≠ 'u') :
    firstShown? marks ('\\' :: x :: rest) = some (ofEscapeLetter x, rest) := by
  rw [firstShown?]
  rintro tail rfl
  exact absurd rfl h

private theorem firstShown?_plain (rest : List Char) (h : c ≠ '\\') :
    firstShown? marks (c :: rest) = if c ∈ marks then none else some (c, rest) := by
  rw [firstShown?]
  · rintro tail rfl
    exact absurd rfl h
  · rintro x tail rfl
    exact absurd rfl h

/-- The braces set the digits of a code point apart from what follows. -/
private theorem firstShown?_codePointEscape (c : Char) (rest : List Char) :
    firstShown? marks (codePointEscape c ++ rest) = some (c, rest) := by
  set digits := Nat.toDigits 16 c.toNat with hdigits
  have hnumber : Hex.number? digits = some c.toNat := Hex.number?_toDigits c.toNat
  have hspan : (digits ++ '\x7d' :: rest).span (· ≠ '\x7d') = (digits, '\x7d' :: rest) := by
    refine span_eq_iff.mpr ⟨rfl, fun x hx => decide_eq_true ?_, by simp⟩
    rintro rfl
    obtain ⟨d, hd⟩ := Hex.isDigit_of_number? hnumber _ hx
    have hbrace := hd.toNat_bounds
    simp only [Char.reduceToNat] at hbrace
    omega
  have hform : codePointEscape c ++ rest = '\\' :: 'u' :: '\x7b' :: (digits ++ '\x7d' :: rest) := by
    simp [codePointEscape, hdigits]
  rw [hform, firstShown?, hspan]
  simp only [hnumber, Option.map_some, Char.ofNat_toNat, List.tail_cons]

/-- **A character is read back** from each of its forms, whatever follows. -/
theorem Shows.firstShown?_append {shown : List Char} (hmarks : Separate marks)
    (h : Shows marks c shown) (rest : List Char) :
    firstShown? marks (shown ++ rest) = some (c, rest) := by
  cases h with
  | marked h =>
    have hc : c ∉ 'u' :: escapeLetters.map Prod.snd := by
      rcases h with rfl | h
      · decide
      · exact hmarks c h
    rw [List.mem_cons, not_or] at hc
    rw [List.cons_append, List.cons_append, List.nil_append, firstShown?_backslash rest hc.1,
      ofEscapeLetter_of_notMem hc.2]
  | @letter x h =>
    have hx : x ≠ 'u' := by
      have hletters : ∀ entry ∈ escapeLetters, entry.2 ≠ 'u' := by decide
      exact hletters (c, x) h
    rw [List.cons_append, List.cons_append, List.nil_append, firstShown?_backslash rest hx,
      ofEscapeLetter_of_mem h]
  | plain h =>
    rw [not_or] at h
    rw [List.cons_append, List.nil_append, firstShown?_plain rest h.1, if_neg h.2]
  | codePoint h => exact firstShown?_codePointEscape c rest

/-! ### Reading a text -/

/-- A closing quotation mark is not the beginning of a shown character, so characters are read
until it comes and no further. -/
private theorem flatten_append_inj {cs' : List Char} {parts parts' : List (List Char)}
    {rest rest' : List Char} (hmarks : Separate marks) (hquote : quoteMark ∈ marks)
    (h : List.Forall₂ (Shows marks) cs parts) (h' : List.Forall₂ (Shows marks) cs' parts')
    (heq : parts.flatten ++ quoteMark :: rest = parts'.flatten ++ quoteMark :: rest') :
    cs = cs' ∧ rest = rest' := by
  have hend (behind : List Char) : firstShown? marks (quoteMark :: behind) = none := by
    rw [firstShown?_plain behind (by decide), if_pos hquote]
  have hread {x : Char} {shown : List Char} {more : List (List Char)} (behind : List Char)
      (hx : Shows marks x shown) :
      firstShown? marks ((shown :: more).flatten ++ behind) = some (x, more.flatten ++ behind) := by
    rw [List.flatten_cons, List.append_assoc]
    exact hx.firstShown?_append hmarks _
  -- along the first text; its first character decides which form the other one begins with
  induction h generalizing cs' parts' with
  | nil =>
    have hfirst := congrArg (firstShown? marks) heq
    cases h' with
    | nil => exact ⟨rfl, (List.cons.inj heq).2⟩
    | cons hx' _ =>
      rw [hread _ hx'] at hfirst
      exact absurd ((hend rest).symm.trans hfirst) (by simp)
  | cons hx _ ih =>
    have hfirst := congrArg (firstShown? marks) heq
    rw [hread _ hx] at hfirst
    cases h' with
    | nil => exact absurd (hfirst.trans (hend rest')) (by simp)
    | cons hx' htail' =>
      rw [hread _ hx', Option.some.injEq, Prod.mk.injEq] at hfirst
      obtain ⟨rfl, htail⟩ := hfirst
      obtain ⟨rfl, hrest⟩ := ih htail' htail
      exact ⟨rfl, hrest⟩

/-- **A quoted text is uniquely readable**: it tells which text it quotes and where it ends. -/
theorem Quotes.append_inj {cs' text text' rest rest' : List Char} (hmarks : Separate marks)
    (hquote : quoteMark ∈ marks) (h : Quotes marks cs text) (h' : Quotes marks cs' text')
    (heq : text ++ rest = text' ++ rest') : cs = cs' ∧ rest = rest' := by
  obtain ⟨parts, hparts, rfl⟩ := h
  obtain ⟨parts', hparts', rfl⟩ := h'
  simp only [List.cons_append, List.append_assoc, List.nil_append, List.cons.injEq,
    true_and] at heq
  exact flatten_append_inj hmarks hquote hparts hparts' heq

/-! ### Writing -/

private theorem shows_showChar (marks : List Char) (c : Char) :
    Shows marks c (showChar marks c) := by
  unfold showChar
  split_ifs with hnul htab hline hreturn hmarked
  · exact .letter (by subst hnul; decide)
  · exact .letter (by subst htab; decide)
  · exact .letter (by subst hline; decide)
  · exact .letter (by subst hreturn; decide)
  · exact .marked hmarked
  · exact .codePoint hmarked
  · exact .plain hmarked
  · exact .codePoint hmarked

theorem quotes_quoteWith (marks cs : List Char) : Quotes marks cs (quoteWith marks cs) := by
  refine ⟨cs.map (showChar marks), ?_, by rw [quoteWith, List.flatMap_def]⟩
  rw [List.forall₂_map_right_iff, List.forall₂_same]
  exact fun c _ => shows_showChar marks c

end Text

end ColumnCast
