import ColumnCast.Text.Basic
import Mathlib.Data.List.DropRight
import Mathlib.Data.List.Forall2
import Mathlib.Data.List.TakeDrop

/-!
# Blanks, cuts and letter case

What trimming leaves is what stands between blanks (`betweenBlanks_iff`). The lemmas
`span_eq_iff`, `splitFirst?_eq_some_iff` and `splitAll_eq_pair_iff` say where a text is cut.
Upper case changes letters only, so the part of a text that has none is found again in the text
in upper case (`upper_eq_append_iff`).
-/

namespace ColumnCast

namespace Text

variable {cs inner before after : List Char} {mark : Char}

/-! ### Blanks -/

/-- A text of blanks alone. -/
def AllBlank (cs : List Char) : Prop :=
  ∀ c ∈ cs, isBlank c = true

/-- A text that has the property apart from the blanks around it. -/
def BetweenBlanks (P : List Char → Prop) (cs : List Char) : Prop :=
  ∃ before inner after, AllBlank before ∧ P inner ∧ AllBlank after ∧
    cs = before ++ inner ++ after

/-- A text that neither begins nor ends with a blank. -/
structure Trimmed (cs : List Char) : Prop where
  head : ∀ c ∈ cs.head?, isBlank c = false
  last : ∀ c ∈ cs.getLast?, isBlank c = false

/-- Blanks come before the visible ASCII characters or after all of them. -/
theorem toNat_of_isBlank {c : Char} (h : isBlank c = true) : c.toNat ≤ 32 ∨ 133 ≤ c.toNat := by
  simp only [isBlank, blankRanges, List.any_cons, List.any_nil, Bool.or_eq_true,
    Bool.and_eq_true, decide_eq_true_eq, Bool.or_false] at h
  omega

theorem isBlank_of_toNat {c : Char} (hlow : 32 < c.toNat) (hhigh : c.toNat < 133) :
    isBlank c = false := by
  rw [Bool.eq_false_iff]
  intro h
  have hnat := toNat_of_isBlank h
  omega

theorem AllBlank.notMem (h : AllBlank cs) (hmark : isBlank mark = false) : mark ∉ cs :=
  fun hmem => by rw [h mark hmem] at hmark; cases hmark

theorem trimmed_of_forall (h : ∀ c ∈ cs, isBlank c = false) : Trimmed cs where
  head c hc := h c (List.mem_of_mem_head? hc)
  last c hc := h c (List.mem_of_mem_getLast? hc)

private theorem trimRight_eq_rdropWhile (cs : List Char) : trimRight cs = cs.rdropWhile isBlank :=
  rfl

theorem trimLeft_eq_nil_iff : trimLeft cs = [] ↔ AllBlank cs :=
  List.dropWhile_eq_nil_iff

private theorem trimLeft_append (h : AllBlank before) : trimLeft (before ++ cs) = trimLeft cs :=
  List.dropWhile_append_of_pos h

private theorem trimRight_append (h : AllBlank after) : trimRight (cs ++ after) = trimRight cs := by
  have hreverse : AllBlank after.reverse := fun c hc => h c (List.mem_reverse.mp hc)
  unfold trimRight
  rw [List.reverse_append, List.dropWhile_append_of_pos hreverse]

private theorem trim_append_left (h : AllBlank before) : trim (before ++ cs) = trim cs := by
  rw [trim, trim, trimLeft_append h]

private theorem trim_append_right (h : AllBlank after) : trim (cs ++ after) = trim cs := by
  have hsplit : trimLeft (cs ++ after) =
      if (trimLeft cs).isEmpty then trimLeft after else trimLeft cs ++ after :=
    List.dropWhile_append
  rw [trim, trim, hsplit]
  -- if nothing but blanks comes before, trimming at the left already reaches `after`
  split_ifs with hempty
  · rw [List.isEmpty_iff.mp hempty, trimLeft_eq_nil_iff.mpr h]
  · exact trimRight_append h

private theorem trimLeft_of_head (h : ∀ c ∈ cs.head?, isBlank c = false) : trimLeft cs = cs := by
  cases cs with
  | nil => rfl
  | cons c rest => exact List.dropWhile_cons_of_neg (by simp [h c rfl])

private theorem trimRight_of_last (h : ∀ c ∈ cs.getLast?, isBlank c = false) :
    trimRight cs = cs := by
  have hreverse : trimLeft cs.reverse = cs.reverse :=
    trimLeft_of_head (by rwa [List.head?_reverse])
  exact (congrArg List.reverse hreverse).trans cs.reverse_reverse

theorem Trimmed.trim_eq (h : Trimmed cs) : trim cs = cs := by
  rw [trim, trimLeft_of_head h.head, trimRight_of_last h.last]

theorem Trimmed.eq_nil_of_append (h : Trimmed (cs ++ after)) (hafter : AllBlank after) :
    after = [] := by
  by_contra hne
  have hlast : (cs ++ after).getLast? = some (after.getLast hne) := by
    rw [List.getLast?_append_of_ne_nil _ hne, List.getLast?_eq_some_getLast hne]
  have hblank := hafter _ (List.getLast_mem hne)
  rw [h.last _ hlast] at hblank
  cases hblank

private theorem exists_eq_append_trim (cs : List Char) :
    ∃ before after, AllBlank before ∧ AllBlank after ∧ cs = before ++ trim cs ++ after := by
  refine ⟨cs.takeWhile isBlank, (trimLeft cs).rtakeWhile isBlank,
    fun c hc => List.mem_takeWhile_imp hc, fun c hc => List.mem_rtakeWhile_imp hc, ?_⟩
  rw [trim, trimRight_eq_rdropWhile, List.append_assoc, List.rdropWhile_append_rtakeWhile]
  exact List.takeWhile_append_dropWhile.symm

theorem trimmed_trim (cs : List Char) : Trimmed (trim cs) where
  head c hc := by
    obtain ⟨rest, hrest⟩ : trim cs <+: trimLeft cs :=
      List.rdropWhile_prefix isBlank (trimLeft cs)
    have hhead : (cs.dropWhile isBlank).head? = some c := by
      rw [← trimLeft, ← hrest, List.head?_append, hc]
      rfl
    have hnot := List.head?_dropWhile_not isBlank cs
    rw [hhead] at hnot
    exact hnot
  last c hc := by
    have hne : trim cs ≠ [] := by
      intro hnil
      rw [hnil] at hc
      cases hc
    have hlast := List.rdropWhile_last_not isBlank (trimLeft cs) hne
    rw [List.getLast?_eq_some_getLast hne] at hc
    rw [← Option.some.inj hc]
    exact Bool.eq_false_iff.mpr hlast

theorem trim_eq_nil_iff : trim cs = [] ↔ AllBlank cs := by
  constructor
  · intro hnil
    obtain ⟨before, after, hbefore, hafter, hcs⟩ := exists_eq_append_trim cs
    rw [hnil, List.append_nil] at hcs
    rw [hcs]
    exact List.forall_mem_append.mpr ⟨hbefore, hafter⟩
  · intro h
    rw [← List.append_nil cs, trim_append_left h]
    rfl

theorem trim_ne_nil_of_mem (hmem : mark ∈ cs) (hmark : isBlank mark = false) : trim cs ≠ [] :=
  fun hnil => (trim_eq_nil_iff.mp hnil).notMem hmark hmem

/-- **Trimming finds what stands between blanks.** -/
theorem betweenBlanks_iff {P : List Char → Prop} (hP : ∀ inner, P inner → Trimmed inner) :
    BetweenBlanks P cs ↔ P (trim cs) := by
  constructor
  · rintro ⟨before, inner, after, hbefore, hinner, hafter, rfl⟩
    rwa [trim_append_right hafter, trim_append_left hbefore, (hP inner hinner).trim_eq]
  · intro h
    obtain ⟨before, after, hbefore, hafter, hcs⟩ := exists_eq_append_trim cs
    exact ⟨before, trim cs, after, hbefore, h, hafter, hcs⟩

/-- There need not be blanks around a text. -/
theorem BetweenBlanks.intro {P : List Char → Prop} (h : P cs) : BetweenBlanks P cs :=
  ⟨[], cs, [], nofun, h, nofun, by simp⟩

/-! ### Cuts -/

theorem trimLeft_eq_cons_iff {rest : List Char} (hmark : isBlank mark = false) :
    trimLeft cs = mark :: rest ↔ ∃ gap, AllBlank gap ∧ cs = gap ++ mark :: rest := by
  constructor
  · intro h
    refine ⟨cs.takeWhile isBlank, fun c hc => List.mem_takeWhile_imp hc, ?_⟩
    rw [← h]
    exact List.takeWhile_append_dropWhile.symm
  · rintro ⟨gap, hgap, rfl⟩
    rw [trimLeft_append hgap]
    exact trimLeft_of_head (by simp [hmark])

/-- A span is the longest beginning that has the property. -/
theorem span_eq_iff {p : Char → Bool} {a b : List Char} :
    cs.span p = (a, b) ↔ cs = a ++ b ∧ (∀ c ∈ a, p c = true) ∧ ∀ c ∈ b.head?, p c = false := by
  rw [List.span_eq_takeWhile_dropWhile, Prod.mk.injEq]
  constructor
  · rintro ⟨rfl, rfl⟩
    refine ⟨List.takeWhile_append_dropWhile.symm, fun c hc => List.mem_takeWhile_imp hc,
      fun c hc => ?_⟩
    have hnot := List.head?_dropWhile_not p cs
    rw [hc] at hnot
    simpa using hnot
  · rintro ⟨rfl, ha, hb⟩
    have hdrop : b.dropWhile p = b := by
      cases b with
      | nil => rfl
      | cons c rest => exact List.dropWhile_cons_of_neg (by simp [hb c rfl])
    have htake : b.takeWhile p = [] := by
      cases b with
      | nil => rfl
      | cons c rest => exact List.takeWhile_cons_of_neg (by simp [hb c rfl])
    rw [List.takeWhile_append_of_pos ha, List.dropWhile_append_of_pos ha, hdrop, htake,
      List.append_nil]
    exact ⟨rfl, rfl⟩

/-- The first cut is where the mark occurs for the first time. -/
theorem splitFirst?_eq_some_iff {left right : List Char} :
    splitFirst? mark cs = some (left, right) ↔ cs = left ++ mark :: right ∧ mark ∉ left := by
  induction cs generalizing left with
  | nil => simp [splitFirst?]
  | cons c rest ih =>
    rw [splitFirst?]
    split_ifs with hc
    · subst hc
      cases left with
      | nil => simp [eq_comm]
      | cons d left =>
        refine iff_of_false (by simp) ?_
        rintro ⟨hcs, hnot⟩
        exact hnot ((List.cons.inj hcs).1 ▸ List.mem_cons_self)
    · rw [Option.map_eq_some_iff]
      constructor
      · rintro ⟨⟨left', right'⟩, hsplit, heq⟩
        obtain ⟨rfl, rfl⟩ := Prod.mk.inj heq
        obtain ⟨rfl, hnot⟩ := ih.mp hsplit
        exact ⟨rfl, by simp [hnot, Ne.symm hc]⟩
      · rintro ⟨hcs, hnot⟩
        cases left with
        | nil => exact absurd (List.cons.inj hcs).1 hc
        | cons d left =>
          obtain ⟨rfl, rfl⟩ := List.cons.inj hcs
          exact ⟨(left, right), ih.mpr ⟨rfl, fun h => hnot (List.mem_cons_of_mem _ h)⟩, rfl⟩

theorem splitFirst?_eq_none_iff : splitFirst? mark cs = none ↔ mark ∉ cs := by
  constructor
  · intro h hmem
    obtain ⟨left, right, hcs, hleft⟩ := List.eq_append_cons_of_mem hmem
    rw [splitFirst?_eq_some_iff.mpr ⟨hcs, hleft⟩] at h
    cases h
  · intro h
    refine Option.eq_none_iff_forall_ne_some.mpr fun ⟨left, right⟩ heq => h ?_
    rw [(splitFirst?_eq_some_iff.mp heq).1]
    exact List.mem_append_cons_self

private theorem splitAll_ne_nil (mark : Char) (cs : List Char) : splitAll mark cs ≠ [] := by
  cases cs with
  | nil => simp [splitAll]
  | cons c rest =>
    rw [splitAll]
    split
    · simp
    · split_ifs <;> simp

private theorem splitAll_cons_of_ne {c : Char} {rest piece : List Char} {pieces : List (List Char)}
    (hc : c ≠ mark) (h : splitAll mark rest = piece :: pieces) :
    splitAll mark (c :: rest) = (c :: piece) :: pieces := by
  rw [splitAll, h]
  exact if_neg hc

private theorem splitAll_cons_mark (mark : Char) (rest : List Char) :
    splitAll mark (mark :: rest) = [] :: splitAll mark rest := by
  obtain ⟨piece, pieces, h⟩ := List.exists_cons_of_ne_nil (splitAll_ne_nil mark rest)
  rw [splitAll, h]
  exact if_pos rfl

private theorem splitAll_of_notMem (h : mark ∉ cs) : splitAll mark cs = [cs] := by
  induction cs with
  | nil => rfl
  | cons c rest ih =>
    rw [List.mem_cons, not_or] at h
    exact splitAll_cons_of_ne (Ne.symm h.1) (ih h.2)

private theorem splitAll_append_mark {left : List Char} (right : List Char) (h : mark ∉ left) :
    splitAll mark (left ++ mark :: right) = left :: splitAll mark right := by
  induction left with
  | nil => exact splitAll_cons_mark mark right
  | cons c left ih =>
    rw [List.mem_cons, not_or] at h
    exact splitAll_cons_of_ne (Ne.symm h.1) (ih h.2)

private theorem splitAll_eq_singleton_iff :
    splitAll mark cs = [inner] ↔ cs = inner ∧ mark ∉ inner := by
  constructor
  · intro h
    by_cases hmem : mark ∈ cs
    · obtain ⟨left, right, rfl, hleft⟩ := List.eq_append_cons_of_mem hmem
      rw [splitAll_append_mark right hleft] at h
      exact absurd (List.cons.inj h).2 (splitAll_ne_nil mark right)
    · rw [splitAll_of_notMem hmem] at h
      obtain rfl := List.singleton_inj.mp h
      exact ⟨rfl, hmem⟩
  · rintro ⟨rfl, h⟩
    exact splitAll_of_notMem h

theorem splitAll_eq_pair_iff {left right : List Char} :
    splitAll mark cs = [left, right] ↔
      cs = left ++ mark :: right ∧ mark ∉ left ∧ mark ∉ right := by
  constructor
  · intro h
    by_cases hmem : mark ∈ cs
    · obtain ⟨left', right', rfl, hleft⟩ := List.eq_append_cons_of_mem hmem
      rw [splitAll_append_mark right' hleft, List.cons.injEq, splitAll_eq_singleton_iff] at h
      obtain ⟨rfl, rfl, hright⟩ := h
      exact ⟨rfl, hleft, hright⟩
    · rw [splitAll_of_notMem hmem] at h
      cases h
  · rintro ⟨rfl, hleft, hright⟩
    rw [splitAll_append_mark right hleft, splitAll_of_notMem hright]

theorem append_mark_inj {left right left' right' : List Char}
    (h : left ++ mark :: right = left' ++ mark :: right') (hleft : mark ∉ left)
    (hleft' : mark ∉ left') : left = left' ∧ right = right' := by
  have hfirst : splitFirst? mark (left ++ mark :: right) = some (left, right) :=
    splitFirst?_eq_some_iff.mpr ⟨rfl, hleft⟩
  rw [h, splitFirst?_eq_some_iff.mpr ⟨rfl, hleft'⟩] at hfirst
  obtain ⟨rfl, rfl⟩ := Prod.mk.inj (Option.some.inj hfirst)
  exact ⟨rfl, rfl⟩

/-- Trimming a text before it is cut in two does not change the trimmed halves. -/
theorem map_trim_splitAll_trim_eq_pair_iff {x y : List Char} (hmark : isBlank mark = false) :
    (splitAll mark (trim cs)).map trim = [x, y] ↔
      ∃ left right, cs = left ++ mark :: right ∧ mark ∉ left ∧ mark ∉ right ∧
        trim left = x ∧ trim right = y := by
  obtain ⟨before, after, hbefore, hafter, hcs⟩ := exists_eq_append_trim cs
  -- a cut of what trimming leaves is a cut of the whole text
  have hcut {left right : List Char} (h : trim cs = left ++ mark :: right) :
      cs = (before ++ left) ++ mark :: (right ++ after) := by
    rw [hcs, h]
    simp
  constructor
  · intro h
    obtain ⟨left, pieces, hsplit, rfl, hpieces⟩ := List.map_eq_cons_iff.mp h
    obtain ⟨right, rest, rfl, rfl, hrest⟩ := List.map_eq_cons_iff.mp hpieces
    obtain rfl := List.map_eq_nil_iff.mp hrest
    obtain ⟨htrim, hnotleft, hnotright⟩ := splitAll_eq_pair_iff.mp hsplit
    exact ⟨before ++ left, right ++ after, hcut htrim, by simp [hbefore.notMem hmark, hnotleft],
      by simp [hafter.notMem hmark, hnotright], trim_append_left hbefore, trim_append_right hafter⟩
  · rintro ⟨left', right', heq, hnotleft, hnotright, rfl, rfl⟩
    have hmem : mark ∈ trim cs := by
      have hmem : mark ∈ before ++ trim cs ++ after := hcs ▸ heq ▸ List.mem_append_cons_self
      simpa [hbefore.notMem hmark, hafter.notMem hmark] using hmem
    obtain ⟨left, right, htrim, hnot⟩ := List.eq_append_cons_of_mem hmem
    obtain ⟨rfl, rfl⟩ := append_mark_inj (heq.symm.trans (hcut htrim)) hnotleft
      (by simp [hbefore.notMem hmark, hnot])
    have hnotright' : mark ∉ right := fun h => hnotright (List.mem_append_left after h)
    rw [htrim, splitAll_append_mark right hnot, splitAll_of_notMem hnotright']
    simp only [List.map_cons, List.map_nil, trim_append_left hbefore, trim_append_right hafter]

/-! ### Letter case -/

/-- Upper-case letters by their code points. -/
theorem isUpper_iff_toNat {c : Char} : c.isUpper = true ↔ 65 ≤ c.toNat ∧ c.toNat ≤ 90 :=
  decide_eq_true_iff.trans (and_congr UInt32.le_iff_toNat_le UInt32.le_iff_toNat_le)

/-- Lower-case letters by their code points. -/
private theorem isLower_iff_toNat {c : Char} : c.isLower = true ↔ 97 ≤ c.toNat ∧ c.toNat ≤ 122 :=
  (Bool.and_eq_true_iff).trans (and_congr (decide_eq_true_iff.trans UInt32.le_iff_toNat_le)
    (decide_eq_true_iff.trans UInt32.le_iff_toNat_le))

/-- Letters by their code points. -/
theorem isAlpha_iff_toNat {c : Char} :
    c.isAlpha = true ↔ (65 ≤ c.toNat ∧ c.toNat ≤ 90) ∨ 97 ≤ c.toNat ∧ c.toNat ≤ 122 :=
  (Bool.or_eq_true_iff).trans (or_congr isUpper_iff_toNat isLower_iff_toNat)

theorem isAlpha_of_isBlank {c : Char} (h : isBlank c = true) : c.isAlpha = false := by
  have hnat := toNat_of_isBlank h
  rw [Bool.eq_false_iff, ne_eq, isAlpha_iff_toNat]
  omega

/-- Upper case gives a character that is no letter only for that character. -/
theorem toUpper_eq_iff {c d : Char} (hd : d.isAlpha = false) : c.toUpper = d ↔ c = d := by
  unfold Char.toUpper
  split
  · next hlower =>
    have hlower : 97 ≤ c.toNat ∧ c.toNat ≤ 122 := by
      simpa [UInt32.le_iff_toNat_le] using hlower
    rw [Bool.eq_false_iff, ne_eq, isAlpha_iff_toNat] at hd
    constructor
    · rintro rfl
      exact absurd (.inl (by simp [UInt32.toNat_add]; omega)) hd
    · rintro rfl
      exact absurd (.inr hlower) hd
  · rfl

/-- Lower case gives a lower-case letter for this letter in either case. -/
private theorem toLower_eq_iff {c d : Char} (hd : d.isLower = true) :
    c.toLower = d ↔ c = d ∨ c = d.toUpper := by
  have hlower : 97 ≤ d.toNat ∧ d.toNat ≤ 122 := isLower_iff_toNat.mp hd
  have hupper : d.toUpper.toNat = d.toNat - 32 := by
    have hval : d.val ≥ 'a'.val ∧ d.val ≤ 'z'.val := by
      simpa [UInt32.le_iff_toNat_le] using hlower
    unfold Char.toUpper
    rw [dif_pos hval]
    simp [UInt32.toNat_add]
    omega
  rw [← Char.toNat_inj, ← Char.toNat_inj, ← Char.toNat_inj (d := d.toUpper), hupper]
  unfold Char.toLower
  split
  · next h =>
    have h : 65 ≤ c.toNat ∧ c.toNat ≤ 90 := by simpa [UInt32.le_iff_toNat_le] using h
    simp [UInt32.toNat_add]
    omega
  · next h =>
    have h : ¬(65 ≤ c.toNat ∧ c.toNat ≤ 90) := by simpa [UInt32.le_iff_toNat_le] using h
    omega

/-- A text in lower case is a word of lower-case letters when each character is a letter of the
word in either case. -/
theorem lower_eq_iff {word : List Char} (h : ∀ d ∈ word, d.isLower = true) :
    lower cs = word ↔ List.Forall₂ (fun c d => c = d ∨ c = d.toUpper) cs word := by
  induction word generalizing cs with
  | nil => rw [List.forall₂_nil_right_iff]; exact List.map_eq_nil_iff
  | cons d word ih =>
    rw [List.forall_mem_cons] at h
    cases cs with
    | nil => simp [lower]
    | cons c cs =>
      rw [List.forall₂_cons, ← ih h.2, ← toLower_eq_iff h.1]
      exact List.cons_eq_cons

/-- **Letter case is confined to letters.** A part without letters of a text in upper case is
that part of the text. -/
theorem upper_eq_append_iff {name tail : List Char} (h : ∀ c ∈ tail, c.isAlpha = false) :
    upper cs = name ++ tail ↔ ∃ word, upper word = name ∧ cs = word ++ tail := by
  have htail (rest : List Char) : rest.map Char.toUpper = tail ↔ rest = tail := by
    induction tail generalizing rest with
    | nil => exact List.map_eq_nil_iff
    | cons d tail ih =>
      rw [List.forall_mem_cons] at h
      cases rest with
      | nil => simp
      | cons c rest => simp [ih h.2, toUpper_eq_iff h.1]
  unfold upper
  simp only [List.map_eq_append_iff, htail]
  constructor
  · rintro ⟨word, rest, rfl, hword, rfl⟩
    exact ⟨word, hword, rfl⟩
  · rintro ⟨word, hword, rfl⟩
    exact ⟨word, tail, rfl, hword, rfl⟩

end Text

end ColumnCast
