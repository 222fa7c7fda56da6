import ColumnCast.Proofs.Text.Quoted
import ColumnCast.Proofs.Text.Utf8
import ColumnCast.Value.Display

/-!
# Byte sequences are shown without loss

`Value.Shown` says how a byte sequence is shown: as quoted text if it encodes a text without control
characters, whichever characters of the text are escaped, and in hexadecimal if it does not. What is
shown belongs to one byte sequence alone (`Value.Shown.unique`), so different byte values never
print the same (`Value.display_bytes_injective`).
-/

namespace ColumnCast

namespace Value

variable {b b' : Bytes} {cs text : List Char}

/-- The bytes are those of a text that can be shown in quotation marks. -/
def Legible (b : Bytes) (cs : List Char) : Prop :=
  Utf8.encode cs = b ∧ ∀ c ∈ cs, Text.isControl c = false

/-- The texts by which a byte sequence is **shown**. -/
inductive Shown (b : Bytes) : List Char → Prop
  | quoted {cs text : List Char} (hlegible : Legible b cs)
      (h : Text.Quotes [Text.quoteMark] cs text) : Shown b text
  | hexadecimal (hlegible : ∀ cs, ¬Legible b cs) : Shown b ('0' :: 'x' :: Hex.encode b)

private theorem all_not_isControl_iff :
    (cs.all fun c => !Text.isControl c) = true ↔ ∀ c ∈ cs, Text.isControl c = false := by
  simp only [List.all_eq_true, Bool.not_eq_true']

private theorem shown_displayBytes (b : Bytes) : Shown b (displayBytes b) := by
  unfold displayBytes
  split
  · next cs hdecode =>
    split_ifs with hall
    · exact .quoted ⟨Utf8.decode?_eq_some_iff.mp hdecode, all_not_isControl_iff.mp hall⟩
        (Text.quotes_quoteWith _ cs)
    · refine .hexadecimal fun ds hlegible => hall ?_
      -- the bytes encode no other text than the one with a control character
      have hsame : some cs = some ds := by
        rw [← hdecode, Utf8.decode?_eq_some_iff.mpr hlegible.1]
      obtain rfl := Option.some.inj hsame
      exact all_not_isControl_iff.mpr hlegible.2
  · next hdecode =>
    refine .hexadecimal fun cs hlegible => ?_
    rw [Utf8.decode?_eq_some_iff.mpr hlegible.1] at hdecode
    cases hdecode

private theorem shown_display (b : Bytes) : Shown b (display (.bytes b)).toList := by
  rw [display, String.toList_ofList]
  exact shown_displayBytes b

/-- **What is shown belongs to one byte sequence.** -/
theorem Shown.unique (h : Shown b text) (h' : Shown b' text) : b = b' := by
  -- one of the two texts gets a name of its own, so that both can be taken apart by their form
  generalize htext : text = text' at h'
  cases h with
  | quoted hlegible hquotes =>
    cases h' with
    | quoted hlegible' hquotes' =>
      have heq : text ++ [] = text' ++ [] := by rw [htext]
      obtain ⟨rfl, -⟩ :=
        hquotes.append_inj Text.separate_quoteMark (List.mem_singleton_self _) hquotes' heq
      exact hlegible.1.symm.trans hlegible'.1
    | hexadecimal =>
      subst htext
      exact absurd (Option.some.inj hquotes.head?_eq) (by decide)
  | hexadecimal =>
    cases h' with
    | quoted _ hquotes' =>
      subst htext
      exact absurd (Option.some.inj hquotes'.head?_eq) (by decide)
    | hexadecimal => exact Hex.encode_injective (List.cons.inj (List.cons.inj htext).2).2

/-- **Different byte values never print the same.** A byte sequence is shown as quoted text where
it encodes one without control characters, and in hexadecimal elsewhere; whichever characters are
escaped, no text shows two byte sequences. -/
theorem display_bytes_injective :
    (∀ b, Shown b (display (.bytes b)).toList) ∧
    (∀ b b' text, Shown b text → (Shown b' text ↔ b = b')) ∧
    ∀ b b', display (.bytes b) = display (.bytes b') ↔ b = b' := by
  refine ⟨shown_display, fun b b' text hshown => ⟨hshown.unique, ?_⟩, fun b b' => ⟨fun h => ?_, ?_⟩⟩
  · rintro rfl
    exact hshown
  · have hshown := shown_display b
    rw [h] at hshown
    exact hshown.unique (shown_display b')
  · rintro rfl
    rfl

/-- A combining accent given by its code point is not confused with the text that spells out this
escape: there the backslash is escaped. -/
theorem display_bytes_injective_accent :
    Shown [0xCC, 0x81] "\"\\u\x7b301\x7d\"".toList ∧
    ¬Shown [0x5C, 0x75, 0x7B, 0x33, 0x30, 0x31, 0x7D] "\"\\u\x7b301\x7d\"".toList ∧
    display (.bytes [0xCC, 0x81]) ≠
      display (.bytes [0x5C, 0x75, 0x7B, 0x33, 0x30, 0x31, 0x7D]) := by
  have hlegible : Legible [0xCC, 0x81] ['\u0301'] :=
    ⟨by decide, List.forall_mem_singleton.mpr (by decide)⟩
  have haccent : Shown [0xCC, 0x81] "\"\\u\x7b301\x7d\"".toList :=
    .quoted hlegible
      ⟨[Text.codePointEscape '\u0301'], .cons (.codePoint (by decide)) .nil, by decide⟩
  refine ⟨haccent, ?_, ?_⟩
  · rw [display_bytes_injective.2.1 _ _ _ haccent]
    decide
  · rw [Ne, display_bytes_injective.2.2]
    decide

end Value

end ColumnCast
