import ColumnCast.Proofs.Converter.Preservation
import ColumnCast.Proofs.Unscaled.FixedPoint
import ColumnCast.Value.Display

/-!
# Decimals with their meaning

What a converter gives for a decimal column decodes to an unscaled value
(`Converter.exists_decode_of_convert`), and is shown with that value as a decimal fraction in
brackets behind it (`Value.explained_of_decode`). The fraction has the digits that the scale asks
for and no other reading (`Converter.explained_denotes`).
-/

namespace ColumnCast

/-- A value that decodes is shown with the decimal number that it stands for. -/
theorem Value.explained_of_decode {t : ColumnType} {d : DecimalType} {g : DecimalForm} {w : Value}
    {r : ℤ} (ht : t.decimal? = some d) (hg : DecimalForm.ofPhysical? t.physical = some g)
    (hw : g.decode w = .ok r) :
    w.explained t = w.display ++ " (" ++ FixedPoint.text r d.scale.toNat ++ ")" := by
  have hmeaning : w.decimalMeaning? t = some (FixedPoint.text r d.scale.toNat) := by
    simp only [decimalMeaning?, ht, hg, hw]
  have hnull : w.isNull = false := by
    refine decide_eq_false fun hkind => DecimalForm.ne_null_of_decode hw ?_
    exact kind_eq_null_iff.mp hkind
  rw [explained, meaning?, hnull, hmeaning]
  rfl

namespace Converter

variable {source : ColumnType} {target : TargetType} {t : DecimalType} {c : Converter}
  {v w : Value}

/-- What a converter gives for a decimal column, if it is not null, is a decimal. -/
theorem exists_decode_of_convert (ht : target.decimal? = some t)
    (hbuild : build source target = .ok c) (hconvert : c.convert v = .ok w) (hw : w ≠ .null) :
    ∃ g r, DecimalForm.ofPhysical? target.physical = some g ∧ g.decode w = .ok r := by
  have hv : v ≠ .null := by
    rintro rfl
    exact hw (Except.ok.inj hconvert).symm
  have hserves := build_iff_serves.mp hbuild
  generalize target.toColumnType = u at ht hserves
  rw [convert_of_ne_null hv] at hconvert
  -- of the four families only decimals have a decimal target
  cases hserves with
  | int96 unit => cases ht
  | numeric cast _ _ => cases ht
  | binary _ htarget _ => cases htarget <;> cases ht
  | decimal _ hq _ =>
    obtain ⟨r, hr⟩ := DecimalCast.exists_encode_of_convert hconvert
    exact ⟨_, r, hq, DecimalForm.decode_of_encode hr⟩

/-- **Fixed-point texts denote what they are written for.** The text of `v` at a scale is a
decimal fraction with as many digits after its point, it writes `v / 10 ^ scale` and nothing else,
it has a sign exactly for negative numbers, and without its point it reads back as `v`; so no two
numbers have the same text. A value that a converter gives for a decimal column is shown with such
a text of what it stands for. -/
theorem explained_denotes :
    (∀ (v : ℤ) (scale : ℕ),
      (∀ q, FixedPoint.Writes scale (FixedPoint.text v scale).toList q ↔ q = v / 10 ^ scale) ∧
      ('-' ∈ (FixedPoint.text v scale).toList ↔ v < 0) ∧
      Numeral.parseInt? (FixedPoint.withoutPoint (FixedPoint.text v scale).toList) = some v) ∧
    (∀ scale, Function.Injective fun v => FixedPoint.text v scale) ∧
    ∀ (source : ColumnType) (target : TargetType) (t : DecimalType) (c : Converter) (v w : Value),
      target.decimal? = some t → build source target = .ok c → c.convert v = .ok w → w ≠ .null →
        ∃ g r meaning, DecimalForm.ofPhysical? target.physical = some g ∧ g.decode w = .ok r ∧
          w.explained target.toColumnType = w.display ++ " (" ++ meaning ++ ")" ∧
          FixedPoint.Writes t.scale.toNat meaning.toList (r / 10 ^ t.scale.toNat) := by
  refine ⟨fun v scale => ?_, fun scale v w h => ?_, ?_⟩
  · rw [FixedPoint.toList_text]
    exact ⟨fun q => FixedPoint.writes_ofInt_iff, FixedPoint.minus_mem_ofInt_iff,
      FixedPoint.parseInt?_ofInt v scale⟩
  · exact FixedPoint.ofInt_injective scale (String.ofList_injective h)
  · intro source target t c v w ht hbuild hconvert hw
    obtain ⟨g, r, hg, hr⟩ := exists_decode_of_convert ht hbuild hconvert hw
    refine ⟨g, r, _, hg, hr, Value.explained_of_decode ht hg hr, ?_⟩
    rw [FixedPoint.toList_text]
    exact FixedPoint.writes_ofInt r _

/-- A decimal of four bytes is shown as the unscaled value of a 64-bit one and what it stands
for. -/
theorem explained_denotes_four_bytes :
    ∃ g r meaning, DecimalForm.ofPhysical? .int64 = some g ∧
      g.decode (.int64 (-1234500)) = .ok r ∧
      (Value.int64 (-1234500)).explained ⟨.int64, .decimal ⟨12, 4⟩⟩ =
        (Value.int64 (-1234500)).display ++ " (" ++ meaning ++ ")" ∧
      FixedPoint.Writes 4 meaning.toList (r / 10 ^ 4) := by
  have hbuild : build ⟨.fixedLenByteArray 4, .decimal ⟨9, 2⟩⟩
      ⟨⟨.int64, .decimal ⟨12, 4⟩⟩, by decide +kernel⟩ =
        .ok (.decimal (.between (.fixedLenByteArray 4) ⟨9, 2⟩ .int64 ⟨12, 4⟩)) := by
    decide +kernel
  have hconvert : (decimal (.between (.fixedLenByteArray 4) ⟨9, 2⟩ .int64 ⟨12, 4⟩)).convert
      (.bytes [255, 255, 207, 199]) = .ok (.int64 (-1234500)) := by
    decide +kernel
  exact explained_denotes.2.2 _ _ ⟨12, 4⟩ _ _ _ rfl hbuild hconvert nofun

end Converter

end ColumnCast
