import ColumnCast.ColumnType.Fault
import Mathlib.Tactic.SplitIfs

/-!
# Usable column types

`ColumnType.Usable` states the rules of pairing one by one. They are the rules that are checked
(`ColumnType.fault?_eq_none_iff`), so every target type keeps them (`TargetType.usable`). For a
decimal they come down to its carrier, its length, its precision and its scale
(`ColumnType.fault?_decimal_iff`).
-/

namespace ColumnCast

/-! ### Decimals -/

namespace ColumnType

variable {p : Physical} {d : DecimalType}

theorem eq_of_decimal {t : ColumnType} (ht : t.decimal? = some d) :
    t = ⟨t.physical, .decimal d⟩ := by
  obtain ⟨physical, logical⟩ := t
  cases logical <;> simp [decimal?, Logical.decimal?] at ht
  rw [ht]

private theorem decimalFault?_eq_none_iff :
    decimalFault? p d = none ↔
      p.holdsDecimal = true ∧ 0 < d.precision ∧ d.scale ≤ d.precision ∧
        p.holdsPrecision d.precision = true := by
  unfold decimalFault? Physical.holdsPrecision
  by_cases hcarrier : p.holdsDecimal = true
  · by_cases hprecision : d.precision = 0
    · simp [hcarrier, hprecision]
    · by_cases hscale : d.precision < d.scale
      · simp [hcarrier, hprecision, hscale, UInt32.not_le.mpr hscale]
      · have hpos : 0 < d.precision := UInt32.pos_iff_ne_zero.mpr hprecision
        have hle : d.scale ≤ d.precision := UInt32.not_lt.mp hscale
        cases p.maxPrecision? <;> simp [hcarrier, hprecision, hscale, hpos, hle]
  · simp [hcarrier]

/-- **Usable decimals.** What a decimal type must satisfy to break no rule. -/
theorem fault?_decimal_iff :
    fault? ⟨p, .decimal d⟩ = none ↔
      p ≠ .fixedLenByteArray 0 ∧ p.holdsDecimal = true ∧ 0 < d.precision ∧
        d.scale ≤ d.precision ∧ p.holdsPrecision d.precision = true := by
  rw [← decimalFault?_eq_none_iff, fault?]
  split_ifs with hlength
  · simp only [false_iff, not_and]
    exact fun h => absurd hlength h
  · simp only [logicalFault?, ne_eq, hlength, not_false_eq_true, true_and]

end ColumnType

/-! ### The rules -/

/-- A decimal type is in order on a physical type: it can be stored, it has digits, no more of
them after the point than in all, and no more in all than the physical type is taken to hold. -/
structure DecimalType.StoredBy (d : DecimalType) (p : Physical) : Prop where
  carrier : p = .int32 ∨ p = .int64 ∨ p = .byteArray ∨ ∃ length, p = .fixedLenByteArray length
  precision_pos : 0 < d.precision
  scale_le : d.scale ≤ d.precision
  precision_le : ∀ capacity, p.maxPrecision? = some capacity → d.precision.toNat ≤ capacity

namespace ColumnType

/-- A column type is **usable** when its physical and its logical type fit together. -/
structure Usable (t : ColumnType) : Prop where
  length_pos : ∀ length, t.physical = .fixedLenByteArray length → 0 < length
  timestamp : ∀ unit, t.logical = .timestamp unit → t.physical = .int64
  string : t.logical = .string → t.physical = .byteArray
  date : t.logical = .date → t.physical = .int32
  decimal : ∀ d, t.logical = .decimal d → d.StoredBy t.physical

end ColumnType

/-! ### The checks -/

namespace Physical

private theorem holdsDecimal_iff {p : Physical} :
    p.holdsDecimal = true ↔
      p = .int32 ∨ p = .int64 ∨ p = .byteArray ∨ ∃ length, p = .fixedLenByteArray length := by
  cases p <;> simp [holdsDecimal]

private theorem holdsPrecision_iff_forall {p : Physical} {precision : UInt32} :
    p.holdsPrecision precision = true ↔
      ∀ capacity, p.maxPrecision? = some capacity → precision.toNat ≤ capacity := by
  unfold holdsPrecision
  cases p.maxPrecision? <;> simp

end Physical

namespace ColumnType

private theorem decimalFault?_eq_none_iff_storedBy {p : Physical} {d : DecimalType} :
    decimalFault? p d = none ↔ d.StoredBy p := by
  rw [decimalFault?_eq_none_iff, Physical.holdsDecimal_iff, Physical.holdsPrecision_iff_forall]
  exact ⟨fun ⟨h1, h2, h3, h4⟩ => ⟨h1, h2, h3, h4⟩, fun ⟨h1, h2, h3, h4⟩ => ⟨h1, h2, h3, h4⟩⟩

/-- **The checks are the rules.** A column type passes when it is usable. -/
theorem fault?_eq_none_iff {t : ColumnType} : t.fault? = none ↔ t.Usable := by
  obtain ⟨physical, logical⟩ := t
  have hlength : (∀ length, physical = .fixedLenByteArray length → 0 < length) ↔
      physical ≠ .fixedLenByteArray 0 := by
    constructor
    · rintro h rfl
      exact absurd (h 0 rfl) (by decide)
    · rintro h length rfl
      exact UInt32.pos_iff_ne_zero.mpr fun hzero => h (hzero ▸ rfl)
  unfold fault?
  split_ifs with hzero
  · exact iff_of_false (by simp) fun h => hlength.mp h.length_pos hzero
  · have hpos := hlength.mpr hzero
    -- one rule at most speaks of the logical type at hand
    cases logical with
    | timestamp unit =>
      simp only [logicalFault?, ite_eq_left_iff, reduceCtorEq, imp_false, Classical.not_not]
      exact ⟨fun h => ⟨hpos, fun _ _ => h, by simp, by simp, by simp⟩, fun h => h.timestamp _ rfl⟩
    | string =>
      simp only [logicalFault?, ite_eq_left_iff, reduceCtorEq, imp_false, Classical.not_not]
      exact ⟨fun h => ⟨hpos, by simp, fun _ => h, by simp, by simp⟩, fun h => h.string rfl⟩
    | date =>
      simp only [logicalFault?, ite_eq_left_iff, reduceCtorEq, imp_false, Classical.not_not]
      exact ⟨fun h => ⟨hpos, by simp, by simp, fun _ => h, by simp⟩, fun h => h.date rfl⟩
    | decimal d =>
      rw [logicalFault?, decimalFault?_eq_none_iff_storedBy]
      refine ⟨fun h => ⟨hpos, by simp, by simp, by simp, fun d' hd => ?_⟩, fun h => h.decimal d rfl⟩
      exact Logical.decimal.inj hd ▸ h
    | _ => exact iff_of_true rfl ⟨hpos, by simp, by simp, by simp, by simp⟩

end ColumnType

/-- A target type is usable. -/
theorem TargetType.usable (t : TargetType) : t.toColumnType.Usable :=
  ColumnType.fault?_eq_none_iff.mp t.sound

/-- The targets that come from column types are the usable ones. -/
theorem TargetType.ofColumnType_eq_ok_iff {t : ColumnType} {target : TargetType} :
    ofColumnType t = .ok target ↔ target.toColumnType = t := by
  unfold ofColumnType
  split
  · next h =>
    constructor
    · intro heq
      rw [← Except.ok.inj heq]
    · rintro rfl
      rfl
  · next fault h =>
    refine iff_of_false (by simp) ?_
    rintro rfl
    rw [target.sound] at h
    cases h

end ColumnCast
