import ColumnCast.Cast.Numeric
import ColumnCast.ColumnType.Key
import Mathlib.Data.List.Nodup

/-!
# The allow-list read on column types

The allow-list speaks of keys. `isAllowed_key_iff` says which column types have keys that it
pairs: two different plain numbers, a twelve-byte timestamp and a timestamp, two types of plain
bytes, or two decimals on carriers of decimals.
-/

namespace ColumnCast

/-! ### Keys and types -/

namespace Physical

@[simp]
private theorem carrier_eq_int96_iff {p : Physical} : p.carrier = .int96 ↔ p = .int96 := by
  cases p <;> simp [carrier]

@[simp]
private theorem carrier_eq_byteArray_iff {p : Physical} :
    p.carrier = .byteArray ↔ p = .byteArray := by
  cases p <;> simp [carrier]

@[simp]
private theorem carrier_eq_fixedLenByteArray_iff {p : Physical} :
    p.carrier = .fixedLenByteArray ↔ ∃ length, p = .fixedLenByteArray length := by
  cases p <;> simp [carrier]

end Physical

namespace NumericType

/-- The carrier of a number type. -/
def carrier : NumericType → Carrier
  | int32 => .int32
  | int64 => .int64
  | float => .float
  | double => .double

/-- Every number type. -/
def all : List NumericType :=
  [int32, int64, float, double]

private theorem mem_all (n : NumericType) : n ∈ all := by
  cases n <;> decide

/-- The number type of a physical type is settled by the carrier. -/
private theorem ofPhysical?_eq_some_iff {p : Physical} {n : NumericType} :
    ofPhysical? p = some n ↔ p.carrier = n.carrier := by
  cases p <;> cases n <;> simp [ofPhysical?, Physical.carrier, carrier]

end NumericType

namespace ColumnType

variable {t : ColumnType} {c : Carrier}

@[simp]
private theorem key_eq_bare_iff : t.key = .bare c ↔ t.logical = .bare ∧ t.physical.carrier = c := by
  obtain ⟨physical, logical⟩ := t
  cases logical <;> simp [key]

@[simp]
private theorem key_eq_decimal_iff :
    t.key = .decimal c ↔ (∃ d, t.decimal? = some d) ∧ t.physical.carrier = c := by
  obtain ⟨physical, logical⟩ := t
  cases logical <;> simp [key, decimal?, Logical.decimal?]

@[simp]
private theorem key_eq_timestamp_iff :
    t.key = .timestamp ↔ ∃ unit, t.logical = .timestamp unit := by
  obtain ⟨physical, logical⟩ := t
  cases logical <;> simp [key]

@[simp]
private theorem key_eq_text8_iff : t.key = .text8 ↔ t = ⟨.byteArray, .string⟩ := by
  obtain ⟨physical, logical⟩ := t
  cases logical <;> simp [key, TypeKey.text8, Logical.name]

/-- A type of **plain bytes**: a byte array, of a fixed length or not, that is no more than
that, or a byte array that holds text. -/
inductive PlainBytes : ColumnType → Prop
  | byteArray : PlainBytes ⟨.byteArray, .bare⟩
  | text : PlainBytes ⟨.byteArray, .string⟩
  | fixedLenByteArray (length : UInt32) : PlainBytes ⟨.fixedLenByteArray length, .bare⟩

end ColumnType

/-! ### The four parts of the allow-list -/

variable {a b : TypeKey} {source target : ColumnType}

/-- Plain numbers are paired when they are different. -/
private theorem mem_numericPairs_iff :
    (a, b) ∈ numericPairs ↔
      ∃ m n : NumericType, m ≠ n ∧ a = .bare m.carrier ∧ b = .bare n.carrier := by
  have hpairs : ∀ pair ∈ numericPairs, ∃ m ∈ NumericType.all, ∃ n ∈ NumericType.all,
      m ≠ n ∧ pair.1 = .bare m.carrier ∧ pair.2 = .bare n.carrier := by
    decide
  have hlisted : ∀ m ∈ NumericType.all, ∀ n ∈ NumericType.all, m ≠ n →
      (TypeKey.bare m.carrier, TypeKey.bare n.carrier) ∈ numericPairs := by
    decide
  constructor
  · intro h
    obtain ⟨m, -, n, -, hne, ha, hb⟩ := hpairs _ h
    exact ⟨m, n, hne, ha, hb⟩
  · rintro ⟨m, n, hne, rfl, rfl⟩
    exact hlisted m m.mem_all n n.mem_all hne

private theorem key_mem_numericPairs_iff :
    (source.key, target.key) ∈ numericPairs ↔
      source.logical = .bare ∧ target.logical = .bare ∧ ∃ m n : NumericType, m ≠ n ∧
        NumericType.ofPhysical? source.physical = some m ∧
        NumericType.ofPhysical? target.physical = some n := by
  simp only [mem_numericPairs_iff, ColumnType.key_eq_bare_iff,
    NumericType.ofPhysical?_eq_some_iff]
  constructor
  · rintro ⟨m, n, hne, ⟨hs, hm⟩, ht, hn⟩
    exact ⟨hs, ht, m, n, hne, hm, hn⟩
  · rintro ⟨hs, ht, m, n, hne, hm, hn⟩
    exact ⟨m, n, hne, ⟨hs, hm⟩, ht, hn⟩

/-- The keys of plain bytes. -/
def plainByteKeys : List TypeKey :=
  [.bare .byteArray, .text8, .bare .fixedLenByteArray]

private theorem key_mem_plainByteKeys_iff : source.key ∈ plainByteKeys ↔ source.PlainBytes := by
  constructor
  · obtain ⟨physical, logical⟩ := source
    simp only [plainByteKeys, List.mem_cons, List.not_mem_nil, or_false,
      ColumnType.key_eq_bare_iff, ColumnType.key_eq_text8_iff,
      Physical.carrier_eq_byteArray_iff, Physical.carrier_eq_fixedLenByteArray_iff,
      ColumnType.mk.injEq]
    rintro (⟨rfl, rfl⟩ | ⟨rfl, rfl⟩ | ⟨rfl, length, rfl⟩)
    · exact .byteArray
    · exact .text
    · exact .fixedLenByteArray length
  · rintro (_ | _ | length)
    · exact List.mem_cons_self
    · exact List.mem_cons_of_mem _ List.mem_cons_self
    · exact List.mem_cons_of_mem _ (List.mem_cons_of_mem _ List.mem_cons_self)

/-- All types of plain bytes are paired with one another and with themselves. -/
private theorem mem_binaryPairs_iff :
    (a, b) ∈ binaryPairs ↔ a ∈ plainByteKeys ∧ b ∈ plainByteKeys := by
  have hpairs : ∀ pair ∈ binaryPairs, pair.1 ∈ plainByteKeys ∧ pair.2 ∈ plainByteKeys := by
    decide
  have hlisted : ∀ x ∈ plainByteKeys, ∀ y ∈ plainByteKeys, (x, y) ∈ binaryPairs := by
    decide
  exact ⟨fun h => hpairs _ h, fun ⟨ha, hb⟩ => hlisted a ha b hb⟩

private theorem mem_decimalPairs_iff :
    (a, b) ∈ decimalPairs ↔
      ∃ c ∈ decimalCarriers, ∃ d ∈ decimalCarriers, a = .decimal c ∧ b = .decimal d := by
  simp only [decimalPairs, List.mem_flatMap, List.mem_map, Prod.mk.injEq, eq_comm]

private theorem key_mem_decimalPairs_iff :
    (source.key, target.key) ∈ decimalPairs ↔
      (∃ s, source.decimal? = some s) ∧ (∃ t, target.decimal? = some t) ∧
        source.physical.carrier ∈ decimalCarriers ∧
        target.physical.carrier ∈ decimalCarriers := by
  simp only [mem_decimalPairs_iff, ColumnType.key_eq_decimal_iff]
  constructor
  · rintro ⟨c, hc, d, hd, ⟨hs, rfl⟩, ht, rfl⟩
    exact ⟨hs, ht, hc, hd⟩
  · rintro ⟨hs, ht, hc, hd⟩
    exact ⟨_, hc, _, hd, ⟨hs, rfl⟩, ht, rfl⟩

/-- **The allow-list on column types.** Which pairs of column types are allowed, by the four
parts of the list. -/
theorem isAllowed_key_iff :
    isAllowed source.key target.key = true ↔
      (source.logical = .bare ∧ target.logical = .bare ∧ ∃ m n : NumericType, m ≠ n ∧
        NumericType.ofPhysical? source.physical = some m ∧
        NumericType.ofPhysical? target.physical = some n) ∨
      (source = ⟨.int96, .bare⟩ ∧ ∃ unit, target.logical = .timestamp unit) ∨
      (source.PlainBytes ∧ target.PlainBytes) ∨
      ((∃ s, source.decimal? = some s) ∧ (∃ t, target.decimal? = some t) ∧
        source.physical.carrier ∈ decimalCarriers ∧
        target.physical.carrier ∈ decimalCarriers) := by
  have hint96 : (source.key, target.key) ∈ [(TypeKey.bare .int96, TypeKey.timestamp)] ↔
      source = ⟨.int96, .bare⟩ ∧ ∃ unit, target.logical = .timestamp unit := by
    obtain ⟨physical, logical⟩ := source
    simp only [List.mem_singleton, Prod.mk.injEq, ColumnType.key_eq_bare_iff,
      ColumnType.key_eq_timestamp_iff, Physical.carrier_eq_int96_iff, ColumnType.mk.injEq,
      and_comm (a := logical = .bare)]
  unfold isAllowed allowedPairs
  rw [decide_eq_true_iff, List.mem_append, List.mem_append, List.mem_append,
    key_mem_numericPairs_iff, hint96, mem_binaryPairs_iff, key_mem_plainByteKeys_iff,
    key_mem_plainByteKeys_iff, key_mem_decimalPairs_iff, or_assoc, or_assoc]

/-! ### Keys as texts -/

/-- The logical names that a key keeps. -/
def keyNames : List LogicalName :=
  [.string, .date, .time .millis, .time .micros, .time .nanos, .uuid, .enum, .json, .bson]

/-- Every key that a column type has. -/
def columnKeys : List TypeKey :=
  .timestamp :: Carrier.all.flatMap fun carrier =>
    .bare carrier :: .decimal carrier :: keyNames.map (.named carrier)

theorem key_mem_columnKeys (t : ColumnType) : t.key ∈ columnKeys := by
  obtain ⟨physical, logical⟩ := t
  have hcarrier : physical.carrier ∈ Carrier.all := by
    cases physical <;> simp [Carrier.all, Physical.carrier]
  cases logical with
  | timestamp unit => exact List.mem_cons_self
  | time unit =>
    cases unit <;> exact List.mem_cons_of_mem _ (List.mem_flatMap.mpr
      ⟨_, hcarrier, by simp [ColumnType.key, keyNames, Logical.name]⟩)
  | _ =>
    exact List.mem_cons_of_mem _ (List.mem_flatMap.mpr
      ⟨_, hcarrier, by simp [ColumnType.key, keyNames, Logical.name]⟩)

/-- Different keys of column types have different texts. -/
theorem text_inj_of_mem_columnKeys (ha : a ∈ columnKeys) (hb : b ∈ columnKeys) :
    a.text = b.text ↔ a = b := by
  have hnodup : (columnKeys.map TypeKey.text).Nodup := by decide +kernel
  exact ⟨fun h => List.inj_on_of_nodup_map hnodup ha hb h, congrArg _⟩

/-- The allow-list speaks of keys that column types have. -/
theorem mem_columnKeys_of_mem_allowedPairs (h : (a, b) ∈ allowedPairs) :
    a ∈ columnKeys ∧ b ∈ columnKeys := by
  have hpairs : ∀ pair ∈ allowedPairs, pair.1 ∈ columnKeys ∧ pair.2 ∈ columnKeys := by
    decide
  exact hpairs _ h

/-- **Keys are compared as texts.** Whether a pair of column types is allowed can be asked of
the texts of the keys as well. -/
theorem isAllowedText_text_key (source target : ColumnType) :
    isAllowedText source.key.text target.key.text = isAllowed source.key target.key := by
  rw [Bool.eq_iff_iff]
  simp only [isAllowedText, isAllowed, List.any_eq_true, Bool.and_eq_true, decide_eq_true_eq]
  constructor
  · rintro ⟨pair, hpair, hs, ht⟩
    obtain ⟨hfirst, hsecond⟩ := mem_columnKeys_of_mem_allowedPairs hpair
    rw [text_inj_of_mem_columnKeys hfirst (key_mem_columnKeys source)] at hs
    rw [text_inj_of_mem_columnKeys hsecond (key_mem_columnKeys target)] at ht
    rwa [← hs, ← ht]
  · intro h
    exact ⟨_, h, rfl, rfl⟩

end ColumnCast
