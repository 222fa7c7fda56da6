import ColumnCast.Proofs.Text.Blank
import ColumnCast.Text.Basic
import Mathlib.Algebra.Order.Ring.Int
import Mathlib.Tactic.Ring

/-!
# Reading numerals

`Numeral.Writes` says which texts are integer numerals and what they stand for. These are the
texts that are read, and that is how they are read (`Numeral.parseInt?_eq_some_iff`).
-/

namespace ColumnCast

namespace Numeral

variable {cs : List Char} {c : Char}

/-- The value of one or more decimal digits, leading zeros allowed. -/
inductive Digits : List Char → ℕ → Prop
  | single {d : ℕ} (hd : d < 10) : Digits [d.digitChar] d
  | snoc {cs : List Char} {n d : ℕ} (h : Digits cs n) (hd : d < 10) :
      Digits (cs ++ [d.digitChar]) (10 * n + d)

/-- The value of an **integer numeral**: digits, with a sign or without. -/
inductive Writes : List Char → ℤ → Prop
  | bare {cs : List Char} {n : ℕ} (h : Digits cs n) : Writes cs n
  | plus {cs : List Char} {n : ℕ} (h : Digits cs n) : Writes ('+' :: cs) n
  | minus {cs : List Char} {n : ℕ} (h : Digits cs n) : Writes ('-' :: cs) (-n)

/-! ### Digits -/

private theorem exists_digitChar_eq (h : c.isDigit = true) : ∃ d < 10, d.digitChar = c := by
  obtain ⟨hlow, hhigh⟩ := Char.isDigit_iff_toNat.mp h
  simp only [Char.reduceToNat] at hlow hhigh
  refine ⟨c.toNat - 48, by omega, Char.toNat_inj.mp ?_⟩
  have hdigit := Nat.toNat_digitChar_of_lt_ten (show c.toNat - 48 < 10 by omega)
  omega

theorem Digits.ne_nil {n : ℕ} (h : Digits cs n) : cs ≠ [] := by
  cases h <;> simp

theorem Digits.isDigit {n : ℕ} (h : Digits cs n) : ∀ c ∈ cs, c.isDigit = true := by
  induction h with
  | single hd => simp [Nat.isDigit_digitChar, hd]
  | snoc _ hd ih =>
    simp only [List.forall_mem_append, List.forall_mem_singleton, Nat.isDigit_digitChar]
    exact ⟨ih, decide_eq_true hd⟩

private theorem Digits.ofDigitChars {n : ℕ} (h : Digits cs n) : Nat.ofDigitChars 10 cs 0 = n := by
  induction h with
  | single hd => simp [Nat.ofDigitChars_cons_digitChar_of_lt_ten hd]
  | snoc _ hd ih =>
    rw [Nat.ofDigitChars_append, ih, Nat.ofDigitChars_cons_digitChar_of_lt_ten hd,
      Nat.ofDigitChars_nil]

private theorem digits_ofDigitChars (hne : cs ≠ []) (h : ∀ c ∈ cs, c.isDigit = true) :
    Digits cs (Nat.ofDigitChars 10 cs 0) := by
  induction cs using List.reverseRecOn with
  | nil => exact absurd rfl hne
  | append_singleton cs c ih =>
    simp only [List.forall_mem_append, List.forall_mem_singleton] at h
    obtain ⟨d, hd, rfl⟩ := exists_digitChar_eq h.2
    rw [Nat.ofDigitChars_append, Nat.ofDigitChars_cons_digitChar_of_lt_ten hd,
      Nat.ofDigitChars_nil]
    rcases eq_or_ne cs [] with rfl | hcs
    · simpa using Digits.single hd
    · exact .snoc (ih hcs h.1) hd

/-- Digits stand for one number. -/
private theorem Digits.unique {m n : ℕ} (h : Digits cs m) (h' : Digits cs n) : m = n :=
  h.ofDigitChars.symm.trans h'.ofDigitChars

/-- Digits count for more by a power of ten for each digit behind them. -/
theorem Digits.append {ds : List Char} {m n : ℕ} (h : Digits cs m) (h' : Digits ds n) :
    Digits (cs ++ ds) (m * 10 ^ ds.length + n) := by
  induction h' with
  | single hd => simpa [mul_comm m] using h.snoc hd
  | @snoc ds n d _ hd ih =>
    have hsnoc := ih.snoc hd
    rw [List.append_assoc] at hsnoc
    rw [List.length_append, List.length_singleton, pow_succ]
    convert hsnoc using 1
    ring

/-- Two parts of a row of digits stand for numbers of their own. -/
theorem Digits.exists_append {ds : List Char} {n : ℕ} (h : Digits (cs ++ ds) n) (hcs : cs ≠ [])
    (hds : ds ≠ []) : ∃ m k, Digits cs m ∧ Digits ds k ∧ n = m * 10 ^ ds.length + k := by
  have hdigit := List.forall_mem_append.mp h.isDigit
  have hfirst := digits_ofDigitChars hcs hdigit.1
  have hsecond := digits_ofDigitChars hds hdigit.2
  exact ⟨_, _, hfirst, hsecond, h.unique (hfirst.append hsecond)⟩

/-- Leading zeros do not count. -/
theorem Digits.replicate_append {n : ℕ} (h : Digits cs n) (k : ℕ) :
    Digits (List.replicate k '0' ++ cs) n := by
  induction k with
  | zero => exact h
  | succ k ih =>
    have hzero : Digits ['0'] 0 := (Digits.single (by decide) : Digits [Nat.digitChar 0] 0)
    simpa [List.replicate_succ] using hzero.append ih

private theorem parseNat?_eq_some_iff {n : ℕ} : parseNat? cs = some n ↔ Digits cs n := by
  unfold parseNat?
  constructor
  · intro h
    split_ifs at h with hcs
    exact Option.some.inj h ▸ digits_ofDigitChars hcs.1 (List.all_eq_true.mp hcs.2)
  · intro h
    rw [if_pos ⟨h.ne_nil, List.all_eq_true.mpr h.isDigit⟩, h.ofDigitChars]

/-! ### Integers -/

/-- **Numerals are read exactly.** A text is read as an integer when it is a numeral of it. -/
theorem parseInt?_eq_some_iff {n : ℤ} : parseInt? cs = some n ↔ Writes cs n := by
  -- no sign is a digit, so the first character decides which of the three readings applies
  have hsign (c : Char) (hc : c.isDigit = false) (digits : List Char) (m : ℕ) :
      ¬ Digits (c :: digits) m := by
    intro h
    rw [h.isDigit c List.mem_cons_self] at hc
    cases hc
  unfold parseInt?
  split
  · simp only [Option.map_eq_some_iff, parseNat?_eq_some_iff]
    constructor
    · rintro ⟨m, hm, rfl⟩
      exact .plus hm
    · rintro (h | h | h)
      · exact absurd h (hsign _ rfl _ _)
      · exact ⟨_, h, rfl⟩
  · simp only [Option.map_eq_some_iff, parseNat?_eq_some_iff]
    constructor
    · rintro ⟨m, hm, rfl⟩
      exact .minus hm
    · rintro (h | h | h)
      · exact absurd h (hsign _ rfl _ _)
      · exact ⟨_, h, rfl⟩
  · next hplus hminus =>
    simp only [Option.map_eq_some_iff, parseNat?_eq_some_iff]
    constructor
    · rintro ⟨m, hm, rfl⟩
      exact .bare hm
    · rintro (h | h | h)
      · exact ⟨_, h, rfl⟩
      · exact absurd rfl (hplus _)
      · exact absurd rfl (hminus _)

/-- A numeral stands for one integer. -/
theorem Writes.unique {m n : ℤ} (h : Writes cs m) (h' : Writes cs n) : m = n :=
  Option.some.inj ((parseInt?_eq_some_iff.mpr h).symm.trans (parseInt?_eq_some_iff.mpr h'))

/-- The shortest numeral of a number consists of digits of it. -/
theorem digits_ofNat (n : ℕ) : Digits (ofNat n) n := by
  have hdigits : Digits (ofNat n) (Nat.ofDigitChars 10 (ofNat n) 0) :=
    digits_ofDigitChars Nat.toDigits_ne_nil fun _ hc =>
      Nat.isDigit_of_mem_toDigits (by decide) (by decide) hc
  rwa [ofNat, Nat.ofDigitChars_ten_toDigits] at hdigits

theorem writes_ofNat (n : ℕ) : Writes (ofNat n) n :=
  .bare (digits_ofNat n)

/-- The shortest numeral of an integer is a numeral of it. -/
theorem writes_ofInt (n : ℤ) : Writes (ofInt n) n := by
  unfold ofInt
  split_ifs with h
  · have hminus := Writes.minus (digits_ofNat n.natAbs)
    rwa [Int.ofNat_natAbs_of_nonpos h.le, neg_neg] at hminus
  · have hbare := Writes.bare (digits_ofNat n.natAbs)
    rwa [Int.natAbs_of_nonneg (not_lt.mp h)] at hbare

/-- The shortest numeral begins with a zero for zero alone. -/
theorem head?_ofNat_ne_zero {n : ℕ} (h : n ≠ 0) : (ofNat n).head? ≠ some '0' := by
  induction n using Nat.strong_induction_on with
  | _ n ih =>
    rw [ofNat, Nat.toDigits_eq_if (by decide)]
    split_ifs with hlt
    · intro heq
      have hcode := congrArg Char.toNat (Option.some.inj heq)
      rw [Nat.toNat_digitChar_of_lt_ten hlt] at hcode
      exact h (Nat.add_left_cancel hcode)
    -- the first digit is that of the number without its last digit
    · rw [List.head?_append_of_ne_nil _ Nat.toDigits_ne_nil]
      exact ih (n / 10) (by omega) (by omega)

/-! ### Machine words -/

theorem toInt32?_eq_some_iff {n : ℤ} {k : Int32} : toInt32? n = some k ↔ k.toInt = n := by
  have hmin : Int32.minValue.toInt = -2 ^ 31 := rfl
  have hmax : Int32.maxValue.toInt = 2 ^ 31 - 1 := rfl
  -- the test compares with the greatest word, which is one less than the power
  rw [toInt32?, hmin, hmax]
  constructor
  · intro h
    split_ifs at h with hrange
    rw [← Option.some.inj h]
    exact Int32.toInt_ofInt_of_le hrange.1 (by omega)
  · rintro rfl
    have hhigh := k.toInt_lt
    rw [if_pos ⟨k.le_toInt, by omega⟩, Int32.ofInt_toInt]

theorem toInt64?_eq_some_iff {n : ℤ} {k : Int64} : toInt64? n = some k ↔ k.toInt = n := by
  have hmin : Int64.minValue.toInt = -2 ^ 63 := rfl
  have hmax : Int64.maxValue.toInt = 2 ^ 63 - 1 := rfl
  rw [toInt64?, hmin, hmax]
  constructor
  · intro h
    split_ifs at h with hrange
    rw [← Option.some.inj h]
    exact Int64.toInt_ofInt_of_le hrange.1 (by omega)
  · rintro rfl
    have hhigh := k.toInt_lt
    rw [if_pos ⟨k.le_toInt, by omega⟩, Int64.ofInt_toInt]

/-- A 32-bit integer is read from a numeral of it. -/
theorem parseInt?_bind_toInt32?_eq_some_iff {k : Int32} :
    (parseInt? cs >>= toInt32?) = some k ↔ Writes cs k.toInt := by
  rw [Option.bind_eq_bind, Option.bind_eq_some_iff]
  simp only [parseInt?_eq_some_iff, toInt32?_eq_some_iff]
  exact ⟨fun ⟨_, hm, hk⟩ => hk ▸ hm, fun h => ⟨_, h, rfl⟩⟩

/-- A 64-bit integer is read from a numeral of it. -/
theorem parseInt?_bind_toInt64?_eq_some_iff {k : Int64} :
    (parseInt? cs >>= toInt64?) = some k ↔ Writes cs k.toInt := by
  rw [Option.bind_eq_bind, Option.bind_eq_some_iff]
  simp only [parseInt?_eq_some_iff, toInt64?_eq_some_iff]
  exact ⟨fun ⟨_, hm, hk⟩ => hk ▸ hm, fun h => ⟨_, h, rfl⟩⟩

theorem toInt32?_eq_none_iff {n : ℤ} : toInt32? n = none ↔ ¬(-2 ^ 31 ≤ n ∧ n < 2 ^ 31) := by
  simp only [Option.eq_none_iff_forall_ne_some, ne_eq, toInt32?_eq_some_iff]
  constructor
  · intro h hrange
    exact h _ (Int32.toInt_ofInt_of_le hrange.1 hrange.2)
  · rintro h k rfl
    exact h ⟨k.le_toInt, k.toInt_lt⟩

theorem toInt64?_eq_none_iff {n : ℤ} : toInt64? n = none ↔ ¬(-2 ^ 63 ≤ n ∧ n < 2 ^ 63) := by
  simp only [Option.eq_none_iff_forall_ne_some, ne_eq, toInt64?_eq_some_iff]
  constructor
  · intro h hrange
    exact h _ (Int64.toInt_ofInt_of_le hrange.1 hrange.2)
  · rintro h k rfl
    exact h ⟨k.le_toInt, k.toInt_lt⟩

/-! ### The characters of numerals -/

/-- The characters of numerals are signs and digits. -/
theorem Writes.toNat_mem {n : ℤ} (h : Writes cs n) (hc : c ∈ cs) :
    c.toNat = 43 ∨ c.toNat = 45 ∨ (48 ≤ c.toNat ∧ c.toNat ≤ 57) := by
  have hdigit {ds : List Char} {m : ℕ} (h : Digits ds m) (hc : c ∈ ds) :
      48 ≤ c.toNat ∧ c.toNat ≤ 57 :=
    Char.isDigit_iff_toNat.mp (h.isDigit c hc)
  cases h with
  | bare h => exact .inr (.inr (hdigit h hc))
  | plus h =>
    rcases List.mem_cons.mp hc with rfl | hc
    · exact .inl rfl
    · exact .inr (.inr (hdigit h hc))
  | minus h =>
    rcases List.mem_cons.mp hc with rfl | hc
    · exact .inr (.inl rfl)
    · exact .inr (.inr (hdigit h hc))

theorem Writes.isAlpha {n : ℤ} (h : Writes cs n) (hc : c ∈ cs) : c.isAlpha = false := by
  have hnat := h.toNat_mem hc
  rw [Bool.eq_false_iff, ne_eq, Text.isAlpha_iff_toNat]
  omega

theorem Writes.notMem {n : ℤ} (h : Writes cs n) (hc : c ∈ [',', '(', ')']) : c ∉ cs := by
  have hmarks : ∀ c ∈ [',', '(', ')'],
      ¬ (c.toNat = 43 ∨ c.toNat = 45 ∨ (48 ≤ c.toNat ∧ c.toNat ≤ 57)) := by
    simp
  exact fun hmem => hmarks c hc (h.toNat_mem hmem)

theorem Writes.trimmed {n : ℤ} (h : Writes cs n) : Text.Trimmed cs := by
  refine Text.trimmed_of_forall fun c hc => ?_
  have hnat := h.toNat_mem hc
  exact Text.isBlank_of_toNat (by omega) (by omega)

end Numeral

end ColumnCast
