import ColumnCast.Bytes
import ColumnCast.Proofs.Text.Blank
import Mathlib.Algebra.Group.Nat.Even

/-!
# Reading hexadecimal digits

`Hex.Writes` says which texts stand for which bytes: two digits of either case for each byte. They
are the texts that are read (`Hex.decode?_eq_some_iff`), namely those of an even number of digits
(`Hex.exists_writes_iff`), and the bytes that are written are read back (`Hex.writes_encode`), as is
a number (`Hex.number?_toDigits`).
-/

namespace ColumnCast

namespace Hex

variable {cs : List Char} {c : Char} {d : ℕ} {b : Bytes}

/-- The character is a hexadecimal digit of this value, in lower or in upper case. -/
def IsDigit (c : Char) (d : ℕ) : Prop :=
  d < 16 ∧ (c = d.digitChar ∨ c = d.digitChar.toUpper)

/-- The texts that **write** a byte sequence: two digits for each byte, the greater one first. -/
inductive Writes : List Char → Bytes → Prop
  | nil : Writes [] []
  | cons {high low : Char} {h l : ℕ} {cs : List Char} {b : Bytes} (hhigh : IsDigit high h)
      (hlow : IsDigit low l) (hrest : Writes cs b) :
      Writes (high :: low :: cs) (UInt8.ofNat (16 * h + l) :: b)

/-! ### Digits -/

/-- The digits by their code points: the decimal ones, then the letters of either case. -/
theorem isDigit_iff_toNat :
    IsDigit c d ↔
      (d < 10 ∧ c.toNat = 48 + d) ∨
        (10 ≤ d ∧ d < 16 ∧ (c.toNat = 87 + d ∨ c.toNat = 55 + d)) := by
  have hcode : ∀ d < 16,
      (d < 10 → d.digitChar.toNat = 48 + d ∧ d.digitChar.toUpper.toNat = 48 + d) ∧
      (10 ≤ d → d.digitChar.toNat = 87 + d ∧ d.digitChar.toUpper.toNat = 55 + d) := by
    decide
  rw [IsDigit, ← Char.toNat_inj, ← Char.toNat_inj (d := d.digitChar.toUpper)]
  constructor
  · rintro ⟨hd, h⟩
    obtain ⟨hlow, hhigh⟩ := hcode d hd
    omega
  · intro h
    have hd : d < 16 := by omega
    obtain ⟨hlow, hhigh⟩ := hcode d hd
    omega

private theorem digitValue?_eq_some_iff : digitValue? c = some d ↔ IsDigit c d := by
  have hle (a c : Char) : a ≤ c ↔ a.toNat ≤ c.toNat := UInt32.le_iff_toNat_le
  rw [isDigit_iff_toNat, digitValue?]
  simp only [hle, Char.reduceToNat]
  split_ifs <;> simp only [Option.some.injEq, false_iff] <;> omega

theorem IsDigit.toNat_bounds (h : IsDigit c d) : 48 ≤ c.toNat ∧ c.toNat ≤ 102 := by
  rw [isDigit_iff_toNat] at h
  omega

/-! ### Texts -/

private theorem writes_of_decode? :
    ∀ {cs : List Char} {b : Bytes}, decode? cs = some b → Writes cs b
  | [], _, h => by
    obtain rfl := Option.some.inj h
    exact .nil
  | high :: low :: rest, _, h => by
    rw [decode?] at h
    split at h
    · next hhigh hlow hrest =>
      obtain rfl := Option.some.inj h
      exact .cons (digitValue?_eq_some_iff.mp hhigh) (digitValue?_eq_some_iff.mp hlow)
        (writes_of_decode? hrest)
    · cases h

/-- **Hexadecimal digits are read exactly.** -/
theorem decode?_eq_some_iff : decode? cs = some b ↔ Writes cs b := by
  refine ⟨writes_of_decode?, fun h => ?_⟩
  induction h with
  | nil => rfl
  | cons hhigh hlow _ ih =>
    rw [decode?, digitValue?_eq_some_iff.mpr hhigh, digitValue?_eq_some_iff.mpr hlow, ih]

private theorem Writes.even (h : Writes cs b) : Even cs.length := by
  induction h with
  | nil => exact Even.zero
  | cons _ _ _ ih => exact ih.add (show Even 2 by decide)

theorem Writes.isDigit (h : Writes cs b) : ∀ c ∈ cs, ∃ d, IsDigit c d := by
  induction h with
  | nil => exact nofun
  | cons hhigh hlow _ ih =>
    rw [List.forall_mem_cons, List.forall_mem_cons]
    exact ⟨⟨_, hhigh⟩, ⟨_, hlow⟩, ih⟩

/-- Digits can be read when there are two for each byte. -/
private theorem exists_writes : ∀ {cs : List Char}, Even cs.length → (∀ c ∈ cs, ∃ d, IsDigit c d) →
    ∃ b, Writes cs b
  | [], _, _ => ⟨[], .nil⟩
  | [_], heven, _ => absurd heven (by simp)
  | high :: low :: rest, heven, hdigits => by
    rw [List.forall_mem_cons, List.forall_mem_cons] at hdigits
    obtain ⟨⟨h, hhigh⟩, ⟨l, hlow⟩, hrest⟩ := hdigits
    rw [List.length_cons, List.length_cons, Nat.even_add_one, Nat.even_add_one, not_not] at heven
    obtain ⟨b, hb⟩ := exists_writes heven hrest
    exact ⟨_, .cons hhigh hlow hb⟩

/-- The texts of byte sequences are those of an even number of digits. -/
theorem exists_writes_iff :
    (∃ b, Writes cs b) ↔ Even cs.length ∧ ∀ c ∈ cs, ∃ d, IsDigit c d :=
  ⟨fun ⟨_, h⟩ => ⟨h.even, h.isDigit⟩, fun ⟨heven, hdigits⟩ => exists_writes heven hdigits⟩

/-- **What is written is read back.** -/
theorem writes_encode (b : Bytes) : Writes (encode b) b := by
  induction b with
  | nil => exact .nil
  | cons x b ih =>
    have hx := x.toNat_lt
    have hbyte : UInt8.ofNat (16 * (x.toNat / 16) + x.toNat % 16) = x := by
      rw [Nat.div_add_mod, UInt8.ofNat_toNat]
    have hcons := Writes.cons ⟨show x.toNat / 16 < 16 by omega, .inl rfl⟩
      ⟨Nat.mod_lt x.toNat (by decide), .inl rfl⟩ ih
    rwa [hbyte] at hcons

theorem encode_injective : Function.Injective encode := by
  intro b b' h
  have hback := decode?_eq_some_iff.mpr (writes_encode b)
  rw [h, decode?_eq_some_iff.mpr (writes_encode b')] at hback
  exact (Option.some.inj hback).symm

/-! ### Numbers -/

/-- One more digit behind a number counts for its value, the digits before it for sixteen times
theirs. -/
private theorem number?_concat_eq_some_iff {n : ℕ} :
    number? (cs ++ [c]) = some n ↔ ∃ m d, number? cs = some m ∧ IsDigit c d ∧ 16 * m + d = n := by
  unfold number?
  rw [List.foldlM_append]
  simp only [List.foldlM_cons, List.foldlM_nil, bind_pure, Option.bind_eq_bind,
    Option.bind_eq_some_iff, Option.map_eq_some_iff, digitValue?_eq_some_iff]
  exact exists_congr fun m => exists_and_left.symm

theorem isDigit_of_number? {n : ℕ} (h : number? cs = some n) : ∀ c ∈ cs, ∃ d, IsDigit c d := by
  induction cs using List.reverseRecOn generalizing n with
  | nil => exact nofun
  | append_singleton cs last ih =>
    obtain ⟨m, d, hm, hd, -⟩ := number?_concat_eq_some_iff.mp h
    intro c hc
    rw [List.mem_append, List.mem_singleton] at hc
    rcases hc with hc | rfl
    · exact ih hm c hc
    · exact ⟨d, hd⟩

/-- The digits of a number are read as the number. -/
theorem number?_toDigits (n : ℕ) : number? (Nat.toDigits 16 n) = some n := by
  induction n using Nat.strong_induction_on with
  | h n ih =>
    rcases lt_or_ge n 16 with hn | hn
    · rw [Nat.toDigits_of_lt_base hn, ← List.nil_append [n.digitChar],
        number?_concat_eq_some_iff]
      exact ⟨0, n, rfl, ⟨hn, .inl rfl⟩, by omega⟩
    · rw [Nat.toDigits_of_base_le (by decide) hn, number?_concat_eq_some_iff]
      exact ⟨n / 16, n % 16, ih _ (by omega), ⟨Nat.mod_lt n (by decide), .inl rfl⟩,
        Nat.div_add_mod n 16⟩

end Hex

end ColumnCast
