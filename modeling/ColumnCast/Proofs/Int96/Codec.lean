import ColumnCast.Cast.Int96
import ColumnCast.Proofs.Bytes.Signed
import ColumnCast.Proofs.Text.Numeral

/-!
# The codec of twelve-byte timestamps

Twelve bytes name an instant by a day and a time within it (`Int96.Laid`), and `Int96.instant` is
the number of nanoseconds that they come to, of any size. Decoding gives this number when it is a
64-bit integer (`Int96.decode_eq_ok_iff_instant`). A day and a time within it are the quotient and
the remainder of the instant, so decoding and encoding are inverse to each other
(`Int96.decode_bijective`).
-/

namespace ColumnCast

namespace Int96

variable {bytes other : Bytes} {n : Int64}

/-- The bytes are **laid out** as an instant: there are twelve of them, and the time that the
first eight hold lies within a day. -/
structure Laid (bytes : Bytes) : Prop where
  length_eq : bytes.length = 12
  nonneg : 0 ≤ nanosOfDay bytes
  lt_day : nanosOfDay bytes < 86400000000000

/-- The nanoseconds from 1970-01-01, which is the Julian day 2440588, to the day that the bytes
name and the time within it. -/
def instant (bytes : Bytes) : ℤ :=
  (julianDay bytes - 2440588) * 86400000000000 + nanosOfDay bytes

/-- The number is the one of a 64-bit integer. -/
def InWord (total : ℤ) : Prop :=
  -2 ^ 63 ≤ total ∧ total < 2 ^ 63

private theorem instant_eq (bytes : Bytes) :
    instant bytes = (julianDay bytes - epochDay) * nanosPerDay + nanosOfDay bytes :=
  rfl

private theorem nanosPerDay_pos : 0 < nanosPerDay := by
  decide

private theorem Laid.lt_nanosPerDay (h : Laid bytes) : nanosOfDay bytes < nanosPerDay :=
  h.lt_day

/-! ### What decoding answers -/

private theorem laid_iff : Laid bytes ↔ bytes.length = size ∧
    ¬(nanosOfDay bytes < 0 ∨ nanosPerDay ≤ nanosOfDay bytes) := by
  rw [not_or, not_lt, not_le]
  exact ⟨fun ⟨h1, h2, h3⟩ => ⟨h1, h2, h3⟩, fun ⟨h1, h2, h3⟩ => ⟨h1, h2, h3⟩⟩

theorem decode_of_length_ne (h : bytes.length ≠ 12) :
    decode bytes = .error (.invalidValue (.int96Length bytes.length)) :=
  if_pos h

theorem decode_of_time (hlength : bytes.length = 12)
    (htime : ¬(0 ≤ nanosOfDay bytes ∧ nanosOfDay bytes < 86400000000000)) :
    decode bytes = .error (.invalidValue (.nanosOfDay (nanosOfDay bytes))) := by
  rw [not_and_or, not_le, not_lt] at htime
  exact (if_neg (not_not.mpr hlength)).trans (if_pos htime)

/-- Bytes that are no instant are refused for their length or for their time. -/
private theorem decode_of_not_laid (h : ¬Laid bytes) :
    ∃ cause, decode bytes = .error (.invalidValue cause) := by
  by_cases hlength : bytes.length = 12
  · exact ⟨_, decode_of_time hlength fun htime => h ⟨hlength, htime.1, htime.2⟩⟩
  · exact ⟨_, decode_of_length_ne hlength⟩

/-- Bytes that are an instant are decoded to its 64-bit integer, if there is one. -/
private theorem decode_of_laid (h : Laid bytes) :
    decode bytes =
      match Numeral.toInt64? (instant bytes) with
      | some total => .ok total
      | none => .error (.overflow (.julianDay (julianDay bytes))) := by
  obtain ⟨hlength, htime⟩ := laid_iff.mp h
  unfold decode
  rw [if_neg (not_not.mpr hlength)]
  exact if_neg htime

/-- An instant is within the 64-bit integers or beyond them. -/
theorem decode_cases (h : Laid bytes) :
    (∃ n, decode bytes = .ok n) ∨ ∃ excess, decode bytes = .error (.overflow excess) := by
  rw [decode_of_laid h]
  split
  · exact .inl ⟨_, rfl⟩
  · exact .inr ⟨_, rfl⟩

/-- An instant beyond the 64-bit integers is an overflow. -/
private theorem decode_of_not_inWord (h : Laid bytes) (hword : ¬InWord (instant bytes)) :
    ∃ cause, decode bytes = .error (.overflow cause) := by
  rw [decode_of_laid h, Numeral.toInt64?_eq_none_iff.mpr hword]
  exact ⟨_, rfl⟩

/-- **Decoding.** The result is the instant that the bytes are laid out as. -/
theorem decode_eq_ok_iff_instant :
    decode bytes = .ok n ↔ Laid bytes ∧ instant bytes = n.toInt := by
  by_cases h : Laid bytes
  · rw [decode_of_laid h, and_iff_right h, eq_comm (a := instant bytes),
      ← Numeral.toInt64?_eq_some_iff]
    cases Numeral.toInt64? (instant bytes) <;> simp
  · obtain ⟨cause, herror⟩ := decode_of_not_laid h
    rw [herror]
    exact iff_of_false (by simp) fun hlaid => h hlaid.1

private theorem exists_decode_iff :
    (∃ n, decode bytes = .ok n) ↔ Laid bytes ∧ InWord (instant bytes) := by
  simp only [decode_eq_ok_iff_instant]
  constructor
  · rintro ⟨n, hlaid, hinstant⟩
    exact ⟨hlaid, hinstant ▸ ⟨n.le_toInt, n.toInt_lt⟩⟩
  · rintro ⟨hlaid, hlow, hhigh⟩
    exact ⟨.ofInt (instant bytes), hlaid, (Int64.toInt_ofInt_of_le hlow hhigh).symm⟩

/-- **Refusals.** Bytes are invalid when they are not laid out as an instant. -/
theorem decode_invalid_iff :
    (∃ cause, decode bytes = .error (.invalidValue cause)) ↔ ¬Laid bytes := by
  refine ⟨?_, decode_of_not_laid⟩
  rintro ⟨cause, herror⟩ hlaid
  by_cases hword : InWord (instant bytes)
  · obtain ⟨n, hn⟩ := exists_decode_iff.mpr ⟨hlaid, hword⟩
    simp [hn] at herror
  · obtain ⟨cause', hoverflow⟩ := decode_of_not_inWord hlaid hword
    simp [hoverflow] at herror

private theorem decode_overflow_iff :
    (∃ cause, decode bytes = .error (.overflow cause)) ↔
      Laid bytes ∧ ¬InWord (instant bytes) := by
  refine ⟨?_, fun ⟨hlaid, hword⟩ => decode_of_not_inWord hlaid hword⟩
  rintro ⟨cause, herror⟩
  have hlaid : Laid bytes := by
    by_contra hnot
    obtain ⟨cause', hinvalid⟩ := decode_of_not_laid hnot
    simp [hinvalid] at herror
  refine ⟨hlaid, fun hword => ?_⟩
  obtain ⟨n, hn⟩ := exists_decode_iff.mpr ⟨hlaid, hword⟩
  simp [hn] at herror

/-! ### The fields of an instant -/

/-- The day is the quotient of the instant by the length of a day. -/
private theorem julianDay_eq (h : Laid bytes) :
    julianDay bytes = instant bytes / nanosPerDay + epochDay := by
  have hquotient : instant bytes / nanosPerDay = julianDay bytes - epochDay := by
    rw [instant_eq, add_comm, Int.add_mul_ediv_right _ _ nanosPerDay_pos.ne',
      Int.ediv_eq_zero_of_lt h.nonneg h.lt_nanosPerDay, zero_add]
  rw [hquotient, sub_add_cancel]

/-- The time is the remainder. -/
private theorem nanosOfDay_eq (h : Laid bytes) :
    nanosOfDay bytes = instant bytes % nanosPerDay := by
  rw [instant_eq, add_comm, Int.add_mul_emod_self_right,
    Int.emod_eq_of_lt h.nonneg h.lt_nanosPerDay]

/-- The two fields hold all that twelve bytes hold. -/
private theorem eq_of_fields (hlength : bytes.length = size) (hlength' : other.length = size)
    (htime : nanosOfDay bytes = nanosOfDay other) (hday : julianDay bytes = julianDay other) :
    bytes = other := by
  have htake : bytes.take 8 = other.take 8 :=
    Bytes.signed_littleEndian_inj (by rw [List.length_take, hlength]; rfl)
      (by rw [List.length_take, hlength']; rfl) htime
  have hdrop : bytes.drop 8 = other.drop 8 :=
    Bytes.signed_littleEndian_inj (by rw [List.length_drop, hlength]; rfl)
      (by rw [List.length_drop, hlength']; rfl) hday
  rw [← List.take_append_drop 8 bytes, htake, hdrop, List.take_append_drop]

/-- An instant has one layout. -/
private theorem Laid.unique (h : Laid bytes) (h' : Laid other)
    (heq : instant bytes = instant other) : bytes = other := by
  refine eq_of_fields h.length_eq h'.length_eq ?_ ?_
  · rw [nanosOfDay_eq h, nanosOfDay_eq h', heq]
  · rw [julianDay_eq h, julianDay_eq h', heq]

/-! ### Encoding -/

private theorem length_encode (n : Int64) : (encode n).length = size := by
  rw [encode, List.length_append, Bytes.length_ofNat, Bytes.length_ofNat]
  rfl

/-- The time that is written is within a day, and so far below what eight bytes hold. -/
private theorem nanosOfDay_encode (n : Int64) : nanosOfDay (encode n) = n.toInt % nanosPerDay := by
  have hnonneg := Int.emod_nonneg n.toInt nanosPerDay_pos.ne'
  have hlt : n.toInt % nanosPerDay < 86400000000000 := Int.emod_lt_of_pos _ nanosPerDay_pos
  have htake : (encode n).take 8 = Bytes.ofNat 8 (n.toInt % nanosPerDay).toNat :=
    List.take_left' (Bytes.length_ofNat 8 _)
  -- below half of what eight bytes count, a pattern is its own number
  have hpow : pow256 8 = 2 ^ 64 := by decide
  rw [nanosOfDay, htake, Bytes.littleEndian_ofNat, hpow, Nat.mod_eq_of_lt (by omega),
    Bytes.signed, if_pos (by rw [hpow]; omega), Int.toNat_of_nonneg hnonneg]

/-- The days of 64-bit instants are few, so that the day is written as it is. -/
private theorem day_bounds (n : Int64) :
    -2 ^ 31 ≤ n.toInt / nanosPerDay + epochDay ∧ n.toInt / nanosPerDay + epochDay < 2 ^ 31 := by
  have hlow := n.le_toInt
  have hhigh := n.toInt_lt
  unfold nanosPerDay epochDay
  omega

private theorem julianDay_encode (n : Int64) :
    julianDay (encode n) = n.toInt / nanosPerDay + epochDay := by
  obtain ⟨hlow, hhigh⟩ := day_bounds n
  have hdrop : (encode n).drop 8 =
      Bytes.ofNat 4 (Bytes.pattern 4 (n.toInt / nanosPerDay + epochDay)) :=
    List.drop_left' (Bytes.length_ofNat 8 _)
  have hpow : (pow256 4 : ℤ) = 2 ^ 32 := by decide
  rw [julianDay, hdrop, Bytes.littleEndian_ofNat, Nat.mod_eq_of_lt (Bytes.pattern_lt 4 _)]
  exact Bytes.signed_pattern (by omega) (by omega)

/-- What is written is laid out as an instant. -/
private theorem laid_encode (n : Int64) : Laid (encode n) where
  length_eq := length_encode n
  nonneg := by
    rw [nanosOfDay_encode]
    exact Int.emod_nonneg _ nanosPerDay_pos.ne'
  lt_day := by
    rw [nanosOfDay_encode]
    exact Int.emod_lt_of_pos _ nanosPerDay_pos

private theorem instant_encode (n : Int64) : instant (encode n) = n.toInt := by
  rw [instant_eq, julianDay_encode, nanosOfDay_encode, add_sub_cancel_right]
  exact Int.ediv_mul_add_emod n.toInt nanosPerDay

/-- **The codec is a bijection** between the 64-bit integers and the bytes that are laid out as an
instant within them; the day of an integer is written without wrapping. Bytes that are laid out
otherwise are invalid, and instants beyond the integers are an overflow. -/
theorem decode_bijective :
    (∀ bytes n, decode bytes = .ok n ↔ bytes = encode n) ∧
    (∀ n, decode (encode n) = .ok n ∧
      julianDay (encode n) = n.toInt / 86400000000000 + 2440588) ∧
    ∀ bytes,
      ((∃ n, decode bytes = .ok n) ↔ Laid bytes ∧ InWord (instant bytes)) ∧
      ((∃ cause, decode bytes = .error (.invalidValue cause)) ↔ ¬Laid bytes) ∧
      ((∃ cause, decode bytes = .error (.overflow cause)) ↔
        Laid bytes ∧ ¬InWord (instant bytes)) := by
  have hdecode (bytes : Bytes) (n : Int64) : decode bytes = .ok n ↔ bytes = encode n := by
    rw [decode_eq_ok_iff_instant]
    constructor
    · rintro ⟨hlaid, hinstant⟩
      exact hlaid.unique (laid_encode n) (hinstant.trans (instant_encode n).symm)
    · rintro rfl
      exact ⟨laid_encode n, instant_encode n⟩
  refine ⟨hdecode, fun n => ⟨(hdecode _ n).mpr rfl, julianDay_encode n⟩, fun bytes => ?_⟩
  exact ⟨exists_decode_iff, decode_invalid_iff, decode_overflow_iff⟩

end Int96

end ColumnCast
