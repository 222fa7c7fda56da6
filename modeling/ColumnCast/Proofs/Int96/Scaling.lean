import ColumnCast.Proofs.Int96.Codec
import ColumnCast.Proofs.Unscaled.Division
import ColumnCast.Proofs.Unscaled.Rescale

/-!
# Timestamps in a unit

A timestamp counts a unit of `10 ^ k` nanoseconds, and scaling to it is dropping `k` decimal
digits: the nearest integer, a tie going away from zero (`TimeUnit.toInt_scaleNanos`). Done step by
step in 64-bit words, as `Word.roundedQuotient?` does it, no step leaves the words. A nearest
integer keeps the order of what it is nearest to, and the order of instants is that of their days
and then of the times within a day, so timestamps are ordered as their days and times are
(`TimeUnit.scaleNanos_exact`).
-/

namespace ColumnCast

/-! ### Rounded division in words -/

namespace Word

variable {a b : Int64}

/-- The quotient toward zero. There is none by zero, nor of the least word by `-1`. -/
def quotient? (a b : Int64) : Option Int64 :=
  if b = 0 then none else Numeral.toInt64? (a.toInt.tdiv b.toInt)

/-- The remainder of the quotient toward zero, where there is a quotient. -/
def remainder? (a b : Int64) : Option Int64 :=
  (quotient? a b).bind fun _ => Numeral.toInt64? (a.toInt.tmod b.toInt)

/-- The magnitude of a word. The least word has none. -/
def magnitude? (a : Int64) : Option Int64 :=
  Numeral.toInt64? a.toInt.natAbs

/-- The product of two words, if it is a word. -/
def product? (a b : Int64) : Option Int64 :=
  Numeral.toInt64? (a.toInt * b.toInt)

/-- The sum of two words, if it is a word. -/
def sum? (a b : Int64) : Option Int64 :=
  Numeral.toInt64? (a.toInt + b.toInt)

/-- The rounded quotient in words: truncated, and then one step by the sign of the dividend when
twice the remainder reaches the divisor. There is none as soon as a step leaves the words. -/
def roundedQuotient? (a b : Int64) : Option Int64 := do
  let quotient ← quotient? a b
  let remainder ← remainder? a b
  let magnitude ← magnitude? remainder
  let doubled ← product? magnitude 2
  if b ≤ doubled then sum? quotient (.ofInt a.toInt.sign) else return quotient

end Word

namespace Unscaled

variable {a b : ℤ}

/-- Rounded division by a positive divisor, with the step as the sign of the dividend. -/
private theorem roundedQuotient_eq_ite (a : ℤ) (hb : 0 < b) :
    roundedQuotient a b =
      if b ≤ 2 * ((a.tmod b).natAbs : ℤ) then a.tdiv b + a.sign else a.tdiv b := by
  have hdrops : DropsHalf a b ↔ b ≤ 2 * ((a.tmod b).natAbs : ℤ) := by
    rw [DropsHalf, Int.natAbs_tmod]
    omega
  split_ifs with h
  · exact roundedQuotient_of_dropsHalf hb.ne' (hdrops.mpr h)
  · exact roundedQuotient_of_not_dropsHalf (hdrops.not.mpr h)

/-- Rounded division by a positive divisor stays between zero and the dividend. -/
private theorem roundedQuotient_between (a : ℤ) (hb : 0 < b) :
    (0 ≤ a → 0 ≤ roundedQuotient a b ∧ roundedQuotient a b ≤ a) ∧
      (a ≤ 0 → a ≤ roundedQuotient a b ∧ roundedQuotient a b ≤ 0) := by
  have hnearest := isNearestAway_roundedQuotient a hb
  have hbQ : (1 : ℚ) ≤ b := by exact_mod_cast hb
  have hzero : IsNearestAway (0 : ℚ) 0 := by exact_mod_cast IsNearestAway.intCast 0
  constructor
  · intro ha
    have haQ : (0 : ℚ) ≤ a := by exact_mod_cast ha
    exact ⟨hzero.mono hnearest (by positivity),
      hnearest.mono (.intCast a) (div_le_self haQ hbQ)⟩
  · intro ha
    have haQ : (a : ℚ) ≤ 0 := by exact_mod_cast ha
    refine ⟨(IsNearestAway.intCast a).mono hnearest ?_, hnearest.mono hzero ?_⟩
    · rw [le_div_iff₀ (by linarith)]
      exact mul_le_of_one_le_right haQ hbQ
    · exact div_nonpos_of_nonpos_of_nonneg haQ (by linarith)

end Unscaled

namespace Word

variable {a b : Int64}

/-- A number within the words is the number of a word. -/
private theorem exists_toInt64?_eq {n : ℤ} (h : Int96.InWord n) :
    ∃ k, Numeral.toInt64? n = some k ∧ k.toInt = n := by
  have hword : (Int64.ofInt n).toInt = n := Int64.toInt_ofInt_of_le h.1 h.2
  exact ⟨_, Numeral.toInt64?_eq_some_iff.mpr hword, hword⟩

/-- What lies between zero and a word is within the words. -/
private theorem inWord_of_between {n : ℤ} (a : Int64) (hnonneg : 0 ≤ a.toInt → 0 ≤ n ∧ n ≤ a.toInt)
    (hnonpos : a.toInt ≤ 0 → a.toInt ≤ n ∧ n ≤ 0) : Int96.InWord n := by
  have hlow := a.le_toInt
  have hhigh := a.toInt_lt
  rcases le_total 0 a.toInt with ha | ha
  · have h := hnonneg ha
    exact ⟨by omega, by omega⟩
  · have h := hnonpos ha
    exact ⟨by omega, by omega⟩

private theorem inWord_roundedQuotient (a : Int64) {b : ℤ} (hb : 0 < b) :
    Int96.InWord (Unscaled.roundedQuotient a.toInt b) :=
  inWord_of_between a (Unscaled.roundedQuotient_between _ hb).1
    (Unscaled.roundedQuotient_between _ hb).2

private theorem inWord_tdiv (a : Int64) {b : ℤ} (hb : 0 < b) : Int96.InWord (a.toInt.tdiv b) := by
  have hle : (a.toInt.tdiv b).natAbs ≤ a.toInt.natAbs := Int.natAbs_tdiv_le_natAbs _ _
  refine inWord_of_between a (fun ha => ?_) fun ha => ?_
  · have := Int.tdiv_nonneg ha hb.le
    omega
  · have := Int.tdiv_nonneg (neg_nonneg.mpr ha) hb.le
    rw [Int.neg_tdiv] at this
    omega

/-- By a positive divisor of at most half the words, no step of rounded division leaves the
words. -/
private theorem roundedQuotient?_eq (a : Int64) (hpos : 0 < b.toInt) (hhalf : b.toInt ≤ 2 ^ 62) :
    ∃ q, roundedQuotient? a b = some q ∧
      q.toInt = Unscaled.roundedQuotient a.toInt b.toInt := by
  have hne : b ≠ 0 := by
    rintro rfl
    exact lt_irrefl _ hpos
  have hrest : (a.toInt.tmod b.toInt).natAbs < 2 ^ 62 := by
    have := Nat.mod_lt a.toInt.natAbs (show 0 < b.toInt.natAbs by omega)
    rw [Int.natAbs_tmod]
    omega
  obtain ⟨quotient, hquotient, hquotient_eq⟩ := exists_toInt64?_eq (inWord_tdiv a hpos)
  obtain ⟨remainder, hremainder, hremainder_eq⟩ :=
    exists_toInt64?_eq (n := a.toInt.tmod b.toInt) ⟨by omega, by omega⟩
  obtain ⟨magnitude, hmagnitude, hmagnitude_eq⟩ :=
    exists_toInt64?_eq (n := remainder.toInt.natAbs) ⟨by omega, by omega⟩
  obtain ⟨doubled, hdoubled, hdoubled_eq⟩ :=
    exists_toInt64?_eq (n := magnitude.toInt * 2) ⟨by omega, by omega⟩
  have hquotient? : quotient? a b = some quotient := by
    rw [quotient?, if_neg hne, hquotient]
  have hremainder? : remainder? a b = some remainder := by
    rw [remainder?, hquotient?, Option.bind_some, hremainder]
  have hdoubled? : product? magnitude 2 = some doubled := by
    have htwo : (2 : Int64).toInt = 2 := by decide
    rw [product?, htwo, hdoubled]
  have hrun : roundedQuotient? a b =
      if b ≤ doubled then sum? quotient (.ofInt a.toInt.sign) else some quotient := by
    simp only [roundedQuotient?, hquotient?, hremainder?, magnitude?, hmagnitude, hdoubled?,
      Option.bind_eq_bind, Option.bind_some, Option.pure_def]
  have hsign : (Int64.ofInt a.toInt.sign).toInt = a.toInt.sign := by
    rcases Int.sign_trichotomy a.toInt with h | h | h <;> rw [h] <;> decide
  have hstep : b ≤ doubled ↔ b.toInt ≤ 2 * ((a.toInt.tmod b.toInt).natAbs : ℤ) := by
    rw [Int64.le_iff_toInt_le]
    omega
  have hword := inWord_roundedQuotient a hpos
  rw [hrun]
  rw [Unscaled.roundedQuotient_eq_ite _ hpos] at hword ⊢
  by_cases hcond : b ≤ doubled
  · rw [if_pos (hstep.mp hcond)] at hword ⊢
    rw [if_pos hcond, sum?, hsign, hquotient_eq]
    exact exists_toInt64?_eq hword
  · rw [if_neg (hstep.not.mp hcond), if_neg hcond]
    exact ⟨quotient, rfl, hquotient_eq⟩

end Word

namespace TimeUnit

/-- The number of decimal digits that a unit drops from nanoseconds. -/
def digits : TimeUnit → ℕ
  | nanos => 0
  | micros => 3
  | millis => 6

/-- Scaling in 64-bit words. There is none as soon as a step leaves the words. -/
def scaleNanos? (unit : TimeUnit) (nanos : Int64) : Option Int64 :=
  Word.roundedQuotient? nanos (.ofInt unit.nanosPerUnit)

variable {unit : TimeUnit} {m n : Int64}

private theorem nanosPerUnit_eq (unit : TimeUnit) : unit.nanosPerUnit = 10 ^ unit.digits := by
  cases unit <;> rfl

private theorem nanosPerUnit_pos (unit : TimeUnit) : 0 < unit.nanosPerUnit := by
  rw [nanosPerUnit_eq]
  positivity

/-- Scaling is rounded division by the unit. -/
theorem toInt_scaleNanos (unit : TimeUnit) (n : Int64) :
    (unit.scaleNanos n).toInt = Unscaled.roundedQuotient n.toInt unit.nanosPerUnit := by
  have hword := Word.inWord_roundedQuotient n unit.nanosPerUnit_pos
  rw [Unscaled.roundedQuotient_eq_ite _ unit.nanosPerUnit_pos] at hword ⊢
  exact Int64.toInt_ofInt_of_le hword.1 hword.2

/-- **No overflow.** No step of scaling leaves the words. -/
theorem scaleNanos?_eq (unit : TimeUnit) (n : Int64) :
    unit.scaleNanos? n = some (unit.scaleNanos n) := by
  have hunit : (Int64.ofInt unit.nanosPerUnit).toInt = unit.nanosPerUnit := by
    cases unit <;> decide
  have hpos := unit.nanosPerUnit_pos
  have hhalf : unit.nanosPerUnit ≤ 2 ^ 62 := by
    cases unit <;> decide
  obtain ⟨q, hq, hvalue⟩ :=
    Word.roundedQuotient?_eq n (b := .ofInt unit.nanosPerUnit) (by rwa [hunit]) (by rwa [hunit])
  rw [hunit, ← toInt_scaleNanos] at hvalue
  rw [scaleNanos?, hq, Int64.toInt_inj.mp hvalue]

/-- **Nearest.** Scaling gives the nearest number of units, a tie going away from zero. -/
theorem isNearestAway_scaleNanos (unit : TimeUnit) (n : Int64) :
    IsNearestAway ((n.toInt : ℚ) / 10 ^ unit.digits) (unit.scaleNanos n).toInt := by
  have h := Unscaled.isNearestAway_roundedQuotient n.toInt unit.nanosPerUnit_pos
  rw [← toInt_scaleNanos, nanosPerUnit_eq] at h
  exact_mod_cast h

/-- Scaling drops the digits of the unit as decimals drop them. -/
private theorem toInt_scaleNanos_eq_rescale (unit : TimeUnit) (n : Int64) :
    (unit.scaleNanos n).toInt = Unscaled.rescale n.toInt (-unit.digits) := by
  have hlow := n.le_toInt
  have hhigh := n.toInt_lt
  have hbits : Unscaled.bits n.toInt ≤ 64 := Unscaled.bits_le_iff.mpr (by omega)
  have hdigits : |(-unit.digits : ℤ)| < 2 ^ 32 := by
    cases unit <;> decide
  have h := Unscaled.isNearestAway_rescale (v := n.toInt) (by omega) hdigits
  rw [zpow_neg, zpow_natCast, ← div_eq_mul_inv] at h
  exact (isNearestAway_scaleNanos unit n).unique h

/-- **Order.** Scaling keeps the order of instants. -/
theorem scaleNanos_mono (unit : TimeUnit) (h : m ≤ n) : unit.scaleNanos m ≤ unit.scaleNanos n := by
  rw [Int64.le_iff_toInt_le] at h ⊢
  refine (isNearestAway_scaleNanos unit m).mono (isNearestAway_scaleNanos unit n) ?_
  have hQ : (m.toInt : ℚ) ≤ n.toInt := by exact_mod_cast h
  gcongr

end TimeUnit

namespace Int96

variable {bytes other : Bytes} {m n : Int64}

/-- The first instant is **not after** the second: its day is earlier, or it is the same day and
the time is not later. -/
def NotAfter (bytes other : Bytes) : Prop :=
  julianDay bytes < julianDay other ∨
    julianDay bytes = julianDay other ∧ nanosOfDay bytes ≤ nanosOfDay other

/-- Days and times within them are in the order of the instants that they come to. -/
private theorem NotAfter.instant_le (h : NotAfter bytes other) (hbytes : Laid bytes)
    (hother : Laid other) : instant bytes ≤ instant other := by
  have hlt := hbytes.lt_day
  have hnonneg := hother.nonneg
  unfold instant
  rcases h with hday | ⟨hday, htime⟩
  · omega
  · omega

private theorem decode_le (h : NotAfter bytes other) (hm : decode bytes = .ok m)
    (hn : decode other = .ok n) : m ≤ n := by
  rw [decode_eq_ok_iff_instant] at hm hn
  rw [Int64.le_iff_toInt_le, ← hm.2, ← hn.2]
  exact h.instant_le hm.1 hn.1

end Int96

namespace TimeUnit

/-- **Timestamps in a unit.** Scaling 64-bit nanoseconds leaves the words at no step. It gives what
dropping the digits of the unit from a decimal gives, which is the nearest integer with ties away
from zero, and keeps the order. So of two byte sequences that are decoded, the one whose day and
time are not after those of the other becomes a timestamp that is not greater. -/
theorem scaleNanos_exact (unit : TimeUnit) :
    (∀ n : Int64, unit.scaleNanos? n = some (unit.scaleNanos n) ∧
      (unit.scaleNanos n).toInt = Unscaled.rescale n.toInt (-unit.digits) ∧
      IsNearestAway ((n.toInt : ℚ) / 10 ^ unit.digits) (unit.scaleNanos n).toInt) ∧
    (∀ m n : Int64, m ≤ n → unit.scaleNanos m ≤ unit.scaleNanos n) ∧
    ∀ bytes other m n, Int96.decode bytes = .ok m → Int96.decode other = .ok n →
      Int96.NotAfter bytes other →
        ∃ t u, Int96Cast.convert ⟨unit⟩ (.bytes bytes) = .ok (.int64 t) ∧
          Int96Cast.convert ⟨unit⟩ (.bytes other) = .ok (.int64 u) ∧ t ≤ u := by
  refine ⟨fun n => ⟨scaleNanos?_eq unit n, toInt_scaleNanos_eq_rescale unit n,
    isNearestAway_scaleNanos unit n⟩, fun m n h => scaleNanos_mono unit h, ?_⟩
  intro bytes other m n hm hn hbefore
  refine ⟨unit.scaleNanos m, unit.scaleNanos n, ?_, ?_,
    scaleNanos_mono unit (Int96.decode_le hbefore hm hn)⟩
  · rw [Int96Cast.convert, hm]
    rfl
  · rw [Int96Cast.convert, hn]
    rfl

/-- A tie at an instant before 1970 goes away from zero, and an instant of the day before is not
later in milliseconds than the first one of 1970. -/
theorem scaleNanos_exact_tie :
    micros.scaleNanos (-1500) = -2 ∧ micros.scaleNanos? (-1500) = some (-2) ∧
      millis.scaleNanos (-1500) ≤ millis.scaleNanos 0 ∧
      ∃ t u, Int96Cast.convert ⟨millis⟩
          (.bytes [36, 250, 78, 145, 148, 78, 0, 0, 139, 61, 37, 0]) = .ok (.int64 t) ∧
        Int96Cast.convert ⟨millis⟩
          (.bytes [0, 0, 0, 0, 0, 0, 0, 0, 140, 61, 37, 0]) = .ok (.int64 u) ∧ t ≤ u := by
  obtain ⟨hmicros, -⟩ := scaleNanos_exact micros
  obtain ⟨-, hmono, horder⟩ := scaleNanos_exact millis
  have htie : micros.scaleNanos (-1500) = -2 := by decide
  refine ⟨htie, htie ▸ (hmicros (-1500)).1, hmono _ _ (by decide), ?_⟩
  exact horder _ _ (-1500) 0 (by decide +kernel) (by decide +kernel) (Or.inl (by decide))

end TimeUnit

end ColumnCast
