import ColumnCast.Proofs.Converter.Preservation
import Mathlib.Data.List.DropRight

/-!
# Zero bytes at the end

`Bytes.significant` is a byte sequence without the zero bytes at its end. Filling up does not
change it (`Bytes.significant_padRight`), and a change of the fixed length depends on nothing else
of its input (`BinaryCast.convertBytes_resize`). So the conversions between byte sequences lose
nothing but zero bytes at the end, and a change of length can be made good by another one
(`BinaryCast.convert_keeps_significant`).
-/

namespace ColumnCast

namespace Bytes

variable {a b : Bytes} {n : ℕ}

/-- The bytes without the zero bytes at the end. -/
def significant (b : Bytes) : Bytes :=
  b.rdropWhile (· = 0)

/-- Zero bytes at the end are not significant. -/
private theorem significant_append_replicate (b : Bytes) (k : ℕ) :
    significant (b ++ List.replicate k 0) = significant b := by
  induction k with
  | zero => rw [List.replicate_zero, List.append_nil]
  | succ k ih =>
    rw [List.replicate_succ', ← List.append_assoc]
    exact (List.rdropWhile_concat_pos _ _ _ (by simp)).trans ih

/-- A byte sequence is its significant bytes and zero bytes behind them. -/
private theorem exists_eq_significant_append (b : Bytes) :
    ∃ k, b = significant b ++ List.replicate k 0 := by
  refine ⟨(b.rtakeWhile (· = 0)).length, ?_⟩
  have htail : b.rtakeWhile (· = 0) = List.replicate (b.rtakeWhile (· = 0)).length 0 :=
    List.eq_replicate_iff.mpr ⟨rfl, fun x hx => by simpa using List.mem_rtakeWhile_imp hx⟩
  rw [← htail]
  exact List.rdropWhile_append_rtakeWhile.symm

private theorem length_significant_le (b : Bytes) : (significant b).length ≤ b.length :=
  (List.rdropWhile_prefix _ b).length_le

private theorem significant_significant (b : Bytes) : significant (significant b) = significant b :=
  List.rdropWhile_idempotent _ b

private theorem significant_take (h : (significant b).length ≤ n) :
    significant (b.take n) = significant b := by
  obtain ⟨k, hk⟩ := exists_eq_significant_append b
  have htake : b.take n =
      significant b ++ (List.replicate k 0).take (n - (significant b).length) := by
    conv_lhs => rw [hk]
    rw [List.take_append, List.take_of_length_le h]
  rw [htake, List.take_replicate, significant_append_replicate, significant_significant]

/-- The length and the significant bytes are all there is to a byte sequence. -/
private theorem eq_of_significant_eq (hlength : a.length = b.length)
    (h : significant a = significant b) : a = b := by
  obtain ⟨k, hk⟩ := exists_eq_significant_append a
  obtain ⟨l, hl⟩ := exists_eq_significant_append b
  rw [hk, hl, h, List.length_append, List.length_append, List.length_replicate,
    List.length_replicate] at hlength
  rw [hk, hl, h, Nat.add_left_cancel hlength]

/-- The significant bytes end at a place if there are only zero bytes from there on. -/
private theorem length_significant_le_iff :
    (significant b).length ≤ n ↔ ∀ i (h : i < b.length), n ≤ i → b[i] = 0 := by
  constructor
  · intro hle i h hi
    obtain ⟨k, hk⟩ := exists_eq_significant_append b
    have hget : b[i]? = (List.replicate k 0)[i - (significant b).length]? := by
      conv_lhs => rw [hk]
      exact List.getElem?_append_right (hle.trans hi)
    rw [List.getElem?_eq_getElem h, List.getElem?_replicate] at hget
    split_ifs at hget
    exact Option.some.inj hget
  · intro hzero
    -- beyond the place nothing but zero bytes can be dropped
    have hdrop : b.drop n = List.replicate (b.drop n).length 0 := by
      refine List.eq_replicate_iff.mpr ⟨rfl, fun x hx => ?_⟩
      obtain ⟨j, hj, rfl⟩ := List.mem_drop_iff_getElem.mp hx
      exact hzero _ _ (Nat.le_add_right n j)
    have htake : significant b = significant (b.take n) := by
      rw [← significant_append_replicate (b.take n) (b.drop n).length, ← hdrop,
        List.take_append_drop]
    rw [htake]
    exact (length_significant_le _).trans (List.length_take_le n b)

end Bytes

namespace BinaryCast

open Bytes (significant)

variable {c : BinaryCast} {b out : Bytes} {n m : ℕ}

/-! ### Filling up -/

theorem significant_padRight (n : ℕ) (b : Bytes) : significant (padRight n b) = significant b :=
  Bytes.significant_append_replicate b _

/-! ### Changing the length -/

private theorem any_drop_ne_zero_iff :
    ((b.drop n).any (· ≠ 0)) = true ↔ ¬(significant b).length ≤ n := by
  rw [Bytes.length_significant_le_iff, List.any_eq_true]
  constructor
  · rintro ⟨x, hx, hne⟩ hzero
    obtain ⟨j, hj, rfl⟩ := List.mem_drop_iff_getElem.mp hx
    exact of_decide_eq_true hne (hzero _ _ (Nat.le_add_right n j))
  · intro h
    push Not at h
    obtain ⟨i, hi, hni, hne⟩ := h
    refine ⟨b[i], List.mem_drop_iff_getElem.mpr ⟨i - n, by omega, ?_⟩, decide_eq_true hne⟩
    simp only [Nat.add_sub_cancel' hni]

/-- **Changing the length** looks at the significant bytes alone: they are filled up to the
length if they fit into it. -/
theorem convertBytes_resize (n : ℕ) (b : Bytes) :
    convertBytes (.resize n) b =
      if (significant b).length ≤ n then .ok (padRight n (significant b))
      else .error (.overflow .truncation) := by
  rw [convertBytes]
  by_cases h : (significant b).length ≤ n
  · have hany : ¬((b.drop n).any (· ≠ 0)) = true := by
      rw [any_drop_ne_zero_iff]
      exact not_not.mpr h
    rw [if_neg hany, if_pos h]
    refine congrArg Except.ok (Bytes.eq_of_significant_eq ?_ ?_)
    · rw [length_padRight h, length_padRight (List.length_take_le n b)]
    · rw [significant_padRight, significant_padRight, Bytes.significant_take h,
        Bytes.significant_significant]
  · rw [if_pos (any_drop_ne_zero_iff.mpr h), if_neg h]

private theorem convertBytes_resize_eq_ok_iff :
    convertBytes (.resize n) b = .ok out ↔
      (significant b).length ≤ n ∧ out.length = n ∧ significant out = significant b := by
  rw [convertBytes_resize]
  split_ifs with h
  · rw [Except.ok.injEq]
    constructor
    · rintro rfl
      refine ⟨h, length_padRight h, ?_⟩
      rw [significant_padRight, Bytes.significant_significant]
    · rintro ⟨-, hlength, hsignificant⟩
      refine Bytes.eq_of_significant_eq ?_ ?_
      · rw [length_padRight h, hlength]
      · rw [significant_padRight, Bytes.significant_significant, hsignificant]
  · exact iff_of_false (by simp) fun hok => h hok.1

/-- Byte sequences with the same significant bytes become the same of any length. -/
private theorem convertBytes_resize_congr (h : significant b = significant out) (k : ℕ) :
    convertBytes (.resize k) b = convertBytes (.resize k) out := by
  rw [convertBytes_resize, convertBytes_resize, h]

/-! ### All conversions of byte sequences -/

/-- What a conversion asks of a byte sequence. -/
def Accepts : BinaryCast → Bytes → Prop
  | padToFixed n, b => b.length ≤ n
  | resize n, b => ∀ i (h : i < b.length), n ≤ i → b[i] = 0
  | validateUtf8, b => Utf8.WellFormed b
  | unfix, _ | passThrough, _ => True

/-- The length that a conversion gives to every byte sequence. -/
def length? : BinaryCast → Option ℕ
  | padToFixed n | resize n => some n
  | unfix | validateUtf8 | passThrough => none

/-- What a conversion makes of a byte sequence that it accepts: the same significant bytes, at
the length of the conversion or with nothing changed. -/
structure Outcome (c : BinaryCast) (before after : Bytes) : Prop where
  accepts : c.Accepts before
  significant_eq : after.significant = before.significant
  length : ∀ n, c.length? = some n → after.length = n
  same : c.length? = none → after = before

private theorem accepts_resize_iff : (resize n).Accepts b ↔ (significant b).length ≤ n :=
  Bytes.length_significant_le_iff.symm

/-- A conversion without a length of its own leaves what it accepts as it is. -/
private theorem outcome_of_length?_eq_none (h : c.length? = none) :
    c.Outcome b out ↔ c.Accepts b ∧ b = out := by
  constructor
  · intro ho
    exact ⟨ho.accepts, (ho.same h).symm⟩
  · rintro ⟨haccepts, rfl⟩
    exact ⟨haccepts, rfl, fun n hn => by simp [h] at hn, fun _ => rfl⟩

/-- **Conversions of byte sequences.** A conversion gives exactly its outcome. -/
theorem convertBytes_eq_ok_iff : c.convertBytes b = .ok out ↔ c.Outcome b out := by
  cases c with
  | padToFixed n =>
    rw [convertBytes]
    split_ifs with h
    · exact iff_of_false (by simp) fun ho => (not_le.mpr h) ho.accepts
    · have hle : b.length ≤ n := not_lt.mp h
      rw [Except.ok.injEq]
      constructor
      · rintro rfl
        exact ⟨hle, significant_padRight n b,
          fun _ hn => Option.some.inj hn ▸ length_padRight hle,
          fun hnone => absurd hnone (Option.some_ne_none n)⟩
      · intro ho
        refine Bytes.eq_of_significant_eq ?_ ?_
        · rw [length_padRight hle, ho.length n rfl]
        · rw [significant_padRight, ho.significant_eq]
  | resize n =>
    rw [convertBytes_resize_eq_ok_iff]
    constructor
    · rintro ⟨hle, hlength, hsignificant⟩
      exact ⟨accepts_resize_iff.mpr hle, hsignificant, fun _ hn => Option.some.inj hn ▸ hlength,
        fun hnone => absurd hnone (Option.some_ne_none n)⟩
    · intro ho
      exact ⟨accepts_resize_iff.mp ho.accepts, ho.length n rfl, ho.significant_eq⟩
  | validateUtf8 =>
    rw [outcome_of_length?_eq_none rfl, Accepts, convertBytes, ← Utf8.isSome_decode?_iff]
    split_ifs with h
    · simp [h]
    · simp [h]
  | unfix =>
    rw [outcome_of_length?_eq_none rfl]
    simp [Accepts, convertBytes]
  | passThrough =>
    rw [outcome_of_length?_eq_none rfl]
    simp [Accepts, convertBytes]

/-- What is accepted has an outcome. -/
private theorem exists_outcome_iff : (∃ out, c.Outcome b out) ↔ c.Accepts b := by
  refine ⟨fun ⟨_, h⟩ => h.accepts, fun h => ?_⟩
  cases c with
  | padToFixed n =>
    refine ⟨padRight n b, h, significant_padRight n b, fun _ hn => ?_, nofun⟩
    exact Option.some.inj hn ▸ length_padRight h
  | resize n =>
    have hle := accepts_resize_iff.mp h
    refine ⟨padRight n (significant b), h, ?_, fun _ hn => ?_, nofun⟩
    · rw [significant_padRight, Bytes.significant_significant]
    · exact Option.some.inj hn ▸ length_padRight hle
  | _ => exact ⟨b, (outcome_of_length?_eq_none rfl).mpr ⟨h, rfl⟩⟩

private theorem convert_bytes_eq_ok_iff {w : Value} :
    c.convert (.bytes b) = .ok w ↔ ∃ out, w = .bytes out ∧ c.Outcome b out := by
  constructor
  · intro h
    obtain ⟨before, after, hbefore, rfl, hconvert⟩ := exists_bytes_of_convert h
    obtain rfl := Value.bytes.inj hbefore
    exact ⟨after, rfl, convertBytes_eq_ok_iff.mp hconvert⟩
  · rintro ⟨out, rfl, h⟩
    rw [convert, convertBytes_eq_ok_iff.mpr h]
    rfl

/-- **Nothing but zero bytes at the end is lost.** A conversion of byte sequences succeeds
exactly on those it accepts and keeps their significant bytes, at its length or as they were. A
change of the length can be followed by any other one as if it had not taken place, and the one
to the old length undoes it. -/
theorem convert_keeps_significant :
    (∀ (c : BinaryCast) (b : Bytes), (∃ w, c.convert (.bytes b) = .ok w) ↔ c.Accepts b) ∧
    (∀ (c : BinaryCast) (b : Bytes) (w : Value),
      c.convert (.bytes b) = .ok w ↔ ∃ out, w = .bytes out ∧ c.Outcome b out) ∧
    ∀ (m : ℕ) (b : Bytes) (w : Value), (resize m).convert (.bytes b) = .ok w →
      (∀ k, (resize k).convert w = (resize k).convert (.bytes b)) ∧
        (resize b.length).convert w = .ok (.bytes b) := by
  refine ⟨fun c b => ?_, fun c b w => convert_bytes_eq_ok_iff, fun m b w h => ?_⟩
  · rw [← exists_outcome_iff]
    constructor
    · rintro ⟨w, hw⟩
      obtain ⟨out, -, hout⟩ := convert_bytes_eq_ok_iff.mp hw
      exact ⟨out, hout⟩
    · rintro ⟨out, hout⟩
      exact ⟨_, convert_bytes_eq_ok_iff.mpr ⟨out, rfl, hout⟩⟩
  · obtain ⟨out, rfl, hout⟩ := convert_bytes_eq_ok_iff.mp h
    have hagain (k : ℕ) : (resize k).convert (.bytes out) = (resize k).convert (.bytes b) := by
      rw [convert, convert, convertBytes_resize_congr hout.significant_eq]
    refine ⟨hagain, ?_⟩
    rw [hagain, convert_bytes_eq_ok_iff]
    refine ⟨b, rfl, ?_, rfl, fun _ hn => Option.some.inj hn, fun _ => rfl⟩
    exact accepts_resize_iff.mpr (Bytes.length_significant_le b)

/-- Three zero bytes are cut off and put back. -/
theorem convert_keeps_significant_five_bytes :
    (resize 2).convert (.bytes [104, 105, 0, 0, 0]) = .ok (.bytes [104, 105]) ∧
      (resize 5).convert (.bytes [104, 105]) = .ok (.bytes [104, 105, 0, 0, 0]) := by
  have h : (resize 2).convert (.bytes [104, 105, 0, 0, 0]) = .ok (.bytes [104, 105]) := by
    decide
  exact ⟨h, (convert_keeps_significant.2.2 2 _ _ h).2⟩

end BinaryCast

end ColumnCast
