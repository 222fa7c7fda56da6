import ColumnCast.Bytes
import Mathlib.Data.List.Lex
import Mathlib.Data.String.Basic
import Mathlib.Tactic.SplitIfs

/-!
# Texts and their bytes

`Utf8.decode?` inverts `Utf8.encode` (`Utf8.decode?_eq_some_iff`), so it answers exactly for the
well-formed byte sequences (`Utf8.isSome_decode?_iff`).

UTF-8 keeps the order of characters: of two characters the one with the lesser code point has the
lesser bytes, whatever follows (`Utf8.encodeChar_append_lt`). So texts are ordered as their bytes
are (`Utf8.encode_lt_iff`).
-/

namespace ColumnCast

/-! ### Decoding -/

namespace Utf8

/-- A text is decoded from its bytes and from no others. -/
theorem decode?_eq_some_iff {bytes : Bytes} {cs : List Char} :
    decode? bytes = some cs ↔ encode cs = bytes := by
  have hencode : ∀ ds : List Char, (encode ds).toByteArray = ds.utf8Encode := fun _ => rfl
  unfold decode?
  rw [Option.map_eq_some_iff]
  constructor
  · rintro ⟨chars, hdecode, rfl⟩
    have hsome : bytes.toByteArray.utf8Decode?.isSome := by rw [hdecode]; rfl
    have hback := ByteArray.utf8Encode_get_utf8Decode? (h := hsome)
    simp only [hdecode, Option.get_some] at hback
    rw [← hencode] at hback
    exact List.toByteArray_inj.mp hback
  · rintro rfl
    exact ⟨cs.toArray, by rw [hencode, List.utf8Decode?_utf8Encode], List.toList_toArray⟩

theorem isSome_decode?_iff {bytes : Bytes} : (decode? bytes).isSome ↔ WellFormed bytes := by
  simp only [Option.isSome_iff_exists, decode?_eq_some_iff, WellFormed]

/-! ### Numbers as bytes -/

/-- A way to write the numbers below a bound as bytes **keeps their order**: of two numbers the
lesser one's bytes come first, whatever follows. -/
def KeepsOrder (bound : ℕ) (f : ℕ → Bytes) : Prop :=
  ∀ ⦃m n⦄, m < n → n < bound → ∀ x y : Bytes, f m ++ x < f n ++ y

variable {bound : ℕ} {f g : ℕ → Bytes}

private theorem ofNat_lt_ofNat {m n : ℕ} (hmn : m < n) (hn : n < 256) :
    UInt8.ofNat m < UInt8.ofNat n := by
  rw [UInt8.lt_iff_toNat_lt, UInt8.toNat_ofNat_of_lt' (hmn.trans hn), UInt8.toNat_ofNat_of_lt' hn]
  exact hmn

/-- A single byte keeps the order of the numbers that it marks. -/
private theorem KeepsOrder.singleton (width mark : ℕ) (h : width + mark ≤ 256) :
    KeepsOrder width fun m => [UInt8.ofNat (m % width + mark)] := by
  intro m n hmn hn x y
  have hm := Nat.mod_eq_of_lt (hmn.trans hn)
  have hn' := Nat.mod_eq_of_lt hn
  exact List.cons_lt_cons_iff.mpr (.inl (ofNat_lt_ofNat (by omega) (by omega)))

/-- One more byte keeps the order of numbers of six more bits. -/
private theorem KeepsOrder.continued (h : KeepsOrder bound f) :
    KeepsOrder (bound * 64) fun m => f (m / 64) ++ [UInt8.ofNat (m % 64 + 128)] := by
  intro m n hmn hn x y
  rw [List.append_assoc, List.append_assoc]
  rcases (Nat.div_le_div_right hmn.le : m / 64 ≤ n / 64).lt_or_eq with hlt | heq
  · exact h hlt (Nat.div_lt_of_lt_mul (by omega)) _ _
  · rw [heq]
    refine List.append_left_lt (List.cons_lt_cons_iff.mpr (.inl ?_))
    exact ofNat_lt_ofNat (by omega) (by omega)

/-- Numbers up to a limit can be written in another way than the ones above it, whose first bytes
are greater. -/
private theorem KeepsOrder.ite {limit : ℕ} (hf : KeepsOrder (limit + 1) f) (hg : KeepsOrder bound g)
    (hhead : ∀ m n, m ≤ limit → limit < n → n < bound →
      ∃ p q s t, f m = UInt8.ofNat p :: s ∧ g n = UInt8.ofNat q :: t ∧ p < q ∧ q < 256) :
    KeepsOrder bound fun m => if m ≤ limit then f m else g m := by
  intro m n hmn hn x y
  dsimp only
  by_cases hm : m ≤ limit
  · by_cases hnl : n ≤ limit
    · rw [if_pos hm, if_pos hnl]
      exact hf hmn (by omega) x y
    · rw [if_pos hm, if_neg hnl]
      obtain ⟨p, q, s, t, hp, hq, hpq, hlt⟩ := hhead m n hm (by omega) hn
      rw [hp, hq]
      exact List.cons_lt_cons_iff.mpr (.inl (ofNat_lt_ofNat hpq hlt))
  · rw [if_neg hm, if_neg (by omega)]
    exact hg hmn hn x y

/-! ### Characters and texts -/

/-- **Characters.** Of two characters the lesser one's bytes come first, whatever follows. -/
theorem encodeChar_append_lt {c d : Char} (h : c < d) (x y : Bytes) :
    String.utf8EncodeChar c ++ x < String.utf8EncodeChar d ++ y := by
  have hd : d.val.toNat < 0x200000 := by
    rcases d.valid with hlow | ⟨-, hhigh⟩
    · omega
    · omega
  have one : KeepsOrder 128 fun m => [UInt8.ofNat m] := by
    intro m n hmn hn x y
    exact List.cons_lt_cons_iff.mpr (.inl (ofNat_lt_ofNat hmn (by omega)))
  have two : KeepsOrder 2048 fun m =>
      [UInt8.ofNat (m / 64 % 32 + 192), UInt8.ofNat (m % 64 + 128)] :=
    (KeepsOrder.singleton 32 192 (by decide)).continued
  have three : KeepsOrder 65536 fun m =>
      [UInt8.ofNat (m / 4096 % 16 + 224), UInt8.ofNat (m / 64 % 64 + 128),
        UInt8.ofNat (m % 64 + 128)] := by
    simpa [Nat.div_div_eq_div_mul] using
      (KeepsOrder.singleton 16 224 (by decide)).continued.continued
  have four : KeepsOrder 2097152 fun m =>
      [UInt8.ofNat (m / 262144 % 8 + 240), UInt8.ofNat (m / 4096 % 64 + 128),
        UInt8.ofNat (m / 64 % 64 + 128), UInt8.ofNat (m % 64 + 128)] := by
    simpa [Nat.div_div_eq_div_mul] using
      (KeepsOrder.singleton 8 240 (by decide)).continued.continued.continued
  -- the first byte tells how many follow, and more of them for a greater one
  have hall := one.ite (two.ite (three.ite four fun m n hm hn hbound => ?_)
    fun m n hm hn hbound => ?_) fun m n hm hn hbound => ?_
  · exact hall h hd x y
  · exact ⟨_, _, _, _, rfl, rfl, by omega, by omega⟩
  · split_ifs <;> exact ⟨_, _, _, _, rfl, rfl, by omega, by omega⟩
  · split_ifs <;> exact ⟨_, _, _, _, rfl, rfl, by omega, by omega⟩

private theorem encode_cons (c : Char) (cs : List Char) :
    encode (c :: cs) = String.utf8EncodeChar c ++ encode cs :=
  rfl

private theorem encode_nil_lt_cons (c : Char) (cs : List Char) : encode [] < encode (c :: cs) := by
  rw [encode_cons]
  obtain ⟨b, rest, hbytes⟩ :=
    List.exists_cons_of_ne_nil (String.utf8EncodeChar_ne_nil (c := c))
  rw [hbytes]
  exact List.nil_lt_cons _ _

/-- The order of texts is kept by their bytes. -/
private theorem encode_lt_of_lt {cs ds : List Char} (h : cs < ds) : encode cs < encode ds := by
  induction cs generalizing ds with
  | nil =>
    cases ds with
    | nil => exact absurd h (List.lt_irrefl _)
    | cons d ds => exact encode_nil_lt_cons d ds
  | cons c cs ih =>
    cases ds with
    | nil => exact absurd h (List.not_lt_nil _)
    | cons d ds =>
      rw [encode_cons, encode_cons]
      rcases List.cons_lt_cons_iff.mp h with hlt | ⟨rfl, htail⟩
      · exact encodeChar_append_lt hlt _ _
      · exact List.append_left_lt (ih htail)

/-- **Texts** are ordered as their bytes are. -/
theorem encode_lt_iff {cs ds : List Char} : encode cs < encode ds ↔ cs < ds := by
  refine ⟨fun h => ?_, encode_lt_of_lt⟩
  rcases lt_trichotomy cs ds with hlt | rfl | hgt
  · exact hlt
  · exact absurd h (List.lt_irrefl _)
  · exact absurd h (List.lt_asymm (encode_lt_of_lt hgt))

end Utf8

end ColumnCast
