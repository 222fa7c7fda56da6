import ColumnCast.Proofs.Bytes.Signed
import ColumnCast.Unscaled
import Mathlib.Data.Set.Function
import Mathlib.Tactic.NormNum

/-!
# The two's complement codec

`TwosComplement.encode` writes `max (byteLength v) minLength` bytes that decode to the value
(`decode_encode`), and decoding non-empty bytes and encoding at the same length gives the bytes
back (`encode_decode`). `byteLength v` is the least count of bytes whose range includes the
value (`byteLength_le_iff`), so no shorter sequence decodes to it. Bytes in front that repeat the
sign do not change the value (`decode_replicate_append`), and these are what a greater length adds
(`encode_eq_replicate_append`). So at each length the codec is a bijection (`codec_exact`).
-/

namespace ColumnCast

namespace TwosComplement

/-- The range of `k` bytes in two's complement includes the value. -/
def InRange (k : ℕ) (v : ℤ) : Prop :=
  -2 ^ (8 * k - 1) ≤ v ∧ v < 2 ^ (8 * k - 1)

variable {k : ℕ} {v : ℤ}

/-- The range in terms of the number of patterns. -/
private theorem inRange_iff (hk : 0 < k) :
    InRange k v ↔ -(pow256 k : ℤ) ≤ 2 * v ∧ 2 * v < pow256 k := by
  have hpow : (pow256 k : ℤ) = 2 * 2 ^ (8 * k - 1) := by
    rw [pow256_eq, ← pow_succ', show 8 * k - 1 + 1 = 8 * k by omega, pow_mul]
    norm_num
  rw [InRange, hpow]
  constructor <;> rintro ⟨h1, h2⟩ <;> constructor <;> linarith

private theorem bitLength_le_iff {n : ℕ} : bitLength v ≤ n ↔ -2 ^ n ≤ v ∧ v < 2 ^ n := by
  have hcast : ((2 ^ n : ℕ) : ℤ) = 2 ^ n := by push_cast; rfl
  have hmagnitude : (if 0 ≤ v then v.natAbs else (v + 1).natAbs) < 2 ^ n
      ↔ -2 ^ n ≤ v ∧ v < 2 ^ n := by
    rw [← hcast]
    split_ifs with hv <;> omega
  rw [← hmagnitude]
  unfold bitLength
  dsimp only
  generalize (if 0 ≤ v then v.natAbs else (v + 1).natAbs) = magnitude
  split_ifs with hzero
  · simp [hzero]
  · rw [Nat.succ_le_iff, Nat.log2_lt hzero]

/-- **Minimal width.** A value needs at most `k` bytes when it is in their range. -/
theorem byteLength_le_iff (hk : 0 < k) : byteLength v ≤ k ↔ InRange k v := by
  rw [InRange, ← bitLength_le_iff, byteLength]
  omega

theorem byteLength_pos (v : ℤ) : 0 < byteLength v :=
  Nat.succ_pos _

@[simp]
theorem length_encode (v : ℤ) (minLength : ℕ) :
    (encode v minLength).length = max (byteLength v) minLength := by
  rw [encode, List.length_reverse, Bytes.length_ofNat]

/-- **Decoding what was encoded.** Every value survives, at every least width. -/
theorem decode_encode (v : ℤ) (minLength : ℕ) : decode (encode v minLength) = v := by
  have hpos : 0 < max (byteLength v) minLength := lt_max_of_lt_left (byteLength_pos v)
  obtain ⟨hlow, hhigh⟩ :=
    (inRange_iff hpos).mp ((byteLength_le_iff hpos).mp (le_max_left _ minLength))
  rw [decode, length_encode, encode, List.reverse_reverse, Bytes.littleEndian_ofNat,
    Nat.mod_eq_of_lt (Bytes.pattern_lt _ v)]
  exact Bytes.signed_pattern hlow hhigh

/-- Bytes decode into the range of their count. -/
theorem inRange_decode {bytes : Bytes} (hbytes : bytes ≠ []) :
    InRange bytes.length (decode bytes) := by
  have hlt := Bytes.littleEndian_lt bytes.reverse
  rw [List.length_reverse] at hlt
  exact (inRange_iff (List.length_pos_iff.mpr hbytes)).mpr (Bytes.signed_bounds hlt)

theorem byteLength_decode_le {bytes : Bytes} (hbytes : bytes ≠ []) :
    byteLength (decode bytes) ≤ bytes.length :=
  (byteLength_le_iff (List.length_pos_iff.mpr hbytes)).mpr (inRange_decode hbytes)

/-- **Encoding what was decoded.** Non-empty bytes come back at their own length. -/
theorem encode_decode {bytes : Bytes} (hbytes : bytes ≠ []) :
    encode (decode bytes) bytes.length = bytes := by
  have hlt := Bytes.littleEndian_lt bytes.reverse
  have hback := Bytes.ofNat_littleEndian bytes.reverse
  rw [List.length_reverse] at hlt hback
  rw [encode, max_eq_right (byteLength_decode_le hbytes), decode, Bytes.pattern_signed hlt,
    hback, List.reverse_reverse]

/-! ### Sign extension -/

/-- The byte that repeats the sign of a value. -/
def signByte (v : ℤ) : UInt8 :=
  if v < 0 then 0xff else 0x00

/-- One byte of the sign in front does not change the value. -/
private theorem decode_cons_signByte (bytes : Bytes) :
    decode (signByte (decode bytes) :: bytes) = decode bytes := by
  have hlt := Bytes.littleEndian_lt bytes.reverse
  have hvalue : decode bytes = Bytes.signed bytes.length (Bytes.littleEndian bytes.reverse) := rfl
  have hpow : pow256 (bytes.length + 1) = pow256 bytes.length * 256 := pow_succ 256 _
  rw [List.length_reverse] at hlt
  unfold Bytes.signed at hvalue
  split_ifs at hvalue with hsign
  · have hbyte : (signByte (decode bytes)).toNat = 0 := by
      rw [signByte, if_neg (by omega)]
      rfl
    rw [decode, Bytes.littleEndian_reverse_cons, hbyte, mul_zero, add_zero, Bytes.signed,
      List.length_cons, if_pos (by omega), hvalue]
  · have hbyte : (signByte (decode bytes)).toNat = 255 := by
      rw [signByte, if_pos (by omega)]
      rfl
    rw [decode, Bytes.littleEndian_reverse_cons, hbyte, Bytes.signed, List.length_cons,
      if_neg (by omega), hvalue]
    push_cast [hpow]
    ring

/-- **Sign extension.** Any number of bytes of the sign in front do not change the value. -/
theorem decode_replicate_append (n : ℕ) (bytes : Bytes) :
    decode (List.replicate n (signByte (decode bytes)) ++ bytes) = decode bytes := by
  induction n with
  | zero => rfl
  | succ n ih =>
    have hstep :=
      decode_cons_signByte (List.replicate n (signByte (decode bytes)) ++ bytes)
    rw [ih] at hstep
    exact hstep

/-- The length that is written can be asked for. -/
private theorem encode_max (v : ℤ) (minLength : ℕ) :
    encode v (max (byteLength v) minLength) = encode v minLength := by
  unfold encode
  rw [max_eq_right (le_max_left (byteLength v) minLength)]

/-- **Extension of what is written.** A greater length adds bytes of the sign in front. -/
theorem encode_eq_replicate_append (v : ℤ) (minLength : ℕ) :
    encode v minLength =
      List.replicate (minLength - byteLength v) (signByte v) ++ encode v 0 := by
  have hvalue := decode_replicate_append (minLength - byteLength v) (encode v 0)
  rw [decode_encode] at hvalue
  have hlength : (List.replicate (minLength - byteLength v) (signByte v) ++ encode v 0).length =
      max (byteLength v) minLength := by
    rw [List.length_append, List.length_replicate, length_encode]
    omega
  have hne : List.replicate (minLength - byteLength v) (signByte v) ++ encode v 0 ≠ [] := by
    rw [← List.length_pos_iff, hlength]
    exact lt_max_of_lt_left (byteLength_pos v)
  -- both sides are the bytes of the value at one length
  have hback := encode_decode hne
  rw [hvalue, hlength, encode_max] at hback
  exact hback

/-! ### The codec at one length -/

private theorem isLeast_byteLength (v : ℤ) : IsLeast {k : ℕ | 0 < k ∧ InRange k v} (byteLength v) :=
  ⟨⟨byteLength_pos v, (byteLength_le_iff (byteLength_pos v)).mp le_rfl⟩,
    fun _ ⟨hk, hrange⟩ => (byteLength_le_iff hk).mpr hrange⟩

/-- The byte sequences of one length stand for the values of their range, each for another. -/
private theorem bijOn_decode {n : ℕ} (hn : 0 < n) :
    Set.BijOn decode {bytes : Bytes | bytes.length = n} {v : ℤ | InRange n v} := by
  have hne {bytes : Bytes} (hlength : bytes.length = n) : bytes ≠ [] :=
    List.length_pos_iff.mp (hlength ▸ hn)
  refine ⟨fun bytes hlength => ?_, fun bytes hlength other hlength' heq => ?_, fun v hv => ?_⟩
  · have hrange := inRange_decode (hne hlength)
    rwa [hlength] at hrange
  · rw [← encode_decode (hne hlength), heq, hlength, ← hlength', encode_decode (hne hlength')]
  · have hlength : (encode v n).length = n := by
      rw [length_encode, max_eq_right ((byteLength_le_iff hn).mpr hv)]
    exact ⟨encode v n, hlength, decode_encode v n⟩

/-- **The codec is exact.** A value is written on the fewest bytes that hold it, or on as many as
are asked for with bytes of its sign in front, and is read back. Bytes are written again as they
were read, so that at each length reading is a bijection onto the values that the length holds. -/
theorem codec_exact :
    (∀ (v : ℤ) (minLength : ℕ), ∃ k : ℕ, IsLeast {k : ℕ | 0 < k ∧ InRange k v} k ∧
      (encode v minLength).length = max minLength k ∧
      encode v minLength = List.replicate (minLength - k) (signByte v) ++ encode v 0 ∧
      decode (encode v minLength) = v) ∧
    (∀ bytes : Bytes, bytes ≠ [] → encode (decode bytes) bytes.length = bytes) ∧
    ∀ n : ℕ, 0 < n →
      Set.BijOn decode {bytes : Bytes | bytes.length = n} {v : ℤ | InRange n v} := by
  refine ⟨fun v minLength => ⟨byteLength v, isLeast_byteLength v, ?_,
    encode_eq_replicate_append v minLength, decode_encode v minLength⟩,
    fun bytes => encode_decode, fun n => bijOn_decode⟩
  rw [length_encode, max_comm]

/-- Two bytes of `-129`, which one byte does not hold, are written again as they were read. -/
theorem codec_exact_two_bytes :
    decode [0xff, 0x7f] = -129 ∧ encode (-129) 2 = [0xff, 0x7f] ∧
      ∃ bytes : Bytes, bytes.length = 2 ∧ decode bytes = -2 ^ 15 := by
  obtain ⟨-, hback, hbijective⟩ := codec_exact
  refine ⟨by decide, hback [0xff, 0x7f] (by decide), ?_⟩
  exact (hbijective 2 (by decide)).surjOn (show InRange 2 (-2 ^ 15) from ⟨by decide, by decide⟩)

end TwosComplement

end ColumnCast
