import GpuVirtmem.Lib.Bytes

/-!
# Fixed-width little-endian numbers

Both directions are recursions on the width or on the bytes, so that they evaluate. Nothing here has
a sign: a signed number is read as one of these and then interpreted.
-/

namespace GpuVirtmem.Lib

/-- The low `w` bytes of `n`, the lowest first. -/
def encodeLE : Nat → Nat → Bytes
  | 0, _ => []
  | w + 1, n => UInt8.ofNat n :: encodeLE w (n / 256)

/-- The number the bytes spell, the lowest first. -/
def decodeLE : Bytes → Nat
  | [] => 0
  | b :: bs => b.toNat + 256 * decodeLE bs

/-- The width is the length of the encoding for every number, also for one that does not fit and
loses its high bytes. Offsets behind a number can so be computed without looking at it. -/
@[simp] theorem encodeLE_length (w n : Nat) : (encodeLE w n).length = w := by
  induction w generalizing n with
  | zero => rfl
  | succ w ih => simp only [encodeLE, List.length_cons, ih]

/-- The round trip, for the numbers that fit. A number that does not is cut to its low bytes, so the
bound cannot be left out. -/
theorem decodeLE_encodeLE {w n : Nat} (h : n < 256 ^ w) : decodeLE (encodeLE w n) = n := by
  induction w generalizing n with
  | zero =>
    have hn : n = 0 := by simpa using h
    rw [hn]
    rfl
  | succ w ih =>
    have hq : n / 256 < 256 ^ w := by
      rw [Nat.pow_succ] at h
      omega
    have hb : (UInt8.ofNat n).toNat = n % 256 := by simp [UInt8.toNat_ofNat']
    simp only [encodeLE, decodeLE, ih hq, hb]
    omega

/-- Any bytes, from whatever source, spell a number that fits in their width. -/
theorem decodeLE_lt (bs : Bytes) : decodeLE bs < 256 ^ bs.length := by
  induction bs with
  | nil => exact Nat.one_pos
  | cons b bs ih =>
    have hb := b.toNat_lt
    rw [decodeLE, List.length_cons, Nat.pow_succ]
    omega

/-- All bytes spell a number, and writing the number gives the bytes back: with `decodeLE_encodeLE`
the numbers below `256 ^ w` and the blocks of `w` bytes are the same thing. -/
theorem encodeLE_decodeLE (bs : Bytes) : encodeLE bs.length (decodeLE bs) = bs := by
  induction bs with
  | nil => rfl
  | cons b bs ih =>
    have hb := b.toNat_lt
    have hlow : UInt8.ofNat (b.toNat + 256 * decodeLE bs) = b := by
      rw [← UInt8.toNat_inj, UInt8.toNat_ofNat']
      omega
    have hhigh : (b.toNat + 256 * decodeLE bs) / 256 = decodeLE bs := by omega
    rw [List.length_cons, encodeLE, decodeLE, hlow, hhigh, ih]

end GpuVirtmem.Lib
