import GpuVirtmem.Lib.Codec

/-!
# Strings in a packet (`interposer/libciutils.c`)

A string is sent as its length and its characters. A NULL pointer and the empty string are both sent
as length 0, which is decoded to NULL: a string comes back up to that identification (`Same`).

The identification of NULL and the empty string is harmless for a string by itself. It is not
harmless where a table is ended by an entry of NULLs, which is why the results on tables come in two
kinds: what is decoded (`FatRoundTrip`) and how far a reader of the decoded table gets
(`TableLength`).
-/

namespace GpuVirtmem.Interposer

open Lib Lib.Reader

/-- The string a `char *` stands for, NULL being taken for `""`. -/
def text (s : Option CString) : CString := s.getD .empty

/-- The two pointers stand for the same string. -/
def Same (s t : Option CString) : Prop := text s = text t

/-- `l_getStringPktSize`. -/
def lGetStringPktSize (string : Option CString) : Nat := 4 + (text string).bytes.length

/-- `l_packStr`. -/
def lPackStr (pSrc : Option CString) : Bytes :=
  encodeLE 4 (text pSrc).bytes.length ++ (text pSrc).bytes

/-- `l_unpackStr`. The copied characters are followed by a NUL, so the string ends at the first. -/
def lUnpackStr : Reader (Option CString) := do
  let length ← number 4
  if length = 0 then
    return none
  else
    let pDst ← take length
    return CString.read (pDst ++ [0])

/-- What `l_unpackStr` makes of a string that `l_packStr` wrote. -/
def unpacked (s : Option CString) : Option CString :=
  if text s = .empty then none else some (text s)

/-- What comes back is the same string, up to NULL and the empty string. -/
theorem same_unpacked (s : Option CString) : Same s (unpacked s) := by
  unfold Same unpacked
  split
  · next h => exact h
  · rfl

/-- A string comes back as NULL exactly if it was empty or NULL. -/
theorem unpacked_isSome (s : Option CString) :
    (unpacked s).isSome = true ↔ text s ≠ .empty := by
  unfold unpacked
  split
  · next h => simp [h]
  · next h => simp [h]

/-- The length that is counted for it. -/
theorem lPackStr_length (s : Option CString) : (lPackStr s).length = lGetStringPktSize s := by
  simp only [lPackStr, lGetStringPktSize, List.length_append, encodeLE_length]

/-- A string takes a place in the packet also where it is empty. -/
theorem lPackStr_pos (s : Option CString) : 0 < (lPackStr s).length := by
  rw [lPackStr_length, lGetStringPktSize]
  omega

theorem lPackStr_append_pos (s : Option CString) (bs : Bytes) :
    0 < (lPackStr s ++ bs).length := by
  rw [List.length_append]
  exact Nat.add_pos_left (lPackStr_pos s) bs.length

/-- A string whose length fits its field is read back. -/
theorem reads_lUnpackStr {s : Option CString} (h : (lPackStr s).length < 2 ^ 32) :
    Reads lUnpackStr (lPackStr s) (unpacked s) := by
  rw [lPackStr_length, lGetStringPktSize] at h
  have hlen : (text s).bytes.length < 256 ^ 4 := by omega
  refine (reads_number hlen).bind ?_
  unfold unpacked
  by_cases hs : text s = .empty
  · rw [if_pos hs, hs]
    exact Reads.pure none
  · have hne : (text s).bytes.length ≠ 0 := by
      intro hz
      exact hs (CString.ext (List.eq_nil_of_length_eq_zero hz))
    rw [if_neg hs, if_neg hne]
    have hr := (reads_take (text s).bytes).map fun pDst : Bytes => CString.read (pDst ++ [0])
    have hread : CString.read ((text s).bytes ++ [0]) = some (text s) := by
      have := CString.read_stored (text s) []
      rwa [List.append_nil] at this
    rwa [hread] at hr

end GpuVirtmem.Interposer
