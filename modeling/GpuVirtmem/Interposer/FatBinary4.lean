import GpuVirtmem.Interposer.PackStr

/-!
# CUDA 4 fat binaries in a packet (`interposer/libciutils.c`, `include/cudaFatBinary.h`)

The new format is a header with the length of a payload, the payload, and one string. The counter,
the encoder and the decoder agree on it: the packet has the counted size, and is decoded to the
binary it was made from with all of its bytes read.
-/

namespace GpuVirtmem.Interposer

open Lib Lib.Reader

/-- What `fatbinData` points to: a `__cudaFatCudaBinary2Header` with its payload after it. -/
structure FatbinData where
  magic : UInt32
  version : UInt32
  length : UInt64
  payload : { bs : Bytes // bs.length = length.toNat }

/-- `__cudaFatCudaBinary2`. -/
structure FatCudaBinary2 where
  magic : UInt32
  version : UInt32
  fatbinData : FatbinData
  f : Option CString

/-- `l_getFatRecPktSize_4`. -/
def lGetFatRecPktSize4 (b : FatCudaBinary2) : Nat :=
  4 + 4 + (4 + 4 + 8) + b.fatbinData.length.toNat + lGetStringPktSize b.f

/-- `getFatRecPktSize_4`. -/
def getFatRecPktSize4 (b : FatCudaBinary2) : Nat := lGetFatRecPktSize4 b

/-- `l_packFatBinary_4`. -/
def lPackFatBinary4 (b : FatCudaBinary2) : Bytes :=
  let header := b.fatbinData
  encodeLE 4 b.magic.toNat ++ (encodeLE 4 b.version.toNat ++
    (encodeLE 4 header.magic.toNat ++ (encodeLE 4 header.version.toNat ++
      (encodeLE 8 header.length.toNat ++ (header.payload.val ++ lPackStr b.f)))))

/-- `packFatBinary_4`. -/
def packFatBinary4 (b : FatCudaBinary2) : Bytes := lPackFatBinary4 b

/-- The part of `unpackFatBinary_4` that fills `fatbinData`. -/
def unpackFatbinData : Reader FatbinData := do
  let magic ← u32
  let version ← u32
  let length ← u64
  let payload ← block length.toNat
  return { magic := magic, version := version, length := length, payload := payload }

/-- `unpackFatBinary_4`. -/
def unpackFatBinary4 : Reader FatCudaBinary2 := do
  let magic ← u32
  let version ← u32
  let fatbinData ← unpackFatbinData
  let f ← lUnpackStr
  return { magic := magic, version := version, fatbinData := fatbinData, f := f }

/-- What `unpackFatBinary_4` makes of a binary that `packFatBinary_4` wrote. -/
def FatCudaBinary2.decoded (b : FatCudaBinary2) : FatCudaBinary2 := { b with f := unpacked b.f }

/-- The counted size, added up in the order of the fields. -/
theorem packFatBinary4_length (b : FatCudaBinary2) :
    (packFatBinary4 b).length = getFatRecPktSize4 b := by
  have hpayload := b.fatbinData.payload.property
  simp only [packFatBinary4, lPackFatBinary4, getFatRecPktSize4, lGetFatRecPktSize4,
    List.length_append, encodeLE_length, lPackStr_length, hpayload]
  omega

/-- The bytes of `fatbinData` in a packet. -/
def packFatbinData (d : FatbinData) : Bytes :=
  encodeLE 4 d.magic.toNat ++ (encodeLE 4 d.version.toNat ++
    (encodeLE 8 d.length.toNat ++ d.payload.val))

/-- The packet as fields one behind the other, as the decoder takes it. -/
theorem packFatBinary4_eq (b : FatCudaBinary2) :
    packFatBinary4 b = encodeLE 4 b.magic.toNat ++ (encodeLE 4 b.version.toNat ++
      (packFatbinData b.fatbinData ++ lPackStr b.f)) := by
  simp only [packFatBinary4, lPackFatBinary4, packFatbinData, List.append_assoc]

/-- The header and its payload. -/
theorem reads_unpackFatbinData (d : FatbinData) :
    Reads unpackFatbinData (packFatbinData d) d := by
  have hpayload := (reads_block d.payload).map fun payload =>
    FatbinData.mk d.magic d.version d.length payload
  exact (reads_u32 d.magic).bind ((reads_u32 d.version).bind ((reads_u64 d.length).bind hpayload))

/-- The string is no longer than the packet it is in. -/
theorem lPackStr_length_le (b : FatCudaBinary2) :
    (lPackStr b.f).length ≤ (packFatBinary4 b).length := by
  simp only [packFatBinary4, lPackFatBinary4, List.length_append]
  omega

/-- The decoder is the composition of those of the fields, so that `Reads` composes. -/
theorem reads_unpackFatBinary4 {b : FatCudaBinary2} (h : (packFatBinary4 b).length < 2 ^ 31) :
    Reads unpackFatBinary4 (packFatBinary4 b) b.decoded := by
  have hlt : (lPackStr b.f).length < 2 ^ 32 :=
    Nat.lt_trans (Nat.lt_of_le_of_lt (lPackStr_length_le b) h) (by decide)
  have hf := (reads_lUnpackStr hlt).map fun f =>
    FatCudaBinary2.mk b.magic b.version b.fatbinData f
  rw [packFatBinary4_eq]
  exact (reads_u32 b.magic).bind ((reads_u32 b.version).bind
    ((reads_unpackFatbinData b.fatbinData).bind hf))

/-- The second binary is the first one. -/
structure Rebuilt4 (b u : FatCudaBinary2) : Prop where
  magic : u.magic = b.magic
  version : u.version = b.version
  fatbinData : u.fatbinData = b.fatbinData
  f : Same b.f u.f

/-- What is decoded agrees with what was packed, up to the pointers. -/
theorem rebuilt4_decoded (b : FatCudaBinary2) : Rebuilt4 b b.decoded :=
  ⟨rfl, rfl, rfl, same_unpacked b.f⟩

/-- The encoder writes the counted number of bytes, and the decoder reads exactly those, whatever
follows, and rebuilds the binary.

The proof is a composition: every field is read back from its own bytes, whatever comes behind
them. -/
theorem fat_binary_4_round_trip (b : FatCudaBinary2) (h : getFatRecPktSize4 b < 2 ^ 31)
    (rest : Bytes) :
    (packFatBinary4 b).length = getFatRecPktSize4 b ∧
      ∃ u, unpackFatBinary4 (packFatBinary4 b ++ rest) = .ok (u, (packFatBinary4 b).length) ∧
        Rebuilt4 b u := by
  have hlen := packFatBinary4_length b
  exact ⟨hlen, b.decoded, reads_unpackFatBinary4 (hlen ▸ h) rest, rebuilt4_decoded b⟩

/-- A binary with a payload of two bytes and no string. -/
def sampleBinary2 : FatCudaBinary2 :=
  { magic := 0x466243b1, version := 1, f := none
    fatbinData := { magic := 0xba55ed50, version := 1, length := 2, payload := ⟨[8, 9], rfl⟩ } }

/-- A binary with a payload and a name, and one byte behind it. -/
theorem fat_binary_4_round_trip_sample :
    (packFatBinary4 sampleBinary2).length = getFatRecPktSize4 sampleBinary2 ∧
      ∃ u, unpackFatBinary4 (packFatBinary4 sampleBinary2 ++ [7]) =
          .ok (u, (packFatBinary4 sampleBinary2).length) ∧ Rebuilt4 sampleBinary2 u :=
  fat_binary_4_round_trip sampleBinary2 (by decide) [7]

end GpuVirtmem.Interposer
