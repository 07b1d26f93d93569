import GpuVirtmem.Lib.Codec
import GpuVirtmem.Remote.Method

/-!
# Packets (`include/packetheader.h`, `remote/remote_packet_types.h`)

A request and its response are a header and the memory image of one `cuda_packet_t`, which has the
same layout on both sides. The fields for the feedback to the second scheduler, and those no call
uses, are left out.

What is received is taken for a packet without a look at it, since it is copied over a structure.
That is the second half of the module: every block of the right size is the image of exactly one
header or packet, so that the receivers are total functions of what arrives.
-/

namespace GpuVirtmem.Remote

open Lib Lib.Reader

/-- `args_t`, a union of two words: `argi`, `argui` and the pointers are the first one,
`arr_argi` is both. -/
structure Arg where
  word0 : UInt64
  word1 : UInt64 := 0
  deriving DecidableEq, Repr

/-- The pointer that the argument holds. -/
def Arg.argp (a : Arg) : Nat := a.word0.toNat

/-- `ret_extra_t`, a union of one word: `err` is its lower half, `handle` is all of it. -/
structure RetExtra where
  err : UInt32
  upper : UInt32
  deriving DecidableEq, Repr

/-- `cuda_packet_t`. -/
structure CudaPacket where
  methodId : UInt16
  thrId : UInt64
  flags : UInt8
  args0 : Arg
  args1 : Arg
  args2 : Arg
  args3 : Arg
  retExVal : RetExtra
  vmmap : UInt64
  kmap : UInt64
  deriving DecidableEq, Repr

/-- `strm_hdr_t`. -/
structure StrmHdr where
  numCudaPkts : UInt32
  dataSize : UInt32
  deriving DecidableEq, Repr

/-! ## Images -/

/-- The image of a `strm_hdr_t`. -/
def StrmHdr.image (h : StrmHdr) : Bytes :=
  encodeLE 4 h.numCudaPkts.toNat ++ encodeLE 4 h.dataSize.toNat

/-- The `strm_hdr_t` with the given image. -/
def strmHdr : Reader StrmHdr := do
  let numCudaPkts ← u32
  let dataSize ← u32
  return { numCudaPkts := numCudaPkts, dataSize := dataSize }

/-- The image of an `args_t`. -/
def Arg.image (a : Arg) : Bytes := encodeLE 8 a.word0.toNat ++ encodeLE 8 a.word1.toNat

/-- The `args_t` with the given image. -/
def arg : Reader Arg := do
  let word0 ← u64
  let word1 ← u64
  return { word0 := word0, word1 := word1 }

/-- The image of a `ret_extra_t`. -/
def RetExtra.image (r : RetExtra) : Bytes := encodeLE 4 r.err.toNat ++ encodeLE 4 r.upper.toNat

/-- The `ret_extra_t` with the given image. -/
def retExtra : Reader RetExtra := do
  let err ← u32
  let upper ← u32
  return { err := err, upper := upper }

/-- The image of a `cuda_packet_t`. -/
def CudaPacket.image (p : CudaPacket) : Bytes :=
  encodeLE 2 p.methodId.toNat ++ (encodeLE 8 p.thrId.toNat ++ (encodeLE 1 p.flags.toNat ++
    (p.args0.image ++ (p.args1.image ++ (p.args2.image ++ (p.args3.image ++
      (p.retExVal.image ++ (encodeLE 8 p.vmmap.toNat ++ encodeLE 8 p.kmap.toNat))))))))

/-- The `cuda_packet_t` with the given image. -/
def cudaPacket : Reader CudaPacket := do
  let methodId ← u16
  let thrId ← u64
  let flags ← u8
  let args0 ← arg
  let args1 ← arg
  let args2 ← arg
  let args3 ← arg
  let retExVal ← retExtra
  let vmmap ← u64
  let kmap ← u64
  return {
    methodId := methodId, thrId := thrId, flags := flags
    args0 := args0, args1 := args1, args2 := args2, args3 := args3
    retExVal := retExVal, vmmap := vmmap, kmap := kmap }

/-- `sizeof(strm_hdr_t)`. -/
def sizeofStrmHdr : Nat := 8

/-- `sizeof(rpkt_t)`. -/
def sizeofRpkt : Nat := 99

/-- All headers have one size. -/
theorem StrmHdr.image_length (h : StrmHdr) : h.image.length = sizeofStrmHdr := by
  simp only [image, List.length_append, encodeLE_length, sizeofStrmHdr]

/-- All packets have one size, which is what both sides send and wait for. -/
theorem CudaPacket.image_length (p : CudaPacket) : p.image.length = sizeofRpkt := by
  simp only [image, Arg.image, RetExtra.image, List.length_append, encodeLE_length, sizeofRpkt]

/-- A header is read back from its image. -/
theorem reads_strmHdr (h : StrmHdr) : Reads strmHdr h.image h := by
  have hsize := (reads_u32 h.dataSize).map fun dataSize => StrmHdr.mk h.numCudaPkts dataSize
  exact (reads_u32 h.numCudaPkts).bind hsize

theorem reads_arg (a : Arg) : Reads arg a.image a := by
  have hword := (reads_u64 a.word1).map fun word1 => Arg.mk a.word0 word1
  exact (reads_u64 a.word0).bind hword

theorem reads_retExtra (r : RetExtra) : Reads retExtra r.image r := by
  have hupper := (reads_u32 r.upper).map fun upper => RetExtra.mk r.err upper
  exact (reads_u32 r.err).bind hupper

/-- A packet is read back from its image, field by field. -/
theorem reads_cudaPacket (p : CudaPacket) : Reads cudaPacket p.image p := by
  have hkmap := (reads_u64 p.kmap).map fun kmap => { p with kmap := kmap }
  exact (reads_u16 p.methodId).bind ((reads_u64 p.thrId).bind ((reads_u8 p.flags).bind
    ((reads_arg p.args0).bind ((reads_arg p.args1).bind ((reads_arg p.args2).bind
      ((reads_arg p.args3).bind ((reads_retExtra p.retExVal).bind
        ((reads_u64 p.vmmap).bind hkmap))))))))

/-! ## Every block of the right size is an image -/

/-- Bytes split in two. -/
theorem exists_append {bs : Bytes} {n m : Nat} (h : bs.length = n + m) :
    ∃ l r : Bytes, bs = l ++ r ∧ l.length = n ∧ r.length = m := by
  refine ⟨bs.take n, bs.drop n, (List.take_append_drop n bs).symm, ?_, ?_⟩
  · rw [List.length_take]
    omega
  · rw [List.length_drop]
    omega

/-- As many bytes as a number has are the encoding of one. -/
theorem exists_number {bs : Bytes} {w : Nat} (h : bs.length = w) :
    ∃ n, n < 256 ^ w ∧ encodeLE w n = bs := by
  subst h
  exact ⟨decodeLE bs, decodeLE_lt bs, encodeLE_decodeLE bs⟩

theorem exists_u8 {bs : Bytes} (h : bs.length = 1) : ∃ x : UInt8, encodeLE 1 x.toNat = bs := by
  obtain ⟨n, hn, rfl⟩ := exists_number h
  exact ⟨.ofNat n, congrArg (encodeLE 1) (UInt8.toNat_ofNat'.trans (Nat.mod_eq_of_lt hn))⟩

theorem exists_u16 {bs : Bytes} (h : bs.length = 2) : ∃ x : UInt16, encodeLE 2 x.toNat = bs := by
  obtain ⟨n, hn, rfl⟩ := exists_number h
  exact ⟨.ofNat n, congrArg (encodeLE 2) (UInt16.toNat_ofNat'.trans (Nat.mod_eq_of_lt hn))⟩

theorem exists_u32 {bs : Bytes} (h : bs.length = 4) : ∃ x : UInt32, encodeLE 4 x.toNat = bs := by
  obtain ⟨n, hn, rfl⟩ := exists_number h
  exact ⟨.ofNat n, congrArg (encodeLE 4) (UInt32.toNat_ofNat'.trans (Nat.mod_eq_of_lt hn))⟩

theorem exists_u64 {bs : Bytes} (h : bs.length = 8) : ∃ x : UInt64, encodeLE 8 x.toNat = bs := by
  obtain ⟨n, hn, rfl⟩ := exists_number h
  exact ⟨.ofNat n, congrArg (encodeLE 8) (UInt64.toNat_ofNat'.trans (Nat.mod_eq_of_lt hn))⟩

/-- Any bytes of that length are the image of a header. -/
theorem StrmHdr.exists_image {bs : Bytes} (h : bs.length = sizeofStrmHdr) :
    ∃ hdr : StrmHdr, hdr.image = bs := by
  obtain ⟨num, size, rfl, hnum, hsize⟩ := exists_append (n := 4) (m := 4) h
  obtain ⟨numCudaPkts, rfl⟩ := exists_u32 hnum
  obtain ⟨dataSize, rfl⟩ := exists_u32 hsize
  exact ⟨⟨numCudaPkts, dataSize⟩, rfl⟩

theorem Arg.exists_image {bs : Bytes} (h : bs.length = 16) : ∃ a : Arg, a.image = bs := by
  obtain ⟨low, high, rfl, hlow, hhigh⟩ := exists_append (n := 8) (m := 8) h
  obtain ⟨word0, rfl⟩ := exists_u64 hlow
  obtain ⟨word1, rfl⟩ := exists_u64 hhigh
  exact ⟨⟨word0, word1⟩, rfl⟩

theorem RetExtra.exists_image {bs : Bytes} (h : bs.length = 8) :
    ∃ r : RetExtra, r.image = bs := by
  obtain ⟨low, high, rfl, hlow, hhigh⟩ := exists_append (n := 4) (m := 4) h
  obtain ⟨err, rfl⟩ := exists_u32 hlow
  obtain ⟨upper, rfl⟩ := exists_u32 hhigh
  exact ⟨⟨err, upper⟩, rfl⟩

/-- Any bytes of the size of a packet are the image of one: a receiver that has got so many bytes
has got a packet, whatever was sent. -/
theorem CudaPacket.exists_image {bs : Bytes} (h : bs.length = sizeofRpkt) :
    ∃ p : CudaPacket, p.image = bs := by
  obtain ⟨method, bs, rfl, hmethod, h⟩ := exists_append (n := 2) (m := 97) h
  obtain ⟨thread, bs, rfl, hthread, h⟩ := exists_append (n := 8) (m := 89) h
  obtain ⟨flag, bs, rfl, hflag, h⟩ := exists_append (n := 1) (m := 88) h
  obtain ⟨arg0, bs, rfl, harg0, h⟩ := exists_append (n := 16) (m := 72) h
  obtain ⟨arg1, bs, rfl, harg1, h⟩ := exists_append (n := 16) (m := 56) h
  obtain ⟨arg2, bs, rfl, harg2, h⟩ := exists_append (n := 16) (m := 40) h
  obtain ⟨arg3, bs, rfl, harg3, h⟩ := exists_append (n := 16) (m := 24) h
  obtain ⟨ret, bs, rfl, hret, h⟩ := exists_append (n := 8) (m := 16) h
  obtain ⟨vm, k, rfl, hvm, hk⟩ := exists_append (n := 8) (m := 8) h
  obtain ⟨methodId, rfl⟩ := exists_u16 hmethod
  obtain ⟨thrId, rfl⟩ := exists_u64 hthread
  obtain ⟨flags, rfl⟩ := exists_u8 hflag
  obtain ⟨args0, rfl⟩ := Arg.exists_image harg0
  obtain ⟨args1, rfl⟩ := Arg.exists_image harg1
  obtain ⟨args2, rfl⟩ := Arg.exists_image harg2
  obtain ⟨args3, rfl⟩ := Arg.exists_image harg3
  obtain ⟨retExVal, rfl⟩ := RetExtra.exists_image hret
  obtain ⟨vmmap, rfl⟩ := exists_u64 hvm
  obtain ⟨kmap, rfl⟩ := exists_u64 hk
  exact ⟨⟨methodId, thrId, flags, args0, args1, args2, args3, retExVal, vmmap, kmap⟩, rfl⟩

end GpuVirtmem.Remote
