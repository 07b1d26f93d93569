import GpuVirtmem.Interposer.FatBinary4
import GpuVirtmem.Interposer.FatRoundTrip
import GpuVirtmem.Remote.Method

/-!
# Registering a fat binary (`interposer/libci.c`, `remote/remote_packet.c`,
`remote/remote_api_wrapper.c`)

The client picks the encoder by the magic of the binary. Both encoders put their bytes behind the
same method, so the server picks its decoder without having seen the magic.

Each decoder is right for its own encoder; that is the content of the two round trips in the
interposer. Here it is about which of them is used. The magic is not in the packet where the server
could look for it before it decodes, and the method does not tell.
-/

namespace GpuVirtmem.Remote

open Lib Interposer

/-- The two formats of fat binaries, one encoder and one decoder for each. -/
inductive FatFormat
  | cuda32 | cuda4
  deriving DecidableEq, Repr

/-- What the `void *` of `__cudaRegisterFatBinary` points to. -/
inductive FatC
  | cuda32 (b : FatCudaBinary)
  | cuda4 (b : FatCudaBinary2)

/-- `*(int *)(fatC)`. -/
def FatC.magic : FatC → UInt32
  | .cuda32 b => b.magic.toUInt32
  | .cuda4 b => b.magic

/-- `__cudaFatMAGIC`. -/
def cudaFatMAGIC : UInt32 := 0x1ee55a01

/-- `__cudaFatMAGIC2`. -/
def cudaFatMAGIC2 : UInt32 := 0x466243b1

/-- What `malloc` returns: a block, with whatever is in it. -/
abbrev Malloc := (n : Nat) → { bs : Bytes // bs.length = n }

/-- The request buffer: a block of `fb_size` bytes that the packed binary is written to. `fb_size`
is an `int`: where the size wraps to a negative number `malloc` refuses and the client exits. -/
def requestBuffer (malloc : Malloc) (fbSize : Nat) (packed : Bytes) : Except CFail Bytes :=
  if 2 ^ 31 ≤ fbSize % 2 ^ 32 then .error .error
  else if fbSize % 2 ^ 32 < packed.length then .error .badAccess
  else .ok (packed ++ (malloc (fbSize % 2 ^ 32)).val.drop packed.length)

/-- `r__cudaRegisterFatBinary`, up to the request buffer it sends. -/
def rCudaRegisterFatBinary (malloc : Malloc) : FatC → Except CFail Bytes
  | .cuda32 b => do
    let (fbSize, entriesCached) ← getFatRecPktSize b
    requestBuffer malloc fbSize (← packFatBinary b entriesCached)
  -- a pointer to the other structure
  | .cuda4 _ => .error .badAccess

/-- `r__cudaRegisterFatBinary_4`, up to the request buffer it sends. -/
def rCudaRegisterFatBinary4 (malloc : Malloc) : FatC → Except CFail Bytes
  | .cuda32 _ => .error .badAccess
  | .cuda4 b => requestBuffer malloc (getFatRecPktSize4 b) (packFatBinary4 b)

/-- The encoder that `__cudaRegisterFatBinary` chooses. -/
def encoderFor (fatC : FatC) : Option FatFormat :=
  if fatC.magic = cudaFatMAGIC then some .cuda32
  else if fatC.magic = cudaFatMAGIC2 then some .cuda4
  else none

/-- `__cudaRegisterFatBinary`: the request buffer that is sent to each backend, if there is one. -/
def cudaRegisterFatBinary (malloc : Malloc) (fatC : FatC) : Except CFail (Option Bytes) :=
  match encoderFor fatC with
  | some .cuda32 => return some (← rCudaRegisterFatBinary malloc fatC)
  | some .cuda4 => return some (← rCudaRegisterFatBinary4 malloc fatC)
  | none => .ok none

/-- The decoder in the handler that runs on a packet of the given method. -/
def decoderFor (method : MethodId) : Option FatFormat :=
  match pktExecute method.code with
  | some .nvbackCudaRegisterFatBinary => some .cuda32
  | some .nvbackCudaRegisterFatBinary2 => some .cuda4
  | _ => none

/-- `unpackFatBinary` or `unpackFatBinary_4`: the structure that is given to the runtime. -/
def FatFormat.decode (format : FatFormat) (pReqBuffer : Bytes) : Except CFail FatC :=
  match format with
  | .cuda32 => return .cuda32 (← unpackFatBinary pReqBuffer).1
  | .cuda4 => return .cuda4 (← unpackFatBinary4 pReqBuffer).1

/-- The second binary is the first one. -/
def SameBinary : FatC → FatC → Prop
  | .cuda32 b, .cuda32 u => ∃ size cache, getFatRecPktSize b = .ok (size, cache) ∧ Rebuilt cache b u
  | .cuda4 b, .cuda4 u => Rebuilt4 b u
  | _, _ => False

/-- A packet that is sent has been packed, with what `malloc` happens to have given behind it. -/
theorem requestBuffer_eq_ok {malloc : Malloc} {fbSize : Nat} {packed pkt : Bytes}
    (h : requestBuffer malloc fbSize packed = .ok pkt) :
    packed.length < 2 ^ 31 ∧ ∃ rest, pkt = packed ++ rest := by
  unfold requestBuffer at h
  split at h
  · cases h
  · next hint =>
    split at h
    · cases h
    · next hfits =>
      cases h
      exact ⟨by omega, _, rfl⟩

/-- The decoder for the encoder that was used rebuilds the binary. -/
theorem encoderFor_decodes {malloc : Malloc} {fatC : FatC} {pkt : Bytes}
    (h : cudaRegisterFatBinary malloc fatC = .ok (some pkt)) :
    ∃ format u, encoderFor fatC = some format ∧ format.decode pkt = .ok u ∧
      SameBinary fatC u := by
  unfold cudaRegisterFatBinary at h
  split at h
  · next hformat =>
    obtain ⟨sent, hsent, h⟩ := except_bind_eq_ok.mp h
    cases h
    rcases fatC with b | b
    · obtain ⟨⟨size, cache⟩, hsize, hsent⟩ := except_bind_eq_ok.mp hsent
      obtain ⟨packed, hpacked, hsent⟩ := except_bind_eq_ok.mp hsent
      obtain ⟨hlen, rest, rfl⟩ := requestBuffer_eq_ok hsent
      obtain ⟨k, hu⟩ := unpackFatBinary_packed hsize hpacked hlen rest
      refine ⟨_, .cuda32 _, hformat, ?_, size, cache, hsize,
        rebuilt_decoded (getFatRecPktSize_counted hsize)⟩
      show (unpackFatBinary (packed ++ rest) >>= _) = _
      rw [hu]
      rfl
    · cases hsent
  · next hformat =>
    obtain ⟨sent, hsent, h⟩ := except_bind_eq_ok.mp h
    cases h
    rcases fatC with b | b
    · cases hsent
    · obtain ⟨hlen, rest, rfl⟩ := requestBuffer_eq_ok hsent
      have hu := reads_unpackFatBinary4 hlen rest
      refine ⟨_, .cuda4 b.decoded, hformat, ?_, rebuilt4_decoded b⟩
      show (unpackFatBinary4 (packFatBinary4 b ++ rest) >>= _) = _
      rw [hu]
      rfl
  · cases h

/-- What is to be shown of a request: the decoder that runs is the one for the encoder that was
used, and rebuilds the binary. -/
def DecodedAsEncoded (fatC : FatC) (pkt : Bytes) : Prop :=
  ∃ format u, encoderFor fatC = some format ∧ decoderFor .cudaRegisterFatBinary = some format ∧
    format.decode pkt = .ok u ∧ SameBinary fatC u

/-- Of the binaries that are sent, those of the new format are the ones that arrive.

The registration is decoded by the method alone, and there is one method for both formats. So this
is about the format of the binary, and the contents do not matter. -/
theorem register_decoded_iff {malloc : Malloc} {fatC : FatC} {pkt : Bytes}
    (h : cudaRegisterFatBinary malloc fatC = .ok (some pkt)) :
    DecodedAsEncoded fatC pkt ↔ fatC.magic = cudaFatMAGIC2 := by
  obtain ⟨format, u, hformat, hu, hsame⟩ := encoderFor_decodes h
  constructor
  · rintro ⟨format', -, hencoder, hdecoder, -, -⟩
    cases hdecoder
    unfold encoderFor at hencoder
    split at hencoder
    · cases hencoder
    · split at hencoder
      · next hmagic => exact hmagic
      · cases hencoder
  · intro hmagic
    have hcuda4 : encoderFor fatC = some .cuda4 := by
      unfold encoderFor
      rw [hmagic]
      rfl
    obtain rfl : format = .cuda4 := by
      rw [hcuda4] at hformat
      cases hformat
      rfl
    exact ⟨.cuda4, u, hcuda4, rfl, hu, hsame⟩

/-- A binary of the new format arrives. -/
theorem register_decoded_iff_sample :
    ∃ pkt, cudaRegisterFatBinary zeroBlock (.cuda4 sampleBinary2) = .ok (some pkt) ∧
      (DecodedAsEncoded (.cuda4 sampleBinary2) pkt ↔ sampleBinary2.magic = cudaFatMAGIC2) :=
  ⟨_, rfl, @register_decoded_iff zeroBlock _ _ rfl⟩

/-- A binary without tables, of the old format. -/
def cuda32Binary : FatCudaBinary :=
  { sampleBinary with
    magic := 0x1ee55a01, ptx := none, cubin := none, debug := [], elf := [], exported := none }

/-- The client sends the binary, and the server decodes it as one of the new format. -/
theorem cuda32_decoded_as_cuda4 :
    ∃ pkt, cudaRegisterFatBinary zeroBlock (.cuda32 cuda32Binary) = .ok (some pkt) ∧
      ¬ DecodedAsEncoded (.cuda32 cuda32Binary) pkt := by
  refine ⟨_, rfl, ?_⟩
  rintro ⟨format, -, hencoder, hdecoder, -, -⟩
  cases hdecoder
  exact absurd hencoder (by decide)

end GpuVirtmem.Remote
