import GpuVirtmem.Interposer.RegArgs
import GpuVirtmem.Remote.Method

/-!
# Registrations that are received (`remote/remote_packet.c`, `remote/remote_api_wrapper.c`)

A handler gives its decoder the request buffer, but not the number of bytes in it. Whether the
decoder stays within them is up to the lengths and the pointers that the client has sent.

The condition is that of the format: the fields, with the lengths that they themselves announce, lie
within the buffer. For a packet that one of the encoders has made it holds. A decoder cannot check
it for any other, because the number of bytes is not among what it is given.
-/

namespace GpuVirtmem.Remote

open Lib Lib.Reader Interposer

/-- The requests whose data a handler decodes. -/
inductive Registration
  | fatBinary | function | var
  deriving DecidableEq, Repr

/-- The method of the request. -/
def Registration.method : Registration → MethodId
  | .fatBinary => .cudaRegisterFatBinary
  | .function => .cudaRegisterFunction
  | .var => .cudaRegisterVariable

/-- The packet in its request buffer. -/
def Registration.fields : Registration → List Field
  | .fatBinary => fatBinary4Fields
  | .function => regFuncFields
  | .var => regVarFields

/-- The decoder that the handler runs on the request buffer decodes it or returns `ERROR`, and reads
nothing outside. The other handlers run none of these decoders. -/
def Srv.Decodes (malloc : Nat → Bool) (pReqBuffer : Bytes) : Srv → Prop
  | .nvbackCudaRegisterFatBinary2 => Completes (unpackFatBinary4With malloc) pReqBuffer
  | .nvbackCudaRegisterFunction => Completes (unpackRegFuncArgs malloc) pReqBuffer
  | .nvbackCudaRegisterVar => Completes (unpackRegVar malloc) pReqBuffer
  | _ => False

/-- The decoder that `pkt_execute` runs for the request stays within the request buffer. -/
def Registration.StaysInBuffer (r : Registration) (malloc : Nat → Bool) (pReqBuffer : Bytes) :
    Prop :=
  ∃ srv, pktExecute r.method.code = some srv ∧ srv.Decodes malloc pReqBuffer

section

variable {r : Registration} {malloc : Nat → Bool} {pReqBuffer : Bytes}

/-- A method has one handler, so that what a registration does is known from its number. -/
theorem Registration.staysInBuffer_of_srv {srv : Srv} (h : pktExecute r.method.code = some srv) :
    r.StaysInBuffer malloc pReqBuffer ↔ srv.Decodes malloc pReqBuffer := by
  constructor
  · intro ⟨srv', h', hdecodes⟩
    cases h.symm.trans h'
    exact hdecodes
  · intro hdecodes
    exact ⟨srv, h, hdecodes⟩

/-- The fields of the packet say where the decoder goes. -/
theorem Registration.staysInBuffer_iff_fits :
    r.StaysInBuffer malloc pReqBuffer ↔ Fits malloc 0 r.fields pReqBuffer := by
  cases r with
  | fatBinary =>
    apply (staysInBuffer_of_srv rfl).trans
    exact unpackFatBinary4With_follows malloc pReqBuffer
  | function =>
    apply (staysInBuffer_of_srv rfl).trans
    exact unpackRegFuncArgs_follows malloc pReqBuffer
  | var =>
    apply (staysInBuffer_of_srv rfl).trans
    exact unpackRegVar_follows malloc pReqBuffer

end

/-- The decoders stay within the request buffer exactly where the fields of the packet lie within
it, as far as there is memory for them; with memory for all of them, where their sizes add up to no
more than the size of the buffer.

What lies in the buffer decides, not what was sent: lengths, pointers that are NULL or not, and how
far `malloc` lets the decoder come. -/
theorem registrations_not_over_read_iff (r : Registration) (pReqBuffer : Bytes) :
    (∀ malloc, r.StaysInBuffer malloc pReqBuffer ↔ Fits malloc 0 r.fields pReqBuffer) ∧
      (r.StaysInBuffer (fun _ => true) pReqBuffer ↔
        fieldsSize r.fields pReqBuffer ≤ pReqBuffer.length) := by
  constructor
  · intro malloc
    exact Registration.staysInBuffer_iff_fits
  · apply Registration.staysInBuffer_iff_fits.trans
    apply fits_iff_fieldsSize

/-- A packet of a function that ends behind the length of its first string, 100. -/
def cutRegFunc : Bytes := [1, 0, 0, 0, 0, 0, 0, 0, 100, 0, 0, 0]

/-- The packet announces a string of 100 characters and ends there, so that the decoder takes the
characters from behind the request buffer. Nothing keeps such a packet from the decoder, since the
handlers do not look at the size of what they have been sent. -/
theorem cut_registration_over_read :
    ¬∀ (r : Registration) (malloc : Nat → Bool) (pReqBuffer : Bytes),
      r.StaysInBuffer malloc pReqBuffer := by
  intro h
  have hfits := Registration.staysInBuffer_iff_fits.mp (h .function (fun _ => true) cutRegFunc)
  exact absurd ((fits_iff_fieldsSize ..).mp hfits) (by decide)

end GpuVirtmem.Remote
