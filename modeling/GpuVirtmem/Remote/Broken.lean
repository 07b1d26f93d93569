import GpuVirtmem.Remote.InStep

/-!
# Broken exchanges (`remote/remote_api_wrapper.c`, `interposer/libci.c`)

`l_do_cuda_rpc` returns ERROR where the connection breaks, and the wrappers that call it do not look
at what it returns: they judge by the packet. The packet is the request until the response packet is
stored, and from then on it is the response.

A connection is what it still takes and what still arrives on it, so that an exchange on it is a
function. It can break before the response packet is stored, and then the packet has the error it
was made with; or within the data behind that packet, and then the packet has the error of the
response, which may be none. The second way is the reason why the condition speaks of the data.

The connection is given for the whole exchange, so that there is one outcome for it. That is no
loss: which bytes arrive, and how many are taken, is all that the two halves of the call depend on.
-/

namespace GpuVirtmem.Remote

open Lib Proc Interposer

/-- `OK` and `ERROR`. -/
inductive Status
  | ok | error
  deriving DecidableEq, Repr

/-- How `l_do_cuda_rpc` ends: it returns, and leaves the packet; or an assertion of it fails. -/
inductive RpcEnd
  | returned (status : Status) (packet : CudaPacket)
  | aborted
  deriving DecidableEq, Repr

/-- The response of `l_do_cuda_rpc` on a connection that may break. The response packet is copied
over the request before its data is read. -/
def receiveResponseOn (c : RpcCall) (net : Net) : RpcEnd :=
  match receivePacket.on net with
  | .broken => .returned .error c.packet
  | .aborted => .aborted
  | .done (hdr, packet) net =>
    match (receiveData c hdr.dataSize).on net with
    | .broken => .returned .error packet
    | .aborted => .aborted
    | .done _ _ => .returned .ok packet

/-- `l_do_cuda_rpc` on a connection that may break. -/
def lDoCudaRpcOn (mem : Memory) (c : RpcCall) (net : Net) : RpcEnd :=
  match (sendRequest mem c).on net with
  | .broken => .returned .error c.packet
  | .aborted => .aborted
  | .done _ net =>
    if strmExpectsResponse c.packet.methodId then receiveResponseOn c net
    else .returned .ok c.packet

/-! ## What the wrappers return -/

/-- A wrapper that judges by `ret_ex_val.err`. -/
def errStatus (packet : CudaPacket) : Status := if packet.retExVal.err = 0 then .ok else .error

/-- A wrapper that judges by `ret_ex_val.handle`. -/
def handleStatus (packet : CudaPacket) : Status :=
  if packet.retExVal = { err := 0, upper := 0 } then .error else .ok

/-- What the wrapper of a call makes of the packet after `l_do_cuda_rpc`. The asynchronous ones
always return `OK`. -/
def rpcStatus (call : CudaCall) (packet : CudaPacket) : Status :=
  match call with
  | .getDeviceCount | .getDeviceProperties .. | .getDevice .. | .malloc .. | .memcpy ..
  | .threadSynchronize | .memcpyToSymbol .. | .memcpyFromSymbol .. | .registerFunction ..
  | .registerVar .. => errStatus packet
  | .registerFatBinary .. => handleStatus packet
  | .setDevice .. | .free .. | .setupArgument .. | .configureCall .. | .launch .. | .threadExit
  | .unregisterFatBinary .. => .ok

/-- The CUDA error that the function of the interposer which makes the request returns. It takes the
calls whose wrapper does not wait for a response to have succeeded, but `rcudaThreadExit` reads the
error of its own request. `r__cudaRegisterFatBinary` returns a handle, and the other registrations
and the unregistration return nothing: there is no error. -/
def cudaErr (call : CudaCall) (status : Status) (packet : CudaPacket) : Option UInt32 :=
  match status, call with
  | _, .registerFatBinary .. | _, .registerFunction .. | _, .registerVar ..
  | _, .unregisterFatBinary .. => none
  | .ok, .setDevice .. | .ok, .free .. | .ok, .setupArgument .. | .ok, .configureCall ..
  | .ok, .launch .. => some 0
  | .ok, _ => some packet.retExVal.err
  | .error, .malloc .. => some 2
  | .error, _ => some 30

/-- The CUDA error that the interposed call returns. `cudaSetDevice` does not look at what
`rcudaGetDevice` returns: it goes on to `rcudaSetDevice`, which succeeds. The devices of the nodes
are counted inside `__cudaRegisterFatBinary`, which returns a handle. Elsewhere it is the error of
the function that makes the request. -/
def interposedErr (call : CudaCall) (status : Status) (packet : CudaPacket) : Option UInt32 :=
  match call with
  | .getDevice .. => some 0
  | .getDeviceCount => none
  | _ => cudaErr call status packet

/-- The handle that `r__cudaRegisterFatBinary` takes from the packet; NULL is `none`. -/
def takenHandle (status : Status) (packet : CudaPacket) : Option RetExtra :=
  match status with
  | .ok => some packet.retExVal
  | .error => none

/-- Where `l_do_cuda_rpc` returns ERROR, so does the wrapper: the interposed call does not return
`cudaSuccess`, and no handle is taken. -/
def Reported (call : CudaCall) (e : RpcEnd) : Prop :=
  ∀ packet, e = .returned .error packet →
    rpcStatus call packet = .error ∧
      interposedErr call (rpcStatus call packet) packet ≠ some 0 ∧
      takenHandle (rpcStatus call packet) packet = none

/-- The device request, which is made inside `cudaSetDevice`. -/
def requestsDevice : CudaCall → Bool
  | .getDevice .. => true
  | _ => false

/-- An error of the wrapper is not lost on the way to the application, unless it is that of the
device request, which is lost whatever the packet says. -/
theorem interposedErr_error (call : CudaCall) (packet : CudaPacket) :
    interposedErr call .error packet ≠ some 0 ↔ requestsDevice call = false := by
  have hmemory : (some 2 : Option UInt32) ≠ some 0 := by decide
  have hunknown : (some 30 : Option UInt32) ≠ some 0 := by decide
  cases call with
  | getDevice => exact iff_of_false (fun h => h rfl) (fun h => nomatch h)
  | getDeviceCount | registerFatBinary | registerFunction | registerVar | unregisterFatBinary =>
    exact iff_of_true (fun h => nomatch h) rfl
  | malloc => exact iff_of_true hmemory rfl
  | _ => exact iff_of_true hunknown rfl

/-- What a wrapper makes of the packet decides, but for the device request. -/
theorem reported_iff {call : CudaCall} {e : RpcEnd} :
    Reported call e ↔ ∀ packet, e = .returned .error packet →
      requestsDevice call = false ∧ rpcStatus call packet = .error := by
  constructor
  · intro h packet he
    obtain ⟨hstatus, herr, -⟩ := h packet he
    rw [hstatus] at herr
    exact ⟨(interposedErr_error call packet).mp herr, hstatus⟩
  · intro h packet he
    obtain ⟨hother, hstatus⟩ := h packet he
    rw [hstatus]
    exact ⟨rfl, (interposedErr_error call packet).mpr hother, rfl⟩

/-! ## The exchange in two parts -/

/-- It is `l_do_cuda_rpc`, with the packet that it leaves. -/
theorem on_lDoCudaRpc (mem : Memory) (c : RpcCall) (net : Net) :
    match (lDoCudaRpc mem c).on net with
    | .done r _ => lDoCudaRpcOn mem c net = .returned .ok r.packet
    | .broken => ∃ packet, lDoCudaRpcOn mem c net = .returned .error packet
    | .aborted => lDoCudaRpcOn mem c net = .aborted := by
  unfold lDoCudaRpc lDoCudaRpcOn
  rw [on_bind]
  cases (sendRequest mem c).on net with
  | broken => exact ⟨_, rfl⟩
  | aborted => rfl
  | done _ net =>
    simp only [Ending.andThen, awaitResponse]
    by_cases hexp : strmExpectsResponse c.packet.methodId = true
    · simp only [if_pos hexp, receiveResponseOn]
      rw [receiveResponse_eq, on_bind]
      cases receivePacket.on net with
      | broken => exact ⟨_, rfl⟩
      | aborted => rfl
      | done x net =>
        obtain ⟨hdr, packet⟩ := x
        simp only [Ending.andThen]
        rw [on_bind]
        cases (receiveData c hdr.dataSize).on net with
        | broken => exact ⟨_, rfl⟩
        | aborted => rfl
        | done data net => rfl
    · simp only [if_neg hexp]
      rfl

/-! ## Where an exchange breaks -/

/-- The bytes of a request. -/
def RpcCall.requestSize (c : RpcCall) : Nat := sizeofStrmHdr + sizeofRpkt + c.reqbufSize.toNat

/-- The request data is not taken from NULL. -/
def RpcCall.Sendable (c : RpcCall) : Prop := 0 < c.reqbufSize → c.reqbuf ≠ 0

/-- The connection breaks before a response packet is stored: within the request, within the header
of the response or, where it announces one packet, within the packet. -/
def BreaksBefore (c : RpcCall) (net : Net) : Prop :=
  net.accepts < sizeofStrmHdr + sizeofRpkt ∨
    c.Sendable ∧ (net.accepts < c.requestSize ∨ net.input.length < sizeofStrmHdr ∨
      ∃ (hdr : StrmHdr) (rest : Bytes), net.input = hdr.image ++ rest ∧ hdr.numCudaPkts = 1 ∧
        rest.length < sizeofRpkt)

/-- The connection breaks within the data behind a response packet, or `get` refuses the length of
that. -/
def BreaksWithin (c : RpcCall) (net : Net) (packet : CudaPacket) : Prop :=
  c.Sendable ∧ c.requestSize ≤ net.accepts ∧ c.rspbuf ≠ 0 ∧ c.rspbufSize ≠ 0 ∧
    ∃ (hdr : StrmHdr) (data : Bytes), net.input = hdr.image ++ (packet.image ++ data) ∧
      hdr.numCudaPkts = 1 ∧ 0 < hdr.dataSize ∧ asInt hdr.dataSize.toNat ≤ c.rspbufSize ∧
        (asInt hdr.dataSize.toNat < 0 ∨ data.length < (asInt hdr.dataSize.toNat).toNat)

section

variable {c : RpcCall} {net : Net}

/-- What the connection still takes is sent. -/
theorem on_send {bs : Bytes} (h : bs.length ≤ net.accepts) :
    (send bs).on net = .done () ⟨net.accepts - bs.length, net.input⟩ := if_pos h

/-- An assertion that holds has no effect. -/
theorem on_check_pos {b : Bool} (h : b = true) : (check b).on net = .done () net := by
  rw [h]
  rfl

/-- One that does not ends the process. -/
theorem on_check_neg {b : Bool} (h : b = false) : (check b).on net = .aborted := by
  rw [h]
  rfl

/-- The header and the packet of a request, and what comes after them. -/
theorem on_sendRequest (mem : Memory) (h : sizeofStrmHdr + sizeofRpkt ≤ net.accepts) :
    (sendRequest mem c).on net =
      (if 0 < c.reqbufSize then do
        check (c.reqbuf != 0 && c.reqbufSize != 0)
        send (mem c.reqbuf c.reqbufSize.toNat).val
      else pure ()).on ⟨net.accepts - sizeofStrmHdr - sizeofRpkt, net.input⟩ := by
  have hhdr : (connSendCudaPktHdr c.reqbufSize).length = sizeofStrmHdr := StrmHdr.image_length _
  have hpkt := c.packet.image_length
  unfold sendRequest
  rw [on_bind, on_send (by omega)]
  simp only [Ending.andThen]
  rw [on_bind, on_send (by show _ ≤ net.accepts - _; omega), hhdr, hpkt]
  rfl

/-- A connection that takes less than the header and the packet breaks. -/
theorem on_sendRequest_short (mem : Memory) (h : net.accepts < sizeofStrmHdr + sizeofRpkt) :
    (sendRequest mem c).on net = .broken := by
  have hhdr : (connSendCudaPktHdr c.reqbufSize).length = sizeofStrmHdr := StrmHdr.image_length _
  have hpkt := c.packet.image_length
  unfold sendRequest
  rw [on_bind]
  by_cases hfirst : sizeofStrmHdr ≤ net.accepts
  · rw [on_send (by omega)]
    simp only [Ending.andThen]
    rw [on_bind, on_send_short (by show net.accepts - _ < _; omega)]
    rfl
  · rw [on_send_short (by omega)]
    rfl

/-- A request from NULL aborts the process. -/
theorem on_sendRequest_null (mem : Memory) (h : sizeofStrmHdr + sizeofRpkt ≤ net.accepts)
    (hnull : ¬c.Sendable) : (sendRequest mem c).on net = .aborted := by
  unfold RpcCall.Sendable at hnull
  push Not at hnull
  obtain ⟨hpos, hnull⟩ := hnull
  rw [on_sendRequest mem h, if_pos hpos, on_bind, on_check_neg]
  · rfl
  · rw [hnull]
    rfl

/-- The data of a request is sent, or the connection breaks. -/
theorem on_sendRequest_data (mem : Memory) (h : sizeofStrmHdr + sizeofRpkt ≤ net.accepts)
    (hsend : c.Sendable) :
    (sendRequest mem c).on net =
      if c.requestSize ≤ net.accepts then
        .done () ⟨net.accepts - c.requestSize, net.input⟩
      else .broken := by
  rw [on_sendRequest mem h]
  unfold RpcCall.requestSize
  by_cases hpos : 0 < c.reqbufSize
  · have hbuf : (c.reqbuf != 0 && c.reqbufSize != 0) = true := by
      rw [Bool.and_eq_true, bne_iff_ne, bne_iff_ne]
      exact ⟨hsend hpos, by omega⟩
    have hlen := (mem c.reqbuf c.reqbufSize.toNat).property
    rw [if_pos hpos, on_bind, on_check_pos hbuf]
    simp only [Ending.andThen]
    split
    · rw [on_send (by show _ ≤ net.accepts - _ - _; omega), hlen]
      simp only [Nat.sub_sub]
    · exact on_send_short (by show net.accepts - _ - _ < _; omega)
  · have hzero : c.reqbufSize.toNat = 0 := by omega
    rw [if_neg hpos, hzero, Nat.add_zero, if_pos h]
    show Ending.done () _ = _
    rw [Nat.sub_sub]

/-- The response, up to the packet, where it arrives. -/
theorem on_receivePacket {accepts : Nat} {hdr : StrmHdr} (packet : CudaPacket) (rest : Bytes)
    (hone : hdr.numCudaPkts = 1) :
    receivePacket.on ⟨accepts, hdr.image ++ (packet.image ++ rest)⟩ =
      .done (hdr, packet) ⟨accepts, rest⟩ := by
  have hruns : Runs receivePacket (hdr.image ++ packet.image) [] (hdr, packet) := by
    refine (runs_receive (reads_strmHdr hdr) hdr.image_length).bind_input ?_
    refine (runs_check (by rw [hone]; rfl)).bind_input ?_
    rw [hone]
    exact (runs_receive (reads_cudaPacket packet) packet.image_length).map fun packet =>
      (hdr, packet)
  have := hruns.on (Nat.zero_le accepts) rest
  rwa [List.append_assoc] at this

/-- Without a whole header there is no packet. -/
theorem on_receivePacket_noHeader (h : net.input.length < sizeofStrmHdr) :
    receivePacket.on net = .broken := by
  unfold receivePacket
  rw [on_bind, on_receive_short h]
  rfl

/-- The header is read; the client insists on one packet. -/
theorem on_receivePacket_header {accepts : Nat} {hdr : StrmHdr} {rest : Bytes} :
    receivePacket.on ⟨accepts, hdr.image ++ rest⟩ =
      if hdr.numCudaPkts = 1 then
        (receive sizeofRpkt cudaPacket >>= fun packet => pure (hdr, packet)).on ⟨accepts, rest⟩
      else .aborted := by
  have hhdr := (runs_receive (reads_strmHdr hdr) hdr.image_length).on (Nat.zero_le accepts) rest
  unfold receivePacket
  rw [on_bind, hhdr]
  simp only [Ending.andThen]
  rw [on_bind]
  split
  · next hone =>
    rw [on_check_pos (by rw [hone]; rfl)]
    simp only [Ending.andThen]
    rw [hone]
    rfl
  · next hother =>
    rw [on_check_neg (by rw [beq_eq_false_iff_ne]; exact hother)]
    rfl

/-- The data behind a packet: the process aborts unless there is a buffer with room for it. -/
theorem on_receiveData (dataSize : UInt32) (net : Net) :
    (receiveData c dataSize).on net = .broken ↔
      0 < dataSize ∧ c.rspbuf ≠ 0 ∧ c.rspbufSize ≠ 0 ∧ asInt dataSize.toNat ≤ c.rspbufSize ∧
        (asInt dataSize.toNat < 0 ∨ net.input.length < (asInt dataSize.toNat).toNat) := by
  unfold receiveData
  by_cases hpos : 0 < dataSize
  · rw [if_pos hpos, on_bind]
    by_cases hbuf : c.rspbuf ≠ 0 ∧ c.rspbufSize ≠ 0
    · have hgiven : (c.rspbuf != 0 && c.rspbufSize != 0) = true := by
        rw [Bool.and_eq_true, bne_iff_ne, bne_iff_ne]
        exact hbuf
      rw [on_check_pos hgiven]
      simp only [Ending.andThen]
      rw [on_bind]
      by_cases hroom : asInt dataSize.toNat ≤ c.rspbufSize
      · rw [on_check_pos (decide_eq_true hroom)]
        simp only [Ending.andThen, get, hpos, hbuf, hroom, ne_eq, not_false_eq_true, true_and]
        split
        · next hneg => exact iff_of_true rfl (.inl hneg)
        · next hneg =>
          simp only [recv, on, hneg, false_or]
          split
          · next harrives =>
            apply iff_of_false (Ending.done_ne_broken _ _)
            exact Nat.not_lt.mpr harrives
          · next hshort => exact iff_of_true rfl (Nat.lt_of_not_le hshort)
      · rw [on_check_neg (decide_eq_false hroom)]
        exact iff_of_false Ending.aborted_ne_broken fun h => hroom h.2.2.2.1
    · have hnull : (c.rspbuf != 0 && c.rspbufSize != 0) = false := by
        rw [← Bool.not_eq_true, Bool.and_eq_true, bne_iff_ne, bne_iff_ne]
        exact hbuf
      rw [on_check_neg hnull]
      exact iff_of_false Ending.aborted_ne_broken fun h => hbuf ⟨h.2.1, h.2.2.1⟩
  · rw [if_neg hpos]
    exact iff_of_false (Ending.done_ne_broken _ _) fun h => hpos h.1

/-- Then the packet is still the request. -/
theorem receiveResponseOn_noHeader (h : net.input.length < sizeofStrmHdr) :
    receiveResponseOn c net = .returned .error c.packet := by
  unfold receiveResponseOn
  rw [on_receivePacket_noHeader h]

/-- A response of several packets, or of none, aborts the process. -/
theorem receiveResponseOn_otherCount {accepts : Nat} {hdr : StrmHdr} {rest : Bytes}
    (h : hdr.numCudaPkts ≠ 1) : receiveResponseOn c ⟨accepts, hdr.image ++ rest⟩ = .aborted := by
  unfold receiveResponseOn
  rw [on_receivePacket_header, if_neg h]

/-- So it is without a whole packet. -/
theorem receiveResponseOn_noPacket {accepts : Nat} {hdr : StrmHdr} {rest : Bytes}
    (hone : hdr.numCudaPkts = 1) (h : rest.length < sizeofRpkt) :
    receiveResponseOn c ⟨accepts, hdr.image ++ rest⟩ = .returned .error c.packet := by
  unfold receiveResponseOn
  rw [on_receivePacket_header, if_pos hone, on_bind, on_receive_short h]
  rfl

/-- Behind a whole packet the data decides: the packet is the response now, also if the data does
not arrive. -/
theorem receiveResponseOn_packet {accepts : Nat} {hdr : StrmHdr} {stored packet : CudaPacket}
    {data : Bytes} (hone : hdr.numCudaPkts = 1) :
    receiveResponseOn c ⟨accepts, hdr.image ++ (stored.image ++ data)⟩ = .returned .error packet ↔
      packet = stored ∧ (receiveData c hdr.dataSize).on ⟨accepts, data⟩ = .broken := by
  unfold receiveResponseOn
  rw [on_receivePacket stored data hone]
  dsimp only
  cases (receiveData c hdr.dataSize).on ⟨accepts, data⟩ with
  | done => simp
  | aborted => simp
  | broken => simp [eq_comm]

/-- What arrives of a response, up to the end of its packet. -/
theorem arrived_cases (input : Bytes) :
    input.length < sizeofStrmHdr ∨
      (∃ (hdr : StrmHdr) (rest : Bytes), input = hdr.image ++ rest ∧ rest.length < sizeofRpkt) ∨
      ∃ (hdr : StrmHdr) (packet : CudaPacket) (data : Bytes),
        input = hdr.image ++ (packet.image ++ data) := by
  by_cases hheader : input.length < sizeofStrmHdr
  · exact .inl hheader
  · have hlen : input.length = sizeofStrmHdr + (input.length - sizeofStrmHdr) := by omega
    obtain ⟨hdrBytes, rest, rfl, hhdr, -⟩ := exists_append hlen
    obtain ⟨hdr, rfl⟩ := StrmHdr.exists_image hhdr
    by_cases hpacket : rest.length < sizeofRpkt
    · exact .inr (.inl ⟨hdr, rest, rfl, hpacket⟩)
    · have hlen : rest.length = sizeofRpkt + (rest.length - sizeofRpkt) := by omega
      obtain ⟨packetBytes, data, rfl, hstored, -⟩ := exists_append hlen
      obtain ⟨stored, rfl⟩ := CudaPacket.exists_image hstored
      exact .inr (.inr ⟨hdr, stored, data, rfl⟩)

/-- The response: without a whole header or packet the request is left as it was, and with one the
data decides. -/
theorem receiveResponseOn_error_iff {packet : CudaPacket} :
    receiveResponseOn c net = .returned .error packet ↔
      packet = c.packet ∧ (net.input.length < sizeofStrmHdr ∨
        ∃ (hdr : StrmHdr) (rest : Bytes), net.input = hdr.image ++ rest ∧ hdr.numCudaPkts = 1 ∧
          rest.length < sizeofRpkt) ∨
      c.rspbuf ≠ 0 ∧ c.rspbufSize ≠ 0 ∧
        ∃ (hdr : StrmHdr) (data : Bytes), net.input = hdr.image ++ (packet.image ++ data) ∧
          hdr.numCudaPkts = 1 ∧ 0 < hdr.dataSize ∧ asInt hdr.dataSize.toNat ≤ c.rspbufSize ∧
            (asInt hdr.dataSize.toNat < 0 ∨ data.length < (asInt hdr.dataSize.toNat).toNat) := by
  obtain ⟨accepts, input⟩ := net
  constructor
  · intro h
    rcases arrived_cases input with hheader | ⟨hdr, rest, rfl, hpacket⟩ | ⟨hdr, stored, data, rfl⟩
    · cases h.symm.trans (receiveResponseOn_noHeader hheader)
      exact .inl ⟨rfl, .inl hheader⟩
    · by_cases hone : hdr.numCudaPkts = 1
      · cases h.symm.trans (receiveResponseOn_noPacket hone hpacket)
        exact .inl ⟨rfl, .inr ⟨hdr, rest, rfl, hone, hpacket⟩⟩
      · cases h.symm.trans (receiveResponseOn_otherCount hone)
    · by_cases hone : hdr.numCudaPkts = 1
      · obtain ⟨rfl, hbroken⟩ := (receiveResponseOn_packet hone).mp h
        obtain ⟨hpos, hbuf, hsize, hshort⟩ := (on_receiveData ..).mp hbroken
        exact .inr ⟨hbuf, hsize, hdr, data, rfl, hone, hpos, hshort⟩
      · cases h.symm.trans (receiveResponseOn_otherCount hone)
  · rintro (⟨rfl, hheader | ⟨hdr, rest, harrived, hone, hpacket⟩⟩ |
      ⟨hbuf, hsize, hdr, data, harrived, hone, hpos, hshort⟩)
    · exact receiveResponseOn_noHeader hheader
    · dsimp only at harrived
      rw [harrived]
      exact receiveResponseOn_noPacket hone hpacket
    · dsimp only at harrived
      rw [harrived, receiveResponseOn_packet hone, on_receiveData]
      exact ⟨rfl, hpos, hbuf, hsize, hshort⟩

/-- Where `l_do_cuda_rpc` returns ERROR, and the packet that it leaves. This is the one lemma about
broken exchanges that the results on wrappers use. -/
theorem lDoCudaRpcOn_error_iff (mem : Memory)
    (hexp : strmExpectsResponse c.packet.methodId = true) {packet : CudaPacket} :
    lDoCudaRpcOn mem c net = .returned .error packet ↔
      packet = c.packet ∧ BreaksBefore c net ∨ BreaksWithin c net packet := by
  have hsize : sizeofStrmHdr + sizeofRpkt ≤ c.requestSize := Nat.le_add_right ..
  unfold lDoCudaRpcOn BreaksBefore BreaksWithin
  by_cases hstart : net.accepts < sizeofStrmHdr + sizeofRpkt
  · rw [on_sendRequest_short mem hstart]
    constructor
    · intro h
      cases h
      exact .inl ⟨rfl, .inl hstart⟩
    · rintro (⟨rfl, -⟩ | ⟨-, hfits, -⟩)
      · rfl
      · omega
  have hstarted := Nat.le_of_not_lt hstart
  by_cases hsend : c.Sendable
  · rw [on_sendRequest_data mem hstarted hsend]
    by_cases hfits : c.requestSize ≤ net.accepts
    · rw [if_pos hfits]
      dsimp only
      rw [if_pos hexp, receiveResponseOn_error_iff]
      simp only [hstart, false_or, hsend, true_and, Nat.not_lt.mpr hfits, hfits]
    · rw [if_neg hfits]
      constructor
      · intro h
        cases h
        exact .inl ⟨rfl, .inr ⟨hsend, .inl (Nat.lt_of_not_le hfits)⟩⟩
      · rintro (⟨rfl, -⟩ | ⟨-, hfits', -⟩)
        · rfl
        · exact absurd hfits' hfits
  · rw [on_sendRequest_null mem hstarted hsend]
    constructor
    · intro h
      cases h
    · rintro (⟨-, hlt | ⟨hsend', -⟩⟩ | ⟨hsend', -⟩)
      · exact absurd hlt hstart
      · exact absurd hsend' hsend
      · exact absurd hsend' hsend

end

/-! ## Which broken exchanges are reported -/

/-- The registration of a fat binary, whose wrapper judges by the handle. -/
def registersFatBinary : CudaCall → Bool
  | .registerFatBinary .. => true
  | _ => false

section

variable {thrId : UInt64} {propSize : PropSize} {call : CudaCall} {c : RpcCall}

/-- The packets of the interposer say `cudaErrorUnknown` until there is a response: the error is set
when the packet is made. That is what lets a wrapper that does not look at `l_do_cuda_rpc` report a
broken exchange all the same. -/
theorem rpc_retExVal (h : call.rpc thrId propSize = some c) :
    c.packet.retExVal = { err := 30, upper := 0 } := by
  cases call with
  | memcpy dst src count kind =>
    simp only [CudaCall.rpc, nvbackCudaMemcpyRpc] at h
    split at h <;> cases h <;> rfl
  | memcpyToSymbol hostVar src count offset kind =>
    simp only [CudaCall.rpc, nvbackCudaMemcpyToSymbolRpc] at h
    split at h <;> cases h <;> rfl
  | memcpyFromSymbol dst hostVar count offset kind =>
    simp only [CudaCall.rpc, nvbackCudaMemcpyFromSymbolRpc] at h
    split at h <;> cases h <;> rfl
  | _ =>
    cases h
    rfl

/-- A call with a response judges by the error in the packet, but for a fat binary. -/
theorem rpcStatus_of_expected (h : call.rpc thrId propSize = some c)
    (hexp : strmExpectsResponse c.packet.methodId = true)
    (hfat : registersFatBinary call = false) : rpcStatus call = errStatus := by
  cases call with
  | registerFatBinary => cases hfat
  | setDevice | free | setupArgument | configureCall | launch | threadExit
  | unregisterFatBinary =>
    cases h
    cases hexp
  | _ => rfl

/-- The registration of a fat binary and the device request have no buffer for response data. -/
theorem not_breaksWithin_of_noBuffer (h : call.rpc thrId propSize = some c)
    (hcall : registersFatBinary call = true ∨ requestsDevice call = true) (net : Net)
    (packet : CudaPacket) : ¬BreaksWithin c net packet := by
  cases call with
  | registerFatBinary | getDevice =>
    cases h
    intro hwithin
    exact hwithin.2.2.1 rfl
  | _ =>
    rcases hcall with hfat | hdevice
    · cases hfat
    · cases hdevice

/-- A wrapper reports an error where the packet has one. -/
theorem errStatus_eq_error {packet : CudaPacket} :
    errStatus packet = .error ↔ packet.retExVal.err ≠ 0 := by
  unfold errStatus
  split
  · next h => exact iff_of_false (fun h => nomatch h) (fun hne => hne h)
  · next h => exact iff_of_true rfl h

/-- The request of a fat binary that breaks is taken for a handle, and that of a device is not
looked at: neither is reported. -/
theorem not_reported_before (h : call.rpc thrId propSize = some c)
    (hcall : registersFatBinary call = true ∨ requestsDevice call = true) :
    ¬(requestsDevice call = false ∧ rpcStatus call c.packet = .error) := by
  rintro ⟨hother, herror⟩
  rcases hcall with hfat | hdevice
  · have hstatus : rpcStatus call c.packet = .ok := by
      cases call with
      | registerFatBinary => exact if_neg (by rw [rpc_retExVal h]; decide)
      | _ => cases hfat
    rw [hstatus] at herror
    cases herror
  · rw [hdevice] at hother
    cases hother

/-- A broken exchange of a call with a response is reported exactly if it is not that of a fat
binary or of a device request that breaks before the response packet is stored, and does not break
within the data behind a response packet that says success.

The wrappers judge by the packet, which says `cudaErrorUnknown` until a response is stored in its
place. The three exceptions are those where this error is not taken for one, or is not there any
more. -/
theorem broken_exchange_reported_iff (thrId : UInt64) (propSize : PropSize) (call : CudaCall)
    (mem : Memory) (net : Net) (h : call.rpc thrId propSize = some c)
    (hexp : strmExpectsResponse c.packet.methodId = true) :
    Reported call (lDoCudaRpcOn mem c net) ↔
      (registersFatBinary call = true ∨ requestsDevice call = true → ¬BreaksBefore c net) ∧
        ∀ packet, BreaksWithin c net packet → packet.retExVal.err ≠ 0 := by
  simp only [reported_iff, lDoCudaRpcOn_error_iff mem hexp]
  by_cases hcall : registersFatBinary call = true ∨ requestsDevice call = true
  · have hnone := not_breaksWithin_of_noBuffer h hcall net
    constructor
    · intro hall
      refine ⟨?_, ?_⟩
      · intro _ hbefore
        exact not_reported_before h hcall (hall c.packet (.inl ⟨rfl, hbefore⟩))
      · intro packet hwithin
        exact absurd hwithin (hnone packet)
    · rintro ⟨hbefore, -⟩ packet (⟨-, hbroken⟩ | hwithin)
      · exact absurd hbroken (hbefore hcall)
      · exact absurd hwithin (hnone packet)
  · obtain ⟨hfat, hdevice⟩ := not_or.mp hcall
    rw [rpcStatus_of_expected h hexp (Bool.eq_false_iff.mpr hfat)]
    constructor
    · intro hall
      refine ⟨?_, ?_⟩
      · intro hother
        exact absurd hother hcall
      · intro packet hwithin
        exact errStatus_eq_error.mp (hall packet (.inr hwithin)).2
    · rintro ⟨-, hwithin⟩ packet hbroken
      refine ⟨Bool.eq_false_iff.mpr hdevice, ?_⟩
      rw [errStatus_eq_error]
      rcases hbroken with ⟨rfl, -⟩ | hbroken
      · rw [rpc_retExVal h]
        decide
      · exact hwithin packet hbroken

end

/-- `cudaMalloc`, with a connection on which nothing arrives. -/
theorem broken_exchange_reported_iff_malloc :
    Reported (.malloc 0x100 4) (lDoCudaRpcOn zeros (nvbackCudaMallocRpc (rcudaMalloc 1 0x100 4))
      { accepts := 200, input := [] }) := by
  refine (broken_exchange_reported_iff 1 8 (.malloc 0x100 4) zeros _ rfl rfl).mpr ⟨?_, ?_⟩
  · rintro (hfat | hdevice)
    · cases hfat
    · cases hdevice
  · rintro packet ⟨-, -, hbuf, -⟩
    exact absurd rfl hbuf

/-- A fat binary that is not registered, since nothing arrives, is handed out with the handle 30,
which is the error that its packet was made with. -/
theorem fat_binary_from_broken_exchange :
    lDoCudaRpcOn zeros (nvbackCudaRegisterFatBinaryRpc
        (registration 1 .cudaRegisterFatBinary 0x200 4)) { accepts := 200, input := [] } =
      .returned .error (registration 1 .cudaRegisterFatBinary 0x200 4) ∧
    ¬∀ (call : CudaCall) (c : RpcCall) (net : Net), call.rpc 1 8 = some c →
      strmExpectsResponse c.packet.methodId = true → Reported call (lDoCudaRpcOn zeros c net) := by
  have hbroken : lDoCudaRpcOn zeros (nvbackCudaRegisterFatBinaryRpc
        (registration 1 .cudaRegisterFatBinary 0x200 4)) { accepts := 200, input := [] } =
      .returned .error (registration 1 .cudaRegisterFatBinary 0x200 4) := by
    decide +kernel
  refine ⟨hbroken, ?_⟩
  intro h
  have hreported := h (.registerFatBinary 0x200 4) _ { accepts := 200, input := [] } rfl rfl _
    hbroken
  cases hreported.1

end GpuVirtmem.Remote
