import GpuVirtmem.Remote.Server

/-!
# One remote call

The client writes a message, and the server's turn reads exactly that message. Where the method has
a response, the server writes a message of the form that the client reads. Both follow from what the
handler asserts of a request and from the size of what it responds with.

`Agreed` is the contract of one call. Of the client it asks that its sizes fit an `int` and its
buffers are there; of the method, that both sides have the same opinion on whether there is a
response and how long it is. From it both halves of the call are shown to run, each with the
messages that the other half writes.
-/

namespace GpuVirtmem.Remote

open Lib Proc

/-! ## Sizes -/

/-- A size below 2^31 survives the conversion to `int`. -/
theorem asInt_of_lt {n : Nat} (h : n < 2 ^ 31) : asInt n = n := by
  rw [asInt, BitVec.toInt_ofNat', Int.bmod_eq_of_le] <;> omega

/-- And that from a word of the packet. -/
theorem argi_of_lt {a : Arg} (h : a.word0.toNat < 2 ^ 31) : a.argi = a.word0.toNat := by
  have hword : a.word0.toBitVec.toNat = a.word0.toNat := rfl
  rw [Arg.argi, BitVec.toInt_eq_toNat_of_lt] <;> omega

/-- The header for `n` bytes of data. -/
theorem connSendCudaPktHdr_eq {n : Nat} (h : n < 2 ^ 31) :
    connSendCudaPktHdr n = StrmHdr.image { numCudaPkts := 1, dataSize := .ofNat n } := by
  unfold connSendCudaPktHdr
  have hn : ((n : Int) % 2 ^ 32).toNat = n := by omega
  rw [hn]

/-- A header has room for it. -/
theorem toNat_ofNat {n : Nat} (h : n < 2 ^ 31) : (UInt32.ofNat n).toNat = n := by
  rw [UInt32.toNat_ofNat', Nat.mod_eq_of_lt]
  omega

theorem runs_get {bs : Bytes} : Runs (get bs.length) bs [] bs := by
  unfold get
  rw [if_neg (by omega)]
  exact runs_recv rfl

/-- A header is read as one packet and so many bytes of data. -/
theorem runs_header {n : Nat} (h : n < 2 ^ 31) :
    Runs (receive sizeofStrmHdr strmHdr) (connSendCudaPktHdr n) []
      { numCudaPkts := 1, dataSize := .ofNat n } := by
  rw [connSendCudaPktHdr_eq h]
  exact runs_receive (reads_strmHdr _) (StrmHdr.image_length _)

/-- A header, a packet and data behind it: a request or a response. -/
def message (packet : CudaPacket) (data : Bytes) : Bytes :=
  connSendCudaPktHdr data.length ++ (packet.image ++ data)

/-! ## The server's turn -/

/-- The connection after a request with the given data. -/
def Conn.requested (data : Bytes) : Conn :=
  { requestDataSize := data.length, pReqBuffer := data, responseDataSize := 0, pRspBuffer := none }

/-- The server reads exactly a request of one packet: the lengths that it reads by are those that
the client has written. -/
theorem runs_receiveRequest (packet : CudaPacket) {data : Bytes} (h : data.length < 2 ^ 31) :
    Runs receiveRequest (message packet data) [] ([packet], .requested data) := by
  have hread : Reader.Reads (Reader.times 1 cudaPacket) packet.image [packet] := by
    have := Reader.reads_times (l := [packet]) (r := cudaPacket) fun p _ => reads_cudaPacket p
    rwa [List.flatMap_singleton, List.map_id'] at this
  refine (runs_header h).bind_input ?_
  show Runs (receive (1 * sizeofRpkt) (Reader.times 1 cudaPacket) >>= _) _ _ _
  refine (runs_receive hread (packet.image_length.trans (Nat.one_mul _).symm)).bind_input ?_
  have hsize := toNat_ofNat h
  by_cases hz : data = []
  · subst hz
    exact .pure _
  · have hlt : 0 < UInt32.ofNat data.length := by
      rw [UInt32.lt_iff_toNat_lt, hsize]
      exact List.length_pos_iff.mpr hz
    rw [if_pos hlt, hsize, asInt_of_lt h]
    exact runs_get.map fun pReqBuffer => ([packet],
      { Conn.fresh with requestDataSize := data.length, pReqBuffer := pReqBuffer })

/-- The bytes that the handler of a packet responds with. -/
def responseSize (propSize : PropSize) (packet : CudaPacket) : Nat :=
  match pktExecute packet.methodId with
  | some .nvbackCudaGetDeviceProperties => propSize
  | some .nvbackCudaMemcpy =>
    if MethodId.ofCode packet.methodId = some .cudaMemcpyD2H then packet.args2.word0.toNat else 0
  | some .nvbackCudaMemcpyFromSymbol =>
    if CudaMemcpyKind.ofArg packet.args3 = .deviceToHost then packet.args2.word0.toNat else 0
  | _ => 0

section

variable {propSize : PropSize} {packet : CudaPacket}

/-- The data of a response has the size of the copy where the copy is from the device. -/
theorem responseSize_memcpyD2H (hsrv : pktExecute packet.methodId = some .nvbackCudaMemcpy)
    (h : MethodId.ofCode packet.methodId = some .cudaMemcpyD2H) :
    responseSize propSize packet = packet.args2.word0.toNat := by
  simp only [responseSize, hsrv, h, if_true]

/-- And there is none for the other directions. -/
theorem responseSize_memcpy (hsrv : pktExecute packet.methodId = some .nvbackCudaMemcpy)
    (h : MethodId.ofCode packet.methodId ≠ some .cudaMemcpyD2H) :
    responseSize propSize packet = 0 := by
  simp only [responseSize, hsrv, h, if_false]

theorem responseSize_fromSymbolD2H
    (hsrv : pktExecute packet.methodId = some .nvbackCudaMemcpyFromSymbol)
    (h : CudaMemcpyKind.ofArg packet.args3 = .deviceToHost) :
    responseSize propSize packet = packet.args2.word0.toNat := by
  simp only [responseSize, hsrv, h, if_true]

theorem responseSize_fromSymbol
    (hsrv : pktExecute packet.methodId = some .nvbackCudaMemcpyFromSymbol)
    (h : CudaMemcpyKind.ofArg packet.args3 ≠ .deviceToHost) :
    responseSize propSize packet = 0 := by
  simp only [responseSize, hsrv, h, if_false]

end

/-- What the handler of a packet asserts of the size of the request data. -/
def Accepted (packet : CudaPacket) (size : Nat) : Prop :=
  match pktExecute packet.methodId with
  | some .nvbackCudaMemcpy =>
    MethodId.ofCode packet.methodId = some .cudaMemcpyH2D → packet.args2.word0.toNat = size
  | some .nvbackCudaMemcpyToSymbol =>
    CudaMemcpyKind.ofArg packet.args3 = .hostToDevice → packet.args2.word0.toNat = size
  | _ => True

/-- A connection with a response of the given size. -/
structure Conn.Responds (conn : Conn) (size : Nat) : Prop where
  size_eq : conn.responseDataSize = size
  buffer : 0 < size → ∃ buffer, conn.pRspBuffer = some buffer ∧ buffer.length = size

/-- A handler that leaves the connection as it was responds without data. -/
theorem Conn.requested_responds (data : Bytes) : (Conn.requested data).Responds 0 where
  size_eq := rfl
  buffer h := absurd h (Nat.lt_irrefl 0)

/-- One that has allocated a response responds with that. -/
theorem Conn.withResponse_responds (conn : Conn) {size : Nat} (h : size < 2 ^ 31) :
    (conn.withResponse (asInt size)).Responds size := by
  rw [asInt_of_lt h]
  refine ⟨rfl, ?_⟩
  intro _
  exact ⟨_, rfl, List.length_replicate ..⟩

/-- What a handler leaves: the method of its packet, and a response of the given size. -/
def Handled {τ : Type} (methodId : UInt16) (size : Nat)
    (x : Except CFail (τ × CudaPacket × Conn)) : Prop :=
  ∃ t packet conn, x = .ok (t, packet, conn) ∧ packet.methodId = methodId ∧ conn.Responds size

section

variable {τ : Type} (B : Backend τ) {propSize : PropSize}

/-- A handler that does its work on such a connection asserts nothing wrong. -/
theorem Backend.run_handled (srv : Srv) (t : τ) (packet : CudaPacket) {conn : Conn} {size : Nat}
    (h : conn.Responds size) : Handled packet.methodId size (.ok (B.run srv t packet conn)) := by
  refine ⟨_, _, _, rfl, rfl, h.size_eq, ?_⟩
  intro hpos
  obtain ⟨buffer, hbuffer, hlen⟩ := h.buffer hpos
  have hleft := ((B.work srv t packet conn).buffer buffer.length).property
  refine ⟨_, congrArg (Option.map _) hbuffer, ?_⟩
  exact hleft.trans hlen

/-- The handler of a copy checks the size of the data against the size of the copy, which agree for
a request that was accepted. -/
theorem nvbackCudaMemcpySrv_handled (t : τ) {packet : CudaPacket} {data : Bytes}
    (hsrv : pktExecute packet.methodId = some .nvbackCudaMemcpy) (hdata : data.length < 2 ^ 31)
    (hacc : Accepted packet data.length) (hsize : responseSize propSize packet < 2 ^ 31) :
    Handled packet.methodId (responseSize propSize packet)
      (nvbackCudaMemcpySrv B t packet (.requested data)) := by
  have hidle := Conn.requested_responds data
  simp only [Accepted, hsrv] at hacc
  unfold nvbackCudaMemcpySrv
  cases hm : MethodId.ofCode packet.methodId with
  | none =>
    rw [responseSize_memcpy hsrv (by simp [hm])]
    exact B.run_handled _ _ _ hidle
  | some m =>
    cases m with
    | cudaMemcpyH2D =>
      have hargs := hacc hm
      have hassert : (Conn.requested data).requestDataSize = packet.args2.argi := by
        rw [argi_of_lt (by omega), hargs]
        rfl
      rw [responseSize_memcpy hsrv (by simp [hm])]
      show Handled _ _ (if _ then _ else _)
      rw [if_pos hassert]
      exact B.run_handled _ _ _ hidle
    | cudaMemcpyD2H =>
      rw [responseSize_memcpyD2H hsrv hm] at hsize ⊢
      exact B.run_handled _ _ _ (Conn.withResponse_responds _ hsize)
    | cudaMemcpyH2H =>
      rw [responseSize_memcpy hsrv (by simp [hm])]
      exact ⟨_, _, _, rfl, rfl, hidle⟩
    | _ =>
      rw [responseSize_memcpy hsrv (by simp [hm])]
      exact B.run_handled _ _ _ hidle

theorem withErr_handled (t : τ) (packet : CudaPacket) (err : UInt32) {conn : Conn} {size : Nat}
    (h : conn.Responds size) :
    Handled packet.methodId size (.ok (t, withErr packet err, conn)) := ⟨_, _, _, rfl, rfl, h⟩

/-- The handlers of symbols check the same. -/
theorem nvbackCudaMemcpyToSymbolSrv_handled (t : τ) {packet : CudaPacket} {data : Bytes}
    (hsrv : pktExecute packet.methodId = some .nvbackCudaMemcpyToSymbol)
    (hdata : data.length < 2 ^ 31) (hacc : Accepted packet data.length) :
    Handled packet.methodId 0 (nvbackCudaMemcpyToSymbolSrv B t packet (.requested data)) := by
  have hidle := Conn.requested_responds data
  simp only [Accepted, hsrv] at hacc
  unfold nvbackCudaMemcpyToSymbolSrv
  cases hkind : CudaMemcpyKind.ofArg packet.args3 with
  | hostToDevice =>
    have hargs := hacc hkind
    have hassert : (Conn.requested data).requestDataSize % 2 ^ 32 = packet.args2.word0.toNat := by
      show (data.length : Int) % 2 ^ 32 = _
      omega
    show Handled _ _ (if _ then _ else _)
    rw [if_pos hassert]
    exact B.run_handled _ _ _ hidle
  | deviceToDevice => exact withErr_handled t packet 31 hidle
  | deviceToHost => exact withErr_handled t packet 21 hidle
  | other => exact withErr_handled t packet 21 hidle

theorem nvbackCudaMemcpyFromSymbolSrv_handled (t : τ) {packet : CudaPacket} (data : Bytes)
    (hsrv : pktExecute packet.methodId = some .nvbackCudaMemcpyFromSymbol)
    (hsize : responseSize propSize packet < 2 ^ 31) :
    Handled packet.methodId (responseSize propSize packet)
      (nvbackCudaMemcpyFromSymbolSrv B t packet (.requested data)) := by
  have hidle := Conn.requested_responds data
  unfold nvbackCudaMemcpyFromSymbolSrv
  cases hkind : CudaMemcpyKind.ofArg packet.args3 with
  | deviceToHost =>
    rw [responseSize_fromSymbolD2H hsrv hkind] at hsize ⊢
    exact B.run_handled _ _ _ (Conn.withResponse_responds _ hsize)
  | deviceToDevice =>
    rw [responseSize_fromSymbol hsrv (by simp [hkind])]
    exact withErr_handled t packet 31 hidle
  | hostToDevice =>
    rw [responseSize_fromSymbol hsrv (by simp [hkind])]
    exact withErr_handled t packet 21 hidle
  | other =>
    rw [responseSize_fromSymbol hsrv (by simp [hkind])]
    exact withErr_handled t packet 21 hidle

/-- The handler of a request that it accepts asserts nothing wrong. -/
theorem Backend.pktExecute_handled (t : τ) {packet : CudaPacket} {data : Bytes}
    (hdata : data.length < 2 ^ 31) (hacc : Accepted packet data.length)
    (hsize : responseSize propSize packet < 2 ^ 31) :
    Handled packet.methodId (responseSize propSize packet)
      (B.pktExecute propSize t packet (.requested data)) := by
  have hidle := Conn.requested_responds data
  unfold Backend.pktExecute
  cases hsrv : Remote.pktExecute packet.methodId with
  | none =>
    have hrsp : responseSize propSize packet = 0 := by
      simp only [responseSize, hsrv]
    rw [hrsp]
    exact ⟨_, _, _, rfl, rfl, hidle⟩
  | some srv =>
    cases srv with
    | nvbackCudaGetDeviceProperties =>
      have hrsp : responseSize propSize packet = propSize := by
        simp only [responseSize, hsrv]
      rw [hrsp] at hsize ⊢
      exact B.run_handled _ _ _ (Conn.withResponse_responds _ hsize)
    | nvbackCudaMemcpy => exact nvbackCudaMemcpySrv_handled B t hsrv hdata hacc hsize
    | nvbackCudaMemcpyToSymbol =>
      have hrsp : responseSize propSize packet = 0 := by
        simp only [responseSize, hsrv]
      rw [hrsp]
      exact nvbackCudaMemcpyToSymbolSrv_handled B t hsrv hdata hacc
    | nvbackCudaMemcpyFromSymbol =>
      exact nvbackCudaMemcpyFromSymbolSrv_handled B t data hsrv hsize
    | _ =>
      have hrsp : responseSize propSize packet = 0 := by
        simp only [responseSize, hsrv]
      rw [hrsp]
      exact B.run_handled _ _ _ hidle

/-- The response to a request of the given method. -/
def response (methodId : UInt16) (packet : CudaPacket) (data : Bytes) : Bytes :=
  if strmExpectsResponse methodId then message packet data else []

/-- The response is written as one packet with its data, if the client expects one. -/
theorem runs_respond (packet : CudaPacket) (methodId : UInt16) {conn : Conn} {size : Nat}
    (h : conn.Responds size) :
    ∃ data, data.length = size ∧
      Runs (respond packet methodId conn) [] (response methodId packet data)
        (strmExpectsResponse methodId) := by
  obtain ⟨requestDataSize, pReqBuffer, responseDataSize, pRspBuffer⟩ := conn
  obtain ⟨rfl, hbuffer⟩ := h
  unfold respond response
  by_cases hmethod : strmExpectsResponse methodId = true
  · rw [hmethod, if_pos rfl]
    rcases Nat.eq_zero_or_pos size with rfl | hpos
    · refine ⟨[], rfl, ?_⟩
      refine (runs_send _).bind_output ((runs_send _).bind_output ?_)
      exact .pure _
    · obtain ⟨data, rfl, rfl⟩ := hbuffer hpos
      refine ⟨data, rfl, ?_⟩
      refine (runs_send _).bind_output ((runs_send _).bind_output ?_)
      have hput : Runs (putResponse ⟨requestDataSize, pReqBuffer, data.length, some data⟩) [] data
          () := by
        show Runs (send (data.take data.length)) _ _ _
        rw [List.take_length]
        exact runs_send data
      show Runs (if _ then _ else _) _ _ _
      rw [if_pos (Int.natCast_pos.mpr hpos)]
      exact hput.map fun _ => true
  · rw [Bool.eq_false_iff.mpr hmethod]
    exact ⟨List.replicate size 0, List.length_replicate, .pure _⟩

/-- The server's turn for a request that its handler accepts: it reads the request, and writes the
response or nothing. -/
theorem Backend.runs_turn (t : τ) {packet : CudaPacket} {data : Bytes}
    (hdata : data.length < 2 ^ 31) (hacc : Accepted packet data.length)
    (hsize : responseSize propSize packet < 2 ^ 31) :
    ∃ t' packet' data', data'.length = responseSize propSize packet ∧
      Runs (B.turn propSize t) (message packet data) (response packet.methodId packet' data')
        (t', strmExpectsResponse packet.methodId) := by
  -- the tables that the loop puts into the packet do not matter here
  have hhandled : Handled packet.methodId (responseSize propSize packet) (B.pktExecute propSize t
      { packet with vmmap := B.vmapTable, kmap := B.kmapTable } (.requested data)) :=
    B.pktExecute_handled t hdata hacc hsize
  obtain ⟨t', packet', conn, hok, hkept, hresponds⟩ := hhandled
  obtain ⟨data', hlen, hrespond⟩ :=
    runs_respond { packet' with vmmap := 0, kmap := 0 } packet'.methodId hresponds
  refine ⟨t', { packet' with vmmap := 0, kmap := 0 }, data', hlen, ?_⟩
  rw [← hkept]
  refine (runs_receiveRequest packet hdata).bind_turn ?_
  refine (runs_lift hok).bind_input ?_
  exact hrespond.map fun responded => (t', responded)

end

/-! ## The client's call -/

/-- The data that goes with a call. -/
def RpcCall.requestData (mem : Memory) (c : RpcCall) : Bytes :=
  if 0 < c.reqbufSize then (mem c.reqbuf c.reqbufSize.toNat).val else []

/-- A call that is agreed on: its buffers are there, its request is one that the handler accepts,
and the response buffer has room for what the handler responds with. -/
structure RpcCall.Agreed (propSize : PropSize) (c : RpcCall) : Prop where
  reqbuf : 0 < c.reqbufSize → c.reqbuf ≠ 0
  reqbufSize_nonneg : 0 ≤ c.reqbufSize
  reqbufSize_lt : c.reqbufSize < 2 ^ 31
  accepted : Accepted c.packet c.reqbufSize.toNat
  rspbuf : 0 < responseSize propSize c.packet → c.rspbuf ≠ 0
  rspbufSize : responseSize propSize c.packet ≤ c.rspbufSize
  responseSize_lt : responseSize propSize c.packet < 2 ^ 31

/-- The data of a request has the size that the wrapper says. -/
theorem RpcCall.Agreed.requestData_length {propSize : PropSize} {c : RpcCall}
    (h : c.Agreed propSize) (mem : Memory) : ((c.requestData mem).length : Int) = c.reqbufSize := by
  have hnonneg := h.reqbufSize_nonneg
  unfold requestData
  split
  · have hlen := (mem c.reqbuf c.reqbufSize.toNat).property
    omega
  · show (0 : Int) = _
    omega

/-- The client writes a message. -/
theorem runs_sendRequest {propSize : PropSize} {c : RpcCall} (h : c.Agreed propSize)
    (mem : Memory) :
    Runs (sendRequest mem c) [] (message c.packet (c.requestData mem)) () := by
  unfold sendRequest message
  rw [h.requestData_length mem]
  refine (runs_send _).bind_output ((runs_send _).bind_output ?_)
  unfold RpcCall.requestData
  by_cases hpos : 0 < c.reqbufSize
  · have hbuf : (c.reqbuf != 0 && c.reqbufSize != 0) = true := by
      rw [Bool.and_eq_true, bne_iff_ne, bne_iff_ne]
      exact ⟨h.reqbuf hpos, by omega⟩
    rw [if_pos hpos, if_pos hpos]
    exact (runs_check hbuf).bind_output (runs_send _)
  · rw [if_neg hpos, if_neg hpos]
    exact .pure ()

/-- The client reads a message that its response buffer has room for. -/
theorem runs_receiveResponse {c : RpcCall} (packet : CudaPacket) {data : Bytes}
    (hbuf : 0 < data.length → c.rspbuf ≠ 0) (hsize : data.length ≤ c.rspbufSize)
    (h : data.length < 2 ^ 31) :
    Runs (receiveResponse c) (message packet data) []
      { expected := true, packet := packet, rspbuf := data } := by
  refine (runs_header h).bind_input ?_
  refine (runs_check rfl).bind_input ?_
  show Runs (receive (1 * sizeofRpkt) cudaPacket >>= _) _ _ _
  refine (runs_receive (reads_cudaPacket packet)
    (packet.image_length.trans (Nat.one_mul _).symm)).bind_input ?_
  have hnat := toNat_ofNat h
  by_cases hz : data = []
  · subst hz
    exact .pure _
  · have hpos : 0 < data.length := List.length_pos_iff.mpr hz
    have hlt : 0 < UInt32.ofNat data.length := by
      rw [UInt32.lt_iff_toNat_lt, hnat]
      exact hpos
    have hgiven : (c.rspbuf != 0 && c.rspbufSize != 0) = true := by
      rw [Bool.and_eq_true, bne_iff_ne, bne_iff_ne]
      exact ⟨hbuf hpos, by omega⟩
    rw [if_pos hlt, hnat, asInt_of_lt h]
    refine (runs_check hgiven).bind_input ?_
    refine (runs_check (decide_eq_true hsize)).bind_input ?_
    exact runs_get.map fun data => RpcReturn.mk true packet data

/-- The second half of a call, which takes the response where there is one. -/
theorem runs_awaitResponse {c : RpcCall} (packet : CudaPacket) {data : Bytes}
    (hbuf : 0 < data.length → c.rspbuf ≠ 0) (hsize : data.length ≤ c.rspbufSize)
    (h : data.length < 2 ^ 31) :
    ∃ r : RpcReturn, r.expected = strmExpectsResponse c.packet.methodId ∧
      Runs (awaitResponse c) (response c.packet.methodId packet data) [] r := by
  unfold awaitResponse response
  by_cases hmethod : strmExpectsResponse c.packet.methodId = true
  · rw [hmethod, if_pos rfl, if_pos rfl]
    exact ⟨_, rfl, runs_receiveResponse packet hbuf hsize h⟩
  · rw [Bool.eq_false_iff.mpr hmethod]
    exact ⟨_, rfl, .pure _⟩

end GpuVirtmem.Remote
