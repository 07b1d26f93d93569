import GpuVirtmem.Lib.Session
import GpuVirtmem.Remote.Broken

/-!
# Programs over the connection (`interposer/libci.c`, `backend/backend.c`)

An application makes CUDA calls and goes on with what they return. With each call it gets the error
that the interposer returns, if the call has one, what the interposer takes out of the packet, and
the data that has been stored in its buffer. Over the connection it gets what it would get if each
handler ran at once, and the backend is left in the same state.

The abstract machine here is the program with its handlers run at once (`Backend.Serves`): no bytes,
no messages, no second process. The connection refines it. What the handlers do is a parameter, so
that the result is as good for the build with the pager as for the one without.

An application is one thread here, as the connection has one user at a time. Its memory at each call
is part of the call, so that what it does with its buffers in between is its own business.
-/

namespace GpuVirtmem.Remote

open Lib Proc Interposer

/-- What the interposer takes out of the packet for the application. -/
inductive Taken
  | nothing
  | number (n : Int)
  | pointer (p : UInt64)
  | handle (h : Option RetExtra)
  deriving DecidableEq, Repr

/-- What the application gets from a call; there is no error where the call returns none. -/
structure CallReturn where
  err : Option UInt32
  taken : Taken
  data : Bytes
  deriving DecidableEq, Repr

/-- `*count` and `*device` are of type `int`, `*devPtr` is NULL after an error. -/
def takenFrom (call : CudaCall) (status : Status) (packet : CudaPacket) : Taken :=
  match status, call with
  | .ok, .getDeviceCount | .ok, .getDevice .. => .number (asInt packet.args0.word0.toNat)
  | .ok, .malloc .. => .pointer packet.args0.word0
  | .error, .malloc .. => .pointer 0
  | status, .registerFatBinary .. => .handle (takenHandle status packet)
  | _, _ => .nothing

/-- What the application gets after `l_do_cuda_rpc` has returned OK. -/
def callReturn (call : CudaCall) (r : RpcReturn) : CallReturn :=
  let status := rpcStatus call r.packet
  { err := cudaErr call status r.packet
    taken := takenFrom call status r.packet
    data := r.rspbuf }

/-- The wrapper has refused the direction of a copy: `cudaErrorUnknown`. -/
def refused : CallReturn := { err := some 30, taken := .nothing, data := [] }

/-- A call of the application, with its memory at the time. -/
abbrev AppCall := CudaCall × Memory

/-- The interposer's part of a call. -/
def interposed (thrId : UInt64) (propSize : PropSize) (x : AppCall) : Proc CallReturn :=
  match x.1.rpc thrId propSize with
  | none => pure refused
  | some c => lDoCudaRpc x.2 c >>= fun r => pure (callReturn x.1 r)

/-- The response data that the loop of `backend_thread` writes. -/
def Conn.responseData (conn : Conn) : Bytes :=
  if 0 < conn.responseDataSize then
    (conn.pRspBuffer.getD []).take conn.responseDataSize.toNat
  else []

/-- What `l_do_cuda_rpc` returns for the packet and the connection that a handler leaves. -/
def RpcCall.returned (c : RpcCall) (packet : CudaPacket) (conn : Conn) : RpcReturn :=
  if strmExpectsResponse c.packet.methodId then
    { expected := true
      packet := { packet with vmmap := 0, kmap := 0 }
      rspbuf := conn.responseData }
  else
    { expected := false, packet := c.packet, rspbuf := [] }

section

variable {τ : Type} (B : Backend τ) (propSize : PropSize)

/-- The packet with the pointers that the loop of `backend_thread` puts into it. -/
def Backend.withTables (packet : CudaPacket) : CudaPacket :=
  { packet with vmmap := B.vmapTable, kmap := B.kmapTable }

/-- The handler of a call runs at once, on the request as the client has it. -/
def Backend.serve (t : τ) (mem : Memory) (c : RpcCall) : Except CFail (τ × RpcReturn) := do
  let (t, packet, conn) ←
    B.pktExecute propSize t (B.withTables c.packet) (.requested (c.requestData mem))
  return (t, c.returned packet conn)

/-- A call whose sizes fit and whose buffers are there, served at once. -/
structure Backend.Serves (thrId : UInt64) (t : τ) (x : AppCall) (u : τ) (r : CallReturn) :
    Prop where
  sizesFit : x.1.SizesFit
  buffersGiven : x.1.BuffersGiven
  served : match x.1.rpc thrId propSize with
    | none => u = t ∧ r = refused
    | some c => ∃ ret, B.serve propSize t x.2 c = .ok (u, ret) ∧ r = callReturn x.1 ret

end

section

variable {τ : Type} {B : Backend τ} {propSize : PropSize} {t u : τ} {c : RpcCall} {mem : Memory}
  {ret : RpcReturn} {packet : CudaPacket} {conn : Conn} {size : Nat}

/-- The data of a response has the size that was agreed on. -/
theorem Conn.Responds.responseData_length (h : conn.Responds size) :
    conn.responseData.length = size := by
  unfold Conn.responseData
  rw [h.size_eq]
  rcases Nat.eq_zero_or_pos size with rfl | hpos
  · rfl
  · obtain ⟨buffer, hbuffer, hlen⟩ := h.buffer hpos
    rw [if_pos (Int.natCast_pos.mpr hpos), hbuffer, Option.getD_some, Int.toNat_natCast,
      List.length_take, hlen, Nat.min_self]

/-- The end of the loop writes the packet and the response data. -/
theorem runs_respond_data (packet : CudaPacket) (methodId : UInt16) (h : conn.Responds size) :
    Runs (respond packet methodId conn) [] (response methodId packet conn.responseData)
      (strmExpectsResponse methodId) := by
  unfold respond response
  by_cases hmethod : strmExpectsResponse methodId = true
  · have hlen := h.responseData_length
    have hmessage : message packet conn.responseData =
        connSendCudaPktHdr conn.responseDataSize ++ (packet.image ++ conn.responseData) := by
      rw [message, hlen, h.size_eq]
    rw [hmethod, if_pos rfl, if_pos rfl, hmessage]
    refine (runs_send _).bind_output ((runs_send _).bind_output ?_)
    unfold Conn.responseData putResponse
    split
    · next hpos =>
      rw [h.size_eq, Int.natCast_pos] at hpos
      obtain ⟨buffer, hbuffer, -⟩ := h.buffer hpos
      simp only [hbuffer, Option.getD_some]
      exact (runs_send _).map fun _ => true
    · exact .pure true
  · rw [Bool.eq_false_iff.mpr hmethod]
    exact .pure false

/-- The server's turn for a request, where the handler leaves the packet and the connection. -/
theorem Backend.runs_turn_of_execute {data : Bytes} {packet' : CudaPacket}
    (hdata : data.length < 2 ^ 31)
    (hok : B.pktExecute propSize t (B.withTables packet) (.requested data) = .ok (u, packet', conn))
    (hkept : packet'.methodId = packet.methodId) (hresponds : conn.Responds size) :
    Runs (B.turn propSize t) (message packet data)
      (response packet.methodId { packet' with vmmap := 0, kmap := 0 } conn.responseData)
      (u, strmExpectsResponse packet.methodId) := by
  rw [← hkept]
  refine (runs_receiveRequest packet hdata).bind_turn ?_
  refine (runs_lift hok).bind_input ?_
  have hrespond :=
    runs_respond_data { packet' with vmmap := 0, kmap := 0 } packet'.methodId hresponds
  exact hrespond.map fun responded => (u, responded)

/-- The client's half of the call that reads the response. -/
theorem RpcCall.Agreed.runs_awaitResponse (h : c.Agreed propSize)
    (hresponds : conn.Responds (responseSize propSize c.packet)) (packet : CudaPacket) :
    Runs (awaitResponse c)
      (response c.packet.methodId { packet with vmmap := 0, kmap := 0 } conn.responseData) []
      (c.returned packet conn) := by
  have hsize := hresponds.responseData_length
  unfold awaitResponse response RpcCall.returned
  by_cases hmethod : strmExpectsResponse c.packet.methodId = true
  · rw [if_pos hmethod, if_pos hmethod, if_pos hmethod]
    refine runs_receiveResponse _ (hsize ▸ h.rspbuf) ?_ (hsize ▸ h.responseSize_lt)
    rw [hsize]
    exact h.rspbufSize
  · rw [if_neg hmethod, if_neg hmethod, if_neg hmethod]
    exact .pure _

/-- The data of a request fits the header. -/
theorem RpcCall.Agreed.requestData_lt (h : c.Agreed propSize) (mem : Memory) :
    (c.requestData mem).length < 2 ^ 31 := by
  have hlen := h.requestData_length mem
  have hlt := h.reqbufSize_lt
  omega

/-- The handler of a call that is agreed on asserts nothing wrong. -/
theorem RpcCall.Agreed.handled (h : c.Agreed propSize) (B : Backend τ) (t : τ) (mem : Memory) :
    Handled c.packet.methodId (responseSize propSize c.packet)
      (B.pktExecute propSize t (B.withTables c.packet) (.requested (c.requestData mem))) := by
  have hlen := h.requestData_length mem
  have hnat : (c.requestData mem).length = c.reqbufSize.toNat := by omega
  have hacc : Accepted (B.withTables c.packet) (c.requestData mem).length := by
    rw [hnat]
    exact h.accepted
  exact B.pktExecute_handled t (h.requestData_lt mem) hacc h.responseSize_lt

/-- What is known of a handler that has run at once. -/
theorem RpcCall.Agreed.serve_cases (h : c.Agreed propSize)
    (hserve : B.serve propSize t mem c = .ok (u, ret)) :
    ∃ packet conn,
      B.pktExecute propSize t (B.withTables c.packet) (.requested (c.requestData mem)) =
        .ok (u, packet, conn) ∧
      packet.methodId = c.packet.methodId ∧ conn.Responds (responseSize propSize c.packet) ∧
      ret = c.returned packet conn := by
  obtain ⟨v, packet, conn, hok, hkept, hresponds⟩ := h.handled B t mem
  unfold Backend.serve at hserve
  rw [hok] at hserve
  cases hserve
  exact ⟨packet, conn, hok, hkept, hresponds, rfl⟩

end

section

variable {τ : Type} {B : Backend τ} {propSize : PropSize} {thrId : UInt64}

/-- A call that is served at once is served by an exchange on the connection. With this
`Lib.Session` does the rest. -/
theorem Backend.Serves.exchanged (hprop : propSize < 2 ^ 31) {t u : τ} {x : AppCall}
    {r : CallReturn} (h : B.Serves propSize thrId t x u r) :
    Program.Served (interposed thrId propSize) (B.turn propSize) t x u r := by
  have hserved := h.served
  cases hrpc : x.1.rpc thrId propSize with
  | none =>
    rw [hrpc] at hserved
    obtain ⟨rfl, rfl⟩ := hserved
    refine .alone ?_
    unfold interposed
    rw [hrpc]
    exact .pure refused
  | some c =>
    rw [hrpc] at hserved
    obtain ⟨ret, hserve, rfl⟩ := hserved
    have hagreed := rpc_agreed thrId hprop h.sizesFit h.buffersGiven hrpc
    obtain ⟨packet, conn, hok, hkept, hresponds, rfl⟩ := hagreed.serve_cases hserve
    have hbody : interposed thrId propSize x = sendRequest x.2 c >>= fun _ =>
        awaitResponse c >>= fun r => pure (callReturn x.1 r) := by
      unfold interposed
      rw [hrpc]
      exact bind_assoc ..
    exact .exchange hbody (runs_sendRequest hagreed x.2)
      ((hagreed.runs_awaitResponse hresponds packet).map (callReturn x.1))
      (Backend.runs_turn_of_execute (hagreed.requestData_lt x.2) hok hkept hresponds)

/-- Every call whose sizes fit and whose buffers are there is served, so that the program has a run
to begin with. -/
theorem Backend.exists_serves (hprop : propSize < 2 ^ 31) (t : τ) {x : AppCall}
    (hfit : x.1.SizesFit) (hgiven : x.1.BuffersGiven) : ∃ u r, B.Serves propSize thrId t x u r := by
  cases hrpc : x.1.rpc thrId propSize with
  | none =>
    refine ⟨t, refused, hfit, hgiven, ?_⟩
    rw [hrpc]
    exact ⟨rfl, rfl⟩
  | some c =>
    have hagreed := rpc_agreed thrId hprop hfit hgiven hrpc
    obtain ⟨u, packet, conn, hok, -, -⟩ := hagreed.handled B t x.2
    refine ⟨u, callReturn x.1 (c.returned packet conn), hfit, hgiven, ?_⟩
    rw [hrpc]
    refine ⟨_, ?_, rfl⟩
    unfold Backend.serve
    rw [hok]
    rfl

/-- A call that can be sent: its sizes fit, and its buffers are there. -/
def Sendable (x : AppCall) : Prop := x.1.SizesFit ∧ x.1.BuffersGiven

/-- What runs where each handler runs at once runs over the connection. -/
theorem Backend.runs_remotely {α : Type} (hprop : propSize < 2 ^ 31)
    {p : Program AppCall CallReturn α} {t u : τ} {rs : List CallReturn} {a : α}
    (h : Program.Runs (B.Serves propSize thrId) p t rs u a) :
    Program.RunsRemotely (interposed thrId propSize) (B.turn propSize) p t rs u a := by
  refine h.remotely (fun _ _ _ _ hc => hc.exchanged hprop) ?_
  intro t
  exact ⟨sizeofStrmHdr, _, rfl, by decide⟩

/-- Over the connection a program runs as it does where each handler runs at once.

The statement is about all programs that decide what to call next by what they have been returned,
and about all interleavings of the bytes on the two streams. None of them gets stuck, and all come
to the same end. -/
theorem program_runs_remotely {α : Type} (hprop : propSize < 2 ^ 31)
    {p : Program AppCall CallReturn α} {t : τ} (h : p.Safe (B.Serves propSize thrId) Sendable t) :
    ∃ rs u a, Program.Runs (B.Serves propSize thrId) p t rs u a ∧
      Program.RunsRemotely (interposed thrId propSize) (B.turn propSize) p t rs u a := by
  have hboth : ∀ (t s : τ) (x : AppCall), t = s → Sendable x → ∃ u v r,
      B.Serves propSize thrId t x u r ∧ B.Serves propSize thrId s x v r ∧ u = v := by
    rintro t _ x rfl hx
    obtain ⟨u, r, hserved⟩ := B.exists_serves hprop t hx.1 hx.2
    exact ⟨u, u, r, hserved, hserved, rfl⟩
  obtain ⟨rs, u, _, a, hruns, -, -⟩ := h.runs_both rfl hboth
  exact ⟨rs, u, a, hruns, Backend.runs_remotely hprop hruns⟩

/-- A program that copies four bytes to what it has allocated. -/
def mallocThenCopy : Program AppCall CallReturn (Option UInt32) :=
  .call (.malloc 0x100 4, zeros) fun r =>
    match r.taken with
    | .pointer p => .call (.memcpy p 0x200 4 1, zeros) fun r => .done r.err
    | _ => .done r.err

/-- A program that allocates, and copies to the pointer that it gets. -/
theorem program_runs_remotely_mallocThenCopy : ∃ rs u a,
    Program.Runs (idleBackend.Serves 8 1) mallocThenCopy () rs u a ∧
      Program.RunsRemotely (interposed 1 8) (idleBackend.turn 8) mallocThenCopy () rs u a := by
  refine program_runs_remotely (by decide) ⟨⟨trivial, trivial⟩, ?_⟩
  intro u r _
  dsimp only
  split
  · have hkind : CudaMemcpyKind.ofArgi (Arg.argi ⟨1, 0⟩) = .hostToDevice := rfl
    refine ⟨⟨?_, ?_⟩, ?_⟩
    · simp [CudaCall.SizesFit]
    · simp [CudaCall.BuffersGiven, hkind]
    · intro u r _
      trivial
  · trivial

end

end GpuVirtmem.Remote
