import GpuVirtmem.Interposer.Calls
import GpuVirtmem.Lib.Link
import GpuVirtmem.Remote.Exchange

/-!
# The two sides stay in step

Every call that the interposer makes is agreed on, so it is an exchange on the connection, and a
sequence of calls leads to an end in which the rounds of the two sides match. Every interleaving of
the two sides comes to that end.

To stay in step is more than not to deadlock: every message is received whole, by the read that it
was meant for, and the run comes to an end in which nothing is left on the streams. The amendment of
NULL buffers is forced by two assertions of the source. They are on the client, and end it in the
middle of a call.

Not claimed is anything about a connection that breaks (`Broken`), about sizes that do not fit
(`Sizes`) or about what the handlers compute; for the server they are a parameter that leaves the
connection to the loop.
-/

namespace GpuVirtmem.Remote

open Lib Proc Interposer

/-! ## The calls of the interposer -/

section

variable {propSize : Nat}

/-- A call with a request of `n` bytes and a response of `m` bytes. -/
theorem RpcCall.agreed_mk {packet : CudaPacket} {reqbuf rspbuf : UInt64} {n m : Nat}
    (hn : n < 2 ^ 31) (hreqbuf : 0 < n → reqbuf ≠ 0) (hacc : Accepted packet n)
    (hm : m < 2 ^ 31) (hrspbuf : 0 < m → rspbuf ≠ 0) (hsize : responseSize propSize packet = m) :
    (RpcCall.mk packet reqbuf n rspbuf m).Agreed propSize := by
  subst hsize
  exact {
    reqbuf := fun h => hreqbuf (Int.natCast_pos.mp h)
    reqbufSize_nonneg := Int.natCast_nonneg n
    reqbufSize_lt := by
      show (n : Int) < 2 ^ 31
      omega
    accepted := hacc
    rspbuf := hrspbuf
    rspbufSize := Int.le_refl _
    responseSize_lt := hm }

/-- A call without extra buffers. -/
theorem bare_agreed {packet : CudaPacket} (hacc : Accepted packet 0)
    (hsize : responseSize propSize packet = 0) : (bare packet).Agreed propSize :=
  RpcCall.agreed_mk (by decide) (fun h => absurd h (Nat.lt_irrefl 0)) hacc (by decide)
    (fun h => absurd h (Nat.lt_irrefl 0)) hsize

/-- A call with a request buffer. -/
theorem request_agreed {packet : CudaPacket} {p size : UInt64} (hfit : size.toNat < 2 ^ 31)
    (hgiven : size ≠ 0 → p ≠ 0) (hacc : Accepted packet size.toNat)
    (hsize : responseSize propSize packet = 0) :
    RpcCall.Agreed propSize
      { bare packet with reqbuf := p, reqbufSize := asInt size.toNat } := by
  rw [asInt_of_lt hfit]
  refine RpcCall.agreed_mk hfit ?_ hacc (by decide) (fun h => absurd h (Nat.lt_irrefl 0)) hsize
  intro h
  apply hgiven
  rintro rfl
  exact absurd h (Nat.lt_irrefl 0)

/-- A call with a response buffer. -/
theorem response_agreed {packet : CudaPacket} {p size : UInt64} (hfit : size.toNat < 2 ^ 31)
    (hgiven : size ≠ 0 → p ≠ 0) (hacc : Accepted packet 0)
    (hsize : responseSize propSize packet = size.toNat) :
    RpcCall.Agreed propSize
      { bare packet with rspbuf := p, rspbufSize := asInt size.toNat } := by
  rw [asInt_of_lt hfit]
  refine RpcCall.agreed_mk (by decide) (fun h => absurd h (Nat.lt_irrefl 0)) hacc hfit ?_ hsize
  intro h
  apply hgiven
  rintro rfl
  exact absurd h (Nat.lt_irrefl 0)

/-- `nvbackCudaMemcpy_rpc`: what is sent along is what the handler asserts, in each of the four
directions. -/
theorem nvbackCudaMemcpyRpc_agreed (thrId : UInt64) {dst src count kind : UInt64} {c : RpcCall}
    (hfit : (CudaCall.memcpy dst src count kind).SizesFit)
    (hgiven : (CudaCall.memcpy dst src count kind).BuffersGiven)
    (h : nvbackCudaMemcpyRpc (rcudaMemcpy thrId dst src count kind) = some c) :
    c.Agreed propSize := by
  unfold nvbackCudaMemcpyRpc at h
  have hargs : (rcudaMemcpy thrId dst src count kind).args3 = ⟨kind, 0⟩ := rfl
  rw [hargs] at h
  cases hkind : CudaMemcpyKind.ofArgi (Arg.argi ⟨kind, 0⟩) with
  | hostToDevice =>
    rw [hkind] at h
    cases h
    exact request_agreed hfit (fun hcount => (hgiven hcount).1 hkind) (fun _ => rfl) rfl
  | deviceToHost =>
    rw [hkind] at h
    cases h
    exact response_agreed hfit (fun hcount => (hgiven hcount).2 hkind) (fun h => nomatch h) rfl
  | deviceToDevice =>
    rw [hkind] at h
    cases h
    exact bare_agreed (fun h => nomatch h) rfl
  | other =>
    rw [hkind] at h
    cases h

/-- `nvbackCudaMemcpyToSymbol_rpc`, as `nvbackCudaMemcpy_rpc`. -/
theorem nvbackCudaMemcpyToSymbolRpc_agreed (thrId : UInt64)
    {hostVar src count offset kind : UInt64} {c : RpcCall}
    (hfit : (CudaCall.memcpyToSymbol hostVar src count offset kind).SizesFit)
    (hgiven : (CudaCall.memcpyToSymbol hostVar src count offset kind).BuffersGiven)
    (h : nvbackCudaMemcpyToSymbolRpc (rcudaMemcpyToSymbol thrId hostVar src count offset kind) =
      some c) : c.Agreed propSize := by
  unfold nvbackCudaMemcpyToSymbolRpc at h
  have hargs : (rcudaMemcpyToSymbol thrId hostVar src count offset kind).args3 = ⟨kind, 0⟩ := rfl
  rw [hargs] at h
  cases hkind : CudaMemcpyKind.ofArg ⟨kind, 0⟩ with
  | hostToDevice =>
    rw [hkind] at h
    cases h
    exact request_agreed hfit (fun hcount => hgiven hcount hkind) (fun _ => rfl) rfl
  | deviceToDevice =>
    rw [hkind] at h
    cases h
    exact bare_agreed (fun hother => nomatch hkind.symm.trans hother) rfl
  | deviceToHost =>
    rw [hkind] at h
    cases h
  | other =>
    rw [hkind] at h
    cases h

/-- `nvbackCudaMemcpyFromSymbol_rpc`, as `nvbackCudaMemcpy_rpc`. -/
theorem nvbackCudaMemcpyFromSymbolRpc_agreed (thrId : UInt64)
    {dst hostVar count offset kind : UInt64} {c : RpcCall}
    (hfit : (CudaCall.memcpyFromSymbol dst hostVar count offset kind).SizesFit)
    (hgiven : (CudaCall.memcpyFromSymbol dst hostVar count offset kind).BuffersGiven)
    (h : nvbackCudaMemcpyFromSymbolRpc
      (rcudaMemcpyFromSymbol thrId dst hostVar count offset kind) = some c) :
    c.Agreed propSize := by
  unfold nvbackCudaMemcpyFromSymbolRpc at h
  have hargs : (rcudaMemcpyFromSymbol thrId dst hostVar count offset kind).args3 = ⟨kind, 0⟩ := rfl
  rw [hargs] at h
  cases hkind : CudaMemcpyKind.ofArg ⟨kind, 0⟩ with
  | deviceToHost =>
    rw [hkind] at h
    cases h
    exact response_agreed hfit (fun hcount => hgiven hcount hkind) trivial
      (responseSize_fromSymbolD2H rfl hkind)
  | deviceToDevice =>
    rw [hkind] at h
    cases h
    have hother : CudaMemcpyKind.ofArg ⟨kind, 0⟩ ≠ .deviceToHost := by
      rw [hkind]
      decide
    exact bare_agreed trivial (responseSize_fromSymbol rfl hother)
  | hostToDevice =>
    rw [hkind] at h
    cases h
  | other =>
    rw [hkind] at h
    cases h

/-- The calls of the interposer are agreed on: one case for each. -/
theorem rpc_agreed (thrId : UInt64) (hprop : propSize < 2 ^ 31) {call : CudaCall}
    (hfit : call.SizesFit) (hgiven : call.BuffersGiven) {c : RpcCall}
    (h : call.rpc thrId propSize = some c) : c.Agreed propSize := by
  cases call with
  | getDeviceProperties prop device =>
    cases h
    have hsize : (UInt64.ofNat propSize).toNat = propSize := by
      rw [UInt64.toNat_ofNat', Nat.mod_eq_of_lt]
      omega
    exact response_agreed (hsize.symm ▸ hprop) (fun _ => hgiven) trivial hsize.symm
  | memcpy => exact nvbackCudaMemcpyRpc_agreed thrId hfit hgiven h
  | memcpyToSymbol => exact nvbackCudaMemcpyToSymbolRpc_agreed thrId hfit hgiven h
  | memcpyFromSymbol => exact nvbackCudaMemcpyFromSymbolRpc_agreed thrId hfit hgiven h
  | setupArgument | registerFatBinary | registerFunction | registerVar =>
    cases h
    exact request_agreed hfit hgiven trivial rfl
  | _ =>
    cases h
    exact bare_agreed trivial rfl

end

/-! ## Sequences of calls -/

/-- The calls of `l_do_cuda_rpc` that a sequence of CUDA calls leads to, each with the memory of the
application at its time. -/
def rpcCalls (thrId : UInt64) (propSize : PropSize) (calls : List (CudaCall × Memory)) :
    List (RpcCall × Memory) :=
  calls.filterMap fun (call, mem) => (call.rpc thrId propSize).map fun c => (c, mem)

/-- The client's next round: `l_do_cuda_rpc` for the next call. -/
def clientRound : List (RpcCall × Memory) → Option (Proc (List (RpcCall × Memory) × RpcReturn))
  | [] => none
  | (c, mem) :: rest => some (lDoCudaRpc mem c >>= fun r => pure (rest, r))

/-- The server's next round: one more turn of its loop. -/
def Backend.round {τ : Type} (B : Backend τ) (propSize : PropSize) (t : τ) :
    Option (Proc (τ × Bool)) := some (B.turn propSize t)

/-- A client and a server between two rounds. -/
def betweenCalls {τ : Type} (calls : List (RpcCall × Memory)) (t : τ)
    (log : List (Round RpcReturn)) (log' : List (Round Bool)) :
    Link (List (RpcCall × Memory)) RpcReturn τ Bool :=
  { client := ⟨.idle calls, [], [], log⟩, server := ⟨.idle t, [], [], log'⟩, up := [], down := [] }

/-- A call of `l_do_cuda_rpc` and a turn of the server's loop match: the turn has read exactly what
the call has written, the call has read exactly what the turn has written, and both have decided
alike on whether there is a response. -/
structure Matched (c : Round RpcReturn) (s : Round Bool) : Prop where
  request : s.read = c.wrote
  response : c.read = s.wrote
  decision : c.result.expected = s.result

/-- The calls stay in step with the server: they lead to an end in which each call matches the
server's turn of the same number; no run of the two sides fails, and each run can be completed to
that end, in as many steps. -/
def StayInStep {τ : Type} (B : Backend τ) (propSize : PropSize) (calls : List (RpcCall × Memory))
    (t : τ) : Prop :=
  ∃ (e : Link (List (RpcCall × Memory)) RpcReturn τ Bool) (steps : Nat),
    e.Ended clientRound (B.round propSize) ∧
    e.client.log.length = calls.length ∧ List.Forall₂ Matched e.client.log e.server.log ∧
    ∀ xs m, Run (Link.Step clientRound (B.round propSize)) (betweenCalls calls t [] []) xs m →
      m.client.failed = false ∧ m.server.failed = false ∧
      m.client.log <+: e.client.log ∧ m.server.log <+: e.server.log ∧
      ∃ ys, Run (Link.Step clientRound (B.round propSize)) m ys e ∧ xs.length + ys.length = steps

section

variable {τ : Type} (B : Backend τ) {propSize : Nat}

/-- One call is an exchange. -/
theorem exchange_call {c : RpcCall} (h : c.Agreed propSize) (mem : Memory)
    (rest : List (RpcCall × Memory)) (t : τ) (log : List (Round RpcReturn))
    (log' : List (Round Bool)) :
    ∃ t' r s xs, Matched r s ∧ Run (Link.Step clientRound (B.round propSize))
      (betweenCalls ((c, mem) :: rest) t log log') xs
      (betweenCalls rest t' (log ++ [r]) (log' ++ [s])) := by
  have hlen : (c.requestData mem).length = c.reqbufSize.toNat := by
    have := h.requestData_length mem
    omega
  have hlt : (c.requestData mem).length < 2 ^ 31 := by
    have := h.reqbufSize_lt
    omega
  obtain ⟨t', packet, data, hdata, hturn⟩ := B.runs_turn t hlt (hlen ▸ h.accepted) h.responseSize_lt
  obtain ⟨r, hexpected, hawait⟩ := runs_awaitResponse (c := c) packet
    (hdata ▸ h.rspbuf) (hdata ▸ h.rspbufSize) (hdata ▸ h.responseSize_lt)
  have hnext : clientRound ((c, mem) :: rest) =
      some (sendRequest mem c >>= fun _ => awaitResponse c >>= fun r => pure (rest, r)) :=
    congrArg some (bind_assoc ..)
  have hround : B.round propSize t = some (B.turn propSize t) := rfl
  obtain ⟨xs, run⟩ := Link.exchange hnext (runs_sendRequest h mem)
    (hawait.map fun r => (rest, r)) hround hturn log log'
  exact ⟨t', _, _, xs, ⟨rfl, rfl, hexpected⟩, run⟩

/-- A sequence of calls is a sequence of exchanges, which leaves the streams empty in between. -/
theorem exchange_calls {calls : List (RpcCall × Memory)}
    (h : ∀ x ∈ calls, x.1.Agreed propSize) (t : τ) (log : List (Round RpcReturn))
    (log' : List (Round Bool)) :
    ∃ t' rs ss xs, rs.length = calls.length ∧ List.Forall₂ Matched rs ss ∧
      Run (Link.Step clientRound (B.round propSize)) (betweenCalls calls t log log') xs
        (betweenCalls [] t' (log ++ rs) (log' ++ ss)) := by
  induction calls generalizing t log log' with
  | nil =>
    refine ⟨t, [], [], [], rfl, .nil, ?_⟩
    rw [List.append_nil, List.append_nil]
    exact .start
  | cons x calls ih =>
    obtain ⟨c, mem⟩ := x
    obtain ⟨t₁, r, s, xs, hmatched, hcall⟩ :=
      exchange_call B (h _ List.mem_cons_self) mem calls t log log'
    obtain ⟨t', rs, ss, ys, hlen, hall, hrest⟩ :=
      ih (fun x hx => h x (List.mem_cons_of_mem _ hx)) t₁ (log ++ [r]) (log' ++ [s])
    rw [List.append_assoc, List.append_assoc] at hrest
    exact ⟨t', r :: rs, s :: ss, xs ++ ys, congrArg (· + 1) hlen, .cons hmatched hall,
      hcall.append hrest⟩

/-- Calls that are agreed on stay in step. By `exchange_calls` there is one interleaving that comes
to the end, and by the confluence of the two sides all others come to the same. -/
theorem stayInStep_of_agreed {calls : List (RpcCall × Memory)}
    (h : ∀ x ∈ calls, x.1.Agreed propSize) (t : τ) : StayInStep B propSize calls t := by
  obtain ⟨t', rs, ss, xs, hlen, hmatched, hrun⟩ := exchange_calls B h t [] []
  -- the server goes on to wait for the next request
  let e : Link (List (RpcCall × Memory)) RpcReturn τ Bool :=
    { client := ⟨.idle [], [], [], rs⟩, server := ⟨.busy (B.turn propSize t'), [], [], ss⟩
      up := [], down := [] }
  have hwait : Link.Step clientRound (B.round propSize) (betweenCalls [] t' rs ss) .server e := rfl
  have hend : e.Ended clientRound (B.round propSize) := by
    intro x
    cases x <;> rfl
  refine ⟨e, (xs ++ [Side.server]).length, hend, hlen, hmatched, ?_⟩
  intro ys m hm
  obtain ⟨zs, hzs, hcount⟩ := Link.completes (hrun.snoc hwait) hend hm
  obtain ⟨hclient, hserver, hclientFails, hserverFails⟩ := Link.run_log hzs
  refine ⟨?_, ?_, hclient, hserver, zs, hzs, hcount⟩
  · rw [← Bool.not_eq_true]
    exact fun hfailed => nomatch hclientFails hfailed
  · rw [← Bool.not_eq_true]
    exact fun hfailed => nomatch hserverFails hfailed

/-- The calls that the interposer makes stay in step with the server.

No side is left waiting, no message is read by a read it was not meant for, and every interleaving
can be gone on with to the end. It is asked of the calls that their sizes fit an `int` and their
buffers are not NULL, which the wrappers assert. -/
theorem calls_stay_in_step (thrId : UInt64) (hprop : propSize < 2 ^ 31)
    {calls : List (CudaCall × Memory)}
    (h : ∀ x ∈ calls, x.1.SizesFit ∧ x.1.BuffersGiven) (t : τ) :
    StayInStep B propSize (rpcCalls thrId propSize calls) t := by
  apply stayInStep_of_agreed
  intro x hx
  obtain ⟨⟨call, mem⟩, hcall, hrpc⟩ := List.mem_filterMap.mp hx
  obtain ⟨c, hc, rfl⟩ := Option.map_eq_some_iff.mp hrpc
  obtain ⟨hfit, hgiven⟩ := h _ hcall
  exact rpc_agreed thrId hprop hfit hgiven hc

end

/-- A backend whose handlers change nothing. -/
def idleBackend : Backend Unit where
  vmapTable := 0x7000
  kmapTable := 0x8000
  work _ _ packet _ := {
    state := (), args0 := packet.args0, args1 := packet.args1, args2 := packet.args2
    args3 := packet.args3, retExVal := { err := 0, upper := 0 }
    buffer := zeroBlock }

/-- A memory of zeros. -/
def zeros : Memory := fun _ => zeroBlock

/-- A program that copies four bytes to the device and back. -/
def copyThereAndBack : List (CudaCall × Memory) :=
  [(.malloc 0x100 4, zeros), (.memcpy 0x9000 0x200 4 1, zeros), (.launch 0x400, zeros),
    (.memcpy 0x200 0x9000 4 2, zeros)]

/-- A copy to the device and one back. -/
theorem calls_stay_in_step_copy :
    StayInStep idleBackend 8 (rpcCalls 1 8 copyThereAndBack) () := by
  refine calls_stay_in_step idleBackend 1 (by decide) ?_ ()
  simp [copyThereAndBack, CudaCall.SizesFit, CudaCall.BuffersGiven]

/-! ## The response in two parts -/

/-- The response of `l_do_cuda_rpc`, up to the packet. -/
def receivePacket : Proc (StrmHdr × CudaPacket) := do
  let hdr ← receive sizeofStrmHdr strmHdr
  check (hdr.numCudaPkts == 1)
  let packet ← receive (hdr.numCudaPkts.toNat * sizeofRpkt) cudaPacket
  return (hdr, packet)

/-- The data that follows the response packet. -/
def receiveData (c : RpcCall) (dataSize : UInt32) : Proc Bytes :=
  if 0 < dataSize then do
    check (c.rspbuf != 0 && c.rspbufSize != 0)
    check (decide (asInt dataSize.toNat ≤ c.rspbufSize))
    get (asInt dataSize.toNat)
  else
    return []

/-- A response is taken up to its packet, and then its data. -/
theorem receiveResponse_eq (c : RpcCall) :
    receiveResponse c = receivePacket >>= fun x => receiveData c x.1.dataSize >>= fun data =>
      pure { expected := true, packet := x.2, rspbuf := data } := by
  unfold receiveResponse receivePacket
  simp only [bind_assoc]
  congr 1
  funext hdr
  congr 1
  funext _
  congr 1
  funext packet
  show _ = receiveData c hdr.dataSize >>= _
  unfold receiveData
  split
  · simp only [bind_assoc]
  · rfl

/-! ## NULL -/

section

variable {τ : Type} (B : Backend τ) {propSize : Nat}

/-- A request with data from NULL is written up to its packet, and then fails its assertion. -/
theorem sendRequest_null {c : RpcCall} (hsize : 0 < c.reqbufSize) (hnull : c.reqbuf = 0)
    (mem : Memory) :
    sendRequest mem c =
      .put (connSendCudaPktHdr c.reqbufSize) (.put c.packet.image (.fail .assertFailed)) := by
  unfold sendRequest
  rw [if_pos hsize, hnull]
  rfl

/-- A request from NULL fails on the client, which has written the header and the packet. -/
theorem not_stayInStep_of_null {c : RpcCall} (hsize : 0 < c.reqbufSize) (hnull : c.reqbuf = 0)
    (mem : Memory) (rest : List (RpcCall × Memory)) (t : τ) :
    ¬ StayInStep B propSize ((c, mem) :: rest) t := by
  rintro ⟨e, steps, -, -, -, hall⟩
  have hround : clientRound ((c, mem) :: rest) = some (.put (connSendCudaPktHdr c.reqbufSize)
      (.put c.packet.image (.fail .assertFailed))) := by
    show some ((sendRequest mem c >>= fun _ => awaitResponse c) >>= fun r => pure (rest, r)) = _
    rw [sendRequest_null hsize hnull]
    rfl
  have hbegin := Party.Moves.begin hround []
  have hmoves := hbegin.trans (.head rfl (.head rfl .refl))
  obtain ⟨xs, hrun⟩ := Link.run_client (B.round propSize) hmoves ⟨.idle t, [], [], []⟩ [] []
  exact nomatch (hall xs _ hrun).1

/-- A response with data to NULL fails on the client, which has sent its request, and has taken the
header and the packet of a response that the server has sent as it should. -/
theorem not_stayInStep_of_nullResponse {c : RpcCall}
    (h : RpcCall.Agreed propSize { c with rspbuf := 1 })
    (hexp : strmExpectsResponse c.packet.methodId = true)
    (hpos : 0 < responseSize propSize c.packet) (hnull : c.rspbuf = 0) (mem : Memory)
    (rest : List (RpcCall × Memory)) (t : τ) : ¬ StayInStep B propSize ((c, mem) :: rest) t := by
  rintro ⟨e, steps, -, -, -, hall⟩
  have hlen : ((c.requestData mem).length : Int) = c.reqbufSize := h.requestData_length mem
  have hsize : c.reqbufSize < 2 ^ 31 := h.reqbufSize_lt
  have hcount : (c.requestData mem).length = c.reqbufSize.toNat := by omega
  have hacc : Accepted c.packet (c.requestData mem).length := hcount ▸ h.accepted
  obtain ⟨t', packet, data, hdata, hturn⟩ := B.runs_turn t (by omega) hacc h.responseSize_lt
  have hlt : data.length < 2 ^ 31 := hdata ▸ h.responseSize_lt
  have hresponse : response c.packet.methodId packet data =
      connSendCudaPktHdr data.length ++ packet.image ++ data := by
    rw [response, if_pos hexp, message, List.append_assoc]
  -- the client asks, the server answers, and the client takes all but the data
  have hnext : clientRound ((c, mem) :: rest) =
      some (sendRequest mem c >>= fun _ => awaitResponse c >>= fun r => pure (rest, r)) :=
    congrArg some (bind_assoc ..)
  have hrequest : Runs (sendRequest mem c) [] (message c.packet (c.requestData mem)) () :=
    runs_sendRequest h mem
  have hask := (Party.Moves.begin hnext []).trans
    (Party.Moves.runs (k := fun _ => awaitResponse c >>= fun r => pure (rest, r)) hrequest [] [] [])
  have hround : B.round propSize t = some (B.turn propSize t) := rfl
  have hanswer := (Party.Moves.begin hround []).trans (Party.Moves.round hturn [] [] [])
  have hpacket : Runs receivePacket (connSendCudaPktHdr data.length ++ packet.image) []
      (⟨1, .ofNat data.length⟩, packet) := by
    refine (runs_header hlt).bind_input ((runs_check rfl).bind_input ?_)
    exact (runs_receive (reads_cudaPacket packet)
      (packet.image_length.trans (Nat.one_mul _).symm)).map fun packet => (_, packet)
  have hfails : (receiveData c (.ofNat data.length)) = .fail .assertFailed := by
    have hdataSize : 0 < UInt32.ofNat data.length := by
      rw [UInt32.lt_iff_toNat_lt, toNat_ofNat hlt, hdata]
      exact hpos
    rw [receiveData, if_pos hdataSize, hnull]
    rfl
  let deliver : StrmHdr × CudaPacket → Proc (List (RpcCall × Memory) × RpcReturn) := fun x =>
    receiveData c x.1.dataSize >>= fun data =>
      pure (rest, { expected := true, packet := x.2, rspbuf := data })
  have hawait : (awaitResponse c >>= fun r => pure (rest, r)) = receivePacket >>= deliver := by
    rw [awaitResponse, if_pos hexp, receiveResponse_eq]
    simp only [bind_assoc]
    rfl
  have hdeliver : deliver (⟨1, .ofNat data.length⟩, packet) = .fail .assertFailed := by
    show receiveData c (.ofNat data.length) >>= _ = _
    rw [hfails]
    rfl
  have htake : Party.Moves clientRound
      ⟨.busy (receivePacket >>= deliver), message c.packet (c.requestData mem), [], []⟩
      (connSendCudaPktHdr data.length ++ packet.image) []
      ⟨.busy (deliver (⟨1, .ofNat data.length⟩, packet)),
        message c.packet (c.requestData mem) ++ [], [] ++ _, []⟩ :=
    Party.Moves.runs hpacket (message c.packet (c.requestData mem)) [] []
  rw [← hawait, hdeliver] at htake
  obtain ⟨xs, rx⟩ := Link.run_client (B.round propSize) hask ⟨.idle t, [], [], []⟩ [] []
  obtain ⟨ys, ry⟩ := Link.run_server clientRound hanswer _ [] []
  obtain ⟨zs, rz⟩ := Link.run_client (B.round propSize) htake _ [] data
  simp only [List.nil_append, List.append_nil, hresponse] at rx ry rz
  exact nomatch (hall _ _ ((rx.append ry).append rz)).1

end

/-- A copy of four bytes from NULL. -/
def copyFromNull : List (CudaCall × Memory) := [(.memcpy 0x9000 0 4 1, zeros)]

/-- A copy of four bytes from the device to NULL. -/
def copyToNull : List (CudaCall × Memory) := [(.memcpy 0 0x9000 4 2, zeros)]

/-- Copies of sizes that fit do not stay in step where the host's end is NULL. From NULL, the client
fails on the assertion of its request buffer, behind the header and the packet; to NULL, on the
assertion of its response buffer, when the server has sent the data that belong there. -/
theorem copy_from_null_not_in_step :
    ((∀ x ∈ copyFromNull, x.1.SizesFit) ∧
      ¬ StayInStep idleBackend 8 (rpcCalls 1 8 copyFromNull) ()) ∧
    ((∀ x ∈ copyToNull, x.1.SizesFit) ∧
      ¬ StayInStep idleBackend 8 (rpcCalls 1 8 copyToNull) ()) := by
  refine ⟨⟨by simp [copyFromNull, CudaCall.SizesFit], ?_⟩,
    ⟨by simp [copyToNull, CudaCall.SizesFit], ?_⟩⟩
  · exact not_stayInStep_of_null idleBackend (by decide) rfl zeros [] ()
  · refine not_stayInStep_of_nullResponse idleBackend ?_ rfl (by decide) rfl zeros [] ()
    have hone : (1 : UInt64) ≠ 0 := by decide
    show RpcCall.Agreed 8 { bare _ with rspbuf := 1, rspbufSize := asInt (4 : UInt64).toNat }
    exact response_agreed (by decide) (fun _ => hone) (fun h => nomatch h) rfl

end GpuVirtmem.Remote
