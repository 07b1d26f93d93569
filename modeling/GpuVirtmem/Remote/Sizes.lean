import GpuVirtmem.Remote.Broken

/-!
# The sizes of copies (`remote/remote_api_wrapper.c`, `remote/connection.c`)

The `size_t` of a copy becomes an `int` in the wrappers and in the handlers, the `uint32_t` of a
header, and an `int` again where the data is read. Each conversion keeps the lower bits.

Each side passes a length to its `put` or `get`, and these lengths are found first for any size; the
question whether they are what is to be copied is asked afterwards. Above 2^31 they are too small or
negative, and never too large.
-/

namespace GpuVirtmem.Remote

open Lib Proc Interposer

/-- The size that a header announces for data of `bufSize` bytes. -/
def announcedSize (bufSize : Int) : UInt32 := .ofNat (bufSize % 2 ^ 32).toNat

/-- The length that the receiver of a header passes to `get` for the data, if it calls it. -/
def getLength (dataSize : UInt32) : Option Int :=
  if 0 < dataSize then some (asInt dataSize.toNat) else none

/-- The data of one message: the size that the header announces, and the lengths that are passed to
`put` and to `get`, where these are called. -/
structure DataTransfer where
  announced : UInt32
  put : Option Int
  got : Option Int
  deriving DecidableEq, Repr

/-- The data of a request. `l_do_cuda_rpc` asserts the buffer. -/
def RpcCall.requestTransfer (c : RpcCall) : DataTransfer :=
  { announced := announcedSize c.reqbufSize
    put := if 0 < c.reqbufSize ∧ c.reqbuf ≠ 0 then some c.reqbufSize else none
    got := getLength (announcedSize c.reqbufSize) }

/-- The data of a response. `l_do_cuda_rpc` asserts the buffer and its size. -/
def RpcCall.responseTransfer (c : RpcCall) (conn : Conn) : DataTransfer :=
  { announced := announcedSize conn.responseDataSize
    put := if 0 < conn.responseDataSize then some conn.responseDataSize else none
    got := (getLength (announcedSize conn.responseDataSize)).filter fun len =>
      c.rspbuf != 0 && c.rspbufSize != 0 && decide (len ≤ c.rspbufSize) }

/-- A message with exactly `n` bytes of data: where there are none, `put` and `get` are not
called. -/
structure DataTransfer.Carries (d : DataTransfer) (n : Nat) : Prop where
  announced : d.announced.toNat = n
  put : d.put = if n = 0 then none else some (n : Int)
  got : d.got = if n = 0 then none else some (n : Int)

/-! ## The copies -/

/-- The bytes that a call copies from the host. -/
def uploads : CudaCall → Nat
  | .memcpy _ _ count kind =>
    if CudaMemcpyKind.ofArgi (Arg.argi ⟨kind, 0⟩) = .hostToDevice then count.toNat else 0
  | .memcpyToSymbol _ _ count _ kind =>
    if CudaMemcpyKind.ofArg ⟨kind, 0⟩ = .hostToDevice then count.toNat else 0
  | _ => 0

/-- The bytes that a call copies to the host. -/
def downloads : CudaCall → Nat
  | .memcpy _ _ count kind =>
    if CudaMemcpyKind.ofArgi (Arg.argi ⟨kind, 0⟩) = .deviceToHost then count.toNat else 0
  | .memcpyFromSymbol _ _ count _ kind =>
    if CudaMemcpyKind.ofArg ⟨kind, 0⟩ = .deviceToHost then count.toNat else 0
  | _ => 0

/-- The copies, in all directions. -/
def isCopy : CudaCall → Bool
  | .memcpy .. | .memcpyToSymbol .. | .memcpyFromSymbol .. => true
  | _ => false

/-- What the wrapper of a call returns, on a connection. It calls `l_do_cuda_rpc` only for the kinds
of copies that it knows. -/
def wrapperOn (thrId : UInt64) (propSize : PropSize) (mem : Memory) (net : Net) (call : CudaCall) :
    Option Status :=
  match call.rpc thrId propSize with
  | none => some .error
  | some c =>
    match lDoCudaRpcOn mem c net with
    | .returned _ packet => some (rpcStatus call packet)
    | .aborted => none

section

variable {τ : Type} (B : Backend τ) (thrId : UInt64) (propSize : PropSize) (t : τ)

/-- A call of `l_do_cuda_rpc` with exactly `up` bytes of data in the request and `down` in the
response to it. -/
structure CarriesExactly (c : RpcCall) (up down : Nat) : Prop where
  request : c.requestTransfer.Carries up
  response : ∀ data : Bytes, data.length = up → ∃ t' packet conn,
    B.pktExecute propSize t { c.packet with vmmap := B.vmapTable, kmap := B.kmapTable }
      (.requested data) = .ok (t', packet, conn) ∧ (c.responseTransfer conn).Carries down

/-- No size is cut: either nothing is sent and the wrapper returns an error, or what the call copies
is carried exactly. -/
def SizesKept (call : CudaCall) : Prop :=
  call.rpc thrId propSize = none ∧
      (∀ mem net, wrapperOn thrId propSize mem net call = some .error) ∨
    ∃ c, call.rpc thrId propSize = some c ∧
      CarriesExactly B propSize t c (uploads call) (downloads call)

end

/-! ## The lengths that the two sides pass -/

/-- `l_do_cuda_rpc` puts the request data with the length of `requestTransfer`, or an assertion
fails. -/
theorem sendRequest_put (mem : Memory) (c : RpcCall) :
    sendRequest mem c = do
      send (StrmHdr.image { numCudaPkts := 1, dataSize := c.requestTransfer.announced })
      send c.packet.image
      match c.requestTransfer.put with
      | some len => send (mem c.reqbuf len.toNat).val
      | none => if 0 < c.reqbufSize then .fail .assertFailed else return () := by
  have hput : c.requestTransfer.put =
      if 0 < c.reqbufSize ∧ c.reqbuf ≠ 0 then some c.reqbufSize else none := rfl
  unfold sendRequest
  rw [hput]
  congr 1
  funext _
  congr 1
  funext _
  by_cases hpos : 0 < c.reqbufSize
  · by_cases hbuf : c.reqbuf ≠ 0
    · have hgiven : (c.reqbuf != 0 && c.reqbufSize != 0) = true := by
        rw [Bool.and_eq_true, bne_iff_ne, bne_iff_ne]
        exact ⟨hbuf, by omega⟩
      rw [if_pos hpos, hgiven, if_pos ⟨hpos, hbuf⟩]
      rfl
    · have hnull : (c.reqbuf != 0 && c.reqbufSize != 0) = false := by
        rw [not_not.mp hbuf]
        rfl
      rw [if_pos hpos, hnull, if_neg (fun h => hbuf h.2)]
      exact (if_pos hpos).symm
  · rw [if_neg hpos, if_neg (fun h => hpos h.1)]
    exact (if_neg hpos).symm

/-- The loop of the server gets the request data with the length of `getLength`. -/
theorem receiveRequest_get :
    receiveRequest = do
      let hdr ← receive sizeofStrmHdr strmHdr
      if hdr.numCudaPkts = 0 then
        return ([], .fresh)
      else do
        let rpkts ← receive (hdr.numCudaPkts.toNat * sizeofRpkt)
          (Reader.times hdr.numCudaPkts.toNat cudaPacket)
        match getLength hdr.dataSize with
        | some len => do
          let pReqBuffer ← get len
          return (rpkts, { Conn.fresh with requestDataSize := len, pReqBuffer := pReqBuffer })
        | none => return (rpkts, .fresh) := by
  unfold receiveRequest getLength
  congr 1
  funext hdr
  split
  · rfl
  · congr 1
    funext rpkts
    split <;> rfl

/-- The loop of the server puts the response data with the length of `responseTransfer`. -/
theorem respond_put {packet : CudaPacket} {last : UInt16} (c : RpcCall) (conn : Conn)
    (h : strmExpectsResponse last = true) :
    respond packet last conn = do
      send (StrmHdr.image { numCudaPkts := 1, dataSize := (c.responseTransfer conn).announced })
      send packet.image
      match (c.responseTransfer conn).put with
      | some _ => do
        putResponse conn
        return true
      | none => return true := by
  have hput : (c.responseTransfer conn).put =
      if 0 < conn.responseDataSize then some conn.responseDataSize else none := rfl
  unfold respond
  rw [if_pos h, hput]
  congr 1
  funext _
  congr 1
  funext _
  split <;> rfl

/-- `l_do_cuda_rpc` gets the response data with the length of `responseTransfer`, or an assertion
fails. -/
theorem receiveData_get (c : RpcCall) (conn : Conn) :
    receiveData c (c.responseTransfer conn).announced =
      match (c.responseTransfer conn).got with
      | some len => get len
      | none =>
        if 0 < (c.responseTransfer conn).announced then .fail .assertFailed else return [] := by
  have hgot : (c.responseTransfer conn).got =
      (getLength (c.responseTransfer conn).announced).filter fun len =>
        c.rspbuf != 0 && c.rspbufSize != 0 && decide (len ≤ c.rspbufSize) := rfl
  rw [hgot]
  generalize (c.responseTransfer conn).announced = dataSize
  unfold receiveData getLength
  split
  · rw [Option.filter_some]
    cases (c.rspbuf != 0 && c.rspbufSize != 0) with
    | false => rfl
    | true => cases decide (asInt dataSize.toNat ≤ c.rspbufSize) <;> rfl
  · rfl

/-! ## Conversions -/

/-- An `int` is below `2 ^ 31`. -/
theorem asInt_lt (n : Nat) : asInt n < 2 ^ 31 := by
  rw [asInt, BitVec.toInt_eq_toNat_cond]
  split <;> omega

/-- A size below 2^31 is announced as it is. -/
theorem announcedSize_toNat {n : Nat} (h : n < 2 ^ 31) : (announcedSize n).toNat = n := by
  unfold announcedSize
  have hn : ((n : Int) % 2 ^ 32).toNat = n := by omega
  rw [hn, toNat_ofNat h]

/-- What is announced is what the receiver asks for. -/
theorem getLength_announcedSize {n : Nat} (h : n < 2 ^ 31) :
    getLength (announcedSize n) = if n = 0 then none else some (n : Int) := by
  have hsize := announcedSize_toNat h
  unfold getLength
  rw [hsize, asInt_of_lt h]
  by_cases hzero : n = 0
  · subst hzero
    rfl
  · have hpos : 0 < announcedSize n := by
      rw [UInt32.lt_iff_toNat_lt, hsize]
      exact Nat.pos_of_ne_zero hzero
    rw [if_pos hpos, if_neg hzero]

section

variable {c : RpcCall} {n : Nat}

/-- A request carries what its size as an `int` was converted from, if that fits. -/
theorem requestTransfer_carries_iff (hsize : c.reqbufSize = asInt n) :
    c.requestTransfer.Carries n ↔ n < 2 ^ 31 ∧ (n ≠ 0 → c.reqbuf ≠ 0) := by
  unfold RpcCall.requestTransfer
  rw [hsize]
  constructor
  · rintro ⟨-, hput, -⟩
    by_cases hzero : n = 0
    · subst hzero
      exact ⟨by decide, fun h => absurd rfl h⟩
    · dsimp only at hput
      rw [if_neg hzero] at hput
      split at hput
      · next hcond =>
        have hlt := asInt_lt n
        rw [Option.some.inj hput] at hlt
        exact ⟨by omega, fun _ => hcond.2⟩
      · cases hput
  · rintro ⟨hlt, hbuf⟩
    rw [asInt_of_lt hlt]
    refine ⟨announcedSize_toNat hlt, ?_, getLength_announcedSize hlt⟩
    by_cases hzero : n = 0
    · subst hzero
      rfl
    · have hcond : (0 : Int) < n ∧ c.reqbuf ≠ 0 := ⟨by omega, hbuf hzero⟩
      dsimp only
      rw [if_pos hcond, if_neg hzero]

/-- So does a response, into a buffer of that size. -/
theorem responseTransfer_carries_iff {conn : Conn} (hconn : conn.responseDataSize = asInt n)
    (hsize : c.rspbufSize = asInt n) :
    (c.responseTransfer conn).Carries n ↔ n < 2 ^ 31 ∧ (n ≠ 0 → c.rspbuf ≠ 0) := by
  unfold RpcCall.responseTransfer
  rw [hconn, hsize]
  constructor
  · rintro ⟨-, hput, hgot⟩
    by_cases hzero : n = 0
    · subst hzero
      exact ⟨by decide, fun h => absurd rfl h⟩
    · dsimp only at hput hgot
      rw [if_neg hzero] at hput hgot
      have hlt := asInt_lt n
      split at hput
      · rw [Option.some.inj hput] at hlt
        obtain ⟨-, hcond⟩ := Option.filter_eq_some_iff.mp hgot
        rw [Bool.and_eq_true, Bool.and_eq_true, bne_iff_ne] at hcond
        exact ⟨by omega, fun _ => hcond.1.1⟩
      · cases hput
  · rintro ⟨hlt, hbuf⟩
    rw [asInt_of_lt hlt, getLength_announcedSize hlt]
    refine ⟨announcedSize_toNat hlt, ?_, ?_⟩
    · dsimp only
      by_cases hzero : n = 0
      · subst hzero
        rfl
      · rw [if_pos (by omega), if_neg hzero]
    · dsimp only
      by_cases hzero : n = 0
      · subst hzero
        rfl
      · have hcond : (c.rspbuf != 0 && (n : Int) != 0 && decide ((n : Int) ≤ n)) = true := by
          rw [Bool.and_eq_true, Bool.and_eq_true, bne_iff_ne, bne_iff_ne]
          exact ⟨⟨hbuf hzero, by omega⟩, decide_eq_true (Int.le_refl _)⟩
        rw [if_neg hzero, Option.filter_some, if_pos hcond]

end

/-! ## The handlers -/

section

variable {τ : Type} {B : Backend τ} {propSize : PropSize} {t t' : τ} {packet packet' : CudaPacket}
  {conn : Conn} {data : Bytes}

/-- The response of a copy from the device has its size as an `int`. -/
theorem nvbackCudaMemcpySrv_responseDataSize
    (hsrv : Remote.pktExecute packet.methodId = some .nvbackCudaMemcpy)
    (h : nvbackCudaMemcpySrv B t packet (.requested data) = .ok (t', packet', conn)) :
    conn.responseDataSize = asInt (responseSize propSize packet) := by
  unfold nvbackCudaMemcpySrv at h
  cases hm : MethodId.ofCode packet.methodId with
  | none =>
    rw [responseSize_memcpy hsrv (hm.trans_ne (by decide))]
    rw [hm] at h
    cases h
    rfl
  | some m =>
    rw [hm] at h
    cases m with
    | cudaMemcpyH2D =>
      rw [responseSize_memcpy hsrv (hm.trans_ne (by decide))]
      dsimp only at h
      split at h
      · cases h
        rfl
      · cases h
    | cudaMemcpyD2H =>
      rw [responseSize_memcpyD2H hsrv hm]
      cases h
      rfl
    | _ =>
      rw [responseSize_memcpy hsrv (hm.trans_ne (by decide))]
      cases h
      rfl

theorem nvbackCudaMemcpyToSymbolSrv_responseDataSize
    (h : nvbackCudaMemcpyToSymbolSrv B t packet (.requested data) = .ok (t', packet', conn)) :
    conn.responseDataSize = 0 := by
  unfold nvbackCudaMemcpyToSymbolSrv at h
  split at h
  · split at h
    · cases h
      rfl
    · cases h
  · cases h
    rfl
  · cases h
    rfl
  · cases h
    rfl

theorem nvbackCudaMemcpyFromSymbolSrv_responseDataSize
    (hsrv : Remote.pktExecute packet.methodId = some .nvbackCudaMemcpyFromSymbol)
    (h : nvbackCudaMemcpyFromSymbolSrv B t packet (.requested data) = .ok (t', packet', conn)) :
    conn.responseDataSize = asInt (responseSize propSize packet) := by
  unfold nvbackCudaMemcpyFromSymbolSrv at h
  cases hkind : CudaMemcpyKind.ofArg packet.args3 with
  | deviceToHost =>
    rw [responseSize_fromSymbolD2H hsrv hkind]
    rw [hkind] at h
    cases h
    rfl
  | deviceToDevice | hostToDevice | other =>
    rw [responseSize_fromSymbol hsrv (hkind.trans_ne (by decide))]
    rw [hkind] at h
    cases h
    rfl

/-- The response of a handler has the size of its data, as an `int`. -/
theorem pktExecute_responseDataSize
    (h : B.pktExecute propSize t packet (.requested data) = .ok (t', packet', conn)) :
    conn.responseDataSize = asInt (responseSize propSize packet) := by
  unfold Backend.pktExecute at h
  cases hsrv : Remote.pktExecute packet.methodId with
  | none =>
    unfold responseSize
    rw [hsrv] at h ⊢
    cases h
    rfl
  | some srv =>
    rw [hsrv] at h
    cases srv with
    | nvbackCudaMemcpy => exact nvbackCudaMemcpySrv_responseDataSize hsrv h
    | nvbackCudaMemcpyToSymbol =>
      rw [nvbackCudaMemcpyToSymbolSrv_responseDataSize h]
      unfold responseSize
      rw [hsrv]
      rfl
    | nvbackCudaMemcpyFromSymbol => exact nvbackCudaMemcpyFromSymbolSrv_responseDataSize hsrv h
    | _ =>
      unfold responseSize
      rw [hsrv]
      cases h
      rfl

end

/-! ## Which sizes are kept -/

/-- A call of `l_do_cuda_rpc` that is filled from the sizes of a copy. -/
structure RpcCall.Copies (propSize : PropSize) (c : RpcCall) (up down : Nat) : Prop where
  reqbufSize : c.reqbufSize = asInt up
  rspbufSize : c.rspbufSize = asInt down
  accepted : Accepted c.packet up
  responseSize : responseSize propSize c.packet = down

/-- The host buffers of a call are given where they are used, and the sizes fit into an `int`. -/
def RpcCall.Fits (c : RpcCall) (up down : Nat) : Prop :=
  (up < 2 ^ 31 ∧ (up ≠ 0 → c.reqbuf ≠ 0)) ∧ down < 2 ^ 31 ∧ (down ≠ 0 → c.rspbuf ≠ 0)

section

variable {τ : Type} {B : Backend τ} {propSize : PropSize} {t : τ} {c : RpcCall} {up down : Nat}

/-- Whether a call carries what it copies is a condition on its two sizes and its buffers. -/
theorem carriesExactly_iff (h : c.Copies propSize up down) :
    CarriesExactly B propSize t c up down ↔ c.Fits up down := by
  have hrequest := requestTransfer_carries_iff h.reqbufSize
  -- the handler sees the packet with the tables of the server in it
  have hresponse : ∀ {data : Bytes} {t' packet conn},
      B.pktExecute propSize t { c.packet with vmmap := B.vmapTable, kmap := B.kmapTable }
        (.requested data) = .ok (t', packet, conn) →
      ((c.responseTransfer conn).Carries down ↔
        down < 2 ^ 31 ∧ (down ≠ 0 → c.rspbuf ≠ 0)) := by
    intro data t' packet conn hok
    have hconn : conn.responseDataSize = asInt down :=
      (pktExecute_responseDataSize hok).trans (congrArg asInt h.responseSize)
    exact responseTransfer_carries_iff hconn h.rspbufSize
  constructor
  · intro hcarries
    obtain ⟨t', packet, conn, hok, hdown⟩ :=
      hcarries.response (List.replicate up 0) List.length_replicate
    exact ⟨hrequest.mp hcarries.request, (hresponse hok).mp hdown⟩
  · rintro ⟨hup, hdown⟩
    refine ⟨hrequest.mpr hup, ?_⟩
    rintro data rfl
    have hsize : responseSize propSize c.packet < 2 ^ 31 := h.responseSize ▸ hdown.1
    have hhandled : Handled c.packet.methodId (responseSize propSize c.packet)
        (B.pktExecute propSize t { c.packet with vmmap := B.vmapTable, kmap := B.kmapTable }
          (.requested data)) := B.pktExecute_handled t hup.1 h.accepted hsize
    obtain ⟨t', packet, conn, hok, -⟩ := hhandled
    exact ⟨t', packet, conn, hok, (hresponse hok).mpr hdown⟩

/-- A call with a request buffer only. -/
theorem copies_request {packet : CudaPacket} {p : UInt64} {n : Nat} (hacc : Accepted packet n)
    (hsize : responseSize propSize packet = 0) :
    RpcCall.Copies propSize { bare packet with reqbuf := p, reqbufSize := asInt n } n 0 :=
  ⟨rfl, rfl, hacc, hsize⟩

/-- A call with a response buffer only. -/
theorem copies_response {packet : CudaPacket} {p : UInt64} {n : Nat} (hacc : Accepted packet 0)
    (hsize : responseSize propSize packet = n) :
    RpcCall.Copies propSize { bare packet with rspbuf := p, rspbufSize := asInt n } 0 n :=
  ⟨rfl, rfl, hacc, hsize⟩

/-- A call without buffers. -/
theorem copies_bare {packet : CudaPacket} (hacc : Accepted packet 0)
    (hsize : responseSize propSize packet = 0) : (bare packet).Copies propSize 0 0 :=
  ⟨rfl, rfl, hacc, hsize⟩

theorem toNat_ne_zero {x : UInt64} : x.toNat ≠ 0 ↔ x ≠ 0 :=
  not_congr (UInt64.toNat_inj (b := 0))

section

variable {thrId : UInt64} {call : CudaCall}

/-- A call that is not sent carries nothing. -/
theorem sizesKept_of_none (h : call.rpc thrId propSize = none) :
    SizesKept B thrId propSize t call := by
  refine .inl ⟨h, ?_⟩
  intro mem net
  rw [wrapperOn, h]

/-- A call keeps its sizes where what it sends and receives fits. -/
theorem sizesKept_iff_fits (h : call.rpc thrId propSize = some c) (hup : uploads call = up)
    (hdown : downloads call = down) (hcopies : c.Copies propSize up down) :
    SizesKept B thrId propSize t call ↔ c.Fits up down := by
  rw [← carriesExactly_iff (B := B) (t := t) hcopies]
  subst hup hdown
  constructor
  · rintro (⟨hnone, -⟩ | ⟨c', hc, hcarries⟩)
    · cases h.symm.trans hnone
    · cases h.symm.trans hc
      exact hcarries
  · intro hcarries
    exact .inr ⟨c, h, hcarries⟩

end

variable (B propSize t) (thrId : UInt64)

/-- `cudaMemcpy`, in each of its directions. -/
theorem memcpy_sizes (dst src count kind : UInt64) :
    SizesKept B thrId propSize t (.memcpy dst src count kind) ↔
      uploads (.memcpy dst src count kind) < 2 ^ 31 ∧
        downloads (.memcpy dst src count kind) < 2 ^ 31 ∧
          (CudaCall.memcpy dst src count kind).BuffersGiven := by
  have hrpc : (CudaCall.memcpy dst src count kind).rpc thrId propSize =
      nvbackCudaMemcpyRpc (rcudaMemcpy thrId dst src count kind) := rfl
  have hargs : (rcudaMemcpy thrId dst src count kind).args3 = ⟨kind, 0⟩ := rfl
  unfold nvbackCudaMemcpyRpc at hrpc
  rw [hargs] at hrpc
  cases hkind : CudaMemcpyKind.ofArgi (Arg.argi ⟨kind, 0⟩) with
  | hostToDevice =>
    rw [hkind] at hrpc
    have hup : uploads (.memcpy dst src count kind) = count.toNat := if_pos hkind
    have hdown : downloads (.memcpy dst src count kind) = 0 := if_neg (hkind.trans_ne (by decide))
    rw [sizesKept_iff_fits hrpc hup hdown (copies_request (fun _ => rfl) rfl), hup, hdown]
    simp [RpcCall.Fits, CudaCall.BuffersGiven, hkind, toNat_ne_zero, rcudaMemcpy]
  | deviceToHost =>
    rw [hkind] at hrpc
    have hup : uploads (.memcpy dst src count kind) = 0 := if_neg (hkind.trans_ne (by decide))
    have hdown : downloads (.memcpy dst src count kind) = count.toNat := if_pos hkind
    have hmethod : MethodId.ofCode MethodId.cudaMemcpyD2H.code ≠ some .cudaMemcpyH2D := by decide
    rw [sizesKept_iff_fits hrpc hup hdown (copies_response (fun h => absurd h hmethod) rfl), hup,
      hdown]
    simp [RpcCall.Fits, CudaCall.BuffersGiven, hkind, toNat_ne_zero, rcudaMemcpy]
  | deviceToDevice =>
    rw [hkind] at hrpc
    have hup : uploads (.memcpy dst src count kind) = 0 := if_neg (hkind.trans_ne (by decide))
    have hdown : downloads (.memcpy dst src count kind) = 0 := if_neg (hkind.trans_ne (by decide))
    have hmethod : MethodId.ofCode MethodId.cudaMemcpyD2D.code ≠ some .cudaMemcpyH2D := by decide
    rw [sizesKept_iff_fits hrpc hup hdown (copies_bare (fun h => absurd h hmethod) rfl), hup, hdown]
    simp [RpcCall.Fits, CudaCall.BuffersGiven, hkind]
  | other =>
    rw [hkind] at hrpc
    have hup : uploads (.memcpy dst src count kind) = 0 := if_neg (hkind.trans_ne (by decide))
    have hdown : downloads (.memcpy dst src count kind) = 0 := if_neg (hkind.trans_ne (by decide))
    refine iff_of_true (sizesKept_of_none hrpc) ?_
    rw [hup, hdown]
    simp [CudaCall.BuffersGiven, hkind]

/-- `cudaMemcpyToSymbol`. -/
theorem memcpyToSymbol_sizes (hostVar src count offset kind : UInt64) :
    SizesKept B thrId propSize t (.memcpyToSymbol hostVar src count offset kind) ↔
      uploads (.memcpyToSymbol hostVar src count offset kind) < 2 ^ 31 ∧
        downloads (.memcpyToSymbol hostVar src count offset kind) < 2 ^ 31 ∧
          (CudaCall.memcpyToSymbol hostVar src count offset kind).BuffersGiven := by
  have hrpc : (CudaCall.memcpyToSymbol hostVar src count offset kind).rpc thrId propSize =
      nvbackCudaMemcpyToSymbolRpc (rcudaMemcpyToSymbol thrId hostVar src count offset kind) := rfl
  have hargs : (rcudaMemcpyToSymbol thrId hostVar src count offset kind).args3 = ⟨kind, 0⟩ := rfl
  unfold nvbackCudaMemcpyToSymbolRpc at hrpc
  rw [hargs] at hrpc
  have hdown : downloads (.memcpyToSymbol hostVar src count offset kind) = 0 := rfl
  cases hkind : CudaMemcpyKind.ofArg ⟨kind, 0⟩ with
  | hostToDevice =>
    rw [hkind] at hrpc
    have hup : uploads (.memcpyToSymbol hostVar src count offset kind) = count.toNat :=
      if_pos hkind
    rw [sizesKept_iff_fits hrpc hup hdown (copies_request (fun _ => rfl) rfl), hup, hdown]
    simp [RpcCall.Fits, CudaCall.BuffersGiven, hkind, toNat_ne_zero, rcudaMemcpyToSymbol]
  | deviceToDevice =>
    rw [hkind] at hrpc
    have hother : CudaMemcpyKind.ofArg ⟨kind, 0⟩ ≠ .hostToDevice := hkind.trans_ne (by decide)
    have hup : uploads (.memcpyToSymbol hostVar src count offset kind) = 0 := if_neg hother
    rw [sizesKept_iff_fits hrpc hup hdown (copies_bare (fun h => absurd h hother) rfl), hup,
      hdown]
    simp [RpcCall.Fits, CudaCall.BuffersGiven, hkind]
  | deviceToHost | other =>
    rw [hkind] at hrpc
    have hup : uploads (.memcpyToSymbol hostVar src count offset kind) = 0 :=
      if_neg (hkind.trans_ne (by decide))
    refine iff_of_true (sizesKept_of_none hrpc) ?_
    rw [hup, hdown]
    simp [CudaCall.BuffersGiven, hkind]

/-- `cudaMemcpyFromSymbol`. -/
theorem memcpyFromSymbol_sizes (dst hostVar count offset kind : UInt64) :
    SizesKept B thrId propSize t (.memcpyFromSymbol dst hostVar count offset kind) ↔
      uploads (.memcpyFromSymbol dst hostVar count offset kind) < 2 ^ 31 ∧
        downloads (.memcpyFromSymbol dst hostVar count offset kind) < 2 ^ 31 ∧
          (CudaCall.memcpyFromSymbol dst hostVar count offset kind).BuffersGiven := by
  have hrpc : (CudaCall.memcpyFromSymbol dst hostVar count offset kind).rpc thrId propSize =
      nvbackCudaMemcpyFromSymbolRpc (rcudaMemcpyFromSymbol thrId dst hostVar count offset kind) :=
    rfl
  have hargs : (rcudaMemcpyFromSymbol thrId dst hostVar count offset kind).args3 = ⟨kind, 0⟩ := rfl
  unfold nvbackCudaMemcpyFromSymbolRpc at hrpc
  rw [hargs] at hrpc
  have hup : uploads (.memcpyFromSymbol dst hostVar count offset kind) = 0 := rfl
  cases hkind : CudaMemcpyKind.ofArg ⟨kind, 0⟩ with
  | deviceToHost =>
    rw [hkind] at hrpc
    have hdown : downloads (.memcpyFromSymbol dst hostVar count offset kind) = count.toNat :=
      if_pos hkind
    have hsize : responseSize propSize (rcudaMemcpyFromSymbol thrId dst hostVar count offset kind) =
        count.toNat := responseSize_fromSymbolD2H rfl hkind
    rw [sizesKept_iff_fits hrpc hup hdown (copies_response trivial hsize), hup, hdown]
    simp [RpcCall.Fits, CudaCall.BuffersGiven, hkind, toNat_ne_zero, rcudaMemcpyFromSymbol]
  | deviceToDevice =>
    rw [hkind] at hrpc
    have hother : CudaMemcpyKind.ofArg ⟨kind, 0⟩ ≠ .deviceToHost := hkind.trans_ne (by decide)
    have hdown : downloads (.memcpyFromSymbol dst hostVar count offset kind) = 0 := if_neg hother
    have hsize : responseSize propSize (rcudaMemcpyFromSymbol thrId dst hostVar count offset kind) =
        0 := responseSize_fromSymbol rfl hother
    rw [sizesKept_iff_fits hrpc hup hdown (copies_bare trivial hsize), hup, hdown]
    simp [RpcCall.Fits, CudaCall.BuffersGiven, hkind]
  | hostToDevice | other =>
    rw [hkind] at hrpc
    have hdown : downloads (.memcpyFromSymbol dst hostVar count offset kind) = 0 :=
      if_neg (hkind.trans_ne (by decide))
    refine iff_of_true (sizesKept_of_none hrpc) ?_
    rw [hup, hdown]
    simp [CudaCall.BuffersGiven, hkind]

/-- The sizes of a copy are kept exactly if what it copies between host and device is below `2 ^ 31`
bytes, and the host buffer of that is not NULL.

Above that the conversion to `int` cuts the size or makes it negative; the three kinds of copies are
treated alike. -/
theorem copy_sizes_kept_iff {call : CudaCall} (h : isCopy call = true) :
    SizesKept B thrId propSize t call ↔
      uploads call < 2 ^ 31 ∧ downloads call < 2 ^ 31 ∧ call.BuffersGiven := by
  cases call with
  | memcpy dst src count kind => exact memcpy_sizes B propSize t thrId dst src count kind
  | memcpyToSymbol hostVar src count offset kind =>
    exact memcpyToSymbol_sizes B propSize t thrId hostVar src count offset kind
  | memcpyFromSymbol dst hostVar count offset kind =>
    exact memcpyFromSymbol_sizes B propSize t thrId dst hostVar count offset kind
  | _ => cases h

end

/-- A copy of 8 bytes to the device. -/
theorem copy_sizes_kept_iff_eightBytes :
    SizesKept idleBackend 1 8 () (.memcpy 0x9000 0x200 8 1) := by
  refine (copy_sizes_kept_iff idleBackend 8 () 1 rfl).mpr ⟨by decide +kernel, by decide +kernel, ?_⟩
  intro _
  exact ⟨fun _ => by decide, fun _ => by decide⟩

/-- A copy of `2 ^ 31` bytes to the device: the header announces them, and none are put, since the
length is negative as an `int`. -/
theorem large_copy_cut :
    ((CudaCall.memcpy 0x9000 0x200 0x80000000 1).rpc 1 8).map RpcCall.requestTransfer =
      some { announced := 0x80000000, put := none, got := some (-2147483648) } ∧
    ¬∀ call, isCopy call = true → SizesKept idleBackend 1 8 () call := by
  have htransfer :
      ((CudaCall.memcpy 0x9000 0x200 0x80000000 1).rpc 1 8).map RpcCall.requestTransfer =
        some { announced := 0x80000000, put := none, got := some (-2147483648) } := by
    decide +kernel
  refine ⟨htransfer, ?_⟩
  intro h
  rcases h (.memcpy 0x9000 0x200 0x80000000 1) rfl with ⟨hnone, -⟩ | ⟨c, hc, hcarries⟩
  · rw [hnone] at htransfer
    cases htransfer
  · rw [hc] at htransfer
    have hput := hcarries.request.put
    rw [Option.some.inj htransfer] at hput
    exact absurd hput (by decide +kernel)

end GpuVirtmem.Remote
