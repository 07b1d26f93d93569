import GpuVirtmem.Remote.Client

/-!
# The server's side of a remote call (`backend/backend.c`, `remote/remote_api_wrapper.c`)

One turn of the loop of `backend_thread`: it reads a request, runs the handler and writes a response
where the method has one. Of a handler, this is what it does to the connection and what it asserts;
the CUDA and virtual memory work in it is a parameter. `malloc` succeeds.

The handlers that copy check the number of bytes that have come with the packet, by an assertion,
before they do their work; the others take what they need from the packet. What a handler leaves for
the end of the turn is the packet, with its error, and the response data in the connection.
-/

namespace GpuVirtmem.Remote

open Lib Proc

/-- The fields of `conn_t` that a handler works with; `pRspBuffer` is `none` while it is NULL. -/
structure Conn where
  requestDataSize : Int
  pReqBuffer : Bytes
  responseDataSize : Int
  pRspBuffer : Option Bytes

/-- What the work in a handler leaves: the state of the server, the fields of the packet that
handlers write, and the contents of a response buffer. -/
structure Outcome (τ : Type) where
  state : τ
  args0 : Arg
  args1 : Arg
  args2 : Arg
  args3 : Arg
  retExVal : RetExtra
  buffer : (n : Nat) → { bs : Bytes // bs.length = n }

/-- A backend process: the pointers that it puts into a packet for its handlers, and the work that
they do. -/
structure Backend (τ : Type) where
  vmapTable : UInt64
  kmapTable : UInt64
  work : Srv → τ → CudaPacket → Conn → Outcome τ

/-- `sizeof(struct cudaDeviceProp)` is the same on both sides. -/
abbrev PropSize := Nat

section

variable {τ : Type} (B : Backend τ) (propSize : PropSize)

/-- The state, the packet and the connection after the work in a handler. -/
def Backend.run (srv : Srv) (t : τ) (packet : CudaPacket) (conn : Conn) : τ × CudaPacket × Conn :=
  let o := B.work srv t packet conn
  (o.state,
    { packet with
      args0 := o.args0, args1 := o.args1, args2 := o.args2, args3 := o.args3
      retExVal := o.retExVal },
    { conn with pRspBuffer := conn.pRspBuffer.map fun buffer => (o.buffer buffer.length).val })

/-- A response buffer of the given size. What is in it is overwritten by the work. -/
def Conn.withResponse (conn : Conn) (size : Int) : Conn :=
  { conn with responseDataSize := size, pRspBuffer := some (List.replicate size.toNat 0) }

/-- `nvbackCudaGetDeviceProperties_srv`. -/
def nvbackCudaGetDevicePropertiesSrv (t : τ) (packet : CudaPacket) (conn : Conn) :
    Except CFail (τ × CudaPacket × Conn) :=
  .ok (B.run .nvbackCudaGetDeviceProperties t packet (conn.withResponse (asInt propSize)))

/-- `nvbackCudaMemcpy_srv`. -/
def nvbackCudaMemcpySrv (t : τ) (packet : CudaPacket) (conn : Conn) :
    Except CFail (τ × CudaPacket × Conn) :=
  match MethodId.ofCode packet.methodId with
  | some .cudaMemcpyH2H => .ok (t, packet, conn)
  | some .cudaMemcpyH2D =>
    if conn.requestDataSize = packet.args2.argi then .ok (B.run .nvbackCudaMemcpy t packet conn)
    else .error .assertFailed
  | some .cudaMemcpyD2H =>
    if conn.pRspBuffer = none then
      .ok (B.run .nvbackCudaMemcpy t packet (conn.withResponse (asInt packet.args2.word0.toNat)))
    else .error .assertFailed
  | _ => .ok (B.run .nvbackCudaMemcpy t packet conn)

/-- A handler returns with an error in the packet. -/
def withErr (packet : CudaPacket) (err : UInt32) : CudaPacket :=
  { packet with retExVal := { packet.retExVal with err := err } }

/-- `nvbackCudaMemcpyToSymbol_srv`. -/
def nvbackCudaMemcpyToSymbolSrv (t : τ) (packet : CudaPacket) (conn : Conn) :
    Except CFail (τ × CudaPacket × Conn) :=
  match CudaMemcpyKind.ofArg packet.args3 with
  | .hostToDevice =>
    if conn.requestDataSize % 2 ^ 32 = packet.args2.word0.toNat then
      .ok (B.run .nvbackCudaMemcpyToSymbol t packet conn)
    else .error .assertFailed
  | .deviceToDevice => .ok (t, withErr packet 31, conn)
  | .deviceToHost | .other => .ok (t, withErr packet 21, conn)

/-- `nvbackCudaMemcpyFromSymbol_srv`. -/
def nvbackCudaMemcpyFromSymbolSrv (t : τ) (packet : CudaPacket) (conn : Conn) :
    Except CFail (τ × CudaPacket × Conn) :=
  match CudaMemcpyKind.ofArg packet.args3 with
  | .deviceToHost =>
    if conn.pRspBuffer = none then
      .ok (B.run .nvbackCudaMemcpyFromSymbol t packet
        (conn.withResponse (asInt packet.args2.word0.toNat)))
    else .error .assertFailed
  | .deviceToDevice => .ok (t, withErr packet 31, conn)
  | .hostToDevice | .other => .ok (t, withErr packet 21, conn)

/-- `pkt_execute`. The other handlers neither assert nor respond with data. -/
def Backend.pktExecute (t : τ) (packet : CudaPacket) (conn : Conn) :
    Except CFail (τ × CudaPacket × Conn) :=
  match Remote.pktExecute packet.methodId with
  | some .nvbackCudaGetDeviceProperties => nvbackCudaGetDevicePropertiesSrv B propSize t packet conn
  | some .nvbackCudaMemcpy => nvbackCudaMemcpySrv B t packet conn
  | some .nvbackCudaMemcpyToSymbol => nvbackCudaMemcpyToSymbolSrv B t packet conn
  | some .nvbackCudaMemcpyFromSymbol => nvbackCudaMemcpyFromSymbolSrv B t packet conn
  | some srv => .ok (B.run srv t packet conn)
  | none => .ok (t, { withErr packet 11 with flags := 0x8 }, conn)

/-- The connection at the head of a turn. -/
def Conn.fresh : Conn :=
  { requestDataSize := 0, pReqBuffer := [], responseDataSize := 0, pRspBuffer := none }

/-- The head of the loop: the packets of a request, and the connection with its data. After a header
without packets nothing else is read. -/
def receiveRequest : Proc (List CudaPacket × Conn) := do
  let hdr ← receive sizeofStrmHdr strmHdr
  if hdr.numCudaPkts = 0 then
    return ([], .fresh)
  else do
    let rpkts ← receive (hdr.numCudaPkts.toNat * sizeofRpkt)
      (Reader.times hdr.numCudaPkts.toNat cudaPacket)
    if 0 < hdr.dataSize then do
      let pReqBuffer ← get (asInt hdr.dataSize.toNat)
      return (rpkts, { Conn.fresh with
        requestDataSize := asInt hdr.dataSize.toNat, pReqBuffer := pReqBuffer })
    else
      return (rpkts, .fresh)

/-- The response buffer is written; `put` refuses a NULL one. -/
def putResponse (conn : Conn) : Proc Unit :=
  match conn.pRspBuffer with
  | some buffer => send (buffer.take conn.responseDataSize.toNat)
  | none => .fail .error

/-- The end of the loop: the response, where the method of the last packet has one. -/
def respond (packet : CudaPacket) (last : UInt16) (conn : Conn) : Proc Bool :=
  if strmExpectsResponse last then do
    send (connSendCudaPktHdr conn.responseDataSize)
    send packet.image
    if 0 < conn.responseDataSize then do
      putResponse conn
      return true
    else
      return true
  else
    return false

/-- One turn of the loop of `backend_thread`, which executes the first packet of a request. It
returns the state of the server, and whether it has responded. A header without packets only starts
the next turn. -/
def Backend.turn (t : τ) : Proc (τ × Bool) := do
  let (rpkts, conn) ← receiveRequest
  match rpkts with
  | [] => return (t, false)
  | packet :: rest =>
    let (t, packet, conn) ← lift (B.pktExecute propSize t
      { packet with vmmap := B.vmapTable, kmap := B.kmapTable } conn)
    let packet := { packet with vmmap := 0, kmap := 0 }
    let last := (packet :: rest).getLastD packet
    let responded ← respond packet last.methodId conn
    return (t, responded)

end

end GpuVirtmem.Remote
