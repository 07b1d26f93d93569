import GpuVirtmem.Lib.Proc
import GpuVirtmem.Remote.Packet

/-!
# The client's side of a remote call (`remote/remote_api_wrapper.c`, `remote/connection.c`)

`l_do_cuda_rpc` sends a header, the packet and the request data, and reads a response where the
method has one. The `nvback*_rpc` wrappers choose its arguments from the packet; what they return
after it, an error code from the packet, is left out.

Sends and reads are the actions of a process (`Lib.Proc`), and an assertion of the source ends the
process where it does not hold. Whether the buffers of the application are there shows only in these
assertions: the memory behind an address is a function here (`Memory`), and NULL is looked at where
the source looks at it.
-/

namespace GpuVirtmem.Remote

open Lib Proc

/-- A conversion to `int`. -/
def asInt (n : Nat) : Int := (BitVec.ofNat 32 n).toInt

/-- `argi`. -/
def Arg.argi (a : Arg) : Int := a.word0.toBitVec.toInt

/-- `get`: a negative length is an error. -/
def get (len : Int) : Proc Bytes := if len < 0 then .fail .error else recv len.toNat

/-- The header that `conn_sendCudaPktHdr` sends for one packet. -/
def connSendCudaPktHdr (bufSize : Int) : Bytes :=
  StrmHdr.image { numCudaPkts := 1, dataSize := .ofNat (bufSize % 2 ^ 32).toNat }

/-- The memory of the application, at the time of a call: what `n` bytes from an address on hold. -/
abbrev Memory := UInt64 → (n : Nat) → { bs : Bytes // bs.length = n }

/-- The arguments of `l_do_cuda_rpc`; NULL is 0. -/
structure RpcCall where
  packet : CudaPacket
  reqbuf : UInt64
  reqbufSize : Int
  rspbuf : UInt64
  rspbufSize : Int

/-- What `l_do_cuda_rpc` leaves when it returns OK: whether it has expected a response, the packet,
and the bytes it has stored in `rspbuf`. -/
structure RpcReturn where
  expected : Bool
  packet : CudaPacket
  rspbuf : Bytes
  deriving DecidableEq, Repr

/-- The first half of `l_do_cuda_rpc`. -/
def sendRequest (mem : Memory) (c : RpcCall) : Proc Unit := do
  send (connSendCudaPktHdr c.reqbufSize)
  send c.packet.image
  if 0 < c.reqbufSize then do
    check (c.reqbuf != 0 && c.reqbufSize != 0)
    send (mem c.reqbuf c.reqbufSize.toNat).val
  else
    return ()

/-- The response of `l_do_cuda_rpc`, where one is expected. -/
def receiveResponse (c : RpcCall) : Proc RpcReturn := do
  let hdr ← receive sizeofStrmHdr strmHdr
  check (hdr.numCudaPkts == 1)
  let packet ← receive (hdr.numCudaPkts.toNat * sizeofRpkt) cudaPacket
  if 0 < hdr.dataSize then do
    check (c.rspbuf != 0 && c.rspbufSize != 0)
    check (decide (asInt hdr.dataSize.toNat ≤ c.rspbufSize))
    let data ← get (asInt hdr.dataSize.toNat)
    return { expected := true, packet := packet, rspbuf := data }
  else
    return { expected := true, packet := packet, rspbuf := [] }

/-- What `l_do_cuda_rpc` does after the request. -/
def awaitResponse (c : RpcCall) : Proc RpcReturn :=
  if strmExpectsResponse c.packet.methodId then
    receiveResponse c
  else
    return { expected := false, packet := c.packet, rspbuf := [] }

/-- `l_do_cuda_rpc` on a connection. -/
def lDoCudaRpc (mem : Memory) (c : RpcCall) : Proc RpcReturn := do
  sendRequest mem c
  awaitResponse c

/-! ## The wrappers -/

/-- A call without extra buffers. -/
def bare (packet : CudaPacket) : RpcCall :=
  { packet := packet, reqbuf := 0, reqbufSize := 0, rspbuf := 0, rspbufSize := 0 }

/-- A call with the request buffer in `args[0]`, of the size in `args[1]`. -/
def withRequest (packet : CudaPacket) : RpcCall :=
  { bare packet with
    reqbuf := packet.args0.word0, reqbufSize := asInt packet.args1.word0.toNat }

/-- `nvbackCudaGetDeviceCount_rpc`. -/
def nvbackCudaGetDeviceCountRpc : CudaPacket → RpcCall := bare

/-- `nvbackCudaGetDeviceProperties_rpc`. -/
def nvbackCudaGetDevicePropertiesRpc (packet : CudaPacket) : RpcCall :=
  { bare packet with
    rspbuf := packet.args0.word0, rspbufSize := asInt packet.args2.word0.toNat }

/-- `nvbackCudaGetDevice_rpc`. -/
def nvbackCudaGetDeviceRpc : CudaPacket → RpcCall := bare

/-- `nvbackCudaSetDevice_rpc`. -/
def nvbackCudaSetDeviceRpc : CudaPacket → RpcCall := bare

/-- `nvbackCudaFree_rpc`. -/
def nvbackCudaFreeRpc : CudaPacket → RpcCall := bare

/-- `nvbackCudaMalloc_rpc`. -/
def nvbackCudaMallocRpc : CudaPacket → RpcCall := bare

/-- `nvbackCudaSetupArgument_rpc`. -/
def nvbackCudaSetupArgumentRpc : CudaPacket → RpcCall := withRequest

/-- `nvbackCudaConfigureCall_rpc`. -/
def nvbackCudaConfigureCallRpc : CudaPacket → RpcCall := bare

/-- `nvbackCudaLaunch_rpc`. -/
def nvbackCudaLaunchRpc : CudaPacket → RpcCall := bare

/-- `enum cudaMemcpyKind`, as far as the wrappers tell its values apart. -/
inductive CudaMemcpyKind
  | hostToDevice | deviceToHost | deviceToDevice | other
  deriving DecidableEq, Repr

/-- The kind in `args[3].argi`. -/
def CudaMemcpyKind.ofArgi (argi : Int) : CudaMemcpyKind :=
  if argi = 1 then .hostToDevice
  else if argi = 2 then .deviceToHost
  else if argi = 3 then .deviceToDevice
  else .other

/-- The kind in `args[3].argi` after a cast to `enum cudaMemcpyKind`. -/
def CudaMemcpyKind.ofArg (a : Arg) : CudaMemcpyKind := .ofArgi (asInt a.word0.toNat)

/-- `nvbackCudaMemcpy_rpc`: it sets the method from the kind, and sends nothing for kinds it does
not know. -/
def nvbackCudaMemcpyRpc (packet : CudaPacket) : Option RpcCall :=
  match CudaMemcpyKind.ofArgi packet.args3.argi with
  | .hostToDevice =>
    some { bare { packet with methodId := MethodId.cudaMemcpyH2D.code } with
      reqbuf := packet.args1.word0, reqbufSize := asInt packet.args2.word0.toNat }
  | .deviceToHost =>
    some { bare { packet with methodId := MethodId.cudaMemcpyD2H.code } with
      rspbuf := packet.args0.word0, rspbufSize := asInt packet.args2.word0.toNat }
  | .deviceToDevice =>
    some (bare { packet with
      methodId := MethodId.cudaMemcpyD2D.code, flags := packet.flags &&& ~~~0x10 &&& ~~~0x40 })
  | .other => none

/-- `nvbackCudaThreadSynchronize_rpc`. -/
def nvbackCudaThreadSynchronizeRpc : CudaPacket → RpcCall := bare

/-- `nvbackCudaThreadExit_rpc`. -/
def nvbackCudaThreadExitRpc : CudaPacket → RpcCall := bare

/-- `nvbackCudaMemcpyToSymbol_rpc`. -/
def nvbackCudaMemcpyToSymbolRpc (packet : CudaPacket) : Option RpcCall :=
  match CudaMemcpyKind.ofArg packet.args3 with
  | .hostToDevice =>
    some { bare packet with
      reqbuf := packet.args1.word0, reqbufSize := asInt packet.args2.word0.toNat }
  | .deviceToDevice => some (bare packet)
  | .deviceToHost | .other => none

/-- `nvbackCudaMemcpyFromSymbol_rpc`. -/
def nvbackCudaMemcpyFromSymbolRpc (packet : CudaPacket) : Option RpcCall :=
  match CudaMemcpyKind.ofArg packet.args3 with
  | .deviceToDevice => some (bare packet)
  | .deviceToHost =>
    some { bare packet with
      rspbuf := packet.args1.word0, rspbufSize := asInt packet.args2.word0.toNat }
  | .hostToDevice | .other => none

/-- `__nvback_cudaRegisterFatBinary_rpc`. -/
def nvbackCudaRegisterFatBinaryRpc : CudaPacket → RpcCall := withRequest

/-- `__nvback_cudaRegisterFunction_rpc`. -/
def nvbackCudaRegisterFunctionRpc : CudaPacket → RpcCall := withRequest

/-- `__nvback_cudaRegisterVar_rpc`. -/
def nvbackCudaRegisterVarRpc : CudaPacket → RpcCall := withRequest

/-- `__nvback_cudaUnregisterFatBinary_rpc`. -/
def nvbackCudaUnregisterFatBinaryRpc : CudaPacket → RpcCall := bare

end GpuVirtmem.Remote
