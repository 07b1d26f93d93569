import GpuVirtmem.Remote.Client

/-!
# The calls that the interposer makes (`interposer/libci.c`)

Each CUDA call that is not served on the client fills a packet and hands it to a wrapper.

What a packet has in the fields that a call does not fill is left from its making: zero, and for
the error `cudaErrorUnknown`. The sizes of transfers are converted on the way (`CudaCall.SizesFit`
says when nothing is lost by that), and a call for which the interposer finds no symbol does not
reach a wrapper.
-/

namespace GpuVirtmem.Interposer

open Remote

/-- `l_remoteInitMetThrReq`, for a method number. -/
def lRemoteInitMetThrReq (thrId : UInt64) (methodId : UInt16) : CudaPacket :=
  { methodId := methodId, thrId := thrId, flags := 0x2
    args0 := ⟨0, 0⟩, args1 := ⟨0, 0⟩, args2 := ⟨0, 0⟩, args3 := ⟨0, 0⟩
    retExVal := { err := 30, upper := 0 }, vmmap := 0, kmap := 0 }

/-- The calls that reach a wrapper, with what their packets are filled from. Pointers are addresses
of the application. -/
inductive CudaCall
  | threadExit
  | threadSynchronize
  | getDeviceCount
  | getDeviceProperties (prop : UInt64) (device : UInt64)
  | setDevice (device isLocal share : UInt64)
  | getDevice (device firstLocal nodeId : UInt64)
  | configureCall (gridDim blockDim : Arg) (sharedMem stream : UInt64)
  | setupArgument (arg size offset : UInt64)
  | launch (entry : UInt64)
  | malloc (devPtr size : UInt64)
  | free (devPtr : UInt64)
  | memcpy (dst src count kind : UInt64)
  | memcpyToSymbol (hostVar src count offset kind : UInt64)
  | memcpyFromSymbol (dst hostVar count offset kind : UInt64)
  | registerFatBinary (pPackedFat fbSize : UInt64)
  | registerFunction (p size : UInt64)
  | registerVar (p size : UInt64)
  | unregisterFatBinary (fatCubinHandle : UInt64)
  deriving DecidableEq, Repr

section

variable (thrId : UInt64)

/-- The packet of `rcudaMalloc`: `args[0]` is the address of the caller's pointer. -/
def rcudaMalloc (devPtr size : UInt64) : CudaPacket :=
  { lRemoteInitMetThrReq thrId MethodId.cudaMalloc.code with
    args0 := ⟨devPtr, 0⟩, args1 := ⟨size, 0⟩ }

/-- The packet of `rcudaFree`. -/
def rcudaFree (devPtr : UInt64) : CudaPacket :=
  { lRemoteInitMetThrReq thrId MethodId.cudaFree.code with args0 := ⟨devPtr, 0⟩ }

/-- The packet of `rcudaGetDeviceProperties`, with `sizeof(struct cudaDeviceProp)`. -/
def rcudaGetDeviceProperties (propSize : Nat) (prop device : UInt64) : CudaPacket :=
  { lRemoteInitMetThrReq thrId MethodId.cudaGetDeviceProperties.code with
    flags := 0x2 ||| 0x10, args0 := ⟨prop, 0⟩, args1 := ⟨device, 0⟩, args2 := ⟨.ofNat propSize, 0⟩ }

/-- The packet of `rcudaSetDevice`. -/
def rcudaSetDevice (device isLocal share : UInt64) : CudaPacket :=
  { lRemoteInitMetThrReq thrId MethodId.cudaSetDevice.code with
    args0 := ⟨device, 0⟩, args1 := ⟨isLocal, 0⟩, args2 := ⟨share, 0⟩ }

/-- The packet of `rcudaGetDevice`. -/
def rcudaGetDevice (device firstLocal nodeId : UInt64) : CudaPacket :=
  { lRemoteInitMetThrReq thrId MethodId.cudaGetDevice.code with
    args0 := ⟨device, 0⟩, args1 := ⟨firstLocal, 0⟩, args2 := ⟨nodeId, 0⟩ }

/-- The packet of `rcudaConfigureCall`. -/
def rcudaConfigureCall (gridDim blockDim : Arg) (sharedMem stream : UInt64) : CudaPacket :=
  { lRemoteInitMetThrReq thrId MethodId.cudaConfigureCall.code with
    args0 := gridDim, args1 := blockDim, args2 := ⟨sharedMem, 0⟩, args3 := ⟨stream, 0⟩ }

/-- The packet of `rcudaSetupArgument`. -/
def rcudaSetupArgument (arg size offset : UInt64) : CudaPacket :=
  { lRemoteInitMetThrReq thrId MethodId.cudaSetupArgument.code with
    flags := 0x2 ||| 0x10, args0 := ⟨arg, 0⟩, args1 := ⟨size, 0⟩, args2 := ⟨offset, 0⟩ }

/-- The packet of `rcudaLaunch`. -/
def rcudaLaunch (entry : UInt64) : CudaPacket :=
  { lRemoteInitMetThrReq thrId MethodId.cudaLaunch.code with args0 := ⟨entry, 0⟩ }

/-- The packet of `rcudaMemcpy`; its method is left to the wrapper. -/
def rcudaMemcpy (dst src count kind : UInt64) : CudaPacket :=
  { lRemoteInitMetThrReq thrId 0xffff with
    flags := 0x2 ||| 0x10, args0 := ⟨dst, 0⟩, args1 := ⟨src, 0⟩, args2 := ⟨count, 0⟩
    args3 := ⟨kind, 0⟩ }

/-- The packet of `rcudaMemcpyToSymbol`, for a symbol that was found. -/
def rcudaMemcpyToSymbol (hostVar src count offset kind : UInt64) : CudaPacket :=
  { lRemoteInitMetThrReq thrId MethodId.cudaMemcpyToSymbol.code with
    flags := 0x2 ||| 0x10, args0 := ⟨hostVar, 0⟩, args1 := ⟨src, 0⟩, args2 := ⟨count, offset⟩
    args3 := ⟨kind, 0⟩ }

/-- The packet of `rcudaMemcpyFromSymbol`, for a symbol that was found. -/
def rcudaMemcpyFromSymbol (dst hostVar count offset kind : UInt64) : CudaPacket :=
  { lRemoteInitMetThrReq thrId MethodId.cudaMemcpyFromSymbol.code with
    flags := 0x2 ||| 0x10, args0 := ⟨hostVar, 0⟩, args1 := ⟨dst, 0⟩, args2 := ⟨count, offset⟩
    args3 := ⟨kind, 0⟩ }

/-- The packet of a registration, with its packed arguments. -/
def registration (m : MethodId) (p size : UInt64) : CudaPacket :=
  { lRemoteInitMetThrReq thrId m.code with
    flags := 0x2 ||| 0x10, args0 := ⟨p, 0⟩, args1 := ⟨size, 0⟩ }

/-- The packet of `r__cudaUnregisterFatBinary`. -/
def rCudaUnregisterFatBinary (fatCubinHandle : UInt64) : CudaPacket :=
  { lRemoteInitMetThrReq thrId MethodId.cudaUnregisterFatBinary.code with
    args0 := ⟨fatCubinHandle, 0⟩ }

/-- The call of `l_do_cuda_rpc` that a CUDA call leads to, if there is one. -/
def CudaCall.rpc (propSize : Nat) : CudaCall → Option RpcCall
  | .threadExit =>
    some (nvbackCudaThreadExitRpc (lRemoteInitMetThrReq thrId MethodId.cudaThreadExit.code))
  | .threadSynchronize =>
    some (nvbackCudaThreadSynchronizeRpc
      (lRemoteInitMetThrReq thrId MethodId.cudaThreadSynchronize.code))
  | .getDeviceCount =>
    some (nvbackCudaGetDeviceCountRpc (lRemoteInitMetThrReq thrId MethodId.cudaGetDeviceCount.code))
  | .getDeviceProperties prop device =>
    some (nvbackCudaGetDevicePropertiesRpc (rcudaGetDeviceProperties thrId propSize prop device))
  | .setDevice device isLocal share =>
    some (nvbackCudaSetDeviceRpc (rcudaSetDevice thrId device isLocal share))
  | .getDevice device firstLocal nodeId =>
    some (nvbackCudaGetDeviceRpc (rcudaGetDevice thrId device firstLocal nodeId))
  | .configureCall gridDim blockDim sharedMem stream =>
    some (nvbackCudaConfigureCallRpc (rcudaConfigureCall thrId gridDim blockDim sharedMem stream))
  | .setupArgument arg size offset =>
    some (nvbackCudaSetupArgumentRpc (rcudaSetupArgument thrId arg size offset))
  | .launch entry => some (nvbackCudaLaunchRpc (rcudaLaunch thrId entry))
  | .malloc devPtr size => some (nvbackCudaMallocRpc (rcudaMalloc thrId devPtr size))
  | .free devPtr => some (nvbackCudaFreeRpc (rcudaFree thrId devPtr))
  | .memcpy dst src count kind => nvbackCudaMemcpyRpc (rcudaMemcpy thrId dst src count kind)
  | .memcpyToSymbol hostVar src count offset kind =>
    nvbackCudaMemcpyToSymbolRpc (rcudaMemcpyToSymbol thrId hostVar src count offset kind)
  | .memcpyFromSymbol dst hostVar count offset kind =>
    nvbackCudaMemcpyFromSymbolRpc (rcudaMemcpyFromSymbol thrId dst hostVar count offset kind)
  | .registerFatBinary pPackedFat fbSize =>
    some (nvbackCudaRegisterFatBinaryRpc
      (registration thrId .cudaRegisterFatBinary pPackedFat fbSize))
  | .registerFunction p size =>
    some (nvbackCudaRegisterFunctionRpc (registration thrId .cudaRegisterFunction p size))
  | .registerVar p size =>
    some (nvbackCudaRegisterVarRpc (registration thrId .cudaRegisterVariable p size))
  | .unregisterFatBinary fatCubinHandle =>
    some (nvbackCudaUnregisterFatBinaryRpc (rCudaUnregisterFatBinary thrId fatCubinHandle))

end

/-- All transfer sizes of the call are below `2 ^ 31`. -/
def CudaCall.SizesFit : CudaCall → Prop
  | .setupArgument _ size _ => size.toNat < 2 ^ 31
  | .memcpy _ _ count _ => count.toNat < 2 ^ 31
  | .memcpyToSymbol _ _ count _ _ => count.toNat < 2 ^ 31
  | .memcpyFromSymbol _ _ count _ _ => count.toNat < 2 ^ 31
  | .registerFatBinary _ size | .registerFunction _ size | .registerVar _ size =>
    size.toNat < 2 ^ 31
  | _ => True

/-- Where the call carries data, the host buffer is not NULL. For the argument of a kernel and for a
packed registration the interposer sees to that itself: it reads the one first, and has allocated
the other. -/
def CudaCall.BuffersGiven : CudaCall → Prop
  | .getDeviceProperties prop _ => prop ≠ 0
  | .setupArgument p size _ | .registerFatBinary p size | .registerFunction p size
  | .registerVar p size => size ≠ 0 → p ≠ 0
  | .memcpy dst src count kind =>
    count ≠ 0 →
      (CudaMemcpyKind.ofArgi (Arg.argi ⟨kind, 0⟩) = .hostToDevice → src ≠ 0) ∧
        (CudaMemcpyKind.ofArgi (Arg.argi ⟨kind, 0⟩) = .deviceToHost → dst ≠ 0)
  | .memcpyToSymbol _ src count _ kind =>
    count ≠ 0 → CudaMemcpyKind.ofArg ⟨kind, 0⟩ = .hostToDevice → src ≠ 0
  | .memcpyFromSymbol dst _ count _ kind =>
    count ≠ 0 → CudaMemcpyKind.ofArg ⟨kind, 0⟩ = .deviceToHost → dst ≠ 0
  | _ => True

end GpuVirtmem.Interposer
