/-!
# Methods (`include/method_id.h`, `remote/remote_packet.c`)

The numbers of the calls that are sent, which of them the client waits for, and the handler that
`pkt_execute` runs for each on the server.
-/

namespace GpuVirtmem.Remote

/-- `enum METHOD_ID`, from `CUDA_MALLOC = 1` on. -/
inductive MethodId
  | cudaMalloc | cudaFree | cudaMemcpyH2D | cudaMemcpyD2H | cudaMemcpyH2H | cudaMemcpyD2D
  | cudaSetupArgument | cudaLaunch | cudaGetDeviceCount | cudaGetDeviceProperties | cudaGetDevice
  | cudaSetDevice | cudaConfigureCall | feBePinPages | cudaThreadSynchronize | cudaThreadExit
  | cudaMemset | cudaUnbindTexture | cudaBindTextureToArray | cudaFreeHost | cudaMemcpyToSymbol
  | cudaMemcpyFromSymbol | cudaMallocArray | cudaFreeArray | cudaMemcpyToArrayD2D
  | cudaMemcpyToArrayH2D | cudaMemcpyToArrayD2H | cudaMemcpyToArrayH2H | cudaMemcpy2DToArrayD2D
  | cudaMemcpy2DToArrayH2D | cudaMemcpy2DToArrayD2H | cudaMemcpy2DToArrayH2H
  | cudaRegisterFatBinary | cudaRegisterFunction | cudaRegisterVariable | cudaRegisterTexture
  | cudaRegisterShared | cudaUnregisterFatBinary
  deriving DecidableEq, Repr

/-- All methods, in the order of the enumeration. -/
def MethodId.all : List MethodId :=
  [.cudaMalloc, .cudaFree, .cudaMemcpyH2D, .cudaMemcpyD2H, .cudaMemcpyH2H, .cudaMemcpyD2D,
    .cudaSetupArgument, .cudaLaunch, .cudaGetDeviceCount, .cudaGetDeviceProperties, .cudaGetDevice,
    .cudaSetDevice, .cudaConfigureCall, .feBePinPages, .cudaThreadSynchronize, .cudaThreadExit,
    .cudaMemset, .cudaUnbindTexture, .cudaBindTextureToArray, .cudaFreeHost, .cudaMemcpyToSymbol,
    .cudaMemcpyFromSymbol, .cudaMallocArray, .cudaFreeArray, .cudaMemcpyToArrayD2D,
    .cudaMemcpyToArrayH2D, .cudaMemcpyToArrayD2H, .cudaMemcpyToArrayH2H, .cudaMemcpy2DToArrayD2D,
    .cudaMemcpy2DToArrayH2D, .cudaMemcpy2DToArrayD2H, .cudaMemcpy2DToArrayH2H,
    .cudaRegisterFatBinary, .cudaRegisterFunction, .cudaRegisterVariable, .cudaRegisterTexture,
    .cudaRegisterShared, .cudaUnregisterFatBinary]

/-- The number of a method in a packet. -/
def MethodId.code (m : MethodId) : UInt16 := .ofNat (MethodId.all.idxOf m + 1)

/-- The method with a number, 1 being the first one. -/
def MethodId.ofCode (methodId : UInt16) : Option MethodId :=
  if methodId = 0 then none else MethodId.all[methodId.toNat - 1]?

/-- `strm_expects_response`, on the method of the stream's last packet. -/
def strmExpectsResponse (methodId : UInt16) : Bool :=
  match MethodId.ofCode methodId with
  | some .cudaRegisterFatBinary | some .cudaRegisterFunction | some .cudaRegisterShared
  | some .cudaRegisterTexture | some .cudaRegisterVariable | some .cudaBindTextureToArray
  | some .cudaUnbindTexture | some .cudaMalloc | some .cudaMallocArray | some .cudaMemcpyH2H
  | some .cudaMemcpyH2D | some .cudaMemcpyD2H | some .cudaMemcpyD2D | some .cudaMemcpyToArrayH2H
  | some .cudaMemcpyToArrayH2D | some .cudaMemcpyToArrayD2H | some .cudaMemcpyToArrayD2D
  | some .cudaMemcpyToSymbol | some .cudaMemcpyFromSymbol | some .cudaMemcpy2DToArrayH2H
  | some .cudaMemcpy2DToArrayH2D | some .cudaMemcpy2DToArrayD2H | some .cudaMemcpy2DToArrayD2D
  | some .cudaGetDeviceCount | some .cudaGetDeviceProperties | some .cudaGetDevice
  | some .cudaThreadSynchronize => true
  | _ => false

/-- The handlers of `remote_api_wrapper.c`. -/
inductive Srv
  | nvbackCudaMalloc | nvbackCudaGetDeviceCount | nvbackCudaGetDeviceProperties
  | nvbackCudaGetDevice | nvbackCudaSetDevice | nvbackCudaFree | nvbackCudaSetupArgument
  | nvbackCudaConfigureCall | nvbackCudaLaunch | nvbackCudaMemcpy | nvbackCudaMemcpyToSymbol
  | nvbackCudaMemcpyFromSymbol | nvbackCudaThreadSynchronize | nvbackCudaThreadExit
  | nvbackCudaRegisterFatBinary | nvbackCudaRegisterFatBinary2 | nvbackCudaRegisterFunction
  | nvbackCudaRegisterVar | nvbackCudaUnregisterFatBinary
  deriving DecidableEq, Repr

/-- The handler that `pkt_execute` runs; an unknown method only gets an error. -/
def pktExecute (methodId : UInt16) : Option Srv :=
  match MethodId.ofCode methodId with
  | some .cudaMalloc => some .nvbackCudaMalloc
  | some .cudaGetDeviceCount => some .nvbackCudaGetDeviceCount
  | some .cudaGetDeviceProperties => some .nvbackCudaGetDeviceProperties
  | some .cudaGetDevice => some .nvbackCudaGetDevice
  | some .cudaSetDevice => some .nvbackCudaSetDevice
  | some .cudaFree => some .nvbackCudaFree
  | some .cudaSetupArgument => some .nvbackCudaSetupArgument
  | some .cudaConfigureCall => some .nvbackCudaConfigureCall
  | some .cudaLaunch => some .nvbackCudaLaunch
  | some .cudaMemcpyH2H | some .cudaMemcpyH2D | some .cudaMemcpyD2H | some .cudaMemcpyD2D =>
    some .nvbackCudaMemcpy
  | some .cudaMemcpyToSymbol => some .nvbackCudaMemcpyToSymbol
  | some .cudaMemcpyFromSymbol => some .nvbackCudaMemcpyFromSymbol
  | some .cudaThreadSynchronize => some .nvbackCudaThreadSynchronize
  | some .cudaThreadExit => some .nvbackCudaThreadExit
  | some .cudaRegisterFatBinary => some .nvbackCudaRegisterFatBinary2
  | some .cudaRegisterFunction => some .nvbackCudaRegisterFunction
  | some .cudaRegisterVariable => some .nvbackCudaRegisterVar
  | some .cudaUnregisterFatBinary => some .nvbackCudaUnregisterFatBinary
  | _ => none

end GpuVirtmem.Remote
