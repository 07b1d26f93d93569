import GpuVirtmem.Backend.Memcpy
import GpuVirtmem.Backend.Modules
import GpuVirtmem.Remote.Session
import GpuVirtmem.VirtMem.KernelMap

/-!
# The handlers of the build without the pager (`remote/remote_api_wrapper.c`)

Where `PAGER` is not defined the handlers call the CUDA runtime of their node, which is a parameter
here. A launch and a copy to or from a symbol look in `fatCInfoArr` for what the client has
registered under the host address.

What the runtime does and returns is left open (`CudaRuntime`), and so is what a fresh block
contains; the handlers are what is between the packet and the runtime: which of its fields they
read, in which order they call, and what they put back into the packet. A block for the response is
allocated where the source allocates one, and what a handler writes behind the data it was asked for
is not sent.
-/

namespace GpuVirtmem.Backend.Direct

open Lib Remote Interposer VirtMem

/-- A `cudaError_t` other than `cudaSuccess`. -/
abbrev CudaError := { e : UInt32 // e ≠ 0 }

/-- The `cudaError_t` of a call. -/
def errOf {α : Type} : Except CudaError α → UInt32
  | .ok _ => 0
  | .error e => e.val

/-- `devCount` after the call: it is 0 before. -/
def devCountOf : Except CudaError Int32 → Int32
  | .ok n => n
  | .error _ => 0

/-- `args[0].argp` after the call: it is NULL before. -/
def argpOf : Except CudaError UInt64 → UInt64
  | .ok devPtr => devPtr
  | .error _ => 0

/-- A block of `n` bytes. -/
abbrev Block (n : Nat) := { bs : Bytes // bs.length = n }

/-- The CUDA runtime of a node: what its calls do to the device, and what they return. Of a buffer
on the host they get the contents, and where they succeed they fill one. -/
structure CudaRuntime (propSize : PropSize) (σ : Type) where
  cudaGetDeviceCount (s : σ) : σ × Except CudaError Int32
  cudaGetDeviceProperties (s : σ) (device : Int) : σ × Except CudaError (Block propSize)
  cudaSetDevice (s : σ) (device : Int) : σ × Except CudaError Unit
  cudaMalloc (s : σ) (size : UInt64) : σ × Except CudaError UInt64
  cudaFree (s : σ) (devPtr : UInt64) : σ × Except CudaError Unit
  cudaMemcpyHostToDevice (s : σ) (dst : UInt64) (src : Bytes) (count : UInt64) :
    σ × Except CudaError Unit
  cudaMemcpyDeviceToHost (s : σ) (src count : UInt64) : σ × Except CudaError (Block count.toNat)
  cudaMemcpyDeviceToDevice (s : σ) (dst src count : UInt64) : σ × Except CudaError Unit
  cudaMemcpyToSymbol (s : σ) (symbol : RegVarArgs) (src : Bytes) (count offset : UInt64) :
    σ × Except CudaError Unit
  cudaMemcpyFromSymbol (s : σ) (symbol : RegVarArgs) (count offset : UInt64) :
    σ × Except CudaError (Block count.toNat)
  cudaConfigureCall (s : σ) (gridDim blockDim : Dim3) (sharedMem stream : UInt64) :
    σ × Except CudaError Unit
  cudaSetupArgument (s : σ) (arg : Bytes) (size offset : UInt64) : σ × Except CudaError Unit
  cudaLaunch (s : σ) (entry : RegFuncArgs) : σ × Except CudaError Unit
  cudaThreadSynchronize (s : σ) : σ × Except CudaError Unit
  cudaThreadExit (s : σ) : σ × Except CudaError Unit

/-- A backend process: the device of its node, and what its client has registered. -/
structure Node (σ : Type) where
  device : σ
  fatCInfoArr : List FatcubinInfo

/-- `arg_dim`: three words of 32 bits. -/
def argDim (a : Arg) : Dim3 :=
  { x := a.word0.toNat % 2 ^ 32, y := a.word0.toNat / 2 ^ 32, z := a.word1.toNat % 2 ^ 32 }

/-- A block that is filled from its beginning. -/
def fill (fresh : FreshBlock) (bs : Bytes) (n : Nat) : Block n :=
  ⟨(bs ++ (fresh n).val).take n, by
    rw [List.length_take, List.length_append, (fresh n).property]
    omega⟩

section

variable {propSize : PropSize} {σ : Type} (R : CudaRuntime propSize σ) (fresh : FreshBlock)
  (addr : UInt64) (t : Node σ) (packet : CudaPacket) (conn : Conn)

/-- What a handler leaves that has no response buffer, or has not written to it. -/
def leave (device : σ) (packet : CudaPacket) : Outcome (Node σ) :=
  { state := { t with device := device }
    args0 := packet.args0, args1 := packet.args1, args2 := packet.args2, args3 := packet.args3
    retExVal := packet.retExVal
    buffer := fresh }

/-- What a handler leaves after a call of the runtime that fills the response buffer. -/
def leaveFilled {n : Nat} (x : σ × Except CudaError (Block n)) (packet : CudaPacket) :
    Outcome (Node σ) :=
  { leave fresh t x.1 (withErr packet (errOf x.2)) with
    buffer := match x.2 with
      | .ok bs => fill fresh bs.val
      | .error _ => fresh }

/-- `nvbackCudaGetDeviceCount_srv`. -/
def nvbackCudaGetDeviceCountSrv : Outcome (Node σ) :=
  let (device, r) := R.cudaGetDeviceCount t.device
  leave fresh t device { withErr packet (errOf r) with
    args0 := { packet.args0 with word0 := .ofInt (devCountOf r).toInt } }

/-- `nvbackCudaGetDeviceProperties_srv`. -/
def nvbackCudaGetDevicePropertiesSrv : Outcome (Node σ) :=
  leaveFilled fresh t (R.cudaGetDeviceProperties t.device (asInt packet.args1.word0.toNat)) packet

/-- `nvbackCudaSetDevice_srv`, without a scheduler. -/
def nvbackCudaSetDeviceSrv : Outcome (Node σ) :=
  let (device, r) := R.cudaSetDevice t.device (asInt packet.args0.word0.toNat)
  leave fresh t device (withErr packet (errOf r))

/-- `nvbackCudaMalloc_srv`. -/
def nvbackCudaMallocSrv : Outcome (Node σ) :=
  let (device, r) := R.cudaMalloc t.device packet.args1.word0
  leave fresh t device { withErr packet (errOf r) with
    args0 := { packet.args0 with word0 := argpOf r } }

/-- `nvbackCudaFree_srv`. -/
def nvbackCudaFreeSrv : Outcome (Node σ) :=
  let (device, r) := R.cudaFree t.device packet.args0.word0
  leave fresh t device (withErr packet (errOf r))

/-- `nvbackCudaSetupArgument_srv`, for a request with data. Its debug output, which reads eight
bytes of the data whatever the size is, is left out. -/
def nvbackCudaSetupArgumentSrv : Outcome (Node σ) :=
  let (device, r) :=
    R.cudaSetupArgument t.device conn.pReqBuffer packet.args1.word0 packet.args2.word0
  leave fresh t device (withErr packet (errOf r))

/-- `nvbackCudaConfigureCall_srv`. -/
def nvbackCudaConfigureCallSrv : Outcome (Node σ) :=
  let (device, r) := R.cudaConfigureCall t.device (argDim packet.args0) (argDim packet.args1)
    packet.args2.word0 packet.args3.word0
  leave fresh t device (withErr packet (errOf r))

/-- The function that `nvbackCudaLaunch_srv` finds. -/
def foundFunction (infos : List FatcubinInfo) (arg : UInt64) : Option RegFuncArgs :=
  match launchSearch (some infos) arg.toNat with
  | .ok found => found
  | .error _ => none

/-- `nvbackCudaLaunch_srv`: `cudaErrorLaunchFailure` where there is no such function. -/
def nvbackCudaLaunchSrv : Outcome (Node σ) :=
  match foundFunction t.fatCInfoArr packet.args0.word0 with
  | none => leave fresh t t.device (withErr packet 4)
  | some f =>
    let (device, r) := R.cudaLaunch t.device f
    leave fresh t device (withErr packet (errOf r))

/-- `nvbackCudaMemcpy_srv`. The kind that the runtime gets is the one by which the wrapper has
chosen the method. -/
def nvbackCudaMemcpySrv : Outcome (Node σ) :=
  match MethodId.ofCode packet.methodId with
  | some .cudaMemcpyH2D =>
    let packet := { packet with args1 := { packet.args1 with word0 := addr } }
    let (device, r) := R.cudaMemcpyHostToDevice t.device packet.args0.word0 conn.pReqBuffer
      packet.args2.word0
    leave fresh t device (withErr packet (errOf r))
  | some .cudaMemcpyD2H =>
    let packet := { packet with args0 := { packet.args0 with word0 := addr } }
    leaveFilled fresh t
      (R.cudaMemcpyDeviceToHost t.device packet.args1.word0 packet.args2.word0) packet
  | _ =>
    let (device, r) := R.cudaMemcpyDeviceToDevice t.device packet.args0.word0 packet.args1.word0
      packet.args2.word0
    leave fresh t device (withErr packet (errOf r))

/-- `nvbackCudaThreadSynchronize_srv`. -/
def nvbackCudaThreadSynchronizeSrv : Outcome (Node σ) :=
  let (device, r) := R.cudaThreadSynchronize t.device
  leave fresh t device (withErr packet (errOf r))

/-- `nvbackCudaThreadExit_srv`. -/
def nvbackCudaThreadExitSrv : Outcome (Node σ) :=
  let (device, r) := R.cudaThreadExit t.device
  leave fresh t device (withErr packet (errOf r))

/-- The variable that the handlers of symbols find. -/
def foundVariable (infos : List FatcubinInfo) (hostVar : UInt64) : Option RegVarArgs :=
  (gFciaHostVar (some infos) hostVar.toNat).bind fun (p, idx) => p.regVars[idx]?

/-- `nvbackCudaMemcpyToSymbol_srv`, in the direction that it has: `cudaErrorInvalidSymbol` where
there is no such variable. -/
def nvbackCudaMemcpyToSymbolSrv : Outcome (Node σ) :=
  let packet := { packet with args1 := { packet.args1 with word0 := addr } }
  match foundVariable t.fatCInfoArr packet.args0.word0 with
  | none => leave fresh t t.device (withErr packet 13)
  | some v =>
    let (device, r) := R.cudaMemcpyToSymbol t.device v conn.pReqBuffer packet.args2.word0
      packet.args2.word1
    leave fresh t device (withErr packet (errOf r))

/-- `nvbackCudaMemcpyFromSymbol_srv`, in the direction that it has. -/
def nvbackCudaMemcpyFromSymbolSrv : Outcome (Node σ) :=
  let packet := { packet with args1 := { packet.args1 with word0 := addr } }
  match foundVariable t.fatCInfoArr packet.args0.word0 with
  | none => leave fresh t t.device (withErr packet 13)
  | some v =>
    leaveFilled fresh t
      (R.cudaMemcpyFromSymbol t.device v packet.args2.word0 packet.args2.word1) packet

/-- A backend process of the build without the pager, with the block that its buffers are in and
what a fresh one holds. The handlers of the registrations and of the global scheduler are a
parameter. -/
def directBackend (vmapTable kmapTable : UInt64)
    (others : Srv → Node σ → CudaPacket → Conn → Outcome (Node σ)) : Backend (Node σ) where
  vmapTable := vmapTable
  kmapTable := kmapTable
  work srv t packet conn :=
    match srv with
    | .nvbackCudaMalloc => nvbackCudaMallocSrv R fresh t packet
    | .nvbackCudaGetDeviceCount => nvbackCudaGetDeviceCountSrv R fresh t packet
    | .nvbackCudaGetDeviceProperties => nvbackCudaGetDevicePropertiesSrv R fresh t packet
    | .nvbackCudaSetDevice => nvbackCudaSetDeviceSrv R fresh t packet
    | .nvbackCudaFree => nvbackCudaFreeSrv R fresh t packet
    | .nvbackCudaSetupArgument => nvbackCudaSetupArgumentSrv R fresh t packet conn
    | .nvbackCudaConfigureCall => nvbackCudaConfigureCallSrv R fresh t packet
    | .nvbackCudaLaunch => nvbackCudaLaunchSrv R fresh t packet
    | .nvbackCudaMemcpy => nvbackCudaMemcpySrv R fresh addr t packet conn
    | .nvbackCudaMemcpyToSymbol => nvbackCudaMemcpyToSymbolSrv R fresh addr t packet conn
    | .nvbackCudaMemcpyFromSymbol => nvbackCudaMemcpyFromSymbolSrv R fresh addr t packet
    | .nvbackCudaThreadSynchronize => nvbackCudaThreadSynchronizeSrv R fresh t packet
    | .nvbackCudaThreadExit => nvbackCudaThreadExitSrv R fresh t packet
    | .nvbackCudaGetDevice | .nvbackCudaRegisterFatBinary | .nvbackCudaRegisterFatBinary2
    | .nvbackCudaRegisterFunction | .nvbackCudaRegisterVar | .nvbackCudaUnregisterFatBinary =>
      others srv t packet conn

end

end GpuVirtmem.Backend.Direct
