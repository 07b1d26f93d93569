import GpuVirtmem.Lib.CString
import GpuVirtmem.Lib.LittleEndian
import GpuVirtmem.VirtMem.MemMap

/-!
# The kernel map and the launch (`virtmem/cuda_vmem.c`)

A kernel object records the client's `cudaConfigureCall`, `cudaSetupArgument` and `cudaLaunch`
calls; `gvirt_cuda_launch_index` is meant to replay them. The argument nodes are heap blocks, here a
list that grows; a node's address is its position in it. `none` is a C function that leaves a block.

Three things are as the source has them and not as one would expect. `kmap_add_arg` stores the word
that its argument points to, whatever the size of the argument is. `kmap_add_kernel` copies
`sizeof(*kfun)` bytes of the kernel's name, and that is one. And the launch loop makes a call for
the node at hand without going on to the next: it is given rounds (`fuel`) because it does not end
by itself.
-/

namespace GpuVirtmem.VirtMem

open Lib

/-- `dim3`. -/
structure Dim3 where
  x : Nat
  y : Nat
  z : Nat
  deriving DecidableEq, Repr

/-- `struct kernel_arg_node`. `arg` is the word its `arg` points to. -/
structure KernelArgNode where
  arg : Nat
  size : Nat
  offset : Nat
  memMapIndex : Int
  next : Option Nat

/-- `struct kmap_node`. -/
structure KmapNode where
  valid : Bool
  launchPending : Bool
  gridDim : Dim3
  blockDim : Dim3
  sharedMem : Nat
  stream : Nat
  head : Option Nat
  tail : Option Nat
  func : Option Bytes

/-- `struct kmap`, with the heap blocks of its argument nodes. -/
structure Kmap where
  kobjects : List KmapNode
  index : Nat
  heap : List KernelArgNode

/-- `MAX_KERNELS`. -/
def maxKernels : Nat := 10000

/-- `kmap_init`, on the block it has allocated. -/
def kmapInit (kobjects : List KmapNode) : Option Kmap :=
  if maxKernels ≤ kobjects.length then
    some
      { kobjects := (kobjects.take maxKernels).map (fun node =>
          { node with valid := false, launchPending := false, head := none, tail := none }) ++
            kobjects.drop maxKernels
        index := 0
        heap := [] }
  else none

/-- `kmap_add_config`. -/
def kmapAddConfig (table : Kmap) (gridDim blockDim : Dim3) (sharedMem stream : Nat) :
    Option Kmap :=
  (table.kobjects[table.index]?).map fun obj =>
    { table with
      kobjects := table.kobjects.set table.index
        { obj with gridDim := gridDim, blockDim := blockDim, sharedMem := sharedMem,
                   stream := stream } }

/-- `*((char **) arg)`: the eight bytes at `arg`. -/
def readWord (arg : Bytes) : Option Nat :=
  if 8 ≤ arg.length then some (decodeLE (arg.take 8)) else none

/-- `kmap_add_arg`. -/
def kmapAddArg (table : Kmap) (arg : Bytes) (size offset : Nat) (vindex : Int) : Option Kmap :=
  (readWord arg).bind fun word =>
  (table.kobjects[table.index]?).bind fun obj =>
    let addr := table.heap.length
    let node : KernelArgNode :=
      { arg := word, size := size, offset := offset, memMapIndex := vindex, next := none }
    if obj.head = none ∧ obj.tail = none then
      some { table with
        heap := table.heap ++ [node]
        kobjects := table.kobjects.set table.index
          { obj with head := some addr, tail := some addr } }
    else
      obj.tail.bind fun last =>
      (table.heap[last]?).map fun lastNode =>
        { table with
          heap := table.heap.set last { lastNode with next := some addr } ++ [node]
          kobjects := table.kobjects.set table.index { obj with tail := some addr } }

/-- `kmap_add_kernel` on the memory at `kfun`. The copy is of `sizeof(*kfun)`, one byte. -/
def kmapAddKernel (table : Kmap) (kfun : Bytes) : Option (Kmap × Nat) :=
  (table.kobjects[table.index]?).bind fun obj =>
  (memcpy [0] kfun 1).map fun func =>
    ({ table with
       kobjects := table.kobjects.set table.index
         { obj with func := some func, valid := true, launchPending := true }
       index := table.index + 1 }, table.index)

/-- The calls a launch makes to the CUDA runtime. The entry of a `cudaLaunch` is the string it is
given, where one ends within its block. -/
inductive CudaCall
  | configureCall (gridDim blockDim : Dim3) (sharedMem stream : Nat)
  | setupArgument (value size offset : Nat)
  | launch (entry : Option CString)
  deriving DecidableEq

/-- One round of the launch loop: the call for the argument, and the counted use of its row. -/
def launchArg (mtab : List MemMap) (iter : KernelArgNode) : Option (List MemMap × CudaCall) :=
  if 0 ≤ iter.memMapIndex then
    (mtab[iter.memMapIndex.toNat]?).map fun row =>
      (mtab.set iter.memMapIndex.toNat { row with freq := row.freq + 1 },
        .setupArgument row.actualDevptr iter.size iter.offset)
  else some (mtab, .setupArgument iter.arg iter.size iter.offset)

/-- How far a launch got within the rounds it was given. -/
inductive LaunchOutcome
  | outOfFuel
  | fault
  | returned (mtab : List MemMap) (calls : List CudaCall)

/-- The launch loop from the node at `iter`. No round moves `iter` on. -/
def launchLoop (heap : List KernelArgNode) (func : Option Bytes) (iter : Option Nat) :
    Nat → List MemMap → List CudaCall → LaunchOutcome
  | 0, _, _ => .outOfFuel
  | fuel + 1, mtab, calls =>
    match iter with
    | none => .returned mtab (calls ++ [.launch (func.bind CString.read)])
    | some a =>
      match (heap[a]?).bind (launchArg mtab) with
      | some (mtab, call) => launchLoop heap func iter fuel mtab (calls ++ [call])
      | none => .fault

/-- `gvirt_cuda_launch_index`, for at most `fuel` tests of its loop. -/
def gvirtCudaLaunchIndex (fuel : Nat) (ktab : Kmap) (index : Nat) (mtab : List MemMap) :
    LaunchOutcome :=
  match ktab.kobjects[index]? with
  | some node =>
    launchLoop ktab.heap node.func node.head fuel mtab
      [.configureCall node.gridDim node.blockDim node.sharedMem node.stream]
  | none => .fault

end GpuVirtmem.VirtMem
