import GpuVirtmem.VirtMem.Device

/-!
# The memory map (`virtmem/cuda_vmem.c`, `virtmem/cuda_vmem.h`)

One row for each device allocation of the machine: its handle, its device block while it has one,
and its swap buffer on the host. A C function that leaves the table, dereferences NULL or copies
outside a block has no result here (`none`); everything else is computed as the source computes it.
`table[i]` is row `i`.

The functions are those of the source one by one, and each keeps the order of the source's own tests
and writes. `mem_map_creat` ends by assigning the row's address to its own copy of the parameter and
not to the caller's pointer, so that nothing of this is left in the model. The error that
`cudaMemcpy` returns in `mem_map_memcpy` is dropped by the source, and so it is here: `fetch` on a
pointer that is not live leaves the row alone and goes on.

Host `malloc` succeeds; what a fresh host block happens to contain is a parameter.
-/

namespace GpuVirtmem.VirtMem

open Lib

/-- `enum vmem_status`. -/
inductive VmemStatus
  | dNoalloc | dInit | dReady | dModified | dMemwait | dDeferred
  deriving DecidableEq, Repr

/-- The statuses whose legend says that device memory is allocated. -/
def VmemStatus.resident : VmemStatus → Bool
  | .dInit | .dReady | .dModified => true
  | .dNoalloc | .dMemwait | .dDeferred => false

/-- `struct mem_map`. -/
structure MemMap where
  valid : Bool
  handle : Nat
  actualDevptr : DevPtr
  swap : Option Bytes
  size : Nat
  status : VmemStatus
  pid : Nat
  freq : Nat

/-- The shared table, and the device memory its rows point into. -/
structure Vmem where
  table : List MemMap
  device : Device

/-- The copy methods of `enum METHOD_ID` that `mem_map_memcpy` switches on. -/
inductive CopyType
  | h2d | d2h
  deriving DecidableEq, Repr

/-- The row `mem_map_init` writes at index `i`; the process that calls it is `pid`. -/
def initRow (pid i : Nat) : MemMap :=
  { valid := false, handle := i, actualDevptr := NULL, swap := none, size := 0,
    status := .dNoalloc, pid := pid, freq := 0 }

/-- `mem_map_init`. -/
def memMapInit (table : List MemMap) (size pid : Nat) : Option (List MemMap) :=
  if size ≤ table.length then some ((List.range size).map (initRow pid) ++ table.drop size)
  else none

/-- The row and the device after the allocation at the head of `mem_map_creat`. -/
def MemMap.allocate (node : MemMap) (d : Device) : Option Grant → MemMap × Device
  | some g => ({ node with actualDevptr := g.ptr, status := .dInit }, d.cudaMalloc g)
  | none => ({ node with status := .dNoalloc, actualDevptr := NULL }, d)

/-- `mem_map_creat`, with the driver's answer and the new swap block.

The source ends by storing the address of the row's handle through `devptr`, after it has pointed
`devptr`, its own copy of the argument, at a fresh cell: the caller's pointer is not written. -/
def memMapCreat (s : Vmem) (size index : Nat) (dev : Option Grant) (swap : Bytes) : Option Vmem :=
  (s.table[index]?).map fun node =>
    let (node, device) := node.allocate s.device dev
    { table := s.table.set index { node with swap := some swap, size := size, valid := true },
      device := device }

/-- `mem_map_delete`. -/
def memMapDelete (s : Vmem) (index : Nat) : Option Vmem :=
  (s.table[index]?).map fun node =>
    { table := s.table.set index
        { node with actualDevptr := NULL, swap := none, size := 0, status := .dNoalloc,
                    valid := false },
      device := if node.actualDevptr ≠ NULL then s.device.cudaFree node.actualDevptr
        else s.device }

/-- A `size` argument of type `int`, as `memcpy` takes it: a negative one is past every block. -/
def copySize (size : Int) : Option Nat := if 0 ≤ size then some size.toNat else none

/-- `memcpy(swap, src, n)`; through a NULL `swap` nothing can be copied. -/
def writeSwap (swap : Option Bytes) (src : Bytes) (n : Nat) : Option (Option Bytes) :=
  match swap with
  | some sw => (memcpy sw src n).map some
  | none => if n = 0 then some none else none

/-- `memcpy(dest, swap, n)`. -/
def readSwap (dest : Bytes) (swap : Option Bytes) (n : Nat) : Option Bytes :=
  memcpy dest (swap.getD []) n

/-- `cudaMemcpy(node->swap, node->actual_devptr, n, cudaMemcpyDeviceToHost)`, its result unchecked:
an error leaves the swap buffer as it is. -/
def MemMap.fetch (node : MemMap) (d : Device) (n : Nat) : Option MemMap :=
  match d.cudaMemcpyDtoH node.actualDevptr n with
  | some bs => (writeSwap node.swap bs n).map fun sw => { node with swap := sw }
  | none => some node

/-- The `CUDA_MEMCPY_H2D` arm of `mem_map_memcpy`. -/
def MemMap.copyIn (node : MemMap) (d : Device) (src : Bytes) (n : Nat) :
    Option (MemMap × Device) :=
  (writeSwap node.swap src n).map fun sw =>
    let node := { node with swap := sw }
    match node.status with
    | .dInit | .dReady | .dModified =>
      ({ node with status := .dReady }, d.cudaMemcpyHtoD node.actualDevptr (sw.getD []) n)
    | .dNoalloc | .dMemwait => ({ node with status := .dMemwait }, d)
    | .dDeferred => ({ node with status := .dDeferred }, d)

/-- The `CUDA_MEMCPY_D2H` arm of `mem_map_memcpy`, with the host buffer it fills. -/
def MemMap.copyOut (node : MemMap) (d : Device) (dest : Bytes) (n : Nat) :
    Option (MemMap × Bytes) :=
  match node.status with
  | .dNoalloc | .dInit => some (node, dest)
  | .dReady | .dModified =>
    (node.fetch d n).bind fun node =>
      (readSwap dest node.swap n).map fun out => ({ node with status := .dReady }, out)
  | .dMemwait => (readSwap dest node.swap n).map fun out => ({ node with status := .dMemwait }, out)
  | .dDeferred =>
    (readSwap dest node.swap n).map fun out => ({ node with status := .dDeferred }, out)

/-- The bytes of a copy from the row. Where the row has no data nothing is copied, whatever the size
is; elsewhere it goes to `memcpy`. -/
def MemMap.outSize (node : MemMap) (size : Int) : Option Nat :=
  match node.status with
  | .dNoalloc | .dInit => some size.toNat
  | .dReady | .dModified | .dMemwait | .dDeferred => copySize size

/-- `mem_map_memcpy`. `src` is what the source address holds on a copy to the device, `dest` what
the destination holds on a copy from it; the answer is the new state and the destination. -/
def memMapMemcpy (s : Vmem) (index : Nat) (dest src : Bytes) (size : Int) :
    CopyType → Option (Vmem × Bytes)
  | .h2d =>
    (s.table[index]?).bind fun node =>
    (copySize size).bind fun n =>
    (node.copyIn s.device src n).map fun (node, device) =>
      ({ table := s.table.set index node, device := device }, dest)
  | .d2h =>
    (s.table[index]?).bind fun node =>
    (node.outSize size).bind fun n =>
    (node.copyOut s.device dest n).map fun (node, out) =>
      ({ s with table := s.table.set index node }, out)

/-- A size that `memcpy` can take is the number that it says. -/
theorem copySize_eq_some {size : Int} {n : Nat} (h : copySize size = some n) :
    0 ≤ size ∧ n = size.toNat := by
  unfold copySize at h
  split at h
  · next h0 =>
    cases h
    exact ⟨h0, rfl⟩
  · cases h

/-- A size that is not negative is taken as it is. -/
theorem copySize_of_nonneg {size : Int} (h : 0 ≤ size) : copySize size = some size.toNat := if_pos h

/-- A size that is not negative is that of the copy, whatever the row holds. -/
theorem MemMap.outSize_of_nonneg (node : MemMap) {size : Int} (h : 0 ≤ size) :
    node.outSize size = some size.toNat := by
  unfold outSize
  split
  · rfl
  · rfl
  · exact copySize_of_nonneg h
  · exact copySize_of_nonneg h
  · exact copySize_of_nonneg h
  · exact copySize_of_nonneg h

/-- The size of a copy from the row that has a result. For a row without data there is one at every
size, and nothing is copied at any of them. -/
theorem MemMap.outSize_eq_some {node : MemMap} {size : Int} {n : Nat}
    (h : node.outSize size = some n) : n = size.toNat := by
  unfold outSize at h
  split at h
  · exact (Option.some.inj h).symm
  · exact (Option.some.inj h).symm
  · exact (copySize_eq_some h).2
  · exact (copySize_eq_some h).2
  · exact (copySize_eq_some h).2
  · exact (copySize_eq_some h).2

end GpuVirtmem.VirtMem
