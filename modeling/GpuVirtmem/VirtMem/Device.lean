import GpuVirtmem.Lib.Bytes
import Mathlib.Logic.Function.Basic

/-!
# Device memory, as the CUDA runtime serves it

The driver is outside the repository; what the virtual memory system uses of it is a heap of live
blocks and four calls. Whether a `cudaMalloc` succeeds, where it puts the block and what the new
block happens to contain is the driver's choice, so a call takes the driver's answer (`Grant`), and
`Device.Admits` says which answers a driver may give: an error, or a block of the requested size at
a fresh address that is not NULL.

The calls return no error codes here, since the callers of this system do not look at them: a failed
copy is one that changes nothing. Whether a call succeeded is visible only in the blocks. A frame
lemma for each call (`cudaFree_other` and its like) says that it has an effect on one block at most;
the laws about rows are made from these.
-/

namespace GpuVirtmem.VirtMem

open Lib

/-- A device address. -/
abbrev DevPtr := Nat

/-- The null device address. -/
abbrev NULL : DevPtr := 0

/-- The live device allocations, by their address. -/
structure Device where
  blocks : DevPtr → Option Bytes

/-- The block a successful `cudaMalloc` hands out, with whatever it happens to contain. -/
structure Grant where
  ptr : DevPtr
  bytes : Bytes

namespace Device

/-- The answers a driver may give to `cudaMalloc(p, size)`: an error, or a fresh block. -/
def Admits (d : Device) (size : Nat) : Option Grant → Prop
  | none => True
  | some g => g.ptr ≠ NULL ∧ d.blocks g.ptr = none ∧ g.bytes.length = size

/-- `cudaMalloc`, when the driver grants the block. -/
def cudaMalloc (d : Device) (g : Grant) : Device :=
  ⟨Function.update d.blocks g.ptr (some g.bytes)⟩

/-- `cudaFree`: the block is gone. On NULL, or on an address that is not live, nothing happens. -/
def cudaFree (d : Device) (p : DevPtr) : Device := ⟨Function.update d.blocks p none⟩

/-- `cudaMemcpy(p, src, n, cudaMemcpyHostToDevice)` with `n` readable host bytes: an error that
changes nothing when `p` is not a live block of `n` bytes. -/
def cudaMemcpyHtoD (d : Device) (p : DevPtr) (src : Bytes) (n : Nat) : Device :=
  match d.blocks p with
  | some bs => if n ≤ bs.length then ⟨Function.update d.blocks p (some (overwrite bs src n))⟩ else d
  | none => d

/-- `cudaMemcpy(dst, p, n, cudaMemcpyDeviceToHost)` reads `n` bytes of the live block at `p`, or
reports an error. -/
def cudaMemcpyDtoH (d : Device) (p : DevPtr) (n : Nat) : Option Bytes :=
  match d.blocks p with
  | some bs => if n ≤ bs.length then some (bs.take n) else none
  | none => none

/-- The new block is live, with the bytes that the driver happens to hand out. -/
@[simp] theorem cudaMalloc_self (d : Device) (g : Grant) :
    (d.cudaMalloc g).blocks g.ptr = some g.bytes := Function.update_self ..

/-- A freed block is no longer live. -/
@[simp] theorem cudaFree_self (d : Device) (p : DevPtr) : (d.cudaFree p).blocks p = none :=
  Function.update_self ..

/-- An allocation leaves the other blocks alone. -/
theorem cudaMalloc_other (d : Device) (g : Grant) {p : DevPtr} (h : p ≠ g.ptr) :
    (d.cudaMalloc g).blocks p = d.blocks p := Function.update_of_ne h ..

/-- So does a release. -/
theorem cudaFree_other (d : Device) {p q : DevPtr} (h : q ≠ p) :
    (d.cudaFree p).blocks q = d.blocks q := Function.update_of_ne h ..

/-- And so does a copy to the device, whether it succeeds or is an error. -/
theorem cudaMemcpyHtoD_other (d : Device) {p q : DevPtr} (src : Bytes) (n : Nat) (h : q ≠ p) :
    (d.cudaMemcpyHtoD p src n).blocks q = d.blocks q := by
  unfold cudaMemcpyHtoD
  split
  · split
    · exact Function.update_of_ne h ..
    · rfl
  · rfl

/-- A copy to a live block that is long enough overwrites its prefix. -/
theorem cudaMemcpyHtoD_self (d : Device) {p : DevPtr} {bs : Bytes} (src : Bytes) {n : Nat}
    (hp : d.blocks p = some bs) (hn : n ≤ bs.length) :
    (d.cudaMemcpyHtoD p src n).blocks p = some (overwrite bs src n) := by
  unfold cudaMemcpyHtoD
  rw [hp]
  dsimp only
  rw [if_pos hn]
  exact Function.update_self ..

/-- A copy to the device neither makes nor drops a block, and keeps every block's length. It is all
that is known of a copy whose destination came out of an unchecked allocation. -/
theorem cudaMemcpyHtoD_length (d : Device) (p q : DevPtr) {src : Bytes} {n : Nat}
    (hs : n ≤ src.length) :
    ((d.cudaMemcpyHtoD p src n).blocks q).map List.length = (d.blocks q).map List.length := by
  by_cases hq : q = p
  · subst hq
    unfold cudaMemcpyHtoD
    split
    · next bs hb =>
      split
      · next hn =>
        rw [show (⟨Function.update d.blocks q (some (overwrite bs src n))⟩ : Device).blocks q =
          some (overwrite bs src n) from Function.update_self .., hb]
        simp only [Option.map_some, overwrite_length hs hn]
      · rfl
    · rfl
  · rw [cudaMemcpyHtoD_other d src n hq]

/-- A copy of no bytes changes nothing, also where its destination is no live block: there it is an
error, and errors are ignored. -/
theorem cudaMemcpyHtoD_zero (d : Device) (p : DevPtr) (src : Bytes) :
    d.cudaMemcpyHtoD p src 0 = d := by
  unfold cudaMemcpyHtoD
  split
  · next bs hb =>
    rw [if_pos (Nat.zero_le _), show overwrite bs src 0 = bs from rfl, ← hb,
      Function.update_eq_self]
  · rfl

/-- A copy from a live block that is long enough delivers the front of the block. -/
theorem cudaMemcpyDtoH_of_live (d : Device) {p : DevPtr} {bs : Bytes} {n : Nat}
    (hp : d.blocks p = some bs) (hn : n ≤ bs.length) :
    d.cudaMemcpyDtoH p n = some (bs.take n) := by
  unfold cudaMemcpyDtoH
  rw [hp]
  exact if_pos hn

end Device

end GpuVirtmem.VirtMem
