import GpuVirtmem.Backend.Processes
import GpuVirtmem.Remote.Exchange

/-!
# Copies (`remote/remote_api_wrapper.c`, `virtmem/cuda_vmem.c`)

In the build with `PAGER` the handler of a copy looks up the row whose handle is on the device side,
and copies to it or from it. A row that it has not found, or that is too small, is used all the
same.

The sizes pass through three types on their way, `size_t` in the request, `int` in the handler and
`size_t` again in `memcpy`. Where they are of interest they are therefore kept as numbers with a
sign, and `copyCount_of_assert` says when the conversions lose nothing.
-/

namespace GpuVirtmem.Backend

open Lib Remote Interposer VirtMem

/-- The contents of a fresh host block. -/
abbrev FreshBlock := (n : Nat) → { bs : Bytes // bs.length = n }

/-- `malloc(size)` for a `size` of type `int`, where the heap may have no room for any size; a
negative one is more than there ever is. -/
def mallocInt (fresh : FreshBlock) (mallocs : Bool) (size : Int) : Option Bytes :=
  if mallocs = true ∧ 0 ≤ size then some (fresh size.toNat).val else none

/-- `mem_map_memcpy` on the row in `vmapped_local_arr[id]`; there is none at -1. -/
def memcpyAt (s : BackendState) (id : Option Nat) (dest src : Bytes) (size : Int)
    (type : CopyType) : Option (BackendState × Bytes) :=
  id.bind fun id =>
  (s.vmappedLocalArr[id]?).bind fun index =>
  (memMapMemcpy s.vmem index.toNat dest src size type).map fun (vmem, out) =>
    ({ s with vmem := vmem }, out)

/-- `nvbackCudaMemcpy_srv`, with the address and the contents of the block that it may allocate, and
whether `malloc` has room for it. Where an assertion fails, and where `vmapped_local_arr` is read
outside, there is no result; on `CUDA_MEMCPY_D2D` it is read at an `id` that is not set. -/
def nvbackCudaMemcpySrv (table : Nat) (addr : UInt64) (fresh : FreshBlock) (mallocs : Bool)
    (packet : CudaPacket) (conn : Conn) (s : BackendState) :
    Option (BackendState × CudaPacket × Conn × Status) :=
  match MethodId.ofCode packet.methodId with
  | some .cudaMemcpyH2H => some (s, packet, conn, .error)
  | some .cudaMemcpyH2D =>
    if conn.requestDataSize = packet.args2.argi then
      let packet := { packet with args1 := ⟨addr, 0⟩ }
      (memcpyAt s (memMapFindEntry table s.vmappedLocalArr packet.args0.argp) [] conn.pReqBuffer
        (asInt packet.args2.word0.toNat) .h2d).map fun (s, _) => (s, setSuccess packet, conn, .ok)
    else none
  | some .cudaMemcpyD2H =>
    if conn.pRspBuffer = none then
      let conn := { conn with responseDataSize := asInt packet.args2.word0.toNat }
      match mallocInt fresh mallocs conn.responseDataSize with
      | none => some (s, packet, conn, .error)
      | some buffer =>
        let packet := { packet with args0 := ⟨addr, 0⟩ }
        (memcpyAt s (memMapFindEntry table s.vmappedLocalArr packet.args1.argp) buffer []
          (asInt packet.args2.word0.toNat) .d2h).map fun (s, out) =>
            (s, setSuccess packet, { conn with pRspBuffer := some out }, .ok)
    else none
  | _ => none

/-- The pointer is the handle of an allocation of process `k` that has room for `n` bytes. -/
def Fits (table : Nat) (m : Processes) (k p n : Nat) : Prop :=
  ∃ i row, LiveRow m k i ∧ p = handleAddr table i ∧ m.vmem.table[i]? = some row ∧ n ≤ row.size

section

variable {table : Nat} {s b : BackendState} {p i n : Nat} {dest src out : Bytes} {size : Int}
  {type : CopyType} {vmem vmem' : Vmem} {row : MemMap} {packet : CudaPacket} {m m₀ : Processes}
  {k : Nat} {conn : Conn} {addr : UInt64} {fresh : FreshBlock} {mallocs : Bool}

/-- The row that is copied to or from is a listed one with the handle. -/
theorem memcpyAt_eq_some_iff :
    memcpyAt s (memMapFindEntry table s.vmappedLocalArr p) dest src size type = some (b, out) ↔
      ∃ (i : Nat) (vmem : Vmem), (i : Int) ∈ s.vmappedLocalArr ∧ p = handleAddr table i ∧
        memMapMemcpy s.vmem i dest src size type = some (vmem, out) ∧
        b = { s with vmem := vmem } := by
  constructor
  · intro h
    obtain ⟨id, hfind, h⟩ := Option.bind_eq_some_iff.mp h
    obtain ⟨index, hindex, h⟩ := Option.bind_eq_some_iff.mp h
    obtain ⟨⟨vmem, out'⟩, hcopy, heq⟩ := Option.map_eq_some_iff.mp h
    cases heq
    obtain ⟨i, hi, hp⟩ := memMapFindEntry_some hfind
    obtain rfl : index = i := Option.some.inj (hindex.symm.trans hi)
    exact ⟨i, vmem, List.mem_of_getElem? hi, hp, hcopy, rfl⟩
  · rintro ⟨i, vmem, hmem, rfl, hcopy, rfl⟩
    obtain ⟨id, hfind, hid⟩ := @memMapFindEntry_of_mem table _ _ hmem
    simp [memcpyAt, hfind, hid, hcopy]

/-- A copy to a row with a swap buffer of its size is made if the data is there and fits. -/
theorem memMapMemcpy_h2d_isSome (hrow : vmem.table[i]? = some row) (hsized : SwapSized row)
    (dest : Bytes) :
    (memMapMemcpy vmem i dest src n .h2d).isSome ↔ n ≤ row.size ∧ n ≤ src.length := by
  constructor
  · intro h
    obtain ⟨⟨vmem', out⟩, h⟩ := Option.isSome_iff_exists.mp h
    obtain ⟨node, node', d', hnode, -, hcopy, -, -⟩ := memMapMemcpy_h2d_cases h
    cases hrow.symm.trans hnode
    obtain ⟨sw, hw, -⟩ := copyIn_cases hcopy
    obtain ⟨old, hold, hlen⟩ := hsized
    rw [hold] at hw
    obtain ⟨hsrc, hdst, -⟩ := writeSwap_eq_some hw
    rw [Int.toNat_natCast] at hsrc hdst
    exact ⟨Nat.le_trans hdst (Nat.le_of_eq hlen), hsrc⟩
  · rintro ⟨hle, hsrc⟩
    obtain ⟨node', d', hcopy⟩ := copyIn_exists (d := vmem.device) hsized hle hsrc
    simp [memMapMemcpy, hrow, copySize, hcopy]

/-- A copy fills a buffer without changing its length. -/
theorem memMapMemcpy_d2h_length
    (h : memMapMemcpy vmem i dest src size .d2h = some (vmem', out)) :
    out.length = dest.length := by
  obtain ⟨node, node', hnode, hcopy, -⟩ := memMapMemcpy_d2h_cases h
  obtain ⟨-, -, rfl⟩ | ⟨-, up, -, hread, -⟩ | ⟨-, hread, -⟩ := copyOut_cases hcopy
  · rfl
  · obtain ⟨hs, hd, rfl⟩ := memcpy_eq_some hread
    exact overwrite_length hs hd
  · obtain ⟨hs, hd, rfl⟩ := memcpy_eq_some hread
    exact overwrite_length hs hd

/-! ## Each direction -/

/-- An `int` has the lower half of a `size_t`, with a sign. -/
theorem asInt_eq (n : Nat) :
    asInt n = if n % 2 ^ 32 < 2 ^ 31 then (n % 2 ^ 32 : Int) else (n % 2 ^ 32 : Int) - 2 ^ 32 := by
  rw [asInt, BitVec.toInt_eq_toNat_cond, BitVec.toNat_ofNat]
  split <;> split <;> omega

/-- Where the processes' lists are sound, the row that is found is one that is in use. -/
theorem Shared.memcpyAt_iff (h : Shared m) :
    memcpyAt (m.view k) (memMapFindEntry table (m.view k).vmappedLocalArr p) dest src size type =
        some (b, out) ↔
      ∃ (i : Nat) (vmem : Vmem), LiveRow m k i ∧ p = handleAddr table i ∧
        memMapMemcpy m.vmem i dest src size type = some (vmem, out) ∧
        b = { m.view k with vmem := vmem } := by
  rw [memcpyAt_eq_some_iff]
  refine exists_congr fun i => exists_congr fun vmem => and_congr_left fun _ => ?_
  exact (h.lists k).listed i

end

end GpuVirtmem.Backend
