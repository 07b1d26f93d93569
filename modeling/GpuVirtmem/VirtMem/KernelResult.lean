import GpuVirtmem.VirtMem.Holding
import GpuVirtmem.VirtMem.KernelMap

/-!
# What a kernel computed, and what the host gets

A launch counts the uses of its rows and lets a kernel write their blocks; it does not touch their
status. A row that held data before the launch is read back from its block, as it must be. A row
that was only allocated is still `D_INIT` after it, and neither copies nor page-outs look at its
block.

The kernel is unknown here: it may leave anything in the live blocks, and that is what a later copy
from the row has to deliver. Its own definition is not needed, and neither is the launch loop's end,
since the events only say in which order things have happened.

That launches come to happen is not claimed, and `Launch` shows that most of them do not. The result
says what would become of the kernel's output if they did.
-/

namespace GpuVirtmem.VirtMem

open Lib

/-- A kernel may write every live block; it allocates and frees none. -/
def Device.KernelLeaves (d d' : Device) : Prop :=
  ∀ q, (d'.blocks q).map List.length = (d.blocks q).map List.length

/-- The memory map after the rounds of a launch loop that visited the nodes `args`. -/
def replay (mtab : List MemMap) (args : List KernelArgNode) : Option (List MemMap) :=
  args.foldlM (fun mtab iter => (launchArg mtab iter).map Prod.fst) mtab

/-- What changes the table and the device: a call of one of the operations, or a launch. -/
inductive GpuEvent
  | call (op : VmemOp)
  | launch (args : List KernelArgNode)

/-- One event. -/
def GpuStep (s : Vmem) : GpuEvent → Vmem → Prop
  | .call op, s' => VmemStep s op s'
  | .launch args, s' => replay s.table args = some s'.table ∧ s.device.KernelLeaves s'.device

/-- A copy from a row, or a page-out. -/
def ReadBack : VmemOp → Prop
  | .copyOut .. | .pageOut _ => True
  | .creat .. | .delete _ | .copyIn .. | .pageIn .. => False

/-- A row without its use count. -/
def MemMap.uncounted (row : MemMap) : MemMap := { row with freq := 0 }

section

variable {s s' t : Vmem} {d d' : Device} {row row' : MemMap} {mtab mtab' : List MemMap} {i : Nat}

/-- A round of the launch loop counts the use of a row, and does nothing else to the memory map. -/
theorem launchArg_uncounted {iter : KernelArgNode} {call : CudaCall}
    (h : launchArg mtab iter = some (mtab', call)) :
    mtab'.map MemMap.uncounted = mtab.map MemMap.uncounted := by
  unfold launchArg at h
  split at h
  · obtain ⟨row, hrow, he⟩ := Option.map_eq_some_iff.mp h
    cases he
    obtain ⟨hlt, rfl⟩ := List.getElem?_eq_some_iff.mp hrow
    rw [List.map_set]
    exact List.ext_getElem? fun j => by
      by_cases hj : iter.memMapIndex.toNat = j
      · subst hj
        simp [hlt, MemMap.uncounted]
      · rw [List.getElem?_set_ne hj]
  · cases h
    rfl

/-- A launch changes nothing in the memory map but use counts. In particular no row becomes modified
by it. -/
theorem replay_uncounted {args : List KernelArgNode} (h : replay mtab args = some mtab') :
    mtab'.map MemMap.uncounted = mtab.map MemMap.uncounted := by
  refine foldlM_keeps (I := fun m => m.map MemMap.uncounted = mtab.map MemMap.uncounted) ?_ rfl h
  intro iter _ m m' hm hr
  obtain ⟨⟨m'', call⟩, hcall, rfl⟩ := Option.map_eq_some_iff.mp hr
  exact (launchArg_uncounted hcall).trans hm

/-- Two memory maps that agree up to the counts have the same rows up to the counts. -/
theorem uncounted_getElem? (h : mtab'.map MemMap.uncounted = mtab.map MemMap.uncounted)
    (hi : mtab'[i]? = some row') :
    ∃ freq, mtab[i]? = some { row' with freq := freq } := by
  have hmap : (mtab.map MemMap.uncounted)[i]? = some row'.uncounted := by
    rw [← h, List.getElem?_map, hi, Option.map_some]
  rw [List.getElem?_map] at hmap
  obtain ⟨row, hrow, he⟩ := Option.map_eq_some_iff.mp hmap
  refine ⟨row.freq, hrow.trans (congrArg some ?_)⟩
  cases row
  cases row'
  simpa [MemMap.uncounted] using he

/-- The blocks that are live when the kernel starts are live when it ends, and as long. -/
theorem Device.KernelLeaves.live (h : d.KernelLeaves d') {q : DevPtr} {bs : Bytes}
    (hb : d.blocks q = some bs) : ∃ bs', d'.blocks q = some bs' ∧ bs'.length = bs.length := by
  have hl := h q
  rw [hb] at hl
  exact Option.map_eq_some_iff.mp hl

/-- Soundness of a row does not depend on its use count. -/
theorem RowSound.recount {freq : Nat} (h : RowSound d { row with freq := freq }) :
    RowSound d row := ⟨h.block, h.swap, h.unused⟩

/-- Nor on what a kernel has written into the blocks. -/
theorem RowSound.kernelLeaves (hs : RowSound d row) (h : d.KernelLeaves d') : RowSound d' row := by
  refine ⟨?_, hs.swap, hs.unused⟩
  intro hne
  obtain ⟨hv, hr, bs, hb, hl⟩ := hs.block hne
  obtain ⟨bs', hb', hl'⟩ := h.live hb
  exact ⟨hv, hr, bs', hb', hl'.trans hl⟩

/-- A launch keeps the table sound, so that copies and page-outs after it do what they always do.
Whether they do it with the kernel's result is another matter. -/
theorem Sound.launch (hs : Sound s) {args : List KernelArgNode} (h : GpuStep s (.launch args) s') :
    Sound s' := by
  obtain ⟨hreplay, hkernel⟩ := h
  have hsame := replay_uncounted hreplay
  refine ⟨?_, ?_, ?_⟩
  · have hl := hkernel NULL
    rw [hs.null] at hl
    exact Option.map_eq_none_iff.mp hl
  · intro i row' hi
    obtain ⟨freq, hrow⟩ := uncounted_getElem? hsame hi
    exact (hs.rows i _ hrow).recount.kernelLeaves hkernel
  · intro i j row row' hij hi hj he
    obtain ⟨freq, hold⟩ := uncounted_getElem? hsame hi
    obtain ⟨freq', hold'⟩ := uncounted_getElem? hsame hj
    exact hs.apart i j { row with freq := freq } { row' with freq := freq' } hij hold hold' he

/-- Every table that calls and launches lead to is sound. -/
theorem gpu_run_sound {s₀ : Vmem} (h0 : Initialised s₀) {es : List GpuEvent}
    (r : Run GpuStep s₀ es s) : Sound s := by
  refine r.invariant h0.sound ?_
  intro t e u ht hstep
  cases e with
  | call op => exact VmemStep.sound ht hstep
  | launch args => exact ht.launch hstep

/-- A copy from a row or a page-out spares every row. -/
theorem ReadBack.spares {op : VmemOp} (h : ReadBack op) : Spares i op := by
  cases op with
  | copyOut | pageOut => trivial
  | creat | delete | copyIn | pageIn => cases h

/-- These operations change no row's data. -/
theorem readBack_data {ops : List VmemOp} (h : ∀ op ∈ ops, ReadBack op)
    (data : Nat → Contents) : ops.foldl VmemOp.record data = data := by
  induction ops with
  | nil => rfl
  | cons op ops ih =>
    have hop := h op (.head ops)
    rw [List.foldl_cons]
    cases op with
    | copyOut | pageOut => exact ih fun o ho => h o (.tail _ ho)
    | creat | delete | copyIn | pageIn => cases hop

/-- After a launch, a row that held data, or that has no room for any, holds what the kernel left in
its block. The exception is `D_INIT`: there the legend gives no copy of the data, and the host is
served from a status that has none. -/
theorem Holding.launch (hs : Sound s) (hi : s.table[i]? = some row)
    (hp : row.actualDevptr ≠ NULL) {args : List KernelArgNode}
    (hlaunch : GpuStep s (.launch args) s') {left : Bytes}
    (hleft : s'.device.blocks row.actualDevptr = some left)
    (hst : row.status ≠ .dInit ∨ row.size = 0) :
    Holding s'.table.length i row.size (Contents.of left) s' := by
  have hs' := hs.launch hlaunch
  obtain ⟨hv, hr, bs, hb, hl⟩ := (hs.rows i row hi).block hp
  obtain ⟨freq, hi'⟩ := uncounted_getElem? (replay_uncounted hlaunch.1).symm hi
  have hlen : left.length = row.size := by
    obtain ⟨bs', hb', hl'⟩ := hlaunch.2.live hb
    cases hb'.symm.trans hleft
    exact hl'.trans hl
  have hdev : DeviceHolds s'.device { row with freq := freq } (Contents.of left) :=
    ⟨left, hleft, hlen, Contents.of_within left⟩
  refine ⟨hs', rfl, _, hi', hv, rfl, ?_⟩
  unfold Backed
  cases hst' : row.status with
  | dReady | dModified => exact hdev
  | dInit =>
    refine ⟨hdev, ?_⟩
    have hz : row.size = 0 := hst.resolve_left fun hne => hne hst'
    have hnil : left = [] := List.eq_nil_of_length_eq_zero (hlen.trans hz)
    rw [hnil]
    rfl
  | dNoalloc | dMemwait | dDeferred =>
    rw [hst'] at hr
    cases hr

/-- What a kernel left in a row's device memory is what later copies from the row deliver, whatever
page-outs and copies come before, exactly if the row was not just allocated when the kernel was
launched, or is empty.

The launch does not mark the row as modified, and need not, since `D_READY` rows are read back from
the device as well; it is `D_INIT` that no copy reads back. -/
theorem kernel_result_delivered_iff {s₀ : Vmem} (h0 : Initialised s₀) {es : List GpuEvent}
    (r : Run GpuStep s₀ es s) (hi : s.table[i]? = some row) (hp : row.actualDevptr ≠ NULL)
    {args : List KernelArgNode} (hlaunch : GpuStep s (.launch args) s') {left : Bytes}
    (hleft : s'.device.blocks row.actualDevptr = some left) :
    (∀ (ops : List VmemOp) (t : Vmem), (∀ op ∈ ops, ReadBack op) → Run VmemStep s' ops t →
        ∀ (dest src : Bytes) (k : Nat), k ≤ row.size → k ≤ dest.length →
          ∃ t' out, memMapMemcpy t i dest src k .d2h = some (t', out) ∧
            out.take k = left.take k) ↔
      row.status ≠ .dInit ∨ row.size = 0 := by
  have hs := gpu_run_sound h0 r
  obtain ⟨_, _, bs, hb, hl⟩ := (hs.rows i row hi).block hp
  have hlen : left.length = row.size := by
    obtain ⟨bs', hb', hl'⟩ := hlaunch.2.live hb
    cases hb'.symm.trans hleft
    exact hl'.trans hl
  constructor
  · intro hclaim
    by_contra hst
    obtain ⟨hinit, hsize⟩ : row.status = .dInit ∧ row.size ≠ 0 := by
      by_contra hcon
      by_cases hi : row.status = .dInit
      · exact hst (.inr (by_contra fun hz => hcon ⟨hi, hz⟩))
      · exact hst (.inl hi)
    -- one byte, into a buffer that held another one
    have hpos : 0 < left.length := by omega
    obtain ⟨b, rest, rfl⟩ := List.exists_cons_of_ne_nil (List.ne_nil_of_length_pos hpos)
    obtain ⟨freq, hi'⟩ := uncounted_getElem? (replay_uncounted hlaunch.1).symm hi
    obtain ⟨t', out, hm, hout⟩ := hclaim [] s' (fun _ h => nomatch h) .start [b + 1] [] 1
      (by omega) (Nat.le_refl _)
    obtain ⟨node, node', hnode, hc, _⟩ := memMapMemcpy_d2h_cases hm
    cases hi'.symm.trans hnode
    simp only [MemMap.copyOut, hinit, Option.some.injEq, Prod.mk.injEq] at hc
    obtain ⟨_, rfl⟩ := hc
    simp at hout
  · intro hst ops t hops rt dest src k hk hd
    have hh := Holding.launch hs hi hp hlaunch hleft hst
    have ht := @Holding.run _ _ _ s' t (fun _ => Contents.of left) ops hh
      (fun op hop => (hops op hop).spares) rt
    rw [readBack_data hops] at ht
    obtain ⟨t', out, hm, hout⟩ := ht.delivers (Int.natCast_nonneg k) hk hd src
    exact ⟨t', out, hm, Contents.take_eq_of_delivered (by omega) hout⟩

end

/-- A row of one byte that was just allocated, used in `freq` launches. -/
def allocatedRow (freq : Nat) : MemMap :=
  { valid := true, handle := 0, actualDevptr := 8, swap := some [0], size := 1, status := .dInit,
    pid := 1, freq := freq }

/-- That row alone, with the device block `[b]`. -/
def oneBlock (b : UInt8) (freq : Nat) : Vmem :=
  { table := [allocatedRow freq]
    device := oneRow.device.cudaMalloc ⟨8, [b]⟩ }

/-- The argument that names row 0. -/
def rowZeroArg : KernelArgNode :=
  { arg := 0, size := 8, offset := 0, memMapIndex := 0, next := none }

/-- The row comes out of a run from a table that has just been initialised. -/
theorem oneBlock_run :
    Run GpuStep oneRow [.call (.creat 1 0 (some ⟨8, [0]⟩) [0])] (oneBlock 0 0) :=
  Run.start.cons ⟨⟨⟨by decide, rfl, rfl⟩, rfl⟩, rfl⟩

/-- The kernel writes its one block, and the launch counts the use of the row. -/
theorem oneBlock_launch (b c : UInt8) :
    GpuStep (oneBlock b 0) (.launch [rowZeroArg]) (oneBlock c 1) := by
  refine ⟨rfl, ?_⟩
  intro q
  by_cases hq : q = 8
  · subst hq
    rfl
  · have hother : ∀ b, (oneBlock b 0).device.blocks q = none :=
      fun b => oneRow.device.cudaMalloc_other ⟨8, [b]⟩ hq
    exact congrArg (Option.map List.length) ((hother c).trans (hother b).symm)

/-- The row of one byte, whose block has 9 in it after the launch. It was just allocated and is not
empty, so that some copy from it does not deliver the 9: both sides are false. -/
theorem kernel_result_delivered_iff_oneBlock :
    (∀ (ops : List VmemOp) (t : Vmem), (∀ op ∈ ops, ReadBack op) →
        Run VmemStep (oneBlock 9 1) ops t →
        ∀ (dest src : Bytes) (k : Nat), k ≤ (allocatedRow 0).size → k ≤ dest.length →
          ∃ t' out, memMapMemcpy t 0 dest src k .d2h = some (t', out) ∧
            out.take k = ([9] : Bytes).take k) ↔
      (allocatedRow 0).status ≠ .dInit ∨ (allocatedRow 0).size = 0 := by
  have hi : (oneBlock 0 0).table[0]? = some (allocatedRow 0) := rfl
  have hleft : (oneBlock 9 1).device.blocks (allocatedRow 0).actualDevptr = some [9] := rfl
  exact kernel_result_delivered_iff oneRow_initialised oneBlock_run hi (by decide)
    (oneBlock_launch 0 9) hleft

/-- A buffer that was only allocated, filled by a kernel with the byte 9, is copied back: the host
keeps what it had. -/
theorem kernel_result_lost : ¬ ∀ (s s' : Vmem) (es : List GpuEvent) (args : List KernelArgNode)
    (i : Nat) (row : MemMap) (left dest : Bytes), Run GpuStep oneRow es s →
      s.table[i]? = some row → row.actualDevptr ≠ NULL → GpuStep s (.launch args) s' →
      s'.device.blocks row.actualDevptr = some left → dest.length = row.size →
      ∃ t' out, memMapMemcpy s' i dest [] row.size .d2h = some (t', out) ∧ out = left := by
  intro hclaim
  obtain ⟨t', out, hm, hout⟩ := hclaim _ _ _ _ 0 _ [9] [0] oneBlock_run rfl
    (fun h : 8 = 0 => absurd h (by decide)) (oneBlock_launch 0 9) rfl rfl
  cases hm
  exact absurd hout (by decide)

end GpuVirtmem.VirtMem
