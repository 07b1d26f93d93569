import GpuVirtmem.VirtMem.System

/-!
# One row followed through a run

`Holding` says that a row of a sound table is valid and holds given data where its status says.
Every call that neither creates nor deletes the row keeps it, with the data the call leaves the row,
as long as no page-in writes to the device: that is the part of a run in which swapping must not
show.

It says more than the legend does for the row, namely which data these are. `Legend` asks the same
of all rows at once and over all calls but the page-ins; here one row is followed, and what happens
to the others is left open as long as they are sound.
-/

namespace GpuVirtmem.VirtMem

open Lib

/-- A sound table of `rows` rows whose row `index`, of `size` bytes, holds the data `c`. -/
structure Holding (rows index size : Nat) (c : Contents) (s : Vmem) : Prop where
  sound : Sound s
  length : s.table.length = rows
  row : ∃ row, s.table[index]? = some row ∧ row.valid = true ∧ row.size = size ∧
    Backed s.device row c

/-- A call that neither creates nor deletes row `index`, and is not a page-in. -/
def Spares (index : Nat) : VmemOp → Prop
  | .creat _ i _ _ | .delete i => i ≠ index
  | .copyIn .. | .copyOut .. | .pageOut _ => True
  | .pageIn .. => False

namespace Holding

variable {rows index size j : Nat} {c c' : Contents} {s s' : Vmem} {d' : Device}
  {node node' : MemMap}

/-- A function on the row itself, which may give it new contents. What it has to show is the row's
own law; the table and the other rows are taken care of here. -/
theorem set_self (hh : Holding rows index size c s) (hi : s.table[index]? = some node)
    (hstep : RowStep s.device d' node node')
    (hf : node'.valid = node.valid ∧ node'.size = node.size)
    (hb : SwapSized node → Backed s.device node c → Backed d' node' c') :
    Holding rows index size c' ⟨s.table.set index node', d'⟩ := by
  obtain ⟨row, hi', hv, hsize, hk⟩ := hh.row
  obtain rfl : node = row := Option.some.inj (hi.symm.trans hi')
  have hz := (hh.sound.rows _ _ hi).swap hv
  exact {
    sound := hh.sound.set hi hstep
    length := (List.length_set ..).trans hh.length
    row := ⟨node', getElem?_set_self hi, hf.1.trans hv, hf.2.trans hsize, hb hz hk⟩ }

/-- A function on another row. It keeps the row's data because it touches at most that other row's
block (`Sound.frame`). -/
theorem set_other (hh : Holding rows index size c s) (hj : s.table[j]? = some node)
    (hji : j ≠ index) (hstep : RowStep s.device d' node node') (hown : OwnBlock s.device d' node) :
    Holding rows index size c ⟨s.table.set j node', d'⟩ := by
  obtain ⟨row, hi, hv, hsize, hk⟩ := hh.row
  exact {
    sound := hh.sound.set hj hstep
    length := (List.length_set ..).trans hh.length
    row := ⟨row, (List.getElem?_set_ne hji).trans hi, hv, hsize, hh.sound.frame hj hown hji hi hk⟩ }

/-- A page-out round, on this row or another. -/
theorem pageOutRow (hh : Holding rows index size c s) (h : VirtMem.pageOutRow s j = some s') :
    Holding rows index size c s' := by
  obtain ⟨node, node', d', hj, he, rfl⟩ := pageOutRow_cases h
  have hstep := evict_rowStep (hh.sound.rows _ _ hj) he
  by_cases hji : j = index
  · subst hji
    exact hh.set_self hj hstep (evict_fields he) fun hz hb => hb.evict hz he
  · exact hh.set_other hj hji hstep (evict_ownBlock he)

/-- The step lemma: any call that spares the row leaves it with the data that the call says, which
are new only where it is a copy to this row. -/
theorem step {data : Nat → Contents} {op : VmemOp} (hh : Holding rows index size (data index) s)
    (hop : Spares index op) (hstep : VmemStep s op s') :
    Holding rows index size (op.record data index) s' := by
  obtain ⟨ha, h⟩ := hstep
  cases op with
  | creat size i dev swap =>
    obtain ⟨node, hi, rfl⟩ := memMapCreat_cases h
    simp only [VmemOp.record, Function.update_of_ne (Ne.symm hop)]
    exact hh.set_other hi hop (created_rowStep ha.1 ha.2) (created_ownBlock ha.1)
  | delete i =>
    obtain ⟨node, hi, rfl⟩ := memMapDelete_cases h
    simp only [VmemOp.record, Function.update_of_ne (Ne.symm hop)]
    exact hh.set_other hi hop deleted_rowStep deleted_ownBlock
  | copyIn i src n =>
    obtain ⟨⟨t, out⟩, hm, rfl⟩ := Option.map_eq_some_iff.mp h
    obtain ⟨node, node', d', hi, _, hc, rfl, _⟩ := memMapMemcpy_h2d_cases hm
    have hrow := copyIn_rowStep (hh.sound.rows _ _ hi) hc
    by_cases hji : i = index
    · subst hji
      simp only [VmemOp.record, Function.update_self]
      exact hh.set_self hi hrow (copyIn_fields hc) fun hz hb => hb.copyIn hz hc
    · simp only [VmemOp.record, Function.update_of_ne (Ne.symm hji)]
      exact hh.set_other hi hji hrow (copyIn_ownBlock hc)
  | copyOut i dest n =>
    obtain ⟨⟨t, out⟩, hm, rfl⟩ := Option.map_eq_some_iff.mp h
    obtain ⟨node, node', hi, hc, rfl⟩ := memMapMemcpy_d2h_cases hm
    have hrow := copyOut_rowStep (hh.sound.rows _ _ hi) hc
    by_cases hji : i = index
    · subst hji
      exact hh.set_self hi hrow (copyOut_fields hc) fun _ hb => hb.copyOut hc
    · exact hh.set_other hi hji hrow (OwnBlock.refl _ _)
  | pageOut reqarr => exact foldlM_keeps (fun _ _ _ _ ht h => ht.pageOutRow h) hh h
  | pageIn reqarr word => cases hop

/-- The run lemma. The data the calls leave a row are given by folding over them, when they were
`data` before, so that "the bytes last written" is a function of the calls and not of the table. -/
theorem run {data : Nat → Contents} {ops : List VmemOp}
    (hh : Holding rows index size (data index) s) (hops : ∀ op ∈ ops, Spares index op)
    (r : Run VmemStep s ops s') :
    Holding rows index size (ops.foldl VmemOp.record data index) s' := by
  induction r with
  | start => exact hh
  | @snoc es t u op _ hstep ih =>
    have ht := ih fun o ho => hops o (List.mem_append_left _ ho)
    have hop := hops op (List.mem_append_right _ (.head _))
    simpa only [List.foldl_append, List.foldl_cons, List.foldl_nil] using ht.step hop hstep

/-- A copy from the row succeeds and delivers its data. Both halves come from the same place: the
legend says where the data are, and soundness that they are all there. -/
theorem delivers (hh : Holding rows index size c s) {dest : Bytes} {n : Int} (h0 : 0 ≤ n)
    (hn : n.toNat ≤ size) (hd : n.toNat ≤ dest.length) (src : Bytes) :
    ∃ s' out, memMapMemcpy s index dest src n .d2h = some (s', out) ∧
      ∀ off, off < n.toNat → ∀ b, c off = some b → out[off]? = some b := by
  obtain ⟨row, hi, hv, rfl, hb⟩ := hh.row
  have hz := (hh.sound.rows _ _ hi).swap hv
  obtain ⟨row', out, hc⟩ : ∃ row' out, row.copyOut s.device dest n.toNat = some (row', out) :=
    copyOut_exists hz hn hd
  refine ⟨⟨s.table.set index row', s.device⟩, out, ?_, hb.delivers hz hc⟩
  simp only [memMapMemcpy, hi, row.outSize_of_nonneg h0, Option.bind_some, hc, Option.map_some]

end Holding

end GpuVirtmem.VirtMem
