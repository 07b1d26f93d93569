import GpuVirtmem.VirtMem.Holding

/-!
# Swapping is invisible to host copies

Once a row has been created, copies to it, copies from it and page-out rounds that name it or not
leave it holding the bytes last written at each offset, and a copy from the row delivers them.

Two things are claimed: that the calls return, and what the last of them delivers. The first is not
a side condition of the second. A call that faulted would deliver nothing, and a proof about the
runs that exist would not notice. Whether `cudaMalloc` succeeds is left open at the creation, and
the page-out rounds may name any rows, so that the row is on the device or on the host as the driver
and the pager like.
-/

namespace GpuVirtmem.VirtMem

open Lib

/-- A host copy on row `index`, of at most `size` bytes, or a page-out round on any rows. -/
def HostOp (rows index size : Nat) : VmemOp → Prop
  | .copyIn i src n => i = index ∧ 0 ≤ n ∧ n.toNat ≤ size ∧ n.toNat ≤ src.length
  | .copyOut i dest n => i = index ∧ 0 ≤ n ∧ n.toNat ≤ size ∧ n.toNat ≤ dest.length
  | .pageOut reqarr => ∀ i ∈ reqarr, i < rows
  | .creat .. | .delete _ | .pageIn .. => False

section

variable {rows index size : Nat} {c : Contents} {s s' : Vmem}

/-- Such an operation does not create, delete or page in the row, which is all that the row's
contents need. -/
theorem HostOp.spares {op : VmemOp} (h : HostOp rows index size op) : Spares index op := by
  cases op with
  | copyIn | copyOut | pageOut => trivial
  | creat | delete | pageIn => cases h

/-- A row that has just been created is held with nothing in it, from any history of the table. -/
theorem Holding.creat {dev : Option Grant} {swap : Bytes} (hs : Sound s)
    (h : VmemStep s (.creat size index dev swap) s') :
    Holding s.table.length index size .empty s' := by
  have hs' := h.sound hs
  obtain ⟨ha, h⟩ := h
  obtain ⟨node, hi, rfl⟩ := memMapCreat_cases h
  exact {
    sound := hs'
    length := List.length_set ..
    row := ⟨_, getElem?_set_self hi, rfl, rfl, created_backed ha.1⟩ }

/-- A page-out round never faults on a sound table: a row that is not resident is passed over, and
one that is has a swap buffer of its size. -/
theorem pageOutRow_exists {j : Nat} (hs : Sound s) (hj : j < s.table.length) :
    ∃ s', pageOutRow s j = some s' := by
  have hnode := List.getElem?_eq_getElem hj
  obtain ⟨node', d', he⟩ := evict_exists (hs.rows j _ hnode) hs.null
  refine ⟨⟨s.table.set j node', d'⟩, ?_⟩
  simp only [pageOutRow, hnode, Option.bind_some, he, Option.map_some]

/-- A host operation on a row that is held does not fault. Being held says how long the row is, and
the operation's bounds are against that. -/
theorem HostOp.exists_step {op : VmemOp} (hop : HostOp rows index size op)
    (hh : Holding rows index size c s) : ∃ s', VmemStep s op s' := by
  obtain ⟨row, hi, hv, rfl, hb⟩ := hh.row
  cases op with
  | copyIn i src n =>
    obtain ⟨rfl, h0, hn, hsrc⟩ := hop
    have hz := (hh.sound.rows _ _ hi).swap hv
    obtain ⟨row', d', hc⟩ : ∃ row' d', row.copyIn s.device src n.toNat = some (row', d') :=
      copyIn_exists hz hn hsrc
    refine ⟨⟨s.table.set i row', d'⟩, trivial, ?_⟩
    simp only [VmemOp.exec, memMapMemcpy, hi, copySize, h0, if_true, Option.bind_some, hc,
      Option.map_some]
  | copyOut i dest n =>
    obtain ⟨rfl, h0, hn, hd⟩ := hop
    obtain ⟨s', out, hm, _⟩ := hh.delivers h0 hn hd []
    refine ⟨s', trivial, ?_⟩
    simp only [VmemOp.exec, hm, Option.map_some]
  | pageOut reqarr =>
    obtain ⟨s', hl, _⟩ : ∃ s', gvirtPageOut s reqarr = some s' ∧
        Holding rows index row.size c s' := by
      refine foldlM_exists ?_ hh
      intro j hj t ht
      obtain ⟨t', hround⟩ := pageOutRow_exists ht.sound (ht.length.symm ▸ hop j hj)
      exact ⟨t', hround, ht.pageOutRow hround⟩
    exact ⟨s', trivial, hl⟩
  | creat | delete | pageIn => cases hop

/-- Host operations on a row that is held run to their end, and the row is then held with what they
have written. -/
theorem exists_run {ops : List VmemOp} (hops : ∀ op ∈ ops, HostOp rows index size op)
    {data : Nat → Contents} (hh : Holding rows index size (data index) s) :
    ∃ t, Run VmemStep s ops t := by
  induction ops generalizing s data with
  | nil => exact ⟨s, .start⟩
  | cons op ops ih =>
    have hop := hops op (.head ops)
    obtain ⟨m, hstep⟩ := hop.exists_step hh
    obtain ⟨t, r⟩ := ih (fun o ho => hops o (.tail op ho)) (hh.step hop.spares hstep)
    exact ⟨t, r.cons hstep⟩

end

/-- After any history, once `mem_map_creat` has made row `index`, with device memory or without it,
no sequence of copies to the row, copies from it and page-out rounds faults, and a copy of `k` bytes
from the row then delivers, at each offset that was written, the byte written last.

The row is followed alone (`Holding`): the other rows, and whatever happened before its creation,
come in only through the soundness of the table. -/
theorem host_copies_deliver {s₀ s s₁ : Vmem} {before ops : List VmemOp} {index size : Nat}
    {dev : Option Grant} {swap : Bytes} (h0 : Initialised s₀) (r : Run VmemStep s₀ before s)
    (hc : VmemStep s (.creat size index dev swap) s₁)
    (hops : ∀ op ∈ ops, HostOp s.table.length index size op) :
    ∃ t, Run VmemStep s₁ ops t ∧ ∀ (dest src : Bytes) (k : Nat), k ≤ size → k ≤ dest.length →
      ∃ t' out, memMapMemcpy t index dest src k .d2h = some (t', out) ∧
        ∀ off, off < k → ∀ b, rowData ops index off = some b → out[off]? = some b := by
  have hcreated : Holding s.table.length index size .empty s₁ := .creat (run_sound h0 r) hc
  obtain ⟨t, rt⟩ := @exists_run _ _ _ s₁ ops hops (fun _ => .empty) hcreated
  have ht := @Holding.run _ _ _ s₁ t (fun _ => .empty) ops hcreated
    (fun op hop => (hops op hop).spares) rt
  refine ⟨t, rt, ?_⟩
  intro dest src k hk hd
  exact ht.delivers (Int.natCast_nonneg k) hk hd src

/-- A row that got no device memory, written twice with a page-out in between. -/
theorem host_copies_deliver_oneRow :
    ∃ t, Run VmemStep ⟨[(initRow 1 0).created oneRow.device 2 none [0, 0]], oneRow.device⟩
        [.copyIn 0 [5, 6] 2, .pageOut [0, 0], .copyIn 0 [7] 1] t ∧
      ∀ (dest src : Bytes) (k : Nat), k ≤ 2 → k ≤ dest.length →
        ∃ t' out, memMapMemcpy t 0 dest src k .d2h = some (t', out) ∧
          ∀ off, off < k → ∀ b,
            rowData [.copyIn 0 [5, 6] 2, .pageOut [0, 0], .copyIn 0 [7] 1] 0 off = some b →
              out[off]? = some b := by
  refine @host_copies_deliver _ _ _ [] _ 0 2 none [0, 0] oneRow_initialised .start
    ⟨⟨trivial, rfl⟩, rfl⟩ ?_
  intro op hop
  simp only [List.mem_cons, List.not_mem_nil, or_false] at hop
  rcases hop with rfl | rfl | rfl <;> simp [HostOp, oneRow]

end GpuVirtmem.VirtMem
