import GpuVirtmem.VirtMem.Paging

/-!
# Where a row's data is

`RowSound` is what the table guarantees of a row whatever the driver and the pager did: a device
pointer that is not NULL belongs to a valid row and is a live block of the row's size, a valid row
has a swap buffer of that size, and a row that is not valid has none.

`Backed` is the legend of `enum vmem_status` read as an invariant. For each status it names the copy
that is authoritative (the device block in `D_READY` and `D_MODIFIED`, the swap buffer in
`D_MEMWAIT` and `D_DEFERRED`, none in `D_NOALLOC` and `D_INIT`) and says that this copy holds the
row's data. `Mirrored` adds that the swap buffer holds them in every status. One law for each
function that works on a row says what it does to the three.

The three are separate because they fail separately. A page-in that finds data on the host keeps
`RowSound`, so the table stays in order, and breaks `Backed`; a kernel that writes its block keeps
`Backed` and breaks `Mirrored`, and the next copy from the row mends it. The `_cases` lemmas at the
end say once what each function can do; nothing after this module unfolds one of the functions.
-/

namespace GpuVirtmem.VirtMem

open Lib

/-- The row has a swap buffer of its size. -/
def SwapSized (row : MemMap) : Prop := ∃ sw, row.swap = some sw ∧ sw.length = row.size

/-- What holds of a row in every state of the table. -/
structure RowSound (d : Device) (row : MemMap) : Prop where
  block : row.actualDevptr ≠ NULL → row.valid = true ∧ row.status.resident = true ∧
    ∃ bs, d.blocks row.actualDevptr = some bs ∧ bs.length = row.size
  swap : row.valid = true → SwapSized row
  unused : row.valid = false → row.swap = none ∧ row.size = 0

/-- The row owns the live device block at its pointer, which holds the contents. -/
def DeviceHolds (d : Device) (row : MemMap) (c : Contents) : Prop :=
  ∃ bs, d.blocks row.actualDevptr = some bs ∧ bs.length = row.size ∧ c.Within bs

/-- The row's swap buffer holds the contents. -/
def Mirrored (row : MemMap) (c : Contents) : Prop :=
  ∃ sw, row.swap = some sw ∧ sw.length = row.size ∧ c.Within sw

/-- The legend of `enum vmem_status`: which copy of the row's data is the authoritative one. -/
def Backed (d : Device) (row : MemMap) (c : Contents) : Prop :=
  match row.status with
  | .dNoalloc => row.actualDevptr = NULL ∧ c = .empty
  | .dInit => DeviceHolds d row c ∧ c = .empty
  | .dReady | .dModified => DeviceHolds d row c
  | .dMemwait | .dDeferred => row.actualDevptr = NULL ∧ Mirrored row c

section

variable {d d' : Device} {row row' : MemMap} {c : Contents}

/-- In a resident row the legend speaks of the device block. -/
theorem Backed.resident (h : Backed d row c) (hr : row.status.resident = true) :
    DeviceHolds d row c := by
  unfold Backed at h
  cases hs : row.status <;> rw [hs] at h hr <;>
    first | exact h.1 | exact h | cases hr

/-- In a row that is not resident it says that there is no block at all: the pointer is NULL. -/
theorem Backed.absent (h : Backed d row c) (hr : row.status.resident = false) :
    row.actualDevptr = NULL := by
  unfold Backed at h
  cases hs : row.status <;> rw [hs] at h hr <;>
    first | exact h.1 | cases hr

/-- Before a row is given data, its legend is only about its device pointer: there are no contents
yet that a copy could be missing. -/
theorem Backed.unwritten (h : Backed d row c) (hs : row.status = .dNoalloc ∨ row.status = .dInit) :
    c = .empty := by
  unfold Backed at h
  rcases hs with hs | hs <;> rw [hs] at h <;> exact h.2

/-- What holds the contents is a buffer of the row's size. -/
theorem Mirrored.sized (h : Mirrored row c) : SwapSized row := by
  obtain ⟨sw, hsw, hlen, _⟩ := h
  exact ⟨sw, hsw, hlen⟩

/-- Without device memory the swap buffer is all there is, so that for such a row the legend already
says what `Mirrored` says. -/
theorem Backed.mirrored (h : Backed d row c) (hr : row.status.resident = false)
    (hz : SwapSized row) : Mirrored row c := by
  unfold Backed at h
  cases hs : row.status <;> rw [hs] at h hr
  case dNoalloc =>
    obtain ⟨sw, hsw, hlen⟩ := hz
    obtain ⟨_, rfl⟩ := h
    exact ⟨sw, hsw, hlen, Contents.empty_within sw⟩
  case dMemwait => exact h.2
  case dDeferred => exact h.2
  all_goals cases hr

/-- The converse for the two statuses of a row that waits for device memory. -/
theorem backed_of_waiting (hp : row.actualDevptr = NULL)
    (hs : row.status = .dMemwait ∨ row.status = .dDeferred) (hm : Mirrored row c) :
    Backed d row c := by
  unfold Backed
  rcases hs with hs | hs <;> simp only [hs] <;> exact ⟨hp, hm⟩

/-- The legend, read for one status at a time: what a caller knows who has found a row ready. -/
theorem backed_ready (hs : row.status = .dReady) : Backed d row c ↔ DeviceHolds d row c := by
  simp only [Backed, hs]

/-- The legend of a row whose data are on the host only. -/
theorem backed_memwait (hs : row.status = .dMemwait) :
    Backed d row c ↔ row.actualDevptr = NULL ∧ Mirrored row c := by
  simp only [Backed, hs]

/-- A row's legend depends on the device only through the row's own block. A row without one is safe
from everything as long as no block appears at NULL. -/
theorem Backed.frame (h : Backed d row c)
    (hd : row.actualDevptr ≠ NULL → d'.blocks row.actualDevptr = d.blocks row.actualDevptr)
    (hnull : d.blocks NULL = none) : Backed d' row c := by
  have hold : DeviceHolds d row c → DeviceHolds d' row c := by
    rintro ⟨bs, hb, hrest⟩
    have hne : row.actualDevptr ≠ NULL := by
      intro he
      rw [he, hnull] at hb
      cases hb
    exact ⟨bs, (hd hne).trans hb, hrest⟩
  unfold Backed at h ⊢
  split at h
  · exact h
  · exact ⟨hold h.1, h.2⟩
  · exact hold h
  · exact hold h
  · exact h
  · exact h

end

/-! ## Swap buffer copies -/

/-- A copy into a swap buffer that is long enough overwrites its front. -/
theorem writeSwap_some {sw src : Bytes} {n : Nat} (hs : n ≤ src.length) (hn : n ≤ sw.length) :
    writeSwap (some sw) src n = some (some (overwrite sw src n)) := by
  simp only [writeSwap, memcpy_of_le hs hn, Option.map_some]

/-- And conversely: where the copy has a result, it fits on both sides. What C leaves undefined has
no result, so that the bounds come out of the fact that the call returned. -/
theorem writeSwap_eq_some {sw src : Bytes} {n : Nat} {out : Option Bytes}
    (h : writeSwap (some sw) src n = some out) :
    n ≤ src.length ∧ n ≤ sw.length ∧ out = some (overwrite sw src n) := by
  obtain ⟨out', hm, rfl⟩ := Option.map_eq_some_iff.mp h
  obtain ⟨hs, hn, rfl⟩ := memcpy_eq_some hm
  exact ⟨hs, hn, rfl⟩

/-- Neither a copy into the buffer nor one through NULL, of no bytes, makes a buffer or changes the
length of one. -/
theorem writeSwap_length {sw out : Option Bytes} {src : Bytes} {n : Nat}
    (h : writeSwap sw src n = some out) :
    n ≤ (out.getD []).length ∧ out.map List.length = sw.map List.length := by
  cases sw with
  | some sw =>
    obtain ⟨hs, hn, rfl⟩ := writeSwap_eq_some h
    have hlen := overwrite_length hs hn
    exact ⟨by simp only [Option.getD_some]; omega, by simp only [Option.map_some, hlen]⟩
  | none =>
    simp only [writeSwap] at h
    split at h
    · next hn =>
      cases h
      exact ⟨by omega, rfl⟩
    · cases h

/-- Bringing a row up to date changes its swap buffer at most, and not the length of it. -/
theorem fetch_swap {node node' : MemMap} {d : Device} {n : Nat} (h : node.fetch d n = some node') :
    ∃ sw, sw.map List.length = node.swap.map List.length ∧ node' = { node with swap := sw } := by
  unfold MemMap.fetch at h
  split at h
  · obtain ⟨sw, hw, rfl⟩ := Option.map_eq_some_iff.mp h
    exact ⟨sw, (writeSwap_length hw).2, rfl⟩
  · cases h
    exact ⟨_, rfl, rfl⟩

/-- A row that is brought up to date from its device block holds the block's bytes in its swap
buffer; without a live block of that length it is left alone. The result of the `cudaMemcpy` is not
looked at, so the second case passes in silence. -/
theorem fetch_spec {node node' : MemMap} {d : Device} {n : Nat} {sw : Bytes}
    (hsw : node.swap = some sw) (h : node.fetch d n = some node') :
    ∃ sw', node' = { node with swap := some sw' } ∧ sw'.length = sw.length ∧
      ∀ bs, d.blocks node.actualDevptr = some bs → n ≤ bs.length →
        n ≤ sw.length ∧ sw' = overwrite sw bs n := by
  unfold MemMap.fetch at h
  split at h
  · next bs hb =>
    obtain ⟨out, hw, rfl⟩ := Option.map_eq_some_iff.mp h
    rw [hsw] at hw
    obtain ⟨hs, hn, rfl⟩ := writeSwap_eq_some hw
    refine ⟨_, rfl, overwrite_length hs hn, ?_⟩
    intro bs' hb' hlen
    rw [d.cudaMemcpyDtoH_of_live hb' hlen] at hb
    cases hb
    exact ⟨hn, overwrite_take sw bs' n⟩
  · next hb =>
    cases h
    refine ⟨sw, by rw [← hsw], rfl, ?_⟩
    intro bs hb' hlen
    rw [d.cudaMemcpyDtoH_of_live hb' hlen] at hb
    cases hb

/-- A block that is held is copied over the front of the swap buffer. With `DeviceHolds` the silent
case of `fetch_spec` is out. -/
theorem fetch_held {node up : MemMap} {d : Device} {n : Nat} {c : Contents}
    (hb : DeviceHolds d node c) (hz : SwapSized node) (hn : n ≤ node.size)
    (h : node.fetch d n = some up) :
    ∃ sw bs, node.swap = some sw ∧ sw.length = node.size ∧
      d.blocks node.actualDevptr = some bs ∧ bs.length = node.size ∧ c.Within bs ∧
        up = { node with swap := some (overwrite sw bs n) } := by
  obtain ⟨bs, hbs, hbl, hbin⟩ := hb
  obtain ⟨sw, hsw, hlen⟩ := hz
  obtain ⟨sw', rfl, _, hnew⟩ := fetch_spec hsw h
  obtain ⟨_, rfl⟩ := hnew bs hbs (by omega)
  exact ⟨sw, bs, hsw, hlen, hbs, hbl, hbin, rfl⟩

/-- Bringing a row up to date has a result as soon as the swap buffer is long enough, whatever the
device says. -/
theorem fetch_exists {node : MemMap} {d : Device} {n : Nat} {sw : Bytes} (hsw : node.swap = some sw)
    (hn : n ≤ sw.length) : ∃ node', node.fetch d n = some node' := by
  unfold MemMap.fetch
  split
  · next bs hb =>
    have hlen : n ≤ bs.length := by
      unfold Device.cudaMemcpyDtoH at hb
      split at hb
      · split at hb
        · cases hb
          rw [List.length_take]
          omega
        · cases hb
      · cases hb
    rw [hsw, writeSwap_some hlen hn]
    exact ⟨_, rfl⟩
  · exact ⟨node, rfl⟩

/-! ## What each function does to a row -/

section

variable {node node' : MemMap} {d d' : Device} {dest src out : Bytes} {n : Nat}

/-- All that a copy to a row can do: its swap buffer is written in every status, and the device
block as well where the row is resident. The laws below split on this and not on the source's
switch. -/
theorem copyIn_cases (h : node.copyIn d src n = some (node', d')) :
    ∃ sw, writeSwap node.swap src n = some sw ∧
      (node.status.resident = true ∧ node' = { node with swap := sw, status := .dReady } ∧
          d' = d.cudaMemcpyHtoD node.actualDevptr (sw.getD []) n ∨
        node.status.resident = false ∧ d' = d ∧
          ∃ st, (st = .dMemwait ∨ st = .dDeferred) ∧
            node' = { node with swap := sw, status := st }) := by
  obtain ⟨sw, hw, he⟩ := Option.map_eq_some_iff.mp h
  refine ⟨sw, hw, ?_⟩
  cases hs : node.status with
  | dInit | dReady | dModified =>
    simp only [hs, Prod.mk.injEq] at he
    exact .inl ⟨rfl, he.1.symm, he.2.symm⟩
  | dNoalloc | dMemwait =>
    simp only [hs, Prod.mk.injEq] at he
    exact .inr ⟨rfl, he.2.symm, .dMemwait, .inl rfl, he.1.symm⟩
  | dDeferred =>
    simp only [hs, Prod.mk.injEq] at he
    exact .inr ⟨rfl, he.2.symm, .dDeferred, .inr rfl, he.1.symm⟩

/-- All that a copy from a row can do: nothing in the two statuses without data, a fetch in the two
resident ones before the swap buffer is read, and the read alone in the other two. -/
theorem copyOut_cases (h : node.copyOut d dest n = some (node', out)) :
    (node.status = .dNoalloc ∨ node.status = .dInit) ∧ node' = node ∧ out = dest ∨
    (node.status = .dReady ∨ node.status = .dModified) ∧
      (∃ up, node.fetch d n = some up ∧ readSwap dest up.swap n = some out ∧
        node' = { up with status := .dReady }) ∨
    (node.status = .dMemwait ∨ node.status = .dDeferred) ∧
      readSwap dest node.swap n = some out ∧ node' = node := by
  unfold MemMap.copyOut at h
  cases hs : node.status with
  | dNoalloc | dInit =>
    simp only [hs, Option.some.injEq, Prod.mk.injEq] at h
    exact .inl ⟨by simp, h.1.symm, h.2.symm⟩
  | dReady | dModified =>
    simp only [hs] at h
    obtain ⟨up, hup, h⟩ := Option.bind_eq_some_iff.mp h
    obtain ⟨out', hr, he⟩ := Option.map_eq_some_iff.mp h
    cases he
    exact .inr (.inl ⟨by simp, up, hup, hr, rfl⟩)
  | dMemwait | dDeferred =>
    simp only [hs] at h
    obtain ⟨out', hr, he⟩ := Option.map_eq_some_iff.mp h
    cases he
    exact .inr (.inr ⟨by simp, hr, by rw [← hs]⟩)

/-- All that a round of the page-out loop can do to a row: if it is resident, the data go to the
swap buffer, the block is freed and the status says that the row waits. Every other row is passed
over. -/
theorem evict_cases (h : node.evict d = some (node', d')) :
    (node.status = .dReady ∨ node.status = .dModified) ∧ d' = d.cudaFree node.actualDevptr ∧
      (∃ up, node.fetch d node.size = some up ∧
        node' = { up with actualDevptr := NULL, status := .dMemwait }) ∨
    (node.status ≠ .dReady ∧ node.status ≠ .dModified) ∧ node' = node ∧ d' = d := by
  unfold MemMap.evict at h
  cases hs : node.status with
  | dReady | dModified =>
    simp only [hs] at h
    obtain ⟨up, hup, he⟩ := Option.map_eq_some_iff.mp h
    have hptr : up.actualDevptr = node.actualDevptr := by
      obtain ⟨_, _, rfl⟩ := fetch_swap hup
      rfl
    simp only [Prod.mk.injEq, hptr] at he
    exact .inl ⟨by simp, he.2.symm, up, hup, he.1.symm⟩
  | dNoalloc | dInit | dMemwait | dDeferred =>
    simp only [hs, Option.some.injEq, Prod.mk.injEq] at h
    exact .inr ⟨by simp, h.1.symm, h.2.symm⟩

/-- All that a round of the page-in loop can do to a row: if it waits, it is marked `D_READY`, with
its pointer still NULL, and the data are copied to wherever the word that was read points. Every
other row is passed over. -/
theorem pageIn_cases {word : Option DevPtr} (h : node.pageIn d word = some (node', d')) :
    (node.status = .dMemwait ∨ node.status = .dDeferred) ∧ node.actualDevptr = NULL ∧
      node' = { node with status := .dReady } ∧ node.size ≤ (node.swap.getD []).length ∧
      (∃ dst, d' = d.cudaMemcpyHtoD dst (node.swap.getD []) node.size) ∨
    (node.status ≠ .dMemwait ∧ node.status ≠ .dDeferred) ∧ node' = node ∧ d' = d := by
  unfold MemMap.pageIn at h
  cases hs : node.status with
  | dMemwait | dDeferred =>
    simp only [hs] at h
    split at h
    · next hp =>
      obtain ⟨dst, _, h⟩ := Option.bind_eq_some_iff.mp h
      split at h
      · next hn =>
        cases h
        exact .inl ⟨by simp, hp, rfl, hn, dst, rfl⟩
      · cases h
    · cases h
  | dNoalloc | dInit | dReady | dModified =>
    simp only [hs, Option.some.injEq, Prod.mk.injEq] at h
    exact .inr ⟨by simp, h.1.symm, h.2.symm⟩

end

end GpuVirtmem.VirtMem
