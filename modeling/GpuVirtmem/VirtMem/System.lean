import GpuVirtmem.Lib.Run
import GpuVirtmem.VirtMem.RowStep

/-!
# The table as a state machine

The five operations that change the table, one step each, and what every table that was initialised
and then run keeps: its rows are sound, and no two of them own the same block.

A call that has no result is no step: the program has left the table or a block, and nothing is
claimed about it any more. That no such thing happens, for the calls that a result is about, is
shown where it is needed and not assumed here. Every run is a run from `mem_map_init`, and the calls
in it are in any order and on any rows, as if by any number of processes.

What is left open is everything that would need a finer step: the functions take no lock in the
source, and two processes in the midst of two of them are not covered.
-/

namespace GpuVirtmem.VirtMem

open Lib

/-- A call of one of the five operations, with what the driver and the host heap answer. -/
inductive VmemOp
  | creat (size index : Nat) (dev : Option Grant) (swap : Bytes)
  | delete (index : Nat)
  | copyIn (index : Nat) (src : Bytes) (size : Int)
  | copyOut (index : Nat) (dest : Bytes) (size : Int)
  | pageIn (reqarr : List Nat) (word : Option DevPtr)
  | pageOut (reqarr : List Nat)

namespace VmemOp

/-- The state after the call, where it returns. -/
def exec (s : Vmem) : VmemOp → Option Vmem
  | creat size index dev swap => memMapCreat s size index dev swap
  | delete index => memMapDelete s index
  | copyIn index src size => (memMapMemcpy s index [] src size .h2d).map Prod.fst
  | copyOut index dest size => (memMapMemcpy s index dest [] size .d2h).map Prod.fst
  | pageIn reqarr word => gvirtPageIn s reqarr word
  | pageOut reqarr => gvirtPageOut s reqarr

/-- What the driver and the host heap may answer. -/
def Allowed (s : Vmem) : VmemOp → Prop
  | creat size _ dev swap => s.device.Admits size dev ∧ swap.length = size
  | _ => True

/-- What the call makes the data of each row, when they were `data` before. -/
def record (data : Nat → Contents) : VmemOp → Nat → Contents
  | creat _ index _ _ | delete index => Function.update data index .empty
  | copyIn index src size => Function.update data index ((data index).write src size.toNat)
  | copyOut .. | pageIn .. | pageOut _ => data

end VmemOp

/-- The data of each row after a sequence of calls. -/
def rowData (ops : List VmemOp) : Nat → Contents := ops.foldl VmemOp.record fun _ => .empty

/-- One call on the table. -/
def VmemStep (s : Vmem) (op : VmemOp) (s' : Vmem) : Prop := op.Allowed s ∧ op.exec s = some s'

/-- A table that `mem_map_init` has just written, on a device that has no block at NULL. -/
def Initialised (s : Vmem) : Prop :=
  s.device.blocks NULL = none ∧
    ∃ table pid, memMapInit table table.length pid = some s.table

/-- What holds of the table in every state. -/
structure Sound (s : Vmem) : Prop where
  null : s.device.blocks NULL = none
  rows : ∀ (i : Nat) (row : MemMap), s.table[i]? = some row → RowSound s.device row
  apart : ∀ (i j : Nat) (row row' : MemMap), i ≠ j → s.table[i]? = some row →
    s.table[j]? = some row' → row.actualDevptr = row'.actualDevptr → row.actualDevptr = NULL

section

variable {s s' : Vmem} {d' : Device} {row row' : MemMap} {i j : Nat}

/-- A row of the table after one row has been replaced is the new one, or it was there before. -/
theorem getElem?_set_cases {table : List MemMap} {row' node : MemMap} {i j : Nat}
    (h : (table.set i row')[j]? = some node) :
    j = i ∧ node = row' ∨ i ≠ j ∧ table[j]? = some node := by
  rw [List.getElem?_set] at h
  split at h
  · next hij =>
    split at h
    · cases h
      exact .inl ⟨hij.symm, rfl⟩
    · cases h
  · next hij => exact .inr ⟨hij, h⟩

/-- The replaced row is found at its index. -/
theorem getElem?_set_self {table : List MemMap} {row row' : MemMap} {i : Nat}
    (h : table[i]? = some row) : (table.set i row')[i]? = some row' := by
  obtain ⟨hlt, _⟩ := List.getElem?_eq_some_iff.mp h
  simp [hlt]

/-- Every row of a new table is the one that `mem_map_init` writes, with the process that called it
as its owner. -/
theorem Initialised.eq_initRow (h : Initialised s) (hi : s.table[i]? = some row) :
    ∃ pid, row = initRow pid i := by
  obtain ⟨_, table, pid, hinit⟩ := h
  unfold memMapInit at hinit
  rw [if_pos (Nat.le_refl _), Option.some.injEq, List.drop_length, List.append_nil] at hinit
  rw [← hinit, List.getElem?_map] at hi
  obtain ⟨k, hk, rfl⟩ := Option.map_eq_some_iff.mp hi
  obtain ⟨hlt, rfl⟩ := List.getElem?_eq_some_iff.mp hk
  exact ⟨pid, by rw [List.getElem_range]⟩

/-- A new table is sound: none of its rows is valid, so none has a block. -/
theorem Initialised.sound (h : Initialised s) : Sound s where
  null := h.1
  rows := by
    intro i row hi
    obtain ⟨pid, rfl⟩ := h.eq_initRow hi
    exact {
      block := fun hne => absurd rfl hne
      swap := fun hv => nomatch hv
      unused := fun _ => ⟨rfl, rfl⟩ }
  apart := by
    intro i j row row' _ hi _ _
    obtain ⟨pid, rfl⟩ := h.eq_initRow hi
    rfl

/-- A table of one row, on a device that has no block. -/
def oneRow : Vmem := ⟨[initRow 1 0], ⟨fun _ => none⟩⟩

/-- The smallest table there is, for the runs that show the results to be about something. -/
theorem oneRow_initialised : Initialised oneRow := ⟨rfl, [initRow 1 0], 1, rfl⟩

/-- A function on one row keeps the table sound. Two rows still do not share a block, since the
row's pointer is dropped, kept or fresh. -/
theorem Sound.set (hs : Sound s) (hi : s.table[i]? = some row) (h : RowStep s.device d' row row') :
    Sound ⟨s.table.set i row', d'⟩ := by
  -- the row's new pointer is not that of any other row
  have clear : ∀ (j : Nat) (other : MemMap), i ≠ j → s.table[j]? = some other →
      row'.actualDevptr = other.actualDevptr → row'.actualDevptr = NULL := by
    intro j other hij hj he
    obtain hn | hk | hf := h.pointer
    · exact hn
    · rw [hk]
      exact hs.apart i j row other hij hi hj (hk ▸ he)
    · by_contra hne
      obtain ⟨_, _, bs, hb, _⟩ := (hs.rows j other hj).block (he ▸ hne)
      rw [← he, hf] at hb
      cases hb
  refine ⟨h.null hs.null, ?_, ?_⟩
  · intro j node hj
    obtain ⟨rfl, rfl⟩ | ⟨hij, hj⟩ := getElem?_set_cases hj
    · exact h.sound
    · have hnode := hs.rows j node hj
      refine ⟨?_, hnode.swap, hnode.unused⟩
      intro hne
      obtain ⟨hv, hr, bs, hb, hl⟩ := hnode.block hne
      have hother : node.actualDevptr ≠ row.actualDevptr :=
        fun he => hne (hs.apart j i node row hij.symm hj hi he)
      obtain ⟨bs', hb', hl'⟩ := h.others _ hother bs hb
      exact ⟨hv, hr, bs', hb', hl'.trans hl⟩
  · intro j k node other hjk hj hk he
    obtain ⟨rfl, rfl⟩ | ⟨hij, hj'⟩ := getElem?_set_cases hj
    · obtain ⟨rfl, _⟩ | ⟨hik, hk'⟩ := getElem?_set_cases hk
      · exact absurd rfl hjk
      · exact clear k other hik hk' he
    · obtain ⟨rfl, rfl⟩ | ⟨_, hk'⟩ := getElem?_set_cases hk
      · rw [he]
        exact clear j node hij hj' he.symm
      · exact hs.apart j k node other hjk hj' hk' he

/-- A function on one row leaves the data of every other row where they are: no block of another row
is touched, and no other row is written. -/
theorem Sound.frame (hs : Sound s) (hi : s.table[i]? = some row) (hown : OwnBlock s.device d' row)
    {other : MemMap} (hij : i ≠ j) (hj : s.table[j]? = some other) {c : Contents}
    (hb : Backed s.device other c) : Backed d' other c := by
  refine hb.frame ?_ hs.null
  intro hne
  refine hown _ (fun he => hne (hs.apart j i other row hij.symm hj hi he)) ?_
  obtain ⟨_, _, bs, hb, _⟩ := (hs.rows j other hj).block hne
  simp [hb]

/-! ## Each operation, as functions on rows -/

/-- The functions of the source look up the row, work on it and store it back. The `_cases` lemmas
take the lookup off, once for each of them, and leave what happens to the row. -/
theorem memMapCreat_cases {size index : Nat} {dev : Option Grant} {swap : Bytes}
    (h : memMapCreat s size index dev swap = some s') :
    ∃ node, s.table[index]? = some node ∧
      s' = ⟨s.table.set index (node.created s.device size dev swap),
        (node.allocate s.device dev).2⟩ := by
  obtain ⟨node, hi, rfl⟩ := Option.map_eq_some_iff.mp h
  exact ⟨node, hi, rfl⟩

/-- A deletion that returns has found a row. -/
theorem memMapDelete_cases {index : Nat} (h : memMapDelete s index = some s') :
    ∃ node, s.table[index]? = some node ∧
      s' = ⟨s.table.set index node.deleted,
        if node.actualDevptr ≠ NULL then s.device.cudaFree node.actualDevptr else s.device⟩ := by
  obtain ⟨node, hi, rfl⟩ := Option.map_eq_some_iff.mp h
  exact ⟨node, hi, rfl⟩

/-- A copy to a row that returns has found the row, and had a size that was not negative. -/
theorem memMapMemcpy_h2d_cases {index : Nat} {dest src out : Bytes} {size : Int}
    (h : memMapMemcpy s index dest src size .h2d = some (s', out)) :
    ∃ node node' d', s.table[index]? = some node ∧ 0 ≤ size ∧
      node.copyIn s.device src size.toNat = some (node', d') ∧
      s' = ⟨s.table.set index node', d'⟩ ∧ out = dest := by
  obtain ⟨node, hi, h⟩ := Option.bind_eq_some_iff.mp h
  obtain ⟨n, hn, h⟩ := Option.bind_eq_some_iff.mp h
  obtain ⟨⟨node', d'⟩, hc, he⟩ := Option.map_eq_some_iff.mp h
  obtain ⟨h0, rfl⟩ := copySize_eq_some hn
  cases he
  exact ⟨node, node', d', hi, h0, hc, rfl, rfl⟩

/-- A copy from a row that returns. Nothing is said about the sign of the size here: a row without
data accepts any. -/
theorem memMapMemcpy_d2h_cases {index : Nat} {dest src out : Bytes} {size : Int}
    (h : memMapMemcpy s index dest src size .d2h = some (s', out)) :
    ∃ node node', s.table[index]? = some node ∧
      node.copyOut s.device dest size.toNat = some (node', out) ∧
      s' = ⟨s.table.set index node', s.device⟩ := by
  obtain ⟨node, hi, h⟩ := Option.bind_eq_some_iff.mp h
  obtain ⟨n, hn, h⟩ := Option.bind_eq_some_iff.mp h
  obtain ⟨⟨node', out'⟩, hc, he⟩ := Option.map_eq_some_iff.mp h
  obtain rfl := MemMap.outSize_eq_some hn
  cases he
  exact ⟨node, node', hi, hc, rfl⟩

/-- A round of the page-out loop that returns has found a row to look at. -/
theorem pageOutRow_cases {index : Nat} (h : pageOutRow s index = some s') :
    ∃ node node' d', s.table[index]? = some node ∧ node.evict s.device = some (node', d') ∧
      s' = ⟨s.table.set index node', d'⟩ := by
  obtain ⟨node, hi, h⟩ := Option.bind_eq_some_iff.mp h
  obtain ⟨⟨node', d'⟩, hc, rfl⟩ := Option.map_eq_some_iff.mp h
  exact ⟨node, node', d', hi, hc, rfl⟩

/-- So has a round of the page-in loop. -/
theorem pageInRow_cases {word : Option DevPtr} {index : Nat}
    (h : pageInRow word s index = some s') :
    ∃ node node' d', s.table[index]? = some node ∧ node.pageIn s.device word = some (node', d') ∧
      s' = ⟨s.table.set index node', d'⟩ := by
  obtain ⟨node, hi, h⟩ := Option.bind_eq_some_iff.mp h
  obtain ⟨⟨node', d'⟩, hc, rfl⟩ := Option.map_eq_some_iff.mp h
  exact ⟨node, node', d', hi, hc, rfl⟩

/-! ## Every run keeps the table sound -/

/-- A page-out round keeps the table sound, and by induction so does the loop. -/
theorem pageOutRow_sound (hs : Sound s) (h : pageOutRow s i = some s') : Sound s' := by
  obtain ⟨node, node', d', hi, hc, rfl⟩ := pageOutRow_cases h
  exact hs.set hi (evict_rowStep (hs.rows _ _ hi) hc)

/-- A page-in round does as well, whatever word was read through NULL. -/
theorem pageInRow_sound {word : Option DevPtr} (hs : Sound s) (h : pageInRow word s i = some s') :
    Sound s' := by
  obtain ⟨node, node', d', hi, hc, rfl⟩ := pageInRow_cases h
  exact hs.set hi (pageIn_rowStep (hs.rows _ _ hi) hc)

/-- The step lemma: each of the five operations keeps the table sound. None of them is treated in
another way than by its row law and `Sound.set`. -/
theorem VmemStep.sound (hs : Sound s) {op : VmemOp} (h : VmemStep s op s') : Sound s' := by
  obtain ⟨ha, h⟩ := h
  cases op with
  | creat size index dev swap =>
    obtain ⟨node, hi, rfl⟩ := memMapCreat_cases h
    exact hs.set hi (created_rowStep ha.1 ha.2)
  | delete index =>
    obtain ⟨node, hi, rfl⟩ := memMapDelete_cases h
    exact hs.set hi deleted_rowStep
  | copyIn index src size =>
    obtain ⟨⟨t, out⟩, hm, rfl⟩ := Option.map_eq_some_iff.mp h
    obtain ⟨node, node', d', hi, _, hc, rfl, _⟩ := memMapMemcpy_h2d_cases hm
    exact hs.set hi (copyIn_rowStep (hs.rows _ _ hi) hc)
  | copyOut index dest size =>
    obtain ⟨⟨t, out⟩, hm, rfl⟩ := Option.map_eq_some_iff.mp h
    obtain ⟨node, node', hi, hc, rfl⟩ := memMapMemcpy_d2h_cases hm
    exact hs.set hi (copyOut_rowStep (hs.rows _ _ hi) hc)
  | pageIn reqarr word => exact foldlM_keeps (fun _ _ _ _ ht h => pageInRow_sound ht h) hs h
  | pageOut reqarr => exact foldlM_keeps (fun _ _ _ _ ht h => pageOutRow_sound ht h) hs h

/-- The run lemma: every table that comes out of `mem_map_init` is sound, whatever has been called
on it. -/
theorem run_sound (h0 : Initialised s) {ops : List VmemOp} (r : Run VmemStep s ops s') :
    Sound s' := r.invariant h0.sound fun hs h => VmemStep.sound hs h

/-- What the driver and the host heap answer is part of the call, so that a call leads to one table
at most. Results about one run are thereby results about all runs with these calls. -/
theorem VmemStep.det {op : VmemOp} {t u : Vmem} (h : VmemStep s op t) (h' : VmemStep s op u) :
    t = u := Option.some.inj (h.2.symm.trans h'.2)

end

end GpuVirtmem.VirtMem
