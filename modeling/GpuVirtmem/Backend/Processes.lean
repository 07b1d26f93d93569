import GpuVirtmem.Backend.Handles
import GpuVirtmem.VirtMem.System

/-!
# The backend processes of a machine

Each client is served by a process of its own, and all of them work on one memory map. Whatever
they do, in whatever order, a process lists exactly the rows that it has created and that are still
in use, each of them once.

The invariant has two parts: the table is sound (`VirtMem.Sound`), and the lists of the processes
are a partition of the rows in use, up to entries that have been overwritten. The second part needs
that rows are created at a shared index that only grows, so that no two processes are given the same
row.

A request is one step, also where the source reads and writes the shared index without a lock. What
two processes do to each other in the midst of two mallocs is therefore not part of this.
-/

namespace GpuVirtmem.Backend

open Lib Remote Interposer VirtMem

/-- The memory map, with the `vmapped_local_arr` of each process and the rows that it has
created. -/
structure Processes where
  vmem : Vmem
  vmapIndex : Nat
  arr : Nat → List Int
  created : Nat → List Nat

namespace Processes

/-- What the requests of process `k` work on. -/
def view (m : Processes) (k : Nat) : BackendState := ⟨m.vmem, m.vmapIndex, m.arr k⟩

/-- What a request of process `k` leaves. -/
def put (m : Processes) (k : Nat) (b : BackendState) (created : List Nat) : Processes :=
  { vmem := b.vmem
    vmapIndex := b.vmapIndex
    arr := Function.update m.arr k b.vmappedLocalArr
    created := Function.update m.created k created }

end Processes

/-- The call neither creates nor deletes a row: it is a copy, or the pager's. -/
def KeepsRows : VmemOp → Prop
  | .creat .. | .delete _ => False
  | .copyIn .. | .copyOut .. | .pageIn .. | .pageOut _ => True

/-- What changes the memory map: a malloc or a free of a process, or what keeps its rows. -/
inductive MapEvent
  | malloc (k : Nat) (packet : CudaPacket) (semget : Bool) (dev : Option Grant) (swap : Bytes)
  | free (k : Nat) (packet : CudaPacket)
  | move (op : VmemOp)

/-- One event. The driver and the heap answer as they may. -/
inductive Works (table : Nat) (m : Processes) : MapEvent → Processes → Prop
  | malloc {k : Nat} {packet answer : CudaPacket} {semget : Bool} {dev : Option Grant}
      {swap : Bytes} {b : BackendState} :
      m.vmem.device.Admits packet.args1.word0.toNat dev → swap.length = packet.args1.word0.toNat →
      nvbackCudaMallocSrv packet semget dev swap (m.view k) = some (b, answer, .ok) →
      Works table m (.malloc k packet semget dev swap) (m.put k b (m.vmapIndex :: m.created k))
  | refused {k : Nat} {packet answer : CudaPacket} {semget : Bool} {dev : Option Grant}
      {swap : Bytes} {b : BackendState} :
      nvbackCudaMallocSrv packet semget dev swap (m.view k) = some (b, answer, .error) →
      Works table m (.malloc k packet semget dev swap) (m.put k b (m.created k))
  | free {k : Nat} {packet answer : CudaPacket} {status : Status} {b : BackendState} :
      nvbackCudaFreeSrv table packet (m.view k) = some (b, answer, status) →
      Works table m (.free k packet) (m.put k b (m.created k))
  | move {op : VmemOp} {vmem : Vmem} :
      KeepsRows op → VmemStep m.vmem op vmem → Works table m (.move op) { m with vmem := vmem }

/-- No process has served a request yet. -/
structure Booted (m : Processes) : Prop where
  vmem : Initialised m.vmem
  arr : m.arr = fun _ => []
  created : m.created = fun _ => []

/-- The row is one that process `k` has created, and in use. -/
def LiveRow (m : Processes) (k i : Nat) : Prop := i ∈ m.created k ∧ RowLive m.vmem i

/-- The process lists its rows that are in use, each of them once. -/
structure Lists (vmem : Vmem) (vmapIndex : Nat) (arr : List Int) (created : List Nat) : Prop where
  below : ∀ i ∈ created, i < vmapIndex
  listed : ∀ i : Nat, (i : Int) ∈ arr ↔ i ∈ created ∧ RowLive vmem i
  once : ∀ id id' i : Nat, arr[id]? = some (i : Int) → arr[id']? = some (i : Int) → id = id'

/-- What every event keeps. -/
structure Shared (m : Processes) : Prop where
  sound : Sound m.vmem
  lists : ∀ k, Lists m.vmem m.vmapIndex (m.arr k) (m.created k)
  apart : ∀ k l i, i ∈ m.created k → i ∈ m.created l → k = l

/-! ## Calls that keep the rows -/

section

variable {s s' : Vmem} {i : Nat} {node node' : MemMap} {d' : Device}

/-- Of a row, what such a call keeps. -/
def shape (row : MemMap) : Bool × Nat := (row.valid, row.size)

/-- Whether a row is in use can be read off the shape of the table, which is all that the lists of
the processes depend on. -/
theorem rowLive_iff_shape : RowLive s i ↔ ∃ n, (s.table.map shape)[i]? = some (true, n) := by
  simp [RowLive, shape]

/-- A row that stays in use or out of it, with its size, keeps the shape. -/
theorem map_shape_set (hi : s.table[i]? = some node)
    (hf : node'.valid = node.valid ∧ node'.size = node.size) :
    (s.table.set i node').map shape = s.table.map shape := by
  obtain ⟨hlt, rfl⟩ := List.getElem?_eq_some_iff.mp hi
  rw [List.map_set]
  apply List.ext_getElem?
  intro j
  by_cases hj : i = j
  · subst hj
    simp [hlt, shape, hf.1, hf.2]
  · rw [List.getElem?_set_ne hj]

/-- Copies and paging do. -/
theorem keepsRows_shape {op : VmemOp} (hop : KeepsRows op) (h : VmemStep s op s') :
    s'.table.map shape = s.table.map shape := by
  obtain ⟨-, h⟩ := h
  cases op with
  | creat | delete => cases hop
  | copyIn index src size =>
    obtain ⟨⟨t, out⟩, hm, rfl⟩ := Option.map_eq_some_iff.mp h
    obtain ⟨node, node', d', hi, -, hc, rfl, -⟩ := memMapMemcpy_h2d_cases hm
    exact map_shape_set hi (copyIn_fields hc)
  | copyOut index dest size =>
    obtain ⟨⟨t, out⟩, hm, rfl⟩ := Option.map_eq_some_iff.mp h
    obtain ⟨node, node', hi, hc, rfl⟩ := memMapMemcpy_d2h_cases hm
    exact map_shape_set hi (copyOut_fields hc)
  | pageIn reqarr word =>
    apply foldlM_keeps (I := fun t => t.table.map shape = s.table.map shape) ?_ rfl h
    intro j _ t t' ht hr
    obtain ⟨node, node', d', hi, hc, rfl⟩ := pageInRow_cases hr
    rw [← ht]
    apply map_shape_set hi
    obtain ⟨-, -, rfl, -⟩ | ⟨-, rfl, -⟩ := pageIn_cases hc
    · exact ⟨rfl, rfl⟩
    · exact ⟨rfl, rfl⟩
  | pageOut reqarr =>
    apply foldlM_keeps (I := fun t => t.table.map shape = s.table.map shape) ?_ rfl h
    intro j _ t t' ht hr
    obtain ⟨node, node', d', hi, hc, rfl⟩ := pageOutRow_cases hr
    rw [← ht]
    exact map_shape_set hi (evict_fields hc)

end

/-! ## What every event keeps -/

section

variable {table : Nat} {m m' m₀ : Processes} {k l i : Nat} {b : BackendState}

/-- A process whose request has changed nothing. -/
theorem put_view : m.put k (m.view k) (m.created k) = m := by
  simp [Processes.put, Processes.view]

/-- At the start nobody lists a row. -/
theorem Booted.shared (h : Booted m) : Shared m where
  sound := h.vmem.sound
  lists k := by
    rw [h.arr, h.created]
    exact ⟨by simp, by simp, by simp⟩
  apart := by simp [h.created]

section

variable {vmem vmem' : Vmem} {vmapIndex vmapIndex' : Nat} {arr : List Int} {created : List Nat}

/-- An entry that has been overwritten is not one of a row. -/
theorem getElem?_clear {id id' i : Nat} :
    (arr.set id (-1))[id']? = some (i : Int) ↔ id' ≠ id ∧ arr[id']? = some (i : Int) := by
  rw [List.getElem?_set]
  split
  · next h =>
    subst h
    constructor
    · intro h
      split at h
      · simp at h
      · cases h
    · intro h
      exact absurd rfl h.1
  · next h => simp [Ne.symm h]

/-- An entry of a list with one more row is that of the row, or was there before. -/
theorem getElem?_concat {id i : Nat} (h : (arr ++ [(vmapIndex : Int)])[id]? = some (i : Int)) :
    arr[id]? = some (i : Int) ∨ id = arr.length ∧ i = vmapIndex := by
  rw [List.getElem?_append] at h
  split at h
  · exact .inl h
  · next hid =>
    obtain ⟨hlt, hi⟩ := List.getElem?_eq_some_iff.mp h
    simp at hlt hi
    exact .inr ⟨by omega, hi.symm⟩

/-- The rows of others do not matter. -/
theorem Lists.frame (h : Lists vmem vmapIndex arr created) (hidx : vmapIndex ≤ vmapIndex')
    (hrows : ∀ i ∈ created, RowLive vmem' i ↔ RowLive vmem i) :
    Lists vmem' vmapIndex' arr created where
  below i hi := Nat.lt_of_lt_of_le (h.below i hi) hidx
  listed i := (h.listed i).trans (and_congr_right fun hi => (hrows i hi).symm)
  once := h.once

/-- The row at `*vmap_index` has been created, which nobody has listed. -/
theorem Lists.creat (h : Lists vmem vmapIndex arr created) (hnew : RowLive vmem' vmapIndex)
    (hrows : ∀ i, i ≠ vmapIndex → (RowLive vmem' i ↔ RowLive vmem i)) :
    Lists vmem' (vmapIndex + 1) (arr ++ [(vmapIndex : Int)]) (vmapIndex :: created) where
  below i hi := by
    cases hi with
    | head => exact Nat.lt_succ_self _
    | tail _ hi => exact Nat.lt_succ_of_lt (h.below i hi)
  listed i := by
    by_cases hi : i = vmapIndex
    · subst hi
      simp [hnew]
    · simp [h.listed, hi, hrows]
  once id id' i hid hid' := by
    have hold : ∀ id : Nat, arr[id]? = some (i : Int) → i ≠ vmapIndex := by
      intro id hid
      exact Nat.ne_of_lt (h.below i ((h.listed i).mp (List.mem_of_getElem? hid)).1)
    rcases getElem?_concat hid with hid | ⟨rfl, hi⟩
    · rcases getElem?_concat hid' with hid' | ⟨-, hi⟩
      · exact h.once id id' i hid hid'
      · exact absurd hi (hold id hid)
    · rcases getElem?_concat hid' with hid' | ⟨rfl, -⟩
      · exact absurd hi (hold id' hid')
      · rfl

/-- A listed row has been deleted, and its entry overwritten. -/
theorem Lists.delete (h : Lists vmem vmapIndex arr created) {id i : Nat}
    (hid : arr[id]? = some (i : Int)) (hdead : ¬RowLive vmem' i)
    (hrows : ∀ j, j ≠ i → (RowLive vmem' j ↔ RowLive vmem j)) :
    Lists vmem' vmapIndex (arr.set id (-1)) created where
  below := h.below
  listed j := by
    by_cases hj : j = i
    · subst hj
      apply iff_of_false
      · intro hmem
        obtain ⟨id', hid'⟩ := List.mem_iff_getElem?.mp hmem
        obtain ⟨hne, hid'⟩ := getElem?_clear.mp hid'
        exact hne (h.once id' id j hid' hid)
      · exact fun hlive => hdead hlive.2
    · rw [hrows j hj, ← h.listed, List.mem_iff_getElem?, List.mem_iff_getElem?]
      simp only [getElem?_clear]
      refine exists_congr fun id' => and_iff_right_of_imp ?_
      rintro hid' rfl
      rw [hid, Option.some.injEq] at hid'
      omega
  once id' id'' j hid' hid'' :=
    h.once id' id'' j (getElem?_clear.mp hid').2 (getElem?_clear.mp hid'').2

end

/-- A request of process `k` that deletes and creates rows of its own only. -/
theorem Shared.put (h : Shared m) {created : List Nat} (hsound : Sound b.vmem)
    (hidx : m.vmapIndex ≤ b.vmapIndex)
    (hown : Lists b.vmem b.vmapIndex b.vmappedLocalArr created)
    (hcreated : ∀ i ∈ created, i ∈ m.created k ∨ m.vmapIndex ≤ i)
    (hothers : ∀ i < m.vmapIndex, i ∉ m.created k → (RowLive b.vmem i ↔ RowLive m.vmem i)) :
    Shared (m.put k b created) where
  sound := hsound
  lists l := by
    by_cases hl : l = k
    · subst hl
      simpa [Processes.put] using hown
    · have hframe := (h.lists l).frame hidx fun i hi =>
        hothers i ((h.lists l).below i hi) fun hk => hl (h.apart l k i hi hk)
      simpa [Processes.put, hl] using hframe
  apart l l' i hi hi' := by
    have hclear : ∀ l, l ≠ k → i ∈ m.created l → i ∉ created := by
      intro l hl hil hik
      rcases hcreated i hik with hik | hle
      · exact hl (h.apart l k i hil hik)
      · exact absurd ((h.lists l).below i hil) (Nat.not_lt.mpr hle)
    by_cases hl : l = k
    · by_cases hl' : l' = k
      · rw [hl, hl']
      · simp only [Processes.put, hl, Function.update_self, Function.update_of_ne hl'] at hi hi'
        exact absurd hi (hclear l' hl' hi')
    · by_cases hl' : l' = k
      · simp only [Processes.put, hl', Function.update_self, Function.update_of_ne hl] at hi hi'
        exact absurd hi' (hclear l hl hi)
      · simp only [Processes.put, Function.update_of_ne hl, Function.update_of_ne hl'] at hi hi'
        exact h.apart l l' i hi hi'

/-- A row that has been deleted is not in use, and the others are as they were. -/
theorem memMapDelete_rows {vmem vmem' : Vmem} (h : memMapDelete vmem i = some vmem') :
    ¬RowLive vmem' i ∧ ∀ j, j ≠ i → (RowLive vmem' j ↔ RowLive vmem j) := by
  obtain ⟨node, hi, rfl⟩ := memMapDelete_cases h
  constructor
  · rintro ⟨row, hrow, hv⟩
    cases (getElem?_set_self hi).symm.trans hrow
    cases hv
  · intro j hj
    unfold RowLive
    rw [List.getElem?_set_ne hj.symm]

/-- The step lemma: whatever a process does, each lists what is its own. -/
theorem Shared.works (h : Shared m) {e : MapEvent} (hstep : Works table m e m') : Shared m' := by
  cases hstep with
  | @malloc k packet answer semget dev swap b ha hs hsrv =>
    obtain ⟨-, -, hstatus⟩ | ⟨-, -, vmem, hv, -, rfl⟩ := nvbackCudaMallocSrv_cases hsrv
    · cases hstatus
    · obtain ⟨hnew, hsame⟩ := memMapCreat_rows hv
      have hrows : ∀ i, i ≠ m.vmapIndex → (RowLive vmem i ↔ RowLive m.vmem i) := by
        intro i hi
        unfold RowLive
        rw [hsame i hi]
        rfl
      have hsound : VmemStep m.vmem (.creat packet.args1.word0.toNat m.vmapIndex dev swap) vmem :=
        ⟨⟨ha, hs⟩, hv⟩
      apply h.put (hsound.sound h.sound) (Nat.le_succ _) ((h.lists k).creat hnew hrows)
      · intro i hi
        cases hi with
        | head => exact .inr (Nat.le_refl _)
        | tail _ hi => exact .inl hi
      · intro i hi _
        exact hrows i (Nat.ne_of_lt hi)
  | @refused k packet answer semget dev swap b hsrv =>
    obtain ⟨-, rfl, -⟩ | ⟨-, hstatus, -⟩ := nvbackCudaMallocSrv_cases hsrv
    · rwa [put_view]
    · cases hstatus
  | @free k packet answer status b hsrv =>
    obtain rfl | ⟨id, i, vmem, hid, -, hv, rfl⟩ := nvbackCudaFreeSrv_cases hsrv
    · rwa [put_view]
    · obtain ⟨hdead, hrows⟩ := memMapDelete_rows hv
      have hsound : VmemStep m.vmem (.delete i) vmem := ⟨trivial, hv⟩
      have hmem : i ∈ m.created k :=
        (((h.lists k).listed i).mp (List.mem_of_getElem? hid)).1
      apply h.put (hsound.sound h.sound) (Nat.le_refl _) ((h.lists k).delete hid hdead hrows)
      · intro i hi
        exact .inl hi
      · intro j _ hj
        exact hrows j fun hji => hj (hji ▸ hmem)
  | @move op vmem hop hvmem =>
    refine ⟨hvmem.sound h.sound, fun k => (h.lists k).frame (Nat.le_refl _) fun i _ => ?_, h.apart⟩
    rw [rowLive_iff_shape, rowLive_iff_shape, keepsRows_shape hop hvmem]

/-- In every state of every run the processes share the memory map in this way. Interleaving needs
no thought of its own, since each event is of one process. -/
theorem shared_run (h0 : Booted m₀) {es : List MapEvent} (r : Run (Works table) m₀ es m) :
    Shared m := r.invariant h0.shared fun h hstep => h.works hstep

end

/-! ## A free -/

/-- Row `i`, and no other, has become invalid, and its device memory and its swap buffer are
free. -/
structure Freed (s t : Vmem) (i : Nat) : Prop where
  row : ∃ row row', s.table[i]? = some row ∧ t.table[i]? = some row' ∧ row'.valid = false ∧
    row'.actualDevptr = NULL ∧ row'.swap = none ∧ t.device.blocks row.actualDevptr = none ∧
    ∀ q, q ≠ row.actualDevptr → t.device.blocks q = s.device.blocks q
  others : ∀ j, j ≠ i → t.table[j]? = s.table[j]?

/-- A free by process `k` frees the allocation whose handle it is given, or changes nothing and
reports an error. -/
def Frees (table : Nat) (m : Processes) (k : Nat) (packet : CudaPacket) : Prop :=
  ∃ b answer status, nvbackCudaFreeSrv table packet (m.view k) = some (b, answer, status) ∧
    (∀ i, LiveRow m k i → packet.args0.argp = handleAddr table i → Freed m.vmem b.vmem i ∧
      (∃ id : Nat, (m.arr k)[id]? = some (i : Int) ∧ b.vmappedLocalArr = (m.arr k).set id (-1)) ∧
      status = .ok ∧ answer.retExVal.err = 0) ∧
    ((∀ i, LiveRow m k i → packet.args0.argp ≠ handleAddr table i) →
      b.vmem = m.vmem ∧ b.vmappedLocalArr = m.arr k ∧ answer.retExVal.err ≠ 0)

/-- The pointer is the handle of a row that is listed, and not first, or of none, and then the
packet comes with an error. -/
def NotFirst (table : Nat) (m : Processes) (k : Nat) (packet : CudaPacket) : Prop :=
  (∃ id i : Nat, 0 < id ∧ (m.arr k)[id]? = some (i : Int) ∧
    packet.args0.argp = handleAddr table i) ∨
  (∀ i : Nat, (i : Int) ∈ m.arr k → packet.args0.argp ≠ handleAddr table i) ∧
    packet.retExVal.err ≠ 0

section

variable {table : Nat} {m m₀ : Processes} {k i id : Nat} {packet : CudaPacket} {s : BackendState}

/-- A pointer that is not found is no handle of a listed row. -/
theorem memMapFindEntry_none {indexes : List Int} {devptr : Nat}
    (h : memMapFindEntry table indexes devptr = none) :
    ∀ i : Nat, (i : Int) ∈ indexes → devptr ≠ handleAddr table i := by
  rintro i hmem rfl
  obtain ⟨id, hid, -⟩ := memMapFindEntry_of_mem hmem
  cases h.symm.trans hid

/-- A free that does not find its row, or finds it in the first entry, changes nothing. -/
theorem nvbackCudaFreeSrv_miss
    (h : memMapFindEntry table s.vmappedLocalArr packet.args0.argp = none ∨
      memMapFindEntry table s.vmappedLocalArr packet.args0.argp = some 0) :
    nvbackCudaFreeSrv table packet s =
      some (s, packet, if succeeded packet then .ok else .error) := by
  unfold nvbackCudaFreeSrv
  rcases h with h | h
  · rw [h]
  · rw [h]

/-- An entry that is not the first one is found, and its row is deleted. -/
theorem nvbackCudaFreeSrv_found (hs : Sound s.vmem) (hlive : RowLive s.vmem i)
    (hid : s.vmappedLocalArr[id + 1]? = some (i : Int))
    (h : memMapFindEntry table s.vmappedLocalArr packet.args0.argp = some (id + 1)) :
    ∃ vmem, nvbackCudaFreeSrv table packet s =
      some ({ s with vmem := vmem, vmappedLocalArr := s.vmappedLocalArr.set (id + 1) (-1) },
        setSuccess packet, .ok) ∧ Freed s.vmem vmem i := by
  obtain ⟨row, hrow, -⟩ := hlive
  unfold nvbackCudaFreeSrv
  simp only [h, hid, Option.bind_some, Int.toNat_natCast, memMapDelete, hrow, Option.map_some]
  refine ⟨_, rfl, ⟨row, _, hrow, getElem?_set_self hrow, rfl, rfl, rfl, ?_, ?_⟩, ?_⟩
  · by_cases hp : row.actualDevptr = NULL
    · simp [hp, hs.null]
    · simp [hp]
  · intro q hq
    by_cases hp : row.actualDevptr = NULL
    · simp [hp]
    · simp [hp, s.vmem.device.cudaFree_other hq]
  · intro j hj
    exact List.getElem?_set_ne hj.symm

/-- A row that is in use has not been freed. -/
theorem Freed.not_rowLive {s t : Vmem} (h : Freed s t i) : ¬RowLive t i := by
  rintro ⟨row, hrow, hv⟩
  obtain ⟨-, row', -, hrow', hv', -⟩ := h.row
  cases hrow.symm.trans hrow'
  cases hv.symm.trans hv'

/-- In every state that the processes can reach, a free frees, or reports an error, exactly if its
pointer is not the handle of the first row that is listed, and an unknown one comes with an error.

The first row is found at index 0, which the handler takes for a search that has failed. -/
theorem frees_iff_notFirst (h0 : Booted m₀) {es : List MapEvent} (r : Run (Works table) m₀ es m)
    (k : Nat) (packet : CudaPacket) : Frees table m k packet ↔ NotFirst table m k packet := by
  have hshared := shared_run h0 r
  have hlists := hshared.lists k
  cases hfind : memMapFindEntry table (m.arr k) packet.args0.argp with
  | none =>
    have hnone := memMapFindEntry_none hfind
    have hsrv := nvbackCudaFreeSrv_miss (s := m.view k) (.inl hfind)
    constructor
    · rintro ⟨b, answer, status, hb, -, hmiss⟩
      cases hsrv.symm.trans hb
      refine .inr ⟨hnone, (hmiss fun i hi => hnone i ((hlists.listed i).mpr hi)).2.2⟩
    · rintro (⟨id, i, -, hid, hp⟩ | ⟨-, herr⟩)
      · exact absurd hp (hnone i (List.mem_of_getElem? hid))
      · refine ⟨_, _, _, hsrv, fun i hi hp => ?_, fun _ => ⟨rfl, rfl, herr⟩⟩
        exact absurd hp (hnone i ((hlists.listed i).mpr hi))
  | some id =>
    obtain ⟨i, hid, hp⟩ := memMapFindEntry_some hfind
    have hlive : LiveRow m k i := (hlists.listed i).mp (List.mem_of_getElem? hid)
    cases id with
    | zero =>
      have hsrv := nvbackCudaFreeSrv_miss (s := m.view k) (.inr hfind)
      apply iff_of_false
      · rintro ⟨b, answer, status, hb, hfreed, -⟩
        cases hsrv.symm.trans hb
        exact (hfreed i hlive hp).1.not_rowLive hlive.2
      · rintro (⟨id, j, hpos, hj, hpj⟩ | ⟨hnone, -⟩)
        · obtain rfl := handleAddr_inj (hp.symm.trans hpj)
          exact Nat.ne_of_gt hpos (hlists.once id 0 i hj hid)
        · exact hnone i (List.mem_of_getElem? hid) hp
    | succ id =>
      obtain ⟨vmem, hsrv, hfreed⟩ :=
        nvbackCudaFreeSrv_found (s := m.view k) hshared.sound hlive.2 hid hfind
      apply iff_of_true
      · refine ⟨_, _, _, hsrv, fun j hj hpj => ?_, fun hnone => absurd hp (hnone i hlive)⟩
        obtain rfl := handleAddr_inj (hp.symm.trans hpj)
        exact ⟨hfreed, ⟨_, hid, rfl⟩, rfl, rfl⟩
      · exact .inl ⟨id + 1, i, Nat.succ_pos id, hid, hp⟩

end

/-- A machine with one row, on which nothing has run. -/
def freshMachine : Processes :=
  { vmem := freshRow, vmapIndex := 0, arr := fun _ => [], created := fun _ => [] }

/-- Nothing has run on that machine. -/
theorem freshMachine_booted : Booted freshMachine where
  vmem := ⟨rfl, [initRow 0 0], 0, rfl⟩
  arr := rfl
  created := rfl

/-- What a malloc of one byte leaves. -/
def oneByte : BackendState :=
  { vmem :=
      { table := [{ initRow 0 0 with swap := some [0], size := 1, valid := true }]
        device := ⟨fun _ => none⟩ }
    vmapIndex := 1, vmappedLocalArr := [0] }

/-- Process 0 has been given one byte. -/
theorem works_first_malloc :
    Works 0 freshMachine (.malloc 0 (rcudaMalloc 0 4 1) true none [0])
      (freshMachine.put 0 oneByte [0]) :=
  .malloc trivial rfl rfl

/-- The first allocation of process 0 is to be freed, and is not: both sides are false. -/
theorem frees_iff_notFirst_freshMachine :
    ∃ m, Run (Works 0) freshMachine [.malloc 0 (rcudaMalloc 0 4 1) true none [0]] m ∧
      (Frees 0 m 0 (rcudaFree 0 4) ↔ NotFirst 0 m 0 (rcudaFree 0 4)) :=
  ⟨_, Run.start.cons works_first_malloc,
    frees_iff_notFirst freshMachine_booted (Run.start.cons works_first_malloc) 0 (rcudaFree 0 4)⟩

/-- The first allocation of a process is not freed. The entry 0 that is found for it is taken for
"not found". -/
theorem first_not_freed : ¬∀ (table : Nat) (m₀ m : Processes) (es : List MapEvent) (k : Nat)
    (packet : CudaPacket), Booted m₀ → Run (Works table) m₀ es m → Frees table m k packet := by
  intro hclaim
  obtain ⟨b, answer, status, hb, hfreed, -⟩ := hclaim 0 freshMachine _ _ 0 (rcudaFree 0 4)
    freshMachine_booted (Run.start.cons works_first_malloc)
  obtain ⟨hrow, -⟩ := hfreed 0 ⟨.head _, _, rfl, rfl⟩ rfl
  cases hb
  exact hrow.not_rowLive ⟨_, rfl, rfl⟩

end GpuVirtmem.Backend
