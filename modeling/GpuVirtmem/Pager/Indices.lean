import GpuVirtmem.Pager.Owners

/-!
# The indices of the rows (`remote/remote_api_wrapper.c`, `l2scheduler/pager.c`,
`virtmem/cuda_vmem.c`)

`*vmap_index` is shared by the backend processes and `localindex` belongs to each of them. A malloc
adds one to both, and nothing takes anything off them: a row that has been deleted is not used
again.

The bound is on the mallocs of a run and not on the rows in use, which is where the code and its
intention part. The second half of the module makes that plain with a process that has never more
than two rows in use, and takes as many as one likes by freeing them.
-/

namespace GpuVirtmem.Pager

open Lib Remote VirtMem Backend

/-- The rows whose handles `mem_map_find_entry` compares with the pointer. -/
def comparedRows (table : Nat) (devptr : Nat) : List Int → List Nat
  | [] => []
  | index :: indexes =>
    if 0 ≤ index ∧ devptr ≠ 0 then
      if devptr = handleAddr table index.toNat then [index.toNat]
      else index.toNat :: comparedRows table devptr indexes
    else comparedRows table devptr indexes

namespace Machine

/-- The rows of the shared table that a request uses. -/
def rowsUsed (table : Nat → Nat) (m : Machine) : Request → List Nat
  | .malloc _ _ semget _ _ => if semget then [m.vmapIndex] else []
  | .free pid packet => comparedRows (table pid) packet.args0.argp (m.vmappedLocalArr pid)

/-- The entries of `vmapped_local_arr` that a request writes. -/
def entriesWritten (table : Nat → Nat) (m : Machine) : Request → List Nat
  | .malloc pid _ semget _ _ => if semget then [(m.vmappedLocalArr pid).length] else []
  | .free pid packet =>
    match memMapFindEntry (table pid) (m.vmappedLocalArr pid) packet.args0.argp with
    | some (id + 1) => [id + 1]
    | some 0 | none => []

/-- A request, as long as none has left the table or the array. -/
inductive Step (table : Nat → Nat) : Option Machine → Request → Option Machine → Prop
  | request {m : Machine} {q : Request} {o : Option Machine} :
      m.serve table q = o → Step table (some m) q o

/-- The request stays in the table and in the array of its process, and is answered. -/
def InRange (table : Nat → Nat) (o : Option Machine) (q : Request) : Prop :=
  ∃ m, o = some m ∧ (∀ i ∈ m.rowsUsed table q, i < maxMemory) ∧
    (∀ i ∈ m.entriesWritten table q, i < maxMemory) ∧ m.serve table q ≠ none

/-- A malloc takes a row, unless the semaphore is missing. -/
def takes : Request → Bool
  | .malloc _ _ semget _ _ => semget
  | .free _ _ => false

/-- After `taken` rows have been taken. -/
structure InTable (m : Machine) (taken : Nat) : Prop where
  length : m.vmem.table.length = maxMemory
  next : m.vmapIndex = taken
  room : taken ≤ maxMemory
  listed : ∀ pid, ∀ index ∈ m.vmappedLocalArr pid, index < (taken : Int)
  entries : ∀ pid, (m.vmappedLocalArr pid).length ≤ taken

section

variable {table : Nat → Nat} {m n : Machine} {o : Option Machine} {q : Request} {pid taken : Nat}
  {qs : List Request} {device : Device}

/-- A request leads to one state, or out of the table. -/
theorem Step.det {u v : Option Machine} (h : Step table o q u) (h' : Step table o q v) : u = v := by
  obtain ⟨rfl⟩ := h
  obtain ⟨rfl⟩ := h'
  rfl

/-- The table has as many rows as it is made for. -/
theorem initialised_length (pid size : Nat) (device : Device) :
    (initialised pid size device).vmem.table.length = size := by
  rw [initialised, List.length_map, List.length_range]

/-- No row has been taken yet. -/
theorem startPager_inTable (h : startPager pid device = some m) : m.InTable 0 := by
  rw [startPager_eq] at h
  obtain rfl := Option.some.inj h
  constructor
  · exact initialised_length pid maxMemory device
  · rfl
  · exact Nat.zero_le _
  · exact fun _ _ h => absurd h List.not_mem_nil
  · exact fun _ => Nat.le_refl 0

/-- A creation that returns was for a row of the table. -/
theorem memMapCreat_length {vmem vmem' : Vmem} {size index : Nat} {dev : Option Grant}
    {swap : Bytes} (h : memMapCreat vmem size index dev swap = some vmem') :
    index < vmem.table.length ∧ vmem'.table.length = vmem.table.length := by
  obtain ⟨node, new, hnode, htable, -⟩ := memMapCreat_row h
  refine ⟨(List.getElem?_eq_some_iff.mp hnode).1, ?_⟩
  rw [htable, List.length_set]

/-- A deletion keeps the table as long as it was. -/
theorem memMapDelete_length {vmem vmem' : Vmem} {index : Nat}
    (h : memMapDelete vmem index = some vmem') : vmem'.table.length = vmem.table.length := by
  obtain ⟨node, new, -, htable, -⟩ := memMapDelete_row h
  rw [htable, List.length_set]

/-- What one process has changed in the table, the next row and its own array. -/
theorem InTable.update {b : BackendState} {taken' : Nat} (h : m.InTable taken)
    (hle : taken ≤ taken') (hroom : taken' ≤ maxMemory)
    (hlength : b.vmem.table.length = maxMemory) (hnext : b.vmapIndex = taken')
    (hlisted : ∀ index ∈ b.vmappedLocalArr, index < (taken' : Int))
    (hentries : b.vmappedLocalArr.length ≤ taken') : (m.store pid b).InTable taken' := by
  refine ⟨hlength, hnext, hroom, ?_, ?_⟩
  · refine (Function.forall_update_iff m.vmappedLocalArr fun _ (indexes : List Int) =>
      ∀ index ∈ indexes, index < (taken' : Int)).mpr ⟨hlisted, fun p _ index hindex => ?_⟩
    have := h.listed p index hindex
    omega
  · exact (Function.forall_update_iff m.vmappedLocalArr fun _ (indexes : List Int) =>
      indexes.length ≤ taken').mpr ⟨hentries, fun p _ => (h.entries p).trans hle⟩

theorem InTable.owner {owner : Nat → Nat} (h : m.InTable taken) :
    { m with owner := owner }.InTable taken :=
  ⟨h.length, h.next, h.room, h.listed, h.entries⟩

/-- A malloc takes the next row, and lists it in the next entry. -/
theorem InTable.malloc {packet : CudaPacket} {semget : Bool} {dev : Option Grant} {swap : Bytes}
    (h : m.InTable taken) (hs : m.serve table (.malloc pid packet semget dev swap) = some n) :
    n.InTable (taken + semget.toNat) := by
  obtain ⟨⟨b, answer, status⟩, hsrv, rfl⟩ := Option.map_eq_some_iff.mp hs
  rcases nvbackCudaMallocSrv_cases hsrv with ⟨rfl, rfl, rfl⟩ | ⟨rfl, rfl, vmem, hv, -, rfl⟩
  · exact h.update (Nat.le_refl _) h.room h.length h.next (h.listed pid) (h.entries pid)
  · obtain ⟨hlt, hlength⟩ := memMapCreat_length hv
    have hlt : m.vmapIndex < m.vmem.table.length := hlt
    have hroom : taken + 1 ≤ maxMemory := by
      rw [← h.length, ← h.next]
      exact hlt
    refine InTable.owner (h.update (Nat.le_succ _) hroom ?_ ?_ ?_ ?_)
    · exact hlength.trans h.length
    · exact congrArg (· + 1) h.next
    · intro index hindex
      rcases List.mem_append.mp hindex with hindex | hindex
      · have := h.listed pid index hindex
        omega
      · rw [List.mem_singleton.mp hindex]
        show (m.vmapIndex : Int) < (taken + 1 : Nat)
        have := h.next
        omega
    · rw [List.length_append]
      exact Nat.succ_le_succ (h.entries pid)

/-- A free takes no row, and lists none. -/
theorem InTable.free {packet : CudaPacket} (h : m.InTable taken)
    (hs : m.serve table (.free pid packet) = some n) : n.InTable taken := by
  obtain ⟨⟨b, answer, status⟩, hsrv, rfl⟩ := Option.map_eq_some_iff.mp hs
  rcases nvbackCudaFreeSrv_cases hsrv with rfl | ⟨id, i, vmem, hi, -, hv, rfl⟩
  · exact h.update (Nat.le_refl _) h.room h.length h.next (h.listed pid) (h.entries pid)
  · refine h.update (Nat.le_refl _) h.room ((memMapDelete_length hv).trans h.length) h.next ?_ ?_
    · intro index hindex
      rcases List.mem_or_eq_of_mem_set hindex with hindex | rfl
      · exact h.listed pid index hindex
      · omega
    · rw [List.length_set]
      exact h.entries pid

/-- Either kind of request, counted by what it takes. -/
theorem InTable.serve (h : m.InTable taken) (hs : m.serve table q = some n) :
    n.InTable (taken + (takes q).toNat) := by
  cases q with
  | malloc pid packet semget dev swap => exact h.malloc hs
  | free pid packet => exact h.free hs

/-- Rows are counted as they are taken. -/
theorem countP_takes_snoc (qs : List Request) (q : Request) :
    (qs ++ [q]).countP takes = qs.countP takes + (takes q).toNat := by
  rw [List.countP_append, List.countP_singleton]
  cases takes q <;> rfl

/-- In every run as many rows have been used as have been taken. -/
theorem inTable (hstart : startPager pid device = some m)
    (r : Run (Step table) (some m) qs (some n)) : n.InTable (qs.countP takes) := by
  have hall := r.invariant_trace (I := fun qs o => ∀ n, o = some n → n.InTable (qs.countP takes))
    ?_ ?_
  · exact hall n rfl
  · intro n hn
    cases hn
    exact startPager_inTable hstart
  · intro qs o q u h hstep n hn
    obtain ⟨hserve⟩ := hstep
    rw [countP_takes_snoc]
    exact (h _ rfl).serve (hserve.trans hn)

/-- Only listed rows are compared, since the search goes through the entries. -/
theorem comparedRows_listed {t devptr : Nat} {indexes : List Int} {i : Nat}
    (h : i ∈ comparedRows t devptr indexes) : (i : Int) ∈ indexes := by
  induction indexes with
  | nil => cases h
  | cons index indexes ih =>
    rw [comparedRows] at h
    split at h
    · next hindex =>
      have hnat : (index.toNat : Int) = index := Int.toNat_of_nonneg hindex.1
      split at h
      · rw [List.mem_singleton.mp h, hnat]
        exact .head _
      · rcases List.mem_cons.mp h with rfl | h
        · rw [hnat]
          exact .head _
        · exact .tail _ (ih h)
    · exact .tail _ (ih h)

/-- A free stays in the table as long as its process has only listed rows of it. -/
theorem InTable.inRange_free {packet : CudaPacket} (h : m.InTable taken) :
    InRange table (some m) (.free pid packet) := by
  have hroom := h.room
  refine ⟨m, rfl, ?_, ?_, ?_⟩
  · intro i hi
    have := h.listed pid i (comparedRows_listed hi)
    omega
  · intro i hi
    rw [entriesWritten] at hi
    split at hi
    · next id hid =>
      obtain rfl := List.mem_singleton.mp hi
      obtain ⟨_, hentry, _⟩ := memMapFindEntry_some hid
      have := (List.getElem?_eq_some_iff.mp hentry).1
      have := h.entries pid
      omega
    · cases hi
    · cases hi
  · rw [Machine.serve, ne_eq, Option.map_eq_none_iff, nvbackCudaFreeSrv]
    simp only [backend]
    split
    · next id hid =>
      obtain ⟨i, hentry, _⟩ := memMapFindEntry_some hid
      have hlt : i < m.vmem.table.length := by
        have := h.listed pid i (List.mem_of_getElem? hentry)
        rw [h.length]
        omega
      rw [hentry, Option.bind_some, memMapDelete, Int.toNat_natCast, List.getElem?_eq_getElem hlt]
      apply Option.some_ne_none
    · apply Option.some_ne_none
    · apply Option.some_ne_none

/-- A malloc stays in the table exactly as long as a row has not been taken. -/
theorem InTable.inRange_malloc {packet : CudaPacket} {semget : Bool} {dev : Option Grant}
    {swap : Bytes} (h : m.InTable taken) :
    InRange table (some m) (.malloc pid packet semget dev swap) ↔
      taken + semget.toNat ≤ maxMemory := by
  cases semget with
  | false =>
    refine ⟨fun _ => h.room, fun _ => ⟨m, rfl, ?_, ?_, fun hs => nomatch hs⟩⟩
    · exact fun i hi => absurd hi List.not_mem_nil
    · exact fun i hi => absurd hi List.not_mem_nil
  | true =>
    have hnext := h.next
    constructor
    · intro hrange
      obtain ⟨_, hm, hrow, -, -⟩ := hrange
      obtain rfl := Option.some.inj hm
      have := hrow m.vmapIndex (List.mem_singleton_self _)
      show taken + 1 ≤ maxMemory
      omega
    · intro hlt
      have hlt : m.vmapIndex < maxMemory := by
        rw [hnext]
        exact hlt
      have hlocal : (m.vmappedLocalArr pid).length < maxMemory := by
        have := h.entries pid
        omega
      have hrow := List.getElem?_eq_getElem (h.length ▸ hlt : m.vmapIndex < m.vmem.table.length)
      refine ⟨m, rfl, fun i hi => ?_, fun i hi => ?_, ?_⟩
      · rwa [List.mem_singleton.mp hi]
      · rwa [List.mem_singleton.mp hi]
      · obtain ⟨n, hn⟩ := exists_serves_malloc hrow hlocal packet dev swap
        rw [show m.serve table _ = some n from hn]
        apply Option.some_ne_none

/-- Whether a request stays in the table is a matter of the rows that have been taken before it, and
of no others. -/
theorem InTable.inRange_iff (h : m.InTable taken) :
    InRange table (some m) q ↔ taken + (takes q).toNat ≤ maxMemory := by
  cases q with
  | malloc pid packet semget dev swap => exact h.inRange_malloc
  | free pid packet => exact ⟨fun _ => h.room, fun _ => h.inRange_free⟩

/-- Every request of a run stays in the table and in the array of its process, and is answered,
exactly when no more rows are taken than there are, whatever has been freed.

Rows that have been freed do not count: neither index ever goes back. -/
theorem indices_inRange_iff (hstart : startPager pid device = some m)
    (r : Run (Step table) (some m) qs o) :
    EachStep (Step table) (some m) qs (InRange table) ↔ qs.countP takes ≤ maxMemory := by
  constructor
  · intro hall
    rcases List.eq_nil_or_concat' qs with rfl | ⟨before, q, rfl⟩
    · exact Nat.zero_le _
    · obtain ⟨_, rt, ⟨hserve⟩⟩ := r.last
      have hrange := hall before q _ List.prefix_rfl rt
      have h := (inTable hstart rt).inRange_iff.mp hrange
      rwa [countP_takes_snoc]
  · intro hcount before q t hpre rt
    have hdet : ∀ t q u v, Step table t q u → Step table t q v → u = v := fun _ _ _ _ => Step.det
    obtain ⟨_, ⟨hserve⟩⟩ := r.step_of_prefix hdet hpre rt
    refine (inTable hstart rt).inRange_iff.mpr ?_
    have hle := hpre.sublist.countP_le (p := takes)
    rw [countP_takes_snoc] at hle
    exact hle.trans hcount

end

/-! ## A process that frees what it has been given -/

/-- Process 6 asks for four bytes. -/
def fourBytes : Request := .malloc 6 (Interposer.rcudaMalloc 0 0 4) true none [0, 0, 0, 0]

/-- It frees row `i`. -/
def freeRow (i : Nat) : Request := .free 6 (Interposer.rcudaFree 0 (.ofNat (handleAddr 0 i)))

/-- One row that stays, then so many that are freed at once. -/
def recycling : Nat → List Request
  | 0 => [fourBytes]
  | n + 1 => recycling n ++ [fourBytes] ++ [freeRow (n + 1)]

/-- At most the first row and one other are in use. -/
def TwoLive (o : Option Machine) : Prop :=
  ∃ m i, o = some m ∧ ∀ j, InUse m.vmem.table j → j = 0 ∨ j = i

/-- After so many rows have been freed. -/
structure Recycled (m : Machine) (freed : Nat) : Prop where
  taken : m.InTable (freed + 1)
  listed : m.vmappedLocalArr 6 = (0 : Int) :: List.replicate freed (-1)
  live : ∀ i, InUse m.vmem.table i → i = 0

section

variable {m n : Machine} {freed : Nat}

/-- What a process has listed is its own. -/
theorem store_vmappedLocalArr (m : Machine) (pid : Nat) (b : BackendState) :
    (m.store pid b).vmappedLocalArr pid = b.vmappedLocalArr := Function.update_self ..

/-- A malloc lists the next row, and takes no other into use. -/
theorem serve_fourBytes (h : m.serve (fun _ => 0) fourBytes = some n) :
    n.vmappedLocalArr 6 = m.vmappedLocalArr 6 ++ [(m.vmapIndex : Int)] ∧
      ∀ i, InUse n.vmem.table i → i = m.vmapIndex ∨ InUse m.vmem.table i := by
  obtain ⟨⟨b, answer, status⟩, hsrv, rfl⟩ := Option.map_eq_some_iff.mp h
  rcases nvbackCudaMallocSrv_cases hsrv with ⟨hsem, -, -⟩ | ⟨-, rfl, vmem, hv, -, rfl⟩
  · cases hsem
  · obtain ⟨node, new, -, htable, -, -⟩ := memMapCreat_row hv
    refine ⟨m.store_vmappedLocalArr 6 ⟨vmem, m.vmapIndex + 1,
      m.vmappedLocalArr 6 ++ [(m.vmapIndex : Int)]⟩, fun i hi => ?_⟩
    have hi : InUse vmem.table i := hi
    rw [htable] at hi
    exact (inUse_set hi).imp And.left id

/-- A row that is written so that it is not in use. -/
theorem inUse_set_unused {rows : List MemMap} {index i : Nat} {new : MemMap}
    (hvalid : new.valid = false) (h : InUse (rows.set index new) i) :
    i ≠ index ∧ InUse rows i := by
  obtain ⟨row, hrow, hrowValid⟩ := h
  rcases getElem?_set_cases hrow with ⟨-, rfl⟩ | ⟨hi, hrow⟩
  · rw [hvalid] at hrowValid
    cases hrowValid
  · exact ⟨hi, row, hrow, hrowValid⟩

/-- A free of the row that was listed last empties that row. -/
theorem serve_freeRow (id : Nat) {row : Nat} (hrow : row ≤ maxMemory)
    (hid : memMapFindEntry 0 (m.vmappedLocalArr 6) (handleAddr 0 row) = some (id + 1))
    (hlisted : (m.vmappedLocalArr 6)[id + 1]? = some (row : Int))
    (h : m.serve (fun _ => 0) (freeRow row) = some n) :
    n.vmappedLocalArr 6 = (m.vmappedLocalArr 6).set (id + 1) (-1) ∧
      ∀ i, InUse n.vmem.table i → i ≠ row ∧ InUse m.vmem.table i := by
  obtain ⟨⟨b, answer, status⟩, hsrv, rfl⟩ := Option.map_eq_some_iff.mp h
  have hargp : (Interposer.rcudaFree 0 (.ofNat (handleAddr 0 row))).args0.argp =
      handleAddr 0 row := by
    rw [maxMemory] at hrow
    refine UInt64.toNat_ofNat_of_lt' ?_
    rw [handleAddr, UInt64.size]
    omega
  rw [nvbackCudaFreeSrv, hargp] at hsrv
  simp only [backend, hid, hlisted, Option.bind_some, Int.toNat_natCast] at hsrv
  obtain ⟨vmem, hv, hsrv⟩ := Option.map_eq_some_iff.mp hsrv
  cases hsrv
  obtain ⟨node, new, hnode, htable, -, hvalid, -⟩ := memMapDelete_row hv
  refine ⟨m.store_vmappedLocalArr 6 _, fun i hi => ?_⟩
  have hi : InUse vmem.table i := hi
  rw [htable] at hi
  exact inUse_set_unused hvalid hi

/-- The row taken last is found in the last entry. -/
theorem find_last (freed : Nat) :
    memMapFindEntry 0 ((0 : Int) :: List.replicate freed (-1) ++ [((freed + 1 : Nat) : Int)])
      (handleAddr 0 (freed + 1)) = some (freed + 1) := by
  have hfirst : (handleAddr 0 (freed + 1) == handleAddr 0 0) = false := by
    simp [handleAddr]
  have hne : (handleAddr 0 (freed + 1) != 0) = true := by
    simp [handleAddr]
  unfold memMapFindEntry
  rw [List.findIdx?_append, List.findIdx?_cons, List.findIdx?_replicate,
    List.findIdx?_singleton]
  have hnonneg : (0 : Int) ≤ freed + 1 := by omega
  simp [hfirst, hne, hnonneg]

/-- One row more is taken and freed. -/
theorem Recycled.round (h : m.Recycled freed) (hroom : freed + 1 < maxMemory) :
    ∃ t n, Step (fun _ => 0) (some m) fourBytes (some t) ∧
      Step (fun _ => 0) (some t) (freeRow (freed + 1)) (some n) ∧
      (∀ i, InUse t.vmem.table i → i = 0 ∨ i = freed + 1) ∧ n.Recycled (freed + 1) := by
  have hroom : freed + 1 + (takes fourBytes).toNat ≤ maxMemory := hroom
  obtain ⟨_, hm, -, -, hserve⟩ := h.taken.inRange_iff.mpr hroom
  obtain rfl := Option.some.inj hm
  obtain ⟨t, ht⟩ := Option.ne_none_iff_exists'.mp hserve
  have htaken : t.InTable (freed + 2) := h.taken.serve ht
  obtain ⟨hlisted, hlive⟩ := serve_fourBytes ht
  rw [h.listed, h.taken.next] at hlisted
  obtain ⟨_, hm, -, -, hserve⟩ := htaken.inRange_free
  obtain rfl := Option.some.inj hm
  obtain ⟨n, hn⟩ := Option.ne_none_iff_exists'.mp hserve
  obtain ⟨hset, hfreed⟩ := serve_freeRow freed (by omega) (hlisted ▸ find_last freed)
    (by simp [hlisted]) hn
  refine ⟨t, n, ⟨ht⟩, ⟨hn⟩, fun i hi => ?_, htaken.free hn, ?_, fun i hi => ?_⟩
  · rw [← h.taken.next]
    exact (hlive i hi).symm.imp (h.live i) id
  · rw [hset, hlisted]
    simp [List.replicate_succ']
  · obtain ⟨hne, hi⟩ := hfreed i hi
    rcases hlive i hi with rfl | hi
    · exact absurd h.taken.next hne
    · exact h.live i hi

/-- As many rows are taken and freed as the table has room for, and no more than two of them are
ever in use. -/
theorem exists_recycling (hstart : startPager 5 ⟨fun _ => none⟩ = some m)
    (hroom : freed < maxMemory) :
    ∃ n, Run (Step fun _ => 0) (some m) (recycling freed) (some n) ∧ n.Recycled freed ∧
      Always (Step fun _ => 0) (some m) (recycling freed) fun _ => TwoLive := by
  have hdet : ∀ t q u v, Step (fun _ => 0) t q u → Step (fun _ => 0) t q v → u = v :=
    fun _ _ _ _ => Step.det
  induction freed with
  | zero =>
    have htaken := startPager_inTable hstart
    have hunused : ∀ i, ¬ InUse m.vmem.table i := by
      intro i hi
      have hlt := (startPager_kept hstart).below i hi
      rw [htaken.next] at hlt
      exact Nat.not_lt_zero i hlt
    obtain ⟨_, hm, -, -, hserve⟩ := (htaken.inRange_iff (q := fourBytes)).mpr hroom
    obtain rfl := Option.some.inj hm
    obtain ⟨n, hn⟩ := Option.ne_none_iff_exists'.mp hserve
    obtain ⟨hlisted, hlive⟩ := serve_fourBytes hn
    have hfirst : ∀ i, InUse n.vmem.table i → i = 0 := by
      intro i hi
      rcases hlive i hi with hi | hi
      · exact hi.trans htaken.next
      · exact absurd hi (hunused i)
    have r : Run (Step fun _ => 0) (some m) ([] ++ [fourBytes]) (some n) := .snoc .start ⟨hn⟩
    refine ⟨n, r, ⟨htaken.serve hn, ?_, hfirst⟩, ?_⟩
    · rw [hlisted, List.eq_nil_of_length_eq_zero (Nat.le_zero.mp (htaken.entries 6)), htaken.next]
      rfl
    · refine Always.snoc (.nil ⟨m, 0, rfl, fun i hi => absurd hi (hunused i)⟩) fun u ru => ?_
      obtain rfl := ru.unique r hdet
      exact ⟨n, 0, rfl, fun i hi => .inl (hfirst i hi)⟩
  | succ freed ih =>
    obtain ⟨m', rm, hrecycled, halways⟩ := ih (Nat.lt_of_succ_lt hroom)
    obtain ⟨t, n, ht, hn, hlive, hnext⟩ := hrecycled.round hroom
    have rt := rm.snoc ht
    have rn := rt.snoc hn
    refine ⟨n, rn, hnext, (halways.snoc fun u ru => ?_).snoc fun u ru => ?_⟩
    · obtain rfl := ru.unique rt hdet
      exact ⟨t, freed + 1, rfl, hlive⟩
    · obtain rfl := ru.unique rn hdet
      exact ⟨n, 0, rfl, fun i hi => .inl (hnext.live i hi)⟩

/-- One row for the one that stays, and one for each that is freed. -/
theorem countP_takes_recycling (freed : Nat) : (recycling freed).countP takes = freed + 1 := by
  induction freed with
  | zero => rfl
  | succ freed ih =>
    rw [recycling, countP_takes_snoc, countP_takes_snoc, ih]
    rfl

/-- As many rows are taken as the table has, all but one of them freed, and every request stays in
the table. -/
theorem indices_inRange_iff_recycling : ∃ m o, startPager 5 ⟨fun _ => none⟩ = some m ∧
    Run (Step fun _ => 0) (some m) (recycling (maxMemory - 1)) o ∧
    EachStep (Step fun _ => 0) (some m) (recycling (maxMemory - 1)) (InRange fun _ => 0) := by
  have hlt : maxMemory - 1 < maxMemory := by simp [maxMemory]
  obtain ⟨n, r, -, -⟩ := exists_recycling (startPager_eq 5 _) hlt
  refine ⟨_, _, startPager_eq 5 _, r, (indices_inRange_iff (startPager_eq 5 _) r).mpr ?_⟩
  rw [countP_takes_recycling]
  omega

/-- With two rows in use at most, the table is left: what counts is how many rows have ever been
taken. -/
theorem table_left : ∃ m o, startPager 5 ⟨fun _ => none⟩ = some m ∧
    Run (Step fun _ => 0) (some m) (recycling (maxMemory - 1) ++ [fourBytes]) o ∧
    Always (Step fun _ => 0) (some m) (recycling (maxMemory - 1)) (fun _ => TwoLive) ∧
    ¬ EachStep (Step fun _ => 0) (some m) (recycling (maxMemory - 1) ++ [fourBytes])
      (InRange fun _ => 0) := by
  have hlt : maxMemory - 1 < maxMemory := by simp [maxMemory]
  obtain ⟨n, r, hrecycled, htwo⟩ := exists_recycling (startPager_eq 5 _) hlt
  refine ⟨_, _, startPager_eq 5 _, r.snoc ⟨rfl⟩, htwo, fun hall => ?_⟩
  have hrange := hall _ fourBytes _ List.prefix_rfl r
  have hle := hrecycled.taken.inRange_iff.mp hrange
  have hone : (takes fourBytes).toNat = 1 := rfl
  omega

end

end Machine

end GpuVirtmem.Pager
