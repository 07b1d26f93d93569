import GpuVirtmem.Backend.Handles
import GpuVirtmem.Lib.KeyedList
import GpuVirtmem.Sched.Table

/-!
# The owners of the rows (`l2scheduler/pager.c`, `virtmem/cuda_vmem.c`,
`remote/remote_api_wrapper.c`)

The pager initialises the shared table, and the backend processes create and delete rows in it. To
make room the pager chooses rows and groups them by the `pid` of each, which is the process it will
then ask to page them out.

Who owns a row is not in the table; it is recorded beside it, by the mallocs (`Machine.owner`). The
field `pid` is written once, by `mem_map_init` in the pager, and by nobody later. Both halves of the
property are about that field: whether it says who owns the row, and whether the lists of victims,
which are made by it, are of rows that the victims own.

How the rows are chosen, and whether they are enough, is not asked here (`Selection`, `Victims`);
whatever they are, they are grouped by a field that says something else than is meant.
-/

namespace GpuVirtmem.Pager

open Lib Remote VirtMem Backend
open Sched (maxControllerCount)

/-! ## The choice of victims -/

/-- An element of the array `pd` of `choose_victims_least_frequetly_used`, with the part of `reqarr`
that is in use. -/
structure ChosenVictim where
  pid : Nat
  reqarr : List Nat

/-- The conversion of a `size_t` to `int`. -/
def toInt (size : Nat) : Int := (size : Int).bmod (2 ^ 32)

/-- The conversion of an `int` or a `long` to an unsigned integer of 64 bits. -/
def toSizeT (n : Int) : Nat := (n % 2 ^ 64).toNat

/-- Sizes below 2^31 are not changed by the conversion. -/
theorem toInt_small {size : Nat} (h : size < 2 ^ 31) : toInt size = size := by
  unfold toInt
  rw [Int.bmod_eq_iff (by decide)]
  omega

/-- Nor are they by the conversion back. -/
theorem toSizeT_small {size : Nat} (h : size < 2 ^ 31) : toSizeT size = size := by
  have hlt : (size : Int) < 2 ^ 64 := by omega
  unfold toSizeT
  rw [Int.emod_eq_of_lt (Int.natCast_nonneg size) hlt]
  exact Int.toNat_natCast size

/-- One round of the search for the smallest row: `min` and `minindex`. `last_smallest` is 0 all the
time. -/
def searchRow (table : List MemMap) (found : Int × Nat) (i : Nat) : Option (Int × Nat) :=
  (table[i]?).map fun row =>
    if row.valid ∧ found.1 = -1 then (toInt row.size, i)
    else if row.valid ∧ row.size ≤ toSizeT found.1 ∧ 0 ≤ row.size ∧
        (row.status = .dInit ∨ row.status = .dReady ∨ row.status = .dModified) then
      (toInt row.size, i)
    else found

/-- The search through the rows up to `*gmt_index`. -/
def searchRows (table : List MemMap) (max : Nat) : Option (Int × Nat) :=
  (List.range max).foldlM (searchRow table) (-1, 0)

/-- `chosen_id`, where `none` stands for -1: the last victim with the pid. -/
def chosenId (pd : List ChosenVictim) (pid : Nat) : Option Nat :=
  lastMatch (fun i => if (pd[i]?).map ChosenVictim.pid = some pid then some i else none)
    (List.range pd.length)

/-- The row is added to the victim that has its pid, or to a new one. -/
def addRow (pd : List ChosenVictim) (pid minindex : Nat) : Option (List ChosenVictim) :=
  match chosenId pd pid with
  | some i => (pd[i]?).bind fun v =>
    if v.reqarr.length < maxMemory then some (pd.set i ⟨pid, v.reqarr ++ [minindex]⟩) else none
  | none => if pd.length < maxControllerCount then some (pd ++ [⟨pid, [minindex]⟩]) else none

/-- The loop of `choose_victims_least_frequetly_used`, in so many rounds at most. -/
def chooseLoop (table : List MemMap) (max memRequirement : Nat) :
    Nat → Int → List ChosenVictim → Option (List ChosenVictim)
  | 0, _, _ => none
  | fuel + 1, satisfied, pd =>
    if toSizeT satisfied < memRequirement then do
      let (min, minindex) ← searchRows table max
      let row ← table[minindex]?
      let pd ← addRow pd row.pid minindex
      chooseLoop table max memRequirement fuel (satisfied + min) pd
    else some pd

/-- `choose_victims_least_frequetly_used`: the victims it has chosen when it returns. -/
def chooseVictimsLeastFrequetlyUsed (table : List MemMap) (gmtIndex memRequirement fuel : Nat) :
    Option (List ChosenVictim) :=
  chooseLoop table gmtIndex memRequirement fuel 0 []

/-- Step 1 of `pager_worker`: `mem_req`, for the rows of a request. -/
def memReq (table : List MemMap) (reqarr : List Nat) : Option Nat :=
  reqarr.foldlM (fun memReq i => (table[i]?).map fun row => (memReq + row.size) % 2 ^ 64) 0

/-! ## The processes -/

/-- The shared memory, the rows that each process lists, and for each row the process whose malloc
created it last. -/
structure Machine where
  vmem : Vmem
  vmapIndex : Nat
  vmappedLocalArr : Nat → List Int
  owner : Nat → Nat

/-- `start_pager` in process `pid`. The memory that `shmget` makes is zero. -/
def startPager (pid : Nat) (device : Device) : Option Machine :=
  (memMapInit (List.replicate maxMemory (initRow 0 0)) maxMemory pid).map fun table =>
    { vmem := ⟨table, device⟩
      vmapIndex := 0
      vmappedLocalArr := fun _ => []
      owner := fun _ => pid }

/-- A request to the backend process `pid`. -/
inductive Request
  | malloc (pid : Nat) (packet : CudaPacket) (semget : Bool) (dev : Option Grant) (swap : Bytes)
  | free (pid : Nat) (packet : CudaPacket)

namespace Machine

/-- What a request to process `pid` works on. -/
def backend (m : Machine) (pid : Nat) : BackendState :=
  ⟨m.vmem, m.vmapIndex, m.vmappedLocalArr pid⟩

/-- What process `pid` has made of it. -/
def store (m : Machine) (pid : Nat) (b : BackendState) : Machine :=
  { m with
    vmem := b.vmem
    vmapIndex := b.vmapIndex
    vmappedLocalArr := Function.update m.vmappedLocalArr pid b.vmappedLocalArr }

/-- One request. `table pid` is where the process has attached the shared table. -/
def serve (table : Nat → Nat) (m : Machine) : Request → Option Machine
  | .malloc pid packet semget dev swap =>
    (nvbackCudaMallocSrv packet semget dev swap (m.backend pid)).map fun (b, _, status) =>
      match status with
      | .ok => { m.store pid b with owner := Function.update m.owner m.vmapIndex pid }
      | .error => m.store pid b
  | .free pid packet =>
    (nvbackCudaFreeSrv (table pid) packet (m.backend pid)).map fun (b, _, _) => m.store pid b

/-- One request, as a step. -/
def Serves (table : Nat → Nat) (m : Machine) (q : Request) (n : Machine) : Prop :=
  m.serve table q = some n

/-- Row `i` is in use, and process `pid` has created it. -/
def Owns (m : Machine) (pid i : Nat) : Prop :=
  ∃ row, m.vmem.table[i]? = some row ∧ row.valid = true ∧ m.owner i = pid

/-- Each row in use has the pid of its owner, and each victim that is chosen for a request owns the
rows that are listed for it. -/
structure KnowsOwners (m : Machine) : Prop where
  rows : ∀ i row, m.vmem.table[i]? = some row → row.valid = true → row.pid = m.owner i
  victims : ∀ reqarr memRequirement fuel pd, memReq m.vmem.table reqarr = some memRequirement →
    chooseVictimsLeastFrequetlyUsed m.vmem.table m.vmapIndex memRequirement fuel = some pd →
      ∀ v ∈ pd, ∀ i ∈ v.reqarr, m.Owns v.pid i

/-- A malloc that is served is one of the pager's own process. -/
def AsPager (pager : Nat) (_ : Machine) : Request → Prop
  | .malloc pid _ semget _ _ => semget = true → pid = pager
  | .free _ _ => True

end Machine

/-! ## What the choice ends on -/

section

variable {table : List MemMap} {max n pid minindex : Nat} {min : Int} {pd pd' : List ChosenVictim}

/-- Row `i` is in use. -/
def InUse (table : List MemMap) (i : Nat) : Prop := ∃ row, table[i]? = some row ∧ row.valid = true

/-- The search has found a row in use, or it has only seen rows that are not. -/
theorem searchRow_foldlM {found : Int × Nat}
    (h : (List.range n).foldlM (searchRow table) (-1, 0) = some found) :
    InUse table found.2 ∨ (found.1 = -1 ∧ ∀ i < n, ¬ InUse table i) := by
  induction n generalizing found with
  | zero =>
    cases h
    exact .inr ⟨rfl, fun i hi => absurd hi (Nat.not_lt_zero i)⟩
  | succ n ih =>
    rw [List.range_succ] at h
    obtain ⟨before, hbefore, hrow⟩ := foldlM_concat_iff.mp h
    obtain ⟨row, hget, hfound⟩ := Option.map_eq_some_iff.mp hrow
    subst hfound
    by_cases hvalid : row.valid = true
    · left
      split
      · exact ⟨row, hget, hvalid⟩
      · next hfirst =>
        split
        · exact ⟨row, hget, hvalid⟩
        · rcases ih hbefore with huse | ⟨hnone, _⟩
          · exact huse
          · exact absurd ⟨hvalid, hnone⟩ hfirst
    · have hn : ¬ InUse table n := by
        rintro ⟨row', hget', hvalid'⟩
        cases hget.symm.trans hget'
        exact hvalid hvalid'
      rw [if_neg fun h => hvalid h.1, if_neg fun h => hvalid h.1]
      rcases ih hbefore with huse | ⟨hnone, hall⟩
      · exact .inl huse
      · exact .inr ⟨hnone, Nat.forall_lt_succ_right.mpr ⟨hall, hn⟩⟩

/-- Where a row is in use, the search ends on one. -/
theorem searchRows_inUse (h : searchRows table max = some (min, minindex))
    (huse : ∃ i < max, InUse table i) : InUse table minindex := by
  obtain ⟨i, hi, huse⟩ := huse
  rcases searchRow_foldlM h with hfound | ⟨_, hnone⟩
  · exact hfound
  · exact absurd huse (hnone i hi)

/-- The rows that are listed are in use, and have the pid of the victim. -/
def Grouped (table : List MemMap) (pd : List ChosenVictim) : Prop :=
  ∀ v ∈ pd, ∀ i ∈ v.reqarr, ∃ row, table[i]? = some row ∧ row.valid = true ∧ row.pid = v.pid

/-- The victim that is found for a pid has it. -/
theorem pid_of_chosenId {i : Nat} {v : ChosenVictim} (h : chosenId pd pid = some i)
    (hv : pd[i]? = some v) : v.pid = pid := by
  obtain ⟨j, -, hj⟩ := mem_of_lastMatch h
  split at hj
  · next hmatch =>
    cases hj
    rw [hv] at hmatch
    exact Option.some.inj hmatch
  · cases hj

/-- A row that is in use joins the rows of its pid. -/
theorem addRow_grouped {row : MemMap} (hgrouped : Grouped table pd)
    (hrow : table[minindex]? = some row) (hvalid : row.valid = true)
    (h : addRow pd row.pid minindex = some pd') : Grouped table pd' := by
  unfold addRow at h
  cases hchosen : chosenId pd row.pid with
  | some i =>
    rw [hchosen] at h
    obtain ⟨v, hv, h⟩ := Option.bind_eq_some_iff.mp h
    split at h
    · cases h
      have hpid : v.pid = row.pid := pid_of_chosenId hchosen hv
      intro w hw k hk
      rcases List.mem_or_eq_of_mem_set hw with hw | rfl
      · exact hgrouped w hw k hk
      · rcases List.mem_append.mp hk with hk | hk
        · obtain ⟨row', hrow', hvalid', hpid'⟩ := hgrouped v (List.mem_of_getElem? hv) k hk
          exact ⟨row', hrow', hvalid', hpid'.trans hpid⟩
        · obtain rfl := List.mem_singleton.mp hk
          exact ⟨row, hrow, hvalid, rfl⟩
    · cases h
  | none =>
    rw [hchosen] at h
    dsimp only at h
    split at h
    · cases h
      intro w hw k hk
      rcases List.mem_append.mp hw with hw | hw
      · exact hgrouped w hw k hk
      · obtain rfl := List.mem_singleton.mp hw
        obtain rfl := List.mem_singleton.mp hk
        exact ⟨row, hrow, hvalid, rfl⟩
    · cases h

/-- Every round keeps the grouping, also one that lists a row for the second time. -/
theorem chooseLoop_grouped {memRequirement fuel : Nat} {satisfied : Int}
    (huse : ∃ i < max, InUse table i) (hgrouped : Grouped table pd)
    (h : chooseLoop table max memRequirement fuel satisfied pd = some pd') :
    Grouped table pd' := by
  induction fuel generalizing satisfied pd with
  | zero => cases h
  | succ fuel ih =>
    rw [chooseLoop] at h
    split at h
    · obtain ⟨⟨min, minindex⟩, hfound, h⟩ := Option.bind_eq_some_iff.mp h
      obtain ⟨row, hrow, h⟩ := Option.bind_eq_some_iff.mp h
      obtain ⟨pd'', hadd, h⟩ := Option.bind_eq_some_iff.mp h
      obtain ⟨row', hrow', hvalid⟩ := searchRows_inUse hfound huse
      cases hrow.symm.trans hrow'
      exact ih (addRow_grouped hgrouped hrow hvalid hadd) h
    · cases h
      exact hgrouped

/-- Memory is only required for rows that have a size. -/
theorem exists_size_of_memReq {reqarr : List Nat} {memRequirement : Nat}
    (h : memReq table reqarr = some memRequirement) (hpos : 0 < memRequirement) :
    ∃ (i : Nat) (row : MemMap), table[i]? = some row ∧ row.size ≠ 0 := by
  by_contra hnone
  have hzero : memRequirement = 0 := by
    refine foldlM_keeps (I := fun memReq => memReq = 0) ?_ rfl h
    rintro i - _ _ rfl hi
    obtain ⟨row, hrow, rfl⟩ := Option.map_eq_some_iff.mp hi
    have hsize : row.size = 0 := by
      by_contra hsize
      exact hnone ⟨i, row, hrow, hsize⟩
    rw [hsize, Nat.zero_add, Nat.zero_mod]
  omega

/-- The rows listed for a victim are in use, and have its pid. -/
theorem chooseVictims_grouped {reqarr : List Nat} {memRequirement fuel : Nat}
    (hbelow : ∀ i, InUse table i → i < max)
    (hempty : ∀ (i : Nat) (row : MemMap), table[i]? = some row → row.valid = false → row.size = 0)
    (hreq : memReq table reqarr = some memRequirement)
    (h : chooseVictimsLeastFrequetlyUsed table max memRequirement fuel = some pd) :
    Grouped table pd := by
  have hnone : Grouped table [] := fun v hv => absurd hv List.not_mem_nil
  rcases Nat.eq_zero_or_pos memRequirement with rfl | hpos
  · -- nothing is required, so that nothing is chosen
    cases fuel with
    | zero => cases h
    | succ fuel =>
      cases h
      exact hnone
  · obtain ⟨i, row, hrow, hsize⟩ := exists_size_of_memReq hreq hpos
    have huse : InUse table i := by
      refine ⟨row, hrow, ?_⟩
      by_contra hvalid
      exact hsize (hempty i row hrow (Bool.eq_false_iff.mpr hvalid))
    exact chooseLoop_grouped ⟨i, hbelow i huse, huse⟩ hnone h

end

/-! ## Runs -/

namespace Machine

section

variable {pager : Nat} {table : Nat → Nat} {m n : Machine} {q : Request} {pid : Nat}
  {device : Device}

/-- A request leads to one state of the machine. -/
theorem Serves.det {m' : Machine} (h : Serves table m q n) (h' : Serves table m q m') : n = m' :=
  Option.some.inj (h.symm.trans h')

/-- Every row has the pid of the pager, and the rows in use are owned by the pager's process. -/
structure Kept (pager : Nat) (m : Machine) : Prop where
  pids : ∀ (i : Nat) (row : MemMap), m.vmem.table[i]? = some row → row.pid = pager
  below : ∀ i, InUse m.vmem.table i → i < m.vmapIndex
  empty : ∀ (i : Nat) (row : MemMap), m.vmem.table[i]? = some row → row.valid = false → row.size = 0
  owned : ∀ i, InUse m.vmem.table i → m.owner i = pager

/-- The pager has initialised the first rows, and there are no others. -/
def initialised (pid size : Nat) (device : Device) : Machine where
  vmem := ⟨(List.range size).map (initRow pid), device⟩
  vmapIndex := 0
  vmappedLocalArr _ := []
  owner _ := pid

/-- The memory map that the pager leaves, row by row. -/
theorem startPager_eq (pid : Nat) (device : Device) :
    startPager pid device = some (initialised pid maxMemory device) := by
  unfold startPager
  generalize maxMemory = size
  have hlen : size ≤ (List.replicate size (initRow 0 0)).length := by
    rw [List.length_replicate]
  rw [memMapInit, if_pos hlen, List.drop_replicate, Nat.sub_self, List.replicate_zero,
    List.append_nil]
  rfl

/-- All rows have the pid of the pager, and none is in use. -/
theorem initialised_kept (pid size : Nat) (device : Device) :
    (initialised pid size device).Kept pid := by
  have hrows : ∀ (i : Nat) (row : MemMap),
      ((List.range size).map (initRow pid))[i]? = some row → ∃ j, row = initRow pid j := by
    intro i row hrow
    obtain ⟨j, -, rfl⟩ := List.mem_map.mp (List.mem_of_getElem? hrow)
    exact ⟨j, rfl⟩
  have hunused : ∀ i, ¬ InUse ((List.range size).map (initRow pid)) i := by
    rintro i ⟨row, hrow, hvalid⟩
    obtain ⟨j, rfl⟩ := hrows i row hrow
    cases hvalid
  refine ⟨fun i row hrow => ?_, fun i hi => absurd hi (hunused i), fun i row hrow _ => ?_,
    fun i hi => absurd hi (hunused i)⟩
  · obtain ⟨j, rfl⟩ := hrows i row hrow
    rfl
  · obtain ⟨j, rfl⟩ := hrows i row hrow
    rfl

/-- So it is when the pager has started. -/
theorem startPager_kept (h : startPager pager device = some m) : m.Kept pager := by
  rw [startPager_eq] at h
  rw [← Option.some.inj h]
  exact initialised_kept pager maxMemory device

/-- As long as only the pager's own process has been given rows, their pid is that of their
owner. -/
theorem Kept.knowsOwners (h : m.Kept pager) : m.KnowsOwners := by
  constructor
  · intro i row hrow hvalid
    rw [h.pids i row hrow, h.owned i ⟨row, hrow, hvalid⟩]
  · intro reqarr memRequirement fuel pd hreq hchosen v hv i hi
    obtain ⟨row, hrow, hvalid, hpid⟩ :=
      chooseVictims_grouped h.below h.empty hreq hchosen v hv i hi
    refine ⟨row, hrow, hvalid, ?_⟩
    rw [h.owned i ⟨row, hrow, hvalid⟩, ← hpid, h.pids i row hrow]

/-- A row that is written: the others are what they were. -/
theorem getElem?_set_cases {rows : List MemMap} {index i : Nat} {new row : MemMap}
    (h : (rows.set index new)[i]? = some row) :
    (i = index ∧ row = new) ∨ (i ≠ index ∧ rows[i]? = some row) := by
  by_cases hi : index = i
  · subst hi
    have hlt : index < (rows.set index new).length := (List.getElem?_eq_some_iff.mp h).1
    rw [List.length_set] at hlt
    rw [List.getElem?_set_self hlt] at h
    exact .inl ⟨rfl, (Option.some.inj h).symm⟩
  · rw [List.getElem?_set_ne hi] at h
    exact .inr ⟨Ne.symm hi, h⟩

/-- A row that is in use after a write was so before, or is the one that was written. -/
theorem inUse_set {rows : List MemMap} {index i : Nat} {new : MemMap}
    (h : InUse (rows.set index new) i) : (i = index ∧ new.valid = true) ∨ InUse rows i := by
  obtain ⟨row, hrow, hvalid⟩ := h
  rcases getElem?_set_cases hrow with ⟨hi, rfl⟩ | ⟨_, hrow⟩
  · exact .inl ⟨hi, hvalid⟩
  · exact .inr ⟨row, hrow, hvalid⟩

/-- A row that is written with the pid it had, and with a size only if it is in use, leaves all rows
with the pid of the pager and those that are not in use without a size. -/
theorem Kept.set {index : Nat} {node new : MemMap} (h : m.Kept pager)
    (hnode : m.vmem.table[index]? = some node) (hpid : new.pid = node.pid)
    (hsize : new.valid = false → new.size = 0) (i : Nat) (row : MemMap)
    (hrow : (m.vmem.table.set index new)[i]? = some row) :
    row.pid = pager ∧ (row.valid = false → row.size = 0) := by
  rcases getElem?_set_cases hrow with ⟨_, rfl⟩ | ⟨_, hrow⟩
  · exact ⟨hpid.trans (h.pids index node hnode), hsize⟩
  · exact ⟨h.pids i row hrow, h.empty i row hrow⟩

/-- A creation leaves the row's pid as the pager has set it. This is what goes wrong: the field is
never written again. -/
theorem memMapCreat_row {vmem vmem' : Vmem} {size index : Nat} {dev : Option Grant} {swap : Bytes}
    (h : memMapCreat vmem size index dev swap = some vmem') :
    ∃ node new, vmem.table[index]? = some node ∧ vmem'.table = vmem.table.set index new ∧
      new.pid = node.pid ∧ new.valid = true := by
  obtain ⟨node, hnode, rfl⟩ := Option.map_eq_some_iff.mp h
  refine ⟨node, _, hnode, rfl, ?_, rfl⟩
  cases dev <;> rfl

/-- A deletion leaves it, too. -/
theorem memMapDelete_row {vmem vmem' : Vmem} {index : Nat}
    (h : memMapDelete vmem index = some vmem') :
    ∃ node new, vmem.table[index]? = some node ∧ vmem'.table = vmem.table.set index new ∧
      new.pid = node.pid ∧ new.valid = false ∧ new.size = 0 := by
  obtain ⟨node, hnode, rfl⟩ := Option.map_eq_some_iff.mp h
  exact ⟨node, _, hnode, rfl, rfl, rfl, rfl⟩

/-- A malloc that is not refused writes the next row, and its process is the owner. -/
theorem serves_malloc_row {packet : CudaPacket} {semget : Bool} {dev : Option Grant} {swap : Bytes}
    (hs : Serves table m (.malloc pid packet semget dev swap) n) :
    (semget = false ∧ n.vmem = m.vmem ∧ n.vmapIndex = m.vmapIndex ∧ n.owner = m.owner) ∨
    (semget = true ∧ n.vmapIndex = m.vmapIndex + 1 ∧
      n.owner = Function.update m.owner m.vmapIndex pid ∧
      ∃ node new, m.vmem.table[m.vmapIndex]? = some node ∧
        n.vmem.table = m.vmem.table.set m.vmapIndex new ∧
        new.pid = node.pid ∧ new.valid = true) := by
  obtain ⟨⟨b, answer, status⟩, hsrv, rfl⟩ := Option.map_eq_some_iff.mp hs
  rcases nvbackCudaMallocSrv_cases hsrv with ⟨hsem, rfl, rfl⟩ | ⟨hsem, rfl, vmem, hv, -, rfl⟩
  · exact .inl ⟨hsem, rfl, rfl, rfl⟩
  · exact .inr ⟨hsem, rfl, rfl, memMapCreat_row hv⟩

/-- A free that finds its row empties it. -/
theorem serves_free_row {packet : CudaPacket} (hs : Serves table m (.free pid packet) n) :
    n.vmapIndex = m.vmapIndex ∧ n.owner = m.owner ∧ (n.vmem = m.vmem ∨
      ∃ index node new, m.vmem.table[index]? = some node ∧
        n.vmem.table = m.vmem.table.set index new ∧
        new.pid = node.pid ∧ new.valid = false ∧ new.size = 0) := by
  obtain ⟨⟨b, answer, status⟩, hsrv, rfl⟩ := Option.map_eq_some_iff.mp hs
  rcases nvbackCudaFreeSrv_cases hsrv with rfl | ⟨id, index, vmem, -, -, hv, rfl⟩
  · exact ⟨rfl, rfl, .inl rfl⟩
  · exact ⟨rfl, rfl, .inr ⟨index, memMapDelete_row hv⟩⟩

/-- The invariant is about the rows, the next row and the owners only. -/
theorem Kept.congr (h : m.Kept pager) (hvmem : n.vmem = m.vmem)
    (hindex : n.vmapIndex = m.vmapIndex) (howner : n.owner = m.owner) : n.Kept pager := by
  constructor
  · simpa only [hvmem] using h.pids
  · simpa only [hvmem, hindex] using h.below
  · simpa only [hvmem] using h.empty
  · simpa only [hvmem, howner] using h.owned

/-- The row of a malloc is owned by its process, and has the pid of the pager. -/
theorem Kept.malloc_row {packet : CudaPacket} {dev : Option Grant} {swap : Bytes}
    (h : m.Kept pager) (hs : Serves table m (.malloc pid packet true dev swap) n) :
    n.Owns pid m.vmapIndex ∧
      ∀ (i : Nat) (row : MemMap), n.vmem.table[i]? = some row → row.pid = pager := by
  obtain ⟨hsem, _⟩ | ⟨-, -, howner, node, new, hnode, htable, hpid, hvalid⟩ :=
    serves_malloc_row hs
  · cases hsem
  · have hlt := (List.getElem?_eq_some_iff.mp hnode).1
    refine ⟨⟨new, ?_, hvalid, ?_⟩, fun i row hrow => ?_⟩
    · rw [htable]
      exact List.getElem?_set_self hlt
    · rw [howner, Function.update_self]
    · rw [htable] at hrow
      exact (h.set hnode hpid (by simp [hvalid]) i row hrow).1

/-- A malloc of the pager's own process, or one that is refused. -/
theorem Kept.malloc {packet : CudaPacket} {semget : Bool} {dev : Option Grant} {swap : Bytes}
    (h : m.Kept pager) (hown : semget = true → pid = pager)
    (hs : Serves table m (.malloc pid packet semget dev swap) n) : n.Kept pager := by
  obtain ⟨-, hvmem, hindex, howner⟩ |
    ⟨hsem, hindex, howner, node, new, hnode, htable, hpid, hvalid⟩ := serves_malloc_row hs
  · exact h.congr hvmem hindex howner
  · obtain rfl := hown hsem
    have hkept := h.set hnode hpid (by simp [hvalid])
    constructor
    · rw [htable]
      exact fun i row hrow => (hkept i row hrow).1
    · rw [htable, hindex]
      intro i hi
      rcases inUse_set hi with ⟨rfl, _⟩ | hi
      · exact Nat.lt_succ_self _
      · exact Nat.lt_succ_of_lt (h.below i hi)
    · rw [htable]
      exact fun i row hrow => (hkept i row hrow).2
    · rw [htable, howner]
      intro i hi
      by_cases hnew : i = m.vmapIndex
      · rw [hnew, Function.update_self]
      · rw [Function.update_of_ne hnew]
        rcases inUse_set hi with ⟨hi, _⟩ | hi
        · exact absurd hi hnew
        · exact h.owned i hi

/-- A free makes no row one's own. -/
theorem Kept.free {packet : CudaPacket} (h : m.Kept pager)
    (hs : Serves table m (.free pid packet) n) : n.Kept pager := by
  obtain ⟨hindex, howner, hvmem | ⟨index, node, new, hnode, htable, hpid, hvalid, hsize⟩⟩ :=
    serves_free_row hs
  · exact h.congr hvmem hindex howner
  · have hkept := h.set hnode hpid fun _ => hsize
    have hinUse : ∀ i, InUse n.vmem.table i → InUse m.vmem.table i := by
      rw [htable]
      intro i hi
      rcases inUse_set hi with ⟨_, hnew⟩ | hi
      · simp [hvalid] at hnew
      · exact hi
    rw [← htable] at hkept
    constructor
    · exact fun i row hrow => (hkept i row hrow).1
    · rw [hindex]
      exact fun i hi => h.below i (hinUse i hi)
    · exact fun i row hrow => (hkept i row hrow).2
    · rw [howner]
      exact fun i hi => h.owned i (hinUse i hi)

/-- In every state of a run each row in use has the pid of its owner, and the victims are the owners
of their rows, exactly when no process but the pager's own has been given memory.

The pid of a row is set when the table is initialised and at no other time, so that it is right for
the pager's own rows and for no others. -/
theorem knowsOwners_iff {qs : List Request} (hstart : startPager pager device = some m)
    (r : Run (Serves table) m qs n) :
    Always (Serves table) m qs (fun _ m => m.KnowsOwners) ↔
      EachStep (Serves table) m qs (AsPager pager) := by
  refine Run.always_iff_eachStep (I := fun _ m => m.Kept pager) (fun _ _ _ _ => Serves.det)
    (startPager_kept hstart) ?_ Kept.knowsOwners ?_ r
  · intro _ m q n h hown hs
    cases q with
    | malloc pid packet semget dev swap => exact h.malloc hown hs
    | free pid packet => exact h.free hs
  · intro _ m q n h hs hknows
    cases q with
    | malloc pid packet semget dev swap =>
      intro hsem
      subst hsem
      obtain ⟨⟨row, hrow, hvalid, howner⟩, hpids⟩ := h.malloc_row hs
      rw [← howner, ← hknows.rows _ row hrow hvalid]
      exact hpids _ row hrow
    | free pid packet => trivial

end

/-- A malloc is served where there is a next row, and room to list it. -/
theorem exists_serves_malloc {table : Nat → Nat} {m : Machine} {pid : Nat} {row : MemMap}
    (hrow : m.vmem.table[m.vmapIndex]? = some row)
    (hlocal : (m.vmappedLocalArr pid).length < maxMemory) (packet : CudaPacket)
    (dev : Option Grant) (swap : Bytes) :
    ∃ n, Serves table m (.malloc pid packet true dev swap) n := by
  unfold Serves serve nvbackCudaMallocSrv memMapCreat backend
  simp only [if_true, hrow, Option.map_some, Option.bind_some, if_pos hlocal]
  exact ⟨_, rfl⟩

/-- The first row of the table that the pager has initialised is that of the first malloc. -/
theorem exists_firstMalloc {size : Nat} (hsize : 0 < size) (pid : Nat) (packet : CudaPacket) :
    ∃ n, Serves (fun _ => 0) (initialised 5 size ⟨fun _ => none⟩)
      (.malloc pid packet true none [0]) n := by
  have hrow : ((List.range size).map (initRow 5))[0]? = some (initRow 5 0) := by
    rw [List.getElem?_map, List.getElem?_range hsize, Option.map_some]
  have hlocal : ([] : List Int).length < maxMemory := by simp [maxMemory]
  exact exists_serves_malloc hrow hlocal packet none [0]

/-- A malloc without the semaphore is refused, and changes nothing. -/
theorem exists_serves_refused {table : Nat → Nat} {m : Machine} (pid : Nat) (packet : CudaPacket) :
    ∃ n, Serves table m (.malloc pid packet false none []) n :=
  ⟨_, rfl⟩

/-- A malloc lists nothing for the other processes. -/
theorem serves_malloc_other {table : Nat → Nat} {m n : Machine} {pid p : Nat} {packet : CudaPacket}
    {semget : Bool} {dev : Option Grant} {swap : Bytes}
    (hs : Serves table m (.malloc pid packet semget dev swap) n) (hp : p ≠ pid) :
    n.vmappedLocalArr p = m.vmappedLocalArr p := by
  obtain ⟨⟨b, answer, status⟩, -, rfl⟩ := Option.map_eq_some_iff.mp hs
  cases status <;> exact Function.update_of_ne hp ..

/-- The pager's own process is served a malloc; process 7 then asks, and is refused. -/
def ownMalloc : List Request :=
  [.malloc 5 (Interposer.rcudaMalloc 0 4 1) true none [0],
    .malloc 7 (Interposer.rcudaMalloc 0 8 1) false none []]

/-- Process 6 asks, and is served. -/
def foreignMalloc : Request := .malloc 6 (Interposer.rcudaMalloc 0 8 1) true none [0]

/-- The owners are known while another process is refused, and no longer once one is served. -/
theorem knowsOwners_iff_ownMalloc : ∃ m n o, startPager 5 ⟨fun _ => none⟩ = some m ∧
    Run (Serves fun _ => 0) m ownMalloc n ∧
    Always (Serves fun _ => 0) m ownMalloc (fun _ m => m.KnowsOwners) ∧
    Run (Serves fun _ => 0) m (ownMalloc ++ [foreignMalloc]) o ∧
    ¬ Always (Serves fun _ => 0) m (ownMalloc ++ [foreignMalloc]) fun _ m => m.KnowsOwners := by
  have hlen : 1 < maxMemory := by simp [maxMemory]
  obtain ⟨m₁, h₁⟩ := exists_firstMalloc (Nat.lt_of_succ_lt hlen) 5 (Interposer.rcudaMalloc 0 4 1)
  obtain ⟨m₂, h₂⟩ : ∃ n, Serves (fun _ => 0) m₁ (.malloc 7 (Interposer.rcudaMalloc 0 8 1) false
    none []) n := exists_serves_refused 7 _
  -- the next row is the second one, and process 6 has listed none
  have hrow : ∃ row, m₂.vmem.table[m₂.vmapIndex]? = some row := by
    obtain ⟨hsem, -⟩ | ⟨-, hindex, -, _, _, -, htable, -⟩ := serves_malloc_row h₁
    · cases hsem
    obtain ⟨-, hvmem, hsame, -⟩ | ⟨hsem, -⟩ := serves_malloc_row h₂
    · refine ⟨_, List.getElem?_eq_getElem ?_⟩
      rw [hvmem, hsame, hindex, htable, List.length_set, initialised, List.length_map,
        List.length_range]
      exact hlen
    · cases hsem
  obtain ⟨row, hrow⟩ := hrow
  have hlocal : (m₂.vmappedLocalArr 6).length < maxMemory := by
    rw [serves_malloc_other h₂ (by decide), serves_malloc_other h₁ (by decide)]
    exact Nat.lt_of_succ_lt hlen
  obtain ⟨m₃, h₃⟩ := exists_serves_malloc hrow hlocal (Interposer.rcudaMalloc 0 8 1) none [0]
  have r : Run (Serves fun _ => 0) (initialised 5 maxMemory ⟨fun _ => none⟩) ownMalloc m₂ :=
    .cons h₁ (.cons h₂ .start)
  have hknows := knowsOwners_iff (startPager_eq 5 _) r
  refine ⟨_, m₂, m₃, startPager_eq 5 _, r, hknows.mpr ?_, r.snoc h₃, fun hall => ?_⟩
  · exact .cons (fun _ _ _ _ => Serves.det) h₁ (fun _ => rfl)
      (.cons (fun _ _ _ _ => Serves.det) h₂ nofun .nil)
  · have hown := (knowsOwners_iff (startPager_eq 5 _) (r.snoc h₃)).mp hall _ _ _ List.prefix_rfl r
    cases hown rfl

/-- The row that process 6 has created has the pid of the pager. When memory is needed, the pager
asks itself to page it out. -/
theorem first_row_of_pager : ∃ m n, startPager 5 ⟨fun _ => none⟩ = some m ∧
    Run (Serves fun _ => 0) m [.malloc 6 (Interposer.rcudaMalloc 0 4 1) true none [0]] n ∧
    ¬ n.KnowsOwners := by
  have hpos : 0 < maxMemory := by simp [maxMemory]
  obtain ⟨n, hn⟩ := exists_firstMalloc hpos 6 (Interposer.rcudaMalloc 0 4 1)
  refine ⟨_, n, startPager_eq 5 _, Run.start.cons hn, fun hknows => ?_⟩
  obtain ⟨⟨row, hrow, hvalid, howner⟩, hpids⟩ := (initialised_kept 5 _ _).malloc_row hn
  have hpid : 5 = 6 := by
    rw [← howner, ← hknows.rows _ row hrow hvalid, hpids _ row hrow]
  cases hpid

end Machine

end GpuVirtmem.Pager
