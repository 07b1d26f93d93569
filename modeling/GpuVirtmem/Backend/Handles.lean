import GpuVirtmem.Interposer.Calls
import GpuVirtmem.Lib.Run
import GpuVirtmem.VirtMem.MemMap

/-!
# Handles of device memory (`remote/remote_api_wrapper.c`, `virtmem/cuda_vmem.c`,
`interposer/libci.c`)

A client is given a pointer for the device memory it asks for, and the backend process finds the row
of the shared table again by comparing that pointer with the addresses of the `handle` fields of the
rows it has created. The rows are listed in `vmapped_local_arr`; `*vmap_index`, shared with the
other backend processes, is the next row to create.

The condition is an odd one, since no client knows the handle before it has been created. It is
exact all the same: the handler returns the pointer of the request, so that the client has the right
pointer afterwards only if it had it before. `malloc_pointer_not_found` is the usual case.
-/

namespace GpuVirtmem.Backend

open Lib Remote Interposer VirtMem

/-- `MAX_MEMORY`. -/
def maxMemory : Nat := 10000

/-- `&table[i]->handle`, for rows of 48 bytes from `table` on. -/
def handleAddr (table i : Nat) : Nat := table + 48 * i + 4

/-- The state that the requests of one backend process work on. `localindex` is the length of
`vmapped_local_arr`. -/
structure BackendState where
  vmem : Vmem
  vmapIndex : Nat
  vmappedLocalArr : List Int

/-- What a handler returns. -/
inductive Status
  | ok | error
  deriving DecidableEq, Repr

/-- `packet->ret_ex_val.err = cudaSuccess`. -/
def setSuccess (packet : CudaPacket) : CudaPacket :=
  { packet with retExVal := { packet.retExVal with err := 0 } }

/-- `packet->ret_ex_val.err == 0`. -/
def succeeded (packet : CudaPacket) : Bool := packet.retExVal.err == 0

/-- `mem_map_find_entry`; `none` is its -1. -/
def memMapFindEntry (table : Nat) (indexes : List Int) (devptr : Nat) : Option Nat :=
  indexes.findIdx? fun index =>
    decide (0 ≤ index) && devptr != 0 && devptr == handleAddr table index.toNat

/-- `nvbackCudaMalloc_srv`, with the answers of `semget`, of the driver and of `malloc`. The pointer
in `args[0]` is passed to `mem_map_creat`, which does not write it. -/
def nvbackCudaMallocSrv (packet : CudaPacket) (semget : Bool) (dev : Option Grant) (swap : Bytes)
    (s : BackendState) : Option (BackendState × CudaPacket × Status) :=
  if semget then
    (memMapCreat s.vmem packet.args1.word0.toNat s.vmapIndex dev swap).bind fun vmem =>
      if s.vmappedLocalArr.length < maxMemory then
        some ({ vmem := vmem, vmapIndex := s.vmapIndex + 1,
                vmappedLocalArr := s.vmappedLocalArr ++ [(s.vmapIndex : Int)] },
              setSuccess packet, .ok)
      else none
  else some (s, packet, .error)

/-- `nvbackCudaFree_srv`. The entry found first is taken for one that was not found. -/
def nvbackCudaFreeSrv (table : Nat) (packet : CudaPacket) (s : BackendState) :
    Option (BackendState × CudaPacket × Status) :=
  match memMapFindEntry table s.vmappedLocalArr packet.args0.argp with
  | some (id + 1) =>
    (s.vmappedLocalArr[id + 1]?).bind fun index =>
    (memMapDelete s.vmem index.toNat).map fun vmem =>
      ({ s with vmem := vmem, vmappedLocalArr := s.vmappedLocalArr.set (id + 1) (-1) },
        setSuccess packet, .ok)
  | some 0 | none => some (s, packet, if succeeded packet then .ok else .error)

/-- Another backend process takes the next row. -/
def mallocElsewhere (size : Nat) (dev : Option Grant) (swap : Bytes) (s : BackendState) :
    Option BackendState :=
  (memMapCreat s.vmem size s.vmapIndex dev swap).map fun vmem =>
    { s with vmem := vmem, vmapIndex := s.vmapIndex + 1 }

/-! ## Runs of requests -/

/-- What happens to a backend process: a request of its client, or another process at work. -/
inductive Request
  | malloc (packet : CudaPacket) (semget : Bool) (dev : Option Grant) (swap : Bytes)
  | free (packet : CudaPacket)
  | elsewhere (size : Nat) (dev : Option Grant) (swap : Bytes)

/-- A backend process with the pointers its client has been given and has not freed, each with the
row that was created for it. -/
structure Served where
  backend : BackendState
  live : List (Nat × Nat)

/-- The pointers after a malloc: the client is given what the handler left in `args[0]`. -/
def handOut (s : Served) : BackendState × CudaPacket × Status → Served
  | (backend, packet, .ok) =>
    { backend := backend, live := (packet.args0.argp, s.backend.vmapIndex) :: s.live }
  | (backend, _, .error) => { s with backend := backend }

/-- One request. -/
def serve (table : Nat) (s : Served) : Request → Option Served
  | .malloc packet semget dev swap =>
    (nvbackCudaMallocSrv packet semget dev swap s.backend).map (handOut s)
  | .free packet =>
    (nvbackCudaFreeSrv table packet s.backend).map fun (backend, _, _) =>
      { backend := backend, live := s.live.filter (·.1 ≠ packet.args0.argp) }
  | .elsewhere size dev swap =>
    (mallocElsewhere size dev swap s.backend).map fun backend => { s with backend := backend }

/-- One request, as a step. -/
def Serves (table : Nat) (s : Served) (q : Request) (t : Served) : Prop := serve table s q = some t

/-- A request leads to one state, given the answers of the driver and the heap. -/
theorem Serves.det {table : Nat} {s t u : Served} {q : Request} (ht : Serves table s q t)
    (hu : Serves table s q u) : t = u := Option.some.inj (ht.symm.trans hu)

/-- The row is in use. -/
def RowLive (vmem : Vmem) (i : Nat) : Prop := ∃ row, vmem.table[i]? = some row ∧ row.valid = true

/-- Each pointer a client holds leads to the row created for it. -/
structure HandlesName (table : Nat) (s : Served) : Prop where
  found : ∀ p r, (p, r) ∈ s.live →
    ∃ id, memMapFindEntry table s.backend.vmappedLocalArr p = some id ∧
      s.backend.vmappedLocalArr[id]? = some (r : Int)
  used : ∀ p r, (p, r) ∈ s.live → RowLive s.backend.vmem r
  only : ∀ p r, (p, r) ∈ s.live → ∀ i, RowLive s.backend.vmem i → p = handleAddr table i → i = r
  distinct : s.live.Pairwise (·.1 ≠ ·.1)

/-- A malloc arrives with the handle of the row that it is about to create. -/
def HandleSent (table : Nat) (s : Served) : Request → Prop
  | .malloc packet true _ _ => packet.args0.argp = handleAddr table s.backend.vmapIndex
  | _ => True

/-! ## What a request does -/

section

variable {table : Nat} {s t : Served}

/-- Two rows have their handles at two addresses. -/
theorem handleAddr_inj {i j : Nat} (h : handleAddr table i = handleAddr table j) : i = j := by
  unfold handleAddr at h
  omega

/-- A row created, or deleted, is the only one that changes. -/
theorem memMapCreat_rows {vmem vmem' : Vmem} {size index : Nat} {dev : Option Grant}
    {swap : Bytes} (h : memMapCreat vmem size index dev swap = some vmem') :
    RowLive vmem' index ∧ ∀ i, i ≠ index → vmem'.table[i]? = vmem.table[i]? := by
  obtain ⟨node, hnode, rfl⟩ := Option.map_eq_some_iff.mp h
  have hlt : index < vmem.table.length := (List.getElem?_eq_some_iff.mp hnode).1
  constructor
  · exact ⟨_, List.getElem?_set_self hlt, rfl⟩
  · intro i hi
    exact List.getElem?_set_ne hi.symm

/-- A row that is deleted is the only one that changes. -/
theorem memMapDelete_other {vmem vmem' : Vmem} {index i : Nat}
    (h : memMapDelete vmem index = some vmem') (hi : i ≠ index) :
    vmem'.table[i]? = vmem.table[i]? := by
  obtain ⟨node, _, rfl⟩ := Option.map_eq_some_iff.mp h
  exact List.getElem?_set_ne hi.symm

/-- A row is live where it is the same row. -/
theorem RowLive.congr {vmem vmem' : Vmem} {i : Nat} (h : RowLive vmem i)
    (heq : vmem'.table[i]? = vmem.table[i]?) : RowLive vmem' i := by
  obtain ⟨row, hrow, hvalid⟩ := h
  exact ⟨row, heq.trans hrow, hvalid⟩

/-- An entry that is found has the pointer for its address. -/
theorem memMapFindEntry_some {indexes : List Int} {devptr id : Nat}
    (h : memMapFindEntry table indexes devptr = some id) :
    ∃ i : Nat, indexes[id]? = some (i : Int) ∧ devptr = handleAddr table i := by
  obtain ⟨hlt, hp, _⟩ := List.findIdx?_eq_some_iff_getElem.mp h
  simp only [Bool.and_eq_true, decide_eq_true_eq, beq_iff_eq] at hp
  refine ⟨indexes[id].toNat, ?_, hp.2⟩
  rw [Int.toNat_of_nonneg hp.1.1]
  exact List.getElem?_eq_getElem hlt

/-- The pointer of a listed row is found, and leads to that row. There is no other entry for it,
since handles are distinct. -/
theorem memMapFindEntry_of_mem {indexes : List Int} {i : Nat} (h : (i : Int) ∈ indexes) :
    ∃ id, memMapFindEntry table indexes (handleAddr table i) = some id ∧
      indexes[id]? = some (i : Int) := by
  have hsome : (memMapFindEntry table indexes (handleAddr table i)).isSome := by
    refine List.findIdx?_isSome.trans (List.any_eq_true.mpr ⟨i, h, ?_⟩)
    have hne : handleAddr table i ≠ 0 := by
      unfold handleAddr
      omega
    simp [hne]
  obtain ⟨id, hid⟩ := Option.isSome_iff_exists.mp hsome
  obtain ⟨j, hj, hij⟩ := memMapFindEntry_some hid
  obtain rfl := handleAddr_inj hij
  exact ⟨id, hid, hj⟩

/-- What holds in every state when each malloc is sent its handle. -/
structure HandlesKept (table : Nat) (s : Served) : Prop where
  below : ∀ i : Nat, (i : Int) ∈ s.backend.vmappedLocalArr → i < s.backend.vmapIndex
  named : ∀ p r, (p, r) ∈ s.live → p = handleAddr table r ∧
    (r : Int) ∈ s.backend.vmappedLocalArr ∧ RowLive s.backend.vmem r
  distinct : s.live.Pairwise (·.1 ≠ ·.1)

/-- What is kept gives what is asked for. -/
theorem HandlesKept.name (h : HandlesKept table s) : HandlesName table s where
  found p r hp := by
    obtain ⟨rfl, hmem, _⟩ := h.named p r hp
    exact memMapFindEntry_of_mem hmem
  used p r hp := (h.named p r hp).2.2
  only p r hp i _ hi := by
    obtain ⟨rfl, _, _⟩ := h.named p r hp
    exact (handleAddr_inj hi).symm
  distinct := h.distinct

/-- A malloc that is not refused creates the next row. -/
theorem nvbackCudaMallocSrv_cases {packet : CudaPacket} {semget : Bool} {dev : Option Grant}
    {swap : Bytes} {b b' : BackendState} {answer : CudaPacket} {status : Status}
    (h : nvbackCudaMallocSrv packet semget dev swap b = some (b', answer, status)) :
    (semget = false ∧ b' = b ∧ status = .error) ∨ (semget = true ∧ status = .ok ∧ ∃ vmem,
      memMapCreat b.vmem packet.args1.word0.toNat b.vmapIndex dev swap = some vmem ∧
      answer.args0 = packet.args0 ∧
      b' = { vmem := vmem, vmapIndex := b.vmapIndex + 1,
             vmappedLocalArr := b.vmappedLocalArr ++ [(b.vmapIndex : Int)] }) := by
  unfold nvbackCudaMallocSrv at h
  split at h
  · next hsem =>
    obtain ⟨vmem, hv, h⟩ := Option.bind_eq_some_iff.mp h
    split at h
    · cases h
      exact .inr ⟨hsem, rfl, vmem, hv, rfl, rfl⟩
    · cases h
  · next hsem =>
    cases h
    exact .inl ⟨Bool.eq_false_iff.mpr hsem, rfl, rfl⟩

/-- A malloc hands out the pointer it was sent, or nothing. -/
theorem serves_malloc_cases {packet : CudaPacket} {semget : Bool} {dev : Option Grant}
    {swap : Bytes} (ht : Serves table s (.malloc packet semget dev swap) t) :
    (semget = false ∧ t = s) ∨ (semget = true ∧ ∃ vmem,
      memMapCreat s.backend.vmem packet.args1.word0.toNat s.backend.vmapIndex dev swap = some vmem ∧
      t.backend = { vmem := vmem, vmapIndex := s.backend.vmapIndex + 1,
                    vmappedLocalArr :=
                      s.backend.vmappedLocalArr ++ [(s.backend.vmapIndex : Int)] } ∧
      t.live = (packet.args0.argp, s.backend.vmapIndex) :: s.live) := by
  obtain ⟨⟨b, answer, status⟩, hsrv, rfl⟩ := Option.map_eq_some_iff.mp ht
  rcases nvbackCudaMallocSrv_cases hsrv with
    ⟨hsem, rfl, rfl⟩ | ⟨hsem, rfl, vmem, hv, hargs, rfl⟩
  · exact .inl ⟨hsem, rfl⟩
  · refine .inr ⟨hsem, vmem, hv, rfl, ?_⟩
    rw [handOut, hargs]

/-- A free that finds its row deletes it, and lists it no more. -/
theorem nvbackCudaFreeSrv_cases {packet answer : CudaPacket} {b b' : BackendState}
    {status : Status} (h : nvbackCudaFreeSrv table packet b = some (b', answer, status)) :
    b' = b ∨ ∃ (id i : Nat) (vmem : Vmem), b.vmappedLocalArr[id]? = some (i : Int) ∧
      packet.args0.argp = handleAddr table i ∧ memMapDelete b.vmem i = some vmem ∧
      b' = { b with vmem := vmem, vmappedLocalArr := b.vmappedLocalArr.set id (-1) } := by
  unfold nvbackCudaFreeSrv at h
  split at h
  · next id hid =>
    obtain ⟨index, hindex, h⟩ := Option.bind_eq_some_iff.mp h
    obtain ⟨vmem, hdelete, h⟩ := Option.map_eq_some_iff.mp h
    cases h
    obtain ⟨i, hi, hp⟩ := memMapFindEntry_some hid
    obtain rfl : index = i := Option.some.inj (hindex.symm.trans hi)
    exact .inr ⟨id + 1, i, vmem, hi, hp, hdelete, rfl⟩
  · cases h
    exact .inl rfl
  · cases h
    exact .inl rfl

/-- A row created at `*vmap_index` is not one that the process has listed: the index only grows. -/
theorem HandlesKept.creat (h : HandlesKept table s) {vmem : Vmem} {size : Nat}
    {dev : Option Grant} {swap : Bytes}
    (hv : memMapCreat s.backend.vmem size s.backend.vmapIndex dev swap = some vmem) {p r : Nat}
    (hp : (p, r) ∈ s.live) : RowLive vmem r := by
  obtain ⟨_, hmem, hlive⟩ := h.named p r hp
  have hlt := h.below r hmem
  exact hlive.congr ((memMapCreat_rows hv).2 r (by omega))

/-- A malloc that is sent the handle of the row that it creates. -/
theorem HandlesKept.malloc (h : HandlesKept table s) {packet : CudaPacket} {semget : Bool}
    {dev : Option Grant} {swap : Bytes}
    (hsent : HandleSent table s (.malloc packet semget dev swap))
    (ht : Serves table s (.malloc packet semget dev swap) t) : HandlesKept table t := by
  obtain ⟨_, rfl⟩ | ⟨rfl, vmem, hv, hbackend, hlive⟩ := serves_malloc_cases ht
  · exact h
  · have hsent : packet.args0.argp = handleAddr table s.backend.vmapIndex := hsent
    refine ⟨?_, ?_, ?_⟩
    · rw [hbackend]
      intro i hi
      show i < s.backend.vmapIndex + 1
      rcases List.mem_append.mp hi with hi | hi
      · exact Nat.lt_succ_of_lt (h.below i hi)
      · have := List.mem_singleton.mp hi
        omega
    · rw [hbackend, hlive]
      intro p r hp
      rcases List.mem_cons.mp hp with hp | hp
      · obtain ⟨rfl, rfl⟩ := Prod.mk.inj hp
        exact ⟨hsent, List.mem_append_right _ (.head _), (memMapCreat_rows hv).1⟩
      · obtain ⟨hpr, hmem, _⟩ := h.named p r hp
        exact ⟨hpr, List.mem_append_left _ hmem, h.creat hv hp⟩
    · rw [hlive]
      refine List.pairwise_cons.mpr ⟨?_, h.distinct⟩
      rintro ⟨p, r⟩ hp heq
      obtain ⟨rfl, hmem, _⟩ := h.named p r hp
      have hlt := h.below r hmem
      have := handleAddr_inj (hsent.symm.trans heq)
      omega

/-- A free, of a row that is found or not. -/
theorem HandlesKept.free (h : HandlesKept table s) {packet : CudaPacket}
    (ht : Serves table s (.free packet) t) : HandlesKept table t := by
  obtain ⟨⟨backend, packet', status⟩, hsrv, rfl⟩ := Option.map_eq_some_iff.mp ht
  have hdistinct := h.distinct.filter fun x => x.1 ≠ packet.args0.argp
  rcases nvbackCudaFreeSrv_cases hsrv with rfl | ⟨id, i, vmem, hi, hpi, hv, rfl⟩
  · refine ⟨h.below, ?_, hdistinct⟩
    intro p r hp
    exact h.named p r (List.mem_filter.mp hp).1
  · refine ⟨?_, ?_, hdistinct⟩
    · intro j hj
      rcases List.mem_or_eq_of_mem_set hj with hj | hj
      · exact h.below j hj
      · omega
    · intro p r hp
      obtain ⟨hp, hne⟩ := List.mem_filter.mp hp
      obtain ⟨rfl, hmem, hlive⟩ := h.named p r hp
      have hri : r ≠ i := by
        rintro rfl
        exact of_decide_eq_true hne hpi.symm
      refine ⟨rfl, ?_, hlive.congr (memMapDelete_other hv hri)⟩
      -- the entry that is overwritten is not the one of `r`
      obtain ⟨k, hk⟩ := List.mem_iff_getElem?.mp hmem
      refine List.mem_iff_getElem?.mpr ⟨k, ?_⟩
      rw [List.getElem?_set_ne, hk]
      rintro rfl
      exact hri (Int.ofNat.inj (Option.some.inj (hk.symm.trans hi)))

/-- Another process takes a row, and with it the next index. -/
theorem HandlesKept.elsewhere (h : HandlesKept table s) {size : Nat} {dev : Option Grant}
    {swap : Bytes} (ht : Serves table s (.elsewhere size dev swap) t) : HandlesKept table t := by
  obtain ⟨backend, hsrv, rfl⟩ := Option.map_eq_some_iff.mp ht
  obtain ⟨vmem, hv, rfl⟩ := Option.map_eq_some_iff.mp hsrv
  refine ⟨fun i hi => Nat.lt_succ_of_lt (h.below i hi), ?_, h.distinct⟩
  intro p r hp
  obtain ⟨hpr, hmem, _⟩ := h.named p r hp
  exact ⟨hpr, hmem, h.creat hv hp⟩

/-- The step lemma. -/
theorem HandlesKept.step (h : HandlesKept table s) {q : Request} (hsent : HandleSent table s q)
    (ht : Serves table s q t) : HandlesKept table t := by
  cases q with
  | malloc packet semget dev swap => exact h.malloc hsent ht
  | free packet => exact h.free ht
  | elsewhere size dev swap => exact h.elsewhere ht

/-- A malloc that is sent another pointer leaves that pointer with its client. The source means to
write the handle to it, and writes it to a copy. -/
theorem handleSent_of_name {q : Request} (ht : Serves table s q t) (h : HandlesName table t) :
    HandleSent table s q := by
  cases q with
  | free | elsewhere => trivial
  | malloc packet semget dev swap =>
    obtain ⟨rfl, _⟩ | ⟨rfl, vmem, hv, hbackend, hlive⟩ := serves_malloc_cases ht
    · trivial
    · have hmem : (packet.args0.argp, s.backend.vmapIndex) ∈ t.live := by
        rw [hlive]
        exact .head _
      obtain ⟨id, hid, hr⟩ := h.found _ _ hmem
      obtain ⟨i, hi, hp⟩ := memMapFindEntry_some hid
      obtain rfl : i = s.backend.vmapIndex := Int.ofNat.inj (Option.some.inj (hi.symm.trans hr))
      exact hp

/-! ## Whole runs -/

/-- A process that has not served a request: the table may be in use by others. -/
def started (vmem : Vmem) (vmapIndex : Nat) : Served :=
  { backend := { vmem := vmem, vmapIndex := vmapIndex, vmappedLocalArr := [] }, live := [] }

/-- No pointer has been handed out. -/
theorem started_kept (vmem : Vmem) (vmapIndex : Nat) :
    HandlesKept table (started vmem vmapIndex) where
  below _ h := nomatch h
  named _ _ h := nomatch h
  distinct := .nil

/-- In all states of a run each pointer leads to its row exactly if every malloc of the run is sent
the handle of the row that it creates.

The handle is written to a copy of the argument, so that what the client is given is what it has
sent. -/
theorem handles_name_iff {vmem : Vmem} {vmapIndex : Nat} {qs : List Request}
    (r : Run (Serves table) (started vmem vmapIndex) qs s) :
    Always (Serves table) (started vmem vmapIndex) qs (fun _ t => HandlesName table t) ↔
      EachStep (Serves table) (started vmem vmapIndex) qs (HandleSent table) :=
  Run.always_iff_eachStep (I := fun _ t => HandlesKept table t) (fun _ _ _ _ => Serves.det)
    (started_kept vmem vmapIndex) (fun h hsent ht => h.step hsent ht) HandlesKept.name
    (fun _ => handleSent_of_name) r

end

/-- A table of one row, not in use. -/
def freshRow : Vmem := { table := [initRow 0 0], device := ⟨fun _ => none⟩ }

/-- A malloc that is sent the handle of the row, and its free. -/
theorem handles_name_iff_freshRow :
    ∃ s, Run (Serves 0) (started freshRow 0)
        [.malloc (rcudaMalloc 0 4 1) true none [0], .free (rcudaMalloc 0 4 1)] s ∧
      (Always (Serves 0) (started freshRow 0)
          [.malloc (rcudaMalloc 0 4 1) true none [0], .free (rcudaMalloc 0 4 1)]
          (fun _ t => HandlesName 0 t) ↔
        EachStep (Serves 0) (started freshRow 0)
          [.malloc (rcudaMalloc 0 4 1) true none [0], .free (rcudaMalloc 0 4 1)]
          (HandleSent 0)) := by
  have r : Run (Serves 0) (started freshRow 0)
      [.malloc (rcudaMalloc 0 4 1) true none [0], .free (rcudaMalloc 0 4 1)] _ :=
    (Run.start.cons rfl).cons rfl
  exact ⟨_, r, handles_name_iff r⟩

/-- The process after a malloc that was sent an address of the client. -/
def lostPointer : Served :=
  { backend :=
      { vmem :=
          { table := [{ initRow 0 0 with swap := some [0], size := 1, valid := true }]
            device := ⟨fun _ => none⟩ }
        vmapIndex := 1, vmappedLocalArr := [0] }
    live := [(0x7ffd00001000, 0)] }

/-- The client sends the address of its own variable, and is left with it: the row is not found. -/
theorem malloc_pointer_not_found : ¬ ∀ (table : Nat) (vmem : Vmem) (vmapIndex : Nat)
    (qs : List Request) (s : Served),
    Run (Serves table) (started vmem vmapIndex) qs s → HandlesName table s := by
  intro hclaim
  have r : Run (Serves 0x7f0000000000) (started freshRow 0)
      [.malloc (rcudaMalloc 0 0x7ffd00001000 1) true none [0]] lostPointer := Run.start.cons rfl
  obtain ⟨id, hid, _⟩ := (hclaim _ _ _ _ _ r).found 0x7ffd00001000 0 (.head _)
  have hnone : memMapFindEntry 0x7f0000000000 [0] 0x7ffd00001000 = none := by decide
  exact absurd (hnone.symm.trans hid) nofun

end GpuVirtmem.Backend
