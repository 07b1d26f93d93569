import GpuVirtmem.Backend.Launches
import GpuVirtmem.Lib.Linked

/-!
# Which launches page in (`virtmem/cuda_vmem.c`, `remote/remote_api_wrapper.c`)

Before a launch `gvirt_is_paging_required` collects the rows of its arguments that are waiting for
device memory. What it collects is lost with its copies of the caller's pointers, and where it has
collected nothing it stores the length through NULL. An argument whose row has neither device memory
nor data is not one that it looks for.

What a store through NULL does is not in the source, so it is a parameter (`nullTraps`). If it
traps, the function reports nothing at all when there is nothing to report, and no launch is let
through.
-/

namespace GpuVirtmem.Backend

open Lib VirtMem

/-- `gvirt_is_paging_required`, on a system where a store through NULL may not trap. -/
def gvirtIsPagingRequiredOn (nullTraps : Bool) (fuel : Nat) (ktable : Kmap) (kindex : Nat)
    (mtable : List MemMap) : Ran Bool :=
  match ktable.kobjects[kindex]? with
  | none => .fault
  | some obj =>
    (pageinLoop ktable.heap mtable fuel obj.head []).andThen fun reqarr =>
      if reqarr = [] then (if nullTraps then .fault else .returned false) else .returned true

/-- The call in `nvbackCudaLaunch_srv`, with the list that it leaves to `gvirt_page_in`: the
parameters are copies, and the caller's pointers lead to what they happened to before. -/
def pageinCall (fuel : Nat) (ktable : Kmap) (kindex : Nat) (around : Surroundings) :
    Ran (Bool × Option (List Nat)) :=
  (gvirtIsPagingRequired fuel ktable kindex around.vmem.table).andThen fun status =>
    .returned (status, around.unset)

/-- The indices, in order, of the arguments whose rows are waiting for device memory. -/
def requested (mtab : List MemMap) (args : List KernelArgNode) : List Int :=
  (args.filter fun arg => needsPagein mtab arg == some true).map KernelArgNode.memMapIndex

/-- The indices that are not negative are rows of the table. -/
def InTable (mtab : List MemMap) (args : List KernelArgNode) : Prop :=
  ∀ arg ∈ args, 0 ≤ arg.memMapIndex → arg.memMapIndex.toNat < mtab.length

/-- A row has a device pointer exactly in the statuses whose legend says so. -/
def StatusLegend (mtab : List MemMap) : Prop :=
  ∀ (i : Nat) (row : MemMap), mtab[i]? = some row →
    (row.status.resident = true ↔ row.actualDevptr ≠ NULL)

/-- Each argument with a row has one in use with device memory, and the launch does not pass NULL
for it. -/
def DataOnDevice (mtab : List MemMap) (args : List KernelArgNode) : Prop :=
  ∀ arg ∈ args, 0 ≤ arg.memMapIndex →
    (∃ row, mtab[arg.memMapIndex.toNat]? = some row ∧ row.valid = true ∧
      row.actualDevptr ≠ NULL) ∧
    ∀ mtab' value size offset,
      launchArg mtab arg = some (mtab', .setupArgument value size offset) → value ≠ NULL

/-- No argument has a row that is not in use, or one without device memory and without data. -/
def NoneUnallocated (mtab : List MemMap) (args : List KernelArgNode) : Prop :=
  ∀ arg ∈ args, 0 ≤ arg.memMapIndex → ∀ row, mtab[arg.memMapIndex.toNat]? = some row →
    row.valid = true ∧ row.status ≠ .dNoalloc

/-- The call completes, hands over exactly the rows that have to be paged in, and reports 0 only
where there are none. -/
def RequestIntact (ktable : Kmap) (kindex : Nat) (around : Surroundings)
    (args : List KernelArgNode) : Prop :=
  ∃ fuel status reqarr, pageinCall fuel ktable kindex around = .returned (status, reqarr) ∧
    (status = true → reqarr.map (·.map Int.ofNat) = some (requested around.vmem.table args)) ∧
    (status = false → requested around.vmem.table args = [])

/-! ## The loop -/

section

variable {heap : List KernelArgNode} {mtab : List MemMap} {head : Option Nat} {fuel : Nat}
  {ns : List (Nat × KernelArgNode)} {reqarr out : List Int} {arg : KernelArgNode}
  {args : List KernelArgNode}

/-- The rows are collected in the order of the arguments. -/
theorem requested_cons : requested mtab (arg :: args) =
    if needsPagein mtab arg = some true then arg.memMapIndex :: requested mtab args
    else requested mtab args := by
  unfold requested
  rw [List.filter_cons]
  split <;> simp_all

/-- A row that is not there cannot be looked at. -/
theorem needsPagein_eq_none_iff : needsPagein mtab arg = none ↔
    ¬(0 ≤ arg.memMapIndex → arg.memMapIndex.toNat < mtab.length) := by
  unfold needsPagein
  split <;> simp_all

/-- All rows of the arguments have to be there. -/
theorem inTable_cons : InTable mtab (arg :: args) ↔
    needsPagein mtab arg ≠ none ∧ InTable mtab args := by
  rw [ne_eq, needsPagein_eq_none_iff, not_not]
  exact List.forall_mem_cons

/-- The loop returns the rows that it is asked for, where all of them are there and there is room
for them. It is by induction on the argument list; unlike the launch loop this one goes on to the
next node. -/
theorem pageinLoop_returned_iff (h : Reaches KernelArgNode.next heap head ns)
    (hroom : reqarr.length ≤ maxPageinRequests) :
    pageinLoop heap mtab fuel head reqarr = .returned out ↔ ns.length < fuel ∧
      InTable mtab (ns.map Prod.snd) ∧
      (reqarr ++ requested mtab (ns.map Prod.snd)).length ≤ maxPageinRequests ∧
      out = reqarr ++ requested mtab (ns.map Prod.snd) := by
  induction ns generalizing head fuel reqarr with
  | nil =>
    obtain rfl : head = none := h
    cases fuel with
    | zero => simp [pageinLoop]
    | succ fuel => simp [pageinLoop, InTable, requested, hroom, eq_comm]
  | cons n ns ih =>
    obtain ⟨rfl, hn, hrest⟩ := h
    cases fuel with
    | zero => simp [pageinLoop]
    | succ fuel =>
      rw [List.map_cons, inTable_cons, requested_cons]
      simp only [pageinLoop, hn]
      cases hneeds : needsPagein mtab n.2 with
      | none => simp
      | some needs =>
        cases needs with
        | false => simp [ih hrest hroom]
        | true =>
          by_cases hlt : reqarr.length < maxPageinRequests
          · have hroom' : (reqarr ++ [n.2.memMapIndex]).length ≤ maxPageinRequests := by
              rw [List.length_append, List.length_singleton]
              exact hlt
            simp [hlt, ih hrest hroom']
          · simp only [hlt, if_false, if_true]
            apply iff_of_false
            · intro hreturned
              cases hreturned
            · -- the entry behind the last one would be written
              rintro ⟨-, -, hfull, -⟩
              rw [List.length_append, List.length_cons] at hfull
              omega

/-- Nothing is collected where no row has to be paged in. -/
theorem requested_eq_nil_iff : requested mtab args = [] ↔
    ∀ arg ∈ args, needsPagein mtab arg ≠ some true := by
  simp [requested]

end

/-! ## What is reported -/

section

variable {ktable : Kmap} {kindex fuel : Nat} {obj : KmapNode} {ns : List (Nat × KernelArgNode)}
  {mtab : List MemMap} {nullTraps status : Bool} {around : Surroundings} {arg : KernelArgNode}

/-- Where a store through NULL traps, nothing else is returned. -/
theorem gvirtIsPagingRequiredOn_true :
    gvirtIsPagingRequiredOn true fuel ktable kindex mtab =
      gvirtIsPagingRequired fuel ktable kindex mtab := rfl

/-- What the function reports is determined by what it has collected, and by what a store through
NULL does where that is nothing. -/
theorem gvirtIsPagingRequiredOn_returned_iff (hobj : ktable.kobjects[kindex]? = some obj)
    (hargs : Reaches KernelArgNode.next ktable.heap obj.head ns) :
    gvirtIsPagingRequiredOn nullTraps fuel ktable kindex mtab = .returned status ↔
      ns.length < fuel ∧ InTable mtab (ns.map Prod.snd) ∧
      (requested mtab (ns.map Prod.snd)).length ≤ maxPageinRequests ∧
      (status = true ∧ requested mtab (ns.map Prod.snd) ≠ [] ∨
        status = false ∧ requested mtab (ns.map Prod.snd) = [] ∧ nullTraps = false) := by
  have hloop : ∀ out, _ ↔ _ := fun out =>
    @pageinLoop_returned_iff ktable.heap mtab obj.head fuel ns [] out hargs (Nat.zero_le _)
  simp only [List.nil_append] at hloop
  unfold gvirtIsPagingRequiredOn
  rw [hobj]
  dsimp only
  cases hrun : pageinLoop ktable.heap mtab fuel obj.head [] with
  | returned out =>
    obtain ⟨hfuel, htable, hroom, rfl⟩ := (hloop out).mp hrun
    by_cases hnil : requested mtab (ns.map Prod.snd) = []
    · cases nullTraps <;> simp [Ran.andThen, hfuel, htable, hnil, eq_comm]
    · simp [Ran.andThen, hfuel, htable, hroom, hnil, eq_comm]
  | outOfFuel | fault =>
    apply iff_of_false
    · intro hreturned
      cases hreturned
    · rintro ⟨hfuel, htable, hroom, -⟩
      cases hrun.symm.trans ((hloop _).mpr ⟨hfuel, htable, hroom, rfl⟩)

/-- A row in use that is neither waiting nor unallocated has device memory. -/
theorem resident_of_not_waiting {row : MemMap} (hidx : 0 ≤ arg.memMapIndex)
    (hrow : mtab[arg.memMapIndex.toNat]? = some row) (hvalid : row.valid = true)
    (hstatus : row.status ≠ .dNoalloc) (hneeds : needsPagein mtab arg ≠ some true) :
    row.status.resident = true := by
  rw [needsPagein, if_pos hidx, hrow] at hneeds
  cases hs : row.status with
  | dInit | dReady | dModified => rfl
  | dNoalloc => exact absurd hs hstatus
  | dMemwait | dDeferred => simp [hvalid, hs] at hneeds

/-- A launch is let through without a page-in only with its data on the device, exactly if nothing
is reported at all, or some row is to be paged in or is not there, or no row is unallocated.

The first case is a store through NULL that traps. In the last one all rows are on the device or
waiting, and those that wait are reported. -/
theorem letThrough_iff (hobj : ktable.kobjects[kindex]? = some obj)
    (hargs : Reaches KernelArgNode.next ktable.heap obj.head ns) (hlegend : StatusLegend mtab) :
    (∀ fuel, gvirtIsPagingRequiredOn nullTraps fuel ktable kindex mtab = .returned false →
        DataOnDevice mtab (ns.map Prod.snd)) ↔
      nullTraps = true ∨ ¬InTable mtab (ns.map Prod.snd) ∨ requested mtab (ns.map Prod.snd) ≠ [] ∨
        NoneUnallocated mtab (ns.map Prod.snd) := by
  simp only [gvirtIsPagingRequiredOn_returned_iff hobj hargs]
  constructor
  · intro h
    by_contra hcond
    simp only [not_or, not_not, Bool.not_eq_true] at hcond
    obtain ⟨hnull, htable, hnil, hunallocated⟩ := hcond
    have hdata := h (ns.length + 1) ⟨Nat.lt_succ_self _, htable, by simp [hnil],
      .inr ⟨trivial, hnil, hnull⟩⟩
    apply hunallocated
    intro arg harg hidx row hrow
    obtain ⟨⟨row', hrow', hvalid, hptr⟩, -⟩ := hdata arg harg hidx
    cases hrow.symm.trans hrow'
    refine ⟨hvalid, ?_⟩
    intro hstatus
    have hresident := (hlegend _ row hrow).mpr hptr
    rw [hstatus] at hresident
    cases hresident
  · rintro hcond fuel ⟨-, htable, -, ⟨hstatus, -⟩ | ⟨-, hnil, hnull⟩⟩
    · cases hstatus
    · have hallocated : NoneUnallocated mtab (ns.map Prod.snd) := by
        rcases hcond with htraps | hout | hsome | hallocated
        · cases hnull.symm.trans htraps
        · exact absurd htable hout
        · exact absurd hnil hsome
        · exact hallocated
      intro arg harg hidx
      have hrow := List.getElem?_eq_getElem (htable arg harg hidx)
      obtain ⟨hvalid, hstatus⟩ := hallocated arg harg hidx _ hrow
      have hresident := resident_of_not_waiting hidx hrow hvalid hstatus
        (requested_eq_nil_iff.mp hnil arg harg)
      have hptr := (hlegend _ _ hrow).mp hresident
      refine ⟨⟨_, hrow, hvalid, hptr⟩, ?_⟩
      intro mtab' value size offset hlaunch
      rw [launchArg, if_pos hidx, hrow] at hlaunch
      cases hlaunch
      exact hptr

/-- The request for a page-in reaches the pager intact exactly if there is one, of at most 50 rows
that are all there, and the pointers that are never set happen to lead to it.

The arrays that the request is written to are the function's own, so that the caller's pointers
still hold whatever they held. -/
theorem requestIntact_iff (hobj : ktable.kobjects[kindex]? = some obj)
    (hargs : Reaches KernelArgNode.next ktable.heap obj.head ns) :
    RequestIntact ktable kindex around (ns.map Prod.snd) ↔
      InTable around.vmem.table (ns.map Prod.snd) ∧
      requested around.vmem.table (ns.map Prod.snd) ≠ [] ∧
      (requested around.vmem.table (ns.map Prod.snd)).length ≤ maxPageinRequests ∧
      around.unset.map (·.map Int.ofNat) =
        some (requested around.vmem.table (ns.map Prod.snd)) := by
  have hreturned : ∀ fuel status, _ ↔ _ := fun fuel status =>
    @gvirtIsPagingRequiredOn_returned_iff ktable kindex fuel obj ns around.vmem.table true status
      hobj hargs
  simp only [gvirtIsPagingRequiredOn_true, Bool.true_eq_false, and_false, or_false] at hreturned
  constructor
  · rintro ⟨fuel, status, reqarr, hcall, htrue, -⟩
    unfold pageinCall at hcall
    cases hrun : gvirtIsPagingRequired fuel ktable kindex around.vmem.table with
    | outOfFuel | fault =>
      rw [hrun] at hcall
      cases hcall
    | returned status' =>
      rw [hrun] at hcall
      cases hcall
      obtain ⟨-, htable, hroom, hstatus, hsome⟩ := (hreturned fuel status).mp hrun
      exact ⟨htable, hsome, hroom, htrue hstatus⟩
  · rintro ⟨htable, hsome, hroom, hunset⟩
    have hrun := (hreturned (ns.length + 1) true).mpr
      ⟨Nat.lt_succ_self _, htable, hroom, rfl, hsome⟩
    refine ⟨ns.length + 1, true, around.unset, ?_, fun _ => hunset, ?_⟩
    · rw [pageinCall, hrun]
      rfl
    · intro h
      cases h

end

/-- The argument that row 0 is. -/
def rowArgument : KernelArgNode :=
  { arg := 4, size := 8, offset := 0, memMapIndex := 0, next := none }

/-- A kernel map with one object, whose one argument is row 0. -/
def oneArgument : Kmap :=
  { kobjects :=
      [{ valid := true, launchPending := true, gridDim := ⟨1, 1, 1⟩, blockDim := ⟨1, 1, 1⟩,
         sharedMem := 0, stream := 0, head := some 0, tail := some 0, func := none }]
    index := 0
    heap := [rowArgument] }

/-- The list of that object has one node. -/
theorem oneArgument_reaches :
    Reaches KernelArgNode.next oneArgument.heap (some 0) [(0, rowArgument)] := ⟨rfl, rfl, rfl⟩

/-- A row in use without device memory. -/
def hostRow (status : VmemStatus) : MemMap :=
  { initRow 0 0 with valid := true, swap := some [0], size := 1, status := status }

/-- The row has no device memory, and its status says so. -/
theorem statusLegend_unallocated : StatusLegend [hostRow .dNoalloc] := by
  intro i row hrow
  cases i with
  | zero =>
    cases hrow
    simp [hostRow, initRow, VmemStatus.resident]
  | succ i => cases hrow

/-- A row without device memory is the only argument. It is not reported, so that the launch is let
through if the store through NULL does not trap: both sides are false. -/
theorem letThrough_iff_unallocated :
    (∀ fuel, gvirtIsPagingRequiredOn false fuel oneArgument 0 [hostRow .dNoalloc] =
        .returned false → DataOnDevice [hostRow .dNoalloc] [rowArgument]) ↔
      false = true ∨ ¬InTable [hostRow .dNoalloc] [rowArgument] ∨
        requested [hostRow .dNoalloc] [rowArgument] ≠ [] ∨
          NoneUnallocated [hostRow .dNoalloc] [rowArgument] :=
  @letThrough_iff oneArgument 0 _ [(0, rowArgument)] _ _ rfl oneArgument_reaches
    statusLegend_unallocated

/-- A row whose allocation has failed, and that was never written, is let through. -/
theorem unallocated_let_through : ¬∀ (nullTraps : Bool) (fuel : Nat) (ktable : Kmap) (kindex : Nat)
    (obj : KmapNode) (ns : List (Nat × KernelArgNode)) (mtab : List MemMap),
    ktable.kobjects[kindex]? = some obj → Reaches KernelArgNode.next ktable.heap obj.head ns →
      StatusLegend mtab →
        gvirtIsPagingRequiredOn nullTraps fuel ktable kindex mtab = .returned false →
          DataOnDevice mtab (ns.map Prod.snd) := by
  intro hclaim
  obtain ⟨⟨row, hrow, -, hptr⟩, -⟩ := hclaim false 2 oneArgument 0 _ _ _ rfl
    oneArgument_reaches statusLegend_unallocated rfl rowArgument (.head _) (Int.le_refl 0)
  cases hrow
  exact hptr rfl

/-- What a launch finds that waits for row 0: nothing in the pointers that are not set. -/
def waitingSurroundings : Surroundings :=
  { vmem := { table := [hostRow .dMemwait], device := ⟨fun _ => none⟩ }
    unset := none
    word := none }

/-- A row that waits is collected, and the pointers of the caller happen to lead to it. -/
theorem requestIntact_iff_waiting :
    RequestIntact oneArgument 0 waitingSurroundings [rowArgument] ↔
      InTable waitingSurroundings.vmem.table [rowArgument] ∧
      requested waitingSurroundings.vmem.table [rowArgument] ≠ [] ∧
      (requested waitingSurroundings.vmem.table [rowArgument]).length ≤ maxPageinRequests ∧
      waitingSurroundings.unset.map (·.map Int.ofNat) =
        some (requested waitingSurroundings.vmem.table [rowArgument]) :=
  @requestIntact_iff oneArgument 0 _ [(0, rowArgument)] _ rfl oneArgument_reaches

/-- The caller is not given the row that was collected: `reqarr` and `reqsize` are parameters, and
what they are set to ends with the function. -/
theorem request_lost : ¬∀ (ktable : Kmap) (kindex : Nat) (around : Surroundings) (obj : KmapNode)
    (ns : List (Nat × KernelArgNode)), ktable.kobjects[kindex]? = some obj →
      Reaches KernelArgNode.next ktable.heap obj.head ns →
        RequestIntact ktable kindex around (ns.map Prod.snd) := by
  intro hclaim
  obtain ⟨fuel, status, reqarr, hcall, htrue, hfalse⟩ :=
    hclaim oneArgument 0 waitingSurroundings _ _ rfl oneArgument_reaches
  cases status with
  | false => cases hfalse rfl
  | true =>
    unfold pageinCall at hcall
    cases hrun : gvirtIsPagingRequired fuel oneArgument 0 waitingSurroundings.vmem.table with
    | outOfFuel | fault =>
      rw [hrun] at hcall
      cases hcall
    | returned status =>
      rw [hrun] at hcall
      cases hcall
      cases htrue rfl

end GpuVirtmem.Backend
