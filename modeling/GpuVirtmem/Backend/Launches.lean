import GpuVirtmem.Backend.Modules
import GpuVirtmem.VirtMem.Launch
import GpuVirtmem.VirtMem.Paging

/-!
# Launch requests (`remote/remote_api_wrapper.c`, `virtmem/cuda_vmem.c`)

In the build with `PAGER` the configuration and the arguments of a launch are collected in the
current kernel object, and a launch of a function that is registered seals the object. Each launch
creates a semaphore, which nothing ever removes.

What a launch should do is small (`LaunchKept`): return, succeed for a registered function, and
leave a kernel object without arguments for the next one. It is met only by launches that fail, and
rightly so because their entry is not registered. The condition is stated on the requests as they
come, so that it can be checked before any of them is served.

Rounds are counted, for the sake of the loops that do not end, and what is shown is so for any
number of them. A process that is lost handles nothing more, so that the condition is on all
launches up to there.
-/

namespace GpuVirtmem.Backend

open Lib Interposer VirtMem

/-- How far C code got within the rounds that it was given. -/
inductive Ran (α : Type)
  | outOfFuel
  | fault
  | returned (a : α)
  deriving DecidableEq, Repr

/-- What goes on where the code has returned. -/
def Ran.andThen {α β : Type} (x : Ran α) (f : α → Ran β) : Ran β :=
  match x with
  | .outOfFuel => .outOfFuel
  | .fault => .fault
  | .returned a => f a

/-- `cudaErrorLaunchFailure`. -/
def cudaErrorLaunchFailure : Nat := 4

/-- The entries of `reqarr` in `gvirt_is_paging_required`. -/
def maxPageinRequests : Nat := 50

/-! ## The handler of a launch -/

/-- The row of an argument has to be paged in; no row is read for a value. -/
def needsPagein (mtab : List MemMap) (iter : KernelArgNode) : Option Bool :=
  if 0 ≤ iter.memMapIndex then
    (mtab[iter.memMapIndex.toNat]?).map fun mnode =>
      mnode.valid && (mnode.status = .dMemwait || mnode.status = .dDeferred)
  else some false

/-- The loop of `gvirt_is_paging_required` from the node at `iter`, with the `reqarr` so far. -/
def pageinLoop (heap : List KernelArgNode) (mtab : List MemMap) :
    Nat → Option Nat → List Int → Ran (List Int)
  | 0, _, _ => .outOfFuel
  | _ + 1, none, reqarr => .returned reqarr
  | fuel + 1, some a, reqarr =>
    match heap[a]? with
    | none => .fault
    | some iter =>
      match needsPagein mtab iter with
      | none => .fault
      | some false => pageinLoop heap mtab fuel iter.next reqarr
      | some true =>
        if reqarr.length < maxPageinRequests then
          pageinLoop heap mtab fuel iter.next (reqarr ++ [iter.memMapIndex])
        else .fault

/-- `gvirt_is_paging_required`. What it collects goes into blocks of its own, to which its copies of
the caller's pointers point; where there is nothing, `*reqsize = len` writes through NULL. -/
def gvirtIsPagingRequired (fuel : Nat) (ktable : Kmap) (kindex : Nat) (mtable : List MemMap) :
    Ran Bool :=
  match ktable.kobjects[kindex]? with
  | none => .fault
  | some obj =>
    (pageinLoop ktable.heap mtable fuel obj.head []).andThen fun reqarr =>
      if reqarr = [] then .fault else .returned true

/-- What a launch finds that is not its process' own: the memory map and the device at that time,
the rows that the pointers `reqarr` and `len` happen to give, which are not set, and the word that a
page-in reads through NULL. -/
structure Surroundings where
  vmem : Vmem
  unset : Option (List Nat)
  word : Option DevPtr

/-- What `nvbackCudaLaunch_srv` does with a function that it has found. The semaphore is free. -/
def launchFunction (fuel : Nat) (ktab : Kmap) (around : Surroundings) (f : RegFuncArgs) :
    Ran Kmap :=
  match kmapAddKernel ktab ((f.hostFun.map CString.stored).getD []) with
  | none => .fault
  | some (ktab, kmapid) =>
    (gvirtIsPagingRequired fuel ktab kmapid around.vmem.table).andThen fun status =>
      match (if status then
          around.unset.bind fun reqarr => gvirtPageIn around.vmem reqarr around.word
        else some around.vmem) with
      | none => .fault
      | some vmem =>
        match gvirtCudaLaunchIndex fuel ktab kmapid vmem.table with
        | .outOfFuel => .outOfFuel
        | .fault => .fault
        | .returned _ _ => .returned ktab

/-- A backend process between two requests: its kernel map, and whether the semaphore of
`LAUNCH_SEM_KEY` exists on its machine. -/
structure Launcher where
  ktab : Kmap
  semExists : Bool

/-- `nvbackCudaLaunch_srv`, with the error that it leaves in the packet. -/
def nvbackCudaLaunchSrv (fuel : Nat) (fatCInfoArr : FatCInfoArr) (s : Launcher)
    (around : Surroundings) (arg : Nat) : Ran (Nat × Launcher) :=
  if s.semExists then .returned (cudaErrorLaunchFailure, s) -- `semget` fails on `IPC_EXCL`
  else
    match launchSearch fatCInfoArr arg with
    | .error _ => .fault
    | .ok none => .returned (cudaErrorLaunchFailure, { s with semExists := true })
    | .ok (some f) =>
      (launchFunction fuel s.ktab around f).andThen fun ktab =>
        .returned (0, { ktab := ktab, semExists := true })

/-! ## Sequences of requests -/

/-- A request that has to do with kernels. Of an argument there are the bytes in the request buffer
and behind it, and the row that was found for it. -/
inductive KernelRequest
  | configureCall (gridDim blockDim : Dim3) (sharedMem stream : Nat)
  | setupArgument (arg : Bytes) (size offset : Nat) (vindex : Int)
  | launch (arg : Nat) (around : Surroundings)

/-- The request records an argument. -/
def KernelRequest.IsSetup : KernelRequest → Prop
  | .setupArgument .. => True
  | _ => False

/-- The request launches a kernel. -/
def KernelRequest.IsLaunch : KernelRequest → Prop
  | .launch .. => True
  | _ => False

/-- A request is handled, as long as the process has not been lost: it is where it writes or reads
outside a block, and where a launch does not return. -/
inductive Handles (fatCInfoArr : FatCInfoArr) :
    Option Launcher → KernelRequest → Option Launcher → Prop
  | configureCall {s : Launcher} {gridDim blockDim : Dim3} {sharedMem stream : Nat} :
      Handles fatCInfoArr (some s) (.configureCall gridDim blockDim sharedMem stream)
        ((kmapAddConfig s.ktab gridDim blockDim sharedMem stream).map fun ktab =>
          { s with ktab := ktab })
  | setupArgument {s : Launcher} {arg : Bytes} {size offset : Nat} {vindex : Int} :
      Handles fatCInfoArr (some s) (.setupArgument arg size offset vindex)
        ((kmapAddArg s.ktab arg size offset vindex).map fun ktab => { s with ktab := ktab })
  | launch {s t : Launcher} {arg err : Nat} {around : Surroundings} {fuel : Nat}
      (h : nvbackCudaLaunchSrv fuel fatCInfoArr s around arg = .returned (err, t)) :
      Handles fatCInfoArr (some s) (.launch arg around) (some t)
  | lost {s : Launcher} {arg : Nat} {around : Surroundings}
      (h : ∀ fuel r, nvbackCudaLaunchSrv fuel fatCInfoArr s around arg ≠ .returned r) :
      Handles fatCInfoArr (some s) (.launch arg around) none

/-- The entry is that of a function registered in a module of the array. -/
def Registered (fatCInfoArr : FatCInfoArr) (arg : Nat) : Prop :=
  ∃ infos, fatCInfoArr = some infos ∧ ∃ info ∈ infos, ∃ f ∈ info.regFns, f.hostFEaddr = arg

/-- The kernel object that the next requests fill has no arguments. -/
def ArgsEmpty (ktab : Kmap) : Prop :=
  ∃ obj, ktab.kobjects[ktab.index]? = some obj ∧ obj.head = none ∧ obj.tail = none

/-- Where the request is a launch, it returns, with success exactly for a registered entry, and the
next kernel object has no arguments. -/
def LaunchKept (fatCInfoArr : FatCInfoArr) (o : Option Launcher) : KernelRequest → Prop
  | .launch arg around => ∃ s fuel err t, o = some s ∧
      nvbackCudaLaunchSrv fuel fatCInfoArr s around arg = .returned (err, t) ∧
      (err = 0 ↔ Registered fatCInfoArr arg) ∧ ArgsEmpty t.ktab
  | _ => True

/-- Where the request is a launch, its entry is not registered, there are no arguments, and either
the semaphore exists or a module has been registered. -/
def LaunchClean (fatCInfoArr : FatCInfoArr) (o : Option Launcher) : KernelRequest → Prop
  | .launch arg _ => ∃ s, o = some s ∧ ¬Registered fatCInfoArr arg ∧ ArgsEmpty s.ktab ∧
      (s.semExists = true ∨ fatCInfoArr ≠ none)
  | _ => True

/-- Every launch request names an entry that is not registered, and comes before any argument;
either the semaphore exists or a module has been registered. -/
def LaunchesClean (fatCInfoArr : FatCInfoArr) (s : Launcher) (qs : List KernelRequest) : Prop :=
  (∀ arg around, .launch arg around ∈ qs → ¬Registered fatCInfoArr arg ∧ ArgsEmpty s.ktab ∧
    (s.semExists = true ∨ fatCInfoArr ≠ none)) ∧
  qs.Pairwise fun q q' => q.IsSetup → ¬q'.IsLaunch

/-! ## A registered launch does not return -/

section

variable {ktab ktab' : Kmap} {fuel arg err : Nat} {around : Surroundings} {arr : FatCInfoArr}

/-- Paging is required only of an object that has arguments. There is no case of an object for which
it is not required: the function returns true, or does not return. -/
theorem head_of_pagingRequired {kindex : Nat} {mtab : List MemMap} {status : Bool}
    (h : gvirtIsPagingRequired fuel ktab kindex mtab = .returned status) :
    ∃ obj a, ktab.kobjects[kindex]? = some obj ∧ obj.head = some a := by
  unfold gvirtIsPagingRequired at h
  cases hobj : ktab.kobjects[kindex]? with
  | none =>
    rw [hobj] at h
    cases h
  | some obj =>
    cases hhead : obj.head with
    | some a => exact ⟨obj, a, rfl, hhead⟩
    | none =>
      rw [hobj] at h
      dsimp only at h
      rw [hhead] at h
      cases fuel <;> cases h

/-- A launch with arguments does not return, since its loop does not end. One without does not get
that far: where there is nothing to page in, `gvirt_is_paging_required` writes through NULL. -/
theorem launchFunction_lost (f : RegFuncArgs) :
    launchFunction fuel ktab around f ≠ .returned ktab' := by
  intro h
  unfold launchFunction at h
  cases hadd : kmapAddKernel ktab ((f.hostFun.map CString.stored).getD []) with
  | none =>
    rw [hadd] at h
    cases h
  | some added =>
    obtain ⟨sealed, kmapid⟩ := added
    rw [hadd] at h
    dsimp only at h
    cases hpaging : gvirtIsPagingRequired fuel sealed kmapid around.vmem.table with
    | outOfFuel =>
      rw [hpaging] at h
      cases h
    | fault =>
      rw [hpaging] at h
      cases h
    | returned status =>
      rw [hpaging] at h
      dsimp only [Ran.andThen] at h
      split at h
      · cases h
      · next vmem _ =>
        obtain ⟨obj, a, hobj, hhead⟩ := head_of_pagingRequired hpaging
        split at h
        · cases h
        · cases h
        · next mtab calls hlaunch =>
          unfold gvirtCudaLaunchIndex at hlaunch
          rw [hobj] at hlaunch
          dsimp only at hlaunch
          rw [hhead] at hlaunch
          exact launchLoop_some _ _ _ _ _ _ _ _ hlaunch

/-- The search finds exactly what is registered. -/
theorem launchSearch_registered (arr : FatCInfoArr) (arg : Nat) :
    launchSearch arr arg = .error .badAccess ∧ arr = none ∨
      launchSearch arr arg = .ok none ∧ arr ≠ none ∧ ¬Registered arr arg ∨
      ∃ f, launchSearch arr arg = .ok (some f) ∧ Registered arr arg := by
  cases arr with
  | none => exact .inl ⟨rfl, rfl⟩
  | some infos =>
    have hsearch : launchSearch (some infos) arg =
        .ok (infos.findSome? fun p => p.regFns.find? fun f => f.hostFEaddr == arg) := rfl
    rw [hsearch]
    cases hfound : infos.findSome? fun p => p.regFns.find? fun f => f.hostFEaddr == arg with
    | none =>
      refine .inr (.inl ⟨rfl, Option.some_ne_none infos, ?_⟩)
      rintro ⟨infos', hinfos, info, hinfo, f, hf, haddr⟩
      obtain rfl := Option.some.inj hinfos
      have hnone := List.findSome?_eq_none_iff.mp hfound info hinfo
      have hne := List.find?_eq_none.mp hnone f hf
      exact hne (beq_iff_eq.mpr haddr)
    | some f =>
      obtain ⟨info, hinfo, hfind⟩ := List.exists_of_findSome?_eq_some hfound
      have haddr := List.find?_some hfind
      exact .inr (.inr ⟨f, rfl, infos, rfl, info, hinfo, f, List.mem_of_find?_eq_some hfind,
        beq_iff_eq.mp haddr⟩)

/-- Registered in the array is registered in a live module. -/
theorem registered_iff_live {live : Live} (h : Registry.HoldsMap arr live) (arg : Nat) :
    Registered arr arg ↔ ∃ handle m, live handle = some m ∧ ∃ f ∈ m.regFns, f.hostFEaddr = arg := by
  obtain ⟨found, hfound, -, hlive⟩ := h.launch arg
  rw [← hlive]
  rcases launchSearch_registered arr arg with ⟨herror, -⟩ | ⟨hnone, -, hnot⟩ | ⟨f, hsome, hreg⟩
  · cases herror.symm.trans hfound
  · cases hnone.symm.trans hfound
    exact iff_of_false hnot Bool.false_ne_true
  · cases hsome.symm.trans hfound
    exact iff_of_true hreg rfl

/-- Without the semaphore nothing is looked up: the handler fails before. -/
theorem nvbackCudaLaunchSrv_semExists {s : Launcher} (h : s.semExists = true) :
    nvbackCudaLaunchSrv fuel arr s around arg = .returned (cudaErrorLaunchFailure, s) :=
  if_pos h

/-- An entry that is not registered fails as well, and leaves the semaphore behind. -/
theorem nvbackCudaLaunchSrv_notFound {s : Launcher} (hsem : s.semExists = false)
    (h : launchSearch arr arg = .ok none) :
    nvbackCudaLaunchSrv fuel arr s around arg =
      .returned (cudaErrorLaunchFailure, { s with semExists := true }) := by
  unfold nvbackCudaLaunchSrv
  rw [hsem, h]
  rfl

/-- What is found is not launched, and the handler does not return. -/
theorem nvbackCudaLaunchSrv_found {s : Launcher} {f : RegFuncArgs} (hsem : s.semExists = false)
    (h : launchSearch arr arg = .ok (some f)) (r : Nat × Launcher) :
    nvbackCudaLaunchSrv fuel arr s around arg ≠ .returned r := by
  unfold nvbackCudaLaunchSrv
  rw [hsem, h]
  dsimp only
  cases hlaunch : launchFunction fuel s.ktab around f with
  | returned ktab' => exact absurd hlaunch (launchFunction_lost f)
  | outOfFuel =>
    intro hreturned
    cases hreturned
  | fault =>
    intro hreturned
    cases hreturned

/-- A launch that returns has failed, and has left the kernel map as it was: it either has not got
the semaphore, or has not found its entry. -/
theorem nvbackCudaLaunchSrv_returned_iff {s t : Launcher} :
    nvbackCudaLaunchSrv fuel arr s around arg = .returned (err, t) ↔
      err = cudaErrorLaunchFailure ∧ t = { s with semExists := true } ∧
        (s.semExists = true ∨ arr ≠ none ∧ ¬Registered arr arg) := by
  obtain ⟨ktab, semExists⟩ := s
  cases semExists with
  | true =>
    rw [nvbackCudaLaunchSrv_semExists rfl]
    simp [eq_comm]
  | false =>
    rcases launchSearch_registered arr arg with ⟨herror, rfl⟩ | ⟨hnone, hsome, hnot⟩ |
      ⟨f, hfound, hreg⟩
    · have hfault : nvbackCudaLaunchSrv fuel none ⟨ktab, false⟩ around arg = .fault := by
        unfold nvbackCudaLaunchSrv
        rw [herror]
        rfl
      rw [hfault]
      simp
    · rw [nvbackCudaLaunchSrv_notFound rfl hnone]
      simp [hsome, hnot, eq_comm]
    · apply iff_of_false (nvbackCudaLaunchSrv_found rfl hfound (err, t))
      simp [hreg]

/-- What is asked of a launch is what its entry, the kernel map and the semaphore say before it. -/
theorem launchKept_iff_launchClean (o : Option Launcher) (q : KernelRequest) :
    LaunchKept arr o q ↔ LaunchClean arr o q := by
  cases q with
  | configureCall | setupArgument => exact Iff.rfl
  | launch arg around =>
    constructor
    · rintro ⟨s, fuel, err, t, rfl, hret, hiff, hempty⟩
      obtain ⟨rfl, rfl, hreturns⟩ := nvbackCudaLaunchSrv_returned_iff.mp hret
      have hnot : ¬Registered arr arg := fun hreg => nomatch hiff.mpr hreg
      exact ⟨s, rfl, hnot, hempty, hreturns.imp_right And.left⟩
    · rintro ⟨s, rfl, hnot, hempty, hreturns⟩
      have hret : nvbackCudaLaunchSrv 0 arr s around arg =
          .returned (cudaErrorLaunchFailure, { s with semExists := true }) :=
        nvbackCudaLaunchSrv_returned_iff.mpr
          ⟨rfl, rfl, hreturns.imp_right fun hne => ⟨hne, hnot⟩⟩
      exact ⟨s, 0, _, _, rfl, hret, iff_of_false (by decide) hnot, hempty⟩

end

/-! ## Whole sequences -/

section

variable {ktab ktab' : Kmap} {arr : FatCInfoArr} {s s' : Launcher} {q : KernelRequest}
  {qs : List KernelRequest}

/-- The kernel map starts out without arguments. -/
theorem kmapInit_argsEmpty {kobjects : List KmapNode} (h : kmapInit kobjects = some ktab) :
    ArgsEmpty ktab := by
  unfold kmapInit at h
  split at h
  · next hlen =>
    cases h
    cases kobjects with
    | nil => cases hlen
    | cons obj kobjects => exact ⟨_, rfl, rfl, rfl⟩
  · cases h

/-- A configuration leaves the arguments as they are. -/
theorem kmapAddConfig_argsEmpty {gridDim blockDim : Dim3} {sharedMem stream : Nat}
    (h : kmapAddConfig ktab gridDim blockDim sharedMem stream = some ktab') :
    ArgsEmpty ktab' ↔ ArgsEmpty ktab := by
  obtain ⟨obj, hobj, rfl⟩ := Option.map_eq_some_iff.mp h
  have hlt : ktab.index < ktab.kobjects.length := (List.getElem?_eq_some_iff.mp hobj).1
  unfold ArgsEmpty
  rw [hobj]
  simp [hlt]

/-- Where an argument has been added, there is one. -/
theorem kmapAddArg_not_argsEmpty {arg : Bytes} {size offset : Nat} {vindex : Int}
    (h : kmapAddArg ktab arg size offset vindex = some ktab') : ¬ArgsEmpty ktab' := by
  obtain ⟨word, -, h⟩ := Option.bind_eq_some_iff.mp h
  obtain ⟨obj, hobj, h⟩ := Option.bind_eq_some_iff.mp h
  have hlt : ktab.index < ktab.kobjects.length := (List.getElem?_eq_some_iff.mp hobj).1
  dsimp only at h
  split at h
  · cases h
    simp [ArgsEmpty, hlt]
  · obtain ⟨last, htail, h⟩ := Option.bind_eq_some_iff.mp h
    obtain ⟨lastNode, -, rfl⟩ := Option.map_eq_some_iff.mp h
    simp [ArgsEmpty, hlt]

/-- What a request leads to is fixed, so that a sequence of requests has one run. -/
theorem Handles.unique {o t u : Option Launcher} (h : Handles arr o q t) (h' : Handles arr o q u) :
    t = u := by
  cases h with
  | configureCall | setupArgument =>
    cases h'
    rfl
  | launch h =>
    cases h' with
    | launch h' =>
      obtain ⟨-, rfl, -⟩ := nvbackCudaLaunchSrv_returned_iff.mp h
      obtain ⟨-, rfl, -⟩ := nvbackCudaLaunchSrv_returned_iff.mp h'
      rfl
    | lost h' => exact absurd h (h' _ _)
  | lost h =>
    cases h' with
    | launch h' => exact absurd h' (h _ _)
    | lost => rfl

/-- A process that has been lost handles nothing. -/
theorem Handles.not_of_none {t : Option Launcher} : ¬Handles arr none q t := by
  intro h
  cases h

/-- Requests without a launch among them are clean. -/
theorem launchesClean_of_no_launch (h : ∀ q ∈ qs, ¬q.IsLaunch) : LaunchesClean arr s qs := by
  constructor
  · intro arg around hmem
    exact absurd trivial (h _ hmem)
  · apply List.pairwise_of_forall_mem_list
    intro q _ q' hq' _
    exact h q' hq'

/-- Where there are arguments, no launch is clean: a launch does not clear them if it fails, and
does not return if it does not. -/
theorem LaunchesClean.no_launch (h : LaunchesClean arr s qs) (hargs : ¬ArgsEmpty s.ktab) :
    ∀ q ∈ qs, ¬q.IsLaunch := by
  intro q hmem hlaunch
  cases q with
  | configureCall | setupArgument => exact hlaunch
  | launch arg around => exact hargs (h.1 arg around hmem).2.1

/-- What one request has to do with the launches after it: a configuration nothing, an argument
forbids them, and a clean launch leaves the semaphore. The condition on a whole sequence is put
together from this. -/
theorem launchesClean_cons_iff (h : Handles arr (some s) q (some s')) :
    LaunchClean arr (some s) q ∧ LaunchesClean arr s' qs ↔ LaunchesClean arr s (q :: qs) := by
  generalize ho : some s' = o at h
  cases h with
  | configureCall =>
    obtain ⟨ktab, hktab, rfl⟩ := Option.map_eq_some_iff.mp ho.symm
    simp [LaunchClean, LaunchesClean, KernelRequest.IsSetup, kmapAddConfig_argsEmpty hktab]
  | setupArgument =>
    obtain ⟨ktab, hktab, rfl⟩ := Option.map_eq_some_iff.mp ho.symm
    have hargs := kmapAddArg_not_argsEmpty hktab
    constructor
    · intro ⟨_, hqs⟩
      have hno := hqs.no_launch hargs
      refine ⟨fun arg around hmem => ?_, List.pairwise_cons.mpr ⟨fun q hq _ => hno q hq, hqs.2⟩⟩
      cases hmem with
      | tail _ hmem => exact absurd trivial (hno _ hmem)
    · intro ⟨_, hpairs⟩
      have hno := (List.pairwise_cons.mp hpairs).1
      exact ⟨trivial, launchesClean_of_no_launch fun q hq => hno q hq trivial⟩
  | @launch _ _ arg _ around fuel hret =>
    obtain rfl := Option.some.inj ho
    obtain ⟨-, rfl, -⟩ := nvbackCudaLaunchSrv_returned_iff.mp hret
    constructor
    · intro ⟨⟨_, hs, hnot, hempty, hreturns⟩, hqs⟩
      cases hs
      refine ⟨fun arg' around' hmem => ?_, List.pairwise_cons.mpr ⟨fun _ _ => nofun, hqs.2⟩⟩
      cases hmem with
      | head => exact ⟨hnot, hempty, hreturns⟩
      | tail _ hmem =>
        obtain ⟨hnot', hempty', -⟩ := hqs.1 arg' around' hmem
        exact ⟨hnot', hempty', hreturns⟩
    · intro ⟨hall, hpairs⟩
      refine ⟨⟨s, rfl, hall arg around (.head qs)⟩, fun arg' around' hmem => ?_, hpairs.tail⟩
      obtain ⟨hnot', hempty', -⟩ := hall arg' around' (.tail _ hmem)
      exact ⟨hnot', hempty', .inl rfl⟩
  | lost => cases ho

/-- A single request is clean where it is so as a sequence. -/
theorem launchesClean_singleton_iff : LaunchesClean arr s [q] ↔ LaunchClean arr (some s) q := by
  cases q with
  | configureCall | setupArgument => simp [LaunchesClean, LaunchClean]
  | launch arg around =>
    constructor
    · intro ⟨hall, _⟩
      exact ⟨s, rfl, hall arg around (.head [])⟩
    · intro ⟨_, hs, hclean⟩
      cases hs
      refine ⟨fun arg' around' hmem => ?_, List.pairwise_singleton ..⟩
      cases List.mem_singleton.mp hmem
      exact hclean

/-- The launches of a sequence of requests are clean, each when it comes, exactly where the whole
sequence is. The left side is a matter of states, and the right side only of the requests. -/
theorem eachStep_launchClean_iff {o : Option Launcher} (r : Run (Handles arr) (some s) qs o) :
    EachStep (Handles arr) (some s) qs (LaunchClean arr) ↔ LaunchesClean arr s qs := by
  induction qs generalizing s with
  | nil =>
    apply iff_of_true
    · intro before e t hpre
      simp at hpre
    · apply launchesClean_of_no_launch
      simp
  | cons q qs ih =>
    obtain ⟨t, h, rt⟩ := r.first
    rw [eachStep_cons_iff]
    cases t with
    | some s' =>
      rw [← launchesClean_cons_iff h, ← ih rt]
      refine and_congr_right fun _ => ⟨fun hall => hall _ h, fun hrest u hu => ?_⟩
      obtain rfl := h.unique hu
      exact hrest
    | none =>
      cases qs with
      | nil =>
        rw [launchesClean_singleton_iff]
        refine and_iff_left fun u _ before e t hpre => ?_
        simp at hpre
      | cons q' qs =>
        obtain ⟨_, hlost, -⟩ := rt.first
        exact absurd hlost Handles.not_of_none

/-- Every launch returns, succeeds exactly for a registered entry and leaves no arguments, exactly
where none of them names a registered entry, none comes after an argument, and the first of them
finds the semaphore or a module.

A launch that is meant to succeed does not even return. So the condition leaves the launches that
are meant to fail, and of these the ones that leave nothing behind for the next. -/
theorem launches_kept_iff {o : Option Launcher} (r : Run (Handles arr) (some s) qs o) :
    EachStep (Handles arr) (some s) qs (LaunchKept arr) ↔ LaunchesClean arr s qs :=
  (eachStep_congr launchKept_iff_launchClean).trans (eachStep_launchClean_iff r)

end

/-! ## A failed launch -/

/-- No device memory, and nothing in the words that are not set. -/
def emptySurroundings : Surroundings := ⟨⟨[], ⟨fun _ => none⟩⟩, none, none⟩

/-- A module with one function, whose entry is 7. -/
def oneFunction : FatcubinInfo :=
  { fatCubin := none
    regVars := []
    regFns := [⟨1, none, 7⟩]
    fatCubinHandle := 1
    regVars_le := Nat.zero_le _
    regFns_le := by decide }

/-- A launch that finds the semaphore, or no function, fails and leaves the semaphore. -/
theorem handles_failed {arr : FatCInfoArr} {s : Launcher} {arg : Nat} (around : Surroundings)
    (h : s.semExists = true ∨ arr ≠ none ∧ ¬Registered arr arg) :
    Handles arr (some s) (.launch arg around) (some { s with semExists := true }) :=
  @Handles.launch _ _ _ _ cudaErrorLaunchFailure _ 0
    (nvbackCudaLaunchSrv_returned_iff.mpr ⟨rfl, rfl, h⟩)

/-- The module of that array has no other function. -/
theorem not_registered {arg : Nat} (h : arg ≠ 7) : ¬Registered (some [oneFunction]) arg := by
  rintro ⟨_, hinfos, info, hinfo, f, hf, rfl⟩
  cases hinfos
  cases List.mem_singleton.mp hinfo
  cases List.mem_singleton.mp hf
  exact h rfl

/-- What a kernel object may hold before `kmap_init`. -/
def staleObject : KmapNode :=
  { valid := true, launchPending := true, gridDim := ⟨1, 1, 1⟩, blockDim := ⟨1, 1, 1⟩,
    sharedMem := 0, stream := 0, head := some 3, tail := some 3, func := none }

/-- A configuration, two launches of entries that are not registered, and an argument. -/
def unregisteredLaunches : List KernelRequest :=
  [.configureCall ⟨1, 1, 1⟩ ⟨4, 1, 1⟩ 0 0, .launch 5 emptySurroundings, .launch 6 emptySurroundings,
    .setupArgument (List.replicate 8 0) 8 0 (-1)]

/-- On the map that `kmap_init` makes both launches fail, as they should: the first one makes the
semaphore, and the second one does not get past it. -/
theorem launches_kept_iff_unregistered :
    ∃ ktab o, kmapInit (List.replicate maxKernels staleObject) = some ktab ∧
      Run (Handles (some [oneFunction])) (some ⟨ktab, false⟩) unregisteredLaunches o ∧
      EachStep (Handles (some [oneFunction])) (some ⟨ktab, false⟩) unregisteredLaunches
        (LaunchKept (some [oneFunction])) := by
  obtain ⟨ktab, hinit⟩ : ∃ ktab, kmapInit (List.replicate maxKernels staleObject) = some ktab :=
    ⟨_, if_pos (List.length_replicate ..).ge⟩
  have hempty := kmapInit_argsEmpty hinit
  have hclean : LaunchesClean (some [oneFunction]) ⟨ktab, false⟩ unregisteredLaunches := by
    have hnone : (some [oneFunction] : FatCInfoArr) ≠ none := nofun
    refine ⟨fun arg around hmem => ⟨not_registered ?_, hempty, .inr hnone⟩, ?_⟩
    · rintro rfl
      simp [unregisteredLaunches] at hmem
    · simp [unregisteredLaunches, KernelRequest.IsSetup]
  obtain ⟨obj, hobj, -⟩ := hempty
  have hconfig : Handles (some [oneFunction]) (some ⟨ktab, false⟩)
      (.configureCall ⟨1, 1, 1⟩ ⟨4, 1, 1⟩ 0 0) _ := .configureCall
  rw [kmapAddConfig, hobj] at hconfig
  have r : Run (Handles (some [oneFunction])) (some ⟨ktab, false⟩) unregisteredLaunches _ :=
    .cons hconfig (.cons (handles_failed _ (.inr ⟨nofun, not_registered (by decide)⟩))
      (.cons (handles_failed _ (.inl rfl)) (.cons .setupArgument .start)))
  exact ⟨ktab, _, hinit, r, (launches_kept_iff r).mpr hclean⟩

/-- After a launch of an entry that is not registered the one of a registered entry fails. -/
theorem launch_after_failed_launch :
    ¬∀ (arr : FatCInfoArr) (ktab : Kmap) (qs : List KernelRequest) (o : Option Launcher),
      ArgsEmpty ktab → Run (Handles arr) (some ⟨ktab, false⟩) qs o →
        EachStep (Handles arr) (some ⟨ktab, false⟩) qs (LaunchKept arr) := by
  intro h
  have hfails : Handles (some [oneFunction]) (some ⟨oneKernel, false⟩)
      (.launch 5 emptySurroundings) (some ⟨oneKernel, true⟩) :=
    handles_failed _ (.inr ⟨nofun, not_registered (by decide)⟩)
  have hagain : Handles (some [oneFunction]) (some ⟨oneKernel, true⟩)
      (.launch 7 emptySurroundings) (some ⟨oneKernel, true⟩) := handles_failed _ (.inl rfl)
  have hkept := h (some [oneFunction]) oneKernel _ _ ⟨_, rfl, rfl, rfl⟩
    ((Run.start.cons hagain).cons hfails)
  have hlast := (eachStep_cons_iff.mp ((eachStep_cons_iff.mp hkept).2 _ hfails)).1
  obtain ⟨_, _, hnot, -⟩ := (launchKept_iff_launchClean _ _).mp hlast
  exact hnot ⟨_, rfl, oneFunction, .head _, _, .head _, rfl⟩

end GpuVirtmem.Backend
