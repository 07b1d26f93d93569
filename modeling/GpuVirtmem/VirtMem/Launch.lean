import GpuVirtmem.VirtMem.KernelMap

/-!
# A recorded launch and its replay

What the client's calls are and what a replay of them is, and what becomes of it: the launch loop
never leaves its first node, and the recorded entry is one character long. So a launch is replayed
exactly if it has no arguments and the name of its kernel is empty.

The two conditions come from two defects that have nothing to do with each other, the loop that does
not move on and the `sizeof` of a `char`. Either of them alone keeps nearly every launch from being
replayed. The recording is not at fault: it succeeds always, and `KernelRecord` shows for the
arguments that what is recorded is what was asked for.
-/

namespace GpuVirtmem.VirtMem

open Lib

/-- A `cudaSetupArgument` of the client. The eight bytes `kmap_add_arg` reads are there. -/
structure ArgRequest where
  arg : Bytes
  readable : 8 ≤ arg.length
  size : Nat
  offset : Nat
  vindex : Int

/-- A launch of the client: its configuration, its arguments in order and its kernel. -/
structure LaunchRequest where
  gridDim : Dim3
  blockDim : Dim3
  sharedMem : Nat
  stream : Nat
  args : List ArgRequest
  hostFun : CString

namespace LaunchRequest

/-- The calls that record the launch in the kernel map. -/
def record (r : LaunchRequest) (table : Kmap) : Option (Kmap × Nat) :=
  (kmapAddConfig table r.gridDim r.blockDim r.sharedMem r.stream).bind fun table =>
  (r.args.foldlM (fun table a => kmapAddArg table a.arg a.size a.offset a.vindex) table).bind
    fun table => kmapAddKernel table r.hostFun.stored

/-- The call that sets up an argument: the row's device pointer, or the value itself. -/
def setup (mtab : List MemMap) (a : ArgRequest) : Option CudaCall :=
  (if 0 ≤ a.vindex then (mtab[a.vindex.toNat]?).map MemMap.actualDevptr else readWord a.arg).map
    fun value => .setupArgument value a.size a.offset

/-- The calls a replay of the launch makes. -/
def calls (r : LaunchRequest) (mtab : List MemMap) : Option (List CudaCall) :=
  (r.args.mapM (setup mtab)).map fun setups =>
    .configureCall r.gridDim r.blockDim r.sharedMem r.stream :: setups ++ [.launch (some r.hostFun)]

end LaunchRequest

/-! ## Recording never fails -/

/-- The configuration call of a kernel object. -/
def KmapNode.configure (obj : KmapNode) : CudaCall :=
  .configureCall obj.gridDim obj.blockDim obj.sharedMem obj.stream

/-- The object that is being recorded makes the configuration call `config`, and has an argument
list that can be appended to and is empty exactly if `args` is. -/
structure Recording (config : CudaCall) (args : List ArgRequest) (table : Kmap) : Prop where
  obj : ∃ obj, table.kobjects[table.index]? = some obj ∧ obj.configure = config ∧
    (args = [] ↔ obj.head = none) ∧ (args = [] ↔ obj.tail = none) ∧
    ∀ last, obj.tail = some last → last < table.heap.length

section

variable {table : Kmap} {config : CudaCall} {args : List ArgRequest} {obj : KmapNode}

/-- What `kmap_add_arg` reads is eight bytes wide, whatever the size of the argument says. -/
theorem readWord_of_readable (a : ArgRequest) : readWord a.arg = some (decodeLE (a.arg.take 8)) :=
  if_pos a.readable

/-- A configuration begins the recording of a launch, in an object without arguments. -/
theorem Recording.kmapAddConfig (hobj : table.kobjects[table.index]? = some obj)
    (hhead : obj.head = none) (htail : obj.tail = none) (gridDim blockDim : Dim3)
    (sharedMem stream : Nat) :
    ∃ table', kmapAddConfig table gridDim blockDim sharedMem stream = some table' ∧
      Recording (.configureCall gridDim blockDim sharedMem stream) [] table' := by
  obtain ⟨hlt, _⟩ := List.getElem?_eq_some_iff.mp hobj
  unfold VirtMem.kmapAddConfig
  rw [hobj]
  refine ⟨_, rfl, ⟨_, List.getElem?_set_self hlt, rfl, ?_⟩⟩
  simp [hhead, htail]

/-- An argument goes behind those that are there. -/
theorem Recording.kmapAddArg (h : Recording config args table) (a : ArgRequest) :
    ∃ table', kmapAddArg table a.arg a.size a.offset a.vindex = some table' ∧
      Recording config (args ++ [a]) table' := by
  obtain ⟨obj, hobj, hconf, hhead, htail, hlast⟩ := h.obj
  obtain ⟨hlt, _⟩ := List.getElem?_eq_some_iff.mp hobj
  unfold VirtMem.kmapAddArg
  rw [readWord_of_readable a, hobj]
  simp only [Option.bind_some]
  split
  · refine ⟨_, rfl, ⟨_, List.getElem?_set_self hlt, hconf, ?_⟩⟩
    simp
  · next hne =>
    have hargs : args ≠ [] := fun he => hne ⟨hhead.mp he, htail.mp he⟩
    obtain ⟨last, hl⟩ := Option.ne_none_iff_exists'.mp (mt htail.mpr hargs)
    obtain ⟨first, hf⟩ := Option.ne_none_iff_exists'.mp (mt hhead.mpr hargs)
    simp only [hl, Option.bind_some, List.getElem?_eq_getElem (hlast last hl), Option.map_some]
    refine ⟨_, rfl, ⟨_, List.getElem?_set_self hlt, hconf, ?_⟩⟩
    simp [hf]

/-- And so do several, by induction: recording a launch never fails, however many arguments it
has. -/
theorem Recording.kmapAddArgs (h : Recording config args table) (new : List ArgRequest) :
    ∃ table', new.foldlM (fun t a => VirtMem.kmapAddArg t a.arg a.size a.offset a.vindex) table =
        some table' ∧ Recording config (args ++ new) table' := by
  induction new generalizing table args with
  | nil => exact ⟨table, rfl, by rwa [List.append_nil]⟩
  | cons a new ih =>
    obtain ⟨m, hm, hrec⟩ := h.kmapAddArg a
    obtain ⟨table', ht, hrec'⟩ := ih hrec
    refine ⟨table', ?_, by rwa [List.append_cons]⟩
    rw [List.foldlM_cons, hm]
    exact ht

/-! ## What becomes of the replay -/

/-- From a node on, the loop does not return, however many rounds it is given: each round ends at
the node at which it began. It may fault on the way, but it does not come to the `cudaLaunch` behind
the loop. -/
theorem launchLoop_some (heap : List KernelArgNode) (func : Option Bytes) (a : Nat) (fuel : Nat)
    (mtab : List MemMap) (calls : List CudaCall) :
    ∀ mtab' calls', launchLoop heap func (some a) fuel mtab calls ≠ .returned mtab' calls' := by
  induction fuel generalizing mtab calls with
  | zero =>
    intro mtab' calls' h
    cases h
  | succ fuel ih =>
    intro mtab' calls' h
    unfold launchLoop at h
    split at h
    · next hfirst => cases hfirst
    · next hfirst =>
      cases hfirst
      split at h
      · exact ih _ _ _ _ h
      · cases h

/-- Without a node the loop is over, and the launch is the one call that follows. -/
theorem launchLoop_none {heap : List KernelArgNode} {func : Option Bytes} {fuel : Nat}
    {mtab mtab' : List MemMap} {calls calls' : List CudaCall}
    (h : launchLoop heap func none fuel mtab calls = .returned mtab' calls') :
    calls' = calls ++ [.launch (func.bind CString.read)] := by
  cases fuel with
  | zero => cases h
  | succ fuel =>
    cases h
    rfl

/-- A launch of the object that `kmap_add_kernel` has completed begins with the configuration that
was recorded, whatever becomes of it then. -/
theorem launch_added (hobj : table.kobjects[table.index]? = some obj) (s : CString) :
    ∃ table', kmapAddKernel table s.stored = some (table', table.index) ∧
      ∀ fuel mtab, gvirtCudaLaunchIndex fuel table' table.index mtab =
        launchLoop table.heap (some (overwrite [0] s.stored 1)) obj.head fuel mtab
          [obj.configure] := by
  obtain ⟨hlt, _⟩ := List.getElem?_eq_some_iff.mp hobj
  have hcopy : memcpy [0] s.stored 1 = some (overwrite [0] s.stored 1) :=
    memcpy_of_le (by simp [CString.stored]) (by simp)
  unfold kmapAddKernel
  rw [hobj, hcopy]
  refine ⟨_, rfl, ?_⟩
  intro fuel mtab
  simp only [gvirtCudaLaunchIndex, List.getElem?_set_self hlt]
  rfl

/-- The one byte that `kmap_add_kernel` copies is a string only if it is the terminator, and then
the string is empty. -/
theorem read_stored_take_one (s : CString) :
    CString.read (overwrite [0] s.stored 1) = some s ↔ s = .empty := by
  obtain ⟨bytes, hnul⟩ := s
  cases bytes with
  | nil =>
    simp only [CString.empty, iff_true]
    exact CString.read_stored ⟨[], hnul⟩ []
  | cons b bytes =>
    have hb : b ≠ 0 := fun h => hnul (h ▸ .head bytes)
    have hnone : CString.read (overwrite [0] (CString.stored ⟨b :: bytes, hnul⟩) 1) = none := by
      refine if_neg ?_
      simpa [overwrite, CString.stored] using hb.symm
    simp [hnone, CString.empty]

end

/-- Recording a launch in an object without arguments succeeds, and its replay issues the client's
calls exactly if there are no arguments and the kernel's name is empty.

Recording is not at fault: with arguments the loop of the launch does not go on to the next, and of
the kernel's name one character is recorded. -/
theorem launch_replays_iff {table : Kmap} {obj : KmapNode}
    (hobj : table.kobjects[table.index]? = some obj) (hhead : obj.head = none)
    (htail : obj.tail = none) (r : LaunchRequest) (mtab : List MemMap) :
    ∃ table' k, r.record table = some (table', k) ∧
      ((∃ fuel mtab' calls, gvirtCudaLaunchIndex fuel table' k mtab = .returned mtab' calls ∧
          r.calls mtab = some calls) ↔ r.args = [] ∧ r.hostFun = .empty) := by
  obtain ⟨t₁, h₁, hrec₁⟩ :=
    Recording.kmapAddConfig hobj hhead htail r.gridDim r.blockDim r.sharedMem r.stream
  obtain ⟨t₂, h₂, hrec₂⟩ := hrec₁.kmapAddArgs r.args
  obtain ⟨obj₂, hobj₂, hconf, hempty, _, _⟩ := hrec₂.obj
  obtain ⟨t₃, h₃, hlaunch⟩ := launch_added hobj₂ r.hostFun
  refine ⟨t₃, t₂.index, ?_, ?_⟩
  · simp only [LaunchRequest.record, h₁, h₂, h₃, Option.bind_some]
  simp only [hlaunch, hconf]
  constructor
  · rintro ⟨fuel, mtab', calls, hret, hcalls⟩
    have hargs : r.args = [] := by
      by_contra hne
      obtain ⟨first, hf⟩ := Option.ne_none_iff_exists'.mp (mt hempty.mpr hne)
      rw [hf] at hret
      exact launchLoop_some _ _ _ _ _ _ _ _ hret
    rw [hempty.mp hargs] at hret
    rw [launchLoop_none hret, LaunchRequest.calls, hargs] at hcalls
    refine ⟨hargs, (read_stored_take_one _).mp ?_⟩
    simpa using hcalls.symm
  · rintro ⟨hargs, hfun⟩
    rw [hempty.mp hargs]
    refine ⟨1, mtab, _, rfl, ?_⟩
    simp [LaunchRequest.calls, hargs, (read_stored_take_one _).mpr hfun]

/-- A kernel map whose one object is empty. -/
def oneKernel : Kmap :=
  { kobjects :=
      [{ valid := false, launchPending := false, gridDim := ⟨1, 1, 1⟩, blockDim := ⟨1, 1, 1⟩,
         sharedMem := 0, stream := 0, head := none, tail := none, func := none }]
    index := 0
    heap := [] }

/-- The launch `k<<<2, 3>>>(7)`. -/
def launchK : LaunchRequest :=
  { gridDim := ⟨2, 1, 1⟩, blockDim := ⟨3, 1, 1⟩, sharedMem := 0, stream := 0
    args := [⟨[7, 0, 0, 0, 0, 0, 0, 0], by decide, 8, 0, -1⟩]
    hostFun := ⟨[107], by decide⟩ }

/-- The launch of a kernel `k` with one argument: it is recorded, and not replayed, since it has an
argument and a name. -/
theorem launch_replays_iff_launchK :
    ∃ table' k, launchK.record oneKernel = some (table', k) ∧
      ((∃ fuel mtab' calls, gvirtCudaLaunchIndex fuel table' k [] = .returned mtab' calls ∧
          launchK.calls [] = some calls) ↔ launchK.args = [] ∧ launchK.hostFun = .empty) :=
  launch_replays_iff rfl rfl rfl launchK []

/-- The launch of a kernel with one argument is not replayed: its loop never ends. However many
rounds it is given, it does not return. -/
theorem launchK_not_replayed : ¬ ∃ table' k fuel mtab' calls,
    launchK.record oneKernel = some (table', k) ∧
      gvirtCudaLaunchIndex fuel table' k [] = .returned mtab' calls := by
  rintro ⟨table', k, fuel, mtab', calls, hrec, hret⟩
  cases hrec
  exact launchLoop_some _ _ _ _ _ _ _ _ hret

end GpuVirtmem.VirtMem
