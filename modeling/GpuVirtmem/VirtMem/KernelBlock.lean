import GpuVirtmem.Lib.Layout
import GpuVirtmem.Lib.Run
import GpuVirtmem.VirtMem.KernelMap

/-!
# The block of kernel objects (`virtmem/cuda_vmem.c`, `virtmem/cuda_vmem.h`)

`kmap_init` allocates `MAX_KERNELS` times the size of a `struct kmap`, and uses the block for as
many objects of type `struct kmap_node`, which are larger. The other functions use the object at
the current index, which every launch advances. Here the block has a size, an object has its C
layout with 64-bit pointers, and what the functions read and write are members of objects.

`sizeof(struct kmap)` is 16 and `sizeof(struct kmap_node)` more, so that the block has room for a
part of the objects only. Two things follow. `kmap_init` itself writes behind the block, before any
request (`kmapInit_block`), which settles the matter for every run. And of the requests themselves
it can be said exactly which leave the block (`requests_inBlock_iff`): those at an object behind the
ones it has in full.
-/

namespace GpuVirtmem.VirtMem

open Lib Layout

/-! ## The layout -/

/-- The members of a `struct kmap_node`, with the two of its `arg_list`. -/
inductive KmapField
  | valid
  | launchPending
  | gridDim
  | blockDim
  | sharedMem
  | stream
  | head
  | tail
  | func
  deriving DecidableEq, Repr

/-- The size and the alignment of a member. -/
def KmapField.member : KmapField → Member
  | .valid | .launchPending => ⟨4, 4, by decide⟩
  | .gridDim | .blockDim => ⟨12, 4, by decide⟩
  | .sharedMem | .stream | .head | .tail | .func => ⟨8, 8, by decide⟩

/-- The members in their order. -/
def kmapNodeFields : List KmapField :=
  [.valid, .launchPending, .gridDim, .blockDim, .sharedMem, .stream, .head, .tail, .func]

/-- `offsetof(struct kmap_node, f)`. -/
def KmapField.offset (f : KmapField) : Nat :=
  offsetOf ((kmapNodeFields.takeWhile (· ≠ f)).map KmapField.member) f.member

/-- `sizeof(struct kmap_node)`. -/
def sizeofKmapNode : Nat := structSize (kmapNodeFields.map KmapField.member)

/-- `sizeof(struct kmap)`: a pointer and an `int`. -/
def sizeofKmap : Nat := structSize [⟨8, 8, by decide⟩, ⟨4, 4, by decide⟩]

/-- The size of the block that `kmap_init` allocates. -/
def kmapBlock : Nat := maxKernels * sizeofKmap

/-- A member of a kernel object that is read or written. -/
structure Access where
  object : Nat
  field : KmapField
  deriving DecidableEq, Repr

/-- Where the member begins in the block. -/
def Access.first (a : Access) : Nat := a.object * sizeofKmapNode + a.field.offset

/-- The member lies entirely within the block. -/
def Access.InBlock (a : Access) : Prop := a.first + a.field.member.size ≤ kmapBlock

/-! ## What the functions use -/

/-- The given members of an object. -/
def membersOf (object : Nat) (fields : List KmapField) : List Access :=
  fields.map (Access.mk object)

/-- What `kmap_init` writes. -/
@[irreducible] def kmapInitAccesses : List Access :=
  (List.range maxKernels).flatMap fun i => membersOf i [.valid, .launchPending, .head, .tail]

/-- What `kmap_add_config` writes. -/
def kmapAddConfigAccesses (index : Nat) : List Access :=
  membersOf index [.gridDim, .blockDim, .sharedMem, .stream]

/-- What `kmap_add_arg` reads and writes, whether the list of arguments is empty or not. -/
def kmapAddArgAccesses (index : Nat) : List Access := membersOf index [.head, .tail]

/-- What `kmap_add_kernel` writes, and reads for its `memcpy`. -/
def kmapAddKernelAccesses (index : Nat) : List Access :=
  membersOf index [.func, .valid, .launchPending]

/-- What `gvirt_is_paging_required` reads. -/
def gvirtIsPagingRequiredAccesses (kindex : Nat) : List Access := membersOf kindex [.head]

/-- What `gvirt_cuda_launch_index` reads before its loop, and behind it. -/
def gvirtCudaLaunchIndexAccesses (index : Nat) (loopEnds : Bool) : List Access :=
  membersOf index ([.gridDim, .blockDim, .sharedMem, .stream, .head] ++
    if loopEnds then [.func] else [])

/-- How far a launch request gets: there is a semaphore or no function is found; or the kernel is
added and `gvirt_is_paging_required` does not return; or `gvirt_cuda_launch_index` is reached, whose
loop may end. -/
inductive Reached
  | nothing
  | paging
  | launch (loopEnds : Bool)
  deriving DecidableEq, Repr

/-- A request that has to do with kernels. -/
inductive MapRequest
  | configureCall
  | setupArgument
  | launch (reached : Reached)
  deriving DecidableEq, Repr

/-- What the handler of a request reads and writes. -/
def MapRequest.accesses (index : Nat) : MapRequest → List Access
  | .configureCall => kmapAddConfigAccesses index
  | .setupArgument => kmapAddArgAccesses index
  | .launch .nothing => []
  | .launch .paging => kmapAddKernelAccesses index ++ gvirtIsPagingRequiredAccesses index
  | .launch (.launch loopEnds) =>
    kmapAddKernelAccesses index ++ (gvirtIsPagingRequiredAccesses index ++
      gvirtCudaLaunchIndexAccesses index loopEnds)

/-- The index behind a request. Nothing but a launch advances it, and nothing sets it back. -/
def MapRequest.next (index : Nat) : MapRequest → Nat
  | .configureCall | .setupArgument | .launch .nothing => index
  | .launch .paging | .launch (.launch _) => index + 1

/-- The handler of the request returns. -/
def MapRequest.returns : MapRequest → Bool
  | .configureCall | .setupArgument | .launch .nothing => true
  | .launch .paging => false
  | .launch (.launch loopEnds) => loopEnds

/-- A kernel map in use: its index, what has been read and written since it was allocated, and
whether the process is there for another request. -/
structure MapUse where
  index : Nat
  accesses : List Access
  serving : Bool

/-- The kernel map behind `kmap_init`. -/
def MapUse.start : MapUse := { index := 0, accesses := kmapInitAccesses, serving := true }

/-- A request is handled, whatever the index is. -/
inductive MapUse.Step (s : MapUse) : MapRequest → MapUse → Prop
  | handled {q : MapRequest} (hserving : s.serving = true) :
      Step s q
        { index := q.next s.index, accesses := s.accesses ++ q.accesses s.index
          serving := q.returns }

/-! ## Objects within the block -/

/-- The objects that the block has in full. -/
def wholeObjects : Nat := kmapBlock / sizeofKmapNode

example : sizeofKmapNode = 72 ∧ kmapBlock = 160000 ∧ wholeObjects = 2222 := by decide

/-- A member lies within its object: the layout has no overlap with the next one. -/
theorem KmapField.offset_add_size_le (f : KmapField) :
    f.offset + f.member.size ≤ sizeofKmapNode := by
  have hsplit : kmapNodeFields.map KmapField.member =
      (kmapNodeFields.takeWhile (· ≠ f)).map KmapField.member ++
        f.member :: ((kmapNodeFields.dropWhile (· ≠ f)).tail).map KmapField.member := by
    cases f <;> rfl
  unfold sizeofKmapNode
  rw [hsplit]
  exact offsetOf_add_size_le ..

/-- Every member of an object that the block has in full lies within the block. -/
theorem inBlock_of_lt {a : Access} (h : a.object < wholeObjects) : a.InBlock := by
  unfold Access.InBlock Access.first
  rw [Nat.add_assoc]
  exact Nat.le_trans (element_add_le h a.field.offset_add_size_le) (Nat.div_mul_le_self ..)

/-- A member of an object that the block does not have in full lies outside of the block, unless it
is one of the first two, of which the block may still have room. -/
theorem not_inBlock {a : Access} (h : wholeObjects ≤ a.object)
    (hfield : a.field ≠ .valid ∧ a.field ≠ .launchPending) : ¬a.InBlock := by
  obtain ⟨object, field⟩ := a
  have hobject : 2222 ≤ object := h
  have hend : 20 ≤ field.offset + field.member.size := by
    cases field with
    | valid => exact absurd rfl hfield.1
    | launchPending => exact absurd rfl hfield.2
    | gridDim | blockDim | sharedMem | stream | head | tail | func => decide
  show ¬(object * 72 + field.offset + field.member.size ≤ 160000)
  omega

/-- The first object that the block does not have in full is initialised with the others. The loop
in `kmap_init` goes by the number of kernels and not by the size of the block. -/
theorem mem_kmapInitAccesses : (⟨wholeObjects, .head⟩ : Access) ∈ kmapInitAccesses := by
  unfold kmapInitAccesses
  apply List.mem_flatMap.mpr
  refine ⟨wholeObjects, List.mem_range.mpr (by decide), List.mem_map.mpr ⟨.head, ?_, rfl⟩⟩
  decide

/-- On a block of this size the initialisation of the kernel objects leaves it. -/
theorem kmapInit_block {kobjects : List KmapNode} (h : kobjects.length = wholeObjects) :
    kmapInit kobjects = none := by
  refine if_neg ?_
  rw [h]
  decide

/-! ## Runs -/

section

variable {qs : List MapRequest} {s : MapUse}

/-- What `kmap_init` has written stays written: it is at the beginning of what has been accessed in
every run. -/
theorem kmapInit_begins (r : Run MapUse.Step .start qs s) : kmapInitAccesses <+: s.accesses := by
  refine r.invariant (I := fun s => kmapInitAccesses <+: s.accesses) (List.prefix_refl _) ?_
  intro t q u ht hstep
  cases hstep with
  | handled => exact ht.trans (List.prefix_append ..)

/-- A request uses the current object and no other one. -/
theorem MapRequest.accesses_object {index : Nat} {q : MapRequest} {a : Access}
    (h : a ∈ q.accesses index) : a.object = index := by
  have hmember : ∀ fields, a ∈ membersOf index fields → a.object = index := by
    intro fields ha
    obtain ⟨field, -, rfl⟩ := List.mem_map.mp ha
    rfl
  cases q with
  | configureCall => exact hmember _ h
  | setupArgument => exact hmember _ h
  | launch reached =>
    cases reached with
    | nothing => cases h
    | paging => exact (List.mem_append.mp h).elim (hmember _) (hmember _)
    | launch loopEnds =>
      rcases List.mem_append.mp h with h | h
      · exact hmember _ h
      · exact (List.mem_append.mp h).elim (hmember _) (hmember _)

/-- A request stays within the block where the current object does, or if it uses none. Between the
two there is nothing: a request that uses the object at all uses a member that tells. -/
theorem MapRequest.inBlock_iff (index : Nat) (q : MapRequest) :
    (∀ a ∈ q.accesses index, a.InBlock) ↔ index < wholeObjects ∨ q = .launch .nothing := by
  constructor
  · intro hall
    by_contra hnot
    obtain ⟨hge, hsome⟩ := not_or.mp hnot
    have huses : ∃ field, ⟨index, field⟩ ∈ q.accesses index ∧
        field ≠ .valid ∧ field ≠ .launchPending := by
      cases q with
      | configureCall => exact ⟨.gridDim, .head _, by decide, by decide⟩
      | setupArgument => exact ⟨.head, .head _, by decide, by decide⟩
      | launch reached =>
        cases reached with
        | nothing => exact absurd rfl hsome
        | paging | launch => exact ⟨.func, .head _, by decide, by decide⟩
    obtain ⟨field, hmem, hfield⟩ := huses
    exact not_inBlock (Nat.not_lt.mp hge) hfield (hall _ hmem)
  · rintro (hlt | rfl) a ha
    · exact inBlock_of_lt ((MapRequest.accesses_object ha).trans_lt hlt)
    · cases ha

/-- The requests of a run stay within the block exactly if each of them comes at an object that the
block has in full, or uses none. No launch is refused for its index. -/
theorem requests_inBlock_iff (qs : List MapRequest) :
    EachStep MapUse.Step .start qs (fun t q => ∀ a ∈ q.accesses t.index, a.InBlock) ↔
      EachStep MapUse.Step .start qs fun t q => t.index < wholeObjects ∨ q = .launch .nothing :=
  eachStep_congr fun t q => q.inBlock_iff t.index

/-- In every run an object that is used does not lie within the block.

Already `kmap_init` writes behind the block, which has been allocated with the size of another
structure. -/
theorem kernel_objects_leave_block (r : Run MapUse.Step .start qs s) :
    ¬∀ a ∈ s.accesses, a.InBlock := by
  intro hall
  have hinit := hall _ ((kmapInit_begins r).subset mem_kmapInitAccesses)
  exact not_inBlock (Nat.le_refl _) ⟨by decide, by decide⟩ hinit

end

/-- A run of one configuration, which itself stays within the block: the map has been written behind
its end before. -/
theorem kernel_objects_leave_block_configured :
    ∃ s, Run MapUse.Step .start [.configureCall] s ∧ ¬∀ a ∈ s.accesses, a.InBlock := by
  have r₀ : Run MapUse.Step .start [] _ := .start
  have r := r₀.snoc (@MapUse.Step.handled _ .configureCall rfl)
  exact ⟨_, r, kernel_objects_leave_block r⟩

/-- Before any request the list of an object has been written behind the block, which has 160000
bytes. The object is the first one that the block has no room for. -/
theorem object_written_behind_block :
    ∃ s, Run MapUse.Step .start [] s ∧ ∃ a ∈ s.accesses, a.first = 160032 ∧ kmapBlock = 160000 ∧
      ¬a.InBlock := by
  refine ⟨.start, .start, ⟨wholeObjects, .head⟩, mem_kmapInitAccesses, by decide, by decide, ?_⟩
  exact not_inBlock (Nat.le_refl _) ⟨by decide, by decide⟩

end GpuVirtmem.VirtMem
