import GpuVirtmem.Lib.Linked
import GpuVirtmem.VirtMem.Launch
import Mathlib.Data.List.Induction

/-!
# The record that a kernel map is

Whatever calls are made on a kernel map, in whatever order, each of its objects holds the arguments
that were added while it was the current one, and no call disturbs the list of another object: the
lists of the objects have no node in common.

The invariant is `Recorded`. What makes it hold is a fact about the heap: the lists have no node in
common, so that a new argument, which writes the tail of one list and a fresh node, is not seen by
the others. The number of objects is the only bound, and it is one on the calls: those that come
after the last object find no place.
-/

namespace GpuVirtmem.VirtMem

open Lib

/-- The memory at a `kfun`, of which the first byte is there. -/
structure KernelFun where
  mem : Bytes
  readable : mem ≠ []

/-- A call that adds to the kernel map. -/
inductive KernelCall
  | addConfig (gridDim blockDim : Dim3) (sharedMem stream : Nat)
  | addArg (a : ArgRequest)
  | addKernel (kfun : KernelFun)

/-- What a node of an argument list records. -/
structure KernelArg where
  arg : Nat
  size : Nat
  offset : Nat
  memMapIndex : Int

/-- What the node records. -/
def KernelArgNode.contents (node : KernelArgNode) : KernelArg :=
  ⟨node.arg, node.size, node.offset, node.memMapIndex⟩

/-- The argument, with the first eight of its bytes, in a node of its own. -/
def ArgRequest.node (a : ArgRequest) : KernelArgNode :=
  { arg := decodeLE (a.arg.take 8), size := a.size, offset := a.offset, memMapIndex := a.vindex,
    next := none }

namespace KernelCall

/-- The call on the kernel map, with the values that `kmap_add_kernel` has returned so far. -/
def exec (s : Kmap × List Nat) : KernelCall → Option (Kmap × List Nat)
  | addConfig gridDim blockDim sharedMem stream =>
    (kmapAddConfig s.1 gridDim blockDim sharedMem stream).map fun table => (table, s.2)
  | addArg a => (kmapAddArg s.1 a.arg a.size a.offset a.vindex).map fun table => (table, s.2)
  | addKernel kfun => (kmapAddKernel s.1 kfun.mem).map fun (table, k) => (table, s.2 ++ [k])

/-- The call adds a kernel. -/
def isKernel : KernelCall → Bool
  | addKernel _ => true
  | addConfig .. | addArg _ => false

/-- The argument that the call adds. -/
def argument : KernelCall → Option KernelArg
  | addArg a => some a.node.contents
  | addConfig .. | addKernel _ => none

/-- The configuration that the call adds. -/
def config : KernelCall → Option CudaCall
  | addConfig gridDim blockDim sharedMem stream =>
    some (.configureCall gridDim blockDim sharedMem stream)
  | addArg _ | addKernel _ => none

end KernelCall

/-- The kernels that the calls add. -/
def kernelCount (calls : List KernelCall) : Nat := calls.countP KernelCall.isKernel

/-- The calls between the `j`-th and the next one that adds a kernel. -/
def span : List KernelCall → Nat → List KernelCall
  | [], _ => []
  | call :: calls, j =>
    match call.isKernel, j with
    | true, 0 => []
    | true, j + 1 => span calls j
    | false, 0 => call :: span calls 0
    | false, j + 1 => span calls (j + 1)

/-- The arguments that the calls add, in order. -/
def arguments (calls : List KernelCall) : List KernelArg := calls.filterMap KernelCall.argument

/-- The configuration that the calls add last. -/
def lastConfig (calls : List KernelCall) : Option CudaCall :=
  (calls.filterMap KernelCall.config).getLast?

/-- The argument list of the object has the nodes `nodes`, which record `args`. -/
structure ArgList (heap : List KernelArgNode) (obj : KmapNode) (nodes : List (Nat × KernelArgNode))
    (args : List KernelArg) : Prop where
  reached : Reaches KernelArgNode.next heap obj.head nodes
  contents : nodes.map (fun n => n.2.contents) = args
  null : obj.head = none ↔ obj.tail = none
  tail : ∀ a, obj.tail = some a → ∃ node, nodes.getLast? = some (a, node) ∧ node.next = none

/-- The object records the calls of its span. -/
structure ObjectRecords (heap : List KernelArgNode) (obj : KmapNode) (calls : List KernelCall) :
    Prop where
  args : ∃ nodes, ArgList heap obj nodes (arguments calls)
  config : ∀ c, lastConfig calls = some c → obj.configure = c

/-- The kernel map records the calls, and the indices that were returned are those of its
objects. -/
structure Records (calls : List KernelCall) (table : Kmap) (returned : List Nat) : Prop where
  index : table.index = kernelCount calls
  returned : returned = List.range table.index
  upTo : ∀ j ≤ table.index, ∃ obj, table.kobjects[j]? = some obj ∧
    ObjectRecords table.heap obj (span calls j)
  after : ∀ j, table.index < j → j < maxKernels → ∃ obj, table.kobjects[j]? = some obj ∧
    obj.head = none ∧ obj.tail = none

/-! ## Spans -/

section

variable {calls : List KernelCall} {call : KernelCall} {j : Nat}

/-- No calls add no kernel. -/
@[simp] theorem kernelCount_nil : kernelCount [] = 0 := rfl

/-- The calls are counted from the front. -/
@[simp] theorem kernelCount_cons : kernelCount (call :: calls) =
    if call.isKernel then kernelCount calls + 1 else kernelCount calls := by
  unfold kernelCount
  rw [List.countP_cons]
  split <;> rfl

/-- And from the back, where runs grow. -/
theorem kernelCount_snoc : kernelCount (calls ++ [call]) =
    if call.isKernel then kernelCount calls + 1 else kernelCount calls := by
  induction calls with
  | nil => cases hk : call.isKernel <;> simp [hk]
  | cons first calls ih =>
    simp only [List.cons_append, kernelCount_cons, ih]
    split <;> split <;> rfl

/-- A call that adds a kernel ends the last span, and any other one is at its end. Objects and spans
are numbered alike, so that this says for which object a new call counts. -/
theorem span_snoc : span (calls ++ [call]) j =
    if call.isKernel = false ∧ j = kernelCount calls then span calls j ++ [call]
    else span calls j := by
  induction calls generalizing j with
  | nil => cases hk : call.isKernel <;> cases j <;> simp [span, hk]
  | cons first calls ih =>
    cases hf : first.isKernel <;> cases j <;> simp [span, hf, ih]
    all_goals split <;> rfl

/-- After the last kernel there is no span: nothing has been recorded in the objects behind the
current one. -/
theorem span_of_lt (h : kernelCount calls < j) : span calls j = [] := by
  induction calls generalizing j with
  | nil => rfl
  | cons first calls ih =>
    cases hf : first.isKernel <;> cases j <;> simp_all [span]

/-- One more call adds its argument behind the others, if it has one. -/
theorem arguments_snoc : arguments (calls ++ [call]) = arguments calls ++ call.argument.toList := by
  cases h : call.argument <;> simp [arguments, h]

/-- One more call replaces the configuration, if it has one. -/
theorem lastConfig_snoc : lastConfig (calls ++ [call]) = call.config.or (lastConfig calls) := by
  cases h : call.config <;> simp [lastConfig, h]

end

/-! ## Argument lists -/

section

variable {heap heap' : List KernelArgNode} {obj obj' : KmapNode}
  {nodes : List (Nat × KernelArgNode)} {args : List KernelArg}

/-- An object without arguments, with both its ends NULL. -/
theorem ArgList.empty (hhead : obj.head = none) (htail : obj.tail = none) :
    ArgList heap obj [] [] where
  reached := hhead
  contents := rfl
  null := iff_of_true hhead htail
  tail := by simp [htail]

/-- The list is that of any object with its ends, in any heap where they are: what is done to other
objects, or to nodes of other lists, does not matter to it. -/
theorem ArgList.frame (h : ArgList heap obj nodes args) (hhead : obj'.head = obj.head)
    (htail : obj'.tail = obj.tail)
    (hreached : Reaches KernelArgNode.next heap' obj.head nodes) :
    ArgList heap' obj' nodes args where
  reached := hhead ▸ hreached
  contents := h.contents
  null := by rw [hhead, htail, h.null]
  tail := htail ▸ h.tail

/-- An argument is added to an empty list, and is both its ends. -/
theorem ArgList.first (h : ArgList heap obj nodes args) (hhead : obj.head = none)
    {new : KernelArgNode} (hnew : new.next = none) :
    ArgList (heap ++ [new]) { obj with head := some heap.length, tail := some heap.length }
      [(heap.length, new)] (args ++ [new.contents]) where
  reached := Reaches.single hnew
  contents := by
    obtain rfl : nodes = [] := h.reached.unique hhead
    simp [← h.contents]
  null := by simp
  tail := by
    intro a ha
    obtain rfl := Option.some.inj ha
    exact ⟨new, rfl, hnew⟩

/-- An argument is added behind the last one. The old tail is the one node that is written, besides
the new one. -/
theorem ArgList.snoc {before : List (Nat × KernelArgNode)} {last : Nat} {node new : KernelArgNode}
    (h : ArgList heap obj (before ++ [(last, node)]) args) (hnew : new.next = none) :
    ArgList (heap.set last { node with next := some heap.length } ++ [new])
      { obj with tail := some heap.length }
      (before ++ [(last, { node with next := some heap.length }), (heap.length, new)])
      (args ++ [new.contents]) where
  reached := h.reached.link rfl hnew
  contents := by
    rw [← h.contents]
    simp [KernelArgNode.contents]
  null := by
    rw [h.reached.head_eq]
    simp
  tail := by
    intro a ha
    obtain rfl := Option.some.inj ha
    exact ⟨new, by simp, hnew⟩

/-- Where the object has a tail, that is its last node, and so the list can be split there for
`snoc`. -/
theorem ArgList.eq_snoc (h : ArgList heap obj nodes args) {last : Nat}
    (hlast : obj.tail = some last) :
    ∃ before node, nodes = before ++ [(last, node)] ∧ heap[last]? = some node := by
  obtain ⟨node, hnode, -⟩ := h.tail last hlast
  obtain ⟨before, rfl⟩ := List.getLast?_eq_some_iff.mp hnode
  exact ⟨before, node, rfl, h.reached.getElem?_of_mem (by simp)⟩

end

/-! ## What every call keeps -/

/-- The kernel map records the calls, in lists that have the nodes `nodes`, no two of them one in
common. -/
structure Recorded (calls : List KernelCall) (s : Kmap × List Nat)
    (nodes : Nat → List (Nat × KernelArgNode)) : Prop where
  index : s.1.index = kernelCount calls
  returned : s.2 = List.range s.1.index
  apart : ∀ i < maxKernels, ∀ j < maxKernels, i ≠ j →
    ((nodes i).map Prod.fst).Disjoint ((nodes j).map Prod.fst)
  args : ∀ j < maxKernels, ∃ obj, s.1.kobjects[j]? = some obj ∧
    ArgList s.1.heap obj (nodes j) (arguments (span calls j)) ∧
    ∀ c, lastConfig (span calls j) = some c → obj.configure = c

section

variable {calls : List KernelCall} {call : KernelCall} {table : Kmap} {returned : List Nat}
  {nodes : Nat → List (Nat × KernelArgNode)} {s : Kmap × List Nat}

/-- A fresh kernel map records that no calls have been made on it. It says so of all its objects,
whatever was in the block before. -/
theorem recorded_kmapInit {kobjects : List KmapNode} (h : kmapInit kobjects = some table) :
    Recorded [] (table, []) fun _ => [] := by
  unfold kmapInit at h
  split at h
  · next hlen =>
    cases h
    refine ⟨rfl, rfl, fun _ _ _ _ _ => List.disjoint_nil_left _, fun j hj => ?_⟩
    have hobj : j < kobjects.length := Nat.lt_of_lt_of_le hj hlen
    refine ⟨{ kobjects[j] with valid := false, launchPending := false, head := none, tail := none },
      ?_, ArgList.empty rfl rfl, fun c hc => ?_⟩
    · rw [List.getElem?_append_left (by simpa using ⟨hj, hobj⟩), List.getElem?_map,
        List.getElem?_take_of_lt hj, List.getElem?_eq_getElem hobj]
      rfl
    · cases hc
  · cases h

/-- The nodes of another list are neither those of the current one nor new. This is what the objects
having no node in common is needed for. -/
theorem Recorded.clear (h : Recorded calls (table, returned) nodes) {k : Nat}
    {own : List (Nat × KernelArgNode)} (hk : k < maxKernels)
    (hown : ∀ a ∈ own.map Prod.fst, a ∈ (nodes k).map Prod.fst ∨ table.heap.length ≤ a)
    {j : Nat} (hj : j < maxKernels) (hne : j ≠ k) :
    (own.map Prod.fst).Disjoint ((nodes j).map Prod.fst) := by
  intro a ha hmem
  rcases hown a ha with hold | hnew
  · exact h.apart j hj k hk hne hmem hold
  · obtain ⟨obj, -, hlist, -⟩ := h.args j hj
    exact absurd (hlist.reached.lt_length hmem) (Nat.not_lt.mpr hnew)

/-- The lists stay apart when one of them is replaced by a list that is apart from the others. -/
theorem Recorded.apart_update (h : Recorded calls s nodes) {k : Nat}
    {own : List (Nat × KernelArgNode)}
    (hclear : ∀ j < maxKernels, j ≠ k →
      (own.map Prod.fst).Disjoint ((nodes j).map Prod.fst)) :
    ∀ i < maxKernels, ∀ j < maxKernels, i ≠ j →
      ((Function.update nodes k own i).map Prod.fst).Disjoint
        ((Function.update nodes k own j).map Prod.fst) := by
  intro i hi j hj hij
  by_cases hik : i = k
  · subst hik
    rw [Function.update_self, Function.update_of_ne hij.symm]
    exact hclear j hj hij.symm
  · rw [Function.update_of_ne hik]
    by_cases hjk : j = k
    · subst hjk
      rw [Function.update_self]
      exact (hclear i hi hik).symm
    · rw [Function.update_of_ne hjk]
      exact h.apart i hi j hj hij

/-- A call that is not of a kernel, and changes the current object and its list only. Configurations
and arguments are both of this kind, and the rest of the map is carried over once for the two. -/
theorem Recorded.current (h : Recorded calls (table, returned) nodes)
    (hcall : call.isKernel = false) {heap : List KernelArgNode} {obj' : KmapNode}
    {own : List (Nat × KernelArgNode)} (hindex : table.index < maxKernels)
    (hframe : ∀ j < maxKernels, j ≠ table.index → ∀ head,
      Reaches KernelArgNode.next table.heap head (nodes j) →
        Reaches KernelArgNode.next heap head (nodes j))
    (hown : ∀ a ∈ own.map Prod.fst,
      a ∈ (nodes table.index).map Prod.fst ∨ table.heap.length ≤ a)
    (hargs : ArgList heap obj' own (arguments (span calls table.index ++ [call])))
    (hconfig : ∀ c, lastConfig (span calls table.index ++ [call]) = some c → obj'.configure = c) :
    Recorded (calls ++ [call])
      ({ table with kobjects := table.kobjects.set table.index obj', heap := heap }, returned)
      (Function.update nodes table.index own) where
  index := by simp [kernelCount_snoc, hcall, ← h.index]
  returned := h.returned
  apart := h.apart_update fun _ hj hne => h.clear hindex hown hj hne
  args := by
    intro j hj
    obtain ⟨obj, hobj, hlist, hc⟩ := h.args j hj
    by_cases hji : j = table.index
    · subst hji
      obtain ⟨hlt, -⟩ := List.getElem?_eq_some_iff.mp hobj
      rw [span_snoc, if_pos ⟨hcall, h.index⟩, Function.update_self]
      exact ⟨obj', List.getElem?_set_self hlt, hargs, hconfig⟩
    · rw [span_snoc, if_neg (fun hc => hji (hc.2.trans h.index.symm)), Function.update_of_ne hji]
      refine ⟨obj, ?_, hlist.frame rfl rfl (hframe j hj hji _ hlist.reached), hc⟩
      exact (List.getElem?_set_ne (Ne.symm hji)).trans hobj

/-- A configuration is recorded in the current object, and replaces the one before. -/
theorem Recorded.addConfig (h : Recorded calls (table, returned) nodes)
    (hindex : table.index < maxKernels) (gridDim blockDim : Dim3) (sharedMem stream : Nat) :
    ∃ t nodes', (KernelCall.addConfig gridDim blockDim sharedMem stream).exec (table, returned) =
        some t ∧ Recorded (calls ++ [.addConfig gridDim blockDim sharedMem stream]) t nodes' := by
  obtain ⟨obj, hobj, hlist, -⟩ := h.args _ hindex
  simp only [KernelCall.exec, kmapAddConfig, hobj]
  refine ⟨_, _, rfl, h.current rfl hindex (fun _ _ _ _ hr => hr) (fun a ha => .inl ha) ?_ ?_⟩
  · rw [arguments_snoc, KernelCall.argument, Option.toList_none, List.append_nil]
    exact hlist.frame rfl rfl hlist.reached
  · intro c hc
    rw [lastConfig_snoc] at hc
    exact Option.some.inj hc

/-- An argument is recorded at the end of the current object's list, whether the list was empty or
not. -/
theorem Recorded.addArg (h : Recorded calls (table, returned) nodes)
    (hindex : table.index < maxKernels) (a : ArgRequest) :
    ∃ t nodes', (KernelCall.addArg a).exec (table, returned) = some t ∧
      Recorded (calls ++ [.addArg a]) t nodes' := by
  obtain ⟨obj, hobj, hlist, hconfig⟩ := h.args _ hindex
  have hargs : arguments (span calls table.index ++ [.addArg a]) =
      arguments (span calls table.index) ++ [a.node.contents] := arguments_snoc
  have hconfig' : ∀ c, lastConfig (span calls table.index ++ [.addArg a]) = some c →
      obj.configure = c := by
    intro c hc
    rw [lastConfig_snoc] at hc
    exact hconfig c hc
  simp only [KernelCall.exec, kmapAddArg, readWord_of_readable, hobj, Option.bind_some]
  split
  · next hempty =>
    have hnew := hlist.first hempty.1 (rfl : a.node.next = none)
    rw [← hargs] at hnew
    refine ⟨_, _, rfl, h.current rfl hindex ?_ ?_ hnew hconfig'⟩
    · intro j _ _ head hreached
      exact hreached.append_other
    · intro b hb
      exact .inr (Nat.le_of_eq (List.mem_singleton.mp hb).symm)
  · next hne =>
    obtain ⟨last, hlast⟩ : ∃ last, obj.tail = some last := by
      apply Option.ne_none_iff_exists'.mp
      intro hnone
      exact hne ⟨hlist.null.mpr hnone, hnone⟩
    obtain ⟨before, node, hnodes, hnode⟩ := hlist.eq_snoc hlast
    dsimp only at hlist hnode
    rw [hnodes] at hlist
    simp only [hlast, hnode, Option.bind_some, Option.map_some]
    have hnew := hlist.snoc (rfl : a.node.next = none)
    rw [← hargs] at hnew
    refine ⟨_, _, rfl, h.current rfl hindex ?_ ?_ hnew hconfig'⟩
    · intro j hj hji head hreached
      apply hreached.link_other
      intro hmem
      exact h.apart j hj _ hindex hji hmem (by simp [hnodes])
    · intro b hb
      simp only [hnodes, List.map_append, List.map_cons, List.map_nil, List.mem_append,
        List.mem_cons, List.not_mem_nil, or_false] at hb ⊢
      rcases hb with hb | rfl | rfl
      · exact .inl (.inl hb)
      · exact .inl (.inr rfl)
      · exact .inr (Nat.le_refl _)

/-- A kernel is recorded in the current object, which is left for the next one; its index is
returned. The lists are as they were. -/
theorem Recorded.addKernel (h : Recorded calls (table, returned) nodes)
    (hindex : table.index < maxKernels) (kfun : KernelFun) :
    ∃ t, (KernelCall.addKernel kfun).exec (table, returned) = some t ∧
      Recorded (calls ++ [.addKernel kfun]) t nodes := by
  obtain ⟨obj, hobj, hlist, hconfig⟩ := h.args _ hindex
  have hcopy : memcpy [0] kfun.mem 1 = some (overwrite [0] kfun.mem 1) :=
    memcpy_of_le (List.length_pos_of_ne_nil kfun.readable) (by simp)
  simp only [KernelCall.exec, kmapAddKernel, hobj, hcopy]
  refine ⟨_, rfl, ?_, ?_, h.apart, ?_⟩
  · simp [kernelCount_snoc, KernelCall.isKernel, ← h.index]
  · simp [List.range_succ, ← h.returned]
  · intro j hj
    obtain ⟨objj, hobjj, hlistj, hconfigj⟩ := h.args j hj
    rw [span_snoc, if_neg (fun hc => Bool.false_ne_true hc.1.symm)]
    by_cases hji : j = table.index
    · subst hji
      obtain ⟨hlt, -⟩ := List.getElem?_eq_some_iff.mp hobj
      exact ⟨_, List.getElem?_set_self hlt, hlist.frame rfl rfl hlist.reached, hconfig⟩
    · exact ⟨objj, (List.getElem?_set_ne (Ne.symm hji)).trans hobjj, hlistj, hconfigj⟩

/-- A call is recorded, where there is an object for it. That the call has a result is part of this:
no call leaves the block before the objects have been used up. -/
theorem Recorded.exec (h : Recorded calls s nodes) (hcalls : kernelCount calls < maxKernels)
    (call : KernelCall) :
    ∃ t nodes', call.exec s = some t ∧ Recorded (calls ++ [call]) t nodes' := by
  obtain ⟨table, returned⟩ := s
  have hindex : table.index < maxKernels := h.index.trans_lt hcalls
  cases call with
  | addConfig gridDim blockDim sharedMem stream => exact h.addConfig hindex ..
  | addArg a => exact h.addArg hindex a
  | addKernel kfun =>
    obtain ⟨t, ht, hrec⟩ := h.addKernel hindex kfun
    exact ⟨t, nodes, ht, hrec⟩

/-- What is kept says what the kernel map records. The nodes are forgotten here; they were needed
only to say that no list runs into another. -/
theorem Recorded.records (h : Recorded calls (table, returned) nodes)
    (hindex : table.index < maxKernels) : Records calls table returned where
  index := h.index
  returned := h.returned
  upTo := by
    intro j hj
    obtain ⟨obj, hobj, hlist, hconfig⟩ := h.args j (Nat.lt_of_le_of_lt hj hindex)
    exact ⟨obj, hobj, ⟨_, hlist⟩, hconfig⟩
  after := by
    intro j hj hmax
    obtain ⟨obj, hobj, hlist, -⟩ := h.args j hmax
    have hspan : span calls j = [] := span_of_lt (h.index.symm.trans_lt hj)
    rw [hspan] at hlist
    have hnodes : nodes j = [] := List.map_eq_nil_iff.mp hlist.contents
    rw [hnodes] at hlist
    exact ⟨obj, hobj, hlist.reached, hlist.null.mp hlist.reached⟩

/-- Any sequence of calls is recorded. -/
theorem recorded_calls {kobjects : List KmapNode} (h : kmapInit kobjects = some table)
    (hcalls : kernelCount calls < maxKernels) :
    ∃ s nodes, calls.foldlM KernelCall.exec (table, []) = some s ∧ Recorded calls s nodes := by
  induction calls using List.reverseRecOn with
  | nil => exact ⟨_, _, rfl, recorded_kmapInit h⟩
  | append_singleton calls call ih =>
    have hbefore : kernelCount calls < maxKernels := by
      rw [kernelCount_snoc] at hcalls
      split at hcalls
      · exact Nat.lt_of_succ_lt hcalls
      · exact hcalls
    obtain ⟨s, nodes, hs, hrec⟩ := ih hbefore
    obtain ⟨t, nodes', ht, hrec'⟩ := hrec.exec hbefore call
    refine ⟨t, nodes', ?_, hrec'⟩
    simp [List.foldlM_append, hs, ht]

/-- The kernel map is a record of the calls that were made on it.

The calls come in any order and number, as long as there is an object for each kernel:
configurations, arguments and kernels each go where they belong. -/
theorem kmap_records {kobjects : List KmapNode} (h : kmapInit kobjects = some table)
    (calls : List KernelCall) (hcalls : kernelCount calls < maxKernels) :
    ∃ table' returned, calls.foldlM KernelCall.exec (table, []) = some (table', returned) ∧
      Records calls table' returned := by
  obtain ⟨⟨table', returned⟩, nodes, hs, hrec⟩ := recorded_calls h hcalls
  exact ⟨table', returned, hs, hrec.records (hrec.index.trans_lt hcalls)⟩

end

/-- An object of a block that has just been allocated. -/
def unsetObject : KmapNode :=
  { valid := true, launchPending := true, gridDim := ⟨7, 7, 7⟩, blockDim := ⟨7, 7, 7⟩,
    sharedMem := 7, stream := 7, head := some 7, tail := none, func := none }

/-- The calls of the launch `k<<<2, 3>>>(7)`. -/
def launchCalls : List KernelCall :=
  .addConfig ⟨2, 1, 1⟩ ⟨3, 1, 1⟩ 0 0 :: launchK.args.map .addArg ++
    [.addKernel ⟨[107, 0], List.cons_ne_nil _ _⟩]

/-- The calls of one launch on a block whose objects hold whatever they may have held. -/
theorem kmap_records_launchCalls : ∃ table,
    kmapInit (List.replicate maxKernels unsetObject) = some table ∧ ∃ table' returned,
      launchCalls.foldlM KernelCall.exec (table, []) = some (table', returned) ∧
        Records launchCalls table' returned := by
  have hinit : kmapInit (List.replicate maxKernels unsetObject) = some _ := if_pos (by simp)
  have hcalls : kernelCount launchCalls < maxKernels := by
    unfold maxKernels
    decide
  exact ⟨_, hinit, kmap_records hinit launchCalls hcalls⟩

end GpuVirtmem.VirtMem
