import Mathlib.Data.List.Nodup

/-!
# Linked lists in a heap

A heap is a list of nodes, and a node's address is its place in it. From a head the links lead
through some nodes of the heap, to NULL in the end. A node that is appended to one list, by a link
from its last node, is at the end of that list, and in none of the others.

A heap may hold nodes that are in no list and nodes of several lists, so that each rule says what it
does to a list it is not about (`link_other`, `append_other`). That nodes are distinct is not
assumed but follows (`nodup`): links that came back to a node would never come to NULL.
-/

namespace GpuVirtmem.Lib

variable {ν : Type*} (next : ν → Option Nat)

/-- The links lead from `head` through exactly these nodes, each with its address. -/
def Reaches (heap : List ν) : Option Nat → List (Nat × ν) → Prop
  | head, [] => head = none
  | head, n :: ns => head = some n.1 ∧ heap[n.1]? = some n.2 ∧ Reaches heap (next n.2) ns

namespace Reaches

variable {next} {heap heap' : List ν} {head : Option Nat} {ns ns' : List (Nat × ν)} {a : Nat}
  {node node' new : ν}

/-- An empty list is NULL. -/
@[simp] theorem nil_iff : Reaches next heap head [] ↔ head = none := Iff.rfl

/-- The head is the address of the first node. -/
theorem head_eq (h : Reaches next heap head ns) : head = ns.head?.map Prod.fst := by
  cases ns with
  | nil => exact h
  | cons n ns => exact h.1

/-- Each node of the list is in the heap at its address. -/
theorem getElem?_of_mem (h : Reaches next heap head ns) (hmem : (a, node) ∈ ns) :
    heap[a]? = some node := by
  induction ns generalizing head with
  | nil => cases hmem
  | cons n ns ih =>
    obtain ⟨-, hn, hrest⟩ := h
    cases hmem with
    | head => exact hn
    | tail _ hmem => exact ih hrest hmem

/-- There is one way to follow the links. -/
theorem unique (h : Reaches next heap head ns) (h' : Reaches next heap head ns') : ns = ns' := by
  induction ns generalizing head ns' with
  | nil =>
    cases ns' with
    | nil => rfl
    | cons n' ns' => cases h.symm.trans h'.1
  | cons n ns ih =>
    cases ns' with
    | nil => cases h'.symm.trans h.1
    | cons n' ns' =>
      obtain ⟨hhead, hn, hrest⟩ := h
      obtain ⟨hhead', hn', hrest'⟩ := h'
      have haddr : n.1 = n'.1 := Option.some.inj (hhead.symm.trans hhead')
      rw [← haddr, hn, Option.some.injEq] at hn'
      rw [← hn'] at hrest'
      rw [ih hrest hrest', Prod.ext haddr hn']

/-- From each node on, the links lead through the nodes after it. -/
theorem suffix {before : List (Nat × ν)} (h : Reaches next heap head (before ++ (a, node) :: ns)) :
    Reaches next heap (next node) ns := by
  induction before generalizing head with
  | nil => exact h.2.2
  | cons n before ih => exact ih h.2.2

/-- No node comes twice. -/
theorem nodup (h : Reaches next heap head ns) : (ns.map Prod.fst).Nodup := by
  induction ns generalizing head with
  | nil => exact List.nodup_nil
  | cons n ns ih =>
    obtain ⟨-, hn, hrest⟩ := h
    refine List.nodup_cons.mpr ⟨?_, ih hrest⟩
    intro hmem
    obtain ⟨⟨a, node⟩, hmem, ha : a = n.1⟩ := List.mem_map.mp hmem
    obtain ⟨before, after, rfl⟩ := List.append_of_mem hmem
    have hnode := hrest.getElem?_of_mem hmem
    rw [ha, hn, Option.some.injEq] at hnode
    -- the links from `n` would lead through fewer nodes the second time
    have hafter := hrest.suffix
    rw [← hnode] at hafter
    have hlen := congrArg List.length (hrest.unique hafter)
    simp at hlen
    omega

/-- A heap that has the same nodes there has the same list. -/
theorem frame (h : Reaches next heap head ns) (hsame : ∀ n ∈ ns, heap'[n.1]? = heap[n.1]?) :
    Reaches next heap' head ns := by
  induction ns generalizing head with
  | nil => exact h
  | cons n ns ih =>
    obtain ⟨hhead, hn, hrest⟩ := h
    exact ⟨hhead, (hsame n (.head ns)).trans hn, ih hrest fun m hm => hsame m (.tail n hm)⟩

/-- An address in a list is one that has been allocated. -/
theorem lt_length (h : Reaches next heap head ns) (hmem : a ∈ ns.map Prod.fst) :
    a < heap.length := by
  obtain ⟨n, hn, rfl⟩ := List.mem_map.mp hmem
  exact (List.getElem?_eq_some_iff.mp (h.getElem?_of_mem hn)).1

/-- The last node leads nowhere. -/
theorem last (h : Reaches next heap head (ns ++ [(a, node)])) : next node = none := h.suffix

/-- A node alone in its list. -/
theorem single (hnew : next new = none) :
    Reaches next (heap ++ [new]) (some heap.length) [(heap.length, new)] := by
  simp [Reaches, hnew]

/-- A list in which neither the node that is linked nor the new one is stays as it is. -/
theorem link_other (h : Reaches next heap head ns) (ha : a ∉ ns.map Prod.fst) :
    Reaches next (heap.set a node' ++ [new]) head ns := by
  apply h.frame
  intro n hn
  have hmem := List.mem_map_of_mem (f := Prod.fst) hn
  have hlt : n.1 < (heap.set a node').length := by
    rw [List.length_set]
    exact h.lt_length hmem
  have hne : a ≠ n.1 := by
    intro heq
    exact ha (heq ▸ hmem)
  rw [List.getElem?_append_left hlt, List.getElem?_set_ne hne]

/-- A new node, to which no link leads yet, is in none of the lists there are. -/
theorem append_other (h : Reaches next heap head ns) : Reaches next (heap ++ [new]) head ns := by
  apply h.frame
  intro n hn
  exact List.getElem?_append_left (h.lt_length (List.mem_map_of_mem hn))

/-- The last node is linked to a new one. -/
theorem link (h : Reaches next heap head (ns ++ [(a, node)]))
    (hlink : next node' = some heap.length) (hnew : next new = none) :
    Reaches next (heap.set a node' ++ [new]) head (ns ++ [(a, node'), (heap.length, new)]) := by
  induction ns generalizing head with
  | nil =>
    obtain ⟨hhead, hnode, -⟩ := h
    have hlt : a < heap.length := (List.getElem?_eq_some_iff.mp hnode).1
    refine ⟨hhead, ?_, hlink, by simp, hnew⟩
    simp [List.getElem?_append_left, hlt]
  | cons n ns ih =>
    have hnodup := h.nodup
    obtain ⟨hhead, hn, hrest⟩ := h
    refine ⟨hhead, ?_, ih hrest⟩
    have hlt : n.1 < (heap.set a node').length := by
      rw [List.length_set]
      exact (List.getElem?_eq_some_iff.mp hn).1
    have hne : a ≠ n.1 := by
      rintro rfl
      simp at hnodup
    rw [List.getElem?_append_left hlt, List.getElem?_set_ne hne, hn]

end Reaches

end GpuVirtmem.Lib
