import GpuVirtmem.Lib.Fields
import Mathlib.Data.Finset.Insert
import Mathlib.Data.Finset.Filter
import Mathlib.Data.List.Nodup

/-!
# Heaps of named blocks

A heap is the set of the names of its live blocks. `malloc` gives a name that no block has had, and
`free` fails on a block that is not live, as reading one does. A decoder that allocates is a decoder
without its heap (`Erases`), and its blocks have the names that were next (`Allocates`). `Frees`
says which blocks a function frees and which it only reads, and composes along a sequence.

Nothing is said about the order in which blocks are freed or about the addresses an allocator would
choose: a name is only used to tell whether two pointers are to the same block, and whether a block
is still there. So a decoder is verified twice, once for what it decodes, without any heap, and once
for which blocks it leaves behind; `Erases` and `Allocates` are the two halves, and each has a rule
for every combinator. The functions that take the value apart again are then judged by `Frees`: all
blocks of the value and nothing else, each of them once.
-/

namespace GpuVirtmem.Lib

/-- The names of the live blocks. The next block gets a name above all of them. -/
structure Heap where
  live : Finset Nat
  next : Nat
  live_lt : ∀ p ∈ live, p < next

/-- A pointer to a block, with what the block holds. -/
structure Block (α : Type) where
  name : Nat
  value : α

/-- The name of the block, unless the pointer is NULL. -/
def Block.names {α : Type} (p : Option (Block α)) : List Nat := (p.map Block.name).toList

/-- The names of the block of a table and of the blocks of its entries. -/
def Block.tableNames {α : Type} (names : α → List Nat) : Option (Block (List α)) → List Nat
  | none => []
  | some table => table.name :: table.value.flatMap names

namespace Heap

/-- Two heaps with the same live blocks and the same next name are the same, whatever led to
them. -/
@[ext] theorem ext {h h' : Heap} (hlive : h.live = h'.live) (hnext : h.next = h'.next) :
    h = h' := by
  cases h
  cases h'
  cases hlive
  cases hnext
  rfl

/-- No block is live. -/
def empty : Heap where
  live := ∅
  next := 0
  live_lt p hp := absurd hp (Finset.notMem_empty p)

/-- `malloc`, where there is memory. The block is `h.next`. -/
def malloc (h : Heap) : Heap where
  live := insert h.next h.live
  next := h.next + 1
  live_lt p hp := by
    rcases Finset.mem_insert.mp hp with rfl | hp
    · exact Nat.lt_succ_self _
    · exact Nat.lt_succ_of_lt (h.live_lt p hp)

/-- The heap after `n` calls of `malloc`. -/
def mallocs (h : Heap) : Nat → Heap
  | 0 => h
  | n + 1 => h.malloc.mallocs n

/-- The heap without the given blocks. -/
def without (h : Heap) (ps : List Nat) : Heap where
  live := h.live.filter (· ∉ ps)
  next := h.next
  live_lt p hp := h.live_lt p (Finset.mem_filter.mp hp).1

/-- Allocating in two goes is allocating in one. The rules of `Allocates` for sequences rest on
it. -/
theorem mallocs_mallocs (h : Heap) (m n : Nat) : (h.mallocs m).mallocs n = h.mallocs (m + n) := by
  induction m generalizing h with
  | zero => rw [Nat.zero_add, mallocs]
  | succ m ih => rw [Nat.succ_add, mallocs, mallocs, ih]

/-- Each block takes one name, so that the names of a decoder's blocks can be counted from its
start. -/
@[simp] theorem mallocs_next (h : Heap) (n : Nat) : (h.mallocs n).next = h.next + n := by
  induction n generalizing h with
  | zero => rfl
  | succ n ih =>
    rw [mallocs, ih]
    show h.next + 1 + n = _
    omega

/-- Behind the blocks that were live, the new ones have the names from the next one on. -/
@[simp] theorem mem_mallocs {h : Heap} {n p : Nat} :
    p ∈ (h.mallocs n).live ↔ p ∈ h.live ∨ p ∈ List.range' h.next n := by
  induction n generalizing h with
  | zero => simp [mallocs]
  | succ n ih =>
    rw [mallocs, ih, List.range'_succ, List.mem_cons, ← or_assoc]
    refine or_congr ?_ Iff.rfl
    rw [malloc, Finset.mem_insert, or_comm]

/-- What is live after some blocks have gone: what was live, but for these. -/
@[simp] theorem mem_without {h : Heap} {ps : List Nat} {p : Nat} :
    p ∈ (h.without ps).live ↔ p ∈ h.live ∧ p ∉ ps := Finset.mem_filter

@[simp] theorem without_nil (h : Heap) : h.without [] = h := by
  ext p
  · simp
  · rfl

@[simp] theorem without_without (h : Heap) (ps qs : List Nat) :
    (h.without ps).without qs = h.without (ps ++ qs) := by
  ext p
  · simp [and_assoc]
  · rfl

end Heap

/-! ## Decoders that allocate -/

/-- A decoder that takes the heap from one state to another. -/
def Allocating (α : Type) := Heap → Reader (α × Heap)

namespace Allocating

variable {α β γ δ : Type}

/-- Neither a byte is read nor a block allocated. -/
def pure (a : α) : Allocating α := fun h => Pure.pure (a, h)

/-- The second decoder goes on with the heap the first one left. -/
def bind (m : Allocating α) (k : α → Allocating β) : Allocating β := fun h => do
  let p ← m h
  k p.1 p.2

instance : Monad Allocating where
  pure := pure
  bind := bind

/-- A decoder that allocates nothing. -/
def lift (r : Reader α) : Allocating α := fun h => do
  let a ← r
  return (a, h)

/-- `malloc`, where there is memory. -/
def malloc : Allocating Nat := fun h => Pure.pure (h.next, h.malloc)

/-- The decoder run `n` times. -/
def times (n : Nat) (m : Allocating α) : Allocating (List α) :=
  match n with
  | 0 => return []
  | n + 1 => do
    let a ← m
    let as ← times n m
    return a :: as

/-- The value together with the offset the decoder reported. -/
def withOffset (m : Allocating α) : Allocating (α × Nat) := fun h => do
  let p ← (m h).withOffset
  return ((p.1.1, p.2), p.1.2)

/-- Without its heap and the names of its blocks, the decoder is `r`. -/
def Erases (m : Allocating α) (r : Reader β) (erase : α → β) : Prop :=
  ∀ h, (do let p ← m h; return erase p.1) = r

/-- The decoder allocates blocks with the next names, which are to its value as `R` says. -/
def Allocates (m : Allocating α) (R : α → List Nat → Prop) : Prop :=
  ∀ h src a h' k, m h src = .ok ((a, h'), k) →
    ∃ n, h' = h.mallocs n ∧ R a (List.range' h.next n)

section

variable {m : Allocating α} {k : α → Allocating β} {r : Reader γ} {l : γ → Reader δ}
  {f : α → γ} {g : β → δ}

/-- A pure value erases to its image. -/
theorem erases_pure {a : α} {b : γ} (h : f a = b) :
    Erases (Pure.pure a) (Pure.pure b : Reader γ) f := by
  intro heap
  have hp : ((Pure.pure a : Allocating α) heap) = Pure.pure (a, heap) := rfl
  rw [hp, Reader.pure_bind, h]

/-- The rule for sequences: the second decoder may depend on the blocks that the first one has
allocated, as long as its erasure only depends on what was decoded. -/
theorem Erases.bind (h : Erases m r f) (hk : ∀ a, Erases (k a) (l (f a)) g) :
    Erases (m >>= k) (r >>= l) g := by
  intro heap
  have hl : ∀ p : α × Heap, (do let q ← k p.1 p.2; return g q.1) =
      (Pure.pure (f p.1) >>= l : Reader δ) := by
    intro p
    rw [hk p.1 p.2, Reader.pure_bind]
  calc ((m heap >>= fun p => k p.1 p.2) >>= fun q => Pure.pure (g q.1))
    _ = m heap >>= fun p => k p.1 p.2 >>= fun q => Pure.pure (g q.1) := Reader.bind_assoc _ _ _
    _ = m heap >>= fun p => Pure.pure (f p.1) >>= l := congrArg _ (funext hl)
    _ = (m heap >>= fun p => Pure.pure (f p.1)) >>= l := (Reader.bind_assoc _ _ _).symm
    _ = r >>= l := by rw [h heap]

/-- What the decoder without a heap decodes is decoded in every heap. -/
theorem Erases.exists_ok (h : Erases m r f) {src : Bytes} {c : γ} {n : Nat}
    (hr : r src = .ok (c, n)) (heap : Heap) :
    ∃ a heap', m heap src = .ok ((a, heap'), n) ∧ f a = c := by
  rw [← h heap] at hr
  obtain ⟨⟨a, heap'⟩, n', _, hm, hpure, rfl⟩ := Reader.bind_eq_ok hr
  cases hpure
  exact ⟨a, heap', hm, rfl⟩

/-- A decoder that allocates nothing is its own erasure. -/
theorem erases_lift (r : Reader α) : Erases (lift r) r id := by
  intro heap
  have hpure : ∀ a : α, (Pure.pure (a, heap) >>= fun p => Pure.pure p.1 : Reader α) =
      Pure.pure a := fun a => Reader.pure_bind _ _
  calc (r >>= fun a => Pure.pure (a, heap)) >>= (fun p => Pure.pure p.1)
    _ = r >>= fun a => Pure.pure (a, heap) >>= fun p => Pure.pure p.1 := Reader.bind_assoc _ _ _
    _ = r >>= Pure.pure := congrArg _ (funext hpure)
    _ = r := Reader.bind_pure r

/-- The rule for a sequence whose first decoder allocates nothing: both sides take the same
value. -/
theorem Erases.lift_bind {r : Reader α} {l : α → Reader δ} (hk : ∀ a, Erases (k a) (l a) g) :
    Erases (lift r >>= k) (r >>= l) g := (erases_lift r).bind hk

/-- What is decoded into a block that is allocated first. -/
theorem Erases.malloc_bind {k : Nat → Allocating β} {r : Reader δ} (hk : ∀ p, Erases (k p) r g) :
    Erases (malloc >>= k) r g := by
  intro heap
  have hm : (malloc >>= k) heap = k heap.next heap.malloc := Reader.pure_bind _ _
  rw [hm, hk]

/-- A table of decoded entries erases entry by entry. -/
theorem Erases.times (h : Erases m r f) (n : Nat) :
    Erases (times n m) (Reader.times n r) (List.map f) := by
  induction n with
  | zero => exact erases_pure rfl
  | succ n ih => exact h.bind fun a => ih.bind fun as => erases_pure rfl

/-- The offset that is reported is not changed by the heap. -/
theorem Erases.withOffset (h : Erases m r f) :
    Erases m.withOffset r.withOffset (Prod.map f id) := by
  intro heap
  rw [← h heap]
  funext src
  show ((((m heap).withOffset >>= fun p => Pure.pure ((p.1.1, p.2), p.1.2)) >>=
    fun p => Pure.pure (Prod.map f id p.1)) : Reader (γ × Nat)) src = _
  cases hm : m heap src with
  | error e =>
    have ho : (m heap).withOffset src = .error e := by simp only [Reader.withOffset, hm]
    rw [Reader.bind_error (Reader.bind_error ho), Reader.withOffset, Reader.bind_error hm]
  | ok p =>
    obtain ⟨⟨a, heap'⟩, n⟩ := p
    have ho : (m heap).withOffset src = .ok (((a, heap'), n), n) := by
      simp only [Reader.withOffset, hm]
    rw [Reader.bind_assoc, Reader.bind_ok ho, Reader.withOffset, Reader.bind_ok hm]
    rfl

end

section

variable {m : Allocating α} {k : α → Allocating β} {R : α → List Nat → Prop}
  {S : β → List Nat → Prop}

theorem allocates_pure {a : α} (h : R a []) : Allocates (Pure.pure a) R := by
  intro heap src a' heap' n hrun
  cases hrun
  exact ⟨0, rfl, h⟩

/-- The rule for sequences: the blocks of the second decoder have the names behind those of the
first, so that the relation of the whole speaks of both lists, one after the other. -/
theorem Allocates.bind (h : Allocates m R)
    (hk : ∀ a ps, R a ps → Allocates (k a) fun b qs => S b (ps ++ qs)) :
    Allocates (m >>= k) S := by
  intro heap src b heap' n hrun
  obtain ⟨⟨a, mid⟩, n₁, n₂, hm, hka, rfl⟩ := Reader.bind_eq_ok hrun
  obtain ⟨i, rfl, hR⟩ := h heap src a mid n₁ hm
  obtain ⟨j, rfl, hS⟩ := hk a _ hR _ _ b heap' n₂ hka
  refine ⟨i + j, Heap.mallocs_mallocs heap i j, ?_⟩
  rwa [Heap.mallocs_next, List.range'_append_1] at hS

theorem allocates_lift (r : Reader α) : Allocates (lift r) fun _ ps => ps = [] := by
  intro heap src a heap' n hrun
  obtain ⟨_, _, _, _, hpure, _⟩ := Reader.bind_eq_ok hrun
  cases hpure
  exact ⟨0, rfl, rfl⟩

theorem Allocates.lift_bind {r : Reader α} (hk : ∀ a, Allocates (k a) S) :
    Allocates (lift r >>= k) S :=
  (allocates_lift r).bind fun a ps hps => by rw [hps]; exact hk a

/-- `malloc` allocates the one block that it returns. -/
theorem allocates_malloc : Allocates malloc fun p ps => ps = [p] := by
  intro heap src p heap' n hrun
  cases hrun
  exact ⟨1, rfl, rfl⟩

/-- What is allocated first stands first among the names. -/
theorem Allocates.malloc_bind {k : Nat → Allocating β}
    (hk : ∀ p, Allocates (k p) fun b qs => S b (p :: qs)) : Allocates (malloc >>= k) S :=
  allocates_malloc.bind fun p ps hps => by rw [hps]; exact hk p

/-- A table allocates the blocks of its entries, one entry after the other. -/
theorem Allocates.times {names : α → List Nat} (h : Allocates m fun a ps => names a = ps)
    (n : Nat) : Allocates (times n m) fun as ps => as.flatMap names = ps := by
  induction n with
  | zero => exact allocates_pure rfl
  | succ n ih =>
    refine h.bind fun a ps ha => ih.bind fun as qs has => allocates_pure ?_
    rw [List.flatMap_cons, ha, has, List.append_nil]

theorem Allocates.withOffset (h : Allocates m R) :
    Allocates m.withOffset fun p ps => R p.1 ps := by
  intro heap src p heap' n hrun
  obtain ⟨⟨⟨a, mid⟩, n₁⟩, _, _, hm, hpure, _⟩ := Reader.bind_eq_ok hrun
  cases hpure
  unfold Reader.withOffset at hm
  split at hm
  · next hrun =>
    cases hm
    exact h heap src a mid _ hrun
  · cases hm

end

end Allocating

/-! ## Functions that free -/

/-- A function that reads and frees blocks, as long as they are live. -/
abbrev Freeing := StateT Heap Option

namespace Freeing

variable {α β : Type}

/-- `free` of a pointer that is not NULL. -/
def free (p : Nat) : Freeing Unit := fun h =>
  if p ∈ h.live then some ((), h.without [p]) else none

/-- What the block holds. -/
def read (b : Block α) : Freeing α := fun h => if b.name ∈ h.live then some (b.value, h) else none

/-- The blocks are live, and those to be freed are no two the same and none of those to be kept. -/
structure Owned (h : Heap) (kept freed : List Nat) : Prop where
  live : ∀ p ∈ kept ++ freed, p ∈ h.live
  nodup : freed.Nodup
  apart : ∀ p ∈ kept, p ∉ freed

/-- The function frees the blocks `freed`, each once, and reads no others than them and `kept`. -/
def Frees (m : Freeing Unit) (kept freed : List Nat) : Prop :=
  ∀ h, Owned h kept freed → m h = some ((), h.without freed)

/-- The function reads or frees a block that is not live any more. -/
def Faults (m : Freeing Unit) (kept freed : List Nat) : Prop :=
  ∀ h, Owned h kept freed → m h = none

variable {m m' : Freeing Unit} {kept used freed freed' : List Nat}

/-- What is freed later is kept until then. -/
theorem Owned.first {h : Heap} (ho : Owned h kept (freed ++ freed'))
    (hused : used ⊆ kept ++ freed') : Owned h used freed where
  live p hp := by
    refine ho.live p ?_
    rw [← List.append_assoc]
    rcases List.mem_append.mp hp with hp | hp
    · rcases List.mem_append.mp (hused hp) with hp | hp
      · exact List.mem_append_left _ (List.mem_append_left _ hp)
      · exact List.mem_append_right _ hp
    · exact List.mem_append_left _ (List.mem_append_right _ hp)
  nodup := ho.nodup.of_append_left
  apart p hp hfreed := by
    rcases List.mem_append.mp (hused hp) with hp | hp
    · exact ho.apart p hp (List.mem_append_left _ hfreed)
    · exact (List.nodup_append.mp ho.nodup).2.2 p hfreed p hp rfl

/-- Once the first blocks have been freed, the rest is still live, and is owned by what comes
next. -/
theorem Owned.second {h : Heap} (ho : Owned h kept (freed ++ freed')) :
    Owned (h.without freed) kept freed' where
  live p hp := by
    rw [Heap.mem_without]
    rcases List.mem_append.mp hp with hp | hp
    · exact ⟨ho.live p (List.mem_append_left _ hp),
        fun hfreed => ho.apart p hp (List.mem_append_left _ hfreed)⟩
    · exact ⟨ho.live p (List.mem_append_right _ (List.mem_append_right _ hp)),
        fun hfreed => (List.nodup_append.mp ho.nodup).2.2 p hfreed p hp rfl⟩
  nodup := ho.nodup.of_append_right
  apart p hp hfreed := ho.apart p hp (List.mem_append_right _ hfreed)

theorem bind_some {m : Freeing α} {k : α → Freeing β} {h h' : Heap} {a : α}
    (hm : m h = some (a, h')) : (m >>= k) h = k a h' := by
  show (m h).bind (fun p => k p.1 p.2) = _
  rw [hm]
  rfl

theorem bind_none {m : Freeing α} {k : α → Freeing β} {h : Heap} (hm : m h = none) :
    (m >>= k) h = none := by
  show (m h).bind (fun p => k p.1 p.2) = _
  rw [hm]
  rfl

/-- Doing nothing frees nothing, and may keep whatever it likes. -/
theorem frees_pure (kept : List Nat) : Frees (Pure.pure ()) kept [] := by
  intro h _
  rw [Heap.without_nil]
  rfl

/-- `free` frees its block, once, and reads no other. -/
theorem frees_free (p : Nat) (kept : List Nat) : Frees (free p) kept [p] := by
  intro h ho
  exact if_pos (ho.live p (by simp))

/-- One function after another, where the first one may read what the second one frees. -/
theorem Frees.seq (hm : Frees m used freed) (hm' : Frees m' kept freed')
    (hused : used ⊆ kept ++ freed') : Frees (do m; m') kept (freed ++ freed') := by
  intro h ho
  rw [bind_some (hm h (ho.first hused)), hm' _ ho.second, Heap.without_without]

/-- The first function has done its part properly, so that the fault of the second one shows in the
whole run: a sequence is at fault as soon as any part of it is. -/
theorem Frees.seq_faults (hm : Frees m used freed) (hm' : Faults m' kept freed')
    (hused : used ⊆ kept ++ freed') : Faults (do m; m') kept (freed ++ freed') := by
  intro h ho
  rw [bind_some (hm h (ho.first hused)), hm' _ ho.second]

/-- The second function needs a block that the first one has freed. -/
theorem Frees.faults {p : Nat} (hm : Frees m used freed) (hp : p ∈ freed)
    (hm' : ∀ h : Heap, p ∉ h.live → m' h = none) (hused : used ⊆ kept ++ freed') :
    Faults (do m; m') kept (freed ++ freed') := by
  intro h ho
  rw [bind_some (hm h (ho.first hused)), hm']
  rw [Heap.mem_without]
  exact fun hlive => hlive.2 hp

section

variable {b : Block α} {k : α → Freeing Unit}

/-- A block may be read as long as it is one of those that are kept or freed later on. -/
theorem Frees.read_bind (hk : Frees (k b.value) kept freed) (hb : b.name ∈ kept ++ freed) :
    Frees (read b >>= k) kept freed := by
  intro h ho
  have hread : read b h = some (b.value, h) := if_pos (ho.live b.name hb)
  rw [bind_some hread, hk h ho]

/-- Reading a live block does not hide the fault of what comes after it. -/
theorem Faults.read_bind (hk : Faults (k b.value) kept freed) (hb : b.name ∈ kept ++ freed) :
    Faults (read b >>= k) kept freed := by
  intro h ho
  have hread : read b h = some (b.value, h) := if_pos (ho.live b.name hb)
  rw [bind_some hread, hk h ho]

/-- A block that is not live is not read. -/
theorem read_bind_dead {h : Heap} (hb : b.name ∉ h.live) : (read b >>= k) h = none :=
  bind_none (if_neg hb)

end

end Freeing

end GpuVirtmem.Lib
