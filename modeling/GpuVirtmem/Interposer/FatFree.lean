import GpuVirtmem.Interposer.FatBlocks
import GpuVirtmem.Interposer.FatOffsets
import GpuVirtmem.Interposer.TableLength

/-!
# Freeing a decoded fat binary (`interposer/libciutils.c`)

`freeFatBinary` goes through each table up to the entry whose two pointers are both NULL. It does
so twice for the debug table, which is freed after the first time, and never for the symbols. What
it frees and what it leaves are together the blocks of the decoding, so it frees each of them
exactly if there is no debug table and nothing is left.

The proof is by counting. What `freeFatBinary` frees (`freed`) and what it does not get to (`left`)
are together the blocks of the decoding (`freed_perm`), each of which has one name; so everything is
freed once exactly if nothing is left and nothing is freed twice. Which contents lead to that is
found out afterwards (`left_iff`), table by table.
-/

namespace GpuVirtmem.Interposer

open Lib Lib.Freeing

/-! ## The function -/

/-- `free`, unless the pointer is NULL. -/
def freePointer : Option Nat → Freeing Unit
  | none => return
  | some p => free p

/-- The loop over a table, from one of its entries on. Behind the last one nothing can be read. -/
def freeEntries {α : Type} (pointers : α → Option Nat × Option Nat) (table : Block (List α)) :
    List α → Freeing Unit
  | [] => fun _ => none
  | e :: entries => do
    let _ ← read table
    if pointers e = (none, none) then
      return
    else
      freePointer (pointers e).1
      let _ ← read table
      freePointer (pointers e).2
      freeEntries pointers table entries

/-- A table with the blocks of its entries, unless the pointer to it is NULL. -/
def freeTable {α : Type} (pointers : α → Option Nat × Option Nat) :
    Option (Block (List α)) → Freeing Unit
  | none => return
  | some table => do
    freeEntries pointers table table.value
    free table.name

/-- `freeFatBinary`. Symbols and dependends are ignored. -/
def freeFatBinary : Option (Block FatBlocks) → Freeing Unit
  | none => return
  | some fatCubin => do
    freePointer ((← read fatCubin).key.map Block.name)
    freePointer ((← read fatCubin).ident.map Block.name)
    freePointer ((← read fatCubin).usageMode.map Block.name)
    freeTable EntryBlocks.pointers (← read fatCubin).ptx
    freeTable EntryBlocks.pointers (← read fatCubin).cubin
    freeTable DebugEntryBlocks.pointers (← read fatCubin).debug
    freeTable DebugEntryBlocks.pointers (← read fatCubin).debug
    freeTable ElfEntryBlocks.pointers (← read fatCubin).elf
    free fatCubin.name

/-- With its structure in a block of its own, the binary is decoded and freed, and no block is left
of those that the decoding has allocated. -/
def FreesDecoded (h : Heap) (pFatPack : Bytes) : Prop :=
  ∃ u decoded k freed, unpackFatBinaryIn h.malloc pFatPack = .ok ((u, decoded), k) ∧
    freeFatBinary (some { name := h.next, value := u }) decoded = some ((), freed) ∧
    ∀ p ∈ decoded.live, p ∉ h.malloc.live → p ∉ freed.live

/-- One of the two strings of the entry is not empty. -/
def FatEntry.HasText (e : FatEntry) : Prop :=
  text e.gpuProfileName ≠ .empty ∨ text e.code ≠ .empty

/-- There are no debug entries and no symbols, and in ptx and cubin no entry with a text stands
behind one without. -/
structure FreesClean (b : FatRecord) : Prop where
  ptx : ((b.ptx.getD []).takeWhile FatEntry.more).Pairwise fun e e' => e'.HasText → e.HasText
  cubin : ((b.cubin.getD []).takeWhile FatEntry.more).Pairwise fun e e' => e'.HasText → e.HasText
  debug : b.debug.takeWhile FatDebugEntry.more = []
  exported : NoSymbols b.exported
  imported : NoSymbols b.imported

/-! ## What is freed and what is left -/

section

variable {α : Type} {pointers : α → Option Nat × Option Nat}

/-- The blocks of the entries up to the one that ends the loop. -/
def entriesFreed (pointers : α → Option Nat × Option Nat) (entries : List α) : List Nat :=
  (entries.takeWhile (pointers · ≠ (none, none))).flatMap fun e => pairNames (pointers e)

/-- What is freed of a table. -/
def tableFreed (pointers : α → Option Nat × Option Nat) : Option (Block (List α)) → List Nat
  | none => []
  | some table => entriesFreed pointers table.value ++ [table.name]

/-- What is left of a table. -/
def tableLeft (pointers : α → Option Nat × Option Nat) : Option (Block (List α)) → List Nat
  | none => []
  | some table =>
    (table.value.dropWhile (pointers · ≠ (none, none))).flatMap fun e => pairNames (pointers e)

/-- Of a table's blocks some are freed and the others are left. -/
theorem table_perm (pointers : α → Option Nat × Option Nat) (p : Option (Block (List α))) :
    (Block.tableNames (fun e => pairNames (pointers e)) p).Perm
      (tableFreed pointers p ++ tableLeft pointers p) := by
  cases p with
  | none => exact .nil
  | some table =>
    have hvalue : table.value = table.value.takeWhile (pointers · ≠ (none, none)) ++
        table.value.dropWhile (pointers · ≠ (none, none)) :=
      List.takeWhile_append_dropWhile.symm
    have hnames := congrArg (List.flatMap fun e => pairNames (pointers e)) hvalue
    rw [List.flatMap_append] at hnames
    unfold tableFreed tableLeft entriesFreed
    rw [List.append_assoc, Block.tableNames, hnames]
    exact List.perm_middle.symm

/-- A pointer that is not NULL is freed, if it is live. -/
theorem frees_pointer (p : Option Nat) (kept : List Nat) : Frees (freePointer p) kept p.toList := by
  cases p with
  | none => exact frees_pure kept
  | some p => exact frees_free p kept

/-- The loop frees what its entries point to, up to the one that ends it. -/
theorem frees_entries (table : Block (List α)) {entries : List α}
    (hend : ∃ e ∈ entries, pointers e = (none, none)) :
    Frees (freeEntries pointers table entries) [table.name] (entriesFreed pointers entries) := by
  unfold entriesFreed
  induction entries with
  | nil => simp at hend
  | cons e entries ih =>
    by_cases hnull : pointers e = (none, none)
    · rw [List.takeWhile_cons_of_neg (by simp [hnull])]
      refine Frees.read_bind ?_ (by simp)
      rw [if_pos hnull]
      exact frees_pure _
    · have hrest : ∃ e ∈ entries, pointers e = (none, none) := by
        obtain ⟨e', he', hnone⟩ := hend
        rcases List.mem_cons.mp he' with rfl | he'
        · exact absurd hnone hnull
        · exact ⟨e', he', hnone⟩
      rw [List.takeWhile_cons_of_pos (by simp [hnull]), List.flatMap_cons, pairNames,
        List.append_assoc]
      refine Frees.read_bind ?_ (by simp)
      rw [if_neg hnull]
      refine (frees_pointer _ []).seq (Frees.read_bind ?_ (by simp)) (List.nil_subset _)
      exact (frees_pointer _ []).seq (ih hrest) (List.nil_subset _)

/-- Then the table itself. -/
theorem frees_table {p : Option (Block (List α))} {null : α}
    (hend : ∀ table, p = some table → null ∈ table.value) (hnull : pointers null = (none, none)) :
    Frees (freeTable pointers p) [] (tableFreed pointers p) := by
  cases p with
  | none => exact frees_pure []
  | some table =>
    have hentries := frees_entries table ⟨null, hend table rfl, hnull⟩
    exact hentries.seq (frees_free table.name []) (by simp)

/-- A table that is not live cannot be freed. -/
theorem freeTable_dead {table : Block (List α)} {h : Heap} (hdead : table.name ∉ h.live) :
    freeTable pointers (some table) h = none := by
  refine bind_none ?_
  cases table.value with
  | nil => rfl
  | cons e entries => exact read_bind_dead hdead

end

/-- What is freed of a binary whose structure is the block `p`. -/
def FatBlocks.freed (u : FatBlocks) (p : Nat) : List Nat :=
  Block.names u.key ++ (Block.names u.ident ++ (Block.names u.usageMode ++
    (tableFreed EntryBlocks.pointers u.ptx ++ (tableFreed EntryBlocks.pointers u.cubin ++
      (tableFreed DebugEntryBlocks.pointers u.debug ++
        (tableFreed ElfEntryBlocks.pointers u.elf ++ [p]))))))

/-- What is left of a binary. -/
def FatBlocks.left (u : FatBlocks) : List Nat :=
  tableLeft EntryBlocks.pointers u.ptx ++ (tableLeft EntryBlocks.pointers u.cubin ++
    (tableLeft DebugEntryBlocks.pointers u.debug ++ (tableLeft ElfEntryBlocks.pointers u.elf ++
      (Block.tableNames (fun e => Block.names e.name) u.exported ++
        Block.tableNames (fun e => Block.names e.name) u.imported))))

/-- What is freed and what is left are together the structure and its blocks. -/
theorem freed_perm (u : FatBlocks) (p : Nat) : (u.freed p ++ u.left).Perm (p :: u.names) := by
  have hptx := table_perm EntryBlocks.pointers u.ptx
  have hcubin := table_perm EntryBlocks.pointers u.cubin
  have hdebug := table_perm DebugEntryBlocks.pointers u.debug
  have helf := table_perm ElfEntryBlocks.pointers u.elf
  rw [List.perm_iff_count] at hptx hcubin hdebug helf ⊢
  intro q
  have hptx := hptx q
  have hcubin := hcubin q
  have hdebug := hdebug q
  have helf := helf q
  simp only [FatBlocks.freed, FatBlocks.left, FatBlocks.names, List.count_append, List.count_cons,
    List.count_nil] at hptx hcubin hdebug helf ⊢
  omega

section

variable {u : FatBlocks} {ps : List Nat}

/-- Without a debug table, the blocks are freed that are not left. -/
theorem frees_fatBinary (hu : BlocksOf u ps) (hdebug : u.debug = none) (p : Nat) :
    Frees (freeFatBinary (some { name := p, value := u })) [] (u.freed p) := by
  have hskip : Frees (freeTable DebugEntryBlocks.pointers u.debug) [] [] := by
    rw [hdebug]
    exact frees_pure []
  have hfreed : u.freed p = Block.names u.key ++ (Block.names u.ident ++ (Block.names u.usageMode ++
      (tableFreed EntryBlocks.pointers u.ptx ++ (tableFreed EntryBlocks.pointers u.cubin ++
        ([] ++ ([] ++ (tableFreed ElfEntryBlocks.pointers u.elf ++ [p]))))))) := by
    rw [FatBlocks.freed, hdebug]
    rfl
  rw [hfreed]
  refine Frees.read_bind ?_ (by simp)
  refine (frees_pointer _ []).seq (Frees.read_bind ?_ (by simp)) (List.nil_subset _)
  refine (frees_pointer _ []).seq (Frees.read_bind ?_ (by simp)) (List.nil_subset _)
  refine (frees_pointer _ []).seq (Frees.read_bind ?_ (by simp)) (List.nil_subset _)
  refine (frees_table hu.ptx rfl).seq (Frees.read_bind ?_ (by simp)) (List.nil_subset _)
  refine (frees_table hu.cubin rfl).seq (Frees.read_bind ?_ (by simp)) (List.nil_subset _)
  refine hskip.seq (Frees.read_bind ?_ (by simp)) (List.nil_subset _)
  refine hskip.seq (Frees.read_bind ?_ (by simp)) (List.nil_subset _)
  exact (frees_table hu.elf rfl).seq (frees_free p []) (List.nil_subset _)

/-- The second time, the debug table is read although it is freed. -/
theorem faults_fatBinary (hu : BlocksOf u ps) {table : Block (List DebugEntryBlocks)}
    (hdebug : u.debug = some table) (p : Nat) :
    Faults (freeFatBinary (some { name := p, value := u })) [] (u.freed p) := by
  have hfreed : table.name ∈ tableFreed DebugEntryBlocks.pointers u.debug := by
    rw [hdebug]
    exact List.mem_append_right _ List.mem_cons_self
  refine Faults.read_bind ?_ (by simp [FatBlocks.freed])
  refine (frees_pointer _ []).seq_faults (Faults.read_bind ?_ (by simp)) (List.nil_subset _)
  refine (frees_pointer _ []).seq_faults (Faults.read_bind ?_ (by simp)) (List.nil_subset _)
  refine (frees_pointer _ []).seq_faults (Faults.read_bind ?_ (by simp)) (List.nil_subset _)
  refine (frees_table hu.ptx rfl).seq_faults (Faults.read_bind ?_ (by simp)) (List.nil_subset _)
  refine (frees_table hu.cubin rfl).seq_faults (Faults.read_bind ?_ (by simp)) (List.nil_subset _)
  refine (frees_table hu.debug rfl).faults hfreed ?_ (List.nil_subset _)
  intro h hdead
  by_cases hp : p ∈ h.live
  · have hread : read (Block.mk p u) h = some (u, h) := if_pos hp
    rw [bind_some hread]
    refine bind_none ?_
    rw [hdebug]
    exact freeTable_dead hdead
  · exact read_bind_dead hp

end

section

variable {h : Heap} {u : FatBlocks} {n : Nat}

/-- The structure and the blocks of the decoding have the names from `h.next` on. -/
theorem decoded_perm (hu : BlocksOf u (List.range' h.malloc.next n)) :
    (u.freed h.next ++ u.left).Perm (List.range' h.next (n + 1)) := by
  have hperm := freed_perm u h.next
  rw [hu.names] at hperm
  exact hperm

/-- No block has two names. -/
theorem decoded_nodup (hu : BlocksOf u (List.range' h.malloc.next n)) :
    (u.freed h.next ++ u.left).Nodup :=
  (decoded_perm hu).nodup_iff.mpr (List.nodup_range' (s := h.next) (n := n + 1))

/-- The heap after a decoding: its blocks are live. -/
theorem owned_decoded (hu : BlocksOf u (List.range' h.malloc.next n)) :
    Owned (h.malloc.mallocs n) [] (u.freed h.next) where
  live p hp := by
    have hmem := (decoded_perm hu).mem_iff.mp (List.mem_append_left _ hp)
    rw [Heap.mem_mallocs]
    rcases List.mem_cons.mp hmem with rfl | hnew
    · exact .inl (Finset.mem_insert_self _ _)
    · exact .inr hnew
  nodup := (decoded_nodup hu).of_append_left
  apart p hp := absurd hp List.not_mem_nil

/-- The blocks of the decoding that are live afterwards are those that are left. -/
theorem mem_left_iff (hu : BlocksOf u (List.range' h.malloc.next n)) (p : Nat) :
    p ∈ u.left ↔ (p ∈ (h.malloc.mallocs n).live ∧ p ∉ h.malloc.live) ∧
      p ∈ ((h.malloc.mallocs n).without (u.freed h.next)).live := by
  have hperm := (decoded_perm hu).mem_iff (a := p)
  rw [List.mem_append] at hperm
  rw [Heap.mem_without, Heap.mem_mallocs]
  constructor
  · intro hp
    have hnot : p ∉ u.freed h.next := fun hfreed =>
      (List.nodup_append.mp (decoded_nodup hu)).2.2 p hfreed p hp rfl
    have hnew : p ∈ List.range' h.malloc.next n := by
      rcases List.mem_cons.mp (hperm.mp (.inr hp)) with rfl | hnew
      · exact absurd (by simp [FatBlocks.freed]) hnot
      · exact hnew
    have hold : p ∉ h.malloc.live := fun hlive =>
      Nat.not_lt.mpr (List.mem_range'_1.mp hnew).1 (h.malloc.live_lt p hlive)
    exact ⟨⟨.inr hnew, hold⟩, .inr hnew, hnot⟩
  · rintro ⟨⟨hlive, hold⟩, -, hnot⟩
    exact (hperm.mpr (List.mem_cons_of_mem _ (hlive.resolve_left hold))).resolve_left hnot

/-- A binary that was decoded is freed if it has no debug table and nothing is left of it. -/
theorem freesDecoded_iff {decoded : Heap} {pFatPack : Bytes} {k : Nat}
    (hdecoded : unpackFatBinaryIn h.malloc pFatPack = .ok ((u, decoded), k)) :
    FreesDecoded h pFatPack ↔ u.debug = none ∧ u.left = [] := by
  obtain ⟨n, rfl, hu⟩ := allocates_unpackFatBinary _ _ _ _ _ hdecoded
  have howned := owned_decoded hu
  constructor
  · rintro ⟨u', decoded, k', freed, hdecoded', hfreed, hgone⟩
    rw [hdecoded] at hdecoded'
    cases hdecoded'
    cases hdebug : u.debug with
    | some table =>
      rw [faults_fatBinary hu hdebug h.next _ howned] at hfreed
      cases hfreed
    | none =>
      rw [frees_fatBinary hu hdebug h.next _ howned] at hfreed
      cases hfreed
      refine ⟨rfl, List.eq_nil_iff_forall_not_mem.mpr fun p hp => ?_⟩
      obtain ⟨⟨hlive, hold⟩, hafter⟩ := (mem_left_iff hu p).mp hp
      exact hgone p hlive hold hafter
  · rintro ⟨hdebug, hleft⟩
    refine ⟨u, _, k, _, hdecoded, frees_fatBinary hu hdebug h.next _ howned, ?_⟩
    intro p hlive hold hafter
    have hp := (mem_left_iff hu p).mpr ⟨⟨hlive, hold⟩, hafter⟩
    rw [hleft] at hp
    cases hp

end

/-! ## What is left of a decoded packet -/

section

variable {α β : Type} {pointers : α → Option Nat × Option Nat} {erase : α → β} {held : β → Prop}
  {p : Option (Block (List α))} {l : List β} {null : β}

/-- Nothing is left of a table if no entry that holds something is behind one that does not: the
loop stops at the first entry without pointers, wherever the terminator is. -/
theorem tableLeft_iff (hheld : ∀ e, pointers e ≠ (none, none) ↔ held (erase e))
    (hnull : ¬held null) (herase : eraseArray erase p = some (l ++ [null])) :
    tableLeft pointers p = [] ↔ l.Pairwise fun e e' => held e' → held e := by
  obtain ⟨table, rfl, htable⟩ := Option.map_eq_some_iff.mp herase
  have hempty : ∀ e, pairNames (pointers e) = [] ↔ ¬pointers e ≠ (none, none) := by
    intro e
    unfold pairNames
    cases pointers e with
    | mk s t => cases s <;> cases t <;> simp
  have hleft : tableLeft pointers (some table) = [] ↔
      table.value.Pairwise fun e e' => held (erase e') → held (erase e) := by
    simp only [← hheld]
    rw [← dropWhile_pairwise, tableLeft, List.flatMap_eq_nil_iff]
    exact forall₂_congr fun e _ => hempty e
  rw [hleft, ← List.pairwise_map (f := erase) (R := fun e e' => held e' → held e), htable,
    List.pairwise_append]
  constructor
  · exact And.left
  · intro hl
    refine ⟨hl, List.pairwise_singleton _ _, fun e _ e' he' h => ?_⟩
    rw [List.mem_singleton.mp he'] at h
    exact absurd h hnull

/-- A decoded chain is NULL, or an array of its entries and the terminator. -/
theorem eraseChain_cases {end' : α} (hend : ∀ table, p = some table → end' ∈ table.value)
    (herase : eraseChain erase p = chainOf l null) :
    p = none ∧ l = [] ∨ p ≠ none ∧ l ≠ [] ∧ eraseArray erase p = some (l ++ [null]) := by
  cases p with
  | none =>
    cases l with
    | nil => exact .inl ⟨rfl, rfl⟩
    | cons e l => cases herase
  | some table =>
    right
    have hvalue : table.value.map erase = chainOf l null := herase
    cases l with
    | nil =>
      have hnil : table.value = [] := List.map_eq_nil_iff.mp hvalue
      have hmem := hend table rfl
      rw [hnil] at hmem
      cases hmem
    | cons e l => exact ⟨Option.some_ne_none table, List.cons_ne_nil e l, congrArg some hvalue⟩

end

/-- One of the two pointers is not NULL. -/
def FatEntry.NotNull (e : FatEntry) : Prop := e.gpuProfileName.isSome = true ∨ e.code.isSome = true

@[inherit_doc FatEntry.NotNull]
def FatElfEntry.NotNull (e : FatElfEntry) : Prop :=
  e.gpuProfileName.isSome = true ∨ e.elf.isSome = true

/-- An entry ends the loop if it has no strings. -/
theorem EntryBlocks.pointers_ne (e : EntryBlocks) :
    e.pointers ≠ (none, none) ↔ e.erase.NotNull := by
  obtain ⟨name, code⟩ := e
  cases name <;> cases code <;> simp [pointers, erase, FatEntry.NotNull]

theorem ElfEntryBlocks.pointers_ne (e : ElfEntryBlocks) :
    e.pointers ≠ (none, none) ↔ e.erase.NotNull := by
  obtain ⟨name, elf, size⟩ := e
  cases name <;> cases elf <;> simp [pointers, erase, FatElfEntry.NotNull]

/-- A decoded entry has a string if the packed one had one that is not empty. -/
theorem FatEntry.decoded_notNull (e : FatEntry) : e.decoded.NotNull ↔ e.HasText :=
  or_congr (unpacked_isSome e.gpuProfileName) (unpacked_isSome e.code)

/-- A decoded elf entry has its elf. -/
theorem FatElfEntry.decoded_notNull {e : FatElfEntry} (hsize : e.size ≠ 0) :
    e.decoded.NotNull := by
  have hnat : e.size.toNat ≠ 0 := fun h => hsize (UInt32.toNat_inj.mp h)
  have helf : e.decoded.elf = some ((e.elf.getD []).take e.size.toNat) := if_neg hnat
  right
  rw [helf]
  rfl

/-- Decoded entries of ptx or cubin are left behind one without a text. -/
theorem entriesLeft_iff {p : Option (Block (List EntryBlocks))} {l : List FatEntry}
    (herase : eraseArray EntryBlocks.erase p = some (l.map FatEntry.decoded ++ [.null])) :
    tableLeft EntryBlocks.pointers p = [] ↔ l.Pairwise fun e e' => e'.HasText → e.HasText := by
  have hnull : ¬FatEntry.null.NotNull := by simp [FatEntry.null, FatEntry.NotNull]
  rw [tableLeft_iff EntryBlocks.pointers_ne hnull herase, List.pairwise_map]
  simp only [FatEntry.decoded_notNull]

/-- There is a decoded debug table if there was an entry. -/
theorem debug_eq_none_iff {p : Option (Block (List DebugEntryBlocks))} {l : List FatDebugEntry}
    (hend : ∀ table, p = some table → .null ∈ table.value)
    (herase : eraseChain DebugEntryBlocks.erase p = chainOf (l.map FatDebugEntry.decoded) .null) :
    p = none ↔ l = [] := by
  rw [← List.map_eq_nil_iff (f := FatDebugEntry.decoded)]
  rcases eraseChain_cases hend herase with ⟨hp, hl⟩ | ⟨hp, hl, -⟩
  · exact iff_of_true hp hl
  · exact iff_of_false hp hl

/-- A decoded elf entry has its elf, so none is left. -/
theorem elfLeft_eq_nil {p : Option (Block (List ElfEntryBlocks))} {l : List FatElfEntry}
    (hend : ∀ table, p = some table → .null ∈ table.value) (hsize : ∀ e ∈ l, e.size ≠ 0)
    (herase : eraseChain ElfEntryBlocks.erase p = chainOf (l.map FatElfEntry.decoded) .null) :
    tableLeft ElfEntryBlocks.pointers p = [] := by
  rcases eraseChain_cases hend herase with ⟨rfl, -⟩ | ⟨-, -, herase⟩
  · rfl
  · have hnull : ¬FatElfEntry.null.NotNull := by simp [FatElfEntry.null, FatElfEntry.NotNull]
    rw [tableLeft_iff ElfEntryBlocks.pointers_ne hnull herase, List.pairwise_map]
    exact List.pairwise_of_forall_mem_list
      fun e he _ _ _ => FatElfEntry.decoded_notNull (hsize e he)

/-- All decoded symbols are left, with their table: no loop of `freeFatBinary` is for them. -/
theorem symbolsLeft_iff {p : Option (Block (List SymbolBlocks))} {l : List FatSymbol} {n : Nat}
    (herase : eraseArray SymbolBlocks.erase p = if n = 0 then none else some l) :
    Block.tableNames (fun e => Block.names e.name) p = [] ↔ n = 0 := by
  cases p with
  | none =>
    split at herase
    · next hzero => exact iff_of_true rfl hzero
    · cases herase
  | some table =>
    split at herase
    · cases herase
    · next hpos => exact iff_of_false (List.cons_ne_nil _ _) hpos

/-- The contents of a decoded binary say whether anything is left of it. -/
theorem left_iff {b : FatCudaBinary} {size : Nat} {cache : CacheNumEntries}
    (hsize : getFatRecPktSize b = .ok (size, cache)) {u : FatBlocks} {ps : List Nat}
    (hu : BlocksOf u ps) (herase : u.erase = b.toFatRecord.decoded cache) :
    u.debug = none ∧ u.left = [] ↔ FreesClean b.toFatRecord := by
  have hcounts := getFatRecPktSize_counts hsize
  obtain ⟨_, hptxs⟩ := hcounts.ptx
  obtain ⟨_, hcubins⟩ := hcounts.cubin
  obtain ⟨_, hexported⟩ := hcounts.exported
  obtain ⟨_, himported⟩ := hcounts.imported
  unfold FatRecord.decoded at herase
  rw [(getSizeArray_entries hptxs).1, (getSizeArray_entries hcubins).1, hcounts.debug, hcounts.elf,
    take_length_takeWhile, take_length_takeWhile] at herase
  have hptx := entriesLeft_iff (congrArg (·.ptx) herase)
  have hcubin := entriesLeft_iff (congrArg (·.cubin) herase)
  have hexp := symbolsLeft_iff (congrArg (·.exported) herase)
  have himp := symbolsLeft_iff (congrArg (·.imported) herase)
  have hsizes : ∀ e ∈ b.elf.takeWhile fun e => e.more && e.size != 0, e.size ≠ 0 := by
    intro e he
    have hmore := List.mem_takeWhile_imp he
    exact bne_iff_ne.mp (Bool.and_eq_true_iff.mp hmore).2
  have helf := elfLeft_eq_nil hu.elf hsizes (congrArg (·.elf) herase)
  have hdebug := debug_eq_none_iff hu.debug (congrArg (·.debug) herase)
  have hleft : u.debug = none → (u.left = [] ↔
      tableLeft EntryBlocks.pointers u.ptx = [] ∧ tableLeft EntryBlocks.pointers u.cubin = [] ∧
        Block.tableNames (fun e => Block.names e.name) u.exported = [] ∧
          Block.tableNames (fun e => Block.names e.name) u.imported = []) := by
    intro hnone
    rw [FatBlocks.left, hnone, helf]
    simp [tableLeft]
  rw [and_congr_right hleft, hdebug, hptx, hcubin, hexp, himp, ← noSymbols_iff hexported,
    ← noSymbols_iff himported]
  constructor
  · rintro ⟨hdebug, hptx, hcubin, hexported, himported⟩
    exact ⟨hptx, hcubin, hdebug, hexported, himported⟩
  · intro hclean
    exact ⟨hclean.debug, hclean.ptx, hclean.cubin, hclean.exported, hclean.imported⟩

/-- Every heap has the packet decoded in it, with blocks for what was packed. -/
theorem unpackFatBinaryIn_packed {b : FatCudaBinary} {size : Nat} {cache : CacheNumEntries}
    (hsize : getFatRecPktSize b = .ok (size, cache)) {pkt : Bytes}
    (hpack : packFatBinary b cache = .ok pkt) (hlen : pkt.length < 2 ^ 31) (rest : Bytes)
    (h : Heap) : ∃ u decoded k ps, unpackFatBinaryIn h (pkt ++ rest) = .ok ((u, decoded), k) ∧
      BlocksOf u ps ∧ u.erase = b.toFatRecord.decoded cache := by
  obtain ⟨k, hk⟩ := unpackFatBinary_packed hsize hpack hlen rest
  obtain ⟨u, decoded, hdecoded, herase⟩ := erases_unpackFatBinary.exists_ok hk h
  obtain ⟨n, -, hu⟩ := allocates_unpackFatBinary _ _ _ _ _ hdecoded
  exact ⟨u, decoded, k, _, hdecoded, hu, herase⟩

/-- The blocks of a decoded packet are freed, each once, exactly if the binary is a clean one.

A clean binary has no debug entries and no symbols, and in its tables no entry without a text before
one with a text. What is freed and what is left are counted block by block. -/
theorem frees_decoded_iff {b : FatCudaBinary} {size : Nat} {cache : CacheNumEntries}
    (hsize : getFatRecPktSize b = .ok (size, cache)) {pkt : Bytes}
    (hpack : packFatBinary b cache = .ok pkt) (hlen : pkt.length < 2 ^ 31) (h : Heap)
    (rest : Bytes) : FreesDecoded h (pkt ++ rest) ↔ FreesClean b.toFatRecord := by
  obtain ⟨u, decoded, k, ps, hdecoded, hu, herase⟩ :=
    unpackFatBinaryIn_packed hsize hpack hlen rest h.malloc
  exact (freesDecoded_iff hdecoded).trans (left_iff hsize hu herase)

/-- A binary with an entry of ptx and one of elf. -/
def ptxBinary : FatCudaBinary :=
  { magic := 10, version := 20, gpuInfoVersion := 30, flags := 38, characteristic := 2
    key := CString.read [121, 0], ident := none, usageMode := none, debugInfo := 0
    ptx := some [⟨CString.read [112, 0], CString.read [120, 0]⟩, .null], cubin := none
    debug := [], elf := [⟨CString.read [112, 0], some [0, 1], 2⟩, .null]
    exported := none, imported := none, dependends := [] }

/-- A binary with one ptx entry. -/
theorem ptxBinary_clean : FreesClean ptxBinary.toFatRecord where
  ptx := List.pairwise_singleton _ _
  cubin := List.Pairwise.nil
  debug := rfl
  exported _ _ h := by cases h
  imported _ _ h := by cases h

set_option maxRecDepth 4000 in
/-- Its decoded blocks are freed. -/
theorem frees_decoded_sample :
    ∃ size cache pkt, getFatRecPktSize ptxBinary = .ok (size, cache) ∧
      packFatBinary ptxBinary cache = .ok pkt ∧ pkt.length < 2 ^ 31 ∧
      FreesDecoded .empty (pkt ++ [7]) :=
  ⟨_, _, _, rfl, rfl, by decide, (frees_decoded_iff rfl rfl (by decide) _ _).mpr ptxBinary_clean⟩

/-- The same binary with a debug entry. -/
def debugBinary : FatCudaBinary :=
  { ptxBinary with debug := [⟨CString.read [112, 0], CString.read [100, 0], 1⟩, .null] }

set_option maxRecDepth 4000 in
/-- Its decoded debug table is freed twice: the loop over it is there a second time, and none is
there for the symbols. -/
theorem debug_table_freed_twice :
    ∃ size cache pkt, getFatRecPktSize debugBinary = .ok (size, cache) ∧
      packFatBinary debugBinary cache = .ok pkt ∧ pkt.length < 2 ^ 31 ∧
      ∀ h rest, ¬FreesDecoded h (pkt ++ rest) := by
  refine ⟨_, _, _, rfl, rfl, by decide, fun h rest hfrees => ?_⟩
  obtain ⟨u, decoded, k, ps, hdecoded, hu, herase⟩ :=
    unpackFatBinaryIn_packed (b := debugBinary) rfl rfl (by decide) rest h.malloc
  have hclean := (left_iff rfl hu herase).mp ((freesDecoded_iff hdecoded).mp hfrees)
  cases hclean.debug

end GpuVirtmem.Interposer
