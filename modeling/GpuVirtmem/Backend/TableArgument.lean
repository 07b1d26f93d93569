import GpuVirtmem.Backend.Handles

/-!
# What `table[i]` is (`virtmem/cuda_vmem.c` and its callers)

The functions on the memory map take a `struct mem_map **`, so that `table[i]` is read from memory:
it is the pointer in the cell `i` behind `table`. The pager and the backend loop pass the address of
the variable that holds the base of the shared array, and the signal handlers pass the base itself.
Everywhere else in this development `table[i]` stands for row `i`, which is what it is meant to be.

The memory here is as flat as it has to be: blocks of cells, each of which holds a number, a pointer
or nothing known. It says for which of the callers and for which indices the reading of the other
modules is right.
-/

namespace GpuVirtmem.Backend

open Lib VirtMem

/-- A block of memory: the shared array, the variable that holds its base in the pager and the one
in a backend process, and the swap buffer of a row. -/
inductive Block
  | shared | gmtTable | vmapTable | swap (row : Nat)
  deriving DecidableEq, Repr

/-- A pointer; the offset counts cells of eight bytes. -/
structure Pointer where
  block : Block
  offset : Nat
  deriving DecidableEq, Repr

/-- A cell holds numbers, a device pointer or a pointer. -/
inductive Cell
  | data | device (p : DevPtr) | pointer (p : Pointer)
  deriving DecidableEq, Repr

/-- `sizeof(struct mem_map)`, in cells. -/
def rowCells : Nat := 6

/-- The cells of row `i`: `valid` and `handle`, the device pointer, the swap buffer, `size`,
`status` and `pid`, `freq`. -/
def rowCell (i : Nat) (row : MemMap) : Nat → Option Cell
  | 1 => some (.device row.actualDevptr)
  | 2 => some (if row.swap.isSome then .pointer ⟨.swap i, 0⟩ else .data)
  | n => if n < rowCells then some .data else none

/-- The shared array, which both processes have attached. -/
structure Attached where
  rows : List MemMap
  length_rows : rows.length = maxMemory

namespace Attached

/-- The cell that a pointer leads to; there is none outside the blocks, and what is in the swap
buffers does not matter. -/
def load (m : Attached) (p : Pointer) : Option Cell :=
  match p.block with
  | .shared => (m.rows[p.offset / rowCells]?).bind fun row =>
      rowCell (p.offset / rowCells) row (p.offset % rowCells)
  | .gmtTable | .vmapTable => if p.offset = 0 then some (.pointer ⟨.shared, 0⟩) else none
  | .swap _ => none

/-- The pointer in a cell. -/
def loadPointer (m : Attached) (p : Pointer) : Option Pointer :=
  match m.load p with
  | some (.pointer q) => some q
  | _ => none

/-- `table[i]`, where `table` is a `struct mem_map **`. -/
def element (m : Attached) (table : Pointer) (i : Nat) : Option Pointer :=
  m.loadPointer ⟨table.block, table.offset + i⟩

/-- `&table[i]`, where `table` is the variable of type `struct mem_map *` at the address. -/
def rowAddress (m : Attached) (table : Pointer) (i : Nat) : Option Pointer :=
  (m.loadPointer table).map fun base => ⟨base.block, base.offset + rowCells * i⟩

/-- The row that a pointer leads to. -/
def rowAt (m : Attached) (p : Pointer) : Option MemMap :=
  if p.block = .shared ∧ p.offset % rowCells = 0 then m.rows[p.offset / rowCells]? else none

end Attached

/-- The functions that take the memory map. -/
inductive TableFunction
  | memMapInit | memMapCreat | memMapDelete | memMapFindEntry | memMapMemcpy
  | gvirtIsPagingRequired | gvirtPageIn | gvirtCudaLaunchIndex | gvirtPageOut
  deriving DecidableEq, Repr

/-- `packet->vmmap`, as the backend loop sets it. -/
def vmmap : Pointer := ⟨.vmapTable, 0⟩

/-- The argument that the callers of the function pass: `start_pager` the address of `gmt_table`,
the functions of `remote_api_wrapper.c` the pointer in the packet, and the signal handlers the value
of `vmap_table`. -/
def TableFunction.table (m : Attached) : TableFunction → Option Pointer
  | .memMapInit => some ⟨.gmtTable, 0⟩
  | .memMapCreat | .memMapDelete | .memMapFindEntry | .memMapMemcpy | .gvirtIsPagingRequired
  | .gvirtPageIn | .gvirtCudaLaunchIndex => some vmmap
  | .gvirtPageOut => m.loadPointer ⟨.vmapTable, 0⟩

/-- In the function, `table[i]` is row `i` of the shared array, and the same row as `gmt_table[i]`
in the pager. -/
def RowIsRow (m : Attached) (f : TableFunction) (i : Nat) : Prop :=
  ∃ p, (f.table m).bind (m.element · i) = some p ∧ m.rowAddress ⟨.gmtTable, 0⟩ i = some p ∧
    m.rowAt p = m.rows[i]?

section

variable {m : Attached} {f : TableFunction} {i : Nat}

/-- With the base of the shared array in a variable, the first cell behind the variable's address is
the base. -/
theorem rowAddress_gmtTable : m.rowAddress ⟨.gmtTable, 0⟩ i = some ⟨.shared, rowCells * i⟩ := by
  simp [Attached.rowAddress, Attached.loadPointer, Attached.load]

/-- The address of a row is read as that row. -/
theorem rowAt_row : m.rowAt ⟨.shared, rowCells * i⟩ = m.rows[i]? := by
  simp [Attached.rowAt, rowCells]

/-- Behind the address of a variable, only the variable itself can be read. -/
theorem element_variable {b : Block} (hb : b = .gmtTable ∨ b = .vmapTable) :
    m.element ⟨b, 0⟩ i = if i = 0 then some ⟨.shared, 0⟩ else none := by
  rcases hb with rfl | rfl <;> by_cases hi : i = 0 <;>
    simp [Attached.element, Attached.loadPointer, Attached.load, hi]

/-- The only pointer in a row is the one to its swap buffer. -/
theorem block_of_rowCell {row : MemMap} {n : Nat} {p : Pointer}
    (h : rowCell i row n = some (.pointer p)) : p.block = .swap i := by
  unfold rowCell at h
  split at h
  · cases h
  · split at h
    · cases h
      rfl
    · cases h
  · split at h <;> cases h

/-- No cell of the shared array holds a pointer into it: the handlers that are given the base read a
field of row 0 as if it were a pointer to a row. -/
theorem element_shared {p : Pointer} (h : m.element ⟨.shared, 0⟩ i = some p) :
    p.block ≠ .shared := by
  have hload : m.load ⟨.shared, 0 + i⟩ = some (.pointer p) := by
    unfold Attached.element Attached.loadPointer at h
    split at h
    · next hcell =>
      cases h
      exact hcell
    · cases h
  obtain ⟨row, -, hcell⟩ := Option.bind_eq_some_iff.mp hload
  rw [block_of_rowCell hcell]
  exact Block.noConfusion

/-- Row `i` is row `i` exactly for the row 0, in the functions that are given the address of a
variable.

Behind the variable that holds the base there is no second one. For the handlers that are given the
base itself no index is right. -/
theorem rowIsRow_iff (m : Attached) (f : TableFunction) (i : Nat) :
    RowIsRow m f i ↔ f ≠ .gvirtPageOut ∧ i = 0 := by
  have hvariable {b : Block} (hb : b = .gmtTable ∨ b = .vmapTable)
      (htable : f.table m = some ⟨b, 0⟩) : RowIsRow m f i ↔ i = 0 := by
    rw [RowIsRow, htable, Option.bind_some, element_variable hb, rowAddress_gmtTable]
    constructor
    · rintro ⟨p, hp, -⟩
      by_contra hi
      rw [if_neg hi] at hp
      cases hp
    · rintro rfl
      exact ⟨⟨.shared, rowCells * 0⟩, if_pos rfl, rfl, rowAt_row⟩
  have hbase : m.loadPointer ⟨.vmapTable, 0⟩ = some ⟨.shared, 0⟩ := by
    simp [Attached.loadPointer, Attached.load]
  cases f with
  | memMapInit => simpa using hvariable (.inl rfl) rfl
  | gvirtPageOut =>
    simp only [ne_eq, not_true_eq_false, false_and, iff_false]
    rintro ⟨p, hp, haddress, -⟩
    rw [TableFunction.table, hbase, Option.bind_some] at hp
    rw [rowAddress_gmtTable] at haddress
    cases haddress
    exact element_shared hp rfl
  | _ => simpa using hvariable (.inr rfl) rfl

/-! ## `start_pager` -/

/-- `mem_map_init` on the rows that its `table[i]` leads to. -/
def Attached.memMapInit (m : Attached) (table : Pointer) (size pid : Nat) : Option (List MemMap) :=
  (List.range size).foldlM (fun rows i =>
    (m.element table i).bind fun p =>
      (m.rowAt p).map fun _ => rows.set (p.offset / rowCells) (initRow pid i)) m.rows

/-- It is the initialisation of so many rows where there is one at most. -/
theorem memMapInit_eq_iff {size pid : Nat} (hsize : size ≤ maxMemory) :
    m.memMapInit ⟨.gmtTable, 0⟩ size pid = VirtMem.memMapInit m.rows size pid ↔ size ≤ 1 := by
  have hpos : 0 < m.rows.length := m.length_rows ▸ Nat.succ_pos _
  have hspec : VirtMem.memMapInit m.rows size pid =
      some ((List.range size).map (initRow pid) ++ m.rows.drop size) :=
    if_pos (m.length_rows ▸ hsize)
  have hfirst : m.element ⟨.gmtTable, 0⟩ 0 = some ⟨.shared, 0⟩ :=
    (element_variable (.inl rfl)).trans (if_pos rfl)
  have hsecond : m.element ⟨.gmtTable, 0⟩ 1 = none :=
    (element_variable (.inl rfl)).trans (if_neg Nat.one_ne_zero)
  have hrow : m.rowAt ⟨.shared, rowCells * 0⟩ = some m.rows[0] :=
    rowAt_row.trans (List.getElem?_eq_getElem hpos)
  rw [Nat.mul_zero] at hrow
  rw [hspec]
  rcases size with _ | _ | size
  · simp [Attached.memMapInit]
  · obtain ⟨row, rows, hrows⟩ := List.exists_cons_of_length_pos hpos
    simp [Attached.memMapInit, List.range_succ, hfirst, hrow, hrows]
  · -- the loop does not get past the second row
    rw [Attached.memMapInit, List.range_eq_range', List.range'_succ, List.range'_succ,
      List.foldlM_cons, hfirst]
    simp [hsecond, hrow]

end

/-- The two processes have attached the array, and the pager has not touched it. -/
def attachedFresh : Attached where
  rows := List.replicate maxMemory (initRow 0 0)
  length_rows := List.length_replicate

/-- `mem_map_init` does not find the second row, since there is one variable and not an array of
them. -/
theorem second_row_not_found : ¬ ∀ (m : Attached) (f : TableFunction) (i : Nat),
    i < maxMemory → RowIsRow m f i := by
  intro hclaim
  obtain ⟨p, hp, -⟩ := hclaim attachedFresh .memMapInit 1 (by decide)
  cases hp

end GpuVirtmem.Backend
