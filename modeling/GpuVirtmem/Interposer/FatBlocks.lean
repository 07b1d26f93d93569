import GpuVirtmem.Interposer.FatBinary
import GpuVirtmem.Lib.Heap

/-!
# The blocks of a decoded fat binary (`interposer/libciutils.c`)

The decoders again, with their calls of `malloc`: a table is one block, allocated before those of
its entries, and a string is one, unless it is empty. Without the names of the blocks they are the
decoders of the contents, and the names are those of the binary they return, in their order.

What a later `free` does to a decoded binary is about its blocks and not about its contents, so the
decoders have to be modelled with their allocations once. So that the two models cannot differ, one
is the other with the names of the blocks erased (`Erases`); what is known of the contents is
thereby known here.
-/

namespace GpuVirtmem.Interposer

open Lib Lib.Reader

/-! ## The structures -/

/-- A decoded `__cudaFatPtxEntry` or `__cudaFatCubinEntry`. -/
structure EntryBlocks where
  gpuProfileName : Option (Block CString)
  code : Option (Block CString)

/-- A decoded `__cudaFatDebugEntry`. -/
structure DebugEntryBlocks where
  gpuProfileName : Option (Block CString)
  debug : Option (Block CString)
  size : UInt32

/-- A decoded `__cudaFatElfEntry`. -/
structure ElfEntryBlocks where
  gpuProfileName : Option (Block CString)
  elf : Option (Block Bytes)
  size : UInt32

/-- A decoded `__cudaFatSymbol`. -/
structure SymbolBlocks where
  name : Option (Block CString)

/-- A decoded `__cudaFatCudaBinary`. -/
structure FatBlocks where
  magic : UInt64
  version : UInt64
  gpuInfoVersion : UInt64
  flags : UInt32
  characteristic : UInt32
  key : Option (Block CString)
  ident : Option (Block CString)
  usageMode : Option (Block CString)
  debugInfo : UInt64
  ptx : Option (Block (List EntryBlocks))
  cubin : Option (Block (List EntryBlocks))
  debug : Option (Block (List DebugEntryBlocks))
  elf : Option (Block (List ElfEntryBlocks))
  exported : Option (Block (List SymbolBlocks))
  imported : Option (Block (List SymbolBlocks))
  dependends : List FatRecord

/-- The entry that ends a decoded table of each kind. -/
def EntryBlocks.null : EntryBlocks := ⟨none, none⟩

@[inherit_doc EntryBlocks.null]
def DebugEntryBlocks.null : DebugEntryBlocks := ⟨none, none, 0⟩

@[inherit_doc EntryBlocks.null]
def ElfEntryBlocks.null : ElfEntryBlocks := ⟨none, none, 0⟩

@[inherit_doc EntryBlocks.null]
def SymbolBlocks.null : SymbolBlocks := ⟨none⟩

/-! ## Unpacking -/

/-- `l_unpackStr`. -/
def lUnpackStrIn : Allocating (Option (Block CString)) := do
  let length ← Allocating.lift (number 4)
  if length = 0 then
    return none
  else
    let pDst ← Allocating.malloc
    let chars ← Allocating.lift (take length)
    return (CString.read (chars ++ [0])).map (Block.mk pDst)

/-- An array of entries, with the terminator after them. -/
def unpackArrayIn {α : Type} (entry : Allocating α) (null : α) : Allocating (Block (List α)) := do
  let n ← Allocating.lift (number 4)
  let pEntry ← Allocating.malloc
  let entries ← Allocating.times n entry
  return { name := pEntry, value := entries ++ [null] }

/-- An array of entries, each linked to the next one and the last to the terminator, or NULL. -/
def unpackChainIn {α : Type} (entry : Allocating α) (null : α) :
    Allocating (Option (Block (List α))) := do
  let n ← Allocating.lift (number 4)
  if n = 0 then
    return none
  else
    let pEntry ← Allocating.malloc
    let entries ← Allocating.times n entry
    return some { name := pEntry, value := entries ++ [null] }

/-- An entry of ptx or of cubin. -/
def unpackEntryIn : Allocating EntryBlocks := do
  let gpuProfileName ← lUnpackStrIn
  let code ← lUnpackStrIn
  return { gpuProfileName := gpuProfileName, code := code }

/-- `l_unpackPtx`. -/
def lUnpackPtxIn : Allocating (Block (List EntryBlocks)) := unpackArrayIn unpackEntryIn .null

/-- `l_unpackCubin`. -/
def lUnpackCubinIn : Allocating (Block (List EntryBlocks)) := unpackArrayIn unpackEntryIn .null

/-- A debug entry. -/
def unpackDebugEntryIn : Allocating DebugEntryBlocks := do
  let gpuProfileName ← lUnpackStrIn
  let debug ← lUnpackStrIn
  let size ← Allocating.lift u32
  return { gpuProfileName := gpuProfileName, debug := debug, size := size }

/-- `l_unpackDebug`. -/
def lUnpackDebugIn : Allocating (Option (Block (List DebugEntryBlocks))) :=
  unpackChainIn unpackDebugEntryIn .null

/-- `l_unpackChars`, where `malloc` succeeds. -/
def lUnpackCharsIn (size : Nat) : Allocating (Option (Block Bytes)) :=
  if size = 0 then return none
  else do
    let pDst ← Allocating.malloc
    let chars ← Allocating.lift (take size)
    return some { name := pDst, value := chars }

/-- An elf entry. -/
def unpackElfEntryIn : Allocating ElfEntryBlocks := do
  let gpuProfileName ← lUnpackStrIn
  let size ← Allocating.lift u32
  let elf ← lUnpackCharsIn size.toNat
  return { gpuProfileName := gpuProfileName, elf := elf, size := size }

/-- `l_unpackElf`. -/
def lUnpackElfIn : Allocating (Option (Block (List ElfEntryBlocks))) :=
  unpackChainIn unpackElfEntryIn .null

/-- `l_unpackSymbol`. -/
def lUnpackSymbolIn : Allocating (Option (Block (List SymbolBlocks))) :=
  unpackChainIn (do
    let name ← lUnpackStrIn
    return { name := name }) .null

/-- `unpackFatBinary`. -/
def unpackFatBinaryIn : Allocating FatBlocks := do
  let magic ← Allocating.lift u64
  let version ← Allocating.lift u64
  let gpuInfoVersion ← Allocating.lift u64
  let flags ← Allocating.lift u32
  let characteristic ← Allocating.lift u32
  let key ← lUnpackStrIn
  let ident ← lUnpackStrIn
  let usageMode ← lUnpackStrIn
  let debugInfo ← Allocating.lift u64
  let ptx ← lUnpackPtxIn
  let cubin ← lUnpackCubinIn
  let debug ← lUnpackDebugIn
  let elf ← lUnpackElfIn
  let exported ← lUnpackSymbolIn
  let (imported, offset) ← lUnpackSymbolIn.withOffset
  let dependends ← Allocating.lift (lUnpackDep offset)
  return {
    magic := magic, version := version, gpuInfoVersion := gpuInfoVersion
    flags := flags, characteristic := characteristic
    key := key, ident := ident, usageMode := usageMode, debugInfo := debugInfo
    ptx := some ptx, cubin := some cubin, debug := debug, elf := elf
    exported := exported, imported := imported, dependends := dependends }

/-! ## The contents -/

/-- What the entry holds. -/
def EntryBlocks.erase (e : EntryBlocks) : FatEntry :=
  { gpuProfileName := e.gpuProfileName.map Block.value, code := e.code.map Block.value }

@[inherit_doc EntryBlocks.erase]
def DebugEntryBlocks.erase (e : DebugEntryBlocks) : FatDebugEntry :=
  { gpuProfileName := e.gpuProfileName.map Block.value, debug := e.debug.map Block.value
    size := e.size }

@[inherit_doc EntryBlocks.erase]
def ElfEntryBlocks.erase (e : ElfEntryBlocks) : FatElfEntry :=
  { gpuProfileName := e.gpuProfileName.map Block.value, elf := e.elf.map Block.value
    size := e.size }

/-- What the symbol holds. -/
def SymbolBlocks.erase (e : SymbolBlocks) : FatSymbol := { name := e.name.map Block.value }

/-- The entries of a table. -/
def eraseArray {α β : Type} (erase : α → β) (p : Option (Block (List α))) : Option (List β) :=
  p.map fun table => table.value.map erase

/-- The entries of a chain. -/
def eraseChain {α β : Type} (erase : α → β) (p : Option (Block (List α))) : List β :=
  (eraseArray erase p).getD []

/-- What the binary holds. -/
def FatBlocks.erase (u : FatBlocks) : FatCudaBinary :=
  { magic := u.magic, version := u.version, gpuInfoVersion := u.gpuInfoVersion
    flags := u.flags, characteristic := u.characteristic
    key := u.key.map Block.value, ident := u.ident.map Block.value
    usageMode := u.usageMode.map Block.value, debugInfo := u.debugInfo
    ptx := eraseArray EntryBlocks.erase u.ptx, cubin := eraseArray EntryBlocks.erase u.cubin
    debug := eraseChain DebugEntryBlocks.erase u.debug
    elf := eraseChain ElfEntryBlocks.erase u.elf
    exported := eraseArray SymbolBlocks.erase u.exported
    imported := eraseArray SymbolBlocks.erase u.imported
    dependends := u.dependends }

section

open Allocating

variable {α β : Type} {entry : Allocating α} {reader : Reader β} {erase : α → β}

/-- A string. -/
theorem erases_lUnpackStr : Erases lUnpackStrIn lUnpackStr (Option.map Block.value) := by
  refine Erases.lift_bind fun length => ?_
  split
  · exact erases_pure rfl
  · refine Erases.malloc_bind fun pDst => Erases.lift_bind fun chars => erases_pure ?_
    rw [Option.map_map]
    exact Option.map_id'

/-- An array whose entries are decoded so. -/
theorem erases_unpackArray (h : Erases entry reader erase) (null : α) :
    Erases (unpackArrayIn entry null) (unpackArray reader (erase null))
      fun table => table.value.map erase := by
  refine Erases.lift_bind fun n => Erases.malloc_bind fun pEntry => ?_
  exact (h.times n).bind fun entries => erases_pure List.map_append

/-- A chain. -/
theorem erases_unpackChain (h : Erases entry reader erase) (null : α) :
    Erases (unpackChainIn entry null) (unpackChain reader (erase null)) (eraseChain erase) := by
  refine Erases.lift_bind fun n => ?_
  split
  · exact erases_pure rfl
  · refine Erases.malloc_bind fun pEntry => ?_
    exact (h.times n).bind fun entries => erases_pure List.map_append

/-- An entry of the tables of ptx and cubin. -/
theorem erases_unpackEntry : Erases unpackEntryIn unpackEntry EntryBlocks.erase :=
  erases_lUnpackStr.bind fun _ => erases_lUnpackStr.bind fun _ => erases_pure rfl

theorem erases_unpackDebugEntry :
    Erases unpackDebugEntryIn unpackDebugEntry DebugEntryBlocks.erase :=
  erases_lUnpackStr.bind fun _ => erases_lUnpackStr.bind fun _ =>
    Erases.lift_bind fun _ => erases_pure rfl

theorem erases_lUnpackChars (size : Nat) :
    Erases (lUnpackCharsIn size) (lUnpackChars size) (Option.map Block.value) := by
  unfold lUnpackCharsIn lUnpackChars
  split
  · exact erases_pure rfl
  · exact Erases.malloc_bind fun pDst => Erases.lift_bind fun chars => erases_pure rfl

theorem erases_unpackElfEntry : Erases unpackElfEntryIn unpackElfEntry ElfEntryBlocks.erase :=
  erases_lUnpackStr.bind fun _ => Erases.lift_bind fun size =>
    (erases_lUnpackChars size.toNat).bind fun _ => erases_pure rfl

theorem erases_lUnpackSymbol :
    Erases lUnpackSymbolIn lUnpackSymbol (eraseArray SymbolBlocks.erase) := by
  have hsymbol : Erases (do let name ← lUnpackStrIn; return SymbolBlocks.mk name)
      (do let name ← lUnpackStr; return FatSymbol.mk name) SymbolBlocks.erase :=
    erases_lUnpackStr.bind fun _ => erases_pure rfl
  refine Erases.lift_bind fun n => ?_
  split
  · exact erases_pure rfl
  · refine Erases.malloc_bind fun pEntry => ?_
    exact (hsymbol.times n).bind fun entries => erases_pure (congrArg some List.map_append)

/-- Without the blocks, the binary is decoded as before. It is put together from the decoders of the
entries, and from two lemmas for the two kinds of table. -/
theorem erases_unpackFatBinary : Erases unpackFatBinaryIn unpackFatBinary FatBlocks.erase := by
  refine Erases.lift_bind fun magic => Erases.lift_bind fun version => ?_
  refine Erases.lift_bind fun gpuInfoVersion => Erases.lift_bind fun flags => ?_
  refine Erases.lift_bind fun characteristic => erases_lUnpackStr.bind fun key => ?_
  refine erases_lUnpackStr.bind fun ident => erases_lUnpackStr.bind fun usageMode => ?_
  refine Erases.lift_bind fun debugInfo => ?_
  refine (erases_unpackArray erases_unpackEntry _).bind fun ptx => ?_
  refine (erases_unpackArray erases_unpackEntry _).bind fun cubin => ?_
  refine (erases_unpackChain erases_unpackDebugEntry _).bind fun debug => ?_
  refine (erases_unpackChain erases_unpackElfEntry _).bind fun elf => ?_
  refine erases_lUnpackSymbol.bind fun exported => ?_
  refine erases_lUnpackSymbol.withOffset.bind fun imported => ?_
  exact Erases.lift_bind fun dependends => erases_pure rfl

end

/-! ## The names -/

/-- The two pointers of the entry. -/
def EntryBlocks.pointers (e : EntryBlocks) : Option Nat × Option Nat :=
  (e.gpuProfileName.map Block.name, e.code.map Block.name)

@[inherit_doc EntryBlocks.pointers]
def DebugEntryBlocks.pointers (e : DebugEntryBlocks) : Option Nat × Option Nat :=
  (e.gpuProfileName.map Block.name, e.debug.map Block.name)

@[inherit_doc EntryBlocks.pointers]
def ElfEntryBlocks.pointers (e : ElfEntryBlocks) : Option Nat × Option Nat :=
  (e.gpuProfileName.map Block.name, e.elf.map Block.name)

/-- The blocks an entry with two pointers points to. -/
def pairNames (pointers : Option Nat × Option Nat) : List Nat :=
  pointers.1.toList ++ pointers.2.toList

/-- The blocks of a binary, in the order of their allocation. -/
def FatBlocks.names (u : FatBlocks) : List Nat :=
  Block.names u.key ++ (Block.names u.ident ++ (Block.names u.usageMode ++
    (Block.tableNames (fun e => pairNames e.pointers) u.ptx ++
      (Block.tableNames (fun e => pairNames e.pointers) u.cubin ++
        (Block.tableNames (fun e => pairNames e.pointers) u.debug ++
          (Block.tableNames (fun e => pairNames e.pointers) u.elf ++
            (Block.tableNames (fun e => Block.names e.name) u.exported ++
              Block.tableNames (fun e => Block.names e.name) u.imported)))))))

/-- The blocks of the table are `ps`, and it goes up to a terminator. -/
structure TableOf {α : Type} (names : α → List Nat) (null : α) (p : Option (Block (List α)))
    (ps : List Nat) : Prop where
  names : Block.tableNames names p = ps
  terminated : ∀ table, p = some table → null ∈ table.value

/-- The blocks of the binary are `ps`, and the tables that it is freed by go up to a terminator. -/
structure BlocksOf (u : FatBlocks) (ps : List Nat) : Prop where
  names : u.names = ps
  ptx : ∀ table, u.ptx = some table → .null ∈ table.value
  cubin : ∀ table, u.cubin = some table → .null ∈ table.value
  debug : ∀ table, u.debug = some table → .null ∈ table.value
  elf : ∀ table, u.elf = some table → .null ∈ table.value

section

open Allocating

variable {α : Type} {entry : Allocating α} {names : α → List Nat} {null : α}

/-- A string is one block, or none where it is empty. -/
theorem allocates_lUnpackStr : Allocates lUnpackStrIn fun s ps => Block.names s = ps := by
  refine Allocates.lift_bind fun length => ?_
  split
  · exact allocates_pure rfl
  · refine Allocates.malloc_bind fun pDst => Allocates.lift_bind fun chars => allocates_pure ?_
    obtain ⟨s, hs⟩ := Option.isSome_iff_exists.mp (CString.read_isSome chars)
    rw [hs]
    rfl

/-- The table of the entries and a terminator. -/
theorem tableOf_some {entries : List α} {ps : List Nat} (hps : entries.flatMap names = ps)
    (hnull : names null = []) (pEntry : Nat) :
    TableOf names null (some ⟨pEntry, entries ++ [null]⟩) (pEntry :: (ps ++ [])) where
  names := by simp [Block.tableNames, hps, hnull]
  terminated table htable := by
    cases htable
    exact List.mem_append_right _ List.mem_cons_self

/-- An array is a block for itself, and those of its entries behind it. -/
theorem allocates_unpackArray (h : Allocates entry fun e ps => names e = ps)
    (hnull : names null = []) :
    Allocates (unpackArrayIn entry null) fun table ps => TableOf names null (some table) ps := by
  refine Allocates.lift_bind fun n => Allocates.malloc_bind fun pEntry => ?_
  exact (h.times n).bind fun entries ps hps => allocates_pure (tableOf_some hps hnull pEntry)

/-- A chain is the same, or nothing where it has no entries. -/
theorem allocates_unpackChain (h : Allocates entry fun e ps => names e = ps)
    (hnull : names null = []) :
    Allocates (unpackChainIn entry null) (TableOf names null) := by
  refine Allocates.lift_bind fun n => ?_
  split
  · refine allocates_pure ⟨rfl, fun table htable => ?_⟩
    cases htable
  · refine Allocates.malloc_bind fun pEntry => ?_
    exact (h.times n).bind fun entries ps hps => allocates_pure (tableOf_some hps hnull pEntry)

/-- An entry has the blocks of its strings. -/
theorem allocates_unpackEntry :
    Allocates unpackEntryIn fun e ps => pairNames e.pointers = ps := by
  refine allocates_lUnpackStr.bind fun name ps hps => ?_
  refine allocates_lUnpackStr.bind fun code qs hqs => allocates_pure ?_
  rw [← hps, ← hqs, List.append_nil]
  rfl

theorem allocates_unpackDebugEntry :
    Allocates unpackDebugEntryIn fun e ps => pairNames e.pointers = ps := by
  refine allocates_lUnpackStr.bind fun name ps hps => ?_
  refine allocates_lUnpackStr.bind fun debug qs hqs => ?_
  refine Allocates.lift_bind fun size => allocates_pure ?_
  rw [← hps, ← hqs, List.append_nil]
  rfl

theorem allocates_lUnpackChars (size : Nat) :
    Allocates (lUnpackCharsIn size) fun s ps => Block.names s = ps := by
  unfold lUnpackCharsIn
  split
  · exact allocates_pure rfl
  · exact Allocates.malloc_bind fun pDst => Allocates.lift_bind fun chars => allocates_pure rfl

theorem allocates_unpackElfEntry :
    Allocates unpackElfEntryIn fun e ps => pairNames e.pointers = ps := by
  refine allocates_lUnpackStr.bind fun name ps hps => Allocates.lift_bind fun size => ?_
  refine (allocates_lUnpackChars size.toNat).bind fun elf qs hqs => allocates_pure ?_
  rw [← hps, ← hqs, List.append_nil]
  rfl

theorem allocates_lUnpackSymbol :
    Allocates lUnpackSymbolIn (TableOf (fun e => Block.names e.name) .null) := by
  refine allocates_unpackChain ?_ rfl
  refine allocates_lUnpackStr.bind fun name ps hps => allocates_pure ?_
  rw [← hps, List.append_nil]

/-- The blocks that are allocated are the blocks of the binary, in the order in which they are
allocated. -/
theorem allocates_unpackFatBinary : Allocates unpackFatBinaryIn BlocksOf := by
  refine Allocates.lift_bind fun magic => Allocates.lift_bind fun version => ?_
  refine Allocates.lift_bind fun gpuInfoVersion => Allocates.lift_bind fun flags => ?_
  refine Allocates.lift_bind fun characteristic => ?_
  refine allocates_lUnpackStr.bind fun key _ hkey => ?_
  refine allocates_lUnpackStr.bind fun ident _ hident => ?_
  refine allocates_lUnpackStr.bind fun usageMode _ husageMode => ?_
  refine Allocates.lift_bind fun debugInfo => ?_
  refine (allocates_unpackArray allocates_unpackEntry rfl).bind fun ptx _ hptx => ?_
  refine (allocates_unpackArray allocates_unpackEntry rfl).bind fun cubin _ hcubin => ?_
  refine (allocates_unpackChain allocates_unpackDebugEntry rfl).bind fun debug _ hdebug => ?_
  refine (allocates_unpackChain allocates_unpackElfEntry rfl).bind fun elf _ helf => ?_
  refine allocates_lUnpackSymbol.bind fun exported _ hexported => ?_
  refine allocates_lUnpackSymbol.withOffset.bind fun imported _ himported => ?_
  refine Allocates.lift_bind fun dependends => allocates_pure ?_
  exact {
    names := by
      simp only [FatBlocks.names, hkey, hident, husageMode, hptx.names, hcubin.names,
        hdebug.names, helf.names, hexported.names, himported.names, List.append_nil]
    ptx := hptx.terminated
    cubin := hcubin.terminated
    debug := hdebug.terminated
    elf := helf.terminated }

end

end GpuVirtmem.Interposer
