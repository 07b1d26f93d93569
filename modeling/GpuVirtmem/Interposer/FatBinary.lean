import GpuVirtmem.Interposer.PackStr

/-!
# CUDA 3.2 fat binaries in a packet (`interposer/libciutils.c`)

`getFatRecPktSize` counts the entries of the tables, `packFatBinary` writes them and
`unpackFatBinary` reads them back. A table is either an array up to an entry of NULLs, given as the
entries that can be read from its pointer on, or a chain of entries, given as the entries reached
from its pointer. The chain of `dependends` is the list of the records it goes through.

Sizes and offsets are natural numbers: the packets are below `2 ^ 31` bytes.

What the model leaves undefined is what the source does: an array without an entry of NULLs is read
behind its end (`CFail`), and so is an elf that is shorter than its size. The assertions of the
source are failures of another kind. A packing that succeeds has therefore checked that everything
it reads is there.
-/

namespace GpuVirtmem.Interposer

open Lib Lib.Reader

/-! ## The structures -/

/-- `__cudaFatPtxEntry` and `__cudaFatCubinEntry`, with their `ptx` or `cubin` as `code`. -/
structure FatEntry where
  gpuProfileName : Option CString
  code : Option CString

/-- `__cudaFatDebugEntry`, without its `next`. -/
structure FatDebugEntry where
  gpuProfileName : Option CString
  debug : Option CString
  size : UInt32

/-- `__cudaFatElfEntry`, without its `next`. `elf` is what can be read at its pointer. -/
structure FatElfEntry where
  gpuProfileName : Option CString
  elf : Option Bytes
  size : UInt32

/-- `__cudaFatSymbol`. -/
structure FatSymbol where
  name : Option CString

/-- `__cudaFatCudaBinary`, without its `dependends`. -/
structure FatRecord where
  magic : UInt64
  version : UInt64
  gpuInfoVersion : UInt64
  key : Option CString
  ident : Option CString
  usageMode : Option CString
  ptx : Option (List FatEntry)
  cubin : Option (List FatEntry)
  debug : List FatDebugEntry
  debugInfo : UInt64
  flags : UInt32
  exported : Option (List FatSymbol)
  imported : Option (List FatSymbol)
  characteristic : UInt32
  elf : List FatElfEntry

/-- `__cudaFatCudaBinary`. -/
structure FatCudaBinary extends FatRecord where
  dependends : List FatRecord

/-- `cache_num_entries_t`. -/
structure CacheNumEntries where
  nptxs : Nat
  ncubs : Nat
  ndebs : Nat
  ndeps : Nat
  nelves : Nat
  nexps : Nat
  nimps : Nat

/-- The entry that ends a table of each kind. -/
def FatEntry.null : FatEntry := ⟨none, none⟩

@[inherit_doc FatEntry.null]
def FatDebugEntry.null : FatDebugEntry := ⟨none, none, 0⟩

@[inherit_doc FatEntry.null]
def FatElfEntry.null : FatElfEntry := ⟨none, none, 0⟩

@[inherit_doc FatEntry.null]
def FatSymbol.null : FatSymbol := ⟨none⟩

/-! ## Counting -/

/-- The size of an array of entries, and their number: it goes on while `more`. -/
def getSizeArray {α : Type} (more : α → Bool) (size : α → Nat) :
    Option (List α) → Except CFail (Nat × Nat)
  | none => .ok (4, 0)
  | some table => do
    let entries ← scanTable more table
    return (4 + (entries.map size).sum, entries.length)

/-- The size of a chain of entries, and their number: it goes on while `more`. -/
def getSizeChain {α : Type} (more : α → Bool) (size : α → Nat) (p : List α) : Nat × Nat :=
  (4 + ((p.takeWhile more).map size).sum, (p.takeWhile more).length)

/-- The condition of the loops over ptx and cubin entries. -/
def FatEntry.more (e : FatEntry) : Bool := e.gpuProfileName.isSome && e.code.isSome

/-- `l_getSize__cudaFatPtxEntry`. -/
def lGetSizeCudaFatPtxEntry : Option (List FatEntry) → Except CFail (Nat × Nat) :=
  getSizeArray FatEntry.more fun e =>
    lGetStringPktSize e.gpuProfileName + lGetStringPktSize e.code

/-- `l_getSize__cudaFatCubinEntry`. -/
def lGetSizeCudaFatCubinEntry : Option (List FatEntry) → Except CFail (Nat × Nat) :=
  getSizeArray FatEntry.more fun e =>
    lGetStringPktSize e.gpuProfileName + lGetStringPktSize e.code

/-- The condition of the loops over debug entries. -/
def FatDebugEntry.more (e : FatDebugEntry) : Bool := e.gpuProfileName.isSome && e.debug.isSome

/-- `l_getSize__cudaFatDebugEntry`. -/
def lGetSizeCudaFatDebugEntry : List FatDebugEntry → Nat × Nat :=
  getSizeChain FatDebugEntry.more fun e =>
    lGetStringPktSize e.gpuProfileName + lGetStringPktSize e.debug + 4

/-- The condition of the loop that packs elf entries. -/
def FatElfEntry.more (e : FatElfEntry) : Bool := e.gpuProfileName.isSome && e.elf.isSome

/-- `l_getSize__cudaFatElfEntry`. Its loop also ends at an entry of size 0. -/
def lGetSizeCudaFatElfEntry : List FatElfEntry → Nat × Nat :=
  getSizeChain (fun e => e.more && e.size != 0) fun e =>
    lGetStringPktSize e.gpuProfileName + e.size.toNat + 4

/-- The condition of the loop over symbols. -/
def FatSymbol.more (e : FatSymbol) : Bool := e.name.isSome

/-- `l_getSize__cudaFatSymbolEntry`. Without symbols it counts one string that is never packed. -/
def lGetSizeCudaFatSymbolEntry (pEntry : Option (List FatSymbol)) : Except CFail (Nat × Nat) := do
  let (size, n) ← getSizeArray FatSymbol.more (fun e => lGetStringPktSize e.name) pEntry
  return if n = 0 then (4 + lGetStringPktSize none, 0) else (size, n)

/-- `l_getFatRecPktSize`. `ndeps` is left to its caller. -/
def lGetFatRecPktSize (b : FatRecord) : Except CFail (Nat × CacheNumEntries) := do
  let (ptx, nptxs) ← lGetSizeCudaFatPtxEntry b.ptx
  let (cubin, ncubs) ← lGetSizeCudaFatCubinEntry b.cubin
  let (debug, ndebs) := lGetSizeCudaFatDebugEntry b.debug
  let (elf, nelves) := lGetSizeCudaFatElfEntry b.elf
  let (exported, nexps) ← lGetSizeCudaFatSymbolEntry b.exported
  let (imported, nimps) ← lGetSizeCudaFatSymbolEntry b.imported
  return (8 + 8 + 8 + 4 + 4 + lGetStringPktSize b.key + lGetStringPktSize b.ident +
      lGetStringPktSize b.usageMode + 8 + ptx + cubin + debug + elf + exported + imported,
    { nptxs := nptxs, ncubs := ncubs, ndebs := ndebs, ndeps := 0, nelves := nelves,
      nexps := nexps, nimps := nimps })

/-- `l_getSize__cudaFatBinaryEntry`: the size of a chain of binaries, and their number. -/
def lGetSizeCudaFatBinaryEntry (p : List FatRecord) : Except CFail (Nat × Nat) := do
  let sizes ← p.mapM fun b => return (← lGetFatRecPktSize b).1
  return (4 + sizes.sum, sizes.length)

/-- `getFatRecPktSize`. -/
def getFatRecPktSize (b : FatCudaBinary) : Except CFail (Nat × CacheNumEntries) := do
  let (size, cache) ← lGetFatRecPktSize b.toFatRecord
  let (deps, ndeps) ← lGetSizeCudaFatBinaryEntry b.dependends
  return (size + deps, { cache with ndeps := ndeps })

/-! ## Packing -/

/-- The first `n` entries of an array, after their number. -/
def packArray {α : Type} (encode : α → Bytes) (pEntry : Option (List α)) (n : Nat) :
    Except CFail Bytes :=
  match pEntry with
  | none => .ok (encodeLE 4 n)
  | some table =>
    if n ≤ table.length then .ok (encodeLE 4 n ++ (table.take n).flatMap encode)
    else .error .badAccess

/-- The entries of a chain, after their number, which is asserted to be `n`. -/
def packChain {α : Type} (more : α → Bool) (encode : α → Except CFail Bytes) (p : List α)
    (n : Nat) : Except CFail Bytes :=
  if n = 0 ∨ p.isEmpty then .ok (encodeLE 4 n)
  else do
    let entries ← (p.takeWhile more).mapM encode
    if entries.length = n then .ok (encodeLE 4 n ++ entries.flatten) else .error .assertFailed

/-- An entry of ptx or of cubin. -/
def packEntry (e : FatEntry) : Bytes := lPackStr e.gpuProfileName ++ lPackStr e.code

/-- `l_packPtx`. -/
def lPackPtx (pEntry : Option (List FatEntry)) (n : Nat) : Except CFail Bytes :=
  packArray packEntry pEntry n

/-- `l_packCubin`. -/
def lPackCubin (pEntry : Option (List FatEntry)) (n : Nat) : Except CFail Bytes :=
  packArray packEntry pEntry n

/-- A debug entry. -/
def packDebugEntry (e : FatDebugEntry) : Bytes :=
  lPackStr e.gpuProfileName ++ (lPackStr e.debug ++ encodeLE 4 e.size.toNat)

/-- `l_packDebug`. -/
def lPackDebug (pEntry : List FatDebugEntry) (n : Nat) : Except CFail Bytes :=
  packChain FatDebugEntry.more (fun e => .ok (packDebugEntry e)) pEntry n

/-- What is written for an elf entry. -/
def elfEntryBytes (e : FatElfEntry) : Bytes :=
  lPackStr e.gpuProfileName ++ (encodeLE 4 e.size.toNat ++ (e.elf.getD []).take e.size.toNat)

/-- An elf entry; its `size` bytes are read at its `elf`. -/
def packElfEntry (e : FatElfEntry) : Except CFail Bytes :=
  if e.size.toNat ≤ (e.elf.getD []).length then .ok (elfEntryBytes e) else .error .badAccess

/-- `l_packElf`. -/
def lPackElf (pEntry : List FatElfEntry) (n : Nat) : Except CFail Bytes :=
  packChain FatElfEntry.more packElfEntry pEntry n

/-- `l_packSymbol`. -/
def lPackSymbol (pEntry : Option (List FatSymbol)) (n : Nat) : Except CFail Bytes :=
  packArray (fun e => lPackStr e.name) pEntry n

/-- `l_packDep`: dependends are not implemented, and are complained about. -/
def lPackDep (pEntry : List FatRecord) (n : Nat) : Except CFail Bytes :=
  if n = 0 ∨ pEntry.isEmpty then .ok (encodeLE 4 n) else .error .assertFailed

/-- The five numbers at the head of a packet. -/
def packNumbers (b : FatRecord) : Bytes :=
  encodeLE 8 b.magic.toNat ++ (encodeLE 8 b.version.toNat ++ (encodeLE 8 b.gpuInfoVersion.toNat ++
    (encodeLE 4 b.flags.toNat ++ encodeLE 4 b.characteristic.toNat)))

/-- The three strings and the pointer that follow them. -/
def packStrings (b : FatRecord) : Bytes :=
  lPackStr b.key ++ (lPackStr b.ident ++ (lPackStr b.usageMode ++ encodeLE 8 b.debugInfo.toNat))

/-- `l_packFatBinary`. -/
def lPackFatBinary (b : FatRecord) (cache : CacheNumEntries) : Except CFail Bytes := do
  let ptx ← lPackPtx b.ptx cache.nptxs
  let cubin ← lPackCubin b.cubin cache.ncubs
  let debug ← lPackDebug b.debug cache.ndebs
  let elf ← lPackElf b.elf cache.nelves
  let exported ← lPackSymbol b.exported cache.nexps
  let imported ← lPackSymbol b.imported cache.nimps
  return packNumbers b ++ (packStrings b ++
    (ptx ++ (cubin ++ (debug ++ (elf ++ (exported ++ imported))))))

/-- `packFatBinary`. -/
def packFatBinary (b : FatCudaBinary) (cache : CacheNumEntries) : Except CFail Bytes := do
  let binary ← lPackFatBinary b.toFatRecord cache
  let dependends ← lPackDep b.dependends cache.ndeps
  return binary ++ dependends

/-! ## Unpacking -/

/-- An array of entries, with the terminator after them. -/
def unpackArray {α : Type} (entry : Reader α) (null : α) : Reader (List α) := do
  let n ← number 4
  let entries ← times n entry
  return entries ++ [null]

/-- An array of entries, each linked to the next one and the last to the terminator, or NULL. -/
def unpackChain {α : Type} (entry : Reader α) (null : α) : Reader (List α) := do
  let n ← number 4
  if n = 0 then
    return []
  else
    let entries ← times n entry
    return entries ++ [null]

/-- An entry of ptx or of cubin. -/
def unpackEntry : Reader FatEntry := do
  let gpuProfileName ← lUnpackStr
  let code ← lUnpackStr
  return { gpuProfileName := gpuProfileName, code := code }

/-- `l_unpackPtx`. -/
def lUnpackPtx : Reader (List FatEntry) := unpackArray unpackEntry .null

/-- `l_unpackCubin`. -/
def lUnpackCubin : Reader (List FatEntry) := unpackArray unpackEntry .null

/-- A debug entry. -/
def unpackDebugEntry : Reader FatDebugEntry := do
  let gpuProfileName ← lUnpackStr
  let debug ← lUnpackStr
  let size ← u32
  return { gpuProfileName := gpuProfileName, debug := debug, size := size }

/-- `l_unpackDebug`. -/
def lUnpackDebug : Reader (List FatDebugEntry) := unpackChain unpackDebugEntry .null

/-- `l_unpackChars`, where `malloc` succeeds. -/
def lUnpackChars (size : Nat) : Reader (Option Bytes) :=
  if size = 0 then return none
  else do
    let pDst ← take size
    return some pDst

/-- An elf entry. -/
def unpackElfEntry : Reader FatElfEntry := do
  let gpuProfileName ← lUnpackStr
  let size ← u32
  let elf ← lUnpackChars size.toNat
  return { gpuProfileName := gpuProfileName, elf := elf, size := size }

/-- `l_unpackElf`. -/
def lUnpackElf : Reader (List FatElfEntry) := unpackChain unpackElfEntry .null

/-- `l_unpackSymbol`. -/
def lUnpackSymbol : Reader (Option (List FatSymbol)) := do
  let n ← number 4
  if n = 0 then
    return none
  else
    let entries ← times n (do
      let name ← lUnpackStr
      return { name := name })
    return some (entries ++ [.null])

/-- `l_unpackDep`. Without dependends it does not write `*pOffset`, which keeps the `offset` of the
decoder before; with some, it unpacks into a pointer that was never set. -/
def lUnpackDep (offset : Nat) : Reader (List FatRecord) := fun src =>
  match number 4 src with
  | .ok (0, _) => .ok ([], offset)
  | .ok (_, _) => .error .badAccess
  | .error e => .error e

/-- `unpackFatBinary`. -/
def unpackFatBinary : Reader FatCudaBinary := do
  let magic ← u64
  let version ← u64
  let gpuInfoVersion ← u64
  let flags ← u32
  let characteristic ← u32
  let key ← lUnpackStr
  let ident ← lUnpackStr
  let usageMode ← lUnpackStr
  let debugInfo ← u64
  let ptx ← lUnpackPtx
  let cubin ← lUnpackCubin
  let debug ← lUnpackDebug
  let elf ← lUnpackElf
  let exported ← lUnpackSymbol
  let (imported, offset) ← lUnpackSymbol.withOffset
  let dependends ← lUnpackDep offset
  return {
    magic := magic, version := version, gpuInfoVersion := gpuInfoVersion
    flags := flags, characteristic := characteristic
    key := key, ident := ident, usageMode := usageMode, debugInfo := debugInfo
    ptx := some ptx, cubin := some cubin, debug := debug, elf := elf
    exported := exported, imported := imported, dependends := dependends }

end GpuVirtmem.Interposer
