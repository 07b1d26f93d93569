import GpuVirtmem.Interposer.FatRoundTrip

/-!
# The length of a decoded table (`interposer/libciutils.c`)

A packet has the number of entries of a table, but the decoded table is read up to a NULL. An empty
string is decoded to NULL, so the decoded table ends at the first entry with one.

The five tables differ in what ends them, a pair of NULLs, one of two pointers being NULL, or a
name; for each the condition is that no decoded entry looks like an end, and in terms of what was
packed that is a condition on strings.
-/

namespace GpuVirtmem.Interposer

open Lib Lib.Reader

/-- A table of a fat binary. -/
inductive FatTable
  | ptx (pEntry : Option (List FatEntry))
  | cubin (pEntry : Option (List FatEntry))
  | debug (pEntry : List FatDebugEntry)
  | elf (pEntry : List FatElfEntry)
  | symbol (pEntry : Option (List FatSymbol))

namespace FatTable

/-- The size of a table, and the number of its entries. -/
def getSize : FatTable → Except CFail (Nat × Nat)
  | .ptx pEntry => lGetSizeCudaFatPtxEntry pEntry
  | .cubin pEntry => lGetSizeCudaFatCubinEntry pEntry
  | .debug pEntry => .ok (lGetSizeCudaFatDebugEntry pEntry)
  | .elf pEntry => .ok (lGetSizeCudaFatElfEntry pEntry)
  | .symbol pEntry => lGetSizeCudaFatSymbolEntry pEntry

/-- The encoder of the table. -/
def pack (t : FatTable) (n : Nat) : Except CFail Bytes :=
  match t with
  | .ptx pEntry => lPackPtx pEntry n
  | .cubin pEntry => lPackCubin pEntry n
  | .debug pEntry => lPackDebug pEntry n
  | .elf pEntry => lPackElf pEntry n
  | .symbol pEntry => lPackSymbol pEntry n

/-- The decoder for tables of the same kind. -/
def unpack : FatTable → Reader FatTable
  | .ptx _ => do
    let pEntry ← lUnpackPtx
    return .ptx (some pEntry)
  | .cubin _ => do
    let pEntry ← lUnpackCubin
    return .cubin (some pEntry)
  | .debug _ => do
    let pEntry ← lUnpackDebug
    return .debug pEntry
  | .elf _ => do
    let pEntry ← lUnpackElf
    return .elf pEntry
  | .symbol _ => do
    let pEntry ← lUnpackSymbol
    return .symbol pEntry

/-- The packed table is decoded to one with `n` entries. -/
def KeepsLength (t : FatTable) (pkt : Bytes) (n : Nat) : Prop :=
  ∀ rest, ∃ u k size, t.unpack (pkt ++ rest) = .ok (u, k) ∧ u.getSize = .ok (size, n)

/-- No entry up to the end of the table has an empty string. The `elf` is not a string. -/
def NoEmptyString : FatTable → Prop
  | .ptx pEntry | .cubin pEntry => ∀ e ∈ (pEntry.getD []).takeWhile FatEntry.more,
    text e.gpuProfileName ≠ .empty ∧ text e.code ≠ .empty
  | .debug pEntry => ∀ e ∈ pEntry.takeWhile FatDebugEntry.more,
    text e.gpuProfileName ≠ .empty ∧ text e.debug ≠ .empty
  | .elf pEntry => ∀ e ∈ pEntry.takeWhile fun e => e.more && e.size != 0,
    text e.gpuProfileName ≠ .empty
  | .symbol pEntry => ∀ e ∈ (pEntry.getD []).takeWhile FatSymbol.more, text e.name ≠ .empty

end FatTable

/-! ## Decoded entries -/

/-- A decoded entry is not the end of its table if both of its strings are not empty. -/
theorem FatEntry.decoded_more (e : FatEntry) :
    e.decoded.more = true ↔ text e.gpuProfileName ≠ .empty ∧ text e.code ≠ .empty := by
  rw [FatEntry.more, Bool.and_eq_true_iff]
  exact and_congr (unpacked_isSome _) (unpacked_isSome _)

theorem FatDebugEntry.decoded_more (e : FatDebugEntry) :
    e.decoded.more = true ↔ text e.gpuProfileName ≠ .empty ∧ text e.debug ≠ .empty := by
  rw [FatDebugEntry.more, Bool.and_eq_true_iff]
  exact and_congr (unpacked_isSome _) (unpacked_isSome _)

theorem FatElfEntry.decoded_more {e : FatElfEntry} (hsize : e.size ≠ 0) :
    (e.decoded.more && e.decoded.size != 0) = true ↔ text e.gpuProfileName ≠ .empty := by
  have hnat : e.size.toNat ≠ 0 := fun h => hsize (UInt32.toNat_inj.mp h)
  have hbytes : e.decoded.elf = some ((e.elf.getD []).take e.size.toNat) := if_neg hnat
  have hname := unpacked_isSome e.gpuProfileName
  rw [← hname, FatElfEntry.more, hbytes]
  simp [FatElfEntry.decoded, hsize]

/-! ## The decoded table counted -/

section

variable {α : Type} {more : α → Bool} {size : α → Nat} {null : α} {n m : Nat}

/-- A table that was decoded is counted up to the first entry that ends it, or to its terminator. -/
theorem getSizeArray_terminated (hnull : more null = false) (l : List α) :
    getSizeArray more size (some (l ++ [null])) =
      .ok (4 + (((l ++ [null]).takeWhile more).map size).sum,
        ((l ++ [null]).takeWhile more).length) := by
  rw [getSizeArray, scanTable_terminated hnull]
  rfl

/-- Symbols are counted like any array. -/
theorem symbol_count_iff {p : Option (List FatSymbol)} :
    (∃ m, lGetSizeCudaFatSymbolEntry p = .ok (m, n)) ↔
      ∃ m, getSizeArray FatSymbol.more (fun e => lGetStringPktSize e.name) p = .ok (m, n) := by
  constructor
  · rintro ⟨m, h⟩
    exact getSizeArray_of_symbols h
  · rintro ⟨m, h⟩
    by_cases hzero : n = 0
    · exact ⟨_, except_bind_eq_ok.mpr ⟨_, h, by rw [hzero]; rfl⟩⟩
    · exact ⟨_, except_bind_eq_ok.mpr ⟨_, h, congrArg Except.ok (if_neg hzero)⟩⟩

variable {t u : FatTable} {pkt : Bytes} {encode : α → Bytes} {decode : α → α} {l : List α}

/-- The table keeps its length if what is decoded is counted as before. -/
theorem keepsLength_iff (h : Reads t.unpack pkt u) :
    t.KeepsLength pkt n ↔ ∃ m, u.getSize = .ok (m, n) := by
  constructor
  · intro hkeeps
    obtain ⟨u', k, m, hunpack, hsize⟩ := hkeeps []
    rw [h []] at hunpack
    cases hunpack
    exact ⟨m, hsize⟩
  · rintro ⟨m, hsize⟩ rest
    exact ⟨u, pkt.length, m, h rest, hsize⟩

/-- An array is decoded to `n` entries if none of the decoded ones ends it. -/
theorem array_kept_iff (size : α → Nat) (hnull : more null = false) (hn : l.length = n) :
    (∃ m, getSizeArray more size (some (l.map decode ++ [null])) = .ok (m, n)) ↔
      ∀ a ∈ l, more (decode a) = true := by
  rw [getSizeArray_terminated hnull, ← List.forall_mem_map (P := fun a => more a = true),
    ← length_takeWhile_terminated hnull, List.length_map, hn]
  simp

/-- A chain is decoded to `n` entries if none of the decoded ones ends it. -/
theorem chain_kept_iff (size : α → Nat) (hnull : more null = false) (hn : l.length = n) :
    (∃ m, (.ok (getSizeChain more size (chainOf (l.map decode) null)) : Except CFail _) =
      .ok (m, n)) ↔ ∀ a ∈ l, more (decode a) = true := by
  rw [← array_kept_iff size hnull hn, getSizeArray_terminated hnull]
  unfold chainOf
  cases l with
  | nil => simp [getSizeChain, hnull]
  | cons a l => simp [getSizeChain]

end

/-! ## Each kind of table -/

section

variable {n m : Nat} {pkt : Bytes}

/-- The arrays of ptx and cubin are of one kind. -/
theorem FatEntry.array_kept_iff {p : Option (List FatEntry)}
    (hsize : lGetSizeCudaFatPtxEntry p = .ok (m, n)) :
    (∃ m, lGetSizeCudaFatPtxEntry (some (((p.getD []).take n).map FatEntry.decoded ++ [.null])) =
        .ok (m, n)) ↔
      ∀ e ∈ (p.getD []).takeWhile FatEntry.more,
        text e.gpuProfileName ≠ .empty ∧ text e.code ≠ .empty := by
  refine (Interposer.array_kept_iff _ rfl (getSizeArray_count hsize)).trans ?_
  rw [(getSizeArray_entries hsize).1]
  exact forall₂_congr fun e _ => e.decoded_more

theorem ptx_kept_iff {p : Option (List FatEntry)}
    (hsize : lGetSizeCudaFatPtxEntry p = .ok (m, n)) (hpack : lPackPtx p n = .ok pkt)
    (hlen : pkt.length < 2 ^ 31) :
    (FatTable.ptx p).KeepsLength pkt n ↔ (FatTable.ptx p).NoEmptyString := by
  have hcount := getSizeArray_count hsize
  obtain rfl := packArray_eq hcount hpack
  have hreads : Reads (FatTable.ptx p).unpack _ _ :=
    (reads_lUnpackPtx hcount hlen).map fun pEntry => FatTable.ptx (some pEntry)
  exact (keepsLength_iff hreads).trans (FatEntry.array_kept_iff hsize)

theorem cubin_kept_iff {p : Option (List FatEntry)}
    (hsize : lGetSizeCudaFatCubinEntry p = .ok (m, n)) (hpack : lPackCubin p n = .ok pkt)
    (hlen : pkt.length < 2 ^ 31) :
    (FatTable.cubin p).KeepsLength pkt n ↔ (FatTable.cubin p).NoEmptyString := by
  have hcount := getSizeArray_count hsize
  obtain rfl := packArray_eq hcount hpack
  have hreads : Reads (FatTable.cubin p).unpack _ _ :=
    (reads_lUnpackPtx hcount hlen).map fun pEntry => FatTable.cubin (some pEntry)
  exact (keepsLength_iff hreads).trans (FatEntry.array_kept_iff hsize)

theorem debug_kept_iff {p : List FatDebugEntry} (hsize : lGetSizeCudaFatDebugEntry p = (m, n))
    (hpack : lPackDebug p n = .ok pkt) (hlen : pkt.length < 2 ^ 31) :
    (FatTable.debug p).KeepsLength pkt n ↔ (FatTable.debug p).NoEmptyString := by
  obtain ⟨-, rfl⟩ := Prod.mk.inj hsize
  have hcount := takeWhile_count FatDebugEntry.more p
  obtain ⟨rfl, -⟩ := packChain_eq (fun _ _ h => (Except.ok.inj h).symm) hcount hpack
  have hreads : Reads (FatTable.debug p).unpack _ _ :=
    (reads_lUnpackDebug hcount hlen).map FatTable.debug
  refine (keepsLength_iff hreads).trans ((chain_kept_iff _ rfl hcount).trans ?_)
  rw [take_length_takeWhile]
  exact forall₂_congr fun e _ => e.decoded_more

theorem elf_kept_iff {p : List FatElfEntry} (hsize : lGetSizeCudaFatElfEntry p = (m, n))
    (hpack : lPackElf p n = .ok pkt) (hlen : pkt.length < 2 ^ 31) :
    (FatTable.elf p).KeepsLength pkt n ↔ (FatTable.elf p).NoEmptyString := by
  obtain ⟨-, rfl⟩ := Prod.mk.inj hsize
  have hcount := takeWhile_count (fun e : FatElfEntry => e.more && e.size != 0) p
  obtain ⟨rfl, hread⟩ := packChain_eq (fun _ _ h => (packElfEntry_ok h).1) hcount hpack
  have hreads : Reads (FatTable.elf p).unpack _ _ :=
    (reads_lUnpackElf hcount (fun e he => (packElfEntry_ok (hread e he)).2) hlen).map FatTable.elf
  refine (keepsLength_iff hreads).trans ((chain_kept_iff _ rfl hcount).trans ?_)
  rw [take_length_takeWhile]
  refine forall₂_congr fun e he => FatElfEntry.decoded_more ?_
  have hmore := List.mem_takeWhile_imp he
  exact bne_iff_ne.mp (Bool.and_eq_true_iff.mp hmore).2

theorem symbol_kept_iff {p : Option (List FatSymbol)}
    (hsize : lGetSizeCudaFatSymbolEntry p = .ok (m, n)) (hpack : lPackSymbol p n = .ok pkt)
    (hlen : pkt.length < 2 ^ 31) :
    (FatTable.symbol p).KeepsLength pkt n ↔ (FatTable.symbol p).NoEmptyString := by
  obtain ⟨_, hcounted⟩ := symbol_count_iff.mp ⟨m, hsize⟩
  have hcount := getSizeArray_count hcounted
  obtain rfl := packArray_eq hcount hpack
  have hreads : Reads (FatTable.symbol p).unpack _ _ :=
    (reads_lUnpackSymbol hcount hlen).map FatTable.symbol
  refine (keepsLength_iff hreads).trans (symbol_count_iff.trans ?_)
  show _ ↔ ∀ e ∈ (p.getD []).takeWhile FatSymbol.more, text e.name ≠ .empty
  rw [← (getSizeArray_entries hcounted).1]
  split
  · next hzero =>
    subst hzero
    rw [List.take_zero]
    exact ⟨fun _ _ he => absurd he List.not_mem_nil, fun _ => ⟨4, rfl⟩⟩
  · refine (array_kept_iff _ rfl hcount).trans ?_
    exact forall₂_congr fun e _ => unpacked_isSome e.name

end

/-- The decoded table has as many entries as the packed one if no string of these is empty.

An empty string is decoded to NULL, and a NULL ends the table for everyone who walks through it. -/
theorem table_length_kept_iff {t : FatTable} {size n : Nat}
    (hsize : t.getSize = .ok (size, n)) {pkt : Bytes} (hpack : t.pack n = .ok pkt)
    (hlen : pkt.length < 2 ^ 31) : t.KeepsLength pkt n ↔ t.NoEmptyString := by
  cases t with
  | ptx p => exact ptx_kept_iff hsize hpack hlen
  | cubin p => exact cubin_kept_iff hsize hpack hlen
  | debug p => exact debug_kept_iff (Except.ok.inj hsize) hpack hlen
  | elf p => exact elf_kept_iff (Except.ok.inj hsize) hpack hlen
  | symbol p => exact symbol_kept_iff hsize hpack hlen

/-- The ptx table of the sample. -/
theorem table_length_kept_sample :
    ∃ size n pkt, (FatTable.ptx sampleBinary.ptx).getSize = .ok (size, n) ∧
      (FatTable.ptx sampleBinary.ptx).pack n = .ok pkt ∧ pkt.length < 2 ^ 31 ∧
      (FatTable.ptx sampleBinary.ptx).KeepsLength pkt n := by
  have hstrings : (FatTable.ptx sampleBinary.ptx).NoEmptyString := by
    intro e he
    have hfirst : e = ⟨some ⟨[112], by decide⟩, some ⟨[120], by decide⟩⟩ := List.mem_singleton.mp he
    subst hfirst
    exact ⟨by decide, by decide⟩
  exact ⟨_, _, _, rfl, rfl, by decide, (table_length_kept_iff rfl rfl (by decide)).mpr hstrings⟩

/-- A ptx table with an entry without code. -/
def emptyCodeTable : FatTable := .ptx (some [⟨CString.read [112, 0], some .empty⟩, .null])

/-- Its entry is packed, and ends the decoded table. -/
theorem empty_code_ends_table :
    ∃ size pkt, emptyCodeTable.getSize = .ok (size, 1) ∧ emptyCodeTable.pack 1 = .ok pkt ∧
      pkt.length < 2 ^ 31 ∧ ¬emptyCodeTable.KeepsLength pkt 1 := by
  refine ⟨_, _, rfl, rfl, by decide, ?_⟩
  intro hkeeps
  obtain ⟨u, k, size, hunpack, hsize⟩ := hkeeps []
  cases hunpack
  cases hsize

end GpuVirtmem.Interposer
