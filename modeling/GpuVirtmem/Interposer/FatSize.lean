import GpuVirtmem.Interposer.FatRoundTrip

/-!
# The packet of a CUDA 3.2 fat binary and its buffer (`interposer/libciutils.c`)

The buffer has the size that `getFatRecPktSize` adds up. The tables are walked once for their sizes
and once more when they are packed; only for elf entries do the two loops end differently, since the
first one also ends at an entry of size 0. The second one then packs more entries than were counted,
and its assertion fails.

For each table the number of entries and of bytes that were counted is compared with what is packed.
Four of the five agree by the shape of their two loops; the symbols are counted more generously than
they are packed. The elf table is the one where a condition remains.
-/

namespace GpuVirtmem.Interposer

open Lib

/-- Where an elf entry has an `elf`, its `size` bytes can be read there. -/
def ElfReadable (p : List FatElfEntry) : Prop :=
  ∀ e ∈ p, ∀ elf, e.elf = some elf → e.size.toNat ≤ elf.length

/-- Packing fails no assertion and returns no error, and the packet fits a buffer of the size. -/
def FitsBuffer (b : FatCudaBinary) (cache : CacheNumEntries) (size : Nat) : Prop :=
  ∃ pkt, packFatBinary b cache = .ok pkt ∧ pkt.length ≤ size

/-- Where the first elf entry has a size, so have all of them up to one without a name or an elf. -/
def ElfSized (p : List FatElfEntry) : Prop :=
  ∀ first, p.head? = some first → first.size ≠ 0 → ∀ e ∈ p.takeWhile FatElfEntry.more, e.size ≠ 0

/-! ## The two loops over a table -/

section

variable {α : Type} {encode : α → Bytes} {more : α → Bool} {size : α → Nat} {n m : Nat}

/-- The length of a packed table, from those of its entries. -/
theorem tableBytes_length {source : List α} (h : ∀ a ∈ source.take n, (encode a).length = size a) :
    (tableBytes encode source n).length = 4 + ((source.take n).map size).sum := by
  rw [tableBytes, List.length_append, encodeLE_length, List.length_flatMap,
    List.map_congr_left h]

/-- Of an array as many bytes are packed as were counted. -/
theorem packArray_counted {p : Option (List α)} (hsize : ∀ a, (encode a).length = size a)
    (h : getSizeArray more size p = .ok (m, n)) :
    packArray encode p n = .ok (tableBytes encode (p.getD []) n) ∧
      (tableBytes encode (p.getD []) n).length = m := by
  rw [tableBytes_length fun a _ => hsize a]
  cases p with
  | none =>
    cases h
    exact ⟨rfl, rfl⟩
  | some table =>
    obtain ⟨entries, hscan, h⟩ := except_bind_eq_ok.mp h
    cases h
    have htake := (scanTable_eq_ok hscan).2
    have hle : entries.length ≤ table.length := by
      rw [← htake, List.length_take]
      exact Nat.min_le_right ..
    rw [Option.getD_some, htake]
    exact ⟨if_pos hle, rfl⟩

/-- A chain is packed where the loop ends behind the entries that were counted, or none was. -/
theorem packChain_counted (counted : α → Bool) {f : α → Except CFail Bytes} {p : List α}
    (hf : ∀ a ∈ p.takeWhile more, f a = .ok (encode a))
    (hn : n = (p.takeWhile fun a => more a && counted a).length) :
    packChain more f p n =
      if n = 0 ∨ ∀ a ∈ p.takeWhile more, counted a = true then .ok (tableBytes encode p n)
      else .error .assertFailed := by
  have hlen := length_takeWhile_and more counted p
  rw [← hn] at hlen
  unfold packChain tableBytes
  by_cases hz : n = 0
  · rw [if_pos (.inl hz), if_pos (.inl hz), hz, List.take_zero, List.flatMap_nil, List.append_nil]
  have hp : ¬(n = 0 ∨ p.isEmpty = true) := by
    rintro (h | h)
    · exact hz h
    · rw [List.isEmpty_iff.mp h] at hn
      exact hz hn
  rw [if_neg hp, mapM_ok hf]
  show (if (List.map encode _).length = n then _ else _) = _
  rw [List.length_map]
  by_cases hall : ∀ a ∈ p.takeWhile more, counted a = true
  · have htake := take_length_takeWhile more p
    rw [hlen.mpr hall] at htake
    rw [if_pos (hlen.mpr hall), if_pos (.inr hall), htake, List.flatMap_def]
  · rw [if_neg (mt hlen.mp hall), if_neg (not_or.mpr ⟨hz, hall⟩)]

end

/-! ## Entries -/

/-- Two strings. -/
theorem packEntry_length (e : FatEntry) :
    (packEntry e).length = lGetStringPktSize e.gpuProfileName + lGetStringPktSize e.code := by
  rw [packEntry, List.length_append, lPackStr_length, lPackStr_length]

theorem packDebugEntry_length (e : FatDebugEntry) :
    (packDebugEntry e).length =
      lGetStringPktSize e.gpuProfileName + lGetStringPktSize e.debug + 4 := by
  rw [packDebugEntry, List.length_append, List.length_append, lPackStr_length, lPackStr_length,
    encodeLE_length, Nat.add_assoc]

/-- A string, the elf and its size. -/
theorem elfEntryBytes_length {e : FatElfEntry} (h : e.size.toNat ≤ (e.elf.getD []).length) :
    (elfEntryBytes e).length = lGetStringPktSize e.gpuProfileName + e.size.toNat + 4 := by
  rw [elfEntryBytes, List.length_append, List.length_append, lPackStr_length, encodeLE_length,
    List.length_take_of_le h]
  omega

/-- Of an entry that has an elf its size can be read. -/
theorem elf_readable {p : List FatElfEntry} (hread : ElfReadable p) {e : FatElfEntry}
    (he : e ∈ p) (hmore : e.more = true) : e.size.toNat ≤ (e.elf.getD []).length := by
  obtain ⟨elf, helf⟩ := Option.isSome_iff_exists.mp (Bool.and_eq_true_iff.mp hmore).2
  rw [helf]
  exact hread e he elf helf

/-- Symbols are packed into no more bytes than were counted. -/
theorem lPackSymbol_counted {p : Option (List FatSymbol)} {m n : Nat}
    (h : lGetSizeCudaFatSymbolEntry p = .ok (m, n)) :
    lPackSymbol p n = .ok (tableBytes (fun e => lPackStr e.name) (p.getD []) n) ∧
      (tableBytes (fun e => lPackStr e.name) (p.getD []) n).length ≤ m := by
  obtain ⟨⟨size, count⟩, hcount, h⟩ := except_bind_eq_ok.mp h
  obtain ⟨hpack, hlen⟩ := packArray_counted (fun e : FatSymbol => lPackStr_length e.name) hcount
  dsimp only at h
  split at h
  · next hz =>
    cases h
    subst hz
    refine ⟨hpack, ?_⟩
    rw [tableBytes_length fun e _ => lPackStr_length (FatSymbol.name e), List.take_zero]
    exact Nat.le_add_right 4 _
  · cases h
    exact ⟨hpack, hlen.le⟩

/-- The debug table is packed as it was counted. -/
theorem lPackDebug_counted (p : List FatDebugEntry) :
    lPackDebug p (lGetSizeCudaFatDebugEntry p).2 =
        .ok (tableBytes packDebugEntry p (lGetSizeCudaFatDebugEntry p).2) ∧
      (tableBytes packDebugEntry p (lGetSizeCudaFatDebugEntry p).2).length =
        (lGetSizeCudaFatDebugEntry p).1 := by
  constructor
  · have hchain : lPackDebug p (lGetSizeCudaFatDebugEntry p).2 = _ :=
      packChain_counted (fun _ => true) (fun a _ => rfl) (by
        simp only [lGetSizeCudaFatDebugEntry, getSizeChain, Bool.and_true])
    rwa [if_pos (.inr fun _ _ => rfl)] at hchain
  · rw [tableBytes_length fun e _ => packDebugEntry_length e]
    show 4 + ((p.take (p.takeWhile FatDebugEntry.more).length).map _).sum = _
    rw [take_length_takeWhile]
    rfl

/-- The elf entries end both loops at once, or none of them was counted. -/
theorem elfSized_iff {p : List FatElfEntry} :
    ElfSized p ↔ (p.takeWhile fun e => e.more && e.size != 0).length = 0 ∨
      ∀ e ∈ p.takeWhile FatElfEntry.more, (e.size != 0) = true := by
  simp only [bne_iff_ne]
  cases p with
  | nil => exact ⟨fun _ => .inl rfl, fun _ _ hfirst => by cases hfirst⟩
  | cons e p =>
    by_cases hsize : e.size = 0
    · have hnone : ((e :: p).takeWhile fun e => e.more && e.size != 0).length = 0 := by
        rw [List.takeWhile_cons_of_neg (by simp [hsize]), List.length_nil]
      refine ⟨fun _ => .inl hnone, fun _ first hfirst hne => ?_⟩
      cases hfirst
      exact absurd hsize hne
    · constructor
      · intro h
        exact .inr (h e rfl hsize)
      · rintro (hzero | hall) first hfirst hne
        · cases hfirst
          by_cases hmore : e.more = true
          · rw [List.takeWhile_cons_of_pos (by simp [hmore, hsize])] at hzero
            cases hzero
          · rw [List.takeWhile_cons_of_neg hmore]
            simp
        · exact hall

instance (p : List FatElfEntry) : Decidable (ElfSized p) := decidable_of_iff' _ elfSized_iff

/-- The elf table is packed as it was counted, or its assertion fails. -/
theorem lPackElf_counted {p : List FatElfEntry} (hread : ElfReadable p) :
    lPackElf p (lGetSizeCudaFatElfEntry p).2 =
        (if ElfSized p then .ok (tableBytes elfEntryBytes p (lGetSizeCudaFatElfEntry p).2)
        else .error .assertFailed) ∧
      (tableBytes elfEntryBytes p (lGetSizeCudaFatElfEntry p).2).length =
        (lGetSizeCudaFatElfEntry p).1 := by
  have htake := take_length_takeWhile (fun e : FatElfEntry => e.more && e.size != 0) p
  constructor
  · simp only [elfSized_iff]
    exact packChain_counted (fun e => e.size != 0)
      (fun e he => if_pos (elf_readable hread ((List.takeWhile_prefix _).subset he)
        (List.mem_takeWhile_imp he))) rfl
  · have hlen : ∀ e ∈ p.takeWhile fun e => e.more && e.size != 0,
        (elfEntryBytes e).length = lGetStringPktSize e.gpuProfileName + e.size.toNat + 4 := by
      intro e he
      have hmore := List.mem_takeWhile_imp he
      exact elfEntryBytes_length
        (elf_readable hread ((List.takeWhile_prefix _).subset he) (Bool.and_eq_true_iff.mp hmore).1)
    rw [← htake] at hlen
    rw [lGetSizeCudaFatElfEntry, getSizeChain, tableBytes_length hlen, htake]

/-! ## The whole binary -/

/-- The numbers at the front have a fixed length. -/
theorem packNumbers_length (b : FatRecord) : (packNumbers b).length = 8 + 8 + 8 + 4 + 4 := by
  simp only [packNumbers, List.length_append, encodeLE_length]

/-- The strings have the length that was counted for them. -/
theorem packStrings_length (b : FatRecord) :
    (packStrings b).length = lGetStringPktSize b.key + lGetStringPktSize b.ident +
      lGetStringPktSize b.usageMode + 8 := by
  simp only [packStrings, List.length_append, lPackStr_length, encodeLE_length, Nat.add_assoc]

/-- What the encoders do with the counted tables of a binary, and the room that was counted. -/
structure Packs (b : FatRecord) (cache : CacheNumEntries) (size : Nat) : Prop where
  ptx : lPackPtx b.ptx cache.nptxs = .ok (tableBytes packEntry (b.ptx.getD []) cache.nptxs)
  cubin : lPackCubin b.cubin cache.ncubs = .ok (tableBytes packEntry (b.cubin.getD []) cache.ncubs)
  debug : lPackDebug b.debug cache.ndebs = .ok (tableBytes packDebugEntry b.debug cache.ndebs)
  elf : lPackElf b.elf cache.nelves =
    if ElfSized b.elf then .ok (tableBytes elfEntryBytes b.elf cache.nelves)
    else .error .assertFailed
  exported : lPackSymbol b.exported cache.nexps =
    .ok (tableBytes (fun e => lPackStr e.name) (b.exported.getD []) cache.nexps)
  imported : lPackSymbol b.imported cache.nimps =
    .ok (tableBytes (fun e => lPackStr e.name) (b.imported.getD []) cache.nimps)
  length : (packNumbers b).length + (packStrings b).length + (packTables b cache).length ≤ size

/-- The buffer of a binary has room for what is packed, part by part. -/
theorem lGetFatRecPktSize_packs {b : FatRecord} {size : Nat} {cache : CacheNumEntries}
    (hread : ElfReadable b.elf) (h : lGetFatRecPktSize b = .ok (size, cache)) :
    Packs b cache size := by
  obtain ⟨⟨ptx, nptxs⟩, hptx, h⟩ := except_bind_eq_ok.mp h
  obtain ⟨⟨cubin, ncubs⟩, hcubin, h⟩ := except_bind_eq_ok.mp h
  obtain ⟨⟨exported, nexps⟩, hexported, h⟩ := except_bind_eq_ok.mp h
  obtain ⟨⟨imported, nimps⟩, himported, h⟩ := except_bind_eq_ok.mp h
  cases h
  obtain ⟨hptx, hptxs⟩ := packArray_counted packEntry_length hptx
  obtain ⟨hcubin, hcubins⟩ := packArray_counted packEntry_length hcubin
  obtain ⟨hdebug, hdebugs⟩ := lPackDebug_counted b.debug
  obtain ⟨helf, helves⟩ := lPackElf_counted hread
  obtain ⟨hexported, hexports⟩ := lPackSymbol_counted hexported
  obtain ⟨himported, himports⟩ := lPackSymbol_counted himported
  exact {
    ptx := hptx
    cubin := hcubin
    debug := hdebug
    elf := helf
    exported := hexported
    imported := himported
    length := by
      rw [packNumbers_length, packStrings_length]
      simp only [packTables, List.length_append]
      simp only [lGetSizeCudaFatDebugEntry, getSizeChain,
        lGetSizeCudaFatElfEntry] at hdebugs helves ⊢
      omega }

/-- What packing does after counting: it writes all tables, or it fails the assertion over the elf
entries. -/
theorem packFatBinary_counted {b : FatCudaBinary} {size : Nat} {cache : CacheNumEntries}
    (hsize : getFatRecPktSize b = .ok (size, cache)) (hdeps : b.dependends = [])
    (hread : ElfReadable b.elf) :
    packFatBinary b cache =
        (if ElfSized b.elf then
          .ok (packNumbers b.toFatRecord ++ (packStrings b.toFatRecord ++
            packTables b.toFatRecord cache) ++ encodeLE 4 0)
        else .error .assertFailed) ∧
      (packNumbers b.toFatRecord).length + (packStrings b.toFatRecord).length +
        (packTables b.toFatRecord cache).length + 4 ≤ size := by
  obtain ⟨⟨_, counts⟩, hrec, h⟩ := except_bind_eq_ok.mp hsize
  obtain ⟨⟨_, ndeps⟩, hcount, h⟩ := except_bind_eq_ok.mp h
  rw [hdeps] at hcount
  cases hcount
  cases h
  have hpacks := lGetFatRecPktSize_packs hread hrec
  refine ⟨?_, Nat.add_le_add_right hpacks.length 4⟩
  unfold packFatBinary lPackFatBinary
  dsimp only
  rw [hpacks.ptx, hpacks.cubin, hpacks.debug, hpacks.elf, hpacks.exported, hpacks.imported, hdeps]
  split
  · rfl
  · rfl

/-- Packing is safe on just the binaries without a sized elf entry before one of size 0.

Of the five kinds of tables, the elf entries are the ones that are counted and packed by loops with
different ends. -/
theorem fat_binary_fits_iff {b : FatCudaBinary} {size : Nat} {cache : CacheNumEntries}
    (hsize : getFatRecPktSize b = .ok (size, cache)) (hdeps : b.dependends = [])
    (hread : ElfReadable b.elf) : FitsBuffer b cache size ↔ ElfSized b.elf := by
  obtain ⟨hpack, hlen⟩ := packFatBinary_counted hsize hdeps hread
  unfold FitsBuffer
  by_cases hsized : ElfSized b.elf
  · rw [if_pos hsized] at hpack
    refine ⟨fun _ => hsized, fun _ => ⟨_, hpack, ?_⟩⟩
    simp only [List.length_append, encodeLE_length]
    omega
  · rw [if_neg hsized] at hpack
    refine ⟨?_, fun h => absurd h hsized⟩
    rintro ⟨pkt, hpkt, -⟩
    rw [hpack] at hpkt
    cases hpkt

set_option maxRecDepth 4000 in
/-- The elf entry of the sample has a size. -/
theorem fat_binary_fits_sample :
    ∃ size cache, getFatRecPktSize sampleBinary = .ok (size, cache) ∧
      (FitsBuffer sampleBinary cache size ↔ ElfSized sampleBinary.elf) ∧
      FitsBuffer sampleBinary cache size := by
  have hread : ElfReadable sampleBinary.elf := by
    intro e he elf helf
    simp only [sampleBinary, List.mem_cons, List.not_mem_nil, or_false] at he
    rcases he with rfl | rfl
    · cases helf
      decide
    · cases helf
  have hfits := fat_binary_fits_iff (b := sampleBinary) rfl rfl hread
  exact ⟨_, _, rfl, hfits, hfits.mpr (by decide)⟩

/-- A binary with an elf entry of one byte before one of size 0. -/
def emptyElfBinary : FatCudaBinary :=
  { magic := 10, version := 20, gpuInfoVersion := 30, flags := 38, characteristic := 2
    key := none, ident := none, usageMode := none, debugInfo := 0
    ptx := none, cubin := none, debug := []
    elf := [⟨CString.read [112, 0], some [1], 1⟩, ⟨CString.read [112, 0], some [], 0⟩, .null]
    exported := none, imported := none, dependends := [] }

/-- The second elf entry is packed, but it was not counted: the count stopped at the entry of size 0
before it. -/
theorem empty_elf_fails_assertion :
    ∃ size cache, getFatRecPktSize emptyElfBinary = .ok (size, cache) ∧ size < 2 ^ 31 ∧
      ElfReadable emptyElfBinary.elf ∧ packFatBinary emptyElfBinary cache = .error .assertFailed ∧
      ¬FitsBuffer emptyElfBinary cache size := by
  have hread : ElfReadable emptyElfBinary.elf := by
    intro e he elf helf
    simp only [emptyElfBinary, List.mem_cons, List.not_mem_nil, or_false] at he
    rcases he with rfl | rfl | rfl
    · cases helf
      decide
    · cases helf
      decide
    · cases helf
  refine ⟨_, _, rfl, by decide, hread, rfl, ?_⟩
  rintro ⟨pkt, hpkt, -⟩
  cases hpkt

end GpuVirtmem.Interposer
