import GpuVirtmem.Interposer.FatBinary

/-!
# CUDA 3.2 fat binaries come back

Both kinds of table are packed to the same bytes, their first `n` entries after their number. Each
decoder is shown to take exactly the bytes its encoder wrote, and `unpackFatBinary` is their
composition. Only the last one, `l_unpackDep`, does not report what it read.

Every decoder gets a lemma of the form `Reads decoder bytes value`, and these compose (`Lib.Codec`);
so the proof for a whole binary follows its format from the first field to the last. What the
decoder has to know of the packet, that all lengths and counts fit their fields, comes from one
bound on the length of the packet.
-/

namespace GpuVirtmem.Interposer

open Lib Lib.Reader

/-! ## What is packed for a table -/

/-- The bytes of a table of `n` entries. -/
def tableBytes {α : Type} (encode : α → Bytes) (source : List α) (n : Nat) : Bytes :=
  encodeLE 4 n ++ (source.take n).flatMap encode

section

variable {α : Type} {encode : α → Bytes} {more : α → Bool} {size : α → Nat} {n m : Nat}
  {pkt : Bytes}

/-- Counting an array goes through the entries up to the one that ends it. -/
theorem getSizeArray_entries {p : Option (List α)} (h : getSizeArray more size p = .ok (m, n)) :
    (p.getD []).take n = (p.getD []).takeWhile more ∧
      n = ((p.getD []).takeWhile more).length := by
  cases p with
  | none =>
    cases h
    exact ⟨rfl, rfl⟩
  | some table =>
    obtain ⟨entries, hscan, h⟩ := except_bind_eq_ok.mp h
    cases h
    obtain ⟨rfl, htake⟩ := scanTable_eq_ok hscan
    exact ⟨htake, rfl⟩

/-- The number of entries that counting an array gave is a length it has. -/
theorem getSizeArray_count {p : Option (List α)} (h : getSizeArray more size p = .ok (m, n)) :
    ((p.getD []).take n).length = n := by
  obtain ⟨htake, hn⟩ := getSizeArray_entries h
  rw [htake, ← hn]

/-- Symbols are counted like any array, whatever the size that is given for them. -/
theorem getSizeArray_of_symbols {p : Option (List FatSymbol)}
    (h : lGetSizeCudaFatSymbolEntry p = .ok (m, n)) :
    ∃ m, getSizeArray FatSymbol.more (fun e => lGetStringPktSize e.name) p = .ok (m, n) := by
  obtain ⟨⟨size, count⟩, hcount, h⟩ := except_bind_eq_ok.mp h
  dsimp only at h
  split at h
  · next hzero =>
    cases h
    exact ⟨size, hzero ▸ hcount⟩
  · cases h
    exact ⟨m, hcount⟩

/-- What is packed for an array is its number and its entries. -/
theorem packArray_eq {p : Option (List α)} (hn : ((p.getD []).take n).length = n)
    (h : packArray encode p n = .ok pkt) : pkt = tableBytes encode (p.getD []) n := by
  cases p with
  | none =>
    cases h
    have hz : n = 0 := by simpa using hn.symm
    subst hz
    rfl
  | some table =>
    simp only [packArray] at h
    split at h
    · cases h
      rfl
    · cases h

/-- The number of entries that counting a chain gave is a length it has. -/
theorem takeWhile_count (more : α → Bool) (p : List α) :
    (p.take (p.takeWhile more).length).length = (p.takeWhile more).length := by
  rw [take_length_takeWhile]

/-- For a chain the same, after the entries have been looked at one by one. -/
theorem packChain_eq {f : α → Except CFail Bytes} (hf : ∀ a b, f a = .ok b → b = encode a)
    {p : List α} (hn : (p.take n).length = n) (h : packChain more f p n = .ok pkt) :
    pkt = tableBytes encode p n ∧ ∀ a ∈ p.take n, f a = .ok (encode a) := by
  unfold packChain at h
  split at h
  · next hz =>
    cases h
    have hn0 : n = 0 := by
      rcases hz with hz | hz
      · exact hz
      · rw [List.isEmpty_iff.mp hz] at hn
        simpa using hn.symm
    subst hn0
    exact ⟨rfl, fun _ h => nomatch h⟩
  · obtain ⟨entries, hm, h⟩ := except_bind_eq_ok.mp h
    obtain ⟨rfl, hall⟩ := mapM_eq_ok hf hm
    rw [List.length_map] at h
    split at h
    · next hlen =>
      cases h
      have htake : p.take n = p.takeWhile more := by
        rw [← hlen]
        exact take_length_takeWhile more p
      rw [tableBytes, htake]
      exact ⟨rfl, hall⟩
    · cases h

end

/-! ## What is unpacked from a table -/

section

variable {α : Type} {encode : α → Bytes} {decode : α → α} {entry : Reader α} {source : List α}
  {n : Nat}

/-- The entries of a packed table, each read back. -/
theorem reads_entries (hn : (source.take n).length = n)
    (h : ∀ a ∈ source.take n, Reads entry (encode a) (decode a)) :
    Reads (times n entry) ((source.take n).flatMap encode) ((source.take n).map decode) := by
  have hr := reads_times h
  rwa [hn] at hr

/-- A packet below 2^31 bytes has fewer entries than that, so that their number fits its field. -/
theorem count_lt (hn : (source.take n).length = n) (hpos : ∀ a, 0 < (encode a).length)
    (hlen : (tableBytes encode source n).length < 2 ^ 31) : n < 256 ^ 4 := by
  have hle : (source.take n).length ≤ ((source.take n).flatMap encode).length :=
    length_le_of_flatMap hpos
  rw [tableBytes, List.length_append, encodeLE_length] at hlen
  omega

/-- Each entry is shorter than the packet. -/
theorem entry_lt (hlen : (tableBytes encode source n).length < 2 ^ 31) {a : α}
    (ha : a ∈ source.take n) : (encode a).length < 2 ^ 31 := by
  have hle := length_le_length_flatMap ha encode
  rw [tableBytes, List.length_append, encodeLE_length] at hlen
  omega

/-- A packed array is read back with a terminator behind its entries. -/
theorem reads_unpackArray (hn : (source.take n).length = n) (hlt : n < 256 ^ 4)
    (h : ∀ a ∈ source.take n, Reads entry (encode a) (decode a)) (null : α) :
    Reads (unpackArray entry null) (tableBytes encode source n)
      ((source.take n).map decode ++ [null]) :=
  (reads_number hlt).bind ((reads_entries hn h).map (· ++ [null]))

/-- The chain a decoder builds: NULL, or the entries and a terminator. -/
def chainOf (entries : List α) (null : α) : List α :=
  if entries.length = 0 then [] else entries ++ [null]

/-- A packed chain is read back as an array with a terminator, or as NULL. -/
theorem reads_unpackChain (hn : (source.take n).length = n) (hlt : n < 256 ^ 4)
    (h : ∀ a ∈ source.take n, Reads entry (encode a) (decode a)) (null : α) :
    Reads (unpackChain entry null) (tableBytes encode source n)
      (chainOf ((source.take n).map decode) null) := by
  refine (reads_number hlt).bind ?_
  unfold chainOf
  rw [List.length_map, hn]
  split
  · next hz =>
    subst hz
    exact Reads.pure []
  · exact (reads_entries hn h).map (· ++ [null])

end

/-! ## Entries -/

/-- What is unpacked for an entry of ptx or of cubin. -/
def FatEntry.decoded (e : FatEntry) : FatEntry :=
  { gpuProfileName := unpacked e.gpuProfileName, code := unpacked e.code }

/-- What is unpacked for a debug entry. -/
def FatDebugEntry.decoded (e : FatDebugEntry) : FatDebugEntry :=
  { gpuProfileName := unpacked e.gpuProfileName, debug := unpacked e.debug, size := e.size }

/-- What is unpacked for an elf entry. -/
def FatElfEntry.decoded (e : FatElfEntry) : FatElfEntry :=
  { gpuProfileName := unpacked e.gpuProfileName,
    elf := if e.size.toNat = 0 then none else some ((e.elf.getD []).take e.size.toNat),
    size := e.size }

/-- What is unpacked for a symbol. -/
def FatSymbol.decoded (e : FatSymbol) : FatSymbol := { name := unpacked e.name }

/-- Entries come back field by field; a string that was NULL or empty comes back as NULL. -/
theorem reads_unpackEntry {e : FatEntry} (h : (packEntry e).length < 2 ^ 31) :
    Reads unpackEntry (packEntry e) e.decoded := by
  rw [packEntry, List.length_append] at h
  have h₁ := reads_lUnpackStr (s := e.gpuProfileName) (by omega)
  have h₂ := reads_lUnpackStr (s := e.code) (by omega)
  exact h₁.bind (h₂.map (FatEntry.mk _))

theorem reads_unpackDebugEntry {e : FatDebugEntry} (h : (packDebugEntry e).length < 2 ^ 31) :
    Reads unpackDebugEntry (packDebugEntry e) e.decoded := by
  rw [packDebugEntry, List.length_append, List.length_append] at h
  have h₁ := reads_lUnpackStr (s := e.gpuProfileName) (by omega)
  have h₂ := reads_lUnpackStr (s := e.debug) (by omega)
  exact h₁.bind (h₂.bind ((reads_u32 e.size).map (FatDebugEntry.mk _ _)))

theorem reads_lUnpackChars (bs : Bytes) :
    Reads (lUnpackChars bs.length) bs (if bs.length = 0 then none else some bs) := by
  unfold lUnpackChars
  split
  · next hz =>
    rw [List.eq_nil_of_length_eq_zero hz]
    exact Reads.pure none
  · exact (reads_take bs).map some

/-- An elf comes back if it was there in full. -/
theorem reads_unpackElfEntry {e : FatElfEntry} (hs : e.size.toNat ≤ (e.elf.getD []).length)
    (h : (elfEntryBytes e).length < 2 ^ 31) :
    Reads unpackElfEntry (elfEntryBytes e) e.decoded := by
  rw [elfEntryBytes, List.length_append] at h
  have h₁ := reads_lUnpackStr (s := e.gpuProfileName) (by omega)
  have hlen : ((e.elf.getD []).take e.size.toNat).length = e.size.toNat := by
    rw [List.length_take]
    omega
  have h₃ := (reads_lUnpackChars ((e.elf.getD []).take e.size.toNat)).map
    fun elf => FatElfEntry.mk (unpacked e.gpuProfileName) elf e.size
  rw [hlen] at h₃
  exact h₁.bind ((reads_u32 e.size).bind h₃)

theorem reads_lUnpackSymbol {source : List FatSymbol} {n : Nat}
    (hn : (source.take n).length = n)
    (hlen : (tableBytes (fun e => lPackStr e.name) source n).length < 2 ^ 31) :
    Reads lUnpackSymbol (tableBytes (fun e => lPackStr e.name) source n)
      (if n = 0 then none else some ((source.take n).map FatSymbol.decoded ++ [.null])) := by
  have hlt := count_lt hn (fun e : FatSymbol => lPackStr_pos e.name) hlen
  refine (reads_number hlt).bind ?_
  split
  · next hz =>
    subst hz
    exact Reads.pure none
  · refine (reads_entries hn ?_).map fun entries => some (entries ++ [.null])
    intro e he
    have hle := entry_lt hlen he
    exact (reads_lUnpackStr (by omega)).map FatSymbol.mk

/-- Without dependends the offset of the decoder before is reported again. That is why it is not
said of this decoder that it reads its bytes (`Reads`), but what it spends and what it reports. -/
theorem spends_lUnpackDep (offset : Nat) :
    Spends (lUnpackDep offset) (encodeLE 4 0) [] offset := by
  intro rest
  have hr := reads_number (w := 4) (n := 0) (by decide) rest
  simp only [lUnpackDep, hr]

/-- The three kinds of table with two pointers in an entry are instances. -/
theorem reads_lUnpackPtx {source : List FatEntry} {n : Nat} (hn : (source.take n).length = n)
    (hlen : (tableBytes packEntry source n).length < 2 ^ 31) :
    Reads lUnpackPtx (tableBytes packEntry source n)
      ((source.take n).map FatEntry.decoded ++ [.null]) := by
  have hpos : ∀ e, 0 < (packEntry e).length := fun e => lPackStr_append_pos e.gpuProfileName _
  exact reads_unpackArray hn (count_lt hn hpos hlen)
    (fun e he => reads_unpackEntry (entry_lt hlen he)) .null

theorem reads_lUnpackDebug {source : List FatDebugEntry} {n : Nat}
    (hn : (source.take n).length = n)
    (hlen : (tableBytes packDebugEntry source n).length < 2 ^ 31) :
    Reads lUnpackDebug (tableBytes packDebugEntry source n)
      (chainOf ((source.take n).map FatDebugEntry.decoded) .null) := by
  have hpos : ∀ e, 0 < (packDebugEntry e).length := fun e => lPackStr_append_pos e.gpuProfileName _
  exact reads_unpackChain hn (count_lt hn hpos hlen)
    (fun e he => reads_unpackDebugEntry (entry_lt hlen he)) .null

theorem reads_lUnpackElf {source : List FatElfEntry} {n : Nat} (hn : (source.take n).length = n)
    (hread : ∀ e ∈ source.take n, e.size.toNat ≤ (e.elf.getD []).length)
    (hlen : (tableBytes elfEntryBytes source n).length < 2 ^ 31) :
    Reads lUnpackElf (tableBytes elfEntryBytes source n)
      (chainOf ((source.take n).map FatElfEntry.decoded) .null) := by
  have hpos : ∀ e, 0 < (elfEntryBytes e).length := fun e => lPackStr_append_pos e.gpuProfileName _
  exact reads_unpackChain hn (count_lt hn hpos hlen)
    (fun e he => reads_unpackElfEntry (hread e he) (entry_lt hlen he)) .null

/-! ## The whole binary -/

/-- What is unpacked for a binary whose tables have the cached numbers of entries. -/
def FatRecord.decoded (b : FatRecord) (cache : CacheNumEntries) : FatCudaBinary :=
  { magic := b.magic, version := b.version, gpuInfoVersion := b.gpuInfoVersion
    flags := b.flags, characteristic := b.characteristic
    key := unpacked b.key, ident := unpacked b.ident, usageMode := unpacked b.usageMode
    debugInfo := b.debugInfo
    ptx := some (((b.ptx.getD []).take cache.nptxs).map FatEntry.decoded ++ [.null])
    cubin := some (((b.cubin.getD []).take cache.ncubs).map FatEntry.decoded ++ [.null])
    debug := chainOf ((b.debug.take cache.ndebs).map FatDebugEntry.decoded) .null
    elf := chainOf ((b.elf.take cache.nelves).map FatElfEntry.decoded) .null
    exported := if cache.nexps = 0 then none
      else some (((b.exported.getD []).take cache.nexps).map FatSymbol.decoded ++ [.null])
    imported := if cache.nimps = 0 then none
      else some (((b.imported.getD []).take cache.nimps).map FatSymbol.decoded ++ [.null])
    dependends := [] }

/-- The cached numbers are lengths that the tables have. -/
structure Counted (b : FatRecord) (cache : CacheNumEntries) : Prop where
  ptx : ((b.ptx.getD []).take cache.nptxs).length = cache.nptxs
  cubin : ((b.cubin.getD []).take cache.ncubs).length = cache.ncubs
  debug : (b.debug.take cache.ndebs).length = cache.ndebs
  elf : (b.elf.take cache.nelves).length = cache.nelves
  exported : ((b.exported.getD []).take cache.nexps).length = cache.nexps
  imported : ((b.imported.getD []).take cache.nimps).length = cache.nimps

/-- The cached numbers are those that counting the tables gave. -/
structure CountsOf (b : FatRecord) (cache : CacheNumEntries) : Prop where
  ptx : ∃ m, lGetSizeCudaFatPtxEntry b.ptx = .ok (m, cache.nptxs)
  cubin : ∃ m, lGetSizeCudaFatCubinEntry b.cubin = .ok (m, cache.ncubs)
  debug : cache.ndebs = (b.debug.takeWhile FatDebugEntry.more).length
  elf : cache.nelves = (b.elf.takeWhile fun e => e.more && e.size != 0).length
  exported : ∃ m, lGetSizeCudaFatSymbolEntry b.exported = .ok (m, cache.nexps)
  imported : ∃ m, lGetSizeCudaFatSymbolEntry b.imported = .ok (m, cache.nimps)

/-- What was counted are the entries before the terminators, table by table. -/
theorem getFatRecPktSize_counts {b : FatCudaBinary} {size : Nat} {cache : CacheNumEntries}
    (h : getFatRecPktSize b = .ok (size, cache)) : CountsOf b.toFatRecord cache := by
  obtain ⟨_, hrec, h⟩ := except_bind_eq_ok.mp h
  obtain ⟨_, _, h⟩ := except_bind_eq_ok.mp h
  cases h
  obtain ⟨⟨ptx, _⟩, hptx, hrec⟩ := except_bind_eq_ok.mp hrec
  obtain ⟨⟨cubin, _⟩, hcubin, hrec⟩ := except_bind_eq_ok.mp hrec
  obtain ⟨⟨exported, _⟩, hexported, hrec⟩ := except_bind_eq_ok.mp hrec
  obtain ⟨⟨imported, _⟩, himported, hrec⟩ := except_bind_eq_ok.mp hrec
  cases hrec
  exact ⟨⟨ptx, hptx⟩, ⟨cubin, hcubin⟩, rfl, rfl, ⟨exported, hexported⟩, imported, himported⟩

/-- The counts are lengths that the tables have. -/
theorem CountsOf.counted {b : FatRecord} {cache : CacheNumEntries} (h : CountsOf b cache) :
    Counted b cache := by
  obtain ⟨_, hptx⟩ := h.ptx
  obtain ⟨_, hcubin⟩ := h.cubin
  obtain ⟨_, hexported⟩ := h.exported
  obtain ⟨_, hexported⟩ := getSizeArray_of_symbols hexported
  obtain ⟨_, himported⟩ := h.imported
  obtain ⟨_, himported⟩ := getSizeArray_of_symbols himported
  exact {
    ptx := getSizeArray_count hptx
    cubin := getSizeArray_count hcubin
    debug := h.debug ▸ takeWhile_count _ _
    elf := h.elf ▸ takeWhile_count _ _
    exported := getSizeArray_count hexported
    imported := getSizeArray_count himported }

/-- The cached numbers are those of the entries before the terminators. A string that is NULL makes
an entry the terminator, and so does the size 0 for an elf entry. -/
structure BeforeTerminators (b : FatRecord) (cache : CacheNumEntries) : Prop where
  ptx : cache.nptxs = ((b.ptx.getD []).takeWhile FatEntry.more).length
  cubin : cache.ncubs = ((b.cubin.getD []).takeWhile FatEntry.more).length
  debug : cache.ndebs = (b.debug.takeWhile FatDebugEntry.more).length
  elf : cache.nelves = (b.elf.takeWhile fun e => e.more && e.size != 0).length
  exported : cache.nexps = ((b.exported.getD []).takeWhile FatSymbol.more).length
  imported : cache.nimps = ((b.imported.getD []).takeWhile FatSymbol.more).length

/-- And no entry before them ends its table. -/
theorem CountsOf.beforeTerminators {b : FatRecord} {cache : CacheNumEntries}
    (h : CountsOf b cache) : BeforeTerminators b cache := by
  obtain ⟨_, hptx⟩ := h.ptx
  obtain ⟨_, hcubin⟩ := h.cubin
  obtain ⟨_, hexported⟩ := h.exported
  obtain ⟨_, hexported⟩ := getSizeArray_of_symbols hexported
  obtain ⟨_, himported⟩ := h.imported
  obtain ⟨_, himported⟩ := getSizeArray_of_symbols himported
  exact {
    ptx := (getSizeArray_entries hptx).2
    cubin := (getSizeArray_entries hcubin).2
    debug := h.debug
    elf := h.elf
    exported := (getSizeArray_entries hexported).2
    imported := (getSizeArray_entries himported).2 }

theorem getFatRecPktSize_counted {b : FatCudaBinary} {size : Nat} {cache : CacheNumEntries}
    (h : getFatRecPktSize b = .ok (size, cache)) : Counted b.toFatRecord cache :=
  (getFatRecPktSize_counts h).counted

/-- The packed tables of a record, in their order. -/
def packTables (b : FatRecord) (cache : CacheNumEntries) : Bytes :=
  tableBytes packEntry (b.ptx.getD []) cache.nptxs ++
    (tableBytes packEntry (b.cubin.getD []) cache.ncubs ++
      (tableBytes packDebugEntry b.debug cache.ndebs ++
        (tableBytes elfEntryBytes b.elf cache.nelves ++
          (tableBytes (fun e => lPackStr e.name) (b.exported.getD []) cache.nexps ++
            tableBytes (fun e => lPackStr e.name) (b.imported.getD []) cache.nimps))))

/-- An elf entry that is packed has been read in full. -/
theorem packElfEntry_ok {e : FatElfEntry} {bs : Bytes} (h : packElfEntry e = .ok bs) :
    bs = elfEntryBytes e ∧ e.size.toNat ≤ (e.elf.getD []).length := by
  unfold packElfEntry at h
  split at h
  · next hs =>
    cases h
    exact ⟨rfl, hs⟩
  · cases h

/-- What a packing that succeeded has written, and what it has checked. -/
theorem packFatBinary_eq {b : FatCudaBinary} {cache : CacheNumEntries} {pkt : Bytes}
    (hc : Counted b.toFatRecord cache) (h : packFatBinary b cache = .ok pkt) :
    pkt = packNumbers b.toFatRecord ++ (packStrings b.toFatRecord ++
        (packTables b.toFatRecord cache ++ encodeLE 4 cache.ndeps)) ∧
      (∀ e ∈ b.elf.take cache.nelves, e.size.toNat ≤ (e.elf.getD []).length) ∧
      (cache.ndeps = 0 ∨ b.dependends = []) := by
  obtain ⟨record, hrec, h⟩ := except_bind_eq_ok.mp h
  obtain ⟨deps, hdeps, h⟩ := except_bind_eq_ok.mp h
  cases h
  obtain ⟨_, hptx, hrec⟩ := except_bind_eq_ok.mp hrec
  obtain ⟨_, hcubin, hrec⟩ := except_bind_eq_ok.mp hrec
  obtain ⟨_, hdebug, hrec⟩ := except_bind_eq_ok.mp hrec
  obtain ⟨_, helf, hrec⟩ := except_bind_eq_ok.mp hrec
  obtain ⟨_, hexported, hrec⟩ := except_bind_eq_ok.mp hrec
  obtain ⟨_, himported, hrec⟩ := except_bind_eq_ok.mp hrec
  cases hrec
  obtain rfl := packArray_eq hc.ptx hptx
  obtain rfl := packArray_eq hc.cubin hcubin
  obtain ⟨rfl, _⟩ := packChain_eq (fun _ _ h => (Except.ok.inj h).symm) hc.debug hdebug
  obtain ⟨rfl, hread⟩ := packChain_eq (fun _ _ h => (packElfEntry_ok h).1) hc.elf helf
  obtain rfl := packArray_eq hc.exported hexported
  obtain rfl := packArray_eq hc.imported himported
  unfold lPackDep at hdeps
  split at hdeps
  · next hz =>
    cases hdeps
    refine ⟨?_, fun e he => (packElfEntry_ok (hread e he)).2, ?_⟩
    · simp only [packTables, List.append_assoc]
    · simpa using hz
  · cases hdeps

/-- The decoders of a fat binary take what its encoders wrote, and report the length of the imported
symbols twice. -/
theorem spends_unpackFatBinary {b : FatRecord} {cache : CacheNumEntries} (hc : Counted b cache)
    (helf : ∀ e ∈ b.elf.take cache.nelves, e.size.toNat ≤ (e.elf.getD []).length)
    (hs : (packStrings b).length < 2 ^ 31) (ht : (packTables b cache).length < 2 ^ 31) :
    Spends unpackFatBinary
      (packNumbers b ++ (packStrings b ++ (packTables b cache ++ encodeLE 4 0)))
      (b.decoded cache)
      ((packNumbers b).length + ((packStrings b).length + ((packTables b cache).length +
        (tableBytes (fun e => lPackStr e.name) (b.imported.getD []) cache.nimps).length))) := by
  simp only [packStrings, packTables, List.length_append] at hs ht
  have hkey : Reads lUnpackStr (lPackStr b.key) _ := reads_lUnpackStr (by omega)
  have hident : Reads lUnpackStr (lPackStr b.ident) _ := reads_lUnpackStr (by omega)
  have husage : Reads lUnpackStr (lPackStr b.usageMode) _ := reads_lUnpackStr (by omega)
  have hptx := reads_lUnpackPtx hc.ptx (by omega)
  have hcubin := reads_lUnpackPtx hc.cubin (by omega)
  have hdebug := reads_lUnpackDebug hc.debug (by omega)
  have hself := reads_lUnpackElf hc.elf helf (by omega)
  have hexported := reads_lUnpackSymbol hc.exported (by omega)
  have himported := (reads_lUnpackSymbol hc.imported (by omega)).withOffset
  simp only [packNumbers, packStrings, packTables, List.append_assoc, List.length_append,
    Nat.add_assoc]
  refine (reads_u64 _).bind_spends ((reads_u64 _).bind_spends ((reads_u64 _).bind_spends ?_))
  refine (reads_u32 _).bind_spends ((reads_u32 _).bind_spends ?_)
  refine hkey.bind_spends (hident.bind_spends (husage.bind_spends ?_))
  refine (reads_u64 _).bind_spends (hptx.bind_spends (hcubin.bind_spends ?_))
  refine hdebug.bind_spends (hself.bind_spends (hexported.bind_spends ?_))
  exact himported.bind_spends ((spends_lUnpackDep _).map _)

/-! ## A binary rebuilt -/

/-- Entries of ptx or of cubin with the same strings. -/
def SameEntry (e e' : FatEntry) : Prop :=
  Same e.gpuProfileName e'.gpuProfileName ∧ Same e.code e'.code

/-- Debug entries with the same strings and size. -/
def SameDebugEntry (e e' : FatDebugEntry) : Prop :=
  Same e.gpuProfileName e'.gpuProfileName ∧ Same e.debug e'.debug ∧ e'.size = e.size

/-- Elf entries with the same name and size; the second has the `size` bytes of the first. -/
def SameElfEntry (e e' : FatElfEntry) : Prop :=
  Same e.gpuProfileName e'.gpuProfileName ∧ e'.size = e.size ∧
    e'.elf.getD [] = (e.elf.getD []).take e.size.toNat

/-- Symbols with the same name. -/
def SameSymbol (e e' : FatSymbol) : Prop := Same e.name e'.name

/-- The second array is the first `n` entries of the first one and a terminator. -/
def ArrayRebuilt {α : Type} (same : α → α → Prop) (null : α) (n : Nat) (p p' : Option (List α)) :
    Prop :=
  ∃ entries, p' = some (entries ++ [null]) ∧ entries.length = n ∧
    List.Forall₂ same ((p.getD []).take n) entries

/-- The second chain is the first `n` entries of the first one and a terminator. -/
def ChainRebuilt {α : Type} (same : α → α → Prop) (null : α) (n : Nat) (p p' : List α) : Prop :=
  ∃ entries, p' = entries ++ [null] ∧ entries.length = n ∧ List.Forall₂ same (p.take n) entries

/-- The second binary is the first one, with the cached numbers of entries in its tables. -/
structure Rebuilt (cache : CacheNumEntries) (b u : FatCudaBinary) : Prop where
  numbers : u.magic = b.magic ∧ u.version = b.version ∧ u.gpuInfoVersion = b.gpuInfoVersion ∧
    u.flags = b.flags ∧ u.characteristic = b.characteristic
  debugInfo : u.debugInfo = b.debugInfo
  strings : Same b.key u.key ∧ Same b.ident u.ident ∧ Same b.usageMode u.usageMode
  ptx : ArrayRebuilt SameEntry .null cache.nptxs b.ptx u.ptx
  cubin : ArrayRebuilt SameEntry .null cache.ncubs b.cubin u.cubin
  debug : cache.ndebs = 0 ∧ u.debug = [] ∨
    ChainRebuilt SameDebugEntry .null cache.ndebs b.debug u.debug
  elf : cache.nelves = 0 ∧ u.elf = [] ∨
    ChainRebuilt SameElfEntry .null cache.nelves b.elf u.elf
  exported : cache.nexps = 0 ∧ u.exported = none ∨
    ArrayRebuilt SameSymbol .null cache.nexps b.exported u.exported
  imported : cache.nimps = 0 ∧ u.imported = none ∨
    ArrayRebuilt SameSymbol .null cache.nimps b.imported u.imported
  dependends : u.dependends = []

/-- An entry and what is decoded of it agree up to NULL and the empty string. -/
theorem sameEntry_decoded (e : FatEntry) : SameEntry e e.decoded :=
  ⟨same_unpacked _, same_unpacked _⟩

theorem sameDebugEntry_decoded (e : FatDebugEntry) : SameDebugEntry e e.decoded :=
  ⟨same_unpacked _, same_unpacked _, rfl⟩

theorem sameElfEntry_decoded (e : FatElfEntry) : SameElfEntry e e.decoded := by
  refine ⟨same_unpacked _, rfl, ?_⟩
  unfold FatElfEntry.decoded
  split
  · next hz =>
    rw [hz]
    rfl
  · rfl

theorem forall₂_map {α : Type} {same : α → α → Prop} {decode : α → α}
    (h : ∀ a, same a (decode a)) (l : List α) : List.Forall₂ same l (l.map decode) := by
  induction l with
  | nil => exact .nil
  | cons a l ih => exact .cons (h a) ih

/-- An array is rebuilt if its entries are. -/
theorem arrayRebuilt_map {α : Type} {same : α → α → Prop} {decode : α → α} {null : α} {n : Nat}
    {p : Option (List α)} (h : ∀ a, same a (decode a)) (hn : ((p.getD []).take n).length = n) :
    ArrayRebuilt same null n p (some (((p.getD []).take n).map decode ++ [null])) :=
  ⟨_, rfl, (List.length_map _).trans hn, forall₂_map h _⟩

/-- So is a chain. -/
theorem chainRebuilt_map {α : Type} {same : α → α → Prop} {decode : α → α} {null : α} {n : Nat}
    {p : List α} (h : ∀ a, same a (decode a)) (hn : (p.take n).length = n) :
    n = 0 ∧ chainOf ((p.take n).map decode) null = [] ∨
      ChainRebuilt same null n p (chainOf ((p.take n).map decode) null) := by
  unfold chainOf
  rw [List.length_map, hn]
  split
  · next hz => exact .inl ⟨hz, rfl⟩
  · exact .inr ⟨_, rfl, (List.length_map _).trans hn, forall₂_map h _⟩

/-- The symbols are rebuilt, or there are none and the pointer is NULL. -/
theorem symbolsRebuilt {n : Nat} {p : Option (List FatSymbol)}
    (hn : ((p.getD []).take n).length = n) (u : Option (List FatSymbol))
    (hu : u = if n = 0 then none
      else some (((p.getD []).take n).map FatSymbol.decoded ++ [.null])) :
    n = 0 ∧ u = none ∨ ArrayRebuilt SameSymbol .null n p u := by
  subst hu
  split
  · next hz => exact .inl ⟨hz, rfl⟩
  · exact .inr (arrayRebuilt_map (fun e => same_unpacked e.name) hn)

/-- All tables together. -/
theorem rebuilt_decoded {b : FatCudaBinary} {cache : CacheNumEntries}
    (hc : Counted b.toFatRecord cache) : Rebuilt cache b (b.toFatRecord.decoded cache) where
  numbers := ⟨rfl, rfl, rfl, rfl, rfl⟩
  debugInfo := rfl
  strings := ⟨same_unpacked _, same_unpacked _, same_unpacked _⟩
  ptx := arrayRebuilt_map sameEntry_decoded hc.ptx
  cubin := arrayRebuilt_map sameEntry_decoded hc.cubin
  debug := chainRebuilt_map sameDebugEntry_decoded hc.debug
  elf := chainRebuilt_map sameElfEntry_decoded hc.elf
  exported := symbolsRebuilt hc.exported _ rfl
  imported := symbolsRebuilt hc.imported _ rfl
  dependends := rfl

/-- Only a binary without dependends is packed. -/
theorem ndeps_eq_zero {b : FatCudaBinary} {size : Nat} {cache : CacheNumEntries}
    (h : getFatRecPktSize b = .ok (size, cache))
    (hdeps : cache.ndeps = 0 ∨ b.dependends = []) : cache.ndeps = 0 := by
  rcases hdeps with hz | hnil
  · exact hz
  · obtain ⟨⟨_, counts⟩, _, h⟩ := except_bind_eq_ok.mp h
    obtain ⟨⟨_, n⟩, hn, h⟩ := except_bind_eq_ok.mp h
    cases h
    rw [hnil] at hn
    cases hn
    rfl

/-- What `unpackFatBinary` makes of the packet of a fat binary, and what it returns. -/
theorem spends_packed {b : FatCudaBinary} {size : Nat} {cache : CacheNumEntries}
    (hsize : getFatRecPktSize b = .ok (size, cache)) {pkt : Bytes}
    (hpack : packFatBinary b cache = .ok pkt) (hlen : pkt.length < 2 ^ 31) :
    ∃ n, Spends unpackFatBinary pkt (b.toFatRecord.decoded cache) n ∧
      n + 4 = pkt.length +
        (tableBytes (fun e => lPackStr e.name) (b.imported.getD []) cache.nimps).length := by
  have hc := getFatRecPktSize_counted hsize
  obtain ⟨rfl, helf, hdeps⟩ := packFatBinary_eq hc hpack
  simp only [List.length_append] at hlen
  rw [ndeps_eq_zero hsize hdeps]
  refine ⟨_, spends_unpackFatBinary hc helf (by omega) (by omega), ?_⟩
  simp only [List.length_append, encodeLE_length]
  omega

/-- What `unpackFatBinary` makes of the packet of a fat binary, whatever follows it. -/
theorem unpackFatBinary_packed {b : FatCudaBinary} {size : Nat} {cache : CacheNumEntries}
    (hsize : getFatRecPktSize b = .ok (size, cache)) {pkt : Bytes}
    (hpack : packFatBinary b cache = .ok pkt) (hlen : pkt.length < 2 ^ 31) :
    Yields unpackFatBinary pkt (b.toFatRecord.decoded cache) := by
  obtain ⟨n, hspends, -⟩ := spends_packed hsize hpack hlen
  exact hspends.yields

/-- A fat binary that was counted and packed is rebuilt from its packet, whatever follows it. What
was counted are the entries before the terminators, so the tables are rebuilt up to these.

The rest of the packet is open, since the decoder is not told where the binary ends. -/
theorem fat_binary_round_trip {b : FatCudaBinary} {size : Nat} {cache : CacheNumEntries}
    (hsize : getFatRecPktSize b = .ok (size, cache)) {pkt : Bytes}
    (hpack : packFatBinary b cache = .ok pkt) (hlen : pkt.length < 2 ^ 31) (rest : Bytes) :
    BeforeTerminators b.toFatRecord cache ∧
      ∃ u k, unpackFatBinary (pkt ++ rest) = .ok (u, k) ∧ Rebuilt cache b u := by
  obtain ⟨k, hk⟩ := unpackFatBinary_packed hsize hpack hlen rest
  exact ⟨(getFatRecPktSize_counts hsize).beforeTerminators, _, k, hk,
    rebuilt_decoded (getFatRecPktSize_counted hsize)⟩

/-- A binary with an entry in every table, an empty string and a NULL one. -/
def sampleBinary : FatCudaBinary :=
  { magic := 10, version := 20, gpuInfoVersion := 30, flags := 38, characteristic := 2
    key := some ⟨[121], by decide⟩, ident := some .empty, usageMode := none, debugInfo := 99
    ptx := some [⟨some ⟨[112], by decide⟩, some ⟨[120], by decide⟩⟩, .null]
    cubin := some [⟨some ⟨[112], by decide⟩, some .empty⟩, .null]
    debug := [⟨some ⟨[112], by decide⟩, some ⟨[100], by decide⟩, 1⟩, .null]
    elf := [⟨some ⟨[112], by decide⟩, some [0, 1], 2⟩, .null]
    exported := some [⟨some ⟨[115], by decide⟩⟩, .null], imported := none, dependends := [] }

set_option maxRecDepth 4000 in
/-- A binary with an entry in each kind of table, and one byte behind its packet. -/
theorem fat_binary_round_trip_sample :
    ∃ size cache pkt, getFatRecPktSize sampleBinary = .ok (size, cache) ∧
      packFatBinary sampleBinary cache = .ok pkt ∧ pkt.length < 2 ^ 31 ∧
      BeforeTerminators sampleBinary.toFatRecord cache ∧
        ∃ u k, unpackFatBinary (pkt ++ [7]) = .ok (u, k) ∧ Rebuilt cache sampleBinary u :=
  ⟨_, _, _, rfl, rfl, by decide, fat_binary_round_trip rfl rfl (by decide) [7]⟩

end GpuVirtmem.Interposer
