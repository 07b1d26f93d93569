import GpuVirtmem.Interposer.FatRoundTrip

/-!
# What the decoders of a fat binary report to have read (`interposer/libciutils.c`)

`unpackFatBinary` goes through the packet by what its decoders write to one variable `offset`. All
of them write there what their encoder wrote to the packet; only `l_unpackDep` leaves it without
dependends, and then the offset of the imported symbols is taken twice. That is the right one
exactly if there are none.

The packet itself is in order, and so is what is decoded from it (`FatRoundTrip`); it is the number
of bytes that the decoder claims to have read which may be wrong.
-/

namespace GpuVirtmem.Interposer

open Lib Lib.Reader

/-- The decoders report as many bytes as the encoders wrote; `l_unpackDep` is called with the offset
of the imported symbols. -/
structure LengthsAgree (b : FatCudaBinary) (cache : CacheNumEntries) (pkt : Bytes) : Prop where
  binary : Reports unpackFatBinary pkt
  key : Reports lUnpackStr (lPackStr b.key)
  ident : Reports lUnpackStr (lPackStr b.ident)
  usageMode : Reports lUnpackStr (lPackStr b.usageMode)
  ptx : ∀ bs, lPackPtx b.ptx cache.nptxs = .ok bs → Reports lUnpackPtx bs
  cubin : ∀ bs, lPackCubin b.cubin cache.ncubs = .ok bs → Reports lUnpackCubin bs
  debug : ∀ bs, lPackDebug b.debug cache.ndebs = .ok bs → Reports lUnpackDebug bs
  elf : ∀ bs, lPackElf b.elf cache.nelves = .ok bs → Reports lUnpackElf bs
  exported : ∀ bs, lPackSymbol b.exported cache.nexps = .ok bs → Reports lUnpackSymbol bs
  imported : ∀ bs, lPackSymbol b.imported cache.nimps = .ok bs → Reports lUnpackSymbol bs
  dependends : ∀ symbols bs, lPackSymbol b.imported cache.nimps = .ok symbols →
    lPackDep b.dependends cache.ndeps = .ok bs → Reports (lUnpackDep symbols.length) bs

/-- The array is NULL, or its first entry ends it. -/
def NoSymbols (p : Option (List FatSymbol)) : Prop :=
  ∀ table first, p = some table → table.head? = some first → first.name = none

/-- There are no symbols where none are counted. -/
theorem noSymbols_iff {p : Option (List FatSymbol)} {m n : Nat}
    (h : lGetSizeCudaFatSymbolEntry p = .ok (m, n)) : NoSymbols p ↔ n = 0 := by
  obtain ⟨_, hcount⟩ := getSizeArray_of_symbols h
  rw [(getSizeArray_entries hcount).2, List.length_eq_zero_iff]
  cases p with
  | none => exact ⟨fun _ => rfl, fun _ _ _ hp => by cases hp⟩
  | some table =>
    cases table with
    | nil => exact ⟨fun _ => rfl, fun _ _ _ hp hfirst => by cases hp; cases hfirst⟩
    | cons e table =>
      have hnone : NoSymbols (some (e :: table)) ↔ e.name = none := by
        constructor
        · intro h
          exact h _ e rfl rfl
        · intro h _ first hp hfirst
          cases hp
          cases hfirst
          exact h
      rw [hnone, Option.getD_some, List.takeWhile_cons, FatSymbol.more]
      cases e.name with
      | none => simp
      | some name => simp

/-- The packed table of imported symbols is a number alone if there are none. -/
theorem symbols_length_iff {source : List FatSymbol} {n : Nat} (hn : (source.take n).length = n) :
    (tableBytes (fun e => lPackStr e.name) source n).length = 4 ↔ n = 0 := by
  rw [tableBytes, List.length_append, encodeLE_length]
  constructor
  · intro hlen
    have hle : (source.take n).length ≤ ((source.take n).flatMap fun e => lPackStr e.name).length :=
      length_le_of_flatMap fun e => lPackStr_pos e.name
    omega
  · rintro rfl
    rfl

/-- Only the decoder of dependends may report something else than its encoder wrote. -/
theorem lengthsAgree_of_zero {b : FatCudaBinary} {size : Nat} {cache : CacheNumEntries}
    (hsize : getFatRecPktSize b = .ok (size, cache)) {pkt : Bytes}
    (hpack : packFatBinary b cache = .ok pkt) (hlen : pkt.length < 2 ^ 31)
    (hzero : cache.nimps = 0) : LengthsAgree b cache pkt := by
  have hc := getFatRecPktSize_counted hsize
  obtain ⟨n, hspends, hn⟩ := spends_packed hsize hpack hlen
  have hsymbols := (symbols_length_iff hc.imported).mpr hzero
  obtain ⟨rfl, helf, hdeps⟩ := packFatBinary_eq hc hpack
  have hndeps := ndeps_eq_zero hsize hdeps
  have hall := hlen
  simp only [packStrings, packTables, List.length_append] at hall
  exact {
    binary := hspends.reports_iff.mpr (by omega)
    key := (reads_lUnpackStr (by omega)).reports
    ident := (reads_lUnpackStr (by omega)).reports
    usageMode := (reads_lUnpackStr (by omega)).reports
    ptx := by
      intro bs h
      obtain rfl := packArray_eq hc.ptx h
      exact (reads_lUnpackPtx hc.ptx (by omega)).reports
    cubin := by
      intro bs h
      obtain rfl := packArray_eq hc.cubin h
      exact (reads_lUnpackPtx hc.cubin (by omega)).reports
    debug := by
      intro bs h
      obtain ⟨rfl, -⟩ := packChain_eq (fun _ _ h => (Except.ok.inj h).symm) hc.debug h
      exact (reads_lUnpackDebug hc.debug (by omega)).reports
    elf := by
      intro bs h
      obtain ⟨rfl, -⟩ := packChain_eq (fun _ _ h => (packElfEntry_ok h).1) hc.elf h
      exact (reads_lUnpackElf hc.elf helf (by omega)).reports
    exported := by
      intro bs h
      obtain rfl := packArray_eq hc.exported h
      exact (reads_lUnpackSymbol hc.exported (by omega)).reports
    imported := by
      intro bs h
      obtain rfl := packArray_eq hc.imported h
      exact (reads_lUnpackSymbol hc.imported (by omega)).reports
    dependends := by
      intro symbols bs hsym h
      obtain rfl := packArray_eq hc.imported hsym
      rw [lPackDep, if_pos (.inl hndeps)] at h
      cases h
      rw [hndeps]
      refine (spends_lUnpackDep _).reports_iff.mpr ?_
      rw [hsymbols, encodeLE_length] }

/-- If all of them agree, the packed symbols have the length of a number alone. -/
theorem zero_of_lengthsAgree {b : FatCudaBinary} {size : Nat} {cache : CacheNumEntries}
    (hsize : getFatRecPktSize b = .ok (size, cache)) {pkt : Bytes}
    (hpack : packFatBinary b cache = .ok pkt) (hlen : pkt.length < 2 ^ 31)
    (hagree : LengthsAgree b cache pkt) : cache.nimps = 0 := by
  obtain ⟨n, hspends, hn⟩ := spends_packed hsize hpack hlen
  have hbinary := hspends.reports_iff.mp hagree.binary
  have hsymbols := symbols_length_iff (getFatRecPktSize_counted hsize).imported
  exact hsymbols.mp (by omega)

/-- The lengths agree on just the binaries without imported symbols.

Only `l_unpackDep` can report a wrong offset, and it is right by accident where the offset it
repeats has not moved. -/
theorem lengths_agree_iff {b : FatCudaBinary} {size : Nat} {cache : CacheNumEntries}
    (hsize : getFatRecPktSize b = .ok (size, cache)) {pkt : Bytes}
    (hpack : packFatBinary b cache = .ok pkt) (hlen : pkt.length < 2 ^ 31) :
    LengthsAgree b cache pkt ↔ NoSymbols b.imported := by
  obtain ⟨m, hcount⟩ := (getFatRecPktSize_counts hsize).imported
  rw [noSymbols_iff hcount]
  exact ⟨zero_of_lengthsAgree hsize hpack hlen, lengthsAgree_of_zero hsize hpack hlen⟩

set_option maxRecDepth 4000 in
/-- The sample has no imported symbols. -/
theorem lengths_agree_sample :
    ∃ size cache pkt, getFatRecPktSize sampleBinary = .ok (size, cache) ∧
      packFatBinary sampleBinary cache = .ok pkt ∧ pkt.length < 2 ^ 31 ∧
      LengthsAgree sampleBinary cache pkt := by
  have hnone : NoSymbols sampleBinary.imported := by
    intro table first htable
    cases htable
  exact ⟨_, _, _, rfl, rfl, by decide, (lengths_agree_iff rfl rfl (by decide)).mpr hnone⟩

/-- A binary that imports one symbol. -/
def importingBinary : FatCudaBinary :=
  { magic := 10, version := 20, gpuInfoVersion := 30, flags := 38, characteristic := 2
    key := none, ident := none, usageMode := none, debugInfo := 0
    ptx := none, cubin := none, debug := [], elf := [], exported := none
    imported := some [⟨CString.read [115, 0]⟩, .null], dependends := [] }

set_option maxRecDepth 4000 in
/-- The bytes of the imported symbols are counted twice, once for their table and once for that of
the dependends. -/
theorem imports_counted_twice :
    ∃ size cache pkt u, getFatRecPktSize importingBinary = .ok (size, cache) ∧
      packFatBinary importingBinary cache = .ok pkt ∧ pkt.length = 85 ∧
      unpackFatBinary pkt = .ok (u, 90) ∧ ¬LengthsAgree importingBinary cache pkt := by
  refine ⟨_, _, _, _, rfl, rfl, by decide, rfl, ?_⟩
  intro hagree
  cases zero_of_lengthsAgree rfl rfl (by decide) hagree

end GpuVirtmem.Interposer
