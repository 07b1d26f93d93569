import GpuVirtmem.Pager.Owners
import GpuVirtmem.Pager.Worker

/-!
# The requests that the pager serves (`l2scheduler/pager.c`, `virtmem/cuda_vmem.c`)

`gvirt_page_in` sends a pointer to a list of rows, and the listener makes a copy of the list for the
worker. The block of the copy has the size of a `size_t`, and `memcpy` is told the length of the
list where it takes a number of bytes, so that all but the first quarter is what the block held
before.

Two slips come together here. The block that is allocated has the size of a `size_t`, since `sizeof`
is taken of a product; and what is copied into it is a quarter of the list, since the number of rows
is given where a number of bytes is meant. A list is thus served only where the rest of it happens
to be in the block already (`Fits`).
-/

namespace GpuVirtmem.Pager

open Lib Lib.Reader VirtMem Backend

/-- An array of `int`. -/
def intArray (rows : List UInt32) : Bytes := rows.flatMap fun i => encodeLE 4 i.toNat

/-- A call of `gvirt_page_in`: the process, and its list with the address of it. -/
structure PageinRequest where
  pid : UInt32
  reqarr : UInt64
  rows : List UInt32
  short : rows.length ≤ maxMemory

/-- The structure that `gvirt_page_in` sends. -/
def PageinRequest.pd (r : PageinRequest) : PagerData :=
  ⟨r.reqarr, .ofNat r.rows.length, r.pid⟩

/-- An element of `PagerData`, with the block of its `reqarr`; there is none where `memcpy` has left
the block. -/
structure PagerEntry where
  block : Option Bytes
  len : UInt32
  pid : UInt32

/-- `sizeof(pd.len * sizeof(int))`, which is the size of a `size_t` whatever `pd.len` is. -/
def reqarrSize : Nat := 8

/-- What `pager_listener` makes of a structure, with the block that it allocates and what the
pointer leads to. -/
def PagerData.store (pd : PagerData) (fresh source : Bytes) : PagerEntry where
  block := memcpy fresh source (toSizeT pd.len.toInt32.toInt)
  len := pd.len
  pid := pd.pid

/-- The elements of `reqarr` that `pager_worker` reads; there is none outside the block. -/
def PagerEntry.rows (e : PagerEntry) : Option (List UInt32) :=
  e.block.bind fun bs => (times e.len.toInt32.toInt.toNat u32 bs).toOption.map Prod.fst

/-- Step 1 of `pager_worker` on the element. -/
def PagerEntry.memReq (e : PagerEntry) (table : List MemMap) : Option Nat :=
  e.rows.bind fun rows => Pager.memReq table (rows.map UInt32.toNat)

/-- The element holds what was requested, so that the requirement is computed of these rows. -/
structure Serves (r : PageinRequest) (e : PagerEntry) : Prop where
  pid : e.pid = r.pid
  len : e.len.toInt32.toInt = r.rows.length
  rows : e.rows = some r.rows
  requirement : ∀ table, e.memReq table = Pager.memReq table (r.rows.map UInt32.toNat)
  within : e.block.isSome = true

/-- Behind the bytes that are copied the block already holds the rest of the list. -/
def Fits (rows : List UInt32) (fresh : Bytes) : Prop :=
  (intArray rows).drop rows.length <+: fresh.drop rows.length

/-! ## The listener -/

/-- The FIFO, the local structure of `pager_listener`, the elements of `PagerData` below `pindex`,
and the requests that have been sent. -/
structure Listener where
  fifo : Bytes
  pd : Bytes
  entries : List PagerEntry
  sent : List PageinRequest

/-- A process sends a request, or the listener reads one and allocates a block for it. -/
inductive ListenerEvent
  | request (r : PageinRequest)
  | serve (fresh : { bs : Bytes // bs.length = reqarrSize })

/-- A step, where `memory k` is what the listener finds at an address when it serves the request
number `k`: it can read the list of that request there. -/
inductive Listener.Step (memory : Nat → UInt64 → Bytes) (s : Listener) :
    ListenerEvent → Listener → Prop
  | request {r : PageinRequest} (hmem : memory s.sent.length r.reqarr = intArray r.rows) :
      Step memory s (.request r)
        { s with fifo := s.fifo ++ r.pd.image, sent := s.sent ++ [r] }
  | serve {fresh : { bs : Bytes // bs.length = reqarrSize }} {pd : PagerData} {n : Nat}
      (hfifo : s.fifo ≠ []) (hroom : s.entries.length < maxMemory)
      (hpd : pagerData (Handshake.readInto s.pd s.fifo) = .ok (pd, n)) :
      Step memory s (.serve fresh)
        { s with
          fifo := s.fifo.drop s.pd.length
          pd := Handshake.readInto s.pd s.fifo
          entries := s.entries ++ [pd.store fresh (memory s.entries.length pd.reqarr)] }

/-- The listener has opened the FIFO, and `pindex` is 0. -/
def Listener.start (pd : { bs : Bytes // bs.length = 16 }) : Listener :=
  { fifo := [], pd := pd, entries := [], sent := [] }

/-- Every element of `PagerData` is the copy of the request of its number. -/
def Listener.Faithful (s : Listener) : Prop :=
  s.entries.length ≤ s.sent.length ∧
    ∀ (k : Nat) (r : PageinRequest) (e : PagerEntry),
      s.sent[k]? = some r → s.entries[k]? = some e → Serves r e

/-- The block that is allocated for a request fits it. -/
def Listener.FreshFits (s : Listener) (e : ListenerEvent) : Prop :=
  ∀ (fresh : { bs : Bytes // bs.length = reqarrSize }) (r : PageinRequest), e = .serve fresh →
    s.sent[s.entries.length]? = some r → Fits r.rows fresh

/-- What every step keeps: the requests that have not been served are in the FIFO. -/
structure Listener.Kept (memory : Nat → UInt64 → Bytes) (s : Listener) : Prop where
  buffer : s.pd.length = 16
  queued : s.fifo = (s.sent.drop s.entries.length).flatMap fun r => r.pd.image
  readable : ∀ (k : Nat) (r : PageinRequest), s.sent[k]? = some r →
    memory k r.reqarr = intArray r.rows
  faithful : s.Faithful

/-! ## Arrays of `int` -/

section

variable {rows : List UInt32} {bs fresh : Bytes} {n m : Nat} {r : PageinRequest}

/-- Four bytes for each row. -/
theorem intArray_length (rows : List UInt32) : (intArray rows).length = 4 * rows.length := by
  induction rows with
  | nil => rfl
  | cons i rows ih =>
    rw [intArray] at ih
    rw [intArray, List.flatMap_cons, List.length_append, ih, encodeLE_length, List.length_cons]
    omega

/-- The array is read back as it was written. -/
theorem reads_intArray (rows : List UInt32) :
    Reads (times rows.length u32) (intArray rows) rows := by
  have hreads := @reads_times UInt32 UInt32 u32 _ id rows fun i _ => reads_u32 i
  rwa [List.map_id] at hreads

/-- The array is read from a block exactly if the block begins with it. -/
theorem times_u32_iff : ((times rows.length u32 bs).toOption.map Prod.fst = some rows) ↔
    intArray rows <+: bs := by
  constructor
  · intro h
    obtain ⟨⟨l, n⟩, hl, rfl⟩ := Option.map_eq_some_iff.mp h
    cases hread : times l.length u32 bs with
    | error f =>
      rw [hread] at hl
      cases hl
    | ok a =>
      rw [hread] at hl
      cases hl
      exact (only_u32.times hread).2
  · rintro ⟨rest, rfl⟩
    rw [reads_intArray rows rest]
    rfl

/-- A list of rows of the table has a length that fits an `int`. -/
theorem toInt_len (h : n ≤ maxMemory) : (UInt32.ofNat n).toInt32.toInt = n := by
  have hmax : n ≤ 10000 := h
  have hnat : (UInt32.ofNat n).toNat = n := UInt32.toNat_ofNat_of_lt (hmax.trans_lt (by decide))
  have hbits : (UInt32.ofNat n).toInt32.toInt = (UInt32.ofNat n).toBitVec.toInt := rfl
  rw [hbits, BitVec.toInt_eq_toNat_of_lt, UInt32.toNat_toBitVec, hnat]
  rw [UInt32.toNat_toBitVec, hnat]
  omega

/-- What has been copied over a block begins with all of the source, if the part that was not copied
was there before. -/
theorem prefix_overwrite_iff {dst src : Bytes} :
    src <+: overwrite dst src n ↔ src.drop n <+: dst.drop n := by
  have hsplit := @List.prefix_append_right_inj _ (src.drop n) (dst.drop n) (src.take n)
  rwa [List.take_append_drop] at hsplit

/-- A block is long enough for two rows at most. -/
theorem Fits.rows_le (h : Fits rows fresh) (hlen : fresh.length = reqarrSize) :
    rows.length ≤ 2 := by
  have hle := List.IsPrefix.length_le h
  have hsize : reqarrSize = 8 := rfl
  rw [List.length_drop, List.length_drop, intArray_length, hlen] at hle
  omega

/-- An element serves the request exactly if its block fits the list. -/
theorem serves_iff {fresh : Bytes} (hlen : fresh.length = reqarrSize) :
    Serves r (r.pd.store fresh (intArray r.rows)) ↔ Fits r.rows fresh := by
  have hlenInt : r.pd.len.toInt32.toInt = r.rows.length := toInt_len r.short
  have hbytes : toSizeT r.pd.len.toInt32.toInt = r.rows.length := by
    have hmax : r.rows.length ≤ 10000 := r.short
    rw [hlenInt, toSizeT_small (by omega)]
  have hsource : r.rows.length ≤ (intArray r.rows).length := by
    rw [intArray_length]
    omega
  constructor
  · intro hserves
    obtain ⟨bs, hblock, hrows⟩ := Option.bind_eq_some_iff.mp hserves.rows
    obtain ⟨-, -, rfl⟩ := memcpy_eq_some hblock
    have hcount : (r.pd.store fresh (intArray r.rows)).len.toInt32.toInt.toNat = r.rows.length := by
      rw [hserves.len, Int.toNat_natCast]
    rw [hcount, times_u32_iff, hbytes, prefix_overwrite_iff] at hrows
    exact hrows
  · intro hfits
    have hle : r.rows.length ≤ fresh.length := by
      rw [hlen]
      exact (hfits.rows_le hlen).trans (by decide)
    have hblock : (r.pd.store fresh (intArray r.rows)).block =
        some (overwrite fresh (intArray r.rows) r.rows.length) := by
      rw [PagerData.store, hbytes, memcpy_of_le hsource hle]
    have hrows : (r.pd.store fresh (intArray r.rows)).rows = some r.rows := by
      have hcount : (r.pd.store fresh (intArray r.rows)).len.toInt32.toInt.toNat =
          r.rows.length := by
        rw [PagerData.store, hlenInt, Int.toNat_natCast]
      rw [PagerEntry.rows, hblock, Option.bind_some, hcount, times_u32_iff, prefix_overwrite_iff]
      exact hfits
    constructor
    · rfl
    · exact hlenInt
    · exact hrows
    · intro table
      rw [PagerEntry.memReq, hrows, Option.bind_some]
    · rw [hblock]
      rfl

end

/-! ## Runs -/

namespace Listener

section

variable {memory : Nat → UInt64 → Bytes} {s t u : Listener} {e : ListenerEvent}
  {es : List ListenerEvent} {buffer : { bs : Bytes // bs.length = 16 }} {r : PageinRequest}

/-- A step is fixed by its event. -/
theorem Step.det (ht : Step memory s e t) (hu : Step memory s e u) : t = u := by
  cases ht with
  | request =>
    cases hu
    rfl
  | serve _ _ hpd =>
    cases hu with
    | serve _ _ hpd' =>
      cases hpd.symm.trans hpd'
      rfl

/-- Nothing has been sent. -/
theorem start_kept : (start buffer).Kept memory where
  buffer := buffer.property
  queued := rfl
  readable := fun _ _ h => by cases h
  faithful := ⟨Nat.le_refl _, fun _ _ _ h => by cases h⟩

/-- The first of the structures in the FIFO is the one that is read. -/
theorem Kept.next (h : s.Kept memory) (hfifo : s.fifo ≠ []) :
    ∃ r, s.sent[s.entries.length]? = some r ∧ Handshake.readInto s.pd s.fifo = r.pd.image ∧
      s.fifo.drop s.pd.length =
        (s.sent.drop (s.entries.length + 1)).flatMap fun r => r.pd.image := by
  have hlt : s.entries.length < s.sent.length := by
    by_contra hge
    rw [h.queued, List.drop_eq_nil_of_le (Nat.not_lt.mp hge)] at hfifo
    exact hfifo rfl
  have hqueue : s.fifo = s.sent[s.entries.length].pd.image ++
      (s.sent.drop (s.entries.length + 1)).flatMap fun r => r.pd.image := by
    rw [h.queued, List.drop_eq_getElem_cons hlt, List.flatMap_cons]
  have himage : s.sent[s.entries.length].pd.image.length = s.pd.length := by
    rw [PagerData.image_length, h.buffer]
  refine ⟨s.sent[s.entries.length], List.getElem?_eq_getElem hlt, ?_, ?_⟩
  · have hmin : min s.pd.length s.fifo.length = s.pd.length := by
      rw [hqueue, List.length_append, himage]
      omega
    rw [Handshake.readInto, hmin, overwrite, List.drop_length, List.append_nil, hqueue, ← himage,
      List.take_left]
  · rw [hqueue, ← himage, List.drop_left]

/-- The listener stores the copy of the request whose turn it is. -/
theorem Step.serve_cases {fresh : { bs : Bytes // bs.length = reqarrSize }} (h : s.Kept memory)
    (hs : Step memory s (.serve fresh) t) :
    ∃ r, s.sent[s.entries.length]? = some r ∧ t.sent = s.sent ∧ t.pd.length = 16 ∧
      t.entries = s.entries ++ [r.pd.store fresh (intArray r.rows)] ∧
        t.fifo = (s.sent.drop (s.entries.length + 1)).flatMap fun r => r.pd.image := by
  cases hs with
  | serve hfifo _ hpd =>
    obtain ⟨r, hr, hread, hrest⟩ := h.next hfifo
    have hdecoded := reads_pagerData r.pd []
    rw [List.append_nil, ← hread, hpd] at hdecoded
    cases hdecoded
    have hsource : memory s.entries.length r.pd.reqarr = intArray r.rows := h.readable _ r hr
    refine ⟨r, hr, rfl, ?_, ?_, hrest⟩
    · exact (congrArg List.length hread).trans r.pd.image_length
    · rw [hsource]

/-- One more element is faithful if it serves the request whose turn it was. -/
theorem Faithful.snoc_iff {entry : PagerEntry} (h : s.Faithful)
    (hr : s.sent[s.entries.length]? = some r) (hsent : t.sent = s.sent)
    (hentries : t.entries = s.entries ++ [entry]) : t.Faithful ↔ Serves r entry := by
  have hlt : s.entries.length < s.sent.length := (List.getElem?_eq_some_iff.mp hr).1
  rw [Faithful, hsent, hentries, List.length_append, List.length_singleton]
  constructor
  · rintro ⟨-, hall⟩
    exact hall _ r entry hr List.getElem?_concat_length
  · intro hserves
    refine ⟨hlt, fun k r' e' hr' he' => ?_⟩
    rcases Nat.lt_trichotomy k s.entries.length with hk | rfl | hk
    · rw [List.getElem?_append_left hk] at he'
      exact h.2 k r' e' hr' he'
    · rw [List.getElem?_concat_length] at he'
      cases he'
      cases hr.symm.trans hr'
      exact hserves
    · have hlen : (s.entries ++ [entry]).length ≤ k := by
        rw [List.length_append, List.length_singleton]
        exact hk
      rw [List.getElem?_eq_none hlen] at he'
      cases he'

/-- A request that is sent waits behind the others in the FIFO. -/
theorem Kept.request (h : s.Kept memory)
    (hmem : memory s.sent.length r.reqarr = intArray r.rows) :
    Kept memory { s with fifo := s.fifo ++ r.pd.image, sent := s.sent ++ [r] } := by
  obtain ⟨hle, hserves⟩ := h.faithful
  refine ⟨h.buffer, ?_, ?_, ?_, ?_⟩
  · dsimp only
    rw [List.drop_append_of_le_length hle, List.flatMap_append, ← h.queued, List.flatMap_singleton]
  · intro k r' hr'
    rcases Nat.lt_or_ge k s.sent.length with hk | hk
    · rw [List.getElem?_append_left hk] at hr'
      exact h.readable k r' hr'
    · obtain rfl : k = s.sent.length := by
        have hlt := (List.getElem?_eq_some_iff.mp hr').1
        rw [List.length_append, List.length_singleton] at hlt
        omega
      rw [List.getElem?_concat_length] at hr'
      cases hr'
      exact hmem
  · exact hle.trans (by rw [List.length_append]; exact Nat.le_add_right ..)
  · intro k r' e' hr' he'
    have hk : k < s.sent.length := (List.getElem?_eq_some_iff.mp he').1.trans_le hle
    rw [List.getElem?_append_left hk] at hr'
    exact hserves k r' e' hr' he'

/-- The step lemma: the requests are served in the order in which they were sent. -/
theorem Kept.step (h : s.Kept memory) (hfits : s.FreshFits e) (hs : Step memory s e t) :
    t.Kept memory := by
  cases e with
  | request r =>
    cases hs with
    | request hmem => exact h.request hmem
  | serve fresh =>
    obtain ⟨r, hr, hsent, hbuffer, hentries, hfifo⟩ := hs.serve_cases h
    refine ⟨hbuffer, ?_, ?_, ?_⟩
    · rw [hfifo, hsent, hentries, List.length_append, List.length_singleton]
    · rw [hsent]
      exact h.readable
    · rw [h.faithful.snoc_iff hr hsent hentries, serves_iff fresh.property]
      exact hfits fresh r rfl hr

/-- In every state of a run the elements of `PagerData` are the requests exactly if every block that
is allocated fits the list of its request.

A block is as large as a `size_t`, and a quarter of the list is copied. What is behind that is what
the heap happens to have there. -/
theorem faithful_iff (r : Run (Step memory) (start buffer) es t) :
    Always (Step memory) (start buffer) es (fun _ s => s.Faithful) ↔
      EachStep (Step memory) (start buffer) es FreshFits := by
  refine Run.always_iff_eachStep (I := fun _ s => s.Kept memory)
    (fun _ _ _ _ => Step.det) start_kept (fun h hfits hs => h.step hfits hs)
    (fun h => h.faithful) ?_ r
  rintro _ s _ t h hs hfaithful fresh r rfl hr
  obtain ⟨r', hr', hsent, -, hentries, -⟩ := hs.serve_cases h
  cases hr.symm.trans hr'
  exact (serves_iff fresh.property).mp ((h.faithful.snoc_iff hr hsent hentries).mp hfaithful)

/-- A request that is sent to a listener with an empty FIFO is served. -/
theorem exists_served (r : PageinRequest) (buffer : { bs : Bytes // bs.length = 16 })
    (fresh : { bs : Bytes // bs.length = reqarrSize }) :
    ∃ t, Run (Step fun _ _ => intArray r.rows) (start buffer) [.request r, .serve fresh] t ∧
      t.sent = [r] ∧ t.entries = [r.pd.store fresh (intArray r.rows)] := by
  have hkept : Kept (fun _ _ => intArray r.rows) ⟨r.pd.image, buffer, [], [r]⟩ :=
    (@start_kept _ buffer).request rfl
  have hfifo : r.pd.image ≠ [] := List.ne_nil_of_length_pos (r.pd.image_length ▸ Nat.succ_pos _)
  obtain ⟨_, hr, hread, -⟩ := hkept.next hfifo
  cases hr
  have hpd := reads_pagerData r.pd []
  rw [List.append_nil, ← hread] at hpd
  have hroom : 0 < maxMemory := Nat.succ_pos _
  have hserve : Step (fun _ _ => intArray r.rows) ⟨r.pd.image, buffer, [], [r]⟩ (.serve fresh) _ :=
    .serve hfifo hroom hpd
  exact ⟨_, (Run.start.snoc (.request rfl)).snoc hserve, rfl, rfl⟩

end

/-- A request for the rows, which are three at most. -/
def fewRows (rows : List UInt32) (h : rows.length ≤ 3) : PageinRequest :=
  ⟨7, 4096, rows, h.trans (by decide)⟩

/-- One row, in a block that happens to hold it. -/
theorem faithful_iff_oneRow : ∃ es t,
    Run (Step fun _ _ => intArray [7]) (start (zeroBlock 16)) es t ∧
    (Always (Step fun _ _ => intArray [7]) (start (zeroBlock 16)) es (fun _ s => s.Faithful) ↔
      EachStep (Step fun _ _ => intArray [7]) (start (zeroBlock 16)) es FreshFits) := by
  obtain ⟨t, r, -⟩ := exists_served (fewRows [7] (by decide)) (zeroBlock 16) (zeroBlock reqarrSize)
  exact ⟨_, t, r, faithful_iff r⟩

/-- Three rows do not fit any block that is allocated for them. The third one is read behind its
end. -/
theorem three_rows_lost : ¬ ∀ (memory : Nat → UInt64 → Bytes)
    (buffer : { bs : Bytes // bs.length = 16 }) (es : List ListenerEvent) (t : Listener),
    Run (Step memory) (start buffer) es t →
      Always (Step memory) (start buffer) es fun _ s => s.Faithful := by
  intro hclaim
  obtain ⟨t, r, hsent, hentries⟩ :=
    exists_served (fewRows [1, 2, 3] (by decide)) (zeroBlock 16) (zeroBlock reqarrSize)
  have hfaithful := hclaim _ _ _ t r _ t List.prefix_rfl r
  have hserves := hfaithful.2 0 _ _ (by rw [hsent]; rfl) (by rw [hentries]; rfl)
  have hfits := (serves_iff (zeroBlock reqarrSize).property).mp hserves
  exact absurd (hfits.rows_le (zeroBlock reqarrSize).property) (by decide)

end Listener

end GpuVirtmem.Pager
