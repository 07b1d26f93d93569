import GpuVirtmem.VirtMem.Row

/-!
# One law for each function on a row

`RowStep` is the shape of what a function may do to the row it works on and to the device: the row
stays sound, its pointer is dropped, kept or freshly allocated, and every other live block keeps its
length. `OwnBlock` says more, that every other live block keeps its bytes; only a page-in that finds
the row's data on the host lacks it. The laws about `Backed` and `Mirrored` say where the row's data
are after the function.

The lemmas come in the same order for each function: which blocks it touches, that the row stays
sound, which fields it leaves alone, that it has a result at all, and where the data are. The ones
on existence are as important as the others, since a function without a result would keep every
invariant.
-/

namespace GpuVirtmem.VirtMem

open Lib

/-- What a function may do to the row it works on, and to the device. -/
structure RowStep (d d' : Device) (row row' : MemMap) : Prop where
  sound : RowSound d' row'
  pointer : row'.actualDevptr = NULL ∨ row'.actualDevptr = row.actualDevptr ∨
    d.blocks row'.actualDevptr = none
  others : ∀ q, q ≠ row.actualDevptr → ∀ bs, d.blocks q = some bs →
    ∃ bs', d'.blocks q = some bs' ∧ bs'.length = bs.length
  null : d.blocks NULL = none → d'.blocks NULL = none

/-- Of the blocks that are live, at most the row's own is written or freed. -/
def OwnBlock (d d' : Device) (row : MemMap) : Prop :=
  ∀ q, q ≠ row.actualDevptr → d.blocks q ≠ none → d'.blocks q = d.blocks q

section

variable {d d' : Device} {node node' : MemMap} {dest src out : Bytes} {n : Nat} {c : Contents}

/-- A function that leaves the device alone works on its own block only. -/
theorem OwnBlock.refl (d : Device) (node : MemMap) : OwnBlock d d node := fun _ _ _ => rfl

/-- The weaker form that `RowStep` asks for: the other blocks stay live, and as long as they
were. -/
theorem OwnBlock.others (h : OwnBlock d d' node) (q : DevPtr) (hq : q ≠ node.actualDevptr)
    (bs : Bytes) (hb : d.blocks q = some bs) :
    ∃ bs', d'.blocks q = some bs' ∧ bs'.length = bs.length := by
  refine ⟨bs, ?_, rfl⟩
  rw [h q hq (by simp [hb]), hb]

/-! ## `mem_map_creat` and `mem_map_delete` -/

/-- The row `mem_map_creat` leaves behind. -/
def MemMap.created (node : MemMap) (d : Device) (size : Nat) (dev : Option Grant) (swap : Bytes) :
    MemMap :=
  { (node.allocate d dev).1 with swap := some swap, size := size, valid := true }

/-- The row `mem_map_delete` leaves behind. -/
def MemMap.deleted (node : MemMap) : MemMap :=
  { node with actualDevptr := NULL, swap := none, size := 0, status := .dNoalloc, valid := false }

variable {size : Nat} {dev : Option Grant} {swap : Bytes}

/-- The block that `mem_map_creat` allocates is fresh, so that no other row's block is touched. -/
theorem created_ownBlock (ha : d.Admits size dev) : OwnBlock d (node.allocate d dev).2 node := by
  intro q _ hlive
  cases dev with
  | none => rfl
  | some g =>
    refine d.cudaMalloc_other g ?_
    rintro rfl
    exact hlive ha.2.1

/-- A row that has just been created is sound, whether the driver gave it a block or not. -/
theorem created_rowStep (ha : d.Admits size dev) (hsw : swap.length = size) :
    RowStep d (node.allocate d dev).2 node (node.created d size dev swap) := by
  have hown : OwnBlock d (node.allocate d dev).2 node := created_ownBlock ha
  cases dev with
  | none =>
    exact {
      sound :=
        { block := fun hne => absurd rfl hne
          swap := fun _ => ⟨swap, rfl, hsw⟩
          unused := fun hv => nomatch hv }
      pointer := .inl rfl
      others := hown.others
      null := fun h => h }
  | some g =>
    obtain ⟨hne, hfresh, hlen⟩ := ha
    exact {
      sound :=
        { block := fun _ => ⟨rfl, rfl, g.bytes, d.cudaMalloc_self g, hlen⟩
          swap := fun _ => ⟨swap, rfl, hsw⟩
          unused := fun hv => nomatch hv }
      pointer := .inr (.inr hfresh)
      others := hown.others
      null := fun h => (d.cudaMalloc_other g (Ne.symm hne)).trans h }

/-- Nothing has been written to the row yet, so that its new swap buffer holds all of that, whatever
its bytes are. -/
theorem created_mirrored (hsw : swap.length = size) :
    Mirrored (node.created d size dev swap) .empty :=
  ⟨swap, rfl, hsw, Contents.empty_within swap⟩

/-- The status that `mem_map_creat` writes agrees with the driver's answer: `D_INIT` with a block
and `D_NOALLOC` without one. -/
theorem created_backed (ha : d.Admits size dev) :
    Backed (node.allocate d dev).2 (node.created d size dev swap) .empty := by
  cases dev with
  | none => exact ⟨rfl, rfl⟩
  | some g => exact ⟨⟨g.bytes, d.cudaMalloc_self g, ha.2.2, Contents.empty_within _⟩, rfl⟩

/-- The block that is freed is the row's own. -/
theorem deleted_ownBlock :
    OwnBlock d (if node.actualDevptr ≠ NULL then d.cudaFree node.actualDevptr else d) node := by
  intro q hq _
  split
  · exact d.cudaFree_other hq
  · rfl

/-- A deleted row has no block and no buffer left, which is what a row that is not valid must look
like. -/
theorem deleted_rowStep :
    RowStep d (if node.actualDevptr ≠ NULL then d.cudaFree node.actualDevptr else d) node
      node.deleted where
  sound :=
    { block := fun hne => absurd rfl hne
      swap := fun hv => nomatch hv
      unused := fun _ => ⟨rfl, rfl⟩ }
  pointer := .inl rfl
  others := deleted_ownBlock.others
  null := by
    intro hnull
    split
    · next hne => exact (d.cudaFree_other (Ne.symm hne)).trans hnull
    · exact hnull

/-! ## The copies of `mem_map_memcpy` -/

/-- A change of a row's swap buffer and status that keeps its block and its sizes. Both copies are
of this form, up to the bytes of the row's own block. -/
theorem rowStep_of_swap (h : RowSound d node) {sw : Option Bytes} {st : VmemStatus}
    (hsw : sw.map List.length = node.swap.map List.length)
    (hst : node.status.resident = true → st.resident = true) (hown : OwnBlock d d' node)
    (hlen : ∀ bs, d.blocks node.actualDevptr = some bs →
      ∃ bs', d'.blocks node.actualDevptr = some bs' ∧ bs'.length = bs.length)
    (hnull : d.blocks NULL = none → d'.blocks NULL = none) :
    RowStep d d' node { node with swap := sw, status := st } where
  sound :=
    { block := by
        intro hne
        obtain ⟨hv, hr, bs, hb, hl⟩ := h.block hne
        obtain ⟨bs', hb', hl'⟩ := hlen bs hb
        exact ⟨hv, hst hr, bs', hb', hl'.trans hl⟩
      swap := by
        intro hv
        obtain ⟨old, ho, hl⟩ := h.swap hv
        rw [ho] at hsw
        obtain ⟨new, hnew, hl'⟩ := Option.map_eq_some_iff.mp hsw
        exact ⟨new, hnew, hl'.trans hl⟩
      unused := by
        intro hv
        obtain ⟨ho, hz⟩ := h.unused hv
        rw [ho] at hsw
        exact ⟨Option.map_eq_none_iff.mp hsw, hz⟩ }
  pointer := .inr (.inl rfl)
  others := hown.others
  null := hnull

/-- A copy to the row writes the row's block and no other. -/
theorem copyIn_ownBlock (h : node.copyIn d src n = some (node', d')) : OwnBlock d d' node := by
  obtain ⟨sw, _, ⟨_, _, rfl⟩ | ⟨_, rfl, _⟩⟩ := copyIn_cases h
  · exact fun q hq _ => d.cudaMemcpyHtoD_other _ _ hq
  · exact OwnBlock.refl _ node

/-- A copy to a sound row leaves it sound. -/
theorem copyIn_rowStep (hs : RowSound d node) (h : node.copyIn d src n = some (node', d')) :
    RowStep d d' node node' := by
  have hown := copyIn_ownBlock h
  obtain ⟨sw, hw, ⟨_, rfl, rfl⟩ | ⟨hr, rfl, st, _, rfl⟩⟩ := copyIn_cases h
  · obtain ⟨hn, hsw⟩ := writeSwap_length hw
    have hlen := fun q => d.cudaMemcpyHtoD_length node.actualDevptr q hn
    refine rowStep_of_swap hs hsw (fun _ => rfl) hown ?_ ?_
    · intro bs hb
      have := hlen node.actualDevptr
      rw [hb] at this
      exact Option.map_eq_some_iff.mp this
    · intro hnull
      have := hlen NULL
      rw [hnull] at this
      exact Option.map_eq_none_iff.mp this
  · refine rowStep_of_swap hs (writeSwap_length hw).2 ?_ hown (fun bs hb => ⟨bs, hb, rfl⟩) id
    intro hr'
    rw [hr] at hr'
    cases hr'

/-- What says which row it is, and how long, is not written by the copies. -/
theorem copyIn_fields (h : node.copyIn d src n = some (node', d')) :
    node'.valid = node.valid ∧ node'.size = node.size := by
  obtain ⟨_, _, ⟨_, rfl, _⟩ | ⟨_, _, _, _, rfl⟩⟩ := copyIn_cases h <;> exact ⟨rfl, rfl⟩

/-- A copy to the row returns where it fits in the row and in the source buffer: the bounds are all
that it needs, in every status. -/
theorem copyIn_exists (hz : SwapSized node) (hn : n ≤ node.size) (hsrc : n ≤ src.length) :
    ∃ node' d', node.copyIn d src n = some (node', d') := by
  obtain ⟨sw, hsw, hlen⟩ := hz
  unfold MemMap.copyIn
  rw [hsw, writeSwap_some hsrc (by omega)]
  exact ⟨_, _, rfl⟩

/-- A copy to the row writes its swap buffer, whatever its status. This is why a row can lose its
device memory at any time without losing what the host has written. -/
theorem Mirrored.copyIn (hm : Mirrored node c) (h : node.copyIn d src n = some (node', d')) :
    Mirrored node' (c.write src n) := by
  obtain ⟨sw, hsw, hlen, hin⟩ := hm
  obtain ⟨out, hw, hcase⟩ := copyIn_cases h
  rw [hsw] at hw
  obtain ⟨hsrc, hn, rfl⟩ := writeSwap_eq_some hw
  have hm' : ∀ st, Mirrored { node with swap := some (overwrite sw src n), status := st }
      (c.write src n) :=
    fun st => ⟨_, rfl, (overwrite_length hsrc hn).trans hlen, hin.write hsrc⟩
  obtain ⟨_, rfl, _⟩ | ⟨_, _, st, _, rfl⟩ := hcase
  · exact hm' _
  · exact hm' st

/-- A copy to the row puts the new data where the row's status then says. -/
theorem Backed.copyIn (hb : Backed d node c) (hz : SwapSized node)
    (h : node.copyIn d src n = some (node', d')) : Backed d' node' (c.write src n) := by
  obtain ⟨out, hw, ⟨hr, rfl, rfl⟩ | ⟨hr, rfl, st, hst, rfl⟩⟩ := copyIn_cases h
  · -- the block is given what the swap buffer now starts with
    obtain ⟨sw, hsw, hlen⟩ := hz
    rw [hsw] at hw
    obtain ⟨hsrc, hn, rfl⟩ := writeSwap_eq_some hw
    obtain ⟨bs, hbs, hbl, hbin⟩ := hb.resident hr
    have hl : n ≤ (overwrite sw src n).length := by
      rw [overwrite_length hsrc hn]
      exact hn
    refine (backed_ready rfl).mpr ⟨_, d.cudaMemcpyHtoD_self _ hbs (by omega), ?_, ?_⟩
    · exact (overwrite_length hl (by omega)).trans hbl
    · simp only [Option.getD_some]
      rw [overwrite_overwrite hsrc]
      exact hbin.write hsrc
  · exact backed_of_waiting (hb.absent hr) hst ((hb.mirrored hr hz).copyIn h)

/-- A copy from a sound row leaves it sound, and the device as it was. -/
theorem copyOut_rowStep (hs : RowSound d node) (h : node.copyOut d dest n = some (node', out)) :
    RowStep d d node node' := by
  have same : RowStep d d node node := {
    sound := hs
    pointer := .inr (.inl rfl)
    others := (OwnBlock.refl d node).others
    null := id }
  obtain ⟨_, rfl, _⟩ | ⟨hst, up, hup, _, rfl⟩ | ⟨_, _, rfl⟩ := copyOut_cases h
  · exact same
  · obtain ⟨sw, hsw, rfl⟩ := fetch_swap hup
    exact rowStep_of_swap hs hsw (fun _ => rfl) (OwnBlock.refl d node)
      (fun bs hb => ⟨bs, hb, rfl⟩) id
  · exact same

/-- A copy from the row keeps the row's identity as well. -/
theorem copyOut_fields (h : node.copyOut d dest n = some (node', out)) :
    node'.valid = node.valid ∧ node'.size = node.size := by
  obtain ⟨_, rfl, _⟩ | ⟨_, up, hup, _, rfl⟩ | ⟨_, _, rfl⟩ := copyOut_cases h
  · exact ⟨rfl, rfl⟩
  · obtain ⟨_, _, rfl⟩ := fetch_swap hup
    exact ⟨rfl, rfl⟩
  · exact ⟨rfl, rfl⟩

/-- A read of the swap buffer fills the front of the destination. -/
theorem readSwap_some {sw : Bytes} (hn : n ≤ sw.length) (hd : n ≤ dest.length) :
    readSwap dest (some sw) n = some (overwrite dest sw n) := memcpy_of_le hn hd

/-- A read that has a result does not go behind the row. -/
theorem readSwap_sized {sw : Option Bytes} (hz : SwapSized node)
    (hsw : sw.map List.length = node.swap.map List.length) (h : readSwap dest sw n = some out) :
    n ≤ node.size := by
  obtain ⟨old, hold, hlen⟩ := hz
  rw [hold] at hsw
  obtain ⟨new, rfl, hl⟩ := Option.map_eq_some_iff.mp hsw
  obtain ⟨hn, _⟩ := memcpy_eq_some h
  exact Nat.le_trans hn (Nat.le_of_eq (hl.trans hlen))

/-- A copy from the row returns where it fits in the row and in the destination. -/
theorem copyOut_exists (hz : SwapSized node) (hn : n ≤ node.size) (hd : n ≤ dest.length) :
    ∃ node' out, node.copyOut d dest n = some (node', out) := by
  obtain ⟨sw, hsw, hlen⟩ := hz
  unfold MemMap.copyOut
  cases hs : node.status with
  | dNoalloc | dInit => exact ⟨node, dest, rfl⟩
  | dReady | dModified =>
    obtain ⟨up, hup⟩ : ∃ up, node.fetch d n = some up := fetch_exists hsw (by omega)
    obtain ⟨sw', rfl, hl, _⟩ := fetch_spec hsw hup
    simp only [hup, Option.bind_some]
    rw [readSwap_some (by omega) hd]
    exact ⟨_, _, rfl⟩
  | dMemwait | dDeferred =>
    simp only [hsw]
    rw [readSwap_some (by omega) hd]
    exact ⟨_, _, rfl⟩

/-- A copy from the row leaves the row's data where they were. The status may change, from modified
to ready, and the legend of both is the same. -/
theorem Backed.copyOut (hb : Backed d node c) (h : node.copyOut d dest n = some (node', out)) :
    Backed d node' c := by
  obtain ⟨_, rfl, _⟩ | ⟨hst, up, hup, _, rfl⟩ | ⟨_, _, rfl⟩ := copyOut_cases h
  · exact hb
  · obtain ⟨_, _, rfl⟩ := fetch_swap hup
    refine (backed_ready rfl).mpr (hb.resident ?_)
    rcases hst with hst | hst <;> rw [hst] <;> rfl
  · exact hb

/-- A copy from the row delivers its data: at each offset that has been written, the destination
then has the byte that was written there. Here the legend is used, to say that the copy the function
reads from is the right one. -/
theorem Backed.delivers (hb : Backed d node c) (hz : SwapSized node)
    (h : node.copyOut d dest n = some (node', out)) :
    ∀ off, off < n → ∀ b, c off = some b → out[off]? = some b := by
  have delivered : ∀ {bs : Bytes}, n ≤ bs.length → c.Within bs → out = overwrite dest bs n →
      ∀ off, off < n → ∀ b, c off = some b → out[off]? = some b := by
    rintro bs hl hw rfl off hoff b hb
    rw [overwrite_getElem?_lt hl hoff]
    exact hw off b hb
  obtain ⟨hst, _, _⟩ | ⟨hst, up, hup, hr, _⟩ | ⟨hst, hr, _⟩ := copyOut_cases h
  · intro off _ b hcb
    rw [hb.unwritten hst] at hcb
    cases hcb
  · have hdev : DeviceHolds d node c := by
      refine hb.resident ?_
      rcases hst with hst | hst <;> rw [hst] <;> rfl
    obtain ⟨sw, hl, rfl⟩ := fetch_swap hup
    have hn := readSwap_sized hz hl hr
    obtain ⟨_, bs, _, _, _, hbl, hin, he⟩ := fetch_held hdev hz hn hup
    obtain rfl : sw = _ := congrArg MemMap.swap he
    obtain ⟨_, _, rfl⟩ := memcpy_eq_some hr
    refine delivered (by omega) hin ?_
    simp only [Option.getD_some]
    rw [overwrite_overwrite (by omega)]
  · obtain ⟨sw, hsw, hlen, hin⟩ : Mirrored node c := by
      refine hb.mirrored ?_ hz
      rcases hst with hst | hst <;> rw [hst] <;> rfl
    rw [hsw] at hr
    obtain ⟨hn, _, rfl⟩ := memcpy_eq_some hr
    exact delivered hn hin rfl

/-- A copy from the row refreshes the front of the swap buffer, with data the row already has. -/
theorem Mirrored.copyOut (hm : Mirrored node c) (hb : Backed d node c)
    (h : node.copyOut d dest n = some (node', out)) : Mirrored node' c := by
  obtain ⟨_, rfl, _⟩ | ⟨hst, up, hup, hr, rfl⟩ | ⟨_, _, rfl⟩ := copyOut_cases h
  · exact hm
  · have hdev : DeviceHolds d node c := by
      refine hb.resident ?_
      rcases hst with hst | hst <;> rw [hst] <;> rfl
    obtain ⟨sw', hl, rfl⟩ := fetch_swap hup
    have hn := readSwap_sized hm.sized hl hr
    obtain ⟨sw, bs, hsw, hlen, _, hbl, hbin, he⟩ := fetch_held hdev hm.sized hn hup
    obtain rfl : sw' = _ := congrArg MemMap.swap he
    obtain ⟨_, hsw₁, _, hin⟩ := hm
    cases hsw.symm.trans hsw₁
    exact ⟨_, rfl, (overwrite_length (by omega) (by omega)).trans hlen, hin.copy hbin (by omega)⟩
  · exact hm

/-! ## The rounds of the paging loops -/

/-- The block that is freed by a page-out is the row's own. -/
theorem evict_ownBlock (h : node.evict d = some (node', d')) : OwnBlock d d' node := by
  obtain ⟨_, rfl, _⟩ | ⟨_, _, rfl⟩ := evict_cases h
  · exact fun q hq _ => d.cudaFree_other hq
  · exact OwnBlock.refl _ node

/-- A row that is paged out stays sound: its pointer is NULL and its buffer is there. -/
theorem evict_rowStep (hs : RowSound d node) (h : node.evict d = some (node', d')) :
    RowStep d d' node node' := by
  have hown := evict_ownBlock h
  obtain ⟨_, rfl, up, hup, rfl⟩ | ⟨_, rfl, rfl⟩ := evict_cases h
  · obtain ⟨sw, hsw, rfl⟩ := fetch_swap hup
    -- without its block the row is as if only the swap buffer had changed
    have hswap := rowStep_of_swap hs hsw (fun _ => rfl : _ → VmemStatus.dReady.resident = true)
      (OwnBlock.refl d node) (fun bs hb => ⟨bs, hb, rfl⟩) id
    exact {
      sound :=
        { block := fun hne => absurd rfl hne
          swap := hswap.sound.swap
          unused := hswap.sound.unused }
      pointer := .inl rfl
      others := hown.others
      null := by
        intro hnull
        by_cases hp : NULL = node.actualDevptr
        · rw [← hp]
          exact d.cudaFree_self NULL
        · exact (d.cudaFree_other hp).trans hnull }
  · exact {
      sound := hs
      pointer := .inr (.inl rfl)
      others := hown.others
      null := id }

/-- Paging a sound row out never leaves its swap buffer: the buffer has the row's size, and the
row's size is what is copied. -/
theorem evict_exists (hs : RowSound d node) (hnull : d.blocks NULL = none) :
    ∃ node' d', node.evict d = some (node', d') := by
  have hf : ∃ up, node.fetch d node.size = some up := by
    cases hv : node.valid with
    | true =>
      obtain ⟨sw, hsw, hlen⟩ := hs.swap hv
      exact fetch_exists hsw (by omega)
    | false =>
      have hp : node.actualDevptr = NULL := by
        by_contra hne
        have hv' := (hs.block hne).1
        rw [hv] at hv'
        cases hv'
      refine ⟨node, ?_⟩
      unfold MemMap.fetch Device.cudaMemcpyDtoH
      rw [hp, hnull]
  obtain ⟨up, hup⟩ := hf
  unfold MemMap.evict
  cases node.status with
  | dReady | dModified =>
    simp only [hup]
    exact ⟨_, _, rfl⟩
  | dNoalloc | dInit | dMemwait | dDeferred => exact ⟨_, _, rfl⟩

/-- A page-out keeps the row's identity, as the copies do. -/
theorem evict_fields (h : node.evict d = some (node', d')) :
    node'.valid = node.valid ∧ node'.size = node.size := by
  obtain ⟨_, _, up, hup, rfl⟩ | ⟨_, rfl, _⟩ := evict_cases h
  · obtain ⟨_, _, rfl⟩ := fetch_swap hup
    exact ⟨rfl, rfl⟩
  · exact ⟨rfl, rfl⟩

/-- Paging a row out moves its data from the device to the swap buffer, and the status follows. The
block may hold more than the buffer did, after a kernel has run. -/
theorem Backed.evict (hb : Backed d node c) (hz : SwapSized node)
    (h : node.evict d = some (node', d')) : Backed d' node' c := by
  obtain ⟨hst, rfl, up, hup, rfl⟩ | ⟨_, rfl, rfl⟩ := evict_cases h
  · have hdev : DeviceHolds d node c := by
      refine hb.resident ?_
      rcases hst with hst | hst <;> rw [hst] <;> rfl
    obtain ⟨sw, bs, _, hlen, _, hbl, hin, rfl⟩ := fetch_held hdev hz (Nat.le_refl _) hup
    refine (backed_memwait rfl).mpr ⟨rfl, _, rfl, ?_, ?_⟩
    · exact (overwrite_length (by omega) (by omega)).trans hlen
    · rw [overwrite_all hbl hlen]
      exact hin
  · exact hb

/-- The buffer holds the contents after a page-out as it did before it. -/
theorem Mirrored.evict (hm : Mirrored node c) (hb : Backed d node c)
    (h : node.evict d = some (node', d')) : Mirrored node' c := by
  have hb' := hb.evict hm.sized h
  obtain ⟨_, _, up, _, rfl⟩ | ⟨_, rfl, _⟩ := evict_cases h
  · exact ((backed_memwait rfl).mp hb').2
  · exact hm

/-- A page-in, whatever word it reads through NULL, leaves a sound table. That is all that can be
said in its favour: where the row's data are afterwards is the subject of `Legend`. -/
theorem pageIn_rowStep {word : Option DevPtr} (hs : RowSound d node)
    (h : node.pageIn d word = some (node', d')) : RowStep d d' node node' := by
  obtain ⟨_, hp, rfl, hn, dst, rfl⟩ | ⟨_, rfl, rfl⟩ := pageIn_cases h
  · have hlen := fun q => d.cudaMemcpyHtoD_length dst q hn
    exact {
      sound :=
        { block := fun hne => absurd hp hne
          swap := hs.swap
          unused := hs.unused }
      pointer := .inl hp
      others := by
        intro q _ bs hb
        have := hlen q
        rw [hb] at this
        exact Option.map_eq_some_iff.mp this
      null := by
        intro hnull
        have := hlen NULL
        rw [hnull] at this
        exact Option.map_eq_none_iff.mp this }
  · exact {
      sound := hs
      pointer := .inr (.inl rfl)
      others := (OwnBlock.refl _ node').others
      null := id }

end

end GpuVirtmem.VirtMem
