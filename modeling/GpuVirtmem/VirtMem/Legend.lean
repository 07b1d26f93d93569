import GpuVirtmem.VirtMem.System

/-!
# The legend of `enum vmem_status`

Four of the five operations keep the legend for every valid row. `gvirt_page_in` does not: it marks
a row `D_READY` after handing the row's own NULL pointer to `cudaMalloc`, which writes nothing. A
run satisfies the legend all along exactly if no page-in names a valid row whose data are on the
host.

The condition in `legend_iff_no_real_page_in` is on the calls and on the statuses that they find,
not on what the driver answers. The proof of one direction carries `AllKept` along the run, and that
of the other shows that the first page-in that finds a row to page in leaves it dangling
(`gvirtPageIn_dangling`), from which no later state of this run can excuse the one just reached.
-/

namespace GpuVirtmem.VirtMem

open Lib

/-- What the comments on `enum vmem_status` say of a row with the data `c`. -/
structure Legend (d : Device) (row : MemMap) (c : Contents) : Prop where
  resident : row.status.resident = true → row.actualDevptr ≠ NULL ∧
    ∃ bs, d.blocks row.actualDevptr = some bs ∧ bs.length = row.size
  absent : row.status.resident = false → row.actualDevptr = NULL
  ready : row.status = .dReady → DeviceHolds d row c ∧ Mirrored row c

/-- The legend, for every valid row of the table. -/
def LegendHolds (s : Vmem) (data : Nat → Contents) : Prop :=
  ∀ (i : Nat) (row : MemMap), s.table[i]? = some row → row.valid = true →
    Legend s.device row (data i)

/-- No row of the request is valid and has its data on the host. -/
def NoneWaiting (reqarr : List Nat) (s : Vmem) : Prop :=
  ∀ i ∈ reqarr, ∀ row : MemMap, s.table[i]? = some row → row.valid = true →
    row.status ≠ .dMemwait ∧ row.status ≠ .dDeferred

/-- A call other than a page-in that has a row to page in. -/
def NoRealPageIn (s : Vmem) : VmemOp → Prop
  | .pageIn reqarr _ => NoneWaiting reqarr s
  | .creat .. | .delete _ | .copyIn .. | .copyOut .. | .pageOut _ => True

/-- The row's data are where its status says, and in its swap buffer. -/
structure Kept (d : Device) (row : MemMap) (c : Contents) : Prop where
  backed : Backed d row c
  mirrored : Mirrored row c

/-- A sound table whose valid rows are all kept. -/
structure AllKept (data : Nat → Contents) (s : Vmem) : Prop where
  sound : Sound s
  kept : ∀ (i : Nat) (row : MemMap), s.table[i]? = some row → row.valid = true →
    Kept s.device row (data i)

/-! ## Each function keeps its row -/

section

variable {d d' : Device} {node node' : MemMap} {dest src out : Bytes} {n : Nat} {c : Contents}

/-- Four of the five operations keep a row that is kept. The statement is the same for each of them:
where the data of the row are, and that they are also in its swap buffer. -/
theorem Kept.copyIn (hk : Kept d node c) (h : node.copyIn d src n = some (node', d')) :
    Kept d' node' (c.write src n) :=
  ⟨hk.backed.copyIn hk.mirrored.sized h, hk.mirrored.copyIn h⟩

/-- A copy from the row changes no data. -/
theorem Kept.copyOut (hk : Kept d node c) (h : node.copyOut d dest n = some (node', out)) :
    Kept d node' c := ⟨hk.backed.copyOut h, hk.mirrored.copyOut hk.backed h⟩

/-- A page-out changes no data either, though it moves them. -/
theorem Kept.evict (hk : Kept d node c) (h : node.evict d = some (node', d')) : Kept d' node' c :=
  ⟨hk.backed.evict hk.mirrored.sized h, hk.mirrored.evict hk.backed h⟩

/-- A row that is kept has what the comments on the statuses say of it. -/
theorem Kept.legend (hk : Kept d node c) (hnull : d.blocks NULL = none) : Legend d node c where
  resident := by
    intro hr
    obtain ⟨bs, hb, hl, _⟩ := hk.backed.resident hr
    refine ⟨?_, bs, hb, hl⟩
    intro hp
    rw [hp, hnull] at hb
    cases hb
  absent := hk.backed.absent
  ready := fun hs => ⟨(backed_ready hs).mp hk.backed, hk.mirrored⟩

end

section

variable {s s' t : Vmem} {data data' : Nat → Contents} {row row' : MemMap} {d' : Device} {i : Nat}

/-- A table whose rows are all kept satisfies the legend. -/
theorem AllKept.legend (h : AllKept data s) : LegendHolds s data :=
  fun i row hi hv => (h.kept i row hi hv).legend h.sound.null

/-- No row is valid yet. -/
theorem Initialised.allKept (h : Initialised s) : AllKept data s := by
  refine ⟨h.sound, ?_⟩
  intro i row hi hv
  obtain ⟨pid, rfl⟩ := h.eq_initRow hi
  cases hv

/-! ## Each operation keeps the rows -/

/-- A function on one row that keeps it keeps them all: the frame for the data of the others is
`Sound.frame`. -/
theorem AllKept.set (h : AllKept data s) (hi : s.table[i]? = some row)
    (hstep : RowStep s.device d' row row') (hown : OwnBlock s.device d' row)
    (hk : row'.valid = true → Kept d' row' (data' i)) (hdata : ∀ j, i ≠ j → data' j = data j) :
    AllKept data' ⟨s.table.set i row', d'⟩ := by
  refine ⟨h.sound.set hi hstep, ?_⟩
  intro j node hj hv
  obtain ⟨rfl, rfl⟩ | ⟨hij, hj⟩ := getElem?_set_cases hj
  · exact hk hv
  · rw [hdata j hij]
    have hkept := h.kept j node hj hv
    exact ⟨h.sound.frame hi hown hij hj hkept.backed, hkept.mirrored⟩

/-- The other rows have the data that they had. -/
theorem update_of_index_ne (c : Contents) : ∀ j, i ≠ j → Function.update data i c j = data j :=
  fun _ hij => Function.update_of_ne hij.symm ..

/-- A page-out round, whichever row it names. -/
theorem AllKept.pageOutRow (h : AllKept data s) (hr : pageOutRow s i = some s') :
    AllKept data s' := by
  obtain ⟨node, node', d', hi, he, rfl⟩ := pageOutRow_cases hr
  refine h.set hi (evict_rowStep (h.sound.rows _ _ hi) he) (evict_ownBlock he) ?_ fun _ _ => rfl
  intro hv
  exact (h.kept _ _ hi ((evict_fields he).1 ▸ hv)).evict he

/-- A round of a page-in that has no valid row to page in changes no data and no valid row. It may
still change a row that is not valid, of which the legend says nothing. -/
theorem AllKept.pageInRow {word : Option DevPtr} {reqarr : List Nat} (hmem : i ∈ reqarr)
    (h : AllKept data s ∧ NoneWaiting reqarr s) (hr : pageInRow word s i = some s') :
    AllKept data s' ∧ NoneWaiting reqarr s' := by
  obtain ⟨node, node', d', hi, hp, rfl⟩ := pageInRow_cases hr
  obtain ⟨hk, hw⟩ := h
  have hsound := hk.sound.rows _ _ hi
  have hrow := pageIn_rowStep hsound hp
  obtain ⟨hst, _, rfl, _, dst, rfl⟩ | ⟨_, rfl, rfl⟩ := pageIn_cases hp
  · -- the row is not valid, so it is empty and nothing is copied
    have hv : node.valid = false := by
      by_contra hv
      obtain ⟨h₁, h₂⟩ := hw i hmem node hi (by simpa using hv)
      exact hst.elim h₁ h₂
    have hz := (hsound.unused hv).2
    simp only [hz, Device.cudaMemcpyHtoD_zero] at hrow ⊢
    refine ⟨hk.set hi hrow (OwnBlock.refl _ _) ?_ fun _ _ => rfl, ?_⟩
    · intro hv'
      rw [hv] at hv'
      cases hv'
    · intro j hj other hother hv'
      obtain ⟨rfl, rfl⟩ | ⟨_, hj'⟩ := getElem?_set_cases hother
      · rw [hv] at hv'
        cases hv'
      · exact hw j hj other hj' hv'
  · refine ⟨hk.set hi hrow (OwnBlock.refl _ _) (hk.kept _ _ hi) fun _ _ => rfl, ?_⟩
    intro j hj other hother
    obtain ⟨rfl, rfl⟩ | ⟨_, hj'⟩ := getElem?_set_cases hother
    · exact hw j hj other hi
    · exact hw j hj other hj'

/-- The step lemma: any operation but a page-in that finds data on the host keeps all rows. -/
theorem AllKept.step {op : VmemOp} (h : AllKept data s) (hstep : VmemStep s op s')
    (hop : NoRealPageIn s op) : AllKept (op.record data) s' := by
  obtain ⟨ha, he⟩ := hstep
  cases op with
  | creat size index dev swap =>
    obtain ⟨node, hi, rfl⟩ := memMapCreat_cases he
    refine h.set hi (created_rowStep ha.1 ha.2) (created_ownBlock ha.1) ?_ (update_of_index_ne _)
    intro _
    simp only [VmemOp.record, Function.update_self]
    exact ⟨created_backed ha.1, created_mirrored ha.2⟩
  | delete index =>
    obtain ⟨node, hi, rfl⟩ := memMapDelete_cases he
    exact h.set hi deleted_rowStep deleted_ownBlock (fun hv => nomatch hv) (update_of_index_ne _)
  | copyIn index src size =>
    obtain ⟨⟨t, out⟩, hm, rfl⟩ := Option.map_eq_some_iff.mp he
    obtain ⟨node, node', d', hi, _, hc, rfl, _⟩ := memMapMemcpy_h2d_cases hm
    refine h.set hi (copyIn_rowStep (h.sound.rows _ _ hi) hc) (copyIn_ownBlock hc) ?_
      (update_of_index_ne _)
    intro hv
    simp only [VmemOp.record, Function.update_self]
    exact (h.kept _ _ hi ((copyIn_fields hc).1 ▸ hv)).copyIn hc
  | copyOut index dest size =>
    obtain ⟨⟨t, out⟩, hm, rfl⟩ := Option.map_eq_some_iff.mp he
    obtain ⟨node, node', hi, hc, rfl⟩ := memMapMemcpy_d2h_cases hm
    refine h.set hi (copyOut_rowStep (h.sound.rows _ _ hi) hc) (OwnBlock.refl _ _) ?_
      fun _ _ => rfl
    intro hv
    exact (h.kept _ _ hi ((copyOut_fields hc).1 ▸ hv)).copyOut hc
  | pageIn reqarr word =>
    exact (foldlM_keeps (fun j hj _ _ ht hr => AllKept.pageInRow hj ht hr) ⟨h, hop⟩ he).1
  | pageOut reqarr => exact foldlM_keeps (fun _ _ _ _ ht hr => ht.pageOutRow hr) h he

/-! ## A page-in that has a row to page in breaks the legend -/

/-- A valid row that waits for device memory, or is marked ready without any. -/
def Pending (i : Nat) (s : Vmem) : Prop :=
  ∃ row : MemMap, s.table[i]? = some row ∧ row.valid = true ∧
    (row.status = .dMemwait ∨ row.status = .dDeferred ∨
      row.status = .dReady ∧ row.actualDevptr = NULL)

/-- A valid row that is marked ready without device memory. -/
def Dangling (i : Nat) (s : Vmem) : Prop :=
  ∃ row : MemMap, s.table[i]? = some row ∧ row.valid = true ∧ row.status = .dReady ∧
    row.actualDevptr = NULL

/-- A row that is marked ready without device memory contradicts the legend of `D_READY`, with
whatever data the row is supposed to have. -/
theorem Dangling.not_legend (h : Dangling i s) : ¬ LegendHolds s data := by
  obtain ⟨row, hi, hv, hs, hp⟩ := h
  intro hl
  exact ((hl i row hi hv).resident (by rw [hs]; rfl)).1 hp

/-- A page-in that names a dangling row again finds it ready and leaves it dangling: the loop cannot
repair what an earlier round of it has done. -/
theorem Dangling.pending (h : Dangling i s) : Pending i s := by
  obtain ⟨row, hi, hv, hsp⟩ := h
  exact ⟨row, hi, hv, .inr (.inr hsp)⟩

/-- The row of the round is left dangling. `cudaMalloc` was given the row's own NULL pointer, and so
the row's pointer is NULL still when the status is written. -/
theorem Pending.pageInRow {word : Option DevPtr} (h : Pending i s)
    (hr : pageInRow word s i = some s') : Dangling i s' := by
  obtain ⟨row, hi, hv, hst⟩ := h
  obtain ⟨node, node', d', hi', hp, rfl⟩ := pageInRow_cases hr
  obtain rfl : row = node := Option.some.inj (hi.symm.trans hi')
  refine ⟨node', getElem?_set_self hi, ?_⟩
  obtain ⟨_, hnull, rfl, _⟩ | ⟨⟨hm, hd⟩, rfl, _⟩ := pageIn_cases hp
  · exact ⟨hv, rfl, hnull⟩
  · obtain h | h | h := hst
    · exact absurd h hm
    · exact absurd h hd
    · exact ⟨hv, h⟩

/-- A round on another row leaves the row as it was. -/
theorem pageInRow_other {word : Option DevPtr} {j : Nat} (hij : j ≠ i)
    (hr : pageInRow word s j = some s') : s'.table[i]? = s.table[i]? := by
  obtain ⟨_, node', _, _, _, rfl⟩ := pageInRow_cases hr
  exact List.getElem?_set_ne hij

/-- A page-in that names the row leaves it dangling, wherever in the request it stands and whatever
else is in it. -/
theorem gvirtPageIn_dangling {word : Option DevPtr} {reqarr : List Nat} (h : Pending i s)
    (hmem : i ∈ reqarr) (hr : gvirtPageIn s reqarr word = some s') : Dangling i s' := by
  obtain ⟨before, after, rfl⟩ := List.append_of_mem hmem
  unfold gvirtPageIn at hr
  rw [List.foldlM_append] at hr
  obtain ⟨m, hm, hr⟩ := Option.bind_eq_some_iff.mp hr
  rw [List.foldlM_cons] at hr
  obtain ⟨u, hu, hr⟩ := Option.bind_eq_some_iff.mp hr
  have hpending : Pending i m := by
    refine foldlM_keeps ?_ h hm
    intro j _ t t' ht ht'
    by_cases hij : j = i
    · subst hij
      exact (ht.pageInRow ht').pending
    · unfold Pending
      rw [pageInRow_other hij ht']
      exact ht
  refine foldlM_keeps ?_ (hpending.pageInRow hu) hr
  intro j _ t t' ht ht'
  by_cases hij : j = i
  · subst hij
    exact ht.pending.pageInRow ht'
  · unfold Dangling
    rw [pageInRow_other hij ht']
    exact ht

/-! ## Whole runs -/

variable {s₀ : Vmem} {ops : List VmemOp}

/-- A step that leaves the legend true was not a page-in that has a row to page in. This is the
direction in which the condition is exact: there is no lucky page-in. -/
theorem noRealPageIn_of_legend {op : VmemOp} (hstep : VmemStep s op s')
    (h : LegendHolds s' data) : NoRealPageIn s op := by
  cases op with
  | pageIn reqarr word =>
    intro i hmem row hi hv
    by_contra hw
    refine (gvirtPageIn_dangling ⟨row, hi, hv, ?_⟩ hmem hstep.2).not_legend h
    by_cases hm : row.status = .dMemwait
    · exact .inl hm
    · refine .inr (.inl ?_)
      by_contra hd
      exact hw ⟨hm, hd⟩
  | creat | delete | copyIn | copyOut | pageOut => trivial

/-- One more step of a run that is fine so far. -/
theorem AllKept.snoc {op : VmemOp} (h : AllKept (rowData ops) s) (hop : NoRealPageIn s op)
    (hstep : VmemStep s op s') : AllKept (rowData (ops ++ [op])) s' := by
  have hnext := h.step hstep hop
  simpa only [rowData, List.foldl_append, List.foldl_cons, List.foldl_nil] using hnext

/-- The legend holds for every valid row in all states of a run exactly if no page-in of the run
names a valid row in `D_MEMWAIT` or `D_DEFERRED`.

Page-ins that find nothing to do are harmless, and so is everything else that the five operations
do. The proof keeps `AllKept` up to the first page-in with a row to page in, and that one leaves the
row dangling. -/
theorem legend_iff_no_real_page_in (h0 : Initialised s₀) (r : Run VmemStep s₀ ops s) :
    Always VmemStep s₀ ops (fun before t => LegendHolds t (rowData before)) ↔
      EachStep VmemStep s₀ ops NoRealPageIn :=
  Run.always_iff_eachStep (I := fun before t => AllKept (rowData before) t)
    (fun _ _ _ _ => VmemStep.det) h0.allKept AllKept.snoc AllKept.legend
    (fun _ => noRealPageIn_of_legend) r

end

/-- A table of two rows, on a device that has no block. -/
def twoRows : Vmem := ⟨[initRow 1 0, initRow 1 1], ⟨fun _ => none⟩⟩

/-- One row gets device memory and one does not. Both are written, the first is paged in while it is
there and then out, and both are read and freed. -/
def residentPageIn : List VmemOp :=
  [.creat 2 0 (some ⟨4096, [0, 0]⟩) [0, 0], .creat 1 1 none [0], .copyIn 0 [5, 6] 2,
    .copyIn 1 [7] 1, .pageIn [0] none, .pageOut [0, 1], .copyOut 0 [0, 0] 2, .copyOut 1 [0] 1,
    .delete 0, .delete 1]

/-- The legend holds throughout, since the page-in names the row that is on the device. -/
theorem legend_iff_no_real_page_in_twoRows : ∃ s, Run VmemStep twoRows residentPageIn s ∧
    Always VmemStep twoRows residentPageIn fun before t => LegendHolds t (rowData before) := by
  have hdet : ∀ s op t u, VmemStep s op t → VmemStep s op u → t = u := fun _ _ _ _ => VmemStep.det
  have hinit : Initialised twoRows := ⟨rfl, [initRow 1 0, initRow 1 1], 1, rfl⟩
  have hgrant : twoRows.device.Admits 2 (some ⟨4096, [0, 0]⟩) := ⟨by decide, rfl, rfl⟩
  have h₁ : VmemStep twoRows (.creat 2 0 (some ⟨4096, [0, 0]⟩) [0, 0]) _ := ⟨⟨hgrant, rfl⟩, rfl⟩
  have r : Run VmemStep twoRows residentPageIn _ :=
    .cons h₁ (.cons ⟨⟨trivial, rfl⟩, rfl⟩ (.cons ⟨trivial, rfl⟩ (.cons ⟨trivial, rfl⟩
      (.cons ⟨trivial, rfl⟩ (.cons ⟨trivial, rfl⟩ (.cons ⟨trivial, rfl⟩ (.cons ⟨trivial, rfl⟩
        (.cons ⟨trivial, rfl⟩ (.cons ⟨trivial, rfl⟩ .start)))))))))
  refine ⟨_, r, (legend_iff_no_real_page_in hinit r).mpr ?_⟩
  refine .cons hdet h₁ trivial (.cons hdet ⟨⟨trivial, rfl⟩, rfl⟩ trivial ?_)
  refine .cons hdet ⟨trivial, rfl⟩ trivial (.cons hdet ⟨trivial, rfl⟩ trivial ?_)
  -- the row that is paged in has been written on the device
  refine .cons hdet ⟨trivial, rfl⟩ ?_ (.cons hdet ⟨trivial, rfl⟩ trivial ?_)
  · intro i hi row hrow _
    obtain rfl := List.mem_singleton.mp hi
    cases hrow
    exact ⟨nofun, nofun⟩
  refine .cons hdet ⟨trivial, rfl⟩ trivial (.cons hdet ⟨trivial, rfl⟩ trivial ?_)
  exact .cons hdet ⟨trivial, rfl⟩ trivial (.cons hdet ⟨trivial, rfl⟩ trivial .nil)

/-- The device is full when a row is created, the row is written, and a page-in marks it ready: it
is ready on no device memory. -/
theorem page_in_breaks_legend : ¬ ∀ (s₀ s : Vmem) (ops : List VmemOp),
    Initialised s₀ → Run VmemStep s₀ ops s → LegendHolds s (rowData ops) := by
  intro hclaim
  have r : Run VmemStep oneRow
      [.creat 1 0 none [0], .copyIn 0 [7] 1, .pageIn [0] (some 0)] _ :=
    ((Run.start.cons ⟨trivial, rfl⟩).cons ⟨trivial, rfl⟩).cons ⟨⟨trivial, rfl⟩, rfl⟩
  exact absurd rfl
    ((hclaim _ _ _ oneRow_initialised r 0 _ rfl rfl).resident rfl).1

end GpuVirtmem.VirtMem
