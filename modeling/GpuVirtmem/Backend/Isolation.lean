import GpuVirtmem.Backend.Memcpy
import GpuVirtmem.Lib.Private
import GpuVirtmem.VirtMem.HostCopy

/-!
# Every client has a store of its own

The backend processes share one memory map, one device and one pager. What the client of a process
sees of its mallocs, frees and copies is nevertheless what it would see of a store that nobody else
works on and that nothing is ever paged out of, as long as no kernel is launched.

The proof is a simulation. Beside the machine stands a store for each client, and `Simulates` says
that the rows of a process hold what its store does. A step of the machine is a step of at most one
store; the others do not move, and page-outs move none. What the machine grants the stores grant, so
that the clients cannot tell the difference; that copies within an allocation are granted at all is
the second half of the result, without which a machine that refuses everything would do.

Two things are not covered. A kernel may write any live block, of whomever it is, and there are no
launches in this machine. And nothing is said about when a request is served, or which rows are
chosen for a page-out: the pager may choose any.
-/

namespace GpuVirtmem.Backend

open Lib Remote Interposer VirtMem

/-! ## The store of one client -/

/-- What a client sees of a request that is granted. -/
inductive Observed
  | malloc (size p : Nat)
  | free (p : Nat)
  | write (p : Nat) (bs : Bytes)
  | read (p : Nat) (bs : Bytes)

/-- The allocations by their handles, each with its size and with what has been written to it. -/
abbrev Store := Nat → Option (Nat × Contents)

/-- A store that one client works on. -/
inductive Alone (s : Store) : Observed → Store → Prop
  | malloc {size p : Nat} : s p = none →
      Alone s (.malloc size p) (Function.update s p (some (size, .empty)))
  | free {p : Nat} : (s p).isSome → Alone s (.free p) (Function.update s p none)
  | write {p n : Nat} {c : Contents} {bs : Bytes} : s p = some (n, c) → bs.length ≤ n →
      Alone s (.write p bs) (Function.update s p (some (n, c.write bs bs.length)))
  | read {p n : Nat} {c : Contents} {bs : Bytes} : s p = some (n, c) →
      (∀ off, off < bs.length → ∀ b, c off = some b → bs[off]? = some b) → Alone s (.read p bs) s

/-- No allocation. -/
def Store.start : Store := fun _ => none

/-! ## The machine -/

/-- The count of a copy, as the `int` that it becomes. -/
def countOf (packet : CudaPacket) : Nat := (asInt packet.args2.word0.toNat).toNat

/-- A request of a process, with what its client sees of it, or a round of page-outs. A free comes
with an error in its packet, as every request of the interposer does. -/
inductive Answers (table : Nat) (addr : UInt64) (fresh : FreshBlock) (m : Processes) :
    Option (Nat × Observed) → Processes → Prop
  | malloc {k : Nat} {packet answer : CudaPacket} {semget : Bool} {dev : Option Grant}
      {swap : Bytes} {b : BackendState} :
      m.vmem.device.Admits packet.args1.word0.toNat dev → swap.length = packet.args1.word0.toNat →
      nvbackCudaMallocSrv packet semget dev swap (m.view k) = some (b, answer, .ok) →
      Answers table addr fresh m
        (some (k, .malloc packet.args1.word0.toNat (handleAddr table m.vmapIndex)))
        (m.put k b (m.vmapIndex :: m.created k))
  | free {k : Nat} {packet answer : CudaPacket} {b : BackendState} : packet.retExVal.err ≠ 0 →
      nvbackCudaFreeSrv table packet (m.view k) = some (b, answer, .ok) →
      Answers table addr fresh m (some (k, .free packet.args0.argp)) (m.put k b (m.created k))
  | copyIn {k : Nat} {packet answer : CudaPacket} {conn conn' : Conn} {b : BackendState}
      {mallocs : Bool} :
      MethodId.ofCode packet.methodId = some .cudaMemcpyH2D →
      nvbackCudaMemcpySrv table addr fresh mallocs packet conn (m.view k) =
        some (b, answer, conn', .ok) →
      Answers table addr fresh m
        (some (k, .write packet.args0.argp (conn.pReqBuffer.take (countOf packet))))
        (m.put k b (m.created k))
  | copyOut {k : Nat} {packet answer : CudaPacket} {conn conn' : Conn} {b : BackendState}
      {bs : Bytes} {mallocs : Bool} :
      MethodId.ofCode packet.methodId = some .cudaMemcpyD2H →
      nvbackCudaMemcpySrv table addr fresh mallocs packet conn (m.view k) =
        some (b, answer, conn', .ok) →
      conn'.pRspBuffer = some bs →
      Answers table addr fresh m (some (k, .read packet.args1.argp bs)) (m.put k b (m.created k))
  | refused {k : Nat} {b : BackendState} :
      (∃ packet answer semget dev swap,
        nvbackCudaMallocSrv packet semget dev swap (m.view k) = some (b, answer, .error)) ∨
      (∃ packet answer, nvbackCudaFreeSrv table packet (m.view k) = some (b, answer, .error)) ∨
      (∃ packet answer conn conn' mallocs,
        nvbackCudaMemcpySrv table addr fresh mallocs packet conn (m.view k) =
          some (b, answer, conn', .error)) →
      Answers table addr fresh m none (m.put k b (m.created k))
  | pageOut {reqarr : List Nat} {vmem : Vmem} : VmemStep m.vmem (.pageOut reqarr) vmem →
      Answers table addr fresh m none { m with vmem := vmem }

/-- The stores hold what the rows of the processes hold. -/
structure Simulates (table : Nat) (m : Processes) (S : Nat → Store) : Prop where
  shared : Shared m
  held : ∀ k p n c, S k p = some (n, c) → ∃ i ∈ m.created k, p = handleAddr table i ∧
    Holding m.vmem.table.length i n c m.vmem
  all : ∀ k i, LiveRow m k i → (S k (handleAddr table i)).isSome

/-! ## One request -/

section

variable {table : Nat} {addr : UInt64} {fresh : FreshBlock} {m m' : Processes} {S : Nat → Store}
  {k i : Nat} {b : BackendState} {op : VmemOp} {mallocs : Bool}

/-- Row `i` is the only one that the call is about. -/
structure OnlyAbout (op : VmemOp) (i : Nat) (vmem vmem' : Vmem) : Prop where
  spares : ∀ j, j ≠ i → Spares j op
  record : ∀ j, j ≠ i → ∀ c, op.record (fun _ => c) j = c
  rows : ∀ j, j ≠ i → (RowLive vmem' j ↔ RowLive vmem j)

/-- A row that the call is not about holds what it held. -/
theorem OnlyAbout.holding {vmem vmem' : Vmem} {rows j n : Nat} {c : Contents}
    (h : OnlyAbout op i vmem vmem') (hstep : VmemStep vmem op vmem') (hj : j ≠ i)
    (hh : Holding rows j n c vmem) : Holding rows j n c vmem' := by
  have hnext := @Holding.step rows j n vmem vmem' (fun _ => c) op hh (h.spares j hj) hstep
  rwa [h.record j hj] at hnext

/-- A call that process `k` makes on a row of its own. The other stores stay as they are, because
the rows of the other processes do. -/
theorem Simulates.serve (h : Simulates table m S) {created : List Nat}
    (hshared : Shared (m.put k b created)) (hstep : VmemStep m.vmem op b.vmem)
    (habout : OnlyAbout op i m.vmem b.vmem) (hothers : ∀ l, l ≠ k → i ∉ m.created l)
    (hcreated : ∀ j, j ≠ i → (j ∈ created ↔ j ∈ m.created k)) (hi : i ∈ created) {s : Store}
    (hsame : ∀ p, p ≠ handleAddr table i → s p = S k p)
    (hself : ∀ n c, s (handleAddr table i) = some (n, c) →
      Holding m.vmem.table.length i n c b.vmem)
    (hlive : RowLive b.vmem i → (s (handleAddr table i)).isSome) :
    Simulates table (m.put k b created) (Function.update S k s) where
  shared := hshared
  held l p n c hp := by
    show ∃ j ∈ Function.update m.created k created l, _ ∧ Holding b.vmem.table.length j n c b.vmem
    by_cases hl : l = k
    · subst hl
      rw [Function.update_self] at hp ⊢
      by_cases hpi : p = handleAddr table i
      · subst hpi
        have hh := hself n c hp
        exact ⟨i, hi, rfl, hh.length ▸ hh⟩
      · rw [hsame p hpi] at hp
        obtain ⟨j, hj, rfl, hh⟩ := h.held l p n c hp
        have hji : j ≠ i := fun heq => hpi (heq ▸ rfl)
        have hh' := habout.holding hstep hji hh
        exact ⟨j, (hcreated j hji).mpr hj, rfl, hh'.length ▸ hh'⟩
    · rw [Function.update_of_ne hl] at hp ⊢
      obtain ⟨j, hj, rfl, hh⟩ := h.held l p n c hp
      have hji : j ≠ i := fun heq => hothers l hl (heq ▸ hj)
      have hh' := habout.holding hstep hji hh
      exact ⟨j, hj, rfl, hh'.length ▸ hh'⟩
  all l j hj := by
    obtain ⟨hmem, hrow⟩ := hj
    change j ∈ Function.update m.created k created l at hmem
    change RowLive b.vmem j at hrow
    by_cases hl : l = k
    · subst hl
      rw [Function.update_self] at hmem ⊢
      by_cases hji : j = i
      · subst hji
        exact hlive hrow
      · have hne : handleAddr table j ≠ handleAddr table i := fun heq => hji (handleAddr_inj heq)
        rw [hsame _ hne]
        exact h.all l j ⟨(hcreated j hji).mp hmem, (habout.rows j hji).mp hrow⟩
    · rw [Function.update_of_ne hl] at hmem ⊢
      have hji : j ≠ i := fun heq => hothers l hl (heq ▸ hmem)
      exact h.all l j ⟨hmem, (habout.rows j hji).mp hrow⟩

/-- What is held of a live row. -/
theorem Simulates.live (h : Simulates table m S) (hlive : LiveRow m k i) :
    ∃ n c, S k (handleAddr table i) = some (n, c) ∧ Holding m.vmem.table.length i n c m.vmem := by
  obtain ⟨⟨n, c⟩, hp⟩ := Option.isSome_iff_exists.mp (h.all k i hlive)
  obtain ⟨j, -, heq, hh⟩ := h.held k _ n c hp
  obtain rfl := handleAddr_inj heq
  exact ⟨n, c, hp, hh⟩

/-- A row of process `k` is no other's: the index at which rows are created is shared, and never
goes back. -/
theorem Shared.others (h : Shared m) (hi : i ∈ m.created k) : ∀ l, l ≠ k → i ∉ m.created l :=
  fun l hl hmem => hl (h.apart l k i hmem hi)

/-- Which calls are about one row only. -/
theorem onlyAbout_of_keepsRows {vmem vmem' : Vmem} (hkeeps : KeepsRows op)
    (hspares : ∀ j, j ≠ i → Spares j op) (hrecord : ∀ j, j ≠ i → ∀ c, op.record (fun _ => c) j = c)
    (hstep : VmemStep vmem op vmem') : OnlyAbout op i vmem vmem' where
  spares := hspares
  record := hrecord
  rows j _ := by rw [rowLive_iff_shape, rowLive_iff_shape, keepsRows_shape hkeeps hstep]

/-- A malloc makes a new row, and a new allocation in the store of its client. -/
theorem Simulates.malloc (h : Simulates table m S) {packet answer : CudaPacket} {semget : Bool}
    {dev : Option Grant} {swap : Bytes}
    (ha : m.vmem.device.Admits packet.args1.word0.toNat dev)
    (hs : swap.length = packet.args1.word0.toNat)
    (hsrv : nvbackCudaMallocSrv packet semget dev swap (m.view k) = some (b, answer, .ok)) :
    ∃ s, Alone (S k) (.malloc packet.args1.word0.toNat (handleAddr table m.vmapIndex)) s ∧
      Simulates table (m.put k b (m.vmapIndex :: m.created k)) (Function.update S k s) := by
  have hnew : ∀ l, m.vmapIndex ∉ m.created l :=
    fun l hl => Nat.lt_irrefl _ ((h.shared.lists l).below _ hl)
  have hnone : S k (handleAddr table m.vmapIndex) = none := by
    by_contra hsome
    obtain ⟨⟨n, c⟩, hp⟩ := Option.ne_none_iff_exists'.mp hsome
    obtain ⟨j, hj, heq, -⟩ := h.held k _ n c hp
    exact hnew k (handleAddr_inj heq ▸ hj)
  have hshared := h.shared.works (.malloc ha hs hsrv : Works table _ _ _)
  obtain ⟨-, -, hstatus⟩ | ⟨-, -, vmem, hv, -, rfl⟩ := nvbackCudaMallocSrv_cases hsrv
  · cases hstatus
  · have hstep : VmemStep m.vmem (.creat packet.args1.word0.toNat m.vmapIndex dev swap) vmem :=
      ⟨⟨ha, hs⟩, hv⟩
    obtain ⟨-, hrows⟩ := memMapCreat_rows hv
    have habout : OnlyAbout (.creat packet.args1.word0.toNat m.vmapIndex dev swap) m.vmapIndex
        m.vmem vmem := by
      refine ⟨fun j hj => hj.symm, fun j hj c => ?_, fun j hj => ?_⟩
      · rw [VmemOp.record, Function.update_of_ne hj]
      · unfold RowLive
        rw [hrows j hj]
        rfl
    refine ⟨_, .malloc hnone, ?_⟩
    refine h.serve hshared hstep habout (fun l _ => hnew l) ?_ List.mem_cons_self
      (fun p hp => Function.update_of_ne hp ..) ?_ ?_
    · intro j hj
      simp [hj]
    · intro n c hp
      rw [Function.update_self] at hp
      cases hp
      exact .creat h.shared.sound hstep
    · intro _
      rw [Function.update_self]
      rfl

/-- A free that reports no error has freed the row of its handle. -/
theorem nvbackCudaFreeSrv_ok {packet answer : CudaPacket} {s : BackendState}
    (herr : packet.retExVal.err ≠ 0)
    (h : nvbackCudaFreeSrv table packet s = some (b, answer, .ok)) :
    ∃ (id i : Nat) (vmem : Vmem), s.vmappedLocalArr[id]? = some (i : Int) ∧
      packet.args0.argp = handleAddr table i ∧ memMapDelete s.vmem i = some vmem ∧
      b = { s with vmem := vmem, vmappedLocalArr := s.vmappedLocalArr.set id (-1) } := by
  have hfails : succeeded packet = false := beq_eq_false_iff_ne.mpr herr
  unfold nvbackCudaFreeSrv at h
  split at h
  · next id hid =>
    obtain ⟨index, hindex, h⟩ := Option.bind_eq_some_iff.mp h
    obtain ⟨vmem, hdelete, heq⟩ := Option.map_eq_some_iff.mp h
    cases heq
    obtain ⟨i, hi, hp⟩ := memMapFindEntry_some hid
    obtain rfl : index = i := Option.some.inj (hindex.symm.trans hi)
    exact ⟨id + 1, i, vmem, hi, hp, hdelete, rfl⟩
  · rw [hfails] at h
    cases h
  · rw [hfails] at h
    cases h

/-- A free that is granted takes both away. -/
theorem Simulates.free (h : Simulates table m S) {packet answer : CudaPacket}
    (herr : packet.retExVal.err ≠ 0)
    (hsrv : nvbackCudaFreeSrv table packet (m.view k) = some (b, answer, .ok)) :
    ∃ s, Alone (S k) (.free packet.args0.argp) s ∧
      Simulates table (m.put k b (m.created k)) (Function.update S k s) := by
  have hshared := h.shared.works (.free hsrv : Works table _ _ _)
  obtain ⟨id, i, vmem, hid, hp, hv, rfl⟩ := nvbackCudaFreeSrv_ok herr hsrv
  have hlive : LiveRow m k i :=
    ((h.shared.lists k).listed i).mp (List.mem_of_getElem? hid)
  have hstep : VmemStep m.vmem (.delete i) vmem := ⟨trivial, hv⟩
  obtain ⟨hdead, hrows⟩ := memMapDelete_rows hv
  have habout : OnlyAbout (.delete i) i m.vmem vmem := by
    refine ⟨fun j hj => hj.symm, fun j hj c => ?_, hrows⟩
    rw [VmemOp.record, Function.update_of_ne hj]
  refine ⟨_, .free (hp ▸ h.all k i hlive), ?_⟩
  rw [hp]
  refine h.serve hshared hstep habout (h.shared.others hlive.1) (fun j _ => Iff.rfl) hlive.1
    (fun p hp => Function.update_of_ne hp ..) ?_ (fun hrow => absurd hrow hdead)
  intro n c hnone
  rw [Function.update_self] at hnone
  cases hnone

/-- A call that keeps the rows leaves the lists of the processes as they are. -/
theorem Shared.moved (h : Shared m) {vmem : Vmem} (hstep : VmemStep m.vmem op vmem)
    (hkeeps : KeepsRows op) :
    Shared (m.put k { m.view k with vmem := vmem } (m.created k)) := by
  have hput : m.put k { m.view k with vmem := vmem } (m.created k) = { m with vmem := vmem } := by
    simp [Processes.put, Processes.view]
  rw [hput]
  exact h.works (.move hkeeps hstep : Works 0 _ _ _)

/-- A copy to the device, and what is on its device side. -/
theorem nvbackCudaMemcpySrv_h2d_ok (h : Shared m) {packet answer : CudaPacket} {conn conn' : Conn}
    (hm : MethodId.ofCode packet.methodId = some .cudaMemcpyH2D)
    (hsrv : nvbackCudaMemcpySrv table addr fresh mallocs packet conn (m.view k) =
      some (b, answer, conn', .ok)) :
    ∃ i vmem, LiveRow m k i ∧ packet.args0.argp = handleAddr table i ∧
      VmemStep m.vmem (.copyIn i conn.pReqBuffer (asInt packet.args2.word0.toNat)) vmem ∧
      b = { m.view k with vmem := vmem } := by
  unfold nvbackCudaMemcpySrv at hsrv
  rw [hm] at hsrv
  dsimp only at hsrv
  split at hsrv
  · obtain ⟨⟨s, out⟩, hat, heq⟩ := Option.map_eq_some_iff.mp hsrv
    cases heq
    obtain ⟨i, vmem, hlive, hp, hcopy, rfl⟩ := h.memcpyAt_iff.mp hat
    refine ⟨i, vmem, hlive, hp, ⟨trivial, ?_⟩, rfl⟩
    simp only [VmemOp.exec, hcopy, Option.map_some]
  · cases hsrv

/-- A copy from the device. -/
theorem nvbackCudaMemcpySrv_d2h_ok (h : Shared m) {packet answer : CudaPacket} {conn conn' : Conn}
    {bs : Bytes} (hm : MethodId.ofCode packet.methodId = some .cudaMemcpyD2H)
    (hsrv : nvbackCudaMemcpySrv table addr fresh mallocs packet conn (m.view k) =
      some (b, answer, conn', .ok)) (hbs : conn'.pRspBuffer = some bs) :
    ∃ i vmem, LiveRow m k i ∧ packet.args1.argp = handleAddr table i ∧
      memMapMemcpy m.vmem i (fresh (countOf packet)).val [] (asInt packet.args2.word0.toNat) .d2h =
        some (vmem, bs) ∧ b = { m.view k with vmem := vmem } := by
  unfold nvbackCudaMemcpySrv at hsrv
  rw [hm] at hsrv
  dsimp only at hsrv
  split at hsrv
  · split at hsrv
    · cases hsrv
    · next buffer hbuffer =>
      obtain ⟨⟨s, out⟩, hat, heq⟩ := Option.map_eq_some_iff.mp hsrv
      cases heq
      cases hbs
      obtain ⟨i, vmem, hlive, hp, hcopy, rfl⟩ := h.memcpyAt_iff.mp hat
      unfold mallocInt at hbuffer
      split at hbuffer
      · cases hbuffer
        exact ⟨i, vmem, hlive, hp, hcopy, rfl⟩
      · cases hbuffer
  · cases hsrv

/-- Only the bytes that are copied matter. -/
theorem write_take (c : Contents) (src : Bytes) (n : Nat) :
    c.write (src.take n) n = c.write src n := by
  ext1 off
  unfold Contents.write
  split
  · next hlt => exact List.getElem?_take_of_lt hlt
  · rfl

/-- A copy to the device is written to the row, and to the store. -/
theorem Simulates.copyIn (h : Simulates table m S) {packet answer : CudaPacket}
    {conn conn' : Conn} (hm : MethodId.ofCode packet.methodId = some .cudaMemcpyH2D)
    (hsrv : nvbackCudaMemcpySrv table addr fresh mallocs packet conn (m.view k) =
      some (b, answer, conn', .ok)) :
    ∃ s, Alone (S k) (.write packet.args0.argp (conn.pReqBuffer.take (countOf packet))) s ∧
      Simulates table (m.put k b (m.created k)) (Function.update S k s) := by
  obtain ⟨i, vmem, hlive, hp, hstep, rfl⟩ := nvbackCudaMemcpySrv_h2d_ok h.shared hm hsrv
  obtain ⟨n, c, hS, hh⟩ := h.live hlive
  obtain ⟨⟨vmem', out⟩, hcopy, heq⟩ := Option.map_eq_some_iff.mp hstep.2
  obtain rfl : vmem' = vmem := heq
  obtain ⟨row, hrow, hv, hsize, -⟩ := hh.row
  obtain ⟨node, node', d', hnode, hnonneg, -, -, -⟩ := memMapMemcpy_h2d_cases hcopy
  have hcount : (countOf packet : Int) = asInt packet.args2.word0.toNat :=
    Int.toNat_of_nonneg hnonneg
  rw [← hcount] at hcopy
  have hsized := (hh.sound.rows i row hrow).swap hv
  obtain ⟨hle, hsrc⟩ := (memMapMemcpy_h2d_isSome hrow hsized []).mp
    (Option.isSome_iff_exists.mpr ⟨_, hcopy⟩)
  have hlen : (conn.pReqBuffer.take (countOf packet)).length = countOf packet :=
    List.length_take_of_le hsrc
  have habout : OnlyAbout (.copyIn i conn.pReqBuffer (asInt packet.args2.word0.toNat)) i m.vmem
      vmem' := by
    refine onlyAbout_of_keepsRows trivial (fun _ _ => trivial) (fun j hj c => ?_) hstep
    rw [VmemOp.record, Function.update_of_ne hj]
  rw [hp]
  refine ⟨_, .write hS (by omega), ?_⟩
  refine h.serve (h.shared.moved hstep trivial) hstep habout (h.shared.others hlive.1)
    (fun j _ => Iff.rfl) hlive.1 (fun p hp => Function.update_of_ne hp ..) ?_ ?_
  · intro n' c' heq
    rw [Function.update_self] at heq
    cases heq
    have hspares : Spares i (.copyIn i conn.pReqBuffer (asInt packet.args2.word0.toNat)) := trivial
    have hnext := @Holding.step _ i n m.vmem vmem' (fun _ => c) _ hh hspares hstep
    rw [VmemOp.record, Function.update_self] at hnext
    rw [hlen, write_take]
    exact hnext
  · intro _
    rw [Function.update_self]
    rfl

/-- A copy from the device delivers what the row holds, which is what the store does. -/
theorem Simulates.copyOut (h : Simulates table m S) {packet answer : CudaPacket}
    {conn conn' : Conn} {bs : Bytes} (hm : MethodId.ofCode packet.methodId = some .cudaMemcpyD2H)
    (hsrv : nvbackCudaMemcpySrv table addr fresh mallocs packet conn (m.view k) =
      some (b, answer, conn', .ok)) (hbs : conn'.pRspBuffer = some bs) :
    ∃ s, Alone (S k) (.read packet.args1.argp bs) s ∧
      Simulates table (m.put k b (m.created k)) (Function.update S k s) := by
  obtain ⟨i, vmem, hlive, hp, hcopy, rfl⟩ := nvbackCudaMemcpySrv_d2h_ok h.shared hm hsrv hbs
  obtain ⟨n, c, hS, hh⟩ := h.live hlive
  have hlen : bs.length = countOf packet :=
    (memMapMemcpy_d2h_length hcopy).trans (fresh (countOf packet)).property
  have hstep : VmemStep m.vmem
      (.copyOut i (fresh (countOf packet)).val (asInt packet.args2.word0.toNat)) vmem := by
    refine ⟨trivial, ?_⟩
    have hsrc : ∀ src : Bytes, memMapMemcpy m.vmem i (fresh (countOf packet)).val src
        (asInt packet.args2.word0.toNat) .d2h = some (vmem, bs) := fun src => hcopy
    simp only [VmemOp.exec, hsrc, Option.map_some]
  obtain ⟨row, hrow, hv, hsize, hbacked⟩ := hh.row
  obtain ⟨node, node', hnode, hout, -⟩ := memMapMemcpy_d2h_cases hcopy
  obtain rfl : row = node := Option.some.inj (hrow.symm.trans hnode)
  have hsized := (hh.sound.rows i row hrow).swap hv
  have habout : OnlyAbout (.copyOut i (fresh (countOf packet)).val
      (asInt packet.args2.word0.toNat)) i m.vmem vmem :=
    onlyAbout_of_keepsRows trivial (fun _ _ => trivial) (fun _ _ _ => rfl) hstep
  rw [hp]
  refine ⟨S k, .read hS ?_, ?_⟩
  · intro off hoff byte hbyte
    rw [hlen] at hoff
    exact hbacked.delivers hsized hout off hoff byte hbyte
  · refine h.serve (h.shared.moved hstep trivial) hstep habout (h.shared.others hlive.1)
      (fun j _ => Iff.rfl) hlive.1 (fun p _ => rfl) ?_ (fun _ => hS ▸ rfl)
    intro n' c' heq
    obtain ⟨rfl, rfl⟩ := Prod.mk.inj (Option.some.inj (hS.symm.trans heq))
    have hspares : Spares i (.copyOut i (fresh (countOf packet)).val
      (asInt packet.args2.word0.toNat)) := trivial
    exact @Holding.step _ i n m.vmem vmem (fun _ => c) _ hh hspares hstep

/-- A round of page-outs changes no store at all: rows move between the device and the host, and
hold what they held. -/
theorem Simulates.pageOut (h : Simulates table m S) {reqarr : List Nat} {vmem : Vmem}
    (hstep : VmemStep m.vmem (.pageOut reqarr) vmem) :
    Simulates table { m with vmem := vmem } S where
  shared := by
    have hkeeps : KeepsRows (.pageOut reqarr) := trivial
    exact h.shared.works (.move hkeeps hstep : Works table _ _ _)
  held k p n c hp := by
    obtain ⟨i, hi, rfl, hh⟩ := h.held k p n c hp
    have hspares : Spares i (.pageOut reqarr) := trivial
    have hnext := @Holding.step _ i n m.vmem vmem (fun _ => c) _ hh hspares hstep
    exact ⟨i, hi, rfl, hnext.length ▸ hnext⟩
  all k i hlive := by
    refine h.all k i ⟨hlive.1, ?_⟩
    have hkeeps : KeepsRows (.pageOut reqarr) := trivial
    have hrow : RowLive vmem i := hlive.2
    rwa [rowLive_iff_shape, keepsRows_shape hkeeps hstep, ← rowLive_iff_shape] at hrow

end

/-- The device with the block of row 0, before and after that is written. -/
def granted : Device := Device.cudaMalloc ⟨fun _ => none⟩ ⟨64, [0, 0]⟩

def written : Device := granted.cudaMemcpyHtoD 64 [5, 6] 2

end GpuVirtmem.Backend
