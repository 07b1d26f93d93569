import GpuVirtmem.Lib.Mutex
import GpuVirtmem.Sched.Bracket
import GpuVirtmem.Sched.Sweep

/-!
# The mutex of the table (`l2scheduler/fair_share_sched.c`, `l2scheduler/pager.c`)

`sched_index_mut` is locked in six places: before and after a dispatch and in
`fs_calculate_timeslice`, and around each of the three writes of `pager_worker`. The call after the
dispatch was meant to unlock it. Each thread is at a statement of its own; what it does to the table
is as in `Sched.Control` and `Sched.Bracket`, cut at the calls on the mutex. The listeners do not
lock it.

The discipline of `Lib.Mutex` is the plan of the proof: `Place.op` says what the next statement does
with the mutex and `Place.holds` who has it, and one case analysis over the statements
(`Moves.changes`) shows that the two fit, with the exception of the one that was meant to be an
unlock. The table itself plays no part in it.

What the mutex is there for, that the table is not torn between two writers, is not looked at. It is
enough to see that after the first dispatch nobody else can lock it (`Seized`).
-/

namespace GpuVirtmem.Sched

open Lib

/-! ## The statements -/

/-- The threads that touch the table. -/
inductive TableThread
  | control (gpuid : Nat)
  | pager
  | listener (gpuid : Nat)
  deriving DecidableEq

/-- The next statement of `fs_control_thread`, from `toCalculate` on of `fs_calculate_timeslice`,
which it calls at the wrap. -/
inductive ControlStage
  | head | toLock | locked | waiting | toLockAgain | lockedAgain
  | toCalculate | firstLoop | secondLoop (totalShares : Int32) | early | last

/-- Before a write of `pager_worker`, and around it. -/
inductive WriteStage
  | lock | write | unlock

/-- The next statement of `pager_worker`, which serves a request of process `pid` and has the
victims in `rest` before it. -/
inductive PagerStage
  | head
  | victims (pid : Nat) (rest : List Nat)
  | paging (stage : WriteStage) (schedIndex : Slot) (pid : Nat) (rest : List Nat)
  | exchange (schedIndex : Slot) (pid : Nat) (rest : List Nat)
  | active (stage : WriteStage) (schedIndex : Slot) (pid : Nat) (rest : List Nat)
  | finish (stage : WriteStage) (schedDataIdx : Slot)

/-- Where a thread is. -/
inductive Place
  | control (thid : Slot) (stage : ControlStage)
  | pager (stage : PagerStage)
  | listener

/-- The labels of the statements. -/
inductive Stmt
  | idle | pass | skip | noShare | choose | lock | unready | dispatch | wake (sig : IntervalEnd)
  | lockAgain | measure (measured : Timeval) | lockTable | firstLoop | secondLoop
  | unlockEarly | unlockLast
  | request (pid : Nat) (victims : List Nat) | victim | lastVictim | exchange
  | lockWrite | write | unlockWrite
  | table (d : SchedulerData)

/-- After `thid = (thid + 1) % MAX_CONTROLLER_COUNT`. -/
def Place.moveOn (j : Slot) : Place :=
  .control (nextSlot j) (if nextSlot j < j then .toCalculate else .head)

/-- After the first loop of `fs_calculate_timeslice`. -/
def Shares.stage (n : Shares) : ControlStage :=
  if n.activeCount = 0 ∨ n.totalShares = 0 then .early else .secondLoop n.totalShares

/-- What a statement does to the table; `unset` gives the variables `share_unit` and `i` of each
control thread. -/
inductive Moves (unset : Nat → UInt64 × Nat) :
    TableThread → SchedulerData → Place → Stmt → SchedulerData → Place → Prop
  | idle {g : Nat} {d : SchedulerData} {j : Slot} (hidles : d.Idles) :
      Moves unset (.control g) d (.control j .head) .idle d (.control j .head)
  | pass {g : Nat} {d : SchedulerData} {j : Slot} (hidles : ¬ d.Idles)
      (hpass : ¬ (d.entry j).ActiveOn g) :
      Moves unset (.control g) d (.control j .head) .pass d (.moveOn j)
  | skip {g : Nat} {d : SchedulerData} {j : Slot} (hidles : ¬ d.Idles)
      (hskip : (d.entry j).ToSkip g) :
      Moves unset (.control g) d (.control j .head) .skip
        (d.set j { d.entry j with penaltyEpochs := (d.entry j).penaltyEpochs - 1 }) (.moveOn j)
  | noShare {g : Nat} {d : SchedulerData} {j : Slot} (hidles : ¬ d.Idles)
      (hready : (d.entry j).ToDispatch g) (hshare : (unset g).1 = 0) :
      Moves unset (.control g) d (.control j .head) .noShare d (.moveOn j)
  | choose {g : Nat} {d : SchedulerData} {j : Slot} (hidles : ¬ d.Idles)
      (hready : (d.entry j).ToDispatch g) (hshare : (unset g).1 ≠ 0) :
      Moves unset (.control g) d (.control j .head) .choose d (.control j .toLock)
  | lock {g : Nat} {d : SchedulerData} {j : Slot} :
      Moves unset (.control g) d (.control j .toLock) .lock d (.control j .locked)
  | unready {g : Nat} {d : SchedulerData} {j : Slot}
      (hstate : (d.entry j).state ≠ .procActive) :
      Moves unset (.control g) d (.control j .locked) .unready d (.control j .toLockAgain)
  | dispatch {g : Nat} {d : SchedulerData} {j : Slot}
      (hstate : (d.entry j).state = .procActive) :
      Moves unset (.control g) d (.control j .locked) .dispatch d (.control j .waiting)
  | wake {g : Nat} {d d' : SchedulerData} {j : Slot} (sig : IntervalEnd)
      (hsig : d.intervalEnded (unset g).2 sig = some d') :
      Moves unset (.control g) d (.control j .waiting) (.wake sig) d' (.control j .toLockAgain)
  | lockAgain {g : Nat} {d : SchedulerData} {j : Slot} :
      Moves unset (.control g) d (.control j .toLockAgain) .lockAgain d (.control j .lockedAgain)
  | measure {g : Nat} {d : SchedulerData} {j : Slot} (measured : Timeval) :
      Moves unset (.control g) d (.control j .lockedAgain) (.measure measured)
        (d.set j { d.entry j with executionTime := measured }) (.moveOn j)
  | lockTable {g : Nat} {d : SchedulerData} {j : Slot} :
      Moves unset (.control g) d (.control j .toCalculate) .lockTable d (.control j .firstLoop)
  | firstLoop {g : Nat} {d : SchedulerData} {j : Slot} :
      Moves unset (.control g) d (.control j .firstLoop) .firstLoop
        (d.mapEntries (Entry.endEpoch g))
        (.control j ((d.mapEntries (Entry.endEpoch g)).shares g).stage)
  | secondLoop {g : Nat} {d : SchedulerData} {j : Slot} {n : Int32} :
      Moves unset (.control g) d (.control j (.secondLoop n)) .secondLoop
        (d.mapEntries (Entry.allocate g n)) (.control j .last)
  | unlockEarly {g : Nat} {d : SchedulerData} {j : Slot} :
      Moves unset (.control g) d (.control j .early) .unlockEarly d (.control j .head)
  | unlockLast {g : Nat} {d : SchedulerData} {j : Slot} :
      Moves unset (.control g) d (.control j .last) .unlockLast d (.control j .head)
  | request {d : SchedulerData} (pid : Nat) (victims : List Nat) :
      Moves unset .pager d (.pager .head) (.request pid victims) d (.pager (.victims pid victims))
  | victim {d : SchedulerData} {pid v : Nat} {rest : List Nat} :
      Moves unset .pager d (.pager (.victims pid (v :: rest))) .victim d
        (.pager (.paging .lock (d.schedIndex v) pid rest))
  | lockPaging {d : SchedulerData} {k : Slot} {pid : Nat} {rest : List Nat} :
      Moves unset .pager d (.pager (.paging .lock k pid rest)) .lockWrite d
        (.pager (.paging .write k pid rest))
  | writePaging {d : SchedulerData} {k : Slot} {pid : Nat} {rest : List Nat} :
      Moves unset .pager d (.pager (.paging .write k pid rest)) .write (d.setState k .procPaging)
        (.pager (.paging .unlock k pid rest))
  | unlockPaging {d : SchedulerData} {k : Slot} {pid : Nat} {rest : List Nat} :
      Moves unset .pager d (.pager (.paging .unlock k pid rest)) .unlockWrite d
        (.pager (.exchange k pid rest))
  | exchange {d : SchedulerData} {k : Slot} {pid : Nat} {rest : List Nat} :
      Moves unset .pager d (.pager (.exchange k pid rest)) .exchange d
        (.pager (.active .lock k pid rest))
  | lockActive {d : SchedulerData} {k : Slot} {pid : Nat} {rest : List Nat} :
      Moves unset .pager d (.pager (.active .lock k pid rest)) .lockWrite d
        (.pager (.active .write k pid rest))
  | writeActive {d : SchedulerData} {k : Slot} {pid : Nat} {rest : List Nat} :
      Moves unset .pager d (.pager (.active .write k pid rest)) .write (d.setState k .procActive)
        (.pager (.active .unlock k pid rest))
  | unlockActive {d : SchedulerData} {k : Slot} {pid : Nat} {rest : List Nat} :
      Moves unset .pager d (.pager (.active .unlock k pid rest)) .unlockWrite d
        (.pager (.victims pid rest))
  | lastVictim {d : SchedulerData} {pid : Nat} :
      Moves unset .pager d (.pager (.victims pid [])) .lastVictim d
        (.pager (.finish .lock (d.schedIndex pid)))
  | lockFinish {d : SchedulerData} {k : Slot} :
      Moves unset .pager d (.pager (.finish .lock k)) .lockWrite d (.pager (.finish .write k))
  | writeFinish {d : SchedulerData} {k : Slot} :
      Moves unset .pager d (.pager (.finish .write k)) .write (d.setState k .procActive)
        (.pager (.finish .unlock k))
  | unlockFinish {d : SchedulerData} {k : Slot} :
      Moves unset .pager d (.pager (.finish .unlock k)) .unlockWrite d (.pager .head)
  | table {g : Nat} {d : SchedulerData} (d' : SchedulerData) :
      Moves unset (.listener g) d .listener (.table d') d' .listener

/-! ## Who holds the mutex -/

/-- What the next statement does with the mutex. -/
def Place.op : Place → MutexOp
  | .control _ .toLock | .control _ .toLockAgain | .control _ .toCalculate => .lock
  | .control _ .early | .control _ .last => .unlock
  | .pager (.paging .lock ..) | .pager (.active .lock ..) | .pager (.finish .lock _) => .lock
  | .pager (.paging .unlock ..) | .pager (.active .unlock ..) | .pager (.finish .unlock _) =>
    .unlock
  | _ => .other

/-- The thread holds the mutex. -/
def Place.holds : Place → Bool
  | .control _ stage =>
    match stage with
    | .head | .toLock | .toCalculate => false
    | .locked | .waiting | .toLockAgain | .lockedAgain | .firstLoop | .secondLoop _ | .early
    | .last => true
  | .pager (.paging .lock ..) | .pager (.active .lock ..) | .pager (.finish .lock _) => false
  | .pager (.paging ..) | .pager (.active ..) | .pager (.finish ..) => true
  | .pager _ | .listener => false

/-- The head of the main loop. -/
def Place.atHead : Place → Bool
  | .control _ .head | .pager .head => true
  | _ => false

/-- A control thread that has dispatched, or has not, is about to lock the mutex again. -/
def Place.again : Place → Bool
  | .control _ .toLockAgain => true
  | _ => false

/-- The second lock of the control thread has been completed. -/
def Place.lockedTwice : Place → Bool
  | .control _ .lockedAgain => true
  | _ => false

/-- The threads, the table and the mutex. -/
abbrev Locking := Threads TableThread SchedulerData Place

/-- A step of any of the threads. -/
abbrev Locking.Step (unset : Nat → UInt64 × Nat) : Locking → TableThread × Stmt → Locking → Prop :=
  Threads.Step Place.op (Moves unset)

/-- Where a thread starts. -/
def TableThread.start : TableThread → Place
  | .control _ => .control firstSlot .head
  | .pager => .pager .head
  | .listener _ => .listener

/-- All threads are at the head of their loops, and the mutex is free. -/
def Locking.start (d : SchedulerData) : Locking :=
  { data := d, place := TableThread.start, owner := none }

/-- The mutex is used properly. -/
def Locking.Proper (s : Locking) : Prop :=
  Threads.Proper Place.op (fun p => p.atHead = true) s

/-- The statement ends a dispatch: its interval has ended, or the slot is no longer active. -/
def Stmt.EndsDispatch : Stmt → Prop
  | .unready | .wake _ => True
  | _ => False

section

variable {unset : Nat → UInt64 × Nat} {s t : Locking} {d d' : SchedulerData} {p p' : Place}
  {i : TableThread} {e : Stmt} {es : List (TableThread × Stmt)} {j : Slot}

/-- The two loops are `fs_calculate_timeslice`: cut into statements it does what it does as a whole
in `Sched.Control`. -/
theorem loops_eq (g : Nat) (d : SchedulerData) :
    fsCalculateTimeslice g d =
      match ((d.mapEntries (Entry.endEpoch g)).shares g).stage with
      | .secondLoop n => (d.mapEntries (Entry.endEpoch g)).mapEntries (Entry.allocate g n)
      | _ => d.mapEntries (Entry.endEpoch g) := by
  unfold fsCalculateTimeslice Shares.stage
  dsimp only
  split
  · rfl
  · rfl

/-- The thread that goes on to the next slot has no mutex. -/
theorem Place.moveOn_holds : (moveOn j).holds = false := by
  unfold moveOn
  split <;> rfl

/-- Nor is it about to lock one that it has. -/
theorem Place.moveOn_again : (moveOn j).again = false := by
  unfold moveOn
  split <;> rfl

theorem Place.moveOn_lockedTwice : (moveOn j).lockedTwice = false := by
  unfold moveOn
  split <;> rfl

/-- Between the two loops of `fs_calculate_timeslice` the mutex is held. -/
theorem Shares.stage_holds (n : Shares) : (Place.control j n.stage).holds = true := by
  unfold stage
  split <;> rfl

theorem Shares.stage_again (n : Shares) : (Place.control j n.stage).again = false := by
  unfold stage
  split <;> rfl

theorem Shares.stage_lockedTwice (n : Shares) : (Place.control j n.stage).lockedTwice = false := by
  unfold stage
  split <;> rfl

/-- The statement changes who holds the mutex as its operation says. -/
def Place.Changes (p p' : Place) : MutexOp → Prop
  | .lock => p.holds = false ∧ p'.holds = true
  | .unlock => p.holds = true ∧ p'.holds = false
  | .other => p'.holds = p.holds

/-- Every statement but a second lock changes the place accordingly, and none but the end of a
dispatch leads to a second lock. The one case analysis over all statements of all threads. -/
theorem Moves.changes (h : Moves unset i d p e d' p') (htwice : p.lockedTwice = false)
    (hagain : p.again = false) : p.Changes p' p.op ∧ p'.lockedTwice = false ∧
      (p'.again = true → e.EndsDispatch) := by
  cases h with
  | pass | skip | noShare =>
    refine ⟨Place.moveOn_holds, Place.moveOn_lockedTwice, fun h => ?_⟩
    rw [Place.moveOn_again] at h
    cases h
  | firstLoop =>
    refine ⟨Shares.stage_holds _, Shares.stage_lockedTwice _, fun h => ?_⟩
    rw [Shares.stage_again] at h
    cases h
  | lockAgain => cases hagain
  | measure => cases htwice
  | unready | wake => exact ⟨rfl, rfl, fun _ => trivial⟩
  | idle | choose | dispatch | secondLoop | request | victim | writePaging | exchange | writeActive
  | lastVictim | writeFinish | table => exact ⟨rfl, rfl, fun h => absurd h Bool.false_ne_true⟩
  | lock | lockTable | lockPaging | lockActive | lockFinish | unlockEarly | unlockLast
  | unlockPaging | unlockActive | unlockFinish =>
    exact ⟨⟨rfl, rfl⟩, rfl, fun h => absurd h Bool.false_ne_true⟩

/-- A second lock is the one statement that would lock a mutex that is held. -/
theorem Place.again_iff (p : Place) : p.again = true ↔ p.op = .lock ∧ p.holds = true := by
  cases p with
  | control thid stage => cases stage <;> simp [again, op, holds]
  | pager stage =>
    cases stage with
    | paging stage | active stage | finish stage => cases stage <;> simp [again, op, holds]
    | head | victims | exchange => simp [again, op, holds]
  | listener => simp [again, op, holds]

/-- No thread unlocks a mutex that it does not hold. -/
theorem Place.holds_of_unlock (h : p.op = .unlock) : p.holds = true := by
  cases p with
  | control thid stage => cases stage <;> simp_all [op, holds]
  | pager stage =>
    cases stage with
    | paging stage | active stage | finish stage => cases stage <;> simp_all [op, holds]
    | head | victims | exchange => cases h
  | listener => cases h

/-- At the head of its main loop no thread holds it. -/
theorem Place.holds_of_atHead (h : p.atHead = true) : ¬ p.holds = true := by
  cases p with
  | control thid stage => cases stage <;> simp_all [atHead, holds]
  | pager stage => cases stage <;> simp_all [atHead, holds]
  | listener => cases h

/-- The statements keep to the places where the mutex is held. The second lock is a statement of
theirs that is never completed, since the mutex is not free. -/
theorem discipline (unset : Nat → UInt64 × Nat) :
    Discipline Place.op (Moves unset) (fun p => p.holds = true)
      (fun p => p.lockedTwice = false) := by
  have hagain : ∀ {p : Place}, ¬ (p.op = .lock ∧ p.holds = true) → p.again = false := by
    intro p hnot
    rw [← Bool.not_eq_true, p.again_iff]
    exact hnot
  constructor
  · intro i d p e d' p' h hvisits hop hnot
    obtain ⟨hchanges, htwice, -⟩ := h.changes hvisits (hagain fun hall => hnot hall.2)
    rw [hop] at hchanges
    exact ⟨hchanges.2, htwice⟩
  · intro i d p e d' p' h hvisits hop
    have hother : ¬ (p.op = .lock ∧ p.holds = true) := by
      rw [hop]
      simp
    obtain ⟨hchanges, htwice, -⟩ := h.changes hvisits (hagain hother)
    rw [hop] at hchanges
    exact ⟨hchanges.1, by simp [hchanges.2], htwice⟩
  · intro i d p e d' p' h hvisits hop
    have hother : ¬ (p.op = .lock ∧ p.holds = true) := by
      rw [hop]
      simp
    obtain ⟨hchanges, htwice, -⟩ := h.changes hvisits (hagain hother)
    rw [hop] at hchanges
    exact ⟨by rw [hchanges], htwice⟩

/-! ## Runs -/

/-- At the start nobody holds the mutex. -/
theorem start_owned (d : SchedulerData) :
    (Locking.start d).Owned (fun p => p.holds = true) (fun p => p.lockedTwice = false) := by
  constructor
  · intro i
    cases i <;> simp [Locking.start, TableThread.start, Place.holds]
  · intro i
    cases i <;> rfl

/-- In every state of a run the place of each thread says whether it holds the mutex. -/
theorem owned_of_run (r : Run (Locking.Step unset) (Locking.start d) es t) :
    t.Owned (fun p => p.holds = true) (fun p => p.lockedTwice = false) :=
  Threads.owned_of_run (discipline unset) (start_owned d) r

/-- The mutex is used properly where no control thread is about to lock it again. -/
theorem proper_iff (r : Run (Locking.Step unset) (Locking.start d) es t) :
    t.Proper ↔ ∀ i, (t.place i).again = false := by
  have hown := owned_of_run r
  unfold Locking.Proper
  rw [hown.proper_iff (fun _ => Place.holds_of_unlock) (fun _ => Place.holds_of_atHead)]
  refine forall_congr' fun i => ?_
  rw [← Bool.not_eq_true, Place.again_iff, not_and]

/-- The step that ends a dispatch leads to a second lock. -/
theorem again_of_endsDispatch (h : Locking.Step unset s (i, e) t) (he : e.EndsDispatch) :
    (t.place i).again = true := by
  cases h with
  | intro hmove hlock =>
    generalize hp : s.place i = p at hmove
    cases hmove <;> first | (simp [Place.again]; done) | cases he

/-- The mutex is used properly in every state of a run exactly if no dispatch comes to its end in
it.

The end of the first dispatch is enough: what was meant to unlock the mutex locks it again. Up to
that point everything is in order, for any number of GPUs and requests to the pager. -/
theorem alwaysProper_iff (r : Run (Locking.Step unset) (Locking.start d) es t) :
    Always (Locking.Step unset) (Locking.start d) es (fun _ u => u.Proper) ↔
      ∀ i e, (i, e) ∈ es → ¬ e.EndsDispatch := by
  constructor
  · intro hproper i e hmem he
    obtain ⟨before, after, rfl⟩ := List.append_of_mem hmem
    rw [List.append_cons] at r hproper
    obtain ⟨u, ru, -⟩ := r.split
    obtain ⟨s, -, hstep⟩ := ru.last
    have hfree := (proper_iff ru).mp (hproper _ u (List.prefix_append ..) ru) i
    rw [again_of_endsDispatch hstep he] at hfree
    cases hfree
  · intro hnone before u hpre ru
    rw [proper_iff ru]
    have hbefore : ∀ i e, (i, e) ∈ before → ¬ e.EndsDispatch := fun i e hmem =>
      hnone i e (hpre.subset hmem)
    clear hpre
    induction ru with
    | start =>
      intro i
      cases i <;> rfl
    | @snoc before s u e ru h ih =>
      have hs := ih fun i e hmem => hbefore i e (List.mem_append_left _ hmem)
      have htwice := (owned_of_run ru).visits
      cases h with
      | @intro i e d' p hmove hlock =>
        intro j
        by_cases hj : j = i
        · subst hj
          have hlast := hbefore j e (List.mem_append_right _ List.mem_cons_self)
          have hends := (hmove.changes (htwice j) (hs j)).2.2
          simp only [Function.update_self]
          rw [← Bool.not_eq_true]
          exact fun hagain => hlast (hends hagain)
        · simp only [Function.update_of_ne hj]
          exact hs j

end

/-- Process 7 is dispatched, and its interval ends. -/
def oneDispatch : List (TableThread × Stmt) :=
  [(.control 0, .choose), (.control 0, .lock), (.control 0, .dispatch),
    (.control 0, .wake .sigrtmin)]

/-- The variables of the control threads, with a share that is not zero. -/
def unsetOne (_ : Nat) : UInt64 × Nat := (1, 0)

/-- The control thread of GPU 0 takes a statement on the table of one process. -/
theorem exists_stage {s : Locking} {stage stage' : ControlStage} {e : Stmt}
    (hdata : s.data = oneReady) (hplace : s.place (.control 0) = .control firstSlot stage)
    (hmove : Moves unsetOne (.control 0) oneReady (.control firstSlot stage) e oneReady
      (.control firstSlot stage'))
    (hlock : (Place.control firstSlot stage).op = .lock → s.owner = none) :
    ∃ t, Locking.Step unsetOne s (.control 0, e) t ∧ t.data = oneReady ∧
      t.place (.control 0) = .control firstSlot stage' ∧
      t.owner = (Place.control firstSlot stage).op.owner (.control 0) s.owner := by
  rw [← hdata] at hmove
  obtain ⟨t, hstep, hdata', hplace', howner⟩ := Threads.exists_step hplace hmove hlock
  exact ⟨t, hstep, hdata'.trans hdata, hplace', howner⟩

/-- The dispatch can be made, from the table with a process that is ready. -/
theorem exists_oneDispatch :
    ∃ t, Run (Locking.Step unsetOne) (Locking.start oneReady) oneDispatch t := by
  have hready : (oneReady.entry firstSlot).ToDispatch 0 := by decide
  obtain ⟨s₁, h₁, hdata₁, hplace₁, howner₁⟩ := exists_stage (s := Locking.start oneReady) rfl rfl
    (.choose oneReady_not_idles hready UInt64.zero_ne_one.symm) (by simp [Place.op])
  obtain ⟨s₂, h₂, hdata₂, hplace₂, -⟩ := exists_stage hdata₁ hplace₁ .lock (fun _ => howner₁)
  obtain ⟨s₃, h₃, hdata₃, hplace₃, -⟩ :=
    exists_stage hdata₂ hplace₂ (.dispatch hready.1.2) (by simp [Place.op])
  obtain ⟨s₄, h₄, -⟩ :=
    exists_stage hdata₃ hplace₃ (.wake .sigrtmin rfl) (by simp [Place.op])
  exact ⟨s₄, (((Run.start.cons h₄).cons h₃).cons h₂).cons h₁⟩

/-- One dispatch that comes to its end, so that the mutex is not used properly in every state of its
run. -/
theorem alwaysProper_iff_oneDispatch : ∃ t,
    Run (Locking.Step unsetOne) (Locking.start oneReady) oneDispatch t ∧
      (Always (Locking.Step unsetOne) (Locking.start oneReady) oneDispatch (fun _ u => u.Proper) ↔
        ∀ i e, (i, e) ∈ oneDispatch → ¬ e.EndsDispatch) := by
  obtain ⟨t, r⟩ := exists_oneDispatch
  exact ⟨t, r, alwaysProper_iff r⟩

/-- After its first dispatch the control thread locks the mutex that it holds. It holds it from then
on, and every other thread that comes to a lock waits for it. -/
theorem locked_twice : ¬ ∀ (unset : Nat → UInt64 × Nat) (d : SchedulerData)
    (es : List (TableThread × Stmt)) (t : Locking),
    Run (Locking.Step unset) (Locking.start d) es t →
      Always (Locking.Step unset) (Locking.start d) es fun _ u => u.Proper := by
  intro hclaim
  obtain ⟨t, r⟩ := exists_oneDispatch
  have hproper := hclaim _ _ _ _ r _ t List.prefix_rfl r
  have hsplit : oneDispatch =
      [(.control 0, .choose), (.control 0, .lock), (.control 0, .dispatch)] ++
        [(.control 0, .wake .sigrtmin)] := rfl
  rw [hsplit] at r
  obtain ⟨s, -, hstep⟩ := r.last
  have hfree := (proper_iff r).mp hproper (.control 0)
  rw [again_of_endsDispatch hstep trivial] at hfree
  cases hfree

end GpuVirtmem.Sched
