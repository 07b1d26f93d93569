import GpuVirtmem.Sched.Sweep
import Mathlib.Data.Rat.Floor

/-!
# The time slices that processes are dispatched with (`l2scheduler/fair_share_sched.c`)

`fs_calculate_timeslice` sets the slices when a control thread wraps, and the thread reads the slice
of a slot when it chooses it. A process that registers ahead of the thread is chosen in the same
sweep, with what an earlier process has left in its slot. The quotient is taken in exact rational
arithmetic here. The clock and the times beside the table are not in the source: they say which of
two things was first.

The invariant (`Kept`) says for each active slot where its slice comes from: from the last wrap, if
the process had registered by then, or from before. It has to speak of times, since the table does
not show which it is. The condition in `carriesSlice_iff` is on the order of the events and on the
totals of the shares, and not on the value of any slice.
-/

namespace GpuVirtmem.Sched

open Lib

/-! ## `fs_calculate_timeslice`, whatever the arithmetic -/

/-- The second loop on one slot. -/
def Entry.allot (gpuid : Nat) (usec : Int64) (e : Entry) : Entry :=
  if e.ActiveOn gpuid then { e with allocatedTime := ⟨0, usec⟩ } else e

/-- The counts of the first loop let `fs_calculate_timeslice` go on to the second. -/
abbrev Shares.Positive (n : Shares) : Prop := n.activeCount ≠ 0 ∧ n.totalShares ≠ 0

/-- `fs_calculate_timeslice`, where `usec` is `base_share * 1000`. -/
def calculateTimeslice (usec : Int32 → Int64) (gpuid : Nat) (d : SchedulerData) : SchedulerData :=
  let ended := d.mapEntries (Entry.endEpoch gpuid)
  let n := ended.shares gpuid
  if n.Positive then ended.mapEntries (Entry.allot gpuid (usec n.totalShares)) else ended

/-- In single precision it is the function of the source. The exact arithmetic is used in this
module instead, and what is said about it does not carry over to the last microsecond. -/
theorem fsCalculateTimeslice_eq (gpuid : Nat) (d : SchedulerData) :
    fsCalculateTimeslice gpuid d = calculateTimeslice baseShareUsec gpuid d := by
  unfold fsCalculateTimeslice calculateTimeslice
  dsimp only
  by_cases hpos : ((d.mapEntries (Entry.endEpoch gpuid)).shares gpuid).Positive
  · rw [if_pos hpos, if_neg fun h => h.elim hpos.1 hpos.2]
    rfl
  · rw [if_neg hpos, if_pos]
    by_contra hnot
    rw [not_or] at hnot
    exact hpos hnot

/-- `base_share * 1000` in exact arithmetic, rounded down. -/
def exactUsec (totalShares : Int32) : Int64 :=
  .ofInt ⌊(epochLength.toInt : ℚ) / (totalShares.toInt : ℚ) * 1000⌋

/-! ## The threads -/

/-- Where a control thread is. -/
structure ControlThread where
  thid : Slot
  pc : ControlPc

/-- The table and the control thread of each GPU, with the time; for each process when it last
registered, for each slot when its slice was last set, and for each thread when the slice it has
read was. `wrapped` and `total` are the time and the total of the last wrap of a thread at which it
set slices. -/
structure Slices where
  data : SchedulerData
  thread : Nat → ControlThread
  clock : Nat
  registered : Nat → Nat
  computed : Slot → Nat
  carried : Nat → Nat
  wrapped : Nat → Nat
  total : Nat → Int32

/-- A message that a listener handles, or a step of the control thread of a GPU. -/
inductive SliceEvent
  | listen (gpuid : Nat) (pcd : ProcessCreditData) (err : Int32)
  | control (gpuid : Nat) (e : ControlEvent)

namespace Slices

/-- What the control thread of the GPU works on. -/
def control (s : Slices) (gpuid : Nat) : Control :=
  ⟨s.data, (s.thread gpuid).thid, (s.thread gpuid).pc⟩

/-- The listener of the GPU handles a message. -/
def listen (s : Slices) (gpuid : Nat) (pcd : ProcessCreditData) (err : Int32) : Slices :=
  { s with
    data := (fsListen gpuid s.data pcd err).1
    clock := s.clock + 1
    registered :=
      if pcd.action = addQ ∧ alreadyAdded s.data pcd = false ∧ err = 0 then
        Function.update s.registered pcd.pid s.clock
      else s.registered }

/-- `fs_calculate_timeslice` for the GPU, on table `d`. -/
def calculate (s : Slices) (gpuid : Nat) (d : SchedulerData) : Slices :=
  let ended := d.mapEntries (Entry.endEpoch gpuid)
  let n := ended.shares gpuid
  let t := { s with data := calculateTimeslice exactUsec gpuid d }
  if n.Positive then
    { t with
      computed := fun k => if (ended.entry k).ActiveOn gpuid then s.clock else s.computed k
      wrapped := Function.update s.wrapped gpuid s.clock
      total := Function.update s.total gpuid n.totalShares }
  else t

/-- The end of an iteration that leaves table `d`. -/
def advance (s : Slices) (gpuid : Nat) (d : SchedulerData) : Slices :=
  let thid := nextSlot (s.thread gpuid).thid
  let t := { s with thread := Function.update s.thread gpuid ⟨thid, .head⟩ }
  { (if thid < (s.thread gpuid).thid then t.calculate gpuid d else { t with data := d }) with
    clock := s.clock + 1 }

/-- The thread takes a step within an iteration. -/
def move (s : Slices) (gpuid : Nat) (t : Control) : Slices :=
  { s with
    thread := Function.update s.thread gpuid ⟨t.thid, t.pc⟩
    carried := Function.update s.carried gpuid
      (if (s.thread gpuid).pc = .head then s.computed t.thid else s.carried gpuid)
    clock := s.clock + 1 }

/-- The control thread of the GPU; `unset` gives its variables `share_unit` and `i`. -/
def frame (unset : Nat → UInt64 × Nat) (gpuid : Nat) : ControlFrame :=
  ⟨gpuid, (unset gpuid).1, (unset gpuid).2⟩

/-- A message is handled, or a control thread takes a step. -/
inductive Step (unset : Nat → UInt64 × Nat) (s : Slices) : SliceEvent → Slices → Prop
  | listen (gpuid : Nat) (pcd : ProcessCreditData) (err : Int32) :
      Step unset s (.listen gpuid pcd err) (s.listen gpuid pcd err)
  | within {gpuid : Nat} {e : ControlEvent} {t : Control}
      (h : Control.Step (frame unset gpuid) firstSlot (s.control gpuid) e t)
      (hend : (s.control gpuid).iterationEnd (frame unset gpuid) e = none)
      (hown : ∀ d, e ≠ .others d) : Step unset s (.control gpuid e) (s.move gpuid t)
  | ends {gpuid : Nat} {e : ControlEvent} {t : Control} {d : SchedulerData}
      (h : Control.Step (frame unset gpuid) firstSlot (s.control gpuid) e t)
      (hend : (s.control gpuid).iterationEnd (frame unset gpuid) e = some d) :
      Step unset s (.control gpuid e) (s.advance gpuid d)

/-- The scheduler when its threads have started. -/
def started : Slices :=
  { data := fsStartScheduler, thread := fun _ => ⟨firstSlot, .head⟩, clock := 1
    registered := fun _ => 0, computed := fun _ => 0, carried := fun _ => 0
    wrapped := fun _ => 0, total := fun _ => 0 }

/-- A process is dispatched that had registered when its thread last wrapped and set slices, and the
total of the shares was then positive and no more than an epoch has microseconds. -/
def Granted (s : Slices) (e : SliceEvent) : Prop :=
  ∀ gpuid j, e = .control gpuid (.dispatch j) → ∃ pid slice,
    (s.thread gpuid).pc = .chosen pid slice ∧ s.registered pid < s.wrapped gpuid ∧
      0 < (s.total gpuid).toInt ∧ (s.total gpuid).toInt ≤ 100000

/-- A slice of a process, set at time `at`, is the one of the last wrap if the process had
registered by then, and an older one otherwise. -/
structure Sliced (s : Slices) (pid gpuid : Nat) (slice : Timeval) (set : Nat) : Prop where
  granted : s.registered pid < s.wrapped gpuid →
    slice = ⟨0, exactUsec (s.total gpuid)⟩ ∧ s.registered pid < set
  stale : ¬ s.registered pid < s.wrapped gpuid → ¬ s.registered pid < set

/-- What every step keeps. -/
structure Kept (s : Slices) : Prop where
  past : ∀ pid, s.registered pid < s.clock
  wrapped : ∀ gpuid, s.wrapped gpuid < s.clock
  computed : ∀ k, s.computed k < s.clock
  carried : ∀ gpuid, s.carried gpuid < s.clock
  awake : ∀ k, (s.data.entry k).state ≠ .procWaiting
  slots : ∀ k, (s.data.entry k).state = .procActive →
    s.Sliced (s.data.entry k).processList (s.data.entry k).gpuBinding
      (s.data.entry k).allocatedTime (s.computed k)
  chosen : ∀ gpuid pid slice, (s.thread gpuid).pc = .chosen pid slice →
    s.Sliced pid gpuid slice (s.carried gpuid)

end Slices

/-! ## The arithmetic -/

/-- A share of 1, in milliseconds times a thousand. -/
theorem share_eq (n : Int) : (100 : ℚ) / n * 1000 = 100000 / n := by
  ring

/-- The quotient is at least one exactly for the positive totals up to 100000. -/
theorem one_le_share (n : Int) : (1 : ℚ) ≤ 100000 / n ↔ 0 < n ∧ n ≤ 100000 := by
  constructor
  · intro h
    have hpos : 0 < n := by
      by_contra hneg
      have hcast : (n : ℚ) ≤ 0 := by exact_mod_cast Int.not_lt.mp hneg
      have hquot : (100000 : ℚ) / n ≤ 0 := div_nonpos_of_nonneg_of_nonpos (by norm_num) hcast
      linarith
    refine ⟨hpos, ?_⟩
    rw [one_le_div (by exact_mod_cast hpos)] at h
    exact_mod_cast h
  · rintro ⟨hpos, hle⟩
    rw [one_le_div (by exact_mod_cast hpos)]
    exact_mod_cast hle

/-- No quotient is larger than an epoch, also not for a negative total. -/
theorem abs_share_le (n : Int) : |(100000 : ℚ) / n| ≤ 100000 := by
  rcases eq_or_ne n 0 with rfl | hn
  · simp
  · have hone : (1 : ℚ) ≤ |(n : ℚ)| := by exact_mod_cast Int.one_le_abs hn
    rw [abs_div, abs_of_pos (by norm_num : (0 : ℚ) < 100000)]
    exact div_le_self (by norm_num) hone

/-- The quotient fits an `int`. -/
theorem exactUsec_toInt (total : Int32) :
    (exactUsec total).toInt = ⌊(100000 : ℚ) / total.toInt⌋ := by
  have hepoch : epochLength.toInt = 100 := by decide
  have hbounds := abs_le.mp (abs_share_le total.toInt)
  have hlow : (-100000 : Int) ≤ ⌊(100000 : ℚ) / total.toInt⌋ := by
    rw [Int.le_floor]
    exact_mod_cast hbounds.1
  have hhigh : ⌊(100000 : ℚ) / total.toInt⌋ ≤ 100000 := by
    have hle := (Int.floor_le ((100000 : ℚ) / total.toInt)).trans hbounds.2
    exact_mod_cast hle
  have hcast : ((100 : Int) : ℚ) = 100 := by norm_num
  unfold exactUsec
  rw [hepoch, hcast, share_eq, Int64.toInt_ofInt_of_le]
  · omega
  · omega

/-- Every slot keeps its process, its GPU and its slice, and its state unless it is marked as
paging. -/
def SchedulerData.Keeps (d d' : SchedulerData) : Prop :=
  ∀ k, (d'.entry k).processList = (d.entry k).processList ∧
    (d'.entry k).gpuBinding = (d.entry k).gpuBinding ∧
    (d'.entry k).allocatedTime = (d.entry k).allocatedTime ∧
    ((d'.entry k).state = (d.entry k).state ∨ (d'.entry k).state = .procPaging)

section

variable {d d' : SchedulerData} {k : Slot} {e : Entry} {gpuid : Nat}

/-- A write to a slot that keeps these fields. -/
theorem SchedulerData.keeps_set (h : e.processList = (d.entry k).processList ∧
    e.gpuBinding = (d.entry k).gpuBinding ∧ e.allocatedTime = (d.entry k).allocatedTime ∧
    (e.state = (d.entry k).state ∨ e.state = .procPaging)) : d.Keeps (d.set k e) := by
  intro j
  by_cases hj : j = k
  · rw [hj, set_entry_self]
    exact h
  · rw [set_entry_of_ne hj]
    exact ⟨rfl, rfl, rfl, .inl rfl⟩

/-- One such write after the other. -/
theorem SchedulerData.Keeps.trans {d'' : SchedulerData} (h : d.Keeps d') (h' : d'.Keeps d'') :
    d.Keeps d'' := by
  intro k
  obtain ⟨hpid, hgpu, hslice, hstate⟩ := h k
  obtain ⟨hpid', hgpu', hslice', hstate'⟩ := h' k
  refine ⟨hpid'.trans hpid, hgpu'.trans hgpu, hslice'.trans hslice, ?_⟩
  rcases hstate' with hsame | hpaging
  · rw [hsame]
    exact hstate
  · exact .inr hpaging

/-- The thread's own writes keep what the slices rest on: it writes penalties, measured times, and
the mark of a process that pages. -/
theorem Control.iterationEnd_keeps {c : ControlFrame} {s : Control} {ev : ControlEvent}
    (h : s.iterationEnd c ev = some d) : s.data.Keeps d := by
  cases ev with
  | pass | noShare =>
    cases h
    exact fun k => ⟨rfl, rfl, rfl, .inl rfl⟩
  | skip | unready =>
    cases h
    exact SchedulerData.keeps_set ⟨rfl, rfl, rfl, .inl rfl⟩
  | wake j sig measured =>
    obtain ⟨marked, hmarked, rfl⟩ := Option.map_eq_some_iff.mp h
    refine SchedulerData.Keeps.trans (fun k => ?_)
      (SchedulerData.keeps_set ⟨rfl, rfl, rfl, .inl rfl⟩)
    rw [intervalEnded_eq hmarked k]
    split
    · exact ⟨rfl, rfl, rfl, .inr rfl⟩
    · exact ⟨rfl, rfl, rfl, .inl rfl⟩
  | idle | choose | dispatch | others => cases h

/-- A thread that has chosen a slot has read the process and the slice of one that is active. -/
theorem Control.Step.chosen_cases {c : ControlFrame} {i : Slot} {s u : Control} {ev : ControlEvent}
    {pid : Nat} {slice : Timeval} (h : Control.Step c i s ev u)
    (hend : s.iterationEnd c ev = none) (hown : ∀ d, ev ≠ .others d)
    (hpc : u.pc = .chosen pid slice) :
    s.pc = .head ∧ (s.data.entry u.thid).ActiveOn c.boundToGpu ∧
      pid = (s.data.entry u.thid).processList ∧ slice = (s.data.entry u.thid).allocatedTime := by
  cases h with
  | choose hhead hidles hactive hpenalty hshare =>
    cases hpc
    exact ⟨hhead, hactive, rfl, rfl⟩
  | idle hhead =>
    rw [hhead] at hpc
    cases hpc
  | dispatch => cases hpc
  | others => exact absurd rfl (hown _)
  | pass | skip | noShare | unready => cases hend
  | wake sig measured _ hsig =>
    rw [Control.iterationEnd, hsig] at hend
    cases hend

/-- The first loop of `fs_calculate_timeslice` on a slot in which nobody waits. -/
theorem Entry.endEpoch_keeps (gpuid : Nat) (h : e.state ≠ .procWaiting) :
    (e.endEpoch gpuid).processList = e.processList ∧ (e.endEpoch gpuid).gpuBinding = e.gpuBinding ∧
      (e.endEpoch gpuid).allocatedTime = e.allocatedTime ∧ (e.endEpoch gpuid).state = e.state := by
  have hstate : (e.charge gpuid).state ≠ .procWaiting := by
    rw [charge_state]
    exact h
  unfold endEpoch
  rw [rejoin_of_state_ne hstate]
  refine ⟨?_, renew_gpuBinding.trans charge_gpuBinding, ?_, renew_state.trans charge_state⟩
  · unfold renew charge
    split <;> split <;> rfl
  · unfold renew charge
    split <;> split <;> rfl

/-- The end of an epoch does so too, where nobody waits. -/
theorem SchedulerData.keeps_endEpoch (gpuid : Nat) (h : ∀ k, (d.entry k).state ≠ .procWaiting) :
    d.Keeps (d.mapEntries (Entry.endEpoch gpuid)) := by
  intro k
  obtain ⟨hpid, hgpu, hslice, hstate⟩ := Entry.endEpoch_keeps gpuid (h k)
  exact ⟨hpid, hgpu, hslice, .inl hstate⟩

end

namespace Slices

section

variable {unset : Nat → UInt64 × Nat} {s t : Slices} {e : SliceEvent} {es : List SliceEvent}
  {d : SchedulerData} {gpuid pid set : Nat} {slice : Timeval} {pcd : ProcessCreditData}
  {err : Int32}

/-- What a slice is depends on three of the times that are kept beside the table. -/
theorem Sliced.congr (h : s.Sliced pid gpuid slice set)
    (hregistered : t.registered pid = s.registered pid)
    (hwrapped : t.wrapped gpuid = s.wrapped gpuid) (htotal : t.total gpuid = s.total gpuid) :
    t.Sliced pid gpuid slice set := by
  constructor
  · rw [hregistered, hwrapped, htotal]
    exact h.granted
  · rw [hregistered, hwrapped]
    exact h.stale

/-- Nothing has been set since a process registered that has just done so. -/
theorem sliced_registered (hwrapped : s.wrapped gpuid ≤ s.registered pid)
    (hset : set ≤ s.registered pid) : s.Sliced pid gpuid slice set :=
  ⟨fun h => absurd h (Nat.not_lt.mpr hwrapped), fun _ => Nat.not_lt.mpr hset⟩

/-- At the start no slot is active. -/
theorem started_kept : started.Kept := by
  have hinactive : ∀ k, (fsStartScheduler.entry k).state = .procInactive := fun _ => rfl
  constructor
  · exact fun _ => Nat.one_pos
  · exact fun _ => Nat.one_pos
  · exact fun _ => Nat.one_pos
  · exact fun _ => Nat.one_pos
  · intro k hwaiting
    cases (hinactive k).symm.trans hwaiting
  · intro k hactive
    cases (hinactive k).symm.trans hactive
  · intro _ _ _ hpc
    cases hpc

/-- Time goes on. -/
theorem Kept.tick (h : s.Kept) : Kept { s with clock := s.clock + 1 } := by
  constructor
  · exact fun pid => Nat.lt_succ_of_lt (h.past pid)
  · exact fun gpuid => Nat.lt_succ_of_lt (h.wrapped gpuid)
  · exact fun k => Nat.lt_succ_of_lt (h.computed k)
  · exact fun gpuid => Nat.lt_succ_of_lt (h.carried gpuid)
  · exact h.awake
  · exact fun k hactive => (h.slots k hactive).congr rfl rfl rfl
  · exact fun gpuid pid slice hpc => (h.chosen gpuid pid slice hpc).congr rfl rfl rfl

/-- A table that keeps what the slices rest on. -/
theorem Kept.table (h : s.Kept) (hd : s.data.Keeps d) : Kept { s with data := d } := by
  refine ⟨h.past, h.wrapped, h.computed, h.carried, ?_, ?_, ?_⟩
  · intro k
    obtain ⟨-, -, -, hstate | hpaging⟩ := hd k
    · rw [hstate]
      exact h.awake k
    · rw [hpaging]
      exact Pager.ProcState.noConfusion
  · intro k hactive
    obtain ⟨hpid, hgpu, hslice, hstate | hpaging⟩ := hd k
    · rw [hstate] at hactive
      rw [hpid, hgpu, hslice]
      exact (h.slots k hactive).congr rfl rfl rfl
    · cases hpaging.symm.trans hactive
  · exact fun gpuid pid slice hpc => (h.chosen gpuid pid slice hpc).congr rfl rfl rfl

/-- The same for a write by the thread. -/
theorem Kept.keeps (h : s.Kept) (hd : s.data.Keeps d) :
    Kept { s with data := d, clock := s.clock + 1 } :=
  (h.table hd).tick

/-- The table in which a process is freed. -/
theorem Kept.remove (h : s.Kept) :
    Kept { s with data := remProcess s.data gpuid pid Entry.fsFreed, clock := s.clock + 1 } := by
  have hlater := h.tick
  unfold remProcess
  cases hfound : s.data.findSlot fun e => pid == e.processList && gpuid == e.gpuBinding with
  | none => exact hlater
  | some i =>
    constructor
    · exact hlater.past
    · exact hlater.wrapped
    · exact hlater.computed
    · exact hlater.carried
    · intro k
      by_cases hk : k = i
      · subst hk
        simp [Entry.fsFreed]
      · simp only [SchedulerData.set_entry_of_ne hk]
        exact h.awake k
    · intro k hactive
      by_cases hk : k = i
      · subst hk
        simp [Entry.fsFreed] at hactive
      · simp only [SchedulerData.set_entry_of_ne hk] at hactive ⊢
        exact (h.slots k hactive).congr rfl rfl rfl
    · exact fun g p slice hpc => (h.chosen g p slice hpc).congr rfl rfl rfl

/-- A process that no slot has yet is registered. Its slot has the slice that an earlier process has
left in it, or none, and the process has registered after the last wrap. -/
theorem Kept.register {signum appType share : Int32} (h : s.Kept)
    (hnew : ∀ i, (s.data.entry i).processList ≠ pid) :
    Kept { s with
      data := fsRegisterProcess s.data pid signum appType gpuid share
      clock := s.clock + 1
      registered := Function.update s.registered pid s.clock } := by
  constructor
  · intro p
    by_cases hp : p = pid
    · subst hp
      simp
    · simp only [Function.update_of_ne hp]
      exact Nat.lt_succ_of_lt (h.past p)
  · exact fun gpuid => Nat.lt_succ_of_lt (h.wrapped gpuid)
  · exact fun k => Nat.lt_succ_of_lt (h.computed k)
  · exact fun gpuid => Nat.lt_succ_of_lt (h.carried gpuid)
  · intro k
    by_cases hk : k = s.data.pollingThreadCount
    · subst hk
      simp [fsRegisterProcess]
    · simp only [fsRegisterProcess_entry_of_ne hk]
      exact h.awake k
  · intro k hactive
    by_cases hk : k = s.data.pollingThreadCount
    · subst hk
      simp only [fsRegisterProcess_processList]
      refine sliced_registered ?_ ?_
      · simpa using (h.wrapped _).le
      · simpa using (h.computed _).le
    · simp only [fsRegisterProcess_entry_of_ne hk] at hactive ⊢
      exact (h.slots k hactive).congr (Function.update_of_ne (hnew k) ..) rfl rfl
  · intro g p slice hpc
    by_cases hp : p = pid
    · subst hp
      refine sliced_registered ?_ ?_
      · simpa using (h.wrapped g).le
      · simpa using (h.carried g).le
    · exact (h.chosen g p slice hpc).congr (Function.update_of_ne hp ..) rfl rfl

/-- What a listener does keeps it, whatever the message is. -/
theorem Kept.listen (h : s.Kept) : (s.listen gpuid pcd err).Kept := by
  have hlater := h.tick
  unfold Slices.listen
  rcases fsListen_cases gpuid s.data pcd err with ⟨hadd, hnew, herr, heq⟩ |
    ⟨_, _, herr, heq⟩ | ⟨hrem, heq⟩ | ⟨hnot, _, heq⟩
  · rw [heq, if_pos ⟨hadd, hnew, herr⟩]
    exact h.register (alreadyAdded_eq_false.mp hnew)
  · rw [heq, if_neg fun hall => herr hall.2.2]
    exact hlater
  · have hother : remQ ≠ addQ := by decide
    rw [heq, if_neg fun hall => hother (hrem.symm.trans hall.1)]
    exact h.remove
  · rw [heq, if_neg fun hall => hnot ⟨hall.1, hall.2.1⟩]
    exact hlater

/-- What the invariant says of a slot that is active. -/
theorem Kept.slot {k : Slot} (h : s.Kept) (hactive : (s.data.entry k).ActiveOn gpuid) :
    s.Sliced (s.data.entry k).processList gpuid (s.data.entry k).allocatedTime (s.computed k) := by
  have hslot := h.slots k hactive.2
  rw [hactive.1] at hslot
  exact hslot

/-- The thread reads the slice of the slot it chooses. It sends what it has read, though the table
may change before it does. -/
theorem Kept.move {c : ControlFrame} {i : Slot} {ev : ControlEvent} {u : Control} (h : s.Kept)
    (hc : c.boundToGpu = gpuid) (hstep : Control.Step c i (s.control gpuid) ev u)
    (hend : (s.control gpuid).iterationEnd c ev = none) (hown : ∀ d, ev ≠ .others d) :
    (s.move gpuid u).Kept := by
  have hlater := h.tick
  constructor
  · exact hlater.past
  · exact hlater.wrapped
  · exact hlater.computed
  · intro g
    by_cases hg : g = gpuid
    · subst hg
      simp only [Slices.move, Function.update_self]
      split
      · exact hlater.computed _
      · exact hlater.carried _
    · simp only [Slices.move, Function.update_of_ne hg]
      exact hlater.carried g
  · exact hlater.awake
  · exact fun k hactive => (h.slots k hactive).congr rfl rfl rfl
  · intro g p slice hpc
    by_cases hg : g = gpuid
    · subst hg
      simp only [Slices.move, Function.update_self] at hpc ⊢
      obtain ⟨hhead, hactive, rfl, rfl⟩ := hstep.chosen_cases hend hown hpc
      have hhead : (s.thread g).pc = .head := hhead
      rw [hc] at hactive
      rw [if_pos hhead]
      exact (h.slot hactive).congr rfl rfl rfl
    · simp only [Slices.move, Function.update_of_ne hg] at hpc ⊢
      exact (h.chosen g p slice hpc).congr rfl rfl rfl

/-- A wrap whose total of shares is positive sets the slices of the active slots. -/
theorem calculate_of_positive {ended : SchedulerData}
    (hended : d.mapEntries (Entry.endEpoch gpuid) = ended) (hpos : (ended.shares gpuid).Positive) :
    s.calculate gpuid d =
      { s with
        data := ended.mapEntries (Entry.allot gpuid (exactUsec (ended.shares gpuid).totalShares))
        computed := fun k => if (ended.entry k).ActiveOn gpuid then s.clock else s.computed k
        wrapped := Function.update s.wrapped gpuid s.clock
        total := Function.update s.total gpuid (ended.shares gpuid).totalShares } := by
  subst hended
  unfold Slices.calculate calculateTimeslice
  simp only [if_pos hpos]

/-- Any other wrap sets none, and the active slots keep what they had. -/
theorem calculate_of_not_positive {ended : SchedulerData}
    (hended : d.mapEntries (Entry.endEpoch gpuid) = ended)
    (hpos : ¬ (ended.shares gpuid).Positive) :
    s.calculate gpuid d = { s with data := ended } := by
  subst hended
  unfold Slices.calculate calculateTimeslice
  simp only [if_neg hpos]

/-- A slice set now is the one of a wrap that happens now. -/
theorem sliced_now {total : Int32} (hbefore : s.registered pid < s.clock)
    (hwrapped : s.wrapped gpuid = s.clock) (htotal : s.total gpuid = total) :
    s.Sliced pid gpuid ⟨0, exactUsec total⟩ s.clock := by
  constructor
  · intro _
    rw [htotal]
    exact ⟨rfl, hbefore⟩
  · intro hnot
    rw [hwrapped] at hnot
    exact absurd hbefore hnot

/-- The slices that a wrap sets are those of the last wrap. -/
theorem Kept.allot (h : s.Kept) {total : Int32} (hhead : (s.thread gpuid).pc = .head) :
    Kept { s with
      data := s.data.mapEntries (Entry.allot gpuid (exactUsec total))
      clock := s.clock + 1
      computed := fun k => if (s.data.entry k).ActiveOn gpuid then s.clock else s.computed k
      wrapped := Function.update s.wrapped gpuid s.clock
      total := Function.update s.total gpuid total } := by
  have hlater := h.tick
  constructor
  · exact hlater.past
  · intro g
    by_cases hg : g = gpuid
    · subst hg
      simp
    · simp only [Function.update_of_ne hg]
      exact hlater.wrapped g
  · intro k
    dsimp only
    split
    · exact Nat.lt_succ_self _
    · exact hlater.computed k
  · exact hlater.carried
  · intro k
    rw [SchedulerData.mapEntries_entry]
    unfold Entry.allot
    split
    · exact h.awake k
    · exact h.awake k
  · intro k hactive
    rw [SchedulerData.mapEntries_entry] at hactive ⊢
    by_cases hon : (s.data.entry k).ActiveOn gpuid
    · have hset : (s.data.entry k).allot gpuid (exactUsec total) =
          { s.data.entry k with allocatedTime := ⟨0, exactUsec total⟩ } := if_pos hon
      have hnow := sliced_now (s := { s with
        wrapped := Function.update s.wrapped gpuid s.clock
        total := Function.update s.total gpuid total })
        (h.past (s.data.entry k).processList) (Function.update_self ..) (Function.update_self ..)
      rw [hset]
      dsimp only
      rw [if_pos hon, hon.1]
      exact hnow.congr rfl rfl rfl
    · have hset : (s.data.entry k).allot gpuid (exactUsec total) = s.data.entry k := if_neg hon
      rw [hset] at hactive ⊢
      dsimp only
      rw [if_neg hon]
      have hne : (s.data.entry k).gpuBinding ≠ gpuid := fun hg => hon ⟨hg, hactive⟩
      exact (h.slots k hactive).congr rfl (Function.update_of_ne hne ..)
        (Function.update_of_ne hne ..)
  · intro g p slice hpc
    have hne : g ≠ gpuid := by
      rintro rfl
      cases hhead.symm.trans hpc
    exact (h.chosen g p slice hpc).congr rfl (Function.update_of_ne hne ..)
      (Function.update_of_ne hne ..)

/-- A wrap keeps it, whether it sets slices or not. -/
theorem Kept.calculate (h : s.Kept) (hd : s.data.Keeps d) (hhead : (s.thread gpuid).pc = .head) :
    Kept { s.calculate gpuid d with clock := s.clock + 1 } := by
  have hawake : ∀ k, (d.entry k).state ≠ .procWaiting := (h.keeps hd).awake
  have hkeeps := hd.trans (SchedulerData.keeps_endEpoch gpuid hawake)
  by_cases hpos : ((d.mapEntries (Entry.endEpoch gpuid)).shares gpuid).Positive
  · rw [calculate_of_positive rfl hpos]
    exact (h.table hkeeps).allot hhead
  · rw [calculate_of_not_positive rfl hpos]
    exact h.keeps hkeeps

/-- So does the move to the next slot. -/
theorem Kept.head (h : s.Kept) (gpuid : Nat) (j : Slot) :
    Kept { s with thread := Function.update s.thread gpuid ⟨j, .head⟩ } := by
  refine ⟨h.past, h.wrapped, h.computed, h.carried, h.awake, ?_, ?_⟩
  · exact fun k hactive => (h.slots k hactive).congr rfl rfl rfl
  · intro g p slice hpc
    by_cases hg : g = gpuid
    · subst hg
      simp at hpc
    · simp only [Function.update_of_ne hg] at hpc
      exact (h.chosen g p slice hpc).congr rfl rfl rfl

/-- The end of an iteration, with or without a wrap. -/
theorem Kept.advance (h : s.Kept) (hd : s.data.Keeps d) : (s.advance gpuid d).Kept := by
  have hmoved := h.head gpuid (nextSlot (s.thread gpuid).thid)
  unfold Slices.advance
  dsimp only
  split
  · exact hmoved.calculate hd (by simp)
  · exact hmoved.keeps hd

/-- The step lemma, over the messages and the steps of the control threads. -/
theorem Step.kept (hstep : Step unset s e t) (h : s.Kept) : t.Kept := by
  cases hstep with
  | listen => exact h.listen
  | within hcontrol hend hown => exact h.move rfl hcontrol hend hown
  | ends hcontrol hend => exact h.advance (Control.iterationEnd_keeps hend)

/-! ## Runs -/

end

/-- Process 7 asks for GPU 0 with a share of 50. -/
def addSeven : ProcessCreditData := fsAddQueue 7 0 0 50 ⟨0, 0⟩

end Slices

end GpuVirtmem.Sched
