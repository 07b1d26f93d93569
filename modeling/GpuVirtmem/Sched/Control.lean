import GpuVirtmem.Lib.Progress
import GpuVirtmem.Sched.FairShare

/-!
# The control threads of the fair-share scheduler (`l2scheduler/fair_share_sched.c`)

The control thread of a GPU sweeps over the slots. It dispatches the processes of its GPU one after
the other and waits for each until its interval has ended; one that overran is skipped for as many
epochs as it took intervals. An epoch is one sweep: at the wrap `fs_calculate_timeslice` sets the
penalties and the intervals of the next. The calls on the mutex are left out.

While a process is in the table the thread has a step to make wherever it is: it goes on to the next
slot, or queues its signal, or is woken up by the end of an interval. Three steps of it end an
iteration and a thousand iterations a sweep, so its own steps count the epochs.

Time comes in by what the thread measures, which is left open, and the signals by the order in which
it wakes up. Whether a process stops when it is told to is not known to the thread, and not assumed.
-/

namespace GpuVirtmem.Sched

open Lib

/-- `EPOCH_LENGTH`, in milliseconds. -/
def epochLength : Int32 := 100

/-- `tv_sec * 1000 + (tv_usec + 500) / 1000`, stored in an `unsigned long`. -/
def Timeval.ms (t : Timeval) : UInt64 := (t.tvSec * 1000 + (t.tvUsec + 500) / 1000).toUInt64

/-! ## `fs_calculate_timeslice` -/

/-- The slot is bound to the GPU and to be scheduled there. -/
abbrev Entry.ActiveOn (e : Entry) (gpuid : Nat) : Prop :=
  e.gpuBinding = gpuid ∧ e.state = .procActive

/-- The penalty of a process that was dispatched in the epoch. -/
def Entry.charge (e : Entry) (gpuid : Nat) : Entry :=
  if e.ActiveOn gpuid ∧ e.penaltyEpochs = -1 ∧ e.allocatedTime.ms ≠ 0 then
    { e with
      penaltyEpochs := (e.executionTime.ms / e.allocatedTime.ms).toUInt32.toInt32.toInt }
  else e

/-- A process that waits is active again. -/
def Entry.rejoin (e : Entry) (gpuid : Nat) : Entry :=
  if e.gpuBinding = gpuid ∧ e.state = .procWaiting ∧ e.penaltyEpochs = -1 then
    { e with state := .procActive }
  else e

/-- A penalty that is paid allows the next dispatch. -/
def Entry.renew (e : Entry) (gpuid : Nat) : Entry :=
  if e.ActiveOn gpuid ∧ e.penaltyEpochs = 0 then { e with penaltyEpochs := -1 } else e

/-- The first loop on one slot. -/
def Entry.endEpoch (gpuid : Nat) (e : Entry) : Entry :=
  ((e.charge gpuid).rejoin gpuid).renew gpuid

/-- `active_count` and `total_shares`. -/
structure Shares where
  activeCount : Nat
  totalShares : Int32

/-- The end of a round of the first loop. -/
def Shares.add (gpuid : Nat) (n : Shares) (e : Entry) : Shares :=
  if e.ActiveOn gpuid then ⟨n.activeCount + 1, n.totalShares + e.shareUnit.toUInt32.toInt32⟩ else n

/-- The counts after the first loop. -/
def SchedulerData.shares (d : SchedulerData) (gpuid : Nat) : Shares :=
  (List.finRange maxControllerCount).foldl (fun n i => n.add gpuid (d.entry i)) ⟨0, 0⟩

/-- `base_share * 1000`, in single precision, stored in a `long`. -/
def baseShareUsec (totalShares : Int32) : Int64 :=
  (epochLength.toFloat32 / totalShares.toFloat32 * 1000).toInt64

/-- The second loop on one slot. -/
def Entry.allocate (gpuid : Nat) (totalShares : Int32) (e : Entry) : Entry :=
  if e.ActiveOn gpuid then { e with allocatedTime := ⟨0, baseShareUsec totalShares⟩ } else e

/-- `fs_calculate_timeslice`; a round of either loop reads and writes its own slot. -/
def fsCalculateTimeslice (gpuid : Nat) (d : SchedulerData) : SchedulerData :=
  let ended := d.mapEntries (Entry.endEpoch gpuid)
  let n := ended.shares gpuid
  if n.activeCount = 0 ∨ n.totalShares = 0 then ended
  else ended.mapEntries (Entry.allocate gpuid n.totalShares)

/-! ## `fs_control_thread` -/

/-- What `fs_control_thread` is called with, and the two of its variables that it reads and never
sets. -/
structure ControlFrame where
  boundToGpu : Nat
  shareUnit : UInt64
  i : Nat

/-- Where the thread is in its loop. -/
inductive ControlPc
  | head
  | chosen (processId : Nat) (tvAlloc : Timeval)
  | waiting
  deriving DecidableEq

/-- The table and the thread. -/
structure Control where
  data : SchedulerData
  thid : Slot
  pc : ControlPc

/-- The signals that the thread waits for. -/
inductive IntervalEnd
  | sigrtmin | sigrtmaxLess2
  deriving DecidableEq

/-- `thid = (thid + 1) % MAX_CONTROLLER_COUNT`, and the end of the epoch at the wrap. -/
def Control.advance (s : Control) (gpuid : Nat) : Control :=
  let thid := nextSlot s.thid
  { data := if thid < s.thid then fsCalculateTimeslice gpuid s.data else s.data
    thid := thid, pc := .head }

/-- `Scheduler_Data.state[i] = PROC_PAGING`, which has no result outside the array. -/
def SchedulerData.markPaging (d : SchedulerData) (i : Nat) : Option SchedulerData :=
  if h : i < maxControllerCount then some (d.setState ⟨i, h⟩ .procPaging) else none

/-- The table after the thread's wait. -/
def SchedulerData.intervalEnded (d : SchedulerData) (i : Nat) :
    IntervalEnd → Option SchedulerData
  | .sigrtmin => some d
  | .sigrtmaxLess2 => d.markPaging i

/-- `timersub(&tp1, &tp, &Scheduler_Data.execution_time[thid])`; `measured` is the difference. -/
def Control.measure (s : Control) (measured : Timeval) : Control :=
  { s with data := s.data.set s.thid { s.data.entry s.thid with executionTime := measured } }

/-- The steps of the control thread, each with the slot it is about, and those of the others. -/
inductive ControlEvent
  | idle
  | pass (j : Slot)
  | skip (j : Slot)
  | noShare (j : Slot)
  | choose (j : Slot)
  | unready (j : Slot) (measured : Timeval)
  | dispatch (j : Slot)
  | wake (j : Slot) (sig : IntervalEnd) (measured : Timeval)
  | others (d : SchedulerData)

/-- A step of the thread, in the order of the tests in the source, or of the others, which leave
slot `i` as it is. -/
inductive Control.Step (c : ControlFrame) (i : Slot) (s : Control) : ControlEvent → Control → Prop
  | idle (hpc : s.pc = .head) (hidles : s.data.Idles) :
      Step c i s .idle s
  | pass (hpc : s.pc = .head) (hidles : ¬ s.data.Idles)
      (hpass : ¬ (s.data.entry s.thid).ActiveOn c.boundToGpu) :
      Step c i s (.pass s.thid) (s.advance c.boundToGpu)
  | skip (hpc : s.pc = .head) (hidles : ¬ s.data.Idles)
      (hactive : (s.data.entry s.thid).ActiveOn c.boundToGpu)
      (hpenalty : 0 < (s.data.entry s.thid).penaltyEpochs) :
      Step c i s (.skip s.thid)
        (Control.advance
          { s with data := s.data.set s.thid { s.data.entry s.thid with
            penaltyEpochs := (s.data.entry s.thid).penaltyEpochs - 1 } } c.boundToGpu)
  | noShare (hpc : s.pc = .head) (hidles : ¬ s.data.Idles)
      (hactive : (s.data.entry s.thid).ActiveOn c.boundToGpu)
      (hpenalty : ¬ 0 < (s.data.entry s.thid).penaltyEpochs) (hshare : c.shareUnit = 0) :
      Step c i s (.noShare s.thid) (s.advance c.boundToGpu)
  | choose (hpc : s.pc = .head) (hidles : ¬ s.data.Idles)
      (hactive : (s.data.entry s.thid).ActiveOn c.boundToGpu)
      (hpenalty : ¬ 0 < (s.data.entry s.thid).penaltyEpochs) (hshare : c.shareUnit ≠ 0) :
      Step c i s (.choose s.thid)
        { s with pc :=
          .chosen (s.data.entry s.thid).processList (s.data.entry s.thid).allocatedTime }
  | unready {p : Nat} {a : Timeval} (measured : Timeval) (hpc : s.pc = .chosen p a)
      (hstate : (s.data.entry s.thid).state ≠ .procActive) :
      Step c i s (.unready s.thid measured) ((s.measure measured).advance c.boundToGpu)
  | dispatch {p : Nat} {a : Timeval} (hpc : s.pc = .chosen p a)
      (hstate : (s.data.entry s.thid).state = .procActive) :
      Step c i s (.dispatch s.thid) { s with pc := .waiting }
  | wake {d : SchedulerData} (sig : IntervalEnd) (measured : Timeval) (hpc : s.pc = .waiting)
      (hsig : s.data.intervalEnded c.i sig = some d) :
      Step c i s (.wake s.thid sig measured)
        ((Control.measure { s with data := d } measured).advance c.boundToGpu)
  | others {d : SchedulerData} (hslot : d.entry i = s.data.entry i) :
      Step c i s (.others d) { s with data := d }

/-- The step takes the slot counter from its last value to 0. -/
def ControlEvent.wraps : ControlEvent → Bool
  | .pass j | .skip j | .noShare j | .unready j _ | .wake j _ _ => nextSlot j < j
  | .idle | .choose _ | .dispatch _ | .others _ => false

/-- The step is made by the thread, and not in the loop on an empty table. -/
def ControlEvent.own : ControlEvent → Bool
  | .idle | .others _ => false
  | .pass _ | .skip _ | .noShare _ | .choose _ | .unready .. | .dispatch _ | .wake .. => true

/-! ## What `fs_calculate_timeslice` keeps -/

/-- A quotient that fits an `int` is stored as it is. -/
theorem toInt_of_lt {n : UInt64} (h : n.toNat < 2 ^ 31) : n.toUInt32.toInt32.toInt = n.toNat := by
  have h32 : n.toUInt32.toBitVec.toNat = n.toNat := by
    have hmod : n.toUInt32.toBitVec.toNat = n.toNat % 2 ^ 32 := UInt64.toNat_toUInt32 n
    omega
  have hbits : n.toUInt32.toInt32.toInt = n.toUInt32.toBitVec.toInt := rfl
  rw [hbits, BitVec.toInt_eq_toNat_of_lt]
  · rw [h32]
  · omega

section

variable {e : Entry} {gpuid : Nat}

/-- The charge is a matter of the penalty alone: the GPU of the slot stays. -/
theorem Entry.charge_gpuBinding : (e.charge gpuid).gpuBinding = e.gpuBinding := by
  unfold charge
  split <;> rfl

/-- The charge leaves the state of the slot. -/
theorem Entry.charge_state : (e.charge gpuid).state = e.state := by
  unfold charge
  split <;> rfl

/-- A slot that is charged is scheduled as before. -/
theorem Entry.charge_of_active (h : e.ActiveOn gpuid) : (e.charge gpuid).ActiveOn gpuid :=
  ⟨charge_gpuBinding.trans h.1, charge_state.trans h.2⟩

/-- A renewed penalty leaves the state of the slot. -/
theorem Entry.renew_state : (e.renew gpuid).state = e.state := by
  unfold renew
  split <;> rfl

/-- A renewed penalty leaves the GPU of the slot. -/
theorem Entry.renew_gpuBinding : (e.renew gpuid).gpuBinding = e.gpuBinding := by
  unfold renew
  split <;> rfl

/-- Only who waits rejoins. -/
theorem Entry.rejoin_of_state_ne (h : e.state ≠ .procWaiting) : e.rejoin gpuid = e :=
  if_neg fun hwaiting => h hwaiting.2.1

/-- A new interval does not touch what the slot owes. -/
theorem Entry.allocate_penaltyEpochs (n : Int32) :
    (e.allocate gpuid n).penaltyEpochs = e.penaltyEpochs := by
  unfold Entry.allocate
  split <;> rfl

theorem Entry.allocate_state (n : Int32) : (e.allocate gpuid n).state = e.state := by
  unfold Entry.allocate
  split <;> rfl

/-- What `fs_calculate_timeslice` leaves in a slot, up to the new interval. This is the one lemma
about the function that results on penalties use; the totals of the shares do not show in it. -/
theorem fsCalculateTimeslice_entry (gpuid : Nat) (d : SchedulerData) (i : Slot) :
    ((fsCalculateTimeslice gpuid d).entry i).penaltyEpochs =
        ((d.entry i).endEpoch gpuid).penaltyEpochs ∧
      ((fsCalculateTimeslice gpuid d).entry i).state = ((d.entry i).endEpoch gpuid).state := by
  simp only [fsCalculateTimeslice]
  split
  · exact ⟨rfl, rfl⟩
  · exact ⟨Entry.allocate_penaltyEpochs _, Entry.allocate_state _⟩

end

/-! ## What an iteration keeps -/

section

variable {c : ControlFrame} {i : Slot} {s t u : Control} {e : ControlEvent} {gpuid : Nat}
  {measured : Timeval}

/-- An event says what the thread does, what it measures and what the others write: the state after
it is fixed. A run is so given by its events. -/
theorem Control.Step.det (h : Control.Step c i s e t) (h' : Control.Step c i s e u) : t = u := by
  cases h with
  | @wake d sig measured hpc hsig =>
    cases h' with
    | wake _ _ _ hsig' =>
      obtain rfl := Option.some.inj (hsig.symm.trans hsig')
      rfl
  | _ =>
    cases h'
    rfl

/-- How far the thread is in its sweep, where an iteration takes three steps at most. -/
def Control.position (s : Control) : Nat :=
  3 * s.thid.val + match s.pc with
    | .head => 0
    | .chosen .. => 1
    | .waiting => 2

end

end GpuVirtmem.Sched
