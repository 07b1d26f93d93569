import GpuVirtmem.Pager.Worker
import Mathlib.Logic.Function.Basic
import Mathlib.Data.List.FinRange

/-!
# The scheduler table (`l2scheduler/sched_commons.h`)

`Scheduler_Data` is one table for every thread of the node scheduler: the listeners register
processes in it and remove them, the control threads and the pager find slots in it by their own
searches. Its arrays have one length, so slot `i` stands for the entries at `i` of all of them.
Process and GPU numbers are natural numbers.

The threads write the table at different times and search it with different conditions, and most of
what goes wrong with it comes from two of these conditions not being the same. That is why there is
one search here (`findSlot`) with the condition as a parameter, and why every write is a write to
one slot (`set`) or to all of them (`mapEntries`).
-/

namespace GpuVirtmem.Sched

open Pager (ProcState)

/-- `MAX_CONTROLLER_COUNT`. -/
def maxControllerCount : Nat := 500

/-- There is a slot, so that `firstSlot` is one. -/
theorem maxControllerCount_pos : 0 < maxControllerCount := by decide

/-- The indices of the arrays. -/
abbrev Slot := Fin maxControllerCount

/-- `0`, where every counter starts. -/
def firstSlot : Slot := ⟨0, maxControllerCount_pos⟩

/-- `MAX_CONTROLLER_COUNT - 1`. -/
def lastSlot : Slot := ⟨maxControllerCount - 1, Nat.sub_lt maxControllerCount_pos Nat.one_pos⟩

/-- `(i + 1) % MAX_CONTROLLER_COUNT`. -/
def nextSlot (i : Slot) : Slot :=
  ⟨(i.val + 1) % maxControllerCount, Nat.mod_lt _ maxControllerCount_pos⟩

/-- The index wraps at its last value, and only there: a control thread notices the end of an epoch
by the index becoming smaller. -/
theorem nextSlot_wraps {j : Slot} (h : nextSlot j < j) :
    (nextSlot j).val = 0 ∧ j.val + 1 = maxControllerCount := by
  have hj := j.isLt
  rw [Fin.lt_def] at h
  rcases Nat.lt_or_eq_of_le hj with hlt | heq
  · have hnext : (nextSlot j).val = j.val + 1 := Nat.mod_eq_of_lt hlt
    omega
  · refine ⟨?_, heq⟩
    have hnext : (nextSlot j).val = (j.val + 1) % maxControllerCount := rfl
    rw [hnext, show j.val + 1 = maxControllerCount from heq, Nat.mod_self]

/-- Before the end of the table the next slot is the next one. -/
theorem nextSlot_val {j : Slot} (h : ¬ nextSlot j < j) : (nextSlot j).val = j.val + 1 := by
  have hj := j.isLt
  have hnext : (nextSlot j).val = (j.val + 1) % maxControllerCount := rfl
  rw [Fin.lt_def] at h
  rcases Nat.lt_or_eq_of_le hj with hlt | heq
  · rw [hnext]
    exact Nat.mod_eq_of_lt hlt
  · rw [hnext, show j.val + 1 = maxControllerCount from heq, Nat.mod_self] at h
    have hone : 1 < maxControllerCount := by decide
    omega

/-- The counter is back at 0 exactly after the last slot, and 0 is also what it says while nothing
is registered. -/
theorem nextSlot_eq_firstSlot {j : Slot} : nextSlot j = firstSlot ↔ j = lastSlot := by
  constructor
  · intro h
    by_cases hwrap : nextSlot j < j
    · apply Fin.ext
      have hlast : lastSlot.val + 1 = maxControllerCount := rfl
      have := (nextSlot_wraps hwrap).2
      omega
    · have hval := nextSlot_val hwrap
      rw [h] at hval
      cases hval
  · rintro rfl
    apply Fin.ext
    exact Nat.mod_self maxControllerCount

/-- `INVALID_PROCEESS`. -/
def invalidProceess : Nat := 0

/-- `struct timeval`. -/
structure Timeval where
  tvSec : Int64
  tvUsec : Int64
  deriving DecidableEq

/-- The microseconds of a `struct timeval`. -/
def Timeval.usec (t : Timeval) : Int := t.tvSec.toInt * 10 ^ 6 + t.tvUsec.toInt

/-- The entries at one index of the arrays of `Scheduler_Data`. -/
structure Entry where
  processList : Nat
  shareUnit : UInt64
  signalNum : Int32
  state : ProcState
  appType : Int32
  allocatedTime : Timeval
  executionTime : Timeval
  penaltyEpochs : Int
  gpuBinding : Nat
  priority : Int32
  sendsL2Feedback : Bool
  valid : Bool

/-- `scheduler_data`; `RT_signal_indx` is not used by the code that is compiled. -/
structure SchedulerData where
  entry : Slot → Entry
  pollingThreadCount : Slot

/-- What a static table holds: zeros, and `PROC_ACTIVE` is 0. -/
def zeroEntry : Entry :=
  { processList := 0, shareUnit := 0, signalNum := 0, state := .procActive, appType := 0,
    allocatedTime := ⟨0, 0⟩, executionTime := ⟨0, 0⟩, penaltyEpochs := 0, gpuBinding := 0,
    priority := 0, sendsL2Feedback := false, valid := false }

/-- The table when the program starts. -/
def staticData : SchedulerData :=
  { entry := fun _ => zeroEntry, pollingThreadCount := firstSlot }

namespace SchedulerData

/-- The guard at the head of the control threads, `!Scheduler_Data.polling_thread_count`. -/
abbrev Idles (d : SchedulerData) : Prop := d.pollingThreadCount = firstSlot

/-- Slot `i` is written. -/
def set (d : SchedulerData) (i : Slot) (e : Entry) : SchedulerData :=
  { d with entry := Function.update d.entry i e }

/-- `Scheduler_Data.state[i]` is written. -/
def setState (d : SchedulerData) (i : Slot) (state : ProcState) : SchedulerData :=
  d.set i { d.entry i with state := state }

/-- Every slot is written. -/
def mapEntries (d : SchedulerData) (f : Entry → Entry) : SchedulerData :=
  { d with entry := fun i => f (d.entry i) }

/-- `for (i = 0; i < MAX_CONTROLLER_COUNT; i++) if (p) { .. break; }`: the slot the loop stops
at. -/
@[irreducible] def findSlot (d : SchedulerData) (p : Entry → Bool) : Option Slot :=
  (List.finRange maxControllerCount).find? fun i => p (d.entry i)

section

variable {d : SchedulerData} {i j : Slot} {e : Entry} {f : Entry → Entry} {p : Entry → Bool}

/-- A slot that is written holds what was written to it. -/
@[simp] theorem set_entry_self : (d.set i e).entry i = e :=
  Function.update_self ..

/-- The other slots are as they were. -/
theorem set_entry_of_ne (h : j ≠ i) : (d.set i e).entry j = d.entry j :=
  Function.update_of_ne h ..

@[simp] theorem set_pollingThreadCount : (d.set i e).pollingThreadCount = d.pollingThreadCount :=
  rfl

@[simp] theorem setState_state_self {state : ProcState} :
    ((d.setState i state).entry i).state = state := by
  rw [setState, set_entry_self]

theorem setState_entry_of_ne {state : ProcState} (h : j ≠ i) :
    (d.setState i state).entry j = d.entry j :=
  set_entry_of_ne h

/-- The threads that write states leave the processes of the slots alone. -/
@[simp] theorem setState_processList {state : ProcState} :
    ((d.setState i state).entry j).processList = (d.entry j).processList := by
  by_cases h : j = i
  · rw [h, setState, set_entry_self]
  · rw [setState_entry_of_ne h]

/-- Of two writes of the same state the second one counts. -/
theorem setState_setState {a b : ProcState} : (d.setState i a).setState i b = d.setState i b := by
  unfold setState
  rw [set_entry_self]
  simp [set]

/-- Writing the state a slot has changes nothing. The pager does so whenever it makes an active slot
active. -/
theorem setState_of_state {state : ProcState} (h : (d.entry i).state = state) :
    d.setState i state = d := by
  unfold setState set
  rw [← h, Function.update_eq_self]

@[simp] theorem mapEntries_entry : (d.mapEntries f).entry i = f (d.entry i) :=
  rfl

@[simp] theorem mapEntries_pollingThreadCount :
    (d.mapEntries f).pollingThreadCount = d.pollingThreadCount :=
  rfl

/-- A slot that the loop stops at meets the condition. Most searches of the source use the loop's
index behind the loop without asking whether it stopped; what they do then is where their models
differ. -/
theorem findSlot_holds (h : d.findSlot p = some i) : p (d.entry i) = true := by
  unfold findSlot at h
  have hfound := List.find?_some h
  exact hfound

/-- The loop runs through when no slot meets the condition. -/
theorem findSlot_eq_none : d.findSlot p = none ↔ ∀ i, p (d.entry i) = false := by
  unfold findSlot
  rw [List.find?_eq_none]
  constructor
  · intro h i
    exact Bool.eq_false_iff.mpr (h i (List.mem_finRange i))
  · intro h i _
    rw [h i]
    exact Bool.false_ne_true

/-- The two together: whether the loop stops does not depend on the order of the slots, and where it
stops does. -/
theorem findSlot_isSome : (d.findSlot p).isSome = true ↔ ∃ i, p (d.entry i) = true := by
  constructor
  · intro h
    obtain ⟨i, hi⟩ := Option.isSome_iff_exists.mp h
    exact ⟨i, findSlot_holds hi⟩
  · rintro ⟨i, hi⟩
    by_contra hnone
    have hall := findSlot_eq_none.mp (Option.not_isSome_iff_eq_none.mp hnone)
    simp [hall i] at hi

end

end SchedulerData

end GpuVirtmem.Sched
