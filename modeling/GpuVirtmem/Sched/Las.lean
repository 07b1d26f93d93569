import GpuVirtmem.Sched.FairShare

/-!
# The least-attained-service scheduler (`l2scheduler/las_scheduler.c`)

Its listeners answer more kinds of messages than those of the fair-share scheduler, on the same
table. The build leaves `L2_FEEDBACK_ENABLED` undefined. A client sends an index of the table in the
`gpuid` field of some messages; outside the table the listener's read has no result.

The order of the processes is made by the control thread in two loops: one finds the least time that
any process has been served for, and one gives the high priority to those that have it. The first
loop starts from slot 0 without asking whether that slot is in use. The clients report their times
by `NOTIFY_SCHED`, and the listener adds them up.
-/

namespace GpuVirtmem.Sched

/-- `timeradd`. -/
def Timeval.add (a b : Timeval) : Timeval :=
  if a.tvUsec + b.tvUsec ≥ 1000000 then
    ⟨a.tvSec + b.tvSec + 1, a.tvUsec + b.tvUsec - 1000000⟩
  else ⟨a.tvSec + b.tvSec, a.tvUsec + b.tvUsec⟩

/-- `timercmp(a, b, <)`. -/
def Timeval.lt (a b : Timeval) : Bool :=
  if a.tvSec = b.tvSec then a.tvUsec < b.tvUsec else a.tvSec < b.tvSec

/-- `PRIORITY_NORMAL`. -/
def priorityNormal : Int32 := 19

/-- `PRIORITY_HIGH`. -/
def priorityHigh : Int32 := -20

/-- `las_already_added`. -/
abbrev lasAlreadyAdded (d : SchedulerData) (pcd : ProcessCreditData) : Bool :=
  alreadyAdded d pcd

/-- `las_register_process`, with the index it returns. -/
def lasRegisterProcess (d : SchedulerData) (processId gpuid : Nat) (toMark : Bool) :
    SchedulerData × Slot :=
  let i := d.pollingThreadCount
  let registered := d.set i { d.entry i with
    processList := processId, valid := true, gpuBinding := gpuid, priority := 0,
    sendsL2Feedback := toMark }
  ({ registered with pollingThreadCount := nextSlot i }, i)

/-- A slot that `las_listen_thread` frees. -/
def Entry.lasFreed (e : Entry) : Entry :=
  { e with processList := invalidProceess, valid := false }

/-- `NOTIFY_SCHED`: the time is added to that of the process. -/
def lasNotify (d : SchedulerData) (gpuid : Nat) (pcd : ProcessCreditData) : SchedulerData :=
  match d.findSlot fun e => e.processList == pcd.pid && gpuid == e.gpuBinding with
  | some i =>
    d.set i { d.entry i with executionTime := (d.entry i).executionTime.add pcd.executionTime }
  | none => d

/-- The entry that a client names by its index. -/
def SchedulerData.entryAt (d : SchedulerData) (idx : Nat) : Option Entry :=
  if h : idx < maxControllerCount then some (d.entry ⟨idx, h⟩) else none

/-- `pcd` as the answer to `GET_L2_DATA`. -/
def ProcessCreditData.l2Reply (pcd : ProcessCreditData) (e : Entry) : ProcessCreditData :=
  { pcd with
    appType := e.appType, executionTime := e.executionTime,
    action := if e.sendsL2Feedback then 1 else 0 }

/-- `las_listen_thread` before it opens its FIFO. -/
def lasListenStart (d : SchedulerData) : SchedulerData :=
  d.mapEntries fun e => { e with valid := false }

/-- What `las_listen_thread` of GPU `gpuid` does with one message. -/
def lasListen (gpuid : Nat) (d : SchedulerData) (pcd : ProcessCreditData) :
    Option (SchedulerData × List Effect) :=
  if pcd.action = addQ ∧ lasAlreadyAdded d pcd = false then
    let (d', index) := lasRegisterProcess d pcd.pid pcd.gpuid false
    some (d', [.write (.clientReadPath pcd.pid) (.int (.ofNat index.val))])
  else if pcd.action = remQ then
    some (remProcess d gpuid pcd.pid Entry.lasFreed,
      [.unlink (.clientWritePath pcd.pid), .unlink (.clientReadPath pcd.pid)])
  else if pcd.action = notifySched then some (lasNotify d gpuid pcd, [])
  else if pcd.action = getPriority then do
    let e ← d.entryAt pcd.gpuid
    some (d, [.write (.clientReadPath pcd.pid) (.int e.priority)])
  else if pcd.action = getL2Data then do
    let e ← d.entryAt pcd.gpuid
    some (d, [.write (.clientReadPath pcd.pid) (.data (pcd.l2Reply e))])
  else some (d, [])

/-- `minval` after the first loop of `las_control_thread`. -/
def SchedulerData.minval (d : SchedulerData) (gpuid : Nat) : Timeval :=
  (List.finRange maxControllerCount).foldl
    (fun minval i =>
      let e := d.entry i
      if e.gpuBinding = gpuid ∧ e.valid = true ∧ e.executionTime.lt minval = true then
        e.executionTime
      else minval)
    (d.entry firstSlot).executionTime

/-- One iteration of `las_control_thread`: the processes with the least time come first. -/
def lasControlRound (gpuid : Nat) (d : SchedulerData) : SchedulerData :=
  if d.Idles then d
  else d.mapEntries fun e =>
    if e.gpuBinding = gpuid ∧ e.valid = true then
      { e with priority :=
        if e.executionTime ≠ d.minval gpuid then priorityNormal else priorityHigh }
    else e

section

variable {gpuid : Nat} {d d' : SchedulerData} {pcd : ProcessCreditData} {effects : List Effect}

/-- What the listener has done with a message, by the branch it took. Unlike the other scheduler's,
most of its branches write an answer to the sender. -/
theorem lasListen_cases (h : lasListen gpuid d pcd = some (d', effects)) :
    (pcd.action = addQ ∧ lasAlreadyAdded d pcd = false ∧
      d' = (lasRegisterProcess d pcd.pid pcd.gpuid false).1 ∧
      effects =
        [.write (.clientReadPath pcd.pid) (.int (.ofNat d.pollingThreadCount.val))]) ∨
    (pcd.action = remQ ∧ d' = remProcess d gpuid pcd.pid Entry.lasFreed ∧
      effects = [.unlink (.clientWritePath pcd.pid), .unlink (.clientReadPath pcd.pid)]) ∨
    (pcd.action = notifySched ∧ d' = lasNotify d gpuid pcd ∧ effects = []) ∨
    (pcd.action = getPriority ∧ d' = d ∧
      ∃ p, effects = [.write (.clientReadPath pcd.pid) (.int p)]) ∨
    (pcd.action = getL2Data ∧ d' = d ∧
      ∃ e, effects = [.write (.clientReadPath pcd.pid) (.data (pcd.l2Reply e))]) ∨
    (¬ (pcd.action = addQ ∧ lasAlreadyAdded d pcd = false) ∧ pcd.action ≠ getPriority ∧
      pcd.action ≠ getL2Data ∧ d' = d ∧ effects = []) := by
  unfold lasListen at h
  split at h
  · rename_i hadd
    cases h
    exact .inl ⟨hadd.1, hadd.2, rfl, rfl⟩
  · rename_i hadd
    split at h
    · rename_i hrem
      cases h
      exact .inr (.inl ⟨hrem, rfl, rfl⟩)
    · split at h
      · rename_i hnotify
        cases h
        exact .inr (.inr (.inl ⟨hnotify, rfl, rfl⟩))
      · split at h
        · rename_i hprio
          obtain ⟨e, _, he⟩ := Option.bind_eq_some_iff.mp h
          cases he
          exact .inr (.inr (.inr (.inl ⟨hprio, rfl, _, rfl⟩)))
        · rename_i hprio
          split at h
          · rename_i hl2
            obtain ⟨e, _, he⟩ := Option.bind_eq_some_iff.mp h
            cases he
            exact .inr (.inr (.inr (.inr (.inl ⟨hl2, rfl, e, rfl⟩))))
          · rename_i hl2
            cases h
            exact .inr (.inr (.inr (.inr (.inr ⟨hadd, hprio, hl2, rfl, rfl⟩))))

end

/-! ## The message a client writes (`backend/libl2scheduler.c`)

Each function sets some fields of its structure; the others hold what the stack did. -/

/-- The message of `las_add_queue`. -/
def lasAddQueue (processId gpuid : Nat) (appType : Int32) (unset : ProcessCreditData) :
    ProcessCreditData :=
  { unset with pid := processId, action := addQ, appType := appType, gpuid := gpuid }

/-- The message of `las_rem_queue`. -/
def lasRemQueue (pid : Nat) (unset : ProcessCreditData) : ProcessCreditData :=
  { unset with pid := pid, action := remQ }

/-- The message of `las_notify_scheduler`; `elapsed` is the time between its two arguments. -/
def lasNotifyScheduler (pid : Nat) (elapsed : Timeval) (unset : ProcessCreditData) :
    ProcessCreditData :=
  { unset with
    pid := pid, shareUnit := 0, action := notifySched, appType := 0, executionTime := elapsed }

/-- The message of `las_get_priority`. -/
def lasGetPriority (pid index : Nat) (unset : ProcessCreditData) : ProcessCreditData :=
  { unset with pid := pid, action := getPriority, gpuid := index }

/-- The message of `las_get_l2_data`. -/
def lasGetL2Data (pid index : Nat) (unset : ProcessCreditData) : ProcessCreditData :=
  { unset with pid := pid, action := getL2Data, gpuid := index }

end GpuVirtmem.Sched
