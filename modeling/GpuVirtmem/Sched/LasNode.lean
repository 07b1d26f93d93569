import GpuVirtmem.Lib.Progress
import GpuVirtmem.Lib.Semaphore
import GpuVirtmem.Sched.Service

/-!
# A node under the least-attained-service scheduler

Any number of backend processes (`backend/backend.c` with `SCHED_LAS`) call the functions of
`backend/libl2scheduler.c`, which send to the listeners of `l2scheduler/las_scheduler.c` under the
one semaphore of the node. `las_get_priority` keeps the semaphore until it has its answer;
`las_add_queue` gives it back first. Every FIFO is opened by its reader before the other side opens
it, so no `open` waits.

The listeners share the table. A registration writes it statement by statement, each of which reads
`polling_thread_count` again; what a listener does for another message is one step. `GET_L2_DATA`
is left aside, which is sent only in the build with `L2_FEEDBACK_ENABLED`.

What can come between is another listener: two of them may be in `las_register_process` at once and
read the same counter, so that one process loses its slot to the other. The results on this node do
not say who has a slot in the end; they say that everybody is answered who is to be answered, and
that the semaphore is not lost.
-/

namespace GpuVirtmem.Sched.LasNode

open Lib

/-- `num_gpus` of `las_start_scheduler`: the GPUs that have a listener. -/
def numGpus : Nat := 2

/-- `APP_TYPE_B`. -/
def appTypeB : Int32 := 1

/-- What a client sends, with the time that its execution takes. A header that announces no packets
is ignored. -/
inductive Request
  | ignored
  | setDevice (gpuid : Nat) (isLocal : Bool) (elapsed : Timeval)
  | other (elapsed : Timeval)

/-- A call of a `las_` function. The process gets its device and its index after the notification
for its `CUDA_SET_DEVICE`. -/
inductive Call
  | getPriority
  | addQueue (gpuid : Nat) (appType : Int32) (elapsed : Timeval)
  | notify (elapsed : Timeval) (device : Option (Nat × Int32))
  | remQueue

/-- The call waits for an answer. -/
def Call.hasAnswer : Call → Bool
  | .getPriority | .addQueue .. => true
  | .notify .. | .remQueue => false

/-- The statement of the call that comes next. -/
inductive Stage
  | p | write | v | read
  deriving DecidableEq

/-- Where a backend process stands: at the head of its loop, where it receives a request, or in a
call. -/
inductive Place
  | looping
  | receiving
  | calling (call : Call) (stage : Stage)
  | exited

/-- Between its P and its V. -/
def Place.inside : Place → Bool
  | .calling _ .write | .calling _ .v | .calling .getPriority .read => true
  | _ => false

/-- A backend process: the requests of its client to come, `index` and `running_gpu` (none for -1),
and what is in the FIFO at its `CLIENT_READ_PATH`. -/
structure Client where
  place : Place
  requests : List Request
  index : Option Nat
  runningGpu : Option Nat
  readPath : List Int32

/-- `index = rpkts[0].signo`, as an `unsigned int`. -/
def indexOf (signo : Int32) : Option Nat :=
  if signo = -1 then none else some signo.toUInt32.toNat

namespace Client

/-- The GPU of the process, where the mapping file has a line for it. -/
def mapped (c : Client) : Option Nat := c.runningGpu.filter (· < numGpus)

def goTo (c : Client) (place : Place) : Client :=
  { c with place := place }

/-- A function that finds no line in the mapping file returns at once. -/
def enter (c : Client) (call : Call) (otherwise : Client) : Client :=
  match c.mapped with
  | some _ => c.goTo (.calling call .p)
  | none => otherwise

/-- The end of the loop: after `CUDA_SET_DEVICE`, the process has a device and an index. -/
def served (c : Client) : Option (Nat × Int32) → Client
  | some (gpuid, signo) =>
    { c with place := .looping, index := indexOf signo, runningGpu := some gpuid }
  | none => c.goTo .looping

/-- A request has been executed. -/
def executed (c : Client) (elapsed : Timeval) (device : Option (Nat × Int32)) : Client :=
  c.enter (.notify elapsed device) (c.served device)

/-- The head of the loop. -/
def loop (c : Client) : Client :=
  match c.index with
  | some _ => c.enter .getPriority (c.goTo .receiving)
  | none => c.goTo .receiving

/-- The next request, or the end of the connection. -/
def receive (c : Client) : Client :=
  match c.requests with
  | [] => c.enter .remQueue (c.goTo .exited)
  | .ignored :: requests => { c with place := .looping, requests := requests }
  | .setDevice gpuid isLocal elapsed :: requests =>
    { c with
      place := .calling (.addQueue gpuid (if isLocal then appTypeB else appTypeA) elapsed) .p
      requests := requests }
  | .other elapsed :: requests => { c with requests := requests }.executed elapsed none

/-- The GPU whose listener is called. -/
def gpuOf (c : Client) : Call → Option Nat
  | .addQueue gpuid .. => some gpuid
  | .getPriority | .notify .. | .remQueue => c.runningGpu

/-- The message of the call; `unset` is what the stack holds. -/
def message (c : Client) (pid : Nat) (unset : ProcessCreditData) : Call → ProcessCreditData
  | .getPriority => lasGetPriority pid (c.index.getD 0) unset
  | .addQueue gpuid appType _ => lasAddQueue pid gpuid appType unset
  | .notify elapsed _ => lasNotifyScheduler pid elapsed unset
  | .remQueue => lasRemQueue pid unset

/-- After the write: `las_get_priority` waits for its answer first. -/
def written (c : Client) : Call → Client
  | .getPriority => c.goTo (.calling .getPriority .read)
  | call => c.goTo (.calling call .v)

/-- After the V: `las_add_queue` waits for its answer. -/
def released (c : Client) : Call → Client
  | .getPriority => c.goTo .receiving
  | .addQueue gpuid appType elapsed => c.goTo (.calling (.addQueue gpuid appType elapsed) .read)
  | .notify _ device => c.served device
  | .remQueue => c.goTo .exited

/-- After the answer. -/
def answered (c : Client) (answer : Int32) : Call → Client
  | .getPriority => c.goTo (.calling .getPriority .v)
  | .addQueue gpuid _ elapsed => c.executed elapsed (some (gpuid, answer))
  | .notify .. | .remQueue => c

end Client

/-- The statement of `las_register_process` that comes next. -/
inductive Register
  | processList | valid | gpuBinding | priority | sendsL2Feedback | index
  | count (idx : Slot)

/-- The statement of `las_listen_thread` that comes next. -/
inductive Handling
  | read
  | register (pcd : ProcessCreditData) (next : Register)
  | reply (pid : Nat) (answer : Int32)

/-- The process that the listener works for. -/
def Handling.pid : Handling → Option Nat
  | .read => none
  | .register pcd _ => some pcd.pid
  | .reply pid _ => some pid

/-- A listener and what is in its FIFO. -/
structure Listener where
  next : Handling
  fifo : List ProcessCreditData

/-- A message is written to the FIFO. -/
def Listener.push (l : Listener) (pcd : ProcessCreditData) : Listener :=
  { l with fifo := l.fifo ++ [pcd] }

/-- One statement of `las_register_process` on the table. -/
def Register.write (d : SchedulerData) (pcd : ProcessCreditData) : Register → SchedulerData :=
  let c := d.pollingThreadCount
  let e := d.entry c
  fun
  | .processList => d.set c { e with processList := pcd.pid }
  | .valid => d.set c { e with valid := true }
  | .gpuBinding => d.set c { e with gpuBinding := pcd.gpuid }
  | .priority => d.set c { e with priority := 0 }
  | .sendsL2Feedback => d.set c { e with sendsL2Feedback := false }
  | .index => d
  | .count _ => { d with pollingThreadCount := nextSlot c }

/-- Where the listener goes after the statement. -/
def Register.next (d : SchedulerData) (pcd : ProcessCreditData) : Register → Handling
  | .processList => .register pcd .valid
  | .valid => .register pcd .gpuBinding
  | .gpuBinding => .register pcd .priority
  | .priority => .register pcd .sendsL2Feedback
  | .sendsL2Feedback => .register pcd .index
  | .index => .register pcd (.count d.pollingThreadCount)
  | .count idx => .reply pcd.pid (.ofNat idx.val)

/-- What the listener does with a message that it has read. -/
def take (gpuid : Nat) (d : SchedulerData) (pcd : ProcessCreditData) :
    Option (SchedulerData × Handling) :=
  if pcd.action = addQ ∧ lasAlreadyAdded d pcd = false then some (d, .register pcd .processList)
  else if pcd.action = remQ then some (remProcess d gpuid pcd.pid Entry.lasFreed, .read)
  else if pcd.action = notifySched then some (lasNotify d gpuid pcd, .read)
  else if pcd.action = getPriority then
    (d.entryAt pcd.gpuid).map fun e => (d, .reply pcd.pid e.priority)
  else some (d, .read)

/-- The table, the semaphore, the processes by their pids, and the listeners of the GPUs. -/
structure State where
  data : SchedulerData
  semFree : Bool
  client : Nat → Client
  listener : Nat → Listener

namespace State

def setClient (s : State) (pid : Nat) (c : Client) : State :=
  { s with client := Function.update s.client pid c }

def setListener (s : State) (gpuid : Nat) (l : Listener) : State :=
  { s with listener := Function.update s.listener gpuid l }

def setSem (s : State) (free : Bool) : State :=
  { s with semFree := free }

def setData (s : State) (d : SchedulerData) : State :=
  { s with data := d }

/-- The listener goes on. -/
def goOn (s : State) (gpuid : Nat) (next : Handling) : State :=
  s.setListener gpuid { s.listener gpuid with next := next }

/-- A message is written to the FIFO of the listener. For a GPU that has none, the path that is
opened is that of no FIFO, and nothing is written. -/
def send (s : State) (gpuid : Option Nat) (pcd : ProcessCreditData) : State :=
  match gpuid with
  | some g => if g < numGpus then s.setListener g ((s.listener g).push pcd) else s
  | none => s

end State

/-- Who takes a step, a writer with its message. -/
inductive Mover
  | process (pid : Nat)
  | writer (pid : Nat) (pcd : ProcessCreditData)
  | listener (gpuid : Nat)

/-- The next statement of a process or of a listener. -/
inductive Step (s : State) : Mover → State → Prop
  | loop {pid : Nat} (h : (s.client pid).place = .looping) :
      Step s (.process pid) (s.setClient pid (s.client pid).loop)
  | receive {pid : Nat} (h : (s.client pid).place = .receiving) :
      Step s (.process pid) (s.setClient pid (s.client pid).receive)
  | p {pid : Nat} {call : Call} (h : (s.client pid).place = .calling call .p)
      (hsem : s.semFree = true) :
      Step s (.process pid)
        ((s.setClient pid ((s.client pid).goTo (.calling call .write))).setSem false)
  | write {pid : Nat} {unset : ProcessCreditData} {call : Call}
      (h : (s.client pid).place = .calling call .write) :
      Step s (.writer pid ((s.client pid).message pid unset call))
        ((s.setClient pid ((s.client pid).written call)).send ((s.client pid).gpuOf call)
          ((s.client pid).message pid unset call))
  | v {pid : Nat} {call : Call} (h : (s.client pid).place = .calling call .v) :
      Step s (.process pid) ((s.setClient pid ((s.client pid).released call)).setSem true)
  | readAnswer {pid : Nat} {call : Call} {answer : Int32} {readPath : List Int32}
      (h : (s.client pid).place = .calling call .read) (hcall : call.hasAnswer = true)
      (hread : (s.client pid).readPath = answer :: readPath) :
      Step s (.process pid)
        (s.setClient pid ({ s.client pid with readPath := readPath }.answered answer call))
  | read {g : Nat} {pcd : ProcessCreditData} {fifo : List ProcessCreditData} {d : SchedulerData}
      {next : Handling} (hlisten : (s.listener g).next = .read)
      (hfifo : (s.listener g).fifo = pcd :: fifo) (htake : take g s.data pcd = some (d, next)) :
      Step s (.listener g) ((s.setListener g ⟨next, fifo⟩).setData d)
  | register {g : Nat} {pcd : ProcessCreditData} {next : Register}
      (hlisten : (s.listener g).next = .register pcd next) :
      Step s (.listener g) ((s.goOn g (next.next s.data pcd)).setData (next.write s.data pcd))
  | reply {g pid : Nat} {answer : Int32} (hlisten : (s.listener g).next = .reply pid answer) :
      Step s (.listener g) ((s.setClient pid { s.client pid with
        readPath := (s.client pid).readPath ++ [answer] }).goOn g .read)

/-- The scheduler has started, and the processes of `pids` have been forked; `requests` says for
each what its client will send. -/
def start (pids : Finset Nat) (requests : Nat → List Request) : State :=
  { data := lasListenStart staticData
    semFree := true
    client := fun pid =>
      if pid ∈ pids then ⟨.looping, requests pid, none, none, []⟩
      else ⟨.exited, [], none, none, []⟩
    listener := fun _ => ⟨.read, []⟩ }

/-! ## A message that is handled without a break -/

section

variable {g : Nat} {d d' : SchedulerData} {pcd : ProcessCreditData} {next : Handling}

/-- What a listener has taken, by the branch. The results on runs split on this, and not on the
tests of the source. -/
theorem take_cases (h : take g d pcd = some (d', next)) :
    (pcd.action = addQ ∧ lasAlreadyAdded d pcd = false ∧ d' = d ∧
      next = .register pcd .processList) ∨
    (pcd.action = remQ ∧ d' = remProcess d g pcd.pid Entry.lasFreed ∧ next = .read) ∨
    (pcd.action = notifySched ∧ d' = lasNotify d g pcd ∧ next = .read) ∨
    (pcd.action = getPriority ∧ d' = d ∧
      ∃ e, d.entryAt pcd.gpuid = some e ∧ next = .reply pcd.pid e.priority) ∨
    ((pcd.action = addQ → lasAlreadyAdded d pcd = true) ∧ pcd.action ≠ getPriority ∧ d' = d ∧
      next = .read) := by
  unfold take at h
  split at h
  · next hadd =>
    cases h
    exact .inl ⟨hadd.1, hadd.2, rfl, rfl⟩
  · next hadd =>
    split at h
    · next hrem =>
      cases h
      exact .inr (.inl ⟨hrem, rfl, rfl⟩)
    · split at h
      · next hnotify =>
        cases h
        exact .inr (.inr (.inl ⟨hnotify, rfl, rfl⟩))
      · split at h
        · next hprio =>
          obtain ⟨e, he, hpair⟩ := Option.map_eq_some_iff.mp h
          cases hpair
          exact .inr (.inr (.inr (.inl ⟨hprio, rfl, e, he, rfl⟩)))
        · next hprio =>
          cases h
          refine .inr (.inr (.inr (.inr ⟨fun haction => ?_, hprio, rfl, rfl⟩)))
          exact Bool.of_not_eq_false fun hnew => hadd ⟨haction, hnew⟩

/-- The statements of `las_register_process`, one after the other, do what the function does in
`Sched.Las`: cutting it loses nothing. -/
theorem register_alone : (([.processList, .valid, .gpuBinding, .priority, .sendsL2Feedback, .index,
      .count d.pollingThreadCount] : List Register).foldl (fun d next => next.write d pcd) d) =
    (lasRegisterProcess d pcd.pid pcd.gpuid false).1 := by
  simp [Register.write, lasRegisterProcess, SchedulerData.set]

/-- A message that is taken, and worked on alone, is handled as by `lasListen`. So the node of this
module and the listener that is a function of table and message are the same where nobody comes
between. -/
theorem lasListen_take (hl2 : pcd.action ≠ getL2Data) : lasListen g d pcd =
    (take g d pcd).map fun (d', next) => match next with
      | .read => (d', if pcd.action = remQ then
          [.unlink (.clientWritePath pcd.pid), .unlink (.clientReadPath pcd.pid)] else [])
      | .register pcd _ => ((lasRegisterProcess d pcd.pid pcd.gpuid false).1,
          [.write (.clientReadPath pcd.pid) (.int (.ofNat d.pollingThreadCount.val))])
      | .reply pid answer => (d', [.write (.clientReadPath pid) (.int answer)]) := by
  unfold lasListen take
  split
  · rfl
  · split
    · simp
    · split
      · simp
      · split
        · cases d.entryAt pcd.gpuid with
          | none => rfl
          | some e => rfl
        · simp

end

end GpuVirtmem.Sched.LasNode
