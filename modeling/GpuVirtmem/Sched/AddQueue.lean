import GpuVirtmem.Lib.Progress
import GpuVirtmem.Sched.FairShare

/-!
# Registration by statements (`backend/libl2scheduler.c`, `l2scheduler/fair_share_sched.c`)

Any number of backend processes register with the listeners of a node and remove themselves again.
`fs_add_queue` shakes hands with the listener over two FIFOs of the process, and keeps the one
semaphore of the node from its first message to its last. An `open` of one of these FIFOs waits for
the `open` of the other end, so both sides pass it together; a `read` waits for what is written.

The signals of the scheduler are left aside: a process that is put to sleep goes on later. What a
listener does to the table on one message is one step where it finds the process, and one where it
registers it.

The statements are cut where another party can come between: at what is written and read, at the two
`open`s of a FIFO, and at the semaphore. What lies between two such points is one step. The second
half of the module counts what is left to do, for a process by its place (`Place.weight`) and for a
listener by its statement and the messages in its FIFO, and shows that every step leaves less
(`Step.weight_lt`).
-/

namespace GpuVirtmem.Sched.Registering

open Lib

/-- `num_gpus`: the GPUs that have a listener. -/
def numGpus : Nat := 2

/-- `APP_TYPE_A`. -/
def appTypeA : Int32 := 0

/-- The statement of `fs_add_queue` that comes next. -/
inductive AddQueue
  | p | write | openRead | readSignum | openWrite | writeErr | v
  deriving DecidableEq

/-- The statement of `fs_rem_queue` that comes next. -/
inductive RemQueue
  | p | write | v
  deriving DecidableEq

/-- Where a backend process stands: it serves requests, or it is in a call for a GPU. -/
inductive Place
  | serving
  | adding (gpuid : Nat) (next : AddQueue)
  | removing (gpuid : Nat) (next : RemQueue)
  | exited
  deriving DecidableEq

/-- Between its P and its V. -/
def Place.inside : Place → Prop
  | .adding _ .p | .removing _ .p | .serving | .exited => False
  | .adding .. | .removing .. => True

/-- A backend process: the GPUs of the `CUDA_SET_DEVICE` requests to come, `running_gpu`, the
`signo` of its last answer, and what is in the FIFOs at its `CLIENT_READ_PATH` and its
`CLIENT_WRITE_PATH`. -/
structure Client where
  place : Place
  requests : List Nat
  runningGpu : Option Nat
  signo : Option Int32
  readPath : List Int32
  writePath : List Int32

/-- The statement of `fs_listen_thread` that comes next, with the message it works on. -/
inductive Handling
  | read
  | openResp (pcd : ProcessCreditData)
  | writeSignum (pcd : ProcessCreditData)
  | openReq (pcd : ProcessCreditData)
  | readErr (pcd : ProcessCreditData)
  | register (pcd : ProcessCreditData)

/-- The message. -/
def Handling.pcd : Handling → Option ProcessCreditData
  | .read => none
  | .openResp pcd | .writeSignum pcd | .openReq pcd | .readErr pcd | .register pcd => some pcd

/-- A listener and what is in its FIFO. -/
structure Listener where
  next : Handling
  fifo : List ProcessCreditData

/-- A message is written to the FIFO. -/
def Listener.push (l : Listener) (pcd : ProcessCreditData) : Listener :=
  { l with fifo := l.fifo ++ [pcd] }

/-- The table, the semaphore, the processes by their pids, and the listeners of the GPUs. -/
structure State where
  data : SchedulerData
  semFree : Bool
  client : Nat → Client
  listener : Nat → Listener

namespace State

def setClient (s : State) (pid : Nat) (c : Client) : State :=
  { s with client := Function.update s.client pid c }

def setListener (s : State) (gpuid : Nat) (l : Listener) : State :=
  { s with listener := Function.update s.listener gpuid l }

def setSem (s : State) (free : Bool) : State :=
  { s with semFree := free }

def setData (s : State) (d : SchedulerData) : State :=
  { s with data := d }

/-- The process goes on. -/
def goTo (s : State) (pid : Nat) (place : Place) : State :=
  s.setClient pid { s.client pid with place := place }

/-- The listener goes on. -/
def goOn (s : State) (gpuid : Nat) (next : Handling) : State :=
  s.setListener gpuid { s.listener gpuid with next := next }

/-- A message is written to the FIFO of the listener. The mapping file has no line for a GPU that
has no listener; then the path that is opened is that of no FIFO, and nothing is written. -/
def send (s : State) (gpuid : Nat) (pcd : ProcessCreditData) : State :=
  if gpuid < numGpus then s.setListener gpuid ((s.listener gpuid).push pcd) else s

section

variable {s : State} {pid q gpuid g : Nat} {c : Client} {l : Listener} {place : Place}
  {next : Handling} {pcd : ProcessCreditData}

/-- What is written to a process or a listener is what it then is. -/
@[simp] theorem setClient_self : (s.setClient pid c).client pid = c := Function.update_self ..

/-- A step of one process leaves the others as they are. -/
theorem setClient_of_ne (h : q ≠ pid) : (s.setClient pid c).client q = s.client q :=
  Function.update_of_ne h ..

/-- The same for listeners. -/
@[simp] theorem setListener_self : (s.setListener g l).listener g = l := Function.update_self ..

/-- And for the other listeners. -/
theorem setListener_of_ne (h : gpuid ≠ g) : (s.setListener g l).listener gpuid = s.listener gpuid :=
  Function.update_of_ne h ..

@[simp] theorem setClient_listener : (s.setClient pid c).listener = s.listener := rfl

@[simp] theorem goTo_listener : (s.goTo pid place).listener = s.listener := rfl

@[simp] theorem setListener_client : (s.setListener g l).client = s.client := rfl

@[simp] theorem goOn_client : (s.goOn g next).client = s.client := rfl

@[simp] theorem send_client : (s.send g pcd).client = s.client := by
  unfold send
  split
  · rfl
  · rfl

@[simp] theorem send_data : (s.send g pcd).data = s.data := by
  unfold send
  split
  · rfl
  · rfl

@[simp] theorem send_semFree : (s.send g pcd).semFree = s.semFree := by
  unfold send
  split
  · rfl
  · rfl

/-- The listener goes on with what it was doing; its FIFO may hold one more message. It holds none
more where the GPU has no listener. -/
theorem send_listener (gpuid : Nat) :
    ((s.send g pcd).listener gpuid).next = (s.listener gpuid).next ∧
      ((s.send g pcd).listener gpuid).fifo =
        if gpuid = g ∧ g < numGpus then (s.listener gpuid).fifo ++ [pcd]
        else (s.listener gpuid).fifo := by
  unfold send
  split
  · next hg =>
    by_cases h : gpuid = g
    · subst h
      rw [setListener_self, if_pos ⟨rfl, hg⟩]
      exact ⟨rfl, rfl⟩
    · rw [setListener_of_ne h, if_neg fun hand => h hand.1]
      exact ⟨rfl, rfl⟩
  · next hg =>
    rw [if_neg fun hand => hg hand.2]
    exact ⟨rfl, rfl⟩

end

end State

/-- What the listener does with a message that it has read. -/
def take (gpuid : Nat) (d : SchedulerData) (pcd : ProcessCreditData) : SchedulerData × Handling :=
  if pcd.action = addQ ∧ alreadyAdded d pcd = false then (d, .openResp pcd)
  else if pcd.action = remQ then (remProcess d gpuid pcd.pid Entry.fsFreed, .read)
  else (d, .read)

/-- What the listener does with the `err` of the process. -/
def answered (pcd : ProcessCreditData) (err : Int32) : Handling :=
  if err = 0 then .register pcd else .read

/-- The process registered. -/
def registered (d : SchedulerData) (pcd : ProcessCreditData) : SchedulerData :=
  fsRegisterProcess d pcd.pid sigsched pcd.appType pcd.gpuid pcd.shareUnit.toUInt32.toInt32

/-- Where the process goes at the end of its connection: `fs_rem_queue` does nothing for a GPU that
has no listener, or if there is none. -/
def leaving : Option Nat → Place
  | some gpuid => if gpuid < numGpus then .removing gpuid .p else .exited
  | none => .exited

/-- Who takes a step. -/
inductive Mover
  | process (pid : Nat)
  | listener (gpuid : Nat)
  | both (pid gpuid : Nat)

/-- The next statement of a process, of a listener, or an `open` that both have come to. -/
inductive Step (s : State) : Mover → State → Prop
  | setDevice {pid gpuid : Nat} {requests : List Nat} (h : (s.client pid).place = .serving)
      (hnext : (s.client pid).requests = gpuid :: requests) :
      Step s (.process pid)
        (s.setClient pid { s.client pid with place := .adding gpuid .p, requests := requests })
  | addP {pid gpuid : Nat} (h : (s.client pid).place = .adding gpuid .p) (hsem : s.semFree = true) :
      Step s (.process pid) ((s.goTo pid (.adding gpuid .write)).setSem false)
  | addWrite {pid gpuid : Nat} {share : Int32} {unset : Timeval}
      (h : (s.client pid).place = .adding gpuid .write) :
      Step s (.process pid) ((s.goTo pid (.adding gpuid .openRead)).send gpuid
        (fsAddQueue pid gpuid appTypeA share unset))
  | openRead {pid gpuid g : Nat} {pcd : ProcessCreditData}
      (h : (s.client pid).place = .adding gpuid .openRead)
      (hlisten : (s.listener g).next = .openResp pcd) (hpid : pcd.pid = pid) :
      Step s (.both pid g) ((s.goTo pid (.adding gpuid .readSignum)).goOn g (.writeSignum pcd))
  | writeSignum {g : Nat} {pcd : ProcessCreditData}
      (hlisten : (s.listener g).next = .writeSignum pcd) :
      Step s (.listener g) ((s.setClient pcd.pid { s.client pcd.pid with
        readPath := (s.client pcd.pid).readPath ++ [sigsched] }).goOn g (.openReq pcd))
  | readSignum {pid gpuid : Nat} {signum : Int32} {readPath : List Int32}
      (h : (s.client pid).place = .adding gpuid .readSignum)
      (hread : (s.client pid).readPath = signum :: readPath) :
      Step s (.process pid) (s.setClient pid { s.client pid with
        place := .adding gpuid .openWrite, signo := some signum, readPath := readPath })
  | openWrite {pid gpuid g : Nat} {pcd : ProcessCreditData}
      (h : (s.client pid).place = .adding gpuid .openWrite)
      (hlisten : (s.listener g).next = .openReq pcd) (hpid : pcd.pid = pid) :
      Step s (.both pid g) ((s.goTo pid (.adding gpuid .writeErr)).goOn g (.readErr pcd))
  | writeErr {pid gpuid : Nat} {err : Int32} (h : (s.client pid).place = .adding gpuid .writeErr)
      (herr : err = 0 ∨ err = -1) :
      Step s (.process pid) (s.setClient pid { s.client pid with
        place := .adding gpuid .v, writePath := (s.client pid).writePath ++ [err] })
  | addV {pid gpuid : Nat} (h : (s.client pid).place = .adding gpuid .v) :
      Step s (.process pid) ((s.setClient pid { s.client pid with
        place := .serving, runningGpu := some gpuid }).setSem true)
  | exit {pid : Nat} (h : (s.client pid).place = .serving)
      (hnext : (s.client pid).requests = []) :
      Step s (.process pid) (s.goTo pid (leaving (s.client pid).runningGpu))
  | remP {pid gpuid : Nat} (h : (s.client pid).place = .removing gpuid .p)
      (hsem : s.semFree = true) :
      Step s (.process pid) ((s.goTo pid (.removing gpuid .write)).setSem false)
  | remWrite {pid gpuid : Nat} {unset : ProcessCreditData}
      (h : (s.client pid).place = .removing gpuid .write) :
      Step s (.process pid) ((s.goTo pid (.removing gpuid .v)).send gpuid (fsRemQueue pid unset))
  | remV {pid gpuid : Nat} (h : (s.client pid).place = .removing gpuid .v) :
      Step s (.process pid) ((s.goTo pid .exited).setSem true)
  | read {g : Nat} {pcd : ProcessCreditData} {fifo : List ProcessCreditData}
      (hlisten : (s.listener g).next = .read) (hfifo : (s.listener g).fifo = pcd :: fifo) :
      Step s (.listener g)
        ((s.setListener g ⟨(take g s.data pcd).2, fifo⟩).setData (take g s.data pcd).1)
  | readErr {g : Nat} {pcd : ProcessCreditData} {err : Int32} {writePath : List Int32}
      (hlisten : (s.listener g).next = .readErr pcd)
      (hread : (s.client pcd.pid).writePath = err :: writePath) :
      Step s (.listener g) ((s.setClient pcd.pid { s.client pcd.pid with
        writePath := writePath }).goOn g (answered pcd err))
  | register {g : Nat} {pcd : ProcessCreditData} (hlisten : (s.listener g).next = .register pcd) :
      Step s (.listener g) ((s.goOn g .read).setData (registered s.data pcd))

/-- The scheduler has started, and the processes of `pids` have been forked; `requests` says for
each which devices its client will set. -/
def start (pids : Finset Nat) (requests : Nat → List Nat) : State :=
  { data := fsStartScheduler
    semFree := true
    client := fun pid =>
      if pid ∈ pids then ⟨.serving, requests pid, none, none, [], []⟩
      else ⟨.exited, [], none, none, [], []⟩
    listener := fun _ => ⟨.read, []⟩ }

/-- Every process has come to its end, and no message is left. -/
structure Finished (s : State) : Prop where
  sem : s.semFree = true
  clients : ∀ pid, (s.client pid).place = .exited
  listeners : ∀ g, s.listener g = ⟨.read, []⟩

/-! ## What is left to do -/

/-- The steps that a place is from the end, with those of the messages that are still to be sent. -/
def Place.weight : Place → Nat
  | .adding _ .p => 23
  | .adding _ .write => 22
  | .adding _ .openRead => 15
  | .adding _ .readSignum => 14
  | .adding _ .openWrite => 13
  | .adding _ .writeErr => 12
  | .adding _ .v => 11
  | .serving => 10
  | .removing _ .p => 9
  | .removing _ .write => 8
  | .removing _ .v => 1
  | .exited => 0

def Handling.weight : Handling → Nat
  | .openResp _ => 5
  | .writeSignum _ => 4
  | .openReq _ => 3
  | .readErr _ => 2
  | .register _ => 1
  | .read => 0

def Client.weight (c : Client) : Nat := c.place.weight + 14 * c.requests.length

def Listener.weight (l : Listener) : Nat := l.next.weight + 6 * l.fifo.length

/-- What is left to do for the processes and for the listeners. -/
def State.weight (pids : Finset Nat) (s : State) : Nat :=
  ∑ pid ∈ pids, (s.client pid).weight + ∑ g ∈ Finset.range numGpus, (s.listener g).weight

/-- Only the listeners of the node are at work, and on messages of the processes of `pids`. -/
structure Listening (pids : Finset Nat) (listener : Nat → Listener) : Prop where
  idle : ∀ g, ¬ g < numGpus → listener g = ⟨.read, []⟩
  handled : ∀ g pcd, (listener g).next.pcd = some pcd → pcd.pid ∈ pids
  sent : ∀ g, ∀ pcd ∈ (listener g).fifo, pcd.pid ∈ pids

/-- Only the processes of `pids` and the listeners of the node are at work. -/
structure Within (pids : Finset Nat) (s : State) : Prop where
  clients : ∀ pid, pid ∉ pids → (s.client pid).place = .exited
  listening : Listening pids s.listener

section

variable {pids : Finset Nat} {s t : State} {e : Mover} {pid g : Nat} {c : Client} {l : Listener}
  {pcd : ProcessCreditData}

/-- A process that goes on leaves less to do. -/
theorem weight_setClient_lt {n : Nat} (hpid : pid ∈ pids)
    (hc : c.weight + n < (s.client pid).weight) :
    (s.setClient pid c).weight pids + n < s.weight pids := by
  have hsum := sum_update_add (f := s.client) (w := Client.weight) c hpid
  simp only [State.weight, State.setClient]
  omega

/-- What a listener has to do is a summand of the whole, and is exchanged for what it has to do
afterwards. -/
theorem weight_setListener (hg : g < numGpus) :
    (s.setListener g l).weight pids + (s.listener g).weight = s.weight pids + l.weight := by
  have hsum := sum_update_add (f := s.listener) (w := Listener.weight) l (Finset.mem_range.mpr hg)
  simp only [State.weight, State.setListener]
  omega

/-- What is in the FIFOs of a process is no work of its own: a write to one of them is paid for by
the step that makes it. -/
theorem weight_setClient_of_eq (hc : c.weight = (s.client pid).weight) :
    (s.setClient pid c).weight pids = s.weight pids := by
  have hsame : ∀ i ∈ pids, (Function.update s.client pid c i).weight = (s.client i).weight := by
    intro i _
    by_cases hi : i = pid
    · rw [hi, Function.update_self, hc]
    · rw [Function.update_of_ne hi]
  simp only [State.weight, State.setClient]
  rw [Finset.sum_congr rfl hsame]

/-- A message in the FIFO is six steps of the listener at most. -/
theorem push_weight : (l.push pcd).weight = l.weight + 6 := by
  have hlen : (l.push pcd).fifo.length = l.fifo.length + 1 := List.length_append
  have hnext : (l.push pcd).next = l.next := rfl
  rw [Listener.weight, Listener.weight, hlen, hnext]
  omega

/-- That is what sending it adds, or nothing where it goes nowhere. -/
theorem weight_send : (s.send g pcd).weight pids ≤ s.weight pids + 6 := by
  unfold State.send
  split
  · next hg =>
    have hset := @weight_setListener pids s g ((s.listener g).push pcd) hg
    rw [push_weight] at hset
    omega
  · omega

/-- A listener that goes on leaves less to do. -/
theorem weight_goOn_lt {next : Handling} (hg : g < numGpus)
    (hnext : next.weight < (s.listener g).next.weight) :
    (s.goOn g next).weight pids < s.weight pids := by
  have hset := @weight_setListener pids s g ⟨next, (s.listener g).fifo⟩ hg
  simp only [Listener.weight] at hset
  show (s.setListener g ⟨next, (s.listener g).fifo⟩).weight pids < _
  omega

/-- Once it is taken, five steps are left of the six. -/
theorem take_weight {d : SchedulerData} : (take g d pcd).2.weight ≤ 5 := by
  unfold take
  split
  · exact le_rfl
  · split
    · exact Nat.zero_le 5
    · exact Nat.zero_le 5

/-- After the answer of the process at most the registration is left. -/
theorem answered_weight {err : Int32} : (answered pcd err).weight ≤ 1 := by
  unfold answered
  split
  · exact le_rfl
  · exact Nat.zero_le 1

/-- A process that leaves a connection has at most the removal in front of it. -/
theorem leaving_weight (running : Option Nat) : (leaving running).weight ≤ 9 := by
  unfold leaving
  split
  · split
    · exact le_rfl
    · exact Nat.zero_le 9
  · exact Nat.zero_le 9

/-- Who has not exited is one of the processes. -/
theorem Within.mem {place : Place} (h : Within pids s) (hplace : (s.client pid).place = place)
    (hne : place ≠ .exited) : pid ∈ pids := by
  by_contra hpid
  exact hne (hplace.symm.trans (h.clients pid hpid))

/-- A listener that has something to do is one of the node's. The others do not exist, and messages
to them are not written anywhere. -/
theorem Within.listens (h : Within pids s) (hl : s.listener g ≠ ⟨.read, []⟩) : g < numGpus := by
  by_contra hg
  exact hl (h.listening.idle g hg)

/-- Who handles a message is one of the listeners. -/
theorem Within.handles {next : Handling} (h : Within pids s) (hnext : (s.listener g).next = next)
    (hne : next ≠ .read) : g < numGpus := by
  apply h.listens
  intro hl
  rw [hl] at hnext
  exact hne hnext.symm

/-- A process that goes on to a place nearer to its end leaves less to do. -/
theorem weight_goTo_lt {n : Nat} {before after : Place} (h : Within pids s)
    (hplace : (s.client pid).place = before) (hlt : after.weight + n < before.weight) :
    (s.goTo pid after).weight pids + n < s.weight pids := by
  have hne : before ≠ .exited := by
    rintro rfl
    exact Nat.not_lt_zero _ hlt
  apply weight_setClient_lt (h.mem hplace hne)
  simp only [Client.weight, hplace]
  omega

/-- Every step leaves less to do. So no run of the node is longer than what there was to do at its
start, whatever becomes of the processes; whether they all get to their ends is another question,
which `Completion` answers. -/
theorem Step.weight_lt (hs : Within pids s) (h : Step s e t) : t.weight pids < s.weight pids := by
  cases h with
  | setDevice h hnext =>
    refine weight_setClient_lt (n := 0) (hs.mem h Place.noConfusion) ?_
    simp only [Client.weight, h, hnext, Place.weight, List.length_cons]
    omega
  | addP h hsem => exact weight_goTo_lt (n := 0) hs h (by simp [Place.weight])
  | @addWrite pid gpuid _ _ h =>
    have hgo := @weight_goTo_lt pids s pid 6 _ (.adding gpuid .openRead) hs h
      (by simp [Place.weight])
    exact lt_of_le_of_lt weight_send hgo
  | @openRead pid gpuid _ _ h hlisten hpid =>
    have hgo := @weight_goTo_lt pids s pid 0 _ (.adding gpuid .readSignum) hs h
      (by simp [Place.weight])
    have hnext : (s.listener _).next.weight = 5 := congrArg Handling.weight hlisten
    refine lt_trans (weight_goOn_lt (hs.handles hlisten Handling.noConfusion) ?_) hgo
    exact hnext ▸ Nat.lt_succ_self 4
  | writeSignum hlisten =>
    have hnext : (s.listener _).next.weight = 4 := congrArg Handling.weight hlisten
    refine lt_of_lt_of_eq (weight_goOn_lt (hs.handles hlisten Handling.noConfusion) ?_)
      (weight_setClient_of_eq rfl)
    exact hnext ▸ Nat.lt_succ_self 3
  | readSignum h hread =>
    refine weight_setClient_lt (n := 0) (hs.mem h Place.noConfusion) ?_
    simp [Client.weight, h, Place.weight]
  | @openWrite pid gpuid _ _ h hlisten hpid =>
    have hgo := @weight_goTo_lt pids s pid 0 _ (.adding gpuid .writeErr) hs h
      (by simp [Place.weight])
    have hnext : (s.listener _).next.weight = 3 := congrArg Handling.weight hlisten
    refine lt_trans (weight_goOn_lt (hs.handles hlisten Handling.noConfusion) ?_) hgo
    exact hnext ▸ Nat.lt_succ_self 2
  | writeErr h herr =>
    refine weight_setClient_lt (n := 0) (hs.mem h Place.noConfusion) ?_
    simp [Client.weight, h, Place.weight]
  | addV h =>
    refine weight_setClient_lt (n := 0) (hs.mem h Place.noConfusion) ?_
    simp [Client.weight, h, Place.weight]
  | exit h hnext =>
    exact weight_goTo_lt (n := 0) hs h (Nat.lt_succ_of_le (leaving_weight _))
  | remP h hsem => exact weight_goTo_lt (n := 0) hs h (by simp [Place.weight])
  | @remWrite pid gpuid _ h =>
    have hgo := @weight_goTo_lt pids s pid 6 _ (.removing gpuid .v) hs h (by simp [Place.weight])
    exact lt_of_le_of_lt weight_send hgo
  | remV h => exact weight_goTo_lt (n := 0) hs h (by simp [Place.weight])
  | @read g pcd fifo hlisten hfifo =>
    have hg : g < numGpus := hs.listens fun hl => by rw [hl] at hfifo; cases hfifo
    have hset := @weight_setListener pids s g ⟨(take g s.data pcd).2, fifo⟩ hg
    have htake := @take_weight g pcd s.data
    have hread : Handling.read.weight = 0 := rfl
    simp only [Listener.weight, hlisten, hfifo, hread, List.length_cons] at hset
    show (s.setListener g ⟨(take g s.data pcd).2, fifo⟩).weight pids < _
    omega
  | readErr hlisten hread =>
    have hnext : (s.listener _).next.weight = 2 := congrArg Handling.weight hlisten
    refine lt_of_lt_of_eq (weight_goOn_lt (hs.handles hlisten Handling.noConfusion) ?_)
      (weight_setClient_of_eq rfl)
    exact hnext ▸ Nat.lt_succ_of_le answered_weight
  | register hlisten =>
    have hnext : (s.listener _).next.weight = 1 := congrArg Handling.weight hlisten
    have hlt : Handling.read.weight < (s.listener _).next.weight := hnext ▸ Nat.zero_lt_one
    have hgo : _ < s.weight pids :=
      weight_goOn_lt (hs.handles hlisten Handling.noConfusion) hlt
    exact hgo

end

end GpuVirtmem.Sched.Registering
