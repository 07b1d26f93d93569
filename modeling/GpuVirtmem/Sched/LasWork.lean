import GpuVirtmem.Sched.LasNode

/-!
# What is left to do on the node

Every step of a process or of a listener leaves less to do: the statements up to the end of the
connection, and for each message those with which a listener works on it.

The numbers are generous. What counts is that a request of the client is worth more than all the
calls that it can lead to, and a call more than its statements together with those of the listener
on its message.
-/

namespace GpuVirtmem.Sched.LasNode

open Lib

/-- What is left of the process after the call. -/
def Call.rest : Call → Nat
  | .getPriority => 15
  | .addQueue .. => 44
  | .notify .. => 30
  | .remQueue => 0

/-- The steps that a place is from the end, with those of the messages that are still to be sent. -/
def Place.weight : Place → Nat
  | .exited => 0
  | .receiving => 15
  | .looping => 30
  | .calling call .p => call.rest + 14
  | .calling call .write => call.rest + 13
  | .calling (.addQueue ..) .v => 46
  | .calling call .v => call.rest + 1
  | .calling (.addQueue ..) .read => 45
  | .calling call .read => call.rest + 2

def Register.weight : Register → Nat
  | .processList => 8
  | .valid => 7
  | .gpuBinding => 6
  | .priority => 5
  | .sendsL2Feedback => 4
  | .index => 3
  | .count _ => 2

def Handling.weight : Handling → Nat
  | .read => 0
  | .register _ next => next.weight
  | .reply .. => 1

def Client.weight (c : Client) : Nat := c.place.weight + 44 * c.requests.length

def Listener.weight (l : Listener) : Nat := l.next.weight + 10 * l.fifo.length

/-- What is left to do for the processes and for the listeners. -/
def State.weight (pids : Finset Nat) (s : State) : Nat :=
  ∑ pid ∈ pids, (s.client pid).weight + ∑ g ∈ Finset.range numGpus, (s.listener g).weight

/-- Only the processes of `pids` are at work, and the listeners of the node on their messages. -/
structure Within (pids : Finset Nat) (s : State) : Prop where
  clients : ∀ pid, pid ∉ pids → (s.client pid).place = .exited
  idle : ∀ g, ¬ g < numGpus → s.listener g = ⟨.read, []⟩
  handled : ∀ g pid, (s.listener g).next.pid = some pid → pid ∈ pids
  sent : ∀ g, ∀ pcd ∈ (s.listener g).fifo, pcd.pid ∈ pids

namespace Client

variable {c : Client} {call : Call} {elapsed : Timeval} {device : Option (Nat × Int32)}
  {answer : Int32}

/-- At the end of its loop a process has its other requests to do, and its removal. -/
theorem served_weight : (c.served device).weight = 30 + 44 * c.requests.length := by
  cases device with
  | none => rfl
  | some d => rfl

/-- A call is entered where the process has a device with a listener, and passed over otherwise. -/
theorem enter_cases (c : Client) (call : Call) (otherwise : Client) :
    (∃ g, c.mapped = some g ∧ c.enter call otherwise = c.goTo (.calling call .p)) ∨
      c.mapped = none ∧ c.enter call otherwise = otherwise := by
  unfold enter
  cases c.mapped with
  | none => exact .inr ⟨rfl, rfl⟩
  | some g => exact .inl ⟨g, rfl, rfl⟩

/-- Entering a call makes no more work than was set aside for it. -/
theorem enter_weight {otherwise : Client} {n : Nat}
    (hcall : call.rest + 14 + 44 * c.requests.length ≤ n) (hother : otherwise.weight ≤ n) :
    (c.enter call otherwise).weight ≤ n := by
  obtain ⟨g, -, h⟩ | ⟨-, h⟩ := enter_cases c call otherwise
  · rw [h]
    exact hcall
  · rw [h]
    exact hother

/-- What comes after the execution of a request. -/
theorem executed_weight : (c.executed elapsed device).weight ≤ 44 + 44 * c.requests.length := by
  refine enter_weight le_rfl ?_
  rw [served_weight]
  omega

/-- The head of the loop leaves less than a whole request. -/
theorem loop_weight : c.loop.weight ≤ 29 + 44 * c.requests.length := by
  have hreceive : (c.goTo .receiving).weight ≤ 29 + 44 * c.requests.length :=
    Nat.add_le_add_right (show 15 ≤ 29 by decide) _
  unfold loop
  split
  · exact enter_weight le_rfl hreceive
  · exact hreceive

/-- A request that is received is one less to come. -/
theorem receive_weight : c.receive.weight < 15 + 44 * c.requests.length := by
  unfold receive
  split
  · next h =>
    rw [h]
    exact Nat.lt_succ_of_le (enter_weight (by rw [h]; exact le_rfl)
      (by simp [weight, goTo, h, Place.weight]))
  · next requests h =>
    rw [h, List.length_cons]
    show 30 + 44 * requests.length < _
    omega
  · next requests h =>
    rw [h, List.length_cons]
    show 58 + 44 * requests.length < _
    omega
  · next elapsed requests h =>
    rw [h, List.length_cons]
    have hexecuted := @executed_weight { c with requests := requests } elapsed none
    change _ ≤ 44 + 44 * requests.length at hexecuted
    omega

/-- The message that is written was set aside for: with the ten steps of the listener it is less
than before. -/
theorem written_weight :
    (c.written call).weight + 10 < call.rest + 13 + 44 * c.requests.length := by
  cases call with
  | getPriority | addQueue | notify | remQueue =>
    simp only [weight, written, goTo, Place.weight, Call.rest]
    omega

/-- After the V there is less to do. -/
theorem released_weight : (c.released call).weight <
    (Place.calling call .v).weight + 44 * c.requests.length := by
  cases call with
  | getPriority | addQueue | remQueue =>
    simp only [weight, released, goTo, Place.weight, Call.rest]
    omega
  | notify elapsed device =>
    rw [released, served_weight]
    simp only [Place.weight, Call.rest]
    omega

/-- An answer that is read leaves less to do. -/
theorem answered_weight (hcall : call.hasAnswer = true) : (c.answered answer call).weight <
    (Place.calling call .read).weight + 44 * c.requests.length := by
  cases call with
  | getPriority =>
    simp only [weight, answered, goTo, Place.weight, Call.rest]
    omega
  | addQueue => exact lt_of_le_of_lt executed_weight (by simp only [Place.weight]; omega)
  | notify | remQueue => cases hcall

end Client

section

variable {pids : Finset Nat} {s t : State} {e : Mover} {pid q g gpuid : Nat} {c : Client}
  {l : Listener} {pcd : ProcessCreditData} {next : Handling} {d d' : SchedulerData}

namespace State

@[simp] theorem setClient_self : (s.setClient pid c).client pid = c := Function.update_self ..

theorem setClient_of_ne (h : q ≠ pid) : (s.setClient pid c).client q = s.client q :=
  Function.update_of_ne h ..

@[simp] theorem setListener_self : (s.setListener g l).listener g = l := Function.update_self ..

theorem setListener_of_ne (h : gpuid ≠ g) : (s.setListener g l).listener gpuid = s.listener gpuid :=
  Function.update_of_ne h ..

@[simp] theorem setClient_listener : (s.setClient pid c).listener = s.listener := rfl

@[simp] theorem setListener_client : (s.setListener g l).client = s.client := rfl

@[simp] theorem goOn_client : (s.goOn g next).client = s.client := rfl

/-- A message is written to the FIFO of a listener, or nothing is written. -/
theorem send_cases (s : State) (gpuid : Option Nat) (pcd : ProcessCreditData) :
    (∃ g, gpuid = some g ∧ g < numGpus ∧
      s.send gpuid pcd = s.setListener g ((s.listener g).push pcd)) ∨
    (∀ g, gpuid = some g → ¬ g < numGpus) ∧ s.send gpuid pcd = s := by
  cases gpuid with
  | none => exact .inr ⟨fun _ h => (by cases h), rfl⟩
  | some g =>
    by_cases hg : g < numGpus
    · exact .inl ⟨g, rfl, hg, if_pos hg⟩
    · exact .inr ⟨fun g' h => Option.some.inj h ▸ hg, if_neg hg⟩

end State

/-! ## Every step leaves less to do -/

/-- A process that goes on leaves less to do. -/
theorem weight_setClient_lt {n : Nat} (hpid : pid ∈ pids)
    (hc : c.weight + n < (s.client pid).weight) :
    (s.setClient pid c).weight pids + n < s.weight pids := by
  have hsum := sum_update_add (f := s.client) (w := Client.weight) c hpid
  simp only [State.weight, State.setClient]
  omega

/-- What a listener has to do is exchanged for what it has to do afterwards. -/
theorem weight_setListener (hg : g < numGpus) :
    (s.setListener g l).weight pids + (s.listener g).weight = s.weight pids + l.weight := by
  have hsum := sum_update_add (f := s.listener) (w := Listener.weight) l (Finset.mem_range.mpr hg)
  simp only [State.weight, State.setListener]
  omega

/-- What is in the FIFO of a process is no work of its own. -/
theorem weight_setClient_of_eq (hc : c.weight = (s.client pid).weight) :
    (s.setClient pid c).weight pids = s.weight pids := by
  have hsame : ∀ i ∈ pids, (Function.update s.client pid c i).weight = (s.client i).weight := by
    intro i _
    by_cases hi : i = pid
    · rw [hi, Function.update_self, hc]
    · rw [Function.update_of_ne hi]
  simp only [State.weight, State.setClient]
  rw [Finset.sum_congr rfl hsame]

/-- A message in the FIFO is ten steps of the listener at most. -/
theorem push_weight : (l.push pcd).weight = l.weight + 10 := by
  have hlen : (l.push pcd).fifo.length = l.fifo.length + 1 := List.length_append
  have hnext : (l.push pcd).next = l.next := rfl
  rw [Listener.weight, Listener.weight, hlen, hnext]
  omega

/-- That is what sending it adds, or nothing where it goes nowhere. -/
theorem weight_send {target : Option Nat} :
    (s.send target pcd).weight pids ≤ s.weight pids + 10 := by
  obtain ⟨g, -, hg, h⟩ | ⟨-, h⟩ := s.send_cases target pcd
  · have hset := @weight_setListener pids s g ((s.listener g).push pcd) hg
    rw [push_weight] at hset
    rw [h]
    omega
  · rw [h]
    omega

/-- A listener that goes on leaves less to do. -/
theorem weight_goOn_lt (hg : g < numGpus) (hnext : next.weight < (s.listener g).next.weight) :
    (s.goOn g next).weight pids < s.weight pids := by
  have hset := @weight_setListener pids s g ⟨next, (s.listener g).fifo⟩ hg
  simp only [Listener.weight] at hset
  show (s.setListener g ⟨next, (s.listener g).fifo⟩).weight pids < _
  omega

/-- Once it is taken, eight are left. -/
theorem take_weight (h : take g d pcd = some (d', next)) : next.weight ≤ 8 := by
  obtain ⟨-, -, -, rfl⟩ | ⟨-, -, rfl⟩ | ⟨-, -, rfl⟩ | ⟨-, -, e, -, rfl⟩ | ⟨-, -, -, rfl⟩ :=
    take_cases h
  · exact le_rfl
  · exact Nat.zero_le 8
  · exact Nat.zero_le 8
  · exact Nat.succ_le_succ (Nat.zero_le 7)
  · exact Nat.zero_le 8

/-- Each statement of a registration is one less. -/
theorem register_weight (next : Register) : (next.next d pcd).weight < next.weight := by
  cases next <;> exact Nat.lt_succ_self _

/-- Who has not exited is one of the processes. -/
theorem Within.mem {place : Place} (h : Within pids s) (hplace : (s.client pid).place = place)
    (hne : place ≠ .exited) : pid ∈ pids := by
  by_contra hpid
  exact hne (hplace.symm.trans (h.clients pid hpid))

/-- A listener that has something to do is one of the node's. -/
theorem Within.listens (h : Within pids s) (hl : s.listener g ≠ ⟨.read, []⟩) : g < numGpus := by
  by_contra hg
  exact hl (h.idle g hg)

/-- Who works for a process is one of the listeners. -/
theorem Within.handles (h : Within pids s) (hnext : (s.listener g).next = next)
    (hne : next ≠ .read) : g < numGpus := by
  apply h.listens
  intro hl
  rw [hl] at hnext
  exact hne hnext.symm

/-- A process that goes on leaves less to do. -/
theorem Within.weight_lt {n : Nat} {place : Place} (h : Within pids s)
    (hplace : (s.client pid).place = place) (hne : place ≠ .exited)
    (hlt : c.weight + n < place.weight + 44 * (s.client pid).requests.length) :
    (s.setClient pid c).weight pids + n < s.weight pids := by
  apply weight_setClient_lt (h.mem hplace hne)
  show _ < (s.client pid).place.weight + _
  rw [hplace]
  exact hlt

/-- Every step leaves less to do, so that the number of steps is bounded by what there is to do at
the start. -/
theorem Step.weight_lt (hs : Within pids s) (h : Step s e t) : t.weight pids < s.weight pids := by
  cases h with
  | loop h =>
    exact hs.weight_lt (n := 0) h Place.noConfusion
      (lt_of_le_of_lt Client.loop_weight (Nat.add_lt_add_right (Nat.lt_succ_self 29) _))
  | receive h => exact hs.weight_lt (n := 0) h Place.noConfusion Client.receive_weight
  | @p pid call h hsem =>
    refine hs.weight_lt (n := 0) h Place.noConfusion ?_
    exact Nat.add_lt_add_right (Nat.lt_succ_self (call.rest + 13)) _
  | write h =>
    have hgo := hs.weight_lt (n := 10) h Place.noConfusion Client.written_weight
    exact lt_of_le_of_lt weight_send hgo
  | v h => exact hs.weight_lt (n := 0) h Place.noConfusion Client.released_weight
  | readAnswer h hcall hread =>
    exact hs.weight_lt (n := 0) h Place.noConfusion (Client.answered_weight hcall)
  | @read g pcd fifo d next hlisten hfifo htake =>
    have hg : g < numGpus := hs.listens fun hl => by rw [hl] at hfifo; cases hfifo
    have hset := @weight_setListener pids s g ⟨next, fifo⟩ hg
    have hnext := take_weight htake
    have hread : Handling.read.weight = 0 := rfl
    simp only [Listener.weight, hlisten, hfifo, hread, List.length_cons] at hset
    show (s.setListener g ⟨next, fifo⟩).weight pids < _
    omega
  | @register g pcd next hlisten =>
    have hnext : (s.listener g).next.weight = next.weight := congrArg Handling.weight hlisten
    have hlt : (next.next s.data pcd).weight < (s.listener g).next.weight :=
      hnext ▸ register_weight next
    have hgo : _ < s.weight pids := weight_goOn_lt (hs.handles hlisten Handling.noConfusion) hlt
    exact hgo
  | @reply g pid answer hlisten =>
    have hnext : (s.listener g).next.weight = 1 := congrArg Handling.weight hlisten
    refine lt_of_lt_of_eq (weight_goOn_lt (hs.handles hlisten Handling.noConfusion) ?_)
      (weight_setClient_of_eq rfl)
    exact hnext ▸ Nat.zero_lt_one

end

end GpuVirtmem.Sched.LasNode
