import GpuVirtmem.Sched.LasWork
import GpuVirtmem.Sched.Part

/-!
# A process's part in the node

What of the node is about one process: where it stands, its messages that ask for an answer, what
the listeners are doing for it, and whether it has a slot. A step of the node is a step of the parts
of the processes it is about, and leaves the other parts as they are.

The parts are like those of the fair-share node (`Sched.Part`), with the differences that the
scheduler makes: some messages are not answered, an answer may come after the semaphore has been
given back, and a registration is several steps of the listener.
-/

namespace GpuVirtmem.Sched.LasNode

open Lib
open Registering (listed listed_iff listed_of_set listed_of_remProcess)

/-- What of the node is about a process. -/
@[ext]
structure Part where
  client : Client
  handling : Nat → Option Handling
  asked : Nat → List ProcessCreditData
  listed : Bool

/-- The statement, if the listener works for the process. -/
def Handling.about (pid : Nat) (h : Handling) : Option Handling :=
  if h.pid = some pid then some h else none

/-- The messages of the process that are answered, or would be. -/
def asks (pid : Nat) (fifo : List ProcessCreditData) : List ProcessCreditData :=
  fifo.filter fun pcd => (pcd.action == addQ || pcd.action == getPriority) && pcd.pid == pid

def State.part (s : State) (pid : Nat) : Part :=
  { client := s.client pid
    handling := fun g => (s.listener g).next.about pid
    asked := fun g => asks pid (s.listener g).fifo
    listed := listed s.data pid }

/-- A statement of a process that sends nothing. -/
inductive Client.Moves (c : Client) : Client → Prop
  | loop (h : c.place = .looping) : Moves c c.loop
  | receive (h : c.place = .receiving) : Moves c c.receive
  | p {call : Call} (h : c.place = .calling call .p) : Moves c (c.goTo (.calling call .write))
  | v {call : Call} (h : c.place = .calling call .v) : Moves c (c.released call)
  | readAnswer {call : Call} {answer : Int32} {readPath : List Int32}
      (h : c.place = .calling call .read) (hcall : call.hasAnswer = true)
      (hread : c.readPath = answer :: readPath) :
      Moves c ({ c with readPath := readPath }.answered answer call)

/-- A step of the part of a process, where the table is `d`. -/
inductive PartStep (d : SchedulerData) (pid : Nat) (v : Part) : Part → Prop
  | own {c : Client} (h : v.client.Moves c) : PartStep d pid v { v with client := c }
  | write {call : Call} {unset : ProcessCreditData}
      (h : v.client.place = .calling call .write) :
      PartStep d pid v { v with
        client := v.client.written call
        asked := fun g => if v.client.gpuOf call = some g ∧ g < numGpus then
          v.asked g ++ asks pid [v.client.message pid unset call] else v.asked g }
  | taken {g : Nat} {pcd : ProcessCreditData} {asked : List ProcessCreditData}
      (haction : pcd.action = addQ) (hnew : v.listed = false) (hasked : v.asked g = pcd :: asked) :
      PartStep d pid v { v with
        handling := Function.update v.handling g (some (.register pcd .processList))
        asked := Function.update v.asked g asked }
  | dropped {g : Nat} {pcd : ProcessCreditData} {asked : List ProcessCreditData}
      (haction : pcd.action = addQ) (hadded : v.listed = true)
      (hasked : v.asked g = pcd :: asked) :
      PartStep d pid v { v with asked := Function.update v.asked g asked }
  | looked {g : Nat} {pcd : ProcessCreditData} {asked : List ProcessCreditData} {answer : Int32}
      (haction : pcd.action = getPriority) (hasked : v.asked g = pcd :: asked) :
      PartStep d pid v { v with
        handling := Function.update v.handling g (some (.reply pid answer))
        asked := Function.update v.asked g asked }
  | register {g : Nat} {pcd : ProcessCreditData} {next : Register} {b : Bool}
      (hlisten : v.handling g = some (.register pcd next)) :
      PartStep d pid v { v with
        handling := Function.update v.handling g (some (next.next d pcd))
        listed := b }
  | reply {g : Nat} {answer : Int32} (hlisten : v.handling g = some (.reply pid answer)) :
      PartStep d pid v { v with
        client := { v.client with readPath := v.client.readPath ++ [answer] }
        handling := Function.update v.handling g none }
  | relisted {b : Bool} (hb : pid ≠ invalidProceess → b = true → v.listed = true) :
      PartStep d pid v { v with listed := b }

section

variable {s t : State} {e : Mover} {pid q gpuid g : Nat} {c : Client} {next : Handling}
  {pcd : ProcessCreditData} {d d' : SchedulerData} {fifo : List ProcessCreditData}

/-- A statement is about the process that the listener works for. -/
theorem about_self {h : Handling} (hpid : h.pid = some pid) : h.about pid = some h := if_pos hpid

/-- And about no other. -/
theorem about_of_ne {h : Handling} (hpid : h.pid = some pid) (hq : q ≠ pid) : h.about q = none := by
  unfold Handling.about
  rw [hpid, if_neg fun heq => hq (Option.some.inj heq).symm]

/-- A listener that waits for a message works for nobody. -/
theorem read_about : Handling.read.about q = none := rfl

/-- What a FIFO holds of a process is what its messages hold, in their order. -/
theorem asks_cons : asks q (pcd :: fifo) = asks q [pcd] ++ asks q fifo :=
  List.filter_append [pcd] fifo

/-- The messages of the others are none of its own. -/
theorem asks_of_ne (hq : q ≠ pcd.pid) : asks q [pcd] = [] := by
  simp [asks, Ne.symm hq]

/-- Some messages of it are not answered, and ask for nothing. -/
theorem asks_of_silent (hadd : pcd.action ≠ addQ) (hprio : pcd.action ≠ getPriority) :
    asks q [pcd] = [] := by
  simp [asks, hadd, hprio]

/-- The other two kinds do. -/
theorem asks_self (h : pcd.action = addQ ∨ pcd.action = getPriority) :
    asks pcd.pid [pcd] = [pcd] := by
  simpa [asks] using h

/-! ## Who has a slot -/

/-- A statement of a registration gives no slot to another process. -/
theorem listed_of_write {next : Register} (hq : q ≠ pcd.pid)
    (h : listed (next.write d pcd) q = true) : listed d q = true := by
  cases next with
  | processList => exact listed_of_set h fun hpid => absurd hpid.symm hq
  | valid | gpuBinding | priority | sendsL2Feedback => exact listed_of_set h fun hpid => hpid
  | index => exact h
  | count =>
    obtain ⟨i, hi⟩ := listed_iff.mp h
    exact listed_iff.mpr ⟨i, hi⟩

/-- A message that is taken gives no slot to a process: the registration that it may lead to is made
in steps of its own. -/
theorem listed_of_take (h : take g d pcd = some (d', next)) (hq : q ≠ invalidProceess)
    (hlisted : listed d' q = true) : listed d q = true := by
  obtain ⟨-, -, rfl, -⟩ | ⟨-, rfl, -⟩ | ⟨-, rfl, -⟩ | ⟨-, rfl, -⟩ | ⟨-, -, rfl, -⟩ := take_cases h
  · exact hlisted
  · exact listed_of_remProcess (fun _ => rfl) hq hlisted
  · obtain ⟨i, -, -, hnotify⟩ | ⟨-, hnotify⟩ := Serviced.lasNotify_cases d g pcd
    · rw [hnotify] at hlisted
      exact listed_of_set hlisted fun hpid => hpid
    · rw [hnotify] at hlisted
      exact hlisted
  · exact hlisted
  · exact hlisted

/-! ## The parts after a step -/

/-- Each part takes a step, or stays as it is. -/
def PartsMove (s t : State) : Prop :=
  ∀ q, t.part q = s.part q ∨ PartStep s.data q (s.part q) (t.part q)

theorem setClient_part_self : (s.setClient pid c).part pid = { s.part pid with client := c } := by
  simp only [State.part, State.setClient_self]
  rfl

theorem setClient_part_of_ne (hq : q ≠ pid) : (s.setClient pid c).part q = s.part q := by
  simp only [State.part, State.setClient_of_ne hq]
  rfl

theorem setListener_part {l : Listener} : (s.setListener g l).part q = { s.part q with
    handling := Function.update (s.part q).handling g (l.next.about q)
    asked := Function.update (s.part q).asked g (asks q l.fifo) } := by
  ext1
  · rfl
  · funext g'
    by_cases hg : g' = g
    · subst hg
      simp [State.part]
    · simp [State.part, State.setListener_of_ne hg, hg]
  · funext g'
    by_cases hg : g' = g
    · subst hg
      simp [State.part]
    · simp [State.part, State.setListener_of_ne hg, hg]
  · rfl

theorem setData_part : (s.setData d).part q = { s.part q with listed := listed d q } := rfl

/-- A listener that goes on works for no other process. -/
theorem goOn_part : (s.goOn g next).part q = { s.part q with
    handling := Function.update (s.part q).handling g (next.about q) } := by
  have hasked : Function.update (s.part q).asked g (asks q (s.listener g).fifo) =
      (s.part q).asked := Function.update_eq_self ..
  unfold State.goOn
  rw [setListener_part, hasked]

/-- Where it works for the process neither before nor after, or in the same way, the part is as it
was. -/
theorem goOn_part_of_about (h : next.about q = (s.listener g).next.about q) :
    (s.goOn g next).part q = s.part q := by
  have hhandling : Function.update (s.part q).handling g (next.about q) = (s.part q).handling := by
    rw [h]
    exact Function.update_eq_self ..
  rw [goOn_part, hhandling]

/-- A message that is sent is one with which its sender asks, if it is of the kind. -/
theorem send_part {target : Option Nat} : (s.send target pcd).part q = { s.part q with
    asked := fun g => if target = some g ∧ g < numGpus then (s.part q).asked g ++ asks q [pcd]
      else (s.part q).asked g } := by
  obtain ⟨g, rfl, hg, h⟩ | ⟨hnone, h⟩ := s.send_cases target pcd
  · have hhandling : Function.update (s.part q).handling g ((s.listener g).next.about q) =
        (s.part q).handling := Function.update_eq_self ..
    rw [h, setListener_part]
    ext1
    · rfl
    · exact hhandling
    · funext g'
      show Function.update (s.part q).asked g (asks q ((s.listener g).push pcd).fifo) g' =
        if some g = some g' ∧ g' < numGpus then (s.part q).asked g' ++ asks q [pcd]
        else (s.part q).asked g'
      by_cases hg' : g' = g
      · subst hg'
        rw [Function.update_self, if_pos ⟨rfl, hg⟩]
        exact List.filter_append ..
      · rw [Function.update_of_ne hg', if_neg fun hand => hg' (Option.some.inj hand.1).symm]
    · rfl
  · rw [h]
    ext1
    · rfl
    · rfl
    · funext g'
      exact (if_neg fun hand => hnone g' hand.1 hand.2).symm
    · rfl

theorem send_part_of_not_asks {target : Option Nat} (h : asks q [pcd] = []) :
    (s.send target pcd).part q = s.part q := by
  rw [send_part, h]
  ext1
  · rfl
  · rfl
  · funext g
    simp
  · rfl

/-- What a process does on its own is a step of its part only. -/
theorem partsMove_own (h : (s.client pid).Moves c) : PartsMove s (s.setClient pid c) := by
  intro q
  by_cases hqp : q = pid
  · subst hqp
    rw [setClient_part_self]
    exact .inr (.own h)
  · exact .inl (setClient_part_of_ne hqp)

/-- The statement that a listener is at is part of the process that it works for. -/
theorem part_handling (hnext : (s.listener g).next = next) (hpid : next.pid = some pid) :
    (s.part pid).handling g = some next := by
  show (s.listener g).next.about pid = some next
  rw [hnext, about_self hpid]

/-- A process sends under its own number. -/
theorem message_pid {call : Call} {unset : ProcessCreditData} :
    (c.message pid unset call).pid = pid := by
  cases call <;> rfl

/-- A listener takes a message. -/
theorem partsMove_read (hlisten : (s.listener g).next = .read)
    (hfifo : (s.listener g).fifo = pcd :: fifo) (htake : take g s.data pcd = some (d, next)) :
    PartsMove s ((s.setListener g ⟨next, fifo⟩).setData d) := by
  intro q
  have hold : (s.part q).handling g = none := by
    show (s.listener g).next.about q = none
    rw [hlisten, read_about]
  have hasked : (s.part q).asked g = asks q [pcd] ++ asks q fifo := by
    show asks q (s.listener g).fifo = _
    rw [hfifo, asks_cons]
  have hsame : Function.update (s.part q).handling g none = (s.part q).handling :=
    hold ▸ Function.update_eq_self ..
  -- a message that the process does not send, or that is not answered
  have hother : asks q [pcd] = [] →
      Function.update (s.part q).asked g (asks q fifo) = (s.part q).asked := by
    intro hnone
    rw [hnone, List.nil_append] at hasked
    exact hasked ▸ Function.update_eq_self ..
  have hrelisted : asks q [pcd] = [] → next.about q = none →
      PartStep s.data q (s.part q) (((s.setListener g ⟨next, fifo⟩).setData d).part q) := by
    intro hnone habout
    rw [setData_part, setListener_part, habout, hsame, hother hnone]
    exact .relisted fun hq => listed_of_take htake hq
  right
  obtain ⟨haction, hnew, rfl, rfl⟩ | ⟨haction, -, rfl⟩ | ⟨haction, -, rfl⟩ |
    ⟨haction, rfl, e, -, rfl⟩ | ⟨hadded, hprio, rfl, rfl⟩ := take_cases htake
  · by_cases hqp : q = pcd.pid
    · subst hqp
      rw [asks_self (.inl haction)] at hasked
      rw [setData_part, setListener_part, about_self rfl]
      exact .taken haction hnew hasked
    · exact hrelisted (asks_of_ne hqp) (about_of_ne rfl hqp)
  · refine hrelisted (asks_of_silent ?_ ?_) read_about
    · exact haction ▸ (by decide : remQ ≠ addQ)
    · exact haction ▸ (by decide : remQ ≠ getPriority)
  · refine hrelisted (asks_of_silent ?_ ?_) read_about
    · exact haction ▸ (by decide : notifySched ≠ addQ)
    · exact haction ▸ (by decide : notifySched ≠ getPriority)
  · by_cases hqp : q = pcd.pid
    · subst hqp
      rw [asks_self (.inr haction)] at hasked
      rw [setData_part, setListener_part, about_self rfl]
      exact .looked haction hasked
    · exact hrelisted (asks_of_ne hqp) (about_of_ne rfl hqp)
  · by_cases hqp : q = pcd.pid ∧ pcd.action = addQ
    · obtain ⟨rfl, haction⟩ := hqp
      rw [asks_self (.inl haction)] at hasked
      rw [setData_part, setListener_part, read_about, hsame]
      exact .dropped haction (hadded haction) hasked
    · refine hrelisted ?_ read_about
      by_cases hqp' : q = pcd.pid
      · exact asks_of_silent (fun haction => hqp ⟨hqp', haction⟩) hprio
      · exact asks_of_ne hqp'

/-- A step of the node is a step of the parts. This is what lets the next two modules speak of one
process at a time. -/
theorem Step.partsMove (h : Step s e t) : PartsMove s t := by
  cases h with
  | loop h => exact partsMove_own (.loop h)
  | receive h => exact partsMove_own (.receive h)
  | p h hsem => exact partsMove_own (.p h)
  | @write pid unset call h =>
    intro q
    by_cases hqp : q = pid
    · subst hqp
      rw [send_part, setClient_part_self]
      exact .inr (.write h)
    · left
      rw [send_part_of_not_asks (asks_of_ne fun heq => hqp (heq.trans message_pid)),
        setClient_part_of_ne hqp]
  | v h => exact partsMove_own (.v h)
  | readAnswer h hcall hread => exact partsMove_own (.readAnswer h hcall hread)
  | read hlisten hfifo htake => exact partsMove_read hlisten hfifo htake
  | @register g pcd next hlisten =>
    intro q
    right
    have hpid : (next.next s.data pcd).pid = some pcd.pid := by
      cases next <;> rfl
    rw [setData_part]
    by_cases hqp : q = pcd.pid
    · subst hqp
      rw [goOn_part, about_self hpid]
      exact .register (part_handling hlisten rfl)
    · have habout : (next.next s.data pcd).about q = (s.listener g).next.about q := by
        rw [hlisten, about_of_ne hpid hqp]
        exact (about_of_ne rfl hqp).symm
      rw [goOn_part_of_about habout]
      exact .relisted fun _ => listed_of_write hqp
  | @reply g pid answer hlisten =>
    intro q
    by_cases hqp : q = pid
    · subst hqp
      rw [goOn_part, setClient_part_self, read_about]
      exact .inr (.reply (part_handling hlisten rfl))
    · left
      have habout : Handling.read.about q = (s.listener g).next.about q := by
        rw [hlisten, read_about]
        exact (about_of_ne rfl hqp).symm
      rw [goOn_part_of_about, setClient_part_of_ne hqp]
      exact habout

end

end GpuVirtmem.Sched.LasNode
