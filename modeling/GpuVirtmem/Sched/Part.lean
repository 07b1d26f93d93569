import GpuVirtmem.Sched.AddQueue

/-!
# A process's part in the registration

What of the node is about one process: where it stands, the messages with which it asks to be
added, what the listeners are doing for it, and whether it has a slot. A step of the node is a step
of the parts of the processes it is about, and leaves the other parts as they are.

A part has what the results about one process need: the number of processes, and what the others do,
do not appear in it. The way of a process (`Stages`) is then an invariant of its part alone, and is
carried over to the node by `Step.partsMove`. What the parts do not have is the semaphore; who is in
its section is about all processes at once.
-/

namespace GpuVirtmem.Sched.Registering

open Lib

/-- What of the node is about a process. -/
@[ext]
structure Part where
  client : Client
  handling : Nat → Option Handling
  asked : Nat → List ProcessCreditData
  listed : Bool

/-- The statement, if the message is of the process. -/
def Handling.about (pid : Nat) (h : Handling) : Option Handling :=
  if h.pcd.map ProcessCreditData.pid = some pid then some h else none

/-- The messages with which the process asks to be added. -/
def asks (pid : Nat) (fifo : List ProcessCreditData) : List ProcessCreditData :=
  fifo.filter fun pcd => pcd.action == addQ && pcd.pid == pid

/-- The process has a slot. -/
def listed (d : SchedulerData) (pid : Nat) : Bool :=
  (d.findSlot fun e => e.processList == pid).isSome

def State.part (s : State) (pid : Nat) : Part :=
  { client := s.client pid
    handling := fun g => (s.listener g).next.about pid
    asked := fun g => asks pid (s.listener g).fifo
    listed := listed s.data pid }

/-- A step of the part of a process. -/
inductive PartStep (pid : Nat) (v : Part) : Part → Prop
  | setDevice {gpuid : Nat} {requests : List Nat} (h : v.client.place = .serving)
      (hnext : v.client.requests = gpuid :: requests) :
      PartStep pid v { v with
        client := { v.client with place := .adding gpuid .p, requests := requests } }
  | addP {gpuid : Nat} (h : v.client.place = .adding gpuid .p) :
      PartStep pid v { v with client := { v.client with place := .adding gpuid .write } }
  | addWrite {gpuid : Nat} {pcd : ProcessCreditData} (h : v.client.place = .adding gpuid .write)
      (hpid : pcd.pid = pid) :
      PartStep pid v { v with
        client := { v.client with place := .adding gpuid .openRead }
        asked := fun g => if g = gpuid ∧ gpuid < numGpus then v.asked g ++ [pcd] else v.asked g }
  | openRead {gpuid g : Nat} {pcd : ProcessCreditData}
      (h : v.client.place = .adding gpuid .openRead)
      (hlisten : v.handling g = some (.openResp pcd)) :
      PartStep pid v { v with
        client := { v.client with place := .adding gpuid .readSignum }
        handling := Function.update v.handling g (some (.writeSignum pcd)) }
  | writeSignum {g : Nat} {pcd : ProcessCreditData}
      (hlisten : v.handling g = some (.writeSignum pcd)) :
      PartStep pid v { v with
        client := { v.client with readPath := v.client.readPath ++ [sigsched] }
        handling := Function.update v.handling g (some (.openReq pcd)) }
  | readSignum {gpuid : Nat} {signum : Int32} {readPath : List Int32}
      (h : v.client.place = .adding gpuid .readSignum)
      (hread : v.client.readPath = signum :: readPath) :
      PartStep pid v { v with client := { v.client with
        place := .adding gpuid .openWrite, signo := some signum, readPath := readPath } }
  | openWrite {gpuid g : Nat} {pcd : ProcessCreditData}
      (h : v.client.place = .adding gpuid .openWrite)
      (hlisten : v.handling g = some (.openReq pcd)) :
      PartStep pid v { v with
        client := { v.client with place := .adding gpuid .writeErr }
        handling := Function.update v.handling g (some (.readErr pcd)) }
  | writeErr {gpuid : Nat} {err : Int32} (h : v.client.place = .adding gpuid .writeErr) :
      PartStep pid v { v with client := { v.client with
        place := .adding gpuid .v, writePath := v.client.writePath ++ [err] } }
  | addV {gpuid : Nat} (h : v.client.place = .adding gpuid .v) :
      PartStep pid v { v with
        client := { v.client with place := .serving, runningGpu := some gpuid } }
  | exit (h : v.client.place = .serving) (hnext : v.client.requests = []) :
      PartStep pid v { v with
        client := { v.client with place := leaving v.client.runningGpu } }
  | removing {gpuid : Nat} {next : RemQueue} {place : Place}
      (h : v.client.place = .removing gpuid next)
      (hplace : place = .exited ∨ ∃ next', place = .removing gpuid next') :
      PartStep pid v { v with client := { v.client with place := place } }
  | taken {g : Nat} {pcd : ProcessCreditData} {asked : List ProcessCreditData}
      (hnew : v.listed = false) (hasked : v.asked g = pcd :: asked) (hpid : pcd.pid = pid) :
      PartStep pid v { v with
        handling := Function.update v.handling g (some (.openResp pcd))
        asked := Function.update v.asked g asked }
  | dropped {g : Nat} {pcd : ProcessCreditData} {asked : List ProcessCreditData}
      (hadded : v.listed = true) (hasked : v.asked g = pcd :: asked) :
      PartStep pid v { v with asked := Function.update v.asked g asked }
  | readErr {g : Nat} {pcd : ProcessCreditData} {err : Int32} {writePath : List Int32}
      (hlisten : v.handling g = some (.readErr pcd))
      (hread : v.client.writePath = err :: writePath) :
      PartStep pid v { v with
        client := { v.client with writePath := writePath }
        handling := Function.update v.handling g
          (if err = 0 then some (.register pcd) else none) }
  | register {g : Nat} {pcd : ProcessCreditData}
      (hlisten : v.handling g = some (.register pcd)) :
      PartStep pid v { v with handling := Function.update v.handling g none, listed := true }
  | relisted {b : Bool} (hb : pid ≠ invalidProceess → b = true → v.listed = true) :
      PartStep pid v { v with listed := b }

section

variable {s t : State} {e : Mover} {pid q gpuid g : Nat} {c : Client} {place : Place}
  {next : Handling} {pcd : ProcessCreditData} {d : SchedulerData}

/-- To have a slot is to be found in one. -/
theorem listed_iff : listed d pid = true ↔ ∃ i, (d.entry i).processList = pid := by
  unfold listed
  rw [SchedulerData.findSlot_isSome]
  simp only [beq_iff_eq]

/-- What is written to a slot gives it to no process that did not have it, other than the one that
is written. -/
theorem listed_of_set {i : Slot} {e : Entry} (h : listed (d.set i e) q = true)
    (he : e.processList = q → (d.entry i).processList = q) : listed d q = true := by
  rw [listed_iff] at h ⊢
  obtain ⟨j, hj⟩ := h
  by_cases hij : j = i
  · rw [hij, SchedulerData.set_entry_self] at hj
    exact ⟨i, he hj⟩
  · rw [SchedulerData.set_entry_of_ne hij] at hj
    exact ⟨j, hj⟩

/-- A slot that is freed is given to no process. -/
theorem listed_of_remProcess {freed : Entry → Entry}
    (hfreed : ∀ e, (freed e).processList = invalidProceess) (hq : q ≠ invalidProceess)
    (h : listed (remProcess d g pid freed) q = true) : listed d q = true := by
  obtain ⟨i, -, -, hrem⟩ | ⟨-, hrem⟩ := remProcess_cases d g pid freed
  · rw [hrem] at h
    exact listed_of_set h fun hi => absurd (hi.symm.trans (hfreed _)) hq
  · rw [hrem] at h
    exact h

/-- A registration gives no slot to another process, though it may take one away. -/
theorem listed_of_registered (hq : q ≠ pcd.pid) (h : listed (registered d pcd) q = true) :
    listed d q = true := by
  rw [listed_iff] at h ⊢
  obtain ⟨i, hi⟩ := h
  by_cases hslot : i = d.pollingThreadCount
  · subst hslot
    exact absurd (hi.symm.trans fsRegisterProcess_processList) hq
  · exact ⟨i, (congrArg Entry.processList (fsRegisterProcess_entry_of_ne hslot)).symm.trans hi⟩

/-- The process that is registered has a slot then. -/
theorem registered_listed : listed (registered d pcd) pcd.pid = true :=
  listed_iff.mpr ⟨d.pollingThreadCount, fsRegisterProcess_processList⟩

/-- A message that is taken gives no slot to a process: a registration comes after its handshake. -/
theorem listed_of_take (hq : q ≠ invalidProceess) (h : listed (take g d pcd).1 q = true) :
    listed d q = true := by
  unfold take at h
  split at h
  · exact h
  · split at h
    · exact listed_of_remProcess (fun _ => rfl) hq h
    · exact h

/-- A statement is about the process whose message it works on. -/
theorem about_self {h : Handling} (hpcd : h.pcd = some pcd) : h.about pcd.pid = some h := by
  unfold Handling.about
  rw [hpcd, Option.map_some, if_pos rfl]

/-- And about no other. -/
theorem about_of_ne {h : Handling} (hpcd : h.pcd = some pcd) (hq : q ≠ pcd.pid) :
    h.about q = none := by
  unfold Handling.about
  rw [hpcd, Option.map_some, if_neg fun heq => hq (Option.some.inj heq).symm]

/-- A listener that waits for a message works for nobody. -/
theorem read_about : Handling.read.about q = none := rfl

/-! ## The parts after a step -/

/-- Each part takes a step, or stays as it is. -/
def PartsMove (s t : State) : Prop :=
  ∀ q, t.part q = s.part q ∨ PartStep q (s.part q) (t.part q)

theorem setClient_part_self : (s.setClient pid c).part pid = { s.part pid with client := c } := by
  simp only [State.part, State.setClient_self]
  rfl

theorem setClient_part_of_ne (hq : q ≠ pid) : (s.setClient pid c).part q = s.part q := by
  simp only [State.part, State.setClient_of_ne hq]
  rfl

theorem setListener_part {l : Listener} : (s.setListener g l).part q = { s.part q with
    handling := Function.update (s.part q).handling g (l.next.about q)
    asked := Function.update (s.part q).asked g (asks q l.fifo) } := by
  ext1
  · rfl
  · funext g'
    by_cases hg : g' = g
    · subst hg
      simp [State.part]
    · simp [State.part, State.setListener_of_ne hg, hg]
  · funext g'
    by_cases hg : g' = g
    · subst hg
      simp [State.part]
    · simp [State.part, State.setListener_of_ne hg, hg]
  · rfl

theorem setData_part : (s.setData d).part q = { s.part q with listed := listed d q } := rfl

/-- A listener that goes on works for no other process. -/
theorem goOn_part : (s.goOn g next).part q = { s.part q with
    handling := Function.update (s.part q).handling g (next.about q) } := by
  have hasked : Function.update (s.part q).asked g (asks q (s.listener g).fifo) =
      (s.part q).asked := Function.update_eq_self ..
  unfold State.goOn
  rw [setListener_part, hasked]

/-- Where it works for the process neither before nor after, or for it in the same way, the part is
as it was. -/
theorem goOn_part_of_about (h : next.about q = (s.listener g).next.about q) :
    (s.goOn g next).part q = s.part q := by
  have hhandling : Function.update (s.part q).handling g (next.about q) = (s.part q).handling := by
    rw [h]
    exact Function.update_eq_self ..
  rw [goOn_part, hhandling]

/-- A message that is sent is one with which its sender asks, if it is an `ADD_Q`. -/
theorem send_part : (s.send gpuid pcd).part q = { s.part q with
    asked := fun g => if g = gpuid ∧ gpuid < numGpus then (s.part q).asked g ++ asks q [pcd]
      else (s.part q).asked g } := by
  ext1
  · simp only [State.part, State.send_client]
  · funext g
    simp only [State.part, (State.send_listener g).1]
  · funext g
    simp only [State.part, (State.send_listener g).2]
    split
    · exact List.filter_append ..
    · rfl
  · simp only [State.part, State.send_data]

theorem send_part_of_not_asks (h : asks q [pcd] = []) : (s.send gpuid pcd).part q = s.part q := by
  rw [send_part, h]
  ext1
  · rfl
  · rfl
  · funext g
    simp
  · rfl

theorem asks_of_ne (hq : q ≠ pcd.pid) : asks q [pcd] = [] := by
  simp [asks, Ne.symm hq]

theorem asks_of_rem (h : pcd.action = remQ) : asks q [pcd] = [] := by
  have hne : pcd.action ≠ addQ := h ▸ (by decide : remQ ≠ addQ)
  simp [asks, hne]

theorem asks_self (h : pcd.action = addQ) : asks pcd.pid [pcd] = [pcd] := by
  simp [asks, h]

/-- What a process does on its own is a step of its part only. -/
theorem partsMove_setClient
    (h : PartStep pid (s.part pid) { s.part pid with client := c }) :
    PartsMove s (s.setClient pid c) := by
  intro q
  by_cases hqp : q = pid
  · subst hqp
    rw [setClient_part_self]
    exact .inr h
  · exact .inl (setClient_part_of_ne hqp)

/-- What a listener does with a message of its own is a step of the part of the sender only. -/
theorem partsMove_goOn {before : Handling} (hbefore : (s.listener g).next = before)
    (hpcd : before.pcd = some pcd) (hnext : next.pcd = some pcd ∨ next = .read)
    (h : PartStep pcd.pid (s.part pcd.pid) { s.part pcd.pid with
      client := c
      handling := Function.update (s.part pcd.pid).handling g (next.about pcd.pid) }) :
    PartsMove s ((s.setClient pcd.pid c).goOn g next) := by
  intro q
  by_cases hqp : q = pcd.pid
  · subst hqp
    rw [goOn_part, setClient_part_self]
    exact .inr h
  · left
    have hnone : next.about q = none := by
      rcases hnext with hnext | rfl
      · exact about_of_ne hnext hqp
      · rfl
    rw [goOn_part_of_about, setClient_part_of_ne hqp]
    rw [hnone, State.setClient_listener, hbefore, about_of_ne hpcd hqp]

/-- The statement that a listener is at is part of the process whose message it works on. -/
theorem part_handling {h : Handling} (hnext : (s.listener g).next = h) (hpcd : h.pcd = some pcd) :
    (s.part pcd.pid).handling g = some h := by
  show (s.listener g).next.about pcd.pid = some h
  rw [hnext, about_self hpcd]

/-- After the answer the listener registers the process, or is done with it. -/
theorem answered_about {err : Int32} :
    (answered pcd err).about pcd.pid = if err = 0 then some (.register pcd) else none := by
  unfold answered
  split
  · exact about_self rfl
  · rfl

/-- It works on the same message then, or on none. -/
theorem answered_pcd {err : Int32} :
    (answered pcd err).pcd = some pcd ∨ answered pcd err = .read := by
  unfold answered
  split
  · exact .inl rfl
  · exact .inr rfl

/-- A listener takes a message: it comes out of the part in which it asked, and is worked on in the
same part. -/
theorem partsMove_read {fifo : List ProcessCreditData} (hlisten : (s.listener g).next = .read)
    (hfifo : (s.listener g).fifo = pcd :: fifo) :
    PartsMove s
      ((s.setListener g ⟨(take g s.data pcd).2, fifo⟩).setData (take g s.data pcd).1) := by
  intro q
  have hold : (s.part q).handling g = none := by
    show (s.listener g).next.about q = none
    rw [hlisten, read_about]
  have hasked : (s.part q).asked g = asks q [pcd] ++ asks q fifo := by
    show asks q (s.listener g).fifo = _
    rw [hfifo]
    exact List.filter_append [pcd] fifo
  have hsame : Function.update (s.part q).handling g none = (s.part q).handling :=
    hold ▸ Function.update_eq_self ..
  -- a message with which the process does not ask to be added
  have hother : asks q [pcd] = [] →
      Function.update (s.part q).asked g (asks q fifo) = (s.part q).asked := by
    intro hnone
    rw [hnone, List.nil_append] at hasked
    exact hasked ▸ Function.update_eq_self ..
  rw [setData_part, setListener_part]
  by_cases hadd : pcd.action = addQ ∧ alreadyAdded s.data pcd = false
  · have htake : take g s.data pcd = (s.data, .openResp pcd) := if_pos hadd
    rw [htake]
    by_cases hqp : q = pcd.pid
    · subst hqp
      rw [about_self rfl]
      rw [asks_self hadd.1] at hasked
      exact .inr (.taken hadd.2 hasked rfl)
    · left
      rw [about_of_ne rfl hqp, hsame, hother (asks_of_ne hqp)]
      rfl
  · by_cases hrem : pcd.action = remQ
    · have htake : (take g s.data pcd).2 = .read := by
        unfold take
        rw [if_neg hadd, if_pos hrem]
      rw [htake, read_about, hsame, hother (asks_of_rem hrem)]
      exact .inr (.relisted fun hq => listed_of_take hq)
    · have htake : take g s.data pcd = (s.data, .read) := by
        unfold take
        rw [if_neg hadd, if_neg hrem]
      rw [htake, read_about, hsame]
      by_cases hqp : q = pcd.pid ∧ pcd.action = addQ
      · obtain ⟨rfl, haction⟩ := hqp
        have hadded : alreadyAdded s.data pcd = true :=
          Bool.of_not_eq_false fun hnew => hadd ⟨haction, hnew⟩
        rw [asks_self haction] at hasked
        exact .inr (.dropped hadded hasked)
      · left
        have hnone : asks q [pcd] = [] := by
          simp only [asks, List.filter_cons, List.filter_nil]
          rw [if_neg]
          simp only [Bool.and_eq_true, beq_iff_eq]
          exact fun hand => hqp ⟨hand.2.symm, hand.1⟩
        rw [hother hnone]
        rfl

/-- A step of the node is a step of the parts. It is one of the process that moves, or of the one
that the listener works for, and the slots of the others are not given to anybody new. -/
theorem Step.partsMove (h : Step s e t) : PartsMove s t := by
  cases h with
  | setDevice h hnext => exact partsMove_setClient (.setDevice h hnext)
  | addP h hsem => exact partsMove_setClient (.addP h)
  | @addWrite pid gpuid share unset h =>
    intro q
    by_cases hqp : q = pid
    · subst hqp
      have hasks : asks q [fsAddQueue q gpuid appTypeA share unset] = [_] := asks_self rfl
      rw [send_part, State.goTo, setClient_part_self, hasks]
      exact .inr (.addWrite h rfl)
    · left
      rw [send_part_of_not_asks (asks_of_ne hqp), State.goTo, setClient_part_of_ne hqp]
  | openRead h hlisten hpid =>
    subst hpid
    refine partsMove_goOn hlisten rfl (.inl rfl) ?_
    rw [about_self rfl]
    exact .openRead h (part_handling hlisten rfl)
  | writeSignum hlisten =>
    refine partsMove_goOn hlisten rfl (.inl rfl) ?_
    rw [about_self rfl]
    exact .writeSignum (part_handling hlisten rfl)
  | readSignum h hread => exact partsMove_setClient (.readSignum h hread)
  | openWrite h hlisten hpid =>
    subst hpid
    refine partsMove_goOn hlisten rfl (.inl rfl) ?_
    rw [about_self rfl]
    exact .openWrite h (part_handling hlisten rfl)
  | writeErr h herr => exact partsMove_setClient (.writeErr h)
  | addV h => exact partsMove_setClient (.addV h)
  | exit h hnext => exact partsMove_setClient (.exit h hnext)
  | remP h hsem => exact partsMove_setClient (.removing h (.inr ⟨_, rfl⟩))
  | @remWrite pid gpuid unset h =>
    intro q
    by_cases hqp : q = pid
    · subst hqp
      rw [send_part_of_not_asks (asks_of_rem rfl), State.goTo, setClient_part_self]
      exact .inr (.removing h (.inr ⟨_, rfl⟩))
    · left
      rw [send_part_of_not_asks (asks_of_rem rfl), State.goTo, setClient_part_of_ne hqp]
  | remV h => exact partsMove_setClient (.removing h (.inl rfl))
  | read hlisten hfifo => exact partsMove_read hlisten hfifo
  | readErr hlisten hread =>
    refine partsMove_goOn hlisten rfl answered_pcd ?_
    rw [answered_about]
    exact .readErr (part_handling hlisten rfl) hread
  | @register g pcd hlisten =>
    intro q
    right
    rw [setData_part]
    by_cases hqp : q = pcd.pid
    · subst hqp
      rw [goOn_part, read_about, registered_listed]
      exact .register (part_handling hlisten rfl)
    · have habout : Handling.read.about q = (s.listener g).next.about q := by
        rw [hlisten, read_about]
        exact (about_of_ne rfl hqp).symm
      rw [goOn_part_of_about habout]
      exact .relisted fun _ => listed_of_registered hqp

end

end GpuVirtmem.Sched.Registering
