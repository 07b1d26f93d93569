import GpuVirtmem.Sched.Counter

/-!
# Requests and replies (`backend/libl2scheduler.c` and the listeners)

A client that has written some of its messages then blocks in a read of a FIFO of its own. It goes
on only when the listener has written there what the client reads; `fs_add_queue` waits so in its
critical section.

The result is about each request as it is consumed. In the source the listener reads a message once,
and what it does not answer then it does not remember. That is why being answered "in the step that
consumes it" and being answered at all are the same for these clients.
-/

namespace GpuVirtmem.Sched

open Lib

/-- What a read takes: an `int`, or a `process_credit_data`. -/
inductive ReplyKind
  | int | data
  deriving DecidableEq

/-- The kind of what is written. -/
def Content.kind : Content → ReplyKind
  | .int _ => .int
  | .data _ => .data

/-- The read that a sender blocks in. -/
structure Awaited where
  fifo : Fifo
  kind : ReplyKind

/-- What the effect writes to the FIFO. -/
def Effect.writtenTo (fifo : Fifo) : Effect → Option Content
  | .write f content => if f = fifo then some content else none
  | .sigqueue .. | .unlink _ => none

/-- Exactly one reply is written to the sender's FIFO, of the kind it reads. -/
def Answers (effects : List Effect) : Option Awaited → Prop
  | none => True
  | some w => ∃ content, effects.filterMap (·.writtenTo w.fifo) = [content] ∧ content.kind = w.kind

/-- What clients of the fair-share scheduler write. -/
inductive FsRequest
  | addQueue (pid gpuid : Nat) (appType share : Int32) (unset : Timeval)
  | getRTsignal (pid : Nat) (unset : ProcessCreditData)
  | remQueue (pid : Nat) (unset : ProcessCreditData)

/-- The message. -/
def FsRequest.pcd : FsRequest → ProcessCreditData
  | .addQueue pid gpuid appType share unset => fsAddQueue pid gpuid appType share unset
  | .getRTsignal pid unset => fsGetRTsignal pid unset
  | .remQueue pid unset => fsRemQueue pid unset

/-- What the sender then reads. -/
def FsRequest.awaits : FsRequest → Option Awaited
  | .addQueue pid .. => some ⟨.clientReadPath pid, .int⟩
  | .getRTsignal pid _ => some ⟨.clientSiggetPath pid, .int⟩
  | .remQueue .. => none

/-- What clients of the LAS scheduler write. -/
inductive LasRequest
  | addQueue (pid gpuid : Nat) (appType : Int32) (unset : ProcessCreditData)
  | getPriority (pid index : Nat) (unset : ProcessCreditData)
  | getL2Data (pid index : Nat) (unset : ProcessCreditData)
  | remQueue (pid : Nat) (unset : ProcessCreditData)
  | notifyScheduler (pid : Nat) (elapsed : Timeval) (unset : ProcessCreditData)

/-- The message. -/
def LasRequest.pcd : LasRequest → ProcessCreditData
  | .addQueue pid gpuid appType unset => lasAddQueue pid gpuid appType unset
  | .getPriority pid index unset => lasGetPriority pid index unset
  | .getL2Data pid index unset => lasGetL2Data pid index unset
  | .remQueue pid unset => lasRemQueue pid unset
  | .notifyScheduler pid elapsed unset => lasNotifyScheduler pid elapsed unset

/-- What the sender then reads. -/
def LasRequest.awaits : LasRequest → Option Awaited
  | .addQueue pid .. => some ⟨.clientReadPath pid, .int⟩
  | .getPriority pid .. => some ⟨.clientReadPath pid, .int⟩
  | .getL2Data pid .. => some ⟨.clientReadPath pid, .data⟩
  | .remQueue .. | .notifyScheduler .. => none

/-- A request in the FIFO of the listener of GPU `gpuid`; `err` is the client's answer to its signal
number. -/
structure Sent (ρ : Type) where
  gpuid : Nat
  request : ρ
  err : Int32

/-- The fair-share listeners take requests, one after the other. -/
inductive FsServes (d : SchedulerData) : Sent FsRequest → SchedulerData → Prop
  | intro (m : Sent FsRequest) : FsServes d m (fsListen m.gpuid d m.request.pcd m.err).1

/-- The LAS listeners take requests, one after the other. -/
inductive LasServes (d : SchedulerData) (m : Sent LasRequest) (d' : SchedulerData) : Prop
  | intro {effects : List Effect} (h : lasListen m.gpuid d m.request.pcd = some (d', effects))

/-- The step in which a fair-share listener consumes the request answers its sender. -/
def FsAnswered (d : SchedulerData) (m : Sent FsRequest) : Prop :=
  Answers (fsListen m.gpuid d m.request.pcd m.err).2 m.request.awaits

/-- The step in which a LAS listener consumes the request answers its sender. -/
def LasAnswered (d : SchedulerData) (m : Sent LasRequest) : Prop :=
  ∀ d' effects, lasListen m.gpuid d m.request.pcd = some (d', effects) →
    Answers effects m.request.awaits

/-- The request is not `GET_SIGNUM`, and not an `ADD_Q` of a process that has a slot. -/
def FsAnswerable (d : SchedulerData) (m : Sent FsRequest) : Prop :=
  match m.request with
  | .addQueue pid .. => ∀ i, (d.entry i).processList ≠ pid
  | .getRTsignal .. => False
  | .remQueue .. => True

/-- The request is not an `ADD_Q` of a process that has a slot. -/
def LasAnswerable (d : SchedulerData) (m : Sent LasRequest) : Prop :=
  match m.request with
  | .addQueue pid .. => ∀ i, (d.entry i).processList ≠ pid
  | _ => True

section

variable {d : SchedulerData} {gpuid : Nat} {err : Int32} {pcd : ProcessCreditData} {fifo : Fifo}
  {content : Content} {kind : ReplyKind}

/-- A sender that blocks is not answered by nothing. -/
theorem not_answers_nil {w : Awaited} : ¬ Answers [] (some w) := by
  rintro ⟨content, hnone, _⟩
  cases hnone

/-- One write to its FIFO, of the kind it reads, is an answer. -/
theorem answers_write (hkind : content.kind = kind) :
    Answers [.write fifo content] (some ⟨fifo, kind⟩) :=
  ⟨content, by simp [Effect.writtenTo], hkind⟩

/-- An `ADD_Q` is answered where the process has no slot: the handshake begins with the signal
number, which is what the client waits for. -/
theorem fsListen_add_answers (haction : pcd.action = addQ) :
    Answers (fsListen gpuid d pcd err).2 (some ⟨.clientReadPath pcd.pid, .int⟩) ↔
      ∀ i, (d.entry i).processList ≠ pcd.pid := by
  rcases fsListen_cases gpuid d pcd err with
    ⟨_, hnew, _, hlisten⟩ | ⟨_, hnew, _, hlisten⟩ | ⟨hrem, _⟩ | ⟨hadd, _, hlisten⟩
  · rw [hlisten]
    apply iff_of_true _ (alreadyAdded_eq_false.mp hnew)
    exact ⟨.int sigsched, by simp [Effect.writtenTo], rfl⟩
  · rw [hlisten]
    exact iff_of_true (answers_write rfl) (alreadyAdded_eq_false.mp hnew)
  · simp [haction, addQ, remQ] at hrem
  · rw [hlisten]
    apply iff_of_false not_answers_nil
    intro hnew
    exact hadd ⟨haction, alreadyAdded_eq_false.mpr hnew⟩

/-- No branch of the listener is for `GET_SIGNUM`. The message falls through, and the client reads
on. -/
theorem fsListen_getSignum (haction : pcd.action = getSignum) :
    (fsListen gpuid d pcd err).2 = [] := by
  rcases fsListen_cases gpuid d pcd err with ⟨hadd, _⟩ | ⟨hadd, _⟩ | ⟨hrem, _⟩ | ⟨_, _, hlisten⟩
  · simp [haction, getSignum, addQ] at hadd
  · simp [haction, getSignum, addQ] at hadd
  · simp [haction, getSignum, remQ] at hrem
  · rw [hlisten]

/-- For each request to a fair-share listener, whether it is answered can be told before it is
taken. -/
theorem fsAnswered_iff (m : Sent FsRequest) : FsAnswered d m ↔ FsAnswerable d m := by
  obtain ⟨gpuid, request, err⟩ := m
  cases request with
  | addQueue pid g appType share unset => exact fsListen_add_answers rfl
  | getRTsignal pid unset =>
    apply iff_of_false _ id
    intro h
    unfold FsAnswered at h
    rw [fsListen_getSignum rfl] at h
    exact not_answers_nil h
  | remQueue pid unset => exact iff_of_true trivial trivial

/-- No branch of the listener is for an `ADD_Q` of a process that has a slot: it takes the message
and writes nothing. -/
theorem lasListen_added (haction : pcd.action = addQ) (hadded : lasAlreadyAdded d pcd = true) :
    lasListen gpuid d pcd = some (d, []) := by
  simp [lasListen, haction, hadded, addQ, remQ, notifySched, getPriority, getL2Data]

/-- Every reply of the LAS listener is of the kind that is asked for. A read of a different size
than the write would leave bytes for the next one. -/
theorem lasListen_answers {d' : SchedulerData} {effects : List Effect}
    (h : lasListen gpuid d pcd = some (d', effects)) :
    (pcd.action = addQ ∧ lasAlreadyAdded d pcd = false → Answers effects
      (some ⟨.clientReadPath pcd.pid, .int⟩)) ∧
    (pcd.action = getPriority → Answers effects (some ⟨.clientReadPath pcd.pid, .int⟩)) ∧
    (pcd.action = getL2Data → Answers effects (some ⟨.clientReadPath pcd.pid, .data⟩)) := by
  rcases lasListen_cases h with ⟨hadd, _, _, heffects⟩ | ⟨hrem, _⟩ | ⟨hnotify, _⟩ |
    ⟨hprio, _, p, heffects⟩ | ⟨hl2, _, e, heffects⟩ | ⟨hnot, hprio, hl2, _⟩
  · rw [heffects, hadd]
    refine ⟨fun _ => answers_write rfl, ?_, ?_⟩
    · simp [addQ, getPriority]
    · simp [addQ, getL2Data]
  · simp [hrem, remQ, addQ, getPriority, getL2Data]
  · simp [hnotify, notifySched, addQ, getPriority, getL2Data]
  · rw [heffects, hprio]
    refine ⟨?_, fun _ => answers_write rfl, ?_⟩
    · simp [addQ, getPriority]
    · simp [getPriority, getL2Data]
  · rw [heffects, hl2]
    refine ⟨?_, ?_, fun _ => answers_write rfl⟩
    · simp [addQ, getL2Data]
    · simp [getPriority, getL2Data]
  · exact ⟨fun h => absurd h hnot, fun h => absurd h hprio, fun h => absurd h hl2⟩

/-- For each request to a LAS listener, too. -/
theorem lasAnswered_iff (m : Sent LasRequest) : LasAnswered d m ↔ LasAnswerable d m := by
  obtain ⟨gpuid, request, err⟩ := m
  cases request with
  | addQueue pid g appType unset =>
    constructor
    · intro h
      show ∀ i, (d.entry i).processList ≠ (lasAddQueue pid g appType unset).pid
      apply alreadyAdded_eq_false.mp
      by_contra hadded
      exact not_answers_nil (h d [] (lasListen_added rfl (Bool.not_eq_false _ ▸ hadded)))
    · intro hnew d' effects h
      exact (lasListen_answers h).1 ⟨rfl, alreadyAdded_eq_false.mpr hnew⟩
  | getPriority pid index unset =>
    exact iff_of_true (fun d' effects h => (lasListen_answers h).2.1 rfl) trivial
  | getL2Data pid index unset =>
    exact iff_of_true (fun d' effects h => (lasListen_answers h).2.2 rfl) trivial
  | remQueue pid unset => exact iff_of_true (fun _ _ _ => trivial) trivial
  | notifyScheduler pid elapsed unset => exact iff_of_true (fun _ _ _ => trivial) trivial

end

/-- Every request of a run whose sender blocks is answered in the step that consumes it, exactly
when none is a `GET_SIGNUM` to a fair-share listener or an `ADD_Q` of a process that has a slot.

Each request is looked at when it is consumed: what the listener does not answer then, it does not
answer later. -/
theorem requests_answered_iff (ms : List (Sent FsRequest)) (ns : List (Sent LasRequest)) :
    (EachStep FsServes fsStartScheduler ms FsAnswered ↔
      EachStep FsServes fsStartScheduler ms FsAnswerable) ∧
    (EachStep LasServes staticData ns LasAnswered ↔
      EachStep LasServes staticData ns LasAnswerable) :=
  ⟨eachStep_congr fun _ => fsAnswered_iff, eachStep_congr fun _ => lasAnswered_iff⟩

/-- A process calls `fs_add_queue` again and waits for good. Nothing that happens later answers it,
since the message is gone. -/
theorem second_add_unanswered :
    ∃ d, Run FsServes fsStartScheduler [⟨0, .addQueue 7 0 0 50 ⟨0, 0⟩, 0⟩] d ∧
      ¬ FsAnswered d ⟨0, .addQueue 7 0 0 50 ⟨0, 0⟩, 0⟩ := by
  have hnew : alreadyAdded fsStartScheduler (fsAddQueue 7 0 0 50 ⟨0, 0⟩) = false :=
    alreadyAdded_eq_false.mpr fun i => (by decide : (0 : Nat) ≠ 7)
  have r : Run FsServes fsStartScheduler [⟨0, .addQueue 7 0 0 50 ⟨0, 0⟩, 0⟩] _ :=
    Run.start.cons (.intro _)
  refine ⟨_, r, fun h => (fsAnswered_iff _).mp h fsStartScheduler.pollingThreadCount ?_⟩
  show ((fsListen 0 fsStartScheduler (fsAddQueue 7 0 0 50 ⟨0, 0⟩) 0).1.entry _).processList = 7
  rw [fsListen_new 0 rfl hnew]
  exact fsRegisterProcess_processList

end GpuVirtmem.Sched
