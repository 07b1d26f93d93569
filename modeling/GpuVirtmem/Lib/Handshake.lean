import GpuVirtmem.Lib.Bytes

/-!
# A handshake over one queue

Two parties share a byte queue that both write to and both read from. One puts in a message and
waits for an answer; the other receives the message, works on it, and puts in the answer. A read
takes what is at the head, and waits only while the queue is empty: nothing keeps the first party
from taking its own message for the answer. Where it does not, that is, where it reads only after
the other party has, the parties go through the phases of `Phase` one after the other.

The turn is a condition on one move, the read of the first party. A run in which each move keeps to
it goes through the phases (`Phase.step`); one move out of turn is enough for the first party to go
on with its own message, before the other one has done anything.
-/

namespace GpuVirtmem.Lib

/-- Where the party that asks stands. -/
inductive Asking
  | toSend | toWait | past
  deriving DecidableEq, Repr

/-- Where the party that answers stands. -/
inductive Answering
  | toReceive | working | toReply | finished
  deriving DecidableEq, Repr

/-- The two parties, the queue, and the block the second one receives the message in. -/
structure Handshake where
  asking : Asking
  answering : Answering
  queue : Bytes
  buffer : Bytes

namespace Handshake

/-- The moves of the two parties. -/
inductive Move
  | send | wait | receive | finish | reply
  deriving DecidableEq, Repr

/-- A read of a block: as much of it as the queue has is overwritten. -/
def readInto (buffer queue : Bytes) : Bytes :=
  overwrite buffer queue (min buffer.length queue.length)

/-- One move, with the message and the answer. -/
inductive Step (msg ack : Bytes) : Handshake → Move → Handshake → Prop
  | send {b : Answering} {q buffer : Bytes} :
      Step msg ack ⟨.toSend, b, q, buffer⟩ .send ⟨.toWait, b, q ++ msg, buffer⟩
  | wait {b : Answering} {q buffer : Bytes} (h : q ≠ []) :
      Step msg ack ⟨.toWait, b, q, buffer⟩ .wait ⟨.past, b, q.drop ack.length, buffer⟩
  | receive {a : Asking} {q buffer : Bytes} (h : q ≠ []) :
      Step msg ack ⟨a, .toReceive, q, buffer⟩ .receive
        ⟨a, .working, q.drop buffer.length, readInto buffer q⟩
  | finish {a : Asking} {q buffer : Bytes} :
      Step msg ack ⟨a, .working, q, buffer⟩ .finish ⟨a, .toReply, q, buffer⟩
  | reply {a : Asking} {q buffer : Bytes} :
      Step msg ack ⟨a, .toReply, q, buffer⟩ .reply ⟨a, .finished, q ++ ack, buffer⟩

/-- The first party does not read before the second one has. -/
def InTurn (h : Handshake) (m : Move) : Prop := m = .wait → h.answering ≠ .toReceive

/-- The states of a handshake in which every read is in turn. -/
inductive Phase (msg ack : Bytes) : Handshake → Prop
  | start {buffer : Bytes} (h : buffer.length = msg.length) :
      Phase msg ack ⟨.toSend, .toReceive, [], buffer⟩
  | asked {buffer : Bytes} (h : buffer.length = msg.length) :
      Phase msg ack ⟨.toWait, .toReceive, msg, buffer⟩
  | received : Phase msg ack ⟨.toWait, .working, [], msg⟩
  | worked : Phase msg ack ⟨.toWait, .toReply, [], msg⟩
  | answered : Phase msg ack ⟨.toWait, .finished, ack, msg⟩
  | settled : Phase msg ack ⟨.past, .finished, [], msg⟩

section

variable {msg ack : Bytes} {h h' : Handshake} {m : Move}

/-- The step lemma: a move in turn leads from one phase to the next. Every case in which a read
would find something else than what it is meant for is ruled out by the turn or by the phase. -/
theorem Phase.step (hp : Phase msg ack h) (hturn : h.InTurn m) (hstep : Step msg ack h m h') :
    Phase msg ack h' := by
  cases hp with
  | start hlen =>
    cases hstep with
    | send => exact .asked hlen
    | receive hne => exact absurd rfl hne
  | @asked buffer hlen =>
    cases hstep with
    | wait _ => exact absurd rfl (hturn rfl)
    | receive _ =>
      have hbuffer : readInto buffer msg = msg := overwrite_all (by omega) (by omega)
      rw [hbuffer, hlen, List.drop_length]
      exact .received
  | received =>
    cases hstep with
    | wait hne => exact absurd rfl hne
    | finish => exact .worked
  | worked =>
    cases hstep with
    | wait hne => exact absurd rfl hne
    | reply => exact .answered
  | answered =>
    cases hstep with
    | wait _ =>
      rw [List.drop_length]
      exact .settled
  | settled => cases hstep

/-- The first party goes on after the second has answered: when it has read, what it has read is the
answer, since nothing else is in the queue at that phase. -/
theorem Phase.finished (hp : Phase msg ack h) (hpast : h.asking = .past) :
    h.answering = .finished := by
  cases hp with
  | settled => rfl
  | _ => cases hpast

/-- What the second party works on is the message, from the moment at which it has received it. -/
theorem Phase.buffer (hp : Phase msg ack h) (hreceived : h.answering ≠ .toReceive) :
    h.buffer = msg := by
  cases hp with
  | start | asked => exact absurd rfl hreceived
  | _ => rfl

end

end Handshake

end GpuVirtmem.Lib
