import GpuVirtmem.Lib.Bytes
import GpuVirtmem.Lib.Run

/-!
# Whole messages over a stream (`remote/connection.c`)

`put` and `get` move a message in a loop, with as many calls of `send` and `recv` as the transport
makes of it: each of these moves some of the bytes it is asked for, or fails. One side puts a
sequence of messages, the other one gets messages of the same lengths in the same order, and the
steps of the two are interleaved in any way. The results are about every such run.

The invariant (`Wire.Kept`) is that what the sender has moved, which is a beginning of its messages,
is what the receiver has moved followed by what is on the stream. It does not depend on how the
transport splits the bytes. The receiver knows where one message ends by its length only, and the
lengths of both sides agree; where they come from is the business of the modules on the exchange.

The transport owes nothing: a call may move one byte or all of them, and may fail at any time. What
is shown under failures is weaker, of course, but it is not nothing: what has been got before is
whole and in order.
-/

namespace GpuVirtmem.Remote

open Lib

/-- `PER_XFER_MAX`. -/
def perXferMax : Nat := 1024

/-- `-EINVAL`. -/
def minusEinval : Int := -22

/-- A call of `put` or of `get` in its loop: `msg`, `remain`, and how far `msg_ptr` is behind
`msg`. -/
structure Transfer where
  msg : Bytes
  remain : Nat
  pos : Nat

namespace Transfer

/-- What `put` and `get` begin with. A `conn` is given by its socket. -/
def enter (conn : Option Int) (msg : Option Bytes) (len : Int) : Except Int Transfer :=
  match conn, msg with
  | some socket, some msg =>
    if socket < 0 ∨ len < 0 then .error minusEinval
    else .ok { msg := msg, remain := len.toNat, pos := 0 }
  | _, _ => .error minusEinval

/-- The number of bytes that `send` or `recv` is asked for. -/
def asks (t : Transfer) : Nat := if t.remain > perXferMax then perXferMax else t.remain

/-- The `n` bytes from `msg_ptr` on. -/
def bytes (t : Transfer) (n : Nat) : Bytes := (t.msg.drop t.pos).take n

/-- The loop of `put` after `sent` bytes. -/
def sends (t : Transfer) (sent : Nat) : Transfer :=
  { t with remain := t.remain - sent, pos := t.pos + sent }

/-- The loop of `get` after it was given `bs`. -/
def receives (t : Transfer) (bs : Bytes) : Transfer :=
  { msg := t.msg.take t.pos ++ overwrite (t.msg.drop t.pos) bs bs.length
    remain := t.remain - bs.length, pos := t.pos + bs.length }

end Transfer

/-- What a side does: nothing, or it is in a call; or a call has returned something else than 1. -/
inductive Progress
  | idle
  | moving (t : Transfer)
  | failed (t : Transfer) (value : Int)

/-- One end of a connection: the messages of the calls to come, the call it is in, and the messages
of the calls that have returned 1. After a call that returned something else it makes no more. -/
structure Side where
  socket : Nat
  todo : List Bytes
  progress : Progress
  done : List Bytes

namespace Side

/-- The next call is made. -/
inductive Begins (s : Side) : Side → Prop
  | enter {msg : Bytes} {rest : List Bytes} {t : Transfer} (hidle : s.progress = .idle)
      (htodo : s.todo = msg :: rest)
      (henter : Transfer.enter (some s.socket) (some msg) msg.length = .ok t) :
      s.Begins { s with todo := rest, progress := .moving t }

/-- In the loop `send` or `recv` gives a number that is not positive, which the call returns. -/
inductive Fails (s : Side) : Nat → Int → Side → Prop
  | inLoop {t : Transfer} {value : Int} (hmoving : s.progress = .moving t)
      (hloop : 0 < t.remain) (hvalue : value ≤ 0) :
      s.Fails t.asks value { s with progress := .failed t value }

/-- The side in its loop, after `send` or `recv` has moved some bytes. -/
def goesOn (s : Side) (t : Transfer) : Side := { s with progress := .moving t }

/-- The loop has ended, and the call returns 1. -/
inductive Returns (s : Side) : Side → Prop
  | afterLoop {t : Transfer} (hmoving : s.progress = .moving t) (hend : t.remain = 0) :
      s.Returns { s with progress := .idle, done := s.done ++ [t.msg] }

end Side

/-- Two ends and the bytes on their way. `taken` are the bytes that `recv` has given so far. -/
structure Wire where
  sender : Side
  stream : Bytes
  receiver : Side
  taken : Bytes

/-- What happens on a wire: a call begins, asks the transport for something, or returns 1. -/
inductive Event
  | put
  | get
  | send (asked : Nat) (sent : Int)
  | recv (asked : Nat) (recvd : Int)
  | putReturns
  | getReturns

/-- One step of either side. The transport moves between 1 byte and as many as it is asked for. -/
inductive Wire.Step (w : Wire) : Event → Wire → Prop
  | put {s : Side} (h : w.sender.Begins s) : Step w .put { w with sender := s }
  | get {s : Side} (h : w.receiver.Begins s) : Step w .get { w with receiver := s }
  | send {t : Transfer} {sent : Nat} (hmoving : w.sender.progress = .moving t)
      (hloop : 0 < t.remain) (hpos : 0 < sent) (hle : sent ≤ t.asks) :
      Step w (.send t.asks sent)
        { w with
          sender := w.sender.goesOn (t.sends sent)
          stream := w.stream ++ t.bytes sent }
  | sendFails {asked : Nat} {value : Int} {s : Side} (h : w.sender.Fails asked value s) :
      Step w (.send asked value) { w with sender := s }
  | recv {t : Transfer} {bs rest : Bytes} (hmoving : w.receiver.progress = .moving t)
      (hloop : 0 < t.remain) (hstream : w.stream = bs ++ rest) (hpos : 0 < bs.length)
      (hle : bs.length ≤ t.asks) :
      Step w (.recv t.asks bs.length)
        { w with
          receiver := w.receiver.goesOn (t.receives bs)
          stream := rest
          taken := w.taken ++ bs }
  | recvFails {asked : Nat} {value : Int} {s : Side} (h : w.receiver.Fails asked value s) :
      Step w (.recv asked value) { w with receiver := s }
  | putReturns {s : Side} (h : w.sender.Returns s) : Step w .putReturns { w with sender := s }
  | getReturns {s : Side} (h : w.receiver.Returns s) : Step w .getReturns { w with receiver := s }

/-- A side before its first call. -/
def Side.start (socket : Nat) (msgs : List Bytes) : Side :=
  { socket := socket, todo := msgs, progress := .idle, done := [] }

/-- A wire before the first call, over two open sockets. -/
def Wire.start (socket socket' : Nat) (messages buffers : List Bytes) : Wire :=
  { sender := .start socket messages, stream := [], receiver := .start socket' buffers
    taken := [] }

/-! ## One call -/

namespace Transfer

/-- The loop is as far behind `msg` as `remain` says. -/
def Sound (t : Transfer) : Prop := t.pos + t.remain = t.msg.length

/-- The bytes that the call has moved. -/
def moved (t : Transfer) : Bytes := t.msg.take t.pos

/-- With an open socket the loop is entered, with all of the message to be moved. -/
theorem enter_eq (socket : Nat) (msg : Bytes) :
    enter (some socket) (some msg) msg.length =
      .ok { msg := msg, remain := msg.length, pos := 0 } := by
  have hvalid : ¬((socket : Int) < 0 ∨ (msg.length : Int) < 0) := by omega
  unfold enter
  dsimp only
  rw [if_neg hvalid, Int.toNat_natCast]

/-- No call asks for more than the limit of a transfer, or than is left of the message. -/
theorem asks_le (t : Transfer) : t.asks ≤ perXferMax ∧ t.asks ≤ t.remain := by
  unfold asks
  split <;> omega

/-- And each asks for something. -/
theorem asks_pos {t : Transfer} (h : 0 < t.remain) : 0 < t.asks := by
  unfold asks
  split
  · decide
  · exact h

variable {t : Transfer}

/-- What has been sent is the beginning of the message. -/
theorem Sound.sends (h : t.Sound) {n : Nat} (hn : n ≤ t.remain) : (t.sends n).Sound := by
  unfold Sound at h
  show t.pos + n + (t.remain - n) = t.msg.length
  omega

/-- The bytes of a `send` are the next ones. -/
theorem sends_moved (t : Transfer) (n : Nat) : (t.sends n).moved = t.moved ++ t.bytes n :=
  List.take_add

theorem Sound.receives_length (h : t.Sound) {bs : Bytes} (hn : bs.length ≤ t.remain) :
    (t.receives bs).msg.length = t.msg.length := by
  unfold Sound at h
  simp only [Transfer.receives, overwrite, List.length_append, List.length_take,
    List.length_drop]
  omega

/-- What has been received is at the beginning of the buffer. -/
theorem Sound.receives (h : t.Sound) {bs : Bytes} (hn : bs.length ≤ t.remain) :
    (t.receives bs).Sound := by
  have hlen := h.receives_length hn
  unfold Sound at h
  show t.pos + bs.length + (t.remain - bs.length) = (t.receives bs).msg.length
  omega

/-- The bytes of a `recv` are put behind those that are there. -/
theorem Sound.receives_moved (h : t.Sound) (bs : Bytes) :
    (t.receives bs).moved = t.moved ++ bs := by
  unfold Sound at h
  have hlen : (t.msg.take t.pos ++ bs).length = t.pos + bs.length := by
    rw [List.length_append, List.length_take]
    omega
  simp only [moved, Transfer.receives, overwrite, List.take_length]
  rw [← List.append_assoc, List.take_left' hlen]

end Transfer

/-! ## One side -/

namespace Progress

/-- The message of the call. -/
def msgs : Progress → List Bytes
  | .idle => []
  | .moving t | .failed t _ => [t.msg]

/-- The bytes that the call has moved. -/
def moved : Progress → Bytes
  | .idle => []
  | .moving t | .failed t _ => t.moved

/-- A call is in step with its message, and fails only in its loop. -/
def Sound : Progress → Prop
  | .idle => True
  | .moving t => t.Sound
  | .failed t value => t.Sound ∧ 0 < t.remain ∧ value ≤ 0

/-- The steps that a call can still make. -/
def fuel : Progress → Nat
  | .moving t => t.remain + 1
  | .idle | .failed _ _ => 0

end Progress

namespace Side

/-- All messages of a side, in their order. -/
def msgs (s : Side) : List Bytes := s.done ++ (s.progress.msgs ++ s.todo)

/-- All bytes that a side has moved, in their order. -/
def moved (s : Side) : Bytes := s.done.flatten ++ s.progress.moved

/-- The steps that a side can still make: a call begins, moves its bytes and returns. -/
def fuel (s : Side) : Nat := s.progress.fuel + (s.todo.map fun msg => msg.length + 2).sum

/-- What a step that moves no byte keeps. -/
structure Keeps (s s' : Side) : Prop where
  sound : s'.progress.Sound
  msgs : s'.msgs = s.msgs
  moved : s'.moved = s.moved
  fuel : s'.fuel < s.fuel

variable {s s' : Side}

/-- The beginning of a transfer moves nothing. -/
theorem Begins.keeps (h : s.Begins s') : s.Keeps s' := by
  cases h with
  | enter hidle htodo henter =>
    next msg rest t =>
    rw [Transfer.enter_eq] at henter
    cases henter
    exact {
      sound := Nat.zero_add msg.length
      msgs := by
        show s.done ++ ([msg] ++ rest) = _
        rw [Side.msgs, hidle, htodo]
        rfl
      moved := by
        show s.done.flatten ++ msg.take 0 = _
        rw [Side.moved, hidle]
        rfl
      fuel := by
        show msg.length + 1 + (rest.map fun msg => msg.length + 2).sum < _
        rw [Side.fuel, hidle, htodo, List.map_cons, List.sum_cons]
        omega }

/-- Nor does a failure. -/
theorem Fails.keeps {asked : Nat} {value : Int} (h : s.Fails asked value s')
    (hs : s.progress.Sound) : s.Keeps s' ∧ asked ≤ perXferMax := by
  cases h with
  | inLoop hmoving hloop hvalue =>
    next t =>
    rw [hmoving] at hs
    refine ⟨?_, t.asks_le.1⟩
    exact {
      sound := ⟨hs, hloop, hvalue⟩
      msgs := by
        rw [Side.msgs, Side.msgs, hmoving]
        rfl
      moved := by
        rw [Side.moved, Side.moved, hmoving]
        rfl
      fuel := by
        rw [Side.fuel, Side.fuel, hmoving]
        exact Nat.add_lt_add_right (Nat.succ_pos t.remain) _ }

/-- A transfer returns when all of its message has been moved. -/
theorem Returns.keeps (h : s.Returns s') (hs : s.progress.Sound) : s.Keeps s' := by
  cases h with
  | afterLoop hmoving hend =>
    next t =>
    rw [hmoving] at hs
    have hlen : t.pos = t.msg.length := by
      have hsound : t.pos + t.remain = t.msg.length := hs
      omega
    exact {
      sound := trivial
      msgs := by
        rw [Side.msgs, Side.msgs, hmoving]
        show s.done ++ [t.msg] ++ ([] ++ s.todo) = s.done ++ ([t.msg] ++ s.todo)
        rw [List.append_assoc, List.nil_append]
      moved := by
        rw [Side.moved, Side.moved, hmoving]
        show (s.done ++ [t.msg]).flatten ++ [] = s.done.flatten ++ t.msg.take t.pos
        rw [hlen, List.take_length, List.flatten_concat, List.append_nil]
      fuel := by
        rw [Side.fuel, Side.fuel, hmoving]
        exact Nat.add_lt_add_right (Nat.succ_pos t.remain) _ }

/-- What a call that moves the bytes `bs` keeps. -/
structure Carries (s : Side) (bs : Bytes) (s' : Side) : Prop where
  sound : s'.progress.Sound
  moved : s'.moved = s.moved ++ bs
  fuel : s'.fuel < s.fuel

variable {t : Transfer}

/-- A `send` carries bytes of the message at hand. -/
theorem sends_carries (hmoving : s.progress = .moving t) (hs : s.progress.Sound) {sent : Nat}
    (hpos : 0 < sent) (hle : sent ≤ t.asks) :
    s.Carries (t.bytes sent) (s.goesOn (t.sends sent)) ∧
      (s.goesOn (t.sends sent)).msgs = s.msgs := by
  rw [hmoving] at hs
  have hremain : sent ≤ t.remain := hle.trans t.asks_le.2
  constructor
  · exact {
      sound := hs.sends hremain
      moved := by
        rw [Side.moved, Side.moved, hmoving, List.append_assoc]
        exact congrArg _ (t.sends_moved sent)
      fuel := by
        rw [Side.fuel, Side.fuel, hmoving]
        have hless : t.remain - sent + 1 < t.remain + 1 := by omega
        exact Nat.add_lt_add_right hless _ }
  · rw [Side.msgs, Side.msgs, hmoving]
    rfl

/-- So does a `recv`. -/
theorem receives_carries (hmoving : s.progress = .moving t) (hs : s.progress.Sound) {bs : Bytes}
    (hpos : 0 < bs.length) (hle : bs.length ≤ t.asks) :
    s.Carries bs (s.goesOn (t.receives bs)) ∧
      (s.goesOn (t.receives bs)).msgs.map List.length = s.msgs.map List.length := by
  rw [hmoving] at hs
  have hremain : bs.length ≤ t.remain := hle.trans t.asks_le.2
  constructor
  · exact {
      sound := hs.receives hremain
      moved := by
        rw [Side.moved, Side.moved, hmoving, List.append_assoc]
        exact congrArg _ (hs.receives_moved bs)
      fuel := by
        rw [Side.fuel, Side.fuel, hmoving]
        have hless : t.remain - bs.length + 1 < t.remain + 1 := by omega
        exact Nat.add_lt_add_right hless _ }
  · rw [Side.msgs, Side.msgs, hmoving]
    have hlen : (t.receives bs).msg.length = t.msg.length := hs.receives_length hremain
    show (s.done ++ ((t.receives bs).msg :: s.todo)).map List.length =
      (s.done ++ (t.msg :: s.todo)).map List.length
    rw [List.map_append, List.map_append, List.map_cons, List.map_cons, hlen]

end Side

/-! ## The wire -/

/-- What every step keeps: the sides are in step with their messages, and what was put on the stream
has been taken from it or is still there. -/
structure Wire.Kept (w : Wire) (messages : List Bytes) : Prop where
  sends : w.sender.progress.Sound ∧ w.sender.msgs = messages
  receives : w.receiver.progress.Sound ∧
    w.receiver.msgs.map List.length = messages.map List.length
  stream : w.taken ++ w.stream = w.sender.moved
  taken : w.taken = w.receiver.moved

/-- The number that `send` or `recv` is asked for. -/
def Event.asked : Event → Nat
  | .send asked _ | .recv asked _ => asked
  | .put | .get | .putReturns | .getReturns => 0

/-- The steps that a wire can still make. -/
def Wire.fuel (w : Wire) : Nat := w.sender.fuel + w.receiver.fuel

/-- What a step does to what is known of a wire. -/
structure Wire.Advances (messages : List Bytes) (w : Wire) (e : Event) (w' : Wire) : Prop where
  kept : w'.Kept messages
  fuel : w'.fuel < w.fuel
  asked : e.asked ≤ perXferMax

section

variable {messages : List Bytes} {w w' : Wire} {e : Event} {s : Side}

/-- A step of the sender that moves nothing leaves the wire in order. -/
theorem Wire.Kept.sender (h : w.Kept messages) (hs : w.sender.Keeps s) :
    ({ w with sender := s } : Wire).Kept messages ∧ ({ w with sender := s } : Wire).fuel < w.fuel :=
  ⟨{  sends := ⟨hs.sound, hs.msgs.trans h.sends.2⟩
      receives := h.receives
      stream := h.stream.trans hs.moved.symm
      taken := h.taken }, Nat.add_lt_add_right hs.fuel _⟩

/-- So does one of the receiver. -/
theorem Wire.Kept.receiver (h : w.Kept messages) (hs : w.receiver.Keeps s) :
    ({ w with receiver := s } : Wire).Kept messages ∧
      ({ w with receiver := s } : Wire).fuel < w.fuel :=
  ⟨{  sends := h.sends
      receives := ⟨hs.sound, (congrArg _ hs.msgs).trans h.receives.2⟩
      stream := h.stream
      taken := h.taken.trans hs.moved.symm }, Nat.add_lt_add_left hs.fuel _⟩

/-- Bytes that are sent are put behind those on the stream. -/
theorem Wire.Kept.carriesOut (hk : w.Kept messages) {t : Transfer} {sent : Nat}
    (hmoving : w.sender.progress = .moving t) (hpos : 0 < sent) (hle : sent ≤ t.asks) :
    w.Advances messages (.send t.asks sent)
      { w with sender := w.sender.goesOn (t.sends sent), stream := w.stream ++ t.bytes sent } := by
  obtain ⟨hcarries, hmsgs⟩ := Side.sends_carries hmoving hk.sends.1 hpos hle
  refine ⟨?_, Nat.add_lt_add_right hcarries.fuel _, t.asks_le.1⟩
  exact {
    sends := ⟨hcarries.sound, hmsgs.trans hk.sends.2⟩
    receives := hk.receives
    stream := by
      show w.taken ++ (w.stream ++ t.bytes sent) = _
      rw [← List.append_assoc, hk.stream]
      exact hcarries.moved.symm
    taken := hk.taken }

/-- Bytes that are received are taken from the front of the stream. -/
theorem Wire.Kept.carriesIn (hk : w.Kept messages) {t : Transfer} {bs rest : Bytes}
    (hmoving : w.receiver.progress = .moving t) (hstream : w.stream = bs ++ rest)
    (hpos : 0 < bs.length) (hle : bs.length ≤ t.asks) :
    w.Advances messages (.recv t.asks bs.length)
      { w with
        receiver := w.receiver.goesOn (t.receives bs)
        stream := rest
        taken := w.taken ++ bs } := by
  obtain ⟨hcarries, hmsgs⟩ := Side.receives_carries hmoving hk.receives.1 hpos hle
  refine ⟨?_, Nat.add_lt_add_left hcarries.fuel _, t.asks_le.1⟩
  exact {
    sends := hk.sends
    receives := ⟨hcarries.sound, hmsgs.trans hk.receives.2⟩
    stream := by
      show w.taken ++ bs ++ rest = _
      rw [List.append_assoc, ← hstream]
      exact hk.stream
    taken := by
      show w.taken ++ bs = _
      rw [hk.taken]
      exact hcarries.moved.symm }

/-- The step lemma: a step keeps the wire in order, and uses some of what can still be done. -/
theorem Wire.Step.advances (h : w.Step e w') (hk : w.Kept messages) :
    w.Advances messages e w' := by
  cases h with
  | put h =>
    obtain ⟨kept, fuel⟩ := hk.sender h.keeps
    exact ⟨kept, fuel, Nat.zero_le _⟩
  | get h =>
    obtain ⟨kept, fuel⟩ := hk.receiver h.keeps
    exact ⟨kept, fuel, Nat.zero_le _⟩
  | sendFails h =>
    obtain ⟨hkeeps, hasked⟩ := h.keeps hk.sends.1
    obtain ⟨kept, fuel⟩ := hk.sender hkeeps
    exact ⟨kept, fuel, hasked⟩
  | recvFails h =>
    obtain ⟨hkeeps, hasked⟩ := h.keeps hk.receives.1
    obtain ⟨kept, fuel⟩ := hk.receiver hkeeps
    exact ⟨kept, fuel, hasked⟩
  | putReturns h =>
    obtain ⟨kept, fuel⟩ := hk.sender (h.keeps hk.sends.1)
    exact ⟨kept, fuel, Nat.zero_le _⟩
  | getReturns h =>
    obtain ⟨kept, fuel⟩ := hk.receiver (h.keeps hk.receives.1)
    exact ⟨kept, fuel, Nat.zero_le _⟩
  | send hmoving hloop hpos hle => exact hk.carriesOut hmoving hpos hle
  | recv hmoving hloop hstream hpos hle => exact hk.carriesIn hmoving hstream hpos hle

/-- Nothing is on the stream. -/
theorem Wire.start_kept (socket socket' : Nat) {buffers : List Bytes}
    (hlen : buffers.map List.length = messages.map List.length) :
    (Wire.start socket socket' messages buffers).Kept messages where
  sends := ⟨trivial, rfl⟩
  receives := ⟨trivial, hlen⟩
  stream := rfl
  taken := rfl

/-- The steps that the two sides can make at most: for each of them one for each byte, and two for
each message. -/
theorem Wire.start_fuel (socket socket' : Nat) {buffers : List Bytes}
    (hlen : buffers.map List.length = messages.map List.length) :
    (Wire.start socket socket' messages buffers).fuel =
      2 * (messages.map fun msg => msg.length + 2).sum := by
  have hfuel : ∀ (n : Nat) (msgs : List Bytes), (Side.start n msgs).fuel =
      ((msgs.map List.length).map (· + 2)).sum := by
    intro n msgs
    rw [List.map_map]
    exact Nat.zero_add _
  show (Side.start socket messages).fuel + (Side.start socket' buffers).fuel = _
  rw [hfuel, hfuel, hlen, List.map_map, ← Nat.two_mul]
  rfl

/-- Along a run the sides stay in step with their messages, and every step uses some of what they
can still do. So no run goes on for ever, however little a call moves. -/
theorem Wire.Kept.run (hk : w.Kept messages) {es : List Event} (r : Run Wire.Step w es w') :
    w'.Kept messages ∧ es.length + w'.fuel ≤ w.fuel ∧ ∀ e ∈ es, e.asked ≤ perXferMax := by
  refine r.invariant_trace (I := fun es t =>
    t.Kept messages ∧ es.length + t.fuel ≤ w.fuel ∧ ∀ e ∈ es, e.asked ≤ perXferMax) ?_ ?_
  · exact ⟨hk, (Nat.zero_add _).le, fun _ he => absurd he List.not_mem_nil⟩
  · rintro es t e u ⟨hkept, hfuel, hasked⟩ hstep
    have hadv := hstep.advances hkept
    refine ⟨hadv.kept, ?_, ?_⟩
    · have hless := hadv.fuel
      rw [List.length_append, List.length_singleton]
      omega
    · intro e' he'
      rcases List.mem_append.mp he' with he' | he'
      · exact hasked e' he'
      · rw [List.mem_singleton.mp he']
        exact hadv.asked

end

/-! ## Whole messages -/

/-- Blocks of the lengths of others, with the bytes that these begin with. -/
theorem prefix_of_flatten {α : Type} {xs ys : List (List α)}
    (hlen : xs.map List.length <+: ys.map List.length) (h : xs.flatten <+: ys.flatten) :
    xs <+: ys := by
  induction xs generalizing ys with
  | nil => exact List.nil_prefix
  | cons x xs ih =>
    cases ys with
    | nil => simp at hlen
    | cons y ys =>
      rw [List.map_cons, List.map_cons, List.cons_prefix_cons] at hlen
      obtain ⟨rest, hrest⟩ := h
      rw [List.flatten_cons, List.flatten_cons, List.append_assoc] at hrest
      obtain ⟨rfl, htail⟩ := List.append_inj hrest hlen.1
      exact List.cons_prefix_cons.mpr ⟨rfl, ih hlen.2 ⟨rest, htail⟩⟩

section

variable {messages : List Bytes} {w : Wire}

/-- What a side has moved is the beginning of its messages. -/
theorem Side.moved_prefix (s : Side) : s.moved <+: s.msgs.flatten := by
  rw [Side.moved, Side.msgs, List.flatten_append, List.prefix_append_right_inj]
  cases hp : s.progress with
  | idle => exact List.nil_prefix
  | moving t =>
    exact (List.take_prefix t.pos t.msg).trans (List.prefix_append _ _)
  | failed t value =>
    exact (List.take_prefix t.pos t.msg).trans (List.prefix_append _ _)

/-- What has been got are the first messages, whole and in order. -/
theorem Wire.Kept.delivered (h : w.Kept messages) : w.receiver.done <+: messages := by
  apply prefix_of_flatten
  · rw [← h.receives.2]
    exact (List.prefix_append _ _).map _
  · calc
      w.receiver.done.flatten <+: w.taken := by
        rw [h.taken]
        exact List.prefix_append _ _
      _ <+: w.sender.moved := by
        rw [← h.stream]
        exact List.prefix_append _ _
      _ <+: messages.flatten := by
        rw [← h.sends.2]
        exact w.sender.moved_prefix

/-- What has been put are the first ones. -/
theorem Wire.Kept.sent (h : w.Kept messages) : w.sender.done <+: messages := by
  rw [← h.sends.2]
  exact List.prefix_append _ _

/-- A message that is still being got has bytes on the stream, or these are still to be sent. -/
theorem Wire.Kept.bytes_left (h : w.Kept messages) {t : Transfer}
    (hmoving : w.receiver.progress = .moving t) (hloop : 0 < t.remain) (hempty : w.stream = []) :
    w.sender.moved ≠ messages.flatten := by
  intro hall
  have hsound := h.receives.1
  rw [hmoving] at hsound
  have hpos : t.pos + t.remain = t.msg.length := hsound
  have htaken : w.receiver.moved = messages.flatten := by
    rw [← h.taken, ← hall, ← h.stream, hempty, List.append_nil]
  have hlengths := congrArg List.sum h.receives.2
  rw [← List.length_flatten, ← List.length_flatten, ← htaken, Side.msgs, Side.moved, hmoving,
    List.flatten_append, List.length_append, List.length_append] at hlengths
  have hmoved : (Progress.moving t).moved.length = t.pos := by
    show (t.msg.take t.pos).length = t.pos
    rw [List.length_take]
    omega
  have hmsgs : ((Progress.moving t).msgs ++ w.receiver.todo).flatten.length =
      t.msg.length + w.receiver.todo.flatten.length := List.length_append
  omega

/-- `send` or `recv` gives a number that is not positive. -/
def Event.Fails : Event → Prop
  | .send _ moved | .recv _ moved => moved ≤ 0
  | .put | .get | .putReturns | .getReturns => False

/-- A call of the side has returned something else than 1. -/
def Side.Failed (s : Side) : Prop := ∃ t value, s.progress = .failed t value

/-- A sender that has not failed can go on, or it has sent everything. -/
theorem Wire.Kept.sender_goesOn (h : w.Kept messages) (hfailed : ¬w.sender.Failed) :
    w.sender.moved = messages.flatten ∨ ∃ e w', w.Step e w' ∧ ¬e.Fails := by
  cases hp : w.sender.progress with
  | idle =>
    cases htodo : w.sender.todo with
    | nil =>
      left
      rw [← h.sends.2, Side.moved, Side.msgs, hp, htodo]
      show w.sender.done.flatten ++ [] = (w.sender.done ++ []).flatten
      rw [List.append_nil, List.append_nil]
    | cons msg rest =>
      exact .inr ⟨_, _, .put (.enter hp htodo (Transfer.enter_eq _ _)), id⟩
  | failed t value => exact absurd ⟨t, value, hp⟩ hfailed
  | moving t =>
    right
    rcases Nat.eq_zero_or_pos t.remain with hend | hloop
    · exact ⟨_, _, .putReturns (.afterLoop hp hend), id⟩
    · refine ⟨_, _, .send hp hloop Nat.one_pos (Transfer.asks_pos hloop), ?_⟩
      exact fun hfails : ((1 : Nat) : Int) ≤ 0 => absurd hfails (by decide)

/-- Two sides that have not failed can go on, or everything has been got. So the only way not to
deliver is to fail. -/
theorem Wire.Kept.goesOn (h : w.Kept messages) (hsender : ¬w.sender.Failed)
    (hreceiver : ¬w.receiver.Failed) :
    w.receiver.done = messages ∨ ∃ e w', w.Step e w' ∧ ¬e.Fails := by
  cases hp : w.receiver.progress with
  | idle =>
    cases htodo : w.receiver.todo with
    | nil =>
      left
      have hlengths := h.receives.2
      rw [Side.msgs, hp, htodo] at hlengths
      have hlen := congrArg List.length hlengths
      rw [List.length_map, List.length_map] at hlen
      refine h.delivered.eq_of_length ?_
      rw [← hlen]
      exact congrArg List.length (List.append_nil w.receiver.done).symm
    | cons msg rest =>
      exact .inr ⟨_, _, .get (.enter hp htodo (Transfer.enter_eq _ _)), id⟩
  | failed t value => exact absurd ⟨t, value, hp⟩ hreceiver
  | moving t =>
    right
    rcases Nat.eq_zero_or_pos t.remain with hend | hloop
    · exact ⟨_, _, .getReturns (.afterLoop hp hend), id⟩
    · cases hstream : w.stream with
      | nil =>
        exact (h.sender_goesOn hsender).resolve_left (h.bytes_left hp hloop hstream)
      | cons b rest =>
        have hsplit : w.stream = [b] ++ rest := hstream
        refine ⟨_, _, .recv hp hloop hsplit Nat.one_pos (Transfer.asks_pos hloop), ?_⟩
        exact fun hfails : ((1 : Nat) : Int) ≤ 0 => absurd hfails (by decide)

/-- A call that fails returns something else than 1, in the middle of a message. -/
theorem Side.failed_value {s : Side} (h : s.progress.Sound) {t : Transfer} {value : Int}
    (hp : s.progress = .failed t value) : value ≠ 1 ∧ t.pos < t.msg.length := by
  rw [hp] at h
  obtain ⟨hsound, hloop, hvalue⟩ := h
  unfold Transfer.Sound at hsound
  omega

end

/-- What holds on a wire after the events `es`: the messages that were got are the first of those
that were put, nothing behind them was taken but for the message being got, and nothing was asked
for above the limit; only so many events can follow one another; a call that returned something else
than 1 had not moved its message; and as long as there is none, the messages can all be got. -/
structure MovesWhole (messages : List Bytes) (es : List Event) (w : Wire) : Prop where
  delivered : w.receiver.done <+: messages
  consumed : w.taken = w.receiver.done.flatten ++ w.receiver.progress.moved
  sent : w.sender.done <+: messages ∧
    w.taken ++ w.stream = w.sender.done.flatten ++ w.sender.progress.moved
  asked : ∀ e ∈ es, e.asked ≤ perXferMax
  ends : es.length ≤ 2 * (messages.map fun msg => msg.length + 2).sum
  failed : ∀ t value, w.sender.progress = .failed t value ∨ w.receiver.progress = .failed t value →
    value ≠ 1 ∧ t.pos < t.msg.length
  completes : ¬w.sender.Failed → ¬w.receiver.Failed →
    w.receiver.done = messages ∨ ∃ e w', w.Step e w' ∧ ¬e.Fails

/-- `put` and `get` move whole messages, however the transport splits the stream.

Whatever the two calls have moved when one of them fails, no message is given out in part or twice:
those that have been got are the first that have been put. If no call fails, everything is got in
the end, after so many steps at most. -/
theorem put_get_move_whole {messages buffers : List Bytes}
    (hlen : buffers.map List.length = messages.map List.length) {socket socket' : Nat}
    {es : List Event} {w : Wire}
    (r : Run Wire.Step (Wire.start socket socket' messages buffers) es w) :
    MovesWhole messages es w := by
  obtain ⟨hk, hfuel, hasked⟩ := (Wire.start_kept socket socket' hlen).run r
  rw [Wire.start_fuel socket socket' hlen] at hfuel
  exact {
    delivered := hk.delivered
    consumed := hk.taken
    sent := ⟨hk.sent, hk.stream⟩
    asked := hasked
    ends := (Nat.le_add_right _ _).trans hfuel
    failed := by
      rintro t value (hp | hp)
      · exact Side.failed_value hk.sends.1 hp
      · exact Side.failed_value hk.receives.1 hp
    completes := hk.goesOn }

/-- Two messages, both put before the first is got; the first one is put at once and got byte by
byte. -/
theorem put_get_move_whole_twoMessages :
    ∃ es w, Run Wire.Step (Wire.start 3 4 [[1, 2], [3]] [[0, 0], [0]]) es w ∧
      MovesWhole [[1, 2], [3]] es w ∧ w.receiver.done = [[1, 2], [3]] := by
  have r₀ : Run Wire.Step (Wire.start 3 4 [[1, 2], [3]] [[0, 0], [0]]) [] _ := .start
  have r₁ := r₀.snoc (.put (.enter rfl rfl (Transfer.enter_eq 3 [1, 2])))
  have r₂ := r₁.snoc (.get (.enter rfl rfl (Transfer.enter_eq 4 [0, 0])))
  have r₃ := r₂.snoc (@Wire.Step.send _ _ 2 rfl (by decide) (by decide) (by decide))
  have r₄ := r₃.snoc (.putReturns (.afterLoop rfl rfl))
  have r₅ := r₄.snoc (.put (.enter rfl rfl (Transfer.enter_eq 3 [3])))
  have r₆ := r₅.snoc (@Wire.Step.send _ _ 1 rfl (by decide) (by decide) (by decide))
  have r₇ := r₆.snoc (@Wire.Step.recv _ _ [1] [2, 3] rfl (by decide) rfl (by decide) (by decide))
  have r₈ := r₇.snoc (@Wire.Step.recv _ _ [2] [3] rfl (by decide) rfl (by decide) (by decide))
  have r₉ := r₈.snoc (.getReturns (.afterLoop rfl rfl))
  have r₁₀ := r₉.snoc (.get (.enter rfl rfl (Transfer.enter_eq 4 [0])))
  have r₁₁ := r₁₀.snoc (@Wire.Step.recv _ _ [3] [] rfl (by decide) rfl (by decide) (by decide))
  have r₁₂ := r₁₁.snoc (.getReturns (.afterLoop rfl rfl))
  have hlen : ([[0, 0], [0]] : List Bytes).map List.length =
      ([[1, 2], [3]] : List Bytes).map List.length := rfl
  exact ⟨_, _, r₁₂, put_get_move_whole hlen r₁₂, rfl⟩

end GpuVirtmem.Remote
