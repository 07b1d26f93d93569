import GpuVirtmem.Lib.Codec
import GpuVirtmem.Lib.Handshake
import GpuVirtmem.Lib.Run
import GpuVirtmem.VirtMem.Paging

/-!
# The pager and its clients (`l2scheduler/pager.c`, `virtmem/cuda_vmem.c`)

`pager_worker` hands each victim what it is to page out, and the process that asked for memory a
sign that it may page in, and waits for the answer of each. Message and answer go through one FIFO,
`PCLIENT_FIFO<pid>`, that both processes have opened for reading and writing: the two exchanges are
handshakes over one queue (`Lib.Handshake`). The labels of the steps are the numbers of the comments
in the source.

What each of the two processes does beside the exchange is modelled with it, the writes to the table
by the victim and to the states by the pager, so that "the page-out is done" is said of the rows and
not of a flag. The condition is on the order of two reads and on nothing else. Neither process looks
at what it has read, so the pager that reads its own message takes it for the answer.
-/

namespace GpuVirtmem.Pager

open Lib Lib.Reader VirtMem

/-- `struct pager_data`. -/
structure PagerData where
  reqarr : UInt64
  len : UInt32
  pid : UInt32
  deriving DecidableEq, Repr

/-- The image of a `struct pager_data`. -/
def PagerData.image (d : PagerData) : Bytes :=
  encodeLE 8 d.reqarr.toNat ++ (encodeLE 4 d.len.toNat ++ encodeLE 4 d.pid.toNat)

/-- The `struct pager_data` with the given image. -/
def pagerData : Reader PagerData := do
  let reqarr ← u64
  let len ← u32
  let pid ← u32
  return { reqarr := reqarr, len := len, pid := pid }

/-- A structure has 16 bytes. -/
theorem PagerData.image_length (d : PagerData) : d.image.length = 16 := by
  simp only [image, List.length_append, encodeLE_length]

/-- What is read from the image of a structure is the structure. -/
theorem reads_pagerData (d : PagerData) : Reads pagerData d.image d := by
  have hpid := (reads_u32 d.pid).map fun pid => PagerData.mk d.reqarr d.len pid
  exact (reads_u64 d.reqarr).bind ((reads_u32 d.len).bind hpid)

/-- The image of the answer, `int st = 1`. -/
def st : Bytes := encodeLE 4 1

/-- The signals that the pager sends to a client. -/
inductive Signal
  | sigpage | sigvtalrm
  deriving DecidableEq, Repr

/-- `Scheduler_Data.state` of a client. -/
inductive ProcState
  | procActive | procInactive | procPaging | procWaiting
  deriving DecidableEq, Repr

/-! ## Paging out: steps 5 to 11, and `gvirt_page_out` -/

/-- The next step of `pager_worker` with a victim. -/
inductive WithVictim
  | mark | setup | signal | write | read | close | sleep | unmark | done
  deriving DecidableEq, Repr

/-- The next step of `gvirt_page_out`; from the read on with the `struct pager_data` it works on, in
the loop with the rows that are left. -/
inductive Victim
  | setup | read | loop (pd : PagerData) (rest : List Nat) | write (pd : PagerData)
  | done (pd : PagerData)

/-- The pager with one victim. `fifo` is the queue, `pd` the victim's local structure. -/
structure PageOut where
  pager : WithVictim
  victim : Victim
  fifo : Bytes
  pd : Bytes
  state : ProcState
  sent : List Signal
  vmem : Vmem

/-- The labels of the steps of the pager and of its victim. -/
inductive OutStep
  | pager5 | pager6 | pager7 | pager8 | pager9 | pagerClose | pager10 | pager11
  | victimSetup | victim1 | victim2 | victim2End | victim3
  deriving DecidableEq, Repr

/-- A step of either process. The pager writes `pd`; `rows` are the rows that the victim finds
through a `struct pager_data`. -/
inductive PageOut.Step (pd : PagerData) (rows : PagerData → List Nat) (s : PageOut) :
    OutStep → PageOut → Prop
  | pager5 (h : s.pager = .mark) :
      Step pd rows s .pager5 { s with pager := .setup, state := .procPaging }
  | pager6 (h : s.pager = .setup) : Step pd rows s .pager6 { s with pager := .signal }
  | pager7 (h : s.pager = .signal) :
      Step pd rows s .pager7 { s with pager := .write, sent := s.sent ++ [.sigpage] }
  | pager8 (h : s.pager = .write) :
      Step pd rows s .pager8 { s with pager := .read, fifo := s.fifo ++ pd.image }
  | pager9 (h : s.pager = .read) (hfifo : s.fifo ≠ []) :
      Step pd rows s .pager9 { s with pager := .close, fifo := s.fifo.drop st.length }
  | pagerClose (h : s.pager = .close) : Step pd rows s .pagerClose { s with pager := .sleep }
  | pager10 (h : s.pager = .sleep) :
      Step pd rows s .pager10 { s with pager := .unmark, sent := s.sent ++ [.sigvtalrm] }
  | pager11 (h : s.pager = .unmark) :
      Step pd rows s .pager11 { s with pager := .done, state := .procActive }
  | victimSetup (h : s.victim = .setup) : Step pd rows s .victimSetup { s with victim := .read }
  | victim1 {d : PagerData} {n : Nat} (h : s.victim = .read) (hfifo : s.fifo ≠ [])
      (hd : pagerData (Handshake.readInto s.pd s.fifo) = .ok (d, n)) :
      Step pd rows s .victim1
        { s with victim := .loop d (rows d), fifo := s.fifo.drop s.pd.length,
                 pd := Handshake.readInto s.pd s.fifo }
  | victim2 {d : PagerData} {index : Nat} {rest : List Nat} {vmem : Vmem}
      (h : s.victim = .loop d (index :: rest)) (hrow : pageOutRow s.vmem index = some vmem) :
      Step pd rows s .victim2 { s with victim := .loop d rest, vmem := vmem }
  | victim2End {d : PagerData} (h : s.victim = .loop d []) :
      Step pd rows s .victim2End { s with victim := .write d }
  | victim3 {d : PagerData} (h : s.victim = .write d) :
      Step pd rows s .victim3 { s with victim := .done d, fifo := s.fifo ++ st }

/-- The pager before step 5 and the victim at the head of `gvirt_page_out`, with a FIFO that is
empty and a local structure that holds anything. -/
def PageOut.start (pd : { bs : Bytes // bs.length = 16 }) (state : ProcState) (vmem : Vmem) :
    PageOut :=
  { pager := .mark, victim := .setup, fifo := [], pd := pd, state := state, sent := []
    vmem := vmem }

/-- The structure that the victim has read. -/
def Victim.pd? : Victim → Option PagerData
  | .setup | .read => none
  | .loop pd _ | .write pd | .done pd => some pd

/-- The page-out loop has finished. -/
def Victim.loopDone : Victim → Bool
  | .setup | .read | .loop .. => false
  | .write _ | .done _ => true

/-- Where the pager stands in the handshake with the victim. -/
def WithVictim.asking : WithVictim → Asking
  | .mark | .setup | .signal | .write => .toSend
  | .read => .toWait
  | .close | .sleep | .unmark | .done => .past

/-- Where the victim stands in the handshake. -/
def Victim.answering : Victim → Answering
  | .setup | .read => .toReceive
  | .loop .. => .working
  | .write _ => .toReply
  | .done _ => .finished

/-- The handshake of the two. -/
def PageOut.handshake (s : PageOut) : Handshake :=
  ⟨s.pager.asking, s.victim.answering, s.fifo, s.pd⟩

/-- The pager goes on after the page-out is done, and the victim pages out what it was told to. -/
structure PageOut.GoesOnAfter (pd : PagerData) (s : PageOut) : Prop where
  passes : s.pager.asking = .past → s.victim.loopDone = true
  sleeps : .sigvtalrm ∈ s.sent → s.victim.loopDone = true
  marks : s.pager = .done → s.victim.loopDone = true
  told : ∀ d, s.victim.pd? = some d → d = pd

/-- The pager does not make the read of step 9 before the victim has read. -/
def PageOut.ReadsInTurn (s : PageOut) (e : OutStep) : Prop :=
  e = .pager9 → s.victim.pd?.isSome = true

/-- What holds where every read is in turn. -/
structure PageOut.Kept (pd : PagerData) (s : PageOut) : Prop where
  phase : Handshake.Phase pd.image st s.handshake
  decoded : ∀ d, s.victim.pd? = some d → ∃ n, pagerData s.pd = .ok (d, n)
  sleeps : .sigvtalrm ∈ s.sent → s.pager.asking = .past

section

variable {pd : PagerData} {rows : PagerData → List Nat} {s t u : PageOut} {e : OutStep}

/-- A step is fixed by its label, so that a run is by its labels. -/
theorem PageOut.Step.det (ht : Step pd rows s e t) (hu : Step pd rows s e u) : t = u := by
  cases ht with
  | victim1 _ _ hd =>
    cases hu with
    | victim1 _ _ hd' =>
      rw [hd] at hd'
      cases hd'
      rfl
  | victim2 h hrow =>
    cases hu with
    | victim2 h' hrow' =>
      rw [h] at h'
      cases h'
      rw [hrow] at hrow'
      cases hrow'
      rfl
  | victim2End h | victim3 h =>
    cases hu with
    | _ h' =>
      rw [h] at h'
      cases h'
      rfl
  | _ =>
    cases hu
    rfl

/-- A step of the two is a move of the handshake, or does not concern it. The victim's loop and the
pager's signals lie between the moves. -/
theorem PageOut.Step.handshake (h : Step pd rows s e t) :
    (∃ m, Handshake.Step pd.image st s.handshake m t.handshake ∧ (m = .wait → e = .pager9)) ∨
      t.handshake = s.handshake := by
  obtain ⟨pager, victim, fifo, buffer, state, sent, vmem⟩ := s
  cases h with
  | pager8 h =>
    obtain rfl : pager = .write := h
    exact .inl ⟨.send, .send, nofun⟩
  | pager9 h hfifo =>
    obtain rfl : pager = .read := h
    exact .inl ⟨.wait, .wait hfifo, fun _ => rfl⟩
  | victim1 h hfifo _ =>
    obtain rfl : victim = .read := h
    exact .inl ⟨.receive, .receive hfifo, nofun⟩
  | victim2 h _ =>
    obtain rfl : victim = .loop _ (_ :: _) := h
    exact .inr rfl
  | victim2End h =>
    obtain rfl : victim = .loop _ [] := h
    exact .inl ⟨.finish, .finish, nofun⟩
  | victim3 h =>
    obtain rfl : victim = .write _ := h
    exact .inl ⟨.reply, .reply, nofun⟩
  | victimSetup h =>
    obtain rfl : victim = .setup := h
    exact .inr rfl
  | pager5 h | pager6 h | pager7 h | pagerClose h | pager10 h | pager11 h =>
    obtain rfl : pager = _ := h
    exact .inr rfl

/-- Where the victim has read, it does not stand at its read. -/
theorem Victim.answering_ne {v : Victim} (h : v.pd?.isSome = true) :
    v.answering ≠ .toReceive := by
  cases v with
  | setup | read => cases h
  | _ => nofun

/-- A victim that has answered is behind its loop. -/
theorem Victim.loopDone_of_finished {v : Victim} (h : v.answering = .finished) :
    v.loopDone = true := by
  cases v with
  | done => rfl
  | _ => cases h

/-- The queue is empty and nobody has moved. -/
theorem PageOut.start_kept (buffer : { bs : Bytes // bs.length = 16 }) (state : ProcState)
    (vmem : Vmem) : Kept pd (start buffer state vmem) where
  phase := .start (buffer.property.trans pd.image_length.symm)
  decoded _ h := nomatch h
  sleeps h := nomatch h

/-- The structure the victim works on stays the one in its buffer. -/
theorem PageOut.Step.decoded (h : Step pd rows s e t)
    (hs : ∀ d, s.victim.pd? = some d → ∃ n, pagerData s.pd = .ok (d, n)) :
    ∀ d, t.victim.pd? = some d → ∃ n, pagerData t.pd = .ok (d, n) := by
  cases h with
  | victim1 _ _ hd =>
    rintro d ⟨⟩
    exact ⟨_, hd⟩
  | victim2 h _ | victim2End h | victim3 h =>
    rintro d ⟨⟩
    apply hs
    rw [h]
    rfl
  | victimSetup => nofun
  | _ => exact hs

/-- The victim is put to sleep only by a pager that has read its answer. -/
theorem PageOut.Step.sleeps (h : Step pd rows s e t)
    (hs : .sigvtalrm ∈ s.sent → s.pager.asking = .past) :
    .sigvtalrm ∈ t.sent → t.pager.asking = .past := by
  cases h with
  | pager5 h | pager6 h | pager8 h | pager9 h _ =>
    intro hsent
    have := hs hsent
    rw [h] at this
    cases this
  | pager7 h =>
    intro hsent
    have := hs (by simpa using hsent)
    rw [h] at this
    cases this
  | pagerClose | pager10 | pager11 => exact fun _ => rfl
  | _ => exact hs

/-- The step lemma: what holds where every read is in turn is kept by a step in turn. -/
theorem PageOut.Kept.step (hk : Kept pd s) (hturn : s.ReadsInTurn e) (h : Step pd rows s e t) :
    Kept pd t := by
  refine ⟨?_, h.decoded hk.decoded, h.sleeps hk.sleeps⟩
  obtain ⟨m, hmove, hwait⟩ | heq := h.handshake
  · exact hk.phase.step (fun hm => Victim.answering_ne (hturn (hwait hm))) hmove
  · rw [heq]
    exact hk.phase

/-- As long as that holds, the pager goes on only after the page-out. -/
theorem PageOut.Kept.goesOnAfter (hk : Kept pd s) : GoesOnAfter pd s := by
  have hpast : s.pager.asking = .past → s.victim.loopDone = true := fun h =>
    Victim.loopDone_of_finished (hk.phase.finished h)
  refine ⟨hpast, fun h => hpast (hk.sleeps h), ?_, ?_⟩
  · intro h
    apply hpast
    rw [h]
    rfl
  · intro d hd
    obtain ⟨n, hn⟩ := hk.decoded d hd
    have hbuffer : s.pd = pd.image :=
      hk.phase.buffer (Victim.answering_ne (Option.isSome_iff_exists.mpr ⟨d, hd⟩))
    have hread := reads_pagerData pd []
    rw [List.append_nil, ← hbuffer, hn] at hread
    cases hread
    rfl

/-- A read out of turn is seen at once: the pager goes on with its own message in its hands, and the
victim has not begun. -/
theorem PageOut.readsInTurn_of_goesOnAfter (h : Step pd rows s e t) (ht : GoesOnAfter pd t) :
    s.ReadsInTurn e := by
  rintro rfl
  cases h with
  | pager9 =>
    have hdone := ht.passes rfl
    cases hv : s.victim with
    | setup | read | loop =>
      simp [hv, Victim.loopDone] at hdone
    | _ => rfl

end

/-! ## Paging in: steps 12 to 15, and `gvirt_page_in` -/

/-- The next step of `pager_worker` with the process that asked for memory. -/
inductive WithRequester
  | setup | write | read | close | sleep | mark | done
  deriving DecidableEq, Repr

/-- The next step of `gvirt_page_in` from its request to the pager on; in the loop with the rows
that are left. -/
inductive Requester
  | request | read | loop (rest : List Nat) | write | done
  deriving DecidableEq, Repr

/-- The pager with the process. `pagerTid` is the local variable that its sign is read into. -/
structure PageIn where
  pager : WithRequester
  requester : Requester
  fifo : Bytes
  pagerTid : Bytes
  state : ProcState
  sent : List Signal
  vmem : Vmem

/-- The labels of the steps of the pager and of the process; in the loop, with what a read through
NULL gives. -/
inductive InStep
  | pager12Setup | pager12 | pager13 | pagerClose | pager14 | pager15
  | requester3 | requester4 | requester5 (word : Option DevPtr) | requester5End | requester6
  deriving DecidableEq, Repr

/-- A step of either process. The pager writes `selfid`; the process pages in `reqarr`. -/
inductive PageIn.Step (selfid : UInt64) (reqarr : List Nat) (s : PageIn) : InStep → PageIn → Prop
  | pager12Setup (h : s.pager = .setup) :
      Step selfid reqarr s .pager12Setup { s with pager := .write }
  | pager12 (h : s.pager = .write) :
      Step selfid reqarr s .pager12
        { s with pager := .read, fifo := s.fifo ++ encodeLE 8 selfid.toNat }
  | pager13 (h : s.pager = .read) (hfifo : s.fifo ≠ []) :
      Step selfid reqarr s .pager13 { s with pager := .close, fifo := s.fifo.drop st.length }
  | pagerClose (h : s.pager = .close) : Step selfid reqarr s .pagerClose { s with pager := .sleep }
  | pager14 (h : s.pager = .sleep) :
      Step selfid reqarr s .pager14 { s with pager := .mark, sent := s.sent ++ [.sigvtalrm] }
  | pager15 (h : s.pager = .mark) :
      Step selfid reqarr s .pager15 { s with pager := .done, state := .procActive }
  | requester3 (h : s.requester = .request) :
      Step selfid reqarr s .requester3 { s with requester := .read }
  | requester4 (h : s.requester = .read) (hfifo : s.fifo ≠ []) :
      Step selfid reqarr s .requester4
        { s with requester := .loop reqarr, fifo := s.fifo.drop s.pagerTid.length,
                 pagerTid := Handshake.readInto s.pagerTid s.fifo }
  | requester5 {word : Option DevPtr} {index : Nat} {rest : List Nat} {vmem : Vmem}
      (h : s.requester = .loop (index :: rest)) (hrow : pageInRow word s.vmem index = some vmem) :
      Step selfid reqarr s (.requester5 word) { s with requester := .loop rest, vmem := vmem }
  | requester5End (h : s.requester = .loop []) :
      Step selfid reqarr s .requester5End { s with requester := .write }
  | requester6 (h : s.requester = .write) :
      Step selfid reqarr s .requester6 { s with requester := .done, fifo := s.fifo ++ st }

/-- The pager before step 12 and the process before its request, with a FIFO that is empty and a
local variable that holds anything. -/
def PageIn.start (pagerTid : { bs : Bytes // bs.length = 8 }) (state : ProcState) (vmem : Vmem) :
    PageIn :=
  { pager := .setup, requester := .request, fifo := [], pagerTid := pagerTid, state := state,
    sent := [], vmem := vmem }

/-- The process has read the sign of the pager. -/
def Requester.hasRead : Requester → Bool
  | .request | .read => false
  | .loop _ | .write | .done => true

/-- The page-in loop has finished. -/
def Requester.loopDone : Requester → Bool
  | .request | .read | .loop _ => false
  | .write | .done => true

/-- Where the pager stands in the handshake with the process. -/
def WithRequester.asking : WithRequester → Asking
  | .setup | .write => .toSend
  | .read => .toWait
  | .close | .sleep | .mark | .done => .past

/-- Where the process stands in the handshake. -/
def Requester.answering : Requester → Answering
  | .request | .read => .toReceive
  | .loop _ => .working
  | .write => .toReply
  | .done => .finished

/-- The handshake of the two. -/
def PageIn.handshake (s : PageIn) : Handshake :=
  ⟨s.pager.asking, s.requester.answering, s.fifo, s.pagerTid⟩

/-- The pager goes on after the page-in is done. -/
def PageIn.GoesOnAfter (s : PageIn) : Prop :=
  s.pager.asking = .past → s.requester.loopDone = true

/-- The pager does not make the read of step 13 before the process has read. -/
def PageIn.ReadsInTurn (s : PageIn) (e : InStep) : Prop :=
  e = .pager13 → s.requester.hasRead = true

section

variable {selfid : UInt64} {reqarr : List Nat} {s t u : PageIn} {e : InStep}

/-- A step is fixed by its label. -/
theorem PageIn.Step.det (ht : Step selfid reqarr s e t) (hu : Step selfid reqarr s e u) :
    t = u := by
  cases ht with
  | requester5 h hrow =>
    cases hu with
    | requester5 h' hrow' =>
      rw [h] at h'
      cases h'
      rw [hrow] at hrow'
      cases hrow'
      rfl
  | _ =>
    cases hu
    rfl

/-- A step of the two is a move of the handshake, or does not concern it. -/
theorem PageIn.Step.handshake (h : Step selfid reqarr s e t) :
    (∃ m, Handshake.Step (encodeLE 8 selfid.toNat) st s.handshake m t.handshake ∧
      (m = .wait → e = .pager13)) ∨ t.handshake = s.handshake := by
  obtain ⟨pager, requester, fifo, buffer, state, sent, vmem⟩ := s
  cases h with
  | pager12 h =>
    obtain rfl : pager = .write := h
    exact .inl ⟨.send, .send, nofun⟩
  | pager13 h hfifo =>
    obtain rfl : pager = .read := h
    exact .inl ⟨.wait, .wait hfifo, fun _ => rfl⟩
  | requester4 h hfifo =>
    obtain rfl : requester = .read := h
    exact .inl ⟨.receive, .receive hfifo, nofun⟩
  | requester5 h _ =>
    obtain rfl : requester = .loop (_ :: _) := h
    exact .inr rfl
  | requester5End h =>
    obtain rfl : requester = .loop [] := h
    exact .inl ⟨.finish, .finish, nofun⟩
  | requester6 h =>
    obtain rfl : requester = .write := h
    exact .inl ⟨.reply, .reply, nofun⟩
  | requester3 h =>
    obtain rfl : requester = .request := h
    exact .inr rfl
  | pager12Setup h | pagerClose h | pager14 h | pager15 h =>
    obtain rfl : pager = _ := h
    exact .inr rfl

/-- What holds where every read is in turn. -/
def PageIn.Kept (selfid : UInt64) (s : PageIn) : Prop :=
  Handshake.Phase (encodeLE 8 selfid.toNat) st s.handshake

/-- The queue is empty and nobody has moved. -/
theorem PageIn.start_kept (pagerTid : { bs : Bytes // bs.length = 8 }) (state : ProcState)
    (vmem : Vmem) : Kept selfid (start pagerTid state vmem) :=
  .start (pagerTid.property.trans (encodeLE_length ..).symm)

theorem Requester.answering_ne {r : Requester} (h : r.hasRead = true) :
    r.answering ≠ .toReceive := by
  cases r with
  | request | read => cases h
  | _ => nofun

theorem Requester.loopDone_of_finished {r : Requester} (h : r.answering = .finished) :
    r.loopDone = true := by
  cases r with
  | done => rfl
  | _ => cases h

theorem Requester.hasRead_of_loopDone {r : Requester} (h : r.loopDone = true) :
    r.hasRead = true := by
  cases r with
  | write | done => rfl
  | _ => cases h

/-- The step lemma for the page-in, by the same phases of the handshake. -/
theorem PageIn.Kept.step (hk : Kept selfid s) (hturn : s.ReadsInTurn e)
    (h : Step selfid reqarr s e t) : Kept selfid t := by
  obtain ⟨m, hmove, hwait⟩ | heq := h.handshake
  · exact Handshake.Phase.step hk (fun hm => Requester.answering_ne (hturn (hwait hm))) hmove
  · unfold Kept
    rw [heq]
    exact hk

/-- The pager goes on only after the page-in. -/
theorem PageIn.Kept.goesOnAfter (hk : Kept selfid s) : s.GoesOnAfter := fun h =>
  Requester.loopDone_of_finished (Handshake.Phase.finished hk h)

/-- A read out of turn is seen at once here, too. -/
theorem PageIn.readsInTurn_of_goesOnAfter (h : Step selfid reqarr s e t) (ht : t.GoesOnAfter) :
    s.ReadsInTurn e := by
  rintro rfl
  cases h with
  | pager13 => exact Requester.hasRead_of_loopDone (ht rfl)

end

/-! ## Whole runs -/

section

variable {pd : PagerData} {rows : PagerData → List Nat} {selfid : UInt64} {reqarr : List Nat}

/-- In all states of a run the pager goes on only after the page-out, or the page-in, is done
exactly if it reads each time after its client has.

Message and answer go through one queue, of which a read takes what is first. The condition is on
two reads, one in each exchange. -/
theorem pager_goes_on_after_iff {buffer : { bs : Bytes // bs.length = 16 }}
    {pagerTid : { bs : Bytes // bs.length = 8 }} {state state' : ProcState} {vmem vmem' : Vmem}
    {es : List OutStep} {fs : List InStep} {s : PageOut} {t : PageIn}
    (r : Run (PageOut.Step pd rows) (.start buffer state vmem) es s)
    (q : Run (PageIn.Step selfid reqarr) (.start pagerTid state' vmem') fs t) :
    (Always (PageOut.Step pd rows) (.start buffer state vmem) es
        (fun _ s => s.GoesOnAfter pd) ↔
      EachStep (PageOut.Step pd rows) (.start buffer state vmem) es PageOut.ReadsInTurn) ∧
    (Always (PageIn.Step selfid reqarr) (.start pagerTid state' vmem') fs
        (fun _ t => t.GoesOnAfter) ↔
      EachStep (PageIn.Step selfid reqarr) (.start pagerTid state' vmem') fs
        PageIn.ReadsInTurn) := by
  constructor
  · exact Run.always_iff_eachStep (I := fun _ s => s.Kept pd) (fun _ _ _ _ => PageOut.Step.det)
      (PageOut.start_kept buffer state vmem) (fun hk hturn h => hk.step hturn h)
      PageOut.Kept.goesOnAfter (fun _ => PageOut.readsInTurn_of_goesOnAfter) r
  · exact Run.always_iff_eachStep (I := fun _ t => t.Kept selfid) (fun _ _ _ _ => PageIn.Step.det)
      (PageIn.start_kept pagerTid state' vmem') (fun hk hturn h => hk.step hturn h)
      PageIn.Kept.goesOnAfter (fun _ => PageIn.readsInTurn_of_goesOnAfter) q

end

/-- A request to page out row 0. -/
def rowZero : PagerData := { reqarr := 0x1000, len := 1, pid := 42 }

/-- A table of one row, which has nothing on the device. -/
def oneEmptyRow : Vmem := { table := [initRow 0 0], device := ⟨fun _ => none⟩ }

/-- A page-out in which the victim reads before the pager does. -/
def outInTurn : List OutStep :=
  [.pager5, .pager6, .pager7, .pager8, .victimSetup, .victim1, .victim2, .victim2End, .victim3,
    .pager9, .pagerClose, .pager10, .pager11]

/-- A page-in in which the process reads before the pager does. -/
def inInTurn : List InStep :=
  [.requester3, .pager12Setup, .pager12, .requester4, .requester5 none, .requester5End,
    .requester6, .pager13, .pagerClose, .pager14, .pager15]

/-- Both exchanges can be made with every read in turn, and then the pager goes on when it
should. -/
theorem pager_goes_on_after_iff_in_turn :
    ∃ s t,
      Run (PageOut.Step rowZero fun _ => [0]) (.start (zeroBlock 16) .procActive oneEmptyRow)
        outInTurn s ∧
      Run (PageIn.Step 7 [0]) (.start (zeroBlock 8) .procWaiting oneEmptyRow) inInTurn t ∧
      ((Always (PageOut.Step rowZero fun _ => [0]) (.start (zeroBlock 16) .procActive oneEmptyRow)
          outInTurn (fun _ s => s.GoesOnAfter rowZero) ↔
        EachStep (PageOut.Step rowZero fun _ => [0]) (.start (zeroBlock 16) .procActive oneEmptyRow)
          outInTurn PageOut.ReadsInTurn) ∧
      (Always (PageIn.Step 7 [0]) (.start (zeroBlock 8) .procWaiting oneEmptyRow) inInTurn
          (fun _ t => t.GoesOnAfter) ↔
        EachStep (PageIn.Step 7 [0]) (.start (zeroBlock 8) .procWaiting oneEmptyRow) inInTurn
          PageIn.ReadsInTurn)) := by
  have r : Run (PageOut.Step rowZero fun _ => [0]) (.start (zeroBlock 16) .procActive oneEmptyRow)
      outInTurn _ :=
    .cons (.pager5 rfl) (.cons (.pager6 rfl) (.cons (.pager7 rfl) (.cons (.pager8 rfl)
      (.cons (.victimSetup rfl) (.cons (.victim1 rfl (by decide) rfl) (.cons (.victim2 rfl rfl)
        (.cons (.victim2End rfl) (.cons (.victim3 rfl) (.cons (.pager9 rfl (by decide))
          (.cons (.pagerClose rfl) (.cons (.pager10 rfl) (.cons (.pager11 rfl) .start))))))))))))
  have q : Run (PageIn.Step 7 [0]) (.start (zeroBlock 8) .procWaiting oneEmptyRow) inInTurn _ :=
    .cons (.requester3 rfl) (.cons (.pager12Setup rfl) (.cons (.pager12 rfl)
      (.cons (.requester4 rfl (by decide)) (.cons (.requester5 rfl rfl)
        (.cons (.requester5End rfl) (.cons (.requester6 rfl) (.cons (.pager13 rfl (by decide))
          (.cons (.pagerClose rfl) (.cons (.pager14 rfl) (.cons (.pager15 rfl) .start))))))))))
  exact ⟨_, _, r, q, pager_goes_on_after_iff r q⟩

/-- The pager reads its own message, and goes on before its client has done anything. -/
theorem pager_reads_own_message :
    (¬ ∀ (pd : PagerData) (rows : PagerData → List Nat) (buffer : { bs : Bytes // bs.length = 16 })
        (state : ProcState) (vmem : Vmem) (es : List OutStep) (s : PageOut),
        Run (PageOut.Step pd rows) (.start buffer state vmem) es s →
          .sigvtalrm ∈ s.sent → s.victim.loopDone = true) ∧
    ¬ ∀ (selfid : UInt64) (reqarr : List Nat) (pagerTid : { bs : Bytes // bs.length = 8 })
        (state : ProcState) (vmem : Vmem) (es : List InStep) (t : PageIn),
        Run (PageIn.Step selfid reqarr) (.start pagerTid state vmem) es t → t.GoesOnAfter := by
  constructor
  · intro hclaim
    have r : Run (PageOut.Step rowZero fun _ => [0]) (.start (zeroBlock 16) .procActive oneEmptyRow)
        [.pager5, .pager6, .pager7, .pager8, .pager9, .pagerClose, .pager10] _ :=
      .cons (.pager5 rfl) (.cons (.pager6 rfl) (.cons (.pager7 rfl) (.cons (.pager8 rfl)
        (.cons (.pager9 rfl (by decide)) (.cons (.pagerClose rfl) (.cons (.pager10 rfl) .start))))))
    exact nomatch hclaim _ _ _ _ _ _ _ r (.tail _ (.head _))
  · intro hclaim
    have q : Run (PageIn.Step 7 [0]) (.start (zeroBlock 8) .procWaiting oneEmptyRow)
        [.pager12Setup, .pager12, .pager13] _ :=
      .cons (.pager12Setup rfl) (.cons (.pager12 rfl) (.cons (.pager13 rfl (by decide)) .start))
    exact nomatch hclaim _ _ _ _ _ _ _ q rfl

end GpuVirtmem.Pager
