import GpuVirtmem.Sched.LasPart

/-!
# What a process and the listeners say to each other

A process asks for one answer at a time: its message is in a FIFO, a listener works on it, or the
answer is in the FIFO of the process. Only a process that asks to be added may wait for an answer
that nobody is going to give.

The phases are few: nothing is said, a message is in a FIFO, a listener works on it, the answer has
been written. What keeps them apart is that a process does not send while it waits. The exception is
the process that asks to be added while it has a slot: its message is taken, nobody answers, and the
conversation is over with the process still waiting (`Talk`).
-/

namespace GpuVirtmem.Sched.LasNode

open Lib

/-- The call whose answer the process is to read, once it has asked. -/
def Place.awaits : Place → Option Call
  | .calling (.addQueue gpuid appType elapsed) .v => some (.addQueue gpuid appType elapsed)
  | .calling (.addQueue gpuid appType elapsed) .read => some (.addQueue gpuid appType elapsed)
  | .calling .getPriority .read => some .getPriority
  | _ => none

/-- The message asks for the answer. -/
def Call.Asks : Call → ProcessCreditData → Prop
  | .addQueue gpuid .., pcd => pcd.action = addQ ∧ pcd.gpuid = gpuid
  | .getPriority, pcd => pcd.action = Sched.getPriority ∧ pcd.gpuid < maxControllerCount
  | .notify .., _ | .remQueue, _ => False

/-- What is answered: to a process that is added, its slot. -/
def Call.Gives : Call → Int32 → Prop
  | .addQueue .., answer => ∃ i : Slot, answer = .ofNat i.val
  | .getPriority, _ => True
  | .notify .., _ | .remQueue, _ => False

/-- The listener is going to answer. -/
def Call.Handles (call : Call) : Handling → Prop
  | .register pcd _ => ∃ appType elapsed, call = .addQueue pcd.gpuid appType elapsed
  | .reply _ answer => call.Gives answer
  | .read => False

/-- The listener of `g` works for the process, and no other one does. -/
def working (g : Nat) (h : Handling) : Nat → Option Handling :=
  Function.update (fun _ => none) g (some h)

/-- The message is in the FIFO of the listener of `g`, and there is no other one. -/
def asking (g : Nat) (pcd : ProcessCreditData) : Nat → List ProcessCreditData :=
  Function.update (fun _ => []) g [pcd]

/-- The conversation of a process with the listeners. -/
inductive Talk : Part → Prop
  | quiet {c : Client} {b : Bool} (hplace : c.place.awaits = none) (hread : c.readPath = []) :
      Talk ⟨c, fun _ => none, fun _ => [], b⟩
  | asked {c : Client} {b : Bool} {call : Call} {g : Nat} {pcd : ProcessCreditData}
      (hplace : c.place.awaits = some call) (hread : c.readPath = []) (hasks : call.Asks pcd) :
      Talk ⟨c, fun _ => none, asking g pcd, b⟩
  | handled {c : Client} {b : Bool} {call : Call} {g : Nat} {h : Handling}
      (hplace : c.place.awaits = some call) (hread : c.readPath = []) (hh : call.Handles h) :
      Talk ⟨c, working g h, fun _ => [], b⟩
  | replied {c : Client} {b : Bool} {call : Call} {answer : Int32}
      (hplace : c.place.awaits = some call) (hread : c.readPath = [answer])
      (hgives : call.Gives answer) : Talk ⟨c, fun _ => none, fun _ => [], b⟩
  | refused {c : Client} {b : Bool} {gpuid : Nat} {appType : Int32} {elapsed : Timeval}
      (hplace : c.place.awaits = some (.addQueue gpuid appType elapsed)) (hread : c.readPath = []) :
      Talk ⟨c, fun _ => none, fun _ => [], b⟩

/-- The index of a process is one of the table; a process is in a call only where the mapping file
has a line for its GPU, unless it asks to be added, and reads only what is answered. -/
structure Client.Sound (c : Client) : Prop where
  index : ∀ k, c.index = some k → k < maxControllerCount
  device : ∀ elapsed g signo stage, c.place = .calling (.notify elapsed (some (g, signo))) stage →
    ∃ i : Slot, signo = .ofNat i.val
  mapped : ∀ call stage, c.place = .calling call stage →
    (∃ g a e, call = .addQueue g a e) ∨ ∃ g, c.runningGpu = some g ∧ g < numGpus
  reads : ∀ call, c.place = .calling call .read → call.hasAnswer = true

section

variable {c c' : Client} {call : Call} {elapsed : Timeval} {device : Option (Nat × Int32)}
  {answer : Int32} {v v' : Part} {g gpuid pid : Nat} {h h' : Handling}
  {pcd m : ProcessCreditData} {rest : List ProcessCreditData}

/-- What is done for the process, is done by the one listener. -/
theorem working_eq_some : working g h gpuid = some h' ↔ gpuid = g ∧ h' = h := by
  unfold working
  by_cases hg : gpuid = g
  · rw [hg, Function.update_self, Option.some.injEq, eq_self_iff_true, true_and, eq_comm]
  · rw [Function.update_of_ne hg]
    exact iff_of_false (Option.some_ne_none h').symm fun hand => hg hand.1

/-- That listener goes on with the process. -/
theorem update_working : Function.update (working g h) g (some h') = working g h' :=
  Function.update_idem ..

/-- Or it has done what it had to do, and works for nobody. -/
theorem update_working_none : Function.update (working g h) g none = fun _ => none := by
  unfold working
  rw [Function.update_idem]
  exact Function.update_eq_self ..

/-- A listener that works for the process is not idle. -/
theorem working_ne_none : working g h ≠ fun _ => none := by
  intro heq
  have hself : working g h g = some h := working_eq_some.mpr ⟨rfl, rfl⟩
  rw [heq] at hself
  cases hself

/-- The message is in that FIFO. -/
theorem asking_self : asking g pcd g = [pcd] := Function.update_self ..

/-- It is the only one, in no other FIFO, and none is left when it has been taken. -/
theorem asking_eq_cons (hcons : asking g pcd gpuid = m :: rest) :
    gpuid = g ∧ m = pcd ∧ Function.update (asking g pcd) gpuid rest = fun _ => [] := by
  unfold asking at hcons ⊢
  by_cases hg : gpuid = g
  · subst hg
    rw [Function.update_self] at hcons
    cases hcons
    refine ⟨rfl, rfl, ?_⟩
    rw [Function.update_idem]
    exact Function.update_eq_self ..
  · rw [Function.update_of_ne hg] at hcons
    cases hcons

/-! ## A process on its own -/

theorem Client.served_place : (c.served device).place = .looping := by
  cases device with
  | none => rfl
  | some d => rfl

theorem Client.served_readPath : (c.served device).readPath = c.readPath := by
  cases device with
  | none => rfl
  | some d => rfl

theorem Client.executed_place :
    (c.executed elapsed device).place = .looping ∨
      (c.executed elapsed device).place = .calling (.notify elapsed device) .p := by
  obtain ⟨g, -, h⟩ | ⟨-, h⟩ := enter_cases c (.notify elapsed device) (c.served device)
  · exact .inr (congrArg place h)
  · exact .inl ((congrArg place h).trans served_place)

/-- The execution of a request is followed by no wait for an answer. -/
theorem Client.executed_awaits : (c.executed elapsed device).place.awaits = none := by
  rcases @executed_place c elapsed device with h | h
  · rw [h]
    rfl
  · rw [h]
    rfl

theorem Client.executed_readPath : (c.executed elapsed device).readPath = c.readPath := by
  obtain ⟨g, -, h⟩ | ⟨-, h⟩ := enter_cases c (.notify elapsed device) (c.served device)
  · rw [executed, h]
    rfl
  · rw [executed, h]
    exact served_readPath

/-- What a statement of the process does to what it waits for: nothing, or it takes the answer. -/
theorem Client.Moves.awaits (hmoves : c.Moves c') :
    (c'.place.awaits = c.place.awaits ∧ c'.readPath = c.readPath) ∨
    ∃ call answer readPath, c.place.awaits = some call ∧ c.readPath = answer :: readPath ∧
      c'.readPath = readPath ∧ c'.place.awaits = none := by
  cases hmoves with
  | loop h =>
    left
    rw [h, Client.loop]
    split
    · obtain ⟨g, -, henter⟩ | ⟨-, henter⟩ := enter_cases c .getPriority (c.goTo .receiving)
      · rw [henter]
        exact ⟨rfl, rfl⟩
      · rw [henter]
        exact ⟨rfl, rfl⟩
    · exact ⟨rfl, rfl⟩
  | receive h =>
    left
    rw [h, Client.receive]
    split
    · obtain ⟨g, -, henter⟩ | ⟨-, henter⟩ := enter_cases c .remQueue (c.goTo .exited)
      · rw [henter]
        exact ⟨rfl, rfl⟩
      · rw [henter]
        exact ⟨rfl, rfl⟩
    · exact ⟨rfl, rfl⟩
    · exact ⟨rfl, rfl⟩
    · exact ⟨executed_awaits, executed_readPath⟩
  | @p call h =>
    left
    rw [h]
    cases call <;> exact ⟨rfl, rfl⟩
  | @v call h =>
    left
    rw [h]
    cases call with
    | getPriority | addQueue | remQueue => exact ⟨rfl, rfl⟩
    | notify =>
      refine ⟨?_, served_readPath⟩
      rw [released, served_place]
      rfl
  | @readAnswer call answer readPath h hcall hread =>
    right
    rw [h]
    cases call with
    | getPriority => exact ⟨_, answer, readPath, rfl, hread, rfl, rfl⟩
    | addQueue =>
      exact ⟨_, answer, readPath, rfl, hread, executed_readPath, executed_awaits⟩
    | notify | remQueue => cases hcall

/-! ## Indices and devices -/

/-- A slot comes back from the `int` that it is answered as. The client keeps it in an `unsigned
int`, and sends it back as an index of the table. -/
theorem indexOf_slot (i : Slot) : indexOf (.ofNat i.val) = some i.val := by
  have hi := i.isLt
  have hmax : maxControllerCount = 500 := rfl
  have hsize : UInt32.size = 4294967296 := rfl
  have hval : (Int32.ofNat i.val).toUInt32.toNat = i.val := by
    show (UInt32.ofNat i.val).toNat = i.val
    exact UInt32.toNat_ofNat_of_lt (by omega)
  unfold indexOf
  rw [if_neg, hval]
  intro heq
  rw [heq] at hval
  have hone : ((-1 : Int32).toUInt32.toNat) = 4294967295 := rfl
  omega

/-- A process that finds its line in the mapping file has a device with a listener. -/
theorem Client.mapped_eq_some (hmapped : c.mapped = some g) :
    c.runningGpu = some g ∧ g < numGpus := by
  simpa using Option.filter_eq_some_iff.mp hmapped

/-- Outside of the calls only the index matters. -/
theorem Client.Sound.outside (hindex : ∀ k, c.index = some k → k < maxControllerCount)
    (hplace : ∀ call stage, c.place ≠ .calling call stage) : c.Sound where
  index := hindex
  device _ _ _ _ hcalling := absurd hcalling (hplace _ _)
  mapped _ _ hcalling := absurd hcalling (hplace _ _)
  reads _ hcalling := absurd hcalling (hplace _ _)

/-- A call is entered, or what comes otherwise. -/
theorem Client.Sound.enter {otherwise : Client} (hother : otherwise.Sound)
    (hindex : ∀ k, c.index = some k → k < maxControllerCount)
    (hdevice : ∀ elapsed g signo, call = .notify elapsed (some (g, signo)) →
      ∃ i : Slot, signo = .ofNat i.val) : (c.enter call otherwise).Sound := by
  obtain ⟨g, hmapped, henter⟩ | ⟨-, henter⟩ := enter_cases c call otherwise
  · rw [henter]
    refine ⟨hindex, fun elapsed g signo stage hcalling => ?_, fun call' stage hcalling => ?_,
      fun call' hcalling => ?_⟩
    · cases hcalling
      exact hdevice elapsed g signo rfl
    · exact .inr ⟨g, mapped_eq_some hmapped⟩
    · cases hcalling
  · rw [henter]
    exact hother

/-- The index that a registration gives is one of the table. -/
theorem Client.Sound.served (hindex : ∀ k, c.index = some k → k < maxControllerCount)
    (hdevice : ∀ g signo, device = some (g, signo) → ∃ i : Slot, signo = .ofNat i.val) :
    (c.served device).Sound := by
  refine .outside ?_ fun call stage hcalling => by
    rw [served_place] at hcalling
    cases hcalling
  cases device with
  | none => exact hindex
  | some pair =>
    obtain ⟨g, signo⟩ := pair
    obtain ⟨i, rfl⟩ := hdevice g signo rfl
    intro k hk
    change indexOf (.ofNat i.val) = some k at hk
    rw [indexOf_slot] at hk
    cases hk
    exact i.isLt

/-- The execution of a request keeps the index. -/
theorem Client.Sound.executed (hindex : ∀ k, c.index = some k → k < maxControllerCount)
    (hdevice : ∀ g signo, device = some (g, signo) → ∃ i : Slot, signo = .ofNat i.val) :
    (c.executed elapsed device).Sound :=
  .enter (.served hindex hdevice) hindex fun _ g signo hcall => by
    cases hcall
    exact hdevice g signo rfl

/-- The process goes on in its call. -/
theorem Client.Sound.goTo {stage stage' : Stage} (hc : c.Sound)
    (h : c.place = .calling call stage) (hreads : stage' = .read → call.hasAnswer = true) :
    (c.goTo (.calling call stage')).Sound where
  index := hc.index
  device elapsed g signo _ hcalling := by
    cases hcalling
    exact hc.device elapsed g signo stage h
  mapped _ _ hcalling := by
    cases hcalling
    exact hc.mapped call stage h
  reads _ hcalling := by
    cases hcalling
    exact hreads rfl

/-- What the process does on its own keeps its index in the table, if the answers do that it
reads. -/
theorem Client.Sound.moves (hc : c.Sound) (hmoves : c.Moves c')
    (hgives : ∀ call answer readPath, c.place.awaits = some call →
      c.readPath = answer :: readPath → call.Gives answer) : c'.Sound := by
  have hout : ∀ place : Place, (∀ call stage, place ≠ .calling call stage) → (c.goTo place).Sound :=
    fun place hplace => .outside hc.index hplace
  cases hmoves with
  | loop h =>
    unfold loop
    split
    · exact .enter (hout _ fun _ _ => Place.noConfusion) hc.index fun _ _ _ hcall => by cases hcall
    · exact hout _ fun _ _ => Place.noConfusion
  | receive h =>
    unfold receive
    split
    · exact .enter (hout _ fun _ _ => Place.noConfusion) hc.index fun _ _ _ hcall => by cases hcall
    · exact .outside hc.index fun _ _ => Place.noConfusion
    · refine ⟨hc.index, fun _ _ _ _ hcalling => ?_, fun _ _ hcalling => ?_, fun _ hcalling => ?_⟩
      · cases hcalling
      · cases hcalling
        exact .inl ⟨_, _, _, rfl⟩
      · cases hcalling
    · exact .executed hc.index fun _ _ hdevice => by cases hdevice
  | p h => exact hc.goTo h Stage.noConfusion
  | @v call h =>
    cases call with
    | getPriority | remQueue => exact hout _ fun _ _ => Place.noConfusion
    | addQueue => exact hc.goTo h fun _ => rfl
    | notify elapsed device =>
      refine .served hc.index fun g signo hdevice => ?_
      subst hdevice
      exact hc.device elapsed g signo .v h
  | @readAnswer call answer readPath h hcall hread =>
    have hc' : ({ c with readPath := readPath } : Client).Sound :=
      ⟨hc.index, hc.device, hc.mapped, hc.reads⟩
    cases call with
    | getPriority => exact hc'.goTo h Stage.noConfusion
    | addQueue gpuid appType elapsed =>
      refine .executed hc.index fun g signo hdevice => ?_
      cases hdevice
      exact hgives (.addQueue gpuid appType elapsed) answer readPath (by rw [h]; rfl) hread
    | notify | remQueue => cases hcall

/-! ## The conversation goes on -/

/-- A process and what is said to it. -/
structure Spoken (v : Part) : Prop where
  talk : Talk v
  sound : v.client.Sound

/-- The answer that a process reads is the one it has asked for, and there is no other behind it. -/
theorem Talk.gives (htalk : Talk v) {readPath : List Int32}
    (hplace : v.client.place.awaits = some call)
    (hread : v.client.readPath = answer :: readPath) : call.Gives answer ∧ readPath = [] := by
  cases htalk with
  | quiet hplace' hread' | asked hplace' hread' | handled hplace' hread' | refused hplace' hread' =>
    cases hread'.symm.trans hread
  | replied hplace' hread' hgives =>
    cases hplace'.symm.trans hplace
    cases hread'.symm.trans hread
    exact ⟨hgives, rfl⟩

/-- Where the process does not wait, nothing is said. -/
theorem Talk.of_not_awaits (htalk : Talk v) (hplace : v.client.place.awaits = none) :
    v.client.readPath = [] ∧ v.handling = (fun _ => none) ∧ v.asked = fun _ => [] := by
  cases htalk with
  | quiet hplace' hread => exact ⟨hread, rfl, rfl⟩
  | asked hplace' | handled hplace' | replied hplace' | refused hplace' =>
    cases hplace'.symm.trans hplace

/-- What the process does on its own goes on with the conversation: it reads its answer, or says
nothing. -/
theorem Talk.own (htalk : Talk v) (hmoves : v.client.Moves c') :
    Talk { v with client := c' } := by
  obtain ⟨hsame, hread⟩ | ⟨call, answer, readPath, hplace, hread, hread', hplace'⟩ := hmoves.awaits
  · cases htalk with
    | quiet hplace' hread' => exact .quiet (hsame.trans hplace') (hread.trans hread')
    | asked hplace' hread' hasks =>
      exact .asked (hsame.trans hplace') (hread.trans hread') hasks
    | handled hplace' hread' hh => exact .handled (hsame.trans hplace') (hread.trans hread') hh
    | replied hplace' hread' hgives =>
      exact .replied (hsame.trans hplace') (hread.trans hread') hgives
    | refused hplace' hread' => exact .refused (hsame.trans hplace') (hread.trans hread')
  · obtain ⟨-, rfl⟩ := htalk.gives hplace hread
    cases htalk with
    | quiet _ hnone | asked _ hnone | handled _ hnone | refused _ hnone =>
      cases hnone.symm.trans hread
    | replied => exact .quiet hplace' hread'

/-- A call with an answer sends a message that asks for it. -/
theorem message_asks {unset : ProcessCreditData} (hcall : call.hasAnswer = true) (hc : c.Sound) :
    call.Asks (c.message pid unset call) ∧
      asks pid [c.message pid unset call] = [c.message pid unset call] := by
  cases call with
  | addQueue gpuid appType elapsed => exact ⟨⟨rfl, rfl⟩, asks_self (.inl rfl)⟩
  | getPriority =>
    refine ⟨⟨rfl, ?_⟩, asks_self (.inr rfl)⟩
    show c.index.getD 0 < maxControllerCount
    cases hindex : c.index with
    | none => exact maxControllerCount_pos
    | some k => exact hc.index k hindex
  | notify | remQueue => cases hcall

/-- A call without one sends a message that asks for nothing. -/
theorem message_silent {unset : ProcessCreditData} (hcall : call.hasAnswer = false) :
    asks pid [c.message pid unset call] = [] := by
  cases call with
  | addQueue | getPriority => cases hcall
  | notify =>
    exact asks_of_silent (show notifySched ≠ addQ by decide) (show notifySched ≠ _ by decide)
  | remQueue => exact asks_of_silent (show remQ ≠ addQ by decide) (show remQ ≠ _ by decide)

theorem Client.written_readPath : (c.written call).readPath = c.readPath := by
  cases call <;> rfl

/-- After its write a process waits, if its call has an answer. -/
theorem Client.written_awaits :
    (c.written call).place.awaits = if call.hasAnswer then some call else none := by
  cases call <;> rfl

/-- A message that is sent to a listener is the only one. -/
theorem asked_written {unset : ProcessCreditData} (hgpu : c.gpuOf call = some g) (hg : g < numGpus)
    (hself : asks pid [c.message pid unset call] = [c.message pid unset call]) :
    (fun gpuid => if c.gpuOf call = some gpuid ∧ gpuid < numGpus then
      [] ++ asks pid [c.message pid unset call] else []) =
      asking g (c.message pid unset call) := by
  funext gpuid
  unfold asking
  by_cases heq : gpuid = g
  · subst heq
    rw [if_pos ⟨hgpu, hg⟩, Function.update_self, hself, List.nil_append]
  · rw [if_neg fun hand => heq (Option.some.inj (hand.1.symm.trans hgpu)),
      Function.update_of_ne heq]

/-- A message that asks opens the conversation, which was empty before: the process did not wait. -/
theorem Talk.write (hs : Spoken v) {unset : ProcessCreditData}
    (h : v.client.place = .calling call .write) :
    Talk { v with
      client := v.client.written call
      asked := fun g => if v.client.gpuOf call = some g ∧ g < numGpus then
        v.asked g ++ asks pid [v.client.message pid unset call] else v.asked g } := by
  have hplace : v.client.place.awaits = none := by
    rw [h]
    cases call <;> rfl
  obtain ⟨hread, hhandling, hasked⟩ := hs.talk.of_not_awaits hplace
  have hread' := (@Client.written_readPath v.client call).trans hread
  rw [hhandling, hasked]
  cases hcall : call.hasAnswer with
  | false =>
    have hnone : (fun g => if v.client.gpuOf call = some g ∧ g < numGpus then
        [] ++ asks pid [v.client.message pid unset call] else []) = fun _ => [] := by
      funext g
      rw [message_silent hcall, List.append_nil, ite_self]
    rw [hnone]
    refine .quiet ?_ hread'
    rw [Client.written_awaits, hcall]
    rfl
  | true =>
    have hawaits : (v.client.written call).place.awaits = some call := by
      rw [Client.written_awaits, hcall]
      rfl
    obtain ⟨hasks, hself⟩ := @message_asks v.client call pid unset hcall hs.sound
    by_cases hgpu : ∃ g, v.client.gpuOf call = some g ∧ g < numGpus
    · obtain ⟨g, hgpu, hg⟩ := hgpu
      rw [asked_written hgpu hg hself]
      exact .asked hawaits hread' hasks
    · have hnone : (fun g => if v.client.gpuOf call = some g ∧ g < numGpus then
          [] ++ asks pid [v.client.message pid unset call] else []) = fun _ => [] := by
        funext g
        exact if_neg fun hand => hgpu ⟨g, hand⟩
      rw [hnone]
      cases call with
      | addQueue => exact .refused hawaits hread'
      | getPriority =>
        obtain ⟨_, _, _, hcall'⟩ | hgpu' := hs.sound.mapped .getPriority .write h
        · cases hcall'
        · exact absurd hgpu' hgpu
      | notify | remQueue => cases hcall

/-- Where a message is in a FIFO, it is the one that the process waits for an answer to. -/
theorem Talk.of_asked (htalk : Talk v) (hasked : v.asked g = m :: rest) :
    ∃ call, v.client.place.awaits = some call ∧ v.client.readPath = [] ∧ call.Asks m ∧
      v.handling = (fun _ => none) ∧ Function.update v.asked g rest = fun _ => [] := by
  cases htalk with
  | quiet | handled | replied | refused => cases hasked
  | asked hplace hread hasks =>
    obtain ⟨-, rfl, hrest⟩ := asking_eq_cons hasked
    exact ⟨_, hplace, hread, hasks, rfl, hrest⟩

/-- Where a listener works for the process, nothing else is said. -/
theorem Talk.of_handling (htalk : Talk v) (hlisten : v.handling g = some h) :
    ∃ call, v.client.place.awaits = some call ∧ v.client.readPath = [] ∧ call.Handles h ∧
      v.handling = working g h ∧ v.asked = fun _ => [] := by
  cases htalk with
  | quiet | asked | replied | refused => cases hlisten
  | handled hplace hread hh =>
    obtain ⟨rfl, rfl⟩ := working_eq_some.mp hlisten
    exact ⟨_, hplace, hread, hh, rfl, rfl⟩

/-- In all of its statements a registration is going to answer. -/
theorem register_handles {next : Register} {d : SchedulerData}
    (hcall : call.Handles (.register pcd next)) : call.Handles (next.next d pcd) := by
  obtain ⟨appType, elapsed, rfl⟩ := hcall
  cases next with
  | count idx => exact ⟨idx, rfl⟩
  | _ => exact ⟨appType, elapsed, rfl⟩

/-- The step lemma. Every step of the part is the process's own, a write, or one of the listener
that is working for it. -/
theorem Talk.step (hs : Spoken v) {d : SchedulerData} (hstep : PartStep d pid v v') : Talk v' := by
  cases hstep with
  | own hmoves => exact hs.talk.own hmoves
  | write h => exact .write hs h
  | taken haction hnew hasked =>
    obtain ⟨call, hplace, hread, hasks, hhandling, hrest⟩ := hs.talk.of_asked hasked
    rw [hhandling, hrest]
    cases call with
    | addQueue gpuid =>
      obtain ⟨-, rfl⟩ := hasks
      exact .handled hplace hread ⟨_, _, rfl⟩
    | getPriority => cases haction.symm.trans hasks.1
    | notify | remQueue => cases hasks
  | dropped haction hadded hasked =>
    obtain ⟨call, hplace, hread, hasks, hhandling, hrest⟩ := hs.talk.of_asked hasked
    rw [hhandling, hrest]
    cases call with
    | addQueue => exact .refused hplace hread
    | getPriority => cases haction.symm.trans hasks.1
    | notify | remQueue => cases hasks
  | looked haction hasked =>
    obtain ⟨call, hplace, hread, hasks, hhandling, hrest⟩ := hs.talk.of_asked hasked
    rw [hhandling, hrest]
    cases call with
    | addQueue => cases haction.symm.trans hasks.1
    | getPriority => exact .handled hplace hread trivial
    | notify | remQueue => cases hasks
  | register hlisten =>
    obtain ⟨call, hplace, hread, hh, hhandling, hasked⟩ := hs.talk.of_handling hlisten
    rw [hhandling, hasked, update_working]
    exact .handled hplace hread (register_handles hh)
  | reply hlisten =>
    obtain ⟨call, hplace, hread, hh, hhandling, hasked⟩ := hs.talk.of_handling hlisten
    rw [hhandling, hasked, update_working_none, hread]
    exact .replied hplace rfl hh
  | relisted hb =>
    cases hs.talk with
    | quiet hplace hread => exact .quiet hplace hread
    | asked hplace hread hasks => exact .asked hplace hread hasks
    | handled hplace hread hh => exact .handled hplace hread hh
    | replied hplace hread hgives => exact .replied hplace hread hgives
    | refused hplace hread => exact .refused hplace hread

/-- A process that has written is as sound as before. -/
theorem Client.Sound.written (hc : c.Sound) (h : c.place = .calling call .write) :
    (c.written call).Sound := by
  cases call with
  | getPriority => exact hc.goTo h fun _ => rfl
  | addQueue | notify | remQueue => exact hc.goTo h Stage.noConfusion

/-- Both together: a process and what is said to it. -/
theorem Spoken.step (hs : Spoken v) {d : SchedulerData} (hstep : PartStep d pid v v') :
    Spoken v' := by
  refine ⟨.step hs hstep, ?_⟩
  cases hstep with
  | own hmoves =>
    exact hs.sound.moves hmoves fun call answer readPath hplace hread =>
      (hs.talk.gives hplace hread).1
  | write h => exact hs.sound.written h
  | reply hlisten =>
    exact ⟨hs.sound.index, hs.sound.device, hs.sound.mapped, hs.sound.reads⟩
  | taken | dropped | looked | register | relisted => exact hs.sound

end

end GpuVirtmem.Sched.LasNode
