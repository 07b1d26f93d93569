import GpuVirtmem.Sched.LasOnce

/-!
# The node comes to rest

No run of the node goes on for ever, and where it cannot go on, the semaphore is free, no listener
has anything left to do, and each process whose client sets its device at most once, to a GPU that
has a listener, has come to its end, whatever the other processes do. A process that is not added
waits for its answer alone.

The difference to the fair-share node is one of order. `las_add_queue` gives the semaphore back
before it reads its answer, so that a process which is not answered keeps nobody else from going on;
`las_get_priority` reads its answer inside the section, and that answer always comes.

To see the node at work, its steps are also computed: `State.turn` is the step of a process or of a
listener where it can move, and `State.turns` makes any number of them in a given order. These are
runs of the node (`turns_run`), and whether a state is one in which nothing can move is decided by
looking at the processes and listeners that there are (`Within.stuck`).
-/

namespace GpuVirtmem.Sched.LasNode

open Lib

section

variable {s t : State} {e : Mover} {pid g : Nat} {c : Client} {l : Listener} {next : Handling}
  {pids : Finset Nat} {requests : Nat → List Request} {pcd : ProcessCreditData}
  {d d' : SchedulerData}

/-! ## What every run keeps -/

/-- A process that has come to its end has no further step. -/
theorem PartStep.exited {v v' : Part} (h : PartStep d pid v v')
    (hplace : v.client.place = .exited) : v'.client.place = .exited := by
  cases h with
  | own hmoves =>
    cases hmoves with
    | loop h | receive h | p h | v h | readAnswer h => cases hplace.symm.trans h
  | write h => cases hplace.symm.trans h
  | taken | dropped | looked | register | reply | relisted => exact hplace

/-- In the node it stays where it is. -/
theorem Step.exited (h : Step s e t) (hplace : (s.client pid).place = .exited) :
    (t.client pid).place = .exited := by
  rcases h.partsMove pid with hsame | hpart
  · have hclient : t.client pid = s.client pid := congrArg Part.client hsame
    rw [hclient, hplace]
  · exact hpart.exited hplace

/-- A listener works for the sender of the message it has taken, or for nobody. -/
theorem take_pid (h : take g d pcd = some (d', next)) :
    next.pid = some pcd.pid ∨ next = .read := by
  obtain ⟨-, -, -, rfl⟩ | ⟨-, -, rfl⟩ | ⟨-, -, rfl⟩ | ⟨-, -, e, -, rfl⟩ | ⟨-, -, -, rfl⟩ :=
    take_cases h
  · exact .inl rfl
  · exact .inr rfl
  · exact .inr rfl
  · exact .inl rfl
  · exact .inr rfl

/-- A listener of the node goes on, for a process of the node and with messages of such. -/
theorem Within.setListener (hs : Within pids s) (hg : g < numGpus)
    (hhandled : ∀ pid, l.next.pid = some pid → pid ∈ pids) (hsent : ∀ m ∈ l.fifo, m.pid ∈ pids) :
    Within pids (s.setListener g l) where
  clients := hs.clients
  idle gpuid hidle := by
    have hne : gpuid ≠ g := fun heq => hidle (heq ▸ hg)
    rw [State.setListener_of_ne hne]
    exact hs.idle gpuid hidle
  handled gpuid pid hpid := by
    by_cases heq : gpuid = g
    · subst heq
      rw [State.setListener_self] at hpid
      exact hhandled pid hpid
    · rw [State.setListener_of_ne heq] at hpid
      exact hs.handled gpuid pid hpid
  sent gpuid := by
    by_cases heq : gpuid = g
    · subst heq
      rw [State.setListener_self]
      exact hsent
    · rw [State.setListener_of_ne heq]
      exact hs.sent gpuid

/-- A listener goes on with what it is doing. -/
theorem Within.goOn (hs : Within pids s) (hg : g < numGpus)
    (hnext : ∀ pid, next.pid = some pid → pid ∈ pids) : Within pids (s.goOn g next) :=
  hs.setListener hg hnext (hs.sent g)

/-- A process goes on. -/
theorem Within.setClient (hs : Within pids s)
    (hexited : pid ∉ pids → c.place = .exited) : Within pids (s.setClient pid c) where
  clients q hq := by
    by_cases heq : q = pid
    · subst heq
      rw [State.setClient_self]
      exact hexited hq
    · rw [State.setClient_of_ne heq]
      exact hs.clients q hq
  idle := hs.idle
  handled := hs.handled
  sent := hs.sent

/-- A process of the node sends a message. -/
theorem Within.send (hs : Within pids s) {target : Option Nat} (hpid : pcd.pid ∈ pids) :
    Within pids (s.send target pcd) := by
  obtain ⟨g, -, hg, h⟩ | ⟨-, h⟩ := s.send_cases target pcd
  · rw [h]
    refine hs.setListener hg (hs.handled g) fun m hm => ?_
    rcases List.mem_append.mp hm with hm | hm
    · exact hs.sent g m hm
    · rw [List.mem_singleton.mp hm]
      exact hpid
  · rw [h]
    exact hs

theorem Within.setData (hs : Within pids s) : Within pids (s.setData d) :=
  ⟨hs.clients, hs.idle, hs.handled, hs.sent⟩

theorem Within.setSem (hs : Within pids s) {free : Bool} : Within pids (s.setSem free) :=
  ⟨hs.clients, hs.idle, hs.handled, hs.sent⟩

/-- No step brings in a process that is not of the node, or a listener. -/
theorem Step.within (h : Step s e t) (hs : Within pids s) : Within pids t := by
  cases h with
  | loop h | receive h | readAnswer h =>
    exact hs.setClient fun hpid => absurd (hs.mem h Place.noConfusion) hpid
  | p h hsem => exact (hs.setClient fun hpid => absurd (hs.mem h Place.noConfusion) hpid).setSem
  | v h => exact (hs.setClient fun hpid => absurd (hs.mem h Place.noConfusion) hpid).setSem
  | write h =>
    have hpid := hs.mem h Place.noConfusion
    exact Within.send (hs.setClient fun hnot => absurd hpid hnot) (message_pid ▸ hpid)
  | @read g pcd fifo d next hlisten hfifo htake =>
    have hg : g < numGpus := hs.listens fun hl => by rw [hl] at hfifo; cases hfifo
    refine Within.setData (hs.setListener hg (fun pid hpid => ?_) fun m hm => ?_)
    · rcases take_pid htake with hnext | rfl
      · rw [hnext] at hpid
        cases hpid
        exact hs.sent g pcd (hfifo ▸ .head fifo)
      · cases hpid
    · exact hs.sent g m (hfifo ▸ .tail pcd hm)
  | @register g pcd next hlisten =>
    refine Within.setData (hs.goOn (hs.handles hlisten Handling.noConfusion) fun pid hpid => ?_)
    have hnext : (next.next s.data pcd).pid = some pcd.pid := by
      cases next <;> rfl
    exact hs.handled g pid ((congrArg Handling.pid hlisten).trans (hnext.symm.trans hpid))
  | @reply g pid answer hlisten =>
    have hg := hs.handles hlisten Handling.noConfusion
    exact Within.goOn (hs.setClient fun hpid => hs.clients pid hpid) hg fun q hq => by cases hq

/-- At most one process is between its P and its V. -/
abbrev State.SemHeld (s : State) : Prop :=
  Held (fun c : Client => c.place.inside = true) s.client s.semFree

namespace Client

/-- Who enters a call is before its P. -/
theorem enter_inside {call : Call} {otherwise : Client} (hother : otherwise.place.inside = false) :
    (c.enter call otherwise).place.inside = false := by
  obtain ⟨g, -, h⟩ | ⟨-, h⟩ := enter_cases c call otherwise
  · rw [h]
    cases call <;> rfl
  · rw [h, hother]

/-- At the end of the loop a process is outside the section. -/
theorem served_inside {device : Option (Nat × Int32)} : (c.served device).place.inside = false := by
  rw [served_place]
  rfl

/-- At the head of the loop it is outside as well. -/
theorem loop_inside : c.loop.place.inside = false := by
  unfold loop
  split
  · exact enter_inside rfl
  · rfl

/-- Where it receives, it is outside. -/
theorem receive_inside : c.receive.place.inside = false := by
  unfold receive
  split
  · exact enter_inside rfl
  · rfl
  · rfl
  · exact enter_inside served_inside

/-- After the write it is still inside. -/
theorem written_inside {call : Call} : (c.written call).place.inside = true := by
  cases call <;> rfl

/-- After the V it is not. -/
theorem released_inside {call : Call} : (c.released call).place.inside = false := by
  cases call with
  | getPriority | addQueue | remQueue => rfl
  | notify => exact served_inside

/-- An answer that is read inside the section leaves the process inside, and one that is read
outside leaves it outside: the two calls with answers differ in just this. -/
theorem answered_inside {call : Call} {answer : Int32} (hcall : call.hasAnswer = true) :
    (c.answered answer call).place.inside = (Place.calling call .read).inside := by
  cases call with
  | getPriority => rfl
  | addQueue => exact enter_inside served_inside
  | notify | remQueue => cases hcall

end Client

/-- Every step keeps the semaphore: it is free, or one process is between its P and its V. -/
theorem Step.held (h : Step s e t) (hs : s.SemHeld) : t.SemHeld := by
  cases h with
  | loop h =>
    refine hs.update ?_
    rw [h, Client.loop_inside]
    exact Iff.rfl
  | receive h =>
    refine hs.update ?_
    rw [h, Client.receive_inside]
    exact Iff.rfl
  | p h hsem =>
    refine hs.enter hsem ?_
    rfl
  | @write pid unset call h =>
    have hmoved : State.SemHeld (s.setClient pid ((s.client pid).written call)) := by
      refine hs.update ?_
      rw [h, Client.written_inside]
      cases call <;> exact Iff.rfl
    obtain ⟨g, -, -, hsend⟩ | ⟨-, hsend⟩ :=
      (s.setClient pid ((s.client pid).written call)).send_cases ((s.client pid).gpuOf call)
        ((s.client pid).message pid unset call)
    · rw [hsend]
      exact hmoved
    · rw [hsend]
      exact hmoved
  | @v pid call h =>
    refine hs.leave ?_ ?_
    · rw [h]
      cases call <;> rfl
    · rw [Client.released_inside]
      exact Bool.false_ne_true
  | readAnswer h hcall hread =>
    refine hs.update ?_
    rw [h, Client.answered_inside hcall]
  | read => exact hs
  | register => exact hs
  | reply => exact hs.update Iff.rfl

/-- What holds of the node in every state. -/
structure Works (pids : Finset Nat) (requests : Nat → List Request) (s : State) : Prop where
  within : Within pids s
  held : s.SemHeld
  spoken : ∀ pid, Spoken (s.part pid)
  once : ∀ pid ∈ pids, SetsOnce (requests pid) → Once (s.part pid)

/-- The step lemma for all that holds in every state: who is at work, the semaphore, and for each
process what is said to it. -/
theorem Works.step (h0 : invalidProceess ∉ pids) (hs : Works pids requests s) (h : Step s e t) :
    Works pids requests t where
  within := h.within hs.within
  held := h.held hs.held
  spoken pid := by
    rcases h.partsMove pid with hsame | hpart
    · rw [hsame]
      exact hs.spoken pid
    · exact (hs.spoken pid).step hpart
  once pid hpid honce := by
    have hold := hs.once pid hpid honce
    rcases h.partsMove pid with hsame | hpart
    · rw [hsame]
      exact hold
    · exact hold.step (fun heq => h0 (heq ▸ hpid)) (hs.spoken pid) hpart

/-- The processes at the start. -/
theorem start_client : (start pids requests).client pid =
    if pid ∈ pids then ⟨.looping, requests pid, none, none, []⟩
    else ⟨.exited, [], none, none, []⟩ := rfl

/-- All of this holds at the start. -/
theorem start_works (h0 : invalidProceess ∉ pids) : Works pids requests (start pids requests) where
  within :=
    { clients := fun pid hpid => by rw [start_client, if_neg hpid]
      idle := fun _ _ => rfl
      handled := fun _ _ h => by cases h
      sent := fun _ _ h => by cases h }
  held := by
    refine held_of_none fun pid => ?_
    rw [start_client]
    split <;> exact Bool.false_ne_true
  spoken pid := by
    have hquiet : ((start pids requests).client pid).place.awaits = none ∧
        ((start pids requests).client pid).readPath = [] ∧
        ((start pids requests).client pid).Sound := by
      rw [start_client]
      split
      · exact ⟨rfl, rfl, .outside (fun _ h => by cases h) fun _ _ => Place.noConfusion⟩
      · exact ⟨rfl, rfl, .outside (fun _ h => by cases h) fun _ _ => Place.noConfusion⟩
    exact ⟨.quiet hquiet.1 hquiet.2.1, hquiet.2.2⟩
  once pid hpid honce := by
    have hclient : (start pids requests).client pid = ⟨.looping, requests pid, none, none, []⟩ := by
      rw [start_client, if_pos hpid]
    have hlisted : Registering.listed (lasListenStart staticData) pid = false := by
      apply Bool.eq_false_iff.mpr
      intro hlisted
      obtain ⟨i, hi⟩ := Registering.listed_iff.mp hlisted
      exact h0 ((show invalidProceess = pid from hi) ▸ hpid)
    rcases honce with hnone | ⟨g, hg, hone⟩
    · refine .free ?_ ?_
      · exact (congrArg (fun c => devices c.requests) hclient).trans hnone
      · exact congrArg (fun c => c.place.adds) hclient
    · refine .first ?_ hg (.inl ?_) ?_ ?_ hlisted
      · exact (congrArg (fun c => devices c.requests) hclient).trans hone
      · exact congrArg Client.place hclient
      · exact congrArg Client.index hclient
      · exact congrArg Client.runningGpu hclient

/-! ## Where it stops -/

/-- The process waits for an answer in `las_add_queue`, and there is none. -/
def State.Refused (s : State) (pid : Nat) : Prop :=
  (∃ gpuid appType elapsed,
    (s.client pid).place = .calling (.addQueue gpuid appType elapsed) .read) ∧
  (s.client pid).readPath = []

/-- The node has come to rest: whoever has not come to its end waits for an answer that it asks for
a second time, or of a listener that is not there. -/
structure Settled (pids : Finset Nat) (requests : Nat → List Request) (s : State) : Prop where
  sem : s.semFree = true
  listeners : ∀ g, s.listener g = ⟨.read, []⟩
  clients : ∀ pid, (s.client pid).place = .exited ∨ s.Refused pid
  once : ∀ pid ∈ pids, SetsOnce (requests pid) → (s.client pid).place = .exited

/-- A message can always be taken, if its index is one of the table. -/
theorem take_exists
    (hindex : pcd.action = getPriority → pcd.gpuid < maxControllerCount) (d : SchedulerData) :
    ∃ d' next, take g d pcd = some (d', next) := by
  unfold take
  split
  · exact ⟨_, _, rfl⟩
  · split
    · exact ⟨_, _, rfl⟩
    · split
      · exact ⟨_, _, rfl⟩
      · split
        · next hprio =>
          unfold SchedulerData.entryAt
          rw [dif_pos (hindex hprio)]
          exact ⟨_, _, rfl⟩
        · exact ⟨_, _, rfl⟩

/-- A listener that has something to do goes on. Listeners wait for messages only, and in this
scheduler for nothing else. -/
theorem Works.listener_moves (hs : Works pids requests s) (hbusy : s.listener g ≠ ⟨.read, []⟩) :
    ∃ e t, Step s e t := by
  cases hnext : (s.listener g).next with
  | register pcd next => exact ⟨_, _, .register hnext⟩
  | reply pid answer => exact ⟨_, _, .reply hnext⟩
  | read =>
    cases hfifo : (s.listener g).fifo with
    | nil =>
      refine absurd ?_ hbusy
      rw [← hnext, ← hfifo]
    | cons pcd fifo =>
      have hindex : pcd.action = getPriority → pcd.gpuid < maxControllerCount := by
        intro haction
        have hasked : (s.part pcd.pid).asked g = pcd :: asks pcd.pid fifo := by
          show asks pcd.pid (s.listener g).fifo = _
          rw [hfifo, asks_cons, asks_self (.inr haction)]
          rfl
        obtain ⟨call, -, -, hasks, -⟩ := (hs.spoken pcd.pid).talk.of_asked hasked
        cases call with
        | getPriority => exact hasks.2
        | addQueue => cases haction.symm.trans hasks.1
        | notify | remQueue => cases hasks
      obtain ⟨d, next, htake⟩ := @take_exists g pcd hindex s.data
      exact ⟨_, _, .read hnext hfifo htake⟩

/-- Where no listener has anything to do, nobody asks, and nobody is worked for. -/
theorem idle_part (hidle : ∀ g, s.listener g = ⟨.read, []⟩) (pid : Nat) :
    (s.part pid).handling = (fun _ => none) ∧ (s.part pid).asked = fun _ => [] := by
  constructor
  · funext g
    show (s.listener g).next.about pid = none
    rw [hidle g]
    rfl
  · funext g
    show asks pid (s.listener g).fifo = []
    rw [hidle g]
    rfl

/-- Where no listener has anything to do, a process goes on that the semaphore does not keep, unless
it is refused. -/
theorem Works.client_moves (hs : Works pids requests s) (hidle : ∀ g, s.listener g = ⟨.read, []⟩)
    (hplace : (s.client pid).place ≠ .exited)
    (hor : s.semFree = true ∨ (s.client pid).place.inside = true) :
    (∃ e t, Step s e t) ∨ s.Refused pid := by
  cases h : (s.client pid).place with
  | looping => exact .inl ⟨_, _, .loop h⟩
  | receiving => exact .inl ⟨_, _, .receive h⟩
  | exited => exact absurd h hplace
  | calling call stage =>
    cases stage with
    | p =>
      have hfree : s.semFree = true := by
        refine hor.resolve_right ?_
        rw [h]
        cases call <;> exact Bool.false_ne_true
      exact .inl ⟨_, _, .p h hfree⟩
    | write => exact .inl ⟨_, _, @Step.write s pid (lasRemQueue 0 (fsAddQueue 0 0 0 0 ⟨0, 0⟩)) _ h⟩
    | v => exact .inl ⟨_, _, .v h⟩
    | read =>
      have hcall := (hs.spoken pid).sound.reads call h
      cases hread : (s.client pid).readPath with
      | cons answer readPath => exact .inl ⟨_, _, .readAnswer h hcall hread⟩
      | nil =>
        right
        cases call with
        | addQueue gpuid appType elapsed => exact ⟨⟨_, _, _, h⟩, hread⟩
        | notify | remQueue => cases hcall
        | getPriority =>
          obtain ⟨hhandling, hasked⟩ := idle_part hidle pid
          have hawaits : (s.part pid).client.place.awaits = some .getPriority := by
            show (s.client pid).place.awaits = _
            rw [h]
            rfl
          have hnone : (s.part pid).client.readPath = [] := hread
          have htalk := (hs.spoken pid).talk
          generalize s.part pid = v at htalk hhandling hasked hawaits hnone
          cases htalk with
          | quiet hplace' => cases hplace'.symm.trans hawaits
          | @asked _ _ _ g pcd =>
            have hcons : asking g pcd g = [] := congrFun hasked g
            rw [asking_self] at hcons
            cases hcons
          | handled => exact absurd hhandling working_ne_none
          | replied _ hread' => cases hread'.symm.trans hnone
          | refused hplace' => cases hplace'.symm.trans hawaits

/-- Where nothing can go on, the node has come to rest. The semaphore is free then: were it taken,
the process inside would be waiting for an answer that a listener is working on or has a message
for, or could go on. -/
theorem Works.settled (hs : Works pids requests s) (hstuck : ∀ e t, ¬ Step s e t) :
    Settled pids requests s := by
  have hidle : ∀ g, s.listener g = ⟨.read, []⟩ := by
    intro g
    by_contra hbusy
    obtain ⟨e, t, h⟩ := hs.listener_moves hbusy
    exact hstuck e t h
  have hrefused : ∀ pid, (s.client pid).place ≠ .exited →
      s.semFree = true ∨ (s.client pid).place.inside = true → s.Refused pid := by
    intro pid hplace hor
    rcases hs.client_moves hidle hplace hor with ⟨e, t, h⟩ | hrefused
    · exact absurd h (hstuck e t)
    · exact hrefused
  have hsem : s.semFree = true := by
    apply Bool.of_not_eq_false
    intro hheld
    obtain ⟨pid, hinside⟩ := hs.held.exists_inside hheld
    have hplace : (s.client pid).place ≠ .exited := by
      intro hexited
      rw [hexited] at hinside
      cases hinside
    obtain ⟨⟨gpuid, appType, elapsed, hread⟩, -⟩ := hrefused pid hplace (.inr hinside)
    rw [hread] at hinside
    cases hinside
  have hclients : ∀ pid, (s.client pid).place = .exited ∨ s.Refused pid := by
    intro pid
    by_cases hplace : (s.client pid).place = .exited
    · exact .inl hplace
    · exact .inr (hrefused pid hplace (.inl hsem))
  refine ⟨hsem, hidle, hclients, fun pid hpid honce => (hclients pid).resolve_right ?_⟩
  rintro ⟨⟨gpuid, appType, elapsed, hplace⟩, hread⟩
  obtain ⟨hhandling, hasked⟩ := idle_part hidle pid
  have hawaits : (s.part pid).client.place.awaits = some (.addQueue gpuid appType elapsed) := by
    show (s.client pid).place.awaits = _
    rw [hplace]
    rfl
  obtain ⟨-, ⟨g, pcd, hone, -⟩ | ⟨g, h, hworking⟩ | hne⟩ :=
    (hs.once pid hpid honce).of_awaits hawaits
  · have hcons := congrFun (hone.symm.trans hasked) g
    rw [asking_self] at hcons
    cases hcons
  · exact absurd (hworking.symm.trans hhandling) working_ne_none
  · exact hne hread

end

/-- Every run of the node is bounded, and at most one process at a time is between its P and its V.
Where the node cannot go on, it has come to rest.

To have come to rest is to be done, but for processes that are not added: those wait for an answer
that they will not get, and keep nobody else from being done. Which processes these can be is said
in terms of what their clients ask for. -/
theorem node_settles (pids : Finset Nat) (requests : Nat → List Request)
    (h0 : invalidProceess ∉ pids) {es : List Mover} {s : State}
    (r : Run Step (start pids requests) es s) :
    es.length ≤ (start pids requests).weight pids ∧
    (∀ p q, (s.client p).place.inside = true → (s.client q).place.inside = true → p = q) ∧
    ((∀ e t, ¬ Step s e t) → Settled pids requests s) := by
  have hworks : Works pids requests s :=
    r.invariant (start_works h0) fun hs h => hs.step h0 h
  refine ⟨?_, fun p q hp hq => hworks.held.unique hp hq, hworks.settled⟩
  have hlen := r.length_le (@start_works pids requests h0).within
    (fun hs h => h.within hs) fun hs h => h.weight_lt hs
  omega

/-! ## Turns

The steps can be computed: whose turn it is makes its next statement, if it can. -/

/-- Whose turn it is. -/
inductive Turn
  | process (pid : Nat)
  | listener (gpuid : Nat)

/-- The step of a process or of a listener, where it can move; `unset` is what the stack holds. -/
def State.turn (unset : ProcessCreditData) (s : State) : Turn → Option (Mover × State)
  | .process pid =>
    let c := s.client pid
    match c.place, c.readPath with
    | .looping, _ => some (.process pid, s.setClient pid c.loop)
    | .receiving, _ => some (.process pid, s.setClient pid c.receive)
    | .calling call .p, _ =>
      if s.semFree then
        some (.process pid, (s.setClient pid (c.goTo (.calling call .write))).setSem false)
      else none
    | .calling call .write, _ =>
      some (.writer pid (c.message pid unset call),
        (s.setClient pid (c.written call)).send (c.gpuOf call) (c.message pid unset call))
    | .calling call .v, _ => some (.process pid, (s.setClient pid (c.released call)).setSem true)
    | .calling call .read, answer :: readPath =>
      if call.hasAnswer then
        some (.process pid, s.setClient pid ({ c with readPath := readPath }.answered answer call))
      else none
    | .calling _ .read, [] | .exited, _ => none
  | .listener g =>
    match (s.listener g).next, (s.listener g).fifo with
    | .read, [] => none
    | .read, pcd :: fifo =>
      (take g s.data pcd).map fun (d, next) =>
        (.listener g, (s.setListener g ⟨next, fifo⟩).setData d)
    | .register pcd next, _ =>
      some (.listener g, (s.goOn g (next.next s.data pcd)).setData (next.write s.data pcd))
    | .reply pid answer, _ =>
      some (.listener g, (s.setClient pid { s.client pid with
        readPath := (s.client pid).readPath ++ [answer] }).goOn g .read)

/-- The turns, one after the other; whoever cannot move is passed over. -/
def State.turns (unset : ProcessCreditData) : State → List Turn → List Mover × State
  | s, [] => ([], s)
  | s, x :: xs =>
    match s.turn unset x with
    | some (e, t) => (e :: (t.turns unset xs).1, (t.turns unset xs).2)
    | none => s.turns unset xs

/-- The step that is computed is one of the node. -/
theorem turn_step {unset : ProcessCreditData} {s t : State} {x : Turn} {e : Mover}
    (h : s.turn unset x = some (e, t)) : Step s e t := by
  cases x with
  | process pid =>
    unfold State.turn at h
    dsimp only at h
    split at h
    · next hplace =>
      cases h
      exact .loop hplace
    · next hplace =>
      cases h
      exact .receive hplace
    · next call _ hplace =>
      split at h
      · next hsem =>
        cases h
        exact .p hplace hsem
      · cases h
    · next call _ hplace =>
      cases h
      exact .write hplace
    · next call _ hplace =>
      cases h
      exact .v hplace
    · next call answer readPath hplace hread =>
      split at h
      · next hcall =>
        cases h
        exact .readAnswer hplace hcall hread
      · cases h
    · cases h
    · cases h
  | listener g =>
    unfold State.turn at h
    dsimp only at h
    split at h
    · cases h
    · next pcd fifo hlisten hfifo =>
      obtain ⟨⟨d, next⟩, htake, heq⟩ := Option.map_eq_some_iff.mp h
      cases heq
      exact .read hlisten hfifo htake
    · next pcd next _ hlisten =>
      cases h
      exact .register hlisten
    · next pid answer _ hlisten =>
      cases h
      exact .reply hlisten

/-- The turns are a run of the node, so that a run can be had by evaluation. -/
theorem turns_run (unset : ProcessCreditData) (s : State) (xs : List Turn) :
    Run Step s (s.turns unset xs).1 (s.turns unset xs).2 := by
  induction xs generalizing s with
  | nil => exact .start
  | cons x xs ih =>
    unfold State.turns
    split
    · next e t h => exact (ih t).cons (turn_step h)
    · exact ih s

/-- The process has ended, or waits for an answer that is not there. -/
def Client.rests (c : Client) : Bool :=
  match c.place, c.readPath with
  | .exited, _ | .calling _ .read, [] => true
  | _, _ => false

/-- The listener waits for a message. -/
def Listener.rests (l : Listener) : Bool :=
  match l.next, l.fifo with
  | .read, [] => true
  | _, _ => false

/-- Where the processes of the node rest, and the listeners do, nothing can move. What is to be
checked of a concrete state is so finite, though there are listeners and processes beyond all
bounds. -/
theorem Within.stuck {pids : Finset Nat} {s t : State} {e : Mover} (hs : Within pids s)
    (hclients : ∀ pid ∈ pids, (s.client pid).rests = true)
    (hlisteners : ∀ g < numGpus, (s.listener g).rests = true) : ¬ Step s e t := by
  have hrests : ∀ {pid}, (s.client pid).place ≠ .exited → (s.client pid).rests = true :=
    fun hplace => hclients _ (hs.mem rfl hplace)
  have hlistener : ∀ {g}, s.listener g ≠ ⟨.read, []⟩ → (s.listener g).rests = true :=
    fun hl => hlisteners _ (hs.listens hl)
  intro h
  cases h with
  | loop h | receive h | p h | write h | v h =>
    have hrest := hrests (by rw [h]; exact Place.noConfusion)
    simp [Client.rests, h] at hrest
  | readAnswer h hcall hread =>
    have hrest := hrests (by rw [h]; exact Place.noConfusion)
    simp [Client.rests, h, hread] at hrest
  | @read g pcd fifo d next hlisten hfifo htake =>
    have hrest := @hlistener g (by intro hl; rw [hl] at hfifo; cases hfifo)
    simp [Listener.rests, hlisten, hfifo] at hrest
  | @register g pcd next hlisten =>
    have hrest := @hlistener g (by intro hl; rw [hl] at hlisten; cases hlisten)
    simp [Listener.rests, hlisten] at hrest
  | @reply g pid answer hlisten =>
    have hrest := @hlistener g (by intro hl; rw [hl] at hlisten; cases hlisten)
    simp [Listener.rests, hlisten] at hrest

/-! ## Three clients -/

/-- Two clients set their device and make another request; the third asks for a GPU that has no
listener. -/
def threeClients (pid : Nat) : List Request :=
  match pid with
  | 7 => [.setDevice 0 false ⟨0, 5⟩, .other ⟨0, 5⟩]
  | 8 => [.setDevice 1 true ⟨0, 9⟩, .other ⟨0, 9⟩]
  | _ => [.setDevice 2 false ⟨0, 1⟩]

/-- What a process has written, and which. -/
def Mover.sent : Mover → Option (Nat × Nat)
  | .writer pid pcd => some (pid, pcd.action)
  | .process _ | .listener _ => none

/-- Everybody takes turns. -/
def takingTurns (rounds : Nat) : List Turn :=
  (List.replicate rounds [Turn.process 7, .process 8, .process 9, .listener 0, .listener 1]).flatten

/-- What the stack holds. -/
def stack : ProcessCreditData := lasRemQueue 0 (fsAddQueue 0 0 0 0 ⟨0, 0⟩)

/-- The node after sixty rounds, with the steps that have led there. -/
def sixtyRounds : List Mover × State :=
  (start {7, 8, 9} threeClients).turns stack (takingTurns 60)

/-- Each of the first two registers, asks, notifies, asks again and removes itself. The third writes
its registration to nobody, and waits for ever; the node comes to rest all the same. -/
theorem node_settles_threeClients :
    ∃ es s, Run Step (start {7, 8, 9} threeClients) es s ∧
      es.filterMap Mover.sent = [(7, addQ), (8, addQ), (9, addQ), (7, getPriority),
        (8, getPriority), (7, notifySched), (8, notifySched), (7, getPriority), (8, getPriority),
        (7, remQ), (8, remQ)] ∧
      es.length ≤ (start {7, 8, 9} threeClients).weight {7, 8, 9} ∧
      (∀ e t, ¬ Step s e t) ∧ Settled {7, 8, 9} threeClients s ∧
      (s.client 7).place = .exited ∧ (s.client 8).place = .exited ∧ s.Refused 9 := by
  have h0 : invalidProceess ∉ ({7, 8, 9} : Finset Nat) := by decide
  have r : Run Step (start {7, 8, 9} threeClients) sixtyRounds.1 sixtyRounds.2 := turns_run ..
  obtain ⟨hlen, -, hsettled⟩ := node_settles {7, 8, 9} threeClients h0 r
  have hwithin : Within {7, 8, 9} sixtyRounds.2 :=
    r.invariant (start_works h0).within fun hs h => h.within hs
  have hclients : ∀ pid ∈ ({7, 8, 9} : Finset Nat), (sixtyRounds.2.client pid).rests = true := by
    decide +kernel
  have hlisteners : ∀ g < numGpus, (sixtyRounds.2.listener g).rests = true := by decide +kernel
  have hstuck : ∀ e t, ¬ Step sixtyRounds.2 e t := fun e t => hwithin.stuck hclients hlisteners
  have hrest := hsettled hstuck
  have hwaits : (sixtyRounds.2.client 9).place.adds = true := by decide +kernel
  refine ⟨_, _, r, by decide +kernel, hlen, hstuck, hrest, ?_, ?_, ?_⟩
  · exact hrest.once 7 (by decide) (.inr ⟨0, by decide, rfl⟩)
  · exact hrest.once 8 (by decide) (.inr ⟨1, by decide, rfl⟩)
  · refine (hrest.clients 9).resolve_left fun hexited => ?_
    rw [hexited] at hwaits
    cases hwaits

end GpuVirtmem.Sched.LasNode
