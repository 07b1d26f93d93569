import GpuVirtmem.Sched.Stages

/-!
# Who can register

At most one process is between its P and its V. Every run of the registration can be completed, to
the end of every process, exactly when each process sets its device at most once, to a GPU that has
a listener: a process that does so twice can be left waiting for an answer for ever, and keeps the
semaphore that all the others wait for.

For the one direction the ways of the processes (`Stages`) are put together: in every state in which
not everything is done, someone can move (`Proceeds.moves`), and since no run goes on for ever, it
ends where all is done. For the other a trap is built: a process runs by itself up to the `open`
that nobody answers. Once it is there, it stays there with the semaphore in its hand, whatever the
others do (`LeftWaiting`).
-/

namespace GpuVirtmem.Sched.Registering

open Lib

section

variable {s t : State} {e : Mover} {pid g : Nat} {c : Client} {h : Handling} {pids : Finset Nat}
  {requests : Nat → List Nat} {v v' : Part} {pcd : ProcessCreditData}

/-! ## What every run keeps -/

/-- A process that has come to its end has no further step. -/
theorem PartStep.exited (h : PartStep pid v v') (hplace : v.client.place = .exited) :
    v'.client.place = .exited := by
  cases h with
  | writeSignum | taken | dropped | readErr | register | relisted => exact hplace
  | _ => simp_all

/-- So it is with the process in the node: one that has exited stays there. -/
theorem Step.exited (h : Step s e t) (hplace : (s.client pid).place = .exited) :
    (t.client pid).place = .exited := by
  rcases h.partsMove pid with hsame | hpart
  · have hclient : t.client pid = s.client pid := congrArg Part.client hsame
    rw [hclient, hplace]
  · exact hpart.exited hplace

section

variable {listener : Nat → Listener} {l : Listener}

/-- One listener goes on, for a process of the node and with messages of such. -/
theorem Listening.update (h : Listening pids listener) (hg : g < numGpus)
    (hhandled : ∀ m, l.next.pcd = some m → m.pid ∈ pids) (hsent : ∀ m ∈ l.fifo, m.pid ∈ pids) :
    Listening pids (Function.update listener g l) where
  idle gpuid hidle := by
    have hne : gpuid ≠ g := fun heq => hidle (heq ▸ hg)
    rw [Function.update_of_ne hne]
    exact h.idle gpuid hidle
  handled gpuid m hm := by
    by_cases heq : gpuid = g
    · subst heq
      rw [Function.update_self] at hm
      exact hhandled m hm
    · rw [Function.update_of_ne heq] at hm
      exact h.handled gpuid m hm
  sent gpuid := by
    by_cases heq : gpuid = g
    · subst heq
      rw [Function.update_self]
      exact hsent
    · rw [Function.update_of_ne heq]
      exact h.sent gpuid

end

/-- A listener goes on with its message, or is done with it. -/
theorem Within.goOn (hs : Within pids s) {before next : Handling}
    (hbefore : (s.listener g).next = before) (hpcd : before.pcd = some pcd)
    (hnext : next.pcd = some pcd ∨ next = .read) (c : Nat → Client) :
    Listening pids (State.goOn { s with client := c } g next).listener := by
  have hg : g < numGpus := hs.handles hbefore (by rintro rfl; cases hpcd)
  refine hs.listening.update hg ?_ (hs.listening.sent g)
  intro m hm
  rcases hnext with hnext | rfl
  · rw [hnext] at hm
    cases hm
    exact hs.listening.handled g pcd (hbefore ▸ hpcd)
  · cases hm

/-- A process of the node sends a message. -/
theorem Within.send (hs : Within pids s) (hpid : pcd.pid ∈ pids) (c : Nat → Client) :
    Listening pids (State.send { s with client := c } g pcd).listener := by
  unfold State.send
  split
  · next hg =>
    refine hs.listening.update hg (hs.listening.handled g) ?_
    intro m hm
    rcases List.mem_append.mp hm with hm | hm
    · exact hs.listening.sent g m hm
    · rw [List.mem_singleton.mp hm]
      exact hpid
  · exact hs.listening

/-- A listener that has taken a message works on it, or is done. -/
theorem take_pcd {d : SchedulerData} :
    (take g d pcd).2.pcd = some pcd ∨ (take g d pcd).2 = .read := by
  unfold take
  split
  · exact .inl rfl
  · split
    · exact .inr rfl
    · exact .inr rfl

/-- No step brings in a process that is not of the node, or a listener. -/
theorem Step.within (h : Step s e t) (hs : Within pids s) : Within pids t := by
  refine ⟨fun pid hpid => h.exited (hs.clients pid hpid), ?_⟩
  cases h with
  | setDevice | addP | readSignum | writeErr | addV | exit | remP | remV => exact hs.listening
  | addWrite h => exact hs.send (hs.mem h Place.noConfusion) _
  | remWrite h => exact hs.send (hs.mem h Place.noConfusion) _
  | openRead h hlisten hpid => exact hs.goOn hlisten rfl (.inl rfl) _
  | writeSignum hlisten => exact hs.goOn hlisten rfl (.inl rfl) _
  | openWrite h hlisten hpid => exact hs.goOn hlisten rfl (.inl rfl) _
  | readErr hlisten hread => exact hs.goOn hlisten rfl answered_pcd _
  | register hlisten => exact hs.goOn hlisten rfl (.inr rfl) _
  | @read g pcd fifo hlisten hfifo =>
    have hg : g < numGpus := hs.listens fun hl => by rw [hl] at hfifo; cases hfifo
    refine hs.listening.update hg ?_ ?_
    · intro m hm
      rcases @take_pcd g pcd s.data with htake | htake
      · rw [htake] at hm
        cases hm
        exact hs.listening.sent g pcd (hfifo ▸ .head fifo)
      · rw [htake] at hm
        cases hm
    · intro m hm
      exact hs.listening.sent g m (hfifo ▸ .tail pcd hm)

/-- The semaphore is free, or one process is between its P and its V. -/
def Held (s : State) : Prop :=
  ∃ holder : Option Nat, s.semFree = holder.isNone ∧
    ∀ pid, (s.client pid).place.inside ↔ holder = some pid

/-- A step of a process that stays within its section, or outside, leaves the semaphore as it is. -/
theorem Held.setClient (hs : Held s)
    (hc : c.place.inside ↔ (s.client pid).place.inside) : Held (s.setClient pid c) := by
  obtain ⟨holder, hsem, hinside⟩ := hs
  refine ⟨holder, hsem, fun q => ?_⟩
  by_cases hq : q = pid
  · rw [hq, State.setClient_self, hc, hinside]
  · rw [State.setClient_of_ne hq, hinside]

/-- P: the process was outside, and the semaphore was free. -/
theorem Held.enter (hs : Held s) (hfree : s.semFree = true) (hc : c.place.inside) :
    Held ((s.setClient pid c).setSem false) := by
  obtain ⟨holder, hsem, hinside⟩ := hs
  have hnone : holder = none := Option.isNone_iff_eq_none.mp (hsem.symm.trans hfree)
  refine ⟨some pid, rfl, fun q => ?_⟩
  show ((s.setClient pid c).client q).place.inside ↔ _
  by_cases hq : q = pid
  · rw [hq, State.setClient_self]
    exact iff_of_true hc rfl
  · rw [State.setClient_of_ne hq, hinside, hnone]
    exact iff_of_false (Option.some_ne_none q).symm fun heq => hq (Option.some.inj heq).symm

/-- V, from the section. -/
theorem Held.leave (hs : Held s) (hin : (s.client pid).place.inside) (hc : ¬ c.place.inside) :
    Held ((s.setClient pid c).setSem true) := by
  obtain ⟨holder, hsem, hinside⟩ := hs
  have hholder := (hinside pid).mp hin
  refine ⟨none, rfl, fun q => ?_⟩
  show ((s.setClient pid c).client q).place.inside ↔ _
  by_cases hq : q = pid
  · rw [hq, State.setClient_self]
    exact iff_of_false hc (Option.some_ne_none pid).symm
  · rw [State.setClient_of_ne hq, hinside, hholder]
    exact iff_of_false (fun heq => hq (Option.some.inj heq).symm) (Option.some_ne_none q).symm

/-- A message does not touch the semaphore. -/
theorem Held.send (hs : Held s) : Held (s.send g pcd) := by
  obtain ⟨holder, hsem, hinside⟩ := hs
  refine ⟨holder, ?_, ?_⟩
  · rw [State.send_semFree]
    exact hsem
  · rw [State.send_client]
    exact hinside

/-- Who leaves a connection is outside the section. -/
theorem leaving_not_inside (running : Option Nat) : ¬ (leaving running).inside := by
  unfold leaving
  split
  · split
    · exact id
    · exact id
  · exact id

/-- Every step keeps the semaphore: it is free, or one process is between its P and its V. -/
theorem Step.held (h : Step s e t) (hs : Held s) : Held t := by
  cases h with
  | setDevice h hnext => exact hs.setClient (by rw [h]; exact Iff.rfl)
  | addP h hsem => exact hs.enter hsem trivial
  | addWrite h => exact Held.send (hs.setClient (by rw [h]; exact Iff.rfl))
  | openRead h hlisten hpid => exact hs.setClient (by rw [h]; exact Iff.rfl)
  | writeSignum hlisten => exact hs.setClient Iff.rfl
  | readSignum h hread => exact hs.setClient (by rw [h]; exact Iff.rfl)
  | openWrite h hlisten hpid => exact hs.setClient (by rw [h]; exact Iff.rfl)
  | writeErr h herr => exact hs.setClient (by rw [h]; exact Iff.rfl)
  | addV h => exact hs.leave (by rw [h]; trivial) id
  | exit h hnext =>
    exact hs.setClient (iff_of_false (leaving_not_inside _) (by rw [h]; exact id))
  | remP h hsem => exact hs.enter hsem trivial
  | remWrite h => exact Held.send (hs.setClient (by rw [h]; exact Iff.rfl))
  | remV h => exact hs.leave (by rw [h]; trivial) id
  | read hlisten hfifo => exact hs
  | readErr hlisten hread => exact hs.setClient Iff.rfl
  | register hlisten => exact hs

/-! ## Every run goes on -/

/-- Each process goes the way of a process that sets its device at most once. -/
structure Proceeds (pids : Finset Nat) (s : State) : Prop where
  within : Within pids s
  held : Held s
  stages : ∀ pid ∈ pids, ∃ g, g < numGpus ∧ Stage pid g (s.part pid)

/-- The step lemma for processes that set their device at most once. It is `Stage.step` for the part
of each of them. -/
theorem Proceeds.step (h0 : invalidProceess ∉ pids) (hs : Proceeds pids s) (h : Step s e t) :
    Proceeds pids t where
  within := h.within hs.within
  held := h.held hs.held
  stages pid hpid := by
    obtain ⟨g, hg, hstage⟩ := hs.stages pid hpid
    refine ⟨g, hg, ?_⟩
    rcases h.partsMove pid with hsame | hpart
    · rw [hsame]
      exact hstage
    · exact hstage.step (fun heq => h0 (heq ▸ hpid)) hg hpart

/-- What the part of a process says of the process. -/
theorem client_of_part {hs : Nat → Option Handling} {asked : Nat → List ProcessCreditData}
    {b : Bool} (hpart : s.part pid = ⟨c, hs, asked, b⟩) : s.client pid = c :=
  congrArg Part.client hpart

/-- What it says of a listener that works for it. -/
theorem listener_of_part {asked : Nat → List ProcessCreditData} {b : Bool}
    (hpart : s.part pid = ⟨c, only g h, asked, b⟩) : (s.listener g).next = h := by
  have habout : (s.listener g).next.about pid = some h := by
    have hhandling := congrFun (congrArg Part.handling hpart) g
    exact hhandling.trans (only_eq_some.mpr ⟨rfl, rfl⟩)
  unfold Handling.about at habout
  split at habout
  · exact Option.some.inj habout
  · cases habout

/-- Where a listener works on a message, it goes on or the sender does: the stages of both sides fit
each other, so that whoever waits, waits for one who can move. -/
theorem Proceeds.handling_moves (hs : Proceeds pids s) (hpcd : (s.listener g).next.pcd = some pcd) :
    ∃ e t, Step s e t := by
  obtain ⟨g', -, hstage⟩ := hs.stages _ (hs.within.listening.handled g pcd hpcd)
  have hsome := part_handling rfl hpcd
  generalize hpart : s.part pcd.pid = v at hstage hsome
  cases hstage with
  | serving | waiting | writing | asked | settled => cases hsome
  | taken hown =>
    have hplace := congrArg Client.place (client_of_part hpart)
    exact ⟨_, _, .openRead hplace (listener_of_part hpart) hown⟩
  | opened hown => exact ⟨_, _, .writeSignum (listener_of_part hpart)⟩
  | told hown =>
    have hclient := client_of_part hpart
    exact ⟨_, _, .readSignum (congrArg Client.place hclient) (congrArg Client.readPath hclient)⟩
  | heard hown =>
    have hplace := congrArg Client.place (client_of_part hpart)
    exact ⟨_, _, .openWrite hplace (listener_of_part hpart) hown⟩
  | answering hown =>
    have hplace := congrArg Client.place (client_of_part hpart)
    exact ⟨_, _, .writeErr hplace (.inl rfl)⟩
  | answered hown hc herr =>
    have hread := congrArg Client.writePath (client_of_part hpart)
    rw [← hown] at hread
    exact ⟨_, _, .readErr (listener_of_part hpart) (hread.trans herr)⟩
  | registering hown hc herr => exact ⟨_, _, .register (listener_of_part hpart)⟩

/-- A listener that works for a process is not idle. -/
theorem only_ne_none : only g h ≠ fun _ => none := by
  intro heq
  have hself : only g h g = some h := only_eq_some.mpr ⟨rfl, rfl⟩
  rw [heq] at hself
  cases hself

/-- A FIFO with a message in it is not empty. -/
theorem update_ne_nil :
    Function.update (fun _ => ([] : List ProcessCreditData)) g [pcd] ≠ fun _ => [] := by
  intro heq
  have hself := congrFun heq g
  rw [Function.update_self] at hself
  cases hself

/-- A process that is past its answer goes on, unless the semaphore keeps it. -/
theorem Past.moves (hc : Past g (s.client pid)) (hplace : (s.client pid).place ≠ .exited)
    (hor : s.semFree = true ∨ (s.client pid).place.inside) : ∃ e t, Step s e t := by
  rcases hc.place with hv | hserving | hexited | ⟨gpuid, next, hrem⟩
  · exact ⟨_, _, .addV hv⟩
  · exact ⟨_, _, .exit hserving hc.requests⟩
  · exact absurd hexited hplace
  · cases next with
    | p =>
      rw [hrem] at hor
      exact ⟨_, _, .remP hrem (hor.resolve_right id)⟩
    | write => exact ⟨_, _, @Step.remWrite s pid gpuid (fsAddQueue 0 0 0 0 ⟨0, 0⟩) hrem⟩
    | v => exact ⟨_, _, .remV hrem⟩

/-- Where no listener has anything to do, a process that the semaphore does not keep goes on. -/
theorem Proceeds.client_moves (hs : Proceeds pids s) (hidle : ∀ g, s.listener g = ⟨.read, []⟩)
    (hplace : (s.client pid).place ≠ .exited)
    (hor : s.semFree = true ∨ (s.client pid).place.inside) : ∃ e t, Step s e t := by
  obtain ⟨g', -, hstage⟩ := hs.stages pid (hs.within.mem rfl hplace)
  have hhandling : (s.part pid).handling = fun _ => none := by
    funext g
    show (s.listener g).next.about pid = none
    rw [hidle g]
    rfl
  have hasked : (s.part pid).asked = fun _ => [] := by
    funext g
    show asks pid (s.listener g).fifo = []
    rw [hidle g]
    rfl
  generalize hpart : s.part pid = v at hstage hhandling hasked
  have hclient := congrArg Part.client hpart
  change s.client pid = v.client at hclient
  cases hstage with
  | serving =>
    exact ⟨_, _, .setDevice (congrArg Client.place hclient) (congrArg Client.requests hclient)⟩
  | waiting =>
    rw [hclient] at hor
    exact ⟨_, _, .addP (congrArg Client.place hclient) (hor.resolve_right id)⟩
  | writing =>
    have hwrite := congrArg Client.place hclient
    exact ⟨_, _, @Step.addWrite s pid g' 0 ⟨0, 0⟩ hwrite⟩
  | asked => exact absurd hasked update_ne_nil
  | settled hc herr =>
    have hpast : Past g' (s.client pid) := hclient ▸ hc
    exact hpast.moves hplace hor
  | taken | opened | told | heard | answering | answered | registering =>
    exact absurd hhandling only_ne_none

/-- Something moves until everything is done. If a listener works, it or its process moves; if none
does and the semaphore is taken, the process inside moves; and otherwise any process that is left
does. -/
theorem Proceeds.moves (hs : Proceeds pids s) : Finished s ∨ ∃ e t, Step s e t := by
  by_cases hpcd : ∃ g pcd, (s.listener g).next.pcd = some pcd
  · obtain ⟨g, pcd, hpcd⟩ := hpcd
    exact .inr (hs.handling_moves hpcd)
  have hread : ∀ g, (s.listener g).next = .read := by
    intro g
    cases hnext : (s.listener g).next with
    | read => rfl
    | _ => exact absurd ⟨g, _, congrArg Handling.pcd hnext⟩ hpcd
  by_cases hfifo : ∃ g pcd fifo, (s.listener g).fifo = pcd :: fifo
  · obtain ⟨g, pcd, fifo, hfifo⟩ := hfifo
    exact .inr ⟨_, _, .read (hread g) hfifo⟩
  have hidle : ∀ g, s.listener g = ⟨.read, []⟩ := by
    intro g
    have hnil : (s.listener g).fifo = [] := by
      cases hf : (s.listener g).fifo with
      | nil => rfl
      | cons pcd fifo => exact absurd ⟨g, pcd, fifo, hf⟩ hfifo
    rw [← hread g, ← hnil]
  obtain ⟨holder, hsem, hinside⟩ := hs.held
  cases holder with
  | some pid =>
    have hin := (hinside pid).mpr rfl
    refine .inr (hs.client_moves hidle ?_ (.inr hin))
    intro hexited
    rw [hexited] at hin
    exact hin
  | none =>
    by_cases hall : ∀ pid, (s.client pid).place = .exited
    · exact .inl ⟨hsem, hall, hidle⟩
    · obtain ⟨pid, hpid⟩ := not_forall.mp hall
      exact .inr (hs.client_moves hidle hpid (.inl hsem))

/-! ## Who can register -/

/-- Each process sets its device at most once, to a GPU that has a listener. -/
def AtMostOnce (pids : Finset Nat) (requests : Nat → List Nat) : Prop :=
  ∀ pid ∈ pids, requests pid = [] ∨ ∃ g, g < numGpus ∧ requests pid = [g]

/-- At the start nobody else is at work. -/
theorem start_within : Within pids (start pids requests) where
  clients pid hpid := by
    show (if pid ∈ pids then _ else _ : Client).place = _
    rw [if_neg hpid]
  listening := ⟨fun _ _ => rfl, fun _ _ h => (by cases h), fun _ _ h => (by cases h)⟩

/-- At the start nobody is inside. -/
theorem start_place : ¬ ((start pids requests).client pid).place.inside := by
  show ¬ (if pid ∈ pids then _ else _ : Client).place.inside
  split
  · exact id
  · exact id

/-- And the semaphore is free. -/
theorem start_held : Held (start pids requests) :=
  ⟨none, rfl, fun pid => iff_of_false start_place (Option.some_ne_none pid).symm⟩

/-- The part of a process at the start. -/
theorem start_part (hpid : pid ∈ pids) (h0 : pid ≠ invalidProceess) :
    (start pids requests).part pid =
      ⟨⟨.serving, requests pid, none, none, [], []⟩, fun _ => none, fun _ => [], false⟩ := by
  have hlisted : listed fsStartScheduler pid = false := by
    apply Bool.eq_false_iff.mpr
    intro hlisted
    obtain ⟨i, hi⟩ := listed_iff.mp hlisted
    exact h0 hi.symm
  have hclient : (start pids requests).client pid =
      ⟨.serving, requests pid, none, none, [], []⟩ := if_pos hpid
  ext1
  · exact hclient
  · rfl
  · rfl
  · exact hlisted

/-- A process that sets its device at most once begins its way. -/
theorem start_proceeds (h0 : invalidProceess ∉ pids) (honce : AtMostOnce pids requests) :
    Proceeds pids (start pids requests) where
  within := start_within
  held := start_held
  stages pid hpid := by
    have hne : pid ≠ invalidProceess := fun heq => h0 (heq ▸ hpid)
    rw [start_part hpid hne]
    rcases honce pid hpid with hnone | ⟨g, hg, hone⟩
    · refine ⟨0, by decide, ?_⟩
      rw [hnone]
      exact .settled ⟨rfl, .inr (.inl rfl), fun _ h => (by cases h), rfl⟩ rfl
    · refine ⟨g, hg, ?_⟩
      rw [hone]
      exact .serving

/-- Every run of such processes can be completed: something moves until all is done, and no run goes
on for ever. -/
theorem completes_of_atMostOnce (h0 : invalidProceess ∉ pids) (honce : AtMostOnce pids requests) :
    Completes Step Finished (start pids requests) :=
  completes_of_moves (start_proceeds h0 honce) (fun hs h => hs.step h0 h)
    (fun hs h => h.weight_lt hs.within) fun hs => hs.moves

/-! ## Who waits for ever -/

/-- The process waits for the listener to open its FIFO, and no listener is going to. -/
def Trapped (pid : Nat) (s : State) : Prop :=
  (∃ gpuid, (s.client pid).place = .adding gpuid .openRead) ∧
    (s.part pid).handling = (fun _ => none) ∧ (s.part pid).asked = fun _ => []

/-- There is no step of its part: the listener whose `open` it waits for is not working for it, and
nothing of it is on the way to one. -/
theorem Trapped.step (ht : Trapped pid s) (h : Step s e t) : Trapped pid t := by
  obtain ⟨⟨gpuid, hplace⟩, hhandling, hasked⟩ := ht
  rcases h.partsMove pid with hsame | hpart
  · have hclient : t.client pid = s.client pid := congrArg Part.client hsame
    refine ⟨⟨gpuid, hclient ▸ hplace⟩, ?_, ?_⟩
    · rw [hsame, hhandling]
    · rw [hsame, hasked]
  · change (s.part pid).client.place = .adding gpuid .openRead at hplace
    show (∃ gpuid, (t.part pid).client.place = .adding gpuid .openRead) ∧ _
    generalize s.part pid = v at hpart hplace hhandling hasked
    generalize t.part pid = v' at hpart
    cases hpart with
    | relisted hb => exact ⟨⟨gpuid, hplace⟩, hhandling, hasked⟩
    | _ => simp_all

/-- A process that is trapped has not come to its end. -/
theorem Trapped.not_finished (ht : Trapped pid s) : ¬ Finished s := by
  intro hdone
  obtain ⟨⟨gpuid, hplace⟩, -⟩ := ht
  cases hplace.symm.trans (hdone.clients pid)

/-- From here on, whatever the others do, the process waits for the listener to open its FIFO, the
semaphore is taken, and no other process gets past its P. -/
def LeftWaiting (pid : Nat) (s : State) : Prop :=
  ∀ fs t, Run Step s fs t → (∃ gpuid, (t.client pid).place = .adding gpuid .openRead) ∧
    t.semFree = false ∧ ∀ q, (t.client q).place.inside → q = pid

/-- A process that is trapped is left waiting, since it is between its P and its V. The semaphore
stays taken, and so does everyone who comes to a P. -/
theorem Trapped.leftWaiting (ht : Trapped pid s) (hs : Held s) : LeftWaiting pid s := by
  intro fs t r
  obtain ⟨⟨gpuid, hplace⟩, -⟩ := r.invariant ht fun ht h => ht.step h
  obtain ⟨holder, hsem, hinside⟩ := r.invariant hs fun hs h => h.held hs
  have hholder : holder = some pid := (hinside pid).mp (by rw [hplace]; trivial)
  refine ⟨⟨gpuid, hplace⟩, by rw [hsem, hholder]; rfl, fun q hq => ?_⟩
  exact Option.some.inj (((hinside q).mp hq).symm.trans hholder)

/-- One process and one listener, with everything else as it is. -/
def State.alone (s : State) (pid g : Nat) (c : Client) (l : Listener) (d : SchedulerData)
    (free : Bool) : State :=
  { data := d, semFree := free, client := Function.update s.client pid c
    listener := Function.update s.listener g l }

section

variable {c' : Client} {l l' : Listener} {d d' : SchedulerData} {free free' : Bool}

/-- The node with one process and one listener to be looked at: what is written to either is seen,
and the rest is as it was. -/
theorem alone_setClient :
    (s.alone pid g c l d free).setClient pid c' = s.alone pid g c' l d free := by
  unfold State.alone State.setClient
  rw [Function.update_idem]

/-- The same for the listener. -/
theorem alone_setListener :
    (s.alone pid g c l d free).setListener g l' = s.alone pid g c l' d free := by
  unfold State.alone State.setListener
  rw [Function.update_idem]

/-- The process that is looked at. -/
@[simp] theorem alone_client : (s.alone pid g c l d free).client pid = c := Function.update_self ..

/-- The listener that is looked at. -/
@[simp] theorem alone_listener : (s.alone pid g c l d free).listener g = l :=
  Function.update_self ..

/-- A node in which the two are as they are said to be. -/
theorem alone_of (hclient : s.client pid = c) (hlistener : s.listener g = l) :
    s.alone pid g c l s.data s.semFree = s := by
  unfold State.alone
  rw [← hclient, ← hlistener, Function.update_eq_self, Function.update_eq_self]

end

section

variable (s : State) (pid g : Nat) (rest : List Nat) (running : Option Nat) (signo : Option Int32)
  (d : SchedulerData)

/-- A process whose turn it is asks to be added. -/
theorem asks_alone : ∃ es pcd, pcd.pid = pid ∧ pcd.action = addQ ∧
    Run Step (s.alone pid g ⟨.serving, g :: rest, running, signo, [], []⟩ ⟨.read, []⟩ d true) es
      (s.alone pid g ⟨.adding g .openRead, rest, running, signo, [], []⟩
        (if g < numGpus then ⟨.read, [pcd]⟩ else ⟨.read, []⟩) d false) := by
  refine ⟨[.process pid, .process pid, .process pid], fsAddQueue pid g appTypeA 0 ⟨0, 0⟩, rfl,
    rfl, ?_⟩
  have h₁ := @Step.setDevice
    (s.alone pid g ⟨.serving, g :: rest, running, signo, [], []⟩ ⟨.read, []⟩ d true) pid g rest
    (by rw [alone_client]) (by rw [alone_client])
  rw [alone_setClient, alone_client] at h₁
  have h₂ := @Step.addP
    (s.alone pid g ⟨.adding g .p, rest, running, signo, [], []⟩ ⟨.read, []⟩ d true) pid g
    (by rw [alone_client]) rfl
  rw [State.goTo, alone_setClient, alone_client] at h₂
  have h₃ := @Step.addWrite
    (s.alone pid g ⟨.adding g .write, rest, running, signo, [], []⟩ ⟨.read, []⟩ d false) pid g
    0 ⟨0, 0⟩ (by rw [alone_client])
  rw [State.goTo, alone_setClient, alone_client, State.send, alone_listener, alone_setListener]
    at h₃
  refine .cons h₁ (.cons h₂ (.cons ?_ .start))
  split at h₃
  · next hg =>
    rw [if_pos hg]
    exact h₃
  · next hg =>
    rw [if_neg hg]
    exact h₃

/-- A process that has asked, and has no slot, is registered. -/
theorem answered_alone (haction : pcd.action = addQ) (hnew : listed d pcd.pid = false) : ∃ es,
    Run Step (s.alone pcd.pid g ⟨.adding g .openRead, rest, running, signo, [], []⟩ ⟨.read, [pcd]⟩ d
      false) es
      (s.alone pcd.pid g ⟨.serving, rest, some g, some sigsched, [], []⟩ ⟨.read, []⟩
        (registered d pcd) true) := by
  have htake : take g d pcd = (d, .openResp pcd) := if_pos ⟨haction, hnew⟩
  have h₁ := @Step.read
    (s.alone pcd.pid g ⟨.adding g .openRead, rest, running, signo, [], []⟩ ⟨.read, [pcd]⟩ d false)
    g pcd [] (by rw [alone_listener]) (by rw [alone_listener])
  rw [show (State.alone _ _ _ _ _ d _).data = d from rfl, htake, alone_setListener] at h₁
  have h₂ := @Step.openRead
    (s.alone pcd.pid g ⟨.adding g .openRead, rest, running, signo, [], []⟩ ⟨.openResp pcd, []⟩ d
      false) pcd.pid g g pcd (by rw [alone_client]) (by rw [alone_listener]) rfl
  rw [State.goTo, State.goOn, alone_setClient, alone_client, alone_listener,
    alone_setListener] at h₂
  have h₃ := @Step.writeSignum
    (s.alone pcd.pid g ⟨.adding g .readSignum, rest, running, signo, [], []⟩
      ⟨.writeSignum pcd, []⟩ d false) g pcd (by rw [alone_listener])
  rw [State.goOn, alone_setClient, alone_client, alone_listener, alone_setListener] at h₃
  have h₄ := @Step.readSignum
    (s.alone pcd.pid g ⟨.adding g .readSignum, rest, running, signo, [sigsched], []⟩
      ⟨.openReq pcd, []⟩ d false) pcd.pid g sigsched [] (by rw [alone_client])
    (by rw [alone_client])
  rw [alone_setClient, alone_client] at h₄
  have h₅ := @Step.openWrite
    (s.alone pcd.pid g ⟨.adding g .openWrite, rest, running, some sigsched, [], []⟩
      ⟨.openReq pcd, []⟩ d false) pcd.pid g g pcd (by rw [alone_client])
    (by rw [alone_listener]) rfl
  rw [State.goTo, State.goOn, alone_setClient, alone_client, alone_listener,
    alone_setListener] at h₅
  have h₆ := @Step.writeErr
    (s.alone pcd.pid g ⟨.adding g .writeErr, rest, running, some sigsched, [], []⟩
      ⟨.readErr pcd, []⟩ d false) pcd.pid g 0 (by rw [alone_client]) (.inl rfl)
  rw [alone_setClient, alone_client] at h₆
  have h₇ := @Step.readErr
    (s.alone pcd.pid g ⟨.adding g .v, rest, running, some sigsched, [], [0]⟩
      ⟨.readErr pcd, []⟩ d false) g pcd 0 [] (by rw [alone_listener]) (by rw [alone_client])
  rw [State.goOn, alone_setClient, alone_client, alone_listener, alone_setListener] at h₇
  have h₈ := @Step.register
    (s.alone pcd.pid g ⟨.adding g .v, rest, running, some sigsched, [], []⟩
      ⟨.register pcd, []⟩ d false) g pcd (by rw [alone_listener])
  rw [State.goOn, alone_listener, alone_setListener] at h₈
  have h₉ := @Step.addV
    (s.alone pcd.pid g ⟨.adding g .v, rest, running, some sigsched, [], []⟩
      ⟨.read, []⟩ (registered d pcd) false) pcd.pid g (by rw [alone_client])
  rw [alone_setClient, alone_client] at h₉
  exact ⟨_, .cons h₁ (.cons h₂ (.cons h₃ (.cons h₄ (.cons h₅ (.cons h₆ (.cons h₇ (.cons h₈
    (.cons h₉ .start))))))))⟩

/-- A process that waits for a listener that waits for messages is trapped. -/
theorem trapped_alone (hidle : ∀ g, s.listener g = ⟨.read, []⟩) :
    Trapped pid (s.alone pid g ⟨.adding g .openRead, rest, running, signo, [], []⟩ ⟨.read, []⟩ d
      false) := by
  have hlistener : (s.alone pid g ⟨.adding g .openRead, rest, running, signo, [], []⟩ ⟨.read, []⟩ d
      false).listener = s.listener := by
    rw [← hidle g]
    exact Function.update_eq_self ..
  refine ⟨⟨g, by rw [alone_client]⟩, ?_, ?_⟩
  · simp only [State.part, hlistener, hidle, read_about]
  · simp only [State.part, hlistener, hidle]
    rfl

end

variable {rest : List Nat} {running : Option Nat} {signo : Option Int32}

/-- A process is trapped where it asks a listener that is not there, or to be added again. The first
write goes nowhere, and the second one is taken and not answered. -/
theorem trap_of_bad (hidle : ∀ g, s.listener g = ⟨.read, []⟩) (hsem : s.semFree = true)
    (hclient : s.client pid = ⟨.serving, g :: rest, running, signo, [], []⟩)
    (hbad : g < numGpus → listed s.data pid = true) : ∃ es t, Run Step s es t ∧ Trapped pid t := by
  obtain ⟨es, pcd, rfl, haction, r⟩ := asks_alone s pid g rest running signo s.data
  rw [← hsem, alone_of hclient (hidle g)] at r
  by_cases hg : g < numGpus
  · rw [if_pos hg] at r
    have hadded : alreadyAdded s.data pcd = true := hbad hg
    have htake : take g s.data pcd = (s.data, .read) := by
      unfold take
      rw [if_neg fun h => Bool.noConfusion (hadded.symm.trans h.2),
        if_neg (haction ▸ (by decide : addQ ≠ remQ))]
    have hread := @Step.read
      (s.alone pcd.pid g ⟨.adding g .openRead, rest, running, signo, [], []⟩ ⟨.read, [pcd]⟩ s.data
        false) g pcd [] (by rw [alone_listener]) (by rw [alone_listener])
    rw [show (State.alone _ _ _ _ _ s.data _).data = s.data from rfl, htake, alone_setListener]
      at hread
    exact ⟨_, _, r.snoc hread, trapped_alone s pcd.pid g rest running signo s.data hidle⟩
  · rw [if_neg hg] at r
    exact ⟨_, _, r, trapped_alone s pcd.pid g rest running signo s.data hidle⟩

/-- A process whose turn it is registers. -/
theorem registers_alone (hidle : ∀ g, s.listener g = ⟨.read, []⟩) (hsem : s.semFree = true)
    (hclient : s.client pid = ⟨.serving, g :: rest, running, signo, [], []⟩) (hg : g < numGpus)
    (hnew : listed s.data pid = false) : ∃ es t, Run Step s es t ∧
      (∀ g, t.listener g = ⟨.read, []⟩) ∧ t.semFree = true ∧
      t.client pid = ⟨.serving, rest, some g, some sigsched, [], []⟩ ∧
      listed t.data pid = true := by
  obtain ⟨es, pcd, rfl, haction, r⟩ := asks_alone s pid g rest running signo s.data
  rw [← hsem, alone_of hclient (hidle g), if_pos hg] at r
  obtain ⟨fs, r'⟩ := answered_alone s g rest running signo s.data haction hnew
  refine ⟨_, _, r.append r', fun g' => ?_, rfl, alone_client, registered_listed⟩
  show Function.update s.listener g _ g' = _
  rw [← hidle g, Function.update_eq_self]
  exact (hidle g').trans (hidle g).symm

/-- A process that sets its device twice, or to a GPU that has no listener, can be trapped. It comes
there on its own, with all others standing still, so that no help or harm of theirs is needed. -/
theorem trap_of_not_once (hpid : pid ∈ pids) (h0 : pid ≠ invalidProceess)
    (hnone : requests pid ≠ []) (hmore : ∀ g, g < numGpus → requests pid ≠ [g]) :
    ∃ es t, Run Step (start pids requests) es t ∧ Trapped pid t := by
  obtain ⟨g, rest, hrequests⟩ := List.exists_cons_of_ne_nil hnone
  have hpart : (start pids requests).part pid = _ := start_part hpid h0
  rw [hrequests] at hpart
  have hclient := client_of_part hpart
  have hidle : ∀ g, (start pids requests).listener g = ⟨.read, []⟩ := fun _ => rfl
  by_cases hg : g < numGpus
  · obtain ⟨g₂, rest₂, rfl⟩ := List.exists_cons_of_ne_nil fun hrest =>
      hmore g hg (hrest ▸ hrequests)
    have hnew := congrArg Part.listed hpart
    obtain ⟨es, t, r, hidle', hsem, hclient', hlisted⟩ :=
      registers_alone hidle rfl hclient hg hnew
    obtain ⟨fs, u, r', htrap⟩ := trap_of_bad hidle' hsem hclient' fun _ => hlisted
    exact ⟨_, _, r.append r', htrap⟩
  · exact trap_of_bad hidle rfl hclient fun h => absurd h hg

end

/-- At most one process is between its P and its V, no run goes on for ever, and every run can be
completed exactly when each process sets its device at most once, to a GPU that has a listener. A
process that does otherwise can be left waiting for ever, with the semaphore that all the others
wait for. -/
theorem registration_completes_iff (pids : Finset Nat) (requests : Nat → List Nat)
    (h0 : invalidProceess ∉ pids) :
    (∀ es s, Run Step (start pids requests) es s →
      es.length ≤ (start pids requests).weight pids ∧
      ∀ p q, (s.client p).place.inside → (s.client q).place.inside → p = q) ∧
    (Completes Step Finished (start pids requests) ↔ AtMostOnce pids requests) ∧
    ∀ pid ∈ pids, requests pid ≠ [] → (∀ g, g < numGpus → requests pid ≠ [g]) →
      ∃ es s, Run Step (start pids requests) es s ∧ LeftWaiting pid s := by
  have htraps : ∀ pid ∈ pids, requests pid ≠ [] → (∀ g, g < numGpus → requests pid ≠ [g]) →
      ∃ es s, Run Step (start pids requests) es s ∧ Trapped pid s := by
    intro pid hpid hnone hmore
    exact trap_of_not_once hpid (fun heq => h0 (heq ▸ hpid)) hnone hmore
  refine ⟨fun es s r => ⟨?_, fun p q hp hq => ?_⟩,
    ⟨fun hcompletes pid hpid => ?_, completes_of_atMostOnce h0⟩, fun pid hpid hnone hmore => ?_⟩
  · have hlen := r.length_le start_within (fun hs h => h.within hs) fun hs h => h.weight_lt hs
    omega
  · obtain ⟨holder, -, hinside⟩ := r.invariant start_held fun hs h => h.held hs
    exact Option.some.inj (((hinside p).mp hp).symm.trans ((hinside q).mp hq))
  · by_contra hbad
    obtain ⟨hnone, hmore⟩ := not_or.mp hbad
    obtain ⟨es, t, r, htrap⟩ := htraps pid hpid hnone fun g hg heq => hmore ⟨g, hg, heq⟩
    exact not_completes_of_trap r htrap (fun ht h => ht.step h) (fun ht => ht.not_finished)
      hcompletes
  · obtain ⟨es, t, r, htrap⟩ := htraps pid hpid hnone hmore
    exact ⟨es, t, r, htrap.leftWaiting (r.invariant start_held fun hs h => h.held hs)⟩

/-- Two processes that set their device once. -/
theorem atMostOnce_single : AtMostOnce {7, 8} fun _ => [0] :=
  fun _ _ => .inr ⟨0, by decide, rfl⟩

/-- Two that set it twice. -/
theorem not_atMostOnce_pair : ¬ AtMostOnce {7, 8} fun _ => [0, 1] := by
  intro honce
  obtain hnone | ⟨g, -, hone⟩ := honce 7 (by decide)
  · cases hnone
  · cases hone

/-- Two processes that set their device once are served; where each sets it twice, the first to come
back can keep the other waiting. -/
theorem registration_completes_iff_pair :
    Completes Step Finished (start {7, 8} fun _ => [0]) ∧
      ¬ Completes Step Finished (start {7, 8} fun _ => [0, 1]) ∧
      ∃ es s, Run Step (start {7, 8} fun _ => [0, 1]) es s ∧ LeftWaiting 7 s := by
  obtain ⟨-, hsingle, -⟩ := registration_completes_iff {7, 8} (fun _ => [0]) (by decide)
  obtain ⟨-, hpair, hleft⟩ := registration_completes_iff {7, 8} (fun _ => [0, 1]) (by decide)
  refine ⟨hsingle.mpr atMostOnce_single, fun h => not_atMostOnce_pair (hpair.mp h), ?_⟩
  refine hleft 7 (by decide) (List.cons_ne_nil 0 [1]) ?_
  intro g _ hone
  cases hone

end GpuVirtmem.Sched.Registering
