import GpuVirtmem.Sched.Part

/-!
# The way of a process that registers once

A process that sets its device once, to a GPU that has a listener, and what the listener does for
it, go through one stage after the other: the process asks, its message is taken, both open the
FIFOs, the number of the signal and the answer are passed, and the process has its slot.

The stages are those of the part of one process (`Part`), so that no other process appears in them.
That the process registers once is what makes a list of stages possible: there is one message of it
at a time, and one listener that works for it. A process that registers twice has two of each, and
`Completion` shows where this leads.
-/

namespace GpuVirtmem.Sched.Registering

open Lib

/-- What is done for one process by the listener of one GPU. -/
def only (g : Nat) (h : Handling) : Nat → Option Handling :=
  Function.update (fun _ => none) g (some h)

/-- A process that has had its answer, or needs none. -/
structure Past (g : Nat) (c : Client) : Prop where
  requests : c.requests = []
  place : c.place = .adding g .v ∨ c.place = .serving ∨ c.place = .exited ∨
    ∃ gpuid next, c.place = .removing gpuid next
  signo : ∀ signum, c.signo = some signum → signum = sigsched
  readPath : c.readPath = []

/-- The parts that a process goes through that sets its device once, to `g`. -/
inductive Stage (pid g : Nat) : Part → Prop
  | serving : Stage pid g ⟨⟨.serving, [g], none, none, [], []⟩, fun _ => none, fun _ => [], false⟩
  | waiting : Stage pid g
      ⟨⟨.adding g .p, [], none, none, [], []⟩, fun _ => none, fun _ => [], false⟩
  | writing : Stage pid g
      ⟨⟨.adding g .write, [], none, none, [], []⟩, fun _ => none, fun _ => [], false⟩
  | asked {pcd : ProcessCreditData} : Stage pid g
      ⟨⟨.adding g .openRead, [], none, none, [], []⟩, fun _ => none,
        Function.update (fun _ => []) g [pcd], false⟩
  | taken {pcd : ProcessCreditData} (hpid : pcd.pid = pid) : Stage pid g
      ⟨⟨.adding g .openRead, [], none, none, [], []⟩, only g (.openResp pcd), fun _ => [], false⟩
  | opened {pcd : ProcessCreditData} (hpid : pcd.pid = pid) : Stage pid g
      ⟨⟨.adding g .readSignum, [], none, none, [], []⟩, only g (.writeSignum pcd), fun _ => [],
        false⟩
  | told {pcd : ProcessCreditData} (hpid : pcd.pid = pid) : Stage pid g
      ⟨⟨.adding g .readSignum, [], none, none, [sigsched], []⟩, only g (.openReq pcd),
        fun _ => [], false⟩
  | heard {pcd : ProcessCreditData} (hpid : pcd.pid = pid) : Stage pid g
      ⟨⟨.adding g .openWrite, [], none, some sigsched, [], []⟩, only g (.openReq pcd),
        fun _ => [], false⟩
  | answering {pcd : ProcessCreditData} (hpid : pcd.pid = pid) : Stage pid g
      ⟨⟨.adding g .writeErr, [], none, some sigsched, [], []⟩, only g (.readErr pcd),
        fun _ => [], false⟩
  | answered {c : Client} {pcd : ProcessCreditData} {err : Int32} (hpid : pcd.pid = pid)
      (hc : Past g c) (herr : c.writePath = [err]) :
      Stage pid g ⟨c, only g (.readErr pcd), fun _ => [], false⟩
  | registering {c : Client} {pcd : ProcessCreditData} (hpid : pcd.pid = pid) (hc : Past g c)
      (herr : c.writePath = []) : Stage pid g ⟨c, only g (.register pcd), fun _ => [], false⟩
  | settled {c : Client} {b : Bool} (hc : Past g c) (herr : c.writePath = []) :
      Stage pid g ⟨c, fun _ => none, fun _ => [], b⟩

section

variable {pid g gpuid : Nat} {c : Client} {h h' : Handling} {v v' : Part}
  {pcd : ProcessCreditData}

/-- What is done for the process, is done by the one listener. -/
theorem only_eq_some : only g h gpuid = some h' ↔ gpuid = g ∧ h' = h := by
  unfold only
  by_cases hg : gpuid = g
  · rw [hg, Function.update_self, Option.some.injEq]
    exact ⟨fun heq => ⟨rfl, heq.symm⟩, fun heq => heq.2.symm⟩
  · rw [Function.update_of_ne hg]
    exact iff_of_false (Option.some_ne_none _).symm fun heq => hg heq.1

/-- That listener goes on with the process. -/
theorem update_only : Function.update (only g h) g (some h') = only g h' :=
  Function.update_idem ..

/-- Or it has done what it had to do. -/
theorem update_only_none : Function.update (only g h) g none = fun _ => none := by
  unfold only
  rw [Function.update_idem]
  exact Function.update_eq_self ..

/-- The one message with which a process asks. -/
theorem asked_eq_cons {asked : List ProcessCreditData} {m : ProcessCreditData}
    (hasked : Function.update (fun _ => []) g [pcd] gpuid = m :: asked) :
    gpuid = g ∧ m = pcd ∧ asked = [] := by
  by_cases hg : gpuid = g
  · subst hg
    rw [Function.update_self] at hasked
    cases hasked
    exact ⟨rfl, rfl, rfl⟩
  · rw [Function.update_of_ne hg] at hasked
    cases hasked

/-! ## The way of a process -/

/-- All that is left of the call is the V. -/
theorem Past.next_eq (hc : Past g c) {next : AddQueue} (hplace : c.place = .adding gpuid next) :
    gpuid = g ∧ next = .v := by
  rcases hc.place with hv | hserving | hexited | ⟨gpuid', next', hrem⟩
  · rw [hv] at hplace
    cases hplace
    exact ⟨rfl, rfl⟩
  all_goals simp_all

/-- A process that is past its answer goes on to a place that is no call of `fs_add_queue`. -/
theorem Past.goTo (hc : Past g c) {c' : Client} (hrequests : c'.requests = c.requests)
    (hsigno : c'.signo = c.signo) (hread : c'.readPath = c.readPath)
    (hplace : c'.place = .serving ∨ c'.place = .exited ∨
      ∃ gpuid next, c'.place = .removing gpuid next) : Past g c' :=
  ⟨hrequests.trans hc.requests, .inr hplace, hsigno ▸ hc.signo, hread.trans hc.readPath⟩

/-- A process that leaves exits, or removes itself first. -/
theorem leaving_cases (running : Option Nat) :
    leaving running = .exited ∨ ∃ gpuid next, leaving running = .removing gpuid next := by
  unfold leaving
  split
  · split
    · exact .inr ⟨_, _, rfl⟩
    · exact .inl rfl
  · exact .inl rfl

/-- The steps of a process that is past its answer: it gives the semaphore back, serves, removes
itself and exits, and asks for nothing any more. -/
theorem Past.step {hs : Nat → Option Handling} {asked : Nat → List ProcessCreditData} {b : Bool}
    (hc : Past g c) (hasked : asked = fun _ => [])
    (hstep : PartStep pid ⟨c, hs, asked, b⟩ v') :
    (∃ c', Past g c' ∧ c'.writePath = c.writePath ∧ v' = ⟨c', hs, asked, b⟩) ∨
    (∃ b', (pid ≠ invalidProceess → b' = true → b = true) ∧ v' = ⟨c, hs, asked, b'⟩) ∨
    (∃ g' pcd, hs g' = some (.writeSignum pcd)) ∨
    (∃ g' pcd err w, hs g' = some (.readErr pcd) ∧ c.writePath = err :: w ∧
      v' = ⟨{ c with writePath := w }, Function.update hs g'
        (if err = 0 then some (.register pcd) else none), asked, b⟩) ∨
    (∃ g' pcd, hs g' = some (.register pcd) ∧
      v' = ⟨c, Function.update hs g' none, asked, true⟩) := by
  subst hasked
  cases hstep with
  | setDevice hplace hnext => cases hc.requests.symm.trans hnext
  | addP hplace => cases (hc.next_eq hplace).2
  | addWrite hplace => cases (hc.next_eq hplace).2
  | openRead hplace => cases (hc.next_eq hplace).2
  | readSignum hplace => cases (hc.next_eq hplace).2
  | openWrite hplace => cases (hc.next_eq hplace).2
  | writeErr hplace => cases (hc.next_eq hplace).2
  | addV hplace =>
    refine .inl ⟨_, ?_, ?_, rfl⟩
    · exact hc.goTo rfl rfl rfl (.inl rfl)
    · rfl
  | exit hplace hnext =>
    refine .inl ⟨_, ?_, ?_, rfl⟩
    · exact hc.goTo rfl rfl rfl (.inr (leaving_cases _))
    · rfl
  | removing hplace hnext =>
    refine .inl ⟨_, ?_, ?_, rfl⟩
    · refine hc.goTo rfl rfl rfl ?_
      rcases hnext with hexited | ⟨next', hrem⟩
      · exact .inr (.inl hexited)
      · exact .inr (.inr ⟨_, _, hrem⟩)
    · rfl
  | taken hnew hasked => cases hasked
  | dropped hadded hasked => cases hasked
  | relisted hb => exact .inr (.inl ⟨_, hb, rfl⟩)
  | writeSignum hlisten => exact .inr (.inr (.inl ⟨_, _, hlisten⟩))
  | readErr hlisten hread => exact .inr (.inr (.inr (.inl ⟨_, _, _, _, hlisten, hread, rfl⟩)))
  | register hlisten => exact .inr (.inr (.inr (.inr ⟨_, _, hlisten, rfl⟩)))

/-- A process that has no slot does not get one by a change of the other slots. -/
theorem relisted_false {b : Bool} (hb : b = true → false = true) : b = false := by
  cases b with
  | false => rfl
  | true => exact (hb rfl).symm

/-- A process goes its way: each step of its part leads from a stage to a stage. The cases are the
steps; in each of them all stages but one or two are ruled out by where the process and the listener
stand. -/
theorem Stage.step (hpid : pid ≠ invalidProceess) (hg : g < numGpus) (hstage : Stage pid g v)
    (hstep : PartStep pid v v') : Stage pid g v' := by
  cases hstage with
  | serving =>
    cases hstep with
    | setDevice hplace hnext =>
      cases hnext
      exact .waiting
    | relisted hb =>
      cases relisted_false (hb hpid)
      exact .serving
    | _ => simp_all
  | waiting =>
    cases hstep with
    | addP hplace =>
      cases hplace
      exact .writing
    | relisted hb =>
      cases relisted_false (hb hpid)
      exact .waiting
    | _ => simp_all
  | writing =>
    cases hstep with
    | @addWrite gpuid pcd hplace hpid =>
      cases hplace
      have hasked : (fun g' => if g' = g ∧ g < numGpus then [] ++ [pcd] else []) =
          Function.update (fun _ => []) g [pcd] := by
        funext g'
        by_cases hg' : g' = g
        · simp [hg', hg]
        · simp [hg']
      dsimp only
      rw [hasked]
      exact .asked
    | relisted hb =>
      cases relisted_false (hb hpid)
      exact .writing
    | _ => simp_all
  | asked =>
    cases hstep with
    | taken hnew hasked hown =>
      obtain ⟨rfl, rfl, rfl⟩ := asked_eq_cons hasked
      dsimp only
      rw [Function.update_idem, Function.update_eq_self]
      exact .taken hown
    | dropped hadded => cases hadded
    | relisted hb =>
      cases relisted_false (hb hpid)
      exact .asked
    | _ => simp_all
  | taken hown =>
    cases hstep with
    | openRead hplace hlisten =>
      cases hplace
      obtain ⟨rfl, heq⟩ := only_eq_some.mp hlisten
      cases heq
      dsimp only
      rw [update_only]
      exact .opened hown
    | relisted hb =>
      cases relisted_false (hb hpid)
      exact .taken hown
    | _ => simp_all [only_eq_some]
  | opened hown =>
    cases hstep with
    | writeSignum hlisten =>
      obtain ⟨rfl, heq⟩ := only_eq_some.mp hlisten
      cases heq
      dsimp only
      rw [update_only]
      exact .told hown
    | relisted hb =>
      cases relisted_false (hb hpid)
      exact .opened hown
    | _ => simp_all [only_eq_some]
  | told hown =>
    cases hstep with
    | readSignum hplace hread =>
      cases hplace
      cases hread
      exact .heard hown
    | relisted hb =>
      cases relisted_false (hb hpid)
      exact .told hown
    | _ => simp_all [only_eq_some]
  | heard hown =>
    cases hstep with
    | openWrite hplace hlisten =>
      cases hplace
      obtain ⟨rfl, heq⟩ := only_eq_some.mp hlisten
      cases heq
      dsimp only
      rw [update_only]
      exact .answering hown
    | relisted hb =>
      cases relisted_false (hb hpid)
      exact .heard hown
    | _ => simp_all [only_eq_some]
  | answering hown =>
    cases hstep with
    | writeErr hplace =>
      cases hplace
      refine .answered hown ⟨rfl, .inl rfl, ?_, rfl⟩ rfl
      intro signum heq
      exact (Option.some.inj heq).symm
    | relisted hb =>
      cases relisted_false (hb hpid)
      exact .answering hown
    | _ => simp_all [only_eq_some]
  | answered hown hc herr =>
    obtain ⟨c', hc', hw, rfl⟩ | ⟨b', hb, rfl⟩ | ⟨g', pcd, hlisten⟩ |
      ⟨g', pcd, err, w, hlisten, hread, rfl⟩ | ⟨g', pcd, hlisten, -⟩ := hc.step rfl hstep
    · exact .answered hown hc' (hw.trans herr)
    · cases relisted_false (hb hpid)
      exact .answered hown hc herr
    · cases (only_eq_some.mp hlisten).2
    · obtain ⟨rfl, heq⟩ := only_eq_some.mp hlisten
      cases heq
      cases herr.symm.trans hread
      split
      · rw [update_only]
        exact .registering hown ⟨hc.requests, hc.place, hc.signo, hc.readPath⟩ rfl
      · rw [update_only_none]
        exact .settled ⟨hc.requests, hc.place, hc.signo, hc.readPath⟩ rfl
    · cases (only_eq_some.mp hlisten).2
  | registering hown hc herr =>
    obtain ⟨c', hc', hw, rfl⟩ | ⟨b', hb, rfl⟩ | ⟨g', pcd, hlisten⟩ |
      ⟨g', pcd, err, w, hlisten, -⟩ | ⟨g', pcd, hlisten, rfl⟩ := hc.step rfl hstep
    · exact .registering hown hc' (hw.trans herr)
    · cases relisted_false (hb hpid)
      exact .registering hown hc herr
    · cases (only_eq_some.mp hlisten).2
    · cases (only_eq_some.mp hlisten).2
    · obtain ⟨rfl, -⟩ := only_eq_some.mp hlisten
      rw [update_only_none]
      exact .settled hc herr
  | settled hc herr =>
    obtain ⟨c', hc', hw, rfl⟩ | ⟨b', hb, rfl⟩ | ⟨g', pcd, hlisten⟩ |
      ⟨g', pcd, err, w, hlisten, -⟩ | ⟨g', pcd, hlisten, -⟩ := hc.step rfl hstep
    · exact .settled hc' (hw.trans herr)
    · exact .settled hc herr
    · cases hlisten
    · cases hlisten
    · cases hlisten

end

end GpuVirtmem.Sched.Registering
