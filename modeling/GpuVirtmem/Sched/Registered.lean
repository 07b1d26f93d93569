import GpuVirtmem.Lib.Run
import GpuVirtmem.Sched.FairShare

/-!
# Registered processes and their slots (`l2scheduler/fair_share_sched.c`)

The listeners of a node keep one table between them. Beside it stands the registry they are there
to keep: the processes that were added and not yet removed, each with its GPU and its share. A
process has its slot in every run in which no listener starts late, and no process is given the
slot of another.

The registry is what the listeners are for, told without their table: it is changed by `ADD_Q` and
`REM_Q` in the obvious way, and by nothing else. `NoneLost` compares the two. A process can be lost
in two ways. A listener that starts clears the table for all GPUs, also those whose listeners have
been at work for a while; and the counter, which never goes down, comes round to slots that are in
use.

The handshakes succeed here, and each message is one step; how the processes and the listeners get
through them is the subject of `AddQueue` and the modules after it.
-/

namespace GpuVirtmem.Sched

open Lib

/-- The table, the listeners that run, and the registry. -/
structure Node where
  data : SchedulerData
  listening : Nat → Bool
  registry : Nat → Option (Nat × Int32)

/-- What the listeners do. A message is handled by the listener of the GPU it was written to. -/
inductive ListenEvent
  | start (gpuid : Nat)
  | add (pid gpuid : Nat) (appType share : Int32) (unset : Timeval)
  | rem (pid gpuid : Nat) (unset : ProcessCreditData)

/-- The registry with a process that is not in it yet. -/
def addRegistered (registry : Nat → Option (Nat × Int32)) (pid gpuid : Nat) (share : Int32) :
    Nat → Option (Nat × Int32) :=
  if registry pid = none then Function.update registry pid (some (gpuid, share)) else registry

/-- The registry without a process of the GPU. -/
def remRegistered (registry : Nat → Option (Nat × Int32)) (pid gpuid : Nat) :
    Nat → Option (Nat × Int32) :=
  if (registry pid).map Prod.fst = some gpuid then Function.update registry pid none else registry

/-- One event. The handshakes of `ADD_Q` succeed. -/
inductive Node.Step (s : Node) : ListenEvent → Node → Prop
  | start {gpuid : Nat} (hnew : s.listening gpuid = false) :
      Step s (.start gpuid)
        { s with data := fsListenStart s.data
                 listening := Function.update s.listening gpuid true }
  | add {pid gpuid : Nat} {appType share : Int32} {unset : Timeval}
      (hlistening : s.listening gpuid = true) (hpid : pid ≠ invalidProceess) :
      Step s (.add pid gpuid appType share unset)
        { s with data := (fsListen gpuid s.data (fsAddQueue pid gpuid appType share unset) 0).1
                 registry := addRegistered s.registry pid gpuid share }
  | rem {pid gpuid : Nat} {unset : ProcessCreditData}
      (hlistening : s.listening gpuid = true) (hpid : pid ≠ invalidProceess) :
      Step s (.rem pid gpuid unset)
        { s with data := (fsListen gpuid s.data (fsRemQueue pid unset) 0).1
                 registry := remRegistered s.registry pid gpuid }

/-- The node when its threads are created. -/
def Node.started : Node :=
  { data := fsStartScheduler, listening := fun _ => false, registry := fun _ => none }

/-- Slot `i` is the one slot of the process, with its GPU and its share, and active. -/
structure SchedulerData.HoldsAt (d : SchedulerData) (i : Slot) (pid gpuid : Nat) (share : Int32) :
    Prop where
  only : ∀ j, (d.entry j).processList = pid ↔ j = i
  gpu : (d.entry i).gpuBinding = gpuid
  share : (d.entry i).shareUnit = share.toInt64.toUInt64
  active : (d.entry i).state = .procActive

/-- No registered process is lost. -/
def Node.NoneLost (s : Node) : Prop :=
  ∀ pid gpuid share, s.registry pid = some (gpuid, share) → ∃ i, s.data.HoldsAt i pid gpuid share

/-- A listener starts while no process is registered, and the slot that the counter gives to a new
process is free. -/
def Node.Spares (s : Node) : ListenEvent → Prop
  | .start _ => ∀ pid, s.registry pid = none
  | .add pid .. => s.registry pid = none →
      (s.data.entry s.data.pollingThreadCount).processList = invalidProceess
  | .rem .. => True

/-- What every event keeps where it spares the others: every slot in use is that of a registered
process, too. -/
structure Node.Kept (s : Node) : Prop where
  noneLost : s.NoneLost
  used : ∀ i, (s.data.entry i).processList ≠ invalidProceess →
    s.registry (s.data.entry i).processList ≠ none
  valid : s.registry invalidProceess = none

section

variable {s t : Node} {pid gpuid : Nat} {appType share : Int32} {unset : Timeval}
  {unsetPcd : ProcessCreditData} {e : ListenEvent}

/-- What happens is fixed by the event, so that a result about a run is one about its events. -/
theorem Node.Step.det {u : Node} (ht : s.Step e t) (hu : s.Step e u) : t = u := by
  cases ht with
  | start =>
    cases hu
    rfl
  | add =>
    cases hu
    rfl
  | rem =>
    cases hu
    rfl

/-- What `ADD_Q` does to the table: nothing where the process has a slot, and otherwise the process
gets the slot at the counter. -/
theorem fsListen_add (d : SchedulerData) :
    (fsListen gpuid d (fsAddQueue pid gpuid appType share unset) 0).1 =
      if alreadyAdded d (fsAddQueue pid gpuid appType share unset) then d
      else fsRegisterProcess d pid sigsched appType gpuid share := by
  cases hadded : alreadyAdded d (fsAddQueue pid gpuid appType share unset) with
  | true =>
    have haction : (fsAddQueue pid gpuid appType share unset).action ≠ remQ :=
      (by decide : addQ ≠ remQ)
    unfold fsListen
    rw [if_neg fun h => Bool.noConfusion (hadded.symm.trans h.2), if_neg haction]
    rfl
  | false =>
    rw [fsListen_new gpuid rfl hadded]
    simp only [fsAddQueue, share_kept, Bool.false_eq_true, if_false]

/-- What `REM_Q` does to the table. The process is looked for among the slots of the listener's GPU
only. -/
theorem fsListen_rem (d : SchedulerData) :
    (fsListen gpuid d (fsRemQueue pid unsetPcd) 0).1 = remProcess d gpuid pid Entry.fsFreed := by
  unfold fsListen
  have haction : (fsRemQueue pid unsetPcd).action = remQ := rfl
  have hother : remQ ≠ addQ := by decide
  rw [if_neg fun h => hother (haction.symm.trans h.1), if_pos haction]
  simp only [fsRemQueue]

section

variable {d d' : SchedulerData} {i j : Slot} {signum : Int32}

/-- The slot that is written has not been the one of the process, and does not become it. -/
theorem SchedulerData.HoldsAt.frame {c : Slot} (h : d.HoldsAt i pid gpuid share)
    (hothers : ∀ j, j ≠ c → d'.entry j = d.entry j) (hbefore : (d.entry c).processList ≠ pid)
    (hafter : (d'.entry c).processList ≠ pid) : d'.HoldsAt i pid gpuid share := by
  have hic : i ≠ c := by
    rintro rfl
    exact hbefore ((h.only i).mpr rfl)
  have hself := hothers i hic
  refine ⟨fun j => ?_, hself ▸ h.gpu, hself ▸ h.share, hself ▸ h.active⟩
  by_cases hjc : j = c
  · rw [hjc]
    exact ⟨fun hc => absurd hc hafter, fun hc => absurd hc.symm hic⟩
  · rw [hothers j hjc]
    exact h.only j

/-- A process that no slot has yet gets the slot at the counter, with the share that it asked
for. -/
theorem fsRegisterProcess_holdsAt (hnew : ∀ i, (d.entry i).processList ≠ pid) :
    (fsRegisterProcess d pid signum appType gpuid share).HoldsAt d.pollingThreadCount pid gpuid
      share := by
  refine ⟨fun j => ?_, ?_, ?_, ?_⟩
  · constructor
    · intro hj
      by_contra hne
      rw [fsRegisterProcess_entry_of_ne hne] at hj
      exact hnew j hj
    · rintro rfl
      exact fsRegisterProcess_processList
  all_goals simp [fsRegisterProcess]

end

/-- In the table of the invariant, a process has been added when it is registered. This is where the
invariant's second half is used: a slot of a process that is not registered would make the listener
refuse it. -/
theorem Node.Kept.alreadyAdded_iff (h : s.Kept) (pcd : ProcessCreditData)
    (hpid : pcd.pid ≠ invalidProceess) :
    alreadyAdded s.data pcd = true ↔ s.registry pcd.pid ≠ none := by
  rw [Sched.alreadyAdded_iff]
  constructor
  · rintro ⟨i, hi⟩
    have hused := h.used i (hi.symm ▸ hpid)
    rwa [hi] at hused
  · intro hreg
    obtain ⟨⟨g, sh⟩, hreg⟩ := Option.ne_none_iff_exists'.mp hreg
    obtain ⟨i, hi⟩ := h.noneLost pcd.pid g sh hreg
    exact ⟨i, (hi.only i).mpr rfl⟩

/-- A registered process is not the one that does not exist. -/
theorem Node.Kept.ne_invalid (h : s.Kept) {q : Nat} {r : Nat × Int32}
    (hq : s.registry q = some r) : q ≠ invalidProceess := by
  rintro rfl
  rw [h.valid] at hq
  cases hq

/-- Nothing is registered, and no slot in use. -/
theorem Node.started_kept : Node.started.Kept :=
  ⟨fun _ _ _ h => (nomatch h), fun _ h => absurd rfl h, rfl⟩

/-- A listener clears the whole table when it starts. While nothing is registered that does no
harm. -/
theorem Node.Kept.startListener (h : s.Kept) (hnone : ∀ pid, s.registry pid = none) :
    Node.Kept { s with data := fsListenStart s.data
                       listening := Function.update s.listening gpuid true } := by
  refine ⟨fun pid g sh hreg => ?_, fun i hi => ?_, h.valid⟩
  · rw [hnone pid] at hreg
    cases hreg
  · exact h.used i hi

/-- The registry says nothing of the pid that no process has. -/
theorem Node.Kept.valid_update (h : s.Kept) (hpid : pid ≠ invalidProceess)
    (r : Option (Nat × Int32)) : Function.update s.registry pid r invalidProceess = none := by
  rw [Function.update_of_ne (Ne.symm hpid)]
  exact h.valid

/-- A process that no slot has yet is registered in a free slot: then nobody loses his. -/
theorem Node.Kept.register (h : s.Kept) (hpid : pid ≠ invalidProceess)
    (hnew : ∀ i, (s.data.entry i).processList ≠ pid)
    (hfree : (s.data.entry s.data.pollingThreadCount).processList = invalidProceess) :
    Node.Kept { s with
      data := fsRegisterProcess s.data pid sigsched appType gpuid share
      registry := Function.update s.registry pid (some (gpuid, share)) } := by
  refine ⟨fun q g sh hq => ?_, fun i hi => ?_, h.valid_update hpid _⟩
  · by_cases hqp : q = pid
    · subst hqp
      simp only [Function.update_self, Option.some.injEq, Prod.mk.injEq] at hq
      obtain ⟨rfl, rfl⟩ := hq
      exact ⟨_, fsRegisterProcess_holdsAt hnew⟩
    · simp only [Function.update_of_ne hqp] at hq
      obtain ⟨i, hi⟩ := h.noneLost q g sh hq
      refine ⟨i, hi.frame (fun j => fsRegisterProcess_entry_of_ne) ?_ ?_⟩
      · rw [hfree]
        exact (h.ne_invalid hq).symm
      · rw [fsRegisterProcess_processList]
        exact Ne.symm hqp
  · by_cases hic : i = s.data.pollingThreadCount
    · subst hic
      simp
    · simp only [fsRegisterProcess_entry_of_ne hic] at hi ⊢
      rw [Function.update_of_ne (hnew i)]
      exact h.used i hi

/-- `ADD_Q`, of a process that is registered already or of one that the counter has a free slot
for. -/
theorem Node.Kept.add (h : s.Kept) (hpid : pid ≠ invalidProceess)
    (hfree : s.registry pid = none →
      (s.data.entry s.data.pollingThreadCount).processList = invalidProceess) :
    Node.Kept { s with
      data := (fsListen gpuid s.data (fsAddQueue pid gpuid appType share unset) 0).1
      registry := addRegistered s.registry pid gpuid share } := by
  have hiff := h.alreadyAdded_iff (fsAddQueue pid gpuid appType share unset) hpid
  rw [fsListen_add]
  unfold addRegistered
  by_cases hreg : s.registry pid = none
  · have hadded : ¬ alreadyAdded s.data (fsAddQueue pid gpuid appType share unset) = true :=
      fun hadded => hiff.mp hadded hreg
    have hnew : ∀ i, (s.data.entry i).processList ≠ pid :=
      alreadyAdded_eq_false.mp (Bool.eq_false_iff.mpr hadded)
    rw [if_neg hadded, if_pos hreg]
    exact h.register hpid hnew (hfree hreg)
  · rw [if_pos (hiff.mpr hreg), if_neg hreg]
    exact h

/-- The slot of a process is freed as the process is taken out of the registry. -/
theorem Node.Kept.free {i : Slot} {g : Nat} {sh : Int32} (h : s.Kept)
    (hpid : pid ≠ invalidProceess) (hi : s.data.HoldsAt i pid g sh) :
    Node.Kept { s with
      data := s.data.set i (s.data.entry i).fsFreed
      registry := Function.update s.registry pid none } := by
  refine ⟨fun q g' sh' hq => ?_, fun j hj => ?_, h.valid_update hpid _⟩
  · have hqp : q ≠ pid := by
      rintro rfl
      simp at hq
    simp only [Function.update_of_ne hqp] at hq
    obtain ⟨k, hk⟩ := h.noneLost q g' sh' hq
    refine ⟨k, hk.frame (fun j => SchedulerData.set_entry_of_ne) ?_ ?_⟩
    · rw [(hi.only i).mpr rfl]
      exact Ne.symm hqp
    · rw [SchedulerData.set_entry_self]
      exact (h.ne_invalid hq).symm
  · by_cases hji : j = i
    · subst hji
      simp [Entry.fsFreed] at hj
    · simp only [SchedulerData.set_entry_of_ne hji] at hj ⊢
      have hne : (s.data.entry j).processList ≠ pid := fun hjp => hji ((hi.only j).mp hjp)
      rw [Function.update_of_ne hne]
      exact h.used j hj

/-- `REM_Q`, to the listener of the process's GPU or to another one. -/
theorem Node.Kept.rem (h : s.Kept) (hpid : pid ≠ invalidProceess) :
    Node.Kept { s with
      data := (fsListen gpuid s.data (fsRemQueue pid unsetPcd) 0).1
      registry := remRegistered s.registry pid gpuid } := by
  rw [fsListen_rem]
  unfold remRegistered
  obtain ⟨i, hi, hgpu, hrem⟩ | ⟨hnone, hrem⟩ := remProcess_cases s.data gpuid pid Entry.fsFreed
  · -- the slot that is found is the one slot of the process
    have hused := h.used i (hi.symm ▸ hpid)
    rw [hi] at hused
    obtain ⟨⟨g, sh⟩, hreg⟩ := Option.ne_none_iff_exists'.mp hused
    obtain ⟨k, hk⟩ := h.noneLost pid g sh hreg
    obtain rfl := (hk.only i).mp hi
    have hg : g = gpuid := hk.gpu.symm.trans hgpu
    rw [hrem, if_pos (by rw [hreg, ← hg]; rfl)]
    exact h.free hpid hk
  · have hother : (s.registry pid).map Prod.fst ≠ some gpuid := by
      intro hreg
      obtain ⟨⟨g, sh⟩, hreg, hg⟩ := Option.map_eq_some_iff.mp hreg
      obtain ⟨k, hk⟩ := h.noneLost pid g sh hreg
      exact hnone k ((hk.only k).mpr rfl) (hk.gpu.trans hg)
    rw [hrem, if_neg hother]
    exact h

/-- An event that spares the registered processes keeps the invariant. -/
theorem Node.Kept.step (h : s.Kept) (hspares : s.Spares e) (hstep : s.Step e t) : t.Kept := by
  cases hstep with
  | start hnew => exact h.startListener hspares
  | add hlistening hpid => exact h.add hpid hspares
  | rem hlistening hpid => exact h.rem hpid

/-- An event after which no process is lost has spared them: a late start of a listener, and a slot
given away twice, each lose somebody at once. -/
theorem Node.Kept.spares (h : s.Kept) (hstep : s.Step e t) (ht : t.NoneLost) : s.Spares e := by
  cases hstep with
  | start hnew =>
    intro pid
    by_contra hreg
    obtain ⟨⟨g, sh⟩, hreg⟩ := Option.ne_none_iff_exists'.mp hreg
    obtain ⟨i, hi⟩ := ht pid g sh hreg
    have hinactive : Pager.ProcState.procInactive = .procActive := hi.active
    cases hinactive
  | @add pid gpuid appType share unset hlistening hpid =>
    intro hreg
    by_contra hfree
    have hused := h.used _ hfree
    obtain ⟨⟨g, sh⟩, hq⟩ := Option.ne_none_iff_exists'.mp hused
    generalize hqc : (s.data.entry s.data.pollingThreadCount).processList = q at hq hfree
    have hqp : q ≠ pid := by
      rintro rfl
      rw [hreg] at hq
      cases hq
    have hadded : ¬ alreadyAdded s.data (fsAddQueue pid gpuid appType share unset) = true := by
      rw [h.alreadyAdded_iff _ hpid]
      exact fun hne => hne hreg
    obtain ⟨k, hk⟩ := h.noneLost q g sh hq
    have hq' : addRegistered s.registry pid gpuid share q = some (g, sh) := by
      unfold addRegistered
      rw [if_pos hreg, Function.update_of_ne hqp]
      exact hq
    obtain ⟨i, hi⟩ := ht q g sh hq'
    have hiq := (hi.only i).mpr rfl
    simp only [fsListen_add, if_neg hadded] at hiq
    by_cases hic : i = s.data.pollingThreadCount
    · rw [hic, fsRegisterProcess_processList] at hiq
      exact hqp hiq.symm
    · rw [fsRegisterProcess_entry_of_ne hic] at hiq
      exact hic (((hk.only i).mp hiq).trans ((hk.only _).mp hqc).symm)
  | rem hlistening hpid => trivial

/-- No registered process is lost in a run, exactly when no listener starts while a process is
registered, and no process is added where the counter points at the slot of another.

The first part of the condition is on the starts of listeners, which clear the whole table; the
second is on the counter, which comes round after as many registrations as there are slots. -/
theorem no_process_lost_iff {es : List ListenEvent} (r : Run Node.Step .started es s) :
    Always Node.Step .started es (fun _ t => t.NoneLost) ↔
      EachStep Node.Step .started es Node.Spares :=
  Run.always_iff_eachStep (I := fun _ t => t.Kept) (fun _ _ _ _ => Node.Step.det)
    Node.started_kept (fun h hspares hstep => h.step hspares hstep) Node.Kept.noneLost
    Node.Kept.spares r

end

/-- The listeners of two GPUs, and a process of the first: where both start before it. -/
theorem no_process_lost_iff_oneProcess :
    ∃ s, Run Node.Step .started [.start 0, .start 1, .add 7 0 0 50 ⟨0, 0⟩] s ∧
      (Always Node.Step .started [.start 0, .start 1, .add 7 0 0 50 ⟨0, 0⟩]
          (fun _ t => t.NoneLost) ↔
        EachStep Node.Step .started [.start 0, .start 1, .add 7 0 0 50 ⟨0, 0⟩] Node.Spares) := by
  have r : Run Node.Step .started [.start 0, .start 1, .add 7 0 0 50 ⟨0, 0⟩] _ :=
    ((Run.start.cons (.add (by decide) (by decide))).cons (.start (by decide))).cons
      (.start (by decide))
  exact ⟨_, r, no_process_lost_iff r⟩

/-- A process of the first GPU is no longer scheduled once the listener of the second starts. -/
theorem late_listener_loses_process :
    ∃ s, Run Node.Step .started [.start 0, .add 7 0 0 50 ⟨0, 0⟩, .start 1] s ∧ ¬ s.NoneLost := by
  have r : Run Node.Step .started [.start 0, .add 7 0 0 50 ⟨0, 0⟩, .start 1] _ :=
    ((Run.start.cons (.start (by decide))).cons (.add (by decide) (by decide))).cons
      (.start (by decide))
  refine ⟨_, r, fun hlost => ?_⟩
  obtain ⟨i, hi⟩ := hlost 7 0 50 rfl
  have hinactive : Pager.ProcState.procInactive = .procActive := hi.active
  cases hinactive

end GpuVirtmem.Sched
