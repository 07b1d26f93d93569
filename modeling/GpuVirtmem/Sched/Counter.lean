import GpuVirtmem.Lib.Run
import GpuVirtmem.Sched.Las

/-!
# The counter of the scheduler table

`polling_thread_count` is the next slot to give away, and 0 is also the sign that nothing is
registered: the control threads of both schedulers do nothing while it is 0. The two readings
agree until the last slot is given away.

The counter never goes down. A process that is removed leaves its slot free and the counter where it
is, so that the last slot is given away after as many registrations as there are slots, however few
processes there are at any time. From then on the guard reads "nothing is registered" until the next
registration, and the slots from 0 on are given away again, to whomever they belong.
-/

namespace GpuVirtmem.Sched

open Lib

/-- The guard of the control threads does not stop them while a process is registered. -/
def SchedulerData.NeverIdle (d : SchedulerData) : Prop :=
  ∀ i, (d.entry i).processList ≠ invalidProceess → ¬ d.Idles

/-- A message that the listener of GPU `gpuid` handles; `err` is the client's answer to its signal
number, which only the fair-share listener asks for. -/
structure Message where
  gpuid : Nat
  pcd : ProcessCreditData
  err : Int32

/-- The fair-share listeners, one message after the other. -/
inductive FsHandles (d : SchedulerData) : Message → SchedulerData → Prop
  | intro (m : Message) : FsHandles d m (fsListen m.gpuid d m.pcd m.err).1

/-- The LAS listeners, one message after the other. -/
inductive LasHandles (d : SchedulerData) (m : Message) (d' : SchedulerData) : Prop
  | intro {effects : List Effect} (h : lasListen m.gpuid d m.pcd = some (d', effects))

/-- The fair-share listener registers a process. -/
def FsRegisters (d : SchedulerData) (m : Message) : Prop :=
  m.pcd.action = addQ ∧ alreadyAdded d m.pcd = false ∧ m.err = 0

/-- The LAS listener registers a process. -/
def LasRegisters (d : SchedulerData) (m : Message) : Prop :=
  m.pcd.action = addQ ∧ lasAlreadyAdded d m.pcd = false

/-! ## Any listener that gives slots away by the counter -/

section

variable {handles : SchedulerData → Message → SchedulerData → Prop}
  {registers : SchedulerData → Message → Prop} {d d' : SchedulerData} {m : Message}

/-- Where a message registers a process, the counter moves on and a slot is in use; no other message
takes a slot or moves the counter. -/
structure GivesByCounter (handles : SchedulerData → Message → SchedulerData → Prop)
    (registers : SchedulerData → Message → Prop) : Prop where
  det : ∀ d m d₁ d₂, handles d m d₁ → handles d m d₂ → d₁ = d₂
  given : ∀ {d m d'}, handles d m d' → registers d m →
    d'.pollingThreadCount = nextSlot d.pollingThreadCount ∧
      ∃ i, (d'.entry i).processList ≠ invalidProceess
  other : ∀ {d m d'}, handles d m d' → ¬ registers d m →
    d'.pollingThreadCount = d.pollingThreadCount ∧
      ∀ i, (d'.entry i).processList ≠ invalidProceess →
        (d.entry i).processList ≠ invalidProceess

/-- One message: where it does not register a process at the last slot, the guard does not come to
stop the control threads. -/
theorem GivesByCounter.neverIdle_step (hgives : GivesByCounter handles registers)
    (h : d.NeverIdle) (hlast : registers d m → d.pollingThreadCount ≠ lastSlot)
    (hstep : handles d m d') : d'.NeverIdle := by
  intro i hi
  by_cases hreg : registers d m
  · obtain ⟨hcount, _⟩ := hgives.given hstep hreg
    unfold SchedulerData.Idles
    rw [hcount, nextSlot_eq_firstSlot]
    exact hlast hreg
  · obtain ⟨hcount, hslots⟩ := hgives.other hstep hreg
    unfold SchedulerData.Idles
    rw [hcount]
    exact h i (hslots i hi)

/-- The converse: a registration at the last slot sets the counter to 0 with a slot in use, from
which the guard is wrong. -/
theorem GivesByCounter.not_last (hgives : GivesByCounter handles registers)
    (hstep : handles d m d') (h : d'.NeverIdle) (hreg : registers d m) :
    d.pollingThreadCount ≠ lastSlot := by
  intro hlast
  obtain ⟨hcount, i, hi⟩ := hgives.given hstep hreg
  apply h i hi
  unfold SchedulerData.Idles
  rw [hcount]
  exact nextSlot_eq_firstSlot.mpr hlast

/-- The two listeners differ in their messages and in nothing that matters here, so that the result
is for any listener that gives slots away in this way. It is by induction over the run. -/
theorem GivesByCounter.neverIdle_iff (hgives : GivesByCounter handles registers)
    (h0 : d.NeverIdle) {ms : List Message} (r : Run handles d ms d') :
    Always handles d ms (fun _ d => d.NeverIdle) ↔
      EachStep handles d ms fun d m => registers d m → d.pollingThreadCount ≠ lastSlot :=
  Run.always_iff_eachStep (I := fun _ d => d.NeverIdle) hgives.det h0
    (fun h hlast hstep => hgives.neverIdle_step h hlast hstep) (fun h => h)
    (fun _ hstep h hreg => hgives.not_last hstep h hreg) r

/-- A message moves the counter on by one slot at most. -/
theorem GivesByCounter.count_le (hgives : GivesByCounter handles registers)
    (h0 : d.pollingThreadCount = firstSlot) {ms : List Message} (r : Run handles d ms d')
    (hfew : ms.length < maxControllerCount) : d'.pollingThreadCount.val ≤ ms.length := by
  induction r with
  | start => exact h0 ▸ Nat.le_refl 0
  | @snoc ms d₁ d₂ m _ hstep ih =>
    rw [List.length_append, List.length_singleton] at hfew ⊢
    have hle := ih (Nat.lt_of_succ_lt hfew)
    by_cases hreg : registers d₁ m
    · have hnext : d₂.pollingThreadCount = nextSlot d₁.pollingThreadCount :=
        (hgives.given hstep hreg).1
      have hval : d₂.pollingThreadCount.val = d₁.pollingThreadCount.val + 1 := by
        rw [hnext]
        exact Nat.mod_eq_of_lt (by omega)
      omega
    · rw [(hgives.other hstep hreg).1]
      omega

/-- As many messages as the table has slots but one cannot bring the counter to the last slot before
one of them is handled. -/
theorem GivesByCounter.eachStep_of_few (hgives : GivesByCounter handles registers)
    (h0 : d.pollingThreadCount = firstSlot) {ms : List Message}
    (hfew : ms.length < maxControllerCount) :
    EachStep handles d ms fun d m => registers d m → d.pollingThreadCount ≠ lastSlot := by
  intro before m d' hpre r _ hlast
  have hlen := hpre.length_le
  rw [List.length_append, List.length_singleton] at hlen
  have hle := hgives.count_le h0 r (by omega)
  have hval : d'.pollingThreadCount.val = maxControllerCount - 1 := congrArg Fin.val hlast
  omega

end

/-! ## The two listeners -/

section

variable {d d' : SchedulerData} {m : Message} {i : Slot} {pid gpuid : Nat}

/-- Whatever is registered, some slot is in use: a process that is in no slot is not 0, or no slot
is free. The number 0 is also what marks a slot as free, and a process of that number does not
exist. -/
theorem registered_used (hnew : ∀ i, (d.entry i).processList ≠ pid)
    (hself : (d'.entry d.pollingThreadCount).processList = pid)
    (hother : ∀ i, i ≠ d.pollingThreadCount → d'.entry i = d.entry i) :
    ∃ i, (d'.entry i).processList ≠ invalidProceess := by
  by_cases hpid : pid = invalidProceess
  · subst hpid
    have hnext : nextSlot d.pollingThreadCount ≠ d.pollingThreadCount := by
      intro h
      have hval := nextSlot_val (j := d.pollingThreadCount) (by rw [h]; exact lt_irrefl _)
      rw [h] at hval
      omega
    exact ⟨_, by rw [hother _ hnext]; exact hnew _⟩
  · exact ⟨_, by rw [hself]; exact hpid⟩

/-- A removal takes no slot into use. -/
theorem remProcess_used {freed : Entry → Entry}
    (hfreed : ∀ e, (freed e).processList = invalidProceess)
    (hi : ((remProcess d gpuid pid freed).entry i).processList ≠ invalidProceess) :
    (d.entry i).processList ≠ invalidProceess := by
  obtain ⟨j, _, _, hrem⟩ | ⟨_, hrem⟩ := remProcess_cases d gpuid pid freed
  · rw [hrem] at hi
    by_cases hij : i = j
    · rw [hij, SchedulerData.set_entry_self] at hi
      exact absurd (hfreed _) hi
    · rwa [SchedulerData.set_entry_of_ne hij] at hi
  · rwa [hrem] at hi

/-- The fair-share listeners give slots away by the counter: `ADD_Q` of a process that has none,
with a handshake that succeeds, is the one message that registers. -/
theorem fsHandles_gives : GivesByCounter FsHandles FsRegisters where
  det := by
    intro d m d₁ d₂ h₁ h₂
    cases h₁
    cases h₂
    rfl
  given := by
    intro d m d' h hreg
    cases h
    obtain ⟨haction, hnew, herr⟩ := hreg
    rw [herr, fsListen_new m.gpuid haction hnew]
    exact ⟨rfl, registered_used (alreadyAdded_eq_false.mp hnew) fsRegisterProcess_processList
      fun i hi => fsRegisterProcess_entry_of_ne hi⟩
  other := by
    intro d m d' h hreg
    cases h
    rcases fsListen_cases m.gpuid d m.pcd m.err with
      ⟨haction, hnew, herr, _⟩ | ⟨_, _, _, hlisten⟩ | ⟨_, hlisten⟩ | ⟨_, _, hlisten⟩
    · exact absurd ⟨haction, hnew, herr⟩ hreg
    · rw [hlisten]
      exact ⟨rfl, fun _ hi => hi⟩
    · rw [hlisten]
      exact ⟨remProcess_pollingThreadCount, fun _ hi => remProcess_used (fun _ => rfl) hi⟩
    · rw [hlisten]
      exact ⟨rfl, fun _ hi => hi⟩

/-- A report of time touches neither the counter nor the processes of the slots. -/
theorem lasNotify_used (pcd : ProcessCreditData) :
    (lasNotify d gpuid pcd).pollingThreadCount = d.pollingThreadCount ∧
      ((lasNotify d gpuid pcd).entry i).processList = (d.entry i).processList := by
  unfold lasNotify
  split
  · rename_i j _
    refine ⟨rfl, ?_⟩
    by_cases hij : i = j
    · rw [hij, SchedulerData.set_entry_self]
    · rw [SchedulerData.set_entry_of_ne hij]
  · exact ⟨rfl, rfl⟩

/-- So do the LAS listeners, whose other messages change times and priorities only. -/
theorem lasHandles_gives : GivesByCounter LasHandles LasRegisters where
  det := by
    rintro d m d₁ d₂ ⟨h₁⟩ ⟨h₂⟩
    rw [h₁] at h₂
    cases h₂
    rfl
  given := by
    rintro d m d' ⟨h⟩ hreg
    rcases lasListen_cases h with ⟨_, _, hd, _⟩ | ⟨hrem, _⟩ | ⟨hnotify, _⟩ | ⟨hprio, _⟩ |
      ⟨hl2, _⟩ | ⟨hadd, _⟩
    · rw [hd]
      refine ⟨rfl, registered_used (alreadyAdded_eq_false.mp hreg.2) ?_ fun i hi => ?_⟩
      · simp [lasRegisterProcess]
      · exact SchedulerData.set_entry_of_ne hi
    · simp [hreg.1, addQ, remQ] at hrem
    · simp [hreg.1, addQ, notifySched] at hnotify
    · simp [hreg.1, addQ, getPriority] at hprio
    · simp [hreg.1, addQ, getL2Data] at hl2
    · exact absurd hreg hadd
  other := by
    rintro d m d' ⟨h⟩ hreg
    rcases lasListen_cases h with ⟨haction, hnew, _⟩ | ⟨_, hd, _⟩ | ⟨_, hd, _⟩ | ⟨_, hd, _⟩ |
      ⟨_, hd, _⟩ | ⟨_, _, _, hd, _⟩
    · exact absurd ⟨haction, hnew⟩ hreg
    · rw [hd]
      exact ⟨remProcess_pollingThreadCount, fun _ hi => remProcess_used (fun _ => rfl) hi⟩
    · rw [hd]
      refine ⟨(lasNotify_used (i := firstSlot) m.pcd).1, fun i hi => ?_⟩
      rwa [(lasNotify_used m.pcd).2] at hi
    · rw [hd]
      exact ⟨rfl, fun _ hi => hi⟩
    · rw [hd]
      exact ⟨rfl, fun _ hi => hi⟩
    · rw [hd]
      exact ⟨rfl, fun _ hi => hi⟩

/-- Without a process in the table there is nothing to be idle about. -/
theorem unused_neverIdle (h : ∀ i, (d.entry i).processList = invalidProceess) : d.NeverIdle :=
  fun i hi => absurd (h i) hi

/-- The control thread of either scheduler is never stopped by its guard while a process is
registered, exactly when no process is registered while the counter is at the last slot.

The result is for both schedulers, since all that it needs of their listeners is how they give slots
away (`GivesByCounter.neverIdle_iff`). -/
theorem never_idle_iff {ms ns : List Message} (rf : Run FsHandles fsStartScheduler ms d)
    (rl : Run LasHandles staticData ns d') :
    (Always FsHandles fsStartScheduler ms (fun _ d => d.NeverIdle) ↔
      EachStep FsHandles fsStartScheduler ms fun d m =>
        FsRegisters d m → d.pollingThreadCount ≠ lastSlot) ∧
    (Always LasHandles staticData ns (fun _ d => d.NeverIdle) ↔
      EachStep LasHandles staticData ns fun d m =>
        LasRegisters d m → d.pollingThreadCount ≠ lastSlot) :=
  ⟨fsHandles_gives.neverIdle_iff (unused_neverIdle fun _ => rfl) rf,
    lasHandles_gives.neverIdle_iff (unused_neverIdle fun _ => rfl) rl⟩

end

/-- A process of GPU 0 is added. -/
def addMessage (pid : Nat) : Message := ⟨0, fsAddQueue pid 0 0 50 ⟨0, 0⟩, 0⟩

/-- The first processes, added one after the other, take one slot each. -/
theorem run_addMessages {n : Nat} (hn : n ≤ maxControllerCount) :
    ∃ d, Run FsHandles fsStartScheduler ((List.range n).map fun k => addMessage (k + 1)) d ∧
      d.pollingThreadCount.val = n % maxControllerCount ∧
      ∀ j : Slot, (d.entry j).processList = if j.val < n then j.val + 1 else invalidProceess := by
  induction n with
  | zero => exact ⟨_, .start, rfl, fun j => rfl⟩
  | succ n ih =>
    obtain ⟨d, r, hcount, hslots⟩ := ih (Nat.le_of_succ_le hn)
    have hcount' : d.pollingThreadCount.val = n := hcount.trans (Nat.mod_eq_of_lt hn)
    have hnew : alreadyAdded d (addMessage (n + 1)).pcd = false := by
      apply alreadyAdded_eq_false.mpr
      intro i
      have hpid : (addMessage (n + 1)).pcd.pid = n + 1 := rfl
      rw [hslots, hpid]
      split
      · omega
      · exact Nat.succ_ne_zero n ∘ Eq.symm
    have hstep : FsHandles d (addMessage (n + 1)) (fsRegisterProcess d (n + 1) sigsched 0 0 50) :=
      fsListen_new 0 rfl hnew ▸ .intro (addMessage (n + 1))
    have hrun := r.snoc hstep
    refine ⟨fsRegisterProcess d (n + 1) sigsched 0 0 50, ?_, ?_, fun j => ?_⟩
    · rw [List.range_succ, List.map_append]
      exact hrun
    · rw [← hcount']
      rfl
    · by_cases hj : j = d.pollingThreadCount
      · have hjn : j.val = n := hj ▸ hcount'
        rw [hj, fsRegisterProcess_processList, hcount', if_pos (Nat.lt_succ_self n)]
      · have hjn : j.val ≠ n := fun h => hj (Fin.ext (h.trans hcount'.symm))
        rw [fsRegisterProcess_entry_of_ne hj, hslots]
        by_cases hlt : j.val < n
        · rw [if_pos hlt, if_pos (Nat.lt_succ_of_lt hlt)]
        · rw [if_neg hlt, if_neg (by omega)]

/-- Any number of processes can be added to the LAS listeners, from any table: none of these
messages is refused. -/
theorem exists_run_addMessages (n : Nat) (d : SchedulerData) :
    ∃ d', Run LasHandles d ((List.range n).map fun k => addMessage (k + 1)) d' := by
  induction n with
  | zero => exact ⟨d, .start⟩
  | succ n ih =>
    obtain ⟨d', r⟩ := ih
    rw [List.range_succ, List.map_append]
    by_cases hnew : alreadyAdded d' (addMessage (n + 1)).pcd = false
    · exact ⟨_, r.snoc (.intro (if_pos ⟨rfl, hnew⟩))⟩
    · exact ⟨d', r.snoc (.intro (if_neg fun h => hnew h.2))⟩

/-- In either scheduler all slots but one are given away, and the control threads go on. -/
theorem never_idle_iff_oneSlotLeft :
    ∃ d d', Run FsHandles fsStartScheduler ((List.range 499).map fun k => addMessage (k + 1)) d ∧
      Run LasHandles staticData ((List.range 499).map fun k => addMessage (k + 1)) d' ∧
      (∀ j : Slot, j.val < 499 → (d.entry j).processList = j.val + 1) ∧
      Always FsHandles fsStartScheduler ((List.range 499).map fun k => addMessage (k + 1))
        (fun _ d => d.NeverIdle) ∧
      Always LasHandles staticData ((List.range 499).map fun k => addMessage (k + 1))
        (fun _ d => d.NeverIdle) := by
  obtain ⟨d, rf, -, hslots⟩ := run_addMessages (by decide : 499 ≤ maxControllerCount)
  obtain ⟨d', rl⟩ := exists_run_addMessages 499 staticData
  have hfew : ((List.range 499).map fun k => addMessage (k + 1)).length < maxControllerCount := by
    rw [List.length_map, List.length_range]
    decide
  obtain ⟨hfs, hlas⟩ := never_idle_iff rf rl
  refine ⟨d, d', rf, rl, fun j hj => ?_, hfs.mpr ?_, hlas.mpr ?_⟩
  · rw [hslots, if_pos hj]
  · exact fsHandles_gives.eachStep_of_few rfl hfew
  · exact lasHandles_gives.eachStep_of_few rfl hfew

/-- Five hundred processes are registered, and the guard stops the control threads. The counter has
wrapped and is 0, as it was at the start. -/
theorem full_table_idles :
    ∃ d, Run FsHandles fsStartScheduler
        ((List.range maxControllerCount).map fun k => addMessage (k + 1)) d ∧ ¬ d.NeverIdle := by
  obtain ⟨d, r, hcount, hslots⟩ := run_addMessages (le_refl maxControllerCount)
  refine ⟨d, r, fun h => h firstSlot ?_ ?_⟩
  · rw [hslots, if_pos firstSlot.isLt]
    exact Nat.succ_ne_zero _
  · apply Fin.ext
    rw [hcount, Nat.mod_self]
    rfl

end GpuVirtmem.Sched
