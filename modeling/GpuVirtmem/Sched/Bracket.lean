import GpuVirtmem.Sched.Control

/-!
# The states of the processes a page-in concerns (`l2scheduler/pager.c`)

A process that asks for memory is marked as paging by the control thread that had dispatched it,
each victim by the pager while it pages out, and the pager is to make all of them active again. Each
of these writes finds its slot in its own way. What the pager and the processes say to each other
meanwhile is in `Pager.Worker`; here a request is what it does to `Scheduler_Data`. The victims are
a parameter: `pager_worker` reads them through a pointer that it never sets.

Two conditions are behind the result. The variable `i` of the control thread, with which it marks
the requester, is not the index of the slot it has dispatched. And the pager looks for a process
among the active slots after that process has been marked as paging, so that it misses it each time.
-/

namespace GpuVirtmem.Sched

open Pager (ProcState)

namespace SchedulerData

/-- The search of steps 4 and 15 of `pager_worker`: the first active slot of the process, or 0. -/
def schedIndex (d : SchedulerData) (pid : Nat) : Slot :=
  (d.findSlot fun e => decide (e.state = .procActive) && e.processList == pid).getD firstSlot

/-- Steps 4 to 11 of `pager_worker` for one victim. -/
def withVictim (d : SchedulerData) (victimPid : Nat) : SchedulerData :=
  let schedIndex := d.schedIndex victimPid
  (d.setState schedIndex .procPaging).setState schedIndex .procActive

/-- Step 15 of `pager_worker`. -/
def markSchedulable (d : SchedulerData) (pid : Nat) : SchedulerData :=
  d.setState (d.schedIndex pid) .procActive

/-- `pager_worker` with one request of process `pid`. -/
def pagerWorker (d : SchedulerData) (pid : Nat) (victims : List Nat) : SchedulerData :=
  (victims.foldl withVictim d).markSchedulable pid

/-- No active slot is found for the process. -/
def Misses (d : SchedulerData) (pid : Nat) : Prop :=
  ∀ j, (d.entry j).processList = pid → (d.entry j).state ≠ .procActive

/-- Only slot `r` becomes a paging one. -/
structure MarksOnly (d marked : SchedulerData) (r : Slot) : Prop where
  own : (marked.entry r).state = .procPaging
  others : ∀ j, j ≠ r → (marked.entry j).state = (d.entry j).state

/-- The slots of the request are active again, and the others in the state they had. -/
structure Restores (d finished : SchedulerData) (r : Slot) (victims : List Nat) : Prop where
  own : (finished.entry r).state = .procActive
  served : ∀ j, (d.entry j).processList ∈ victims → (finished.entry j).state = .procActive
  others : ∀ j, j ≠ r → (d.entry j).processList ∉ victims →
    (finished.entry j).state = (d.entry j).state

/-- A request of the process in slot `r`, which the control thread had dispatched and whose variable
`i` holds anything: the notification marks only slot `r`, and the pager restores the states. -/
def Brackets (d : SchedulerData) (r : Slot) (i : Nat) (victims : List Nat) : Prop :=
  ∃ marked, d.intervalEnded i .sigrtmaxLess2 = some marked ∧ d.MarksOnly marked r ∧
    d.Restores (marked.pagerWorker (d.entry r).processList victims) r victims

/-- The slots on which the searches with their fallbacks end are the right ones. -/
structure BracketsWhen (d : SchedulerData) (r : Slot) (i : Nat) (victims : List Nat) : Prop where
  marks : i = r.val ∨
    ((d.entry r).state = .procPaging ∧ ∃ h, (d.entry ⟨i, h⟩).state = .procPaging)
  first : r = firstSlot
  active : ∀ j, j ≠ r → (d.entry j).processList ∈ victims → (d.entry j).state = .procActive
  missed : ∃ pid ∈ (d.entry r).processList :: victims, ∀ j, j ≠ r →
    (d.entry j).processList = pid → (d.entry j).state ≠ .procActive

section

variable {d marked : SchedulerData} {r : Slot} {i pid : Nat} {victims : List Nat}

/-- The search ends on an active slot of the process, or misses, and then the index is that of slot
0: the variable was set to 0 before the loop, and nobody looks at it again. -/
theorem schedIndex_cases (d : SchedulerData) (pid : Nat) :
    (¬ d.Misses pid ∧ (d.entry (d.schedIndex pid)).state = .procActive) ∨
      (d.Misses pid ∧ d.schedIndex pid = firstSlot) := by
  unfold schedIndex
  cases hf : d.findSlot fun e => decide (e.state = .procActive) && e.processList == pid with
  | some j =>
    have hj := findSlot_holds hf
    rw [Bool.and_eq_true, decide_eq_true_eq, beq_iff_eq] at hj
    exact .inl ⟨fun hmiss => hmiss j hj.2 hj.1, hj.1⟩
  | none =>
    refine .inr ⟨fun j hpid hactive => ?_, rfl⟩
    have hj := findSlot_eq_none.mp hf j
    simp [hpid, hactive] at hj

/-- Either search leaves the table as it is, or makes slot 0 active. -/
theorem markSchedulable_cases (d : SchedulerData) (pid : Nat) :
    (¬ d.Misses pid ∧ d.markSchedulable pid = d) ∨
      (d.Misses pid ∧ d.markSchedulable pid = d.setState firstSlot .procActive) := by
  unfold markSchedulable
  rcases schedIndex_cases d pid with ⟨hfound, hactive⟩ | ⟨hmiss, hfirst⟩
  · exact .inl ⟨hfound, setState_of_state hactive⟩
  · rw [hfirst]
    exact .inr ⟨hmiss, rfl⟩

/-- The two writes around the page-out of a victim go to one slot, and the second undoes the first:
what is left of them is what step 15 would have done. -/
theorem withVictim_eq (d : SchedulerData) (pid : Nat) : d.withVictim pid = d.markSchedulable pid :=
  setState_setState

/-- Once slot 0 is active, no search changes the table. -/
theorem markSchedulable_of_active (h : (d.entry firstSlot).state = .procActive) :
    d.markSchedulable pid = d := by
  rcases markSchedulable_cases d pid with ⟨_, heq⟩ | ⟨_, heq⟩
  · exact heq
  · rw [heq, setState_of_state h]

/-- Nor do the victims. -/
theorem foldl_withVictim_of_active (h : (d.entry firstSlot).state = .procActive) :
    victims.foldl withVictim d = d := by
  induction victims with
  | nil => rfl
  | cons pid victims ih => rw [List.foldl_cons, withVictim_eq, markSchedulable_of_active h, ih]

/-- What `pager_worker` does to the table: where some search finds nothing, slot 0 becomes active,
and nothing else changes. The slot of the requester is thereby written only if it is slot 0. -/
theorem pagerWorker_cases (d : SchedulerData) (pid : Nat) (victims : List Nat) :
    ((∀ p ∈ pid :: victims, ¬ d.Misses p) ∧ d.pagerWorker pid victims = d) ∨
      ((∃ p ∈ pid :: victims, d.Misses p) ∧
        d.pagerWorker pid victims = d.setState firstSlot .procActive) := by
  unfold pagerWorker
  induction victims with
  | nil =>
    rcases markSchedulable_cases d pid with ⟨hfound, heq⟩ | ⟨hmiss, heq⟩
    · exact .inl ⟨by simpa using hfound, heq⟩
    · exact .inr ⟨⟨pid, List.mem_cons_self, hmiss⟩, heq⟩
  | cons v victims ih =>
    rw [List.foldl_cons, withVictim_eq]
    rcases markSchedulable_cases d v with ⟨hfound, heq⟩ | ⟨hmiss, heq⟩
    · rw [heq]
      rcases ih with ⟨hall, hsame⟩ | ⟨⟨p, hp, hmiss⟩, hset⟩
      · refine .inl ⟨fun p hp => ?_, hsame⟩
        rcases List.mem_cons.mp hp with rfl | hp
        · exact hall p List.mem_cons_self
        · rcases List.mem_cons.mp hp with rfl | hp
          · exact hfound
          · exact hall p (List.mem_cons_of_mem _ hp)
      · refine .inr ⟨⟨p, ?_, hmiss⟩, hset⟩
        rcases List.mem_cons.mp hp with rfl | hp
        · exact List.mem_cons_self
        · exact List.mem_cons_of_mem _ (List.mem_cons_of_mem _ hp)
    · rw [heq, foldl_withVictim_of_active setState_state_self,
        markSchedulable_of_active setState_state_self]
      exact .inr ⟨⟨v, List.mem_cons_of_mem _ List.mem_cons_self, hmiss⟩, rfl⟩

/-- The slot of the requester, which pages, is found by no search: the searches look for active
slots. -/
theorem misses_marked : (d.setState r .procPaging).Misses pid ↔
    ∀ j, j ≠ r → (d.entry j).processList = pid → (d.entry j).state ≠ .procActive := by
  constructor
  · intro h j hj hpid
    have hmiss := h j (setState_processList.trans hpid)
    rwa [setState_entry_of_ne hj] at hmiss
  · intro h j hpid
    rw [setState_processList] at hpid
    by_cases hj : j = r
    · rw [hj, setState_state_self]
      exact ProcState.noConfusion
    · rw [setState_entry_of_ne hj]
      exact h j hj hpid

/-- The notification marks one slot. It is the requester's, or else the requester's must have been
marked already. -/
theorem marksOnly_iff {k : Slot} : d.MarksOnly (d.setState k .procPaging) r ↔
    k = r ∨ ((d.entry r).state = .procPaging ∧ (d.entry k).state = .procPaging) := by
  by_cases hk : k = r
  · subst hk
    exact iff_of_true ⟨setState_state_self, fun j hj => by rw [setState_entry_of_ne hj]⟩ (.inl rfl)
  · constructor
    · intro h
      have hown := h.own
      rw [setState_entry_of_ne (Ne.symm hk)] at hown
      have hother := h.others k hk
      rw [setState_state_self] at hother
      exact .inr ⟨hown, hother.symm⟩
    · rintro (rfl | ⟨hr, hpaging⟩)
      · exact absurd rfl hk
      · rw [setState_of_state hpaging]
        exact ⟨hr, fun _ _ => rfl⟩

/-- Where the notification has marked the requester's slot only, the pager restores the states when
that slot is slot 0 and the searches end well. -/
theorem restores_iff :
    d.Restores ((d.setState r .procPaging).pagerWorker (d.entry r).processList victims) r victims ↔
      r = firstSlot ∧
      (∀ j, j ≠ r → (d.entry j).processList ∈ victims → (d.entry j).state = .procActive) ∧
      ∃ pid ∈ (d.entry r).processList :: victims, ∀ j, j ≠ r →
        (d.entry j).processList = pid → (d.entry j).state ≠ .procActive := by
  rcases pagerWorker_cases (d.setState r .procPaging) (d.entry r).processList victims with
    ⟨hfound, heq⟩ | ⟨hmissed, heq⟩
  · -- every search finds an active slot, so the requester's stays as it was marked
    rw [heq]
    apply iff_of_false
    · intro h
      have hown := h.own
      rw [setState_state_self] at hown
      cases hown
    · rintro ⟨_, _, pid, hpid, hmiss⟩
      exact hfound pid hpid (misses_marked.mpr hmiss)
  · rw [heq]
    simp only [misses_marked] at hmissed
    constructor
    · intro h
      have hfirst : r = firstSlot := by
        by_contra hne
        have hown := h.own
        rw [setState_entry_of_ne hne, setState_state_self] at hown
        cases hown
      refine ⟨hfirst, fun j hj hvictim => ?_, hmissed⟩
      have hserved := h.served j hvictim
      rwa [setState_entry_of_ne (hfirst ▸ hj), setState_entry_of_ne hj] at hserved
    · rintro ⟨rfl, hactive, _⟩
      rw [setState_setState]
      refine ⟨setState_state_self, fun j hvictim => ?_, fun j hj _ => ?_⟩
      · by_cases hj : j = firstSlot
        · rw [hj, setState_state_self]
        · rw [setState_entry_of_ne hj]
          exact hactive j hj hvictim
      · rw [setState_entry_of_ne hj]

/-- A page-in request brackets only the processes it concerns, exactly when the searches and
fallbacks of the two threads happen to end on their slots.

On the one side is what the request should do to the states of the slots, and on the other where
three searches end. They are found out one after the other, and each misses in its own way. -/
theorem brackets_iff (d : SchedulerData) (r : Slot) (i : Nat) (victims : List Nat) :
    d.Brackets r i victims ↔ d.BracketsWhen r i victims := by
  unfold Brackets intervalEnded markPaging
  by_cases hi : i < maxControllerCount
  · rw [dif_pos hi]
    have hsame : ∀ {k : Slot}, k = r ∨ ((d.entry r).state = .procPaging ∧
        (d.entry k).state = .procPaging) →
        d.setState k .procPaging = d.setState r .procPaging := by
      rintro k (rfl | ⟨hr, hk⟩)
      · rfl
      · rw [setState_of_state hk, setState_of_state hr]
    constructor
    · rintro ⟨marked, hmarked, hmarks, hrestores⟩
      cases hmarked
      have hown := marksOnly_iff.mp hmarks
      rw [hsame hown] at hrestores
      obtain ⟨hfirst, hactive, hmissed⟩ := restores_iff.mp hrestores
      refine ⟨?_, hfirst, hactive, hmissed⟩
      rcases hown with h | ⟨hr, hk⟩
      · exact .inl (congrArg Fin.val h)
      · exact .inr ⟨hr, hi, hk⟩
    · intro h
      have hown : (⟨i, hi⟩ : Slot) = r ∨ ((d.entry r).state = .procPaging ∧
          (d.entry ⟨i, hi⟩).state = .procPaging) := by
        rcases h.marks with h | ⟨hr, _, hk⟩
        · exact .inl (Fin.ext h)
        · exact .inr ⟨hr, hk⟩
      refine ⟨_, rfl, marksOnly_iff.mpr hown, ?_⟩
      rw [hsame hown]
      exact restores_iff.mpr ⟨h.first, h.active, h.missed⟩
  · rw [dif_neg hi]
    apply iff_of_false
    · rintro ⟨marked, hmarked, _⟩
      cases hmarked
    · intro h
      rcases h.marks with h | ⟨_, hlt, _⟩
      · exact hi (h ▸ r.isLt)
      · exact hi hlt

end

end SchedulerData

/-- The table with processes 6 and 7 of GPU 0. -/
def twoProcesses : SchedulerData :=
  fsRegisterProcess (fsRegisterProcess fsStartScheduler 6 sigsched 0 0 50) 7 sigsched 0 0 50

/-- Process 7 asks for memory, without a victim, and stays a paging one: its slot is not slot 0. The
pager has made slot 0 active instead, which was active before. -/
theorem second_process_stays_paging : ¬ twoProcesses.Brackets (nextSlot firstSlot) 1 [] := by
  rintro ⟨marked, hmarked, _, hrestores⟩
  cases hmarked
  obtain ⟨hfirst, _⟩ := SchedulerData.restores_iff.mp hrestores
  have hval := congrArg Fin.val hfirst
  cases hval

end GpuVirtmem.Sched
