import GpuVirtmem.Sched.Control

/-!
# One sweep of the control thread (`l2scheduler/fair_share_sched.c`)

A sweep is the iterations that take the slot counter from 0 to its wrap. Where nobody else writes
the table, the control thread does in each slot what the slot asks for when the sweep begins, with
two exceptions: nobody is dispatched where the variable `share_unit`, which is never set, is zero,
and the mark of a process that pages goes to the slot that the variable `i`, which is never set
either, happens to name.

`Sweeping` is the invariant: the slots behind the thread have had what was theirs (`Outcome`), and
those ahead are as they were when the sweep began (`Ahead`). It is kept through an iteration and
carried over its end. The module ends with the existence of sweeps, since a statement about all of
them says nothing of a thread that gets stuck.
-/

namespace GpuVirtmem.Sched

open Lib

/-! ## Iterations -/

/-- The table at the end of an iteration, where the step ends one: before the counter moves on. -/
def Control.iterationEnd (c : ControlFrame) (s : Control) : ControlEvent → Option SchedulerData
  | .pass _ | .noShare _ => some s.data
  | .skip _ =>
    some (s.data.set s.thid { s.data.entry s.thid with
      penaltyEpochs := (s.data.entry s.thid).penaltyEpochs - 1 })
  | .unready _ measured => some (s.measure measured).data
  | .wake _ sig measured =>
    (s.data.intervalEnded c.i sig).map fun d => (Control.measure { s with data := d } measured).data
  | .idle | .choose _ | .dispatch _ | .others _ => none

/-- The table that `fs_calculate_timeslice` is called on, where the step calls it. -/
def Control.calculates (c : ControlFrame) (s : Control) (e : ControlEvent) : List SchedulerData :=
  if nextSlot s.thid < s.thid then (s.iterationEnd c e).toList else []

/-- A step of the thread, which adds to the tables that `fs_calculate_timeslice` was called on. -/
def Watched (c : ControlFrame) (i : Slot) (s : Control × List SchedulerData) (e : ControlEvent)
    (t : Control × List SchedulerData) : Prop :=
  Control.Step c i s.1 e t.1 ∧ t.2 = s.2 ++ s.1.calculates c e

/-- The slot of a dispatch. -/
def ControlEvent.dispatch? : ControlEvent → Option Slot
  | .dispatch j => some j
  | _ => none

/-- The slots that are dispatched, in order. -/
def dispatched (es : List ControlEvent) : List Slot := es.filterMap ControlEvent.dispatch?

/-! ## Sweeps -/

/-- The steps from slot 0 to the wrap, on a table that nobody else writes. -/
structure Sweep (c : ControlFrame) (i : Slot) (d : SchedulerData) (es : List ControlEvent)
    (t : Control × List SchedulerData) : Prop where
  run : Run (Watched c i) (⟨d, firstSlot, .head⟩, []) es t
  own : ∀ d, .others d ∉ es
  wrap : ∃ before e, es = before ++ [e] ∧ e.wraps = true ∧ ∀ f ∈ before, f.wraps = false

/-- The slot is to be dispatched. -/
abbrev Entry.ToDispatch (e : Entry) (gpuid : Nat) : Prop :=
  e.ActiveOn gpuid ∧ e.penaltyEpochs ≤ 0

/-- The slot has a penalty to pay. -/
abbrev Entry.ToSkip (e : Entry) (gpuid : Nat) : Prop :=
  e.ActiveOn gpuid ∧ 0 < e.penaltyEpochs

/-- The variable `i` names the slot, and a process that was dispatched before it has paged. -/
def Overtaken (c : ControlFrame) (es : List ControlEvent) (j : Slot) : Prop :=
  c.i = j.val ∧ ∃ k, k < j ∧ ∃ measured, .wake k .sigrtmaxLess2 measured ∈ es

/-- What the sweep has made of a slot that it has passed. -/
structure Outcome (c : ControlFrame) (d : SchedulerData) (es : List ControlEvent)
    (ended : SchedulerData) (j : Slot) : Prop where
  served : (d.entry j).ToDispatch c.boundToGpu → c.shareUnit ≠ 0 → ¬ Overtaken c es j →
    (dispatched es).count j = 1
  unserved : ¬ ((d.entry j).ToDispatch c.boundToGpu ∧ c.shareUnit ≠ 0 ∧ ¬ Overtaken c es j) →
    (dispatched es).count j = 0
  lowered : (d.entry j).ToSkip c.boundToGpu → ¬ Overtaken c es j →
    (ended.entry j).penaltyEpochs = (d.entry j).penaltyEpochs - 1
  kept : ¬ ((d.entry j).ToSkip c.boundToGpu ∧ ¬ Overtaken c es j) →
    (ended.entry j).penaltyEpochs = (d.entry j).penaltyEpochs

/-- A slot ahead of the sweep is as it was, unless a paging process was mistaken for it. -/
structure Ahead (c : ControlFrame) (d : SchedulerData) (es : List ControlEvent)
    (now : SchedulerData) (j : Slot) : Prop where
  same : ¬ Overtaken c es j → now.entry j = d.entry j
  marked : Overtaken c es j → now.entry j = { d.entry j with state := .procPaging }

/-- The iteration for slot `j` has ended. -/
structure Passed (c : ControlFrame) (d : SchedulerData) (es : List ControlEvent)
    (ended : SchedulerData) (j : Slot) : Prop where
  woken : ∀ k sig measured, .wake k sig measured ∈ es → k ≤ j
  past : ∀ k, k ≤ j → Outcome c d es ended k
  ahead : ∀ k, j < k → Ahead c d es ended k
  later : ∀ k, j < k → (dispatched es).count k = 0

/-- The thread has chosen the slot it stands at. -/
structure Chosen (c : ControlFrame) (d : SchedulerData) (es : List ControlEvent) (j : Slot) :
    Prop where
  dispatch : (d.entry j).ToDispatch c.boundToGpu
  share : c.shareUnit ≠ 0
  free : ¬ Overtaken c es j

/-- The sweep has come to where the thread is. -/
structure Sweeping (c : ControlFrame) (d : SchedulerData) (es : List ControlEvent) (s : Control) :
    Prop where
  woken : ∀ k sig measured, .wake k sig measured ∈ es → k < s.thid
  past : ∀ k, k < s.thid → Outcome c d es s.data k
  ahead : ∀ k, s.thid ≤ k → Ahead c d es s.data k
  later : ∀ k, s.thid < k → (dispatched es).count k = 0
  here : (dispatched es).count s.thid = if s.pc = .waiting then 1 else 0
  chosen : s.pc ≠ .head → Chosen c d es s.thid

section

variable {c : ControlFrame} {i : Slot} {s t : Control} {e : ControlEvent}
  {es : List ControlEvent} {d d' ended : SchedulerData} {j k : Slot}

/-- The step that ends an iteration moves the counter on. -/
theorem Control.Step.advances (h : Control.Step c i s e t)
    (hend : s.iterationEnd c e = some ended) :
    t = Control.advance { s with data := ended } c.boundToGpu ∧
      e.wraps = decide (nextSlot s.thid < s.thid) := by
  cases h with
  | pass | skip | noShare | unready =>
    cases hend
    exact ⟨rfl, rfl⟩
  | wake sig measured hpc hsig =>
    rw [iterationEnd, hsig] at hend
    cases hend
    exact ⟨rfl, rfl⟩
  | idle | choose | dispatch | others => cases hend

/-- Within an iteration the table and the counter stay, and there is no wrap. -/
theorem Control.Step.stays (h : Control.Step c i s e t) (hend : s.iterationEnd c e = none)
    (hown : ∀ d, e ≠ .others d) :
    t.data = s.data ∧ t.thid = s.thid ∧ e.wraps = false := by
  cases h with
  | idle | choose | dispatch => exact ⟨rfl, rfl, rfl⟩
  | others => exact absurd rfl (hown _)
  | pass | skip | noShare | unready => cases hend
  | wake sig measured hpc hsig =>
    rw [iterationEnd, hsig] at hend
    cases hend

/-- The dispatches are collected step by step. -/
theorem dispatched_concat : dispatched (es ++ [e]) = dispatched es ++ e.dispatch?.toList := by
  unfold dispatched
  rw [List.filterMap_append]
  cases hd : e.dispatch? <;> simp [hd]

/-- A step that dispatches another slot, or none, does not count for this one. -/
theorem count_dispatched_concat (h : e.dispatch? ≠ some k) :
    (dispatched (es ++ [e])).count k = (dispatched es).count k := by
  rw [dispatched_concat, List.count_append]
  cases hd : e.dispatch? with
  | none => rfl
  | some j =>
    have hne : j ≠ k := by
      rintro rfl
      exact h hd
    simp [hne]

/-- A step that does not end the interval of an earlier slot leaves it open whether the slot is
overtaken. -/
theorem overtaken_concat (h : ∀ j sig measured, e = .wake j sig measured → k ≤ j) :
    Overtaken c (es ++ [e]) k ↔ Overtaken c es k := by
  unfold Overtaken
  refine and_congr_right fun _ => exists_congr fun j => and_congr_right fun hj =>
    exists_congr fun measured => ?_
  rw [List.mem_append, List.mem_singleton]
  refine or_iff_left fun he => ?_
  exact absurd (h j _ measured he.symm) (Fin.not_le.mpr hj)

/-- What has been made of a slot depends on how often it was dispatched, on whether it was
overtaken, and on its penalty. -/
theorem Outcome.congr {es' : List ControlEvent} (h : Outcome c d es ended k)
    (hcount : (dispatched es').count k = (dispatched es).count k)
    (hover : Overtaken c es' k ↔ Overtaken c es k)
    (hpenalty : (d'.entry k).penaltyEpochs = (ended.entry k).penaltyEpochs) :
    Outcome c d es' d' k := by
  constructor
  · rw [hcount, hover]
    exact h.served
  · rw [hcount, hover]
    exact h.unserved
  · rw [hpenalty, hover]
    exact h.lowered
  · rw [hpenalty, hover]
    exact h.kept

/-- A slot ahead stays what it was where its entries are not written. -/
theorem Ahead.congr {es' : List ControlEvent} (h : Ahead c d es d' k)
    (hover : Overtaken c es' k ↔ Overtaken c es k) (hentry : ended.entry k = d'.entry k) :
    Ahead c d es' ended k := by
  constructor
  · rw [hentry, hover]
    exact h.same
  · rw [hentry, hover]
    exact h.marked

/-- An active slot is not overtaken, and as it was when the sweep began. -/
theorem Ahead.of_active {gpuid : Nat} (h : Ahead c d es d' k)
    (hactive : (d'.entry k).ActiveOn gpuid) :
    ¬ Overtaken c es k ∧ d'.entry k = d.entry k := by
  have hnot : ¬ Overtaken c es k := by
    intro hover
    have hstate := hactive.2
    rw [h.marked hover] at hstate
    cases hstate
  exact ⟨hnot, h.same hnot⟩

/-- No penalty ahead of the sweep is changed, whether the slot is overtaken or not. -/
theorem Ahead.penaltyEpochs (h : Ahead c d es d' k) :
    (d'.entry k).penaltyEpochs = (d.entry k).penaltyEpochs := by
  by_cases hover : Overtaken c es k
  · rw [h.marked hover]
  · rw [h.same hover]

/-- The end of an interval marks the slot that `i` names, where the process pages. -/
theorem intervalEnded_eq {n : Nat} {sig : IntervalEnd} (h : d.intervalEnded n sig = some d')
    (k : Slot) : d'.entry k = if sig = .sigrtmaxLess2 ∧ n = k.val then
      { d.entry k with state := .procPaging } else d.entry k := by
  cases sig with
  | sigrtmin =>
    cases h
    simp
  | sigrtmaxLess2 =>
    simp only [SchedulerData.intervalEnded, SchedulerData.markPaging] at h
    split at h
    · next hn =>
      cases h
      by_cases hk : n = k.val
      · subst hk
        simp [SchedulerData.setState]
      · have hne : k ≠ ⟨n, hn⟩ := by
          rintro rfl
          exact hk rfl
        rw [SchedulerData.setState_entry_of_ne hne, if_neg fun h => hk h.2]
    · cases h

/-- A slot is overtaken where it was, or where the process that has just woken the thread pages. -/
theorem overtaken_wake {sig : IntervalEnd} {measured : Timeval} (h : j < k) :
    Overtaken c (es ++ [.wake j sig measured]) k ↔
      Overtaken c es k ∨ (sig = .sigrtmaxLess2 ∧ c.i = k.val) := by
  constructor
  · rintro ⟨hi, l, hl, m, hmem⟩
    rcases List.mem_append.mp hmem with hmem | hmem
    · exact .inl ⟨hi, l, hl, m, hmem⟩
    · cases List.mem_singleton.mp hmem
      exact .inr ⟨rfl, hi⟩
  · rintro (⟨hi, l, hl, m, hmem⟩ | ⟨rfl, hi⟩)
    · exact ⟨hi, l, hl, m, List.mem_append_left _ hmem⟩
    · exact ⟨hi, j, h, measured, by simp⟩

/-- The end of an interval makes of a slot ahead what overtaking it means: it is marked as paging
and will not be dispatched. -/
theorem Ahead.wake {now : SchedulerData} {sig : IntervalEnd} {measured : Timeval}
    (h : Ahead c d es now k) (hk : j < k) (hsig : now.intervalEnded c.i sig = some d')
    (hentry : ended.entry k = d'.entry k) :
    Ahead c d (es ++ [.wake j sig measured]) ended k := by
  have hmarked := intervalEnded_eq hsig k
  by_cases hnow : sig = .sigrtmaxLess2 ∧ c.i = k.val
  · rw [if_pos hnow] at hmarked
    have hafter : Overtaken c (es ++ [.wake j sig measured]) k :=
      (overtaken_wake hk).mpr (.inr hnow)
    refine ⟨fun hnot => absurd hafter hnot, fun _ => ?_⟩
    rw [hentry, hmarked]
    by_cases hbefore : Overtaken c es k
    · rw [h.marked hbefore]
    · rw [h.same hbefore]
  · rw [if_neg hnow] at hmarked
    exact h.congr ((overtaken_wake hk).trans (or_iff_left hnow)) (hentry.trans hmarked)

/-! ## The step lemmas -/

/-- An iteration that ends with the slot it found, with its penalty as it was or lowered. -/
theorem Sweeping.passed (h : Sweeping c d es s) (hpc : s.pc = .head)
    (hdispatch : e.dispatch? = none) (hwake : ∀ j sig measured, e ≠ .wake j sig measured)
    (hothers : ∀ k, k ≠ s.thid → ended.entry k = s.data.entry k)
    (hunserved : ¬ Chosen c d es s.thid)
    (hlowered : (d.entry s.thid).ToSkip c.boundToGpu → ¬ Overtaken c es s.thid →
      (ended.entry s.thid).penaltyEpochs = (d.entry s.thid).penaltyEpochs - 1)
    (hkept : ¬ ((d.entry s.thid).ToSkip c.boundToGpu ∧ ¬ Overtaken c es s.thid) →
      (ended.entry s.thid).penaltyEpochs = (d.entry s.thid).penaltyEpochs) :
    Passed c d (es ++ [e]) ended s.thid := by
  have hcount : ∀ k, (dispatched (es ++ [e])).count k = (dispatched es).count k := fun k =>
    count_dispatched_concat (by simp [hdispatch])
  have hover : ∀ k, Overtaken c (es ++ [e]) k ↔ Overtaken c es k := fun k =>
    overtaken_concat fun j sig measured he => absurd he (hwake j sig measured)
  have hhere : (dispatched es).count s.thid = 0 := by
    rw [h.here, hpc]
    simp
  constructor
  · intro k sig measured hmem
    rcases List.mem_append.mp hmem with hmem | hmem
    · exact (h.woken k sig measured hmem).le
    · exact absurd (List.mem_singleton.mp hmem).symm (hwake k sig measured)
  · intro k hk
    rcases hk.lt_or_eq with hlt | rfl
    · refine (h.past k hlt).congr (hcount k) (hover k) ?_
      rw [hothers k hlt.ne]
    · constructor
      · rw [hover]
        exact fun hd hshare hfree => absurd ⟨hd, hshare, hfree⟩ hunserved
      · rw [hcount]
        exact fun _ => hhere
      · rw [hover]
        exact hlowered
      · rw [hover]
        exact hkept
  · intro k hk
    exact (h.ahead k hk.le).congr (hover k) (hothers k hk.ne')
  · intro k hk
    rw [hcount]
    exact h.later k hk

/-- The iteration that ends with the interval of a process. -/
theorem Sweeping.woke {sig : IntervalEnd} {measured : Timeval} (h : Sweeping c d es s)
    (hpc : s.pc = .waiting) (hsig : s.data.intervalEnded c.i sig = some d') :
    Passed c d (es ++ [.wake s.thid sig measured])
      (Control.measure { s with data := d' } measured).data s.thid := by
  set ended := (Control.measure { s with data := d' } measured).data with hended
  have hchosen := h.chosen (by simp [hpc])
  have hcount : ∀ k, (dispatched (es ++ [.wake s.thid sig measured])).count k =
      (dispatched es).count k := fun k => count_dispatched_concat (by simp [ControlEvent.dispatch?])
  have hover : ∀ k, k ≤ s.thid →
      (Overtaken c (es ++ [.wake s.thid sig measured]) k ↔ Overtaken c es k) := by
    intro k hk
    refine overtaken_concat fun j sig' measured' he => ?_
    cases he
    exact hk
  have hpenalty : ∀ k, (ended.entry k).penaltyEpochs = (s.data.entry k).penaltyEpochs := by
    intro k
    have hmarked := intervalEnded_eq hsig k
    have hsame : (d'.entry k).penaltyEpochs = (s.data.entry k).penaltyEpochs := by
      rw [hmarked]
      split <;> rfl
    by_cases hk : k = s.thid
    · subst hk
      simpa [hended, Control.measure] using hsame
    · simpa [hended, Control.measure, SchedulerData.set_entry_of_ne hk] using hsame
  constructor
  · intro k sig' measured' hmem
    rcases List.mem_append.mp hmem with hmem | hmem
    · exact (h.woken k sig' measured' hmem).le
    · cases List.mem_singleton.mp hmem
      exact le_rfl
  · intro k hk
    rcases hk.lt_or_eq with hlt | rfl
    · exact (h.past k hlt).congr (hcount k) (hover k hk) (hpenalty k)
    · have hsame := (h.ahead s.thid le_rfl).penaltyEpochs
      constructor
      · intro _ _ _
        rw [hcount, h.here, if_pos hpc]
      · rw [hover _ le_rfl]
        exact fun hnot => absurd ⟨hchosen.dispatch, hchosen.share, hchosen.free⟩ hnot
      · intro hskip
        exact absurd hskip.2 (Int.not_lt.mpr hchosen.dispatch.2)
      · intro _
        rw [hpenalty, hsame]
  · intro k hk
    have hentry : ended.entry k = d'.entry k := SchedulerData.set_entry_of_ne hk.ne'
    exact (h.ahead k hk.le).wake hk hsig hentry
  · intro k hk
    rw [hcount]
    exact h.later k hk

/-- Every iteration does with its slot what is to be done. The cases are those of the thread's
tests, in their order. -/
theorem Sweeping.ends (h : Sweeping c d es s) (hstep : Control.Step c i s e t)
    (hend : s.iterationEnd c e = some ended) : Passed c d (es ++ [e]) ended s.thid := by
  have hahead := h.ahead s.thid le_rfl
  cases hstep with
  | pass hpc hidles hpass =>
    cases hend
    -- a slot that is not active now was not when the sweep began, or it is overtaken
    have hnot : ¬ Overtaken c es s.thid → ¬ (d.entry s.thid).ActiveOn c.boundToGpu := by
      intro hfree hactive
      rw [hahead.same hfree] at hpass
      exact hpass hactive
    refine h.passed hpc rfl (fun _ _ _ => ControlEvent.noConfusion) (fun _ _ => rfl) ?_ ?_ ?_
    · intro hchosen
      exact hnot hchosen.free hchosen.dispatch.1
    · intro hskip hfree
      exact absurd hskip.1 (hnot hfree)
    · intro _
      exact hahead.penaltyEpochs
  | skip hpc hidles hactive hpenalty =>
    cases hend
    obtain ⟨hfree, hsame⟩ := hahead.of_active hactive
    rw [hsame] at hactive hpenalty
    refine h.passed hpc rfl (fun _ _ _ => ControlEvent.noConfusion)
      (fun k hk => SchedulerData.set_entry_of_ne hk) ?_ ?_ ?_
    · intro hchosen
      exact absurd hpenalty (Int.not_lt.mpr hchosen.dispatch.2)
    · intro _ _
      rw [SchedulerData.set_entry_self, hsame]
    · intro hnot
      exact absurd ⟨⟨hactive, hpenalty⟩, hfree⟩ hnot
  | noShare hpc hidles hactive hpenalty hshare =>
    cases hend
    refine h.passed hpc rfl (fun _ _ _ => ControlEvent.noConfusion) (fun _ _ => rfl) ?_ ?_ ?_
    · intro hchosen
      exact hchosen.share hshare
    · intro hskip hfree
      rw [hahead.same hfree] at hpenalty
      exact absurd hskip.2 hpenalty
    · intro _
      exact hahead.penaltyEpochs
  | unready measured hpc hstate =>
    -- the slot was active when it was chosen, and nobody has written it
    have hchosen := h.chosen (by simp [hpc])
    rw [hahead.same hchosen.free] at hstate
    exact absurd hchosen.dispatch.1.2 hstate
  | wake sig measured hpc hsig =>
    rw [Control.iterationEnd, hsig] at hend
    cases hend
    exact h.woke hpc hsig
  | idle | choose | dispatch | others => cases hend

/-- A step within an iteration: the choice of a slot, or the signal to its process. -/
theorem Control.Step.inside_cases (h : Control.Step c i s e t) (hend : s.iterationEnd c e = none)
    (hown : ∀ d, e ≠ .others d) :
    (e = .idle ∧ t = s) ∨
      (e = .choose s.thid ∧ s.pc = .head ∧ (s.data.entry s.thid).ToDispatch c.boundToGpu ∧
        c.shareUnit ≠ 0 ∧ ∃ p a, t = { s with pc := .chosen p a }) ∨
      (e = .dispatch s.thid ∧ s.pc ≠ .head ∧ s.pc ≠ .waiting ∧ t = { s with pc := .waiting }) := by
  cases h with
  | idle => exact .inl ⟨rfl, rfl⟩
  | choose hpc hidles hactive hpenalty hshare =>
    exact .inr (.inl ⟨rfl, hpc, ⟨hactive, Int.not_lt.mp hpenalty⟩, hshare, _, _, rfl⟩)
  | dispatch hpc => exact .inr (.inr ⟨rfl, by simp [hpc], by simp [hpc], rfl⟩)
  | others => exact absurd rfl (hown _)
  | pass | skip | noShare | unready => cases hend
  | wake sig measured _ hsig =>
    rw [iterationEnd, hsig] at hend
    cases hend

/-- A step that only changes what the thread does next with its slot. -/
theorem Sweeping.frame {pc : ControlPc} (h : Sweeping c d es s)
    (hwake : ∀ j sig measured, e ≠ .wake j sig measured)
    (hdispatch : ∀ k, k ≠ s.thid → e.dispatch? ≠ some k)
    (hhere : (dispatched (es ++ [e])).count s.thid = if pc = .waiting then 1 else 0)
    (hchosen : pc ≠ .head → Chosen c d es s.thid) :
    Sweeping c d (es ++ [e]) { s with pc := pc } := by
  have hover : ∀ k, Overtaken c (es ++ [e]) k ↔ Overtaken c es k := fun k =>
    overtaken_concat fun j sig measured he => absurd he (hwake j sig measured)
  have hcount : ∀ k, k ≠ s.thid → (dispatched (es ++ [e])).count k = (dispatched es).count k :=
    fun k hk => count_dispatched_concat (hdispatch k hk)
  constructor
  · intro k sig measured hmem
    rcases List.mem_append.mp hmem with hmem | hmem
    · exact h.woken k sig measured hmem
    · exact absurd (List.mem_singleton.mp hmem).symm (hwake k sig measured)
  · exact fun k hk => (h.past k hk).congr (hcount k hk.ne) (hover k) rfl
  · exact fun k hk => (h.ahead k hk).congr (hover k) rfl
  · intro k hk
    rw [hcount k hk.ne']
    exact h.later k hk
  · exact hhere
  · intro hpc
    have hslot := hchosen hpc
    exact ⟨hslot.dispatch, hslot.share, fun hnow => hslot.free ((hover _).mp hnow)⟩

/-- Within an iteration the sweep stays where it is. -/
theorem Sweeping.inside (h : Sweeping c d es s) (hstep : Control.Step c i s e t)
    (hend : s.iterationEnd c e = none) (hown : ∀ d, e ≠ .others d) :
    Sweeping c d (es ++ [e]) t := by
  rcases hstep.inside_cases hend hown with ⟨rfl, rfl⟩ |
    ⟨rfl, hpc, hready, hshare, p, a, rfl⟩ | ⟨rfl, hhead, hwaiting, rfl⟩
  · refine h.frame (by simp) (by simp [ControlEvent.dispatch?]) ?_ h.chosen
    rw [count_dispatched_concat (by simp [ControlEvent.dispatch?])]
    exact h.here
  · refine h.frame (by simp) (by simp [ControlEvent.dispatch?]) ?_ fun _ => ?_
    · rw [count_dispatched_concat (by simp [ControlEvent.dispatch?]), h.here, hpc]
      simp
    · obtain ⟨hfree, hsame⟩ := (h.ahead s.thid le_rfl).of_active hready.1
      rw [hsame] at hready
      exact ⟨hready, hshare, hfree⟩
  · refine h.frame (by simp) ?_ ?_ fun _ => h.chosen hhead
    · intro k hk hdispatch
      cases hdispatch
      exact hk rfl
    · rw [dispatched_concat, List.count_append, h.here, if_neg hwaiting]
      simp [ControlEvent.dispatch?]

/-- The sweep goes on with the next slot. -/
theorem Passed.sweeping (h : Passed c d es ended j) (hwrap : ¬ nextSlot j < j) :
    Sweeping c d es ⟨ended, nextSlot j, .head⟩ := by
  have hnext := nextSlot_val hwrap
  have hpast : ∀ k, k < nextSlot j → k ≤ j := by
    intro k hk
    rw [Fin.lt_def] at hk
    rw [Fin.le_def]
    omega
  have hahead : ∀ k, nextSlot j ≤ k → j < k := by
    intro k hk
    rw [Fin.le_def] at hk
    rw [Fin.lt_def]
    omega
  constructor
  · intro k sig measured hmem
    have hk := h.woken k sig measured hmem
    rw [Fin.le_def] at hk
    rw [Fin.lt_def]
    show k.val < (nextSlot j).val
    omega
  · exact fun k hk => h.past k (hpast k hk)
  · exact fun k hk => h.ahead k (hahead k hk)
  · exact fun k hk => h.later k (hahead k hk.le)
  · exact h.later _ (hahead _ le_rfl)
  · exact fun hpc => absurd rfl hpc

/-! ## The whole sweep -/

/-- At the start all slots are ahead. -/
theorem sweeping_start (c : ControlFrame) (d : SchedulerData) :
    Sweeping c d [] ⟨d, firstSlot, .head⟩ := by
  have hfirst : ∀ k : Slot, ¬ k < firstSlot := fun k hk => Nat.not_lt_zero _ hk
  have hfree : ∀ k, ¬ Overtaken c [] k := by
    rintro k ⟨-, j, -, measured, hmem⟩
    exact List.not_mem_nil hmem
  constructor
  · exact fun k sig measured hmem => absurd hmem List.not_mem_nil
  · exact fun k hk => absurd hk (hfirst k)
  · exact fun k _ => ⟨fun _ => rfl, fun hover => absurd hover (hfree k)⟩
  · exact fun k _ => rfl
  · rfl
  · exact fun hpc => absurd rfl hpc

/-- Up to the wrap the sweep has come to where the thread is, and `fs_calculate_timeslice` has not
been called. The run lemma, by induction with `Sweeping.ends` and `Sweeping.inside`. -/
theorem sweeping_of_run {s : Control × List SchedulerData}
    (r : Run (Watched c i) (⟨d, firstSlot, .head⟩, []) es s) (hown : ∀ d, .others d ∉ es)
    (hwrap : ∀ e ∈ es, e.wraps = false) : Sweeping c d es s.1 ∧ s.2 = [] := by
  induction r with
  | start => exact ⟨sweeping_start c d, rfl⟩
  | @snoc es s t e r h ih =>
    obtain ⟨hs, hcalls⟩ := ih (fun d hd => hown d (List.mem_append_left _ hd))
      (fun f hf => hwrap f (List.mem_append_left _ hf))
    have hlast : e ∈ es ++ [e] := List.mem_append_right _ List.mem_cons_self
    have hothers : ∀ d, e ≠ .others d := by
      rintro d rfl
      exact hown d hlast
    obtain ⟨hstep, hadded⟩ := h
    rw [hcalls, List.nil_append, Control.calculates] at hadded
    cases hend : s.1.iterationEnd c e with
    | none =>
      rw [hend] at hadded
      exact ⟨hs.inside hstep hend hothers, by simpa using hadded⟩
    | some ended =>
      obtain ⟨ht, hwraps⟩ := hstep.advances hend
      have hnext : ¬ nextSlot s.1.thid < s.1.thid := by
        rw [hwrap e hlast] at hwraps
        simpa using hwraps.symm
      rw [if_neg hnext] at hadded
      refine ⟨?_, hadded⟩
      have hadvance : t.1 = ⟨ended, nextSlot s.1.thid, .head⟩ := by
        rw [ht, Control.advance, if_neg hnext]
      rw [hadvance]
      exact (hs.ends hstep hend).sweeping hnext

/-- A sweep ends with one call of `fs_calculate_timeslice`, when all slots have been passed. -/
theorem Sweep.passed {t : Control × List SchedulerData} (h : Sweep c i d es t) :
    ∃ ended, t.2 = [ended] ∧ ∀ k, Outcome c d es ended k := by
  obtain ⟨before, e, rfl, hwraps, hbefore⟩ := h.wrap
  obtain ⟨s, r, hstep, hadded⟩ := h.run.last
  obtain ⟨hs, hcalls⟩ := sweeping_of_run r
    (fun d hd => h.own d (List.mem_append_left _ hd)) hbefore
  rw [hcalls, List.nil_append, Control.calculates] at hadded
  cases hend : s.1.iterationEnd c e with
  | none =>
    have hothers : ∀ d, e ≠ .others d := by
      rintro d rfl
      exact h.own d (List.mem_append_right _ List.mem_cons_self)
    have hstays := (hstep.stays hend hothers).2.2
    rw [hwraps] at hstays
    cases hstays
  | some ended =>
    have hnext : nextSlot s.1.thid < s.1.thid := by
      have hdec := (hstep.advances hend).2
      rw [hwraps] at hdec
      simpa using hdec.symm
    rw [if_pos hnext, hend] at hadded
    refine ⟨ended, hadded, fun k => (hs.ends hstep hend).past k ?_⟩
    have hlast := (nextSlot_wraps hnext).2
    have hk := k.isLt
    rw [Fin.le_def]
    omega

/-- The steps of one iteration: none of them wraps before the last, which wraps where the counter
does. -/
structure Iterates (c : ControlFrame) (i : Slot) (s : Control) (es : List ControlEvent)
    (ended : SchedulerData) : Prop where
  run : Run (Control.Step c i) s es (Control.advance { s with data := ended } c.boundToGpu)
  own : ∀ d, .others d ∉ es
  count : ended.pollingThreadCount = s.data.pollingThreadCount
  wrap : ∃ before e, es = before ++ [e] ∧ e.wraps = decide (nextSlot s.thid < s.thid) ∧
    ∀ f ∈ before, f.wraps = false

/-- A step that is an iteration by itself. -/
theorem Iterates.single (hstep : Control.Step c i s e t)
    (hend : s.iterationEnd c e = some ended) (hown : ∀ d, e ≠ .others d)
    (hcount : ended.pollingThreadCount = s.data.pollingThreadCount) :
    Iterates c i s [e] ended := by
  obtain ⟨rfl, hwraps⟩ := hstep.advances hend
  refine ⟨Run.start.cons hstep, fun d hd => ?_, hcount, [], e, rfl, hwraps, ?_⟩
  · exact hown d (List.mem_singleton.mp hd).symm
  · exact fun f hf => absurd hf List.not_mem_nil

/-- An event that wraps ends the run, and none before it does. -/
def WrapsLast (es : List ControlEvent) : Prop :=
  ∃ before e, es = before ++ [e] ∧ e.wraps = true ∧ ∀ f ∈ before, f.wraps = false

/-- Steps without a wrap may come first. -/
theorem WrapsLast.append {es' : List ControlEvent} (h : WrapsLast es')
    (hes : ∀ f ∈ es, f.wraps = false) : WrapsLast (es ++ es') := by
  obtain ⟨before, e, rfl, hwraps, hbefore⟩ := h
  refine ⟨es ++ before, e, (List.append_assoc ..).symm, hwraps, ?_⟩
  exact List.forall_mem_append.mpr ⟨hes, hbefore⟩

end

/-- A table with one process, in slot 0, that is to be dispatched on GPU 0. -/
def oneReady : SchedulerData :=
  fsRegisterProcess fsStartScheduler 7 sigsched 0 0 50

/-- There is a process, so the guard lets the thread go on. -/
theorem oneReady_not_idles : ¬ oneReady.Idles := by
  decide

end GpuVirtmem.Sched
