import GpuVirtmem.Sched.Mutex

/-!
# The one time slice

The control thread that first locks the mutex for a dispatch never unlocks it: its second lock is
not completed. Whatever the threads of the node do, and for however many GPUs, no more than one
process is given a time slice, and from then on no time slice is calculated and nobody is bracketed
for paging.

This is what the defect of `Sched.Mutex` amounts to. It is not about one bad interleaving: the
control thread that comes first takes the mutex with it, and the scheduler has done its work after
one dispatch. The statements that need no lock go on, and so do the listeners, which never lock.
-/

namespace GpuVirtmem.Sched

open Lib

/-- From the lock before a dispatch to the lock after it. -/
def Place.seizes : Place → Bool
  | .control _ .locked | .control _ .waiting | .control _ .toLockAgain => true
  | _ => false

/-- A process is given its time slice. -/
def Stmt.gives : Stmt → Bool
  | .dispatch => true
  | _ => false

/-- After the lock before a dispatch. -/
def Place.toGive : Place → Bool
  | .control _ .locked => true
  | _ => false

/-- The statements that are made without the mutex. -/
def Stmt.unguarded : Stmt → Bool
  | .idle | .pass | .skip | .noShare | .choose | .request .. | .victim | .lastVictim | .exchange
  | .table _ => true
  | _ => false

/-- The statements between the two locks of a dispatch. -/
def Stmt.ofSlice : Stmt → Bool
  | .unready | .dispatch | .wake _ => true
  | _ => false

section

variable {unset : Nat → UInt64 × Nat} {s t : Locking} {d d' : SchedulerData} {p p' : Place}
  {i j : TableThread} {x : Stmt} {es : List (TableThread × Stmt)}

/-- The thread that goes on to the next slot has seized nothing. -/
theorem Place.moveOn_seizes {k : Slot} : (moveOn k).seizes = false := by
  unfold moveOn
  split <;> rfl

/-- Nor has it between the loops of `fs_calculate_timeslice`, though it holds the mutex there. -/
theorem Shares.stage_seizes {k : Slot} (n : Shares) : (Place.control k n.stage).seizes = false := by
  unfold stage
  split <;> rfl

/-- The mutex is seized by the lock before a dispatch, and by no other statement. -/
theorem Moves.seizes (h : Moves unset i d p x d' p') (hseizes : p'.seizes = true) :
    p.seizes = true ∨ p.op = .lock := by
  cases h with
  | lock => exact .inr rfl
  | unready | dispatch | wake => exact .inl rfl
  | pass | skip | noShare | measure =>
    rw [Place.moveOn_seizes] at hseizes
    cases hseizes
  | firstLoop =>
    rw [Shares.stage_seizes] at hseizes
    cases hseizes
  | _ => cases hseizes

/-- A thread that has seized it makes no unlock: the next one in its program is a lock. -/
theorem seizes_keeps (unset : Nat → UInt64 × Nat) :
    KeepsMutex Place.op (Moves unset) fun p => p.seizes = true where
  unlock := by
    intro p hp
    cases p with
    | control k stage => cases stage <;> simp_all [Place.seizes, Place.op]
    | pager stage => cases hp
    | listener => cases hp
  stays := by
    intro i d p x d' p' h hp hop
    cases h with
    | unready | dispatch | wake => rfl
    | lockAgain => cases hop
    | _ => cases hp

/-- What is made with the mutex is made where it is held, or locks it. -/
theorem Moves.guarded (h : Moves unset i d p x d' p') (hx : x.unguarded = false) :
    p.op = .lock ∨ p.holds = true := by
  cases h with
  | idle | pass | skip | noShare | choose | request | victim | lastVictim | exchange | table =>
    cases hx
  | lock | lockAgain | lockTable | lockPaging | lockActive | lockFinish => exact .inl rfl
  | _ => exact .inr rfl

/-- What the thread that has seized it does is part of its dispatch. -/
theorem Moves.ofSlice (h : Moves unset i d p x d' p') (hp : p.seizes = true)
    (hop : p.op = .other) : x.ofSlice = true := by
  cases h with
  | unready | dispatch | wake => rfl
  | lockAgain => cases hop
  | _ => cases hp

/-- The mutex has been seized by thread `i`. -/
structure Locking.Seized (s : Locking) (i : TableThread) : Prop where
  owner : s.owner = some i
  seizes : (s.place i).seizes = true

/-- Once the mutex is seized it stays so, and what is done from then on needs no lock, or is part of
the one dispatch. -/
theorem Locking.Seized.step (hs : s.Seized i)
    (hown : s.Owned (fun p => p.holds = true) fun p => p.lockedTwice = false)
    (h : Locking.Step unset s (j, x) t) :
    t.Seized i ∧ (x.unguarded = true ∨ j = i ∧ x.ofSlice = true) := by
  obtain ⟨hother, howner, hseizes⟩ :=
    h.kept (seizes_keeps unset) hown (fun _ => Place.holds_of_unlock) hs.owner hs.seizes
  refine ⟨⟨howner, hseizes⟩, ?_⟩
  cases h with
  | intro hmove hlock =>
    cases hx : x.unguarded with
    | true => exact .inl rfl
    | false =>
      right
      obtain hop | hholds := hmove.guarded hx
      · rw [hother] at hop
        cases hop
      · cases hs.owner.symm.trans ((hown.owner j).mpr hholds)
        exact ⟨rfl, hmove.ofSlice hs.seizes hother⟩

/-- A slice is given after the mutex has been seized. -/
theorem Place.seizes_of_toGive (h : p.toGive = true) : p.seizes = true := by
  cases p with
  | control k stage => cases stage <;> first | rfl | cases h
  | pager stage => cases h
  | listener => cases h

/-- Giving a slice is not a statement that is made without the mutex. -/
theorem Stmt.unguarded_of_gives (hx : x.gives = true) : x.unguarded = false := by
  cases x with
  | dispatch => rfl
  | _ => cases hx

/-- A slice is given once for each lock before a dispatch. -/
theorem Moves.gives (h : Moves unset i d p x d' p') (hx : x.gives = true) :
    p.toGive = true ∧ p'.toGive = false := by
  cases h with
  | dispatch => exact ⟨rfl, rfl⟩
  | _ => cases hx

/-- No statement of a seized mutex leads back to its lock. -/
theorem Moves.toGive (h : Moves unset i d p x d' p') (hother : p.op = .other) :
    p'.toGive = false := by
  cases hp' : p'.toGive with
  | false => rfl
  | true =>
    have hseizes := Place.seizes_of_toGive hp'
    cases h with
    | lock => cases hother
    | unready | dispatch | wake => cases hp'
    | pass | skip | noShare | measure =>
      rw [Place.moveOn_seizes] at hseizes
      cases hseizes
    | firstLoop =>
      rw [Shares.stage_seizes] at hseizes
      cases hseizes
    | _ => cases hp'

/-- The time slices that are given in a run. -/
def slices (es : List (TableThread × Stmt)) : Nat := es.countP fun e => e.2.gives

/-- The slices of a run are counted step by step. -/
theorem slices_concat : slices (es ++ [(i, x)]) = slices es + if x.gives then 1 else 0 := by
  unfold slices
  rw [List.countP_append, List.countP_singleton]

/-- Nobody has seized the mutex, or one thread has and may have given its slice. -/
inductive Sliced (es : List (TableThread × Stmt)) (s : Locking) : Prop
  | before (hfree : ∀ i, (s.place i).seizes = false) (hnone : slices es = 0)
  | after {i : TableThread} (hseized : s.Seized i)
      (hgive : (s.place i).toGive = true → slices es = 0) (hone : slices es ≤ 1)

/-- The step lemma: before the mutex is seized there is no slice, and after it there is at most the
one. -/
theorem Sliced.step (hs : Sliced es s)
    (hown : s.Owned (fun p => p.holds = true) fun p => p.lockedTwice = false)
    (h : Locking.Step unset s (j, x) t) : Sliced (es ++ [(j, x)]) t := by
  rcases hs with ⟨hfree, hnone⟩ | @⟨i, hseized, hgive, hone⟩
  · cases h with
    | @intro _ _ d p' hmove hlock =>
      have hx : x.gives = false := by
        rw [← Bool.not_eq_true]
        intro hx
        have hseizes := Place.seizes_of_toGive (hmove.gives hx).1
        rw [hfree j] at hseizes
        cases hseizes
      have hnone' : slices (es ++ [(j, x)]) = 0 := by rw [slices_concat, hnone, hx]; rfl
      cases hp' : p'.seizes with
      | true =>
        have hop : (s.place j).op = .lock := by
          refine (hmove.seizes hp').resolve_left ?_
          rw [hfree j]
          exact Bool.false_ne_true
        refine @Sliced.after _ _ j ⟨?_, ?_⟩ (fun _ => hnone') (hnone' ▸ Nat.zero_le 1)
        · rw [hop]
          rfl
        · simpa using hp'
      | false =>
        refine .before (fun k => ?_) hnone'
        by_cases hk : k = j
        · subst hk
          simpa using hp'
        · simpa [Function.update_of_ne hk] using hfree k
  · obtain ⟨hseized', hwho⟩ := hseized.step hown h
    have hkept := h.kept (seizes_keeps unset) hown (fun _ => Place.holds_of_unlock) hseized.owner
      hseized.seizes
    cases h with
    | @intro _ _ d p' hmove hlock =>
      cases hx : x.gives with
      | true =>
        obtain ⟨hbefore, hafter⟩ := hmove.gives hx
        obtain hunguarded | ⟨rfl, -⟩ := hwho
        · cases hunguarded.symm.trans (Stmt.unguarded_of_gives hx)
        · have hzero := hgive hbefore
          have hcount : slices (es ++ [(j, x)]) = 1 := by rw [slices_concat, hzero, hx]; rfl
          refine .after hseized' (fun hgive' => ?_) (le_of_eq hcount)
          simp only [Function.update_self] at hgive'
          rw [hafter] at hgive'
          cases hgive'
      | false =>
        have hcount : slices (es ++ [(j, x)]) = slices es := by rw [slices_concat, hx]; rfl
        refine .after hseized' (fun hgive' => ?_) (hcount ▸ hone)
        rw [hcount]
        by_cases hi : i = j
        · subst hi
          simp only [Function.update_self] at hgive'
          rw [hmove.toGive hkept.1] at hgive'
          cases hgive'
        · simp only [Function.update_of_ne hi] at hgive'
          exact hgive hgive'

/-- The run lemma. -/
theorem sliced_of_run (r : Run (Locking.Step unset) (Locking.start d) es t) : Sliced es t := by
  induction r with
  | start =>
    refine .before (fun i => ?_) rfl
    cases i <;> rfl
  | @snoc es s u e r h ih => exact ih.step (owned_of_run r) h

/-- The lock before a dispatch seizes the mutex. -/
theorem seized_of_lock (h : Locking.Step unset s (i, .lock) t) : t.Seized i := by
  cases h with
  | intro hmove hlock =>
    generalize hp : s.place i = p at hmove
    cases hmove
    refine ⟨?_, ?_⟩
    · rfl
    · simp [Place.seizes]

/-- No more than one process is given a time slice, and its time is not measured. From the lock
before that dispatch on, every other thread makes only statements that need no lock, until it comes
to one that does.

It is for any number of GPUs, processes and page-ins, and no matter who comes first. -/
theorem at_most_one_slice (r : Run (Locking.Step unset) (Locking.start d) es t) :
    slices es ≤ 1 ∧ (∀ i measured, (i, Stmt.measure measured) ∉ es) ∧
    ∀ before i after, es = before ++ (i, .lock) :: after →
      ∀ e ∈ after, e.2.unguarded = true ∨ e.1 = i ∧ e.2.ofSlice = true := by
  refine ⟨?_, fun i measured hmem => ?_, ?_⟩
  · cases sliced_of_run r with
    | before hfree hnone => omega
    | after hseized hgive hone => exact hone
  · obtain ⟨before, after, rfl⟩ := List.append_of_mem hmem
    rw [List.append_cons] at r
    obtain ⟨u, ru, -⟩ := r.split
    obtain ⟨s, rs, h⟩ := ru.last
    have hvisits := (owned_of_run rs).visits i
    cases h with
    | intro hmove hlock =>
      generalize s.place i = p at hmove hvisits
      cases hmove
      cases hvisits
  · rintro before i after rfl e hmem
    obtain ⟨mid, rest, rfl⟩ := List.append_of_mem hmem
    rw [List.append_cons] at r
    obtain ⟨u, ru, r'⟩ := r.split
    obtain ⟨s, rs, hlock⟩ := ru.last
    rw [List.append_cons] at r'
    obtain ⟨w, rw', -⟩ := r'.split
    obtain ⟨v, rv, h⟩ := rw'.last
    have hv := rv.invariant (I := fun v => v.Owned (fun p => p.holds = true)
      (fun p => p.lockedTwice = false) ∧ v.Seized i) ⟨owned_of_run ru, seized_of_lock hlock⟩
      fun hs h => ⟨h.owned (discipline unset) hs.1, (hs.2.step hs.1 h).1⟩
    exact (hv.2.step hv.1 h).2

end

/-- The run with one dispatch that comes to its end: it has a slice, and stops there. -/
theorem at_most_one_slice_oneDispatch : slices oneDispatch ≤ 1 ∧
    (∀ i measured, (i, Stmt.measure measured) ∉ oneDispatch) ∧
    ∀ before i after, oneDispatch = before ++ (i, .lock) :: after →
      ∀ e ∈ after, e.2.unguarded = true ∨ e.1 = i ∧ e.2.ofSlice = true := by
  obtain ⟨t, r⟩ := exists_oneDispatch
  exact at_most_one_slice r

end GpuVirtmem.Sched
