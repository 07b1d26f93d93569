import Mathlib.Data.List.Basic

/-!
# Runs of a labelled step relation

The induction every whole-run result of the development uses, packaged once: a run is the list of
the labels of its steps, and an invariant may speak about the labels taken so far. `Always` and
`EachStep` say something of all states and of all steps of a run; where a property is kept by the
steps that meet a condition, and broken by each one that does not, the two are the same.

A theorem about runs has two halves in most places of this development: the condition keeps the
property, which is an induction along the run, and a step that breaks the condition breaks the
property, which looks at one step in a state that the invariant describes. `always_iff_eachStep`
puts the halves together. It asks for a relation in which a label fixes the step, so that the state
of the run before a step is the one in which the step was judged.
-/

namespace GpuVirtmem.Lib

variable {σ ε : Type*} {step : σ → ε → σ → Prop}

/-- A run from `s`, with the labels of its steps in the order they were taken. -/
inductive Run (step : σ → ε → σ → Prop) (s : σ) : List ε → σ → Prop
  | start : Run step s [] s
  | snoc {es : List ε} {t u : σ} {e : ε} :
      Run step s es t → step t e u → Run step s (es ++ [e]) u

/-- The property holds in every state of the run, after the labels that lead there. -/
def Always (step : σ → ε → σ → Prop) (s : σ) (es : List ε) (P : List ε → σ → Prop) : Prop :=
  ∀ (before : List ε) (t : σ), before <+: es → Run step s before t → P before t

/-- The condition holds of the source and the label of every step of the run. -/
def EachStep (step : σ → ε → σ → Prop) (s : σ) (es : List ε) (C : σ → ε → Prop) : Prop :=
  ∀ (before : List ε) (e : ε) (t : σ), before ++ [e] <+: es → Run step s before t → C t e

namespace Run

/-- One step, then a run. -/
theorem cons {s t u : σ} {e : ε} {es : List ε} (h : step s e t) (r : Run step t es u) :
    Run step s (e :: es) u := by
  induction r with
  | start => exact @snoc _ _ _ _ [] _ _ _ .start h
  | snoc _ h' ih => exact .snoc ih h'

/-- What holds at the start and is kept by every step holds at the end, where the property may
speak about the labels taken so far. -/
theorem invariant_trace {I : List ε → σ → Prop} {s : σ} (h0 : I [] s)
    (hstep : ∀ {es t e u}, I es t → step t e u → I (es ++ [e]) u) {es : List ε} {t : σ}
    (r : Run step s es t) : I es t := by
  induction r with
  | start => exact h0
  | snoc _ h ih => exact hstep ih h

/-- What holds at the start and is kept by every step holds at the end. -/
theorem invariant {I : σ → Prop} {s : σ} (h0 : I s) (hstep : ∀ {t e u}, I t → step t e u → I u)
    {es : List ε} {t : σ} (r : Run step s es t) : I t :=
  @invariant_trace _ _ _ (fun _ t => I t) s h0 hstep es t r

/-- A run without labels has not moved. -/
theorem eq_of_nil {s t : σ} (r : Run step s [] t) : t = s := by
  generalize hes : ([] : List ε) = es at r
  cases r with
  | start => rfl
  | snoc _ _ => simp at hes

/-- A run that is not empty ends with a step. -/
theorem last {s u : σ} {es : List ε} {e : ε} (r : Run step s (es ++ [e]) u) :
    ∃ t, Run step s es t ∧ step t e u := by
  generalize hfs : es ++ [e] = fs at r
  cases r with
  | start => simp at hfs
  | snoc r h =>
    obtain ⟨rfl, he⟩ := List.append_inj' hfs rfl
    cases he
    exact ⟨_, r, h⟩

/-- The states a run of a deterministic relation goes through are fixed by its labels. -/
theorem unique {s t u : σ} {es : List ε} (r : Run step s es t) (q : Run step s es u)
    (hdet : ∀ t e u v, step t e u → step t e v → u = v) : t = u := by
  induction r generalizing u with
  | start => exact q.eq_of_nil.symm
  | snoc _ h ih =>
    obtain ⟨t', q', h'⟩ := q.last
    obtain rfl := ih q'
    exact hdet _ _ _ _ h h'

/-- A run over a concatenation passes through a state in the middle. -/
theorem split {s u : σ} {es fs : List ε} (r : Run step s (es ++ fs) u) :
    ∃ t, Run step s es t ∧ Run step t fs u := by
  induction fs generalizing es with
  | nil => exact ⟨u, by rwa [List.append_nil] at r, .start⟩
  | cons f fs ih =>
    rw [List.append_cons] at r
    obtain ⟨m, rm, rt⟩ := ih r
    obtain ⟨t, rs, h⟩ := rm.last
    exact ⟨t, rs, rt.cons h⟩

/-- Two runs, one after the other. -/
theorem append {s t u : σ} {es fs : List ε} (r : Run step s es t) (q : Run step t fs u) :
    Run step s (es ++ fs) u := by
  induction q with
  | start => simpa only [List.append_nil] using r
  | snoc _ h ih =>
    rw [← List.append_assoc]
    exact .snoc ih h

/-- A run that is not empty begins with a step. -/
theorem first {s u : σ} {e : ε} {es : List ε} (r : Run step s (e :: es) u) :
    ∃ t, step s e t ∧ Run step t es u := by
  have hsplit : Run step s ([e] ++ es) u := r
  obtain ⟨t, rt, ru⟩ := hsplit.split
  have hlast : Run step s ([] ++ [e]) t := rt
  obtain ⟨s', rs, h⟩ := hlast.last
  obtain rfl := rs.eq_of_nil
  exact ⟨t, h, ru⟩

section

variable {s t e : σ} {es fs : List ε}
  (hdet : ∀ t e u v, step t e u → step t e v → u = v)
  (hcomm : ∀ {s t u x y}, step s x t → step s y u → x ≠ y → ∃ v, step t y v ∧ step u x v)
  (hend : ∀ x t, ¬ step e x t)

include hdet hcomm hend

/-- A step that commutes with the others can be made first: the run to the end becomes shorter. -/
theorem completes_step {x : ε} (r : Run step s es e) (h : step s x t) :
    ∃ gs, Run step t gs e ∧ gs.length + 1 = es.length := by
  induction es generalizing s t with
  | nil =>
    obtain rfl := r.eq_of_nil
    exact absurd h (hend x t)
  | cons y es ih =>
    obtain ⟨u, hu, ru⟩ := r.first
    by_cases hxy : x = y
    · subst hxy
      obtain rfl := hdet _ _ _ _ h hu
      exact ⟨es, ru, rfl⟩
    · obtain ⟨v, htv, huv⟩ := hcomm h hu hxy
      obtain ⟨gs, rgs, hlen⟩ := ih ru huv
      refine ⟨y :: gs, rgs.cons htv, ?_⟩
      rw [List.length_cons, List.length_cons, hlen]

/-- Where steps with different labels commute and one run ends, every run can be completed to the
same end, in as many steps. -/
theorem completes (r : Run step s es e) (q : Run step s fs t) :
    ∃ gs, Run step t gs e ∧ fs.length + gs.length = es.length := by
  induction q with
  | start => exact ⟨es, r, Nat.zero_add _⟩
  | snoc _ h ih =>
    obtain ⟨gs, rgs, hlen⟩ := ih
    obtain ⟨hs, rhs, hlen'⟩ := completes_step hdet hcomm hend rgs h
    refine ⟨hs, rhs, ?_⟩
    rw [List.length_append, List.length_singleton]
    omega

end

/-- An invariant that is kept by the steps that meet a condition. -/
theorem invariant_of_eachStep {I : List ε → σ → Prop} {C : σ → ε → Prop} {s t : σ} {es : List ε}
    (h0 : I [] s) (hkeep : ∀ {es t e u}, I es t → C t e → step t e u → I (es ++ [e]) u)
    (hC : EachStep step s es C) (r : Run step s es t) : I es t := by
  induction r with
  | start => exact h0
  | @snoc es t u e r h ih =>
    have hI := ih fun before e t hpre => hC before e t (hpre.trans (List.prefix_append ..))
    exact hkeep hI (hC es e t List.prefix_rfl r) h

/-- The run goes on from each of its states with the next of its labels. -/
theorem step_of_prefix {s t u : σ} {before es : List ε} {e : ε}
    (hdet : ∀ t e u v, step t e u → step t e v → u = v) (r : Run step s es u)
    (hpre : before ++ [e] <+: es) (rt : Run step s before t) : ∃ v, step t e v := by
  obtain ⟨after, rfl⟩ := hpre
  obtain ⟨v, rv, _⟩ := r.split
  obtain ⟨t', rt', h⟩ := rv.last
  obtain rfl : t = t' := rt.unique rt' hdet
  exact ⟨v, h⟩

/-- A property that is kept by the steps that meet a condition, and broken by each step that does
not, holds throughout exactly the runs whose steps all meet it. -/
theorem always_iff_eachStep {P I : List ε → σ → Prop} {C : σ → ε → Prop} {s u : σ} {es : List ε}
    (hdet : ∀ t e u v, step t e u → step t e v → u = v) (h0 : I [] s)
    (hkeep : ∀ {es t e u}, I es t → C t e → step t e u → I (es ++ [e]) u)
    (hI : ∀ {es t}, I es t → P es t)
    (hback : ∀ {es t e u}, I es t → step t e u → P (es ++ [e]) u → C t e)
    (r : Run step s es u) : Always step s es P ↔ EachStep step s es C := by
  constructor
  · intro hP
    have hstep : ∀ {before e t u}, before ++ [e] <+: es → Run step s before t → I before t →
        step t e u → C t e := by
      intro before e t u hpre rt hIt h
      exact hback hIt h (hP _ u hpre (rt.snoc h))
    have hall : ∀ {before t}, before <+: es → Run step s before t → I before t := by
      intro before t hpre rt
      induction rt with
      | start => exact h0
      | @snoc before t u e rt h ih =>
        have hIt := ih ((List.prefix_append ..).trans hpre)
        exact hkeep hIt (hstep hpre rt hIt h) h
    intro before e t hpre rt
    obtain ⟨_, h⟩ := r.step_of_prefix hdet hpre rt
    have hpre' : before <+: es := (List.prefix_append before [e]).trans hpre
    exact hstep hpre rt (hall hpre' rt) h
  · intro hC before t hpre rt
    refine hI (invariant_of_eachStep h0 hkeep ?_ rt)
    exact fun before' e t hpre' => hC before' e t (hpre'.trans hpre)

end Run

/-- Conditions that mean the same at each step mean the same of the steps of a run. -/
theorem eachStep_congr {s : σ} {es : List ε} {C D : σ → ε → Prop} (h : ∀ t e, C t e ↔ D t e) :
    EachStep step s es C ↔ EachStep step s es D := by
  constructor
  · intro hC before e t hpre r
    exact (h t e).mp (hC before e t hpre r)
  · intro hD before e t hpre r
    exact (h t e).mpr (hD before e t hpre r)

/-- A condition on the steps of a run, one of its first step and one of the rest. -/
theorem eachStep_cons_iff {s : σ} {e : ε} {es : List ε} {C : σ → ε → Prop} :
    EachStep step s (e :: es) C ↔ C s e ∧ ∀ t, step s e t → EachStep step t es C := by
  constructor
  · intro hC
    refine ⟨hC [] e s (List.prefix_append [e] es) .start, fun t h before f u hpre r => ?_⟩
    exact hC (e :: before) f u ((List.prefix_cons_inj e).mpr hpre) (r.cons h)
  · intro ⟨hfirst, hrest⟩ before f u hpre r
    cases before with
    | nil =>
      obtain rfl := r.eq_of_nil
      obtain rfl := (List.cons_prefix_cons.mp hpre).1
      exact hfirst
    | cons e' before =>
      obtain ⟨rfl, hrestPre⟩ := List.cons_prefix_cons.mp hpre
      obtain ⟨t, h, rt⟩ := r.first
      exact hrest t h before f u hrestPre rt

/-- A run without steps meets every condition. -/
theorem EachStep.nil {s : σ} {C : σ → ε → Prop} : EachStep step s [] C := by
  intro before e t hpre _
  exact absurd (List.prefix_nil.mp hpre) (List.concat_ne_nil e before)

/-- Where the steps are determined, a condition can be checked step by step along a run. -/
theorem EachStep.cons {s t : σ} {e : ε} {es : List ε} {C : σ → ε → Prop}
    (hdet : ∀ t e u v, step t e u → step t e v → u = v) (h : step s e t) (hC : C s e)
    (hrest : EachStep step t es C) : EachStep step s (e :: es) C := by
  refine eachStep_cons_iff.mpr ⟨hC, fun u hu => ?_⟩
  obtain rfl := hdet s e t u h hu
  exact hrest

/-- What holds throughout a run holds throughout what is left of it. -/
theorem Always.after {s t : σ} {es fs : List ε} {P : List ε → σ → Prop} (r : Run step s es t)
    (hP : Always step s (es ++ fs) P) : Always step t fs fun before => P (es ++ before) := by
  intro before u hpre ru
  exact hP (es ++ before) u ((List.prefix_append_right_inj es).mpr hpre) (r.append ru)

/-- What holds throughout a run holds throughout what is left of it after its first step. -/
theorem Always.tail {s t : σ} {e : ε} {es : List ε} {P : List ε → σ → Prop} (h : step s e t)
    (hP : Always step s (e :: es) P) : Always step t es fun before => P (e :: before) :=
  Always.after (Run.start.cons h) hP

/-- What holds throughout a run holds where it starts. -/
theorem Always.head {s : σ} {es : List ε} {P : List ε → σ → Prop} (hP : Always step s es P) :
    P [] s :=
  hP [] s List.nil_prefix .start

/-- What holds where a run without steps starts holds throughout it. -/
theorem Always.nil {s : σ} {P : List ε → σ → Prop} (h : P [] s) : Always step s [] P := by
  intro before t hpre rt
  obtain rfl := List.prefix_nil.mp hpre
  obtain rfl := rt.eq_of_nil
  exact h

/-- What holds where a run starts, and throughout what is left after its first step, holds
throughout. -/
theorem Always.cons {s : σ} {e : ε} {es : List ε} {P : List ε → σ → Prop} (h : P [] s)
    (hrest : ∀ t, step s e t → Always step t es fun before => P (e :: before)) :
    Always step s (e :: es) P := by
  intro before t hpre rt
  rcases List.prefix_cons_iff.mp hpre with rfl | ⟨before', rfl, hpre'⟩
  · obtain rfl := rt.eq_of_nil
    exact h
  · obtain ⟨u, hu, ru⟩ := rt.first
    exact hrest u hu before' t hpre' ru

/-- What holds throughout a run, and throughout one from where it ends, holds throughout both: where
the labels fix the states, no other run has the labels of the first. -/
theorem Always.append {s t : σ} {es fs : List ε} {P : σ → Prop}
    (hP : Always step s es fun _ => P) (r : Run step s es t)
    (hdet : ∀ t e u v, step t e u → step t e v → u = v)
    (hrest : Always step t fs fun _ => P) : Always step s (es ++ fs) fun _ => P := by
  intro before u hpre ru
  rcases List.prefix_or_prefix_of_prefix hpre (List.prefix_append es fs) with hfirst | ⟨after, rfl⟩
  · exact hP before u hfirst ru
  · obtain ⟨v, rv, rafter⟩ := ru.split
    obtain rfl := r.unique rv hdet
    exact hrest after u ((List.prefix_append_right_inj es).mp hpre) rafter

/-- What holds throughout a run, and where one more step leads, holds throughout the longer run. -/
theorem Always.snoc {s : σ} {e : ε} {es : List ε} {P : List ε → σ → Prop} (hP : Always step s es P)
    (hlast : ∀ u, Run step s (es ++ [e]) u → P (es ++ [e]) u) :
    Always step s (es ++ [e]) P := by
  intro before t hpre rt
  rcases List.prefix_concat_iff.mp hpre with rfl | hpre
  · exact hlast t rt
  · exact hP before t hpre rt

/-! ## Loops over a list that may fail -/

section

variable {α : Type*} {f : σ → α → Option σ} {I : σ → Prop} {l : List α}

/-- The last round of a loop. -/
theorem foldlM_concat_iff {a : α} {s u : σ} :
    (l ++ [a]).foldlM f s = some u ↔ ∃ t, l.foldlM f s = some t ∧ f t a = some u := by
  rw [List.foldlM_append, Option.bind_eq_bind, Option.bind_eq_some_iff]
  simp only [List.foldlM_cons, List.foldlM_nil, bind_pure]

/-- What every round keeps, the loop keeps. -/
theorem foldlM_keeps (h : ∀ a ∈ l, ∀ s s', I s → f s a = some s' → I s') {s s' : σ} (hs : I s)
    (hl : l.foldlM f s = some s') : I s' := by
  induction l generalizing s with
  | nil =>
    cases hl
    exact hs
  | cons a l ih =>
    rw [List.foldlM_cons] at hl
    obtain ⟨t, ht, hl⟩ := Option.bind_eq_some_iff.mp hl
    exact ih (fun b hb => h b (.tail a hb)) (h a (.head l) s t hs ht) hl

/-- A loop none of whose rounds fails where the invariant holds does not fail. -/
theorem foldlM_exists (h : ∀ a ∈ l, ∀ s, I s → ∃ s', f s a = some s' ∧ I s') {s : σ} (hs : I s) :
    ∃ s', l.foldlM f s = some s' ∧ I s' := by
  induction l generalizing s with
  | nil => exact ⟨s, rfl, hs⟩
  | cons a l ih =>
    obtain ⟨t, ht, hit⟩ := h a (.head l) s hs
    obtain ⟨s', hl, hs'⟩ := ih (fun b hb => h b (.tail a hb)) hit
    refine ⟨s', ?_, hs'⟩
    rw [List.foldlM_cons, ht]
    exact hl

end

end GpuVirtmem.Lib
