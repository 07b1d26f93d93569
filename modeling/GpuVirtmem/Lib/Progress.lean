import GpuVirtmem.Lib.Run
import Mathlib.Algebra.BigOperators.Group.Finset.Piecewise

/-!
# Machines whose runs end

Where every step of a machine lowers a measure, no run is longer than the measure of its start. If,
in addition, the machine can move in every state that it reaches before it is done, then every run
can be completed. It cannot be where a run leads into a trap: states that no step leaves.

To complete is more than to be able to: it is asked that whatever has been done so far can be gone
on with. A machine with one bad interleaving therefore does not complete, also if most of its runs
end well.
-/

namespace GpuVirtmem.Lib

variable {σ ε : Type*} {step : σ → ε → σ → Prop} {done I : σ → Prop} {s t : σ} {es : List ε}

/-- Every run can go on to a state in which the machine is done. -/
def Completes (step : σ → ε → σ → Prop) (done : σ → Prop) (s : σ) : Prop :=
  ∀ es t, Run step s es t → ∃ fs u, Run step t fs u ∧ done u

/-- What is left of the measure bounds what is left of a run: each step takes at least one from
it. -/
theorem Run.length_le {μ : σ → Nat} (r : Run step s es t) (h0 : I s)
    (hkeep : ∀ {t e u}, I t → step t e u → I u)
    (hμ : ∀ {t e u}, I t → step t e u → μ u < μ t) : es.length + μ t ≤ μ s := by
  induction r with
  | start => simp
  | snoc r h ih =>
    have hlower := hμ (r.invariant h0 hkeep) h
    rw [List.length_append, List.length_singleton]
    omega

/-- A machine that moves until it is done, and cannot move for ever, completes. The invariant `I` is
there because a machine usually moves only in the states that it reaches; the measure need not fall
outside of them either. -/
theorem completes_of_moves {μ : σ → Nat} (h0 : I s) (hkeep : ∀ {t e u}, I t → step t e u → I u)
    (hμ : ∀ {t e u}, I t → step t e u → μ u < μ t)
    (hmoves : ∀ {t}, I t → done t ∨ ∃ e u, step t e u) : Completes step done s := by
  have hgoes : ∀ n t, I t → μ t ≤ n → ∃ fs u, Run step t fs u ∧ done u := by
    intro n
    induction n with
    | zero =>
      intro t ht hn
      rcases hmoves ht with hdone | ⟨e, u, h⟩
      · exact ⟨[], t, .start, hdone⟩
      · have hlower := hμ ht h
        omega
    | succ n ih =>
      intro t ht hn
      rcases hmoves ht with hdone | ⟨e, u, h⟩
      · exact ⟨[], t, .start, hdone⟩
      · have hlower := hμ ht h
        obtain ⟨fs, v, r, hv⟩ := ih u (hkeep ht h) (by omega)
        exact ⟨e :: fs, v, r.cons h, hv⟩
  intro es t r
  exact hgoes (μ t) t (r.invariant h0 hkeep) le_rfl

/-- A machine does not complete where a run leads into a trap: states that no step leaves and in
which it is not done. One run is enough, since completion is asked of every run. -/
theorem not_completes_of_trap {trap : σ → Prop} (r : Run step s es t) (ht : trap t)
    (hkeep : ∀ {t e u}, trap t → step t e u → trap u) (hnot : ∀ {t}, trap t → ¬ done t) :
    ¬ Completes step done s := by
  intro hcompletes
  obtain ⟨fs, u, ru, hu⟩ := hcompletes es t r
  exact hnot (ru.invariant ht hkeep) hu

/-- The measure of a family of parties, after one of them has moved: the sum changes by what that
party's own measure changes by. -/
theorem sum_update_add {ι α : Type*} [DecidableEq ι] {S : Finset ι} {f : ι → α} {w : α → Nat}
    {i : ι} (a : α) (hi : i ∈ S) :
    ∑ j ∈ S, w (Function.update f i a j) + w (f i) = ∑ j ∈ S, w (f j) + w a := by
  have hcomp : ∀ j, w (Function.update f i a j) = Function.update (fun j => w (f j)) i (w a) j := by
    intro j
    by_cases hj : j = i
    · rw [hj, Function.update_self, Function.update_self]
    · rw [Function.update_of_ne hj, Function.update_of_ne hj]
  rw [Finset.sum_congr rfl fun j _ => hcomp j, Finset.sum_update_of_mem hi,
    Finset.sum_eq_add_sum_sdiff_singleton_of_mem hi fun j => w (f j)]
  omega

end GpuVirtmem.Lib
