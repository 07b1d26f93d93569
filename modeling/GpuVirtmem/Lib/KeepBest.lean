import Mathlib.Data.List.Induction
import Mathlib.Order.Lattice

/-!
# The best so far

A loop that goes through some candidates and keeps the better one each time. Where `better` compares
values, with `<` or with `≤`, what is kept has the least value; with `<` it is the first that has.

The relation is a parameter because the loops that one meets differ in it, and most often by a slip:
the wrong direction, or a value that is compared with one that the loop does not keep up to date.
The lemmas about values hold for a relation that compares them, and no others.
-/

namespace GpuVirtmem.Lib

variable {ι α : Type*} (better : ι → ι → Prop) [DecidableRel better]

/-- What is kept, from `start` on. -/
def keepBest (start : ι) (l : List ι) : ι :=
  l.foldl (fun best i => if better i best then i else best) start

section

variable {better} {start a : ι} {l : List ι}

/-- Without candidates the first one is kept. -/
@[simp] theorem keepBest_nil : keepBest better start [] = start := rfl

/-- One more candidate is compared with the best of those before it. The loop is a left fold, and
this is its equation at the end that the invariants go along. -/
theorem keepBest_concat : keepBest better start (l ++ [a]) =
    if better a (keepBest better start l) then a else keepBest better start l := by
  rw [keepBest, List.foldl_append]
  rfl

/-- A candidate that is not better than the first changes nothing: what the loop looks at twice, or
starts from, can be left out. -/
theorem keepBest_cons (h : ¬ better a start) :
    keepBest better start (a :: l) = keepBest better start l := by
  rw [keepBest, List.foldl_cons, if_neg h]
  rfl

/-- What is kept is one of the candidates, or the one it started from: no index is made up by the
loop. -/
theorem keepBest_mem : keepBest better start l ∈ start :: l := by
  induction l using List.reverseRecOn with
  | nil => exact List.mem_singleton_self start
  | append_singleton l a ih =>
    rw [keepBest_concat]
    split
    · simp
    · rw [← List.cons_append]
      exact List.mem_append_left _ ih

/-- The same loop, where each round may have no result. Where every read of the loop succeeds it is
the loop without failures, which is how a loop that reads from memory is brought to this form. -/
theorem keepBest_foldlM {f : ι → ι → Option ι}
    (hf : ∀ b ∈ start :: l, ∀ i ∈ l, f b i = some (if better i b then i else b)) :
    l.foldlM f start = some (keepBest better start l) := by
  induction l using List.reverseRecOn with
  | nil => rfl
  | append_singleton l a ih =>
    have hinit : l.foldlM f start = some (keepBest better start l) := by
      refine ih fun b hb i hi => hf b ?_ i (List.mem_append_left _ hi)
      rw [← List.cons_append]
      exact List.mem_append_left _ hb
    have hlast := hf (keepBest better start l) (by
      rw [← List.cons_append]
      exact List.mem_append_left _ keepBest_mem) a (by simp)
    rw [List.foldlM_append, hinit, keepBest_concat]
    simpa using hlast

/-- The loop may go through the places of the candidates, as it does in code that keeps an index and
not a value. -/
theorem keepBest_map {κ : Type*} {g : κ → ι} {k : κ} {ks : List κ} :
    keepBest better (g k) (ks.map g) = g (keepBest (fun i b => better (g i) (g b)) k ks) := by
  induction ks using List.reverseRecOn with
  | nil => rfl
  | append_singleton ks a ih =>
    rw [List.map_append, List.map_singleton, keepBest_concat, keepBest_concat, ih]
    split <;> rfl

/-- Candidates that are never better can be left out: a loop that skips some of them by a test of
its own is a loop over the others. -/
theorem keepBest_filter {p : ι → Prop} [DecidablePred p] :
    keepBest (fun i b => p i ∧ better i b) start l = keepBest better start (l.filter p) := by
  rw [keepBest, keepBest, List.foldl_filter]
  congr 1
  funext b i
  by_cases hp : p i <;> simp [hp]

variable [LinearOrder α] {f : ι → α}

/-- What is kept has the least value, if only smaller ones or equal ones are better, and all smaller
ones are. -/
theorem keepBest_le (hlt : ∀ i b, f i < f b → better i b) (hle : ∀ i b, better i b → f i ≤ f b) :
    ∀ i ∈ start :: l, f (keepBest better start l) ≤ f i := by
  induction l using List.reverseRecOn with
  | nil =>
    intro i hi
    rw [List.mem_singleton.mp hi]
    rfl
  | append_singleton l a ih =>
    intro i hi
    rw [← List.cons_append] at hi
    rw [keepBest_concat]
    rcases List.mem_append.mp hi with hi | hi
    · split
      · next hbetter => exact (hle _ _ hbetter).trans (ih i hi)
      · exact ih i hi
    · rw [List.mem_singleton.mp hi]
      split
      · rfl
      · next hnot => exact not_lt.mp fun h => hnot (hlt _ _ h)

/-- Where only smaller values are better, those before the one that is kept are greater. With
`keepBest_le` this fixes which one is kept when there are several with the least value. -/
theorem keepBest_first (hbetter : ∀ i b, better i b ↔ f i < f b) :
    ∃ k : Nat, (start :: l)[k]? = some (keepBest better start l) ∧
      ∀ j < k, ∀ i, (start :: l)[j]? = some i → f (keepBest better start l) < f i := by
  induction l using List.reverseRecOn with
  | nil => exact ⟨0, rfl, fun j hj => absurd hj (Nat.not_lt_zero j)⟩
  | append_singleton l a ih =>
    have hleast : ∀ i ∈ start :: l, f (keepBest better start l) ≤ f i :=
      keepBest_le (fun i b => (hbetter i b).mpr) fun i b h => ((hbetter i b).mp h).le
    obtain ⟨k, hk, hbefore⟩ := ih
    have hkl : k < (start :: l).length := (List.getElem?_eq_some_iff.mp hk).1
    rw [keepBest_concat, ← List.cons_append]
    split
    · next h =>
      refine ⟨(start :: l).length, List.getElem?_concat_length, ?_⟩
      intro j hj i hi
      rw [List.getElem?_append_left hj] at hi
      exact ((hbetter _ _).mp h).trans_le (hleast i (List.mem_of_getElem? hi))
    · refine ⟨k, (List.getElem?_append_left hkl).trans hk, ?_⟩
      intro j hj i hi
      rw [List.getElem?_append_left (Nat.lt_trans hj hkl)] at hi
      exact hbefore j hj i hi

/-- A search through the numbers below `n` looks at 0 twice, and ends on the lowest such number.
Starting from 0 without looking is the usual way to write it, and is right as long as there is at
least one number. -/
theorem keepBest_range {better : ℕ → ℕ → Prop} [DecidableRel better] {f : ℕ → α} {n i : ℕ}
    (hbetter : ∀ i b, better i b ↔ f i < f b) (hi : i < keepBest better 0 (List.range n)) :
    f (keepBest better 0 (List.range n)) < f i := by
  obtain ⟨k, hk, hbefore⟩ := @keepBest_first _ _ _ _ 0 (List.range n) _ _ hbetter
  cases k with
  | zero =>
    rw [← Option.some.inj hk] at hi
    cases hi
  | succ k =>
    rw [List.getElem?_cons_succ] at hk
    obtain ⟨hkn, hkept⟩ := List.getElem?_eq_some_iff.mp hk
    rw [List.length_range] at hkn
    rw [List.getElem_range] at hkept
    rw [← hkept] at hi
    refine hbefore (i + 1) (Nat.succ_lt_succ hi) i ?_
    rw [List.getElem?_cons_succ, List.getElem?_range (Nat.lt_trans hi hkn)]

end

end GpuVirtmem.Lib
