import Mathlib.Logic.Function.Basic

/-!
# A binary semaphore

Parties that enter a section by a P and leave it by a V: the semaphore is free exactly when none of
them is inside, and never two of them are.

`Held` is the whole invariant. The three ways in which a party can move are the step lemmas, so that
a machine with such a semaphore shows `Held` of its runs by telling for each of its steps which of
them it is.
-/

namespace GpuVirtmem.Lib

variable {ι α : Type*} {inside : α → Prop} {f : ι → α} {free : Bool} {i j : ι} {a : α}

/-- The semaphore is free, or one party is between its P and its V. -/
def Held (inside : α → Prop) (f : ι → α) (free : Bool) : Prop :=
  ∃ holder : Option ι, free = holder.isNone ∧ ∀ i, inside (f i) ↔ holder = some i

/-- No party is inside yet. -/
theorem held_of_none (h : ∀ i, ¬ inside (f i)) : Held inside f true :=
  ⟨none, rfl, fun i => iff_of_false (h i) (Option.some_ne_none i).symm⟩

/-- Never two parties are inside. This is the mutual exclusion; it is read off the invariant, and no
run is needed for it any more. -/
theorem Held.unique (h : Held inside f free) (hi : inside (f i)) (hj : inside (f j)) : i = j := by
  obtain ⟨holder, -, hinside⟩ := h
  exact Option.some.inj (((hinside i).mp hi).symm.trans ((hinside j).mp hj))

/-- Where the semaphore is not free, some party is inside: a P that waits, waits for somebody. -/
theorem Held.exists_inside (h : Held inside f free) (hfree : free = false) : ∃ i, inside (f i) := by
  obtain ⟨holder, hsem, hinside⟩ := h
  cases holder with
  | none => cases hsem.symm.trans hfree
  | some i => exact ⟨i, (hinside i).mpr rfl⟩

variable [DecidableEq ι]

/-- A party moves that stays inside or outside. Most steps of a machine are of this kind and are
done with here. -/
theorem Held.update (h : Held inside f free) (ha : inside a ↔ inside (f i)) :
    Held inside (Function.update f i a) free := by
  obtain ⟨holder, hsem, hinside⟩ := h
  refine ⟨holder, hsem, fun j => ?_⟩
  by_cases hj : j = i
  · rw [hj, Function.update_self, ha, hinside]
  · rw [Function.update_of_ne hj, hinside]

/-- P, which goes on only while the semaphore is free: then nobody is inside, and the party is the
only one. -/
theorem Held.enter (h : Held inside f free) (hfree : free = true) (ha : inside a) :
    Held inside (Function.update f i a) false := by
  obtain ⟨holder, hsem, hinside⟩ := h
  have hnone : holder = none := Option.isNone_iff_eq_none.mp (hsem.symm.trans hfree)
  refine ⟨some i, rfl, fun j => ?_⟩
  by_cases hj : j = i
  · rw [hj, Function.update_self]
    exact iff_of_true ha rfl
  · rw [Function.update_of_ne hj, hinside, hnone]
    exact iff_of_false (Option.some_ne_none j).symm fun heq => hj (Option.some.inj heq).symm

/-- V, by the party that is inside. A V by any other would make the semaphore free while one is
still inside, and this is not covered. -/
theorem Held.leave (h : Held inside f free) (hin : inside (f i)) (ha : ¬ inside a) :
    Held inside (Function.update f i a) true := by
  obtain ⟨holder, -, hinside⟩ := h
  have hholder := (hinside i).mp hin
  refine ⟨none, rfl, fun j => ?_⟩
  by_cases hj : j = i
  · rw [hj, Function.update_self]
    exact iff_of_false ha (Option.some_ne_none i).symm
  · rw [Function.update_of_ne hj, hinside, hholder]
    exact iff_of_false (fun heq => hj (Option.some.inj heq).symm) (Option.some_ne_none j).symm

end GpuVirtmem.Lib
