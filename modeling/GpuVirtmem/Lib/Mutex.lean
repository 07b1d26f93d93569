import GpuVirtmem.Lib.Run
import Mathlib.Logic.Function.Basic

/-!
# Threads around a mutex

Each thread is at some place of its program, and the place says whether the next statement locks the
mutex, unlocks it or does neither. A lock goes on only while the mutex is free: a thread that tries
to lock it again is stuck. A discipline says at which places a thread holds the mutex; where every
statement keeps to it, the owner can be read off the places in every run (`Threads.owned_of_run`).

`Proper` is what one asks of a program with a mutex, and a discipline is how one finds out: the
places that threads visit are checked one by one against `holds`, with no interleaving in sight. For
a program that breaks the discipline there is `KeepsMutex`, the places behind the slip, from which
the mutex does not come free again.
-/

namespace GpuVirtmem.Lib

/-- What a statement does with the mutex. -/
inductive MutexOp
  | lock | unlock | other
  deriving DecidableEq

/-- The data that the threads share, the place of each, and the owner of the mutex. -/
structure Threads (ι δ π : Type*) where
  data : δ
  place : ι → π
  owner : Option ι

/-- The owner after a statement of thread `i`. -/
def MutexOp.owner {ι : Type*} (i : ι) (before : Option ι) : MutexOp → Option ι
  | .lock => some i
  | .unlock => none
  | .other => before

section

variable {ι δ π ε : Type*} {op : π → MutexOp} {holds visits : π → Prop} {s : Threads ι δ π}

/-- The statements of the program keep to what `holds` says, at the places that are visited. A
statement that would lock the mutex twice need not: it is never completed. -/
structure Discipline (op : π → MutexOp) (move : ι → δ → π → ε → δ → π → Prop)
    (holds visits : π → Prop) : Prop where
  lock : ∀ {i d p e d' p'}, move i d p e d' p' → visits p → op p = .lock → ¬ holds p →
    holds p' ∧ visits p'
  unlock : ∀ {i d p e d' p'}, move i d p e d' p' → visits p → op p = .unlock →
    holds p ∧ ¬ holds p' ∧ visits p'
  other : ∀ {i d p e d' p'}, move i d p e d' p' → visits p → op p = .other →
    (holds p' ↔ holds p) ∧ visits p'

/-- The owner is the thread that holds the mutex by its place. -/
structure Threads.Owned (holds visits : π → Prop) (s : Threads ι δ π) : Prop where
  owner : ∀ i, s.owner = some i ↔ holds (s.place i)
  visits : ∀ i, visits (s.place i)

/-- No thread is about to lock the mutex while it holds it, or to unlock it while it does not, and
none holds it at the places where `free` says so. -/
structure Threads.Proper (op : π → MutexOp) (free : π → Prop) (s : Threads ι δ π) : Prop where
  locks : ∀ i, op (s.place i) = .lock → s.owner ≠ some i
  unlocks : ∀ i, op (s.place i) = .unlock → s.owner = some i
  heads : ∀ i, free (s.place i) → s.owner ≠ some i

/-- Where the owner can be read off the places, so can it whether the mutex is used properly: only a
thread that is about to lock it at a place where it holds it already is left as a case. That is a
question about one thread at a time. -/
theorem Threads.Owned.proper_iff {free : π → Prop} (h : s.Owned holds visits)
    (hunlock : ∀ p, op p = .unlock → holds p) (hfree : ∀ p, free p → ¬ holds p) :
    s.Proper op free ↔ ∀ i, op (s.place i) = .lock → ¬ holds (s.place i) := by
  constructor
  · intro hproper i hop hholds
    exact hproper.locks i hop ((h.owner i).mpr hholds)
  · intro hnot
    refine ⟨fun i hop howner => hnot i hop ((h.owner i).mp howner), fun i hop => ?_, ?_⟩
    · exact (h.owner i).mpr (hunlock _ hop)
    · intro i hi howner
      exact hfree _ hi ((h.owner i).mp howner)

end

section

variable {ι δ π ε : Type*} [DecidableEq ι] {op : π → MutexOp} {move : ι → δ → π → ε → δ → π → Prop}
  {holds visits : π → Prop} {s t : Threads ι δ π} {e : ι × ε} {es : List (ι × ε)} {i : ι}

/-- A thread takes its next statement. -/
inductive Threads.Step (op : π → MutexOp) (move : ι → δ → π → ε → δ → π → Prop)
    (s : Threads ι δ π) : ι × ε → Threads ι δ π → Prop
  | intro {i : ι} {e : ε} {d : δ} {p : π} (hmove : move i s.data (s.place i) e d p)
      (hlock : op (s.place i) = .lock → s.owner = none) :
      Step op move s (i, e)
        { data := d, place := Function.update s.place i p
          owner := (op (s.place i)).owner i s.owner }

/-- A thread can take its next statement, unless it is a lock of a mutex that is taken. No other
statement waits, so that a thread that stands still stands at a lock. -/
theorem Threads.exists_step {d : δ} {p p' : π} {x : ε} (hplace : s.place i = p)
    (hmove : move i s.data p x d p') (hlock : op p = .lock → s.owner = none) :
    ∃ t, Threads.Step op move s (i, x) t ∧ t.data = d ∧ t.place i = p' ∧
      t.owner = (op p).owner i s.owner := by
  subst hplace
  exact ⟨_, .intro hmove hlock, rfl, by simp, rfl⟩

/-- A statement of thread `i`, seen from each thread: the others stay where they were, and what the
statement does with the mutex agrees with what the discipline says of the place before and the place
after. -/
theorem Threads.Owned.update {d : δ} {p : π} {after : Option ι} (h : s.Owned holds visits)
    (hself : after = some i ↔ holds p) (hvisits : visits p)
    (hothers : ∀ j, j ≠ i → (after = some j ↔ s.owner = some j)) :
    Threads.Owned holds visits
      { data := d, place := Function.update s.place i p, owner := after } := by
  constructor
  · intro j
    by_cases hj : j = i
    · subst hj
      simpa using hself
    · simp only [Function.update_of_ne hj]
      exact (hothers j hj).trans (h.owner j)
  · intro j
    by_cases hj : j = i
    · subst hj
      simpa using hvisits
    · simpa [Function.update_of_ne hj] using h.visits j

/-- Every step keeps to the discipline. This is the step lemma; the case that could break it, a lock
of a mutex that another thread holds, is no step at all. -/
theorem Threads.Step.owned (hd : Discipline op move holds visits) (h : s.Owned holds visits)
    (hstep : Threads.Step op move s e t) : t.Owned holds visits := by
  cases hstep with
  | @intro i e d p hmove hlock =>
    have hvisits := h.visits i
    cases hop : op (s.place i) with
    | lock =>
      have hfree := hlock hop
      have hnot : ¬ holds (s.place i) := by
        intro hholds
        have howner := (h.owner i).mpr hholds
        rw [hfree] at howner
        cases howner
      obtain ⟨hholds, hnext⟩ := hd.lock hmove hvisits hop hnot
      refine h.update ⟨fun _ => hholds, fun _ => rfl⟩ hnext fun j hj => ?_
      simp [MutexOp.owner, hfree, Ne.symm hj]
    | unlock =>
      obtain ⟨hholds, hnot, hnext⟩ := hd.unlock hmove hvisits hop
      have howner := (h.owner i).mpr hholds
      refine h.update ?_ hnext fun j hj => ?_
      · simp [MutexOp.owner, hnot]
      · simp [MutexOp.owner, howner, Ne.symm hj]
    | other =>
      obtain ⟨hsame, hnext⟩ := hd.other hmove hvisits hop
      exact h.update ((h.owner i).trans hsame.symm) hnext fun j _ => Iff.rfl

/-- In every state of a run the owner of the mutex can be read off the places of the threads, so
that an invariant of the mutex never has to be carried beside the places. -/
theorem Threads.owned_of_run (hd : Discipline op move holds visits) (h : s.Owned holds visits)
    (r : Run (Threads.Step op move) s es t) : t.Owned holds visits :=
  r.invariant h fun hs hstep => hstep.owned hd hs

/-- Places that a thread that holds the mutex does not leave by an unlock. -/
structure KeepsMutex (op : π → MutexOp) (move : ι → δ → π → ε → δ → π → Prop) (keeps : π → Prop) :
    Prop where
  unlock : ∀ {p}, keeps p → op p ≠ .unlock
  stays : ∀ {i d p e d' p'}, move i d p e d' p' → keeps p → op p = .other → keeps p'

/-- Where the owner of the mutex is at such a place, no thread locks or unlocks it any more. A
machine with a slip, a lock where an unlock belongs, comes to such a place and stays there. -/
theorem Threads.Step.kept {keeps : π → Prop} {j : ι} {x : ε} (hk : KeepsMutex op move keeps)
    (hown : s.Owned holds visits) (hunlock : ∀ p, op p = .unlock → holds p)
    (howner : s.owner = some i) (hkeeps : keeps (s.place i))
    (hstep : Threads.Step op move s (j, x) t) :
    op (s.place j) = .other ∧ t.owner = some i ∧ keeps (t.place i) := by
  cases hstep with
  | intro hmove hlock =>
    have hother : op (s.place j) = .other := by
      cases hop : op (s.place j) with
      | lock =>
        have hfree := hlock hop
        rw [howner] at hfree
        cases hfree
      | unlock =>
        have hj := (hown.owner j).mpr (hunlock _ hop)
        cases howner.symm.trans hj
        exact absurd hop (hk.unlock hkeeps)
      | other => rfl
    refine ⟨hother, ?_, ?_⟩
    · rw [hother]
      exact howner
    · by_cases hij : i = j
      · subst hij
        simpa using hk.stays hmove hkeeps hother
      · simpa [Function.update_of_ne hij] using hkeeps

end

end GpuVirtmem.Lib
