import GpuVirtmem.Lib.KeepBest
import GpuVirtmem.Sched.Las
import Mathlib.Data.Prod.Lex

/-!
# The priorities of the least-attained-service scheduler (`l2scheduler/las_scheduler.c`)

Each pass of `las_control_thread` looks for the least execution time of the processes on its GPU and
gives the high priority to those that have it. The search starts from the time in slot 0, whoever is
in that slot, so that the least time may be that of none of them.

Starting a search for a minimum from the first entry is harmless as long as that entry takes part.
Here the loop passes over slots that are free or belong to another GPU, and slot 0 may be one of
these. What it holds is then compared with times that it has nothing to do with, and where it is
less than all of them no process gets the high priority.
-/

namespace GpuVirtmem.Sched

open Lib

/-- The microseconds are less than a second. -/
def Timeval.Normalised (t : Timeval) : Prop := 0 ≤ t.tvUsec.toInt ∧ t.tvUsec.toInt < 10 ^ 6

instance (t : Timeval) : Decidable t.Normalised := inferInstanceAs (Decidable (_ ∧ _))

/-- What `timercmp` compares by. -/
def Timeval.key (t : Timeval) : ℤ ×ₗ ℤ := toLex (t.tvSec.toInt, t.tvUsec.toInt)

/-- The slot is in use and bound to the GPU. -/
abbrev Entry.ValidOn (e : Entry) (gpuid : Nat) : Prop := e.gpuBinding = gpuid ∧ e.valid = true

/-- No slot of the GPU has a smaller time. -/
def LeastServed (d : SchedulerData) (gpuid : Nat) (i : Slot) : Prop :=
  ∀ j, (d.entry j).ValidOn gpuid →
    (d.entry i).executionTime.usec ≤ (d.entry j).executionTime.usec

/-- The slots of the GPU with the least time have the high priority, so that there is one if there
is a slot of the GPU at all, the others of the GPU have the normal priority, and nothing else has
changed. -/
structure FavoursLeast (gpuid : Nat) (d d' : SchedulerData) : Prop where
  high : ∀ i, (d.entry i).ValidOn gpuid → LeastServed d gpuid i →
    (d'.entry i).priority = priorityHigh
  normal : ∀ i, (d.entry i).ValidOn gpuid → ¬ LeastServed d gpuid i →
    (d'.entry i).priority = priorityNormal
  nonempty : (∃ i, (d.entry i).ValidOn gpuid) →
    ∃ i, (d.entry i).ValidOn gpuid ∧ (d'.entry i).priority = priorityHigh
  others : ∀ i, ¬ (d.entry i).ValidOn gpuid → (d'.entry i).priority = (d.entry i).priority

section

variable {gpuid : Nat} {d : SchedulerData} {i : Slot} {t u : Timeval}

/-! ## The order of the times -/

/-- `timercmp` compares seconds first and microseconds then. -/
theorem Timeval.lt_iff : t.lt u = true ↔ t.key < u.key := by
  unfold Timeval.lt key
  rw [Prod.Lex.toLex_lt_toLex]
  by_cases hsec : t.tvSec = u.tvSec
  · rw [if_pos hsec, decide_eq_true_iff, Int64.lt_iff_toInt_lt, hsec]
    simp
  · have hne : t.tvSec.toInt ≠ u.tvSec.toInt := fun h => hsec (Int64.toInt_inj.mp h)
    rw [if_neg hsec, decide_eq_true_iff, Int64.lt_iff_toInt_lt]
    simp [hne]

/-- What it finds equal is equal. -/
theorem Timeval.eq_of_key (h : t.key = u.key) : t = u := by
  obtain ⟨hsec, husec⟩ := Prod.mk.inj (toLex.injective h)
  obtain ⟨sec, usec⟩ := t
  obtain ⟨sec', usec'⟩ := u
  rw [Timeval.mk.injEq]
  exact ⟨Int64.toInt_inj.mp hsec, Int64.toInt_inj.mp husec⟩

/-- Normalised times are compared by their microseconds. -/
theorem Timeval.key_le_iff (ht : t.Normalised) (hu : u.Normalised) :
    t.key ≤ u.key ↔ t.usec ≤ u.usec := by
  obtain ⟨ht0, htlt⟩ := ht
  obtain ⟨hu0, hult⟩ := hu
  unfold key usec
  rw [Prod.Lex.toLex_le_toLex]
  dsimp only
  constructor
  · rintro (hsec | ⟨hsec, husec⟩) <;> omega
  · intro h
    omega

/-! ## `minval` -/

/-- The times of the GPU. -/
def SchedulerData.times (d : SchedulerData) (gpuid : Nat) : List Timeval :=
  ((List.finRange maxControllerCount).filter fun i => (d.entry i).ValidOn gpuid).map
    fun i => (d.entry i).executionTime

/-- The times of the GPU are those of its slots in use. -/
theorem mem_times : t ∈ d.times gpuid ↔
    ∃ i, (d.entry i).ValidOn gpuid ∧ (d.entry i).executionTime = t := by
  simp [SchedulerData.times]

/-- The loop of the source is a search for the best so far, from slot 0 on and through the times of
the GPU only. -/
theorem minval_eq : d.minval gpuid =
    keepBest (fun t u => t.lt u = true) (d.entry firstSlot).executionTime (d.times gpuid) := by
  unfold SchedulerData.minval SchedulerData.times keepBest
  rw [List.foldl_map, List.foldl_filter]
  congr 1
  funext minval i
  by_cases hon : (d.entry i).ValidOn gpuid
  · simp only [decide_eq_true hon, if_true, hon.1, hon.2, true_and]
  · have hnot : ¬ ((d.entry i).gpuBinding = gpuid ∧ (d.entry i).valid = true ∧
        (d.entry i).executionTime.lt minval = true) := fun h => hon ⟨h.1, h.2.1⟩
    rw [if_neg hnot, if_neg (by simpa using hon)]

/-- `minval` is a time of the GPU or the one in slot 0, and none of these is smaller. -/
theorem minval_spec : (d.minval gpuid = (d.entry firstSlot).executionTime ∨
      ∃ i, (d.entry i).ValidOn gpuid ∧ (d.entry i).executionTime = d.minval gpuid) ∧
    (d.minval gpuid).key ≤ (d.entry firstSlot).executionTime.key ∧
    ∀ i, (d.entry i).ValidOn gpuid → (d.minval gpuid).key ≤ (d.entry i).executionTime.key := by
  have hleast : ∀ t ∈ (d.entry firstSlot).executionTime :: d.times gpuid,
      (d.minval gpuid).key ≤ t.key := by
    rw [minval_eq]
    exact keepBest_le (fun _ _ => Timeval.lt_iff.mpr) fun _ _ h => (Timeval.lt_iff.mp h).le
  refine ⟨?_, hleast _ List.mem_cons_self, fun i hi => ?_⟩
  · have hmem : d.minval gpuid ∈ (d.entry firstSlot).executionTime :: d.times gpuid := by
      rw [minval_eq]
      exact keepBest_mem
    exact (List.mem_cons.mp hmem).imp_right mem_times.mp
  · exact hleast _ (List.mem_cons_of_mem _ (mem_times.mpr ⟨i, hi, rfl⟩))

/-! ## The priorities -/

/-- The second loop, on a slot of the GPU. -/
theorem priority_of_valid (hidles : ¬ d.Idles) (hi : (d.entry i).ValidOn gpuid) :
    ((lasControlRound gpuid d).entry i).priority =
      if (d.entry i).executionTime = d.minval gpuid then priorityHigh else priorityNormal := by
  rw [lasControlRound, if_neg hidles, SchedulerData.mapEntries_entry, if_pos hi]
  by_cases htime : (d.entry i).executionTime = d.minval gpuid
  · rw [if_pos htime, if_neg (not_not.mpr htime)]
  · rw [if_neg htime, if_pos htime]

/-- The second loop passes over the other slots. -/
theorem priority_of_not_valid (hi : ¬ (d.entry i).ValidOn gpuid) :
    ((lasControlRound gpuid d).entry i).priority = (d.entry i).priority := by
  unfold lasControlRound
  split
  · rfl
  · rw [SchedulerData.mapEntries_entry, if_neg hi]

/-- The slots with the high priority are those with the time `minval`. -/
theorem priority_eq_high (hidles : ¬ d.Idles) (hi : (d.entry i).ValidOn gpuid) :
    ((lasControlRound gpuid d).entry i).priority = priorityHigh ↔
      (d.entry i).executionTime = d.minval gpuid := by
  rw [priority_of_valid hidles hi]
  split
  · next h => exact iff_of_true rfl h
  · next h => exact iff_of_false (by decide) h

/-- `minval` is the time of a slot of the GPU where one of these has run no longer than slot 0
says. -/
theorem minval_attained (hnormal : ∀ i, (d.entry i).executionTime.Normalised)
    (h : ∃ i, (d.entry i).ValidOn gpuid ∧
      (d.entry i).executionTime.usec ≤ (d.entry firstSlot).executionTime.usec) :
    ∃ i, (d.entry i).ValidOn gpuid ∧ (d.entry i).executionTime = d.minval gpuid := by
  obtain ⟨hfound, -, hleast⟩ := @minval_spec gpuid d
  rcases hfound with hzero | hslot
  · obtain ⟨i, hi, hle⟩ := h
    have hkey := (Timeval.key_le_iff (hnormal i) (hnormal _)).mpr hle
    rw [← hzero] at hkey
    exact ⟨i, hi, Timeval.eq_of_key (le_antisymm hkey (hleast i hi))⟩
  · exact hslot

/-- Where `minval` is the time of a slot of the GPU, those with that time are the least served. -/
theorem leastServed_iff (hnormal : ∀ i, (d.entry i).executionTime.Normalised)
    (h : ∃ i, (d.entry i).ValidOn gpuid ∧ (d.entry i).executionTime = d.minval gpuid)
    (hi : (d.entry i).ValidOn gpuid) :
    LeastServed d gpuid i ↔ (d.entry i).executionTime = d.minval gpuid := by
  obtain ⟨-, -, hleast⟩ := @minval_spec gpuid d
  obtain ⟨k, hk, htime⟩ := h
  constructor
  · intro hbest
    have hkey := (Timeval.key_le_iff (hnormal i) (hnormal k)).mpr (hbest k hk)
    rw [htime] at hkey
    exact Timeval.eq_of_key (le_antisymm hkey (hleast i hi))
  · intro htime j hj
    refine (Timeval.key_le_iff (hnormal i) (hnormal j)).mp ?_
    rw [htime]
    exact hleast j hj

/-- The least served processes are favoured exactly if one of them has served no longer than slot 0
says, where there is a process at all.

With slot 0 free or of another GPU, its time takes part in the search and may be the least. -/
theorem favours_least_iff (gpuid : Nat) (d : SchedulerData)
    (hnormal : ∀ i, (d.entry i).executionTime.Normalised) (hidles : ¬ d.Idles) :
    FavoursLeast gpuid d (lasControlRound gpuid d) ↔
      ((∃ i, (d.entry i).ValidOn gpuid) → ∃ i, (d.entry i).ValidOn gpuid ∧
        (d.entry i).executionTime.usec ≤ (d.entry firstSlot).executionTime.usec) := by
  constructor
  · intro hfavours hsome
    obtain ⟨-, hfirst, -⟩ := @minval_spec gpuid d
    obtain ⟨i, hi, hhigh⟩ := hfavours.nonempty hsome
    refine ⟨i, hi, (Timeval.key_le_iff (hnormal i) (hnormal _)).mp ?_⟩
    rw [(priority_eq_high hidles hi).mp hhigh]
    exact hfirst
  · intro hcond
    have hserved : ∀ i, (d.entry i).ValidOn gpuid →
        (LeastServed d gpuid i ↔ (d.entry i).executionTime = d.minval gpuid) :=
      fun i hi => leastServed_iff hnormal (minval_attained hnormal (hcond ⟨i, hi⟩)) hi
    constructor
    · intro i hi hbest
      exact (priority_eq_high hidles hi).mpr ((hserved i hi).mp hbest)
    · intro i hi hbest
      rw [priority_of_valid hidles hi, if_neg fun h => hbest ((hserved i hi).mpr h)]
    · intro hsome
      obtain ⟨i, hi, htime⟩ := minval_attained hnormal (hcond hsome)
      exact ⟨i, hi, (priority_eq_high hidles hi).mpr htime⟩
    · exact fun i hi => priority_of_not_valid hi

end

/-- A table with one process, which has run for five seconds, in slot 1; slot 0 is free, with the
time of whoever was there. -/
def secondSlotOnly (first : Timeval) : SchedulerData where
  entry i :=
    if i = firstSlot then { zeroEntry with executionTime := first }
    else if i = nextSlot firstSlot then
      { zeroEntry with processList := 7, valid := true, executionTime := ⟨5, 0⟩ }
    else zeroEntry
  pollingThreadCount := nextSlot (nextSlot firstSlot)

/-- The times of that table are normalised. -/
theorem secondSlotOnly_normalised {first : Timeval} (h : first.Normalised) (i : Slot) :
    ((secondSlotOnly first).entry i).executionTime.Normalised := by
  simp only [secondSlotOnly]
  split
  · exact h
  · split <;> decide

/-- The time that is left in slot 0 is later than that of the only process, which is favoured. -/
theorem favours_least_iff_laterFirst :
    FavoursLeast 0 (secondSlotOnly ⟨6, 0⟩) (lasControlRound 0 (secondSlotOnly ⟨6, 0⟩)) ↔
      ((∃ i, ((secondSlotOnly ⟨6, 0⟩).entry i).ValidOn 0) →
        ∃ i, ((secondSlotOnly ⟨6, 0⟩).entry i).ValidOn 0 ∧
          ((secondSlotOnly ⟨6, 0⟩).entry i).executionTime.usec ≤
            ((secondSlotOnly ⟨6, 0⟩).entry firstSlot).executionTime.usec) :=
  favours_least_iff 0 _ (secondSlotOnly_normalised (by decide)) (by decide)

/-- Where slot 0 is free and holds the time 0, the only process has the normal priority: nobody has
run for so little. -/
theorem nobody_favoured : ¬ ∀ (gpuid : Nat) (d : SchedulerData),
    (∀ i, (d.entry i).executionTime.Normalised) → ¬ d.Idles →
      FavoursLeast gpuid d (lasControlRound gpuid d) := by
  intro hclaim
  have hidles : ¬ (secondSlotOnly ⟨0, 0⟩).Idles := by decide
  have hfavours := hclaim 0 _ (secondSlotOnly_normalised (by decide)) hidles
  have hvalid : ∀ i, ((secondSlotOnly ⟨0, 0⟩).entry i).ValidOn 0 → i = nextSlot firstSlot := by
    intro i hi
    simp only [secondSlotOnly, zeroEntry] at hi
    by_contra hne
    split at hi
    · cases hi.2
    · cases hi.2
  obtain ⟨i, hi, hhigh⟩ := hfavours.nonempty ⟨nextSlot firstSlot, by decide⟩
  obtain rfl := hvalid i hi
  have htime := (priority_eq_high hidles hi).mp hhigh
  have hle := (@minval_spec 0 (secondSlotOnly ⟨0, 0⟩)).2.1
  rw [← htime] at hle
  exact absurd hle (by decide)

end GpuVirtmem.Sched
