import GpuVirtmem.Lib.Run
import GpuVirtmem.Sched.Las

/-!
# Attained service (`l2scheduler/las_scheduler.c`, `backend/libl2scheduler.c`)

A process notifies the scheduler of the time that it has used, and the scheduler orders the
processes by the sum. The sum is kept in the slot of the process, and a slot serves one process
after the other: a registration writes some of its fields.

Beside the table stands what it should say: for each slot the time that its occupant has notified
since it registered, and the type it registered with. The two are compared after each message. Three
things can drive them apart, and all of them are in what a message finds or leaves out: the type is
not stored, the time of the former occupant is not cleared, and a time that is sent to the wrong
listener is dropped.

That times are in order, and that their sums fit, is asked of the messages (`Admissible`); the
clients take them from the clock, and have not been running for so long.
-/

namespace GpuVirtmem.Sched

open Lib

/-- `APP_TYPE_A`. -/
def appTypeA : Int32 := 0

namespace Timeval

/-- The microseconds of a time. -/
def micros (t : Timeval) : Int := t.tvSec.toInt * 1000000 + t.tvUsec.toInt

/-- `tv_usec` is the rest of a second. -/
def Normal (t : Timeval) : Prop := 0 ≤ t.tvUsec.toInt ∧ t.tvUsec.toInt < 1000000

/-- The seconds of the sum do not overflow. -/
def Fits (a b : Timeval) : Prop :=
  -2 ^ 63 ≤ a.tvSec.toInt + b.tvSec.toInt ∧ a.tvSec.toInt + b.tvSec.toInt + 1 < 2 ^ 63

section

variable {a b : Timeval}

/-- Seconds that do not overflow are added as numbers. -/
theorem toInt_add_of_fits {x y : Int64} (h : -2 ^ 63 ≤ x.toInt + y.toInt)
    (h' : x.toInt + y.toInt < 2 ^ 63) : (x + y).toInt = x.toInt + y.toInt := by
  rw [Int64.toInt_add, Int.bmod_eq_of_le] <;> omega

/-- The sum is in order, and exact: `timeradd` carries a second over where the microseconds make
one. -/
theorem add_normal (ha : a.Normal) (hb : b.Normal) (h : Fits a b) :
    (a.add b).Normal ∧ (a.add b).micros = a.micros + b.micros := by
  obtain ⟨ha0, ha⟩ := ha
  obtain ⟨hb0, hb⟩ := hb
  obtain ⟨hlow, hhigh⟩ := h
  have husec := toInt_add_of_fits (x := a.tvUsec) (y := b.tvUsec) (by omega) (by omega)
  have hsec := toInt_add_of_fits (x := a.tvSec) (y := b.tvSec) hlow (by omega)
  have hmillion : (1000000 : Int64).toInt = 1000000 := rfl
  have hone : (1 : Int64).toInt = 1 := rfl
  unfold add
  split
  · next hcarry =>
    have hcarry := Int64.le_iff_toInt_le.mp hcarry
    have hrest : (a.tvUsec + b.tvUsec - 1000000).toInt =
        a.tvUsec.toInt + b.tvUsec.toInt - 1000000 := by
      rw [Int64.toInt_sub, husec, hmillion, Int.bmod_eq_of_le] <;> omega
    have hnext := toInt_add_of_fits (x := a.tvSec + b.tvSec) (y := 1) (by omega) (by omega)
    dsimp only [Normal, micros]
    omega
  · next hcarry =>
    have hcarry := mt Int64.le_iff_toInt_le.mpr hcarry
    dsimp only [Normal, micros]
    omega

/-- Times in order are compared by their microseconds. For a `tv_usec` of a second or more the
comparison of the source would not be one of times. -/
theorem lt_iff_micros (ha : a.Normal) (hb : b.Normal) : a.lt b = true ↔ a.micros < b.micros := by
  obtain ⟨ha0, ha⟩ := ha
  obtain ⟨hb0, hb⟩ := hb
  unfold lt micros
  split
  · next hsec =>
    rw [hsec, decide_eq_true_iff, Int64.lt_iff_toInt_lt]
    omega
  · next hsec =>
    have hne : a.tvSec.toInt ≠ b.tvSec.toInt := fun h => hsec (Int64.toInt_inj.mp h)
    rw [decide_eq_true_iff, Int64.lt_iff_toInt_lt]
    omega

end

end Timeval

/-- A table with, for each slot, the time that its occupant has notified since it registered, and
the type in the message it has registered with. -/
structure Serviced where
  data : SchedulerData
  notified : Slot → Int
  addedType : Slot → Int32

namespace Serviced

/-- The occupant of slot `i` is process `pid`. -/
def Occupies (s : Serviced) (pid : Nat) (i : Slot) : Prop :=
  (s.data.entry i).valid = true ∧ (s.data.entry i).processList = pid

instance (s : Serviced) (pid : Nat) (i : Slot) : Decidable (s.Occupies pid i) :=
  inferInstanceAs (Decidable (_ ∧ _))

/-- The message registers its process. -/
def Registers (s : Serviced) (pcd : ProcessCreditData) : Prop :=
  pcd.action = addQ ∧ lasAlreadyAdded s.data pcd = false

instance (s : Serviced) (pcd : ProcessCreditData) : Decidable (s.Registers pcd) :=
  inferInstanceAs (Decidable (_ ∧ _))

/-- A message to the listener of GPU `gpuid`, with what it means for the slots. -/
def listen (s : Serviced) (gpuid : Nat) (pcd : ProcessCreditData) : Option Serviced :=
  (lasListen gpuid s.data pcd).map fun (d, _) =>
    if s.Registers pcd then
      { data := d
        notified := Function.update s.notified s.data.pollingThreadCount 0
        addedType := Function.update s.addedType s.data.pollingThreadCount pcd.appType }
    else if pcd.action = notifySched then
      { data := d
        notified := fun i =>
          if s.Occupies pcd.pid i then s.notified i + pcd.executionTime.micros else s.notified i
        addedType := s.addedType }
    else { s with data := d }

/-- The messages that are considered: a process has a pid, and the times it notifies are in order
and fit the slot. -/
structure Admissible (s : Serviced) (pcd : ProcessCreditData) : Prop where
  action : pcd.action = addQ ∨ pcd.action = remQ ∨ pcd.action = notifySched
  pid : pcd.pid ≠ invalidProceess
  normal : pcd.action = notifySched → pcd.executionTime.Normal
  fits : pcd.action = notifySched → ∀ i, s.Occupies pcd.pid i →
    Timeval.Fits (s.data.entry i).executionTime pcd.executionTime

/-- One message, with the GPU of the listener. -/
def Listens (s : Serviced) (m : Nat × ProcessCreditData) (t : Serviced) : Prop :=
  s.Admissible m.2 ∧ s.listen m.1 m.2 = some t

/-- The scheduler when its listeners have started. -/
def start : Serviced := ⟨staticData, fun _ => 0, fun _ => 0⟩

/-- Each slot in use holds the time and the type of its occupant; so do the records that are sent
for it, and slots are ordered by the times of their occupants. -/
structure Attained (s : Serviced) : Prop where
  time : ∀ i, (s.data.entry i).valid = true →
    (s.data.entry i).executionTime.micros = s.notified i
  type : ∀ i, (s.data.entry i).valid = true → (s.data.entry i).appType = s.addedType i
  record : ∀ gpuid pcd i, (s.data.entry i).valid = true → pcd.action = getL2Data →
    pcd.gpuid = i.val → ∃ sent, lasListen gpuid s.data pcd =
        some (s.data, [.write (.clientReadPath pcd.pid) (.data sent)]) ∧
      sent.executionTime.micros = s.notified i ∧ sent.appType = s.addedType i
  order : ∀ i j, (s.data.entry i).valid = true → (s.data.entry j).valid = true →
    ((s.data.entry i).executionTime.lt (s.data.entry j).executionTime = true ↔
      s.notified i < s.notified j)

/-- A process that registers is of type A and finds no time in its slot; a time that is notified
reaches the listener of the slot's GPU. -/
structure Clean (s : Serviced) (m : Nat × ProcessCreditData) : Prop where
  registers : s.Registers m.2 → m.2.appType = appTypeA ∧
    (s.data.entry s.data.pollingThreadCount).executionTime.micros = 0
  notifies : m.2.action = notifySched → ∀ i, s.Occupies m.2.pid i →
    (s.data.entry i).gpuBinding = m.1 ∨ m.2.executionTime.micros = 0

section

variable {s t : Serviced} {m : Nat × ProcessCreditData} {i j : Slot}
  {ms : List (Nat × ProcessCreditData)}

/-- What a listener does is fixed by the message. -/
theorem Listens.det {u : Serviced} (h : Listens s m t) (h' : Listens s m u) : t = u :=
  Option.some.inj (h.2.symm.trans h'.2)

/-- What holds in every state. -/
structure Kept (s : Serviced) : Prop where
  normal : ∀ i, (s.data.entry i).executionTime.Normal
  typeA : ∀ i, (s.data.entry i).appType = appTypeA
  used : ∀ i, (s.data.entry i).processList ≠ invalidProceess → (s.data.entry i).valid = true
  unique : ∀ i j, (s.data.entry i).processList = (s.data.entry j).processList →
    (s.data.entry i).processList ≠ invalidProceess → i = j

/-- The time and the type that each slot in use holds are those of its occupant. -/
structure Holds (s : Serviced) : Prop where
  time : ∀ i, (s.data.entry i).valid = true →
    (s.data.entry i).executionTime.micros = s.notified i
  type : ∀ i, (s.data.entry i).valid = true → (s.data.entry i).appType = s.addedType i

/-- The table at the start is as it must be. -/
theorem start_kept : start.Kept := by
  refine ⟨fun i => ?_, fun i => rfl, fun i hi => ?_, fun i j _ hi => ?_⟩
  · have hmicros : (0 : Int64).toInt < 1000000 := by decide
    exact ⟨le_rfl, hmicros⟩
  · exact absurd rfl hi
  · exact absurd rfl hi

/-- No slot is in use yet. -/
theorem start_holds : start.Holds := ⟨fun _ h => (nomatch h), fun _ h => (nomatch h)⟩

/-- The records and the order come with the times and the types. -/
theorem Holds.attained (h : s.Holds) (hk : s.Kept) : s.Attained := by
  refine ⟨h.time, h.type, fun gpuid pcd i hi haction hgpuid => ?_, fun i j hi hj => ?_⟩
  · refine ⟨pcd.l2Reply (s.data.entry i), ?_, h.time i hi, h.type i hi⟩
    have hentry : s.data.entryAt pcd.gpuid = some (s.data.entry i) := by
      rw [hgpuid]
      exact dif_pos i.isLt
    unfold lasListen
    simp [haction, addQ, remQ, notifySched, getPriority, getL2Data, hentry]
  · rw [Timeval.lt_iff_micros (hk.normal i) (hk.normal j), h.time i hi, h.time j hj]

/-- What a message does, by its kind. -/
theorem listens_cases (h : Listens s m t) :
    (s.Registers m.2 ∧ t = ⟨(lasRegisterProcess s.data m.2.pid m.2.gpuid false).1,
        Function.update s.notified s.data.pollingThreadCount 0,
        Function.update s.addedType s.data.pollingThreadCount m.2.appType⟩) ∨
    (m.2.action = notifySched ∧ t = ⟨lasNotify s.data m.1 m.2, fun i =>
        if s.Occupies m.2.pid i then s.notified i + m.2.executionTime.micros else s.notified i,
      s.addedType⟩) ∨
    (¬ s.Registers m.2 ∧ m.2.action ≠ notifySched ∧
      (t = s ∨ t = { s with data := remProcess s.data m.1 m.2.pid Entry.lasFreed })) := by
  obtain ⟨⟨haction, -, -, -⟩, hlisten⟩ := h
  obtain ⟨⟨d, effects⟩, hd, rfl⟩ := Option.map_eq_some_iff.mp hlisten
  have hnot : ∀ {action}, m.2.action = action → action ≠ addQ → ¬ s.Registers m.2 :=
    fun h hne hadd => hne (h.symm.trans hadd.1)
  rcases lasListen_cases hd with ⟨hadd, hnew, rfl, -⟩ | ⟨hrem, rfl, -⟩ | ⟨hnotify, rfl, -⟩ |
    ⟨hprio, -⟩ | ⟨hl2, -⟩ | ⟨hadd, -, -, rfl, -⟩
  · exact .inl ⟨⟨hadd, hnew⟩, if_pos ⟨hadd, hnew⟩⟩
  · have hreg := hnot hrem (by decide)
    have hnotify : m.2.action ≠ notifySched := by
      rw [hrem]
      decide
    refine .inr (.inr ⟨hreg, hnotify, .inr ?_⟩)
    exact (if_neg hreg).trans (if_neg hnotify)
  · have hreg := hnot hnotify (by decide)
    exact .inr (.inl ⟨hnotify, (if_neg hreg).trans (if_pos hnotify)⟩)
  · rcases haction with h | h | h
    all_goals
      rw [h] at hprio
      cases hprio
  · rcases haction with h | h | h
    all_goals
      rw [h] at hl2
      cases hl2
  · by_cases hnotify : m.2.action = notifySched
    · have hsame : lasListen m.1 s.data m.2 = some (lasNotify s.data m.1 m.2, []) := by
        unfold lasListen
        rw [if_neg hadd, if_neg (by rw [hnotify]; decide), if_pos hnotify]
      have hdata : s.data = lasNotify s.data m.1 m.2 := by
        rw [hsame] at hd
        exact (Prod.mk.inj (Option.some.inj hd)).1.symm
      refine .inr (.inl ⟨hnotify, ?_⟩)
      rw [← hdata]
      exact (if_neg hadd).trans (if_pos hnotify)
    · refine .inr (.inr ⟨hadd, hnotify, .inl ?_⟩)
      exact (if_neg hadd).trans (if_neg hnotify)

/-- A notification adds the time to the slot of the process, where that is one of the listener's
GPU. Sent to another listener it is lost. -/
theorem lasNotify_cases (d : SchedulerData) (gpuid : Nat) (pcd : ProcessCreditData) :
    (∃ i, (d.entry i).processList = pcd.pid ∧ (d.entry i).gpuBinding = gpuid ∧
      lasNotify d gpuid pcd = d.set i
        { d.entry i with executionTime := (d.entry i).executionTime.add pcd.executionTime }) ∨
    ((∀ i, (d.entry i).processList = pcd.pid → (d.entry i).gpuBinding ≠ gpuid) ∧
      lasNotify d gpuid pcd = d) := by
  unfold lasNotify
  cases hf : d.findSlot fun e => e.processList == pcd.pid && gpuid == e.gpuBinding with
  | some i =>
    have hi := SchedulerData.findSlot_holds hf
    rw [Bool.and_eq_true, beq_iff_eq, beq_iff_eq] at hi
    exact .inl ⟨i, hi.1, hi.2.symm, rfl⟩
  | none =>
    refine .inr ⟨fun i hpid hgpu => ?_, rfl⟩
    have hi := SchedulerData.findSlot_eq_none.mp hf i
    simp [hpid, hgpu] at hi

/-- What is asked of the entries other than their times is kept where they keep their processes. -/
theorem Kept.congr {d : SchedulerData} (hk : s.Kept) {notified : Slot → Int}
    {addedType : Slot → Int32} (hnormal : ∀ i, (d.entry i).executionTime.Normal)
    (hsame : ∀ i, (d.entry i).appType = (s.data.entry i).appType ∧
      (d.entry i).valid = (s.data.entry i).valid ∧
      (d.entry i).processList = (s.data.entry i).processList) :
    Kept ⟨d, notified, addedType⟩ := by
  refine ⟨hnormal, fun i => ?_, fun i hi => ?_, fun i j hij hi => ?_⟩
  · exact (hsame i).1.trans (hk.typeA i)
  · have hi : (s.data.entry i).processList ≠ invalidProceess := (hsame i).2.2 ▸ hi
    exact (hsame i).2.1.trans (hk.used i hi)
  · refine hk.unique i j ?_ ((hsame i).2.2 ▸ hi)
    exact (hsame i).2.2.symm.trans (hij.trans (hsame j).2.2)

/-- A registration writes these fields of the slot at the counter, and neither its time nor the type
that was sent. -/
theorem lasRegisterProcess_entry (d : SchedulerData) (pid gpuid : Nat) :
    (lasRegisterProcess d pid gpuid false).1.entry d.pollingThreadCount =
      { d.entry d.pollingThreadCount with
        processList := pid, valid := true, gpuBinding := gpuid, priority := 0,
        sendsL2Feedback := false } :=
  SchedulerData.set_entry_self

/-- It writes no other slot. -/
theorem lasRegisterProcess_entry_of_ne {d : SchedulerData} {pid gpuid : Nat}
    (h : i ≠ d.pollingThreadCount) :
    (lasRegisterProcess d pid gpuid false).1.entry i = d.entry i :=
  SchedulerData.set_entry_of_ne h

/-- A registration gives a slot to a process that had none. -/
theorem Kept.register {pcd : ProcessCreditData} {notified : Slot → Int} {addedType : Slot → Int32}
    (hk : s.Kept) (hnew : lasAlreadyAdded s.data pcd = false) :
    Kept ⟨(lasRegisterProcess s.data pcd.pid pcd.gpuid false).1, notified, addedType⟩ := by
  have hother : ∀ i, (s.data.entry i).processList ≠ pcd.pid := alreadyAdded_eq_false.mp hnew
  refine ⟨fun i => ?_, fun i => ?_, fun i hi => ?_, fun i j hij hi => ?_⟩
  · by_cases h : i = s.data.pollingThreadCount
    · subst h
      rw [lasRegisterProcess_entry]
      exact hk.normal _
    · rw [lasRegisterProcess_entry_of_ne h]
      exact hk.normal i
  · by_cases h : i = s.data.pollingThreadCount
    · subst h
      rw [lasRegisterProcess_entry]
      exact hk.typeA _
    · rw [lasRegisterProcess_entry_of_ne h]
      exact hk.typeA i
  · by_cases h : i = s.data.pollingThreadCount
    · rw [h, lasRegisterProcess_entry]
    · rw [lasRegisterProcess_entry_of_ne h] at hi ⊢
      exact hk.used i hi
  · by_cases h : i = s.data.pollingThreadCount
    · by_cases h' : j = s.data.pollingThreadCount
      · rw [h, h']
      · rw [h, lasRegisterProcess_entry, lasRegisterProcess_entry_of_ne h'] at hij
        exact absurd hij.symm (hother j)
    · by_cases h' : j = s.data.pollingThreadCount
      · rw [h', lasRegisterProcess_entry, lasRegisterProcess_entry_of_ne h] at hij
        exact absurd hij (hother i)
      · rw [lasRegisterProcess_entry_of_ne h, lasRegisterProcess_entry_of_ne h'] at hij
        rw [lasRegisterProcess_entry_of_ne h] at hi
        exact hk.unique i j hij hi

/-- A time that is added stays in order. -/
theorem Kept.notify {gpuid : Nat} {pcd : ProcessCreditData} {notified : Slot → Int}
    {addedType : Slot → Int32} (hk : s.Kept) (ha : s.Admissible pcd)
    (haction : pcd.action = notifySched) :
    Kept ⟨lasNotify s.data gpuid pcd, notified, addedType⟩ := by
  obtain ⟨i, hpid, -, hset⟩ | ⟨-, hsame⟩ := lasNotify_cases s.data gpuid pcd
  · have hoccupies : s.Occupies pcd.pid i := ⟨hk.used i (hpid ▸ ha.pid), hpid⟩
    have hsum := Timeval.add_normal (hk.normal i) (ha.normal haction)
      (ha.fits haction i hoccupies)
    rw [hset]
    refine hk.congr (fun j => ?_) fun j => ?_
    · by_cases h : j = i
      · rw [h, SchedulerData.set_entry_self]
        exact hsum.1
      · rw [SchedulerData.set_entry_of_ne h]
        exact hk.normal j
    · by_cases h : j = i
      · rw [h, SchedulerData.set_entry_self]
        exact ⟨rfl, rfl, rfl⟩
      · rw [SchedulerData.set_entry_of_ne h]
        exact ⟨rfl, rfl, rfl⟩
  · rw [hsame]
    exact hk.congr hk.normal fun j => ⟨rfl, rfl, rfl⟩

/-- A slot that is freed is no longer anybody's. -/
theorem Kept.remove {gpuid pid : Nat} (hk : s.Kept) :
    Kept { s with data := remProcess s.data gpuid pid Entry.lasFreed } := by
  obtain ⟨i, -, -, hset⟩ | ⟨-, hsame⟩ := remProcess_cases s.data gpuid pid Entry.lasFreed
  · rw [hset]
    refine ⟨fun j => ?_, fun j => ?_, fun j hj => ?_, fun j k hjk hj => ?_⟩
    · by_cases h : j = i
      · rw [h, SchedulerData.set_entry_self]
        exact hk.normal i
      · rw [SchedulerData.set_entry_of_ne h]
        exact hk.normal j
    · by_cases h : j = i
      · rw [h, SchedulerData.set_entry_self]
        exact hk.typeA i
      · rw [SchedulerData.set_entry_of_ne h]
        exact hk.typeA j
    · by_cases h : j = i
      · rw [h, SchedulerData.set_entry_self] at hj
        exact absurd rfl hj
      · rw [SchedulerData.set_entry_of_ne h] at hj ⊢
        exact hk.used j hj
    · by_cases h : j = i
      · rw [h, SchedulerData.set_entry_self] at hj
        exact absurd rfl hj
      · rw [SchedulerData.set_entry_of_ne h] at hj hjk
        by_cases h' : k = i
        · rw [h', SchedulerData.set_entry_self] at hjk
          exact absurd hjk hj
        · rw [SchedulerData.set_entry_of_ne h'] at hjk
          exact hk.unique j k hjk hj
  · rw [hsame]
    exact hk

/-- The step lemma for what holds in every run. -/
theorem Kept.step (hk : s.Kept) (h : Listens s m t) : t.Kept := by
  rcases listens_cases h with ⟨⟨-, hnew⟩, rfl⟩ | ⟨hnotify, rfl⟩ | ⟨-, -, rfl | rfl⟩
  · exact hk.register hnew
  · exact hk.notify h.1 hnotify
  · exact hk
  · exact hk.remove

/-- A registration of type A in a slot without time: the new occupant finds what is his, which is
nothing. -/
theorem Holds.register {pcd : ProcessCreditData} (hs : s.Holds) (hk : s.Kept)
    (htype : pcd.appType = appTypeA)
    (hzero : (s.data.entry s.data.pollingThreadCount).executionTime.micros = 0) :
    Holds ⟨(lasRegisterProcess s.data pcd.pid pcd.gpuid false).1,
      Function.update s.notified s.data.pollingThreadCount 0,
      Function.update s.addedType s.data.pollingThreadCount pcd.appType⟩ := by
  constructor
  · intro i hvalid
    dsimp only at hvalid ⊢
    by_cases h : i = s.data.pollingThreadCount
    · subst h
      rw [lasRegisterProcess_entry, Function.update_self]
      exact hzero
    · rw [lasRegisterProcess_entry_of_ne h] at hvalid ⊢
      rw [Function.update_of_ne h]
      exact hs.time i hvalid
  · intro i hvalid
    dsimp only at hvalid ⊢
    by_cases h : i = s.data.pollingThreadCount
    · subst h
      rw [lasRegisterProcess_entry, Function.update_self, htype]
      exact hk.typeA _
    · rw [lasRegisterProcess_entry_of_ne h] at hvalid ⊢
      rw [Function.update_of_ne h]
      exact hs.type i hvalid

/-- A time that reaches the listener of its slot is added to that of the occupant, and to no
other. -/
theorem Holds.notify {gpuid : Nat} {pcd : ProcessCreditData} (hs : s.Holds) (hk : s.Kept)
    (ha : s.Admissible pcd) (haction : pcd.action = notifySched)
    (hreach : ∀ i, s.Occupies pcd.pid i →
      (s.data.entry i).gpuBinding = gpuid ∨ pcd.executionTime.micros = 0) :
    Holds ⟨lasNotify s.data gpuid pcd, fun i =>
      if s.Occupies pcd.pid i then s.notified i + pcd.executionTime.micros else s.notified i,
      s.addedType⟩ := by
  obtain ⟨i, hpid, -, hset⟩ | ⟨hnone, hsame⟩ := lasNotify_cases s.data gpuid pcd
  · have hoccupies : s.Occupies pcd.pid i := ⟨hk.used i (hpid ▸ ha.pid), hpid⟩
    have hsum := Timeval.add_normal (hk.normal i) (ha.normal haction)
      (ha.fits haction i hoccupies)
    rw [hset]
    constructor
    · intro j hvalid
      dsimp only at hvalid ⊢
      by_cases h : j = i
      · subst h
        rw [SchedulerData.set_entry_self, hsum.2, if_pos hoccupies, hs.time j hoccupies.1]
      · have hother : ¬ s.Occupies pcd.pid j := by
          intro hj
          exact h (hk.unique j i (hj.2.trans hpid.symm) (hj.2 ▸ ha.pid))
        rw [SchedulerData.set_entry_of_ne h] at hvalid ⊢
        rw [if_neg hother, hs.time j hvalid]
    · intro j hvalid
      dsimp only at hvalid ⊢
      by_cases h : j = i
      · subst h
        rw [SchedulerData.set_entry_self]
        exact hs.type j hoccupies.1
      · rw [SchedulerData.set_entry_of_ne h] at hvalid ⊢
        exact hs.type j hvalid
  · rw [hsame]
    refine ⟨fun j hvalid => ?_, hs.type⟩
    dsimp only at hvalid ⊢
    rw [hs.time j hvalid]
    split
    · next hj =>
      rcases hreach j hj with hgpu | hzero
      · exact absurd hgpu (hnone j hj.2)
      · rw [hzero, add_zero]
    · rfl

/-- A removal touches no occupied slot but the one that it frees. -/
theorem Holds.remove {gpuid pid : Nat} (hs : s.Holds) :
    Holds { s with data := remProcess s.data gpuid pid Entry.lasFreed } := by
  obtain ⟨i, -, -, hset⟩ | ⟨-, hsame⟩ := remProcess_cases s.data gpuid pid Entry.lasFreed
  · have hsame : ∀ j, ((remProcess s.data gpuid pid Entry.lasFreed).entry j).valid = true →
        (s.data.entry j).valid = true ∧
          (remProcess s.data gpuid pid Entry.lasFreed).entry j = s.data.entry j := by
      intro j hvalid
      rw [hset] at hvalid ⊢
      by_cases h : j = i
      · rw [h, SchedulerData.set_entry_self] at hvalid
        cases hvalid
      · rw [SchedulerData.set_entry_of_ne h] at hvalid ⊢
        exact ⟨hvalid, rfl⟩
    constructor
    · intro j hvalid
      obtain ⟨hvalid, hentry⟩ := hsame j hvalid
      rw [hentry]
      exact hs.time j hvalid
    · intro j hvalid
      obtain ⟨hvalid, hentry⟩ := hsame j hvalid
      rw [hentry]
      exact hs.type j hvalid
  · rw [hsame]
    exact hs

/-- The step lemma for clean messages. -/
theorem Holds.step (hs : s.Holds) (hk : s.Kept) (hclean : s.Clean m) (h : Listens s m t) :
    t.Holds := by
  rcases listens_cases h with ⟨hreg, rfl⟩ | ⟨hnotify, rfl⟩ | ⟨-, -, rfl | rfl⟩
  · obtain ⟨htype, hzero⟩ := hclean.registers hreg
    exact hs.register hk htype hzero
  · exact hs.notify hk h.1 hnotify (hclean.notifies hnotify)
  · exact hs
  · exact hs.remove

/-- What was in the slot before shows after the step: a message that is not clean leaves a slot with
a time or a type that is not its occupant's. This makes the condition exact. -/
theorem Holds.clean (hs : s.Holds) (hk : s.Kept) (h : Listens s m t) (ht : t.Holds) :
    s.Clean m := by
  rcases listens_cases h with ⟨hreg, rfl⟩ | ⟨hnotify, rfl⟩ | ⟨hnot, hnotify, -⟩
  · constructor
    · intro _
      have hentry := lasRegisterProcess_entry s.data m.2.pid m.2.gpuid
      have htime := ht.time s.data.pollingThreadCount (by rw [hentry])
      have htype := ht.type s.data.pollingThreadCount (by rw [hentry])
      dsimp only at htime htype
      rw [hentry, Function.update_self] at htime htype
      exact ⟨htype.symm.trans (hk.typeA _), htime⟩
    · intro hnotify
      rw [hreg.1] at hnotify
      cases hnotify
  · constructor
    · intro hreg
      rw [hreg.1] at hnotify
      cases hnotify
    · intro _ i hi
      by_cases hgpu : (s.data.entry i).gpuBinding = m.1
      · exact .inl hgpu
      · right
        have hentry : (lasNotify s.data m.1 m.2).entry i = s.data.entry i := by
          obtain ⟨j, -, hbinding, hset⟩ | ⟨-, hsame⟩ := lasNotify_cases s.data m.1 m.2
          · have hne : i ≠ j := fun hij => hgpu (hij ▸ hbinding)
            rw [hset, SchedulerData.set_entry_of_ne hne]
          · rw [hsame]
        have htime := ht.time i (by rw [hentry]; exact hi.1)
        dsimp only at htime
        rw [hentry, hs.time i hi.1, if_pos hi] at htime
        omega
  · exact ⟨fun hreg => absurd hreg hnot, fun h => absurd h hnotify⟩

/-- In every run the slots hold what is their occupants' exactly when every process that registers
is of type A and finds no time in its slot, and every time reaches the slot's listener.

The condition has one clause for each way in which a slot comes to hold what is not its occupant's,
and it is on the message and the state that it finds. -/
theorem attained_iff (r : Run Listens start ms s) :
    Always Listens start ms (fun _ s => s.Attained) ↔ EachStep Listens start ms Clean := by
  refine Run.always_iff_eachStep (I := fun _ s => s.Kept ∧ s.Holds)
    (fun _ _ _ _ => Listens.det) ⟨start_kept, start_holds⟩ ?_ ?_ ?_ r
  · intro _ s m t ⟨hk, hs⟩ hclean h
    exact ⟨hk.step h, hs.step hk hclean h⟩
  · intro _ s ⟨hk, hs⟩
    exact hs.attained hk
  · intro _ s m t ⟨hk, hs⟩ h ht
    exact hs.clean hk h ⟨ht.time, ht.type⟩

/-- A registration is never refused for the state of the table. -/
theorem exists_listens_of_registers {pcd : ProcessCreditData} (gpuid : Nat)
    (hreg : s.Registers pcd) (hpid : pcd.pid ≠ invalidProceess) :
    ∃ t, Listens s (gpuid, pcd) t := by
  have hnotify : pcd.action ≠ notifySched := by
    rw [hreg.1]
    decide
  have hadd : pcd.action = addQ ∧ lasAlreadyAdded s.data pcd = false := hreg
  have hlisten : s.listen gpuid pcd ≠ none := by
    unfold listen lasListen
    rw [if_pos hadd]
    exact fun h => nomatch h
  obtain ⟨t, ht⟩ := Option.ne_none_iff_exists'.mp hlisten
  exact ⟨t, ⟨.inl hreg.1, hpid, fun h => absurd h hnotify, fun h => absurd h hnotify⟩, ht⟩

/-- A notification of a time that fits is never refused. -/
theorem exists_listens_of_notify {pcd : ProcessCreditData} (gpuid : Nat)
    (haction : pcd.action = notifySched) (hpid : pcd.pid ≠ invalidProceess)
    (hnormal : pcd.executionTime.Normal)
    (hfits : ∀ i, s.Occupies pcd.pid i →
      Timeval.Fits (s.data.entry i).executionTime pcd.executionTime) :
    ∃ t, Listens s (gpuid, pcd) t := by
  have hlisten : s.listen gpuid pcd ≠ none := by
    unfold listen lasListen
    simp [haction, addQ, remQ, notifySched]
  obtain ⟨t, ht⟩ := Option.ne_none_iff_exists'.mp hlisten
  exact ⟨t, ⟨.inr (.inr haction), hpid, fun _ => hnormal, fun _ => hfits⟩, ht⟩

/-- A removal is never refused. -/
theorem exists_listens_of_remove {pcd : ProcessCreditData} (gpuid : Nat)
    (haction : pcd.action = remQ) (hpid : pcd.pid ≠ invalidProceess) :
    ∃ t, Listens s (gpuid, pcd) t := by
  have hnotify : pcd.action ≠ notifySched := by
    rw [haction]
    decide
  have hlisten : s.listen gpuid pcd ≠ none := by
    unfold listen lasListen
    simp [haction, addQ, remQ]
  obtain ⟨t, ht⟩ := Option.ne_none_iff_exists'.mp hlisten
  exact ⟨t, ⟨.inr (.inl haction), hpid, fun h => absurd h hnotify, fun h => absurd h hnotify⟩, ht⟩

/-- All slots are of GPU 0, and only those of the processes listed have any time. -/
structure NoTimeBut (s : Serviced) (pids : List Nat) : Prop where
  gpu : ∀ i, (s.data.entry i).gpuBinding = 0
  time : ∀ i, (s.data.entry i).processList ∉ pids → (s.data.entry i).executionTime = ⟨0, 0⟩

/-- No process has been served yet. -/
theorem start_noTime : start.NoTimeBut [] := ⟨fun _ => rfl, fun _ _ => rfl⟩

variable {pids : List Nat} {pid : Nat} {elapsed : Timeval} {unset : ProcessCreditData}

/-- A process of type A that registers where nobody has any time is clean. -/
theorem NoTimeBut.clean_add (h : s.NoTimeBut []) (gpuid : Nat) :
    s.Clean (gpuid, lasAddQueue pid 0 appTypeA unset) := by
  refine ⟨fun _ => ⟨rfl, ?_⟩, nofun⟩
  rw [h.time _ List.not_mem_nil]
  rfl

/-- A time that is sent to GPU 0 reaches its slot. -/
theorem NoTimeBut.clean_notify (h : s.NoTimeBut pids) :
    s.Clean (0, lasNotifyScheduler pid elapsed unset) :=
  ⟨fun hreg => (nomatch hreg.1), fun _ i _ => .inl (h.gpu i)⟩

/-- A removal is always clean. -/
theorem clean_remove (gpuid : Nat) : s.Clean (gpuid, lasRemQueue pid unset) :=
  ⟨fun hreg => (nomatch hreg.1), nofun⟩

/-- A process that is not there registers on GPU 0. -/
theorem NoTimeBut.add (h : s.NoTimeBut []) (gpuid pid : Nat) (unset : ProcessCreditData)
    (hpid : pid ≠ invalidProceess) (hnew : ∀ i, (s.data.entry i).processList ≠ pid) :
    ∃ t, Listens s (gpuid, lasAddQueue pid 0 appTypeA unset) t ∧ t.NoTimeBut [] ∧
      ∀ i, (t.data.entry i).processList = pid ∨
        (t.data.entry i).processList = (s.data.entry i).processList := by
  have hreg : s.Registers (lasAddQueue pid 0 appTypeA unset) :=
    ⟨rfl, alreadyAdded_eq_false.mpr hnew⟩
  obtain ⟨t, ht⟩ := exists_listens_of_registers gpuid hreg hpid
  rcases listens_cases ht with ⟨-, rfl⟩ | ⟨hnotify, -⟩ | ⟨hnot, -⟩
  · have hentry : ∀ i, ∃ e, (lasRegisterProcess s.data pid 0 false).1.entry i = e ∧
        e.gpuBinding = 0 ∧ e.executionTime = ⟨0, 0⟩ ∧
        (e.processList = pid ∨ e.processList = (s.data.entry i).processList) := by
      intro i
      by_cases hi : i = s.data.pollingThreadCount
      · subst hi
        exact ⟨_, lasRegisterProcess_entry .., rfl, h.time _ List.not_mem_nil, .inl rfl⟩
      · exact ⟨_, lasRegisterProcess_entry_of_ne hi, h.gpu i, h.time i List.not_mem_nil, .inr rfl⟩
    refine ⟨_, ht, ⟨fun i => ?_, fun i _ => ?_⟩, fun i => ?_⟩
    · obtain ⟨_, rfl, hgpu, -⟩ := hentry i
      exact hgpu
    · obtain ⟨_, rfl, -, htime, -⟩ := hentry i
      exact htime
    · obtain ⟨_, rfl, -, -, hprocess⟩ := hentry i
      exact hprocess
  · cases hnotify
  · exact absurd hreg hnot

/-- A process that has no time yet notifies some. -/
theorem NoTimeBut.notify (h : s.NoTimeBut pids) (pid : Nat) (elapsed : Timeval)
    (unset : ProcessCreditData) (hpid : pid ≠ invalidProceess) (hnone : pid ∉ pids)
    (hnormal : elapsed.Normal) (hfits : Timeval.Fits ⟨0, 0⟩ elapsed) :
    ∃ t, Listens s (0, lasNotifyScheduler pid elapsed unset) t ∧ t.NoTimeBut (pid :: pids) := by
  have hslots : ∀ i, s.Occupies pid i → Timeval.Fits (s.data.entry i).executionTime elapsed := by
    intro i hi
    rw [h.time i (hi.2 ▸ hnone)]
    exact hfits
  have haction : (lasNotifyScheduler pid elapsed unset).action = notifySched := rfl
  obtain ⟨t, ht⟩ := exists_listens_of_notify 0 haction hpid hnormal hslots
  refine ⟨t, ht, ?_⟩
  rcases listens_cases ht with ⟨hreg, -⟩ | ⟨-, rfl⟩ | ⟨-, hother, -⟩
  · cases hreg.1
  · obtain ⟨j, hj, -, hset⟩ | ⟨-, hsame⟩ :=
      lasNotify_cases s.data 0 (lasNotifyScheduler pid elapsed unset)
    · rw [hset]
      refine ⟨fun i => ?_, fun i hi => ?_⟩
      · by_cases hij : i = j
        · rw [hij, SchedulerData.set_entry_self]
          exact h.gpu j
        · rw [SchedulerData.set_entry_of_ne hij]
          exact h.gpu i
      · by_cases hij : i = j
        · rw [hij, SchedulerData.set_entry_self] at hi
          exact absurd (hj ▸ List.mem_cons_self) hi
        · rw [SchedulerData.set_entry_of_ne hij] at hi ⊢
          exact h.time i fun hmem => hi (List.mem_cons_of_mem _ hmem)
    · rw [hsame]
      exact ⟨h.gpu, fun i hi => h.time i fun hmem => hi (List.mem_cons_of_mem _ hmem)⟩
  · exact absurd rfl hother

end

/-- Process 7 registers on GPU 0 with an application type. -/
def addSeven (appType : Int32) : Nat × ProcessCreditData :=
  (0, lasAddQueue 7 0 appType ⟨0, 0, 0, 0, 0, ⟨0, 0⟩⟩)

/-- Process 7 is not registered at the start. -/
theorem registers_addSeven (appType : Int32) : start.Registers (addSeven appType).2 := by
  refine ⟨rfl, alreadyAdded_eq_false.mpr fun i h => ?_⟩
  have hpid : 0 = 7 := h
  cases hpid

/-- Its registration can be handled, with any type. -/
theorem exists_addSeven (appType : Int32) : ∃ t, Listens start (addSeven appType) t := by
  have hpid : (addSeven appType).2.pid ≠ invalidProceess := fun h => nomatch (h : 7 = 0)
  exact exists_listens_of_registers 0 (registers_addSeven appType) hpid

/-- A message whose fields are all set by its sender, or not read. -/
def blankPcd : ProcessCreditData := ⟨0, 0, 0, 0, 0, ⟨0, 0⟩⟩

/-- Two processes register, notify times, and one of them goes. -/
def twoServed : List (Nat × ProcessCreditData) :=
  [(0, lasAddQueue 7 0 appTypeA blankPcd), (0, lasAddQueue 8 0 appTypeA blankPcd),
    (0, lasNotifyScheduler 7 ⟨1, 700000⟩ blankPcd), (0, lasNotifyScheduler 8 ⟨0, 400000⟩ blankPcd),
    (0, lasRemQueue 7 blankPcd)]

/-- Their slots hold what they have notified throughout. -/
theorem attained_iff_twoServed : ∃ t, Run Listens start twoServed t ∧
    Always Listens start twoServed fun _ s => s.Attained := by
  have hdet : ∀ s m t u, Listens s m t → Listens s m u → t = u := fun _ _ _ _ => Listens.det
  obtain ⟨s₁, h₁, hs₁, hlisted⟩ := start_noTime.add 0 7 blankPcd (by decide) fun i =>
    (by decide : (0 : Nat) ≠ 7)
  have hnew : ∀ i, (s₁.data.entry i).processList ≠ 8 := by
    intro i
    rcases hlisted i with hi | hi
    · rw [hi]
      decide
    · rw [hi]
      exact (by decide : (0 : Nat) ≠ 8)
  obtain ⟨s₂, h₂, hs₂, -⟩ := hs₁.add 0 8 blankPcd (by decide) hnew
  obtain ⟨s₃, h₃, hs₃⟩ := hs₂.notify 7 ⟨1, 700000⟩ blankPcd (by decide) List.not_mem_nil
    ⟨by decide, by decide⟩ ⟨by decide, by decide⟩
  obtain ⟨s₄, h₄, -⟩ := hs₃.notify 8 ⟨0, 400000⟩ blankPcd (by decide) (by decide)
    ⟨by decide, by decide⟩ ⟨by decide, by decide⟩
  obtain ⟨s₅, h₅⟩ : ∃ t, Listens s₄ (0, lasRemQueue 7 blankPcd) t :=
    exists_listens_of_remove 0 rfl (by decide)
  have r : Run Listens start twoServed s₅ :=
    .cons h₁ (.cons h₂ (.cons h₃ (.cons h₄ (.cons h₅ .start))))
  refine ⟨s₅, r, (attained_iff r).mpr ?_⟩
  refine .cons hdet h₁ (start_noTime.clean_add 0) (.cons hdet h₂ (hs₁.clean_add 0) ?_)
  refine .cons hdet h₃ hs₂.clean_notify (.cons hdet h₄ hs₃.clean_notify ?_)
  exact .cons hdet h₅ (clean_remove 0) .nil

/-- The slot of a process of type B says that it is of type A. -/
theorem type_not_stored : ∃ t, Run Listens start [addSeven 1] t ∧ ¬ t.Attained := by
  obtain ⟨t, ht⟩ := exists_addSeven 1
  refine ⟨t, Run.start.cons ht, fun hattained => ?_⟩
  have hclean := start_holds.clean start_kept ht ⟨hattained.time, hattained.type⟩
  have htype : (1 : Int32) = 0 := (hclean.registers (registers_addSeven 1)).1
  cases htype

end Serviced

end GpuVirtmem.Sched
