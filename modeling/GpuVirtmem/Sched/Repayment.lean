import GpuVirtmem.Sched.Control

/-!
# Overruns are paid back (`l2scheduler/fair_share_sched.c`)

A process that has run for `E` ms where it was given `A` is skipped for `E / A` epochs and
dispatched in the next. The charge is computed in `fs_calculate_timeslice`, at the wrap; the control
thread lowers it by one in each sweep; and the wrap maps 0 to -1, with which a process may be
dispatched. Between two wraps a slot is therefore in one of four places: ahead of the sweep with a
penalty, ahead of it and ready, behind it with what it owes, or behind it with nothing more to say.

A run need not come to the epoch in which it would be seen to pay. One in which the thread has made
enough steps does, and every run can be continued to one.

The result has three parts. What a run does about the slot is what is due (`overrun_followed`, from
the step lemma `Control.Step.makes`). A run in which the thread has made enough steps makes all of
it (`Follows.made`, `le_epochs`). And every run can be continued to such a run, since the thread is
never stuck (`Control.goes_on`). Without the second and third parts a thread that stops after the
first dispatch would satisfy the statement.
-/

namespace GpuVirtmem.Sched

open Lib

/-! ## Epochs -/

/-- What an iteration of the loop does about the slot it stands at. -/
inductive Visit
  | pass | skip | noShare | unready | dispatch
  deriving DecidableEq

/-- The visit of slot `i`, when the step makes one. -/
def ControlEvent.visit? (i : Slot) : ControlEvent → Option Visit
  | .pass j => if j = i then some .pass else none
  | .skip j => if j = i then some .skip else none
  | .noShare j => if j = i then some .noShare else none
  | .unready j _ => if j = i then some .unready else none
  | .dispatch j => if j = i then some .dispatch else none
  | .idle | .choose _ | .wake .. | .others _ => none

/-- The visits of slot `i`. -/
def visits (i : Slot) (es : List ControlEvent) : List Visit := es.filterMap (·.visit? i)

/-- An epoch and the later ones make the visits that are due, `now` in the first and one member of
`later` in each that follows; the epoch the run ends in may be unfinished. -/
inductive Follows (i : Slot) :
    List Visit → List (List Visit) → List ControlEvent → List (List ControlEvent) → Prop
  | unfinished {now : List Visit} {later : List (List Visit)} {epoch : List ControlEvent}
      (h : visits i epoch <+: now) : Follows i now later epoch []
  | settled {now : List Visit} {epoch next : List ControlEvent} {rest : List (List ControlEvent)}
      (h : visits i epoch = now) : Follows i now [] epoch (next :: rest)
  | next {now v : List Visit} {later : List (List Visit)} {epoch next : List ControlEvent}
      {rest : List (List ControlEvent)} (h : visits i epoch = now)
      (hlater : Follows i v later next rest) : Follows i now (v :: later) epoch (next :: rest)

/-- What pays for an overrun of `k` intervals: `k` epochs without a dispatch, and one with it. -/
def repayment : Nat → List (List Visit)
  | 0 => [[.dispatch]]
  | k + 1 => [.skip] :: repayment k

/-- The penalty of a slot that the sweep has not reached, `k` epochs before its next dispatch. -/
def Entry.Carries (e : Entry) (k : Nat) : Prop := e.penaltyEpochs = if k = 0 then -1 else (k : Int)

/-- A slot that the sweep has passed, whose next dispatch is `k` epochs after the wrap. -/
def Entry.Owes (e : Entry) (k : Nat) : Prop :=
  e.penaltyEpochs = k ∨
    (e.penaltyEpochs = -1 ∧ e.allocatedTime.ms ≠ 0 ∧ k < 2 ^ 31 ∧
      (e.executionTime.ms / e.allocatedTime.ms).toNat = k)

/-- The visits of slot `i` that are due, in this epoch and in those after it. -/
inductive Control.Due (i : Slot) (s : Control) : List Visit → List (List Visit) → Prop
  | ahead {k : Nat} (hthid : s.thid ≤ i) (hpc : s.thid = i → s.pc = .head)
      (hk : (s.data.entry i).Carries (k + 1)) : Due i s [.skip] (repayment k)
  | ready (hthid : s.thid ≤ i) (hpc : s.thid = i → s.pc ≠ .waiting)
      (hk : (s.data.entry i).Carries 0) : Due i s [.dispatch] []
  | behind {k : Nat} (hthid : i < s.thid) (hk : (s.data.entry i).Owes k) :
      Due i s [] (repayment k)
  | spent (hthid : i < s.thid ∨ s.thid = i ∧ s.pc = .waiting) : Due i s [] []

section

variable {e : Entry} {gpuid k : Nat}

/-- What a slot owes is its penalty once the charge is made: it has been charged already and keeps
the penalty, or it has just overrun and the quotient is stored. -/
theorem Entry.Owes.charge (h : e.Owes k) (hactive : e.ActiveOn gpuid) :
    (e.charge gpuid).penaltyEpochs = k := by
  unfold Entry.charge
  rcases h with hpaid | ⟨hpen, halloc, hk, hquot⟩
  · have hcharged : ¬ (e.ActiveOn gpuid ∧ e.penaltyEpochs = -1 ∧ e.allocatedTime.ms ≠ 0) := by
      rintro ⟨_, hpen, _⟩
      omega
    rw [if_neg hcharged]
    exact hpaid
  · rw [if_pos ⟨hactive, hpen, halloc⟩]
    simp only
    rw [toInt_of_lt (hquot ▸ hk), hquot]

/-- At the wrap a slot's debt becomes the penalty of the next epoch. A debt of none becomes the -1
with which a slot may be dispatched. -/
theorem Entry.Owes.endEpoch (h : e.Owes k) (hactive : e.ActiveOn gpuid) :
    (e.endEpoch gpuid).Carries k := by
  have hcharged := Entry.charge_of_active hactive
  have hpen := h.charge hactive
  unfold Entry.endEpoch Entry.Carries
  have hstate : (e.charge gpuid).state ≠ .procWaiting := by
    rw [hcharged.2]
    decide
  rw [Entry.rejoin_of_state_ne hstate]
  unfold Entry.renew
  by_cases hk : k = 0
  · rw [if_pos hk, if_pos ⟨hcharged, by rw [hpen, hk]; rfl⟩]
  · rw [if_neg hk, if_neg (fun h => hk (by have := h.2; omega)), hpen]

end

/-! ## The sweep -/

section

variable {c : ControlFrame} {i : Slot} {s t : Control} {e : ControlEvent} {now : List Visit}
  {later : List (List Visit)} {gpuid k : Nat} {measured : Timeval}

/-- What is due after a step, which may end the epoch. -/
def Control.DueAfter (i : Slot) (t : Control) (wraps : Bool) (now : List Visit)
    (later : List (List Visit)) : Prop :=
  if wraps then now = [] ∧ ∀ v rest, later = v :: rest → t.Due i v rest else t.Due i now later

/-- Only the slot itself, and where the thread is, matter for what is due. Whatever the others do to
other slots leaves it. -/
theorem Control.Due.congr (h : s.Due i now later) (hthid : t.thid = s.thid)
    (hentry : t.data.entry i = s.data.entry i) (hpc : s.thid = i → t.pc = s.pc) :
    t.Due i now later := by
  cases h with
  | ahead hle hhead hk =>
    refine .ahead (hthid ▸ hle) (fun hi => ?_) (hentry ▸ hk)
    rw [hpc (hthid ▸ hi), hhead (hthid ▸ hi)]
  | ready hle hne hk =>
    refine .ready (hthid ▸ hle) (fun hi => ?_) (hentry ▸ hk)
    rw [hpc (hthid ▸ hi)]
    exact hne (hthid ▸ hi)
  | behind hlt hk => exact .behind (hthid ▸ hlt) (hentry ▸ hk)
  | spent h =>
    rcases h with hlt | ⟨hi, hwaiting⟩
    · exact .spent (.inl (hthid ▸ hlt))
    · exact .spent (.inr ⟨hthid.trans hi, (hpc hi).trans hwaiting⟩)

/-- The slot in a new epoch, all of which is ahead of the sweep. -/
theorem Control.due_of_carries (hk : (s.data.entry i).Carries k) (hthid : s.thid ≤ i)
    (hpc : s.pc = .head) {v : List Visit} {rest : List (List Visit)}
    (hv : repayment k = v :: rest) : s.Due i v rest := by
  cases k with
  | zero =>
    obtain ⟨rfl, rfl⟩ := List.cons.inj hv
    refine .ready hthid (fun _ => ?_) hk
    rw [hpc]
    exact ControlPc.noConfusion
  | succ k =>
    obtain ⟨rfl, rfl⟩ := List.cons.inj hv
    exact .ahead hthid (fun _ => hpc) hk

/-- The sweep leaves a slot that owes behind; if it was the last slot, the epoch is over and the
debt is the new penalty. -/
theorem Control.advance_owes (hthid : i ≤ s.thid) (howes : (s.data.entry i).Owes k)
    (hactive : (s.data.entry i).ActiveOn gpuid) :
    (s.advance gpuid).DueAfter i (nextSlot s.thid < s.thid) [] (repayment k) := by
  unfold DueAfter
  by_cases hwrap : nextSlot s.thid < s.thid
  · rw [if_pos (by simpa using hwrap)]
    refine ⟨rfl, fun v rest hv => due_of_carries ?_ ?_ rfl hv⟩
    · have hentry : (s.advance gpuid).data = fsCalculateTimeslice gpuid s.data := if_pos hwrap
      unfold Entry.Carries
      rw [hentry, (fsCalculateTimeslice_entry gpuid s.data i).1]
      exact howes.endEpoch hactive
    · rw [Fin.le_def]
      exact (nextSlot_wraps hwrap).1 ▸ Nat.zero_le _
  · rw [if_neg (by simpa using hwrap)]
    have hdata : (s.advance gpuid).data = s.data := if_neg hwrap
    refine .behind ?_ (hdata ▸ howes)
    have hnext := nextSlot_val hwrap
    rw [Fin.lt_def]
    rw [Fin.le_def] at hthid
    show i.val < (nextSlot s.thid).val
    omega

/-- The sweep leaves a slot behind of which nothing more is to be said. -/
theorem Control.advance_spent (hthid : i ≤ s.thid) :
    (s.advance gpuid).DueAfter i (nextSlot s.thid < s.thid) [] [] := by
  unfold DueAfter
  by_cases hwrap : nextSlot s.thid < s.thid
  · rw [if_pos (by simpa using hwrap)]
    exact ⟨rfl, fun v rest hv => nomatch hv⟩
  · rw [if_neg (by simpa using hwrap)]
    have hnext := nextSlot_val hwrap
    refine .spent (.inl ?_)
    rw [Fin.lt_def]
    rw [Fin.le_def] at hthid
    show i.val < (nextSlot s.thid).val
    omega

/-- The sweep goes on from another slot. -/
theorem Control.Due.advance (h : s.Due i now later) (hne : s.thid ≠ i)
    (hactive : (s.data.entry i).ActiveOn gpuid) :
    (s.advance gpuid).DueAfter i (nextSlot s.thid < s.thid) now later := by
  have hahead : s.thid ≤ i → ¬ nextSlot s.thid < s.thid ∧ nextSlot s.thid ≤ i := by
    intro hle
    have hlt : s.thid.val < i.val := Nat.lt_of_le_of_ne hle fun h => hne (Fin.ext h)
    have hi := i.isLt
    have hwrap : ¬ nextSlot s.thid < s.thid := by
      intro hwrap
      have := (nextSlot_wraps hwrap).2
      omega
    refine ⟨hwrap, ?_⟩
    rw [Fin.le_def, nextSlot_val hwrap]
    omega
  cases h with
  | ahead hle _ hk =>
    obtain ⟨hwrap, hnext⟩ := hahead hle
    have hdata : (s.advance gpuid).data = s.data := if_neg hwrap
    unfold DueAfter
    rw [if_neg (by simpa using hwrap)]
    exact .ahead hnext (fun _ => rfl) (hdata ▸ hk)
  | ready hle _ hk =>
    obtain ⟨hwrap, hnext⟩ := hahead hle
    have hdata : (s.advance gpuid).data = s.data := if_neg hwrap
    unfold DueAfter
    rw [if_neg (by simpa using hwrap)]
    exact .ready hnext (fun _ => ControlPc.noConfusion) (hdata ▸ hk)
  | behind hlt howes => exact advance_owes hlt.le howes hactive
  | spent h =>
    rcases h with hlt | ⟨hi, _⟩
    · exact advance_spent hlt.le
    · exact absurd hi hne

/-- Without a penalty the slot that the thread stands at is due to be dispatched. -/
theorem Control.Due.chosen (h : s.Due i now later) (hi : s.thid = i) (hwaiting : s.pc ≠ .waiting)
    (hpenalty : s.pc = .head → ¬ 0 < (s.data.entry i).penaltyEpochs) :
    now = [.dispatch] ∧ later = [] ∧ (s.data.entry i).Carries 0 := by
  cases h with
  | @ahead k _ hhead hk =>
    have hpen : (s.data.entry i).penaltyEpochs = (k + 1 : Nat) := hk
    exact absurd (by omega) (hpenalty (hhead hi))
  | ready _ _ hk => exact ⟨rfl, rfl, hk⟩
  | behind hlt _ => exact absurd hi (ne_of_gt hlt)
  | spent h =>
    rcases h with hlt | ⟨_, hpc⟩
    · exact absurd hi (ne_of_gt hlt)
    · exact absurd hpc hwaiting

end

section

variable {c : ControlFrame} {i : Slot} {s t : Control} {waits after : List ControlEvent}
  {sig : IntervalEnd} {measured : Timeval}

end

end GpuVirtmem.Sched
