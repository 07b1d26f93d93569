import GpuVirtmem.Sched.Slices
import Mathlib.Algebra.BigOperators.Fin
import Mathlib.Algebra.Order.BigOperators.Group.Finset

/-!
# What the shares are worth (`l2scheduler/fair_share_sched.c`)

`fs_calculate_timeslice` adds up the shares of the active processes and divides the epoch by the
total, but it does not multiply by the share of each process: they all get what a share of 1 is
worth. The quotient is taken in exact rational arithmetic.

That the slices would be fair with the multiplication is part of what is shown (`FairShares`): the
quotients then add up to no more than the epoch, and are in proportion up to rounding. Without it
the condition `WorthOne` is what remains.
-/

namespace GpuVirtmem.Sched

open Lib

/-- A number of microseconds as a normalised `struct timeval`. -/
def Timeval.ofUsec (n : Int) : Timeval := ⟨.ofInt (n / 10 ^ 6), .ofInt (n % 10 ^ 6)⟩

/-- The share of a slot that is active on the GPU, and nothing for any other. -/
def Entry.shareOn (e : Entry) (gpuid : Nat) : Nat :=
  if e.ActiveOn gpuid then e.shareUnit.toNat else 0

/-- The shares of the active slots of the GPU, added up. -/
def SchedulerData.totalShares (d : SchedulerData) (gpuid : Nat) : Nat :=
  ∑ i, (d.entry i).shareOn gpuid

/-- The table when the states have been updated. -/
abbrev SchedulerData.ended (d : SchedulerData) (gpuid : Nat) : SchedulerData :=
  d.mapEntries (Entry.endEpoch gpuid)

/-- `EPOCH_LENGTH * share_unit[i] / T` in milliseconds, as whole microseconds. -/
def fairUsec (share total : Nat) : Int :=
  ⌊(epochLength.toInt : ℚ) * share / total * 1000⌋

/-- Each active slot of the GPU is allocated the part of the epoch that its share is of all the
shares, so that the allocations are in proportion up to a microsecond, and no more than the epoch
together; the allocation of every other slot is as it was. -/
structure FairShares (gpuid : Nat) (d d' : SchedulerData) : Prop where
  each : ∀ i, ((d.ended gpuid).entry i).ActiveOn gpuid → (d'.entry i).allocatedTime =
    .ofUsec (fairUsec (d.entry i).shareUnit.toNat ((d.ended gpuid).totalShares gpuid))
  proportional : ∀ i j, ((d.ended gpuid).entry i).ActiveOn gpuid →
    ((d.ended gpuid).entry j).ActiveOn gpuid →
      (d'.entry i).allocatedTime.usec * (d.entry j).shareUnit.toNat ≤
        ((d'.entry j).allocatedTime.usec + 1) * (d.entry i).shareUnit.toNat
  total : (∑ i, if ((d.ended gpuid).entry i).ActiveOn gpuid then
      (d'.entry i).allocatedTime.usec else 0) ≤ epochLength.toInt * 1000
  others : ∀ i, ¬ ((d.ended gpuid).entry i).ActiveOn gpuid →
    (d'.entry i).allocatedTime = (d.entry i).allocatedTime

/-- A share is worth as much as one of 1: it is 1, or neither of the two is worth a microsecond. -/
def WorthOne (share total : Nat) : Prop :=
  share = 1 ∨ (100000 < total ∧ 100000 * share < total)

/-! ## The arithmetic -/

/-- In whole microseconds the exact part of the epoch is a quotient of natural numbers. -/
theorem fairUsec_eq (share total : Nat) :
    fairUsec share total = (100000 * share / total : Nat) := by
  have hepoch : epochLength.toInt = 100 := by decide
  have hquot : ((100 : Int) : ℚ) * share / total * 1000 =
      ((100000 * share : Nat) : ℚ) / (total : ℚ) := by
    push_cast
    ring
  rw [fairUsec, hepoch, hquot, Rat.floor_natCast_div_natCast]
  rfl

/-- So is what the source computes, with the total of the shares below it and no share above. -/
theorem exactUsec_eq {total : Int32} {n : Nat} (h : total.toInt = n) :
    (exactUsec total).toInt = (100000 / n : Nat) := by
  have hquot : (100000 : ℚ) / ((n : Nat) : Int) = ((100000 : Nat) : ℚ) / (n : ℚ) := by
    push_cast
    ring
  rw [exactUsec_toInt, h, hquot, Rat.floor_natCast_div_natCast]
  rfl

/-- The two quotients agree exactly where the share makes no difference: it is 1, or both of them
are 0. -/
theorem worthOne_iff {share total : Nat} (hpos : 0 < total) :
    100000 / total = 100000 * share / total ↔ WorthOne share total := by
  unfold WorthOne
  rcases Nat.lt_or_ge 100000 total with hsmall | hlarge
  · rw [Nat.div_eq_of_lt hsmall, eq_comm, Nat.div_eq_zero_iff]
    constructor
    · rintro (hzero | hless)
      · omega
      · exact .inr ⟨hsmall, hless⟩
    · rintro (rfl | ⟨-, hless⟩)
      · exact .inr (by omega)
      · exact .inr hless
  · have hone : 1 ≤ 100000 / total := (Nat.one_le_div_iff hpos).mpr hlarge
    constructor
    · intro h
      left
      rcases Nat.lt_trichotomy share 1 with hlow | heq | hhigh
      · obtain rfl : share = 0 := by omega
        rw [Nat.mul_zero, Nat.zero_div] at h
        omega
      · exact heq
      · -- twice the epoch gives at least twice the quotient
        have hle : 100000 / total * 2 ≤ 100000 * share / total := by
          rw [Nat.le_div_iff_mul_le hpos]
          calc 100000 / total * 2 * total = 100000 / total * total * 2 := Nat.mul_right_comm ..
            _ ≤ 100000 * 2 := Nat.mul_le_mul_right _ (Nat.div_mul_le_self ..)
            _ ≤ 100000 * share := Nat.mul_le_mul_left _ hhigh
        omega
    · rintro (rfl | ⟨hsmall, -⟩)
      · rw [Nat.mul_one]
      · omega

/-- Less than a second has no seconds. -/
theorem ofUsec_eq {n : Nat} (h : n < 10 ^ 6) : Timeval.ofUsec n = ⟨0, .ofInt n⟩ := by
  have h0 : (0 : Int) ≤ n := Int.natCast_nonneg n
  rw [Timeval.ofUsec, Int.ediv_eq_zero_of_lt h0 (by omega), Int.emod_eq_of_lt h0 (by omega)]
  rfl

/-- A time that was made of microseconds has as many of them. -/
theorem usec_ofUsec {n : Nat} (h : n < 10 ^ 6) : (Timeval.ofUsec n).usec = n := by
  have hmicro : (Int64.ofInt n).toInt = n := Int64.toInt_ofInt_of_le (by omega) (by omega)
  have hzero : (0 : Int64).toInt = 0 := rfl
  rw [ofUsec_eq h, Timeval.usec, hmicro, hzero, Int.zero_mul, Int.zero_add]

/-- The quotients of parts add up to no more than the quotient of the whole. Each of them is rounded
down, and so is the whole, but only once. -/
theorem sum_div_le {ι : Type*} [Fintype ι] (n : Nat) (part : ι → Nat) {total : Nat}
    (hpos : 0 < total) (htotal : ∑ i, part i = total) : ∑ i, n * part i / total ≤ n := by
  refine Nat.le_of_mul_le_mul_right ?_ hpos
  calc (∑ i, n * part i / total) * total = ∑ i, n * part i / total * total := Finset.sum_mul ..
    _ ≤ ∑ i, n * part i := Finset.sum_le_sum fun i _ => Nat.div_mul_le_self ..
    _ = n * total := by rw [← Finset.mul_sum, htotal]

/-- Two quotients are in proportion, up to 1: rounding moves each of them by less than one. -/
theorem div_proportional (n a b : Nat) {total : Nat} (hpos : 0 < total) :
    n * a / total * b ≤ (n * b / total + 1) * a := by
  refine Nat.le_of_mul_le_mul_right ?_ hpos
  have ha : n * a / total * total ≤ n * a := Nat.div_mul_le_self ..
  have hb : n * b < (n * b / total + 1) * total :=
    (Nat.div_lt_iff_lt_mul hpos).mp (Nat.lt_succ_self _)
  calc n * a / total * b * total = n * a / total * total * b := Nat.mul_right_comm ..
    _ ≤ n * a * b := Nat.mul_le_mul_right b ha
    _ = n * b * a := Nat.mul_right_comm ..
    _ ≤ (n * b / total + 1) * total * a := Nat.mul_le_mul_right a hb.le
    _ = (n * b / total + 1) * a * total := Nat.mul_right_comm ..

/-! ## The counts of the first loop -/

section

variable {gpuid : Nat} {d : SchedulerData} {i : Slot} {e : Entry}

theorem Entry.endEpoch_shareUnit : (e.endEpoch gpuid).shareUnit = e.shareUnit := by
  unfold endEpoch renew rejoin charge
  split <;> split <;> split <;> rfl

theorem Entry.endEpoch_allocatedTime : (e.endEpoch gpuid).allocatedTime = e.allocatedTime := by
  unfold endEpoch renew rejoin charge
  split <;> split <;> split <;> rfl

/-- A share that is added to a total below 2^31 makes the `int` no negative number. -/
theorem toInt_add_share {n : Int32} {share : UInt64} (h0 : 0 ≤ n.toInt)
    (hfit : n.toInt + share.toNat < 2 ^ 31) :
    (n + share.toUInt32.toInt32).toInt = n.toInt + share.toNat := by
  have hshare : share.toUInt32.toInt32.toInt = share.toNat := toInt_of_lt (by omega)
  rw [Int32.toInt_add, hshare, Int.bmod_eq_of_le] <;> omega

/-- The shares are added up without an overflow, and the active slots are counted. This is the loop
invariant: the totals of the loop are those of the slots it has passed. -/
theorem shares_foldl (l : List Slot) (n : Shares) (h0 : 0 ≤ n.totalShares.toInt)
    (hfit : n.totalShares.toInt + ((l.map fun i => (d.entry i).shareOn gpuid).sum : Nat) < 2 ^ 31) :
    (l.foldl (fun n i => n.add gpuid (d.entry i)) n).totalShares.toInt =
        n.totalShares.toInt + ((l.map fun i => (d.entry i).shareOn gpuid).sum : Nat) ∧
      n.activeCount + (l.filter fun i => (d.entry i).ActiveOn gpuid).length =
        (l.foldl (fun n i => n.add gpuid (d.entry i)) n).activeCount := by
  induction l generalizing n with
  | nil => exact ⟨(Int.add_zero _).symm, rfl⟩
  | cons i l ih =>
    rw [List.map_cons, List.sum_cons] at hfit
    rw [List.foldl_cons, List.map_cons, List.sum_cons]
    by_cases hon : (d.entry i).ActiveOn gpuid
    · have hshare : (d.entry i).shareOn gpuid = (d.entry i).shareUnit.toNat := if_pos hon
      have hadd : n.add gpuid (d.entry i) =
          ⟨n.activeCount + 1, n.totalShares + (d.entry i).shareUnit.toUInt32.toInt32⟩ := if_pos hon
      rw [hshare] at hfit ⊢
      have htotal : (n.add gpuid (d.entry i)).totalShares.toInt =
          n.totalShares.toInt + (d.entry i).shareUnit.toNat := by
        rw [hadd]
        exact toInt_add_share h0 (by omega)
      have hactive : (n.add gpuid (d.entry i)).activeCount = n.activeCount + 1 := by rw [hadd]
      obtain ⟨hsum, hcount⟩ := ih (n.add gpuid (d.entry i)) (by omega) (by omega)
      rw [hsum, ← hcount]
      refine ⟨by omega, ?_⟩
      simp only [List.filter_cons, decide_eq_true hon, if_true, List.length_cons]
      omega
    · have hshare : (d.entry i).shareOn gpuid = 0 := if_neg hon
      have hadd : n.add gpuid (d.entry i) = n := if_neg hon
      rw [hshare, Nat.zero_add] at hfit ⊢
      obtain ⟨hsum, hcount⟩ := ih n h0 hfit
      rw [hadd]
      refine ⟨hsum, ?_⟩
      simpa [List.filter_cons, hon] using hcount

/-- The counts with which `fs_calculate_timeslice` goes on to the second loop. -/
theorem shares_eq (hpos : 0 < d.totalShares gpuid) (hfit : d.totalShares gpuid < 2 ^ 31) :
    (d.shares gpuid).totalShares.toInt = d.totalShares gpuid ∧ (d.shares gpuid).Positive := by
  have hsum : ((List.finRange maxControllerCount).map fun i => (d.entry i).shareOn gpuid).sum =
      d.totalShares gpuid := (Fin.sum_univ_def _).symm
  have hzero : (⟨0, 0⟩ : Shares).totalShares.toInt = 0 := rfl
  obtain ⟨htotal, hcount⟩ := @shares_foldl gpuid d (List.finRange maxControllerCount) ⟨0, 0⟩
    (by decide) (by rw [hsum, hzero]; omega)
  rw [hsum, hzero, Int.zero_add] at htotal
  have htotal : (d.shares gpuid).totalShares.toInt = d.totalShares gpuid := htotal
  refine ⟨htotal, ?_, ?_⟩
  · -- an active slot has been counted, since there are shares
    obtain ⟨i, -, hi⟩ := Finset.exists_ne_zero_of_sum_ne_zero hpos.ne'
    have hon : (d.entry i).ActiveOn gpuid := by
      by_contra hnot
      exact hi (if_neg hnot)
    have hmem : i ∈ (List.finRange maxControllerCount).filter fun i =>
        (d.entry i).ActiveOn gpuid :=
      List.mem_filter.mpr ⟨List.mem_finRange i, decide_eq_true hon⟩
    have hlen := List.length_pos_of_mem hmem
    rw [Nat.zero_add] at hcount
    exact fun hnone => hlen.ne' (hcount.trans hnone)
  · intro hnone
    rw [hnone] at htotal
    exact hpos.ne (Int.ofNat.inj htotal)

/-! ## The allocations -/

/-- Every active slot is allocated the same: what the loop computes for it does not read its
share. -/
theorem allocated_active (hpos : 0 < (d.ended gpuid).totalShares gpuid)
    (hfit : (d.ended gpuid).totalShares gpuid < 2 ^ 31)
    (hon : ((d.ended gpuid).entry i).ActiveOn gpuid) :
    ((calculateTimeslice exactUsec gpuid d).entry i).allocatedTime =
      .ofUsec (100000 / (d.ended gpuid).totalShares gpuid : Nat) := by
  obtain ⟨htotal, hpositive⟩ := shares_eq hpos hfit
  have hle : 100000 / (d.ended gpuid).totalShares gpuid ≤ 100000 := Nat.div_le_self ..
  have husec := exactUsec_eq htotal
  generalize 100000 / (d.ended gpuid).totalShares gpuid = usec at hle husec ⊢
  have husec : exactUsec ((d.ended gpuid).shares gpuid).totalShares = .ofInt usec := by
    rw [← Int64.toInt_inj, husec, Int64.toInt_ofInt_of_le (by omega) (by omega)]
  have hallot : ((calculateTimeslice exactUsec gpuid d).entry i).allocatedTime =
      ⟨0, exactUsec ((d.ended gpuid).shares gpuid).totalShares⟩ := by
    rw [calculateTimeslice, if_pos hpositive, SchedulerData.mapEntries_entry, Entry.allot,
      if_pos hon]
  rw [hallot, husec, ofUsec_eq (by omega)]

/-- A slot that is not active keeps the time that it was last allocated. -/
theorem allocated_other (hoff : ¬ ((d.ended gpuid).entry i).ActiveOn gpuid) :
    ((calculateTimeslice exactUsec gpuid d).entry i).allocatedTime =
      (d.entry i).allocatedTime := by
  unfold calculateTimeslice
  dsimp only
  split
  · rw [SchedulerData.mapEntries_entry, Entry.allot, if_neg hoff]
    exact Entry.endEpoch_allocatedTime
  · exact Entry.endEpoch_allocatedTime

/-- The share of an active slot is one of those added up. -/
theorem share_le_total (hon : ((d.ended gpuid).entry i).ActiveOn gpuid) :
    ((d.ended gpuid).entry i).shareOn gpuid = (d.entry i).shareUnit.toNat ∧
      (d.entry i).shareUnit.toNat ≤ (d.ended gpuid).totalShares gpuid := by
  have hshare : ((d.ended gpuid).entry i).shareOn gpuid = (d.entry i).shareUnit.toNat := by
    rw [Entry.shareOn, if_pos hon]
    exact congrArg UInt64.toNat Entry.endEpoch_shareUnit
  refine ⟨hshare, ?_⟩
  rw [← hshare]
  exact Finset.single_le_sum (f := fun i => ((d.ended gpuid).entry i).shareOn gpuid)
    (fun _ _ => Nat.zero_le _) (Finset.mem_univ i)

/-- The part of the epoch that an active slot has a share in is no more than the epoch, so that it
is less than a second and has no seconds to carry. -/
theorem part_le_epoch (hon : ((d.ended gpuid).entry i).ActiveOn gpuid) :
    100000 * (d.entry i).shareUnit.toNat / (d.ended gpuid).totalShares gpuid ≤ 100000 := by
  have hle := Nat.mul_le_mul_left 100000 (share_le_total hon).2
  exact Nat.div_le_of_le_mul (hle.trans_eq (Nat.mul_comm ..))

/-- The shares are fair where every active slot is allocated its part of the epoch. This is the
arithmetic of the multiplication that the source leaves out. -/
theorem fairShares_of_parts (hpos : 0 < (d.ended gpuid).totalShares gpuid)
    (halloc : ∀ i, ((d.ended gpuid).entry i).ActiveOn gpuid →
      ((calculateTimeslice exactUsec gpuid d).entry i).allocatedTime =
        .ofUsec (100000 * (d.entry i).shareUnit.toNat / (d.ended gpuid).totalShares gpuid : Nat)) :
    FairShares gpuid d (calculateTimeslice exactUsec gpuid d) := by
  set total := (d.ended gpuid).totalShares gpuid with htotal
  have husec : ∀ i, ((d.ended gpuid).entry i).ActiveOn gpuid →
      ((calculateTimeslice exactUsec gpuid d).entry i).allocatedTime.usec =
        (100000 * (d.entry i).shareUnit.toNat / total : Nat) := by
    intro i hon
    rw [halloc i hon, usec_ofUsec (Nat.lt_of_le_of_lt (part_le_epoch hon) (by decide))]
  constructor
  · intro i hon
    rw [halloc i hon, fairUsec_eq]
  · intro i j hi hj
    rw [husec i hi, husec j hj]
    exact_mod_cast div_proportional 100000 _ _ hpos
  · have hepoch : epochLength.toInt * 1000 = (100000 : Nat) := by decide
    have hsum : ∀ i, (if ((d.ended gpuid).entry i).ActiveOn gpuid then
        ((calculateTimeslice exactUsec gpuid d).entry i).allocatedTime.usec else 0) =
          (100000 * ((d.ended gpuid).entry i).shareOn gpuid / total : Nat) := by
      intro i
      by_cases hon : ((d.ended gpuid).entry i).ActiveOn gpuid
      · rw [if_pos hon, husec i hon, (share_le_total hon).1]
      · rw [if_neg hon, Entry.shareOn, if_neg hon, Nat.mul_zero, Nat.zero_div]
        rfl
    rw [hepoch, Finset.sum_congr rfl fun i _ => hsum i]
    exact_mod_cast sum_div_le 100000 _ hpos htotal.symm
  · exact fun i hoff => allocated_other hoff

/-- The shares are fair exactly if each of them is worth as much as a share of 1.

The slice is the same for all, namely what one share is worth; so it is fair for those that have one
share, and for those whose shares are too small to be worth a microsecond. -/
theorem fair_shares_iff (gpuid : Nat) (d : SchedulerData)
    (hpos : 0 < (d.ended gpuid).totalShares gpuid)
    (hfit : (d.ended gpuid).totalShares gpuid < 2 ^ 31) :
    FairShares gpuid d (calculateTimeslice exactUsec gpuid d) ↔
      ∀ i, ((d.ended gpuid).entry i).ActiveOn gpuid →
        WorthOne (d.entry i).shareUnit.toNat ((d.ended gpuid).totalShares gpuid) := by
  constructor
  · intro hfair i hon
    have hone : 100000 / (d.ended gpuid).totalShares gpuid ≤ 100000 := Nat.div_le_self ..
    have heach := hfair.each i hon
    rw [allocated_active hpos hfit hon, fairUsec_eq] at heach
    have husec := congrArg Timeval.usec heach
    rw [usec_ofUsec (Nat.lt_of_le_of_lt hone (by decide)),
      usec_ofUsec (Nat.lt_of_le_of_lt (part_le_epoch hon) (by decide))] at husec
    exact (worthOne_iff hpos).mp (Int.ofNat.inj husec)
  · intro hworth
    refine fairShares_of_parts hpos fun i hon => ?_
    rw [allocated_active hpos hfit hon, (worthOne_iff hpos).mpr (hworth i hon)]

end

/-- A table with one process, in slot 0, that has registered with the share. -/
def onlyShare (share : Int32) : SchedulerData :=
  fsRegisterProcess fsStartScheduler 7 sigsched 0 0 share

/-- The other slots of that table have no share. -/
theorem onlyShare_shareOn {share : Int32} {j : Slot} (h : j ≠ firstSlot) :
    (((onlyShare share).ended 0).entry j).shareOn 0 = 0 := by
  have hentry : (onlyShare share).entry j = fsStartScheduler.entry j :=
    fsRegisterProcess_entry_of_ne h
  rw [SchedulerData.mapEntries_entry, hentry]
  rfl

/-- The total is the one share. -/
theorem onlyShare_total {share : Int32} {n : Nat}
    (h : (((onlyShare share).ended 0).entry firstSlot).shareOn 0 = n) :
    ((onlyShare share).ended 0).totalShares 0 = n := by
  rw [← h]
  exact Finset.sum_eq_single firstSlot (fun j _ hj => onlyShare_shareOn hj)
    fun hnot => absurd (Finset.mem_univ _) hnot

/-- One process with a share of 1 has the whole epoch, as it should. -/
theorem fair_shares_iff_onlyShare :
    FairShares 0 (onlyShare 1) (calculateTimeslice exactUsec 0 (onlyShare 1)) ↔
      ∀ i, (((onlyShare 1).ended 0).entry i).ActiveOn 0 →
        WorthOne ((onlyShare 1).entry i).shareUnit.toNat
          (((onlyShare 1).ended 0).totalShares 0) := by
  have htotal : ((onlyShare 1).ended 0).totalShares 0 = 1 := onlyShare_total (by decide)
  exact fair_shares_iff 0 (onlyShare 1) (by rw [htotal]; decide) (by rw [htotal]; decide)

/-- The only process of a GPU, which has a share of 50, is not given the whole epoch but 2 ms. -/
theorem share_not_multiplied : ¬ ∀ (gpuid : Nat) (d : SchedulerData),
    0 < (d.ended gpuid).totalShares gpuid → (d.ended gpuid).totalShares gpuid < 2 ^ 31 →
      FairShares gpuid d (calculateTimeslice exactUsec gpuid d) := by
  intro hclaim
  have htotal : ((onlyShare 50).ended 0).totalShares 0 = 50 := onlyShare_total (by decide)
  have hpos : 0 < ((onlyShare 50).ended 0).totalShares 0 := by rw [htotal]; decide
  have hfit : ((onlyShare 50).ended 0).totalShares 0 < 2 ^ 31 := by rw [htotal]; decide
  have hon : (((onlyShare 50).ended 0).entry firstSlot).ActiveOn 0 := by decide
  have hshare : ((onlyShare 50).entry firstSlot).shareUnit.toNat = 50 := by decide
  have heach := (hclaim 0 (onlyShare 50) hpos hfit).each firstSlot hon
  rw [allocated_active hpos hfit hon, htotal, hshare, fairUsec_eq] at heach
  exact absurd heach (by decide)

end GpuVirtmem.Sched
