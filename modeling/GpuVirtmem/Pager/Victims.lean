import GpuVirtmem.Pager.Owners
import GpuVirtmem.VirtMem.System
import Mathlib.Algebra.BigOperators.Group.Finset.Basic

/-!
# What the victims free (`l2scheduler/pager.c`, `virtmem/cuda_vmem.c`)

The search for the smallest row starts from 0 in every round, so that every round ends on the same
row and lists it once more. The first row in use is taken whatever its status, and `D_INIT` rows
are counted on; a page-out frees rows in `D_READY` and `D_MODIFIED` only, and each of them once.

Two things are compared: what the pager has been promised by the sizes of the rows it lists, and
what the victims free when they page out these rows. They differ where a row is counted more than
once, and where a row is listed that a page-out passes over. What is left is the case of one row
that is large enough alone and in one of the two statuses.
-/

namespace GpuVirtmem.Pager

open Lib VirtMem

/-- The row is in use. -/
def inUseAt (table : List MemMap) (i : Nat) : Bool := (table[i]?).any MemMap.valid

/-- Row `i` takes the place of row `j` as the smallest so far: it is in use and has device memory,
and is not larger, where the size of row `j` is what is left of it in an `int`. -/
def displaces (table : List MemMap) (j i : Nat) : Bool :=
  match table[j]?, table[i]? with
  | some row, some row' =>
    row'.valid && (toInt row.size == -1 ||
      (row'.status.resident && decide (row'.size ≤ toSizeT (toInt row.size))))
  | _, _ => false

/-- The smallest of the rows up to `max`, where any row in use will do for a start. -/
def smallestRow (table : List MemMap) : Nat → Option Nat
  | 0 => none
  | i + 1 =>
    match smallestRow table i with
    | none => if inUseAt table i then some i else none
    | some j => if displaces table j i then some i else some j

/-- The row that is listed, 0 where none is in use. -/
def listedRow (table : List MemMap) (max : Nat) : Nat := (smallestRow table max).getD 0

/-- A page-out frees the row: it is in `D_READY` or `D_MODIFIED`, its pointer leads to a block of
the device, and its swap buffer takes what is in it. -/
def Evictable (d : Device) (row : MemMap) : Prop :=
  (row.status = .dReady ∨ row.status = .dModified) ∧ row.actualDevptr ≠ NULL ∧
    (d.blocks row.actualDevptr).isSome ∧ (row.fetch d row.size).isSome

section

variable {table : List MemMap} {max n k : Nat} {found : Int × Nat} {s t u : Vmem}
  {row : MemMap} {pd : List ChosenVictim}

/-! ## The row of every round -/

/-- The search stands where `smallestRow` does. -/
def Found (table : List MemMap) (i : Nat) (found : Int × Nat) : Prop :=
  (smallestRow table i = none ∧ found = (-1, 0)) ∨
    ∃ j row, smallestRow table i = some j ∧ table[j]? = some row ∧ found = (toInt row.size, j)

/-- When a row takes the place of the smallest so far, in the terms of the source: the first test is
for a start, and a size that is -1 as an `int` looks like one. -/
theorem displaces_iff {j : Nat} {small : MemMap} (hj : table[j]? = some small)
    (hn : table[n]? = some row) :
    displaces table j n = true ↔ (row.valid = true ∧ toInt small.size = -1) ∨
      (row.valid = true ∧ row.size ≤ toSizeT (toInt small.size) ∧ 0 ≤ row.size ∧
        (row.status = .dInit ∨ row.status = .dReady ∨ row.status = .dModified)) := by
  have hresident : row.status.resident = true ↔
      row.status = .dInit ∨ row.status = .dReady ∨ row.status = .dModified := by
    cases row.status <;> simp [VmemStatus.resident]
  simp only [displaces, hj, hn, Bool.and_eq_true, Bool.or_eq_true, beq_iff_eq,
    decide_eq_true_eq, hresident, Nat.zero_le, true_and]
  rw [and_or_left, and_comm (b := row.size ≤ toSizeT (toInt small.size))]

/-- A round of the search is a step of the recursion that defines the smallest row. -/
theorem searchRow_found {found' : Int × Nat} (hfound : Found table n found)
    (h : searchRow table found n = some found') : Found table (n + 1) found' := by
  obtain ⟨row, hrow, rfl⟩ := Option.map_eq_some_iff.mp h
  rcases hfound with ⟨hsmall, rfl⟩ | ⟨j, small, hsmall, hj, rfl⟩
  · have hstep : smallestRow table (n + 1) = if inUseAt table n then some n else none := by
      simp only [smallestRow, hsmall]
    cases hvalid : row.valid with
    | true =>
      refine .inr ⟨n, row, ?_, hrow, ?_⟩
      · simp [hstep, inUseAt, hrow, hvalid]
      · simp
    | false =>
      refine .inl ⟨?_, ?_⟩
      · simp [hstep, inUseAt, hrow, hvalid]
      · simp
  · have hstep : smallestRow table (n + 1) = if displaces table j n then some n else some j := by
      simp only [smallestRow, hsmall]
    by_cases hd : displaces table j n = true
    · refine .inr ⟨n, row, hstep.trans (if_pos hd), hrow, ?_⟩
      rcases (displaces_iff hj hrow).mp hd with hneg | hless
      · rw [if_pos hneg]
      · rw [if_pos hless, ite_self]
    · refine .inr ⟨j, small, hstep.trans (if_neg hd), hj, ?_⟩
      rw [displaces_iff hj hrow, not_or] at hd
      rw [if_neg hd.1, if_neg hd.2]

/-- So the search ends on it. -/
theorem searchRows_found (h : searchRows table max = some found) : Found table max found := by
  unfold searchRows at h
  induction max generalizing found with
  | zero =>
    cases h
    exact .inl ⟨rfl, rfl⟩
  | succ n ih =>
    rw [List.range_succ] at h
    obtain ⟨before, hbefore, hrow⟩ := foldlM_concat_iff.mp h
    exact searchRow_found (ih hbefore) hrow

/-- Every search ends on the listed row. -/
theorem searchRows_listed (h : searchRows table max = some found) :
    found.2 = listedRow table max := by
  rcases searchRows_found h with ⟨hsmall, rfl⟩ | ⟨j, _, hsmall, -, rfl⟩
  · rw [listedRow, hsmall]
    rfl
  · rw [listedRow, hsmall]
    rfl

/-- Row `i` is the first in use, or it is in use and has device memory. -/
def Candidate (table : List MemMap) (i : Nat) : Prop :=
  inUseAt table i = true ∧
    ((∀ j < i, inUseAt table j = false) ∨ (table[i]?).any (·.status.resident) = true)

/-- Where no row is found, none is in use. -/
theorem smallestRow_none (h : smallestRow table n = none) : ∀ i < n, inUseAt table i = false := by
  induction n with
  | zero => simp
  | succ n ih =>
    rw [smallestRow] at h
    cases hsmall : smallestRow table n with
    | none =>
      rw [hsmall] at h
      have hlast : inUseAt table n = false := by simpa using h
      exact Nat.forall_lt_succ_right.mpr ⟨ih hsmall, hlast⟩
    | some j =>
      rw [hsmall] at h
      dsimp only at h
      split at h <;> cases h

/-- To be in use is to be valid. -/
theorem inUseAt_iff : inUseAt table n = true ↔ ∃ row, table[n]? = some row ∧ row.valid = true := by
  unfold inUseAt
  cases table[n]? <;> simp

/-- Below 2^31 the sizes are compared as they are. -/
theorem displaces_small {j : Nat} {small : MemMap} (hj : table[j]? = some small)
    (hn : table[n]? = some row) (hsize : small.size < 2 ^ 31) :
    displaces table j n = true ↔
      row.valid = true ∧ row.status.resident = true ∧ row.size ≤ small.size := by
  have hnat : ((small.size : Nat) : Int) ≠ -1 := by omega
  have hkey : toSizeT (small.size : Int) = small.size := toSizeT_small hsize
  rw [displaces, hj, hn]
  simp only [toInt_small hsize]
  generalize toSizeT (small.size : Int) = key at hkey
  simp [hnat, hkey]

/-- Row `k` is the last of the smallest candidates below row `n`. -/
def Smallest (table : List MemMap) (n k : Nat) : Prop :=
  ∃ row, table[k]? = some row ∧ k < n ∧ Candidate table k ∧
    ∀ i row', table[i]? = some row' → i < n → Candidate table i →
      row.size < row'.size ∨ (row.size = row'.size ∧ i ≤ k)

/-- A candidate that is no larger than those before it. -/
theorem smallest_self (hrow : table[n]? = some row) (hcand : Candidate table n)
    (hleast : ∀ i row', table[i]? = some row' → i < n → Candidate table i → row.size ≤ row'.size) :
    Smallest table (n + 1) n := by
  refine ⟨row, hrow, Nat.lt_succ_self n, hcand, ?_⟩
  intro i row' hrow' hi hc
  rcases Nat.lt_succ_iff_lt_or_eq.mp hi with hi | rfl
  · have hle := hleast i row' hrow' hi hc
    omega
  · cases hrow.symm.trans hrow'
    exact .inr ⟨rfl, Nat.le_refl i⟩

/-- The row stays where the next one is no candidate or is larger. -/
theorem Smallest.succ (h : Smallest table n k)
    (hnext : ∀ row row', table[k]? = some row → table[n]? = some row' → Candidate table n →
      row.size < row'.size) : Smallest table (n + 1) k := by
  obtain ⟨row, hrow, hk, hcand, hleast⟩ := h
  refine ⟨row, hrow, Nat.lt_succ_of_lt hk, hcand, ?_⟩
  intro i row' hrow' hi hc
  rcases Nat.lt_succ_iff_lt_or_eq.mp hi with hi | rfl
  · exact hleast i row' hrow' hi hc
  · exact .inl (hnext row row' hrow hrow' hc)

/-- Behind a row in use, a candidate has device memory. -/
theorem Candidate.resident {j : Nat} (h : Candidate table n) (hrow : table[n]? = some row)
    (hj : inUseAt table j = true) (hjn : j < n) : row.status.resident = true := by
  rcases h.2 with hfirst | hres
  · exact absurd hj (by simp [hfirst j hjn])
  · simpa [hrow] using hres

/-- Only a row in use takes another's place. -/
theorem inUseAt_of_displaces {j : Nat} (h : displaces table j n = true) :
    inUseAt table n = true := by
  unfold displaces at h
  unfold inUseAt
  cases hj : table[j]? with
  | none => simp [hj] at h
  | some small =>
    cases hn : table[n]? with
    | none => simp [hj, hn] at h
    | some row =>
      rw [hj, hn] at h
      exact (Bool.and_eq_true_iff.mp h).1

/-- Where all the sizes are below 2^31, the search ends on the last of the smallest candidates. This
is what the function does for the sizes that it is meant for; the results below do not use the
bound. -/
theorem smallestRow_smallest
    (hsmall : ∀ (i : Nat) (row : MemMap), table[i]? = some row → row.size < 2 ^ 31)
    (h : smallestRow table n = some k) : Smallest table n k := by
  induction n generalizing k with
  | zero => cases h
  | succ n ih =>
    cases hprev : smallestRow table n with
    | none =>
      have hnone := smallestRow_none hprev
      rw [smallestRow, hprev] at h
      dsimp only at h
      split at h
      · next huse =>
        cases h
        obtain ⟨row, hrow, -⟩ := inUseAt_iff.mp huse
        refine smallest_self hrow ⟨huse, .inl hnone⟩ ?_
        intro i row' _ hi hc
        exact absurd hc.1 (by simp [hnone i hi])
      · cases h
    | some j =>
      have hbefore := ih hprev
      obtain ⟨small, hj, hjn, hcand, hleast⟩ := ih hprev
      have hlt := hsmall j small hj
      rw [smallestRow, hprev] at h
      dsimp only at h
      split at h
      · next hd =>
        cases h
        have huse := inUseAt_of_displaces hd
        obtain ⟨row, hrow, -⟩ := inUseAt_iff.mp huse
        obtain ⟨-, hres, hle⟩ := (displaces_small hj hrow hlt).mp hd
        refine smallest_self hrow ⟨huse, .inr (by simp [hrow, hres])⟩ ?_
        intro i row' hrow' hi hc
        have hnot := hleast i row' hrow' hi hc
        omega
      · next hd =>
        cases h
        refine hbefore.succ ?_
        intro row row' hrow hrow' hc
        cases hj.symm.trans hrow
        rw [displaces_small hj hrow' hlt] at hd
        obtain ⟨_, hin, hvalid⟩ := inUseAt_iff.mp hc.1
        cases hin.symm.trans hrow'
        by_contra hge
        exact hd ⟨hvalid, hc.resident hrow' hcand.1 hjn, Nat.le_of_not_lt hge⟩

/-! ## The victims -/

/-- The first row makes the first victim. -/
theorem addRow_nil {pid : Nat} {pd' : List ChosenVictim} (h : addRow [] pid k = some pd') :
    pd' = [⟨pid, [k]⟩] := by
  have hnone : chosenId [] pid = none := rfl
  rw [addRow, hnone] at h
  dsimp only at h
  split at h
  · cases h
    rfl
  · cases h

/-- The same row once more goes to the same victim. -/
theorem addRow_single {pid : Nat} {reqarr : List Nat} {pd' : List ChosenVictim}
    (h : addRow [⟨pid, reqarr⟩] pid k = some pd') : pd' = [⟨pid, reqarr ++ [k]⟩] := by
  have hchosen : chosenId [⟨pid, reqarr⟩] pid = some 0 := by
    simp [chosenId, lastMatch]
  rw [addRow, hchosen] at h
  obtain ⟨v, hv, h⟩ := Option.bind_eq_some_iff.mp h
  cases hv
  dsimp only at h
  split at h
  · cases h
    rfl
  · cases h

/-- The listed row, so many times. -/
def ListsOne (table : List MemMap) (max : Nat) (pd : List ChosenVictim) : Prop :=
  ∃ row n, table[listedRow table max]? = some row ∧
    pd = [⟨row.pid, List.replicate (n + 1) (listedRow table max)⟩]

/-- Every round lists the one row again, so that there is one victim at most. -/
theorem chooseLoop_one {memRequirement fuel : Nat} {satisfied : Int} {pd' : List ChosenVictim}
    (hpd : pd = [] ∨ ListsOne table max pd)
    (h : chooseLoop table max memRequirement fuel satisfied pd = some pd') :
    (toSizeT satisfied < memRequirement → ListsOne table max pd') ∧
      (memRequirement ≤ toSizeT satisfied → pd' = pd) := by
  induction fuel generalizing satisfied pd with
  | zero => cases h
  | succ fuel ih =>
    rw [chooseLoop] at h
    split at h
    · next hless =>
      refine ⟨fun _ => ?_, fun hle => absurd hless (Nat.not_lt.mpr hle)⟩
      obtain ⟨⟨min, minindex⟩, hfound, h⟩ := Option.bind_eq_some_iff.mp h
      obtain rfl : minindex = listedRow table max := searchRows_listed hfound
      obtain ⟨row, hrow, h⟩ := Option.bind_eq_some_iff.mp h
      obtain ⟨pd'', hadd, h⟩ := Option.bind_eq_some_iff.mp h
      have hone : ListsOne table max pd'' := by
        rcases hpd with rfl | ⟨row', n, hrow', rfl⟩
        · exact ⟨row, 0, hrow, addRow_nil hadd⟩
        · cases hrow.symm.trans hrow'
          refine ⟨row, n + 1, hrow, ?_⟩
          rw [addRow_single hadd, ← List.replicate_succ']
      have hnext := ih (.inr hone) h
      rcases Nat.lt_or_ge (toSizeT (satisfied + min)) memRequirement with hlt | hge
      · exact hnext.1 hlt
      · rw [hnext.2 hge]
        exact hone
    · next hless =>
      cases h
      exact ⟨fun hlt => absurd hlt hless, fun _ => rfl⟩

/-- Where nothing is required nobody is chosen, and otherwise one row is listed, for its process, as
often as the sum needs it. -/
theorem chooseVictims_one {memRequirement fuel : Nat}
    (h : chooseVictimsLeastFrequetlyUsed table max memRequirement fuel = some pd) :
    (memRequirement = 0 → pd = []) ∧ (memRequirement ≠ 0 → ListsOne table max pd) := by
  have hone := chooseLoop_one (.inl rfl) h
  have hzero : toSizeT 0 = 0 := rfl
  rw [hzero] at hone
  exact ⟨fun hreq => hone.2 (Nat.le_zero.mpr hreq), fun hreq => hone.1 (Nat.pos_of_ne_zero hreq)⟩

/-! ## The page-outs -/

/-- A row that can be freed is paged out. -/
theorem Evictable.pageOutRow (h : Evictable s.device row) (hrow : s.table[k]? = some row) :
    ∃ t, pageOutRow s k = some t := by
  obtain ⟨hstatus, -, -, hfetch⟩ := h
  obtain ⟨up, hup⟩ := Option.isSome_iff_exists.mp hfetch
  rw [VirtMem.pageOutRow, hrow, Option.bind_some, MemMap.evict]
  rcases hstatus with hst | hst <;> rw [hst] <;> simp [hup]

end

/-- A row of four bytes, with its block and its swap buffer. -/
def fourByteRow (status : VmemStatus) : MemMap :=
  { initRow 5 0 with
    valid := true, actualDevptr := 4096, swap := some [0, 0, 0, 0], size := 4, status := status }

/-- The table with that row. -/
def fourByteTable (status : VmemStatus) : Vmem where
  table := [fourByteRow status]
  device := ⟨fun p => if p = 4096 then some [1, 2, 3, 4] else none⟩

/-- A row of four bytes in any status is chosen where four bytes are required. -/
theorem choose_fourByteTable (status : VmemStatus) :
    chooseVictimsLeastFrequetlyUsed (fourByteTable status).table 1 4 2 = some [⟨5, [0]⟩] := by
  have hzero : toSizeT 0 < 4 := by decide
  have hfour : ¬ toSizeT (0 + 4) < 4 := by decide
  have hfound : searchRows (fourByteTable status).table 1 = some (4, 0) := by
    have hint : toInt 4 = 4 := by decide
    simp [searchRows, searchRow, fourByteTable, fourByteRow, hint]
  have hadd : addRow [] 5 0 = some [⟨5, [0]⟩] := rfl
  have hrow : (fourByteTable status).table[0]? = some (fourByteRow status) := rfl
  rw [chooseVictimsLeastFrequetlyUsed, chooseLoop, if_pos hzero, hfound]
  dsimp only [Option.bind_eq_bind, Option.bind_some]
  rw [hrow, Option.bind_some, fourByteRow, initRow, hadd, Option.bind_some, chooseLoop,
    if_neg hfour]

end GpuVirtmem.Pager
