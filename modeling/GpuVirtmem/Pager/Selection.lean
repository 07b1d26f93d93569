import GpuVirtmem.Pager.Victims
import Mathlib.Tactic.Linarith
import Mathlib.Tactic.Positivity

/-!
# The rounds of the choice, and what its caller gets (`l2scheduler/pager.c`)

Every round of `choose_victims_least_frequetly_used` ends on the same row and adds what an `int`
holds of its size, so that the sum after some rounds is a multiple. The lists stay in the function:
its parameter `pd` is a copy of the caller's pointer, and only `*len` is written where the caller
reads it.

Two properties are settled here, and they do not depend on each other. The first is that the loop
ends within as many rounds as there are rows; for that the sum is computed exactly, with the
conversions between `size_t` and `int` that the source makes on the way. The second is that the
caller gets sound lists; it gets none, since the function assigns to its own copy of the pointer.
-/

namespace GpuVirtmem.Pager

open Lib VirtMem Backend
open Sched (maxControllerCount)

/-! ## The sum of the rounds -/

/-- What `min` is when the search ends: the size of the listed row as an `int`, and -1 where none is
in use. -/
def listedSize (table : List MemMap) (max : Nat) : Int :=
  ((smallestRow table max).bind (table[·]?)).elim (-1) fun row => toInt row.size

/-- The victims after so many rounds that all list one row. -/
def listed (pid k : Nat) : Nat → List ChosenVictim
  | 0 => []
  | n + 1 => [⟨pid, List.replicate (n + 1) k⟩]

section

variable {table : List MemMap} {max n k pid fuel memRequirement : Nat} {min m : Int} {row : MemMap}

/-- The search stays in the table. -/
theorem searchRows_some (h : n ≤ table.length) : ∃ found, searchRows table n = some found := by
  induction n with
  | zero => exact ⟨_, rfl⟩
  | succ n ih =>
    obtain ⟨found, hfound⟩ := ih (Nat.le_of_succ_le h)
    have hrow : table[n]? = some table[n] := List.getElem?_eq_getElem h
    rw [searchRows] at hfound
    obtain ⟨next, hnext⟩ : ∃ next, searchRow table found n = some next := by
      rw [searchRow, hrow]
      exact ⟨_, rfl⟩
    rw [searchRows, List.range_succ]
    exact ⟨next, foldlM_concat_iff.mpr ⟨found, hfound, hnext⟩⟩

/-- Every search ends on the listed row, with its size. -/
theorem searchRows_eq (h : max ≤ table.length) :
    searchRows table max = some (listedSize table max, listedRow table max) := by
  obtain ⟨found, hfound⟩ := searchRows_some h
  rw [hfound]
  rcases searchRows_found hfound with ⟨hsmall, rfl⟩ | ⟨j, row, hsmall, hrow, rfl⟩
  · rw [listedSize, listedRow, hsmall]
    rfl
  · rw [listedSize, listedRow, hsmall, Option.bind_some, hrow, Option.elim_some, Option.getD_some]

/-- The row that is listed already is listed once more, for the same victim. -/
theorem addRow_listed (h : n < maxMemory) :
    addRow (listed pid k n) pid k = some (listed pid k (n + 1)) := by
  cases n with
  | zero =>
    have hroom : ([] : List ChosenVictim).length < maxControllerCount := Nat.succ_pos _
    have hnone : chosenId [] pid = none := rfl
    rw [listed, addRow, hnone]
    exact if_pos hroom
  | succ n =>
    have hchosen : chosenId (listed pid k (n + 1)) pid = some 0 := by
      simp [listed, chosenId, lastMatch]
    have hroom : (List.replicate (n + 1) k).length < maxMemory := by
      rw [List.length_replicate]
      exact h
    rw [addRow, hchosen]
    dsimp only [listed, List.getElem?_cons_zero, Option.bind_some]
    rw [if_pos hroom, ← List.replicate_succ']
    rfl

/-- A round lists the row once more. -/
theorem chooseLoop_round (hsearch : searchRows table max = some (m, k))
    (hrow : table[k]? = some row) (hroom : n < maxMemory)
    (hless : toSizeT (n * m) < memRequirement) :
    chooseLoop table max memRequirement (fuel + 1) (n * m) (listed row.pid k n) =
      chooseLoop table max memRequirement fuel ((n + 1 : Nat) * m) (listed row.pid k (n + 1)) := by
  have hsum : (n : Int) * m + m = (n + 1 : Nat) * m := by
    rw [Nat.cast_add_one, Int.add_mul, Int.one_mul]
  rw [chooseLoop, if_pos hless, hsearch, Option.bind_eq_bind, Option.bind_some]
  dsimp only
  rw [hrow, Option.bind_eq_bind, Option.bind_some, addRow_listed hroom, Option.bind_eq_bind,
    Option.bind_some, hsum]

/-- The loop ends after `n` rounds where the sum is enough. -/
theorem chooseLoop_done {pd : List ChosenVictim} (hge : ¬ toSizeT (n * m) < memRequirement) :
    chooseLoop table max memRequirement (fuel + 1) (n * m) (listed pid k n) = some pd ↔
      ∃ r, n ≤ r ∧ r ≤ n + fuel ∧ memRequirement ≤ toSizeT (r * m) ∧
        (∀ q < r, n ≤ q → toSizeT (q * m) < memRequirement) ∧ pd = listed pid k r := by
  rw [chooseLoop, if_neg hge]
  constructor
  · intro h
    exact ⟨n, Nat.le_refl n, Nat.le_add_right .., Nat.not_lt.mp hge,
      fun q hq hn => absurd hq (Nat.not_lt.mpr hn), (Option.some.inj h).symm⟩
  · rintro ⟨r, hn, -, -, hbefore, rfl⟩
    rcases Nat.lt_or_eq_of_le hn with hlt | rfl
    · exact absurd (hbefore n hlt (Nat.le_refl n)) hge
    · rfl

/-- The loop goes on from `n` rounds until the sum is enough. By induction on the rounds; each adds
the same number, so that the sum after some of them is a product. -/
theorem chooseLoop_eq_some_iff {pd : List ChosenVictim}
    (hsearch : searchRows table max = some (m, k)) (hrow : table[k]? = some row)
    (hroom : n + fuel ≤ maxMemory) :
    chooseLoop table max memRequirement (fuel + 1) (n * m) (listed row.pid k n) = some pd ↔
      ∃ r, n ≤ r ∧ r ≤ n + fuel ∧ memRequirement ≤ toSizeT (r * m) ∧
        (∀ q < r, n ≤ q → toSizeT (q * m) < memRequirement) ∧ pd = listed row.pid k r := by
  induction fuel generalizing n with
  | zero =>
    by_cases hless : toSizeT (n * m) < memRequirement
    · rw [chooseLoop, if_pos hless]
      constructor
      · intro h
        simp [chooseLoop] at h
      · rintro ⟨r, hn, hr, hge, -, -⟩
        obtain rfl : r = n := Nat.le_antisymm hr hn
        exact absurd hless (Nat.not_lt.mpr hge)
    · exact chooseLoop_done hless
  | succ fuel ih =>
    by_cases hless : toSizeT (n * m) < memRequirement
    · rw [chooseLoop_round hsearch hrow (by omega) hless, ih (by omega)]
      constructor
      · rintro ⟨r, hn, hr, hge, hbefore, rfl⟩
        refine ⟨r, by omega, by omega, hge, fun q hq hqn => ?_, rfl⟩
        rcases Nat.lt_or_eq_of_le hqn with hlt | rfl
        · exact hbefore q hq hlt
        · exact hless
      · rintro ⟨r, hn, hr, hge, hbefore, rfl⟩
        have hne : n ≠ r := by
          rintro rfl
          exact absurd hless (Nat.not_lt.mpr hge)
        exact ⟨r, by omega, by omega, hge, fun q hq hqn => hbefore q hq (by omega), rfl⟩
    · exact chooseLoop_done hless

/-! ## The end of the loop -/

/-- The row that the search ends on is one of the table. -/
theorem listedRow_some (hmax : max ≤ table.length) (hpos : 0 < table.length) :
    ∃ row, table[listedRow table max]? = some row := by
  obtain ⟨found, hfound⟩ := searchRows_some hmax
  rcases searchRows_found hfound with ⟨hsmall, -⟩ | ⟨j, row, hsmall, hrow, -⟩
  · rw [listedRow, hsmall, Option.getD_none]
    exact ⟨table[0], List.getElem?_eq_getElem hpos⟩
  · rw [listedRow, hsmall, Option.getD_some]
    exact ⟨row, hrow⟩

/-- What the function returns with. -/
theorem chooseVictims_eq_some_iff {pd : List ChosenVictim} (hmax : max ≤ table.length)
    (hrow : table[listedRow table max]? = some row) (hroom : fuel ≤ maxMemory) :
    chooseVictimsLeastFrequetlyUsed table max memRequirement (fuel + 1) = some pd ↔
      ∃ r ≤ fuel, memRequirement ≤ toSizeT (r * listedSize table max) ∧
        (∀ q < r, toSizeT (q * listedSize table max) < memRequirement) ∧
          pd = listed row.pid (listedRow table max) r := by
  have hloop := @chooseLoop_eq_some_iff table max 0 _ fuel memRequirement _ row pd
    (searchRows_eq hmax) hrow (by rwa [Nat.zero_add])
  rw [Nat.cast_zero, Int.zero_mul, Nat.zero_add] at hloop
  rw [chooseVictimsLeastFrequetlyUsed]
  refine hloop.trans ⟨?_, ?_⟩
  · rintro ⟨r, -, hr, hge, hbefore, rfl⟩
    exact ⟨r, hr, hge, fun q hq => hbefore q hq (Nat.zero_le q), rfl⟩
  · rintro ⟨r, hr, hge, hbefore, rfl⟩
    exact ⟨r, Nat.zero_le r, hr, hge, fun q hq _ => hbefore q hq, rfl⟩

/-- It returns as soon as some number of rounds is enough. -/
theorem exists_chooseVictims_iff (hmax : max ≤ table.length) (hpos : 0 < table.length)
    (hroom : fuel ≤ maxMemory) :
    (∃ pd, chooseVictimsLeastFrequetlyUsed table max memRequirement (fuel + 1) = some pd) ↔
      ∃ r ≤ fuel, memRequirement ≤ toSizeT (r * listedSize table max) := by
  obtain ⟨row, hrow⟩ := listedRow_some hmax hpos
  constructor
  · rintro ⟨pd, h⟩
    obtain ⟨r, hr, hge, -, -⟩ := (chooseVictims_eq_some_iff hmax hrow hroom).mp h
    exact ⟨r, hr, hge⟩
  · rintro ⟨r, hr, hge⟩
    have hex : ∃ r : Nat, memRequirement ≤ toSizeT (r * listedSize table max) := ⟨r, hge⟩
    refine ⟨_, (chooseVictims_eq_some_iff hmax hrow hroom).mpr
      ⟨Nat.find hex, (Nat.find_min' hex hge).trans hr, Nat.find_spec hex, fun q hq => ?_, rfl⟩⟩
    exact Nat.not_le.mp (Nat.find_min hex hq)

/-- What an `int` holds of a size is in its range. -/
theorem toInt_bounds (size : Nat) : -2 ^ 31 ≤ toInt size ∧ toInt size < 2 ^ 31 := by
  have hlow := @Int.le_bmod size (2 ^ 32) (by decide)
  have hhigh := @Int.bmod_lt size (2 ^ 32) (by decide)
  unfold toInt
  omega

/-- So is what a round adds. -/
theorem listedSize_bounds (table : List MemMap) (max : Nat) :
    -2 ^ 31 ≤ listedSize table max ∧ listedSize table max < 2 ^ 31 := by
  rcases hrow : (smallestRow table max).bind (table[·]?) with _ | row
  · rw [listedSize, hrow, Option.elim_none]
    omega
  · rw [listedSize, hrow, Option.elim_some]
    exact toInt_bounds row.size

/-- A sum that is not negative is compared as it is. -/
theorem le_toSizeT_iff_of_nonneg {n : Int} (h0 : 0 ≤ n) (h : n < 2 ^ 64) :
    memRequirement ≤ toSizeT n ↔ (memRequirement : Int) ≤ n := by
  rw [toSizeT, Int.emod_eq_of_lt h0 h]
  omega

/-- One that is negative is compared as a very large number, and is then enough for nearly
everything. -/
theorem le_toSizeT_iff_of_neg {n : Int} (h0 : n < 0) (h : -2 ^ 64 ≤ n) :
    memRequirement ≤ toSizeT n ↔ (memRequirement : Int) ≤ 2 ^ 64 + n := by
  have hmod : n % 2 ^ 64 = 2 ^ 64 + n := by omega
  rw [toSizeT, hmod]
  omega

/-- When some multiple of the size is enough, compared as an unsigned number. A negative size is
enough at once or never. -/
theorem multiple_enough_iff (hlow : -2 ^ 31 ≤ m) (hhigh : m < 2 ^ 31) (hn : n ≤ maxMemory) :
    (∃ r ≤ n, memRequirement ≤ toSizeT (r * m)) ↔ memRequirement = 0 ∨
      (0 < m ∧ (memRequirement : Int) ≤ n * m) ∨
        (m < 0 ∧ 0 < n ∧ (memRequirement : Int) ≤ 2 ^ 64 + m) := by
  have hmax : (n : Int) ≤ 10000 := by exact_mod_cast hn
  have hzero : memRequirement ≤ toSizeT 0 ↔ memRequirement = 0 := Nat.le_zero
  constructor
  · rintro ⟨r, hr, hge⟩
    have hr : (r : Int) ≤ n := by exact_mod_cast hr
    rcases Nat.eq_zero_or_pos r with rfl | hrpos
    · rw [Nat.cast_zero, Int.zero_mul] at hge
      exact .inl (hzero.mp hge)
    · have hone : (1 : Int) ≤ r := by exact_mod_cast hrpos
      rcases lt_trichotomy m 0 with hneg | rfl | hpos
      · have hle : r * m ≤ m := by nlinarith
        have hlow : -(10000 * 2 ^ 31) ≤ r * m := by nlinarith
        rw [le_toSizeT_iff_of_neg (by omega) (by omega)] at hge
        exact .inr (.inr ⟨hneg, by omega, by omega⟩)
      · rw [Int.mul_zero] at hge
        exact .inl (hzero.mp hge)
      · have hle : r * m ≤ n * m := Int.mul_le_mul_of_nonneg_right hr hpos.le
        have hhigh : n * m ≤ 10000 * 2 ^ 31 := by nlinarith
        rw [le_toSizeT_iff_of_nonneg (by positivity) (by omega)] at hge
        exact .inr (.inl ⟨hpos, hge.trans hle⟩)
  · rintro (rfl | ⟨hpos, hge⟩ | ⟨hneg, hn0, hge⟩)
    · exact ⟨0, Nat.zero_le n, Nat.zero_le _⟩
    · have hhigh : n * m ≤ 10000 * 2 ^ 31 := by nlinarith
      exact ⟨n, Nat.le_refl n, (le_toSizeT_iff_of_nonneg (by positivity) (by omega)).mpr hge⟩
    · refine ⟨1, hn0, ?_⟩
      rw [Nat.cast_one, Int.one_mul]
      exact (le_toSizeT_iff_of_neg hneg (by omega)).mpr hge

/-- The loop ends within as many rounds as there are rows, and no store leaves an array. -/
def EndsInRounds (table : List MemMap) (max memRequirement : Nat) : Prop :=
  ∃ pd, chooseVictimsLeastFrequetlyUsed table max memRequirement (max + 1) = some pd

/-- The loop ends exactly if nothing is required, or the listed row has a positive size and so many
of it are enough as there are rows, or the sum is negative after one round and then enough.

The same row is found in every round, so the sum after some rounds is a multiple of its size; the
three cases are those of the sign that the size has as an `int`. -/
theorem endsInRounds_iff (hlen : table.length = maxMemory) (hmax : max ≤ maxMemory) :
    EndsInRounds table max memRequirement ↔ memRequirement = 0 ∨
      (0 < listedSize table max ∧ (memRequirement : Int) ≤ max * listedSize table max) ∨
        (listedSize table max < 0 ∧ 0 < max ∧
          (memRequirement : Int) ≤ 2 ^ 64 + listedSize table max) := by
  obtain ⟨hlow, hhigh⟩ := listedSize_bounds table max
  have hpos : 0 < table.length := hlen ▸ Nat.succ_pos _
  exact (exists_chooseVictims_iff (hlen ▸ hmax) hpos hmax).trans
    (multiple_enough_iff hlow hhigh hmax)

end

/-- The shared table, where the first row is in use and has the size. -/
def firstRowOnly (size : Nat) : List MemMap :=
  { fourByteRow .dReady with size := size } :: List.replicate (maxMemory - 1) (initRow 5 0)

/-- That table is as long as the shared one. -/
theorem firstRowOnly_length (size : Nat) : (firstRowOnly size).length = maxMemory := by
  rw [firstRowOnly, List.length_cons, List.length_replicate]
  rfl

/-- A row of four bytes where four bytes are required. -/
theorem endsInRounds_iff_fourBytes : EndsInRounds (firstRowOnly 4) 1 4 ↔ 4 = 0 ∨
    (0 < listedSize (firstRowOnly 4) 1 ∧
      ((4 : Nat) : Int) ≤ (1 : Nat) * listedSize (firstRowOnly 4) 1) ∨
        (listedSize (firstRowOnly 4) 1 < 0 ∧ 0 < 1 ∧
          ((4 : Nat) : Int) ≤ 2 ^ 64 + listedSize (firstRowOnly 4) 1) :=
  endsInRounds_iff (firstRowOnly_length 4) (Nat.succ_pos _)

/-- A row without a size is listed over and over, and adds nothing. -/
theorem empty_row_never_enough : ¬ ∀ (table : List MemMap) (max memRequirement : Nat),
    table.length = maxMemory → max ≤ maxMemory → memRequirement < 2 ^ 64 →
      EndsInRounds table max memRequirement := by
  intro hclaim
  have hlen := firstRowOnly_length 0
  have hpos : 0 < (firstRowOnly 0).length := hlen ▸ Nat.succ_pos _
  obtain ⟨r, -, hge⟩ := (exists_chooseVictims_iff hpos hpos (Nat.succ_pos _)).mp
    (hclaim (firstRowOnly 0) 1 4 hlen (Nat.succ_pos _) (by decide))
  have hsize : listedSize (firstRowOnly 0) 1 = 0 := by decide
  rw [hsize, Int.mul_zero] at hge
  exact absurd hge (by decide)

/-! ## What the caller gets -/

/-- The variables `pd` and `len` of `pager_worker`: the array that `pd` leads to, and none as long
as `pd` has not been assigned to. -/
structure WorkerVars where
  pd : Option (List ChosenVictim)
  len : Nat

/-- The call in `pager_worker`. The parameter `pd` of the function is a variable of its own. -/
def WorkerVars.chooseVictims (w : WorkerVars) (table : List MemMap)
    (gmtIndex memRequirement fuel : Nat) : Option WorkerVars :=
  (chooseVictimsLeastFrequetlyUsed table gmtIndex memRequirement fuel).map fun pd =>
    { w with len := pd.length }

/-- The elements from `pd[0]` to `pd[len - 1]`. -/
def WorkerVars.victims (w : WorkerVars) : Option (List ChosenVictim) :=
  (List.range w.len).mapM fun j => w.pd.bind (·[j]?)

/-- Row `i` is in use below row `max`, has device memory and belongs to the process. -/
def ResidentRow (table : List MemMap) (max pid i : Nat) : Prop :=
  i < max ∧ ∃ row, table[i]? = some row ∧ row.valid = true ∧ row.status.resident = true ∧
    row.pid = pid

/-- The total size of the rows. -/
def sizeOf (table : List MemMap) (rows : List Nat) : Nat :=
  (rows.map fun i => ((table[i]?).map MemMap.size).getD 0).sum

/-- There is one list for a process at most; the rows of each are resident rows of the process, no
row is listed twice, and they are enough. -/
structure SoundVictims (table : List MemMap) (max memRequirement : Nat)
    (pd : List ChosenVictim) : Prop where
  owners : (pd.map ChosenVictim.pid).Nodup
  resident : ∀ v ∈ pd, ∀ i ∈ v.reqarr, ResidentRow table max v.pid i
  distinct : (pd.flatMap ChosenVictim.reqarr).Nodup
  enough : memRequirement ≤ sizeOf table (pd.flatMap ChosenVictim.reqarr)

/-- The caller's variables lead to sound lists. -/
def WorkerVars.Sound (w : WorkerVars) (table : List MemMap) (max memRequirement : Nat) : Prop :=
  ∃ pd, w.victims = some pd ∧ SoundVictims table max memRequirement pd

/-- The total size of the resident rows below `max`. -/
def residentSize (table : List MemMap) (max : Nat) : Nat :=
  ((table.take max).map fun row =>
    if row.valid && row.status.resident then row.size else 0).sum

/-- A memory map with few enough owners and rows, whose sizes are positive and below 2^31, and which
has as much memory on the device as is required. -/
structure Suffices (table : List MemMap) (max memRequirement : Nat) : Prop where
  owners : (table.map MemMap.pid).dedup.length ≤ maxControllerCount
  rows : max ≤ table.length ∧ table.length ≤ maxMemory
  sizes : ∀ row ∈ table, 0 < row.size ∧ row.size < 2 ^ 31
  required : memRequirement ≤ residentSize table max

section

variable {table : List MemMap} {max fuel memRequirement : Nat} {pd : List ChosenVictim}
  {w w' : WorkerVars}

/-- No lists are sound lists. -/
theorem soundVictims_nil : SoundVictims table max 0 [] where
  owners := List.nodup_nil
  resident := fun _ hv => absurd hv List.not_mem_nil
  distinct := List.nodup_nil
  enough := Nat.zero_le _

/-- The function leaves the caller's array as it was. -/
theorem WorkerVars.chooseVictims_cases
    (h : w.chooseVictims table max memRequirement fuel = some w') :
    w'.pd = w.pd ∧ (memRequirement = 0 → w'.len = 0) ∧ (memRequirement ≠ 0 → w'.len = 1) := by
  obtain ⟨pd, hpd, rfl⟩ := Option.map_eq_some_iff.mp h
  obtain ⟨hnone, hone⟩ := chooseVictims_one hpd
  refine ⟨rfl, fun hreq => ?_, fun hreq => ?_⟩
  · rw [hnone hreq]
    rfl
  · obtain ⟨row, n, -, rfl⟩ := hone hreq
    rfl

/-- As `pd` has not been assigned to, the caller has sound lists only if it needs none.

The lists are made, and the function's own copy of the pointer leads to them. So it is about the
parameter, and not about what is chosen. -/
theorem sound_iff {len : Nat}
    (h : WorkerVars.chooseVictims ⟨none, len⟩ table max memRequirement fuel = some w) :
    w.Sound table max memRequirement ↔ memRequirement = 0 := by
  obtain ⟨hpd, hzero, hone⟩ := WorkerVars.chooseVictims_cases h
  constructor
  · rintro ⟨pd, hread, -⟩
    by_contra hreq
    simp [WorkerVars.victims, hone hreq, hpd, List.range_succ] at hread
  · rintro rfl
    refine ⟨[], ?_, soundVictims_nil⟩
    simp [WorkerVars.victims, hzero rfl]

/-- The row is listed once where it is as large as required. -/
theorem chooseVictims_once {row : MemMap} (hmax : max ≤ table.length) (hreq : memRequirement ≠ 0)
    (hrow : table[listedRow table max]? = some row)
    (hge : memRequirement ≤ toSizeT (listedSize table max))
    (h : chooseVictimsLeastFrequetlyUsed table max memRequirement fuel = some pd) :
    pd = [⟨row.pid, [listedRow table max]⟩] := by
  have hless : toSizeT ((0 : Nat) * listedSize table max) < memRequirement := by
    rw [Nat.cast_zero, Int.zero_mul]
    exact Nat.pos_of_ne_zero hreq
  cases fuel with
  | zero => cases h
  | succ fuel =>
    have hround := @chooseLoop_round table max 0 _ fuel memRequirement _ row (searchRows_eq hmax)
      hrow (Nat.succ_pos _) hless
    rw [Nat.cast_zero, Int.zero_mul, Nat.cast_one, Int.one_mul] at hround
    cases fuel with
    | zero => cases hround.symm.trans h
    | succ fuel =>
      have hdone : chooseLoop table max memRequirement (fuel + 1) (listedSize table max)
          (listed row.pid (listedRow table max) 1) =
            some (listed row.pid (listedRow table max) 1) := by
        rw [chooseLoop, if_neg (Nat.not_lt.mpr hge)]
      exact Option.some.inj (h.symm.trans (hround.trans hdone))

/-- Sizes below 2^31 are added as they are. -/
theorem listedSize_small {row : MemMap} (hrow : table[listedRow table max]? = some row)
    (hresident : ResidentRow table max row.pid (listedRow table max)) (hsize : row.size < 2 ^ 31) :
    listedSize table max = row.size := by
  cases hsmall : smallestRow table max with
  | none =>
    obtain ⟨hlt, row', hrow', hvalid, -⟩ := hresident
    have hin : inUseAt table (listedRow table max) = true := inUseAt_iff.mpr ⟨row', hrow', hvalid⟩
    rw [smallestRow_none hsmall _ hlt] at hin
    cases hin
  | some j =>
    rw [listedRow, hsmall, Option.getD_some] at hrow
    rw [listedSize, hsmall, Option.bind_some, hrow, Option.elim_some, toInt_small hsize]

/-- In the function itself the lists are sound only if the listed row is resident and large enough
alone. -/
theorem soundVictims_iff (hmax : max ≤ table.length)
    (hsizes : ∀ row ∈ table, row.size < 2 ^ 31)
    (h : chooseVictimsLeastFrequetlyUsed table max memRequirement fuel = some pd) :
    SoundVictims table max memRequirement pd ↔ memRequirement = 0 ∨
      ∃ row, table[listedRow table max]? = some row ∧
        ResidentRow table max row.pid (listedRow table max) ∧ memRequirement ≤ row.size := by
  obtain ⟨hnone, hone⟩ := chooseVictims_one h
  rcases eq_or_ne memRequirement 0 with hzero | hreq
  · rw [hnone hzero, hzero]
    exact ⟨fun _ => .inl rfl, fun _ => soundVictims_nil⟩
  · have hsize {row : MemMap} (hrow : table[listedRow table max]? = some row) :
        sizeOf table [listedRow table max] = row.size := by
      simp [sizeOf, hrow]
    constructor
    · intro hsound
      obtain ⟨row, n, hrow, rfl⟩ := hone hreq
      have hdistinct := hsound.distinct
      have henough := hsound.enough
      rw [List.flatMap_singleton] at hdistinct henough
      obtain rfl : n = 0 := by
        have hle := List.nodup_replicate.mp hdistinct
        omega
      rw [List.replicate_one, hsize hrow] at henough
      exact .inr ⟨row, hrow, hsound.resident _ (List.mem_singleton_self _) _ (by simp), henough⟩
    · rintro (hzero | ⟨row, hrow, hresident, hge⟩)
      · exact absurd hzero hreq
      · have hlt := hsizes row (List.mem_of_getElem? hrow)
        have hlarge : memRequirement ≤ toSizeT (listedSize table max) := by
          rw [listedSize_small hrow hresident hlt, toSizeT_small hlt]
          exact hge
        obtain rfl := chooseVictims_once hmax hreq hrow hlarge h
        constructor
        · exact List.nodup_singleton _
        · intro v hv i hi
          obtain rfl := List.mem_singleton.mp hv
          obtain rfl := List.mem_singleton.mp hi
          exact hresident
        · exact List.nodup_singleton _
        · exact hge.trans_eq (hsize hrow).symm

end

/-- One row of four bytes, where four bytes are required: there is a list to be had, and the caller
does not get it. -/
theorem sound_iff_fourBytes :
    (WorkerVars.mk none 1).Sound (fourByteTable .dReady).table 1 4 ↔ 4 = 0 :=
  @sound_iff _ 1 2 4 _ 0 (by rw [WorkerVars.chooseVictims, choose_fourByteTable]; rfl)

/-- The caller cannot read the list that has been made. -/
theorem lists_not_returned : ¬ ∀ (table : List MemMap) (max memRequirement fuel len : Nat)
    (w : WorkerVars), Suffices table max memRequirement →
      WorkerVars.chooseVictims ⟨none, len⟩ table max memRequirement fuel = some w →
        w.Sound table max memRequirement := by
  intro hclaim
  have hsuffices : Suffices (fourByteTable .dReady).table 1 4 := by
    constructor
    · decide
    · decide
    · decide
    · decide
  obtain ⟨pd, hread, -⟩ := hclaim _ 1 4 2 0 ⟨none, 1⟩ hsuffices
    (by rw [WorkerVars.chooseVictims, choose_fourByteTable]; rfl)
  cases hread

end GpuVirtmem.Pager
