import GpuVirtmem.GlobalSched.Weights
import GpuVirtmem.Lib.KeepBest

/-!
# The two least loaded devices (`remote/remote_api_wrapper.c`)

`get_next_weighted_device_async_memcpy_feedback` looks for the device with the smallest load and for
the one with the smallest load above that, and chooses between the two by the feedback. The second
search starts from device 0, and never leaves it where device 0 has the smallest load.

The loads are products of counts and weights that are rationals.

Where all loads are the same there is no greater one to be found, and then nothing is asked of
`second_min`. In all other cases the condition is on device 0 alone, since that is where the search
starts.
-/

namespace GpuVirtmem.GlobalSched

open Lib

/-- `thread_count_per_device[i] * gpu_weight[i]`, for the `gpu_weight` there is. -/
def weightedLoad (weight : Fin 4 → Rat) (count : Int → Int) (i : Nat) : Option Rat :=
  (arrayIndex 4 i).map fun gpu => (count i : Rat) * weight gpu

/-- The search for `second_min`. -/
def searchSecondMin (load : Nat → Option Rat) (backendDevices : Int) (min : Nat) : Option Nat :=
  (List.range backendDevices.toNat).foldlM (fun secondMin i => do
    let loadI ← load i
    let loadMin ← load min
    let loadSecond ← load secondMin
    return if loadMin < loadI ∧ loadI ≤ loadSecond then i else secondMin) 0

/-- `min` and `second_min` after the two loops. -/
def searchTwo (load : Nat → Option Rat) (backendDevices : Int) : Option (Nat × Nat) := do
  let min ← searchMin load backendDevices
  let secondMin ← searchSecondMin load backendDevices min
  return (min, secondMin)

/-- `chosen`, once all data have been received. -/
def chooseOfTwo (load : Nat → Option Rat) (nonKernelTime : Fin 2 → Fin 4 → Rat) (appId : Int)
    (min secondMin : Nat) : Option Nat := do
  let minWeight ← load min
  let secondMinWeight ← load secondMin
  if secondMinWeight - minWeight ≤ 1 then
    let row ← arrayIndex 2 appId
    let minCol ← arrayIndex 4 min
    let secondMinCol ← arrayIndex 4 secondMin
    return if nonKernelTime row minCol < nonKernelTime row secondMinCol then secondMin else min
  else return min

/-- `get_next_weighted_device_async_memcpy_feedback`. -/
def Weighted.getNextWeightedDeviceAsyncMemcpyFeedback (s : Weighted) (appId : Int) :
    Option (Int × Weighted) := do
  let load := weightedLoad gpuWeight fun i => (s.threadCountPerDevice i).toInt
  let (min, secondMin) ← searchTwo load s.backendDevices
  let s := { s with l2FeedbackType := .util }
  if UtilReceived s.feedback then
    let chosen ← chooseOfTwo load s.feedback.nonKernelTime appId min secondMin
    let amount ← ratioOrOne s.feedback.gpuUtilization chosen appId
    return (chosen, s.add chosen amount)
  else return (min, s.add min 1)

/-- The load of a device, which has a weight. -/
def loadOf (weight : Fin 4 → Rat) (count : Int → Int) (i : Nat) : Rat :=
  (weightedLoad weight count i).getD 0

/-- `min` is the first device with the smallest load, and `second_min` has the smallest of the
greater loads where there are any. -/
structure TwoLeast (load : Nat → Rat) (n min secondMin : Nat) : Prop where
  isDevice : min < n
  least : ∀ i < n, load min ≤ load i
  first : ∀ i < min, load min < load i
  second : (∃ i < n, load min < load i) → secondMin < n ∧ load min < load secondMin ∧
    ∀ i < n, load min < load i → load secondMin ≤ load i

section

variable {load : Nat → Option Rat} {value : Nat → Rat} {n min secondMin : Nat}
  {weight : Fin 4 → Rat} {count : Int → Int}

/-- A device with a weight has a load. -/
theorem weightedLoad_eq {i : Nat} (hi : i < 4) :
    weightedLoad weight count i = some (loadOf weight count i) := by
  have hindex : arrayIndex 4 i = some ⟨i, hi⟩ := by
    simp [arrayIndex, hi]
  rw [loadOf, weightedLoad, hindex]
  rfl

/-- Every candidate of the searches is a device. -/
theorem lt_of_mem_candidates (hn : 0 < n) {i : Nat} (hi : i ∈ 0 :: List.range n) : i < n := by
  rcases List.mem_cons.mp hi with rfl | hi
  · exact hn
  · exact List.mem_range.mp hi

/-- The first search keeps the best so far, from device 0 on. -/
theorem searchMin_eq (hn : 0 < n) (hload : ∀ i < n, load i = some (value i)) :
    searchMin load n = some (keepBest (fun i min => value i < value min) 0 (List.range n)) := by
  rw [searchMin, Int.toNat_natCast]
  refine keepBest_foldlM fun b hb i hi => ?_
  rw [hload i (List.mem_range.mp hi), hload b (lt_of_mem_candidates hn hb)]
  rfl

/-- The second one does so, with what it takes for better. -/
theorem searchSecondMin_eq (hn : 0 < n) (hload : ∀ i < n, load i = some (value i))
    (hmin : min < n) :
    searchSecondMin load n min = some (keepBest
      (fun i secondMin => value min < value i ∧ value i ≤ value secondMin) 0 (List.range n)) := by
  rw [searchSecondMin, Int.toNat_natCast]
  refine keepBest_foldlM fun b hb i hi => ?_
  rw [hload i (List.mem_range.mp hi), hload min hmin, hload b (lt_of_mem_candidates hn hb)]
  rfl

/-- `min` is right wherever it is found. -/
theorem keepBest_min (hn : 0 < n)
    (hmin : keepBest (fun i min => value i < value min) 0 (List.range n) = min) :
    min < n ∧ (∀ i < n, value min ≤ value i) ∧ ∀ i < min, value min < value i := by
  subst hmin
  refine ⟨lt_of_mem_candidates hn keepBest_mem, ?_, ?_⟩
  · intro i hi
    exact keepBest_le (fun _ _ h => h) (fun _ _ h => le_of_lt h) i
      (List.mem_cons_of_mem _ (List.mem_range.mpr hi))
  · exact fun i hi => keepBest_range (fun _ _ => Iff.rfl) hi

/-- Where device 0 has the smallest load, `second_min` stays there: no load is both above the
smallest and no greater than it. -/
theorem keepBest_stays (hzero : value 0 ≤ value min) (l : List Nat) :
    keepBest (fun i secondMin => value min < value i ∧ value i ≤ value secondMin) 0 l = 0 := by
  induction l with
  | nil => rfl
  | cons i l ih =>
    rw [keepBest_cons, ih]
    rintro ⟨hgreater, hle⟩
    exact absurd (hgreater.trans_le hle) (not_lt.mpr hzero)

/-- Where it has not, `second_min` has the smallest of the greater loads. -/
theorem keepBest_second (hn : 0 < n) (hzero : value min < value 0)
    {kept : Nat} (hkept : keepBest
      (fun i secondMin => value min < value i ∧ value i ≤ value secondMin) 0 (List.range n) =
        kept) :
    kept < n ∧ value min < value kept ∧ ∀ i < n, value min < value i → value kept ≤ value i := by
  have hfilter : kept = keepBest (fun i secondMin => value i ≤ value secondMin) 0
      ((List.range n).filter fun i => value min < value i) := hkept.symm.trans keepBest_filter
  subst hfilter
  have hmem : ∀ i, i ∈ 0 :: (List.range n).filter (fun i => value min < value i) →
      i < n ∧ value min < value i := by
    intro i hi
    rcases List.mem_cons.mp hi with rfl | hi
    · exact ⟨hn, hzero⟩
    · obtain ⟨hrange, hgreater⟩ := List.mem_filter.mp hi
      exact ⟨List.mem_range.mp hrange, of_decide_eq_true hgreater⟩
  refine ⟨(hmem _ keepBest_mem).1, (hmem _ keepBest_mem).2, ?_⟩
  intro i hi hgreater
  have hcandidate : i ∈ (List.range n).filter fun i => value min < value i :=
    List.mem_filter.mpr ⟨List.mem_range.mpr hi, decide_eq_true hgreater⟩
  exact keepBest_le (fun _ _ h => le_of_lt h) (fun _ _ h => h) i
    (List.mem_cons_of_mem _ hcandidate)

/-- The two loops end, on `min` and on what is kept of the candidates for `second_min`. -/
theorem searchTwo_eq (hn : 0 < n) (hload : ∀ i < n, load i = some (value i)) :
    ∃ min, (min < n ∧ (∀ i < n, value min ≤ value i) ∧ ∀ i < min, value min < value i) ∧
      searchTwo load n = some (min, keepBest
        (fun i secondMin => value min < value i ∧ value i ≤ value secondMin) 0 (List.range n)) := by
  have hleast := @keepBest_min value _ _ hn rfl
  refine ⟨_, hleast, ?_⟩
  rw [searchTwo, searchMin_eq hn hload, Option.bind_eq_bind, Option.bind_some,
    searchSecondMin_eq hn hload hleast.1]
  rfl

/-- The two loops find what they look for unless device 0 has the smallest load and some device has
a greater one.

Started at device 0, the second search compares loads with that of device 0, and no greater load is
ever taken for better than the smallest one. -/
theorem second_best_iff {n : Nat} (hn : 1 ≤ n) (hsize : n ≤ 4) (weight : Fin 4 → Rat)
    (count : Int → Int) :
    (∃ min secondMin, searchTwo (weightedLoad weight count) n = some (min, secondMin) ∧
        TwoLeast (loadOf weight count) n min secondMin) ↔
      (∃ i < n, loadOf weight count i < loadOf weight count 0) ∨
        ∀ i < n, loadOf weight count i = loadOf weight count 0 := by
  have hload : ∀ i < n, weightedLoad weight count i = some (loadOf weight count i) :=
    fun i hi => weightedLoad_eq (hi.trans_le hsize)
  obtain ⟨min, ⟨hmin, hleast, hfirst⟩, htwo⟩ := searchTwo_eq hn hload
  constructor
  · rintro ⟨min', secondMin, hrun, hfound⟩
    cases htwo.symm.trans hrun
    rcases lt_or_ge (loadOf weight count min) (loadOf weight count 0) with hzero | hzero
    · exact .inl ⟨min, hmin, hzero⟩
    · -- `second_min` is device 0, whose load is the smallest, so that there is no greater one
      right
      intro i hi
      have hsame : loadOf weight count 0 = loadOf weight count min :=
        le_antisymm hzero (hleast 0 hn)
      rcases (hleast i hi).lt_or_eq with hgreater | heq
      · have hsecond := (hfound.second ⟨i, hi, hgreater⟩).2.1
        rw [keepBest_stays hzero] at hsecond
        exact absurd hsecond (not_lt.mpr hzero)
      · exact heq.symm.trans hsame.symm
  · intro hcases
    refine ⟨min, _, htwo, hmin, hleast, hfirst, ?_⟩
    rintro ⟨j, hj, hgreater⟩
    have hzero : loadOf weight count min < loadOf weight count 0 := by
      rcases hcases with ⟨i, hi, hless⟩ | hequal
      · exact (hleast i hi).trans_lt hless
      · rw [hequal j hj] at hgreater
        exact hgreater
    exact keepBest_second hn hzero rfl

/-- The choice is between the two. -/
theorem chooseOfTwo_cases {nonKernelTime : Fin 2 → Fin 4 → Rat} {appId : Int} {chosen : Nat}
    (h : chooseOfTwo load nonKernelTime appId min secondMin = some chosen) :
    chosen = min ∨ chosen = secondMin := by
  obtain ⟨minWeight, -, h⟩ := Option.bind_eq_some_iff.mp h
  obtain ⟨secondMinWeight, -, h⟩ := Option.bind_eq_some_iff.mp h
  split at h
  · obtain ⟨row, -, h⟩ := Option.bind_eq_some_iff.mp h
    obtain ⟨minCol, -, h⟩ := Option.bind_eq_some_iff.mp h
    obtain ⟨secondMinCol, -, h⟩ := Option.bind_eq_some_iff.mp h
    cases h
    split
    · exact .inr rfl
    · exact .inl rfl
  · cases h
    exact .inl rfl

/-- The device that is assigned is one of the two. -/
theorem Weighted.getNextWeightedDeviceAsyncMemcpyFeedback_cases {s t : Weighted}
    {appId device : Int}
    (h : s.getNextWeightedDeviceAsyncMemcpyFeedback appId = some (device, t)) :
    ∃ min secondMin, searchTwo
        (weightedLoad gpuWeight fun i => (s.threadCountPerDevice i).toInt) s.backendDevices =
      some (min, secondMin) ∧ (device = min ∨ device = secondMin) := by
  obtain ⟨⟨min, secondMin⟩, htwo, h⟩ := Option.bind_eq_some_iff.mp h
  refine ⟨min, secondMin, htwo, ?_⟩
  dsimp only at h
  split at h
  · obtain ⟨chosen, hchosen, h⟩ := Option.bind_eq_some_iff.mp h
    obtain ⟨amount, -, h⟩ := Option.bind_eq_some_iff.mp h
    cases h
    rcases chooseOfTwo_cases hchosen with rfl | rfl
    · exact .inl rfl
    · exact .inr rfl
  · cases h
    exact .inl rfl

end

/-- The counts of two devices. -/
def twoCounts (first second : Int) (device : Int) : Int := if device = 0 then first else second

/-- Two devices, of which the second has the smaller load. -/
theorem second_best_iff_secondDevice :
    (∃ min secondMin, searchTwo (weightedLoad gpuWeight (twoCounts 1 0)) 2 =
        some (min, secondMin) ∧ TwoLeast (loadOf gpuWeight (twoCounts 1 0)) 2 min secondMin) ↔
      (∃ i < 2, loadOf gpuWeight (twoCounts 1 0) i < loadOf gpuWeight (twoCounts 1 0) 0) ∨
        ∀ i < 2, loadOf gpuWeight (twoCounts 1 0) i = loadOf gpuWeight (twoCounts 1 0) 0 :=
  second_best_iff (by decide) (by decide) gpuWeight (twoCounts 1 0)

/-- Where the counts are 0 and 1, device 0 is both the least loaded one and the second. -/
theorem second_min_not_found : ¬ ∀ (n : Nat) (weight : Fin 4 → Rat) (count : Int → Int), 1 ≤ n →
    n ≤ 4 → (∀ i, 0 < weight i) → (∀ i, 0 ≤ i → 0 ≤ count i) →
      ∃ min secondMin, searchTwo (weightedLoad weight count) n = some (min, secondMin) ∧
        TwoLeast (loadOf weight count) n min secondMin := by
  intro hclaim
  have hcounts : ∀ i, 0 ≤ i → 0 ≤ twoCounts 0 1 i := by
    intro i _
    unfold twoCounts
    split <;> decide
  obtain ⟨min, secondMin, hrun, hfound⟩ := hclaim 2 gpuWeight (twoCounts 0 1) (by decide)
    (by decide) (by decide +kernel) hcounts
  have htwo : searchTwo (weightedLoad gpuWeight (twoCounts 0 1)) 2 = some (0, 0) := by
    decide +kernel
  cases htwo.symm.trans hrun
  have hsecond := (hfound.second ⟨1, by decide, by decide +kernel⟩).2.1
  exact absurd hsecond (lt_irrefl _)

end GpuVirtmem.GlobalSched
