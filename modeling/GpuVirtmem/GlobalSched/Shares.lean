import GpuVirtmem.GlobalSched.Balance
import GpuVirtmem.GlobalSched.SecondBest
import GpuVirtmem.Lib.LeastLoaded
import Mathlib.Algebra.BigOperators.Fin

/-!
# Selection by weighted load (`remote/remote_api_wrapper.c`)

`get_next_weighted_device` takes the device where the count times the weight is least, and adds one
to its count. The connections that it assigns are shared among the devices in inverse proportion to
their weights. There are weights for four devices; with more, the search reads past them.

A count becomes a float, and so does its product with a weight. How a float is rounded is left open:
all that is known is that a number which a float holds stays what it is. The shares are exact as
long as floats hold all products, which for the weights there are is so up to 2^22 connections.

The bounds are those of `Lib.LeastLoaded` for any weights, and all that is shown here is that the
function does what they ask: it takes a device with the least load and adds one. Beyond the number
of calls up to which floats are exact nothing is claimed; a product that is rounded could make a
device look less loaded than it is.
-/

namespace GpuVirtmem.GlobalSched

open Lib

namespace Loads

/-- A `float` holds the number: its significand has 24 bits, and what lies behind the point is no
finer than the least subnormal number. -/
def FloatHolds (x : Rat) : Prop :=
  ∃ (m : Int) (e : Nat), |m| ≤ 2 ^ 24 ∧ e ≤ 149 ∧ x = m / 2 ^ e

/-- `thread_count_per_device[i]*gpu_weight[i]`, where `toFloat` rounds to a float. -/
def floatLoad (toFloat : Rat → Rat) (weight : Fin 4 → Rat) (s : Loads) (i : Nat) : Option Rat :=
  (arrayIndex 4 i).map fun gpu =>
    toFloat (toFloat (s.threadCountPerDevice i).toInt * weight gpu)

/-- `get_next_weighted_device`, for the `gpu_weight` there is. -/
def getNextWeightedDevice (toFloat : Rat → Rat) (s : Loads) (weight : Fin 4 → Rat)
    (backendDevices : Int) : Option (Int × Loads) := do
  let min ← searchMin (floatLoad toFloat weight s) backendDevices
  let t ← s.increment min
  return ((min : Int), t)

/-- One call, with the device that it returns. -/
def Assigns (toFloat : Rat → Rat) (weight : Fin 4 → Rat) (backendDevices : Int) (s : Loads)
    (device : Int) (t : Loads) : Prop :=
  s.getNextWeightedDevice toFloat weight backendDevices = some (device, t)

/-- The counts of the first `n` devices. -/
def counts (n : Nat) (s : Loads) (i : Fin n) : Int := (s.threadCountPerDevice i.val).toInt

/-- The part of the connections that is due to a device. -/
def share {n : Nat} (hn : n ≤ 4) (weight : Fin 4 → Rat) (i : Fin n) : Rat :=
  exactShare (fun j => weight (Fin.castLE hn j)) i

/-- What holds after each call: the counts are those of the calls, and the devices are treated
alike. -/
structure Shared (weight : Fin 4 → Rat) {n : Nat} (hn : n ≤ 4) (calls : Nat) (s : Loads) :
    Prop where
  total : ∑ i, s.counts n i = calls
  bounded : ∀ i, 0 ≤ s.counts n i ∧ s.counts n i ≤ calls
  fair : Fair (fun i : Fin n => weight (Fin.castLE hn i)) (s.counts n)

section

variable {toFloat : Rat → Rat} {weight : Fin 4 → Rat} {n N calls : Nat} {s t : Loads} {device : Int}
  {devices : List Int}

/-- A device has the weight of its number. -/
theorem arrayIndex_castLE (hn : n ≤ 4) (i : Fin n) :
    arrayIndex 4 (i.val : Int) = some (Fin.castLE hn i) := by
  have hi : i.val < 4 := i.isLt.trans_le hn
  simp only [arrayIndex, Int.natCast_nonneg, Int.toNat_natCast, hi, and_self, dif_pos]
  rfl

/-- A whole number that a significand can hold is a float. -/
theorem floatHolds_natCast {k : Nat} (hk : k ≤ 2 ^ 24) : FloatHolds k := by
  refine ⟨k, 0, ?_, Nat.zero_le _, by simp⟩
  rw [abs_of_nonneg (Int.natCast_nonneg k)]
  exact_mod_cast hk

/-- Where floats hold the products, the load that is compared is the count times the weight. -/
theorem floatLoad_eq (hfloat : ∀ x, FloatHolds x → toFloat x = x) (hN : N ≤ 2 ^ 24)
    (hexact : ∀ k ≤ N, ∀ i, FloatHolds (k * weight i)) (hn : n ≤ 4) (i : Fin n)
    (hcount : 0 ≤ s.counts n i ∧ s.counts n i ≤ N) :
    floatLoad toFloat weight s i = some (s.counts n i * weight (Fin.castLE hn i)) := by
  obtain ⟨k, hk⟩ := Int.eq_ofNat_of_zero_le hcount.1
  have hkN : k ≤ N := by omega
  have htoInt : (s.threadCountPerDevice i.val).toInt = k := hk
  rw [floatLoad, arrayIndex_castLE hn, Option.map_some, hk, htoInt, Int.cast_natCast,
    hfloat _ (floatHolds_natCast (hkN.trans hN)), hfloat _ (hexact k hkN _)]

/-- The count of a device becomes one more, as long as an `int` holds it. -/
theorem counts_setCount (i : Fin n) (hcount : s.counts n i < 2 ^ 31 - 1) :
    (s.setCount i.val (s.threadCountPerDevice i.val + 1)).counts n =
      Function.update (s.counts n) i (s.counts n i + 1) := by
  funext j
  by_cases hj : j = i
  · subst hj
    rw [Function.update_self]
    simp only [counts, setCount, Function.update_self]
    exact succ_toInt hcount
  · rw [Function.update_of_ne hj]
    refine congrArg Int32.toInt (Function.update_of_ne (fun h => hj ?_) ..)
    exact Fin.ext (Int.ofNat.inj h)

/-- A search through more devices than have weights has no result. -/
theorem getNextWeightedDevice_eq_none (hn : 4 < n) :
    s.getNextWeightedDevice toFloat weight n = none := by
  obtain ⟨m, rfl⟩ := Nat.exists_eq_add_of_lt hn
  have hrange : List.range (4 + m + 1) = List.range 4 ++ 4 :: List.range' 5 m := by
    rw [List.range_eq_range', List.range_eq_range']
    exact (@List.range'_append_1 0 4 (m + 1)).symm
  have hfour : floatLoad toFloat weight s 4 = none := rfl
  rw [getNextWeightedDevice, searchMin, Int.toNat_natCast, hrange, List.foldlM_append]
  simp [hfour]

/-- The device with the least load is taken, the first of those. -/
theorem getNextWeightedDevice_eq (hfloat : ∀ x, FloatHolds x → toFloat x = x) (hN : N ≤ 2 ^ 24)
    (hexact : ∀ k ≤ N, ∀ i, FloatHolds (k * weight i)) (hn : 0 < n) (hn4 : n ≤ 4)
    (hcount : ∀ i, 0 ≤ s.counts n i ∧ s.counts n i ≤ N) :
    ∃ i : Fin n, Assigns toFloat weight n s i.val
        (s.setCount i.val (s.threadCountPerDevice i.val + 1)) ∧
      (∀ j : Fin n, (s.counts n i : Rat) * weight (Fin.castLE hn4 i) ≤
        s.counts n j * weight (Fin.castLE hn4 j)) ∧
      ∀ j < i, (s.counts n i : Rat) * weight (Fin.castLE hn4 i) <
        s.counts n j * weight (Fin.castLE hn4 j) := by
  have hload : ∀ i : Fin n, floatLoad toFloat weight s i =
      some (s.counts n i * weight (Fin.castLE hn4 i)) := fun i =>
    floatLoad_eq hfloat hN hexact hn4 i (hcount i)
  -- the loads as numbers, which the search goes by
  have hvalue : ∀ i : Fin n, (floatLoad toFloat weight s i).getD 0 =
      s.counts n i * weight (Fin.castLE hn4 i) := fun i => by rw [hload i, Option.getD_some]
  have hsearch : searchMin (floatLoad toFloat weight s) n = some
      (keepBest (fun i min => (floatLoad toFloat weight s i).getD 0 <
        (floatLoad toFloat weight s min).getD 0) 0 (List.range n)) :=
    searchMin_eq hn fun i hi => by rw [hload ⟨i, hi⟩, Option.getD_some]
  generalize hmin : keepBest (fun i min => (floatLoad toFloat weight s i).getD 0 <
    (floatLoad toFloat weight s min).getD 0) 0 (List.range n) = min at hsearch
  obtain ⟨hdevice, hleast, hfirst⟩ := keepBest_min hn hmin
  refine ⟨⟨min, hdevice⟩, ?_, fun j => ?_, fun j hj => ?_⟩
  · have hincrement : s.increment (min : Int) =
        some (s.setCount min (s.threadCountPerDevice min + 1)) :=
      increment_eq (n := n) (by unfold maxBackendDevices; omega) ⟨by omega, by omega⟩
    rw [Assigns, getNextWeightedDevice, hsearch, Option.bind_eq_bind, Option.bind_some, hincrement]
    rfl
  · rw [← hvalue ⟨min, hdevice⟩, ← hvalue j]
    exact hleast j j.isLt
  · rw [← hvalue ⟨min, hdevice⟩, ← hvalue j]
    exact hfirst j hj

/-- The step lemma: one more connection goes to a device with the least load, and keeps the shares
fair (`Lib.Fair.add_one`). -/
theorem Shared.call (hfloat : ∀ x, FloatHolds x → toFloat x = x) (hN : N ≤ 2 ^ 24)
    (hexact : ∀ k ≤ N, ∀ i, FloatHolds (k * weight i)) (hw : ∀ i, 0 < weight i) (hn : 0 < n)
    {hn4 : n ≤ 4} (hcalls : calls ≤ N) (hs : Shared weight hn4 calls s)
    (h : Assigns toFloat weight n s device t) : Shared weight hn4 (calls + 1) t := by
  obtain ⟨i, hi, hleast, -⟩ := getNextWeightedDevice_eq hfloat hN hexact hn hn4 fun i =>
    ⟨(hs.bounded i).1, (hs.bounded i).2.trans (by omega)⟩
  cases hi.symm.trans h
  have hcounts := counts_setCount i (lt_of_le_of_lt (hs.bounded i).2 (by omega))
  refine ⟨?_, fun j => ?_, ?_⟩
  · rw [hcounts, Finset.sum_update_of_mem (Finset.mem_univ i)]
    have htotal := hs.total
    rw [← Finset.add_sum_erase _ _ (Finset.mem_univ i), ← Finset.sdiff_singleton_eq_erase] at htotal
    push_cast
    omega
  · have hbounded := hs.bounded j
    rw [hcounts]
    by_cases hj : j = i
    · subst hj
      rw [Function.update_self]
      omega
    · rw [Function.update_of_ne hj]
      omega
  · rw [hcounts]
    exact hs.fair.add_one (fun j => hw _) hleast

/-- Before the first call there is nothing to share. -/
theorem Shared.zero (hw : ∀ i, 0 < weight i) (hn4 : n ≤ 4) (hs : ∀ i, s.counts n i = 0) :
    Shared weight hn4 0 s :=
  ⟨Finset.sum_eq_zero fun i _ => hs i, fun i => by rw [hs i]; exact ⟨le_rfl, le_rfl⟩,
    fair_of_eq (fun _ => hw _) hs⟩

/-- The run lemma, for as many calls as floats hold all products. -/
theorem Shared.run (hfloat : ∀ x, FloatHolds x → toFloat x = x) (hN : N ≤ 2 ^ 24)
    (hexact : ∀ k ≤ N, ∀ i, FloatHolds (k * weight i)) (hw : ∀ i, 0 < weight i) (hn : 0 < n)
    {hn4 : n ≤ 4} (hs : Shared weight hn4 0 s) (r : Run (Assigns toFloat weight n) s devices t)
    (hlen : devices.length ≤ N) : Shared weight hn4 devices.length t := by
  refine r.invariant_trace (I := fun devices t => devices.length ≤ N →
    Shared weight hn4 devices.length t) (fun _ => hs) ?_ hlen
  intro devices t device u ht h hlen
  rw [List.length_append, List.length_singleton] at hlen ⊢
  exact (ht (by omega)).call hfloat hN hexact hw hn (by omega) h

/-- From zero counts and for as many calls as floats hold all products, each of at most four devices
has less than its exact share of the calls and one call more, and its own exact share of all calls
but one for each other device; where the exact shares are whole, it has just its own. The next call
returns the first device with the least load. With more devices no call has a result. -/
theorem weighted_shares (toFloat : Rat → Rat) (hfloat : ∀ x, FloatHolds x → toFloat x = x)
    (weight : Fin 4 → Rat) (hw : ∀ i, 0 < weight i) (N : Nat) (hN : N ≤ 2 ^ 24)
    (hexact : ∀ k ≤ N, ∀ i, FloatHolds (k * weight i)) (n : Nat) (hn : 0 < n) :
    (∀ hn4 : n ≤ 4, ∀ s t devices, (∀ i, s.counts n i = 0) →
      Run (Assigns toFloat weight n) s devices t → devices.length ≤ N →
      (∀ i, (t.counts n i : Rat) < devices.length * share hn4 weight i + 1 ∧
        (devices.length - (n - 1)) * share hn4 weight i ≤ t.counts n i) ∧
      (∀ k : Fin n → Int, (∀ i, devices.length * share hn4 weight i = k i) → t.counts n = k) ∧
      ∃ i : Fin n, Assigns toFloat weight n t i.val
          (t.setCount i.val (t.threadCountPerDevice i.val + 1)) ∧
        (∀ j, (t.counts n i : Rat) * weight (Fin.castLE hn4 i) ≤
          t.counts n j * weight (Fin.castLE hn4 j)) ∧
        ∀ j < i, (t.counts n i : Rat) * weight (Fin.castLE hn4 i) <
          t.counts n j * weight (Fin.castLE hn4 j)) ∧
    (4 < n → ∀ s device t, ¬ Assigns toFloat weight n s device t) := by
  refine ⟨fun hn4 s t devices hs r hlen => ?_, fun hn5 s device t h => ?_⟩
  · have hpos : ∀ i : Fin n, 0 < weight (Fin.castLE hn4 i) := fun i => hw _
    have hshared := (Shared.zero hw hn4 hs).run hfloat hN hexact hw hn r hlen
    have htotal : ((∑ i, t.counts n i : Int) : Rat) = devices.length := by
      rw [hshared.total, Int.cast_natCast]
    refine ⟨fun i => ⟨?_, ?_⟩, fun k hk => ?_, getNextWeightedDevice_eq hfloat hN hexact hn hn4
      fun i => ⟨(hshared.bounded i).1, (hshared.bounded i).2.trans (by omega)⟩⟩
    · have hlt := hshared.fair.lt_share hpos i
      rwa [htotal] at hlt
    · have hle := hshared.fair.share_le hpos i
      rwa [htotal, Fintype.card_fin] at hle
    · funext i
      refine hshared.fair.eq_share hpos (fun i => ?_) i
      rw [htotal]
      exact hk i
  · cases (getNextWeightedDevice_eq_none hn5).symm.trans h

/-- There are calls for any number of connections that floats can count. -/
theorem exists_calls (toFloat : Rat → Rat) (s : Loads)
    (hfloat : ∀ x, FloatHolds x → toFloat x = x) (hN : N ≤ 2 ^ 24)
    (hexact : ∀ k ≤ N, ∀ i, FloatHolds (k * weight i)) (hw : ∀ i, 0 < weight i) (hn : 0 < n)
    (hn4 : n ≤ 4) (hs : ∀ i, s.counts n i = 0) (hcalls : calls ≤ N) :
    ∃ devices t, Run (Assigns toFloat weight n) s devices t ∧ devices.length = calls := by
  induction calls with
  | zero => exact ⟨[], s, .start, rfl⟩
  | succ calls ih =>
    obtain ⟨devices, t, r, hlen⟩ := ih (by omega)
    have hshared := (Shared.zero hw hn4 hs).run hfloat hN hexact hw hn r (by omega)
    obtain ⟨i, hi, -⟩ := getNextWeightedDevice_eq hfloat hN hexact hn hn4 fun i =>
      ⟨(hshared.bounded i).1, (hshared.bounded i).2.trans (by omega)⟩
    refine ⟨_, _, r.snoc hi, ?_⟩
    rw [List.length_append, hlen]
    rfl

end

/-- Up to 2^22 connections, floats hold the products with the weights there are: three times a count
has 24 bits, and half of that only moves the point. -/
theorem gpuWeight_floatHolds : ∀ k : Nat, k ≤ 2 ^ 22 → ∀ i, FloatHolds (k * gpuWeight i) := by
  intro k hk i
  have hint : ∀ m : Nat, m ≤ 2 ^ 24 → |(m : Int)| ≤ 2 ^ 24 := by
    intro m hm
    rw [abs_of_nonneg (Int.natCast_nonneg m)]
    exact_mod_cast hm
  match i with
  | 0 | 2 =>
    refine ⟨k, 0, hint k (by omega), Nat.zero_le _, ?_⟩
    simp [gpuWeight]
  | 1 =>
    refine ⟨(3 * k : Nat), 0, hint (3 * k) (by omega), Nat.zero_le _, ?_⟩
    simp [gpuWeight, mul_comm]
  | 3 =>
    refine ⟨(3 * k : Nat), 1, hint (3 * k) (by omega), by omega, ?_⟩
    simp [gpuWeight]
    ring

/-- What nine calls are for the weights there are. -/
def ofNineCalls : Fin 4 → Int := fun i => [3, 1, 3, 2].get i

/-- The weights there are are positive. -/
theorem gpuWeight_pos : ∀ i, 0 < gpuWeight i := by decide +kernel

/-- The shares of nine calls are whole. -/
theorem nine_mul_share (i : Fin 4) :
    (9 : Rat) * share le_rfl gpuWeight i = ofNineCalls i := by
  have hsum : ∑ j : Fin 4, (gpuWeight (Fin.castLE le_rfl j))⁻¹ = 3 := by
    rw [Fin.sum_univ_four]
    decide +kernel
  rw [share, exactShare, hsum]
  revert i
  decide +kernel

/-- The shares of nine calls are whole with these weights, so that each device has just its own. -/
theorem weighted_shares_nineCalls : ∃ devices t,
    Run (Assigns id gpuWeight 4) start devices t ∧ devices.length = 9 ∧
      t.counts 4 = ofNineCalls := by
  have hN : 2 ^ 22 ≤ 2 ^ 24 := by decide
  obtain ⟨devices, t, r, hlen⟩ := exists_calls id start (fun _ _ => rfl) hN
    gpuWeight_floatHolds gpuWeight_pos (Nat.zero_lt_succ 3) le_rfl (fun _ => rfl)
    (show 9 ≤ 2 ^ 22 by decide)
  obtain ⟨-, hwhole, -⟩ := (weighted_shares id (fun _ _ => rfl) gpuWeight gpuWeight_pos (2 ^ 22) hN
    gpuWeight_floatHolds 4 (Nat.zero_lt_succ 3)).1 le_rfl start t devices (fun _ => rfl) r
    (hlen.le.trans (by decide))
  refine ⟨devices, t, r, hlen, hwhole _ fun i => ?_⟩
  rw [hlen]
  exact nine_mul_share i

end Loads

end GpuVirtmem.GlobalSched
