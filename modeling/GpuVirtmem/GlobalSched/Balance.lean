import GpuVirtmem.GlobalSched.LoadCount
import GpuVirtmem.Lib.KeepBest
import Mathlib.Algebra.Order.Ring.Int

/-!
# Selection by load (`remote/remote_api_wrapper.c`)

Two of the selections take the device with the lowest count, and add one to it. The one goes through
the devices from 0, the other in a circle from the devices of the client's own node.

The counts are `int`s in an array of `MAX_BACKEND_DEVICES`: a selection has no result where it would
read behind the array, and a count that is at `INT_MAX` wraps. With no more devices than that, and
one of them below `INT_MAX`, it takes a device with the lowest count and adds one to that count
alone. From equal counts, calls of the two in any order keep the counts within one of each other.

The two bounds, on the number of devices and on the counts, are where the array and the `int` of the
source show. They are needed: `selection_not_balanced` gives a number of devices and a count for
which the selections do something else. Under them nothing is left to chance, and ties are broken in
favour of the devices that come first in the circle.
-/

namespace GpuVirtmem.GlobalSched

open Lib

/-! ## The selections -/

namespace Loads

/-- `thread_count_per_device[device]++`, on an `int`. -/
def increment (s : Loads) (device : Int) : Option Loads := do
  let count ← s.countAt device
  return s.setCount device (count + 1)

/-- `if(thread_count_per_device[i] < thread_count_per_device[min]) min = i;`, which reads the array
at both. -/
def lesser (s : Loads) (min i : Int) : Option Int := do
  let countI ← s.countAt i
  let countMin ← s.countAt min
  return if countI < countMin then i else min

/-- `get_next_device`. -/
def getNextDevice (s : Loads) (backendDevices : Int) : Option (Int × Loads) := do
  let min ← ((List.range backendDevices.toNat).map Int.ofNat).foldlM s.lesser 0
  let t ← s.increment min
  return (min, t)

/-- `(i<BACKEND_DEVICES-1)?i+1:0`. -/
def nextInRing (backendDevices i : Int) : Int := if i < backendDevices - 1 then i + 1 else 0

/-- The loop of `get_next_device_local_pref`, with the rounds that are left. -/
def localPrefLoop (s : Loads) (backendDevices : Int) : Nat → Int → Int → Option Int
  | 0, _, min => some min
  | n + 1, i, min => do
    let min ← s.lesser min i
    localPrefLoop s backendDevices n (nextInRing backendDevices i) min

/-- `get_next_device_local_pref`. -/
def getNextDeviceLocalPref (s : Loads) (backendDevices localhostId : Int) :
    Option (Int × Loads) := do
  let min ← s.localPrefLoop backendDevices backendDevices.toNat localhostId localhostId
  let t ← s.increment min
  return (min, t)

end Loads

/-- A call of one of the selections. -/
inductive SelectCall
  | nextDevice
  | localPref (localhostId : Int)

namespace Loads

/-- The device is in the range of the devices. -/
abbrev IsDevice (backendDevices device : Int) : Prop := 0 ≤ device ∧ device < backendDevices

/-- One call that returns, with the number of a device of the client's own node. -/
inductive Selects (backendDevices : Int) (s : Loads) : SelectCall → Loads → Prop
  | nextDevice {device : Int} {t : Loads} (h : s.getNextDevice backendDevices = some (device, t)) :
      Selects backendDevices s .nextDevice t
  | localPref {localhostId device : Int} {t : Loads} (hlocal : IsDevice backendDevices localhostId)
      (h : s.getNextDeviceLocalPref backendDevices localhostId = some (device, t)) :
      Selects backendDevices s (.localPref localhostId) t

/-- The count of some device is below the greatest `int`. -/
def HasRoom (backendDevices : Int) (s : Loads) : Prop :=
  ∃ j, IsDevice backendDevices j ∧ (s.threadCountPerDevice j).toInt < 2 ^ 31 - 1

/-- A device with the lowest count is returned, and its count alone becomes one more. -/
structure TakesLeast (backendDevices : Int) (s : Loads) (device : Int) (t : Loads) : Prop where
  isDevice : IsDevice backendDevices device
  least : ∀ j, IsDevice backendDevices j → s.threadCountPerDevice device ≤ s.threadCountPerDevice j
  counted : t = { s with
    threadCountPerDevice := Function.update s.threadCountPerDevice device
      (s.threadCountPerDevice device + 1) }
  exact : (s.threadCountPerDevice device + 1).toInt = (s.threadCountPerDevice device).toInt + 1

/-- The counts of the devices are equal. -/
def Even (backendDevices : Int) (s : Loads) : Prop :=
  ∀ i j, IsDevice backendDevices i → IsDevice backendDevices j →
    s.threadCountPerDevice i = s.threadCountPerDevice j

/-- The counts of the devices differ by one at most. -/
def Level (backendDevices : Int) (s : Loads) : Prop :=
  ∀ i j, IsDevice backendDevices i → IsDevice backendDevices j →
    (s.threadCountPerDevice i).toInt ≤ (s.threadCountPerDevice j).toInt + 1

/-- The device that is `k` places after `localhostId` in the circle. -/
def inRing (backendDevices localhostId : Int) (k : Nat) : Int :=
  (localhostId + k) % backendDevices

/-- The devices in a circle from `localhostId` on. -/
def ring (backendDevices localhostId : Int) : List Int :=
  (List.range backendDevices.toNat).map (inRing backendDevices localhostId)

/-- The count of `i` is below that of `min`. -/
abbrev Lower (s : Loads) (i min : Int) : Prop :=
  s.threadCountPerDevice i < s.threadCountPerDevice min

/-- The device that a search in the circle ends on. -/
def leastInRing (s : Loads) (backendDevices localhostId : Int) : Int :=
  keepBest s.Lower localhostId (ring backendDevices localhostId)

section

variable {n i min localhostId device : Int} {s t : Loads} {call : SelectCall}
  {calls : List SelectCall}

/-! ## What is selected -/

/-- The circle goes through all devices, from wherever it starts. -/
theorem mem_ring (hn : 1 ≤ n) {j : Int} : j ∈ ring n localhostId ↔ IsDevice n j := by
  have hpos : 0 < n := hn
  simp only [ring, List.mem_map, List.mem_range]
  constructor
  · rintro ⟨k, -, rfl⟩
    exact ⟨Int.emod_nonneg _ hpos.ne', Int.emod_lt_of_pos _ hpos⟩
  · rintro ⟨h0, hlt⟩
    -- the device is as far from `localhostId` as the difference says
    have hnonneg := Int.emod_nonneg (j - localhostId) hpos.ne'
    have hless := Int.emod_lt_of_pos (j - localhostId) hpos
    refine ⟨((j - localhostId) % n).toNat, by omega, ?_⟩
    rw [inRing, Int.toNat_of_nonneg hnonneg, Int.add_emod_emod, add_sub_cancel]
    exact Int.emod_eq_of_lt h0 hlt

/-- The circle starts at the client's own device. -/
theorem inRing_zero (h : IsDevice n localhostId) : inRing n localhostId 0 = localhostId := by
  rw [inRing, Nat.cast_zero, add_zero]
  exact Int.emod_eq_of_lt h.1 h.2

/-- The statement of the loop that moves on is one place in the circle: only the last device is
followed by device 0. -/
theorem nextInRing_inRing (hn : 1 ≤ n) (k : Nat) :
    nextInRing n (inRing n localhostId k) = inRing n localhostId (k + 1) := by
  have hpos : 0 < n := hn
  have hnonneg := Int.emod_nonneg (localhostId + k) hpos.ne'
  have hless := Int.emod_lt_of_pos (localhostId + k) hpos
  have hnext : inRing n localhostId (k + 1) = (inRing n localhostId k + 1) % n := by
    rw [inRing, inRing, Int.emod_add_emod, Nat.cast_succ, add_assoc]
  rw [hnext, nextInRing]
  split
  · next h =>
    rw [Int.emod_eq_of_lt]
    · exact Int.add_nonneg hnonneg Int.one_nonneg
    · omega
  · next h =>
    have hlast : inRing n localhostId k + 1 = n := by
      unfold inRing at h ⊢
      omega
    rw [hlast, Int.emod_self]

/-- A round on two devices of the array keeps the lower one. Of equal ones it keeps the one it
had. -/
theorem lesser_eq (hsize : n ≤ maxBackendDevices) (hmin : IsDevice n min) (hi : IsDevice n i) :
    s.lesser min i = some (if s.Lower i min then i else min) := by
  have hiIn : 0 ≤ i ∧ i < maxBackendDevices := ⟨hi.1, hi.2.trans_le hsize⟩
  have hminIn : 0 ≤ min ∧ min < maxBackendDevices := ⟨hmin.1, hmin.2.trans_le hsize⟩
  rw [lesser, countAt_eq_some.mpr ⟨hiIn, rfl⟩, countAt_eq_some.mpr ⟨hminIn, rfl⟩]
  rfl

/-- The loop goes through the devices in the circle. -/
theorem localPrefLoop_eq (hn : 1 ≤ n) (m k : Nat) :
    s.localPrefLoop n m (inRing n localhostId k) min =
      ((List.range' k m).map (inRing n localhostId)).foldlM s.lesser min := by
  induction m generalizing k min with
  | zero => rfl
  | succ m ih =>
    rw [localPrefLoop, nextInRing_inRing hn, List.range'_succ, List.map_cons, List.foldlM_cons]
    exact congrArg _ (funext fun _ => ih (k + 1))

/-- A search in the circle stays in the array, and keeps the best device so far. -/
theorem foldlM_ring (hsize : n ≤ maxBackendDevices) (h : IsDevice n localhostId) :
    (ring n localhostId).foldlM s.lesser localhostId = some (s.leastInRing n localhostId) := by
  have hn : 1 ≤ n := by omega
  refine keepBest_foldlM fun b hb i hi => lesser_eq hsize ?_ ((mem_ring hn).mp hi)
  rcases List.mem_cons.mp hb with rfl | hb
  · exact h
  · exact (mem_ring hn).mp hb

/-- The search ends on a device. -/
theorem leastInRing_isDevice (h : IsDevice n localhostId) :
    IsDevice n (s.leastInRing n localhostId) := by
  have hn : 1 ≤ n := by omega
  have hmem : s.leastInRing n localhostId ∈ localhostId :: ring n localhostId := keepBest_mem
  rcases List.mem_cons.mp hmem with hfirst | hkept
  · rw [hfirst]
    exact h
  · exact (mem_ring hn).mp hkept

/-- The count of a device of the array is incremented, and no other one. -/
theorem increment_eq (hsize : n ≤ maxBackendDevices) (h : IsDevice n device) :
    s.increment device = some (s.setCount device (s.threadCountPerDevice device + 1)) := by
  rw [increment, countAt_eq_some.mpr ⟨⟨h.1, h.2.trans_le hsize⟩, rfl⟩]
  rfl

/-- The selection that starts at device 0, as a search in the circle. -/
theorem getNextDevice_eq (hn : 1 ≤ n) (hsize : n ≤ maxBackendDevices) :
    s.getNextDevice n = (s.increment (s.leastInRing n 0)).map (s.leastInRing n 0, ·) := by
  have hring : (List.range n.toNat).map Int.ofNat = ring n 0 := by
    refine List.map_congr_left fun k hk => ?_
    rw [List.mem_range] at hk
    rw [inRing, zero_add, Int.emod_eq_of_lt (Int.natCast_nonneg k) (by omega)]
    rfl
  rw [getNextDevice, hring, foldlM_ring hsize ⟨le_rfl, by omega⟩]
  exact (Option.map_eq_bind ..).symm

/-- The selection that starts at the client's own device. Written alike, the two differ in where the
circle starts. -/
theorem getNextDeviceLocalPref_eq (hsize : n ≤ maxBackendDevices) (h : IsDevice n localhostId) :
    s.getNextDeviceLocalPref n localhostId =
      (s.increment (s.leastInRing n localhostId)).map (s.leastInRing n localhostId, ·) := by
  have hn : 1 ≤ n := by omega
  have hloop : s.localPrefLoop n n.toNat (inRing n localhostId 0) localhostId =
      ((List.range' 0 n.toNat).map (inRing n localhostId)).foldlM s.lesser localhostId :=
    localPrefLoop_eq hn n.toNat 0
  rw [inRing_zero h, ← List.range_eq_range'] at hloop
  have hring := foldlM_ring (s := s) hsize h
  rw [ring] at hring
  rw [getNextDeviceLocalPref, hloop, hring]
  exact (Option.map_eq_bind ..).symm

/-- One more than a count that is not the greatest `int` does not wrap around. -/
theorem succ_toInt {count : Int32} (h : count.toInt < 2 ^ 31 - 1) :
    (count + 1).toInt = count.toInt + 1 := by
  have hlow : -2 ^ 31 ≤ count.toInt := Int32.le_toInt count
  have hone : (1 : Int32).toInt = 1 := rfl
  rw [Int32.toInt_add, hone, Int.bmod_eq_of_le] <;> omega

/-- A search in the circle ends on a device with the lowest count, which leaves room for one more
where any device has. -/
theorem takesLeast_ring (hroom : HasRoom n s) (h : IsDevice n localhostId) :
    TakesLeast n s (s.leastInRing n localhostId) (s.setCount (s.leastInRing n localhostId)
      (s.threadCountPerDevice (s.leastInRing n localhostId) + 1)) := by
  have hn : 1 ≤ n := by omega
  have hleast : ∀ j, IsDevice n j → (s.threadCountPerDevice (s.leastInRing n localhostId)).toInt ≤
      (s.threadCountPerDevice j).toInt := fun j hj =>
    keepBest_le (f := fun j => (s.threadCountPerDevice j).toInt)
      (fun _ _ h => Int32.lt_iff_toInt_lt.mpr h) (fun _ _ h => (Int32.lt_iff_toInt_lt.mp h).le) j
      (List.mem_cons_of_mem _ ((mem_ring hn).mpr hj))
  obtain ⟨j, hj, hlt⟩ := hroom
  exact ⟨leastInRing_isDevice h, fun j hj => Int32.le_iff_toInt_le.mpr (hleast j hj), rfl,
    succ_toInt ((hleast j hj).trans_lt hlt)⟩

/-- It ends on the first such device in the circle, so that the client's own device is preferred
among equals. -/
theorem first_ring (h : IsDevice n localhostId) :
    ∃ k : Nat, k < n ∧ s.leastInRing n localhostId = inRing n localhostId k ∧
      ∀ j < k, s.threadCountPerDevice (inRing n localhostId k) <
        s.threadCountPerDevice (inRing n localhostId j) := by
  have hplaces : keepBest s.Lower (inRing n localhostId 0) (ring n localhostId) =
      inRing n localhostId (keepBest
        (fun i b => s.Lower (inRing n localhostId i) (inRing n localhostId b)) 0
        (List.range n.toNat)) := keepBest_map
  rw [inRing_zero h] at hplaces
  set k := keepBest (fun i b => s.Lower (inRing n localhostId i) (inRing n localhostId b)) 0
    (List.range n.toNat) with hk
  have hmem : k ∈ 0 :: List.range n.toNat := keepBest_mem
  refine ⟨k, ?_, hplaces, fun j hj => ?_⟩
  · rcases List.mem_cons.mp hmem with hfirst | hkept
    · rw [hfirst]
      exact Int.lt_of_le_of_lt h.1 h.2
    · exact Int.lt_toNat.mp (List.mem_range.mp hkept)
  · exact Int32.lt_iff_toInt_lt.mpr (keepBest_range
      (f := fun k => (s.threadCountPerDevice (inRing n localhostId k)).toInt)
      (fun _ _ => Int32.lt_iff_toInt_lt) hj)

/-! ## The counts over a run -/

/-- A call adds one to a lowest count, and counts that differ by one at most do so again. -/
theorem Level.takesLeast (hs : Level n s) (h : TakesLeast n s device t) : Level n t := by
  obtain ⟨hdevice, hleast, rfl, hexact⟩ := h
  intro i j hi hj
  have hlow := fun j hj => Int32.le_iff_toInt_le.mp (hleast j hj)
  by_cases hid : i = device
  · subst hid
    by_cases hjd : j = i
    · rw [hjd]
      exact Int.le_add_one le_rfl
    · simp only [setCount, Function.update_self, Function.update_of_ne hjd]
      have hle := hlow j hj
      omega
  · by_cases hjd : j = device
    · subst hjd
      simp only [setCount, Function.update_self, Function.update_of_ne hid]
      have hle := hs i j hi hj
      omega
    · simp only [setCount, Function.update_of_ne hid, Function.update_of_ne hjd]
      exact hs i j hi hj

/-- Where there is room the first selection takes the lowest count. -/
theorem getNextDevice_takesLeast (hn : 1 ≤ n) (hsize : n ≤ maxBackendDevices)
    (hroom : HasRoom n s) : ∃ t, s.getNextDevice n = some (s.leastInRing n 0, t) ∧
      TakesLeast n s (s.leastInRing n 0) t := by
  have hzero : IsDevice n 0 := ⟨le_rfl, by omega⟩
  rw [getNextDevice_eq hn hsize, increment_eq hsize (leastInRing_isDevice hzero)]
  exact ⟨_, rfl, takesLeast_ring hroom hzero⟩

/-- So does the second one. -/
theorem getNextDeviceLocalPref_takesLeast (hsize : n ≤ maxBackendDevices) (hroom : HasRoom n s)
    (h : IsDevice n localhostId) :
    ∃ t, s.getNextDeviceLocalPref n localhostId = some (s.leastInRing n localhostId, t) ∧
      TakesLeast n s (s.leastInRing n localhostId) t := by
  rw [getNextDeviceLocalPref_eq hsize h, increment_eq hsize (leastInRing_isDevice h)]
  exact ⟨_, rfl, takesLeast_ring hroom h⟩

/-- A call that is made where there is room keeps the counts level, whichever function it is of. -/
theorem Selects.level (hn : 1 ≤ n) (hsize : n ≤ maxBackendDevices) (hs : Level n s)
    (hroom : HasRoom n s) (h : Selects n s call t) : Level n t := by
  cases h with
  | nextDevice h =>
    obtain ⟨u, hu, hleast⟩ := getNextDevice_takesLeast hn hsize hroom
    cases hu.symm.trans h
    exact hs.takesLeast hleast
  | localPref hlocal h =>
    obtain ⟨u, hu, hleast⟩ := getNextDeviceLocalPref_takesLeast hsize hroom hlocal
    cases hu.symm.trans h
    exact hs.takesLeast hleast

/-- For as many devices as the array has, and where some count is below the greatest `int`, both
selections take the lowest count, and from equal counts the counts stay within one of each other.

This is so for calls of both functions in any order, by clients of any nodes. The bounds are those
of the array and of its `int`s. -/
theorem selections_balance (n : Int) (hn : 1 ≤ n) (hsize : n ≤ maxBackendDevices) :
    (∀ s : Loads, HasRoom n s → ∃ device t, s.getNextDevice n = some (device, t) ∧
      TakesLeast n s device t ∧
      ∀ j, 0 ≤ j → j < device → s.threadCountPerDevice device < s.threadCountPerDevice j) ∧
    (∀ (s : Loads) (localhostId : Int), HasRoom n s → IsDevice n localhostId →
      ∃ device t, s.getNextDeviceLocalPref n localhostId = some (device, t) ∧
        TakesLeast n s device t ∧
        ∃ k : Nat, k < n ∧ device = inRing n localhostId k ∧
          ∀ j < k, s.threadCountPerDevice device <
            s.threadCountPerDevice (inRing n localhostId j)) ∧
    ∀ (s t : Loads) (calls : List SelectCall), Even n s → Run (Selects n) s calls t →
      EachStep (Selects n) s calls (fun s _ => HasRoom n s) → Level n t := by
  have hzero : IsDevice n 0 := ⟨le_rfl, by omega⟩
  refine ⟨?_, ?_, ?_⟩
  · intro s hroom
    obtain ⟨t, ht, hleast⟩ := getNextDevice_takesLeast hn hsize hroom
    refine ⟨_, t, ht, hleast, ?_⟩
    obtain ⟨k, hkn, hk, hfirst⟩ := first_ring (s := s) hzero
    rw [hk]
    intro j h0 hlt
    have hplace : ∀ i : Nat, i < n → inRing n 0 i = i := fun i hi => by
      rw [inRing, zero_add, Int.emod_eq_of_lt (Int.natCast_nonneg i) hi]
    rw [hplace k hkn] at hlt
    have hbefore := hfirst j.toNat (by omega)
    rwa [hplace j.toNat (by omega), Int.toNat_of_nonneg h0] at hbefore
  · intro s localhostId hroom hlocal
    obtain ⟨t, ht, hleast⟩ := getNextDeviceLocalPref_takesLeast hsize hroom hlocal
    obtain ⟨k, hkn, hk, hfirst⟩ := first_ring (s := s) hlocal
    rw [← hk] at hfirst
    exact ⟨_, t, ht, hleast, k, hkn, hk, hfirst⟩
  · intro s t calls heven r hroom
    refine Run.invariant_of_eachStep (I := fun _ t => Level n t) ?_
      (fun hs hroom h => h.level hn hsize hs hroom) hroom r
    intro i j hi hj
    rw [heven i j hi hj]
    exact Int.le_add_one le_rfl

/-- No count grows by more than one with a call, whatever is called and however many devices there
are said to be. -/
theorem Selects.count_le (h : Selects n s call t) (j : Int) :
    (t.threadCountPerDevice j).toInt ≤ (s.threadCountPerDevice j).toInt + 1 := by
  have hincrement : ∃ device, s.increment device = some t := by
    cases h with
    | nextDevice h | localPref _ h =>
      obtain ⟨_, -, h⟩ := Option.bind_eq_some_iff.mp h
      obtain ⟨u, hu, h⟩ := Option.bind_eq_some_iff.mp h
      cases h
      exact ⟨_, hu⟩
  obtain ⟨device, hincrement⟩ := hincrement
  obtain ⟨count, hcount, hincrement⟩ := Option.bind_eq_some_iff.mp hincrement
  obtain ⟨-, rfl⟩ := countAt_eq_some.mp hcount
  cases hincrement
  by_cases hj : j = device
  · subst hj
    have hlt := Int32.toInt_lt (s.threadCountPerDevice j)
    simp only [setCount, Function.update_self]
    by_cases hroom : (s.threadCountPerDevice j).toInt < 2 ^ 31 - 1
    · exact (succ_toInt hroom).le
    · -- the greatest `int` wraps around, and a count is no greater than it
      have hafter := Int32.toInt_lt (s.threadCountPerDevice j + 1)
      omega
  · simp only [setCount, Function.update_of_ne hj]
    exact Int.le_add_one le_rfl

/-- So there is room for as many calls as the first device is below the greatest `int`: two thousand
million calls, for counts that start at 0. -/
theorem eachStep_hasRoom (hn : 1 ≤ n)
    (hcalls : (s.threadCountPerDevice 0).toInt + calls.length < 2 ^ 31) :
    EachStep (Selects n) s calls fun s _ => HasRoom n s := by
  intro before call t hpre r
  have hle := r.invariant_trace (I := fun before t => (t.threadCountPerDevice 0).toInt ≤
    (s.threadCountPerDevice 0).toInt + before.length) ?_ ?_
  · have hlen := hpre.length_le
    rw [List.length_append, List.length_singleton] at hlen
    exact ⟨0, ⟨le_rfl, by omega⟩, by omega⟩
  · simp
  · intro before t call u ht h
    rw [List.length_append, List.length_singleton]
    have hnext := h.count_le 0
    push_cast
    omega

/-- A call of `get_next_device`, where it is known which device has the lowest count. -/
theorem Selects.ofNextDevice (device : Int) (hn : 1 ≤ n) (hsize : n ≤ maxBackendDevices)
    (h : s.leastInRing n 0 = device) : Selects n s .nextDevice
      (s.setCount device (s.threadCountPerDevice device + 1)) := by
  have hzero : IsDevice n 0 := ⟨le_rfl, by omega⟩
  have heq := getNextDevice_eq (s := s) hn hsize
  rw [increment_eq hsize (leastInRing_isDevice hzero), h] at heq
  exact .nextDevice heq

/-- A call of `get_next_device_local_pref`, likewise. -/
theorem Selects.ofLocalPref (localhostId device : Int) (hsize : n ≤ maxBackendDevices)
    (hlocal : IsDevice n localhostId) (h : s.leastInRing n localhostId = device) :
    Selects n s (.localPref localhostId)
      (s.setCount device (s.threadCountPerDevice device + 1)) := by
  have heq := getNextDeviceLocalPref_eq (s := s) hsize hlocal
  rw [increment_eq hsize (leastInRing_isDevice hlocal), h] at heq
  exact .localPref hlocal heq

/-- More devices than the array has entries: the search reads behind it. -/
theorem getNextDevice_eq_none (hn : maxBackendDevices < n) : s.getNextDevice n = none := by
  obtain ⟨m, hm⟩ : ∃ m : Nat, n.toNat = 100 + m + 1 := by
    have hmax : maxBackendDevices = 100 := rfl
    exact ⟨n.toNat - 101, by omega⟩
  have hrange : List.range (100 + m + 1) = List.range 100 ++ 100 :: List.range' 101 m := by
    rw [List.range_eq_range', List.range_eq_range']
    exact (@List.range'_append_1 0 100 (m + 1)).symm
  have hread : ∀ min, s.lesser min 100 = none := fun min => rfl
  rw [getNextDevice, hm, hrange, List.map_append, List.map_cons, List.foldlM_append]
  simp [hread]

end

/-- Calls of both functions. From equal counts they take the devices 0, 2, 3, 1 and 0 again. -/
def mixedCalls : List SelectCall :=
  [.nextDevice, .localPref 2, .localPref 2, .localPref 3, .nextDevice]

/-- Four devices, of which the last two have the lowest count. -/
def lastTwoLeast : Loads :=
  { start with threadCountPerDevice := fun device => if device < 2 then 1 else 0 }

/-- The devices that are taken are 0, 2, 3, 1 and 0 again. -/
theorem run_mixedCalls : ∃ t, Run (Selects 4) start mixedCalls t ∧
    (List.map t.threadCountPerDevice [0, 1, 2, 3]) = [2, 1, 1, 1] := by
  have hn : (1 : Int) ≤ 4 := by decide
  have hsize : (4 : Int) ≤ maxBackendDevices := by decide
  have hfirst : Selects 4 start .nextDevice _ := .ofNextDevice 0 hn hsize (by decide)
  have htwo := (Run.start.snoc hfirst).snoc (.ofLocalPref 2 2 hsize (by decide) (by decide))
  have hthree := htwo.snoc (.ofLocalPref 2 3 hsize (by decide) (by decide))
  have hfour := hthree.snoc (.ofLocalPref 3 1 hsize (by decide) (by decide))
  exact ⟨_, hfour.snoc (.ofNextDevice 0 hn hsize (by decide)), by decide⟩

/-- From equal counts, five calls of both functions leave the counts 2, 1, 1 and 1; where the last
two devices have the lowest count, the first of them is taken by the one and the last, which is the
client's own, by the other. -/
theorem selections_balance_fourDevices :
    (∃ t, lastTwoLeast.getNextDevice 4 = some (2, t) ∧ TakesLeast 4 lastTwoLeast 2 t) ∧
    (∃ t, lastTwoLeast.getNextDeviceLocalPref 4 3 = some (3, t) ∧ TakesLeast 4 lastTwoLeast 3 t) ∧
    ∃ t, Run (Selects 4) start mixedCalls t ∧ Level 4 t := by
  obtain ⟨hnext, hlocal, hrun⟩ := selections_balance 4 (by decide) (by decide)
  have hroom : HasRoom 4 lastTwoLeast := ⟨2, by decide, by decide⟩
  refine ⟨?_, ?_, ?_⟩
  · obtain ⟨device, t, ht, hleast, -⟩ := hnext lastTwoLeast hroom
    obtain rfl : device = 2 := (congrArg (fun r => (r.getD (0, start)).1) ht).symm
    exact ⟨t, ht, hleast⟩
  · obtain ⟨device, t, ht, hleast, -⟩ := hlocal lastTwoLeast 3 hroom (by decide)
    obtain rfl : device = 3 := (congrArg (fun r => (r.getD (0, start)).1) ht).symm
    exact ⟨t, ht, hleast⟩
  · obtain ⟨t, r, -⟩ := run_mixedCalls
    refine ⟨t, r, hrun start t mixedCalls (fun _ _ _ _ => rfl) r ?_⟩
    exact eachStep_hasRoom (by decide) (by decide)

/-- The only device has the greatest `int` as its count. -/
def fullCount : Loads := { start with threadCountPerDevice := fun _ => 2 ^ 31 - 1 }

/-- With 101 devices the searches read behind the array, and a count that is the greatest `int` is
followed by the least one. -/
theorem selection_not_balanced : start.getNextDevice 101 = none ∧
    start.getNextDeviceLocalPref 101 0 = none ∧
    ∃ t, fullCount.getNextDevice 1 = some (0, t) ∧ (t.threadCountPerDevice 0).toInt = -2 ^ 31 :=
  ⟨getNextDevice_eq_none (by decide), rfl, _, rfl, rfl⟩

end Loads

end GpuVirtmem.GlobalSched
