import GpuVirtmem.Lib.Run
import Mathlib.Algebra.BigOperators.Fin
import Mathlib.Data.Set.Function

/-!
# The devices that the client numbers (`interposer/libci.c`, `interposer/libciutils.c`)

`l_getLocalFromConfig` reads the backend nodes, and `__cudaRegisterFatBinary` asks each of them once
how many devices it has. The devices are numbered through, node by node: one loop fills the two
arrays that lead from a number back to the node and the device there, and another one adds up the
counts of the nodes before each.

Nothing is asked of the counts that the nodes answer with; only their sum has to be one that the
arrays have room for. Which node is the first one is read from the list of hosts (`FirstNode`): the
last of them that is named `localhost`, since the loop goes on after it has found one.
-/

namespace GpuVirtmem.Interposer

open Lib

/-- `MAX_BACKEND_NODES`. -/
def maxBackendNodes : Nat := 100

/-- `MAX_BACKEND_DEVICES`, as in `interposer/libci.c`. -/
def maxBackendDevices : Nat := 1000

/-- The globals that the set-up fills. -/
structure DeviceMap where
  backendDevices : Nat
  devicesInNode : Nat → Nat
  devToIndex : Nat → Nat
  devToLocaldev : Nat → Int
  cummulativeFreqDev : Nat → Nat
  firstLocal : Nat

/-- The globals before the set-up. -/
def DeviceMap.zero : DeviceMap :=
  { backendDevices := 0, devicesInNode := fun _ => 0, devToIndex := fun _ => 0
    devToLocaldev := fun _ => 0, cummulativeFreqDev := fun _ => 0, firstLocal := 0 }

/-- `l_getLocalFromConfig` on the hosts of the configuration: `BACKEND_NODES` and `first_node`. -/
def lGetLocalFromConfig (hosts : List String) : Nat × Nat :=
  hosts.foldl (fun s host => (s.1 + 1, if host = "localhost" then s.1 else s.2)) (0, 0)

/-- `DEV_TO_INDEX[k]=i; DEV_TO_LOCALDEV[k]=` the device. -/
def DeviceMap.withDevice (g : DeviceMap) (k i : Nat) (localdev : Int) : DeviceMap :=
  { g with
    devToIndex := Function.update g.devToIndex k i
    devToLocaldev := Function.update g.devToLocaldev k localdev }

/-- The body of the inner loop, for device `k` and node `i`; there is no store behind the arrays. -/
def DeviceMap.mapDevice (i : Nat) (g : DeviceMap) (k : Nat) : Option DeviceMap :=
  if k < maxBackendDevices then
    some (g.withDevice k i (k - (g.backendDevices - g.devicesInNode i)))
  else none

/-- `rcudaGetDeviceCount` has stored the count of node `i`, and it is added. -/
def DeviceMap.withCount (g : DeviceMap) (i count : Nat) : DeviceMap :=
  { g with
    devicesInNode := Function.update g.devicesInNode i count
    backendDevices := g.backendDevices + count }

/-- The body of the first loop for node `i`, whose inner loop goes on from `k`. -/
def DeviceMap.addNode (count : Nat → Nat) (s : DeviceMap × Nat) (i : Nat) :
    Option (DeviceMap × Nat) :=
  if i < maxBackendNodes then
    let g := s.1.withCount i (count i)
    ((List.range' s.2 (g.backendDevices - s.2)).foldlM (mapDevice i) g).map fun g' =>
      (g', max s.2 g.backendDevices)
  else none

/-- The body of the second loop. -/
def DeviceMap.addFreq (g : DeviceMap) (i : Nat) : Option DeviceMap :=
  if i < maxBackendDevices + 1 then
    some { g with
      cummulativeFreqDev := Function.update g.cummulativeFreqDev i
        (g.cummulativeFreqDev (i - 1) + g.devicesInNode (i - 1)) }
  else none

/-- The set-up block of `__cudaRegisterFatBinary`, where node `i` answers `count i`. -/
def setUpDevices (hosts : List String) (count : Nat → Nat) : Option DeviceMap := do
  let (backendNodes, firstNode) := lGetLocalFromConfig hosts
  let (g, _) ← (List.range backendNodes).foldlM (DeviceMap.addNode count) (.zero, 0)
  let g ← (List.range' 1 backendNodes).foldlM DeviceMap.addFreq g
  if firstNode < maxBackendDevices + 1 then
    some { g with firstLocal := g.cummulativeFreqDev firstNode }
  else none

/-- The number of devices of the nodes before node `n`. -/
def devicesBefore (count : Nat → Nat) (n : Nat) : Nat := ∑ i ∈ Finset.range n, count i

/-- Node `i` is the last of the hosts that is named `localhost`, or the first host, where none
is. -/
def FirstNode (hosts : List String) (i : Nat) : Prop :=
  (hosts[i]? = some "localhost" ∧ ∀ j, i < j → hosts[j]? ≠ some "localhost") ∨
    ("localhost" ∉ hosts ∧ i = 0)

/-- The arrays number the devices of all nodes, and `first_local` is the number of the first device
of the first node, where it has one. -/
structure NumbersDevices (hosts : List String) (count : Nat → Nat) (g : DeviceMap) : Prop where
  total : g.backendDevices = devicesBefore count hosts.length
  bijection : Set.BijOn (fun k => (g.devToIndex k, g.devToLocaldev k)) {k | k < g.backendDevices}
    {p | p.1 < hosts.length ∧ 0 ≤ p.2 ∧ p.2 < count p.1}
  position : ∀ k < g.backendDevices,
    (k : Int) = g.cummulativeFreqDev (g.devToIndex k) + g.devToLocaldev k
  firstNode : FirstNode hosts (lGetLocalFromConfig hosts).2
  first : (lGetLocalFromConfig hosts).2 < hosts.length →
    0 < count (lGetLocalFromConfig hosts).2 →
      g.firstLocal < g.backendDevices ∧
        g.devToIndex g.firstLocal = (lGetLocalFromConfig hosts).2 ∧
          g.devToLocaldev g.firstLocal = 0

section

variable {count : Nat → Nat} {n k i : Nat} {g : DeviceMap} {hosts : List String}

/-- One node more. -/
theorem devicesBefore_succ : devicesBefore count (n + 1) = devicesBefore count n + count n :=
  Finset.sum_range_succ ..

/-! ## The numbers -/

/-- The devices before a node, as a sum over the nodes, which is what the equivalence counts. -/
theorem sum_fin_count (n : Nat) : ∑ i : Fin n, count i = devicesBefore count n :=
  Fin.sum_univ_eq_sum_range count n

/-- The devices of the first `n` nodes, one node after the other. The numbering that the two loops
make is Mathlib's numbering of pairs; the lemmas on it are used by this. -/
theorem finSigmaFinEquiv_count (x : (i : Fin n) × Fin (count i)) :
    (finSigmaFinEquiv x : Nat) = devicesBefore count x.1 + x.2 := by
  rw [finSigmaFinEquiv_apply, ← sum_fin_count]
  rfl

/-- The number of a device is below the number of all of them. -/
theorem number_lt {d : Nat} (hi : i < n) (hd : d < count i) :
    devicesBefore count i + d < devicesBefore count n := by
  have hlt := (finSigmaFinEquiv (⟨⟨i, hi⟩, d, hd⟩ : (i : Fin n) × Fin (count i))).isLt
  rwa [finSigmaFinEquiv_count, sum_fin_count] at hlt

/-- Every number below the total is the number of a device. -/
theorem exists_device (hk : k < devicesBefore count n) :
    ∃ i < n, ∃ d < count i, k = devicesBefore count i + d := by
  rw [← sum_fin_count] at hk
  obtain ⟨x, hx⟩ := (finSigmaFinEquiv (n := fun i : Fin n => count i)).surjective ⟨k, hk⟩
  refine ⟨x.1, x.1.isLt, x.2, x.2.isLt, ?_⟩
  rw [← finSigmaFinEquiv_count, hx]

/-! ## The loops -/

theorem DeviceMap.withDevice_self {localdev : Int} :
    (g.withDevice k i localdev).devToIndex k = i ∧
      (g.withDevice k i localdev).devToLocaldev k = localdev :=
  ⟨Function.update_self .., Function.update_self ..⟩

theorem DeviceMap.withDevice_devToIndex {j : Nat} {localdev : Int} (h : j ≠ k) :
    (g.withDevice k i localdev).devToIndex j = g.devToIndex j :=
  Function.update_of_ne h ..

theorem DeviceMap.withDevice_devToLocaldev {j : Nat} {localdev : Int} (h : j ≠ k) :
    (g.withDevice k i localdev).devToLocaldev j = g.devToLocaldev j :=
  Function.update_of_ne h ..

/-- The numbers that the inner loop has filled for node `i`, the rest being as before. -/
structure Mapped (g : DeviceMap) (i first d : Nat) (g' : DeviceMap) : Prop where
  backendDevices : g'.backendDevices = g.backendDevices
  devicesInNode : g'.devicesInNode = g.devicesInNode
  cummulativeFreqDev : g'.cummulativeFreqDev = g.cummulativeFreqDev
  old : ∀ k < first, g'.devToIndex k = g.devToIndex k ∧ g'.devToLocaldev k = g.devToLocaldev k
  new : ∀ e < d, g'.devToIndex (first + e) = i ∧ g'.devToLocaldev (first + e) = e

/-- The inner loop, which starts at the number of devices before the node. It writes a stretch of
both arrays and nothing else. -/
theorem mapDevice_foldlM {first d : Nat} (hfirst : g.backendDevices = first + g.devicesInNode i)
    (hroom : first + d ≤ maxBackendDevices) :
    ∃ g', (List.range' first d).foldlM (DeviceMap.mapDevice i) g = some g' ∧
      Mapped g i first d g' := by
  induction d with
  | zero =>
    exact ⟨g, rfl, rfl, rfl, rfl, fun _ _ => ⟨rfl, rfl⟩, fun e he => absurd he (Nat.not_lt_zero e)⟩
  | succ d ih =>
    obtain ⟨g', hrun, hmapped⟩ := ih (by omega)
    have hlt : first + d < maxBackendDevices := by omega
    have hstep : DeviceMap.mapDevice i g' (first + d) = some (g'.withDevice (first + d) i d) := by
      have hlocal : ((first + d : Nat) : Int) - (g'.backendDevices - g'.devicesInNode i) = d := by
        rw [hmapped.backendDevices, hmapped.devicesInNode, hfirst]
        omega
      rw [DeviceMap.mapDevice, if_pos hlt, hlocal]
    refine ⟨g'.withDevice (first + d) i d, ?_, ?_⟩
    · rw [List.range'_concat, Nat.one_mul]
      exact foldlM_concat_iff.mpr ⟨g', hrun, hstep⟩
    · refine ⟨hmapped.backendDevices, hmapped.devicesInNode, hmapped.cummulativeFreqDev, ?_, ?_⟩
      · intro k hk
        have hne : k ≠ first + d := by omega
        rw [DeviceMap.withDevice_devToIndex hne, DeviceMap.withDevice_devToLocaldev hne]
        exact hmapped.old k hk
      · intro e he
        rcases Nat.lt_succ_iff_lt_or_eq.mp he with he | rfl
        · have hne : first + e ≠ first + d := by omega
          rw [DeviceMap.withDevice_devToIndex hne, DeviceMap.withDevice_devToLocaldev hne]
          exact hmapped.new e he
        · exact DeviceMap.withDevice_self

/-- What the first loop has filled after `n` nodes. -/
structure NodesAdded (count : Nat → Nat) (n : Nat) (s : DeviceMap × Nat) : Prop where
  backendDevices : s.1.backendDevices = devicesBefore count n
  next : s.2 = devicesBefore count n
  counts : ∀ i < n, s.1.devicesInNode i = count i
  mapped : ∀ i < n, ∀ d < count i, s.1.devToIndex (devicesBefore count i + d) = i ∧
    s.1.devToLocaldev (devicesBefore count i + d) = d
  freq : s.1.cummulativeFreqDev = fun _ => 0

/-- Before the first node nothing is written. -/
theorem NodesAdded.zero : NodesAdded count 0 (.zero, 0) where
  backendDevices := rfl
  next := rfl
  counts := fun i hi => absurd hi (Nat.not_lt_zero i)
  mapped := fun i hi => absurd hi (Nat.not_lt_zero i)
  freq := rfl

/-- One more node: the step of the loop invariant. -/
theorem NodesAdded.succ {s : DeviceMap × Nat} (h : NodesAdded count n s) (hn : n < maxBackendNodes)
    (hroom : devicesBefore count (n + 1) ≤ maxBackendDevices) :
    ∃ s', DeviceMap.addNode count s n = some s' ∧ NodesAdded count (n + 1) s' := by
  obtain ⟨g, k⟩ := s
  obtain rfl : k = devicesBefore count n := h.next
  have htotal : (g.withCount n (count n)).backendDevices = devicesBefore count (n + 1) := by
    rw [devicesBefore_succ, ← h.backendDevices]
    rfl
  have hself : (g.withCount n (count n)).devicesInNode n = count n := Function.update_self ..
  have hfirst : (g.withCount n (count n)).backendDevices =
      devicesBefore count n + (g.withCount n (count n)).devicesInNode n := by
    rw [htotal, hself, devicesBefore_succ]
  obtain ⟨g', hrun, hmapped⟩ := mapDevice_foldlM hfirst (devicesBefore_succ ▸ hroom)
  refine ⟨(g', devicesBefore count (n + 1)), ?_, ?_⟩
  · have hdevices : devicesBefore count (n + 1) - devicesBefore count n = count n := by
      rw [devicesBefore_succ, Nat.add_sub_cancel_left]
    have hle : devicesBefore count n ≤ devicesBefore count (n + 1) :=
      devicesBefore_succ ▸ Nat.le_add_right ..
    rw [DeviceMap.addNode, if_pos hn]
    dsimp only
    rw [htotal, hdevices, hrun, Option.map_some, Nat.max_eq_right hle]
  · constructor
    · exact hmapped.backendDevices.trans htotal
    · rfl
    · intro i hi
      rw [hmapped.devicesInNode]
      rcases Nat.lt_succ_iff_lt_or_eq.mp hi with hi | rfl
      · exact (Function.update_of_ne hi.ne ..).trans (h.counts i hi)
      · exact hself
    · intro i hi d hd
      rcases Nat.lt_succ_iff_lt_or_eq.mp hi with hi | rfl
      · obtain ⟨hindex, hlocal⟩ := hmapped.old _ (number_lt hi hd)
        rw [hindex, hlocal]
        exact h.mapped i hi d hd
      · exact hmapped.new d hd
    · exact hmapped.cummulativeFreqDev.trans h.freq

/-- The first loop, whose invariant is `NodesAdded`. -/
theorem addNode_foldlM (hn : n ≤ maxBackendNodes)
    (hroom : devicesBefore count n ≤ maxBackendDevices) :
    ∃ s, (List.range n).foldlM (DeviceMap.addNode count) (.zero, 0) = some s ∧
      NodesAdded count n s := by
  induction n with
  | zero => exact ⟨_, rfl, .zero⟩
  | succ n ih =>
    have hle : devicesBefore count n ≤ devicesBefore count (n + 1) :=
      devicesBefore_succ ▸ Nat.le_add_right ..
    obtain ⟨s, hrun, h⟩ := ih (Nat.le_of_succ_le hn) (hle.trans hroom)
    obtain ⟨s', hstep, h'⟩ := h.succ hn hroom
    refine ⟨s', ?_, h'⟩
    rw [List.range_succ]
    exact foldlM_concat_iff.mpr ⟨s, hrun, hstep⟩

/-- The second loop leaves the rest as it is and adds up the counts. -/
theorem addFreq_foldlM (hn : n ≤ maxBackendDevices) (hcounts : ∀ i < n, g.devicesInNode i = count i)
    (hzero : g.cummulativeFreqDev = fun _ => 0) :
    ∃ freq, (List.range' 1 n).foldlM DeviceMap.addFreq g =
        some { g with cummulativeFreqDev := freq } ∧ ∀ i ≤ n, freq i = devicesBefore count i := by
  induction n with
  | zero =>
    refine ⟨g.cummulativeFreqDev, rfl, fun i hi => ?_⟩
    rw [Nat.le_zero.mp hi, hzero]
    rfl
  | succ n ih =>
    obtain ⟨freq, hrun, hfreq⟩ := ih (Nat.le_of_succ_le hn) fun i hi =>
      hcounts i (Nat.lt_succ_of_lt hi)
    have hlt : 1 + n < maxBackendDevices + 1 := by omega
    refine ⟨Function.update freq (1 + n) (freq n + g.devicesInNode n), ?_, fun i hi => ?_⟩
    · rw [List.range'_concat, Nat.one_mul]
      refine foldlM_concat_iff.mpr ⟨_, hrun, ?_⟩
      rw [DeviceMap.addFreq, if_pos hlt, Nat.add_sub_cancel_left]
    · rcases Nat.le_succ_iff.mp hi with hi | rfl
      · rw [Function.update_of_ne (by omega), hfreq i hi]
      · rw [Nat.add_comm 1 n, Function.update_self, hfreq n (Nat.le_refl n),
          hcounts n (Nat.lt_succ_self n), devicesBefore_succ]

/-- The hosts are read one after the other. -/
theorem lGetLocalFromConfig_concat (hosts : List String) (host : String) :
    lGetLocalFromConfig (hosts ++ [host]) = ((lGetLocalFromConfig hosts).1 + 1,
      if host = "localhost" then (lGetLocalFromConfig hosts).1
      else (lGetLocalFromConfig hosts).2) :=
  List.foldl_concat ..

/-- Each host that is named `localhost` takes the place of the ones before it. -/
theorem FirstNode.concat {i : Nat} (h : FirstNode hosts i) (host : String) :
    FirstNode (hosts ++ [host]) (if host = "localhost" then hosts.length else i) := by
  have hlast : (hosts ++ [host])[hosts.length]? = some host := List.getElem?_concat_length
  split
  · next hlocal =>
    refine .inl ⟨hlocal ▸ hlast, fun j hj => ?_⟩
    rw [List.getElem?_eq_none (by rw [List.length_append, List.length_singleton]; omega)]
    exact nofun
  · next hother =>
    rcases h with ⟨hi, hlater⟩ | ⟨hnone, rfl⟩
    · have hlt : i < hosts.length := (List.getElem?_eq_some_iff.mp hi).1
      refine .inl ⟨(List.getElem?_append_left hlt).trans hi, fun j hj heq => ?_⟩
      rw [List.getElem?_append] at heq
      split at heq
      · exact hlater j hj heq
      · exact hother (List.mem_singleton.mp (List.mem_of_getElem? heq)).symm
    · refine .inr ⟨fun hmem => ?_, rfl⟩
      rcases List.mem_append.mp hmem with hmem | hmem
      · exact hnone hmem
      · exact hother (List.mem_singleton.mp hmem).symm

/-- The nodes are the hosts. -/
theorem lGetLocalFromConfig_spec (hosts : List String) :
    (lGetLocalFromConfig hosts).1 = hosts.length ∧
      FirstNode hosts (lGetLocalFromConfig hosts).2 := by
  induction hosts using List.reverseRecOn with
  | nil => exact ⟨rfl, .inr ⟨List.not_mem_nil, rfl⟩⟩
  | append_singleton hosts host ih =>
    obtain ⟨hnodes, hfirst⟩ := ih
    rw [lGetLocalFromConfig_concat, hnodes, List.length_append]
    exact ⟨rfl, hfirst.concat host⟩

/-- The first node is one of the nodes, unless there are none. -/
theorem FirstNode.le_length {i : Nat} (h : FirstNode hosts i) : i ≤ hosts.length := by
  rcases h with ⟨hi, -⟩ | ⟨-, rfl⟩
  · exact (List.getElem?_eq_some_iff.mp hi).1.le
  · exact Nat.zero_le _

/-- Where every device of every node has its number, the arrays number the devices. -/
theorem bijOn_of_mapped
    (h : ∀ i < n, ∀ d < count i, g.devToIndex (devicesBefore count i + d) = i ∧
      g.devToLocaldev (devicesBefore count i + d) = d) :
    Set.BijOn (fun k => (g.devToIndex k, g.devToLocaldev k)) {k | k < devicesBefore count n}
      {p | p.1 < n ∧ 0 ≤ p.2 ∧ p.2 < count p.1} := by
  refine ⟨?_, ?_, ?_⟩
  · intro k hk
    obtain ⟨i, hi, d, hd, rfl⟩ := exists_device hk
    obtain ⟨hindex, hlocal⟩ := h i hi d hd
    simp only [Set.mem_ofPred_eq, hindex, hlocal]
    exact ⟨hi, Int.natCast_nonneg d, by exact_mod_cast hd⟩
  · intro k hk k' hk' heq
    obtain ⟨i, hi, d, hd, rfl⟩ := exists_device hk
    obtain ⟨i', hi', d', hd', rfl⟩ := exists_device hk'
    obtain ⟨hnode, hdevice⟩ := Prod.mk.inj heq
    rw [(h i hi d hd).1, (h i' hi' d' hd').1] at hnode
    rw [(h i hi d hd).2, (h i' hi' d' hd').2] at hdevice
    rw [hnode, Int.ofNat.inj hdevice]
  · rintro ⟨i, d⟩ ⟨hi, h0, hd⟩
    obtain ⟨d, rfl⟩ := Int.eq_ofNat_of_zero_le h0
    dsimp only at hi hd
    have hd : d < count i := by exact_mod_cast hd
    obtain ⟨hindex, hlocal⟩ := h i hi d hd
    refine ⟨devicesBefore count i + d, number_lt hi hd, ?_⟩
    dsimp only
    rw [hindex, hlocal]

/-- The set-up numbers all devices of all nodes.

Each pair of a node and one of its devices has exactly one number below the total, the arrays lead
back from it, and the sums before each node are the cumulative counts. It is for any counts that the
arrays have room for. -/
theorem setUpDevices_numbers (hosts : List String) (count : Nat → Nat)
    (hnodes : hosts.length ≤ maxBackendNodes)
    (htotal : devicesBefore count hosts.length ≤ maxBackendDevices) :
    ∃ g, setUpDevices hosts count = some g ∧ NumbersDevices hosts count g := by
  obtain ⟨hlength, hnode⟩ := lGetLocalFromConfig_spec hosts
  have hfirst := hnode.le_length
  obtain ⟨⟨g, k⟩, hrun, hadded⟩ := addNode_foldlM hnodes htotal
  have hdevices : maxBackendNodes ≤ maxBackendDevices := by decide
  obtain ⟨freq, hrun', hfreq⟩ :=
    addFreq_foldlM (hnodes.trans hdevices) hadded.counts hadded.freq
  have hroom : (lGetLocalFromConfig hosts).2 < maxBackendDevices + 1 :=
    Nat.lt_succ_of_le (hfirst.trans (hnodes.trans hdevices))
  refine ⟨{ g with
    cummulativeFreqDev := freq, firstLocal := freq (lGetLocalFromConfig hosts).2 }, ?_, ?_⟩
  · rw [setUpDevices]
    dsimp only
    rw [hlength, hrun, Option.bind_eq_bind, Option.bind_some]
    dsimp only
    rw [hrun', Option.bind_eq_bind, Option.bind_some, if_pos hroom]
  · constructor
    · exact hadded.backendDevices
    · have hbij := bijOn_of_mapped hadded.mapped
      rwa [← hadded.backendDevices] at hbij
    · intro k hk
      obtain ⟨i, hi, d, hd, rfl⟩ := exists_device (hadded.backendDevices ▸ hk)
      obtain ⟨hindex, hlocal⟩ := hadded.mapped i hi d hd
      dsimp only at hindex hlocal ⊢
      rw [hindex, hlocal, hfreq i hi.le]
      exact Nat.cast_add ..
    · exact hnode
    · intro hlt hsome
      have hnumber := number_lt hlt hsome
      obtain ⟨hindex, hlocal⟩ := hadded.mapped _ hlt 0 hsome
      dsimp only
      rw [Nat.add_zero] at hnumber hindex hlocal
      rw [hfreq _ hfirst]
      exact ⟨hnumber.trans_eq hadded.backendDevices.symm, hindex, hlocal⟩

end

/-- Two nodes, of which the second is the local one: its first device is the second of all. -/
theorem setUpDevices_numbers_twoNodes :
    ∃ g, setUpDevices ["gpu0", "localhost"] (fun i => i + 1) = some g ∧
      NumbersDevices ["gpu0", "localhost"] (fun i => i + 1) g :=
  setUpDevices_numbers _ _ (by decide) (by decide)

end GpuVirtmem.Interposer
