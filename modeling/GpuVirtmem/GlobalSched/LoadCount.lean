import GpuVirtmem.Lib.Run
import Mathlib.Data.List.Count

/-!
# The load of the devices (`remote/remote_api_wrapper.c`, `Global_Sched/global_sched.c`)

The global scheduler serves each connection in a thread of its own. A request for a device is
answered with the next one in turn, which is remembered for the thread; when the connection ends the
load of that device is decremented. Nothing increments it.

That nothing increments the loads is a fact about the round robin: the selections that take the
least load do so themselves (`Balance`). The decrement at the end of a connection is there for all
of them.
-/

namespace GpuVirtmem.GlobalSched

open Lib

/-- `MAX_BACKEND_DEVICES`. -/
def maxBackendDevices : Int := 100

/-- A thread of `handle_req`. `deviceAssigned` is what `tlsKey_DEVICE_ASSIGNED` points to, if it is
set. -/
structure Connection where
  id : Nat
  deviceAssigned : Option Int

/-- The static variables, the connections, and the devices of the connections that have ended. The
counts are ints, and so wrap around; an index is checked where the array is read. -/
structure Loads where
  devRR : Int
  threadCountPerDevice : Int → Int32
  connections : List Connection
  ended : List Int

namespace Loads

/-- `get_next_device_RR`. A division by zero ends the process. -/
def getNextDeviceRR (s : Loads) (backendDevices : Int) : Option (Int × Loads) :=
  if backendDevices = 0 then none
  else some (s.devRR, { s with devRR := (s.devRR + 1).tmod backendDevices })

/-- `*DEVICE_ASSIGNED = device` in one of the threads. -/
def assign (s : Loads) (id : Nat) (device : Int) : Loads :=
  { s with
    connections := s.connections.map fun c =>
      if c.id = id then { c with deviceAssigned := some device } else c }

/-- `nvbackCudaGetDevice_srv`. `BACKEND_DEVICES` is stored without the lock, so that it may come
from another request. -/
def nvbackCudaGetDeviceSrv (s : Loads) (id : Nat) (backendDevices : Int) :
    Option Loads := do
  let (device, s) ← s.getNextDeviceRR backendDevices
  return s.assign id device

/-- `thread_count_per_device[i]`, which has `MAX_BACKEND_DEVICES` entries. -/
def countAt (s : Loads) (i : Int) : Option Int32 :=
  if 0 ≤ i ∧ i < maxBackendDevices then some (s.threadCountPerDevice i) else none

/-- `thread_count_per_device[i] = count`. -/
def setCount (s : Loads) (i : Int) (count : Int32) : Loads :=
  { s with threadCountPerDevice := Function.update s.threadCountPerDevice i count }

/-- `dec_thread_count_per_device`, which reads through NULL where no device was asked for. -/
def decThreadCountPerDevice (s : Loads) (deviceAssigned : Option Int) :
    Option Loads := do
  let device ← deviceAssigned
  let count ← s.countAt device
  return s.setCount device (count - 1)

/-- The end of `handle_req`. -/
def disconnect (s : Loads) (id : Nat) : Option Loads := do
  let c ← s.connections.find? fun c => c.id = id
  let s ← s.decThreadCountPerDevice c.deviceAssigned
  return { s with
    connections := s.connections.filter fun c => c.id ≠ id
    ended := s.ended ++ c.deviceAssigned.toList }

end Loads

/-- What happens to a connection. -/
inductive Event
  | connect (id : Nat)
  | getDevice (id : Nat) (backendDevices : Int)
  | disconnect (id : Nat)

namespace Loads

/-- One event; without a result the process has ended. -/
def serve (s : Loads) : Event → Option Loads
  | .connect id => some { s with connections := s.connections ++ [⟨id, none⟩] }
  | .getDevice id backendDevices => s.nvbackCudaGetDeviceSrv id backendDevices
  | .disconnect id => s.disconnect id

/-- A connection is new; it makes requests, and ends after it has made one. -/
def Admissible (s : Loads) : Event → Prop
  | .connect id => ∀ c ∈ s.connections, c.id ≠ id
  | .getDevice id _ => ∃ c ∈ s.connections, c.id = id
  | .disconnect id => ∃ c ∈ s.connections, c.id = id ∧ c.deviceAssigned ≠ none

/-- An event, as long as the process has not ended. -/
inductive Step : Option Loads → Event → Option Loads → Prop
  | event {s : Loads} {e : Event} {t : Option Loads} :
      s.Admissible e → s.serve e = t → Step (some s) e t

/-- Nothing has been connected. -/
def start : Loads := ⟨0, fun _ => 0, [], []⟩

/-- The number of the connections that have been assigned the device. -/
def users (s : Loads) (device : Int) : Nat :=
  s.connections.countP fun c => c.deviceAssigned = some device

/-- The load of each device is the number of its users. -/
def Balanced (s : Loads) : Prop :=
  ∀ device, (s.threadCountPerDevice device).toInt = s.users device

/-- A device is asked for. -/
def IsRequest : Event → Prop
  | .getDevice _ _ => True
  | _ => False

/-! ## What the loads are -/

section

variable {s t : Loads} {o : Option Loads} {e : Event} {es : List Event} {id : Nat}

/-- The load of each device is the number of the connections that have ended on it, negated. -/
def CountsEnded (s : Loads) : Prop :=
  ∀ device, s.threadCountPerDevice device = .ofInt (-(s.ended.count device : Int))

/-- What is read of the array is an entry of it. -/
theorem countAt_eq_some {i : Int} {count : Int32} : s.countAt i = some count ↔
    (0 ≤ i ∧ i < maxBackendDevices) ∧ count = s.threadCountPerDevice i := by
  unfold countAt
  split
  · next h => exact Option.some_inj.trans (eq_comm.trans (and_iff_right h).symm)
  · next h => exact iff_of_false nofun fun hand => h hand.1

/-- A connection that ends takes one off the load of its device. -/
theorem disconnect_cases (h : s.disconnect id = some t) : ∃ c device, c ∈ s.connections ∧
    c.deviceAssigned = some device ∧ t.ended = s.ended ++ [device] ∧
    t.threadCountPerDevice = Function.update s.threadCountPerDevice device
      (s.threadCountPerDevice device - 1) := by
  obtain ⟨c, hc, h⟩ := Option.bind_eq_some_iff.mp h
  obtain ⟨u, hu, h⟩ := Option.bind_eq_some_iff.mp h
  obtain ⟨device, hdevice, hu⟩ := Option.bind_eq_some_iff.mp hu
  obtain ⟨count, hcount, hu⟩ := Option.bind_eq_some_iff.mp hu
  obtain ⟨-, rfl⟩ := countAt_eq_some.mp hcount
  cases hu
  cases h
  refine ⟨c, device, List.mem_of_find?_eq_some hc, hdevice, ?_, rfl⟩
  simp only [hdevice, Option.toList_some]
  rfl

/-- An end is counted. -/
theorem CountsEnded.disconnect (hs : s.CountsEnded) (h : s.disconnect id = some t) :
    t.CountsEnded := by
  obtain ⟨c, device, _, _, hended, hcount⟩ := disconnect_cases h
  intro d
  rw [hcount, hended, List.count_append, List.count_singleton]
  by_cases hd : d = device
  · subst hd
    have hone : (1 : Int32) = .ofInt 1 := rfl
    rw [Function.update_self, hs d, hone, ← Int32.ofInt_sub]
    congr 1
    simp
    omega
  · rw [Function.update_of_ne hd, hs d]
    simp [Ne.symm hd]

/-- A request changes the round robin and the device of its connection, and no load. -/
theorem nvbackCudaGetDeviceSrv_cases {backendDevices : Int}
    (h : s.nvbackCudaGetDeviceSrv id backendDevices = some t) :
    t = { s with devRR := (s.devRR + 1).tmod backendDevices }.assign id s.devRR := by
  unfold nvbackCudaGetDeviceSrv getNextDeviceRR at h
  split at h
  · cases h
  · cases h
    rfl

/-- The step lemma: the loads count the ends. -/
theorem CountsEnded.serve (hs : s.CountsEnded) (h : s.serve e = some t) : t.CountsEnded := by
  cases e with
  | connect id =>
    cases h
    exact hs
  | getDevice id backendDevices =>
    rw [nvbackCudaGetDeviceSrv_cases h]
    exact hs
  | disconnect id => exact hs.disconnect h

/-- In every run the load of a device is the number of connections that have ended on it, negated,
however many use it. -/
theorem countsEnded (r : Run Step (some start) es (some s)) : s.CountsEnded := by
  have hall := r.invariant (I := fun o => ∀ s, o = some s → s.CountsEnded) ?_ ?_
  · exact hall s rfl
  · rintro _ ⟨⟩ device
    rfl
  · rintro _ _ _ h ⟨_, hserve⟩ t rfl
    exact (h _ rfl).serve hserve

/-- So where none has ended yet, the loads are right only if no connection uses a device. -/
theorem CountsEnded.balanced_iff (hs : s.CountsEnded) (hended : s.ended = []) :
    s.Balanced ↔ ∀ c ∈ s.connections, c.deviceAssigned = none := by
  have hzero : ∀ device, (s.threadCountPerDevice device).toInt = 0 := by
    intro device
    rw [hs device, hended]
    rfl
  constructor
  · intro hbalanced c hc
    by_contra hassigned
    obtain ⟨device, hdevice⟩ := Option.ne_none_iff_exists'.mp hassigned
    have husers : s.users device = 0 := by
      exact_mod_cast (hbalanced device).symm.trans (hzero device)
    exact List.countP_eq_zero.mp husers c hc (decide_eq_true hdevice)
  · intro hnone device
    have husers : s.users device = 0 := by
      apply List.countP_eq_zero.mpr
      intro c hc
      simp [hnone c hc]
    rw [hzero device, husers]
    rfl

/-- An event leads to one state, or ends the process. -/
theorem Step.det {u v : Option Loads} (h : Step o e u) (h' : Step o e v) : u = v := by
  obtain ⟨_, rfl⟩ := h
  obtain ⟨_, rfl⟩ := h'
  rfl

/-- Nothing has been asked for. -/
structure Unused (s : Loads) : Prop where
  counts : s.CountsEnded
  ended : s.ended = []
  unassigned : ∀ c ∈ s.connections, c.deviceAssigned = none

/-- Where no connection uses a device, all loads should be zero. -/
theorem Unused.balanced (h : s.Unused) : s.Balanced :=
  (h.counts.balanced_iff h.ended).mpr h.unassigned

/-- Without requests the connections stay unassigned, and none of them ends. -/
theorem Unused.serve (h : s.Unused) (ha : s.Admissible e) (he : ¬ IsRequest e) :
    ∃ t, s.serve e = some t ∧ t.Unused := by
  cases e with
  | connect id =>
    refine ⟨_, rfl, h.counts, h.ended, fun c hc => ?_⟩
    rcases List.mem_append.mp hc with hc | hc
    · exact h.unassigned c hc
    · rw [List.mem_singleton.mp hc]
  | getDevice id backendDevices => exact absurd trivial he
  | disconnect id =>
    obtain ⟨c, hc, _, hassigned⟩ := ha
    exact absurd (h.unassigned c hc) hassigned

/-- A request leaves the loads what they were, while its connection becomes a user. Already the
first request breaks the count. -/
theorem Unused.not_balanced (h : s.Unused) (ha : s.Admissible e) (he : IsRequest e)
    (hserve : s.serve e = some t) : ¬ t.Balanced := by
  intro hbalanced
  have hcounts := h.counts.serve hserve
  cases e with
  | connect id => exact he
  | disconnect id => exact he
  | getDevice id backendDevices =>
    obtain ⟨c, hc, hid⟩ := ha
    rw [nvbackCudaGetDeviceSrv_cases hserve] at hbalanced hcounts
    have hnone := (hcounts.balanced_iff h.ended).mp hbalanced
    have hassigned := hnone _ (List.mem_map.mpr ⟨c, hc, if_pos hid⟩)
    cases hassigned

/-- The load of each device is the number of its users throughout a run exactly when no device is
asked for.

The loads count the ends of connections, downwards; since a connection has to ask before it can end,
they are right as long as nobody has asked. -/
theorem load_counted_iff (r : Run Step (some start) es o) :
    Always Step (some start) es (fun _ o => ∃ s, o = some s ∧ s.Balanced) ↔
      EachStep Step (some start) es fun _ e => ¬ IsRequest e := by
  refine Run.always_iff_eachStep (I := fun _ o => ∃ s, o = some s ∧ s.Unused)
    (fun _ _ _ _ => Step.det) ⟨start, rfl, fun _ => rfl, rfl, List.forall_mem_nil _⟩ ?_ ?_ ?_ r
  · rintro _ _ e _ ⟨s, rfl, h⟩ he ⟨ha, rfl⟩
    exact h.serve ha he
  · rintro _ _ ⟨s, rfl, h⟩
    exact ⟨s, rfl, h.balanced⟩
  · rintro _ _ e _ ⟨s, rfl, h⟩ ⟨ha, hserve⟩ ⟨t, rfl, hbalanced⟩ he
    exact h.not_balanced ha he hserve hbalanced

end

/-- A connection asks for a device of four. -/
def oneRequest : List Event := [.connect 1, .getDevice 1 4]

/-- The process after that. -/
def afterRequest : Loads := ⟨1, fun _ => 0, [⟨1, some 0⟩], []⟩

/-- The request is served. -/
theorem run_oneRequest : Run Step (some start) oneRequest (some afterRequest) := by
  refine .cons (t := some ⟨0, fun _ => 0, [⟨1, none⟩], []⟩) (.event ?_ rfl)
    (.cons (.event ⟨_, List.mem_cons_self, rfl⟩ rfl) .start)
  exact fun c hc => absurd hc List.not_mem_nil

/-- Connections that have not asked. -/
def unasked (ids : List Nat) : Loads := ⟨0, fun _ => 0, ids.map fun id => ⟨id, none⟩, []⟩

/-- Three connections, one after the other. -/
def threeConnections : List Event := [.connect 1, .connect 2, .connect 3]

/-- Two of them ask for a device of four, and one of these ends. -/
def twoAsking : List Event := [.getDevice 1 4, .getDevice 3 4, .disconnect 1]

/-- The loads are right while nobody asks, and not throughout the whole run. -/
theorem load_counted_iff_threeConnections : ∃ s o,
    Run Step (some start) threeConnections (some s) ∧
    Always Step (some start) threeConnections (fun _ o => ∃ s, o = some s ∧ s.Balanced) ∧
    Run Step (some start) (threeConnections ++ twoAsking) o ∧
    ¬ Always Step (some start) (threeConnections ++ twoAsking)
      fun _ o => ∃ s, o = some s ∧ s.Balanced := by
  have hdet : ∀ o e u v, Step o e u → Step o e v → u = v := fun _ _ _ _ => Step.det
  have h₁ : Step (some start) (.connect 1) (some (unasked [1])) :=
    .event (fun c hc => absurd hc List.not_mem_nil) rfl
  have h₂ : Step (some (unasked [1])) (.connect 2) (some (unasked [1, 2])) :=
    .event (by simp [Admissible, unasked]) rfl
  have h₃ : Step (some (unasked [1, 2])) (.connect 3) (some (unasked [1, 2, 3])) :=
    .event (by simp [Admissible, unasked]) rfl
  have r : Run Step (some start) threeConnections _ := .cons h₁ (.cons h₂ (.cons h₃ .start))
  have hasks : Run Step (some (unasked [1, 2, 3])) twoAsking _ :=
    .cons (.event ⟨_, .head _, rfl⟩ rfl) (.cons (.event ⟨_, .tail _ (.tail _ (.head _)), rfl⟩ rfl)
      (.cons (.event ⟨_, .head _, rfl, nofun⟩ rfl) .start))
  refine ⟨_, _, r, (load_counted_iff r).mpr ?_, r.append hasks, fun hall => ?_⟩
  · exact .cons hdet h₁ id (.cons hdet h₂ id (.cons hdet h₃ id .nil))
  · exact (load_counted_iff (r.append hasks)).mp hall threeConnections (.getDevice 1 4) _
      (List.prefix_append (threeConnections ++ [.getDevice 1 4]) _) r trivial

/-- The device that has been assigned has a user, and load 0. -/
theorem user_not_counted : Run Step (some start) oneRequest (some afterRequest) ∧
    ¬ afterRequest.Balanced := by
  refine ⟨run_oneRequest, fun hbalanced => ?_⟩
  have hcount : (0 : Int) = 1 := hbalanced 0
  cases hcount

end Loads

end GpuVirtmem.GlobalSched
