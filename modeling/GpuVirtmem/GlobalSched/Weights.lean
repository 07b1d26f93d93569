import GpuVirtmem.GlobalSched.GetDevice
import Mathlib.Algebra.Order.BigOperators.Group.List
import Mathlib.Data.Rat.Floor

/-!
# Weighted loads (`remote/remote_api_wrapper.c`)

In a build with `L2_FEEDBACK_ENABLED` a device can be selected by its load, where an application
weighs as much as the feedback says that it uses more than the other one. The weight is computed
when the device is assigned, and again when the connection ends, from the feedback there is then.

Times and utilisations are rationals that are not negative; a quotient that no `int` can hold has no
result. The loads are ints, which wrap around where the weights on a device become too many.

Two things can go wrong. The feedback may have changed between the assignment and the end of a
connection, so that another weight is taken off than was added; and the weights on a device may
become too many for an `int`. Each of them is a condition by itself (`SameMultiple`, `Light`), on
the values of the feedback and on the connections that there are. Neither speaks of the weight that
the end of a connection computes.
-/

namespace GpuVirtmem.GlobalSched

open Lib

/-- `l2_feedback_type`. -/
inductive L2FeedbackType
  | none | exTime | util
  deriving DecidableEq, Repr

/-- A connection that is live, with the amount that its assignment has added and the feedback that
there was at that time. -/
structure Assignment where
  id : Nat
  deviceAssigned : Int
  appType : Int
  added : Int32
  seen : FeedbackData Rat

/-- The static variables that the weighted selections work on, and the live connections. -/
structure Weighted where
  backendDevices : Int
  threadCountPerDevice : Int → Int32
  l2FeedbackType : L2FeedbackType
  feedback : FeedbackData Rat
  live : List Assignment

/-- `gpu_weight`. -/
def gpuWeight : Fin 4 → Rat := fun i => [1, 3, 1, 3 / 2].get i

/-- `all_data_received` for the execution times. -/
def ExTimeReceived (d : FeedbackData Rat) : Prop :=
  ∀ i, d.totalExecutionTime 0 i ≠ 0 ∧ d.totalExecutionTime 1 i ≠ 0

/-- `all_data_received` for the utilisation, in `dec_thread_count_per_device`. -/
def UtilReceived (d : FeedbackData Rat) : Prop :=
  ∀ i, d.gpuUtilization 0 i ≠ 1 ∧ d.gpuUtilization 1 i ≠ 1 ∧ d.nonKernelTime 0 i ≠ 0

instance (d : FeedbackData Rat) : Decidable (ExTimeReceived d) :=
  inferInstanceAs (Decidable (∀ _, _))

instance (d : FeedbackData Rat) : Decidable (UtilReceived d) :=
  inferInstanceAs (Decidable (∀ _, _))

/-- `(int) (a / b)`. -/
def toInt (a b : Rat) : Option Int :=
  if b = 0 ∨ 2 ^ 31 ≤ ⌊a / b⌋ then none else some ⌊a / b⌋

/-- `ratio` for the greater application, and 1 for the other one. -/
def ratioOrOne (table : Fin 2 → Fin 4 → Rat) (device appType : Int) : Option Int := do
  let col ← arrayIndex 4 device
  if table 1 col ≤ table 0 col then
    let ratio ← toInt (table 0 col) (table 1 col)
    return if appType = 0 then ratio else 1
  else
    let ratio ← toInt (table 1 col) (table 0 col)
    return if appType = 1 then ratio else 1

/-- What an assignment adds, or the end of a connection takes off: the ratio, once all data have
been received. -/
def ratioOnce (received : Prop) [Decidable received] (table : Fin 2 → Fin 4 → Rat)
    (device appType : Int) : Option Int :=
  if received then ratioOrOne table device appType else some 1

/-- The search for the device with the smallest load, where a load may be out of an array. -/
def searchMin (load : Nat → Option Rat) (backendDevices : Int) : Option Nat :=
  (List.range backendDevices.toNat).foldlM (fun min i => do
    let loadI ← load i
    let loadMin ← load min
    return if loadI < loadMin then i else min) 0

namespace Weighted

/-- `thread_count_per_device[device] += amount`, on an `int`. -/
def add (s : Weighted) (device amount : Int) : Weighted :=
  { s with
    threadCountPerDevice := Function.update s.threadCountPerDevice device
      (s.threadCountPerDevice device + .ofInt amount) }

/-- `get_next_weighted_device_execution_time_feedback`. -/
def getNextWeightedDeviceExecutionTimeFeedback (s : Weighted) (appId : Int) :
    Option (Int × Weighted) := do
  let min ← searchMin (fun i =>
    if (i : Int) < maxBackendDevices then some ((s.threadCountPerDevice i).toInt : Rat) else none)
    s.backendDevices
  let amount ← ratioOnce (ExTimeReceived s.feedback) s.feedback.totalExecutionTime min appId
  return (min, { s with l2FeedbackType := .exTime }.add min amount)

/-- `get_next_weighted_device_overall_utilization_feedback`. -/
def getNextWeightedDeviceOverallUtilizationFeedback (s : Weighted) (nodeid : Int) :
    Option (Int × Weighted) := do
  let min ← searchMin (fun i => (arrayIndex 4 i).map fun gpu =>
    ((s.threadCountPerDevice i).toInt : Rat) * gpuWeight gpu) s.backendDevices
  let amount ← ratioOrOne s.feedback.gpuUtilization min nodeid
  return (min, { s with l2FeedbackType := .util }.add min amount)

/-- `dec_thread_count_per_device`, in the build with the feedback. -/
def decThreadCountPerDevice (s : Weighted) (deviceAssigned appType : Int) : Option Weighted :=
  match s.l2FeedbackType with
  | .none => some s
  | .util =>
    (ratioOnce (UtilReceived s.feedback) s.feedback.gpuUtilization deviceAssigned appType).map
      fun amount => s.add deviceAssigned (-amount)
  | .exTime =>
    (ratioOnce (ExTimeReceived s.feedback) s.feedback.totalExecutionTime deviceAssigned appType).map
      fun amount => s.add deviceAssigned (-amount)

end Weighted

/-! ## Runs -/

/-- The selection that the scheduler is built with. -/
inductive Selection
  | exTime | util
  deriving DecidableEq, Repr

/-- What happens: a device is assigned to a new connection, values of the feedback change, or a
connection ends. -/
inductive WeightEvent
  | assign (id : Nat) (backendDevices appType : Int)
  | feedback (row : Fin 2) (col : Fin 4) (exTime util nonKernel : Rat)
  | release (id : Nat)

/-- New values of the feedback about one application on one device. -/
def receive (d : FeedbackData Rat) (row : Fin 2) (col : Fin 4) (exTime util nonKernel : Rat) :
    FeedbackData Rat :=
  { d with
    totalExecutionTime := put d.totalExecutionTime row col exTime
    gpuUtilization := put d.gpuUtilization row col util
    nonKernelTime := put d.nonKernelTime row col nonKernel }

/-- A feedback packet brings such values, as far as the weights read them. -/
theorem storeFeedback_receive {d d' : FeedbackData Rat} {packet : L2Packet Rat}
    (h : storeFeedback d packet = some d') : ∃ row col util,
      d'.totalExecutionTime =
        (receive d row col packet.totalExTime util
          (seconds packet.nonKernelTime)).totalExecutionTime ∧
      d'.gpuUtilization =
        (receive d row col packet.totalExTime util (seconds packet.nonKernelTime)).gpuUtilization ∧
      d'.nonKernelTime =
        (receive d row col packet.totalExTime util
          (seconds packet.nonKernelTime)).nonKernelTime := by
  obtain ⟨row, -, h⟩ := Option.bind_eq_some_iff.mp h
  obtain ⟨col, -, h⟩ := Option.bind_eq_some_iff.mp h
  cases h
  exact ⟨row, col, _, rfl, rfl, rfl⟩

namespace Weighted

/-- The selection in `nvbackCudaGetDevice_srv`. -/
def select (s : Weighted) (appType : Int) : Selection → Option (Int × Weighted)
  | .exTime => s.getNextWeightedDeviceExecutionTimeFeedback appType
  | .util => s.getNextWeightedDeviceOverallUtilizationFeedback appType

/-- The device that `s` has assigned to a new connection, with the scheduler after that. -/
def connect (s : Weighted) (id : Nat) (appType : Int) : Int × Weighted → Weighted
  | (device, t) =>
    { t with live := s.live ++ [⟨id, device, appType,
        t.threadCountPerDevice device - s.threadCountPerDevice device, s.feedback⟩] }

/-- One event. A connection ends with the application type of its assignment. -/
def serve (selection : Selection) (s : Weighted) : WeightEvent → Option Weighted
  | .assign id backendDevices appType =>
    (select { s with backendDevices := backendDevices } appType selection).map
      (s.connect id appType)
  | .feedback row col exTime util nonKernel =>
    some { s with feedback := receive s.feedback row col exTime util nonKernel }
  | .release id => do
    let c ← s.live.find? fun c => c.id = id
    let t ← s.decThreadCountPerDevice c.deviceAssigned c.appType
    return { t with live := s.live.filter fun c => c.id ≠ id }

/-- Each connection is assigned a device once, and ends after that. -/
def Admissible (s : Weighted) : WeightEvent → Prop
  | .assign id _ _ => ∀ c ∈ s.live, c.id ≠ id
  | .feedback _ _ exTime util nonKernel => 0 ≤ exTime ∧ 0 ≤ util ∧ 0 ≤ nonKernel
  | .release id => ∃ c ∈ s.live, c.id = id

/-- An event, as long as the process has not ended. -/
inductive Step (selection : Selection) : Option Weighted → WeightEvent → Option Weighted → Prop
  | event {s : Weighted} {e : WeightEvent} {o : Option Weighted} :
      s.Admissible e → s.serve selection e = o → Step selection (some s) e o

/-- Nothing has been assigned, and there has been no feedback. -/
def start : Weighted := ⟨0, fun _ => 0, .none, .start, []⟩

/-- The loads are not negative, and zero where no connection is live. -/
structure Sound (s : Weighted) : Prop where
  nonneg : ∀ device, 0 ≤ (s.threadCountPerDevice device).toInt
  zero : s.live = [] → ∀ device, s.threadCountPerDevice device = 0

end Weighted

/-! ## What the weights are -/

/-- How often the application's value holds the other one's, and 1 at least. -/
def share (table : Fin 2 → Fin 4 → Rat) (device appType : Int) : Int :=
  (arrayIndex 4 device).elim 1 fun col =>
    if appType = 0 then max 1 ⌊table 0 col / table 1 col⌋
    else if appType = 1 then max 1 ⌊table 1 col / table 0 col⌋
    else 1

/-- The table has a column for the device, and an `int` holds the quotient of its two values. -/
def Readable (table : Fin 2 → Fin 4 → Rat) (device : Int) : Prop :=
  ∃ col, arrayIndex 4 device = some col ∧ min (table 0 col) (table 1 col) ≠ 0 ∧
    ⌊max (table 0 col) (table 1 col) / min (table 0 col) (table 1 col)⌋ < 2 ^ 31

/-- The application's own value is `k` times the other one's, or more. -/
def Reaches (table : Fin 2 → Fin 4 → Rat) (device appType k : Int) : Prop :=
  ∃ col, arrayIndex 4 device = some col ∧
    (appType = 0 ∧ (k : Rat) * table 1 col ≤ table 0 col ∨
      appType = 1 ∧ (k : Rat) * table 0 col ≤ table 1 col)

namespace Selection

/-- The value that a selection leaves in `l2_feedback_type`. -/
def type : Selection → L2FeedbackType
  | .exTime => .exTime
  | .util => .util

/-- The table that a selection compares. -/
def table (d : FeedbackData Rat) : Selection → Fin 2 → Fin 4 → Rat
  | .exTime => d.totalExecutionTime
  | .util => d.gpuUtilization

/-- The data that the end of a connection asks for have been received. -/
def Received (d : FeedbackData Rat) : Selection → Prop
  | .exTime => ExTimeReceived d
  | .util => UtilReceived d

instance (d : FeedbackData Rat) : (selection : Selection) → Decidable (selection.Received d)
  | .exTime => inferInstanceAs (Decidable (ExTimeReceived d))
  | .util => inferInstanceAs (Decidable (UtilReceived d))

/-- The data that an assignment asks for have been received. The one by the utilisation takes what
there is. -/
def Asked (d : FeedbackData Rat) (selection : Selection) : Prop :=
  selection = .exTime → selection.Received d

instance (d : FeedbackData Rat) (selection : Selection) : Decidable (selection.Asked d) :=
  inferInstanceAs (Decidable (_ → _))

/-- The weight of an assignment. -/
def given (selection : Selection) (d : FeedbackData Rat) (device appType : Int) : Int :=
  if selection.Asked d then share (selection.table d) device appType else 1

/-- The weight at the end of a connection. -/
def taken (selection : Selection) (d : FeedbackData Rat) (device appType : Int) : Int :=
  if selection.Received d then share (selection.table d) device appType else 1

end Selection

namespace Weighted

/-- When a connection ends, the application's own value is as many times the other one's as it was
in the feedback when its device was assigned, and the weight can be computed. -/
def SameMultiple (selection : Selection) (o : Option Weighted) : WeightEvent → Prop
  | .release id => ∃ s c, o = some s ∧ s.live.find? (fun c => c.id = id) = some c ∧
      (selection.Received s.feedback → Readable (selection.table s.feedback) c.deviceAssigned) ∧
      ∀ k : Int, 2 ≤ k →
        (selection.Received s.feedback ∧
            Reaches (selection.table s.feedback) c.deviceAssigned c.appType k ↔
          selection.Asked c.seen ∧
            Reaches (selection.table c.seen) c.deviceAssigned c.appType k)
  | _ => True

/-- What the connections on a device weigh together. -/
def weightOn (selection : Selection) (live : List Assignment) (device : Int) : Int :=
  (live.map fun c => if c.deviceAssigned = device then
    selection.given c.seen c.deviceAssigned c.appType else 0).sum

/-- The connections on one device weigh less together than an `int` can hold. -/
def Light (selection : Selection) (s : Weighted) : Prop :=
  ∀ device, weightOn selection s.live device < 2 ^ 31

end Weighted

section

variable {table : Fin 2 → Fin 4 → Rat} {device appType w : Int}

/-- The quotient of two times, as an `int` where one can hold it. -/
theorem toInt_eq_some {a b : Rat} :
    toInt a b = some w ↔ (b ≠ 0 ∧ ⌊a / b⌋ < 2 ^ 31) ∧ w = ⌊a / b⌋ := by
  unfold toInt
  split
  · next h =>
    constructor
    · intro h
      cases h
    · intro ⟨⟨hb, hlt⟩, _⟩
      exact absurd h (not_or.mpr ⟨hb, not_le.mpr hlt⟩)
  · next h =>
    obtain ⟨hb, hlt⟩ := not_or.mp h
    rw [Option.some.injEq, eq_comm]
    exact (and_iff_right ⟨hb, not_le.mp hlt⟩).symm

theorem bind_toInt_eq_some {a b : Rat} (f : Int → Int) :
    ((toInt a b).bind fun ratio => some (f ratio)) = some w ↔
      (b ≠ 0 ∧ ⌊a / b⌋ < 2 ^ 31) ∧ w = f ⌊a / b⌋ := by
  constructor
  · intro h
    obtain ⟨ratio, hratio, h⟩ := Option.bind_eq_some_iff.mp h
    obtain ⟨hdefined, rfl⟩ := toInt_eq_some.mp hratio
    exact ⟨hdefined, (Option.some.inj h).symm⟩
  · intro ⟨hdefined, hw⟩
    rw [toInt_eq_some.mpr ⟨hdefined, rfl⟩, hw]
    rfl

/-- The greater application has a ratio of one at least. -/
theorem one_le_floor_div {a b : Rat} (hb : 0 < b) (hle : b ≤ a) : 1 ≤ ⌊a / b⌋ := by
  rw [Int.le_floor, Int.cast_one, one_le_div hb]
  exact hle

/-- The other one has a ratio of one at most. -/
theorem floor_div_le_one {a b : Rat} (hb : 0 < b) (hle : a ≤ b) : ⌊a / b⌋ ≤ 1 := by
  have h := Int.floor_le (a / b)
  have hone : a / b ≤ 1 := (div_le_one hb).mpr hle
  exact_mod_cast h.trans hone

/-- The ratio or one is the application's share, where there is one. -/
theorem ratioOrOne_eq_some (hpos : ∀ row col, 0 ≤ table row col) :
    ratioOrOne table device appType = some w ↔
      Readable table device ∧ w = share table device appType := by
  unfold ratioOrOne Readable share
  cases hcol : arrayIndex 4 device with
  | none => simp
  | some col =>
    simp only [Option.bind_eq_bind, Option.bind_some, Option.some.injEq, exists_eq_left',
      Option.elim_some]
    have h0 := hpos 0 col
    have h1 := hpos 1 col
    split
    · next hle =>
      rw [min_eq_right hle, max_eq_left hle]
      refine (bind_toInt_eq_some fun ratio => if appType = 0 then ratio else 1).trans ?_
      refine and_congr_right fun hpair => ?_
      have hlower : 0 < table 1 col := lt_of_le_of_ne h1 hpair.1.symm
      rw [max_eq_right (one_le_floor_div hlower hle),
        max_eq_left (floor_div_le_one (hlower.trans_le hle) hle), ite_self]
    · next hlt =>
      have hlt := not_le.mp hlt
      rw [min_eq_left hlt.le, max_eq_right hlt.le]
      refine (bind_toInt_eq_some fun ratio => if appType = 1 then ratio else 1).trans ?_
      refine and_congr_right fun hpair => ?_
      have hlower : 0 < table 0 col := lt_of_le_of_ne h0 hpair.1.symm
      rw [max_eq_right (one_le_floor_div hlower hlt.le),
        max_eq_left (floor_div_le_one (hlower.trans hlt) hlt.le)]
      by_cases happ : appType = 0
      · subst happ
        simp
      · rw [if_neg happ]

/-- A share is at least one, also where there is no quotient. -/
theorem one_le_share (table : Fin 2 → Fin 4 → Rat) (device appType : Int) :
    1 ≤ share table device appType := by
  unfold share
  cases arrayIndex 4 device with
  | none => exact le_rfl
  | some col =>
    dsimp only [Option.elim_some]
    split
    · exact le_max_left ..
    · split
      · exact le_max_left ..
      · exact le_rfl

/-- What is added or taken off is the share, once all data have been received, and one before. -/
theorem ratioOnce_eq_some {received : Prop} [Decidable received]
    (hpos : ∀ row col, 0 ≤ table row col) :
    ratioOnce received table device appType = some w ↔ (received → Readable table device) ∧
      w = if received then share table device appType else 1 := by
  unfold ratioOnce
  by_cases h : received
  · rw [if_pos h, if_pos h, ratioOrOne_eq_some hpos]
    exact and_congr_left fun _ => ⟨fun hread _ => hread, fun hread => hread h⟩
  · rw [if_neg h, if_neg h, Option.some.injEq, eq_comm]
    exact (and_iff_right fun hreceived => absurd hreceived h).symm

/-- Where the two values can be divided, neither is zero. -/
theorem Readable.pos (hpos : ∀ row col, 0 ≤ table row col) (h : Readable table device) :
    ∃ col, arrayIndex 4 device = some col ∧ 0 < table 0 col ∧ 0 < table 1 col ∧
      ⌊table 0 col / table 1 col⌋ < 2 ^ 31 ∧ ⌊table 1 col / table 0 col⌋ < 2 ^ 31 := by
  obtain ⟨col, hcol, hne, hlt⟩ := h
  have hmin : 0 < min (table 0 col) (table 1 col) :=
    lt_of_le_of_ne (le_min (hpos 0 col) (hpos 1 col)) hne.symm
  obtain ⟨h0, h1⟩ := lt_min_iff.mp hmin
  refine ⟨col, hcol, h0, h1, ?_⟩
  rcases le_total (table 0 col) (table 1 col) with hle | hle
  · rw [min_eq_left hle, max_eq_right hle] at hlt
    exact ⟨(floor_div_le_one h1 hle).trans_lt (by norm_num), hlt⟩
  · rw [min_eq_right hle, max_eq_left hle] at hlt
    exact ⟨hlt, (floor_div_le_one h0 hle).trans_lt (by norm_num)⟩

/-- Such a share is an `int`. -/
theorem share_lt (hpos : ∀ row col, 0 ≤ table row col) (h : Readable table device) :
    share table device appType < 2 ^ 31 := by
  obtain ⟨col, hcol, -, -, hlt, hlt'⟩ := h.pos hpos
  rw [share, hcol, Option.elim_some]
  split
  · exact max_lt (by norm_num) hlt
  · split
    · exact max_lt (by norm_num) hlt'
    · norm_num

/-- A share is two or more exactly where the application's value is so many times the other one's:
the share is the greatest such multiple. By this the condition of the result can be said in terms of
the feedback, without the weights. -/
theorem le_share_iff (hpos : ∀ row col, 0 ≤ table row col) (h : Readable table device) {k : Int}
    (hk : 2 ≤ k) : k ≤ share table device appType ↔ Reaches table device appType k := by
  obtain ⟨col, hcol, h0, h1, -⟩ := h.pos hpos
  have hmax : ∀ x : Int, k ≤ max 1 x ↔ k ≤ x := fun x => by omega
  simp only [share, Reaches, hcol, Option.elim_some, Option.some.injEq, exists_eq_left']
  split
  · next happ =>
    subst happ
    rw [hmax, Int.le_floor, le_div_iff₀ h1]
    simp
  · next happ =>
    split
    · next happ' =>
      subst happ'
      rw [hmax, Int.le_floor, le_div_iff₀ h0]
      simp
    · next happ' =>
      refine iff_of_false (by omega) ?_
      rintro (⟨heq, -⟩ | ⟨heq, -⟩)
      · exact happ heq
      · exact happ' heq

/-- Two weights are the same if they are the same multiples. -/
theorem eq_iff_same_multiples {a b : Int} (ha : 1 ≤ a) (hb : 1 ≤ b) :
    a = b ↔ ∀ k : Int, 2 ≤ k → (k ≤ a ↔ k ≤ b) := by
  constructor
  · rintro rfl k -
    exact Iff.rfl
  · intro h
    refine le_antisymm (not_lt.mp fun hlt => ?_) (not_lt.mp fun hlt => ?_)
    · exact absurd ((h a (by omega)).mp le_rfl) (not_le.mpr hlt)
    · exact absurd ((h b (by omega)).mpr le_rfl) (not_le.mpr hlt)

/-- Every assignment adds something. -/
theorem Selection.one_le_given (selection : Selection) (d : FeedbackData Rat)
    (device appType : Int) : 1 ≤ selection.given d device appType := by
  unfold given
  split
  · exact one_le_share ..
  · exact le_rfl

/-- And every end takes something off. -/
theorem Selection.one_le_taken (selection : Selection) (d : FeedbackData Rat)
    (device appType : Int) : 1 ≤ selection.taken d device appType := by
  unfold taken
  split
  · exact one_le_share ..
  · exact le_rfl

end

namespace Weighted

section

variable {selection : Selection} {s t : Weighted} {o : Option Weighted} {e : WeightEvent}
  {es : List WeightEvent} {id : Nat} {device appType : Int}

/-- A selection adds the weight to the load of the device it returns, where the weight can be
computed. -/
theorem select_cases (hpos : ∀ row col, 0 ≤ selection.table s.feedback row col)
    (h : s.select appType selection = some (device, t)) :
    (selection.Asked s.feedback → Readable (selection.table s.feedback) device) ∧
      t = { s with l2FeedbackType := selection.type }.add device
        (selection.given s.feedback device appType) := by
  cases selection with
  | exTime =>
    obtain ⟨min, -, h⟩ := Option.bind_eq_some_iff.mp h
    obtain ⟨amount, hamount, h⟩ := Option.bind_eq_some_iff.mp h
    obtain ⟨hread, rfl⟩ := (ratioOnce_eq_some hpos).mp hamount
    cases h
    have hasked : Selection.exTime.Asked s.feedback ↔ ExTimeReceived s.feedback :=
      ⟨fun h => h rfl, fun h _ => h⟩
    refine ⟨fun h => hread (hasked.mp h), ?_⟩
    simp only [Selection.given, hasked]
    rfl
  | util =>
    obtain ⟨min, -, h⟩ := Option.bind_eq_some_iff.mp h
    obtain ⟨amount, hamount, h⟩ := Option.bind_eq_some_iff.mp h
    obtain ⟨hread, rfl⟩ := (ratioOrOne_eq_some hpos).mp hamount
    cases h
    exact ⟨fun _ => hread, rfl⟩

/-- The end of a connection, where the weight can be computed. -/
theorem map_ratioOnce_eq_some {received : Prop} [Decidable received]
    {table : Fin 2 → Fin 4 → Rat} (hpos : ∀ row col, 0 ≤ table row col) :
    ((ratioOnce received table device appType).map fun amount => s.add device (-amount)) = some t ↔
      (received → Readable table device) ∧
        t = s.add device (-(if received then share table device appType else 1)) := by
  constructor
  · intro h
    obtain ⟨amount, hamount, rfl⟩ := Option.map_eq_some_iff.mp h
    obtain ⟨hread, rfl⟩ := (ratioOnce_eq_some hpos).mp hamount
    exact ⟨hread, rfl⟩
  · intro ⟨hread, ht⟩
    rw [(ratioOnce_eq_some hpos).mpr ⟨hread, rfl⟩, ht]
    rfl

/-- The end of a connection takes the weight off its device, if the weight can be computed. It is
computed from the feedback there is then. -/
theorem decThreadCountPerDevice_eq_some (hpos : ∀ row col, 0 ≤ selection.table s.feedback row col)
    (htype : s.l2FeedbackType = selection.type) (device appType : Int) (t : Weighted) :
    s.decThreadCountPerDevice device appType = some t ↔
      (selection.Received s.feedback → Readable (selection.table s.feedback) device) ∧
        t = s.add device (-(selection.taken s.feedback device appType)) := by
  unfold decThreadCountPerDevice
  rw [htype]
  cases selection with
  | exTime => exact map_ratioOnce_eq_some hpos
  | util => exact map_ratioOnce_eq_some hpos

/-! ## Runs -/

/-- What a connection has been assigned by: feedback that gives a weight, which has been added. -/
structure Weighed (selection : Selection) (c : Assignment) : Prop where
  nonneg : ∀ row col, 0 ≤ selection.table c.seen row col
  readable : selection.Asked c.seen → Readable (selection.table c.seen) c.deviceAssigned
  added : c.added = .ofInt (selection.given c.seen c.deviceAssigned c.appType)

/-- What holds in every state. -/
structure Kept (selection : Selection) (s : Weighted) : Prop where
  nonneg : ∀ row col, 0 ≤ selection.table s.feedback row col
  type : ∀ c ∈ s.live, s.l2FeedbackType = selection.type
  weighed : ∀ c ∈ s.live, Weighed selection c
  distinct : s.live.Pairwise fun c c' => c.id ≠ c'.id

/-- Times and utilisations are not negative, whatever is stored. -/
theorem put_nonneg {table : Fin 2 → Fin 4 → Rat} {value : Rat} (h : ∀ row col, 0 ≤ table row col)
    (hvalue : 0 ≤ value) (i : Fin 2) (j : Fin 4) (row : Fin 2) (col : Fin 4) :
    0 ≤ put table i j value row col := by
  unfold put
  by_cases hrow : row = i
  · subst hrow
    rw [Function.update_self]
    by_cases hcol : col = j
    · rw [hcol, Function.update_self]
      exact hvalue
    · rw [Function.update_of_ne hcol]
      exact h row col
  · rw [Function.update_of_ne hrow]
    exact h row col

/-- The weight that has been added is an `int`. -/
theorem Weighed.given_lt {c : Assignment} (h : Weighed selection c) :
    selection.given c.seen c.deviceAssigned c.appType < 2 ^ 31 := by
  unfold Selection.given
  split
  · next hasked => exact share_lt h.nonneg (h.readable hasked)
  · norm_num

/-- What a connection has added is the weight of its assignment. -/
theorem Weighed.added_toInt {c : Assignment} (h : Weighed selection c) :
    c.added.toInt = selection.given c.seen c.deviceAssigned c.appType := by
  have hone := selection.one_le_given c.seen c.deviceAssigned c.appType
  have hlt := h.given_lt
  rw [h.added, Int32.toInt_ofInt_of_le] <;> omega

/-- Nothing has been assigned. -/
theorem start_kept (selection : Selection) : start.Kept selection := by
  refine ⟨fun row col => ?_, fun c hc => ?_, fun c hc => ?_, .nil⟩
  · cases selection with
    | exTime => exact le_rfl
    | util =>
      show (0 : Rat) ≤ if col = 0 then ((1 : Int) : Rat) else ((0 : Int) : Rat)
      split <;> norm_num
  · cases hc
  · cases hc

/-- An assignment: the device is loaded with the weight, which the connection remembers. -/
theorem serve_assign {backendDevices : Int} (h : s.Kept selection)
    (hserve : s.serve selection (.assign id backendDevices appType) = some t) :
    ∃ c, t.live = s.live ++ [c] ∧ c.id = id ∧ Weighed selection c ∧
      t.threadCountPerDevice = Function.update s.threadCountPerDevice c.deviceAssigned
        (s.threadCountPerDevice c.deviceAssigned + c.added) ∧
      t.feedback = s.feedback ∧ t.l2FeedbackType = selection.type := by
  obtain ⟨⟨device, u⟩, hselect, rfl⟩ := Option.map_eq_some_iff.mp hserve
  obtain ⟨hread, rfl⟩ := select_cases (s := { s with backendDevices := backendDevices }) h.nonneg
    hselect
  have hadded : s.threadCountPerDevice device +
      .ofInt (selection.given s.feedback device appType) - s.threadCountPerDevice device =
        .ofInt (selection.given s.feedback device appType) := by
    rw [Int32.add_comm, Int32.add_sub_cancel]
  refine ⟨_, rfl, rfl, ⟨h.nonneg, hread, ?_⟩, ?_, rfl, rfl⟩
  · simp only [add, Function.update_self]
    exact hadded
  · simp only [add, Function.update_self]
    rw [hadded]
    rfl

/-- The step lemma: each connection has added the weight that it had by the feedback of its
assignment. -/
theorem Kept.serve (h : s.Kept selection) (ha : s.Admissible e)
    (hserve : s.serve selection e = some t) : t.Kept selection := by
  cases e with
  | assign id backendDevices appType =>
    obtain ⟨c, hlive, hid, hweighed, -, hfeedback, htype⟩ := serve_assign h hserve
    refine ⟨hfeedback ▸ h.nonneg, fun _ _ => htype, ?_, ?_⟩
    · rw [hlive]
      intro c' hc
      rcases List.mem_append.mp hc with hc | hc
      · exact h.weighed c' hc
      · rw [List.mem_singleton.mp hc]
        exact hweighed
    · rw [hlive, List.pairwise_append]
      refine ⟨h.distinct, List.pairwise_singleton .., fun c' hc c'' hc' => ?_⟩
      rw [List.mem_singleton.mp hc', hid]
      exact ha c' hc
  | feedback row col exTime util nonKernel =>
    cases hserve
    obtain ⟨hex, hutil, -⟩ := ha
    refine ⟨?_, h.type, h.weighed, h.distinct⟩
    cases selection with
    | exTime => exact put_nonneg h.nonneg hex row col
    | util => exact put_nonneg h.nonneg hutil row col
  | release id =>
    obtain ⟨c, hc, hserve⟩ := Option.bind_eq_some_iff.mp hserve
    obtain ⟨u, hu, hserve⟩ := Option.bind_eq_some_iff.mp hserve
    cases hserve
    have hmem := List.mem_of_find?_eq_some hc
    obtain ⟨-, rfl⟩ := (decThreadCountPerDevice_eq_some h.nonneg (h.type c hmem) _ _ u).mp hu
    refine ⟨h.nonneg, fun _ _ => h.type c hmem, fun c' hc' => ?_, h.distinct.filter _⟩
    exact h.weighed c' (List.mem_filter.mp hc').1

/-- An event leads to one state. -/
theorem Step.det {u v : Option Weighted} (h : Step selection o e u) (h' : Step selection o e v) :
    u = v := by
  obtain ⟨_, rfl⟩ := h
  obtain ⟨_, rfl⟩ := h'
  rfl

/-- The end of a connection. -/
theorem serve_release {c : Assignment} (h : s.Kept selection)
    (hc : s.live.find? (fun c => c.id = id) = some c) :
    s.serve selection (.release id) = some t ↔
      (selection.Received s.feedback → Readable (selection.table s.feedback) c.deviceAssigned) ∧
        t = { s.add c.deviceAssigned
          (-(selection.taken s.feedback c.deviceAssigned c.appType)) with
            live := s.live.filter fun c => c.id ≠ id } := by
  have hdec := decThreadCountPerDevice_eq_some h.nonneg (h.type c (List.mem_of_find?_eq_some hc))
    c.deviceAssigned c.appType
  constructor
  · intro hserve
    obtain ⟨_, hc', hserve⟩ := Option.bind_eq_some_iff.mp hserve
    obtain rfl := Option.some.inj (hc.symm.trans hc')
    obtain ⟨u, hu, hserve⟩ := Option.bind_eq_some_iff.mp hserve
    obtain ⟨hread, rfl⟩ := (hdec u).mp hu
    exact ⟨hread, (Option.some.inj hserve).symm⟩
  · intro ⟨hread, ht⟩
    rw [serve, hc, Option.bind_eq_bind, Option.bind_some, (hdec _).mpr ⟨hread, rfl⟩, ht]
    rfl

/-- The weight at the end of a connection is the one of its assignment exactly where the values are
the same multiples. -/
theorem taken_eq_given_iff {c : Assignment} (h : s.Kept selection) (hc : c ∈ s.live)
    (hread : selection.Received s.feedback →
      Readable (selection.table s.feedback) c.deviceAssigned) :
    selection.taken s.feedback c.deviceAssigned c.appType =
        selection.given c.seen c.deviceAssigned c.appType ↔
      ∀ k : Int, 2 ≤ k →
        (selection.Received s.feedback ∧
            Reaches (selection.table s.feedback) c.deviceAssigned c.appType k ↔
          selection.Asked c.seen ∧
            Reaches (selection.table c.seen) c.deviceAssigned c.appType k) := by
  have hweighed := h.weighed c hc
  rw [eq_iff_same_multiples (selection.one_le_taken ..) (selection.one_le_given ..)]
  refine forall_congr' fun k => forall_congr' fun hk => iff_congr ?_ ?_
  · unfold Selection.taken
    split
    · next hreceived =>
      exact (le_share_iff h.nonneg (hread hreceived) hk).trans (and_iff_right hreceived).symm
    · next hreceived => exact iff_of_false (by omega) fun hand => hreceived hand.1
  · unfold Selection.given
    split
    · next hasked =>
      exact (le_share_iff hweighed.nonneg (hweighed.readable hasked) hk).trans
        (and_iff_right hasked).symm
    · next hasked => exact iff_of_false (by omega) fun hand => hasked hand.1

/-- The load of each device is what the connections on it weigh together. -/
def Balanced (selection : Selection) (s : Weighted) : Prop :=
  ∀ device, (s.threadCountPerDevice device).toInt = weightOn selection s.live device

/-- The weights on a device are added up, connection by connection. -/
theorem weightOn_cons (c : Assignment) (live : List Assignment) (device : Int) :
    weightOn selection (c :: live) device =
      (if c.deviceAssigned = device then selection.given c.seen c.deviceAssigned c.appType else 0) +
        weightOn selection live device := by
  rw [weightOn, List.map_cons, List.sum_cons, weightOn]

/-- In whatever order. -/
theorem weightOn_concat (live : List Assignment) (c : Assignment) (device : Int) :
    weightOn selection (live ++ [c]) device = weightOn selection live device +
      if c.deviceAssigned = device then selection.given c.seen c.deviceAssigned c.appType
      else 0 := by
  rw [weightOn, List.map_append, List.sum_append, List.map_singleton, List.sum_singleton, weightOn]

/-- A connection that ends takes its weight with it. -/
theorem weightOn_release {live : List Assignment} {c : Assignment}
    (hdistinct : live.Pairwise fun c c' => c.id ≠ c'.id) (hc : c ∈ live) (device : Int) :
    weightOn selection live device =
      weightOn selection (live.filter fun c' => c'.id ≠ c.id) device +
        if c.deviceAssigned = device then selection.given c.seen c.deviceAssigned c.appType
        else 0 := by
  induction live with
  | nil => cases hc
  | cons c' live ih =>
    obtain ⟨hhead, htail⟩ := List.pairwise_cons.mp hdistinct
    rcases List.mem_cons.mp hc with rfl | hc
    · have hall : live.filter (fun c' => c'.id ≠ c.id) = live := by
        apply List.filter_eq_self.mpr
        intro c' hc'
        exact decide_eq_true (hhead c' hc').symm
      rw [List.filter_cons_of_neg (by simp), hall, weightOn_cons, add_comm]
    · rw [List.filter_cons_of_pos (by simpa using hhead c hc), weightOn_cons, weightOn_cons,
        ih htail hc]
      omega

/-- Together the connections weigh something, or nothing. -/
theorem weightOn_nonneg (live : List Assignment) (device : Int) :
    0 ≤ weightOn selection live device := by
  apply List.sum_nonneg
  intro w hw
  obtain ⟨c, hc, rfl⟩ := List.mem_map.mp hw
  split
  · exact zero_le_one.trans (selection.one_le_given ..)
  · exact le_rfl

/-- A load that is not negative has not wrapped around, and neither has one whose weights an `int`
can hold: it has become greater by the weight. -/
theorem toInt_add_weight {load weight : Int32} (hload : 0 ≤ load.toInt) (hweight : 0 ≤ weight.toInt)
    (h : 0 ≤ (load + weight).toInt ∨ load.toInt + weight.toInt < 2 ^ 31) :
    (load + weight).toInt = load.toInt + weight.toInt := by
  have hloadLt := Int32.toInt_lt load
  have hweightLt := Int32.toInt_lt weight
  rw [Int32.toInt_add] at h ⊢
  by_cases hlt : load.toInt + weight.toInt < 2 ^ 31
  · rw [Int.bmod_eq_of_le] <;> omega
  · -- the sum would have wrapped around to a negative one
    have hwrap : (load.toInt + weight.toInt).bmod (2 ^ 32) =
        load.toInt + weight.toInt - 2 ^ 32 := by
      rw [← Int.sub_bmod_right, Int.bmod_eq_of_le] <;> omega
    omega

/-- The loads stay balanced with a step that gives back what it should, if the load of no device
wraps around. -/
theorem Balanced.serve (hb : s.Balanced selection) (h : s.Kept selection)
    (hsame : SameMultiple selection (some s) e) (hserve : s.serve selection e = some t)
    (hfits : t.Sound ∨ t.Light selection) : t.Balanced selection := by
  intro device
  cases e with
  | assign id backendDevices appType =>
    obtain ⟨c, hlive, -, hweighed, hcount, -, -⟩ := serve_assign h hserve
    rw [hlive, hcount, weightOn_concat]
    by_cases hd : c.deviceAssigned = device
    · subst hd
      have hload := hb c.deviceAssigned
      have hnonneg : 0 ≤ weightOn selection s.live c.deviceAssigned := weightOn_nonneg ..
      have hone := selection.one_le_given c.seen c.deviceAssigned c.appType
      have hadded := hweighed.added_toInt
      rw [Function.update_self, if_pos rfl, toInt_add_weight, hload, hadded]
      · omega
      · omega
      · rcases hfits with hsound | hlight
        · have hafter := hsound.nonneg c.deviceAssigned
          rw [hcount, Function.update_self] at hafter
          exact .inl hafter
        · have hafter := hlight c.deviceAssigned
          rw [hlive, weightOn_concat, if_pos rfl] at hafter
          exact .inr (by omega)
    · rw [Function.update_of_ne (Ne.symm hd), hb, if_neg hd, add_zero]
  | feedback row col exTime util nonKernel =>
    cases hserve
    exact hb device
  | release id =>
    obtain ⟨_, c, hs, hc, hread, hsame⟩ := hsame
    obtain rfl := Option.some.inj hs
    have hmem := List.mem_of_find?_eq_some hc
    have hid : c.id = id := by simpa using List.find?_some hc
    obtain ⟨-, rfl⟩ := (serve_release h hc).mp hserve
    have hrelease : weightOn selection s.live device = _ :=
      weightOn_release h.distinct hmem device
    have hweighed := h.weighed c hmem
    subst hid
    rw [(taken_eq_given_iff h hmem hread).mpr hsame]
    show (Function.update s.threadCountPerDevice c.deviceAssigned
        (s.threadCountPerDevice c.deviceAssigned +
          .ofInt (-(selection.given c.seen c.deviceAssigned c.appType))) device).toInt =
      weightOn selection (s.live.filter fun c' => c'.id ≠ c.id) device
    by_cases hd : c.deviceAssigned = device
    · subst hd
      have hload := hb c.deviceAssigned
      have hloadLt := Int32.toInt_lt (s.threadCountPerDevice c.deviceAssigned)
      have hone := selection.one_le_given c.seen c.deviceAssigned c.appType
      have hleft : 0 ≤ weightOn selection (s.live.filter fun c' => c'.id ≠ c.id)
        c.deviceAssigned := weightOn_nonneg ..
      have hlt := hweighed.given_lt
      rw [if_pos rfl] at hrelease
      rw [Function.update_self, Int32.toInt_add, Int32.toInt_ofInt_of_le (by omega) (by omega),
        Int.bmod_eq_of_le] <;> omega
    · rw [if_neg hd] at hrelease
      rw [Function.update_of_ne (Ne.symm hd), hb]
      omega

/-- A load that is what its connections weigh is not negative, and zero where there are none. -/
theorem Balanced.sound (hb : s.Balanced selection) : s.Sound := by
  constructor
  · intro device
    rw [hb device]
    exact weightOn_nonneg s.live device
  · intro hlive device
    have hzero : (s.threadCountPerDevice device).toInt = (0 : Int32).toInt := by
      rw [hb device, hlive]
      rfl
    exact Int32.toInt_inj.mp hzero

end

/-- All execution times are received: those of the first application are three times those of the
other one. -/
def threefold : List (Fin 2 × Fin 4 × Rat) :=
  [(0, 0, 3), (0, 1, 3), (0, 2, 3), (0, 3, 3), (1, 0, 1), (1, 1, 1), (1, 2, 1), (1, 3, 1)]

section

variable {d : FeedbackData Rat} {count : Int32} {live : List Assignment} {id : Nat}
  {appType w : Int}

end

/-- The feedback after all execution times have been received. -/
def received : FeedbackData Rat :=
  threefold.foldl (fun d (row, col, exTime) => receive d row col exTime 1 0) .start

end Weighted

end GpuVirtmem.GlobalSched
