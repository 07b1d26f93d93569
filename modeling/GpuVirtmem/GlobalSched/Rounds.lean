import GpuVirtmem.GlobalSched.GetDevice
import Mathlib.Data.Rat.Defs

/-!
# The rounds of the round robin (`remote/remote_api_wrapper.c`)

The device that a request is answered with has been fixed by the counts of the requests before it:
the count of a request only becomes the modulus for the next one. So a device exists for each
request when the requests fall into rounds that suit their counts.

The condition looks at the counts of the requests alone (`InRounds`). Within a round a count may
grow, and it may fall as long as the turn has not come so far; what it may not do is to fall below
the device that the request before has fixed.
-/

namespace GpuVirtmem.GlobalSched

open Lib Remote

/-- The counts, from the request with number `j` of its round on, suit the round robin: each is
above the number of its request, and a round is over with the count that is one above it. A count
that does not fit an `int` is cut first. -/
inductive InRounds : Int → List Int → Prop
  | done (j : Int) : InRounds j []
  | goesOn {j c : Int} {cs : List Int} :
      j + 1 < c → c < 2 ^ 31 → InRounds (j + 1) cs → InRounds j (c :: cs)
  | ends {j : Int} {cs : List Int} : j + 1 < 2 ^ 31 → InRounds 0 cs → InRounds j ((j + 1) :: cs)
  | cut {j c : Int} {cs : List Int} :
      2 ^ 31 ≤ c → j + 1 < 2 ^ 31 → asInt c.toNat ≠ 0 →
        InRounds ((j + 1).tmod (asInt c.toNat)) cs → InRounds j (c :: cs)

/-- A count of devices fits an `int`. -/
theorem asInt_toNat {c : Int} (h0 : 0 ≤ c) (hlt : c < 2 ^ 31) : asInt c.toNat = c := by
  rw [asInt, BitVec.toInt_ofNat', Int.bmod_eq_of_le] <;> omega

/-- The number of the next request, whether its round goes on, ends or meets a count that is cut. -/
theorem inRounds_cons_iff {j c : Int} (cs : List Int) (hj : 0 ≤ j) (hc : 0 < c) :
    InRounds j (c :: cs) ↔ j < c ∧ asInt c.toNat ≠ 0 ∧ j + 1 < 2 ^ 31 ∧
      InRounds ((j + 1).tmod (asInt c.toNat)) cs := by
  constructor
  · intro h
    cases h with
    | goesOn hlt hint h =>
      rw [asInt_toNat hc.le hint, Int.tmod_eq_of_lt (by omega) hlt]
      exact ⟨by omega, by omega, by omega, h⟩
    | ends hint h =>
      rw [asInt_toNat hc.le hint, Int.tmod_self]
      exact ⟨by omega, by omega, hint, h⟩
    | cut hwide hint hne h => exact ⟨by omega, hne, hint, h⟩
  · intro ⟨hlt, hne, hint, h⟩
    by_cases hwide : 2 ^ 31 ≤ c
    · exact .cut hwide hint hne h
    · rw [asInt_toNat hc.le (by omega)] at h
      by_cases hends : c = j + 1
      · subst hends
        rw [Int.tmod_self] at h
        exact .ends hint h
      · have hlt : j + 1 < c := by omega
        rw [Int.tmod_eq_of_lt (by omega) hlt] at h
        exact .goesOn hlt (by omega) h

namespace Scheduler

section

variable {F : Type} [Add F] [Mul F] [Div F] [IntCast F] [OfScientific F]

/-- A request from some client, in the build without the feedback, as long as the process has not
ended. -/
inductive Step : Option (Scheduler F) → Nat × L2Packet F → Option (Scheduler F) → Prop
  | request {s : Scheduler F} {id : Nat} {packet : L2Packet F} {o : Option (Scheduler F)} :
      0 < packet.args0.argi → (s.nvbackCudaGetDeviceSrv false id packet).map Prod.snd = o →
        Step (some s) (id, packet) o

/-- The request is answered with a device below the count that it has announced. -/
def AssignsExisting (o : Option (Scheduler F)) (q : Nat × L2Packet F) : Prop :=
  ∃ s answer t, o = some s ∧ s.nvbackCudaGetDeviceSrv false q.1 q.2 = some (answer, t) ∧
    0 ≤ answer.args0.argi ∧ answer.args0.argi < q.2.args0.argi

/-- The counts that the requests announce. -/
def counts (qs : List (Nat × L2Packet F)) : List Int := qs.map fun q => q.2.args0.argi

variable {s : Scheduler F} {o : Option (Scheduler F)} {id : Nat} {packet : L2Packet F}
  {qs : List (Nat × L2Packet F)}

/-- A device exists for the request exactly when its turn is below the count, and the modulus is not
zero. -/
theorem assignsExisting_iff (hs : 0 ≤ s.loads.devRR) :
    AssignsExisting (some s) (id, packet) ↔ s.loads.devRR < packet.args0.argi ∧
      packet.backendDevices ≠ 0 ∧ s.loads.devRR + 1 < 2 ^ 31 := by
  constructor
  · intro ⟨_, answer, t, hs', h, _, hlt⟩
    obtain rfl := Option.some.inj hs'
    obtain ⟨hne, hint, rfl, -⟩ := nvbackCudaGetDeviceSrv_cases h
    rw [packet.withDevice_argi hs (by omega)] at hlt
    exact ⟨hlt, hne, hint⟩
  · intro ⟨hlt, hne, hint⟩
    obtain ⟨answer, t, h⟩ := nvbackCudaGetDeviceSrv_exists id hne hint
    obtain ⟨-, -, rfl, -⟩ := nvbackCudaGetDeviceSrv_cases h
    have hdevice := packet.withDevice_argi hs (by omega)
    exact ⟨s, _, t, rfl, h, hs.trans_eq hdevice.symm, hdevice.trans_lt hlt⟩

/-- A request leads to one state. -/
theorem Step.det {o u v : Option (Scheduler F)} {q : Nat × L2Packet F} (h : Step o q u)
    (h' : Step o q v) : u = v := by
  obtain ⟨_, rfl⟩ := h
  obtain ⟨_, rfl⟩ := h'
  rfl

/-- What a request leaves as the next turn. -/
theorem exists_step (id : Nat) (hpos : 0 < packet.args0.argi) (hne : packet.backendDevices ≠ 0)
    (hlt : s.loads.devRR + 1 < 2 ^ 31) : ∃ t, Step (some s) (id, packet) (some t) ∧
      t.loads.devRR = (s.loads.devRR + 1).tmod packet.backendDevices := by
  obtain ⟨answer, t, h⟩ := nvbackCudaGetDeviceSrv_exists id hne hlt
  obtain ⟨-, -, -, hnext⟩ := nvbackCudaGetDeviceSrv_cases h
  exact ⟨t, ⟨hpos, by rw [h]; rfl⟩, hnext⟩

/-- From any number in a round on, the requests of a run are answered with devices that exist
exactly when they go on in rounds that suit their counts. By induction on the run, with the number
in the round as the state. -/
theorem inRounds_iff {j : Int} (hj : 0 ≤ j) (hs : s.loads.devRR = j) (r : Run Step (some s) qs o) :
    EachStep Step (some s) qs AssignsExisting ↔ InRounds j (counts qs) := by
  induction qs generalizing s j with
  | nil =>
    refine ⟨fun _ => .done j, fun _ before q t hpre => ?_⟩
    exact absurd (List.prefix_nil.mp hpre) (List.concat_ne_nil q before)
  | cons q qs ih =>
    subst hs
    obtain ⟨u, h, ru⟩ := r.first
    have hstep := h
    obtain ⟨hpos, -⟩ := h
    rename_i id packet
    have hrounds := inRounds_cons_iff (counts qs) hj hpos
    rw [eachStep_cons_iff, assignsExisting_iff hj]
    show _ ↔ InRounds _ (packet.args0.argi :: counts qs)
    rw [hrounds, ← L2Packet.backendDevices_eq hpos, and_assoc, and_assoc]
    refine and_congr_right fun hlt => and_congr_right fun hne => and_congr_right fun hint => ?_
    obtain ⟨t, ht, hnext⟩ := exists_step id hpos hne hint
    obtain rfl := hstep.det ht
    have hrest := ih (Int.tmod_nonneg _ (by omega)) hnext ru
    refine ⟨fun hall => hrest.mp (hall _ hstep), fun hin v hv => ?_⟩
    obtain rfl := hstep.det hv
    exact hrest.mpr hin

/-- In every run a device exists for each request exactly when the requests fall into rounds that
suit their counts.

A device that is assigned was fixed by the request before, with the count of that request as the
modulus. Read backwards, the counts of a run fall into rounds, and this is the exact condition. -/
theorem device_exists_iff (hs : s.loads.devRR = 0) (r : Run Step (some s) qs o) :
    EachStep Step (some s) qs AssignsExisting ↔ InRounds 0 (counts qs) :=
  inRounds_iff le_rfl hs r

end

/-- A client that knows of so many devices asks for one. -/
def asksFor (count : UInt64) : Nat × L2Packet Rat :=
  (1, withoutFeedback (Interposer.rcudaGetDevice 0 count 0 0))

/-- It is answered, and the turn goes on. -/
theorem exists_asksFor (count : UInt64) {s : Scheduler Rat} {j : Int} (hs : s.loads.devRR = j)
    (hj : j + 1 < 2 ^ 31) (hpos : 0 < (asksFor count).2.args0.argi)
    (hne : (asksFor count).2.backendDevices ≠ 0) : ∃ t, Step (some s) (asksFor count) (some t) ∧
      t.loads.devRR = (j + 1).tmod (asksFor count).2.backendDevices := by
  subst hs
  exact exists_step 1 hpos hne hj

/-- Four requests of clients that know of four devices, then two of clients that know of two. -/
def twoRounds : List (Nat × L2Packet Rat) :=
  [asksFor 4, asksFor 4, asksFor 4, asksFor 4, asksFor 2, asksFor 2]

/-- Where the counts change between two rounds, all devices exist. -/
theorem device_exists_iff_twoRounds : ∃ o, Run Step (some (start [⟨1, none⟩])) twoRounds o ∧
    EachStep Step (some (start [⟨1, none⟩])) twoRounds AssignsExisting := by
  have hzero : (start [⟨1, none⟩] : Scheduler Rat).loads.devRR = 0 := rfl
  obtain ⟨s₁, h₁, hs₁⟩ := exists_asksFor 4 hzero (by decide) (by decide) (by decide)
  obtain ⟨s₂, h₂, hs₂⟩ := exists_asksFor 4 hs₁ (by decide) (by decide) (by decide)
  obtain ⟨s₃, h₃, hs₃⟩ := exists_asksFor 4 hs₂ (by decide) (by decide) (by decide)
  obtain ⟨s₄, h₄, hs₄⟩ := exists_asksFor 4 hs₃ (by decide) (by decide) (by decide)
  obtain ⟨s₅, h₅, hs₅⟩ := exists_asksFor 2 hs₄ (by decide) (by decide) (by decide)
  obtain ⟨s₆, h₆, -⟩ := exists_asksFor 2 hs₅ (by decide) (by decide) (by decide)
  have r : Run Step (some (start [⟨1, none⟩])) twoRounds (some s₆) :=
    .cons h₁ (.cons h₂ (.cons h₃ (.cons h₄ (.cons h₅ (.cons h₆ .start)))))
  refine ⟨_, r, (device_exists_iff hzero r).mpr ?_⟩
  show InRounds 0 [4, 4, 4, 3 + 1, 2, 1 + 1]
  refine .goesOn (by decide) (by decide) (.goesOn (by decide) (by decide) ?_)
  refine .goesOn (by decide) (by decide) (.ends (by decide) ?_)
  exact .goesOn (by decide) (by decide) (.ends (by decide) (.done 0))

/-- Three requests of clients that know of four devices, then one of a client that knows of two. -/
def fourThenTwo : List (Nat × L2Packet Rat) := [asksFor 4, asksFor 4, asksFor 4] ++ [asksFor 2]

/-- The last client is given device 3. -/
theorem device_of_larger_count : ∃ o, Run Step (some (start [⟨1, none⟩])) fourThenTwo o ∧
    ¬ EachStep Step (some (start [⟨1, none⟩])) fourThenTwo AssignsExisting := by
  have hzero : (start [⟨1, none⟩] : Scheduler Rat).loads.devRR = 0 := rfl
  obtain ⟨s₁, h₁, hs₁⟩ := exists_asksFor 4 hzero (by decide) (by decide) (by decide)
  obtain ⟨s₂, h₂, hs₂⟩ := exists_asksFor 4 hs₁ (by decide) (by decide) (by decide)
  obtain ⟨s₃, h₃, hs₃⟩ := exists_asksFor 4 hs₂ (by decide) (by decide) (by decide)
  have hthree : s₃.loads.devRR = 3 := hs₃
  have r : Run Step (some (start [⟨1, none⟩])) [asksFor 4, asksFor 4, asksFor 4] (some s₃) :=
    ((Run.start.cons h₃).cons h₂).cons h₁
  refine ⟨_, r.snoc ⟨by decide, rfl⟩, fun hall => ?_⟩
  have hexists := hall _ (asksFor 2) _ List.prefix_rfl r
  have hlt := ((assignsExisting_iff (hthree ▸ by decide)).mp hexists).1
  rw [hthree] at hlt
  exact absurd hlt (by decide)

end Scheduler

end GpuVirtmem.GlobalSched
