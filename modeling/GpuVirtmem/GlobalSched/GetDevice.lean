import GpuVirtmem.GlobalSched.LoadCount
import GpuVirtmem.Interposer.Calls
import GpuVirtmem.Sched.Table

/-!
# The assignment of devices (`remote/remote_api_wrapper.c`)

One handler serves the requests for a device and, in a build with `L2_FEEDBACK_ENABLED`, the packets
with the feedback about a process that has ended. A request announces how many devices the client
knows of, which becomes the modulus of the round robin for all clients.

The state of the scheduler is what its threads share: the round robin, the loads, the table of
connections and the feedback. A request is one step on it. Of the selections that the source has,
the round robin is the one that the handler calls; the calls of the others (`Balance`, `Shares`,
`SecondBest`, `Weights`) are commented out there, one line for each.

The floats of the feedback are those of a type `F` with the operations that the source uses. Nothing
is assumed about them: what is stored is whatever these give.
-/

namespace GpuVirtmem.GlobalSched

open Lib Remote Interposer
open Sched (Timeval)

/-- `cuda_packet_t` with the fields for the feedback to the second scheduler. -/
structure L2Packet (F : Type) extends CudaPacket where
  isFeedbackPacket : Int
  node : Int
  devid : Int
  appType : Int
  totalExTime : F
  sysTime : F
  usrTime : F
  cudaKernelLaunches : Int
  kernelTime : Timeval
  nonKernelTime : Timeval

/-- The feedback data: `rowid = app_id, colid = gpuid`. -/
structure FeedbackData (F : Type) where
  gpuUtilization : Fin 2 → Fin 4 → F
  memAsyncUtilization : Fin 4 → F
  totalExecutionTime : Fin 2 → Fin 4 → F
  kernelLaunchCount : Fin 2 → Fin 4 → F
  totalKernelTime : Fin 2 → Fin 4 → F
  nonKernelTime : Fin 2 → Fin 4 → F
  sysTime : Fin 2 → Fin 4 → F
  usrTime : Fin 2 → Fin 4 → F
  threadCountMemAsync : Fin 2 → Fin 4 → Int

/-- The static variables of the global scheduler. -/
structure Scheduler (F : Type) where
  loads : Loads
  backendDevices : Int
  feedback : FeedbackData F

/-- `get_gpu_index`. -/
def getGpuIndex (node devid : Int) : Int := 2 * node + devid

/-- An index of an array of `n` entries. -/
def arrayIndex (n : Nat) (i : Int) : Option (Fin n) :=
  if h : 0 ≤ i ∧ i.toNat < n then some ⟨i.toNat, h.2⟩ else none

/-- The tables have rows. -/
instance neZeroRows : NeZero 2 := ⟨Nat.succ_ne_zero 1⟩

/-- The tables have columns. -/
instance neZeroColumns : NeZero 4 := ⟨Nat.succ_ne_zero 3⟩

section

variable {F : Type}

/-- `packet->args[0].argi = device`, with `cudaSuccess`. -/
def L2Packet.withDevice (packet : L2Packet F) (device : Int) : L2Packet F :=
  { packet with
    args0 := { packet.args0 with word0 := .ofBitVec (.ofInt 64 device) }
    retExVal := { packet.retExVal with err := 0 } }

/-- `BACKEND_DEVICES`, an `int`, as a request sets it. -/
def L2Packet.backendDevices (packet : L2Packet F) : Int := asInt packet.args0.word0.toNat

/-- A device comes back from the answer as it was put in. -/
theorem L2Packet.withDevice_argi (packet : L2Packet F) {device : Int} (h0 : 0 ≤ device)
    (hlt : device < 2 ^ 31) :
    (packet.withDevice device).args0.argi = device := by
  show (BitVec.ofInt 64 device).toInt = device
  rw [BitVec.toInt_ofInt, Int.bmod_eq_of_le] <;> omega

/-- The number that a request announces, as the `int` that it becomes. -/
theorem L2Packet.backendDevices_eq {packet : L2Packet F} (h : 0 < packet.args0.argi) :
    packet.backendDevices = asInt packet.args0.argi.toNat := by
  have hword : packet.args0.argi = packet.args0.word0.toNat := by
    have hlt := packet.args0.word0.toBitVec.isLt
    rw [Arg.argi, BitVec.toInt_eq_toNat_cond] at h ⊢
    split at h
    · next hsmall => rw [if_pos hsmall]; rfl
    · omega
  rw [L2Packet.backendDevices, hword, Int.toNat_natCast]

end

section

variable {F : Type} [Add F] [Mul F] [Div F] [IntCast F] [OfScientific F]

/-- `table[row][col] = value`. -/
def put (table : Fin 2 → Fin 4 → F) (row : Fin 2) (col : Fin 4) (value : F) : Fin 2 → Fin 4 → F :=
  Function.update table row (Function.update (table row) col value)

/-- The seconds of a `struct timeval`. -/
def seconds (t : Timeval) : F := (t.tvSec.toInt : F) + (t.tvUsec.toInt : F) * 0.000001

/-- What the first branch of `nvbackCudaGetDevice_srv` stores. -/
def storeFeedback (d : FeedbackData F) (packet : L2Packet F) : Option (FeedbackData F) := do
  let row ← arrayIndex 2 packet.appType
  let col ← arrayIndex 4 (getGpuIndex packet.node packet.devid)
  let totalKernelTime := put d.totalKernelTime row col (seconds packet.kernelTime)
  let nonKernelTime := put d.nonKernelTime row col (seconds packet.nonKernelTime)
  let count i := d.threadCountMemAsync i col
  let scaled i := (count i : F) * totalKernelTime i col / nonKernelTime i col
  return { d with
    usrTime := put d.usrTime row col packet.usrTime
    sysTime := put d.sysTime row col packet.sysTime
    totalExecutionTime := put d.totalExecutionTime row col packet.totalExTime
    kernelLaunchCount := put d.kernelLaunchCount row col packet.cudaKernelLaunches
    totalKernelTime := totalKernelTime
    nonKernelTime := nonKernelTime
    gpuUtilization := put d.gpuUtilization row col
      (totalKernelTime row col / (packet.sysTime + packet.usrTime))
    memAsyncUtilization := Function.update d.memAsyncUtilization col
      (if count 0 + count 1 = 0 then ((1 : Int) : F)
       else (scaled 0 + scaled 1) / ((count 0 + count 1 : Int) : F)) }

/-- The first branch of `nvbackCudaGetDevice_srv`. -/
def takeFeedback (l2FeedbackEnabled : Bool) (d : FeedbackData F) (packet : L2Packet F) :
    Option (FeedbackData F) :=
  if l2FeedbackEnabled ∧ packet.isFeedbackPacket ≠ 0 then storeFeedback d packet else some d

/-- `nvbackCudaGetDevice_srv` with the round robin, where `DEV_RR+1` may overflow and the modulus
may be zero. -/
def Scheduler.nvbackCudaGetDeviceSrv (l2FeedbackEnabled : Bool) (s : Scheduler F) (id : Nat)
    (packet : L2Packet F) : Option (L2Packet F × Scheduler F) := do
  let feedback ← takeFeedback l2FeedbackEnabled s.feedback packet
  if 2 ^ 31 ≤ s.loads.devRR + 1 then none
  else
    let (device, loads) ← s.loads.getNextDeviceRR packet.backendDevices
    return (packet.withDevice device,
      { loads := loads.assign id device
        backendDevices := packet.backendDevices
        feedback := feedback })

/-- What the feedback data are initialised to. -/
def FeedbackData.start : FeedbackData F where
  gpuUtilization _ col := if col = 0 then ((1 : Int) : F) else ((0 : Int) : F)
  memAsyncUtilization col := if col = 0 then ((1 : Int) : F) else ((0 : Int) : F)
  totalExecutionTime _ _ := ((0 : Int) : F)
  kernelLaunchCount _ _ := ((0 : Int) : F)
  totalKernelTime _ _ := ((0 : Int) : F)
  nonKernelTime _ _ := ((0 : Int) : F)
  sysTime _ _ := ((0 : Int) : F)
  usrTime _ _ := ((0 : Int) : F)
  threadCountMemAsync _ _ := 0

/-- The global scheduler when it starts, with the connections it has accepted. -/
def Scheduler.start (connections : List Connection) : Scheduler F where
  loads := { Loads.start with connections := connections }
  backendDevices := 0
  feedback := .start

/-- A packet as `callocCudaPacket` leaves the feedback in it. -/
def withoutFeedback (packet : CudaPacket) : L2Packet F :=
  { packet with
    isFeedbackPacket := 0, node := 0, devid := 0, appType := 0
    totalExTime := ((0 : Int) : F), sysTime := ((0 : Int) : F), usrTime := ((0 : Int) : F)
    cudaKernelLaunches := 0, kernelTime := ⟨0, 0⟩, nonKernelTime := ⟨0, 0⟩ }

/-! ## What a request is answered -/

variable {s t : Scheduler F} {id : Nat} {packet answer : L2Packet F} {l2 : Bool}

/-- A request that is served sets the modulus, and is answered with the device whose turn it is. The
turn was computed by the request before, with the modulus of then. -/
theorem Scheduler.nvbackCudaGetDeviceSrv_cases
    (h : s.nvbackCudaGetDeviceSrv l2 id packet = some (answer, t)) :
    packet.backendDevices ≠ 0 ∧ s.loads.devRR + 1 < 2 ^ 31 ∧
      answer = packet.withDevice s.loads.devRR ∧
      t.loads.devRR = (s.loads.devRR + 1).tmod packet.backendDevices := by
  obtain ⟨feedback, -, h⟩ := Option.bind_eq_some_iff.mp h
  split at h
  · cases h
  · next hlt =>
    obtain ⟨⟨device, loads⟩, hdevice, h⟩ := Option.bind_eq_some_iff.mp h
    unfold Loads.getNextDeviceRR at hdevice
    split at hdevice
    · cases hdevice
    · next hne =>
      cases hdevice
      cases h
      exact ⟨hne, by omega, rfl, rfl⟩

/-- A request is served unless the modulus is zero or `DEV_RR+1` overflows. -/
theorem Scheduler.nvbackCudaGetDeviceSrv_exists (id : Nat) (hne : packet.backendDevices ≠ 0)
    (hlt : s.loads.devRR + 1 < 2 ^ 31) :
    ∃ answer t, s.nvbackCudaGetDeviceSrv false id packet = some (answer, t) := by
  have hnot : ¬ 2 ^ 31 ≤ s.loads.devRR + 1 := by omega
  unfold nvbackCudaGetDeviceSrv takeFeedback Loads.getNextDeviceRR
  simp only [Bool.false_eq_true, false_and, if_false, if_neg hnot, if_neg hne, Option.bind_eq_bind,
    Option.bind_some]
  exact ⟨_, _, rfl⟩

/-- The loads are those that `Loads` keeps of the request. -/
theorem Scheduler.nvbackCudaGetDeviceSrv_loads
    (h : s.nvbackCudaGetDeviceSrv l2 id packet = some (answer, t)) :
    s.loads.nvbackCudaGetDeviceSrv id packet.backendDevices = some t.loads := by
  obtain ⟨feedback, -, h⟩ := Option.bind_eq_some_iff.mp h
  split at h
  · cases h
  · obtain ⟨⟨device, loads⟩, hdevice, h⟩ := Option.bind_eq_some_iff.mp h
    cases h
    rw [Loads.nvbackCudaGetDeviceSrv, hdevice]
    rfl

end

end GpuVirtmem.GlobalSched
