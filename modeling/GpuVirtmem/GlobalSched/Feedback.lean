import GpuVirtmem.GlobalSched.GetDevice
import Mathlib.Data.Rat.Defs

/-!
# Feedback packets (`remote/remote_api_wrapper.c`, `interposer/libci.c`)

In a build with `L2_FEEDBACK_ENABLED` a process that has ended sends its feedback in a packet of the
method that asks for a device. The handler stores it, and goes on as for a request; but the packet
announces no devices.

What is stored is right; the slip is that the handler does not stop there. So the condition is not
on the feedback, but that there is none.
-/

namespace GpuVirtmem.GlobalSched

open Lib Remote Interposer

section

variable {F : Type}

/-- The second packet of `rcudaThreadExit`, with the feedback that has come back in the first. -/
def feedbackPacket (thrId : UInt64) (exited : L2Packet F) : L2Packet F :=
  { lRemoteInitMetThrReq thrId MethodId.cudaGetDevice.code with
    isFeedbackPacket := 1
    node := exited.node
    devid := exited.devid
    appType := exited.appType
    totalExTime := exited.totalExTime
    sysTime := exited.sysTime
    usrTime := exited.usrTime
    cudaKernelLaunches := exited.cudaKernelLaunches
    kernelTime := exited.kernelTime
    nonKernelTime := exited.nonKernelTime }

/-- What arrives on a connection: a request for a device, or feedback. -/
inductive Arrival (F : Type)
  | request (id : Nat) (packet : CudaPacket)
  | feedback (id : Nat) (thrId : UInt64) (exited : L2Packet F)

/-- Feedback arrives. -/
def Arrival.IsFeedback : Arrival F → Prop
  | .request _ _ => False
  | .feedback _ _ _ => True

/-- Feedback announces no devices, so that it makes the modulus zero. -/
theorem feedbackPacket_backendDevices (thrId : UInt64) (exited : L2Packet F) :
    (feedbackPacket thrId exited).backendDevices = 0 := rfl

namespace Scheduler

variable [Add F] [Mul F] [Div F] [IntCast F] [OfScientific F]

/-- `nvbackCudaGetDevice_srv` in a build with `L2_FEEDBACK_ENABLED`. -/
def handle (s : Scheduler F) : Arrival F → Option (L2Packet F × Scheduler F)
  | .request id packet => s.nvbackCudaGetDeviceSrv true id (withoutFeedback packet)
  | .feedback id thrId exited => s.nvbackCudaGetDeviceSrv true id (feedbackPacket thrId exited)

/-- What arrives is handled, as long as the process has not ended. -/
inductive Handles : Option (Scheduler F) → Arrival F → Option (Scheduler F) → Prop
  | arrival {s : Scheduler F} {a : Arrival F} {o : Option (Scheduler F)} :
      (s.handle a).map Prod.snd = o → Handles (some s) a o

/-- Feedback is handled, and changes nothing but the tables: the round robin, the loads and the
devices of the connections are what they were. -/
def OnlyFeedback (o : Option (Scheduler F)) (a : Arrival F) : Prop :=
  a.IsFeedback → ∃ s answer t, o = some s ∧ s.handle a = some (answer, t) ∧
    t.backendDevices = s.backendDevices ∧ t.loads = s.loads

variable {s : Scheduler F} {o : Option (Scheduler F)} {qs : List (Arrival F)}

/-- No state of the scheduler survives feedback: the branch that stores it does not return, and the
round robin divides by zero. -/
theorem handle_feedback {a : Arrival F} (ha : a.IsFeedback) : s.handle a = none := by
  cases a with
  | request id packet => exact ha.elim
  | feedback id thrId exited =>
    cases h : s.handle (.feedback id thrId exited) with
    | none => rfl
    | some handled =>
      have hne := (nvbackCudaGetDeviceSrv_cases h).1
      exact absurd (feedbackPacket_backendDevices thrId exited) hne

/-- Feedback is only feedback in exactly the runs that get none: in every state it has the process
divide by zero.

Nothing that has happened before can help: the packet announces no devices, and this becomes the
modulus before the device is looked for. -/
theorem only_feedback_iff {connections : List Connection}
    (r : Run Handles (some (start connections)) qs o) :
    EachStep Handles (some (start connections)) qs OnlyFeedback ↔ ∀ a ∈ qs, ¬ a.IsFeedback := by
  constructor
  · intro hall a ha hfeedback
    obtain ⟨before, after, rfl⟩ := List.append_of_mem ha
    obtain ⟨t, rt, -⟩ := r.split
    have hpre : before ++ [a] <+: before ++ a :: after := ⟨after, by simp⟩
    obtain ⟨s, answer, t, -, hhandled, -⟩ := hall before a t hpre rt hfeedback
    rw [handle_feedback hfeedback] at hhandled
    cases hhandled
  · intro hnone before a t hpre _ hfeedback
    have ha : a ∈ qs := hpre.subset (by simp)
    exact absurd hfeedback (hnone a ha)

end Scheduler

end

namespace Scheduler

/-- The feedback of a process of application type 1 on device 1 of node 0. -/
def exitFeedback : Arrival Rat :=
  let sent : L2Packet Rat := withoutFeedback (lRemoteInitMetThrReq 0 MethodId.cudaThreadExit.code)
  .feedback 1 0 { sent with
    isFeedbackPacket := 1, devid := 1, appType := 1, totalExTime := 3, sysTime := 1, usrTime := 1 }

/-- A client that knows of four devices asks for one. -/
def deviceRequest : Arrival Rat := .request 1 (rcudaGetDevice 0 4 0 0)

/-- Two requests are served, and feedback after them is not only feedback. -/
theorem only_feedback_iff_afterRequests : ∃ o u,
    Run Handles (some (start [⟨1, none⟩])) [deviceRequest, deviceRequest] (some o) ∧
    EachStep Handles (some (start [⟨1, none⟩])) [deviceRequest, deviceRequest] OnlyFeedback ∧
    Run Handles (some (start [⟨1, none⟩])) ([deviceRequest, deviceRequest] ++ [exitFeedback]) u ∧
    ¬ EachStep Handles (some (start [⟨1, none⟩]))
      ([deviceRequest, deviceRequest] ++ [exitFeedback]) OnlyFeedback := by
  have h₁ : Handles (some (start [⟨1, none⟩])) deviceRequest (some _) := .arrival rfl
  have r : Run Handles (some (start [⟨1, none⟩])) [deviceRequest, deviceRequest] (some _) :=
    .cons h₁ (.cons (.arrival rfl) .start)
  refine ⟨_, _, r, (only_feedback_iff r).mpr ?_, r.snoc (.arrival rfl), fun hall => ?_⟩
  · intro a ha hfeedback
    simp only [List.mem_cons, List.not_mem_nil, or_false, or_self] at ha
    subst ha
    exact hfeedback
  · exact (only_feedback_iff (r.snoc (.arrival rfl))).mp hall exitFeedback (by simp) trivial

/-- The process ends on it, in its first feedback. -/
theorem exitFeedback_ends : Run Handles (some (start [⟨1, none⟩])) [exitFeedback] none ∧
    ¬ EachStep Handles (some (start [⟨1, none⟩])) [exitFeedback] OnlyFeedback := by
  have hnone : (start [⟨1, none⟩]).handle exitFeedback = none := handle_feedback trivial
  refine ⟨Run.start.cons ⟨by rw [hnone]; rfl⟩, fun hall => ?_⟩
  obtain ⟨s, answer, t, hs, hhandled, -⟩ := hall [] exitFeedback _ List.prefix_rfl .start trivial
  obtain rfl := Option.some.inj hs
  rw [hnone] at hhandled
  cases hhandled

end Scheduler

end GpuVirtmem.GlobalSched
