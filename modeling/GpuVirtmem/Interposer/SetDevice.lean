import GpuVirtmem.Interposer.DeviceMap
import GpuVirtmem.Remote.Broken

/-!
# Setting the device (`interposer/libci.c`)

`cudaSetDevice` does not set the device that it is given: it asks the global scheduler for one, and
then tells the backend which has that device. What `rcudaGetDevice` returns is not looked at, and
the variable that it fills holds `BACKEND_DEVICES` until then.

The number that the application passes is not used. What counts is the answer of the scheduler, and
whether there is one is lost: `cudaSetDevice` returns what `rcudaSetDevice` does, which waits for no
answer and reports success (`interposedErr_cudaSetDevice`). So the application cannot know that it
is on no device.
-/

namespace GpuVirtmem.Interposer

open Lib Proc Remote

/-- What a call of `cudaSetDevice` does: how `l_do_cuda_rpc` ends for the device request, with the
packet that it leaves; where the arrays are looked up; the requests that are sent, each with the
node it goes to; what the call returns; and `CUR_DEV` before and after it. -/
structure DeviceCall where
  status : Status
  packet : CudaPacket
  deviceDRR : Int
  requests : List (Nat × CudaPacket)
  ret : UInt32
  before : Int
  after : Int

/-- A call of the thread, with its connections to the scheduler and to the backend. -/
structure DeviceEvent where
  device : Int
  toSched : Net
  toBackend : Net

/-- `CUR_DEV` of the thread, and the calls it has made. -/
structure DeviceThread where
  curDev : Int
  calls : List DeviceCall

/-- The number is that of a device. -/
def DeviceMap.Numbers (g : DeviceMap) (k : Int) : Prop := 0 ≤ k ∧ k < g.backendDevices

section

variable (mem : Memory) (thrId share : UInt64) (g : DeviceMap)

/-- `l_do_cuda_rpc` as `rcudaGetDevice` starts it, where `*device` is the number of devices. -/
def deviceRpc : Net → RpcEnd :=
  lDoCudaRpcOn mem (nvbackCudaGetDeviceRpc
    (rcudaGetDevice thrId (.ofNat g.backendDevices) (.ofNat g.firstLocal) 0))

/-- `*device` after `rcudaGetDevice`, with the packet that the exchange leaves. -/
def takenDevice (packet : CudaPacket) : Int :=
  match rpcStatus (.getDevice (.ofNat g.backendDevices) (.ofNat g.firstLocal) 0) packet with
  | .ok => asInt packet.args0.word0.toNat
  | .error => g.backendDevices

/-- What `rcudaSetDevice` returns, for the device of the node that the array names. -/
def setDeviceErr (localdev : UInt64) (net : Net) : Option UInt32 :=
  match lDoCudaRpcOn mem (nvbackCudaSetDeviceRpc (rcudaSetDevice thrId localdev 0 share)) net with
  | .returned _ packet =>
    cudaErr (.setDevice localdev 0 share) (rpcStatus (.setDevice localdev 0 share) packet) packet
  | .aborted => none

/-- `cudaSetDevice`, where nothing depends on its argument; there is no call where an assertion of
`l_do_cuda_rpc` fails. -/
def cudaSetDevice (curDev : Int) (e : DeviceEvent) : Option DeviceCall :=
  match deviceRpc mem thrId g e.toSched with
  | .aborted => none
  | .returned status packet =>
    let deviceDRR := takenDevice g packet
    let localdev := .ofInt (g.devToLocaldev deviceDRR.toNat)
    (setDeviceErr mem thrId share localdev e.toBackend).map fun ret =>
      { status := status, packet := packet, deviceDRR := deviceDRR
        requests := [(g.devToIndex deviceDRR.toNat, rcudaSetDevice thrId localdev 0 share)]
        ret := ret, before := curDev, after := if ret = 0 then deviceDRR else curDev }

/-- A call of the thread returns. A scheduler that reports success names one of the devices. -/
inductive DeviceThread.Step (t : DeviceThread) : DeviceEvent → DeviceThread → Prop
  | call {e : DeviceEvent} {c : DeviceCall}
      (hcall : cudaSetDevice mem thrId share g t.curDev e = some c)
      (hsched : c.status = .ok → c.packet.retExVal.err = 0 →
        g.Numbers (asInt c.packet.args0.word0.toNat)) :
      Step t e { curDev := c.after, calls := t.calls ++ [c] }

/-- The scheduler answers the device request with a device. -/
def Granted (e : DeviceEvent) : Prop :=
  ∃ packet, deviceRpc mem thrId g e.toSched = .returned .ok packet ∧ packet.retExVal.err = 0

end

/-- The thread before its first call: `calloc` has cleared `CUR_DEV`. -/
def DeviceThread.start : DeviceThread := { curDev := 0, calls := [] }

/-- The device request of the call has failed: the exchange, or the scheduler says so. -/
def DeviceCall.Failed (c : DeviceCall) : Prop :=
  c.status = .error ∨ c.packet.retExVal.err ≠ 0

/-- A call that fails changes nothing, and no call looks behind the devices. -/
structure DeviceCall.Safe (g : DeviceMap) (c : DeviceCall) : Prop where
  lookup : g.Numbers c.deviceDRR
  silent : c.Failed → c.requests = []
  reported : c.Failed → c.ret ≠ 0
  unchanged : c.ret ≠ 0 → c.after = c.before

/-- The current device is one of the devices, and every call was safe. -/
structure DeviceThread.Safe (g : DeviceMap) (t : DeviceThread) : Prop where
  curDev : g.Numbers t.curDev
  calls : ∀ c ∈ t.calls, c.Safe g

section

variable {mem : Memory} {thrId share : UInt64} {g : DeviceMap} {t u : DeviceThread}
  {c : DeviceCall} {e : DeviceEvent} {es : List DeviceEvent} {curDev : Int} {net : Net}
  {packet : CudaPacket} {status : Status}

/-! ## The two exchanges -/

/-- What is taken for the device after the device request: the scheduler's answer, or the number of
the devices, which is behind the last one. -/
theorem takenDevice_eq :
    takenDevice g packet =
      if packet.retExVal.err = 0 then asInt packet.args0.word0.toNat else g.backendDevices := by
  unfold takenDevice rpcStatus errStatus
  split_ifs <;> rfl

/-- A device request that breaks leaves the packet of the request, which holds an error. -/
theorem deviceRpc_error (h : deviceRpc mem thrId g net = .returned .error packet) :
    packet.retExVal.err ≠ 0 := by
  rcases (lDoCudaRpcOn_error_iff mem rfl).mp h with ⟨rfl, -⟩ | ⟨-, -, hbuf, -⟩
  · exact (by decide : (30 : UInt32) ≠ 0)
  · exact absurd rfl hbuf

/-- A call without buffers whose request is sent. -/
theorem lDoCudaRpcOn_bare (hroom : sizeofStrmHdr + sizeofRpkt ≤ net.accepts) :
    lDoCudaRpcOn mem (bare packet) net =
      if strmExpectsResponse packet.methodId then
        receiveResponseOn (bare packet) ⟨net.accepts - (sizeofStrmHdr + sizeofRpkt), net.input⟩
      else .returned .ok packet := by
  have hsend : (bare packet).Sendable := fun hpos => absurd hpos (Int.lt_irrefl 0)
  have hsize : (bare packet).requestSize = sizeofStrmHdr + sizeofRpkt := rfl
  unfold lDoCudaRpcOn
  rw [on_sendRequest_data mem hroom hsend, hsize, if_pos hroom]
  rfl

/-- `rcudaSetDevice` waits for no response, and reports success however the exchange ends. -/
theorem setDeviceErr_eq (localdev : UInt64) (net : Net) :
    setDeviceErr mem thrId share localdev net = some 0 := by
  have hexp : ¬strmExpectsResponse (rcudaSetDevice thrId localdev 0 share).methodId = true :=
    Bool.false_ne_true
  unfold setDeviceErr nvbackCudaSetDeviceRpc
  by_cases hroom : sizeofStrmHdr + sizeofRpkt ≤ net.accepts
  · rw [lDoCudaRpcOn_bare hroom, if_neg hexp]
    rfl
  · rw [lDoCudaRpcOn, on_sendRequest_short mem (Nat.lt_of_not_le hroom)]
    rfl

/-! ## One call -/

/-- A call of `cudaSetDevice` looks up what `rcudaGetDevice` has left, tells the backend there, and
takes that for the current device. -/
theorem cudaSetDevice_eq_some (h : cudaSetDevice mem thrId share g curDev e = some c) :
    deviceRpc mem thrId g e.toSched = .returned c.status c.packet ∧
      c.deviceDRR = takenDevice g c.packet ∧ c.requests ≠ [] ∧ c.ret = 0 ∧
        c.after = c.deviceDRR := by
  unfold cudaSetDevice at h
  split at h
  · cases h
  · next status packet hrpc =>
    simp only [setDeviceErr_eq, Option.map_some, Option.some_inj] at h
    subst h
    exact ⟨hrpc, rfl, List.cons_ne_nil _ _, rfl, rfl⟩

/-- The error of the device request does not reach the caller of `cudaSetDevice`: whatever its
wrapper makes of the packet, the interposed call returns what follows from `rcudaSetDevice`. -/
theorem interposedErr_cudaSetDevice (h : cudaSetDevice mem thrId share g curDev e = some c)
    (device firstLocal nodeId : UInt64) :
    interposedErr (.getDevice device firstLocal nodeId)
      (rpcStatus (.getDevice device firstLocal nodeId) c.packet) c.packet = some c.ret := by
  obtain ⟨-, -, -, hret, -⟩ := cudaSetDevice_eq_some h
  rw [hret]
  rfl

/-- A device request fails by its connection or by its answer. -/
theorem DeviceCall.not_failed_iff : ¬c.Failed ↔ c.status = .ok ∧ c.packet.retExVal.err = 0 := by
  unfold DeviceCall.Failed
  push Not
  cases c.status <;> simp

/-- The device request of a call fails exactly if the scheduler grants no device. -/
theorem granted_iff (h : cudaSetDevice mem thrId share g curDev e = some c) :
    Granted mem thrId g e ↔ ¬c.Failed := by
  obtain ⟨hrpc, -⟩ := cudaSetDevice_eq_some h
  rw [Granted, hrpc, DeviceCall.not_failed_iff]
  constructor
  · rintro ⟨packet, hend, herr⟩
    obtain ⟨hstatus, rfl⟩ := RpcEnd.returned.inj hend
    exact ⟨hstatus, herr⟩
  · rintro ⟨hstatus, herr⟩
    exact ⟨c.packet, by rw [hstatus], herr⟩

/-- A call whose device request fails looks behind the devices, and tells a backend all the same. -/
theorem failed_call (h : cudaSetDevice mem thrId share g curDev e = some c) (hfailed : c.Failed) :
    c.deviceDRR = g.backendDevices ∧ c.requests ≠ [] ∧ c.ret = 0 ∧ c.after = g.backendDevices := by
  obtain ⟨hrpc, hdevice, hsent, hret, hafter⟩ := cudaSetDevice_eq_some h
  have herr : c.packet.retExVal.err ≠ 0 := by
    rcases hfailed with hstatus | herr
    · rw [hstatus] at hrpc
      exact deviceRpc_error hrpc
    · exact herr
  rw [takenDevice_eq, if_neg herr] at hdevice
  exact ⟨hdevice, hsent, hret, hafter.trans hdevice⟩

/-! ## Runs -/

namespace DeviceThread

/-- A call leads to one state. -/
theorem Step.det (h : Step mem thrId share g t e u) {u' : DeviceThread}
    (h' : Step mem thrId share g t e u') : u = u' := by
  obtain ⟨hcall, -⟩ := h
  obtain ⟨hcall', -⟩ := h'
  cases hcall.symm.trans hcall'
  rfl

/-- A thread starts on device 0. -/
theorem start_safe (hpos : 0 < g.backendDevices) : start.Safe g :=
  ⟨⟨Int.le_refl 0, Int.natCast_pos.mpr hpos⟩, fun _ hc => absurd hc List.not_mem_nil⟩

/-- A call that is granted a device is safe, and leaves the thread with that device. -/
theorem Safe.step (h : t.Safe g) (hgranted : Granted mem thrId g e)
    (hs : Step mem thrId share g t e u) : u.Safe g := by
  cases hs with
  | @call c hcall hsched =>
    have hnot := (granted_iff hcall).mp hgranted
    obtain ⟨hok, herr⟩ := DeviceCall.not_failed_iff.mp hnot
    obtain ⟨-, hdevice, -, hret, hafter⟩ := cudaSetDevice_eq_some hcall
    have hnumber : g.Numbers c.deviceDRR := by
      rw [hdevice, takenDevice_eq, if_pos herr]
      exact hsched hok herr
    have hsafe : c.Safe g :=
      { lookup := hnumber
        silent := fun hfailed => absurd hfailed hnot
        reported := fun hfailed => absurd hfailed hnot
        unchanged := fun hne => absurd hret hne }
    refine ⟨?_, ?_⟩
    · rw [hafter]
      exact hnumber
    · intro c' hc'
      rcases List.mem_append.mp hc' with hold | hnew
      · exact h.calls c' hold
      · rw [List.mem_singleton.mp hnew]
        exact hsafe

/-- A call that is granted no device leaves the thread behind the devices. -/
theorem Step.granted (hs : Step mem thrId share g t e u) (hsafe : u.Safe g) :
    Granted mem thrId g e := by
  cases hs with
  | @call c hcall _ =>
    rw [granted_iff hcall]
    intro hfailed
    obtain ⟨-, -, -, hafter⟩ := failed_call hcall hfailed
    exact hsafe.curDev.2.ne hafter

/-- The calls of a thread are safe exactly if each is granted a device.

A call that is not granted one leaves the thread behind the last device, with an entry of the arrays
that nobody has filled; the application is told that it has succeeded. -/
theorem safe_iff_granted (hpos : 0 < g.backendDevices)
    (r : Run (Step mem thrId share g) start es t) :
    Always (Step mem thrId share g) start es (fun _ t => t.Safe g) ↔
      EachStep (Step mem thrId share g) start es fun _ e => Granted mem thrId g e :=
  Run.always_iff_eachStep (I := fun _ t => t.Safe g) (fun _ _ _ _ h => h.det) (start_safe hpos)
    (fun h hgranted hs => h.step hgranted hs) (fun h => h)
    (fun _ hs hsafe => hs.granted hsafe) r

end DeviceThread

/-! ## First calls -/

/-- A call whose device request comes to an end returns. -/
theorem exists_cudaSetDevice (h : deviceRpc mem thrId g e.toSched = .returned status packet) :
    ∃ c, cudaSetDevice mem thrId share g curDev e = some c ∧ c.status = status ∧
      c.packet = packet := by
  unfold cudaSetDevice
  rw [h]
  simp only [setDeviceErr_eq, Option.map_some, Option.some_inj]
  exact ⟨_, rfl, rfl, rfl⟩

/-- A scheduler that takes the device request and answers with the packet, and a backend. -/
def answeredBy (packet : CudaPacket) : DeviceEvent where
  device := 0
  toSched := ⟨sizeofStrmHdr + sizeofRpkt, StrmHdr.image ⟨1, 0⟩ ++ packet.image⟩
  toBackend := ⟨sizeofStrmHdr + sizeofRpkt, []⟩

/-- A scheduler that answers at once. -/
theorem deviceRpc_answeredBy (packet : CudaPacket) :
    deviceRpc mem thrId g (answeredBy packet).toSched = .returned .ok packet := by
  have hreceive := @on_receivePacket (sizeofStrmHdr + sizeofRpkt - (sizeofStrmHdr + sizeofRpkt))
    ⟨1, 0⟩ packet [] rfl
  have hexp : strmExpectsResponse (rcudaGetDevice thrId (.ofNat g.backendDevices)
      (.ofNat g.firstLocal) 0).methodId = true := rfl
  rw [List.append_nil] at hreceive
  unfold deviceRpc nvbackCudaGetDeviceRpc
  rw [lDoCudaRpcOn_bare (Nat.le_refl _), if_pos hexp, receiveResponseOn]
  simp only [answeredBy, hreceive]
  rfl

/-- A scheduler that does not take the device request. -/
def brokenSched : DeviceEvent where
  device := 0
  toSched := ⟨0, []⟩
  toBackend := ⟨sizeofStrmHdr + sizeofRpkt, []⟩

/-- A connection that breaks before the answer. -/
theorem deviceRpc_brokenSched :
    ∃ packet, deviceRpc mem thrId g brokenSched.toSched = .returned .error packet := by
  unfold deviceRpc lDoCudaRpcOn
  rw [on_sendRequest_short mem (Nat.succ_pos _)]
  exact ⟨_, rfl⟩

end

/-- Two nodes, with a device each. -/
def twoDevices : DeviceMap :=
  { DeviceMap.zero with
    backendDevices := 2, devicesInNode := fun _ => 1, devToIndex := fun k => k }

/-- The reply that grants device 1. -/
def grantsOne : CudaPacket :=
  { rcudaGetDevice 1 1 0 0 with retExVal := { err := 0, upper := 0 } }

theorem safe_iff_granted_grantsOne : ∃ t,
    Run (DeviceThread.Step zeros 1 1 twoDevices) .start [answeredBy grantsOne] t ∧
    (Always (DeviceThread.Step zeros 1 1 twoDevices) .start [answeredBy grantsOne]
        (fun _ t => t.Safe twoDevices) ↔
      EachStep (DeviceThread.Step zeros 1 1 twoDevices) .start [answeredBy grantsOne] fun _ e =>
        Granted zeros 1 twoDevices e) := by
  obtain ⟨c, hcall, -, hpacket⟩ := @exists_cudaSetDevice zeros 1 1 twoDevices _ 0 _ _
    (deviceRpc_answeredBy grantsOne)
  have hstep : DeviceThread.Step zeros 1 1 twoDevices .start (answeredBy grantsOne) _ :=
    .call hcall fun _ _ => by rw [hpacket, DeviceMap.Numbers]; decide
  have r := (@Run.start _ _ (DeviceThread.Step zeros 1 1 twoDevices) .start).snoc hstep
  exact ⟨_, r, DeviceThread.safe_iff_granted (Nat.succ_pos 1) r⟩

/-- With a broken connection to the scheduler, the current device is none of the two: the entry
behind the last one is read for the node to tell. -/
theorem ungranted_call_not_safe : ¬ ∀ (mem : Memory) (thrId share : UInt64) (g : DeviceMap)
    (es : List DeviceEvent) (t : DeviceThread), 0 < g.backendDevices →
      Run (DeviceThread.Step mem thrId share g) .start es t →
        Always (DeviceThread.Step mem thrId share g) .start es fun _ t => t.Safe g := by
  intro hclaim
  obtain ⟨_, hrpc⟩ := @deviceRpc_brokenSched zeros 1 twoDevices
  obtain ⟨c, hcall, hstatus, -⟩ := @exists_cudaSetDevice zeros 1 1 twoDevices _ 0 _ _ hrpc
  have hstep : DeviceThread.Step zeros 1 1 twoDevices .start brokenSched _ :=
    .call hcall fun hok => by rw [hstatus] at hok; cases hok
  have r := (@Run.start _ _ (DeviceThread.Step zeros 1 1 twoDevices) .start).snoc hstep
  have hsafe := hclaim _ _ _ _ _ _ (Nat.succ_pos 1) r _ _ List.prefix_rfl r
  obtain ⟨-, -, -, hafter⟩ := failed_call hcall (.inl hstatus)
  exact hsafe.curDev.2.ne hafter

end GpuVirtmem.Interposer
