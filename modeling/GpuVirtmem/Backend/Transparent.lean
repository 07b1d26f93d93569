import GpuVirtmem.Backend.Direct

/-!
# Remote execution is transparent

A program that is run over the connection, on a backend without the pager, leaves the device as it
would leave the device of its own node, and its calls return what they would return there, as far as
the interposer lets the application see: of the calls that it does not wait for the errors are lost,
and the other errors are all `cudaErrorUnknown`, but for that of `cudaMalloc`.

What is claimed of one call (`Agrees`) is that the handler, run on the backend, leaves the device as
the call would leave it on the application's own node, and that what the interposer returns is what
the application would see there. From this the result for programs follows by the rules of
`Lib.Session`, for every way in which the bytes travel. The runtime is a parameter, and it is the
same on both sides.

It is for the build without the pager and the schedulers, in which a handler does little more than
to call the runtime. With the pager a launch does not even return (`Launches`), so that nothing of
the kind can hold there.
-/

namespace GpuVirtmem.Backend.Direct

open Lib Remote Interposer Registry

/-! ## The program on its own node -/

/-- The functions and variables of an application by their host addresses. -/
structure Symbols where
  function : UInt64 → Option RegFuncArgs
  hostVar : UInt64 → Option RegVarArgs

/-- What the application sees of a call that it waits for. -/
def waitedFor : Except CudaError Unit → CallReturn
  | .ok _ => { err := some 0, taken := .nothing, data := [] }
  | .error _ => { err := some 30, taken := .nothing, data := [] }

/-- What the application sees of a call that it does not wait for. -/
def notWaitedFor : CallReturn := { err := some 0, taken := .nothing, data := [] }

/-- What the application sees of `cudaGetDeviceCount`. -/
def counted : Except CudaError Int32 → CallReturn
  | .ok n => { err := some 0, taken := .number n.toInt, data := [] }
  | .error _ => { err := some 30, taken := .nothing, data := [] }

/-- What the application sees of `cudaMalloc`. -/
def allocated : Except CudaError UInt64 → CallReturn
  | .ok devPtr => { err := some 0, taken := .pointer devPtr, data := [] }
  | .error _ => { err := some 2, taken := .pointer 0, data := [] }

/-- What the application sees of a call that fills its buffer. Where the call fails the buffer is
filled too, with what a fresh block holds. -/
def filled (fresh : FreshBlock) {n : Nat} : Except CudaError (Block n) → CallReturn
  | .ok bs => { err := some 0, taken := .nothing, data := bs.val }
  | .error _ => { err := some 30, taken := .nothing, data := (fresh n).val }

section

variable {propSize : PropSize} {σ : Type} (R : CudaRuntime propSize σ) (S : Symbols)
  (fresh : FreshBlock)

/-- `cudaMemcpy` on the node of the application. -/
def directMemcpy (s : σ) (mem : Memory) (dst src count kind : UInt64) : σ × CallReturn :=
  match CudaMemcpyKind.ofArgi (Arg.argi ⟨kind, 0⟩) with
  | .hostToDevice =>
    let (s, r) := R.cudaMemcpyHostToDevice s dst (mem src count.toNat).val count
    (s, waitedFor r)
  | .deviceToHost =>
    let (s, r) := R.cudaMemcpyDeviceToHost s src count
    (s, filled fresh r)
  | .deviceToDevice =>
    let (s, r) := R.cudaMemcpyDeviceToDevice s dst src count
    (s, waitedFor r)
  | .other => (s, refused)

/-- `cudaMemcpyToSymbol`, with the pointer that the symbol stands for. -/
def directMemcpyToSymbol (s : σ) (mem : Memory) (hostVar src count offset kind : UInt64) :
    σ × CallReturn :=
  match CudaMemcpyKind.ofArg ⟨kind, 0⟩ with
  | .hostToDevice =>
    match S.hostVar hostVar with
    | none => (s, refused)
    | some v =>
      let (s, r) := R.cudaMemcpyToSymbol s v (mem src count.toNat).val count offset
      (s, waitedFor r)
  | .deviceToDevice | .deviceToHost | .other => (s, refused)

/-- `cudaMemcpyFromSymbol`, with the pointer that the symbol stands for. -/
def directMemcpyFromSymbol (s : σ) (hostVar count offset kind : UInt64) : σ × CallReturn :=
  match CudaMemcpyKind.ofArg ⟨kind, 0⟩ with
  | .deviceToHost =>
    match S.hostVar hostVar with
    | none => (s, { refused with data := (fresh count.toNat).val })
    | some v =>
      let (s, r) := R.cudaMemcpyFromSymbol s v count offset
      (s, filled fresh r)
  | .deviceToDevice | .hostToDevice | .other => (s, refused)

/-- A call on the node of the application. The registrations and the question for a device are not
among these. -/
def direct (s : σ) : AppCall → Option (σ × CallReturn)
  | (.threadExit, _) =>
    some ((R.cudaThreadExit s).1, { err := some 30, taken := .nothing, data := [] })
  | (.threadSynchronize, _) =>
    let (s, r) := R.cudaThreadSynchronize s
    some (s, waitedFor r)
  | (.getDeviceCount, _) =>
    let (s, r) := R.cudaGetDeviceCount s
    some (s, counted r)
  | (.getDeviceProperties _ device, _) =>
    let (s, r) := R.cudaGetDeviceProperties s (asInt device.toNat)
    some (s, filled fresh r)
  | (.setDevice device _ _, _) => some ((R.cudaSetDevice s (asInt device.toNat)).1, notWaitedFor)
  | (.configureCall gridDim blockDim sharedMem stream, _) =>
    some ((R.cudaConfigureCall s (argDim gridDim) (argDim blockDim) sharedMem stream).1,
      notWaitedFor)
  | (.setupArgument arg size offset, mem) =>
    some ((R.cudaSetupArgument s (mem arg size.toNat).val size offset).1, notWaitedFor)
  | (.launch entry, _) =>
    match S.function entry with
    | none => some (s, notWaitedFor)
    | some f => some ((R.cudaLaunch s f).1, notWaitedFor)
  | (.malloc _ size, _) =>
    let (s, r) := R.cudaMalloc s size
    some (s, allocated r)
  | (.free devPtr, _) => some ((R.cudaFree s devPtr).1, notWaitedFor)
  | (.memcpy dst src count kind, mem) => some (directMemcpy R fresh s mem dst src count kind)
  | (.memcpyToSymbol hostVar src count offset kind, mem) =>
    some (directMemcpyToSymbol R S s mem hostVar src count offset kind)
  | (.memcpyFromSymbol _ hostVar count offset kind, _) =>
    some (directMemcpyFromSymbol R S fresh s hostVar count offset kind)
  | (.getDevice .., _) | (.registerFatBinary .., _) | (.registerFunction .., _)
  | (.registerVar .., _) | (.unregisterFatBinary .., _) => none

/-- The call is served on the node of the application. -/
def Directly (s : σ) (x : AppCall) (s' : σ) (r : CallReturn) : Prop :=
  direct R S fresh s x = some (s', r)

end

/-- The calls that concern the device, where an argument of a kernel is not empty. -/
def OnDevice : CudaCall → Prop
  | .getDevice .. | .registerFatBinary .. | .registerFunction .. | .registerVar ..
  | .unregisterFatBinary .. => False
  | .setupArgument _ size _ => size ≠ 0
  | _ => True

/-- A call that a program makes. -/
structure Forwarded (x : AppCall) : Prop where
  sendable : Sendable x
  onDevice : OnDevice x.1

/-- A variable is registered for a live module. -/
def Declares (live : Live) (hostVar : Nat) (v : RegVarArgs) : Prop :=
  ∃ h m, live h = some m ∧ v ∈ m.regVars ∧ v.hostVar = hostVar

/-- The symbols of the application are what is registered for its modules. -/
structure Symbols.Describes (S : Symbols) (live : Live) : Prop where
  function : ∀ entry f, S.function entry = some f ↔ Launches live entry.toNat f
  hostVar : ∀ hostVar v, S.hostVar hostVar = some v ↔ Declares live hostVar.toNat v

section

variable {infos : List FatcubinInfo} {live : Live} {S : Symbols}

/-- The search for a launch finds the function of the application. -/
theorem Symbols.Describes.foundFunction (h : S.Describes live) (hmap : HoldsMap (some infos) live)
    (entry : UInt64) : foundFunction infos entry = S.function entry := by
  obtain ⟨found, hsearch, hfound, -⟩ := hmap.launch entry.toNat
  unfold Direct.foundFunction
  rw [hsearch]
  ext f
  rw [h.function entry f, ← hfound f]

/-- The search for a symbol finds the variable of the application. -/
theorem Symbols.Describes.foundVariable (h : S.Describes live) (hmap : HoldsMap (some infos) live)
    (hostVar : UInt64) : foundVariable infos hostVar = S.hostVar hostVar := by
  unfold Direct.foundVariable
  cases hsearch : gFciaHostVar (some infos) hostVar.toNat with
  | some x =>
    obtain ⟨p, j⟩ := x
    obtain ⟨hlive, v, hget, hv⟩ := hmap.hostVar _ p j hsearch
    have hdeclared : Declares live hostVar.toNat v :=
      ⟨_, _, hlive, List.mem_of_getElem? hget, hv⟩
    rw [(h.hostVar hostVar v).mpr hdeclared]
    exact hget
  | none =>
    cases hfound : S.hostVar hostVar with
    | none => rfl
    | some v =>
      obtain ⟨k, m, hm, hv, hvar⟩ := (h.hostVar hostVar v).mp hfound
      have hsome := (hmap.hostVarFound hostVar.toNat).mpr ⟨k, m, hm, v, hv, hvar⟩
      rw [hsearch] at hsome
      cases hsome

end

/-! ## Each call -/

section

variable {propSize : PropSize} {σ : Type} {R : CudaRuntime propSize σ} {S : Symbols}
  {fresh : FreshBlock} {addr vmapTable kmapTable thrId : UInt64}
  {others : Srv → Node σ → CudaPacket → Conn → Outcome (Node σ)} {infos : List FatcubinInfo}
  {live : Live} {s : σ} {mem : Memory} {call : CudaCall} {c : RpcCall} {conn : Conn}

/-- A call on the node of the application and the same call over the connection: they leave the same
device, and return the same. -/
def Agrees (R : CudaRuntime propSize σ) (S : Symbols) (fresh : FreshBlock)
    (B : Backend (Node σ)) (thrId : UInt64) (infos : List FatcubinInfo) (s : σ) (x : AppCall) :
    Prop :=
  ∃ s' r, Directly R S fresh s x s' r ∧ B.Serves propSize thrId ⟨s, infos⟩ x ⟨s', infos⟩ r

/-- A call whose wrapper refuses it does nothing on either side. -/
theorem agrees_of_refused {B : Backend (Node σ)} (hsend : Sendable (call, mem))
    (hrpc : call.rpc thrId propSize = none)
    (hdirect : direct R S fresh s (call, mem) = some (s, refused)) :
    Agrees R S fresh B thrId infos s (call, mem) := by
  refine ⟨s, refused, hdirect, hsend.1, hsend.2, ?_⟩
  dsimp only
  rw [hrpc]
  exact ⟨rfl, rfl⟩

/-- A call whose handler leaves the registrations as they are. -/
theorem agrees_of_execute {B : Backend (Node σ)} {s' : σ} {r : CallReturn} {t : Node σ}
    {packet : CudaPacket} (hsend : Sendable (call, mem))
    (hrpc : call.rpc thrId propSize = some c)
    (hexec : B.pktExecute propSize ⟨s, infos⟩ (B.withTables c.packet)
      (.requested (c.requestData mem)) = .ok (t, packet, conn))
    (hstate : t = ⟨s', infos⟩) (hreturn : callReturn call (c.returned packet conn) = r)
    (hdirect : direct R S fresh s (call, mem) = some (s', r)) :
    Agrees R S fresh B thrId infos s (call, mem) := by
  refine ⟨s', r, hdirect, hsend.1, hsend.2, ?_⟩
  dsimp only
  rw [hrpc]
  refine ⟨_, ?_, hreturn.symm⟩
  unfold Remote.Backend.serve
  rw [hexec, ← hstate]
  rfl

/-- A call whose handler does its work, with what that leaves. Most of the calls below are instances
of this, with what the handler computes and what the interposer takes out of the packet. -/
theorem agrees_of_work {B : Backend (Node σ)} (srv : Srv) {o : Outcome (Node σ)} {s' : σ}
    {r : CallReturn} (hsend : Sendable (call, mem)) (hrpc : call.rpc thrId propSize = some c)
    (hexec : B.pktExecute propSize ⟨s, infos⟩ (B.withTables c.packet)
      (.requested (c.requestData mem)) = .ok (B.run srv ⟨s, infos⟩ (B.withTables c.packet) conn))
    (hwork : B.work srv ⟨s, infos⟩ (B.withTables c.packet) conn = o)
    (hstate : o.state = ⟨s', infos⟩)
    (hreturn : callReturn call (c.returned
      { B.withTables c.packet with
        args0 := o.args0, args1 := o.args1, args2 := o.args2, args3 := o.args3
        retExVal := o.retExVal }
      { conn with pRspBuffer := conn.pRspBuffer.map fun b => (o.buffer b.length).val }) = r)
    (hdirect : direct R S fresh s (call, mem) = some (s', r)) :
    Agrees R S fresh B thrId infos s (call, mem) := by
  subst hwork
  exact agrees_of_execute hsend hrpc hexec hstate hreturn hdirect

/-- What the handler returns for a call without an error. -/
theorem errStatus_ok {packet : CudaPacket} (herr : packet.retExVal.err = 0) :
    errStatus packet = .ok :=
  if_pos herr

/-- And for one with an error. -/
theorem errStatus_error {packet : CudaPacket} (e : CudaError)
    (herr : packet.retExVal.err = e.val) : errStatus packet = .error :=
  if_neg fun hzero => e.property (herr.symm.trans hzero)

/-- What the application sees of `cudaMalloc`. -/
theorem callReturn_malloc {packet : CudaPacket} {devPtr size : UInt64}
    {r : Except CudaError UInt64} (herr : packet.retExVal.err = errOf r)
    (hargs : packet.args0.word0 = argpOf r) :
    callReturn (.malloc devPtr size) ⟨true, packet, []⟩ = allocated r := by
  unfold callReturn
  dsimp only [rpcStatus]
  cases r with
  | ok p =>
    rw [errStatus_ok herr]
    dsimp only [cudaErr, takenFrom]
    rw [herr, hargs]
    rfl
  | error e =>
    rw [errStatus_error e herr]
    rfl

/-- A number of devices comes back as it was sent. -/
theorem asInt_ofInt (n : Int32) : asInt (UInt64.ofInt n.toInt).toNat = n.toInt := by
  have hlow := n.le_toInt
  have hhigh := n.toInt_lt
  have hword : (UInt64.ofInt n.toInt).toNat = (n.toInt % 2 ^ 64).toNat % 2 ^ 64 :=
    UInt64.toNat_ofNat'
  have hasInt := asInt_eq (UInt64.ofInt n.toInt).toNat
  split at hasInt <;> omega

/-- What the application sees of `cudaGetDeviceCount`. -/
theorem callReturn_getDeviceCount {packet : CudaPacket} {r : Except CudaError Int32}
    (herr : packet.retExVal.err = errOf r)
    (hargs : packet.args0.word0 = .ofInt (devCountOf r).toInt) :
    callReturn .getDeviceCount ⟨true, packet, []⟩ = counted r := by
  unfold callReturn
  dsimp only [rpcStatus]
  cases r with
  | ok n =>
    rw [errStatus_ok herr]
    dsimp only [cudaErr, takenFrom]
    rw [herr, hargs, asInt_ofInt]
    rfl
  | error e =>
    rw [errStatus_error e herr]
    rfl

/-- The calls whose result is no more than an error, which the application waits for. -/
def OnlyErr : CudaCall → Prop
  | .threadSynchronize | .memcpy .. | .memcpyToSymbol .. | .memcpyFromSymbol ..
  | .getDeviceProperties .. => True
  | _ => False

/-- A call of which the application sees only whether it failed, and which has not. -/
theorem callReturn_succeeded {packet : CudaPacket} {data : Bytes} (h : OnlyErr call)
    (herr : packet.retExVal.err = 0) :
    callReturn call ⟨true, packet, data⟩ = { err := some 0, taken := .nothing, data := data } := by
  cases call with
  | threadSynchronize | memcpy | memcpyToSymbol | memcpyFromSymbol | getDeviceProperties =>
    unfold callReturn
    dsimp only [rpcStatus]
    rw [errStatus_ok herr]
    dsimp only [cudaErr, takenFrom]
    rw [herr]
  | _ => exact h.elim

/-- And one which has: the error that the application sees is not that of the runtime. -/
theorem callReturn_failed {packet : CudaPacket} {data : Bytes} (h : OnlyErr call) (e : CudaError)
    (herr : packet.retExVal.err = e.val) :
    callReturn call ⟨true, packet, data⟩ = { refused with data := data } := by
  cases call with
  | threadSynchronize | memcpy | memcpyToSymbol | memcpyFromSymbol | getDeviceProperties =>
    unfold callReturn
    dsimp only [rpcStatus]
    rw [errStatus_error e herr]
    rfl
  | _ => exact h.elim

/-- Both together. -/
theorem callReturn_waitedFor {packet : CudaPacket} {r : Except CudaError Unit} (h : OnlyErr call)
    (herr : packet.retExVal.err = errOf r) :
    callReturn call ⟨true, packet, []⟩ = waitedFor r := by
  cases r with
  | ok => exact callReturn_succeeded h herr
  | error e => exact callReturn_failed h e herr

/-- What the application sees of a call that fills its buffer. -/
theorem callReturn_filled {n : Nat} {packet : CudaPacket} {r : Except CudaError (Block n)}
    (h : OnlyErr call) (herr : packet.retExVal.err = errOf r) :
    callReturn call ⟨true, packet, (filled fresh r).data⟩ = filled fresh r := by
  cases r with
  | ok => exact callReturn_succeeded h herr
  | error e => exact callReturn_failed h e herr

/-- The data that goes with a call is what its buffer holds. -/
theorem requestData_eq (mem : Memory) (packet : CudaPacket) (p : UInt64) {size : UInt64}
    (hfit : size.toNat < 2 ^ 31) :
    RpcCall.requestData mem { bare packet with reqbuf := p, reqbufSize := asInt size.toNat } =
      (mem p size.toNat).val := by
  have hlen := (mem p size.toNat).property
  unfold RpcCall.requestData
  dsimp only
  rw [asInt_of_lt hfit, Int.toNat_natCast]
  split
  · rfl
  · have hnil : (mem p size.toNat).val.length = 0 := by omega
    exact (List.length_eq_zero_iff.mp hnil).symm

/-- The response data, where the work has filled the response buffer. -/
theorem responseData_filled {n : Nat} (hfit : n < 2 ^ 31) (conn : Conn)
    (buffer : (n : Nat) → Block n) :
    Conn.responseData { conn.withResponse (asInt n) with
      pRspBuffer := (conn.withResponse (asInt n)).pRspBuffer.map fun b => (buffer b.length).val } =
      (buffer n).val := by
  have hlen := (buffer n).property
  unfold Conn.responseData Conn.withResponse
  rw [asInt_of_lt hfit]
  dsimp only [Option.map_some, Option.getD_some]
  rw [Int.toNat_natCast, List.length_replicate]
  split
  · exact List.take_of_length_le (by omega)
  · have hnil : (buffer n).val.length = 0 := by omega
    exact (List.length_eq_zero_iff.mp hnil).symm

/-- The response buffer holds what the application gets. -/
theorem leaveFilled_buffer {n : Nat} (t : Node σ) (x : σ × Except CudaError (Block n))
    (packet : CudaPacket) :
    ((leaveFilled fresh t x packet).buffer n).val = (filled fresh x.2).data := by
  obtain ⟨s', r⟩ := x
  cases r with
  | ok bs => exact List.take_left' bs.property
  | error e => rfl

/-- `cudaMalloc`, the one call of which the error comes through. -/
theorem agrees_malloc {devPtr size : UInt64} (hsend : Sendable (.malloc devPtr size, mem)) :
    Agrees R S fresh (directBackend R fresh addr vmapTable kmapTable others) thrId infos s
      (.malloc devPtr size, mem) :=
  agrees_of_work .nvbackCudaMalloc hsend rfl rfl rfl rfl (callReturn_malloc rfl rfl) rfl

/-- `cudaGetDeviceCount`. -/
theorem agrees_getDeviceCount (hsend : Sendable (.getDeviceCount, mem)) :
    Agrees R S fresh (directBackend R fresh addr vmapTable kmapTable others) thrId infos s
      (.getDeviceCount, mem) :=
  agrees_of_work .nvbackCudaGetDeviceCount hsend rfl rfl rfl rfl
    (callReturn_getDeviceCount rfl rfl) rfl

/-- `cudaGetDeviceProperties`, whose answer comes in the response buffer. -/
theorem agrees_getDeviceProperties (hprop : propSize < 2 ^ 31) {prop device : UInt64}
    (hsend : Sendable (.getDeviceProperties prop device, mem)) :
    Agrees R S fresh (directBackend R fresh addr vmapTable kmapTable others) thrId infos s
      (.getDeviceProperties prop device, mem) := by
  refine agrees_of_work .nvbackCudaGetDeviceProperties hsend rfl rfl rfl rfl ?_ rfl
  refine Eq.trans (congrArg (fun data => callReturn _ ⟨true, _, data⟩) ?_)
    (callReturn_filled trivial rfl)
  rw [← leaveFilled_buffer ⟨s, infos⟩]
  exact responseData_filled hprop _ _

/-- `cudaSetupArgument`, which is not waited for: its error is lost. -/
theorem agrees_setupArgument {arg size offset : UInt64}
    (hsend : Sendable (.setupArgument arg size offset, mem)) :
    Agrees R S fresh (directBackend R fresh addr vmapTable kmapTable others) thrId infos s
      (.setupArgument arg size offset, mem) := by
  have hdata := requestData_eq mem (rcudaSetupArgument thrId arg size offset) arg hsend.1
  have hdirect : direct R S fresh s (.setupArgument arg size offset, mem) =
      some ((R.cudaSetupArgument s (RpcCall.requestData mem
        (nvbackCudaSetupArgumentRpc (rcudaSetupArgument thrId arg size offset))) size offset).1,
        notWaitedFor) := by
    rw [show RpcCall.requestData mem
      (nvbackCudaSetupArgumentRpc (rcudaSetupArgument thrId arg size offset)) = _ from hdata]
    rfl
  exact agrees_of_work .nvbackCudaSetupArgument hsend rfl rfl rfl rfl rfl hdirect

/-- `cudaLaunch`, with the function that both sides find. -/
theorem agrees_launch {entry : UInt64} (hS : foundFunction infos entry = S.function entry)
    (hsend : Sendable (.launch entry, mem)) :
    Agrees R S fresh (directBackend R fresh addr vmapTable kmapTable others) thrId infos s
      (.launch entry, mem) := by
  have hwork : ∀ packet : CudaPacket, packet.args0.word0 = entry →
      nvbackCudaLaunchSrv R fresh ⟨s, infos⟩ packet = match S.function entry with
        | none => leave fresh ⟨s, infos⟩ s (withErr packet 4)
        | some f => leave fresh ⟨s, infos⟩ (R.cudaLaunch s f).1
            (withErr packet (errOf (R.cudaLaunch s f).2)) := by
    rintro packet rfl
    exact hS ▸ rfl
  cases hfound : S.function entry with
  | none =>
    rw [hfound] at hwork
    refine agrees_of_work .nvbackCudaLaunch hsend rfl rfl (hwork _ rfl) rfl rfl ?_
    simp only [direct, hfound]
    rfl
  | some f =>
    rw [hfound] at hwork
    refine agrees_of_work .nvbackCudaLaunch hsend rfl rfl (hwork _ rfl) rfl rfl ?_
    simp only [direct, hfound]
    rfl

/-- `cudaMemcpy`, in the four directions. -/
theorem agrees_memcpy {dst src count kind : UInt64}
    (hsend : Sendable (.memcpy dst src count kind, mem)) :
    Agrees R S fresh (directBackend R fresh addr vmapTable kmapTable others) thrId infos s
      (.memcpy dst src count kind, mem) := by
  have hargs : (rcudaMemcpy thrId dst src count kind).args3.argi = Arg.argi ⟨kind, 0⟩ := rfl
  have hfit : count.toNat < 2 ^ 31 := hsend.1
  cases hkind : CudaMemcpyKind.ofArgi (Arg.argi ⟨kind, 0⟩) with
  | hostToDevice =>
    have hrpc : (CudaCall.memcpy dst src count kind).rpc thrId propSize = some
        { bare { rcudaMemcpy thrId dst src count kind with
            methodId := MethodId.cudaMemcpyH2D.code } with
          reqbuf := src, reqbufSize := asInt count.toNat } := by
      unfold CudaCall.rpc nvbackCudaMemcpyRpc
      simp only [hargs, hkind]
      rfl
    have hdata := requestData_eq mem { rcudaMemcpy thrId dst src count kind with
      methodId := MethodId.cudaMemcpyH2D.code } src hfit
    refine agrees_of_work .nvbackCudaMemcpy hsend hrpc (if_pos ?_) rfl rfl ?_ ?_
      (r := waitedFor (R.cudaMemcpyHostToDevice s dst (mem src count.toNat).val count).2)
    · rw [hdata]
      show ((mem src count.toNat).val.length : Int) = Arg.argi ⟨count, 0⟩
      rw [(mem src count.toNat).property]
      exact (argi_of_lt (a := ⟨count, 0⟩) hfit).symm
    · rw [hdata]
      exact callReturn_waitedFor trivial rfl
    · rw [hdata]
      simp only [direct, directMemcpy, hkind]
      rfl
  | deviceToHost =>
    have hrpc : (CudaCall.memcpy dst src count kind).rpc thrId propSize = some
        { bare { rcudaMemcpy thrId dst src count kind with
            methodId := MethodId.cudaMemcpyD2H.code } with
          rspbuf := dst, rspbufSize := asInt count.toNat } := by
      unfold CudaCall.rpc nvbackCudaMemcpyRpc
      simp only [hargs, hkind]
      rfl
    refine agrees_of_work .nvbackCudaMemcpy hsend hrpc rfl rfl rfl ?_ ?_
      (r := filled fresh (R.cudaMemcpyDeviceToHost s src count).2)
    · refine Eq.trans (congrArg (fun data => callReturn _ ⟨true, _, data⟩) ?_)
        (callReturn_filled trivial rfl)
      rw [← leaveFilled_buffer ⟨s, infos⟩]
      exact responseData_filled hfit _ _
    · simp only [direct, directMemcpy, hkind]
      rfl
  | deviceToDevice =>
    have hrpc : (CudaCall.memcpy dst src count kind).rpc thrId propSize = some
        (bare { rcudaMemcpy thrId dst src count kind with
          methodId := MethodId.cudaMemcpyD2D.code
          flags := (rcudaMemcpy thrId dst src count kind).flags &&& ~~~0x10 &&& ~~~0x40 }) := by
      unfold CudaCall.rpc nvbackCudaMemcpyRpc
      simp only [hargs, hkind]
    refine agrees_of_work .nvbackCudaMemcpy hsend hrpc rfl rfl rfl ?_ ?_
      (r := waitedFor (R.cudaMemcpyDeviceToDevice s dst src count).2)
    · exact callReturn_waitedFor trivial rfl
    · simp only [direct, directMemcpy, hkind]
      rfl
  | other =>
    apply agrees_of_refused hsend
    · unfold CudaCall.rpc nvbackCudaMemcpyRpc
      simp only [hargs, hkind]
    · simp only [direct, directMemcpy, hkind]

section

variable {B : Backend (Node σ)} {t : Node σ} {packet : CudaPacket}

/-- The handler runs where the sizes agree. -/
theorem memcpyToSymbolSrv_h2d (hkind : CudaMemcpyKind.ofArg packet.args3 = .hostToDevice)
    (hsize : conn.requestDataSize % 2 ^ 32 = packet.args2.word0.toNat) :
    Remote.nvbackCudaMemcpyToSymbolSrv B t packet conn =
      .ok (B.run .nvbackCudaMemcpyToSymbol t packet conn) := by
  unfold Remote.nvbackCudaMemcpyToSymbolSrv
  rw [hkind]
  exact if_pos hsize

/-- Within the device the handler does nothing and returns an error. -/
theorem memcpyToSymbolSrv_d2d (hkind : CudaMemcpyKind.ofArg packet.args3 = .deviceToDevice) :
    Remote.nvbackCudaMemcpyToSymbolSrv B t packet conn = .ok (t, withErr packet 31, conn) := by
  unfold Remote.nvbackCudaMemcpyToSymbolSrv
  rw [hkind]

/-- The handler runs, with a response of the size that is asked for. -/
theorem memcpyFromSymbolSrv_d2h (hkind : CudaMemcpyKind.ofArg packet.args3 = .deviceToHost)
    (hnull : conn.pRspBuffer = none) :
    Remote.nvbackCudaMemcpyFromSymbolSrv B t packet conn =
      .ok (B.run .nvbackCudaMemcpyFromSymbol t packet
        (conn.withResponse (asInt packet.args2.word0.toNat))) := by
  unfold Remote.nvbackCudaMemcpyFromSymbolSrv
  rw [hkind]
  exact if_pos hnull

/-- Within the device it returns an error as well. -/
theorem memcpyFromSymbolSrv_d2d (hkind : CudaMemcpyKind.ofArg packet.args3 = .deviceToDevice) :
    Remote.nvbackCudaMemcpyFromSymbolSrv B t packet conn = .ok (t, withErr packet 31, conn) := by
  unfold Remote.nvbackCudaMemcpyFromSymbolSrv
  rw [hkind]

end

/-- `cudaMemcpyToSymbol`, with the variable that both sides find. -/
theorem agrees_memcpyToSymbol {hostVar src count offset kind : UInt64}
    (hS : foundVariable infos hostVar = S.hostVar hostVar)
    (hsend : Sendable (.memcpyToSymbol hostVar src count offset kind, mem)) :
    Agrees R S fresh (directBackend R fresh addr vmapTable kmapTable others) thrId infos s
      (.memcpyToSymbol hostVar src count offset kind, mem) := by
  have hargs : (rcudaMemcpyToSymbol thrId hostVar src count offset kind).args3 = ⟨kind, 0⟩ := rfl
  have hfit : count.toNat < 2 ^ 31 := hsend.1
  cases hkind : CudaMemcpyKind.ofArg ⟨kind, 0⟩ with
  | hostToDevice =>
    have hrpc : (CudaCall.memcpyToSymbol hostVar src count offset kind).rpc thrId propSize = some
        { bare (rcudaMemcpyToSymbol thrId hostVar src count offset kind) with
          reqbuf := src, reqbufSize := asInt count.toNat } := by
      unfold CudaCall.rpc nvbackCudaMemcpyToSymbolRpc
      simp only [hargs, hkind]
      rfl
    have hdata := requestData_eq mem (rcudaMemcpyToSymbol thrId hostVar src count offset kind) src
      hfit
    have hlen := (mem src count.toNat).property
    have hassert : ((mem src count.toNat).val.length : Int) % 2 ^ 32 = count.toNat := by omega
    have hwork : ∀ packet : CudaPacket, packet.args0.word0 = hostVar →
        packet.args2 = ⟨count, offset⟩ →
        nvbackCudaMemcpyToSymbolSrv R fresh addr ⟨s, infos⟩ packet
          (.requested (mem src count.toNat).val) =
            let packet := { packet with args1 := { packet.args1 with word0 := addr } }
            match S.hostVar hostVar with
            | none => leave fresh ⟨s, infos⟩ s (withErr packet 13)
            | some v =>
              let (s', r) := R.cudaMemcpyToSymbol s v (mem src count.toNat).val count offset
              leave fresh ⟨s, infos⟩ s' (withErr packet (errOf r)) := by
      rintro packet rfl hcount
      unfold nvbackCudaMemcpyToSymbolSrv
      dsimp only
      rw [hS, hcount]
      rfl
    let B := directBackend R fresh addr vmapTable kmapTable others
    let packet := B.withTables (rcudaMemcpyToSymbol thrId hostVar src count offset kind)
    have hexec : B.pktExecute propSize ⟨s, infos⟩ packet (.requested (RpcCall.requestData mem
        { bare (rcudaMemcpyToSymbol thrId hostVar src count offset kind) with
          reqbuf := src, reqbufSize := asInt count.toNat })) =
          .ok (B.run .nvbackCudaMemcpyToSymbol ⟨s, infos⟩ packet
            (.requested (mem src count.toNat).val)) := by
      rw [hdata]
      exact memcpyToSymbolSrv_h2d hkind hassert
    cases hfound : S.hostVar hostVar with
    | none =>
      rw [hfound] at hwork
      refine agrees_of_work .nvbackCudaMemcpyToSymbol hsend hrpc hexec (hwork packet rfl rfl) rfl
        (callReturn_failed trivial ⟨13, by decide⟩ rfl) ?_
      simp only [direct, directMemcpyToSymbol, hkind, hfound]
      rfl
    | some v =>
      rw [hfound] at hwork
      refine agrees_of_work .nvbackCudaMemcpyToSymbol hsend hrpc hexec (hwork packet rfl rfl) rfl
        (callReturn_waitedFor trivial rfl) ?_
      simp only [direct, directMemcpyToSymbol, hkind, hfound]
  | deviceToDevice =>
    have hrpc : (CudaCall.memcpyToSymbol hostVar src count offset kind).rpc thrId propSize = some
        (bare (rcudaMemcpyToSymbol thrId hostVar src count offset kind)) := by
      unfold CudaCall.rpc nvbackCudaMemcpyToSymbolRpc
      simp only [hargs, hkind]
    refine agrees_of_execute hsend hrpc (memcpyToSymbolSrv_d2d hkind) rfl
      (callReturn_failed trivial ⟨31, by decide⟩ rfl) ?_
    simp only [direct, directMemcpyToSymbol, hkind]
    rfl
  | deviceToHost | other =>
    apply agrees_of_refused hsend
    · unfold CudaCall.rpc nvbackCudaMemcpyToSymbolRpc
      simp only [hargs, hkind]
    · simp only [direct, directMemcpyToSymbol, hkind]

/-- `cudaMemcpyFromSymbol`, with its answer in the response buffer. -/
theorem agrees_memcpyFromSymbol {dst hostVar count offset kind : UInt64}
    (hS : foundVariable infos hostVar = S.hostVar hostVar)
    (hsend : Sendable (.memcpyFromSymbol dst hostVar count offset kind, mem)) :
    Agrees R S fresh (directBackend R fresh addr vmapTable kmapTable others) thrId infos s
      (.memcpyFromSymbol dst hostVar count offset kind, mem) := by
  have hargs : (rcudaMemcpyFromSymbol thrId dst hostVar count offset kind).args3 = ⟨kind, 0⟩ := rfl
  have hfit : count.toNat < 2 ^ 31 := hsend.1
  cases hkind : CudaMemcpyKind.ofArg ⟨kind, 0⟩ with
  | deviceToHost =>
    have hrpc : (CudaCall.memcpyFromSymbol dst hostVar count offset kind).rpc thrId propSize = some
        { bare (rcudaMemcpyFromSymbol thrId dst hostVar count offset kind) with
          rspbuf := dst, rspbufSize := asInt count.toNat } := by
      unfold CudaCall.rpc nvbackCudaMemcpyFromSymbolRpc
      simp only [hargs, hkind]
      rfl
    let B := directBackend R fresh addr vmapTable kmapTable others
    let packet := B.withTables (rcudaMemcpyFromSymbol thrId dst hostVar count offset kind)
    have hexec : B.pktExecute propSize ⟨s, infos⟩ packet (.requested []) =
        .ok (B.run .nvbackCudaMemcpyFromSymbol ⟨s, infos⟩ packet
          ((Conn.requested []).withResponse (asInt count.toNat))) :=
      memcpyFromSymbolSrv_d2h hkind rfl
    have hwork : nvbackCudaMemcpyFromSymbolSrv R fresh addr ⟨s, infos⟩ packet =
        let packet := { packet with args1 := { packet.args1 with word0 := addr } }
        match S.hostVar hostVar with
        | none => leave fresh ⟨s, infos⟩ s (withErr packet 13)
        | some v => leaveFilled fresh ⟨s, infos⟩ (R.cudaMemcpyFromSymbol s v count offset)
            packet := by
      unfold nvbackCudaMemcpyFromSymbolSrv
      rw [← hS]
      rfl
    cases hfound : S.hostVar hostVar with
    | none =>
      rw [hfound] at hwork
      refine agrees_of_work .nvbackCudaMemcpyFromSymbol hsend hrpc hexec hwork rfl
        (r := { refused with data := (fresh count.toNat).val }) ?_ ?_
      · refine Eq.trans (congrArg (fun data => callReturn _ ⟨true, _, data⟩) ?_)
          (callReturn_failed trivial ⟨13, by decide⟩ rfl)
        exact responseData_filled hfit (.requested []) fresh
      · simp only [direct, directMemcpyFromSymbol, hkind, hfound]
    | some v =>
      rw [hfound] at hwork
      refine agrees_of_work .nvbackCudaMemcpyFromSymbol hsend hrpc hexec hwork rfl
        (r := filled fresh (R.cudaMemcpyFromSymbol s v count offset).2) ?_ ?_
      · refine Eq.trans (congrArg (fun data => callReturn _ ⟨true, _, data⟩) ?_)
          (callReturn_filled trivial rfl)
        rw [← leaveFilled_buffer ⟨s, infos⟩]
        exact responseData_filled hfit _ _
      · simp only [direct, directMemcpyFromSymbol, hkind, hfound]
  | deviceToDevice =>
    have hrpc : (CudaCall.memcpyFromSymbol dst hostVar count offset kind).rpc thrId propSize = some
        (bare (rcudaMemcpyFromSymbol thrId dst hostVar count offset kind)) := by
      unfold CudaCall.rpc nvbackCudaMemcpyFromSymbolRpc
      simp only [hargs, hkind]
    refine agrees_of_execute hsend hrpc (memcpyFromSymbolSrv_d2d hkind) rfl
      (callReturn_failed trivial ⟨31, by decide⟩ rfl) ?_
    simp only [direct, directMemcpyFromSymbol, hkind]
    rfl
  | hostToDevice | other =>
    apply agrees_of_refused hsend
    · unfold CudaCall.rpc nvbackCudaMemcpyFromSymbolRpc
      simp only [hargs, hkind]
    · simp only [direct, directMemcpyFromSymbol, hkind]

/-- Every call that a program makes. The one case analysis over the calls; what the program does
with the results is not asked. -/
theorem forwarded_agrees (hprop : propSize < 2 ^ 31) (hmap : HoldsMap (some infos) live)
    (hS : S.Describes live) {x : AppCall} (h : Forwarded x) :
    Agrees R S fresh (directBackend R fresh addr vmapTable kmapTable others) thrId infos s x := by
  obtain ⟨call, mem⟩ := x
  have hsend := h.sendable
  have hdevice := h.onDevice
  cases call with
  | threadExit => exact agrees_of_work .nvbackCudaThreadExit hsend rfl rfl rfl rfl rfl rfl
  | threadSynchronize =>
    exact agrees_of_work .nvbackCudaThreadSynchronize hsend rfl rfl rfl rfl
      (callReturn_waitedFor trivial rfl) rfl
  | getDeviceCount => exact agrees_getDeviceCount hsend
  | getDeviceProperties prop device => exact agrees_getDeviceProperties hprop hsend
  | setDevice => exact agrees_of_work .nvbackCudaSetDevice hsend rfl rfl rfl rfl rfl rfl
  | configureCall => exact agrees_of_work .nvbackCudaConfigureCall hsend rfl rfl rfl rfl rfl rfl
  | setupArgument => exact agrees_setupArgument hsend
  | launch entry => exact agrees_launch (hS.foundFunction hmap entry) hsend
  | malloc => exact agrees_malloc hsend
  | free => exact agrees_of_work .nvbackCudaFree hsend rfl rfl rfl rfl rfl rfl
  | memcpy => exact agrees_memcpy hsend
  | memcpyToSymbol hostVar =>
    exact agrees_memcpyToSymbol (hS.foundVariable hmap hostVar) hsend
  | memcpyFromSymbol dst hostVar =>
    exact agrees_memcpyFromSymbol (hS.foundVariable hmap hostVar) hsend
  | _ => exact hdevice.elim

end

/-! ## Whole programs -/

section

variable {propSize : PropSize} {σ : Type} {R : CudaRuntime propSize σ} {S : Symbols}
  {fresh : FreshBlock} {infos : List FatcubinInfo} {live : Live} {s : σ} {α : Type}
  {p : Program AppCall CallReturn α}

/-- A program over the connection: what it returns, what its calls return and what it leaves the
device as is what it would on the node of the application, however the two sides are interleaved.

The errors are the exception, and it is said which of them are seen and as what. -/
theorem program_transparent (thrId addr vmapTable kmapTable : UInt64)
    (others : Srv → Node σ → CudaPacket → Conn → Outcome (Node σ)) (hprop : propSize < 2 ^ 31)
    (hmap : HoldsMap (some infos) live) (hS : S.Describes live)
    (h : p.Safe (Directly R S fresh) Forwarded s) :
    ∃ rs s' a, Program.Runs (Directly R S fresh) p s rs s' a ∧
      Program.RunsRemotely (interposed thrId propSize)
        ((directBackend R fresh addr vmapTable kmapTable others).turn propSize)
        p ⟨s, infos⟩ rs ⟨s', infos⟩ a := by
  let B := directBackend R fresh addr vmapTable kmapTable others
  have hboth : ∀ (s : σ) (t : Node σ) (x : AppCall), t = ⟨s, infos⟩ → Forwarded x → ∃ u v r,
      Directly R S fresh s x u r ∧ B.Serves propSize thrId t x v r ∧ v = ⟨u, infos⟩ := by
    rintro s _ x rfl hx
    obtain ⟨s', r, hdirect, hserves⟩ := forwarded_agrees hprop hmap hS hx
    exact ⟨s', ⟨s', infos⟩, r, hdirect, hserves, rfl⟩
  obtain ⟨rs, s', t', a, hruns, hserved, rfl⟩ :=
    h.runs_both (R := fun s t => t = (⟨s, infos⟩ : Node σ)) rfl hboth
  exact ⟨rs, s', a, hruns, Backend.runs_remotely hprop hserved⟩

end

/-- The runtime of a device that has room for one block, at 0x1000, and that no module has been
loaded to. -/
def oneBlock : CudaRuntime 8 (Option Bytes) where
  cudaGetDeviceCount s := (s, .ok 1)
  cudaGetDeviceProperties s _ := (s, .ok (zeroBlock 8))
  cudaSetDevice s _ := (s, .ok ())
  cudaMalloc
    | none, size => (some (zeroBlock size.toNat).val, .ok 0x1000)
    | some bs, _ => (some bs, .error ⟨2, by decide⟩)
  cudaFree _ _ := (none, .ok ())
  cudaMemcpyHostToDevice s dst src _ :=
    match s with
    | some bs =>
      if dst = 0x1000 ∧ src.length ≤ bs.length then (some (src ++ bs.drop src.length), .ok ())
      else (some bs, .error ⟨11, by decide⟩)
    | none => (none, .error ⟨11, by decide⟩)
  cudaMemcpyDeviceToHost s src count :=
    match s with
    | some bs =>
      if h : src = 0x1000 ∧ count.toNat ≤ bs.length then
        (some bs, .ok ⟨bs.take count.toNat, List.length_take_of_le h.2⟩)
      else (some bs, .error ⟨11, by decide⟩)
    | none => (none, .error ⟨11, by decide⟩)
  cudaMemcpyDeviceToDevice s _ _ _ := (s, .error ⟨11, by decide⟩)
  cudaMemcpyToSymbol s _ _ _ _ := (s, .error ⟨13, by decide⟩)
  cudaMemcpyFromSymbol s _ _ _ := (s, .error ⟨13, by decide⟩)
  cudaConfigureCall s _ _ _ _ := (s, .ok ())
  cudaSetupArgument s _ _ _ := (s, .ok ())
  cudaLaunch s _ := (s, .error ⟨8, by decide⟩)
  cudaThreadSynchronize s := (s, .ok ())
  cudaThreadExit _ := (none, .ok ())

/-- A program that copies four bytes to the device and back. -/
def thereAndBack : Program AppCall CallReturn Bytes :=
  .call (.malloc 0x100 4, zeros) fun r =>
    match r.taken with
    | .pointer p =>
      .call (.memcpy p 0x200 4 1, zeros) fun _ =>
        .call (.memcpy 0x300 p 4 2, zeros) fun r => .done r.data
    | _ => .done []

/-- A byte is copied to the device and back. -/
theorem program_transparent_thereAndBack : ∃ rs s' a,
    Program.Runs (Directly oneBlock ⟨fun _ => none, fun _ => none⟩ zeroBlock) thereAndBack none rs
      s' a ∧
      Program.RunsRemotely (interposed 1 8)
        ((directBackend oneBlock zeroBlock 0 0 0 fun _ t packet _ => leave zeroBlock t t.device
          packet).turn 8) thereAndBack ⟨none, []⟩ rs ⟨s', []⟩ a := by
  have hmap : HoldsMap (some []) fun _ => none :=
    Represented.holdsMap .nil follows_start.wellFormed
  have hS : Symbols.Describes ⟨fun _ => none, fun _ => none⟩ fun _ => none := by
    constructor
    · intro entry f
      simp [Launches]
    · intro hostVar v
      simp [Declares]
  have hto : CudaMemcpyKind.ofArgi (Arg.argi ⟨1, 0⟩) = .hostToDevice := rfl
  have hfrom : CudaMemcpyKind.ofArgi (Arg.argi ⟨2, 0⟩) = .deviceToHost := rfl
  refine program_transparent 1 0 0 0 _ (by decide) hmap hS ?_
  refine ⟨⟨⟨trivial, trivial⟩, trivial⟩, ?_⟩
  intro u r _
  dsimp only
  split
  · refine ⟨⟨⟨by simp [CudaCall.SizesFit], by simp [CudaCall.BuffersGiven, hto]⟩, trivial⟩, ?_⟩
    intro v r _
    refine ⟨⟨⟨by simp [CudaCall.SizesFit], by simp [CudaCall.BuffersGiven, hfrom]⟩, trivial⟩, ?_⟩
    intro w r _
    trivial
  · trivial

end GpuVirtmem.Backend.Direct
