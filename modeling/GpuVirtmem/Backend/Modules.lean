import GpuVirtmem.Interposer.FatBinary4
import GpuVirtmem.Lib.KeyedList
import GpuVirtmem.Lib.Run

/-!
# The registry of modules (`remote/remote_api_wrapper.c`, `interposer/libciutils.c`)

A backend keeps a record of each module its client has registered, with the functions and variables
of the module, in `fatCInfoArr`. Registrations append to the array and to the records, and what is
unregistered is replaced by the last record. The array is compared with the map from the handles of
the live modules to what was registered for them.

Two steps are taken in every request, one on the array (`serve`) and one on the map (`specify`), and
the array is to represent the map all along. For all requests but one kind it does. `freeFatBinary`
takes the block of an older and smaller structure for that of a newer one, and looks for pointers
behind its end; what it finds there is the heap's, and is a parameter of the request.
-/

namespace GpuVirtmem.Backend

open Lib Interposer

/-- `MAX_REGISTERED_FUNCS`. -/
def maxRegisteredFuncs : Nat := 10

/-- `MAX_REGISTERED_VARS`. -/
def maxRegisteredVars : Nat := 10

/-- `reg_func_args_t`, as decoded from the request. -/
structure RegFuncArgs where
  fatCubinHandle : Nat
  hostFun : Option CString
  hostFEaddr : Nat

/-- `reg_var_args_t`, as decoded from the request. -/
structure RegVarArgs where
  fatCubinHandle : Nat
  hostVar : Nat
  deviceName : Option CString

/-- What is registered for a module, in the order of the registrations. -/
structure Module where
  fatCubin : Option FatCudaBinary2
  regVars : List RegVarArgs
  regFns : List RegFuncArgs

/-- `fatcubin_info_t`, with the parts of `variables` and `reg_fns` that are in use. -/
structure FatcubinInfo extends Module where
  fatCubinHandle : Nat
  regVars_le : regVars.length ≤ maxRegisteredVars
  regFns_le : regFns.length ≤ maxRegisteredFuncs

/-- `fatCInfoArr`, NULL before the first module is registered. -/
abbrev FatCInfoArr := Option (List FatcubinInfo)

/-- The words behind the block of a `__cudaFatCudaBinary2`, under the names that the larger
`__cudaFatCudaBinary` has for them. -/
structure BehindBlock where
  key : Nat
  ident : Nat
  usageMode : Nat
  ptx : Nat
  cubin : Nat
  debug : Nat
  elf : Nat

/-- All of the words are NULL. -/
def BehindBlock.IsNull (behind : BehindBlock) : Prop :=
  behind.key = 0 ∧ behind.ident = 0 ∧ behind.usageMode = 0 ∧ behind.ptx = 0 ∧ behind.cubin = 0 ∧
    behind.debug = 0 ∧ behind.elf = 0

instance (behind : BehindBlock) : Decidable behind.IsNull :=
  inferInstanceAs (Decidable (_ ∧ _))

/-! ## The requests -/

/-- `g_fcia_idx`, where `none` stands for -1. -/
def gFciaIdx (arr : FatCInfoArr) (fatCubinHandle : Nat) : Option Nat :=
  match arr with
  | none => none
  | some infos => infos.findIdx? fun e => e.fatCubinHandle == fatCubinHandle

/-- `g_fcia_elidx`: the record found, with its index. -/
def gFciaElidx (arr : FatCInfoArr) (fatCubinHandle : Nat) : Option (FatcubinInfo × Nat) := do
  let infos ← arr
  let idx ← gFciaIdx arr fatCubinHandle
  let info ← infos[idx]?
  return (info, idx)

/-- `__nvback_cudaRegisterFatBinary2_srv`, for which the runtime returns `handle`. -/
def registerFatBinary2 (arr : FatCInfoArr) (fatCubin : FatCudaBinary2) (handle : Nat) :
    List FatcubinInfo :=
  arr.getD [] ++ [
    { fatCubin := some fatCubin
      regVars := []
      regFns := []
      fatCubinHandle := handle
      regVars_le := Nat.zero_le _
      regFns_le := Nat.zero_le _ }]

/-- What `__nvback_cudaRegisterFunction_srv` and `__nvback_cudaRegisterVar_srv` share: the record is
found, and extended if there is room. -/
def registerIn (arr : FatCInfoArr) (fatCubinHandle : Nat)
    (extend : FatcubinInfo → Option FatcubinInfo) : Except CFail (List FatcubinInfo) :=
  match gFciaElidx arr fatCubinHandle with
  | none => .error .badAccess -- a warning only, and then the record is read through NULL
  | some (pFcI, idx) =>
    if fatCubinHandle = pFcI.fatCubinHandle then
      match extend pFcI with
      | some info => .ok ((arr.getD []).set idx info)
      | none => .error .assertFailed
    else .error .assertFailed

/-- `reg_fns[num_reg_fns++] = pA`, with the assertion before it. -/
def FatcubinInfo.addFunction (pA : RegFuncArgs) (info : FatcubinInfo) : Option FatcubinInfo :=
  if h : info.regFns.length < maxRegisteredFuncs then
    some { info with
      regFns := info.regFns ++ [pA]
      regFns_le := by rw [List.length_append]; exact h }
  else none

/-- `variables[num_reg_vars++] = pA`, with the assertion before it. -/
def FatcubinInfo.addVar (pA : RegVarArgs) (info : FatcubinInfo) : Option FatcubinInfo :=
  if h : info.regVars.length < maxRegisteredVars then
    some { info with
      regVars := info.regVars ++ [pA]
      regVars_le := by rw [List.length_append]; exact h }
  else none

/-- `__nvback_cudaRegisterFunction_srv`. -/
def registerFunction (arr : FatCInfoArr) (pA : RegFuncArgs) : Except CFail (List FatcubinInfo) :=
  registerIn arr pA.fatCubinHandle (FatcubinInfo.addFunction pA)

/-- `__nvback_cudaRegisterVar_srv`. -/
def registerVar (arr : FatCInfoArr) (pA : RegVarArgs) : Except CFail (List FatcubinInfo) :=
  registerIn arr pA.fatCubinHandle (FatcubinInfo.addVar pA)

/-- `freeFatBinary`. It takes the block for the larger `__cudaFatCudaBinary`, and what it reads
behind it for pointers, which it frees or follows. -/
def freeFatBinary (fatCubin : Option FatCudaBinary2) (behind : BehindBlock) : Except CFail Unit :=
  match fatCubin with
  | none => .ok ()
  | some _ => if behind.IsNull then .ok () else .error .badAccess

/-- `cleanFatCubinInfo`. -/
def cleanFatCubinInfo (info : FatcubinInfo) (behind : BehindBlock) : Except CFail FatcubinInfo := do
  freeFatBinary info.fatCubin behind
  return {
    fatCubin := none
    regVars := []
    regFns := []
    fatCubinHandle := 0
    regVars_le := Nat.zero_le _
    regFns_le := Nat.zero_le _ }

/-- `__nvback_cudaUnregisterFatBinary_srv`. -/
def unregisterFatBinary (arr : FatCInfoArr) (pFCHandle : Nat) (behind : BehindBlock) :
    Except CFail (List FatcubinInfo) :=
  match gFciaElidx arr pFCHandle with
  | none => .error .assertFailed
  | some (pFCI, pFCIdx) => do
    let cleaned ← cleanFatCubinInfo pFCI behind
    return removeFast ((arr.getD []).set pFCIdx cleaned) pFCIdx

/-- The search of `nvbackCudaLaunch_srv`. -/
def launchSearch (arr : FatCInfoArr) (arg : Nat) : Except CFail (Option RegFuncArgs) :=
  match arr with
  | none => .error .badAccess -- `fatCInfoArr->len` is read through NULL
  | some infos => .ok (infos.findSome? fun p => p.regFns.find? fun f => f.hostFEaddr == arg)

/-- `g_fcia_host_var`. The scan of a record stops at the first match, the scan of the array does
not. -/
def gFciaHostVar (arr : FatCInfoArr) (hostVar : Nat) : Option (FatcubinInfo × Nat) :=
  match arr with
  | none => none
  | some infos => lastMatch (fun p =>
      (p.regVars.findIdx? fun v => v.hostVar == hostVar).map fun j => (p, j)) infos

/-! ## Sequences of requests -/

/-- A request, with what the runtime answers to it or what lies behind the block it frees. -/
inductive ModuleRequest
  | registerFatBinary2 (fatCubin : FatCudaBinary2) (handle : Nat)
  | registerFunction (pA : RegFuncArgs)
  | registerVar (pA : RegVarArgs)
  | unregisterFatBinary (pFCHandle : Nat) (behind : BehindBlock)

/-- The modules that are live, by their handles. -/
abbrev Live := Nat → Option Module

namespace ModuleRequest

/-- The array after the request. -/
def serve (arr : FatCInfoArr) : ModuleRequest → Except CFail (List FatcubinInfo)
  | registerFatBinary2 fatCubin handle => .ok (Backend.registerFatBinary2 arr fatCubin handle)
  | registerFunction pA => Backend.registerFunction arr pA
  | registerVar pA => Backend.registerVar arr pA
  | unregisterFatBinary pFCHandle behind => Backend.unregisterFatBinary arr pFCHandle behind

/-- The map after the request. -/
def specify (live : Live) : ModuleRequest → Live
  | registerFatBinary2 fatCubin handle => Function.update live handle (some ⟨some fatCubin, [], []⟩)
  | registerFunction pA => Function.update live pA.fatCubinHandle
      ((live pA.fatCubinHandle).map fun m => { m with regFns := m.regFns ++ [pA] })
  | registerVar pA => Function.update live pA.fatCubinHandle
      ((live pA.fatCubinHandle).map fun m => { m with regVars := m.regVars ++ [pA] })
  | unregisterFatBinary pFCHandle _ => Function.update live pFCHandle none

/-- What is promised of a request: the handle that the runtime returns is not that of a live module,
and any other request names a live one. There is room in the record, and the host address of a
function is not one of another live module. -/
def Admissible (live : Live) : ModuleRequest → Prop
  | registerFatBinary2 _ handle => live handle = none
  | registerFunction pA =>
    ∃ m, live pA.fatCubinHandle = some m ∧ m.regFns.length < maxRegisteredFuncs ∧
      ∀ h m', live h = some m' → h ≠ pA.fatCubinHandle →
        ∀ f ∈ m'.regFns, f.hostFEaddr ≠ pA.hostFEaddr
  | registerVar pA =>
    ∃ m, live pA.fatCubinHandle = some m ∧ m.regVars.length < maxRegisteredVars
  | unregisterFatBinary pFCHandle _ => ∃ m, live pFCHandle = some m

/-- Where the request frees a block, there is nothing but NULL behind it. -/
def ReadsNull : ModuleRequest → Prop
  | unregisterFatBinary _ behind => behind.IsNull
  | _ => True

end ModuleRequest

/-- A backend process, until it fails, and the modules that are live. -/
structure Registry where
  fatCInfoArr : Except CFail FatCInfoArr
  live : Live

namespace Registry

/-- Nothing has been registered. -/
def start : Registry := ⟨.ok none, fun _ => none⟩

/-- The request on the array and on the map. -/
def serve (s : Registry) (e : ModuleRequest) : Registry where
  fatCInfoArr := do
    let arr ← s.fatCInfoArr
    let infos ← e.serve arr
    return some infos
  live := e.specify s.live

/-- One request is served. -/
structure Step (s : Registry) (e : ModuleRequest) (t : Registry) : Prop where
  admissible : e.Admissible s.live
  served : t = s.serve e

/-- The record that belongs to a function that is registered in a live module: the first one for its
address there. -/
def Launches (live : Live) (arg : Nat) (f : RegFuncArgs) : Prop :=
  ∃ h m, live h = some m ∧ (m.regFns.find? fun f => f.hostFEaddr == arg) = some f

/-- The array holds under the handle of each live module what is registered for it. -/
abbrev Represented (arr : FatCInfoArr) (live : Live) : Prop :=
  Represents FatcubinInfo.fatCubinHandle FatcubinInfo.toModule (arr.getD []) live

/-- The array holds what the map does, and the searches find what is registered. -/
structure HoldsMap (arr : FatCInfoArr) (live : Live) : Prop where
  represents : Represented arr live
  launch : ∀ arg, ∃ found, launchSearch arr arg = .ok found ∧
    (∀ f, found = some f ↔ Launches live arg f) ∧
    (found.isSome ↔ ∃ h m, live h = some m ∧ ∃ f ∈ m.regFns, f.hostFEaddr = arg)
  hostVar : ∀ hostVar p j, gFciaHostVar arr hostVar = some (p, j) →
    live p.fatCubinHandle = some p.toModule ∧ ∃ v, p.regVars[j]? = some v ∧ v.hostVar = hostVar
  hostVarFound : ∀ hostVar, (gFciaHostVar arr hostVar).isSome ↔
    ∃ h m, live h = some m ∧ ∃ v ∈ m.regVars, v.hostVar = hostVar

/-- No assertion has failed, and the registry is the map. -/
def IsMap (s : Registry) : Prop := ∃ arr, s.fatCInfoArr = .ok arr ∧ HoldsMap arr s.live

end Registry

/-! ## One request -/

namespace Registry

/-- No host address of a function belongs to two live modules, and each of them has its block. -/
structure WellFormed (live : Live) : Prop where
  loaded : ∀ h m, live h = some m → ∃ fatCubin, m.fatCubin = some fatCubin
  functions : ∀ h m h' m', live h = some m → live h' = some m' → h ≠ h' →
    ∀ f ∈ m.regFns, ∀ f' ∈ m'.regFns, f.hostFEaddr ≠ f'.hostFEaddr

section

variable {arr : FatCInfoArr} {live : Live} {h : Nat} {m m' : Module}

/-- A live module is found by its handle. -/
theorem gFciaElidx_of_live (hrep : Represented arr live) (hm : live h = some m) :
    ∃ xs a ys, arr.getD [] = xs ++ a :: ys ∧ a.fatCubinHandle = h ∧ a.toModule = m ∧
      gFciaElidx arr h = some (a, xs.length) := by
  obtain ⟨xs, a, ys, hl, hkey, hval, hidx⟩ := hrep.findIdx hm
  refine ⟨xs, a, ys, hl, hkey, hval, ?_⟩
  cases arr with
  | none => simp at hl
  | some infos =>
    have hget : infos[xs.length]? = some a := by
      rw [show infos = xs ++ a :: ys from hl]
      simp
    have hfound : gFciaIdx (some infos) h = some xs.length := hidx
    simp only [gFciaElidx, hfound, Option.bind_eq_bind, Option.bind_some, hget, Option.pure_def]

/-- A record that has room is extended in its place. -/
theorem registerIn_represented {extend : FatcubinInfo → Option FatcubinInfo}
    (hrep : Represented arr live) (hm : live h = some m)
    (hextend : ∀ a : FatcubinInfo, a.toModule = m →
      ∃ a', extend a = some a' ∧ a'.fatCubinHandle = a.fatCubinHandle ∧ a'.toModule = m') :
    ∃ infos, registerIn arr h extend = .ok infos ∧
      Represented (some infos) (Function.update live h (some m')) := by
  obtain ⟨xs, a, ys, hl, hkey, hval, hfound⟩ := gFciaElidx_of_live hrep hm
  obtain ⟨a', ha', hkey', hval'⟩ := hextend a hval
  have hserved : registerIn arr h extend = .ok (xs ++ a' :: ys) := by
    simp [registerIn, hfound, hkey, ha', hl]
  refine ⟨_, hserved, ?_⟩
  rw [Represented, hl] at hrep
  have hreplaced := hrep.replace hkey'
  rwa [hkey, hval'] at hreplaced

/-- A function goes to the module of its handle. -/
theorem registerFunction_represented {pA : RegFuncArgs} (hrep : Represented arr live)
    (hm : live pA.fatCubinHandle = some m) (hroom : m.regFns.length < maxRegisteredFuncs) :
    ∃ infos, registerFunction arr pA = .ok infos ∧ Represented (some infos)
      (Function.update live pA.fatCubinHandle (some { m with regFns := m.regFns ++ [pA] })) := by
  apply registerIn_represented hrep hm
  rintro a rfl
  refine ⟨_, dif_pos hroom, rfl, rfl⟩

/-- So does a variable. -/
theorem registerVar_represented {pA : RegVarArgs} (hrep : Represented arr live)
    (hm : live pA.fatCubinHandle = some m) (hroom : m.regVars.length < maxRegisteredVars) :
    ∃ infos, registerVar arr pA = .ok infos ∧ Represented (some infos)
      (Function.update live pA.fatCubinHandle (some { m with regVars := m.regVars ++ [pA] })) := by
  apply registerIn_represented hrep hm
  rintro a rfl
  exact ⟨_, dif_pos hroom, rfl, rfl⟩

/-- The record of a module is removed if there is nothing but NULL behind its block, and otherwise
the process fails: what is behind the block is freed, or read as an array of pointers. -/
theorem unregisterFatBinary_cases {behind : BehindBlock} {fatCubin : FatCudaBinary2}
    (hrep : Represented arr live) (hm : live h = some m) (hblock : m.fatCubin = some fatCubin) :
    (behind.IsNull ∧ ∃ infos, unregisterFatBinary arr h behind = .ok infos ∧
      Represented (some infos) (Function.update live h none)) ∨
    (¬ behind.IsNull ∧ unregisterFatBinary arr h behind = .error .badAccess) := by
  obtain ⟨xs, a, ys, hl, rfl, rfl, hfound⟩ := gFciaElidx_of_live hrep hm
  by_cases hnull : behind.IsNull
  · refine .inl ⟨hnull, ?_⟩
    simp only [unregisterFatBinary, hfound, cleanFatCubinInfo, freeFatBinary, hblock, if_pos hnull,
      bind, Except.bind, pure, Except.pure]
    refine ⟨_, rfl, ?_⟩
    rw [Represented, hl] at hrep
    rw [hl, List.set_append_right _ _ (Nat.le_refl _), Nat.sub_self, List.set_cons_zero]
    exact hrep.removeFast _
  · refine .inr ⟨hnull, ?_⟩
    simp only [unregisterFatBinary, hfound, cleanFatCubinInfo, freeFatBinary, hblock, if_neg hnull,
      bind, Except.bind]

/-- A request that reads nothing but NULL behind a block is served as specified; any other one ends
the process. -/
theorem serve_cases {e : ModuleRequest} (hrep : Represented arr live) (hwf : WellFormed live)
    (ha : e.Admissible live) :
    (e.ReadsNull ∧ ∃ infos, e.serve arr = .ok infos ∧
      Represented (some infos) (e.specify live)) ∨
    (¬ e.ReadsNull ∧ e.serve arr = .error .badAccess) := by
  cases e with
  | registerFatBinary2 fatCubin handle => exact .inl ⟨trivial, _, rfl, hrep.append ha⟩
  | registerFunction pA =>
    obtain ⟨m, hm, hroom, _⟩ := ha
    rw [ModuleRequest.specify, hm, Option.map_some]
    exact .inl ⟨trivial, registerFunction_represented hrep hm hroom⟩
  | registerVar pA =>
    obtain ⟨m, hm, hroom⟩ := ha
    rw [ModuleRequest.specify, hm, Option.map_some]
    exact .inl ⟨trivial, registerVar_represented hrep hm hroom⟩
  | unregisterFatBinary pFCHandle behind =>
    obtain ⟨m, hm⟩ := ha
    obtain ⟨fatCubin, hblock⟩ := hwf.loaded pFCHandle m hm
    exact unregisterFatBinary_cases hrep hm hblock

end

/-! ## What the searches find -/

section

variable {arr : FatCInfoArr} {infos : List FatcubinInfo} {live : Live} {h : Nat} {m : Module}
  {e : ModuleRequest}

/-- A module whose functions have addresses of their own joins the others. -/
theorem WellFormed.update (hwf : WellFormed live) (hloaded : ∃ c, m.fatCubin = some c)
    (hnew : ∀ h' m', live h' = some m' → h' ≠ h →
      ∀ f' ∈ m'.regFns, ∀ f ∈ m.regFns, f'.hostFEaddr ≠ f.hostFEaddr) :
    WellFormed (Function.update live h (some m)) := by
  refine ⟨fun k n hk => ?_, fun k n k' n' hk hk' hne => ?_⟩
  · by_cases hkh : k = h
    · rw [hkh, Function.update_self] at hk
      cases hk
      exact hloaded
    · rw [Function.update_of_ne hkh] at hk
      exact hwf.loaded k n hk
  · by_cases hkh : k = h
    · rw [hkh, Function.update_self] at hk
      cases hk
      have hkh' : k' ≠ h := fun heq => hne (hkh.trans heq.symm)
      rw [Function.update_of_ne hkh'] at hk'
      intro f hf f' hf' heq
      exact hnew k' n' hk' hkh' f' hf' f hf heq.symm
    · rw [Function.update_of_ne hkh] at hk
      by_cases hkh' : k' = h
      · rw [hkh', Function.update_self] at hk'
        cases hk'
        exact hnew k n hk hkh
      · rw [Function.update_of_ne hkh'] at hk'
        exact hwf.functions k n k' n' hk hk' hne

/-- A module that is removed leaves the others apart. -/
theorem WellFormed.remove (hwf : WellFormed live) : WellFormed (Function.update live h none) := by
  have hmem : ∀ k n, Function.update live h none k = some n → live k = some n := by
    intro k n hk
    by_cases hkh : k = h
    · rw [hkh, Function.update_self] at hk
      cases hk
    · rwa [Function.update_of_ne hkh] at hk
  refine ⟨fun k n hk => hwf.loaded k n (hmem k n hk), fun k n k' n' hk hk' => ?_⟩
  exact hwf.functions k n k' n' (hmem k n hk) (hmem k' n' hk')

/-- What is promised of a request keeps the addresses apart. -/
theorem WellFormed.specify (hwf : WellFormed live) (ha : e.Admissible live) :
    WellFormed (e.specify live) := by
  cases e with
  | registerFatBinary2 fatCubin handle =>
    apply hwf.update ⟨fatCubin, rfl⟩
    intro _ _ _ _ _ _ f hf
    cases hf
  | registerFunction pA =>
    obtain ⟨m, hm, _, hapart⟩ := ha
    rw [ModuleRequest.specify, hm, Option.map_some]
    apply hwf.update
    · exact hwf.loaded pA.fatCubinHandle m hm
    · intro k n hk hne f' hf' f hf
      rcases List.mem_append.mp hf with hf | hf
      · exact hwf.functions k n _ m hk hm hne f' hf' f hf
      · obtain rfl := List.mem_singleton.mp hf
        exact hapart k n hk hne f' hf'
  | registerVar pA =>
    obtain ⟨m, hm, _⟩ := ha
    rw [ModuleRequest.specify, hm, Option.map_some]
    apply hwf.update
    · exact hwf.loaded pA.fatCubinHandle m hm
    · intro k n hk hne
      exact hwf.functions k n _ m hk hm hne
  | unregisterFatBinary pFCHandle behind => exact hwf.remove

/-- At most one record has a function of the address that is searched for. -/
theorem find?_hostFEaddr_unique (hrep : Represented (some infos) live) (hwf : WellFormed live)
    {arg : Nat} {a b : FatcubinInfo} (ha : a ∈ infos) (hb : b ∈ infos)
    (hfa : (a.regFns.find? fun f => f.hostFEaddr == arg).isSome)
    (hfb : (b.regFns.find? fun f => f.hostFEaddr == arg).isSome) :
    (a.regFns.find? fun f => f.hostFEaddr == arg) =
      b.regFns.find? fun f => f.hostFEaddr == arg := by
  obtain ⟨f, hf, hfaddr⟩ := List.find?_isSome.mp hfa
  obtain ⟨g, hg, hgaddr⟩ := List.find?_isSome.mp hfb
  rw [beq_iff_eq] at hfaddr hgaddr
  have hkey : a.fatCubinHandle = b.fatCubinHandle := by
    by_contra hne
    exact hwf.functions _ _ _ _ (hrep.val_of_mem ha) (hrep.val_of_mem hb) hne f hf g hg
      (hfaddr.trans hgaddr.symm)
  rw [hrep.eq_of_key ha hb hkey]

/-- The nested scan of a launch ends on the function that the map has at the address. -/
theorem launchScan_eq_some (hrep : Represented (some infos) live) (hwf : WellFormed live)
    {arg : Nat} {f : RegFuncArgs} :
    (infos.findSome? fun p => p.regFns.find? fun f => f.hostFEaddr == arg) = some f ↔
      Launches live arg f := by
  rw [findSome?_eq_some_iff_mem fun a ha b hb => find?_hostFEaddr_unique hrep hwf ha hb]
  constructor
  · rintro ⟨a, ha, hfa⟩
    exact ⟨_, _, hrep.val_of_mem ha, hfa⟩
  · rintro ⟨h, m, hm, hfm⟩
    obtain ⟨a, ha, -, rfl⟩ := (hrep.mem h m).mp hm
    exact ⟨a, ha, hfm⟩

/-- The search of a launch finds a function exactly if it is registered in a live module. -/
theorem launchSearch_spec (hrep : Represented (some infos) live) (hwf : WellFormed live)
    (arg : Nat) :
    ∃ found, launchSearch (some infos) arg = .ok found ∧
      (∀ f, found = some f ↔ Launches live arg f) ∧
      (found.isSome ↔ ∃ h m, live h = some m ∧ ∃ f ∈ m.regFns, f.hostFEaddr = arg) := by
  refine ⟨_, rfl, fun f => launchScan_eq_some hrep hwf, ?_⟩
  rw [Option.isSome_iff_exists]
  constructor
  · rintro ⟨f, hf⟩
    obtain ⟨h, m, hm, hfm⟩ := (launchScan_eq_some hrep hwf).mp hf
    have haddr := List.find?_some hfm
    exact ⟨h, m, hm, f, List.mem_of_find?_eq_some hfm, beq_iff_eq.mp haddr⟩
  · rintro ⟨h, m, hm, f, hf, rfl⟩
    have hsome : (m.regFns.find? fun g => g.hostFEaddr == f.hostFEaddr).isSome :=
      List.find?_isSome.mpr ⟨f, hf, beq_self_eq_true _⟩
    obtain ⟨g, hg⟩ := Option.isSome_iff_exists.mp hsome
    exact ⟨g, (launchScan_eq_some hrep hwf).mpr ⟨h, m, hm, hg⟩⟩

/-- The record and the index that are returned are those of the variable. -/
theorem gFciaHostVar_mem {hostVar j : Nat} {p : FatcubinInfo} (hrep : Represented (some infos) live)
    (hfound : gFciaHostVar (some infos) hostVar = some (p, j)) :
    live p.fatCubinHandle = some p.toModule ∧
      ∃ v, p.regVars[j]? = some v ∧ v.hostVar = hostVar := by
  obtain ⟨a, ha, hmatch⟩ := mem_of_lastMatch hfound
  obtain ⟨i, hi, heq⟩ := Option.map_eq_some_iff.mp hmatch
  cases heq
  obtain ⟨hlt, hvar, _⟩ := List.findIdx?_eq_some_iff_getElem.mp hi
  exact ⟨hrep.val_of_mem ha, _, List.getElem?_eq_getElem hlt, beq_iff_eq.mp hvar⟩

/-- A variable is found exactly if it is registered. -/
theorem gFciaHostVar_isSome (hrep : Represented (some infos) live) (hostVar : Nat) :
    (gFciaHostVar (some infos) hostVar).isSome ↔
      ∃ h m, live h = some m ∧ ∃ v ∈ m.regVars, v.hostVar = hostVar := by
  unfold gFciaHostVar
  rw [lastMatch_isSome]
  simp only [Option.isSome_map, List.findIdx?_isSome, List.any_eq_true, beq_iff_eq]
  constructor
  · rintro ⟨a, ha, v, hv, hvar⟩
    exact ⟨_, _, hrep.val_of_mem ha, v, hv, hvar⟩
  · rintro ⟨h, m, hm, v, hv, hvar⟩
    obtain ⟨a, ha, -, rfl⟩ := (hrep.mem h m).mp hm
    exact ⟨a, ha, v, hv, hvar⟩

/-- Once there is an array, the searches find what the map holds. Before, some of them read through
NULL. -/
theorem Represented.holdsMap (hrep : Represented (some infos) live) (hwf : WellFormed live) :
    HoldsMap (some infos) live where
  represents := hrep
  launch := launchSearch_spec hrep hwf
  hostVar _ _ _ := gFciaHostVar_mem hrep
  hostVarFound := gFciaHostVar_isSome hrep

end

/-! ## Whole sequences -/

section

variable {s t : Registry} {e : ModuleRequest} {es : List ModuleRequest}

/-- What holds after every sequence: the array represents the map as long as nothing but NULL has
been read behind a block, and otherwise the process has failed. -/
structure Follows (es : List ModuleRequest) (s : Registry) : Prop where
  wellFormed : WellFormed s.live
  outcome : ((∀ e ∈ es, e.ReadsNull) ∧ ∃ arr, s.fatCInfoArr = .ok arr ∧
      Represented arr s.live ∧ (arr = none ↔ es = [])) ∨
    ((¬ ∀ e ∈ es, e.ReadsNull) ∧ ∃ c, s.fatCInfoArr = .error c)

/-- Nothing has been registered. -/
theorem follows_start : Follows [] start where
  wellFormed := ⟨(fun _ _ h => nomatch h), (fun _ _ _ _ h => nomatch h)⟩
  outcome := .inl ⟨List.forall_mem_nil _, none, rfl, .nil, iff_of_true rfl rfl⟩

/-- A request that is served leaves an array. -/
theorem serve_ok {arr : FatCInfoArr} {infos : List FatcubinInfo} (harr : s.fatCInfoArr = .ok arr)
    (hserved : e.serve arr = .ok infos) : (s.serve e).fatCInfoArr = .ok (some infos) := by
  simp only [serve, harr, hserved, bind, Except.bind, pure, Except.pure]

/-- One that is not ends the process. -/
theorem serve_error {arr : FatCInfoArr} {c : CFail} (harr : s.fatCInfoArr = .ok arr)
    (hserved : e.serve arr = .error c) : (s.serve e).fatCInfoArr = .error c := by
  simp only [serve, harr, hserved, bind, Except.bind]

/-- The step lemma: the array is the map, or the process has failed at a request that read behind a
block. -/
theorem Step.follows (h : Step s e t) (hs : Follows es s) : Follows (es ++ [e]) t := by
  obtain ⟨hadmissible, rfl⟩ := h
  refine ⟨hs.wellFormed.specify hadmissible, ?_⟩
  simp only [List.forall_mem_append, List.forall_mem_singleton]
  rcases hs.outcome with ⟨hnull, arr, harr, hrep, _⟩ | ⟨hread, c, hfail⟩
  · rcases serve_cases hrep hs.wellFormed hadmissible with
      ⟨he, infos, hserved, hrep'⟩ | ⟨he, hserved⟩
    · exact .inl ⟨⟨hnull, he⟩, some infos, serve_ok harr hserved, hrep', by simp⟩
    · exact .inr ⟨fun hall => he hall.2, .badAccess, serve_error harr hserved⟩
  · -- nothing is served once the process has failed
    refine .inr ⟨fun hall => hread hall.1, c, ?_⟩
    simp only [serve, hfail, bind, Except.bind]

/-- The registry is the map exactly when a module has been registered and there was never anything
but NULL behind a block that was freed.

That no function or variable is lost or mixed up, also when the last record takes the place of a
removed one, is part of `IsMap`; it is only the release of the blocks that the condition is
about. -/
theorem isMap_iff (r : Run Step start es s) :
    s.IsMap ↔ es ≠ [] ∧ ∀ e ∈ es, e.ReadsNull := by
  have hs : Follows es s := r.invariant_trace follows_start fun hs h => h.follows hs
  rcases hs.outcome with ⟨hnull, arr, harr, hrep, hnone⟩ | ⟨hread, c, hfail⟩
  · cases arr with
    | none =>
      -- the search of a launch reads the array through NULL
      apply iff_of_false
      · rintro ⟨arr, harr', hmap⟩
        obtain rfl := Except.ok.inj (harr.symm.trans harr')
        obtain ⟨_, hlaunch, _⟩ := hmap.launch 0
        cases hlaunch
      · exact fun h => h.1 (hnone.mp rfl)
    | some infos =>
      apply iff_of_true
      · exact ⟨some infos, harr, hrep.holdsMap hs.wellFormed⟩
      · exact ⟨(fun hnil => nomatch hnone.mpr hnil), hnull⟩
  · apply iff_of_false
    · rintro ⟨arr, harr, _⟩
      rw [hfail] at harr
      cases harr
    · exact fun h => hread h.2

end

end Registry

/-- A binary with an empty payload. -/
def emptyBinary : FatCudaBinary2 where
  magic := 0x466243b1
  version := 1
  fatbinData := ⟨0xba55ed50, 1, 0, ⟨[], rfl⟩⟩
  f := none

/-- Nothing but NULL is behind a block. -/
def nullBehind : BehindBlock := ⟨0, 0, 0, 0, 0, 0, 0⟩

/-- Two modules with a function in the first, which stays when the second is unregistered. -/
def twoModules : List ModuleRequest :=
  [.registerFatBinary2 emptyBinary 1, .registerFunction ⟨1, none, 4096⟩,
    .registerFatBinary2 emptyBinary 2, .unregisterFatBinary 2 nullBehind]

/-- Two modules are registered, and one of them is unregistered. -/
theorem isMap_iff_twoModules : ∃ s, Run Registry.Step Registry.start twoModules s ∧ s.IsMap := by
  have hrun : Run Registry.Step Registry.start twoModules (twoModules.foldl .serve .start) := by
    refine .cons ⟨rfl, rfl⟩ (.cons ⟨?_, rfl⟩ (.cons ⟨rfl, rfl⟩ (.cons ⟨⟨_, rfl⟩, rfl⟩ .start)))
    refine ⟨_, rfl, Nat.zero_lt_succ 9, fun h m' hm hne => ?_⟩
    have hnone : (Registry.start.serve (.registerFatBinary2 emptyBinary 1)).live h = none :=
      Function.update_of_ne hne _ _
    rw [hnone] at hm
    cases hm
  refine ⟨_, hrun, (Registry.isMap_iff hrun).mpr ⟨by simp [twoModules], ?_⟩⟩
  simp [twoModules, ModuleRequest.ReadsNull, nullBehind, BehindBlock.IsNull]

/-- A module is registered and unregistered. Behind its block lies the size of the next chunk of the
heap, which is freed as if it were a pointer. -/
theorem freed_chunk_size : ∃ s, Run Registry.Step Registry.start
    [.registerFatBinary2 emptyBinary 1, .unregisterFatBinary 1 { nullBehind with key := 0x21 }] s ∧
    ¬ s.IsMap := by
  refine ⟨_, .cons ⟨rfl, rfl⟩ (.cons ⟨⟨_, rfl⟩, rfl⟩ .start), ?_⟩
  rintro ⟨arr, harr, _⟩
  cases harr

end GpuVirtmem.Backend
