import GpuVirtmem.Backend.Transparent
import GpuVirtmem.Interposer.Forward
import GpuVirtmem.Interposer.HostVars
import GpuVirtmem.Interposer.RegRoundTrip

/-!
# The start of an application (`interposer/libci.c`, `remote/remote_api_wrapper.c`)

Before `main` an application registers its modules: the binary of each, then its functions and then
its variables. The interposer packs every registration once for each backend, with the handle that
this backend has returned for the binary, and remembers the variables. The backends unpack it and
extend their registries, which then hold the same modules, each under handles of its own.

Three developments meet here: the packing and unpacking of binaries and registrations
(`Interposer.FatRoundTrip`, `Interposer.RegRoundTrip`), the table of handles that the interposer
keeps (`Interposer.Forward`) and the registry of a backend (`Backend.Modules`). What is promised of
an application (`Application`) is what a compiler sees to: the addresses of its modules are apart,
and everything fits into the packets and arrays.

Only binaries of the new format can be started so. Those of the old one are sent as well and decoded
by the wrong decoder (`Remote.Register`), and an application that has one is not admissible.
-/

namespace GpuVirtmem.Backend.Startup

open Lib Interposer Remote Registry Direct

/-- A module of the application, with the handles that the runtimes of the backends return for its
binary. -/
structure AppModule where
  fatC : FatCudaBinary2
  functions : List RegisterFunction
  vars : List RegisterVar
  handles : Nat → UInt64

/-- The static variables of the interposer, and `fatCInfoArr` of each backend. -/
structure Cluster where
  table : HandleTable
  regHostVarsTab : Option VarsTab
  backends : Nat → FatCInfoArr

/-- Nothing is registered. -/
def Cluster.start : Cluster :=
  { table := ⟨fun _ _ => 0, 0⟩, regHostVarsTab := none, backends := fun _ => none }

/-! ## The registrations -/

/-- What `nvbackCudaLaunch_srv` and `__nvback_cudaUnregisterFatBinary_srv` read of the arguments. -/
def keptFunction (pA : RegFunctionArgs) : RegFuncArgs :=
  { fatCubinHandle := pA.fatCubinHandle, hostFun := pA.hostFun, hostFEaddr := pA.hostFEaddr }

/-- What the handlers of symbols read of the arguments. -/
def keptVar (pA : RegVariableArgs) : RegVarArgs :=
  { fatCubinHandle := pA.fatCubinHandle, hostVar := pA.hostVar, deviceName := pA.deviceName }

/-- `__nvback_cudaRegisterFatBinary2_srv`, with the decoding. -/
def registerFatBinary2Srv (arr : FatCInfoArr) (pReqBuffer : Bytes) (handle : UInt64) :
    Except CFail FatCInfoArr := do
  let (fatCubin, _) ← unpackFatBinary4 pReqBuffer
  return some (registerFatBinary2 arr fatCubin handle.toNat)

/-- `__nvback_cudaRegisterFunction_srv`, with the decoding. -/
def registerFunctionSrv (arr : FatCInfoArr) (pReqBuffer : Bytes) : Except CFail FatCInfoArr := do
  let (pA, _) ← unpackRegFuncArgs (fun _ => true) pReqBuffer
  let infos ← registerFunction arr (keptFunction pA)
  return some infos

/-- `__nvback_cudaRegisterVar_srv`, with the decoding. -/
def registerVarSrv (arr : FatCInfoArr) (pReqBuffer : Bytes) : Except CFail FatCInfoArr := do
  let (pA, _) ← unpackRegVar (fun _ => true) pReqBuffer
  let infos ← registerVar arr (keptVar pA)
  return some infos

/-- The loop over the first backends. -/
def forNodes (body : Nat → Cluster → Except CFail Cluster) : Nat → Cluster → Except CFail Cluster
  | 0, c => .ok c
  | index + 1, c => do
    let c ← forNodes body index c
    body index c

section

variable (malloc : Malloc) (n : Nat)

/-- `r__cudaRegisterFatBinary_4`, and the assignment of what it returns. -/
def rCudaRegisterFatBinary4At (m : AppModule) (index : Nat) (c : Cluster) :
    Except CFail Cluster := do
  let pPackedFat ← rCudaRegisterFatBinary4 malloc (.cuda4 m.fatC)
  let arr ← registerFatBinary2Srv (c.backends index) pPackedFat (m.handles index)
  let table ← c.table.write index (m.handles index).toNat
  return { c with table := table, backends := Function.update c.backends index arr }

/-- `__cudaRegisterFatBinary`. -/
def cudaRegisterFatBinary (m : AppModule) (c : Cluster) : Except CFail Cluster :=
  let c := { c with
    table := { c.table with fatcubinHandleCounter := c.table.fatcubinHandleCounter + 1 } }
  match encoderFor (.cuda4 m.fatC) with
  | some .cuda4 => forNodes (rCudaRegisterFatBinary4At malloc m) n c
  | some .cuda32 => .error .badAccess -- the encoder takes the binary for the larger structure
  | none => .ok c

/-- `r__cudaRegisterFunction`, for the handle of the backend. -/
def rCudaRegisterFunctionAt (f : RegisterFunction) (index : Nat) (c : Cluster) :
    Except CFail Cluster := do
  let fatCubinHandle ← c.table.read index
  let f := { f with fatCubinHandle := .ofNat fatCubinHandle }
  let p ← requestBuffer malloc (lGetSizeRegFuncArgs f) (packRegFuncArgs f)
  let arr ← registerFunctionSrv (c.backends index) p
  return { c with backends := Function.update c.backends index arr }

/-- `__cudaRegisterFunction`. -/
def cudaRegisterFunction (f : RegisterFunction) (c : Cluster) : Except CFail Cluster :=
  forNodes (rCudaRegisterFunctionAt malloc f) n c

/-- `r__cudaRegisterVar`, for the handle of the backend. The name of a variable is not NULL. -/
def rCudaRegisterVarAt (v : RegisterVar) (index : Nat) (c : Cluster) : Except CFail Cluster := do
  let fatCubinHandle ← c.table.read index
  let v := { v with fatCubinHandle := .ofNat fatCubinHandle }
  let p ← requestBuffer malloc (lGetSizeRegVar v) (packRegVar v)
  let arr ← registerVarSrv (c.backends index) p
  let tab ← HostVars.rCudaRegisterVar c.regHostVarsTab fatCubinHandle v.hostVar.toNat
    (v.deviceName.getD .empty)
  return { c with regHostVarsTab := some tab, backends := Function.update c.backends index arr }

/-- `__cudaRegisterVar`. -/
def cudaRegisterVar (v : RegisterVar) (c : Cluster) : Except CFail Cluster :=
  forNodes (rCudaRegisterVarAt malloc v) n c

/-- The constructor of a module. -/
def load (c : Cluster) (m : AppModule) : Except CFail Cluster := do
  let c ← cudaRegisterFatBinary malloc n m c
  let c ← m.functions.foldlM (fun c f => cudaRegisterFunction malloc n f c) c
  m.vars.foldlM (fun c v => cudaRegisterVar malloc n v c) c

/-- The constructors of the modules, one after the other. -/
def startup (ms : List AppModule) : Except CFail Cluster := ms.foldlM (load malloc n) .start

end

/-! ## What the backends hold -/

section

variable (b : Nat)

/-- What the backend has for a function of the module. -/
def functionAt (m : AppModule) (f : RegisterFunction) : RegFuncArgs :=
  keptFunction { f with fatCubinHandle := m.handles b }.decoded

/-- What the backend has for a variable of the module. -/
def varAt (m : AppModule) (v : RegisterVar) : RegVarArgs :=
  keptVar { v with fatCubinHandle := m.handles b }.decoded

/-- What the backend has for the module. -/
def moduleAt (m : AppModule) : Module :=
  { fatCubin := some m.fatC.decoded
    regVars := m.vars.map (varAt b m)
    regFns := m.functions.map (functionAt b m) }

/-- The modules that are live at the backend, where the last one of the application comes first. -/
def liveAt : List AppModule → Live
  | [] => fun _ => none
  | m :: ms => Function.update (liveAt ms) (m.handles b).toNat (some (moduleAt b m))

/-- The functions and variables of the application by their host addresses, as the backend has
them. -/
def symbolsAt (ms : List AppModule) : Symbols where
  function entry := ms.findSome? fun m =>
    (moduleAt b m).regFns.find? fun f => f.hostFEaddr == entry.toNat
  hostVar hostVar := ms.findSome? fun m =>
    (moduleAt b m).regVars.find? fun v => v.hostVar == hostVar.toNat

end

/-- The variable in `regHostVarsTab`. -/
def varsVal (v : RegisterVar) : VarsVal := ⟨v.hostVar.toNat, v.deviceName.getD .empty⟩

/-- The variable is one of the application. -/
def Variable (ms : List AppModule) (w : VarsVal) : Prop := ∃ m ∈ ms, ∃ v ∈ m.vars, varsVal v = w

/-- What is promised of a module: it is of the new format, there is room for its functions and
variables, the packets fit, and no handle is NULL. -/
structure Loadable (n : Nat) (m : AppModule) : Prop where
  magic : m.fatC.magic = cudaFatMAGIC2
  fatCFits : getFatRecPktSize4 m.fatC < 2 ^ 31
  functions_le : m.functions.length ≤ maxRegisteredFuncs
  functionFits : ∀ f ∈ m.functions, lGetSizeRegFuncArgs f < 2 ^ 31
  vars_le : m.vars.length ≤ maxRegisteredVars
  varFits : ∀ v ∈ m.vars, lGetSizeRegVar v < 2 ^ 31
  handles_ne : ∀ b < n, m.handles b ≠ 0

/-- What is promised of two modules: each backend tells them apart, and no host address is in
both. -/
structure Apart (n : Nat) (m m' : AppModule) : Prop where
  handles : ∀ b < n, m.handles b ≠ m'.handles b
  functions : ∀ f ∈ m.functions, ∀ f' ∈ m'.functions, f.hostFun.addr ≠ f'.hostFun.addr
  vars : ∀ v ∈ m.vars, ∀ v' ∈ m'.vars, v.hostVar ≠ v'.hostVar

/-- An application, with its last module first. -/
structure Application (n : Nat) (ms : List AppModule) : Prop where
  loadable : ∀ m ∈ ms, Loadable n m
  apart : ms.Pairwise (Apart n)
  length_le : ms.length ≤ maxFatcubinHandles
  varsApart : ∀ m ∈ ms, m.vars.Pairwise fun v v' => v.hostVar ≠ v'.hostVar

/-- The registry of a backend holds the modules. -/
structure NodeHolds (b : Nat) (ms : List AppModule) (arr : FatCInfoArr) : Prop where
  represented : Represented arr (liveAt b ms)
  isSome : ms ≠ [] → arr.isSome

/-- The interposer and the backends after the registrations so far. -/
structure Holds (n : Nat) (ms : List AppModule) (c : Cluster) : Prop where
  counter : c.table.fatcubinHandleCounter = ms.length
  row : ∀ m, ms.head? = some m → ∀ b < n,
    c.table.fatcubinhandleArray c.table.row b = (m.handles b).toNat
  nodes : ∀ b < n, NodeHolds b ms (c.backends b)
  vars : ∀ w, (c.regHostVarsTab.getD []).Holds w ↔ Variable ms w

/-! ## One backend -/

/-- A packet that fits is sent as it is. -/
theorem requestBuffer_packed (malloc : Malloc) {size : Nat} {packed : Bytes}
    (hfit : size < 2 ^ 31) (hlen : packed.length = size) :
    requestBuffer malloc size packed = .ok packed := by
  have hmod : size % 2 ^ 32 = size := by omega
  have hdrop : (malloc size).val.drop packed.length = [] :=
    List.drop_of_length_le (le_of_eq ((malloc size).property.trans hlen.symm))
  unfold requestBuffer
  rw [hmod, if_neg (by omega), if_neg (by omega), hdrop, List.append_nil]

section

variable {b : Nat} {m : AppModule} {ms : List AppModule} {arr : FatCInfoArr} {handle : UInt64}

/-- A handle that the backend has not returned is not live there. -/
theorem liveAt_eq_none (h : ∀ m ∈ ms, handle ≠ m.handles b) : liveAt b ms handle.toNat = none := by
  induction ms with
  | nil => rfl
  | cons m ms ih =>
    have hne : handle.toNat ≠ (m.handles b).toNat := by
      intro heq
      exact h m List.mem_cons_self (UInt64.toNat_inj.mp heq)
    rw [liveAt, Function.update_of_ne hne]
    exact ih fun m' hm' => h m' (List.mem_cons_of_mem m hm')

/-- A binary is decoded and its module begun. What is decoded is what was packed
(`fat_binary_round_trip`), so that the module is the application's. -/
theorem NodeHolds.registerFatBinary2 (h : NodeHolds b ms arr) (malloc : Malloc)
    (hfit : getFatRecPktSize4 m.fatC < 2 ^ 31) (hnew : ∀ m' ∈ ms, m.handles b ≠ m'.handles b) :
    ∃ pPackedFat arr', rCudaRegisterFatBinary4 malloc (.cuda4 m.fatC) = .ok pPackedFat ∧
      registerFatBinary2Srv arr pPackedFat (m.handles b) = .ok arr' ∧
      NodeHolds b ({ m with functions := [], vars := [] } :: ms) arr' := by
  have hlen := packFatBinary4_length m.fatC
  have hread := reads_unpackFatBinary4 (b := m.fatC) (hlen ▸ hfit) []
  rw [List.append_nil] at hread
  refine ⟨_, some (Backend.registerFatBinary2 arr m.fatC.decoded (m.handles b).toNat),
    requestBuffer_packed malloc hfit hlen, ?_, ?_, fun _ => rfl⟩
  · unfold registerFatBinary2Srv
    rw [hread]
    rfl
  · exact h.represented.append (liveAt_eq_none hnew)

/-- A function is decoded and added to the last module. -/
theorem NodeHolds.registerFunction (h : NodeHolds b (m :: ms) arr) (malloc : Malloc)
    {f : RegisterFunction} (hfit : lGetSizeRegFuncArgs f < 2 ^ 31)
    (hroom : m.functions.length < maxRegisteredFuncs) :
    ∃ p arr', requestBuffer malloc (lGetSizeRegFuncArgs { f with fatCubinHandle := m.handles b })
        (packRegFuncArgs { f with fatCubinHandle := m.handles b }) = .ok p ∧
      registerFunctionSrv arr p = .ok arr' ∧
      NodeHolds b ({ m with functions := m.functions ++ [f] } :: ms) arr' := by
  have hlen := packRegFuncArgs_length { f with fatCubinHandle := m.handles b }
  have hread := reads_unpackRegFuncArgs (f := { f with fatCubinHandle := m.handles b }) hfit []
  rw [List.append_nil] at hread
  have hlive : liveAt b (m :: ms) (functionAt b m f).fatCubinHandle = some (moduleAt b m) :=
    Function.update_self ..
  have hroom' : (moduleAt b m).regFns.length < maxRegisteredFuncs := by
    rwa [moduleAt, List.length_map]
  obtain ⟨infos, hserved, hrep⟩ := registerFunction_represented h.represented hlive hroom'
  refine ⟨_, some infos, requestBuffer_packed malloc hfit hlen, ?_, ?_, fun _ => rfl⟩
  · unfold registerFunctionSrv
    rw [hread]
    show (Backend.registerFunction arr (functionAt b m f) >>= _) = _
    rw [hserved]
    rfl
  · have hmodule : moduleAt b { m with functions := m.functions ++ [f] } =
        { moduleAt b m with regFns := (moduleAt b m).regFns ++ [functionAt b m f] } := by
      simp only [moduleAt, List.map_append]
      rfl
    rw [liveAt] at hrep ⊢
    rw [hmodule]
    rwa [show (functionAt b m f).fatCubinHandle = (m.handles b).toNat from rfl,
      Function.update_idem] at hrep

/-- A variable is decoded and added to the last module. -/
theorem NodeHolds.registerVar (h : NodeHolds b (m :: ms) arr) (malloc : Malloc)
    {v : RegisterVar} (hfit : lGetSizeRegVar v < 2 ^ 31)
    (hroom : m.vars.length < maxRegisteredVars) :
    ∃ p arr', requestBuffer malloc (lGetSizeRegVar { v with fatCubinHandle := m.handles b })
        (packRegVar { v with fatCubinHandle := m.handles b }) = .ok p ∧
      registerVarSrv arr p = .ok arr' ∧
      NodeHolds b ({ m with vars := m.vars ++ [v] } :: ms) arr' := by
  have hlen := packRegVar_length { v with fatCubinHandle := m.handles b }
  have hread := reads_unpackRegVar (v := { v with fatCubinHandle := m.handles b }) hfit []
  rw [List.append_nil] at hread
  have hlive : liveAt b (m :: ms) (varAt b m v).fatCubinHandle = some (moduleAt b m) :=
    Function.update_self ..
  have hroom' : (moduleAt b m).regVars.length < maxRegisteredVars := by
    rwa [moduleAt, List.length_map]
  obtain ⟨infos, hserved, hrep⟩ := registerVar_represented h.represented hlive hroom'
  refine ⟨_, some infos, requestBuffer_packed malloc hfit hlen, ?_, ?_, fun _ => rfl⟩
  · unfold registerVarSrv
    rw [hread]
    show (Backend.registerVar arr (varAt b m v) >>= _) = _
    rw [hserved]
    rfl
  · have hmodule : moduleAt b { m with vars := m.vars ++ [v] } =
        { moduleAt b m with regVars := (moduleAt b m).regVars ++ [varAt b m v] } := by
      simp only [moduleAt, List.map_append]
      rfl
    rw [liveAt] at hrep ⊢
    rw [hmodule]
    rwa [show (varAt b m v).fatCubinHandle = (m.handles b).toNat from rfl,
      Function.update_idem] at hrep

end

/-! ## All backends -/

section

variable {n i : Nat} {ms ms' : List AppModule} {m : AppModule} {c : Cluster}
  {backends : Nat → FatCInfoArr} {arr : FatCInfoArr}

/-- A loop whose body leads from each index to the next. -/
theorem forNodes_ok {body : Nat → Cluster → Except CFail Cluster} {P : Nat → Cluster → Prop}
    (hstart : P 0 c) (hbody : ∀ i < n, ∀ c, P i c → ∃ c', body i c = .ok c' ∧ P (i + 1) c') :
    ∃ c', forNodes body n c = .ok c' ∧ P n c' := by
  induction n with
  | zero => exact ⟨c, rfl, hstart⟩
  | succ n ih =>
    obtain ⟨c', hloop, hP⟩ := ih fun i hi => hbody i (Nat.lt_succ_of_lt hi)
    obtain ⟨c'', hlast, hP'⟩ := hbody n (Nat.lt_succ_self n) c' hP
    refine ⟨c'', ?_, hP'⟩
    rw [forNodes, hloop]
    exact hlast

/-- The first backends have served a registration, and the others not yet. -/
def Partly (n i : Nat) (ms ms' : List AppModule) (backends : Nat → FatCInfoArr) : Prop :=
  ∀ b < n, NodeHolds b (if b < i then ms' else ms) (backends b)

/-- One more backend has served the registration. -/
theorem Partly.next (h : Partly n i ms ms' backends) (hnode : NodeHolds i ms' arr) :
    Partly n (i + 1) ms ms' (Function.update backends i arr) := by
  intro b hb
  by_cases hbi : b = i
  · rw [hbi, Function.update_self, if_pos (Nat.lt_succ_self i)]
    exact hnode
  · have hlt : b < i + 1 ↔ b < i := by omega
    rw [Function.update_of_ne hbi]
    simp only [hlt]
    exact h b hb

/-- The next one holds what it held before. -/
theorem Partly.served (h : Partly n i ms ms' backends) (hi : i < n) :
    NodeHolds i ms (backends i) := by
  have hnode := h i hi
  rwa [if_neg (Nat.lt_irrefl i)] at hnode

/-- When all have, the registration is complete. -/
theorem Partly.all (h : Partly n n ms ms' backends) : ∀ b < n, NodeHolds b ms' (backends b) := by
  intro b hb
  have hnode := h b hb
  rwa [if_pos hb] at hnode

/-- And before it, none has. -/
theorem Holds.partly (h : Holds n ms c) (ms' : List AppModule) :
    Partly n 0 ms ms' c.backends := by
  intro b hb
  rw [if_neg (Nat.not_lt_zero b)]
  exact h.nodes b hb

/-- The row of the last module is in the array. -/
theorem inBounds_of_counter {t : HandleTable} (hcounter : t.fatcubinHandleCounter = ms.length)
    (hms : ms ≠ []) (hlen : ms.length ≤ maxFatcubinHandles) (hn : n ≤ maxBackendNodes)
    (hi : i < n) : t.InBounds i := by
  have hpos := List.length_pos_iff.mpr hms
  refine ⟨?_, ?_, Nat.lt_of_lt_of_le hi hn⟩ <;> omega

/-- A binary is registered with every backend, by the loop over the nodes. -/
theorem Holds.registerFatBinary (h : Holds n ms c) (malloc : Malloc) (hn : n ≤ maxBackendNodes)
    (hm : Loadable n m) (hapart : ∀ m' ∈ ms, Apart n m m')
    (hlen : ms.length < maxFatcubinHandles) :
    ∃ c', cudaRegisterFatBinary malloc n m c = .ok c' ∧
      Holds n ({ m with functions := [], vars := [] } :: ms) c' := by
  let begun : List AppModule := { m with functions := [], vars := [] } :: ms
  -- the handles of the first backends are in the row of the counter
  let P : Nat → Cluster → Prop := fun i c' =>
    c'.table.fatcubinHandleCounter = begun.length ∧
      (∀ b < i, c'.table.fatcubinhandleArray c'.table.row b = (m.handles b).toNat) ∧
      Partly n i ms begun c'.backends ∧ c'.regHostVarsTab = c.regHostVarsTab
  have hformat : encoderFor (.cuda4 m.fatC) = some .cuda4 := by
    have hmagic : (FatC.cuda4 m.fatC).magic = cudaFatMAGIC2 := hm.magic
    unfold encoderFor
    rw [hmagic]
    rfl
  have hloop : ∃ c', forNodes (rCudaRegisterFatBinary4At malloc m) n { c with
      table := { c.table with fatcubinHandleCounter := c.table.fatcubinHandleCounter + 1 } } =
        .ok c' ∧ P n c' := by
    apply forNodes_ok
    · refine ⟨?_, fun b hb => absurd hb (Nat.not_lt_zero b), h.partly begun, rfl⟩
      show c.table.fatcubinHandleCounter + 1 = begun.length
      rw [h.counter, List.length_cons]
      rfl
    · rintro i hi c' ⟨hcounter, hrow, hnodes, htab⟩
      have hbounds : c'.table.InBounds i :=
        inBounds_of_counter hcounter (List.cons_ne_nil _ _) hlen hn hi
      obtain ⟨pPackedFat, arr', hpack, hserved, hnode⟩ :=
        (hnodes.served hi).registerFatBinary2 malloc hm.fatCFits
          fun m' hm' => (hapart m' hm').handles i hi
      refine ⟨{ c' with
        table := c'.table.setHandle i (m.handles i).toNat
        backends := Function.update c'.backends i arr' }, ?_, hcounter, ?_, hnodes.next hnode, htab⟩
      · unfold rCudaRegisterFatBinary4At HandleTable.write
        rw [hpack, if_pos hbounds]
        show (registerFatBinary2Srv _ _ _ >>= _) = _
        rw [hserved]
        rfl
      · intro b hb
        show (if c'.table.row = c'.table.row ∧ b = i then _ else _) = _
        by_cases hbi : b = i
        · rw [if_pos ⟨rfl, hbi⟩, hbi]
        · rw [if_neg fun hand => hbi hand.2]
          exact hrow b (by omega)
  obtain ⟨c', hserved, hcounter, hrow, hnodes, htab⟩ := hloop
  refine ⟨c', ?_, hcounter, ?_, hnodes.all, ?_⟩
  · unfold cudaRegisterFatBinary
    dsimp only
    rw [hformat]
    exact hserved
  · rintro _ ⟨⟩ b hb
    exact hrow b hb
  · intro w
    rw [htab, h.vars w]
    simp [Variable]

/-- The handle that a registration is forwarded with is the one that this backend has returned for
the module. -/
theorem Holds.read (h : Holds n (m :: ms) c) (hn : n ≤ maxBackendNodes)
    (hlen : (m :: ms).length ≤ maxFatcubinHandles) (hi : i < n) :
    c.table.read i = .ok (m.handles i).toNat := by
  have hbounds := inBounds_of_counter h.counter (List.cons_ne_nil _ _) hlen hn hi
  rw [HandleTable.read, if_pos hbounds, h.row m rfl i hi]

/-- A function is registered with every backend. -/
theorem Holds.registerFunction (h : Holds n (m :: ms) c) (malloc : Malloc)
    (hn : n ≤ maxBackendNodes) (hlen : (m :: ms).length ≤ maxFatcubinHandles)
    {f : RegisterFunction} (hfit : lGetSizeRegFuncArgs f < 2 ^ 31)
    (hroom : m.functions.length < maxRegisteredFuncs) :
    ∃ c', cudaRegisterFunction malloc n f c = .ok c' ∧
      Holds n ({ m with functions := m.functions ++ [f] } :: ms) c' := by
  let added : List AppModule := { m with functions := m.functions ++ [f] } :: ms
  let P : Nat → Cluster → Prop := fun i c' =>
    c'.table = c.table ∧ c'.regHostVarsTab = c.regHostVarsTab ∧
      Partly n i (m :: ms) added c'.backends
  have hloop : ∃ c', cudaRegisterFunction malloc n f c = .ok c' ∧ P n c' := by
    apply forNodes_ok
    · exact ⟨rfl, rfl, h.partly added⟩
    · rintro i hi c' ⟨htable, htab, hnodes⟩
      obtain ⟨p, arr', hpack, hserved, hnode⟩ :=
        (hnodes.served hi).registerFunction malloc hfit hroom
      refine ⟨{ c' with backends := Function.update c'.backends i arr' }, ?_, htable, htab,
        hnodes.next hnode⟩
      unfold rCudaRegisterFunctionAt
      rw [htable, h.read hn hlen hi]
      show (requestBuffer _ (lGetSizeRegFuncArgs { f with fatCubinHandle := .ofNat _ })
        (packRegFuncArgs { f with fatCubinHandle := .ofNat _ }) >>= _) = _
      rw [UInt64.ofNat_toNat, hpack]
      show (registerFunctionSrv _ _ >>= _) = _
      rw [hserved]
      rfl
  obtain ⟨c', hserved, htable, htab, hnodes⟩ := hloop
  refine ⟨c', hserved, ?_, ?_, hnodes.all, ?_⟩
  · rw [htable, h.counter]
    rfl
  · rintro _ ⟨⟩ b hb
    rw [htable]
    exact h.row m rfl b hb
  · intro w
    rw [htab, h.vars w]
    simp [Variable]

/-- A variable is registered with every backend, and remembered. -/
theorem Holds.registerVar (h : Holds n (m :: ms) c) (malloc : Malloc) (hpos : 0 < n)
    (hn : n ≤ maxBackendNodes) (hlen : (m :: ms).length ≤ maxFatcubinHandles)
    (hhandles : ∀ b < n, m.handles b ≠ 0) {v : RegisterVar} (hfit : lGetSizeRegVar v < 2 ^ 31)
    (hroom : m.vars.length < maxRegisteredVars) :
    ∃ c', cudaRegisterVar malloc n v c = .ok c' ∧
      Holds n ({ m with vars := m.vars ++ [v] } :: ms) c' := by
  let added : List AppModule := { m with vars := m.vars ++ [v] } :: ms
  -- the variable is remembered with the first backend, and again with each of the others
  let P : Nat → Cluster → Prop := fun i c' =>
    c'.table = c.table ∧ Partly n i (m :: ms) added c'.backends ∧
      ∀ w, (c'.regHostVarsTab.getD []).Holds w ↔
        (0 < i ∧ w = varsVal v) ∨ (c.regHostVarsTab.getD []).Holds w
  have hloop : ∃ c', cudaRegisterVar malloc n v c = .ok c' ∧ P n c' := by
    apply forNodes_ok
    · refine ⟨rfl, h.partly added, fun w => ?_⟩
      simp
    · rintro i hi c' ⟨htable, hnodes, htab⟩
      obtain ⟨p, arr', hpack, hserved, hnode⟩ :=
        (hnodes.served hi).registerVar malloc hfit hroom
      have hhandle : (m.handles i).toNat ≠ 0 := by
        intro hzero
        exact hhandles i hi (UInt64.toNat_inj.mp hzero)
      refine ⟨{ c' with
        regHostVarsTab := some (gVarsInsert (c'.regHostVarsTab.getD []) (m.handles i).toNat
          (varsVal v))
        backends := Function.update c'.backends i arr' }, ?_, htable, hnodes.next hnode, ?_⟩
      · unfold rCudaRegisterVarAt HostVars.rCudaRegisterVar
        rw [htable, h.read hn hlen hi]
        show (requestBuffer _ (lGetSizeRegVar { v with fatCubinHandle := .ofNat _ })
          (packRegVar { v with fatCubinHandle := .ofNat _ }) >>= _) = _
        rw [UInt64.ofNat_toNat, hpack]
        show (registerVarSrv _ _ >>= _) = _
        rw [hserved, if_neg hhandle]
        rfl
      · intro w
        show (gVarsInsert _ _ _).Holds w ↔ _
        rw [gVarsInsert_holds hhandle, htab w]
        constructor
        · rintro (rfl | ⟨-, rfl⟩ | hw)
          · exact .inl ⟨Nat.succ_pos i, rfl⟩
          · exact .inl ⟨Nat.succ_pos i, rfl⟩
          · exact .inr hw
        · rintro (⟨-, rfl⟩ | hw)
          · exact .inl rfl
          · exact .inr (.inr hw)
  obtain ⟨c', hserved, htable, hnodes, htab⟩ := hloop
  refine ⟨c', hserved, ?_, ?_, hnodes.all, ?_⟩
  · rw [htable, h.counter]
    rfl
  · rintro _ ⟨⟩ b hb
    rw [htable]
    exact h.row m rfl b hb
  · intro w
    rw [htab w, h.vars w]
    constructor
    · rintro (⟨-, rfl⟩ | ⟨m', hm', v', hv', rfl⟩)
      · exact ⟨_, List.mem_cons_self, v, by simp, rfl⟩
      · rcases List.mem_cons.mp hm' with rfl | hm'
        · exact ⟨_, List.mem_cons_self, v', List.mem_append_left _ hv', rfl⟩
        · exact ⟨m', List.mem_cons_of_mem _ hm', v', hv', rfl⟩
    · rintro ⟨m', hm', v', hv', rfl⟩
      rcases List.mem_cons.mp hm' with rfl | hm'
      · rcases List.mem_append.mp hv' with hv' | hv'
        · exact .inr ⟨m, List.mem_cons_self, v', hv', rfl⟩
        · rw [List.mem_singleton.mp hv']
          exact .inl ⟨hpos, rfl⟩
      · exact .inr ⟨m', List.mem_cons_of_mem _ hm', v', hv', rfl⟩

end

/-! ## What is found -/

section

variable {n b : Nat} {ms : List AppModule} {m : AppModule} {c : Cluster}

instance : Std.Symm (Apart n) where
  symm _ _ h :=
    { handles := fun b hb => (h.handles b hb).symm
      functions := fun f hf f' hf' => (h.functions f' hf' f hf).symm
      vars := fun v hv v' hv' => (h.vars v' hv' v hv).symm }

/-- The modules after the first are an application, too. -/
theorem Application.tail (h : Application n (m :: ms)) : Application n ms where
  loadable m' hm' := h.loadable m' (List.mem_cons_of_mem m hm')
  apart := (List.pairwise_cons.mp h.apart).2
  length_le := Nat.le_of_succ_le h.length_le
  varsApart m' hm' := h.varsApart m' (List.mem_cons_of_mem m hm')

/-- Two modules that are not apart are one. -/
theorem Application.eq_of_not_apart (h : Application n ms) {m m' : AppModule} (hm : m ∈ ms)
    (hm' : m' ∈ ms) (hnot : ¬Apart n m m') : m = m' := by
  by_contra hne
  exact hnot (h.apart.forall hm hm' hne)

/-- The live modules of a backend are those of the application. -/
theorem liveAt_eq_some (h : Application n ms) (hb : b < n) {handle : Nat} {info : Module} :
    liveAt b ms handle = some info ↔
      ∃ m ∈ ms, (m.handles b).toNat = handle ∧ moduleAt b m = info := by
  induction ms with
  | nil => simp [liveAt]
  | cons m ms ih =>
    have hapart := (List.pairwise_cons.mp h.apart).1
    rw [liveAt]
    by_cases hhandle : handle = (m.handles b).toNat
    · rw [hhandle, Function.update_self, Option.some_inj]
      constructor
      · rintro rfl
        exact ⟨m, List.mem_cons_self, rfl, rfl⟩
      · rintro ⟨m', hm', heq, rfl⟩
        rcases List.mem_cons.mp hm' with rfl | hm'
        · rfl
        · exact absurd (UInt64.toNat_inj.mp heq).symm ((hapart m' hm').handles b hb)
    · rw [Function.update_of_ne hhandle, ih h.tail]
      constructor
      · rintro ⟨m', hm', hm''⟩
        exact ⟨m', List.mem_cons_of_mem m hm', hm''⟩
      · rintro ⟨m', hm', heq, hinfo⟩
        rcases List.mem_cons.mp hm' with rfl | hm'
        · exact absurd heq.symm hhandle
        · exact ⟨m', hm', heq, hinfo⟩

/-- What is promised of an application is what the registry of a backend needs. -/
theorem Application.wellFormed (h : Application n ms) (hb : b < n) :
    WellFormed (liveAt b ms) := by
  constructor
  · intro handle info hinfo
    obtain ⟨m, -, -, rfl⟩ := (liveAt_eq_some h hb).mp hinfo
    exact ⟨_, rfl⟩
  · intro handle info handle' info' hinfo hinfo' hne f hf f' hf' heq
    obtain ⟨m, hm, rfl, rfl⟩ := (liveAt_eq_some h hb).mp hinfo
    obtain ⟨m', hm', rfl, rfl⟩ := (liveAt_eq_some h hb).mp hinfo'
    obtain ⟨g, hg, rfl⟩ := List.mem_map.mp hf
    obtain ⟨g', hg', rfl⟩ := List.mem_map.mp hf'
    have hsame : m = m' := by
      refine h.eq_of_not_apart hm hm' fun hapart => ?_
      exact hapart.functions g hg g' hg' (UInt64.toNat_inj.mp heq)
    exact hne (hsame ▸ rfl)

/-- A search that finds the same wherever it finds something. -/
theorem findSome?_eq_some_iff_of_unique {α β : Type} {l : List α} {g : α → Option β} {x : β}
    (h : ∀ a ∈ l, ∀ a' ∈ l, ∀ y, g a = some x → g a' = some y → y = x) :
    l.findSome? g = some x ↔ ∃ a ∈ l, g a = some x := by
  constructor
  · exact List.exists_of_findSome?_eq_some
  · rintro ⟨a, ha, hx⟩
    have hsome : (l.findSome? g).isSome := by
      rw [List.findSome?_isSome_iff]
      exact ⟨a, ha, hx ▸ rfl⟩
    obtain ⟨y, hy⟩ := Option.isSome_iff_exists.mp hsome
    obtain ⟨a', ha', hy'⟩ := List.exists_of_findSome?_eq_some hy
    rw [hy, h a ha a' ha' y hx hy']

/-- What a search by a key finds has the key. -/
theorem find?_key {α : Type} {l : List α} {key : α → Nat} {k : Nat} {x : α}
    (h : (l.find? fun a => key a == k) = some x) : x ∈ l ∧ key x = k :=
  ⟨List.mem_of_find?_eq_some h, beq_iff_eq.mp (List.find?_some (p := fun a => key a == k) h)⟩

/-- The symbols of the application are those that the backend has. -/
theorem Application.describes (h : Application n ms) (hb : b < n) :
    (symbolsAt b ms).Describes (liveAt b ms) := by
  constructor
  · intro entry f
    show ms.findSome? _ = some f ↔ _
    rw [findSome?_eq_some_iff_of_unique]
    · constructor
      · rintro ⟨m, hm, hf⟩
        exact ⟨_, _, (liveAt_eq_some h hb).mpr ⟨m, hm, rfl, rfl⟩, hf⟩
      · rintro ⟨handle, info, hinfo, hf⟩
        obtain ⟨m, hm, -, rfl⟩ := (liveAt_eq_some h hb).mp hinfo
        exact ⟨m, hm, hf⟩
    · intro m hm m' hm' f' hf hf'
      have hsame : m = m' := by
        refine h.eq_of_not_apart hm hm' fun hapart => ?_
        obtain ⟨hmem, haddr⟩ := find?_key hf
        obtain ⟨hmem', haddr'⟩ := find?_key hf'
        obtain ⟨g, hg, rfl⟩ := List.mem_map.mp hmem
        obtain ⟨g', hg', rfl⟩ := List.mem_map.mp hmem'
        exact hapart.functions g hg g' hg' (UInt64.toNat_inj.mp (haddr.trans haddr'.symm))
      subst hsame
      exact Option.some.inj (hf'.symm.trans hf)
  · intro hostVar v
    show ms.findSome? _ = some v ↔ _
    -- the variable of an address is the same in whichever module it is found
    have hunique : ∀ m ∈ ms, ∀ m' ∈ ms, ∀ w ∈ (moduleAt b m).regVars,
        ∀ w' ∈ (moduleAt b m').regVars, w.hostVar = hostVar.toNat → w'.hostVar = hostVar.toNat →
          w' = w := by
      intro m hm m' hm' w hw w' hw' hvar hvar'
      obtain ⟨g, hg, rfl⟩ := List.mem_map.mp hw
      obtain ⟨g', hg', rfl⟩ := List.mem_map.mp hw'
      have haddr : g.hostVar = g'.hostVar := UInt64.toNat_inj.mp (hvar.trans hvar'.symm)
      obtain rfl : m = m' :=
        h.eq_of_not_apart hm hm' fun hapart => hapart.vars g hg g' hg' haddr
      by_contra hne
      have : Std.Symm fun v v' : RegisterVar => v.hostVar ≠ v'.hostVar := ⟨fun _ _ => Ne.symm⟩
      exact (h.varsApart m hm).forall hg hg' (fun heq => hne (heq ▸ rfl)) haddr
    rw [findSome?_eq_some_iff_of_unique]
    · constructor
      · rintro ⟨m, hm, hv⟩
        exact ⟨_, _, (liveAt_eq_some h hb).mpr ⟨m, hm, rfl, rfl⟩, find?_key hv⟩
      · rintro ⟨handle, info, hinfo, hv, hvar⟩
        obtain ⟨m, hm, -, rfl⟩ := (liveAt_eq_some h hb).mp hinfo
        have hsome : ((moduleAt b m).regVars.find? fun v => v.hostVar == hostVar.toNat).isSome := by
          rw [List.find?_isSome]
          exact ⟨v, hv, beq_iff_eq.mpr hvar⟩
        obtain ⟨w, hw⟩ := Option.isSome_iff_exists.mp hsome
        have hwv := hunique m hm m hm v hv w (find?_key hw).1 hvar (find?_key hw).2
        exact ⟨m, hm, hwv ▸ hw⟩
    · intro m hm m' hm' w hv hw
      exact hunique m hm m' hm' v (find?_key hv).1 w (find?_key hw).1 (find?_key hv).2
        (find?_key hw).2

end

/-! ## The whole start -/

section

variable {n : Nat} {ms : List AppModule} {m : AppModule} {c : Cluster}

/-- The functions of a module, one after the other. -/
theorem Holds.registerFunctions (malloc : Malloc) (hn : n ≤ maxBackendNodes)
    (hlen : ms.length < maxFatcubinHandles) (fs : List RegisterFunction)
    (hfit : ∀ f ∈ fs, lGetSizeRegFuncArgs f < 2 ^ 31) (m : AppModule) (c : Cluster)
    (h : Holds n (m :: ms) c) (hroom : m.functions.length + fs.length ≤ maxRegisteredFuncs) :
    ∃ c', fs.foldlM (fun c f => cudaRegisterFunction malloc n f c) c = .ok c' ∧
      Holds n ({ m with functions := m.functions ++ fs } :: ms) c' := by
  induction fs generalizing m c with
  | nil =>
    rw [List.append_nil]
    exact ⟨c, rfl, h⟩
  | cons f fs ih =>
    rw [List.length_cons] at hroom
    obtain ⟨c₁, hfirst, h₁⟩ :=
      h.registerFunction malloc hn hlen (hfit f List.mem_cons_self) (by omega)
    obtain ⟨c₂, hrest, h₂⟩ := ih (fun g hg => hfit g (List.mem_cons_of_mem f hg)) _ c₁ h₁ (by
      rw [List.length_append, List.length_singleton]
      omega)
    refine ⟨c₂, ?_, ?_⟩
    · rw [List.foldlM_cons, hfirst]
      exact hrest
    · rwa [List.append_assoc] at h₂

/-- The variables of a module, one after the other. -/
theorem Holds.registerVars (malloc : Malloc) (hpos : 0 < n) (hn : n ≤ maxBackendNodes)
    (hlen : ms.length < maxFatcubinHandles) (vs : List RegisterVar)
    (hfit : ∀ v ∈ vs, lGetSizeRegVar v < 2 ^ 31) (m : AppModule) (c : Cluster)
    (h : Holds n (m :: ms) c) (hhandles : ∀ b < n, m.handles b ≠ 0)
    (hroom : m.vars.length + vs.length ≤ maxRegisteredVars) :
    ∃ c', vs.foldlM (fun c v => cudaRegisterVar malloc n v c) c = .ok c' ∧
      Holds n ({ m with vars := m.vars ++ vs } :: ms) c' := by
  induction vs generalizing m c with
  | nil =>
    rw [List.append_nil]
    exact ⟨c, rfl, h⟩
  | cons v vs ih =>
    rw [List.length_cons] at hroom
    obtain ⟨c₁, hfirst, h₁⟩ :=
      h.registerVar malloc hpos hn hlen hhandles (hfit v List.mem_cons_self) (by omega)
    obtain ⟨c₂, hrest, h₂⟩ :=
      ih (fun w hw => hfit w (List.mem_cons_of_mem v hw)) _ c₁ h₁ hhandles (by
        rw [List.length_append, List.length_singleton]
        omega)
    refine ⟨c₂, ?_, ?_⟩
    · rw [List.foldlM_cons, hfirst]
      exact hrest
    · rwa [List.append_assoc] at h₂

/-- The constructor of a module. -/
theorem Holds.load (h : Holds n ms c) (malloc : Malloc) (hpos : 0 < n) (hn : n ≤ maxBackendNodes)
    (happ : Application n (m :: ms)) :
    ∃ c', load malloc n c m = .ok c' ∧ Holds n (m :: ms) c' := by
  have hm := happ.loadable m List.mem_cons_self
  have hlen : ms.length < maxFatcubinHandles := happ.length_le
  obtain ⟨c₁, hbinary, h₁⟩ :=
    h.registerFatBinary malloc hn hm (List.pairwise_cons.mp happ.apart).1 hlen
  obtain ⟨c₂, hfunctions, h₂⟩ := Holds.registerFunctions malloc hn hlen m.functions
    hm.functionFits _ c₁ h₁ (by simpa using hm.functions_le)
  obtain ⟨c₃, hvars, h₃⟩ := Holds.registerVars malloc hpos hn hlen m.vars hm.varFits _ c₂ h₂
    hm.handles_ne (by simpa using hm.vars_le)
  refine ⟨c₃, ?_, h₃⟩
  simp only [Startup.load, hbinary, hfunctions, hvars, bind, Except.bind]

/-- The whole start, module by module. -/
theorem startup_holds (malloc : Malloc) (hpos : 0 < n) (hn : n ≤ maxBackendNodes)
    (happ : Application n ms) : ∃ c, startup malloc n ms.reverse = .ok c ∧ Holds n ms c := by
  induction ms with
  | nil =>
    refine ⟨.start, rfl, rfl, ?_, fun b _ => ⟨.nil, fun h => absurd rfl h⟩, ?_⟩
    · rintro _ ⟨⟩
    · intro w
      simp [Cluster.start, VarsTab.Holds, Variable]
  | cons m ms ih =>
    obtain ⟨c, hstart, h⟩ := ih happ.tail
    obtain ⟨c', hload, h'⟩ := h.load malloc hpos hn happ
    refine ⟨c', ?_, h'⟩
    unfold startup at hstart ⊢
    rw [List.reverse_cons, List.foldlM_append, hstart]
    simp only [List.foldlM_cons, List.foldlM_nil, hload, bind, Except.bind, pure, Except.pure]

/-- After its start the modules of an application are in the registry of every backend, under the
handles that this backend has returned. What is launched or copied to is found there by its host
address, and what a symbol stands for is found by the interposer. -/
theorem application_started (malloc : Malloc) (hpos : 0 < n) (hn : n ≤ maxBackendNodes)
    (happ : Application n ms) (hne : ms ≠ []) :
    ∃ c, startup malloc n ms.reverse = .ok c ∧
      (∀ b < n, ∃ infos, c.backends b = some infos ∧ HoldsMap (some infos) (liveAt b ms) ∧
        (symbolsAt b ms).Describes (liveAt b ms)) ∧
      ∀ first second symbol name, first.Perm (c.regHostVarsTab.getD []) →
        second.Perm (c.regHostVarsTab.getD []) → symbol ≠ 0 →
          Resolves (Variable ms) symbol name
            (gVarsFind c.regHostVarsTab first second symbol name) := by
  obtain ⟨c, hstart, h⟩ := startup_holds malloc hpos hn happ
  refine ⟨c, hstart, ?_, ?_⟩
  · intro b hb
    obtain ⟨hrep, hsome⟩ := h.nodes b hb
    obtain ⟨infos, hinfos⟩ := Option.isSome_iff_exists.mp (hsome hne)
    rw [hinfos] at hrep
    exact ⟨infos, hinfos, hrep.holdsMap (happ.wellFormed hb), happ.describes hb⟩
  · intro first second symbol name hfirst hsecond hsymbol
    refine (gVarsFind_resolves hfirst hsecond hsymbol).congr ?_ ?_ hsymbol
    · exact fun w hw => (h.vars w).mp hw
    · exact fun w hw _ => (h.vars w).mpr hw

end

/-- A module with a function and a variable, for which two backends return different handles. -/
def firstModule : AppModule :=
  { fatC := sampleBinary2, functions := [sampleFunction], vars := [sampleVar]
    handles := fun b => if b = 0 then 0x10 else 0x20 }

/-- A module whose handle on the second backend is that of the first module on the first one. -/
def secondModule : AppModule :=
  { fatC := sampleBinary2
    functions := [{ sampleFunction with hostFun := ⟨33, some ⟨[103], by decide⟩, by decide⟩ }]
    vars := [{ sampleVar with hostVar := 88 }, { sampleVar with hostVar := 96 }]
    handles := fun b => if b = 0 then 0x30 else 0x10 }

/-- Each backend has both modules, and every symbol resolves among the three variables. -/
theorem application_started_twoModules :
    ∃ c, startup zeroBlock 2 [firstModule, secondModule] = .ok c ∧
      (∀ b < 2, ∃ infos, c.backends b = some infos ∧
        HoldsMap (some infos) (liveAt b [secondModule, firstModule]) ∧
          (symbolsAt b [secondModule, firstModule]).Describes
            (liveAt b [secondModule, firstModule])) ∧
      ∀ first second symbol name, first.Perm (c.regHostVarsTab.getD []) →
        second.Perm (c.regHostVarsTab.getD []) → symbol ≠ 0 →
          Resolves (Variable [secondModule, firstModule]) symbol name
            (gVarsFind c.regHostVarsTab first second symbol name) := by
  have happ : Application 2 [secondModule, firstModule] := by
    constructor
    · intro m hm
      simp only [List.mem_cons, List.not_mem_nil, or_false] at hm
      rcases hm with rfl | rfl
      · constructor <;> decide
      · constructor <;> decide
    · refine List.pairwise_pair.mpr ?_
      constructor <;> decide
    · decide
    · intro m hm
      simp only [List.mem_cons, List.not_mem_nil, or_false] at hm
      rcases hm with rfl | rfl <;> decide
  exact application_started zeroBlock (by decide) (by decide) happ (List.cons_ne_nil _ _)

end GpuVirtmem.Backend.Startup
