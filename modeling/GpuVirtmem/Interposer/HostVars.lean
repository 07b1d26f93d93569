import GpuVirtmem.Lib.CString
import GpuVirtmem.Lib.Codec
import GpuVirtmem.Lib.Run

/-!
# The variables of the application (`interposer/libci.c`, `interposer/libciutils.c`)

A symbol is a pointer to a variable or to the name of one. The interposer keeps the variables that
have been registered in `regHostVarsTab`, a hash table from the handles of the modules to arrays,
and looks a symbol up first among the pointers and then among the names. An iteration over a hash
table is in no particular order.

A symbol resolves to the first variable that is found, and which is first depends on the order in
which the hash table is walked; the result is for every order. A variable whose pointer is NULL
makes no difference, since NULL is also what the lookup answers where it finds nothing.
-/

namespace GpuVirtmem.Interposer

open Lib

/-- `vars_val_t`. -/
structure VarsVal where
  hostVar : Nat
  deviceName : CString

/-- `regHostVarsTab`: the entries of the hash table. -/
abbrev VarsTab := List (Nat × List VarsVal)

/-- `g_vars_insert`, where `g_hash_table_lookup` finds the array of the handle or none. -/
def gVarsInsert (regHostVarsTab : VarsTab) (fcHandle : Nat) (pValue : VarsVal) : VarsTab :=
  if fcHandle = 0 then regHostVarsTab
  else match regHostVarsTab.lookup fcHandle with
    | none => (fcHandle, [pValue]) :: regHostVarsTab
    | some _ => regHostVarsTab.map fun e =>
      if e.1 = fcHandle then (e.1, e.2 ++ [pValue]) else e

/-- `l_g_vars_find_hostVar`: what it adds to the result. -/
def lGVarsFindHostVar (symbol : Nat) (varArr : List VarsVal) : Option Nat :=
  (varArr.find? fun v => v.hostVar == symbol).map VarsVal.hostVar

/-- `l_g_vars_find_deviceName`, where the memory at the symbol reads `name`. -/
def lGVarsFindDeviceName (name : CString) (varArr : List VarsVal) : Option Nat :=
  (varArr.find? fun v => v.deviceName == name).map VarsVal.hostVar

/-- `g_hash_table_find`, which takes the entries in some order. -/
def gHashTableFind (order : VarsTab) (predicate : List VarsVal → Option Nat) : Option Nat :=
  order.findSome? fun e => predicate e.2

/-- `g_vars_find`, where the two iterations take the entries in the orders given. -/
def gVarsFind (regHostVarsTab : Option VarsTab) (first second : VarsTab) (symbol : Nat)
    (name : CString) : Nat :=
  match regHostVarsTab with
  | none => 0
  | some _ =>
    if symbol = 0 then 0
    else match gHashTableFind first (lGVarsFindHostVar symbol) with
      | some result => result
      | none => (gHashTableFind second (lGVarsFindDeviceName name)).getD 0

namespace HostVars

/-- `r__cudaRegisterVar`, as far as the table is concerned. The variable is inserted also where the
backend has returned an error. -/
def rCudaRegisterVar (regHostVarsTab : Option VarsTab) (fatCubinHandle hostVar : Nat)
    (deviceName : CString) : Except CFail VarsTab :=
  if fatCubinHandle = 0 then .error .assertFailed
  else .ok (gVarsInsert (regHostVarsTab.getD []) fatCubinHandle ⟨hostVar, deviceName⟩)

/-- `r__cudaUnregisterFatBinary`, as far as the table is concerned. The removal of the entry is not
compiled. -/
def rCudaUnregisterFatBinary (regHostVarsTab : Option VarsTab) (_fatCubinHandle : Nat)
    (rpc : Bool) : Option VarsTab :=
  if rpc then none else regHostVarsTab

end HostVars

/-! ## The table and the lookup -/

/-- A variable is in one of the arrays. -/
def VarsTab.Holds (tab : VarsTab) (v : VarsVal) : Prop := ∃ e ∈ tab, v ∈ e.2

/-- What a symbol stands for, of the variables that are registered: the symbol itself if it is one
of the pointers, and otherwise a pointer that is registered under the name, or NULL. -/
def Resolves (registered : VarsVal → Prop) (symbol : Nat) (name : CString) (result : Nat) : Prop :=
  ((∃ v, registered v ∧ v.hostVar = symbol) ∧ result = symbol) ∨
  ((∀ v, registered v → v.hostVar ≠ symbol) ∧
    ((∃ v, registered v ∧ v.deviceName = name ∧ v.hostVar = result) ∨
      ((∀ v, registered v → v.deviceName ≠ name) ∧ result = 0)))

section

variable {tab order first second : VarsTab} {regHostVarsTab : Option VarsTab}
  {fcHandle symbol result : Nat} {name : CString} {v w : VarsVal} {p : VarsVal → Bool}

/-- A variable that is inserted is held with the others. -/
theorem gVarsInsert_holds (hhandle : fcHandle ≠ 0) :
    (gVarsInsert tab fcHandle v).Holds w ↔ w = v ∨ tab.Holds w := by
  unfold gVarsInsert VarsTab.Holds
  rw [if_neg hhandle]
  cases hl : tab.lookup fcHandle with
  | none => simp
  | some arr =>
    simp only [List.mem_map]
    constructor
    · rintro ⟨_, ⟨e, he, rfl⟩, hw⟩
      by_cases hkey : e.1 = fcHandle
      · rw [if_pos hkey, List.mem_append, List.mem_singleton] at hw
        rcases hw with hw | rfl
        · exact .inr ⟨e, he, hw⟩
        · exact .inl rfl
      · rw [if_neg hkey] at hw
        exact .inr ⟨e, he, hw⟩
    · rintro (rfl | ⟨e, he, hw⟩)
      · obtain ⟨before, after, rfl, -⟩ := List.lookup_eq_some_iff.mp hl
        refine ⟨_, ⟨(fcHandle, arr), by simp, rfl⟩, ?_⟩
        simp
      · refine ⟨_, ⟨e, he, rfl⟩, ?_⟩
        split
        · exact List.mem_append_left _ hw
        · exact hw

/-- In whatever order the table is walked, it holds the same. -/
theorem VarsTab.holds_perm (h : order.Perm tab) : order.Holds v ↔ tab.Holds v := by
  unfold VarsTab.Holds
  simp only [h.mem_iff]

/-- Either iteration ends with a variable that is held, or goes through all of them. -/
theorem gHashTableFind_cases (order : VarsTab) (p : VarsVal → Bool) :
    (∃ v, order.Holds v ∧ p v ∧
      gHashTableFind order (fun arr => (arr.find? p).map VarsVal.hostVar) = some v.hostVar) ∨
    ((∀ v, order.Holds v → ¬ p v) ∧
      gHashTableFind order (fun arr => (arr.find? p).map VarsVal.hostVar) = none) := by
  cases hf : gHashTableFind order (fun arr => (arr.find? p).map VarsVal.hostVar) with
  | some r =>
    obtain ⟨e, he, hfound⟩ := List.exists_of_findSome?_eq_some hf
    obtain ⟨v, hv, rfl⟩ := Option.map_eq_some_iff.mp hfound
    exact .inl ⟨v, ⟨e, he, List.mem_of_find?_eq_some hv⟩, List.find?_some hv, rfl⟩
  | none =>
    refine .inr ⟨?_, rfl⟩
    rintro v ⟨e, he, hv⟩
    have hnone := Option.map_eq_none_iff.mp (List.findSome?_eq_none_iff.mp hf e he)
    exact List.find?_eq_none.mp hnone v hv

/-- Whatever the orders, the lookup resolves the symbol among the variables in the table. -/
theorem gVarsFind_resolves (hfirst : first.Perm (regHostVarsTab.getD []))
    (hsecond : second.Perm (regHostVarsTab.getD [])) (hsymbol : symbol ≠ 0) :
    Resolves (regHostVarsTab.getD []).Holds symbol name
      (gVarsFind regHostVarsTab first second symbol name) := by
  cases regHostVarsTab with
  | none =>
    have hnone : ∀ v, ¬ VarsTab.Holds [] v := fun v ⟨e, he, _⟩ => List.not_mem_nil he
    exact .inr ⟨fun v hv => absurd hv (hnone v), .inr ⟨fun v hv => absurd hv (hnone v), rfl⟩⟩
  | some tab =>
    simp only [gVarsFind, if_neg hsymbol]
    unfold lGVarsFindHostVar lGVarsFindDeviceName
    rcases gHashTableFind_cases first fun v => v.hostVar == symbol with
      ⟨v, hv, hmatch, hfound⟩ | ⟨hnone, hfound⟩
    · rw [hfound]
      rw [VarsTab.holds_perm hfirst] at hv
      exact .inl ⟨⟨v, hv, beq_iff_eq.mp hmatch⟩, beq_iff_eq.mp hmatch⟩
    · rw [hfound]
      refine .inr ⟨fun v hv hmatch => ?_, ?_⟩
      · exact hnone v ((VarsTab.holds_perm hfirst).mpr hv) (beq_iff_eq.mpr hmatch)
      · rcases gHashTableFind_cases second fun v => v.deviceName == name with
          ⟨v, hv, hmatch, hfound⟩ | ⟨hnone, hfound⟩
        · rw [hfound]
          exact .inl ⟨v, (VarsTab.holds_perm hsecond).mp hv, beq_iff_eq.mp hmatch, rfl⟩
        · rw [hfound]
          refine .inr ⟨fun v hv hmatch => ?_, rfl⟩
          exact hnone v ((VarsTab.holds_perm hsecond).mpr hv) (beq_iff_eq.mpr hmatch)

/-- Variables whose pointer is NULL make no difference. -/
theorem Resolves.congr {registered registered' : VarsVal → Prop}
    (h : Resolves registered symbol name result) (hsub : ∀ v, registered v → registered' v)
    (hrest : ∀ v, registered' v → v.hostVar ≠ 0 → registered v) (hsymbol : symbol ≠ 0) :
    Resolves registered' symbol name result := by
  rcases h with ⟨⟨v, hv, hmatch⟩, rfl⟩ | ⟨hnone, hname⟩
  · exact .inl ⟨⟨v, hsub v hv, hmatch⟩, rfl⟩
  · refine .inr ⟨fun v hv hmatch => ?_, ?_⟩
    · exact hnone v (hrest v hv (hmatch ▸ hsymbol)) hmatch
    · rcases hname with ⟨v, hv, hmatch⟩ | ⟨hnoname, rfl⟩
      · exact .inl ⟨v, hsub v hv, hmatch⟩
      · by_cases hex : ∃ v, registered' v ∧ v.deviceName = name
        · obtain ⟨v, hv, hmatch⟩ := hex
          refine .inl ⟨v, hv, hmatch, ?_⟩
          by_contra hvar
          exact hnoname v (hrest v hv hvar) hmatch
        · exact .inr ⟨fun v hv hmatch => hex ⟨v, hv, hmatch⟩, rfl⟩

end

/-! ## Sequences of calls -/

/-- The calls on the backend at `index`. `rpc` is whether it has unregistered the module. -/
inductive VarCall
  | registerVar (fatCubinHandle index hostVar : Nat) (deviceName : CString)
  | unregisterFatBinary (fatCubinHandle index : Nat) (rpc : Bool)

/-- The table, until an assertion fails, and the variables of the modules that are registered, each
with the handle of its module and the backend. -/
structure HostVars where
  regHostVarsTab : Except CFail (Option VarsTab)
  registered : List ((Nat × Nat) × VarsVal)

namespace HostVars

/-- Nothing is registered. -/
def start : HostVars := ⟨.ok none, []⟩

/-- The call on the table and on the variables that are registered. -/
def serve (s : HostVars) : VarCall → HostVars
  | .registerVar fatCubinHandle index hostVar deviceName =>
    { regHostVarsTab := do
        let tab ← s.regHostVarsTab
        return some (← rCudaRegisterVar tab fatCubinHandle hostVar deviceName)
      registered := s.registered ++ [((fatCubinHandle, index), ⟨hostVar, deviceName⟩)] }
  | .unregisterFatBinary fatCubinHandle index rpc =>
    { regHostVarsTab := do return rCudaUnregisterFatBinary (← s.regHostVarsTab) fatCubinHandle rpc
      registered :=
        if rpc then s.registered.filter fun r => r.1 ≠ (fatCubinHandle, index) else s.registered }

/-- One call. -/
inductive Step : HostVars → VarCall → HostVars → Prop
  | call (s : HostVars) (e : VarCall) : Step s e (s.serve e)

/-- The variable belongs to a module that is registered. -/
def Registered (s : HostVars) (v : VarsVal) : Prop := ∃ r ∈ s.registered, r.2 = v

/-- The lookup resolves every symbol among the variables of the modules that are registered. -/
def Finds (s : HostVars) : Prop :=
  ∃ tab, s.regHostVarsTab = .ok tab ∧ ∀ first second symbol name, first.Perm (tab.getD []) →
    second.Perm (tab.getD []) → symbol ≠ 0 →
      Resolves s.Registered symbol name (gVarsFind tab first second symbol name)

/-- A variable is registered for a handle that is not NULL; and where a module is unregistered, the
other modules have no variable whose pointer is not NULL. -/
def Spares (s : HostVars) : VarCall → Prop
  | .registerVar fatCubinHandle _ _ _ => fatCubinHandle ≠ 0
  | .unregisterFatBinary fatCubinHandle index rpc => rpc = true →
    ∀ r ∈ s.registered, r.1 ≠ (fatCubinHandle, index) → r.2.hostVar = 0

/-- The table holds what is registered, perhaps but for NULL pointers. -/
def Kept (s : HostVars) : Prop :=
  ∃ tab, s.regHostVarsTab = .ok tab ∧ (∀ v, (tab.getD []).Holds v → s.Registered v) ∧
    ∀ v, s.Registered v → v.hostVar ≠ 0 → (tab.getD []).Holds v

section

variable {s t u : HostVars} {e : VarCall} {es : List VarCall} {fatCubinHandle index : Nat}

/-- A call leads to one state. -/
theorem Step.det (h : Step s e t) (h' : Step s e u) : t = u := by
  cases h
  cases h'
  rfl

/-- There is no table and no variable. -/
theorem start_kept : start.Kept :=
  ⟨none, rfl, fun _ ⟨_, he, _⟩ => absurd he List.not_mem_nil,
    fun _ ⟨_, hr, _⟩ => absurd hr List.not_mem_nil⟩

/-- A variable that is registered is inserted under the handle of its module. -/
theorem Kept.registerVar {hostVar : Nat} {deviceName : CString} (h : s.Kept)
    (hhandle : fatCubinHandle ≠ 0) :
    (s.serve (.registerVar fatCubinHandle index hostVar deviceName)).Kept := by
  obtain ⟨tab, htab, hsub, hrest⟩ := h
  refine ⟨some (gVarsInsert (tab.getD []) fatCubinHandle ⟨hostVar, deviceName⟩), ?_, ?_, ?_⟩
  · simp only [serve, htab, rCudaRegisterVar, if_neg hhandle, bind, Except.bind, pure, Except.pure]
  · intro v hv
    rcases (gVarsInsert_holds hhandle).mp hv with rfl | hv
    · exact ⟨_, List.mem_append_right _ (List.mem_singleton_self _), rfl⟩
    · obtain ⟨r, hr, rfl⟩ := hsub v hv
      exact ⟨r, List.mem_append_left _ hr, rfl⟩
  · rintro v ⟨r, hr, rfl⟩ hvar
    apply (gVarsInsert_holds hhandle).mpr
    rcases List.mem_append.mp hr with hr | hr
    · exact .inr (hrest _ ⟨r, hr, rfl⟩ hvar)
    · obtain rfl := List.mem_singleton.mp hr
      exact .inl rfl

/-- What is left once a module has been unregistered. -/
theorem registered_unregister {v : VarsVal} :
    (s.serve (.unregisterFatBinary fatCubinHandle index true)).Registered v ↔
      ∃ r ∈ s.registered, r.1 ≠ (fatCubinHandle, index) ∧ r.2 = v := by
  simp only [Registered, serve, if_true, List.mem_filter, decide_eq_true_eq, and_assoc]

/-- A module goes away, and no other has a variable: then nothing else is lost with the table. -/
theorem Kept.unregister (h : s.Kept)
    (hothers : ∀ r ∈ s.registered, r.1 ≠ (fatCubinHandle, index) → r.2.hostVar = 0) :
    (s.serve (.unregisterFatBinary fatCubinHandle index true)).Kept := by
  obtain ⟨tab, htab, _⟩ := h
  refine ⟨none, ?_, fun v ⟨e, he, _⟩ => absurd he List.not_mem_nil, fun v hv hvar => ?_⟩
  · simp only [serve, htab, rCudaUnregisterFatBinary, if_true, bind, Except.bind, pure, Except.pure]
  · obtain ⟨r, hr, hmodule, rfl⟩ := registered_unregister.mp hv
    exact absurd (hothers r hr hmodule) hvar

/-- The other modules' variables are lost with the table, which is the NULL pointer from then on. -/
theorem Finds.unregister (h : s.Kept)
    (hfinds : (s.serve (.unregisterFatBinary fatCubinHandle index true)).Finds) :
    ∀ r ∈ s.registered, r.1 ≠ (fatCubinHandle, index) → r.2.hostVar = 0 := by
  intro r hr hmodule
  by_contra hvar
  obtain ⟨tab, htab, _⟩ := h
  obtain ⟨tab', htab', hlookup⟩ := hfinds
  simp only [serve, htab, rCudaUnregisterFatBinary, if_true, bind, Except.bind, pure, Except.pure,
    Except.ok.injEq] at htab'
  subst htab'
  have hregistered := registered_unregister.mpr ⟨r, hr, hmodule, rfl⟩
  rcases hlookup [] [] r.2.hostVar r.2.deviceName (.refl _) (.refl _) hvar with
    ⟨_, hnull⟩ | ⟨hnone, _⟩
  · exact hvar hnull.symm
  · exact hnone r.2 hregistered rfl

/-- The step lemma, for calls that spare the variables. -/
theorem Kept.step (h : s.Kept) (hspares : s.Spares e) : (s.serve e).Kept := by
  cases e with
  | registerVar fatCubinHandle index hostVar deviceName => exact h.registerVar hspares
  | unregisterFatBinary fatCubinHandle index rpc =>
    cases rpc with
    | true => exact h.unregister (hspares rfl)
    | false =>
      obtain ⟨tab, htab, hholds⟩ := h
      refine ⟨tab, ?_, hholds⟩
      simp only [serve, htab, rCudaUnregisterFatBinary, bind, Except.bind, pure, Except.pure]
      rfl

/-- The converse: a call after which every symbol resolves has spared them. -/
theorem Finds.spares (h : s.Kept) (hfinds : (s.serve e).Finds) : s.Spares e := by
  cases e with
  | registerVar fatCubinHandle index hostVar deviceName =>
    rintro rfl
    obtain ⟨tab, htab, _⟩ := h
    obtain ⟨tab', htab', _⟩ := hfinds
    simp only [serve, htab, rCudaRegisterVar, bind, Except.bind] at htab'
    cases htab'
  | unregisterFatBinary fatCubinHandle index rpc =>
    rintro rfl
    exact Finds.unregister h hfinds

end

end HostVars

end GpuVirtmem.Interposer
