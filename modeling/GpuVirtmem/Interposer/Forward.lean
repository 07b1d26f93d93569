import GpuVirtmem.Interposer.DeviceMap
import GpuVirtmem.Lib.Run
import GpuVirtmem.Remote.Register

/-!
# Registrations in the interposer (`interposer/libci.c`)

A binary is registered with every backend, and each of them returns a handle of its own. The
interposer keeps these handles in a row of `fatcubinhandle_array`; what is registered for the binary
later is forwarded with the handles of a row. That row is found by a counter of the binaries, not by
the handle that the application passes, so the calls have to come in an order that the counter can
follow.

`InOrder` is about the calls: a call that passes a handle is about the module that was registered
last among those that are left. The order of a program's constructors is such, one module with all
of its registrations after the other, and so is that of its destructors. Any number of backends is
covered; with none of them there is nothing to forward and every order will do.

What the backends do with what they get is left out here, and so is whether they get it: a call is
forwarded when its packet has been made with the right handle for each of them. `Startup` puts the
two together.
-/

namespace GpuVirtmem.Interposer

open Lib Remote

/-- `MAX_FATCUBIN_HANDLES`. -/
def maxFatcubinHandles : Nat := 1000

/-- The static variables that the calls share. -/
structure HandleTable where
  fatcubinhandleArray : Nat → Nat → Nat
  fatcubinHandleCounter : Int

namespace HandleTable

/-- `fatcubinhandle_array[fatcubin_handle_counter-1][index]` is in the array. -/
def InBounds (t : HandleTable) (index : Nat) : Prop :=
  0 < t.fatcubinHandleCounter ∧ t.fatcubinHandleCounter ≤ maxFatcubinHandles ∧
    index < maxBackendNodes

instance (t : HandleTable) (index : Nat) : Decidable (t.InBounds index) :=
  inferInstanceAs (Decidable (_ ∧ _))

/-- The row of the counter. -/
def row (t : HandleTable) : Nat := (t.fatcubinHandleCounter - 1).toNat

/-- `fatcubinhandle_array[fatcubin_handle_counter-1][index]`. -/
def read (t : HandleTable) (index : Nat) : Except CFail Nat :=
  if t.InBounds index then .ok (t.fatcubinhandleArray t.row index) else .error .badAccess

/-- The array with `handle` in the row of the counter. -/
def setHandle (t : HandleTable) (index handle : Nat) : HandleTable :=
  { t with
    fatcubinhandleArray := fun i j =>
      if i = t.row ∧ j = index then handle else t.fatcubinhandleArray i j }

/-- `fatcubinhandle_array[fatcubin_handle_counter-1][index] = handle`. -/
def write (t : HandleTable) (index handle : Nat) : Except CFail HandleTable :=
  if t.InBounds index then .ok (t.setHandle index handle) else .error .badAccess

/-- The loop of `__cudaRegisterFatBinary` over the first backends, which return `handles`. -/
def store (t : HandleTable) (handles : Nat → Nat) : Nat → Except CFail HandleTable
  | 0 => .ok t
  | index + 1 => do
    let t ← t.store handles index
    t.write index (handles index)

/-- The loop of the later calls over the first backends: the handles that they are sent. -/
def forward (t : HandleTable) : Nat → Except CFail (List Nat)
  | 0 => .ok []
  | index + 1 => do
    let sent ← t.forward index
    let handle ← t.read index
    return sent ++ [handle]

/-- `__cudaRegisterFatBinary`: to how many backends it is forwarded, and the variables after it. -/
def cudaRegisterFatBinary (t : HandleTable) (backendNodes : Nat) (magic : UInt32)
    (handles : Nat → Nat) : Except CFail (Nat × HandleTable) :=
  let t := { t with fatcubinHandleCounter := t.fatcubinHandleCounter + 1 }
  if magic = cudaFatMAGIC then do
    let t ← t.store handles backendNodes
    return (backendNodes, t)
  else if magic = cudaFatMAGIC2 then do
    let t ← t.store handles backendNodes
    return (backendNodes, t)
  else .ok (0, t)

/-- `__cudaRegisterFunction`: the handles it is forwarded with. The one that is passed is not
used. -/
def cudaRegisterFunction (t : HandleTable) (backendNodes _fatCubinHandle : Nat) :
    Except CFail (List Nat) :=
  t.forward backendNodes

/-- `__cudaRegisterVar`. -/
def cudaRegisterVar (t : HandleTable) (backendNodes _fatCubinHandle : Nat) :
    Except CFail (List Nat) :=
  t.forward backendNodes

/-- `__cudaUnregisterFatBinary`. -/
def cudaUnregisterFatBinary (t : HandleTable) (backendNodes _fatCubinHandle : Nat) :
    Except CFail (List Nat × HandleTable) := do
  let sent ← t.forward backendNodes
  return (sent, { t with fatcubinHandleCounter := t.fatcubinHandleCounter - 1 })

/-! ## What the loops do -/

section

variable {t t' : HandleTable} {handles : Nat → Nat} {n index : Nat}

/-- The calls are forwarded with the row of the counter, if all of it is in the array. -/
theorem forward_cases (t : HandleTable) (n : Nat) :
    ((∀ index < n, t.InBounds index) ∧
      t.forward n = .ok ((List.range n).map (t.fatcubinhandleArray t.row))) ∨
    ((¬ ∀ index < n, t.InBounds index) ∧ t.forward n = .error .badAccess) := by
  induction n with
  | zero => exact .inl ⟨fun _ h => absurd h (Nat.not_lt_zero _), rfl⟩
  | succ n ih =>
    rw [Nat.forall_lt_succ_right, forward]
    rcases ih with ⟨hbounds, hsent⟩ | ⟨hbounds, hfail⟩
    · rw [hsent, List.range_succ, List.map_append, List.map_singleton]
      by_cases hn : t.InBounds n
      · have hread : t.read n = .ok (t.fatcubinhandleArray t.row n) := if_pos hn
        refine .inl ⟨⟨hbounds, hn⟩, ?_⟩
        simp only [bind, Except.bind, hread, pure, Except.pure]
      · have hread : t.read n = .error .badAccess := if_neg hn
        refine .inr ⟨fun h => hn h.2, ?_⟩
        simp only [bind, Except.bind, hread]
    · rw [hfail]
      exact .inr ⟨fun h => hbounds h.1, rfl⟩

/-- The row of the counter is stored, and nothing else is changed. -/
structure Stored (t : HandleTable) (handles : Nat → Nat) (n : Nat) (t' : HandleTable) : Prop where
  counter : t'.fatcubinHandleCounter = t.fatcubinHandleCounter
  own : ∀ j < n, t'.fatcubinhandleArray t.row j = handles j
  others : ∀ i, i ≠ t.row → t'.fatcubinhandleArray i = t.fatcubinhandleArray i

/-- One more handle is stored. -/
theorem Stored.setHandle (h : t.Stored handles n t') :
    t.Stored handles (n + 1) (t'.setHandle n (handles n)) := by
  have hrow : t'.row = t.row := by rw [row, row, h.counter]
  refine ⟨h.counter, fun j hj => ?_, fun i hi => ?_⟩
  · by_cases hjn : j = n
    · simp [HandleTable.setHandle, hrow, hjn]
    · have hlt : j < n := by omega
      simp [HandleTable.setHandle, hjn, h.own j hlt]
  · ext j
    simp [HandleTable.setHandle, hrow, hi, h.others i hi]

/-- The loop stores the handles of all backends, if all of the row is in the array. -/
theorem store_cases (t : HandleTable) (handles : Nat → Nat) (n : Nat) :
    ((∀ index < n, t.InBounds index) ∧
      ∃ t', t.store handles n = .ok t' ∧ t.Stored handles n t') ∨
    ((¬ ∀ index < n, t.InBounds index) ∧ t.store handles n = .error .badAccess) := by
  induction n with
  | zero =>
    have hnone : ∀ index < 0, t.InBounds index := fun _ h => absurd h (Nat.not_lt_zero _)
    exact .inl ⟨hnone, t, rfl, rfl, fun _ h => absurd h (Nat.not_lt_zero _), fun _ _ => rfl⟩
  | succ n ih =>
    rw [Nat.forall_lt_succ_right, store]
    rcases ih with ⟨hbounds, t', ht', hstored⟩ | ⟨hbounds, hfail⟩
    · have hsame : t'.InBounds n ↔ t.InBounds n := by
        unfold InBounds
        rw [hstored.counter]
      rw [ht']
      by_cases hn : t.InBounds n
      · exact .inl ⟨⟨hbounds, hn⟩, _, if_pos (hsame.mpr hn), hstored.setHandle⟩
      · exact .inr ⟨fun h => hn h.2, if_neg fun h => hn (hsame.mp h)⟩
    · rw [hfail]
      exact .inr ⟨fun h => hbounds h.1, rfl⟩

end

end HandleTable

/-! ## Sequences of calls -/

/-- A module that is registered: the handle that the application has been given, which is what an
uninitialised variable held, and the handles that the backends have returned. -/
structure Registered where
  ret : Nat
  handles : Nat → Nat

/-- The interposer, with the modules that are registered in the order of their registrations. -/
structure Client where
  table : HandleTable
  registered : List Registered

/-- The calls that pass a handle. -/
inductive Named
  | registerFunction | registerVar | unregisterFatBinary

namespace Named

/-- The handles that the call is forwarded with, and the variables after it. -/
def serve (t : HandleTable) (backendNodes fatCubinHandle : Nat) :
    Named → Except CFail (List Nat × HandleTable)
  | registerFunction => do return (← t.cudaRegisterFunction backendNodes fatCubinHandle, t)
  | registerVar => do return (← t.cudaRegisterVar backendNodes fatCubinHandle, t)
  | unregisterFatBinary => t.cudaUnregisterFatBinary backendNodes fatCubinHandle

/-- The variables after a call that has been forwarded. -/
def after (t : HandleTable) : Named → HandleTable
  | unregisterFatBinary => { t with fatcubinHandleCounter := t.fatcubinHandleCounter - 1 }
  | _ => t

/-- The calls that pass a handle are forwarded alike. -/
theorem serve_of_forward {t : HandleTable} {n fatCubinHandle : Nat} {sent : List Nat}
    (h : t.forward n = .ok sent) (call : Named) :
    call.serve t n fatCubinHandle = .ok (sent, call.after t) := by
  cases call with
  | registerFunction => simp [serve, HandleTable.cudaRegisterFunction, h, after, bind, Except.bind,
      pure, Except.pure]
  | registerVar => simp [serve, HandleTable.cudaRegisterVar, h, after, bind, Except.bind, pure,
      Except.pure]
  | unregisterFatBinary => simp [serve, HandleTable.cudaUnregisterFatBinary, h, after, bind,
      Except.bind, pure, Except.pure]

/-- The modules that are registered after a call for the module at `i`. -/
def leaves (registered : List Registered) (i : Nat) : Named → List Registered
  | unregisterFatBinary => registered.eraseIdx i
  | _ => registered

end Named

/-- A call of the application: a registration, or the handle of the module at `i` of those that are
registered is passed. -/
inductive ModuleCall
  | registerFatBinary (magic : UInt32) (ret : Nat) (handles : Nat → Nat)
  | named (call : Named) (fatCubinHandle i : Nat)

namespace Client

/-- No module is registered. -/
def start : Client := ⟨⟨fun _ _ => 0, 0⟩, []⟩

/-- The call on the variables and on the modules that are registered. -/
def serve (n : Nat) (c : Client) : ModuleCall → Except CFail Client
  | .registerFatBinary magic ret handles => do
    let (_, table) ← c.table.cudaRegisterFatBinary n magic handles
    return { table := table, registered := c.registered ++ [⟨ret, handles⟩] }
  | .named call fatCubinHandle i => do
    let (_, table) ← call.serve c.table n fatCubinHandle
    return { table := table, registered := call.leaves c.registered i }

/-- What is promised of a call: the handle that is passed is the one returned for the module, and
some backend tells a new module from each of those that are registered. -/
def Admissible (n : Nat) (c : Client) : ModuleCall → Prop
  | .registerFatBinary _ _ handles =>
    0 < n → ∀ m ∈ c.registered, ∃ b < n, m.handles b ≠ handles b
  | .named _ fatCubinHandle i => ∃ m, c.registered[i]? = some m ∧ m.ret = fatCubinHandle

/-- The call is forwarded to each of the `n` backends, with the handles that they have returned for
the module. -/
def Forwards (n : Nat) (c : Client) : ModuleCall → Prop
  | .registerFatBinary magic _ handles =>
    ∃ table, c.table.cudaRegisterFatBinary n magic handles = .ok (n, table)
  | .named call fatCubinHandle i => ∃ m, c.registered[i]? = some m ∧
    ∃ table, call.serve c.table n fatCubinHandle = .ok ((List.range n).map m.handles, table)

/-- There are no backends. Otherwise a new binary is of one of the two formats, and there is a row
for it with a column for each backend; and a handle that is passed is that of the last module. -/
def InOrder (n : Nat) (c : Client) : ModuleCall → Prop
  | .registerFatBinary magic _ _ => n = 0 ∨ ((magic = cudaFatMAGIC ∨ magic = cudaFatMAGIC2) ∧
    c.registered.length < maxFatcubinHandles ∧ n ≤ maxBackendNodes)
  | .named _ _ i => n = 0 ∨ i + 1 = c.registered.length

/-- A call of an application whose interposer has not failed. -/
inductive Step (n : Nat) : Except CFail Client → ModuleCall → Except CFail Client → Prop
  | call {c : Client} {e : ModuleCall} {t : Except CFail Client} :
      c.Admissible n e → c.serve n e = t → Step n (.ok c) e t

/-- A call leads to one state. -/
theorem Step.det {n : Nat} {s t u : Except CFail Client} {e : ModuleCall} (h : Step n s e t)
    (h' : Step n s e u) : t = u := by
  obtain ⟨_, rfl⟩ := h
  obtain ⟨_, rfl⟩ := h'
  rfl

/-- As long as the calls come in order, the rows belong to the modules. -/
structure Kept (n : Nat) (c : Client) : Prop where
  counter : c.table.fatcubinHandleCounter = c.registered.length
  inArray : ∀ m ∈ c.registered, n = 0 ∨
    (c.registered.length ≤ maxFatcubinHandles ∧ n ≤ maxBackendNodes)
  rows : ∀ i m, c.registered[i]? = some m → ∀ b < n, c.table.fatcubinhandleArray i b = m.handles b
  apart : 0 < n → c.registered.Pairwise fun m m' => ∃ b < n, m.handles b ≠ m'.handles b

section

variable {n : Nat} {c d : Client} {fatCubinHandle i : Nat} {m : Registered} {call : Named}

/-- No binary has been registered. -/
theorem start_kept : start.Kept n where
  counter := rfl
  inArray _ h := nomatch h
  rows _ _ h := nomatch h
  apart _ := List.Pairwise.nil

/-- A call that passes a handle is forwarded with the row of the last module. -/
theorem Kept.serve_named (h : c.Kept n) (hm : c.registered[i]? = some m) :
    ∃ top, c.registered[c.registered.length - 1]? = some top ∧
      c.table.forward n = .ok ((List.range n).map top.handles) := by
  have hlt : i < c.registered.length := (List.getElem?_eq_some_iff.mp hm).1
  have hlast : c.registered.length - 1 < c.registered.length := by omega
  refine ⟨_, List.getElem?_eq_getElem hlast, ?_⟩
  have hbounds : ∀ index < n, c.table.InBounds index := by
    intro index hindex
    rcases h.inArray m (List.mem_of_getElem? hm) with hn | ⟨hrows, hcolumns⟩
    · omega
    · refine ⟨?_, ?_, Nat.lt_of_lt_of_le hindex hcolumns⟩
      · rw [h.counter]
        omega
      · rw [h.counter]
        exact_mod_cast hrows
  have hrow : c.table.row = c.registered.length - 1 := by
    rw [HandleTable.row, h.counter]
    omega
  rcases HandleTable.forward_cases c.table n with ⟨_, hsent⟩ | ⟨hfail, _⟩
  · rw [hsent, hrow]
    congr 1
    apply List.map_congr_left
    intro b hb
    exact h.rows _ _ (List.getElem?_eq_getElem hlast) b (List.mem_range.mp hb)
  · exact absurd hbounds hfail

/-- Modules that go away, last first, leave the rows of the others. -/
theorem Kept.mono (h : c.Kept n) (hsub : d.registered.Sublist c.registered)
    (hcounter : d.table.fatcubinHandleCounter = d.registered.length)
    (harray : d.table.fatcubinhandleArray = c.table.fatcubinhandleArray)
    (hplace : 0 < n → ∀ (j : Nat) (m : Registered), d.registered[j]? = some m →
      c.registered[j]? = some m) :
    d.Kept n where
  counter := hcounter
  inArray m hm := by
    have hlen := hsub.length_le
    rcases h.inArray m (hsub.subset hm) with hn | hrows
    · exact .inl hn
    · exact .inr ⟨Nat.le_trans hlen hrows.1, hrows.2⟩
  rows j m hm b hb := by
    rw [harray]
    exact h.rows j m (hplace (Nat.zero_lt_of_lt hb) j m hm) b hb
  apart hn := (h.apart hn).sublist hsub

/-- The last module goes away, and the counter goes back by one. -/
theorem Kept.unregister (h : c.Kept n) (hm : c.registered[i]? = some m)
    (horder : n = 0 ∨ i + 1 = c.registered.length) :
    Kept n ⟨Named.unregisterFatBinary.after c.table, c.registered.eraseIdx i⟩ := by
  have hlt := (List.getElem?_eq_some_iff.mp hm).1
  refine h.mono (List.eraseIdx_sublist ..) ?_ rfl ?_
  · show c.table.fatcubinHandleCounter - 1 = (c.registered.eraseIdx i).length
    rw [h.counter, List.length_eraseIdx_of_lt hlt]
    omega
  · intro hn j m' hm'
    have hi : i + 1 = c.registered.length := by omega
    have htake : c.registered.eraseIdx i = c.registered.take i := by
      rw [List.eraseIdx_eq_take_drop_succ, hi, List.drop_length, List.append_nil]
    rw [htake, List.getElem?_take] at hm'
    split at hm'
    · exact hm'
    · cases hm'

/-- Functions and variables change nothing in the table. -/
theorem Kept.named (h : c.Kept n) (hm : c.registered[i]? = some m)
    (horder : n = 0 ∨ i + 1 = c.registered.length) :
    ∃ d, c.serve n (.named call fatCubinHandle i) = .ok d ∧ d.Kept n := by
  obtain ⟨top, _, hsent⟩ := h.serve_named hm
  refine ⟨⟨call.after c.table, call.leaves c.registered i⟩, ?_, ?_⟩
  · simp only [serve, Named.serve_of_forward hsent, bind, Except.bind, pure, Except.pure]
  · cases call with
    | registerFunction => exact h
    | registerVar => exact h
    | unregisterFatBinary => exact h.unregister hm horder

/-- The counter has been advanced for a new binary. -/
def advanced (c : Client) : HandleTable :=
  { c.table with fatcubinHandleCounter := c.table.fatcubinHandleCounter + 1 }

/-- The next row is that of the next module. -/
theorem Kept.advanced_row (h : c.Kept n) : c.advanced.row = c.registered.length := by
  simp [HandleTable.row, advanced, h.counter]

/-- There is a row for the new binary, with a column for each backend. -/
theorem Kept.advanced_inBounds (h : c.Kept n) : (∀ index < n, c.advanced.InBounds index) ↔
    n = 0 ∨ (c.registered.length < maxFatcubinHandles ∧ n ≤ maxBackendNodes) := by
  have hat : ∀ index, c.advanced.InBounds index ↔
      c.registered.length < maxFatcubinHandles ∧ index < maxBackendNodes := by
    intro index
    simp only [HandleTable.InBounds, advanced, h.counter]
    omega
  simp only [hat]
  constructor
  · intro hall
    rcases Nat.eq_zero_or_pos n with hn | hn
    · exact .inl hn
    · have hfirst := hall 0 hn
      have hlast := hall (n - 1) (by omega)
      exact .inr ⟨hfirst.1, by omega⟩
  · rintro (rfl | ⟨hrow, hn⟩) index hindex
    · exact absurd hindex (Nat.not_lt_zero index)
    · exact ⟨hrow, Nat.lt_of_lt_of_le hindex hn⟩

/-- A binary whose handles are stored is the new last module. -/
theorem Kept.register {t : HandleTable} {handles : Nat → Nat} (h : c.Kept n) (ret : Nat)
    (hstored : c.advanced.Stored handles n t)
    (hrows : n = 0 ∨ (c.registered.length < maxFatcubinHandles ∧ n ≤ maxBackendNodes))
    (hapart : 0 < n → ∀ m ∈ c.registered, ∃ b < n, m.handles b ≠ handles b) :
    Kept n ⟨t, c.registered ++ [⟨ret, handles⟩]⟩ where
  counter := by
    rw [hstored.counter, advanced, h.counter]
    simp
  inArray _ _ := by
    rw [List.length_append, List.length_singleton]
    exact hrows
  rows i m hm b hb := by
    rcases Nat.lt_trichotomy i c.registered.length with hi | hi | hi
    · rw [List.getElem?_append_left hi] at hm
      rw [hstored.others i (by rw [h.advanced_row]; omega)]
      exact h.rows i m hm b hb
    · rw [hi, List.getElem?_concat_length] at hm
      cases hm
      rw [hi, ← h.advanced_row]
      exact hstored.own b hb
    · rw [List.getElem?_eq_none (by simp; omega)] at hm
      cases hm
  apart hn := by
    rw [List.pairwise_append]
    refine ⟨h.apart hn, List.pairwise_singleton _ _, fun m hm m' hm' => ?_⟩
    obtain rfl := List.mem_singleton.mp hm'
    exact hapart hn m hm

/-- A binary of one of the two formats is counted, and its handles are stored. -/
theorem cudaRegisterFatBinary_known {magic : UInt32} {handles : Nat → Nat}
    (hmagic : magic = cudaFatMAGIC ∨ magic = cudaFatMAGIC2) :
    c.table.cudaRegisterFatBinary n magic handles = do
      let t ← c.advanced.store handles n
      return (n, t) := by
  unfold HandleTable.cudaRegisterFatBinary
  by_cases hfirst : magic = cudaFatMAGIC
  · exact if_pos hfirst
  · exact (if_neg hfirst).trans (if_pos (hmagic.resolve_left hfirst))

/-- Any other binary is only counted. -/
theorem cudaRegisterFatBinary_unknown {magic : UInt32} {handles : Nat → Nat}
    (hmagic : ¬ (magic = cudaFatMAGIC ∨ magic = cudaFatMAGIC2)) :
    c.table.cudaRegisterFatBinary n magic handles = .ok (0, c.advanced) := by
  rw [not_or] at hmagic
  unfold HandleTable.cudaRegisterFatBinary
  exact (if_neg hmagic.1).trans (if_neg hmagic.2)

/-- A new binary of one of the two formats is forwarded to every backend, if there is room for the
handles, and no other one is forwarded to any. -/
theorem Kept.registerFatBinary {magic : UInt32} {ret : Nat} {handles : Nat → Nat} (h : c.Kept n)
    (ha : c.Admissible n (.registerFatBinary magic ret handles)) :
    (c.Forwards n (.registerFatBinary magic ret handles) ↔
      c.InOrder n (.registerFatBinary magic ret handles)) ∧
    (c.InOrder n (.registerFatBinary magic ret handles) →
      ∃ d, c.serve n (.registerFatBinary magic ret handles) = .ok d ∧ d.Kept n) := by
  by_cases hmagic : magic = cudaFatMAGIC ∨ magic = cudaFatMAGIC2
  · simp only [Forwards, InOrder, serve, cudaRegisterFatBinary_known hmagic, hmagic, true_and,
      ← h.advanced_inBounds]
    rcases c.advanced.store_cases handles n with ⟨hbounds, t, hstore, hstored⟩ | ⟨hbounds, hfail⟩
    · rw [hstore]
      refine ⟨iff_of_true ⟨t, rfl⟩ hbounds, fun _ => ⟨_, rfl, ?_⟩⟩
      exact h.register ret hstored (h.advanced_inBounds.mp hbounds) ha
    · rw [hfail]
      refine ⟨iff_of_false ?_ hbounds, fun h => absurd h hbounds⟩
      rintro ⟨t, ht⟩
      cases ht
  · simp only [Forwards, InOrder, serve, cudaRegisterFatBinary_unknown hmagic, hmagic, false_and,
      or_false]
    refine ⟨⟨?_, ?_⟩, ?_⟩
    · rintro ⟨t, ht⟩
      cases ht
      rfl
    · rintro rfl
      exact ⟨_, rfl⟩
    · rintro rfl
      refine ⟨_, rfl, h.register ret ⟨rfl, fun _ hj => ?_, fun _ _ => rfl⟩ (.inl rfl) ha⟩
      exact absurd hj (Nat.not_lt_zero _)

end

section

variable {n : Nat} {c : Client} {s t : Except CFail Client} {e : ModuleCall} {es : List ModuleCall}

/-- A call in order is served, and keeps the rows. -/
theorem Kept.serve (h : c.Kept n) (ha : c.Admissible n e) (horder : c.InOrder n e) :
    ∃ d, c.serve n e = .ok d ∧ d.Kept n := by
  cases e with
  | registerFatBinary magic ret handles => exact (h.registerFatBinary ha).2 horder
  | named call fatCubinHandle i =>
    obtain ⟨m, hm, _⟩ := ha
    exact h.named hm horder

end

/-- The interposer after that. -/
def twoModules : Client where
  table := (advanced ⟨(advanced start).setHandle 0 100, []⟩).setHandle 0 200
  registered := [⟨7, fun _ => 100⟩, ⟨8, fun _ => 200⟩]

end Client

end GpuVirtmem.Interposer
