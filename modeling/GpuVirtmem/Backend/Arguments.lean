import GpuVirtmem.Backend.Processes
import GpuVirtmem.VirtMem.KernelRecord

/-!
# Arguments of kernels (`remote/remote_api_wrapper.c`)

In the build with `PAGER` an argument is looked up among the handles of the process, by the first
eight bytes of the request buffer, whatever the size of the argument.

The handler asks `mem_map_find_entry` for the argument and uses the answer as an index, also when it
is -1. That is the one reason why values are not classified. That the eight bytes are read whatever
the size of the argument is does not make a difference to the result: where they spell no handle,
the handler does not get as far.
-/

namespace GpuVirtmem.Backend

open Lib Remote Interposer VirtMem

/-- `nvbackCudaSetupArgument_srv`. Where the word is no handle, `vmapped_local_arr[-1]` is read. -/
def nvbackCudaSetupArgumentSrv (table : Nat) (packet : CudaPacket) (pReqBuffer : Bytes)
    (vmappedLocalArr : List Int) (ktab : Kmap) : Option (Kmap × CudaPacket × Status) :=
  (readWord pReqBuffer).bind fun word =>
  (memMapFindEntry table vmappedLocalArr word).bind fun id =>
  (vmappedLocalArr[id]?).bind fun vindex =>
  (kmapAddArg ktab pReqBuffer packet.args1.word0.toNat packet.args2.word0.toNat vindex).map
    fun ktab => (ktab, setSuccess packet, .ok)

/-- The argument is the 8-byte handle of row `i`, which is listed and in use. -/
structure IsHandle (table : Nat) (packet : CudaPacket) (b : Bytes) (s : BackendState) (i : Nat) :
    Prop where
  size : packet.args1.word0.toNat = 8
  handle : decodeLE b = handleAddr table i
  listed : (i : Int) ∈ s.vmappedLocalArr
  live : RowLive s.vmem i

/-- The argument is appended to the list of the current object, and no other list changes. -/
structure Appends (ktab ktab' : Kmap) (x : KernelArg) : Prop where
  index : ktab'.index = ktab.index
  args : ∀ j < maxKernels, ∀ obj nodes args, ktab.kobjects[j]? = some obj →
    ArgList ktab.heap obj nodes args → ∃ obj' nodes', ktab'.kobjects[j]? = some obj' ∧
      ArgList ktab'.heap obj' nodes' (if j = ktab.index then args ++ [x] else args)

/-- One argument is appended, with the row of the allocation whose handle it is, or else with a
negative index and all of its bytes. -/
def Classifies (table : Nat) (packet : CudaPacket) (b : Bytes) (s : BackendState) (ktab : Kmap) :
    Prop :=
  ∃ ktab' answer status x,
    nvbackCudaSetupArgumentSrv table packet b s.vmappedLocalArr ktab =
      some (ktab', answer, status) ∧
    Appends ktab ktab' x ∧ x.size = packet.args1.word0.toNat ∧
    x.offset = packet.args2.word0.toNat ∧
    (∀ i, IsHandle table packet b s i → x.memMapIndex = i) ∧
    ((∀ i, ¬IsHandle table packet b s i) → x.memMapIndex < 0 ∧ b <+: encodeLE 8 x.arg)

/-! ## The argument that is appended -/

section

variable {calls : List KernelCall} {ktab ktab' t₀ : Kmap} {returned : List Nat}
  {nodes : Nat → List (Nat × KernelArgNode)} {a : ArgRequest} {x : KernelArg}
  {heap : List KernelArgNode} {obj : KmapNode}

/-- An object has one argument list, so that what was appended can be read off the heap. -/
theorem argList_unique {ns ns' : List (Nat × KernelArgNode)} {args args' : List KernelArg}
    (h : ArgList heap obj ns args) (h' : ArgList heap obj ns' args') : args = args' := by
  obtain rfl := h.reached.unique h'.reached
  exact h.contents.symm.trans h'.contents

/-- `kmap_add_arg` appends the argument to a kernel map that is a record of some calls. -/
theorem kmapAddArg_appends (h : Recorded calls (ktab, returned) nodes)
    (hindex : ktab.index < maxKernels) :
    ∃ ktab', kmapAddArg ktab a.arg a.size a.offset a.vindex = some ktab' ∧
      Appends ktab ktab' a.node.contents := by
  obtain ⟨⟨ktab', returned'⟩, nodes', hexec, hrec⟩ := h.addArg hindex a
  obtain ⟨t, ht, heq⟩ := Option.map_eq_some_iff.mp hexec
  cases heq
  refine ⟨ktab', ht, ?_, ?_⟩
  · rw [hrec.index, h.index, kernelCount_snoc]
    rfl
  · intro j hj obj ns args hobj hlist
    obtain ⟨obj₀, hobj₀, hlist₀, -⟩ := h.args j hj
    cases hobj.symm.trans hobj₀
    obtain rfl := argList_unique hlist hlist₀
    obtain ⟨obj', hobj', hlist', -⟩ := hrec.args j hj
    refine ⟨obj', nodes' j, hobj', ?_⟩
    by_cases hji : j = ktab.index
    · rw [if_pos hji]
      rw [span_snoc, if_pos ⟨rfl, hji.trans h.index⟩, arguments_snoc] at hlist'
      exact hlist'
    · rw [if_neg hji]
      rw [span_snoc, if_neg (fun hc => hji (hc.2.trans h.index.symm))] at hlist'
      exact hlist'

/-- What has been appended is determined: no argument is both a handle and a value. -/
theorem appends_unique (h : Recorded calls (ktab, returned) nodes)
    (hindex : ktab.index < maxKernels) {y : KernelArg} (hx : Appends ktab ktab' x)
    (hy : Appends ktab ktab' y) : x = y := by
  obtain ⟨obj, hobj, hlist, -⟩ := h.args _ hindex
  obtain ⟨objx, nsx, hobjx, hlistx⟩ := hx.args _ hindex obj _ _ hobj hlist
  obtain ⟨objy, nsy, hobjy, hlisty⟩ := hy.args _ hindex obj _ _ hobj hlist
  cases hobjx.symm.trans hobjy
  have hargs := argList_unique hlistx hlisty
  simpa using hargs

/-! ## The handler -/

section

variable {table i : Nat} {packet answer : CudaPacket} {b : Bytes} {s : BackendState}
  {status : Status}

/-- Where the handler returns, it has appended an argument with a row. It never takes the branch for
values: an argument that is not found makes it read at -1, which does not return here. -/
theorem nvbackCudaSetupArgumentSrv_cases (h : Recorded calls (ktab, returned) nodes)
    (hindex : ktab.index < maxKernels)
    (hsrv : nvbackCudaSetupArgumentSrv table packet b s.vmappedLocalArr ktab =
      some (ktab', answer, status)) :
    ∃ (i : Nat) (x : KernelArg), x.memMapIndex = i ∧ Appends ktab ktab' x := by
  obtain ⟨word, hword, hsrv⟩ := Option.bind_eq_some_iff.mp hsrv
  obtain ⟨id, hfind, hsrv⟩ := Option.bind_eq_some_iff.mp hsrv
  obtain ⟨vindex, hid, hsrv⟩ := Option.bind_eq_some_iff.mp hsrv
  obtain ⟨t, ht, heq⟩ := Option.map_eq_some_iff.mp hsrv
  cases heq
  unfold readWord at hword
  split at hword
  · next hreadable =>
    obtain ⟨i, hi, -⟩ := memMapFindEntry_some hfind
    obtain rfl : vindex = i := Option.some.inj (hid.symm.trans hi)
    obtain ⟨t, ht', happends⟩ := kmapAddArg_appends (a := ⟨b, hreadable, _, _, i⟩) h hindex
    cases ht.symm.trans ht'
    exact ⟨i, _, rfl, happends⟩
  · cases hword

/-- A handle is found, and appended with its row. -/
theorem nvbackCudaSetupArgumentSrv_handle (h : Recorded calls (ktab, returned) nodes)
    (hindex : ktab.index < maxKernels) (hlen : b.length = 8)
    (hp : decodeLE b = handleAddr table i) (hmem : (i : Int) ∈ s.vmappedLocalArr) :
    ∃ ktab' x, nvbackCudaSetupArgumentSrv table packet b s.vmappedLocalArr ktab =
        some (ktab', setSuccess packet, .ok) ∧ Appends ktab ktab' x ∧
      x.size = packet.args1.word0.toNat ∧ x.offset = packet.args2.word0.toNat ∧
      x.memMapIndex = i := by
  have hreadable : 8 ≤ b.length := Nat.le_of_eq hlen.symm
  have hword : readWord b = some (handleAddr table i) := by
    rw [readWord, if_pos hreadable, List.take_of_length_le (Nat.le_of_eq hlen), hp]
  obtain ⟨id, hfind, hid⟩ := @memMapFindEntry_of_mem table _ _ hmem
  obtain ⟨ktab', hadd, happends⟩ := kmapAddArg_appends
    (a := ⟨b, hreadable, packet.args1.word0.toNat, packet.args2.word0.toNat, i⟩) h hindex
  refine ⟨ktab', _, ?_, happends, rfl, rfl, rfl⟩
  simp only [nvbackCudaSetupArgumentSrv, hword, hfind, hid, hadd, Option.bind_some, Option.map_some]

/-- An argument is classified correctly exactly if it is the handle of an allocation.

What is not a handle is not found, and the handler then reads its list of rows at the index -1. -/
theorem classifies_iff {kobjects : List KmapNode} (hinit : kmapInit kobjects = some t₀)
    (hcalls : calls.foldlM KernelCall.exec (t₀, []) = some (ktab, returned))
    (hcount : kernelCount calls < maxKernels)
    (hsize : b.length = packet.args1.word0.toNat) :
    Classifies table packet b s ktab ↔ ∃ i, IsHandle table packet b s i := by
  obtain ⟨u, nodes, hrun, h⟩ := recorded_calls hinit hcount
  cases hcalls.symm.trans hrun
  have hindex : ktab.index < maxKernels := h.index.trans_lt hcount
  constructor
  · rintro ⟨ktab', answer, status, x, hsrv, happends, -, -, -, hplain⟩
    obtain ⟨i, y, hy, happends'⟩ :=
      nvbackCudaSetupArgumentSrv_cases h hindex hsrv
    obtain rfl := appends_unique h hindex happends happends'
    by_contra hnone
    obtain ⟨hneg, hprefix⟩ := hplain fun i hi => hnone ⟨i, hi⟩
    omega
  · rintro ⟨i, hi⟩
    have hlen : b.length = 8 := hsize.trans hi.size
    obtain ⟨ktab', x, hsrv, happends, hxsize, hxoffset, hx⟩ :=
      nvbackCudaSetupArgumentSrv_handle h hindex hlen hi.handle hi.listed
    refine ⟨ktab', _, _, x, hsrv, happends, hxsize, hxoffset, ?_, ?_⟩
    · intro j hj
      obtain rfl := handleAddr_inj (hi.handle.symm.trans hj.handle)
      exact hx
    · exact fun hnone => absurd hi (hnone i)

end

end

/-- An argument of 8 bytes at the start of the parameters. -/
def eightBytes : CudaPacket := rcudaSetupArgument 0 0 8 0

/-- The handle of row 0. -/
def handleBytes : Bytes := [4, 0, 0, 0, 0, 0, 0, 0]

/-- The value 7. -/
def plainBytes : Bytes := [7, 0, 0, 0, 0, 0, 0, 0]

/-- The argument is the handle of row 0, and is classified as such. -/
theorem classifies_iff_handleBytes : ∃ ktab,
    kmapInit (List.replicate maxKernels unsetObject) = some ktab ∧
      (Classifies 0 eightBytes handleBytes oneByte ktab ↔
        ∃ i, IsHandle 0 eightBytes handleBytes oneByte i) := by
  have hinit : kmapInit (List.replicate maxKernels unsetObject) = some _ := if_pos (by simp)
  have hcount : kernelCount [] < maxKernels := by
    unfold maxKernels
    decide
  exact ⟨_, hinit, classifies_iff hinit rfl hcount rfl⟩

/-- A value that is no handle is looked up at -1. -/
theorem plain_not_classified : ¬∀ (table : Nat) (kobjects : List KmapNode)
    (calls : List KernelCall) (ktab t₀ : Kmap) (returned : List Nat) (packet : CudaPacket)
    (b : Bytes) (s : BackendState), kmapInit kobjects = some t₀ →
      calls.foldlM KernelCall.exec (t₀, []) = some (ktab, returned) →
        kernelCount calls < maxKernels →
          (∀ x ∈ s.vmappedLocalArr, x = -1 ∨ ∃ i : Nat, x = i ∧ RowLive s.vmem i) →
            b.length = packet.args1.word0.toNat → Classifies table packet b s ktab := by
  intro hclaim
  have hinit : kmapInit (List.replicate maxKernels unsetObject) = some _ := if_pos (by simp)
  have hcount : kernelCount [] < maxKernels := by
    unfold maxKernels
    decide
  have hentries : ∀ x ∈ oneByte.vmappedLocalArr,
      x = -1 ∨ ∃ i : Nat, x = i ∧ RowLive oneByte.vmem i := by
    intro x hx
    exact .inr ⟨0, List.mem_singleton.mp hx, _, rfl, rfl⟩
  obtain ⟨ktab', answer, status, x, hsrv, -⟩ := hclaim 0 _ [] _ _ [] eightBytes plainBytes oneByte
    hinit rfl hcount hentries rfl
  obtain ⟨word, hword, hsrv⟩ := Option.bind_eq_some_iff.mp hsrv
  cases hword
  obtain ⟨id, hfind, -⟩ := Option.bind_eq_some_iff.mp hsrv
  cases hfind

end GpuVirtmem.Backend
