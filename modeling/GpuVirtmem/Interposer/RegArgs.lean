import GpuVirtmem.Interposer.FatBinary4
import GpuVirtmem.Lib.Fields

/-!
# The decoders of registrations (`interposer/libciutils.c`, `include/packetheader.h`)

The packets of functions, variables and CUDA 4 fat binaries, as fields one after another. The
decoders know nothing of the size of the buffer that they are given, and go where the lengths and
the pointers in it send them. `malloc i` is the outcome of the call of `malloc` for field `i`.

A format is a list of fields (`Lib.Fields`), and what is read for a field depends on the bytes
before: lengths and pointers that are in the packet, and on whether `malloc` has room. That a
decoder follows its format says all that is needed of it to tell whether it stays in its buffer;
what it decodes does not matter there.
-/

namespace GpuVirtmem.Interposer

open Lib Lib.Reader

/-- `uint3`, and `dim3`, which has the same members. -/
structure Uint3 where
  x : UInt32
  y : UInt32
  z : UInt32
  deriving DecidableEq, Repr

/-- `reg_func_args_t`, with `int` as its 32 bits and a pointer as what it points to. -/
structure RegFunctionArgs where
  fatCubinHandle : Nat
  hostFun : Option CString
  hostFEaddr : Nat
  deviceFun : Option CString
  deviceName : Option CString
  threadLimit : UInt32
  tid : Option Uint3
  bid : Option Uint3
  bDim : Option Uint3
  gDim : Option Uint3
  wSize : Option UInt32
  deriving DecidableEq

/-- `reg_var_args_t`, without the block at `dom0HostAddr`, which is never written. -/
structure RegVariableArgs where
  fatCubinHandle : Nat
  hostVar : Nat
  deviceAddress : Option CString
  deviceName : Option CString
  ext : UInt32
  size : UInt32
  constant : UInt32
  global : UInt32
  deriving DecidableEq

/-! ## The decoders -/

/-- `l_unpackStr`, with the outcome of its `malloc`: where that fails the characters are left, and
the offset does not say so. `get` refuses a buffer from 2^31 bytes on, so an `int` holds the offset
of every string that has been copied. -/
def lUnpackStrWith (malloc : Bool) : Reader (Option CString) := do
  let length ← number 4
  if length = 0 then
    return none
  else if malloc then do
    let pDst ← take length
    return CString.read (pDst ++ [0])
  else
    return none

/-- What `l_unpackUint3Ptr`, `l_unpackDim3Ptr` and `l_unpackIntPtr` share: the pointer, and where it
is not NULL what it points to. -/
def unpackPtr {α : Type} (malloc : Bool) (target : Reader α) : Reader (Option α) := do
  let p ← number 8
  if p = 0 then
    return none
  else if malloc then do
    let a ← target
    return some a
  else
    fail .error

/-- Three `unsigned int`. -/
def unpackUint3 : Reader Uint3 := do
  let x ← u32
  let y ← u32
  let z ← u32
  return { x := x, y := y, z := z }

/-- `l_unpackUint3Ptr`. -/
def lUnpackUint3Ptr (malloc : Bool) : Reader (Option Uint3) := unpackPtr malloc unpackUint3

/-- `l_unpackDim3Ptr`. -/
def lUnpackDim3Ptr (malloc : Bool) : Reader (Option Uint3) := unpackPtr malloc unpackUint3

/-- `l_unpackIntPtr`. -/
def lUnpackIntPtr (malloc : Bool) : Reader (Option UInt32) := unpackPtr malloc u32

/-- `unpackRegFuncArgs`. -/
def unpackRegFuncArgs (malloc : Nat → Bool) : Reader RegFunctionArgs := do
  let fatCubinHandle ← number 8
  let hostFun ← lUnpackStrWith (malloc 1)
  let hostFEaddr ← number 8
  let deviceFun ← lUnpackStrWith (malloc 3)
  let deviceName ← lUnpackStrWith (malloc 4)
  let threadLimit ← u32
  let tid ← lUnpackUint3Ptr (malloc 6)
  let bid ← lUnpackUint3Ptr (malloc 7)
  let bDim ← lUnpackDim3Ptr (malloc 8)
  let gDim ← lUnpackDim3Ptr (malloc 9)
  let wSize ← lUnpackIntPtr (malloc 10)
  return {
    fatCubinHandle := fatCubinHandle, hostFun := hostFun, hostFEaddr := hostFEaddr
    deviceFun := deviceFun, deviceName := deviceName, threadLimit := threadLimit
    tid := tid, bid := bid, bDim := bDim, gDim := gDim, wSize := wSize }

/-- `unpackRegVar`. -/
def unpackRegVar (malloc : Nat → Bool) : Reader RegVariableArgs := do
  let fatCubinHandle ← number 8
  let hostVar ← number 8
  let deviceAddress ← lUnpackStrWith (malloc 2)
  let deviceName ← lUnpackStrWith (malloc 3)
  let ext ← u32
  let size ← u32
  let constant ← u32
  let global ← u32
  return {
    fatCubinHandle := fatCubinHandle, hostVar := hostVar, deviceAddress := deviceAddress
    deviceName := deviceName, ext := ext, size := size, constant := constant, global := global }

/-- The length of a payload and the payload, for which `unpackFatBinary_4` does not check that it
has got memory. -/
def unpackPayload (malloc : Bool) :
    Reader ((length : UInt64) × { bs : Bytes // bs.length = length.toNat }) := do
  let length ← u64
  if malloc then do
    let payload ← block length.toNat
    return ⟨length, payload⟩
  else
    fail .badAccess

/-- `unpackFatBinary_4`, with the outcomes of `malloc`. -/
def unpackFatBinary4With (malloc : Nat → Bool) : Reader FatCudaBinary2 := do
  let magic ← u32
  let version ← u32
  let headerMagic ← u32
  let headerVersion ← u32
  let p ← unpackPayload (malloc 4)
  let f ← lUnpackStrWith (malloc 5)
  return {
    magic := magic, version := version, f := f
    fatbinData :=
      { magic := headerMagic, version := headerVersion, length := p.1, payload := p.2 } }

/-- With memory for the string the two models of `l_unpackStr` agree. -/
theorem lUnpackStrWith_true : lUnpackStrWith true = lUnpackStr := rfl

/-- With memory for everything the two models of `unpackFatBinary_4` agree. -/
theorem unpackFatBinary4With_true : unpackFatBinary4With (fun _ => true) = unpackFatBinary4 := by
  simp [unpackFatBinary4With, unpackFatBinary4, unpackFatbinData, unpackPayload, bind_assoc,
    pure_bind, lUnpackStrWith_true]

/-! ## The formats -/

/-- The packet of a function. -/
def regFuncFields : List Field :=
  [.fixed 8, .string 4, .fixed 8, .string 4, .string 4, .fixed 4,
    .pointer 12, .pointer 12, .pointer 12, .pointer 12, .pointer 4]

/-- The packet of a variable. -/
def regVarFields : List Field :=
  [.fixed 8, .fixed 8, .string 4, .string 4, .fixed 4, .fixed 4, .fixed 4, .fixed 4]

/-- The packet of a CUDA 4 fat binary. -/
def fatBinary4Fields : List Field :=
  [.fixed 4, .fixed 4, .fixed 4, .fixed 4, .block 8, .string 4]

/-! ## The decoders follow the formats -/

section

variable {α : Type} {target : Reader α} {n : Nat}

/-- With memory the characters are taken, and without it none. -/
theorem spans_lUnpackStrWith (malloc : Bool) :
    Spans (lUnpackStrWith malloc) fun src =>
      4 + if malloc then decodeLE (src.take 4) else 0 := by
  refine @spans_number_bind _ 4 _ (fun length => if malloc then length else 0) fun length => ?_
  by_cases hzero : length = 0
  · rw [if_pos hzero]
    subst hzero
    cases malloc <;> exact spans_pure none
  · rw [if_neg hzero]
    cases malloc with
    | false => exact spans_pure none
    | true => exact (spans_take length).seq fun pDst => spans_pure _

/-- A string, with or without memory for it. -/
theorem decodes_lUnpackStrWith (malloc : Bool) :
    Decodes (lUnpackStrWith malloc) malloc (.string 4) := by
  apply (spans_lUnpackStrWith malloc).decodes
  intro src
  cases malloc <;> rfl

/-- With memory what is pointed to is taken behind the pointer, unless that is NULL. -/
theorem spans_unpackPtr (h : Spans target fun _ => n) :
    Spans (unpackPtr true target) fun src => 8 + if decodeLE (src.take 8) = 0 then 0 else n := by
  refine @spans_number_bind _ 8 _ (fun p => if p = 0 then 0 else n) fun p => ?_
  by_cases hnull : p = 0
  · rw [if_pos hnull, if_pos hnull]
    exact spans_pure none
  · rw [if_neg hnull, if_neg hnull]
    exact h.seq fun a => spans_pure (some a)

/-- A pointer and what it points to. -/
theorem decodes_unpackPtr (h : Spans target fun _ => n) (malloc : Bool) :
    Decodes (unpackPtr malloc target) malloc (.pointer n) := by
  cases malloc with
  | true =>
    apply (spans_unpackPtr h).decodes
    intro src
    rfl
  | false =>
    intro src
    unfold unpackPtr
    have hway : Field.way false src (.pointer n) =
        if decodeLE (src.take 8) = 0 then .on 8 else .error 8 := rfl
    rw [hway]
    rcases spans_number 8 src with ⟨hle, p, hp⟩ | ⟨hlt, hbad⟩
    · obtain rfl := number_eq_ok hp
      rw [bind_ok hp]
      by_cases hnull : decodeLE (src.take 8) = 0
      · rw [if_pos hnull, if_pos hnull]
        exact .inl ⟨hle, none, rfl⟩
      · rw [if_neg hnull, if_neg hnull]
        exact .inl ⟨hle, rfl⟩
    · rw [bind_error hbad]
      by_cases hnull : decodeLE (src.take 8) = 0
      · rw [if_pos hnull]
        exact .inr ⟨hlt, rfl⟩
      · rw [if_neg hnull]
        exact .inr ⟨hlt, rfl⟩

/-- Three numbers. -/
theorem spans_unpackUint3 : Spans unpackUint3 fun _ => 12 := by
  have h := spans_u32.seq fun x => spans_u32.seq fun y => spans_u32.seq fun z =>
    spans_pure (Uint3.mk x y z)
  exact h

/-- With memory the payload is taken behind its length, a 64-bit word. -/
theorem spans_unpackPayload :
    Spans (unpackPayload true) fun src => 8 + decodeLE (src.take 8) := by
  have hpayload : unpackPayload true =
      number 8 >>= fun n => block (UInt64.ofNat n).toNat >>= fun payload =>
        Pure.pure ⟨UInt64.ofNat n, payload⟩ := by
    simp [unpackPayload, u64, bind_assoc, pure_bind]
  rw [hpayload]
  intro src
  have hlen : (src.take 8).length ≤ 8 := List.length_take_le 8 src
  have hlt : decodeLE (src.take 8) < 2 ^ 64 := calc
    decodeLE (src.take 8) < 256 ^ (src.take 8).length := decodeLE_lt (src.take 8)
    _ ≤ 256 ^ 8 := Nat.pow_le_pow_right (by omega) hlen
  have hword : (UInt64.ofNat (decodeLE (src.take 8))).toNat = decodeLE (src.take 8) := by
    rw [UInt64.toNat_ofNat']
    exact Nat.mod_eq_of_lt hlt
  have hbehind : ∀ n, Spans (block (UInt64.ofNat n).toNat >>= fun payload =>
      (Pure.pure ⟨UInt64.ofNat n, payload⟩ :
        Reader ((length : UInt64) × { bs : Bytes // bs.length = length.toNat })))
      fun _ => (UInt64.ofNat n).toNat :=
    fun n => (spans_block _).seq fun payload => spans_pure _
  have hspans := spans_number_bind (w := 8) hbehind src
  simp only [hword] at hspans
  exact hspans

/-- A length and as many bytes. -/
theorem decodes_unpackPayload (malloc : Bool) :
    Decodes (unpackPayload malloc) malloc (.block 8) := by
  cases malloc with
  | true =>
    apply spans_unpackPayload.decodes
    intro src
    rfl
  | false =>
    intro src
    -- the length is read first, and the header then written through NULL
    show unpackPayload false src = .error .badAccess
    unfold unpackPayload
    rcases spans_u64 src with ⟨-, length, hlength⟩ | ⟨-, hbad⟩
    · rw [bind_ok hlength]
      rfl
    · exact bind_error hbad

/-- The decoder of a function goes through its fields in order, and where one fails it stops
there. -/
theorem unpackRegFuncArgs_follows (malloc : Nat → Bool) :
    Follows (unpackRegFuncArgs malloc) malloc 0 regFuncFields := by
  apply ((spans_number 8).decodes_fixed _).bind
  intro fatCubinHandle
  apply (decodes_lUnpackStrWith _).bind
  intro hostFun
  apply ((spans_number 8).decodes_fixed _).bind
  intro hostFEaddr
  apply (decodes_lUnpackStrWith _).bind
  intro deviceFun
  apply (decodes_lUnpackStrWith _).bind
  intro deviceName
  apply (spans_u32.decodes_fixed _).bind
  intro threadLimit
  apply (decodes_unpackPtr spans_unpackUint3 _).bind
  intro tid
  apply (decodes_unpackPtr spans_unpackUint3 _).bind
  intro bid
  apply (decodes_unpackPtr spans_unpackUint3 _).bind
  intro bDim
  apply (decodes_unpackPtr spans_unpackUint3 _).bind
  intro gDim
  apply (decodes_unpackPtr spans_u32 _).bind
  intro wSize
  exact follows_pure _ malloc _

/-- So does that of a variable. -/
theorem unpackRegVar_follows (malloc : Nat → Bool) :
    Follows (unpackRegVar malloc) malloc 0 regVarFields := by
  apply ((spans_number 8).decodes_fixed _).bind
  intro fatCubinHandle
  apply ((spans_number 8).decodes_fixed _).bind
  intro hostVar
  apply (decodes_lUnpackStrWith _).bind
  intro deviceAddress
  apply (decodes_lUnpackStrWith _).bind
  intro deviceName
  apply (spans_u32.decodes_fixed _).bind
  intro ext
  apply (spans_u32.decodes_fixed _).bind
  intro size
  apply (spans_u32.decodes_fixed _).bind
  intro constant
  apply (spans_u32.decodes_fixed _).bind
  intro global
  exact follows_pure _ malloc _

/-- And that of a CUDA 4 binary. -/
theorem unpackFatBinary4With_follows (malloc : Nat → Bool) :
    Follows (unpackFatBinary4With malloc) malloc 0 fatBinary4Fields := by
  apply (spans_u32.decodes_fixed _).bind
  intro magic
  apply (spans_u32.decodes_fixed _).bind
  intro version
  apply (spans_u32.decodes_fixed _).bind
  intro headerMagic
  apply (spans_u32.decodes_fixed _).bind
  intro headerVersion
  apply (decodes_unpackPayload _).bind
  intro p
  apply (decodes_lUnpackStrWith _).bind
  intro f
  exact follows_pure _ malloc _

end

end GpuVirtmem.Interposer
