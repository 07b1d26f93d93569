import GpuVirtmem.Interposer.RegArgs

/-!
# Registrations come back (`interposer/libciutils.c`)

The arguments of `__cudaRegisterFunction` and `__cudaRegisterVar` in a packet. An argument that
points to a value is sent as the pointer, and where that is not NULL the value behind it; the
decoder gives a block of its own with that value. Sizes, encoders and decoders are shown to agree
field by field, and the packets are their compositions.

The packets are those written where `malloc` has given a block of the size that was counted.

Pointers themselves are not rebuilt, nor could they be: what is compared is the value behind them,
and the addresses in the application that a registration carries as numbers.
-/

namespace GpuVirtmem.Interposer

open Lib Lib.Reader

/-! ## The arguments -/

/-- A pointer with what it points to, which is nothing just for NULL. -/
structure PointerArg (α : Type) where
  addr : UInt64
  target : Option α
  isNull : addr = 0 ↔ target = none

/-- The arguments of `__cudaRegisterFunction`, with `int` as its 32 bits. -/
structure RegisterFunction where
  fatCubinHandle : UInt64
  hostFun : PointerArg CString
  deviceFun : Option CString
  deviceName : Option CString
  threadLimit : UInt32
  tid : PointerArg Uint3
  bid : PointerArg Uint3
  bDim : PointerArg Uint3
  gDim : PointerArg Uint3
  wSize : PointerArg UInt32

/-- The arguments of `__cudaRegisterVar`. -/
structure RegisterVar where
  fatCubinHandle : UInt64
  hostVar : UInt64
  deviceAddress : Option CString
  deviceName : Option CString
  ext : UInt32
  vsize : UInt32
  constant : UInt32
  global : UInt32

/-! ## The sizes -/

/-- The size of a pointer, and of the `n` bytes behind it unless it is NULL. -/
def getPtrPktSize {α : Type} (n : Nat) (p : PointerArg α) : Nat := if p.addr = 0 then 8 else 8 + n

/-- `l_getUint3PtrPktSize`. -/
def lGetUint3PtrPktSize (p : PointerArg Uint3) : Nat := getPtrPktSize 12 p

/-- `l_getDim3PtrPktSize`. -/
def lGetDim3PtrPktSize (p : PointerArg Uint3) : Nat := getPtrPktSize 12 p

/-- `l_getIntPtrPktSize`. -/
def lGetIntPtrPktSize (p : PointerArg UInt32) : Nat := getPtrPktSize 4 p

/-- `l_getSize_regFuncArgs`. -/
def lGetSizeRegFuncArgs (f : RegisterFunction) : Nat :=
  8 + lGetStringPktSize f.hostFun.target + 8 + lGetStringPktSize f.deviceFun +
    lGetStringPktSize f.deviceName + 4 + lGetUint3PtrPktSize f.tid + lGetUint3PtrPktSize f.bid +
    lGetDim3PtrPktSize f.bDim + lGetDim3PtrPktSize f.gDim + lGetIntPtrPktSize f.wSize

/-- `l_getSize_regVar`. -/
def lGetSizeRegVar (v : RegisterVar) : Nat :=
  8 + 8 + lGetStringPktSize v.deviceAddress + lGetStringPktSize v.deviceName + 4 + 4 + 4 + 4

/-! ## The encoders -/

/-- The pointer, and where it is not NULL what it points to. -/
def packPtr {α : Type} (encode : α → Bytes) (pSrc : PointerArg α) : Bytes :=
  encodeLE 8 pSrc.addr.toNat ++ pSrc.target.elim [] encode

/-- Three `unsigned int`. -/
def packUint3 (a : Uint3) : Bytes :=
  encodeLE 4 a.x.toNat ++ (encodeLE 4 a.y.toNat ++ encodeLE 4 a.z.toNat)

/-- `l_packUint3Ptr`. -/
def lPackUint3Ptr (pSrc : PointerArg Uint3) : Bytes := packPtr packUint3 pSrc

/-- `l_packDim3Ptr`. -/
def lPackDim3Ptr (pSrc : PointerArg Uint3) : Bytes := packPtr packUint3 pSrc

/-- `l_packIntPtr`. -/
def lPackIntPtr (pSrc : PointerArg UInt32) : Bytes := packPtr (fun i => encodeLE 4 i.toNat) pSrc

/-- `packRegFuncArgs`; `*pSize` is `lGetSizeRegFuncArgs`. -/
def packRegFuncArgs (f : RegisterFunction) : Bytes :=
  encodeLE 8 f.fatCubinHandle.toNat ++ (lPackStr f.hostFun.target ++
    (encodeLE 8 f.hostFun.addr.toNat ++ (lPackStr f.deviceFun ++ (lPackStr f.deviceName ++
      (encodeLE 4 f.threadLimit.toNat ++ (lPackUint3Ptr f.tid ++ (lPackUint3Ptr f.bid ++
        (lPackDim3Ptr f.bDim ++ (lPackDim3Ptr f.gDim ++ lPackIntPtr f.wSize)))))))))

/-- `packRegVar`; `*pSize` is `lGetSizeRegVar`. -/
def packRegVar (v : RegisterVar) : Bytes :=
  encodeLE 8 v.fatCubinHandle.toNat ++ (encodeLE 8 v.hostVar.toNat ++
    (lPackStr v.deviceAddress ++ (lPackStr v.deviceName ++ (encodeLE 4 v.ext.toNat ++
      (encodeLE 4 v.vsize.toNat ++ (encodeLE 4 v.constant.toNat ++ encodeLE 4 v.global.toNat))))))

/-! ## Pointers -/

section

variable {α : Type} {encode : α → Bytes} {target : Reader α} {n : Nat}

/-- A pointer, and what it points to unless it is NULL. -/
theorem packPtr_length (hencode : ∀ a, (encode a).length = n) (p : PointerArg α) :
    (packPtr encode p).length = getPtrPktSize n p := by
  obtain ⟨addr, value, hnull⟩ := p
  rw [packPtr, getPtrPktSize, List.length_append, encodeLE_length]
  cases value with
  | none => rw [if_pos (hnull.mpr rfl), Option.elim_none, List.length_nil]
  | some a =>
    have hne : addr ≠ 0 := fun h => by cases hnull.mp h
    rw [if_neg hne, Option.elim_some, hencode]

theorem packUint3_length (a : Uint3) : (packUint3 a).length = 12 := by
  simp only [packUint3, List.length_append, encodeLE_length]

/-- The value behind a pointer comes back in a block of its own. -/
theorem reads_unpackPtr (h : ∀ a, Reads target (encode a) a) (p : PointerArg α) :
    Reads (unpackPtr true target) (packPtr encode p) p.target := by
  obtain ⟨addr, value, hnull⟩ := p
  refine (reads_number addr.toNat_lt).bind ?_
  cases value with
  | none =>
    have hzero : addr.toNat = 0 := UInt64.toNat_inj.mpr (hnull.mpr rfl)
    rw [if_pos hzero]
    exact Reads.pure none
  | some a =>
    have hne : addr.toNat ≠ 0 := by
      intro hzero
      cases hnull.mp (UInt64.toNat_inj.mp hzero)
    rw [if_neg hne]
    exact (h a).map some

theorem reads_unpackUint3 (a : Uint3) : Reads unpackUint3 (packUint3 a) a :=
  (reads_u32 a.x).bind ((reads_u32 a.y).bind ((reads_u32 a.z).map (Uint3.mk a.x a.y)))

end

/-! ## The packets -/

/-- The packet of a function has the size that was counted. -/
theorem packRegFuncArgs_length (f : RegisterFunction) :
    (packRegFuncArgs f).length = lGetSizeRegFuncArgs f := by
  have hint : ∀ i : UInt32, (encodeLE 4 i.toNat).length = 4 := fun i => encodeLE_length 4 i.toNat
  simp only [packRegFuncArgs, lPackUint3Ptr, lPackDim3Ptr, lPackIntPtr, List.length_append,
    encodeLE_length, lPackStr_length, packPtr_length packUint3_length, packPtr_length hint,
    lGetSizeRegFuncArgs, lGetUint3PtrPktSize, lGetDim3PtrPktSize, lGetIntPtrPktSize]
  omega

/-- So has that of a variable. -/
theorem packRegVar_length (v : RegisterVar) : (packRegVar v).length = lGetSizeRegVar v := by
  simp only [packRegVar, List.length_append, encodeLE_length, lPackStr_length, lGetSizeRegVar]
  omega

/-- What is unpacked for the arguments of a function. -/
def RegisterFunction.decoded (f : RegisterFunction) : RegFunctionArgs :=
  { fatCubinHandle := f.fatCubinHandle.toNat, hostFun := unpacked f.hostFun.target
    hostFEaddr := f.hostFun.addr.toNat, deviceFun := unpacked f.deviceFun
    deviceName := unpacked f.deviceName, threadLimit := f.threadLimit
    tid := f.tid.target, bid := f.bid.target, bDim := f.bDim.target, gDim := f.gDim.target
    wSize := f.wSize.target }

/-- What is unpacked for the arguments of a variable. -/
def RegisterVar.decoded (v : RegisterVar) : RegVariableArgs :=
  { fatCubinHandle := v.fatCubinHandle.toNat, hostVar := v.hostVar.toNat
    deviceAddress := unpacked v.deviceAddress, deviceName := unpacked v.deviceName
    ext := v.ext, size := v.vsize, constant := v.constant, global := v.global }

/-- A function comes back from its packet, field by field. -/
theorem reads_unpackRegFuncArgs {f : RegisterFunction} (h : lGetSizeRegFuncArgs f < 2 ^ 31) :
    Reads (unpackRegFuncArgs fun _ => true) (packRegFuncArgs f) f.decoded := by
  simp only [lGetSizeRegFuncArgs, ← lPackStr_length] at h
  have hhostFun : Reads (lUnpackStrWith true) (lPackStr f.hostFun.target) _ :=
    reads_lUnpackStr (by omega)
  have hdeviceFun : Reads (lUnpackStrWith true) (lPackStr f.deviceFun) _ :=
    reads_lUnpackStr (by omega)
  have hdeviceName : Reads (lUnpackStrWith true) (lPackStr f.deviceName) _ :=
    reads_lUnpackStr (by omega)
  have hpointer := fun p => (reads_unpackPtr reads_unpackUint3 p)
  have hwSize := (reads_unpackPtr reads_u32 f.wSize).map fun wSize =>
    { f.decoded with wSize := wSize }
  refine (reads_number f.fatCubinHandle.toNat_lt).bind (hhostFun.bind ?_)
  refine (reads_number f.hostFun.addr.toNat_lt).bind (hdeviceFun.bind (hdeviceName.bind ?_))
  refine (reads_u32 f.threadLimit).bind ((hpointer f.tid).bind ((hpointer f.bid).bind ?_))
  exact (hpointer f.bDim).bind ((hpointer f.gDim).bind hwSize)

/-- A variable comes back from its packet. -/
theorem reads_unpackRegVar {v : RegisterVar} (h : lGetSizeRegVar v < 2 ^ 31) :
    Reads (unpackRegVar fun _ => true) (packRegVar v) v.decoded := by
  simp only [lGetSizeRegVar, ← lPackStr_length] at h
  have hdeviceAddress : Reads (lUnpackStrWith true) (lPackStr v.deviceAddress) _ :=
    reads_lUnpackStr (by omega)
  have hdeviceName : Reads (lUnpackStrWith true) (lPackStr v.deviceName) _ :=
    reads_lUnpackStr (by omega)
  have hglobal := (reads_u32 v.global).map fun global => { v.decoded with global := global }
  refine (reads_number v.fatCubinHandle.toNat_lt).bind ?_
  refine (reads_number v.hostVar.toNat_lt).bind (hdeviceAddress.bind (hdeviceName.bind ?_))
  exact (reads_u32 v.ext).bind ((reads_u32 v.vsize).bind ((reads_u32 v.constant).bind hglobal))

/-! ## Registrations rebuilt -/

/-- The value that was pointed to, behind a pointer that is NULL just where the first one is. -/
def PointerRebuilt {α : Type} (p : PointerArg α) (target : Option α) : Prop :=
  target = p.target ∧ (target = none ↔ p.addr = 0)

/-- The arguments of a function after the decoding. -/
structure FunctionRebuilt (f : RegisterFunction) (u : RegFunctionArgs) : Prop where
  fatCubinHandle : u.fatCubinHandle = f.fatCubinHandle.toNat
  hostFEaddr : u.hostFEaddr = f.hostFun.addr.toNat
  strings : Same f.hostFun.target u.hostFun ∧ Same f.deviceFun u.deviceFun ∧
    Same f.deviceName u.deviceName
  threadLimit : u.threadLimit = f.threadLimit
  tid : PointerRebuilt f.tid u.tid
  bid : PointerRebuilt f.bid u.bid
  bDim : PointerRebuilt f.bDim u.bDim
  gDim : PointerRebuilt f.gDim u.gDim
  wSize : PointerRebuilt f.wSize u.wSize

/-- The arguments of a variable after the decoding. -/
structure VarRebuilt (v : RegisterVar) (u : RegVariableArgs) : Prop where
  fatCubinHandle : u.fatCubinHandle = v.fatCubinHandle.toNat
  hostVar : u.hostVar = v.hostVar.toNat
  strings : Same v.deviceAddress u.deviceAddress ∧ Same v.deviceName u.deviceName
  numbers : u.ext = v.ext ∧ u.size = v.vsize ∧ u.constant = v.constant ∧ u.global = v.global

/-- The packet of a function has the counted size, and whatever follows it, it is decoded. -/
def FunctionRoundTrip (f : RegisterFunction) : Prop :=
  (packRegFuncArgs f).length = lGetSizeRegFuncArgs f ∧
    ∀ rest, ∃ u k, unpackRegFuncArgs (fun _ => true) (packRegFuncArgs f ++ rest) = .ok (u, k) ∧
      FunctionRebuilt f u

/-- The packet of a variable has the counted size, and whatever follows it, it is decoded. -/
def VarRoundTrip (v : RegisterVar) : Prop :=
  (packRegVar v).length = lGetSizeRegVar v ∧
    ∀ rest, ∃ u k, unpackRegVar (fun _ => true) (packRegVar v ++ rest) = .ok (u, k) ∧
      VarRebuilt v u

/-- A pointer that was NULL is NULL again; any other one points to an equal value. -/
theorem pointerRebuilt_target {α : Type} (p : PointerArg α) : PointerRebuilt p p.target :=
  ⟨rfl, p.isNull.symm⟩

theorem functionRebuilt_decoded (f : RegisterFunction) : FunctionRebuilt f f.decoded where
  fatCubinHandle := rfl
  hostFEaddr := rfl
  strings := ⟨same_unpacked _, same_unpacked _, same_unpacked _⟩
  threadLimit := rfl
  tid := pointerRebuilt_target f.tid
  bid := pointerRebuilt_target f.bid
  bDim := pointerRebuilt_target f.bDim
  gDim := pointerRebuilt_target f.gDim
  wSize := pointerRebuilt_target f.wSize

theorem varRebuilt_decoded (v : RegisterVar) : VarRebuilt v v.decoded where
  fatCubinHandle := rfl
  hostVar := rfl
  strings := ⟨same_unpacked _, same_unpacked _⟩
  numbers := ⟨rfl, rfl, rfl, rfl⟩

/-- The arguments of a registration are rebuilt from its packet.

A value that is pointed to comes back in a block of its own, and NULL as NULL; strings come back up
to NULL and the empty string. -/
theorem registrations_round_trip (f : RegisterFunction) (v : RegisterVar) :
    (lGetSizeRegFuncArgs f < 2 ^ 31 → FunctionRoundTrip f) ∧
      (lGetSizeRegVar v < 2 ^ 31 → VarRoundTrip v) := by
  constructor
  · intro hsize
    refine ⟨packRegFuncArgs_length f, fun rest => ?_⟩
    exact ⟨_, _, reads_unpackRegFuncArgs hsize rest, functionRebuilt_decoded f⟩
  · intro hsize
    refine ⟨packRegVar_length v, fun rest => ?_⟩
    exact ⟨_, _, reads_unpackRegVar hsize rest, varRebuilt_decoded v⟩

/-- A function with an empty name, a `tid` and a `wSize`. -/
def sampleFunction : RegisterFunction :=
  { fatCubinHandle := 16, hostFun := ⟨32, some ⟨[102], by decide⟩, by decide⟩
    deviceFun := some .empty, deviceName := none, threadLimit := 8
    tid := ⟨48, some ⟨1, 2, 3⟩, by decide⟩, bid := ⟨0, none, by decide⟩
    bDim := ⟨0, none, by decide⟩, gDim := ⟨0, none, by decide⟩, wSize := ⟨64, some 4, by decide⟩ }

/-- A variable without an address. -/
def sampleVar : RegisterVar :=
  { fatCubinHandle := 16, hostVar := 80, deviceAddress := none
    deviceName := some ⟨[118], by decide⟩, ext := 0, vsize := 4, constant := 1, global := 0 }

/-- A function with some of its pointers NULL, and a variable. -/
theorem registrations_round_trip_sample :
    FunctionRoundTrip sampleFunction ∧ VarRoundTrip sampleVar :=
  have htrip := registrations_round_trip sampleFunction sampleVar
  ⟨htrip.1 (by decide), htrip.2 (by decide)⟩

end GpuVirtmem.Interposer
