import GpuVirtmem.Remote.Exchange

/-!
# Batches of packets (`backend/backend.c`, `remote/remote_packet.c`)

A header announces a number of packets, and the array that they are stored in has room for
`MAX_REMOTE_BATCH_SIZE`. One turn of the loop of `backend_thread`, with the bytes that it stores in
the array and the entries that it works on. The size of a packet is a parameter. `malloc` succeeds.

The condition is on the header alone, while the property is about everything that may arrive after
it. A number of packets that is too large for the array is refused only by accident, where its
product with the size of a packet is negative as an `int`; below that the packets are read over the
end of the array.
-/

namespace GpuVirtmem.Remote

open Lib Proc

/-- `MAX_REMOTE_BATCH_SIZE`. -/
def maxRemoteBatchSize : Nat := 1024

/-- What a turn does with the entries of `strm.rpkts`: `pkt_execute` is given one,
`strm_expects_response` reads the method of one. -/
inductive Action
  | execute (i : Nat)
  | expectsResponse (i : Int)
  deriving DecidableEq, Repr

/-- A turn of the loop: the bytes stored from the start of `strm.rpkts` on, what is done with the
entries, and whether the loop is left before that. -/
structure BatchTurn where
  stored : Bytes
  actions : List Action
  left : Bool
  deriving DecidableEq, Repr

/-- `get`, where `input` arrives: the bytes that it stores and, where it returns 1, the rest of the
input. -/
def getFrom (len : Int) (input : Bytes) : Bytes × Option Bytes :=
  if len < 0 then ([], none)
  else
    (input.take len.toNat,
      if len.toNat ≤ input.length then some (input.drop len.toNat) else none)

/-- The request data is received, where the header announces any. -/
def receivesData (hdr : StrmHdr) (input : Bytes) : Bool :=
  if 0 < hdr.dataSize then (getFrom (asInt hdr.dataSize.toNat) input).2.isSome else true

/-- The loop gives the first entry to `pkt_execute`; `strm_expects_response` reads the last one, by
an `int`. -/
def executeRequest (hdr : StrmHdr) : List Action :=
  [.execute 0, .expectsResponse (asInt hdr.numCudaPkts.toNat - 1)]

section

variable (packetSize : Nat)

/-- The length that the loop passes to `get` for the packets, as an `int`. -/
def batchLength (hdr : StrmHdr) : Int := asInt (hdr.numCudaPkts.toNat * packetSize)

/-- A turn of the loop of `backend_thread` on what arrives after a header. -/
def serveBatch (hdr : StrmHdr) (input : Bytes) : BatchTurn :=
  if hdr.numCudaPkts = 0 then { stored := [], actions := [], left := false }
  else
    match getFrom (batchLength packetSize hdr) input with
    | (stored, none) => { stored := stored, actions := [], left := true }
    | (stored, some rest) =>
      if receivesData hdr rest then
        { stored := stored, actions := executeRequest hdr, left := false }
      else { stored := stored, actions := [], left := true }

end

/-- The entries that are executed, in order. -/
def executedEntries (actions : List Action) : List Nat :=
  actions.filterMap fun
    | .execute i => some i
    | .expectsResponse _ => none

/-- All that a header announces arrives. -/
def Arrives (packetSize : Nat) (hdr : StrmHdr) (input : Bytes) : Prop :=
  hdr.numCudaPkts.toNat * packetSize + hdr.dataSize.toNat ≤ input.length

/-- A batch is executed whole and in bounds: nothing is stored behind the array, and a batch that is
larger is refused; of one that arrives each packet is stored and executed once and in order; and the
response is decided on the last one after that. -/
structure ExecutedWhole (packetSize : Nat) (hdr : StrmHdr) (input : Bytes) (turn : BatchTurn) :
    Prop where
  inBounds : turn.stored.length ≤ maxRemoteBatchSize * packetSize
  refused : maxRemoteBatchSize < hdr.numCudaPkts.toNat →
    turn.stored = [] ∧ turn.actions = [] ∧ turn.left = true
  received : hdr.numCudaPkts.toNat ≤ maxRemoteBatchSize → Arrives packetSize hdr input →
    turn.stored = input.take (hdr.numCudaPkts.toNat * packetSize)
  executed : hdr.numCudaPkts.toNat ≤ maxRemoteBatchSize → Arrives packetSize hdr input →
    executedEntries turn.actions = List.range hdr.numCudaPkts.toNat
  decided : ∀ before (i : Int) after, turn.actions = before ++ .expectsResponse i :: after →
    i = hdr.numCudaPkts.toNat - 1 ∧ executedEntries before = List.range hdr.numCudaPkts.toNat

/-- The conversions to `int` make `get` fail before anything is stored or executed: for the packets,
or for the data where the length of the packets becomes 0. -/
def LengthRefused (packetSize : Nat) (hdr : StrmHdr) : Prop :=
  batchLength packetSize hdr < 0 ∨
    batchLength packetSize hdr = 0 ∧ 2 ^ 31 ≤ hdr.dataSize.toNat

/-! ## Lengths -/

/-- A conversion to `int` is negative from `2 ^ 31` on. -/
theorem asInt_neg {n : Nat} (h : 2 ^ 31 ≤ n) (hlt : n < 2 ^ 32) : asInt n < 0 := by
  rw [asInt, BitVec.toInt_eq_toNat_cond, BitVec.toNat_ofNat, Nat.mod_eq_of_lt hlt,
    if_neg (by omega)]
  omega

section

variable {n : Nat} {input : Bytes}

/-- A negative length is an error before anything is read. -/
theorem getFrom_neg {len : Int} (h : len < 0) (input : Bytes) : getFrom len input = ([], none) := by
  rw [getFrom, if_pos h]

/-- What arrives is stored. -/
theorem getFrom_arrives (h : n ≤ input.length) :
    getFrom n input = (input.take n, some (input.drop n)) := by
  have hnonneg : ¬(n : Int) < 0 := by omega
  simp only [getFrom, if_neg hnonneg, Int.toNat_natCast, if_pos h]

/-- What arrives of less is stored all the same, before the connection is found to be broken. -/
theorem getFrom_short (h : input.length < n) : getFrom n input = (input, none) := by
  have hnonneg : ¬(n : Int) < 0 := by omega
  simp only [getFrom, if_neg hnonneg, Int.toNat_natCast, if_neg (Nat.not_le.mpr h),
    List.take_of_length_le (Nat.le_of_lt h)]

end

section

variable {hdr : StrmHdr}

/-- Data that arrives is received, up to the lengths that an `int` holds. -/
theorem receivesData_iff {input : Bytes} (h : hdr.dataSize.toNat ≤ input.length) :
    receivesData hdr input = true ↔ hdr.dataSize.toNat < 2 ^ 31 := by
  have hlt := hdr.dataSize.toNat_lt
  unfold receivesData
  split
  · by_cases hsize : hdr.dataSize.toNat < 2 ^ 31
    · rw [asInt_of_lt hsize, getFrom_arrives h]
      exact iff_of_true rfl hsize
    · rw [getFrom_neg (asInt_neg (Nat.le_of_not_lt hsize) hlt)]
      exact iff_of_false Bool.false_ne_true hsize
  · next hzero =>
    have hzero : hdr.dataSize.toNat = 0 := by
      have := mt UInt32.lt_iff_toNat_lt.mpr hzero
      exact Nat.eq_zero_of_not_pos this
    simp [hzero]

/-- Data is never received where its length as an `int` is negative. -/
theorem receivesData_of_le (h : 2 ^ 31 ≤ hdr.dataSize.toNat) (input : Bytes) :
    receivesData hdr input = false := by
  have hpos : 0 < hdr.dataSize := by
    rw [UInt32.lt_iff_toNat_lt]
    exact Nat.lt_of_lt_of_le (by decide) h
  rw [receivesData, if_pos hpos, getFrom_neg (asInt_neg h hdr.dataSize.toNat_lt)]
  rfl

theorem numCudaPkts_ne_zero : hdr.numCudaPkts ≠ 0 ↔ 0 < hdr.numCudaPkts.toNat := by
  rw [Nat.pos_iff_ne_zero]
  exact not_congr (UInt32.toNat_inj (b := 0)).symm

end

/-! ## What a turn does -/

section

variable {packetSize : Nat} {hdr : StrmHdr}

/-- A turn either leaves the loop with nothing executed, or executes the first entry. There is no
loop over the entries in the source. -/
theorem serveBatch_actions (packetSize : Nat) (hdr : StrmHdr) (input : Bytes) :
    (serveBatch packetSize hdr input).actions = [] ∨
      (serveBatch packetSize hdr input).actions = executeRequest hdr := by
  unfold serveBatch
  split
  · exact .inl rfl
  · split
    · exact .inl rfl
    · split
      · exact .inr rfl
      · exact .inl rfl

/-- A header without packets. -/
theorem serveBatch_zero (h : hdr.numCudaPkts = 0) (input : Bytes) :
    serveBatch packetSize hdr input = { stored := [], actions := [], left := false } := by
  rw [serveBatch, if_pos h]

/-- The packets arrive, of the length that the loop asks for. Where they are more than the array has
room for, they are stored behind it. -/
theorem serveBatch_arrives {n : Nat} {input : Bytes} (hne : hdr.numCudaPkts ≠ 0)
    (hlen : batchLength packetSize hdr = n) (h : n ≤ input.length) :
    serveBatch packetSize hdr input =
      { stored := input.take n
        actions := if receivesData hdr (input.drop n) then executeRequest hdr else []
        left := !receivesData hdr (input.drop n) } := by
  simp only [serveBatch, if_neg hne, hlen, getFrom_arrives h]
  cases receivesData hdr (input.drop n) <;> rfl

/-- The packets do not arrive. -/
theorem serveBatch_short {n : Nat} {input : Bytes} (hne : hdr.numCudaPkts ≠ 0)
    (hlen : batchLength packetSize hdr = n) (h : input.length < n) :
    serveBatch packetSize hdr input = { stored := input, actions := [], left := true } := by
  simp only [serveBatch, if_neg hne, hlen, getFrom_short h]

/-- A refused length leaves the loop with nothing stored. A length is refused only where it is
negative as an `int`. -/
theorem serveBatch_refused (hne : hdr.numCudaPkts ≠ 0) (h : LengthRefused packetSize hdr)
    (input : Bytes) :
    serveBatch packetSize hdr input = { stored := [], actions := [], left := true } := by
  rcases h with hneg | ⟨hzero, hdata⟩
  · simp only [serveBatch, if_neg hne, getFrom_neg hneg]
  · rw [serveBatch_arrives (n := 0) hne hzero (Nat.zero_le _), receivesData_of_le hdata]
    rfl

end

/-! ## Which headers are served whole -/

section

variable {packetSize : Nat} {hdr : StrmHdr}

/-- A turn in which nothing is executed decides nothing. -/
theorem not_decided {before after : List Action} {i : Int} :
    [] ≠ before ++ Action.expectsResponse i :: after := by
  intro h
  have := congrArg List.length h
  rw [List.length_append, List.length_cons, List.length_nil] at this
  omega

/-- Without packets there is nothing to execute. -/
theorem executedWhole_zero (h : hdr.numCudaPkts = 0) (input : Bytes) :
    ExecutedWhole packetSize hdr input (serveBatch packetSize hdr input) := by
  rw [serveBatch_zero h]
  have hzero : hdr.numCudaPkts.toNat = 0 := by
    rw [h]
    rfl
  constructor
  · exact Nat.zero_le _
  · rw [hzero]
    intro hlarge
    exact absurd hlarge (by decide)
  · intro _ _
    rw [hzero, Nat.zero_mul, List.take_zero]
  · intro _ _
    rw [hzero]
    rfl
  · intro before i after hactions
    exact absurd hactions not_decided

/-- A header whose length is refused is served as it should be: with nothing at all. -/
theorem executedWhole_refused (hsize : 0 < packetSize)
    (hfit : maxRemoteBatchSize * packetSize < 2 ^ 31) (hne : hdr.numCudaPkts ≠ 0)
    (h : LengthRefused packetSize hdr) (input : Bytes) :
    ExecutedWhole packetSize hdr input (serveBatch packetSize hdr input) := by
  rw [serveBatch_refused hne h]
  -- a batch that fits into the array has a positive length
  have hlarge : maxRemoteBatchSize < hdr.numCudaPkts.toNat := by
    apply Nat.lt_of_not_le
    intro hsmall
    have hle := Nat.mul_le_mul_right packetSize hsmall
    have hpos := Nat.mul_pos (numCudaPkts_ne_zero.mp hne) hsize
    have hlen : batchLength packetSize hdr = (hdr.numCudaPkts.toNat * packetSize : Nat) :=
      asInt_of_lt (Nat.lt_of_le_of_lt hle hfit)
    unfold LengthRefused at h
    omega
  constructor
  · exact Nat.zero_le _
  · intro _
    exact ⟨rfl, rfl, rfl⟩
  · intro hsmall _
    exact absurd hlarge (Nat.not_lt.mpr hsmall)
  · intro hsmall _
    exact absurd hlarge (Nat.not_lt.mpr hsmall)
  · intro before i after hactions
    exact absurd hactions not_decided

/-- The first action of a turn comes before a decision in it. -/
theorem decided_executeRequest {before after : List Action} {i : Int}
    (h : executeRequest hdr = before ++ .expectsResponse i :: after) :
    before = [.execute 0] ∧ i = asInt hdr.numCudaPkts.toNat - 1 := by
  unfold executeRequest at h
  match before with
  | [] => cases h
  | [a] =>
    cases h
    exact ⟨rfl, rfl⟩
  | a :: b :: before =>
    have := congrArg List.length h
    simp at this

/-- One packet has the length of a packet, as an `int`. -/
theorem batchLength_one (hfit : maxRemoteBatchSize * packetSize < 2 ^ 31)
    (hone : hdr.numCudaPkts.toNat = 1) : batchLength packetSize hdr = packetSize := by
  have hroom : packetSize ≤ maxRemoteBatchSize * packetSize :=
    Nat.le_mul_of_pos_left packetSize (by decide)
  rw [batchLength, hone, Nat.one_mul]
  exact asInt_of_lt (Nat.lt_of_le_of_lt hroom hfit)

/-- The decision is taken on the one packet, after it has been executed. -/
theorem decided_one (hone : hdr.numCudaPkts.toNat = 1) {input : Bytes} {before after : List Action}
    {i : Int}
    (h : (serveBatch packetSize hdr input).actions = before ++ .expectsResponse i :: after) :
    i = hdr.numCudaPkts.toNat - 1 ∧ executedEntries before = List.range hdr.numCudaPkts.toNat := by
  rcases serveBatch_actions packetSize hdr input with hnone | hfirst
  · exact absurd (hnone.symm.trans h) not_decided
  · obtain ⟨rfl, rfl⟩ := decided_executeRequest (hfirst.symm.trans h)
    rw [hone]
    exact ⟨rfl, rfl⟩

/-- One packet that arrives is executed, with its data. -/
theorem executedWhole_one_arrives (hfit : maxRemoteBatchSize * packetSize < 2 ^ 31)
    (hone : hdr.numCudaPkts.toNat = 1) (hdata : hdr.dataSize.toNat < 2 ^ 31) {input : Bytes}
    (harrives : packetSize ≤ input.length) :
    ExecutedWhole packetSize hdr input (serveBatch packetSize hdr input) := by
  have hne := numCudaPkts_ne_zero.mpr (Nat.lt_of_lt_of_eq Nat.one_pos hone.symm)
  have hserve := serveBatch_arrives hne (batchLength_one hfit hone) harrives
  constructor
  · rw [hserve]
    apply Nat.le_trans (List.length_take_le ..)
    exact Nat.le_mul_of_pos_left packetSize (by decide)
  · rw [hone]
    intro hlarge
    exact absurd hlarge (by decide)
  · intro _ _
    rw [hserve, hone, Nat.one_mul]
  · intro _ hall
    have hrest : hdr.dataSize.toNat ≤ (input.drop packetSize).length := by
      unfold Arrives at hall
      rw [hone, Nat.one_mul] at hall
      rw [List.length_drop]
      omega
    rw [hserve, (receivesData_iff hrest).mpr hdata, hone]
    rfl
  · intro before i after hactions
    exact decided_one hone hactions

/-- One that does not arrive is not. -/
theorem executedWhole_one_short (hfit : maxRemoteBatchSize * packetSize < 2 ^ 31)
    (hone : hdr.numCudaPkts.toNat = 1) {input : Bytes} (hshort : input.length < packetSize) :
    ExecutedWhole packetSize hdr input (serveBatch packetSize hdr input) := by
  have hne := numCudaPkts_ne_zero.mpr (Nat.lt_of_lt_of_eq Nat.one_pos hone.symm)
  have hserve := serveBatch_short hne (batchLength_one hfit hone) hshort
  have hmissing : ¬Arrives packetSize hdr input := by
    unfold Arrives
    rw [hone, Nat.one_mul]
    omega
  constructor
  · rw [hserve]
    apply Nat.le_trans (Nat.le_of_lt hshort)
    exact Nat.le_mul_of_pos_left packetSize (by decide)
  · rw [hone]
    intro hlarge
    exact absurd hlarge (by decide)
  · intro _ hall
    exact absurd hall hmissing
  · intro _ hall
    exact absurd hall hmissing
  · intro before i after hactions
    exact decided_one hone hactions

/-- One packet, whatever arrives of it. -/
theorem executedWhole_one (hfit : maxRemoteBatchSize * packetSize < 2 ^ 31)
    (h : hdr.numCudaPkts = 1) (hdata : hdr.dataSize.toNat < 2 ^ 31) (input : Bytes) :
    ExecutedWhole packetSize hdr input (serveBatch packetSize hdr input) := by
  have hone : hdr.numCudaPkts.toNat = 1 := by
    rw [h]
    rfl
  by_cases harrives : packetSize ≤ input.length
  · exact executedWhole_one_arrives hfit hone hdata harrives
  · exact executedWhole_one_short hfit hone (Nat.lt_of_not_le harrives)

/-- A batch that fits into the array and arrives is executed whole only if it is one packet, since
only the first is ever executed. -/
theorem one_of_executedWhole
    (hfit : maxRemoteBatchSize * packetSize < 2 ^ 31) (hne : hdr.numCudaPkts ≠ 0)
    (hsmall : hdr.numCudaPkts.toNat ≤ maxRemoteBatchSize) {input : Bytes}
    (harrives : Arrives packetSize hdr input)
    (h : ExecutedWhole packetSize hdr input (serveBatch packetSize hdr input)) :
    hdr.numCudaPkts = 1 ∧ hdr.dataSize.toNat < 2 ^ 31 := by
  have hall := h.executed hsmall harrives
  have hlen : batchLength packetSize hdr = (hdr.numCudaPkts.toNat * packetSize : Nat) :=
    asInt_of_lt (Nat.lt_of_le_of_lt (Nat.mul_le_mul_right packetSize hsmall) hfit)
  have hpackets : hdr.numCudaPkts.toNat * packetSize ≤ input.length :=
    Nat.le_trans (Nat.le_add_right ..) harrives
  have hrest : hdr.dataSize.toNat ≤
      (input.drop (hdr.numCudaPkts.toNat * packetSize)).length := by
    unfold Arrives at harrives
    rw [List.length_drop]
    omega
  rw [serveBatch_arrives hne hlen hpackets] at hall
  have hcount := congrArg List.length hall
  rw [List.length_range] at hcount
  have hpos := numCudaPkts_ne_zero.mp hne
  by_cases hdata : hdr.dataSize.toNat < 2 ^ 31
  · rw [(receivesData_iff hrest).mpr hdata] at hcount
    exact ⟨UInt32.toNat_inj.mp hcount.symm, hdata⟩
  · rw [receivesData_of_le (Nat.le_of_not_lt hdata)] at hcount
    exact absurd hcount (Nat.ne_of_lt hpos)

/-- A batch that is larger than the array is not refused, but for its length. -/
theorem lengthRefused_of_large (hlarge : maxRemoteBatchSize < hdr.numCudaPkts.toNat)
    (h : ∀ input, ExecutedWhole packetSize hdr input (serveBatch packetSize hdr input)) :
    LengthRefused packetSize hdr := by
  have hne : hdr.numCudaPkts ≠ 0 := numCudaPkts_ne_zero.mpr (Nat.zero_lt_of_lt hlarge)
  by_cases hneg : batchLength packetSize hdr < 0
  · exact .inl hneg
  -- what arrives is enough for the length that the loop asks for, and for the data
  obtain ⟨n, hlen⟩ := Int.eq_ofNat_of_zero_le (Int.not_lt.mp hneg)
  let input : Bytes := List.replicate (n + hdr.dataSize.toNat) 0
  have hinput : input.length = n + hdr.dataSize.toNat := List.length_replicate
  have harrives : n ≤ input.length := by omega
  obtain ⟨hstored, hactions, _⟩ := (h input).refused hlarge
  rw [serveBatch_arrives hne hlen harrives] at hstored hactions
  have hzero : n = 0 := by
    have := congrArg List.length hstored
    rw [List.length_take, List.length_nil] at this
    omega
  refine .inr ⟨hlen.trans (congrArg Nat.cast hzero), ?_⟩
  apply Nat.le_of_not_lt
  intro hdata
  have hrest : hdr.dataSize.toNat ≤ (input.drop n).length := by
    rw [List.length_drop]
    omega
  rw [(receivesData_iff hrest).mpr hdata] at hactions
  cases hactions

/-- A header is served whole in all that may arrive after it exactly if it announces no packets, or
one with data of a length that an `int` holds, or if the conversions to `int` refuse it.

The loop executes the first packet of a batch, and it stores what is announced, up to the size that
an `int` can say. Everything that may follow the header is covered, also a part of a message. -/
theorem executes_batches_iff (hsize : 0 < packetSize)
    (hfit : maxRemoteBatchSize * packetSize < 2 ^ 31) :
    (∀ input, ExecutedWhole packetSize hdr input (serveBatch packetSize hdr input)) ↔
      hdr.numCudaPkts = 0 ∨ hdr.numCudaPkts = 1 ∧ hdr.dataSize.toNat < 2 ^ 31 ∨
        LengthRefused packetSize hdr := by
  constructor
  · intro h
    by_cases hzero : hdr.numCudaPkts = 0
    · exact .inl hzero
    by_cases hlarge : maxRemoteBatchSize < hdr.numCudaPkts.toNat
    · exact .inr (.inr (lengthRefused_of_large hlarge h))
    · let input : Bytes :=
        List.replicate (hdr.numCudaPkts.toNat * packetSize + hdr.dataSize.toNat) 0
      have harrives : Arrives packetSize hdr input := Nat.le_of_eq List.length_replicate.symm
      exact .inr (.inl (one_of_executedWhole hfit hzero (Nat.le_of_not_lt hlarge)
        harrives (h input)))
  · intro h input
    by_cases hzero : hdr.numCudaPkts = 0
    · exact executedWhole_zero hzero input
    rcases h with hnone | ⟨hone, hdata⟩ | hrefused
    · exact absurd hnone hzero
    · exact executedWhole_one hfit hone hdata input
    · exact executedWhole_refused hsize hfit hzero hrefused input

/-- A packet of 184 bytes, with data. -/
theorem executes_batches_iff_onePacket :
    ExecutedWhole 184 { numCudaPkts := 1, dataSize := 64 } (List.replicate 248 0)
      (serveBatch 184 { numCudaPkts := 1, dataSize := 64 } (List.replicate 248 0)) :=
  (executes_batches_iff (by decide) (by decide)).mpr (.inr (.inl ⟨rfl, by decide⟩)) _

/-- Of two packets the second is not executed. -/
theorem two_packets_executed_once :
    executedEntries (serveBatch 184 { numCudaPkts := 2, dataSize := 0 }
      (List.replicate 368 0)).actions = [0] ∧
    ¬∀ (hdr : StrmHdr) (input : Bytes), ExecutedWhole 184 hdr input (serveBatch 184 hdr input) := by
  have hserve : serveBatch 184 { numCudaPkts := 2, dataSize := 0 } (List.replicate 368 0) =
      { stored := List.replicate 368 0
        actions := [.execute 0, .expectsResponse 1], left := false } := by
    decide +kernel
  have harrives : Arrives 184 { numCudaPkts := 2, dataSize := 0 } (List.replicate 368 0) := by
    show (_ : Nat) ≤ _
    rw [List.length_replicate]
    decide
  constructor
  · rw [hserve]
    rfl
  intro h
  have hall := (h _ _).executed (by decide) harrives
  rw [hserve] at hall
  cases hall

end

/-! ## One packet -/

/-- A message as the client sends it is one packet: the turn stores its image and executes it, as
`Backend.turn` does. So the model of the other modules, in which there is one packet, is the part of
this one that is ever used. -/
theorem serveBatch_message (packet : CudaPacket) {data : Bytes} (h : data.length < 2 ^ 31) :
    serveBatch sizeofRpkt { numCudaPkts := 1, dataSize := .ofNat data.length }
        (packet.image ++ data) =
      { stored := packet.image, actions := [.execute 0, .expectsResponse 0], left := false } := by
  have hlen : batchLength sizeofRpkt { numCudaPkts := 1, dataSize := .ofNat data.length } =
      (packet.image.length : Nat) := by
    rw [packet.image_length]
    rfl
  have harrives : packet.image.length ≤ (packet.image ++ data).length := by
    rw [List.length_append]
    exact Nat.le_add_right ..
  have hdata : receivesData { numCudaPkts := 1, dataSize := .ofNat data.length } data = true := by
    rw [receivesData_iff (Nat.le_of_eq (toNat_ofNat h))]
    exact (toNat_ofNat h).symm ▸ h
  rw [serveBatch_arrives (by decide : (1 : UInt32) ≠ 0) hlen harrives, List.take_left,
    List.drop_left, hdata]
  rfl

end GpuVirtmem.Remote
