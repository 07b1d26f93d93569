import Mathlib.Algebra.Order.Ring.Int
import Mathlib.Data.List.Basic
import Mathlib.Data.UInt

/-!
# Byte blocks and what is known about them

`memcpy` copies a prefix of one block over a prefix of another and is refused outside either block.
`Contents` is the other half: the bytes that a history of writes has put at each offset of a block,
with no byte where nothing was ever written. `Contents.Within` says that a block holds them. The
laws relate the two: copying new data writes it into the contents, and copying between two blocks
that hold the same contents changes nothing that is known.

The two halves are kept apart because a block usually holds more than anyone knows: a fresh block
has some bytes, but nobody has written them. A statement that a copy delivers data is about the
bytes that were written, and `Within` is the relation that all copies keep.
-/

namespace GpuVirtmem.Lib

abbrev Bytes := List UInt8

/-- A block of zeros. -/
def zeroBlock (n : Nat) : { bs : Bytes // bs.length = n } :=
  ⟨List.replicate n 0, List.length_replicate⟩

/-- The first `n` bytes of `src` over the first `n` bytes of `dst`. -/
def overwrite (dst src : Bytes) (n : Nat) : Bytes := src.take n ++ dst.drop n

/-- `memcpy(dst, src, n)` on blocks: refused when it would leave either of them. -/
def memcpy (dst src : Bytes) (n : Nat) : Option Bytes :=
  if n ≤ src.length ∧ n ≤ dst.length then some (overwrite dst src n) else none

/-- A copy within both blocks is made. -/
theorem memcpy_of_le {dst src : Bytes} {n : Nat} (hs : n ≤ src.length) (hd : n ≤ dst.length) :
    memcpy dst src n = some (overwrite dst src n) := if_pos ⟨hs, hd⟩

/-- A copy that was made was one within both blocks. -/
theorem memcpy_eq_some {dst src out : Bytes} {n : Nat} (h : memcpy dst src n = some out) :
    n ≤ src.length ∧ n ≤ dst.length ∧ out = overwrite dst src n := by
  unfold memcpy at h
  split at h
  · next hn => exact ⟨hn.1, hn.2, (Option.some.inj h).symm⟩
  · cases h

/-- A copy does not change the length of the block. -/
@[simp] theorem overwrite_length {dst src : Bytes} {n : Nat} (hs : n ≤ src.length)
    (hd : n ≤ dst.length) : (overwrite dst src n).length = dst.length := by
  simp only [overwrite, List.length_append, List.length_take, List.length_drop]
  omega

/-- Below `n` the copy reads as the source. -/
theorem overwrite_getElem?_lt {dst src : Bytes} {n off : Nat} (hs : n ≤ src.length) (h : off < n) :
    (overwrite dst src n)[off]? = src[off]? := by
  unfold overwrite
  rw [List.getElem?_append_left (by rw [List.length_take]; omega), List.getElem?_take_of_lt h]

/-- From `n` on the copy reads as the old block. -/
theorem overwrite_getElem?_ge {dst src : Bytes} {n off : Nat} (hs : n ≤ src.length) (h : n ≤ off) :
    (overwrite dst src n)[off]? = dst[off]? := by
  unfold overwrite
  rw [List.getElem?_append_right (by rw [List.length_take]; omega), List.getElem?_drop,
    List.length_take, Nat.min_eq_left hs, Nat.add_sub_cancel' h]

/-- Copying a whole block over one of the same length replaces it. -/
theorem overwrite_all {dst src : Bytes} {n : Nat} (hs : src.length = n) (hd : dst.length = n) :
    overwrite dst src n = src := by
  simp only [overwrite, ← hs, List.take_length, hs ▸ hd ▸ List.drop_length, List.append_nil]

/-- Copying a prefix of a block that was itself just copied there is copying from its source. -/
theorem overwrite_overwrite {dst mid src : Bytes} {n : Nat} (hs : n ≤ src.length) :
    overwrite dst (overwrite mid src n) n = overwrite dst src n := by
  unfold overwrite
  rw [List.take_append_of_le_length (by rw [List.length_take]; omega), List.take_take,
    Nat.min_self]

/-- Only the first `n` bytes of the source matter. -/
theorem overwrite_take (dst src : Bytes) (n : Nat) :
    overwrite dst (src.take n) n = overwrite dst src n := by
  simp only [overwrite, List.take_take, Nat.min_self]

/-! ## What a history of writes has put in a block -/

/-- The byte last written at each offset, where there was a write. -/
abbrev Contents := Nat → Option UInt8

namespace Contents

/-- Nothing was written. -/
def empty : Contents := fun _ => none

/-- All of a block was written. -/
def of (bs : Bytes) : Contents := fun off => bs[off]?

/-- The first `n` bytes of `src`, written over what was there. -/
def write (c : Contents) (src : Bytes) (n : Nat) : Contents :=
  fun off => if off < n then src[off]? else c off

/-- The block holds every byte that was written. -/
def Within (c : Contents) (bs : Bytes) : Prop := ∀ off b, c off = some b → bs[off]? = some b

/-- Any block holds what nobody has written. -/
theorem empty_within (bs : Bytes) : empty.Within bs := by
  intro off b h
  cases h

/-- A block holds its own bytes. -/
theorem of_within (bs : Bytes) : (of bs).Within bs := fun _ _ h => h

/-- A block that holds all of another has its bytes. -/
theorem take_eq_of_delivered {bs out : Bytes} {n : Nat} (hn : n ≤ bs.length)
    (h : ∀ off, off < n → ∀ b, of bs off = some b → out[off]? = some b) :
    out.take n = bs.take n := by
  apply List.ext_getElem?
  intro off
  by_cases hoff : off < n
  · have hb : bs[off]? = some bs[off] := List.getElem?_eq_getElem (by omega)
    rw [List.getElem?_take_of_lt hoff, List.getElem?_take_of_lt hoff, h off hoff _ hb, hb]
  · rw [List.getElem?_take_eq_none (by omega), List.getElem?_take_eq_none (by omega)]

/-- Copying new data into a block that holds the contents leaves one that holds the new contents. -/
theorem Within.write {c : Contents} {bs : Bytes} (h : c.Within bs) {src : Bytes} {n : Nat}
    (hs : n ≤ src.length) : (c.write src n).Within (overwrite bs src n) := by
  intro off b hb
  unfold Contents.write at hb
  by_cases hlt : off < n
  · rw [if_pos hlt] at hb
    rw [overwrite_getElem?_lt hs hlt]
    exact hb
  · rw [if_neg hlt] at hb
    rw [overwrite_getElem?_ge hs (Nat.le_of_not_lt hlt)]
    exact h off b hb

/-- Copying between two blocks that hold the contents keeps them. -/
theorem Within.copy {c : Contents} {bs src : Bytes} (h : c.Within bs) (hsrc : c.Within src)
    {n : Nat} (hs : n ≤ src.length) : c.Within (overwrite bs src n) := by
  intro off b hb
  by_cases hlt : off < n
  · rw [overwrite_getElem?_lt hs hlt]
    exact hsrc off b hb
  · rw [overwrite_getElem?_ge hs (Nat.le_of_not_lt hlt)]
    exact h off b hb

end Contents

end GpuVirtmem.Lib
