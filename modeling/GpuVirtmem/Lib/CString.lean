import GpuVirtmem.Lib.Bytes
import Mathlib.Data.List.TakeWhile

/-!
# C strings

A string carries the proof that it holds no NUL; in memory it is followed by one.

Reading is a partial function: a block without a NUL has no string in it, and a reader of one goes
on behind the block. What carries the results is that a stored string is read back whatever comes
behind it, so that strings can be laid one after the other in one buffer.
-/

namespace GpuVirtmem.Lib

/-- The characters of a C string. -/
structure CString where
  bytes : Bytes
  noNul : 0 ∉ bytes
  deriving DecidableEq

namespace CString

/-- `""`. -/
def empty : CString := ⟨[], List.not_mem_nil⟩

/-- Two strings are the same when their characters are: the proof that there is no NUL among them is
not part of what a string is. -/
@[ext] theorem ext {s t : CString} (h : s.bytes = t.bytes) : s = t := by
  cases s
  cases t
  cases h
  rfl

/-- The string in memory, with its terminator. -/
def stored (s : CString) : Bytes := s.bytes ++ [0]

/-- The string that starts a block, where one ends within it. -/
def read (block : Bytes) : Option CString :=
  if 0 ∈ block then
    some ⟨block.takeWhile (· ≠ 0), fun h => by simpa using List.mem_takeWhile_imp h⟩
  else none

/-- A string ends at a NUL that was put behind it. No condition is set on the block itself: bytes
that hold a NUL of their own give a shorter string, but they give one, so that a reader never runs
past the NUL that was put there. -/
theorem read_isSome (bytes : Bytes) : (read (bytes ++ [0])).isSome := by
  have hmem : (0 : UInt8) ∈ bytes ++ [0] := by simp
  unfold read
  rw [if_pos hmem]
  rfl

/-- What is read back from a stored string is the string, whatever bytes follow its terminator. This
is where the string's own field is used: a NUL among the characters would end the reading there. -/
theorem read_stored (s : CString) (rest : Bytes) : read (s.stored ++ rest) = some s := by
  have hmem : (0 : UInt8) ∈ s.stored ++ rest := by simp [stored]
  have hall : ∀ b ∈ s.bytes, decide (b ≠ 0) = true := by
    intro b hb
    have hne : b ≠ 0 := fun h => s.noNul (h ▸ hb)
    simpa using hne
  unfold read
  rw [if_pos hmem, Option.some.injEq]
  ext1
  show (s.stored ++ rest).takeWhile (· ≠ 0) = s.bytes
  simp only [stored, List.append_assoc, List.singleton_append]
  rw [List.takeWhile_append_of_pos hall]
  simp

end CString

end GpuVirtmem.Lib
