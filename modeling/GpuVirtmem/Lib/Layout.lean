import Mathlib.Data.List.Induction

/-!
# The layout of C structures

The members of a structure lie one behind the other, each at the next multiple of its alignment, and
the size of the structure is a multiple of the largest alignment. A member lies within its
structure, and one of an element within an array that has the element.

The sizes that a compiler computes are computed here in the same way, so that the number of bytes an
allocation asks for can be compared with where the last member is written. Nothing else is said
about memory.
-/

namespace GpuVirtmem.Lib

/-- A member of a structure. -/
structure Member where
  size : Nat
  align : Nat
  align_pos : 0 < align

namespace Layout

/-- The next multiple of `a` from `n` on. -/
def alignUp (n a : Nat) : Nat := (n + a - 1) / a * a

/-- Where the last member ends. -/
def endOf (members : List Member) : Nat :=
  members.foldl (fun n m => alignUp n m.align + m.size) 0

/-- Where a member begins that comes behind others. -/
def offsetOf (before : List Member) (m : Member) : Nat := alignUp (endOf before) m.align

/-- The largest alignment. -/
def alignOf (members : List Member) : Nat := (members.map Member.align).foldr max 1

/-- `sizeof`. -/
def structSize (members : List Member) : Nat := alignUp (endOf members) (alignOf members)

/-- Aligning moves a place up, so that a member never begins before the end of the one that it
follows. -/
theorem le_alignUp (n : Nat) {a : Nat} (ha : 0 < a) : n ≤ alignUp n a := by
  have hdiv := Nat.div_add_mod (n + a - 1) a
  have hmod := Nat.mod_lt (n + a - 1) ha
  rw [alignUp, Nat.mul_comm]
  omega

/-- There is always an alignment to align to, also for a structure without members. -/
theorem alignOf_pos (members : List Member) : 0 < alignOf members := by
  unfold alignOf
  induction members with
  | nil => exact Nat.one_pos
  | cons m members ih => exact Nat.lt_of_lt_of_le ih (Nat.le_max_right ..)

/-- The end of the members is found from the front to the back, one after the other. The definition
goes through a fold; this is the equation that proofs use. -/
theorem endOf_concat (members : List Member) (m : Member) :
    endOf (members ++ [m]) = offsetOf members m + m.size :=
  List.foldl_append

/-- What comes behind does not move what comes before: a structure with more members is at least as
long. -/
theorem endOf_le_append (members more : List Member) :
    endOf members ≤ endOf (members ++ more) := by
  induction more using List.reverseRecOn with
  | nil => exact Nat.le_of_eq (congrArg endOf (List.append_nil members).symm)
  | append_singleton more m ih =>
    rw [← List.append_assoc, endOf_concat]
    calc
      endOf members ≤ endOf (members ++ more) := ih
      _ ≤ offsetOf (members ++ more) m := le_alignUp _ m.align_pos
      _ ≤ offsetOf (members ++ more) m + m.size := Nat.le_add_right ..

/-- A member lies within its structure: its end is one of the ends on the way, and the size of the
structure is the last one, rounded up. -/
theorem offsetOf_add_size_le (before after : List Member) (m : Member) :
    offsetOf before m + m.size ≤ structSize (before ++ m :: after) := by
  rw [← endOf_concat, List.append_cons before m after]
  exact Nat.le_trans (endOf_le_append ..) (le_alignUp _ (alignOf_pos _))

/-- What lies within an element lies within an array of more elements than come before it. The index
is the only thing that a reader of a table has to check. -/
theorem element_add_le {i n size end_ : Nat} (h : i < n) (hend : end_ ≤ size) :
    i * size + end_ ≤ n * size := by
  calc
    i * size + end_ ≤ i * size + size := Nat.add_le_add_left hend _
    _ = (i + 1) * size := (Nat.succ_mul i size).symm
    _ ≤ n * size := Nat.mul_le_mul_right size h

end Layout

end GpuVirtmem.Lib
