import Mathlib.Algebra.BigOperators.Field
import Mathlib.Algebra.Order.BigOperators.Group.Finset
import Mathlib.Algebra.Order.Field.Basic
import Mathlib.Algebra.Order.Ring.Int
import Mathlib.Tactic.Linarith

/-!
# Items that go to the least loaded place

The load of a place is the number of its items times its weight. Where each item goes to a place
with the least load, the numbers stay close to what is inverse to the weights: no place has more
than its exact share rounded up, and each has its exact share whenever all of them are whole.

`Fair` is the invariant: it speaks of the present numbers only, not of the order in which the items
came. The bounds follow from it by summing over the places. How a tie is broken does not matter for
any of them.
-/

namespace GpuVirtmem.Lib

variable {ι α : Type*} [Field α] [LinearOrder α] [IsStrictOrderedRing α]

/-- Without its last item, no place would have a greater load than another one has. -/
def Fair (w : ι → α) (c : ι → ℤ) : Prop :=
  ∀ i j, ((c i : α) - 1) * w i ≤ c j * w j

/-- The part of all items that is due to a place. -/
def exactShare [Fintype ι] (w : ι → α) (i : ι) : α := (w i)⁻¹ / ∑ j, (w j)⁻¹

section

variable {w : ι → α} {c : ι → ℤ} {i : ι}

/-- Places with equal loads are treated alike so far: this is where a distribution starts, with
nothing at any place. -/
theorem fair_of_eq (hw : ∀ i, 0 < w i) (hc : ∀ i, c i = 0) : Fair w c := by
  intro i j
  rw [hc i, hc j, Int.cast_zero, zero_sub, zero_mul, neg_one_mul]
  exact (neg_neg_of_pos (hw i)).le

/-- An item goes to a place with the least load. The step lemma: the new item is the last one of its
place, and without it the place was not above any other. -/
theorem Fair.add_one [DecidableEq ι] (hw : ∀ i, 0 < w i) (h : Fair w c)
    (hleast : ∀ j, (c i : α) * w i ≤ c j * w j) : Fair w (Function.update c i (c i + 1)) := by
  -- the load of a place does not become less
  have hgrows : ∀ j, (c j : α) * w j ≤ (Function.update c i (c i + 1) j : ℤ) * w j := by
    intro j
    refine mul_le_mul_of_nonneg_right (Int.cast_le.mpr ?_) (hw j).le
    by_cases hj : j = i
    · subst hj
      rw [Function.update_self]
      exact Int.le_add_one le_rfl
    · rw [Function.update_of_ne hj]
  intro k j
  refine le_trans ?_ (hgrows j)
  by_cases hk : k = i
  · subst hk
    rw [Function.update_self, Int.cast_add, Int.cast_one, add_sub_cancel_right]
    exact hleast j
  · rw [Function.update_of_ne hk]
    exact h k j

variable [Fintype ι]

/-- There is a place, so that the shares are shares of something. -/
theorem sum_inv_pos (hw : ∀ i, 0 < w i) (i : ι) : 0 < ∑ j, (w j)⁻¹ :=
  Finset.sum_pos (fun j _ => inv_pos.mpr (hw j)) ⟨i, Finset.mem_univ i⟩

/-- Every place is due something as soon as there are items. -/
theorem exactShare_pos (hw : ∀ i, 0 < w i) (i : ι) : 0 < exactShare w i :=
  div_pos (inv_pos.mpr (hw i)) (sum_inv_pos hw i)

/-- The shares are shares of one whole: together they are all items, no more and no less. -/
theorem sum_exactShare (hw : ∀ i, 0 < w i) (i : ι) : ∑ j, exactShare w j = 1 := by
  unfold exactShare
  rw [← Finset.sum_div]
  exact div_self (sum_inv_pos hw i).ne'

/-- As many items as have the load of `y` items at a place are due to all places where `y` are due
to that one. Summing `Fair` over the places gives such sums, and this turns them back into a number
of items. -/
theorem sum_mul_exactShare (hw : ∀ i, 0 < w i) (i : ι) (y : α) :
    (∑ j, y * w i * (w j)⁻¹) * exactShare w i = y := by
  have hsum := (sum_inv_pos hw i).ne'
  have hi := (hw i).ne'
  rw [← Finset.mul_sum, exactShare, mul_assoc, mul_div_cancel₀ _ hsum, mul_assoc,
    mul_inv_cancel₀ hi, mul_one]

variable [DecidableEq ι]

/-- Of the other items, no place has more than its exact share and one more: the place with the last
item was, without it, not above any other. -/
theorem Fair.le_share (hw : ∀ i, 0 < w i) (h : Fair w c) (i : ι) :
    (c i : α) ≤ ((∑ j, c j : ℤ) - 1) * exactShare w i + 1 := by
  have hplace : ∀ j, ((c i : α) - 1) * w i * (w j)⁻¹ + (if j = i then 1 else 0) ≤ c j := by
    intro j
    split
    · next hj =>
      rw [hj, mul_assoc, mul_inv_cancel₀ (hw i).ne', mul_one, sub_add_cancel]
    · rw [add_zero, ← div_eq_mul_inv, div_le_iff₀ (hw j)]
      exact h i j
  have hsum := Finset.sum_le_sum fun j (_ : j ∈ Finset.univ) => hplace j
  rw [Finset.sum_add_distrib, Finset.sum_ite_eq', if_pos (Finset.mem_univ i), ← Int.cast_sum,
    ← le_sub_iff_add_le] at hsum
  have hshare := mul_le_mul_of_nonneg_right hsum (exactShare_pos hw i).le
  rw [sum_mul_exactShare hw] at hshare
  exact sub_le_iff_le_add.mp hshare

/-- A place has its exact share at least of the items that are left where each other place is
without one. This is the bound from below, and it is weaker by one item for each place. -/
theorem Fair.share_le (hw : ∀ i, 0 < w i) (h : Fair w c) (i : ι) :
    ((∑ j, c j : ℤ) - (Fintype.card ι - 1) : α) * exactShare w i ≤ c i := by
  have hplace : ∀ j, (c j : α) + (if j = i then 1 else 0) ≤ c i * w i * (w j)⁻¹ + 1 := by
    intro j
    split
    · next hj =>
      rw [hj, mul_assoc, mul_inv_cancel₀ (hw i).ne', mul_one]
    · rw [add_zero, ← sub_le_iff_le_add, ← div_eq_mul_inv, le_div_iff₀ (hw j)]
      exact h j i
  have hsum := Finset.sum_le_sum fun j (_ : j ∈ Finset.univ) => hplace j
  rw [Finset.sum_add_distrib, Finset.sum_add_distrib, Finset.sum_ite_eq',
    if_pos (Finset.mem_univ i), Finset.sum_const, Finset.card_univ, nsmul_one,
    ← Int.cast_sum] at hsum
  have hrest : ((∑ j, c j : ℤ) - (Fintype.card ι - 1) : α) ≤ ∑ j, c i * w i * (w j)⁻¹ := by
    linarith only [hsum]
  have hshare := mul_le_mul_of_nonneg_right hrest (exactShare_pos hw i).le
  rwa [sum_mul_exactShare hw] at hshare

/-- No place has more than its exact share rounded up. Written with `<` and one more, since the
share need not be whole. -/
theorem Fair.lt_share (hw : ∀ i, 0 < w i) (h : Fair w c) (i : ι) :
    (c i : α) < (∑ j, c j : ℤ) * exactShare w i + 1 := by
  have hle := h.le_share hw i
  have hpos := exactShare_pos hw i
  rw [sub_one_mul] at hle
  linarith only [hle, hpos]

/-- Where all the exact shares are whole, each place has its own: by `lt_share` none has more, and
the sums are the same, so that none has less. -/
theorem Fair.eq_share (hw : ∀ i, 0 < w i) (h : Fair w c) {k : ι → ℤ}
    (hwhole : ∀ i, (∑ j, c j : ℤ) * exactShare w i = k i) (i : ι) : c i = k i := by
  have hle : ∀ j, c j ≤ k j := by
    intro j
    have hlt := h.lt_share hw j
    rw [hwhole j] at hlt
    exact Int.lt_add_one_iff.mp (by exact_mod_cast hlt)
  have hsum : ∑ j, c j = ∑ j, k j := by
    have htotal : ((∑ j, k j : ℤ) : α) = (∑ j, c j : ℤ) := by
      rw [Int.cast_sum, ← Finset.sum_congr rfl fun j _ => hwhole j, ← Finset.mul_sum,
        sum_exactShare hw i, mul_one]
    exact_mod_cast htotal.symm
  exact (Finset.sum_eq_sum_iff_of_le fun j _ => hle j).mp hsum i (Finset.mem_univ i)

end

end GpuVirtmem.Lib
