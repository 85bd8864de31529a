import Mathlib.Algebra.BigOperators.Group.Finset.Piecewise
import Mathlib.Data.Fintype.BigOperators

/-!
# Counting Those That Have a Property

How many of finitely many holders hold something with a property, and how that
changes when one of them gets something else: by the difference between what
it held and what it holds.

## Main definitions

* `count`: The number of holders of something with the property.

## Theorems

* `count_update`: One holder gets something else.
* `count_pos_iff`: There is a holder where the count is positive.
-/

namespace Tally

universe u v

variable {V : Type u} [Fintype V] {α : Type v}

/-- The number of holders `v` for which `p (f v)` is true. -/
def count (p : α → Bool) (f : V → α) : Nat := ∑ v, (p (f v)).toNat

theorem count_update [DecidableEq V] (p : α → Bool) (f : V → α) (v : V) (a : α) :
    count p (Function.update f v a) + (p (f v)).toNat = count p f + (p a).toNat := by
  have hnew : (fun w => (p (Function.update f v a w)).toNat) =
      Function.update (fun w => (p (f w)).toNat) v (p a).toNat := by
    funext w
    by_cases h : w = v
    · rw [h, Function.update_self, Function.update_self]
    · rw [Function.update_of_ne h, Function.update_of_ne h]
  have hold : count p f = (p (f v)).toNat + ∑ w ∈ Finset.univ \ {v}, (p (f w)).toNat := by
    rw [count, ← Finset.sum_update_of_mem (Finset.mem_univ v), Function.update_eq_self]
  rw [hold, count, hnew, Finset.sum_update_of_mem (Finset.mem_univ v)]
  omega

theorem count_pos_iff (p : α → Bool) (f : V → α) : 0 < count p f ↔ ∃ v, p (f v) = true := by
  rw [Nat.pos_iff_ne_zero, count, Ne, Finset.sum_eq_zero_iff, not_forall]
  refine exists_congr fun v => ?_
  cases p (f v) <;> simp

theorem count_const (p : α → Bool) (a : α) (h : p a = false) : count p (fun _ : V => a) = 0 := by
  rw [count, h]
  exact Finset.sum_const_zero

end Tally
