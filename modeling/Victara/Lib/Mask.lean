/-!
# Bit Masks as Sets

A mask is a fixed-width word whose bits are switches. What matters of two masks
is mostly whether one asks for nothing that the other does not have, and that
is a subset relation: `Within a b` says that every bit of `a` is set in `b`.
It is stated as an equation between words, so that it can be computed, and used
through `within_iff`, bit by bit.

## Main definitions

* `Within`: Every bit of a mask is set in another one.
* `union`: The bits of a number of masks.
* `intShl`: A bit that is made by shifting an int.

## Theorems

* `within_iff`: The relation, bit by bit.
* `within_trans`, `within_antisymm`: It is an order.
* `eq_iff_bits`: Words are equal if their bits are.
* `or_within_iff`: A union is within what both parts are.
* `within_diff_or`: What is not in one part of a union is in the other.
* `union_within_iff`: So is a union of many.
* `and_twoPow_ne_zero_iff`: The test of one bit.
* `xor_twoPow_of_set`: A bit that is toggled where it is set is off.
* `getLsbD_intShl_signExtend`: The bits that such a bit sets in a wider mask.
-/

namespace Mask

variable {w : Nat}

/-- Every bit of `a` is set in `b`. -/
def Within (a b : BitVec w) : Prop := a &&& ~~~b = 0#w

instance (a b : BitVec w) : Decidable (Within a b) := inferInstanceAs (Decidable (_ = _))

theorem within_iff {a b : BitVec w} :
    Within a b ↔ ∀ i, a.getLsbD i = true → b.getLsbD i = true := by
  unfold Within
  constructor
  · intro h i ha
    have hi : i < w := BitVec.lt_of_getLsbD ha
    have hbit : (a &&& ~~~b).getLsbD i = false := by
      rw [h]
      exact BitVec.getLsbD_zero
    rw [BitVec.getLsbD_and, BitVec.getLsbD_not, ha, decide_eq_true hi, Bool.true_and,
      Bool.true_and] at hbit
    cases hb : b.getLsbD i with
    | true => rfl
    | false =>
        rw [hb] at hbit
        cases hbit
  · intro h
    apply BitVec.eq_of_getLsbD_eq
    intro i hi
    rw [BitVec.getLsbD_and, BitVec.getLsbD_not, BitVec.getLsbD_zero]
    cases ha : a.getLsbD i with
    | true =>
        rw [h i ha]
        cases decide (i < w) <;> rfl
    | false => rfl

theorem within_refl (a : BitVec w) : Within a a := within_iff.mpr fun _ h => h

theorem zero_within (a : BitVec w) : Within 0#w a := within_iff.mpr fun i h => by
  rw [BitVec.getLsbD_zero] at h
  cases h

theorem within_trans {a b c : BitVec w} (hab : Within a b) (hbc : Within b c) : Within a c :=
  within_iff.mpr fun i h => within_iff.mp hbc i (within_iff.mp hab i h)

theorem within_antisymm {a b : BitVec w} (hab : Within a b) (hba : Within b a) : a = b := by
  apply BitVec.eq_of_getLsbD_eq
  intro i _
  exact Bool.eq_iff_iff.mpr ⟨within_iff.mp hab i, within_iff.mp hba i⟩

/-- Words are equal if their bits are. -/
theorem eq_iff_bits {a b : BitVec w} :
    a = b ↔ ∀ i, a.getLsbD i = true ↔ b.getLsbD i = true := by
  constructor
  · rintro rfl i
    exact Iff.rfl
  · intro h
    exact within_antisymm (within_iff.mpr fun i => (h i).mp) (within_iff.mpr fun i => (h i).mpr)

theorem within_zero_iff {a : BitVec w} : Within a 0#w ↔ a = 0#w :=
  ⟨fun h => within_antisymm h (zero_within a), fun h => h ▸ within_refl a⟩

theorem eq_zero_iff_bits {a : BitVec w} : a = 0#w ↔ ∀ i, ¬ a.getLsbD i = true := by
  rw [← within_zero_iff, within_iff]
  simp only [BitVec.getLsbD_zero, Bool.false_eq_true, imp_false]

theorem within_or_left (a b : BitVec w) : Within a (a ||| b) :=
  within_iff.mpr fun i h => by rw [BitVec.getLsbD_or, h, Bool.true_or]

theorem within_or_right (a b : BitVec w) : Within b (a ||| b) :=
  within_iff.mpr fun i h => by rw [BitVec.getLsbD_or, h, Bool.or_true]

/-- A union is within what both of its parts are within. -/
theorem or_within_iff {a b c : BitVec w} : Within (a ||| b) c ↔ Within a c ∧ Within b c := by
  constructor
  · intro h
    exact ⟨within_trans (within_or_left a b) h, within_trans (within_or_right a b) h⟩
  · rintro ⟨ha, hb⟩
    refine within_iff.mpr fun i h => ?_
    rw [BitVec.getLsbD_or, Bool.or_eq_true] at h
    exact h.elim (within_iff.mp ha i) (within_iff.mp hb i)

theorem or_within_or {a b c d : BitVec w} (hac : Within a c) (hbd : Within b d) :
    Within (a ||| b) (c ||| d) :=
  or_within_iff.mpr ⟨within_trans hac (within_or_left c d), within_trans hbd (within_or_right c d)⟩

/-- What is off one part of a union is in the other one. -/
theorem within_diff_or {a b c : BitVec w} : Within a (b ||| c) ↔ Within (a &&& ~~~b) c := by
  rw [Within, Within, BitVec.not_or, BitVec.and_assoc]

/-- The union of a number of masks. -/
def union (masks : List (BitVec w)) : BitVec w := masks.foldl (· ||| ·) 0#w

theorem foldl_or_within_iff {masks : List (BitVec w)} {a b : BitVec w} :
    Within (masks.foldl (· ||| ·) a) b ↔ Within a b ∧ ∀ m ∈ masks, Within m b := by
  induction masks generalizing a with
  | nil => simp
  | cons m masks ih => rw [List.foldl_cons, ih, or_within_iff, List.forall_mem_cons, and_assoc]

/-- A union is within what every part is. -/
theorem union_within_iff {masks : List (BitVec w)} {b : BitVec w} :
    Within (union masks) b ↔ ∀ m ∈ masks, Within m b := by
  rw [union, foldl_or_within_iff]
  exact and_iff_right (zero_within b)

/-- A mask has something in common with one bit if that bit is set. -/
theorem and_twoPow_ne_zero_iff {a : BitVec w} {k : Nat} :
    a &&& BitVec.twoPow w k ≠ 0#w ↔ a.getLsbD k = true := by
  rw [BitVec.and_twoPow]
  constructor
  · intro h
    refine Classical.byContradiction fun hk => h ?_
    rw [if_neg hk]
  · intro hk
    have hlt : k < w := BitVec.lt_of_getLsbD hk
    rw [if_pos hk]
    intro h
    have hbit := congrArg (fun m => m.getLsbD k) h
    simp [hlt] at hbit

/-- A bit that is toggled where it is set is off afterwards. -/
theorem xor_twoPow_of_set (a : BitVec w) (k : Nat) :
    (if a &&& BitVec.twoPow w k ≠ 0#w then a ^^^ BitVec.twoPow w k else a) =
      a &&& ~~~BitVec.twoPow w k := by
  rw [BitVec.and_twoPow]
  apply BitVec.eq_of_getLsbD_eq
  intro i hi
  by_cases hk : a.getLsbD k = true
  · have hlt : k < w := BitVec.lt_of_getLsbD hk
    have hne : BitVec.twoPow w k ≠ 0#w := by
      intro h
      have hbit := congrArg (fun m => m.getLsbD k) h
      simp [hlt] at hbit
    rw [if_pos hk, if_pos hne]
    by_cases hik : i = k
    · simp [hik, hk, hlt]
    · simp [hik, hi]
  · rw [if_neg hk, if_neg (by simp)]
    by_cases hik : i = k
    · simp [hik, hk]
    · simp [hik, hi]

/-! ## Bits made by an int -/

/-- `1 << n` for an int of 32 bits. It is the sign bit for 31, and nothing can
    be said of it from 32 on. -/
def intShl (n : Nat) : Option (BitVec 32) := if n < 32 then some (BitVec.twoPow 32 n) else none

theorem intShl_eq_some {n : Nat} {b : BitVec 32} :
    intShl n = some b ↔ n < 32 ∧ b = BitVec.twoPow 32 n := by
  unfold intShl
  split
  case isTrue h => rw [Option.some.injEq, eq_comm, and_iff_right h]
  case isFalse h => simp only [reduceCtorEq, h, false_and]

theorem intShl_eq_none {n : Nat} : intShl n = none ↔ 32 ≤ n := by
  unfold intShl
  split
  case isTrue h => simp only [reduceCtorEq, false_iff, Nat.not_le, h]
  case isFalse h => exact iff_of_true rfl (Nat.le_of_not_lt h)

/-- In a wider mask an int has its sign in all the bits that are new. -/
theorem getLsbD_intShl_signExtend {n v : Nat} {b : BitVec 32} (h : intShl n = some b)
    (hv : 32 ≤ v) (j : Nat) :
    (b.signExtend v).getLsbD j = true ↔ j = n ∨ n = 31 ∧ 31 ≤ j ∧ j < v := by
  rcases intShl_eq_some.mp h with ⟨hn, rfl⟩
  rw [BitVec.getLsbD_signExtend, BitVec.getLsbD_twoPow, BitVec.msb_twoPow]
  by_cases hj : j < 32
  · simp only [hj, if_true, Bool.and_eq_true, decide_eq_true_eq]
    omega
  · simp only [hj, if_false, Bool.and_eq_true, decide_eq_true_eq]
    omega

end Mask
