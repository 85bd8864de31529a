import Mathlib.Data.List.Basic

/-!
# A List Cut into Chunks of One Size

The chunks of size `p` of a list are its elements from `p * k` on, `p` of
them or as many as there are. Put one after the other they are the list.

A sender whose place in the list wraps around after `w` chunks sends the
first ones again. `wrapped_eq_iff` says when the receiver gets the list all
the same: the list ends with a whole chunk and has the period `p * w`. A
list has a period when what is left after dropping it is how the list begins.

## Main definitions

* `chunk`: The elements of a list from `p * k` on.
* `wrapped`: The first chunks, with a place that wraps around.

## Theorems

* `flatMap_chunk`: The first chunks are the beginning of the list.
* `chunk_flatMap`: Pieces of one size are the chunks of what they make up.
* `wrapped_of_le`: A place that has not wrapped around yet is the right one.
* `wrapped_add`: After the first `w` chunks it begins anew.
* `length_wrapped`: Of a list that is long enough, all the chunks are whole.
* `wrapped_of_period`: A list with the period is what is sent of it.
* `wrapped_eq_iff`: When a place that wraps around does no harm.
-/

namespace Chunks

universe u

variable {α : Type u}

/-- The chunk number `k`, counted from 0. -/
def chunk (p : Nat) (xs : List α) (k : Nat) : List α :=
  (xs.drop (p * k)).take p

theorem length_chunk (p : Nat) (xs : List α) (k : Nat) :
    (chunk p xs k).length = min p (xs.length - p * k) := by
  rw [chunk, List.length_take, List.length_drop]

theorem flatMap_chunk (p : Nat) (xs : List α) (n : Nat) :
    (List.range n).flatMap (chunk p xs) = xs.take (p * n) := by
  induction n with
  | zero => rfl
  | succ n ih =>
      rw [List.range_succ, List.flatMap_append, ih, Nat.mul_succ, List.take_add]
      simp only [List.flatMap_cons, List.flatMap_nil, List.append_nil, chunk]

/-- Pieces of one size are the chunks of what they make up. -/
theorem chunk_flatMap {p n : Nat} {f : Nat → List α} (hf : ∀ i, (f i).length = p) {k : Nat}
    (hk : k < n) : chunk p ((List.range n).flatMap f) k = f k := by
  have hlength (m : Nat) : ((List.range m).flatMap f).length = p * m := by
    simp only [List.length_flatMap, hf, List.map_const', List.length_range, List.sum_replicate_nat]
    exact Nat.mul_comm m p
  rcases Nat.exists_eq_add_of_lt hk with ⟨d, rfl⟩
  have hsplit : (List.range (k + d + 1)).flatMap f =
      (List.range k).flatMap f ++ (f k ++ (List.range d).flatMap fun i => f (k + 1 + i)) := by
    have hsum : k + d + 1 = k + (1 + d) := by omega
    rw [hsum, List.range_add, List.range_add, List.flatMap_append, List.map_append,
      List.flatMap_append, List.flatMap_map, List.map_map, List.flatMap_map]
    simp [Nat.add_assoc]
  rw [hsplit, chunk, ← hlength k, List.drop_left, ← hf k, List.take_left]

/-- The first `n` chunks, by a place that is back at 0 after `w` of them. -/
def wrapped (p w : Nat) (xs : List α) (n : Nat) : List α :=
  (List.range n).flatMap fun k => chunk p xs (k % w)

theorem wrapped_of_le {p w : Nat} (xs : List α) {n : Nat} (h : n ≤ w) :
    wrapped p w xs n = xs.take (p * n) := by
  rw [← flatMap_chunk, wrapped]
  refine List.flatMap_congr fun k hk => ?_
  rw [Nat.mod_eq_of_lt (Nat.lt_of_lt_of_le (List.mem_range.mp hk) h)]

/-- After the first `w` chunks it begins anew. -/
theorem wrapped_add (p w : Nat) (xs : List α) (m : Nat) :
    wrapped p w xs (w + m) = xs.take (p * w) ++ wrapped p w xs m := by
  rw [← wrapped_of_le xs (Nat.le_refl w), wrapped, List.range_add, List.flatMap_append, wrapped,
    wrapped, List.flatMap_map]
  simp only [Nat.add_mod_left]

theorem wrapped_prefix (p w : Nat) (xs : List α) {m n : Nat} (h : m ≤ n) :
    wrapped p w xs m <+: wrapped p w xs n := by
  rcases Nat.exists_eq_add_of_le h with ⟨d, rfl⟩
  rw [wrapped, wrapped, List.range_add, List.flatMap_append]
  exact List.prefix_append _ _

/-- Of a list that is long enough, all the chunks are whole. -/
theorem length_wrapped {p w : Nat} {xs : List α} (hw : 0 < w) (hlen : p * w ≤ xs.length) (n : Nat) :
    (wrapped p w xs n).length = p * n := by
  have hfull (k : Nat) : (chunk p xs (k % w)).length = p := by
    have hk : p * (k % w + 1) ≤ p * w := Nat.mul_le_mul_left p (Nat.mod_lt k hw)
    rw [Nat.mul_succ] at hk
    rw [length_chunk]
    omega
  simp only [wrapped, List.length_flatMap, hfull, List.map_const', List.length_range,
    List.sum_replicate_nat]
  exact Nat.mul_comm n p

/-- A list with the period is what is sent of it. -/
theorem wrapped_of_period {p w n : Nat} {xs : List α} (hw : 0 < w) (hlen : xs.length = p * n)
    (hper : xs.drop (p * w) <+: xs) {m : Nat} (hm : m ≤ n) :
    wrapped p w xs m = xs.take (p * m) := by
  -- By strong induction: what comes after the first `w` chunks is shorter.
  induction m using Nat.strongRecOn with
  | ind m ih =>
      by_cases hle : m ≤ w
      · exact wrapped_of_le xs hle
      · rcases Nat.exists_eq_add_of_le (Nat.le_of_not_le hle) with ⟨d, rfl⟩
        have hd : p * (w + d) ≤ xs.length := hlen ▸ Nat.mul_le_mul_left p hm
        have hdrop : (xs.drop (p * w)).take (p * d) = xs.take (p * d) := by
          rw [List.prefix_iff_eq_take.mp hper, List.take_take, List.length_drop,
            Nat.min_eq_left]
          rw [Nat.mul_add] at hd
          omega
        rw [wrapped_add, ih d (by omega) (by omega), Nat.mul_add, List.take_add, hdrop]

theorem wrapped_eq_iff {p w n : Nat} {xs : List α} (hw : 0 < w) (hn : w ≤ n)
    (hlen : p * w ≤ xs.length) :
    wrapped p w xs n = xs ↔ xs.length = p * n ∧ xs.drop (p * w) <+: xs := by
  constructor
  · intro h
    refine ⟨by rw [← h, length_wrapped hw hlen], ?_⟩
    rcases Nat.exists_eq_add_of_le hn with ⟨d, rfl⟩
    have hrest : wrapped p w xs d = xs.drop (p * w) := by
      have hsplit := h
      rw [wrapped_add] at hsplit
      exact List.append_cancel_left (hsplit.trans (List.take_append_drop (p * w) xs).symm)
    have hpre := wrapped_prefix p w xs (Nat.le_add_left d w)
    rwa [hrest, h] at hpre
  · rintro ⟨hfull, hper⟩
    rw [wrapped_of_period hw hfull hper (Nat.le_refl n), ← hfull, List.take_length]

end Chunks
