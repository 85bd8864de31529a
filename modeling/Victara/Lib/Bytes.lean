import Mathlib.Algebra.Group.Nat.Defs
import Mathlib.Data.List.TakeDrop
import Mathlib.Tactic.Common

/-!
# Bytes

Words as lists of bytes, low byte first, and a memory that stores such lists.

The words are natural numbers of a given number of bytes, so that a `size_t` of
either size and the fields of a structure are one definition. What is stored
comes back when it is loaded from the same place, and bytes that are elsewhere
are not touched: this is all that a program needs which keeps its data in a flat
memory.

## Main definitions

* `toBytes`, `ofBytes`: A word of so many bytes, and back.
* `store`, `load`: Bytes at an address.

## Theorems

* `ofBytes_toBytes`: A word that fits comes back.
* `load_store`, `load_store_part`: What was stored is loaded.
* `store_outside`: Bytes elsewhere stay as they are.
* `store_append`: Storing two pieces, one behind the other.
-/

namespace Bytes

/-- The `w` low bytes of `x`. -/
def toBytes : Nat → Nat → List UInt8
  | 0, _ => []
  | w + 1, x => UInt8.ofNat x :: toBytes w (x / 256)

def ofBytes : List UInt8 → Nat
  | [] => 0
  | b :: bs => b.toNat + 256 * ofBytes bs

@[simp] theorem length_toBytes (w x : Nat) : (toBytes w x).length = w := by
  induction w generalizing x with
  | zero => rfl
  | succ w ih => simp [toBytes, ih]

theorem ofBytes_toBytes {w x : Nat} (h : x < 256 ^ w) : ofBytes (toBytes w x) = x := by
  induction w generalizing x with
  | zero =>
      simp only [Nat.pow_zero] at h
      simp only [toBytes, ofBytes]
      omega
  | succ w ih =>
      have hdiv : x / 256 < 256 ^ w := by
        rw [Nat.pow_succ] at h
        omega
      simp only [toBytes, ofBytes, ih hdiv, UInt8.toNat_ofNat']
      omega

theorem ofBytes_lt (bs : List UInt8) : ofBytes bs < 256 ^ bs.length := by
  induction bs with
  | nil => simp [ofBytes]
  | cons b bs ih =>
      have hb : b.toNat < 256 := b.toNat_lt
      simp only [ofBytes, List.length_cons, Nat.pow_succ]
      omega

/-- The memory after `bs` is stored from `dst` on. -/
def store (mem : Nat → UInt8) (dst : Nat) (bs : List UInt8) : Nat → UInt8 :=
  fun i => if dst ≤ i then (bs[i - dst]?).getD (mem i) else mem i

/-- The `n` bytes from `src` on. -/
def load (mem : Nat → UInt8) (src n : Nat) : List UInt8 :=
  (List.range n).map fun i => mem (src + i)

@[simp] theorem length_load (mem : Nat → UInt8) (src n : Nat) : (load mem src n).length = n := by
  simp [load]

theorem load_congr {mem mem' : Nat → UInt8} {src n : Nat}
    (h : ∀ i < n, mem (src + i) = mem' (src + i)) : load mem src n = load mem' src n :=
  List.map_congr_left fun i hi => h i (List.mem_range.mp hi)

theorem load_take (mem : Nat → UInt8) (src : Nat) {n k : Nat} (h : n ≤ k) :
    (load mem src k).take n = load mem src n := by
  simp [load, ← List.map_take, List.take_range, h]

theorem load_store (mem : Nat → UInt8) (dst : Nat) (bs : List UInt8) :
    load (store mem dst bs) dst bs.length = bs := by
  apply List.ext_getElem
  · simp
  · intro i _ hi
    simp [load, store, hi]

/-- A part of what was stored. -/
theorem load_store_part (mem : Nat → UInt8) (dst : Nat) {bs : List UInt8} {k n : Nat}
    (h : k + n ≤ bs.length) : load (store mem dst bs) (dst + k) n = (bs.drop k).take n := by
  apply List.ext_getElem
  · rw [length_load, List.length_take, List.length_drop]
    omega
  · intro i hi _
    rw [length_load] at hi
    have hlt : k + i < bs.length := by omega
    simp [load, store, hlt, Nat.add_assoc]

theorem drop_take_load (mem : Nat → UInt8) (src : Nat) {m k n : Nat} (h : k + n ≤ m) :
    ((load mem src m).drop k).take n = load mem (src + k) n := by
  apply List.ext_getElem
  · rw [length_load, List.length_take, List.length_drop, length_load]
    omega
  · intro i _ _
    simp [load, Nat.add_assoc]

/-- Bytes elsewhere stay as they are. -/
theorem store_outside (mem : Nat → UInt8) {dst : Nat} {bs : List UInt8} {i : Nat}
    (h : ¬ (dst ≤ i ∧ i < dst + bs.length)) : store mem dst bs i = mem i := by
  unfold store
  by_cases hdst : dst ≤ i
  · have hnone : bs[i - dst]? = none := List.getElem?_eq_none (by omega)
    rw [if_pos hdst, hnone, Option.getD_none]
  · exact if_neg hdst

theorem load_store_append (mem : Nat → UInt8) (dst : Nat) (as bs : List UInt8) :
    load (store mem dst (as ++ bs)) dst as.length = as := by
  have hle : as.length ≤ (as ++ bs).length := by simp
  rw [← load_take _ _ hle, load_store, List.take_left]

theorem store_append (mem : Nat → UInt8) (dst : Nat) (as bs : List UInt8) :
    store (store mem dst as) (dst + as.length) bs = store mem dst (as ++ bs) := by
  funext i
  simp only [store]
  by_cases hdst : dst ≤ i
  · by_cases has : dst + as.length ≤ i
    · have hlen : as.length ≤ i - dst := by omega
      have hsub : i - (dst + as.length) = i - dst - as.length := by omega
      have hnone : as[i - dst]? = none := List.getElem?_eq_none hlen
      simp [hdst, has, hsub, hnone, List.getElem?_append_right hlen]
    · have hlen : i - dst < as.length := by omega
      simp [hdst, has, List.getElem?_append_left hlen, List.getElem?_eq_getElem hlen]
  · have has : ¬ dst + as.length ≤ i := by omega
    simp [hdst, has]

end Bytes
