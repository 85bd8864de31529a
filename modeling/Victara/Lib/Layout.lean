import Victara.Lib.Bytes

/-!
# Where Variables Are

The fields of a structure are one after another, each at the next place that is
aligned for it. Objects are anywhere, but apart from each other. So all
variables are apart, and what is written into one of them leaves the others as
they are.

An alignment is a number of bytes, and a variable that is no structure is an
object with one field.

## Main definitions

* `Member`: The size and the alignment of a variable.
* `alignUp`, `offset`, `sizeof`: Places in a structure.
* `ends`: The place behind the last field, if the first one may be at `pos`.
* `size`: The size of a field.
* `Apart`: Two ranges of bytes that have none in common.
* `Decls`: The fields of each object, and the object of each variable.
* `Placement`: Where the objects are.
* `Decls.width`: The size that a variable is declared with.
* `Placement.address`: Where a variable is.
* `writeAll`, `Within`: A list of writes, all in one range.

## Theorems

* `add_le_alignUp`: There is room up to the next multiple.
* `offset_le_ends`: A field is inside.
* `offset_apart`: Two fields of a structure are apart.
* `room_apart`: A variable with more bytes than it is declared with.
* `address_apart`: Two variables are apart.
* `writeAll_outside`: A byte that is not written to.
* `writeAll_apart`: Writes within a range leave the others as they are.
* `load_writeAll`: What is written apart from the rest is loaded.
-/

namespace Layout

universe u v

/-- A variable in a structure. -/
structure Member (K : Type u) where
  key : K
  size : Nat
  align : Nat

/-- The next place that is a multiple of `a`. -/
def alignUp (n a : Nat) : Nat := n + (a - n % a) % a

/-- The place behind the last field, if the first one may be at `pos`. -/
def ends {K : Type u} : Nat → List (Member K) → Nat
  | pos, [] => pos
  | pos, f :: fs => ends (alignUp pos f.align + f.size) fs

/-- The size of a structure, which is a multiple of every alignment in it. -/
def sizeof {K : Type u} (fs : List (Member K)) : Nat :=
  alignUp (ends 0 fs) (fs.foldr (fun f a => a.lcm f.align) 1)

theorem le_alignUp (n a : Nat) : n ≤ alignUp n a := Nat.le_add_right n _

theorem alignUp_of_dvd {n a : Nat} (h : a ∣ n) : alignUp n a = n := by
  rw [alignUp, Nat.mod_eq_zero_of_dvd h, Nat.sub_zero, Nat.mod_self, Nat.add_zero]

/-- There is room up to the next multiple. -/
theorem add_le_alignUp {n a : Nat} (h : a ∣ n) {r : Nat} (hr : 0 < r) (hra : r ≤ a) :
    n + a ≤ alignUp (n + r) a := by
  unfold alignUp
  rw [Nat.add_mod, Nat.mod_eq_zero_of_dvd h, Nat.zero_add, Nat.mod_mod]
  by_cases hlt : r < a
  · rw [Nat.mod_eq_of_lt hlt, Nat.mod_eq_of_lt (by omega)]
    omega
  · omega

theorem le_ends {K : Type u} (pos : Nat) (fs : List (Member K)) : pos ≤ ends pos fs := by
  induction fs generalizing pos with
  | nil => exact Nat.le_refl pos
  | cons f fs ih =>
      have hle := le_alignUp pos f.align
      have hrest := ih (alignUp pos f.align + f.size)
      unfold ends
      omega

/-! ## In a structure -/

variable {K : Type u} [DecidableEq K] {O : Type v}

/-- The place of a field. -/
def offset (k : K) : Nat → List (Member K) → Nat
  | pos, [] => pos
  | pos, f :: fs =>
    if f.key = k then alignUp pos f.align else offset k (alignUp pos f.align + f.size) fs

/-- The size of a field. -/
def size (k : K) : List (Member K) → Nat
  | [] => 0
  | f :: fs => if f.key = k then f.size else size k fs

/-- Two ranges of bytes that have none in common. -/
def Apart (p n q m : Nat) : Prop := p + n ≤ q ∨ q + m ≤ p

instance (p n q m : Nat) : Decidable (Apart p n q m) :=
  inferInstanceAs (Decidable (p + n ≤ q ∨ q + m ≤ p))

theorem le_offset (k : K) (pos : Nat) (fs : List (Member K)) : pos ≤ offset k pos fs := by
  induction fs generalizing pos with
  | nil => exact Nat.le_refl pos
  | cons f fs ih =>
      have hle := le_alignUp pos f.align
      unfold offset
      by_cases hkey : f.key = k
      · rw [if_pos hkey]
        exact hle
      · rw [if_neg hkey]
        have hrest := ih (alignUp pos f.align + f.size)
        omega

/-- A field is inside. -/
theorem offset_le_ends (k : K) (pos : Nat) (fs : List (Member K)) :
    offset k pos fs + size k fs ≤ ends pos fs := by
  induction fs generalizing pos with
  | nil => exact Nat.le_refl pos
  | cons f fs ih =>
      unfold offset size ends
      by_cases hkey : f.key = k
      · rw [if_pos hkey, if_pos hkey]
        exact le_ends _ fs
      · rw [if_neg hkey, if_neg hkey]
        exact ih _

theorem offset_le_sizeof (k : K) (fs : List (Member K)) :
    offset k 0 fs + size k fs ≤ sizeof fs := by
  have hends := offset_le_ends k 0 fs
  have halign := le_alignUp (ends 0 fs) (fs.foldr (fun f a => a.lcm f.align) 1)
  unfold sizeof
  omega

/-- One of them is further on than the other. -/
theorem offset_apart {k l : K} (h : k ≠ l) (pos : Nat) {fs : List (Member K)}
    (hk : k ∈ fs.map Member.key) (hl : l ∈ fs.map Member.key) :
    Apart (offset k pos fs) (size k fs) (offset l pos fs) (size l fs) := by
  induction fs generalizing pos with
  | nil => exact absurd hk List.not_mem_nil
  | cons f fs ih =>
      unfold offset size
      by_cases hkey : f.key = k
      · have hlkey : f.key ≠ l := fun hfl => h (hkey.symm.trans hfl)
        rw [if_pos hkey, if_pos hkey, if_neg hlkey, if_neg hlkey]
        exact Or.inl (le_offset l _ fs)
      · rw [if_neg hkey, if_neg hkey]
        by_cases hlkey : f.key = l
        · rw [if_pos hlkey, if_pos hlkey]
          exact Or.inr (le_offset k _ fs)
        · rw [if_neg hlkey, if_neg hlkey]
          rw [List.map_cons, List.mem_cons] at hk hl
          exact ih _ (hk.resolve_left (Ne.symm hkey)) (hl.resolve_left (Ne.symm hlkey))

/-! ## In the memory -/

/-- The fields of each object, and the object of each variable. -/
structure Decls (K : Type u) (O : Type v) where
  fields : O → List (Member K)
  object : K → O
  declared : ∀ k, k ∈ (fields (object k)).map Member.key

/-- Where the objects are. -/
structure Placement (d : Decls K O) where
  base : O → Nat
  apart : ∀ a b, a ≠ b →
    Apart (base a) (sizeof (d.fields a)) (base b) (sizeof (d.fields b))

/-- The size that a variable is declared with. -/
def Decls.width (d : Decls K O) (k : K) : Nat := size k (d.fields (d.object k))

variable {d : Decls K O}

/-- Where a variable is. -/
def Placement.address (place : Placement d) (k : K) : Nat :=
  place.base (d.object k) + offset k 0 (d.fields (d.object k))

/-- With room for `n` bytes in its object, a variable may be taken to have so
    many. -/
theorem room_apart (place : Placement d) {k : K} {n : Nat}
    (hroom : ∀ l, l ≠ k → d.object l = d.object k →
      Apart (offset k 0 (d.fields (d.object k))) n (offset l 0 (d.fields (d.object k))) (d.width l))
    (hend : offset k 0 (d.fields (d.object k)) + n ≤ sizeof (d.fields (d.object k)))
    {l : K} (h : l ≠ k) :
    Apart (place.address k) n (place.address l) (d.width l) := by
  unfold Placement.address
  by_cases hobject : d.object l = d.object k
  · have hfields := hroom l h hobject
    rw [hobject]
    unfold Apart at hfields ⊢
    omega
  · -- They are in objects that are apart.
    have hl := offset_le_sizeof l (d.fields (d.object l))
    have hobjects := place.apart _ _ hobject
    unfold Apart at hobjects ⊢
    unfold Decls.width
    omega

theorem address_apart (place : Placement d) {k l : K} (h : l ≠ k) :
    Apart (place.address k) (d.width k) (place.address l) (d.width l) := by
  refine room_apart place (fun l hl hobject => ?_) (offset_le_sizeof k _) h
  have hdeclared := d.declared l
  rw [hobject] at hdeclared
  unfold Decls.width
  rw [hobject]
  exact offset_apart (Ne.symm hl) 0 (d.declared k) hdeclared

/-- Bytes are written, one list after the other. -/
def writeAll (mem : Nat → UInt8) (writes : List (Nat × List UInt8)) : Nat → UInt8 :=
  writes.foldl (fun mem w => Bytes.store mem w.1 w.2) mem

/-- Only bytes of a range are written. -/
def Within (p n : Nat) (writes : List (Nat × List UInt8)) : Prop :=
  ∀ w ∈ writes, ∀ i, i < w.2.length → p ≤ w.1 + i ∧ w.1 + i < p + n

theorem writeAll_outside (mem : Nat → UInt8) {writes : List (Nat × List UInt8)} {a : Nat}
    (h : ∀ w ∈ writes, ¬ (w.1 ≤ a ∧ a < w.1 + w.2.length)) : writeAll mem writes a = mem a := by
  unfold writeAll
  induction writes generalizing mem with
  | nil => rfl
  | cons w writes ih =>
      rw [List.foldl_cons, ih _ fun other hother => h other (List.mem_cons_of_mem w hother)]
      exact Bytes.store_outside mem (h w List.mem_cons_self)

/-- What is written into a range leaves the others as they are. -/
theorem writeAll_apart {p n q m : Nat} (h : Apart p n q m) (mem : Nat → UInt8)
    {writes : List (Nat × List UInt8)} (hwithin : Within p n writes) {i : Nat} (hi : i < m) :
    writeAll mem writes (q + i) = mem (q + i) := by
  apply writeAll_outside
  intro w hw hin
  -- The byte would be in both.
  have hbyte := hwithin w hw (q + i - w.1) (by omega)
  unfold Apart at h
  omega

/-- Each of some writes can be loaded, if they are apart. -/
theorem load_writeAll (mem : Nat → UInt8) {writes : List (Nat × List UInt8)}
    (h : writes.Pairwise fun v w => Apart v.1 v.2.length w.1 w.2.length) {w : Nat × List UInt8}
    (hw : w ∈ writes) : Bytes.load (writeAll mem writes) w.1 w.2.length = w.2 := by
  induction writes generalizing mem with
  | nil => exact absurd hw List.not_mem_nil
  | cons v writes ih =>
      rw [List.pairwise_cons] at h
      show Bytes.load (writeAll (Bytes.store mem v.1 v.2) writes) w.1 w.2.length = w.2
      rcases List.mem_cons.mp hw with rfl | hw
      · -- The later writes are elsewhere.
        have hlater : ∀ i < w.2.length, writeAll (Bytes.store mem w.1 w.2) writes (w.1 + i) =
            Bytes.store mem w.1 w.2 (w.1 + i) := by
          intro i hi
          apply writeAll_outside
          intro u hu hin
          have hapart := h.1 u hu
          unfold Apart at hapart
          omega
        rw [Bytes.load_congr hlater, Bytes.load_store]
      · exact ih _ h.2 hw

end Layout
