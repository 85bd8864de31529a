import Mathlib.Data.List.Induction
import Mathlib.Data.List.Nodup
import Mathlib.Logic.Function.Basic

/-!
# Doubly Linked Segments of a Heap

A heap maps addresses to cells, and a cell has two links and a value. Which
functions read these is a parameter, so a cell can be any record.

`Chain` follows one kind of link up to a null pointer. `Seg` is a piece of a
doubly linked list, with the address before its first cell and the one after
its last: pieces that meet make a longer one, and a piece does not notice what
happens to other cells. So a list is edited by taking it apart where the links
change, and putting it together again.

A list that starts after nothing and ends before nothing can be walked both
ways, and the two walks visit the same cells in opposite order.

## Main definitions

* `Chain`: The cells that are met by following a link.
* `Seg`: The cells of a piece of a doubly linked list, with their values.

## Theorems

* `mem_of_seg`: The cells of a piece are there.
* `seg_append`: A piece is made of pieces.
* `seg_frame`: Cells elsewhere do not matter.
* `seg_last`: The last cell of a piece that starts after nothing, where it has
  one.
* `seg_first`: The first cell of a piece that ends before nothing, where it has
  one.
* `chain_next`, `chain_prev`: The two walks.
* `seg_last_none`, `seg_first_none`: A null pointer at an end, and no cells.
* `seg_update`: One cell is written that is not in the piece.
* `seg_setNext`, `seg_setPrev`: The link at either end is changed.
-/

namespace Linked

universe u v w

variable {A : Type u} {C : Type v} {D : Type w}

/-- From `p` on, `link` leads through the cells at these addresses, and then
    nowhere. -/
def Chain (link : C → Option A) (heap : A → Option C) : Option A → List A → Prop
  | p, [] => p = none
  | p, a :: as => p = some a ∧ ∃ c, heap a = some c ∧ Chain link heap (link c) as

variable (next prev : C → Option A) (val : C → D)

/-- The cells from `p` on, up to the one at `last`: the first has `before` as
    its `prev`, and the last has `after` as its `next`. -/
def Seg (heap : A → Option C) :
    Option A → Option A → List (A × D) → Option A → Option A → Prop
  | before, p, [], last, after => last = before ∧ p = after
  | before, p, x :: xs, last, after => p = some x.1 ∧ ∃ c, heap x.1 = some c ∧
      prev c = before ∧ val c = x.2 ∧ Seg heap (some x.1) (next c) xs last after

variable {next prev val} {heap heap' : A → Option C} {before p last after : Option A}
  {xs ys : List (A × D)}

/-- The cells of a piece are there. -/
theorem mem_of_seg (h : Seg next prev val heap before p xs last after) {x : A × D} (hx : x ∈ xs) :
    heap x.1 ≠ none := by
  induction xs generalizing before p with
  | nil => cases hx
  | cons y ys ih =>
      rcases h with ⟨_, c, hc, _, _, hrest⟩
      rcases List.mem_cons.mp hx with rfl | hmem
      · simp [hc]
      · exact ih hrest hmem

theorem seg_append : Seg next prev val heap before p (xs ++ ys) last after ↔
    ∃ mid q, Seg next prev val heap before p xs mid q ∧
      Seg next prev val heap mid q ys last after := by
  induction xs generalizing before p with
  | nil =>
      constructor
      · exact fun h => ⟨before, p, ⟨rfl, rfl⟩, h⟩
      · rintro ⟨mid, q, ⟨rfl, rfl⟩, h⟩
        exact h
  | cons x xs ih =>
      constructor
      · rintro ⟨hp, c, hc, hprev, hval, hrest⟩
        rcases ih.mp hrest with ⟨mid, q, hfst, hsnd⟩
        exact ⟨mid, q, ⟨hp, c, hc, hprev, hval, hfst⟩, hsnd⟩
      · rintro ⟨mid, q, ⟨hp, c, hc, hprev, hval, hfst⟩, hsnd⟩
        exact ⟨hp, c, hc, hprev, hval, ih.mpr ⟨mid, q, hfst, hsnd⟩⟩

theorem seg_frame (hsame : ∀ x ∈ xs, heap' x.1 = heap x.1)
    (h : Seg next prev val heap before p xs last after) :
    Seg next prev val heap' before p xs last after := by
  induction xs generalizing before p with
  | nil => exact h
  | cons x xs ih =>
      rcases h with ⟨hp, c, hc, hprev, hval, hrest⟩
      refine ⟨hp, c, ?_, hprev, hval, ih (fun y hy => hsame y (List.mem_cons_of_mem x hy)) hrest⟩
      rw [hsame x List.mem_cons_self, hc]

/-- The last cell of a piece that starts after nothing, where it has one. -/
theorem seg_last {b : A} (h : Seg next prev val heap none p xs (some b) after) :
    ∃ ys d, xs = ys ++ [(b, d)] := by
  rcases List.eq_nil_or_concat xs with rfl | ⟨ys, x, rfl⟩
  · cases h.1
  · rw [List.concat_eq_append] at h ⊢
    rcases seg_append.mp h with ⟨mid, q, _, _, c, _, _, _, hlast, _⟩
    cases hlast
    exact ⟨ys, x.2, rfl⟩

/-- The first cell of a piece that ends before nothing, where it has one. -/
theorem seg_first {b : A} (h : Seg next prev val heap before (some b) xs last none) :
    ∃ ys d, xs = (b, d) :: ys := by
  cases xs with
  | nil => cases h.2
  | cons x xs =>
      cases h.1
      exact ⟨xs, x.2, rfl⟩

/-- The walk from the first cell. -/
theorem chain_next (h : Seg next prev val heap before p xs last none) :
    Chain next heap p (xs.map Prod.fst) := by
  induction xs generalizing before p with
  | nil => exact h.2
  | cons x xs ih =>
      rcases h with ⟨hp, c, hc, _, _, hrest⟩
      exact ⟨hp, c, hc, ih hrest⟩

/-- The walk back from the last cell. -/
theorem chain_prev (h : Seg next prev val heap none p xs last after) :
    Chain prev heap last (xs.map Prod.fst).reverse := by
  -- By induction from the end, where the walk starts.
  induction xs using List.reverseRecOn generalizing last after with
  | nil => exact h.1
  | append_singleton xs x ih =>
      rcases seg_append.mp h with ⟨mid, q, hfst, _, c, hc, hprev, _, rfl, _⟩
      rw [List.map_append, List.reverse_append]
      refine ⟨rfl, c, hc, ?_⟩
      rw [hprev]
      exact ih hfst

/-- A piece that starts after nothing has no cells where it has no last one. -/
theorem seg_last_none (h : Seg next prev val heap none p xs none after) : xs = [] := by
  rcases List.eq_nil_or_concat xs with rfl | ⟨ys, x, rfl⟩
  · rfl
  · rw [List.concat_eq_append] at h
    rcases seg_append.mp h with ⟨mid, q, _, _, c, _, _, _, hlast, _⟩
    cases hlast

/-- A piece that ends before nothing has no cells where it has no first one. -/
theorem seg_first_none (h : Seg next prev val heap before none xs last none) : xs = [] := by
  cases xs with
  | nil => rfl
  | cons x xs => cases h.1

section

variable [DecidableEq A]

/-- One cell is written that is not in the piece. -/
theorem seg_update {a : A} {c : Option C} (ha : a ∉ xs.map Prod.fst)
    (h : Seg next prev val heap before p xs last after) :
    Seg next prev val (Function.update heap a c) before p xs last after := by
  refine seg_frame (fun x hx => Function.update_of_ne ?_ _ _) h
  rintro rfl
  exact ha (List.mem_map_of_mem hx)

/-- The last cell of a piece gets another `next`. -/
theorem seg_setNext {b : A} (hnodup : (xs.map Prod.fst).Nodup)
    (h : Seg next prev val heap none p xs (some b) after) (after' : Option A) :
    ∃ c, heap b = some c ∧ next c = after ∧ ∀ c', next c' = after' → prev c' = prev c →
      val c' = val c →
        Seg next prev val (Function.update heap b (some c')) none p xs (some b) after' := by
  rcases seg_last h with ⟨ys, d, rfl⟩
  rcases seg_append.mp h with ⟨mid, q, hfst, rfl, c, hc, hprev, hval, _, hnext⟩
  refine ⟨c, hc, hnext, fun c' hn hp hv => seg_append.mpr ⟨mid, some b, seg_update ?_ hfst, rfl, c',
    Function.update_self .., ?_, ?_, rfl, hn⟩⟩
  · rw [List.map_append, List.nodup_append] at hnodup
    exact fun hmem => hnodup.2.2 b hmem b (by simp) rfl
  · rw [hp, hprev]
  · rw [hv, hval]

/-- The first cell of a piece gets another `prev`. -/
theorem seg_setPrev {b : A} (hnodup : (xs.map Prod.fst).Nodup)
    (h : Seg next prev val heap before (some b) xs last none) (before' : Option A) :
    ∃ c, heap b = some c ∧ prev c = before ∧ ∀ c', next c' = next c → prev c' = before' →
      val c' = val c →
        Seg next prev val (Function.update heap b (some c')) before' (some b) xs last none := by
  rcases seg_first h with ⟨ys, d, rfl⟩
  rcases h with ⟨_, c, hc, hprev, hval, hrest⟩
  refine ⟨c, hc, hprev, fun c' hn hp hv => ⟨rfl, c', Function.update_self .., hp, hv.trans hval, ?_⟩⟩
  rw [hn]
  exact seg_update (List.nodup_cons.mp hnodup).1 hrest

end

end Linked
