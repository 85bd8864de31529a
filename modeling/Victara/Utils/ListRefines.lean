import Victara.Lib.Linked
import Victara.Utils.LinkedList
import Victara.Utils.ListState

/-!
# The Linked List Is a Sequence

The cells of the list are linked both ways, and what the operations make of
them is what the same operations make of the sequence of the elements: `add`
puts one in front, `remove` takes the last one, `search` finds the first one
that its predicate accepts. The two walks, from `p_head` along `next` and from
`p_tail` along `prev`, meet the same cells in opposite order, and there are no
other cells.

All the pointer surgery is of two kinds. The cell before a gap gets another
`next`, or there is none and `p_head` is set; and the cell after it gets
another `prev`, or `p_tail` is set.

Each operation has its specification on `Represents`, in terms of the sequence,
and is proved by taking the list apart at the place where links change and
putting it together again. A search is a loop that removes nothing before it
accepts an element, so its invariant is a split of the list into the cells that
were passed and the others. With one specification for a call, sequences of
calls are an induction.

## Main definitions

* `ListSpec`: The sequence, and the operations on it.
* `deallocOf`: The call of `dealloc_func` for an element.
* `searched`: A search that has found `x`, and is left with `elems`.
* `SpecRun`: The sequence after some calls, and what they returned.
* `Piece`: A piece of the list.
* `Represents`: The list represents a sequence.
* `Relinked`: Only links are changed, and those of cells at `keys`.
* `ListSpec.visited`: The walk of a search over elements.
* `Walks`: The walks from both ends meet the same cells, and these hold the
  sequence.
* `Refines`: The list represents the sequence, and all calls have returned what
  they should.
* `someCalls`: Three are added, the second is found and taken out, and the first
  of the other two is removed.

## Theorems

* `linkNext_spec`, `linkPrev_spec`: The two kinds of surgery.
* `add_spec`, `remove_spec`, `unlink_spec`, `flush_spec`, `search_spec`: The
  operations.
* `only_of_free`: A cell that is in the way of nothing is freed.
* `flushFrom_spec`: The cells from the head on are freed.
* `searchFrom_spec`: The loop of a search has passed the cells in `xs`, none of
  which was accepted.
* `call_spec`: Every call goes through, and does to the sequence what it should.
* `search_first`: With a predicate that only tests, a search finds the first
  element that passes, and takes out that one.
* `elems_of_piece`: The cells of a piece hold its values.
* `linkedList_refines`: Calls one after the other.
-/

namespace Victara

open Linked StepSystem

universe u

variable {σ F V : Type u}

/-! ## The sequence -/

/-- The elements from the head on, each with its `dealloc_func`. -/
structure ListSpec (σ F V : Type u) where
  elems : List (V × Option F)
  env : σ
  dealloced : List (F × V)

namespace ListSpec

def init (env : σ) : ListSpec σ F V := ⟨[], env, []⟩

/-- The call of its `dealloc_func` that an element is given. -/
def deallocOf (x : V × Option F) : List (F × V) := (x.2.map fun f => (f, x.1)).toList

/-- A search that has found `x`, and is left with `elems`. -/
def searched (a : ListSpec σ F V) (data_p rm_if_found : Bool)
    (r : σ × Option (V × Option F) × List (V × Option F)) : ListSpec σ F V where
  elems := r.2.2
  env := r.1
  dealloced := a.dealloced ++
    if rm_if_found && !data_p then r.2.1.toList.flatMap deallocOf else []

def call (a : ListSpec σ F V) : ListOp σ F V → ListSpec σ F V × ListOut V
  | .add _ none _ => (a, ⟨.invalidParameter, none⟩)
  | .add none (some _) _ => (a, ⟨.failureGeneral, none⟩)
  | .add (some _) (some data) dealloc =>
      ({ a with elems := linkedListAdd a.elems (data, dealloc) }, ⟨.success, none⟩)
  | .remove false => (a, ⟨.invalidParameter, none⟩)
  | .remove true => match a.elems.getLast? with
    | none => (a, ⟨.unavailableResource, none⟩)
    | some x => ({ a with elems := a.elems.dropLast }, ⟨.success, some x.1⟩)
  | .search none _ _ => (a, ⟨.invalidHandle, none⟩)
  | .search (some equal) data_p rm_if_found =>
      if a.elems = [] then (a, ⟨.unavailableResource, none⟩)
      else
        let r := linkedListSearch (fun s x => equal s x.1) rm_if_found a.env a.elems
        (a.searched data_p rm_if_found r,
          ⟨.success, if data_p then r.2.1.map Prod.fst else none⟩)
  | .flush => ({ a with
      elems := linkedListFlush a.elems
      dealloced := a.dealloced ++ a.elems.flatMap deallocOf }, ⟨.success, none⟩)

end ListSpec

/-- The sequence after some calls, and what they returned. -/
structure SpecRun (σ F V : Type u) where
  spec : ListSpec σ F V
  outs : List (ListOut V)

def SpecRun.init (env : σ) : SpecRun σ F V := ⟨ListSpec.init env, []⟩

def SpecRun.next (a : SpecRun σ F V) (op : ListOp σ F V) : SpecRun σ F V :=
  ⟨(a.spec.call op).1, a.outs ++ [(a.spec.call op).2]⟩

/-! ## Representation -/

def ListElement.elem (e : ListElement F V) : V × Option F := (e.data_ptr, e.dealloc_func)

/-- A piece of the list. -/
abbrev Piece (heap : Addr → Option (ListElement F V)) (before p : Option Addr)
    (xs : List (Addr × V × Option F)) (last after : Option Addr) : Prop :=
  Seg ListElement.next ListElement.prev ListElement.elem heap before p xs last after

/-- The cells at the addresses in `xs` are the list, and there are no others.
    `Piece` has the links, in both directions; the other fields say that nothing
    else is allocated, so that an element which was lost would show. -/
structure Represents (m : Mem σ F V) (xs : List (Addr × V × Option F)) (a : ListSpec σ F V) : Prop where
  piece : Piece m.heap none m.list.p_head xs m.list.p_tail none
  nodup : (xs.map Prod.fst).Nodup
  elems : xs.map Prod.snd = a.elems
  live : m.live = xs.length
  only : ∀ x, m.heap x ≠ none → x ∈ xs.map Prod.fst
  env : m.env = a.env
  dealloced : m.dealloced = a.dealloced

theorem init_represents (env : σ) : Represents (Mem.init env : Mem σ F V) [] (ListSpec.init env) :=
  ⟨⟨rfl, rfl⟩, List.nodup_nil, rfl, rfl, fun _ h => absurd rfl h, rfl, rfl⟩

variable {m m' : Mem σ F V} {xs ys : List (Addr × V × Option F)} {a : ListSpec σ F V}

theorem Represents.empty_iff (h : Represents m xs a) : m.list.p_tail = none ↔ a.elems = [] := by
  rw [← h.elems, List.map_eq_nil_iff]
  constructor
  · intro htail
    have hpiece := h.piece
    rw [htail] at hpiece
    exact seg_last_none hpiece
  · rintro rfl
    exact h.piece.1

/-! ## Surgery -/

/-- Only links are changed, and those of cells at `keys`. What is stored in a
    cell, and which cells there are, is left alone. -/
structure Relinked (keys : List Addr) (m m' : Mem σ F V) : Prop where
  live : m'.live = m.live
  env : m'.env = m.env
  dealloced : m'.dealloced = m.dealloced
  dom : ∀ x, m'.heap x = none ↔ m.heap x = none
  heap : ∀ x, x ∉ keys → m'.heap x = m.heap x

theorem write_eq {b : Addr} {c : ListElement F V} (hc : m.heap b = some c)
    (f : ListElement F V → ListElement F V) :
    m.write b f = some { m with heap := Function.update m.heap b (some (f c)) } := by
  rw [Mem.write, hc, Option.map_some]

theorem free_eq {b : Addr} {c : ListElement F V} (hc : m.heap b = some c) :
    m.free b = some { m with heap := Function.update m.heap b none, live := m.live - 1 } := by
  rw [Mem.free, hc, Option.map_some]

theorem write_relinked {b : Addr} {c c' : ListElement F V} (hc : m.heap b = some c)
    {keys : List Addr} (hb : b ∈ keys) :
    Relinked keys m { m with heap := Function.update m.heap b (some c') } := by
  refine ⟨rfl, rfl, rfl, fun x => ?_, fun x hx => Function.update_of_ne ?_ _ _⟩
  · by_cases hx : x = b
    · simp [hx, hc]
    · simp [Function.update_of_ne hx]
  · rintro rfl
    exact hx hb

theorem linkNext_spec {mid q : Option Addr} (hnodup : (xs.map Prod.fst).Nodup)
    (h : Piece m.heap none m.list.p_head xs mid q) (q' : Option Addr) :
    ∃ m', m.linkNext mid q' = some m' ∧ Relinked (xs.map Prod.fst) m m' ∧
      m'.list.p_tail = m.list.p_tail ∧ Piece m'.heap none m'.list.p_head xs mid q' := by
  cases mid with
  | none =>
      cases seg_last_none h
      exact ⟨m.setHead q', rfl, ⟨rfl, rfl, rfl, fun _ => Iff.rfl, fun _ _ => rfl⟩, rfl, rfl, rfl⟩
  | some b =>
      rcases seg_setNext hnodup h q' with ⟨c, hc, _, hlinked⟩
      rcases seg_last h with ⟨zs, d, rfl⟩
      have hb : b ∈ (zs ++ [(b, d)]).map Prod.fst := by simp
      exact ⟨_, write_eq hc _, write_relinked hc hb, rfl, hlinked _ rfl rfl rfl⟩

theorem linkPrev_spec {mid q : Option Addr} (hnodup : (xs.map Prod.fst).Nodup)
    (h : Piece m.heap mid q xs m.list.p_tail none) (mid' : Option Addr) :
    ∃ m', m.linkPrev q mid' = some m' ∧ Relinked (xs.map Prod.fst) m m' ∧
      m'.list.p_head = m.list.p_head ∧ Piece m'.heap mid' q xs m'.list.p_tail none := by
  cases q with
  | none =>
      cases seg_first_none h
      exact ⟨m.setTail mid', rfl, ⟨rfl, rfl, rfl, fun _ => Iff.rfl, fun _ _ => rfl⟩, rfl, rfl, rfl⟩
  | some b =>
      rcases seg_setPrev hnodup h mid' with ⟨c, hc, _, hlinked⟩
      rcases seg_first h with ⟨zs, d, rfl⟩
      have hb : b ∈ ((b, d) :: zs).map Prod.fst := by simp
      exact ⟨_, write_eq hc _, write_relinked hc hb, rfl, hlinked _ rfl rfl rfl⟩

/-! ## The operations -/

theorem linkedListAdd_eq (addr : Addr) (data : V) (dealloc : Option F) :
    m.linkedListAdd (some addr) (some data) dealloc =
      (({ m.alloc addr ⟨m.list.p_head, none, data, dealloc⟩ with
        list := ⟨some addr, m.list.p_tail⟩ } : Mem σ F V).linkPrev m.list.p_head (some addr)).map
          fun m => (m, .success) := by
  simp only [Mem.linkedListAdd, Mem.write, Mem.alloc, Mem.setHead, Function.update_self,
    Function.update_idem, Option.bind_eq_bind, Option.bind_some,
    Option.map_eq_bind]
  rfl

theorem add_spec (h : Represents m xs a) {addr : Addr} (hfree : m.heap addr = none) (data : V)
    (dealloc : Option F) :
    ∃ m', m.linkedListAdd (some addr) (some data) dealloc = some (m', .success) ∧
      Represents m' ((addr, data, dealloc) :: xs)
        { a with elems := linkedListAdd a.elems (data, dealloc) } := by
  have hnew : addr ∉ xs.map Prod.fst := by
    intro hmem
    rcases List.mem_map.mp hmem with ⟨x, hx, rfl⟩
    exact mem_of_seg h.piece hx hfree
  -- The old list is a piece that is not touched by the new cell.
  have hpiece : Piece (Function.update m.heap addr (some ⟨m.list.p_head, none, data, dealloc⟩))
      none m.list.p_head xs m.list.p_tail none := seg_update hnew h.piece
  rcases linkPrev_spec (m := { m.alloc addr ⟨m.list.p_head, none, data, dealloc⟩ with
    list := ⟨some addr, m.list.p_tail⟩ }) h.nodup hpiece (some addr) with
    ⟨m', hrun, hsame, hhead, hlinked⟩
  refine ⟨m', by rw [linkedListAdd_eq, hrun]; rfl, ⟨?_, List.nodup_cons.mpr ⟨hnew, h.nodup⟩, ?_, ?_,
    fun x hx => ?_, hsame.env.trans h.env, hsame.dealloced.trans h.dealloced⟩⟩
  · rw [hhead]
    refine ⟨rfl, ⟨m.list.p_head, none, data, dealloc⟩, ?_, rfl, rfl, hlinked⟩
    rw [hsame.heap addr hnew]
    exact Function.update_self ..
  · rw [List.map_cons, h.elems]
    rfl
  · rw [hsame.live]
    exact congrArg (· + 1) h.live
  · rw [List.map_cons, List.mem_cons]
    by_cases hxa : x = addr
    · exact Or.inl hxa
    · refine Or.inr (h.only x fun hno => hx ((hsame.dom x).mpr ?_))
      exact (Function.update_of_ne hxa _ _).trans hno

/-- A cell that is in the way of nothing is freed. -/
theorem only_of_free {keys : List Addr} {b : Addr} {d : V × Option F}
    (honly : ∀ x, m.heap x ≠ none → x ∈ (xs ++ (b, d) :: ys).map Prod.fst)
    (hsame : Relinked keys m m') (x : Addr) (hx : Function.update m'.heap b none x ≠ none) :
    x ∈ (xs ++ ys).map Prod.fst := by
  have hne : x ≠ b := by
    rintro rfl
    exact hx (Function.update_self ..)
  rw [Function.update_of_ne hne] at hx
  have hmem := honly x fun hno => hx ((hsame.dom x).mpr hno)
  simp only [List.map_append, List.map_cons, List.mem_append, List.mem_cons, hne, false_or] at hmem
  rw [List.map_append]
  exact List.mem_append.mpr hmem

theorem not_mem_keys {b : Addr} {d : V × Option F}
    (h : ((xs ++ (b, d) :: ys).map Prod.fst).Nodup) :
    b ∉ xs.map Prod.fst ∧ b ∉ ys.map Prod.fst ∧ (xs.map Prod.fst).Nodup ∧
      (ys.map Prod.fst).Nodup ∧ ((xs ++ ys).map Prod.fst).Nodup := by
  rw [List.map_append, List.map_cons] at h
  have hmid := List.nodup_middle.mp h
  have hparts := List.nodup_cons.mp hmid
  rw [List.mem_append, not_or] at hparts
  rw [List.map_append]
  exact ⟨hparts.1.1, hparts.1.2, hparts.2.of_append_left, hparts.2.of_append_right, hparts.2⟩

theorem linkedListRemove_eq {tmp : Addr} (htail : m.list.p_tail = some tmp)
    {e : ListElement F V} (he : m.heap tmp = some e) :
    m.linkedListRemove true = ((m.setTail e.prev).linkNext e.prev none).bind fun m =>
      (m.heap tmp).bind fun e => (m.free tmp).map fun m => (m, .success, some e.data_ptr) := by
  simp only [Mem.linkedListRemove, htail, he, Bool.not_true, Bool.false_eq_true, if_false,
    Option.bind_eq_bind, Option.bind_some, Mem.setTail, Option.map_eq_bind]
  rfl

theorem remove_spec {b : Addr} {d : V × Option F} (h : Represents m (xs ++ [(b, d)]) a) :
    ∃ m', m.linkedListRemove true = some (m', .success, some d.1) ∧
      Represents m' xs { a with elems := a.elems.dropLast } := by
  rcases seg_append.mp h.piece with ⟨mid, q, hfst, rfl, e, he, hprev, hval, htail, _⟩
  rcases not_mem_keys h.nodup with ⟨hnew, _, hnodup, _, _⟩
  rcases linkNext_spec (m := m.setTail e.prev) hnodup (hprev ▸ hfst) none with
    ⟨m', hrun, hsame, hend, hlinked⟩
  have hthere : m'.heap b = some e := (hsame.heap b hnew).trans he
  refine ⟨{ m' with heap := Function.update m'.heap b none, live := m'.live - 1 }, ?_,
    ⟨?_, hnodup, ?_, ?_, fun x hx => ?_, hsame.env.trans h.env, hsame.dealloced.trans h.dealloced⟩⟩
  · rw [linkedListRemove_eq htail he, hrun, Option.bind_some, hthere, Option.bind_some,
      free_eq hthere, Option.map_some, ← (show e.elem = d from hval)]
    rfl
  · show Piece _ none m'.list.p_head xs m'.list.p_tail none
    rw [hend]
    exact seg_update hnew hlinked
  · rw [← h.elems, List.map_append, List.map_cons, List.map_nil, List.dropLast_concat]
  · show m'.live - 1 = xs.length
    rw [hsame.live]
    show m.live - 1 = xs.length
    rw [h.live, List.length_append, List.length_singleton, Nat.add_sub_cancel]
  · have hrelinked : Relinked (xs.map Prod.fst) m m' :=
      ⟨hsame.live, hsame.env, hsame.dealloced, hsame.dom, hsame.heap⟩
    have hmem := only_of_free h.only hrelinked x hx
    rwa [List.append_nil] at hmem

theorem unlink_eq {data_p : Bool} {tmp : Addr} {e : ListElement F V} (he : m.heap tmp = some e) :
    m.unlink data_p tmp = (m.linkNext e.prev e.next).bind fun m => (m.heap tmp).bind fun e =>
      (m.linkPrev e.next e.prev).bind fun m =>
        (m.write tmp fun e => { e with prev := none, next := none }).bind fun m =>
          (if data_p then m else m.dealloc e).free tmp := by
  unfold Mem.unlink
  rw [he]
  rfl

theorem Relinked.trans {m'' : Mem σ F V} {keys keys' : List Addr} (h : Relinked keys m m')
    (h' : Relinked keys' m' m'') : Relinked (keys ++ keys') m m'' := by
  refine ⟨h'.live.trans h.live, h'.env.trans h.env, h'.dealloced.trans h.dealloced,
    fun x => (h'.dom x).trans (h.dom x), fun x hx => ?_⟩
  rw [List.mem_append, not_or] at hx
  exact (h'.heap x hx.2).trans (h.heap x hx.1)

theorem dealloc_spec (m : Mem σ F V) (e : ListElement F V) :
    m.dealloc e = { m with dealloced := m.dealloced ++ ListSpec.deallocOf e.elem } := by
  rcases e with ⟨next, prev, data, f⟩
  cases f with
  | none => simp [Mem.dealloc, ListSpec.deallocOf, ListElement.elem]
  | some f => rfl

theorem unlink_spec {b : Addr} {d : V × Option F} (h : Represents m (xs ++ (b, d) :: ys) a)
    (data_p : Bool) :
    ∃ m', m.unlink data_p b = some m' ∧
      Represents m' (xs ++ ys) { a with
        elems := (xs ++ ys).map Prod.snd
        dealloced := a.dealloced ++ if data_p then [] else ListSpec.deallocOf d } := by
  rcases seg_append.mp h.piece with ⟨_, _, hfst, rfl, e, he, rfl, rfl, hsnd⟩
  rcases not_mem_keys h.nodup with ⟨hxs, hys, hnodup, hnodup', hboth⟩
  -- What follows the cells before it is now what followed it.
  rcases linkNext_spec hnodup hfst e.next with ⟨m₁, hrun₁, hsame₁, hend₁, hlinked₁⟩
  have hthere₁ : m₁.heap b = some e := (hsame₁.heap b hxs).trans he
  have hsnd₁ : Piece m₁.heap (some b) e.next ys m₁.list.p_tail none := by
    rw [hend₁]
    refine seg_frame (fun y hy => hsame₁.heap y.1 fun hmem => ?_) hsnd
    rw [List.map_append] at hboth
    exact (List.nodup_append.mp hboth).2.2 _ hmem _ (List.mem_map_of_mem hy) rfl
  -- And what precedes the cells after it is what preceded it.
  rcases linkPrev_spec hnodup' hsnd₁ e.prev with ⟨m₂, hrun₂, hsame₂, hend₂, hlinked₂⟩
  have hthere₂ : m₂.heap b = some e := (hsame₂.heap b hys).trans hthere₁
  have hfst₂ : Piece m₂.heap none m₂.list.p_head xs e.prev e.next := by
    rw [hend₂]
    refine seg_frame (fun x hx => hsame₂.heap x.1 fun hmem => ?_) hlinked₁
    rw [List.map_append] at hboth
    exact (List.nodup_append.mp hboth).2.2 _ (List.mem_map_of_mem hx) _ hmem rfl
  have hsame := hsame₁.trans hsame₂
  refine ⟨{ m₂ with
    heap := Function.update m₂.heap b none
    live := m₂.live - 1
    dealloced := m₂.dealloced ++ if data_p then [] else ListSpec.deallocOf e.elem }, ?_,
    ⟨?_, hboth, rfl, ?_, only_of_free h.only hsame, hsame.env.trans h.env, ?_⟩⟩
  · have hfreed (m : Mem σ F V) (hm : m.heap = Function.update m₂.heap b
        (some { e with prev := none, next := none })) : m.free b =
          some { m with heap := Function.update m₂.heap b none, live := m.live - 1 } := by
      rw [free_eq (by rw [hm, Function.update_self]), hm, Function.update_idem]
    rw [unlink_eq he, hrun₁, Option.bind_some, hthere₁, Option.bind_some, hrun₂, Option.bind_some,
      write_eq hthere₂, Option.bind_some]
    cases data_p with
    | true =>
        rw [if_pos rfl, hfreed _ rfl]
        simp
    | false =>
        rw [if_neg Bool.false_ne_true, dealloc_spec, hfreed _ rfl]
        rfl
  · exact seg_append.mpr ⟨e.prev, e.next, seg_update hxs hfst₂, seg_update hys hlinked₂⟩
  · show m₂.live - 1 = (xs ++ ys).length
    rw [hsame.live, h.live]
    simp only [List.length_append, List.length_cons]
    omega
  · show m₂.dealloced ++ _ = _
    rw [hsame.dealloced, h.dealloced]

/-- The cells from the head on are freed. What the first of them has as its
    `prev` has been freed already. -/
theorem flushFrom_spec {before last : Option Addr}
    (h : Piece m.heap before m.list.p_head xs last none) (hnodup : (xs.map Prod.fst).Nodup)
    (hlive : m.live = xs.length) (honly : ∀ x, m.heap x ≠ none → x ∈ xs.map Prod.fst) :
    ∃ m', m.flushFrom xs.length = some m' ∧ m'.list.p_head = none ∧ m'.live = 0 ∧
      (∀ x, m'.heap x = none) ∧ m'.env = m.env ∧
      m'.dealloced = m.dealloced ++ (xs.map Prod.snd).flatMap ListSpec.deallocOf := by
  induction xs generalizing m before with
  | nil =>
      refine ⟨m, ?_, h.2, hlive, fun x => ?_, rfl, (List.append_nil _).symm⟩
      · unfold Mem.flushFrom
        rw [h.2]
      · by_contra hx
        exact List.not_mem_nil (honly x hx)
  | cons x xs ih =>
      rcases h with ⟨hhead, e, he, _, hval, hrest⟩
      have hkeys := List.nodup_cons.mp hnodup
      have hlive' : m.live - 1 = xs.length := by rw [hlive, List.length_cons, Nat.add_sub_cancel]
      -- All that is left in the heap are the cells behind the first.
      have honly' : ∀ y, Function.update m.heap x.1 none y ≠ none → y ∈ xs.map Prod.fst := by
        intro y hy
        have hne : y ≠ x.1 := by
          rintro rfl
          exact hy (Function.update_self ..)
        have hmem := honly y fun hno => hy ((Function.update_of_ne hne _ _).trans hno)
        exact (List.mem_cons.mp hmem).resolve_left hne
      rcases ih (m := { m with
          heap := Function.update m.heap x.1 none
          list := { m.list with p_head := e.next }
          live := m.live - 1
          dealloced := m.dealloced ++ ListSpec.deallocOf e.elem }) (seg_update hkeys.1 hrest) hkeys.2
          hlive' honly' with ⟨m', hrun, hend, hzero, hempty, henv, hdealloced⟩
      refine ⟨m', ?_, hend, hzero, hempty, henv, ?_⟩
      · rw [← hrun, List.length_cons, Mem.flushFrom, hhead]
        simp only [he, Option.bind_eq_bind, Option.bind_some, dealloc_spec, Mem.free,
          Option.map_some, Mem.setHead]
      · rw [hdealloced, List.map_cons, List.flatMap_cons, hval, List.append_assoc]

theorem flush_spec (h : Represents m xs a) :
    ∃ m', m.linkedListFlush = some (m', .success) ∧
      Represents m' [] { a with
        elems := linkedListFlush a.elems
        dealloced := a.dealloced ++ a.elems.flatMap ListSpec.deallocOf } := by
  rcases flushFrom_spec h.piece h.nodup h.live h.only with
    ⟨m', hrun, hhead, hlive, hempty, henv, hdealloced⟩
  refine ⟨m'.setTail none, ?_, ⟨⟨rfl, hhead⟩, List.nodup_nil, rfl, hlive,
    fun x hx => absurd (hempty x) hx, henv.trans h.env, ?_⟩⟩
  · rw [Mem.linkedListFlush, h.live, hrun]
    rfl
  · rw [← h.dealloced, ← h.elems]
    exact hdealloced

/-- The walk of a search over elements. -/
abbrev ListSpec.visited (equal : σ → V → σ × Bool) (env : σ) (l : List (V × Option F)) :
    σ × Option (V × Option F) × List (V × Option F) :=
  Visit.visit (fun s x => equal s x.1) env l

theorem Represents.setEnv (h : Represents m xs a) (env : σ) :
    Represents { m with env := env } xs { a with env := env } :=
  ⟨h.piece, h.nodup, h.elems, h.live, h.only, rfl, h.dealloced⟩

/-- The loop of a search has passed the cells in `xs`, none of which was
    accepted. -/
theorem searchFrom_spec (equal : σ → V → σ × Bool) (data_p rm_if_found : Bool) {fuel : Nat}
    {mid p : Option Addr} (h : Represents m (xs ++ ys) a)
    (hrest : Piece m.heap mid p ys m.list.p_tail none) (hfuel : ys.length ≤ fuel)
    {r : σ × Option (V × Option F) × List (V × Option F)}
    (hr : ListSpec.visited equal a.env (ys.map Prod.snd) = r) :
    ∃ m' zs, m.searchFrom equal data_p rm_if_found fuel p = some (m', r.2.1.map Prod.fst) ∧
      Represents m' zs (a.searched data_p rm_if_found
        (r.1, r.2.1, if rm_if_found then xs.map Prod.snd ++ r.2.2 else a.elems)) := by
  induction ys generalizing m a xs mid p fuel r with
  | nil =>
      subst hr
      refine ⟨m, xs, ?_, ?_⟩
      · rw [hrest.2, Mem.searchFrom]
        rfl
      · rw [List.append_nil] at h
        refine ⟨h.piece, h.nodup, ?_, h.live, h.only, h.env, ?_⟩
        · cases rm_if_found <;> simp [ListSpec.searched, h.elems, ListSpec.visited, Visit.visit]
        · simp [ListSpec.searched, h.dealloced, ListSpec.visited, Visit.visit]
  | cons y ys ih =>
      rcases hrest with ⟨rfl, e, he, _, hval, hrest⟩
      cases fuel with
      | zero => cases hfuel
      | succ fuel =>
          have hdata : e.data_ptr = y.2.1 := congrArg Prod.fst hval
          simp only [Mem.searchFrom, he, Option.bind_eq_bind, Option.bind_some, h.env, hdata]
          have hseen := h.setEnv (equal a.env y.2.1).1
          cases hacc : (equal a.env y.2.1).2 with
          | true =>
              have hvisit := Visit.visit_stop (f := fun s (x : V × Option F) => equal s x.1) hacc
                (ys.map Prod.snd)
              rw [List.map_cons, ListSpec.visited, hvisit] at hr
              subst hr
              cases rm_if_found with
              | true =>
                  rcases unlink_spec (b := y.1) (d := y.2) hseen data_p with ⟨m', hrun, hrepr⟩
                  refine ⟨m', xs ++ ys, ?_, ⟨hrepr.piece, hrepr.nodup, ?_, hrepr.live, hrepr.only,
                    hrepr.env, hrepr.dealloced.trans ?_⟩⟩
                  · simp [hrun]
                  · simp [ListSpec.searched]
                  · cases data_p <;> simp [ListSpec.searched]
              | false =>
                  refine ⟨_, xs ++ y :: ys, rfl, ⟨hseen.piece, hseen.nodup, hseen.elems, hseen.live,
                    hseen.only, hseen.env, ?_⟩⟩
                  simpa [ListSpec.searched] using hseen.dealloced
          | false =>
              have hvisit := Visit.visit_pass (f := fun s (x : V × Option F) => equal s x.1) hacc
                (ys.map Prod.snd)
              rw [List.map_cons, ListSpec.visited, hvisit] at hr
              subst hr
              -- The cell that was not accepted is passed.
              rw [List.append_cons] at hseen
              rcases ih hseen hrest (Nat.le_of_succ_le_succ hfuel) rfl with ⟨m', zs, hrun, hrepr⟩
              refine ⟨m', zs, ?_, ⟨hrepr.piece, hrepr.nodup, hrepr.elems.trans ?_, hrepr.live,
                hrepr.only, hrepr.env, hrepr.dealloced⟩⟩
              · exact hrun
              · cases rm_if_found <;> simp [ListSpec.searched]

theorem search_spec (h : Represents m xs a) (equal : σ → V → σ × Bool) (data_p rm_if_found : Bool) :
    ∃ m' zs, m.linkedListSearch (some equal) data_p rm_if_found =
        some (m', (a.call (.search (some equal) data_p rm_if_found)).2.err,
          (a.call (.search (some equal) data_p rm_if_found)).2.data) ∧
      Represents m' zs (a.call (.search (some equal) data_p rm_if_found)).1 := by
  by_cases hempty : a.elems = []
  · refine ⟨m, xs, ?_, ?_⟩
    · simp [Mem.linkedListSearch, ListSpec.call, hempty, h.empty_iff.mpr hempty]
    · simpa [ListSpec.call, hempty] using h
  · have htail : m.list.p_tail ≠ none := fun hno => hempty (h.empty_iff.mp hno)
    have hall : Represents m ([] ++ xs) a := h
    rcases searchFrom_spec equal data_p rm_if_found hall h.piece (Nat.le_of_eq h.live.symm)
      (by rw [h.elems]) with ⟨m', zs, hrun, hrepr⟩
    refine ⟨m', zs, ?_, ?_⟩
    · simp only [Mem.linkedListSearch, if_neg htail, hrun, Option.bind_eq_bind, Option.bind_some,
        ListSpec.call, if_neg hempty]
      rfl
    · rw [ListSpec.call, if_neg hempty]
      exact hrepr

/-- Every call goes through, and does to the sequence what it should. -/
theorem call_spec (h : Represents m xs a) (op : ListOp σ F V) {outs : List (ListOut V)}
    (hop : Mallocs ⟨m, outs⟩ op) :
    ∃ m' zs, m.call op = some (m', (a.call op).2) ∧ Represents m' zs (a.call op).1 := by
  cases op with
  | add addr data_obj dealloc =>
      cases data_obj with
      | none => exact ⟨m, xs, rfl, h⟩
      | some data =>
          cases addr with
          | none => exact ⟨m, xs, rfl, h⟩
          | some addr =>
              rcases add_spec h (Option.isNone_iff_eq_none.mp hop) data dealloc with
                ⟨m', hrun, hrepr⟩
              exact ⟨m', _, by rw [Mem.call, hrun]; rfl, hrepr⟩
  | remove data_obj =>
      cases data_obj with
      | false => exact ⟨m, xs, rfl, h⟩
      | true =>
          -- It is the tail that is removed, if there is one.
          rcases List.eq_nil_or_concat xs with rfl | ⟨ys, ⟨b, d⟩, rfl⟩
          · have hnil : a.elems = [] := h.elems.symm
            refine ⟨m, [], ?_, ?_⟩
            · simp [Mem.call, Mem.linkedListRemove, ListSpec.call, h.empty_iff.mpr hnil, hnil]
            · simpa [ListSpec.call, hnil] using h
          · rw [List.concat_eq_append] at h
            rcases remove_spec h with ⟨m', hrun, hrepr⟩
            have hlast : a.elems.getLast? = some d := by simp [← h.elems]
            refine ⟨m', ys, ?_, ?_⟩
            · simp [Mem.call, hrun, ListSpec.call, hlast]
            · simpa [ListSpec.call, hlast] using hrepr
  | search equal data_p rm_if_found =>
      cases equal with
      | none => exact ⟨m, xs, rfl, h⟩
      | some equal =>
          rcases search_spec h equal data_p rm_if_found with ⟨m', zs, hrun, hrepr⟩
          exact ⟨m', zs, by rw [Mem.call, hrun]; rfl, hrepr⟩
  | flush =>
      rcases flush_spec h with ⟨m', hrun, hrepr⟩
      exact ⟨m', [], by rw [Mem.call, hrun]; rfl, hrepr⟩

/-- With a predicate that only tests, a search finds the first element that
    passes, and takes out that one. -/
theorem search_first (a : ListSpec σ F V) (hne : a.elems ≠ []) (p : V → Bool)
    (data_p rm_if_found : Bool) :
    (a.call (.search (some fun s data => (s, p data)) data_p rm_if_found)).1.elems =
        (if rm_if_found then a.elems.eraseP fun x => p x.1 else a.elems) ∧
      (a.call (.search (some fun s data => (s, p data)) data_p rm_if_found)).2 =
        ⟨.success, if data_p then (a.elems.find? fun x => p x.1).map Prod.fst else none⟩ := by
  have hf : Visit.ActsOn (fun _ : σ => True) (fun s (x : V × Option F) => (s, p x.1))
      (fun x => p x.1) (fun s _ => s) := by
    refine ⟨fun s x _ => ?_, fun _ _ _ _ => trivial⟩
    cases p x.1 <;> rfl
  simp only [ListSpec.call, if_neg hne, ListSpec.searched, linkedListSearch,
    Visit.visit_of_actsOn hf a.env trivial, and_self]

/-! ## Calls one after the other -/

/-- The walks from both ends meet the same cells, and these hold the sequence.
    The second walk meets them in the opposite order, which is what doubly
    linked means. -/
structure Walks (m : Mem σ F V) (as : List Addr) (elems : List (V × Option F)) : Prop where
  next : Chain ListElement.next m.heap m.list.p_head as
  prev : Chain ListElement.prev m.heap m.list.p_tail as.reverse
  ends : m.list.p_head = none ↔ m.list.p_tail = none
  elems : as.map (fun x => (m.heap x).map ListElement.elem) = elems.map some

/-- The cells of a piece hold its values. -/
theorem elems_of_piece {before p last after : Option Addr}
    (h : Piece m.heap before p xs last after) :
    (xs.map Prod.fst).map (fun x => (m.heap x).map ListElement.elem) =
      (xs.map Prod.snd).map some := by
  induction xs generalizing before p with
  | nil => rfl
  | cons x xs ih =>
      rcases h with ⟨_, e, he, _, hval, hrest⟩
      simp only [List.map_cons, he, Option.map_some, hval, ih hrest]

theorem walks_of_represents (h : Represents m xs a) : Walks m (xs.map Prod.fst) a.elems := by
  refine ⟨chain_next h.piece, chain_prev h.piece, ?_, ?_⟩
  · rw [h.empty_iff]
    constructor
    · intro hhead
      have hpiece := h.piece
      rw [hhead] at hpiece
      rw [← h.elems, seg_first_none hpiece]
      rfl
    · intro hnil
      have hpiece := h.piece
      rw [List.map_eq_nil_iff.mp (h.elems.trans hnil)] at hpiece
      exact hpiece.2
  · rw [elems_of_piece h.piece, h.elems]

/-- The list represents the sequence, and all calls have returned what they
    should. -/
def Refines (s : ListRun σ F V) (a : SpecRun σ F V) : Prop :=
  s.outs = a.outs ∧ ∃ xs, Represents s.mem xs a.spec

theorem init_refines (env : σ) : Refines (ListRun.init env : ListRun σ F V) (SpecRun.init env) :=
  ⟨rfl, [], init_represents env⟩

theorem refines_step {s : ListRun σ F V} {a : SpecRun σ F V} {op : ListOp σ F V}
    (hs : Refines s a) (hop : Mallocs s op) : ∃ t, s.step op = some t ∧ Refines t (a.next op) := by
  rcases hs with ⟨houts, xs, hrepr⟩
  rcases call_spec hrepr op hop with ⟨m', zs, hcall, hnext⟩
  refine ⟨⟨m', s.outs ++ [(a.spec.call op).2]⟩, ?_, ?_, zs, hnext⟩
  · rw [ListRun.step, hcall]
    rfl
  · rw [houts]
    rfl

/-- Over every sequence of calls in which `malloc` returns no address that is in
    use: no call touches a cell that is not there, the cells are linked both
    ways in the order of the sequence, and what the calls return and deallocate
    is what the same calls do on the sequence. The existence of `t` is the first
    part, as a step that touches such a cell has no result. -/
theorem linkedList_refines (env : σ) (ops : List (ListOp σ F V))
    (hops : Meets ListRun.step Mallocs (ListRun.init env) ops) :
    ∃ t as, exec ListRun.step (ListRun.init env) ops = some t ∧
      Walks t.mem as (ops.foldl SpecRun.next (SpecRun.init env)).spec.elems ∧
      t.outs = (ops.foldl SpecRun.next (SpecRun.init env)).outs ∧
      t.mem.env = (ops.foldl SpecRun.next (SpecRun.init env)).spec.env ∧
      t.mem.dealloced = (ops.foldl SpecRun.next (SpecRun.init env)).spec.dealloced := by
  rcases simulation_of_meets (fun _ _ _ => refines_step) (init_refines env) hops with
    ⟨t, hrun, houts, xs, hrepr⟩
  exact ⟨t, _, hrun, walks_of_represents hrepr, houts, hrepr.env, hrepr.dealloced⟩

/-- Three are added, the second is found and taken out, and the first of the
    other two is removed. -/
def someCalls : List (ListOp Unit Nat Nat) :=
  [.add (some 1) (some 10) none, .add (some 2) (some 20) (some 7), .add (some 3) (some 30) none,
    .search (some fun s data => (s, data == 20)) false true, .remove true]

theorem someCalls_refine : ∃ t as, exec ListRun.step (ListRun.init ()) someCalls = some t ∧
    Walks t.mem as (someCalls.foldl SpecRun.next (SpecRun.init ())).spec.elems ∧
    t.outs = (someCalls.foldl SpecRun.next (SpecRun.init ())).outs ∧
    t.mem.env = (someCalls.foldl SpecRun.next (SpecRun.init ())).spec.env ∧
    t.mem.dealloced = (someCalls.foldl SpecRun.next (SpecRun.init ())).spec.dealloced :=
  linkedList_refines () someCalls (by decide)

end Victara
