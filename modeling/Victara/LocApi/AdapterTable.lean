import Mathlib.Data.Finset.Card
import Mathlib.Data.List.Perm.Basic
import Victara.LocApi.LocApiBase

/-!
# The Table of Adapters

`LocApiBase::mLocAdapters`, ten pointers, with the loops that put an adapter
there, take it away and go through all of them. `LocApiBase.lean` has the
adapters as a list. Here are the slots, and the list is what they hold.

All the loops stop at the first NULL, so a hole would hide what comes after
it. `removeAdapter` moves the last adapter into the hole it makes. It looks
for the last one with the index of its own loop, and goes on from there when
it is done: what follows is NULL, or is past the end, and that ends the loop.

A pointer is `none` when it is NULL. The callers may pass such a one too, and
`addAdapter` then stops at the first slot that is free, since that is what it
looks for.

## Main definitions

* `AdapterPtr`: A `LocAdapterBase*`; NULL is `none`.
* `Adapters`, `slot`: The table.
* `TableEffect`: What a call does besides: a `LocOpenMsg` with its mask, or
  `close()`.
* `init`: The table as the constructor of `LocApiBase` leaves it.
* `put`: `mLocAdapters[i] = p`.
* `toAllFrom`: `TO_ALL_ADAPTERS(mLocAdapters, call)`, from `i` on.
* `toAll`: `TO_ALL_ADAPTERS`.
* `reached`: The adapters that the macro calls, in order.
* `addFrom`: The loop of `addAdapter`, from `i` on.
* `addAdapter`, `removeAdapter`: The loops, with what they call on the way.
* `scanFrom`: `while (++i < MAX_ADAPTERS && mLocAdapters[i] != NULL);`, where
  `i` has been incremented already.
* `removeFrom`: The loop of `removeAdapter`, from `i` on.
* `Holds`: The slots are a list, and NULL after it.
* `added`: The list after `addAdapter`.
* `removed`: The list after `removeAdapter`.
* `TableCall`: The calls of the adapters.
* `TableCall.onList`: The adapters that a call leaves of a list.
* `TableCall.onSet`: Who is registered after a call.
* `registered`: Who was added and not removed since.
* `Fits`: There are never more registered than there are slots.
* `HoleFree`: No hole, and nobody twice.
* `Has`: The adapter is in a slot.
* `adaptersOf`: The adapters of a run.
* `RemovesOnly`: Removing an adapter takes it, and nobody else, out of the
  table.
* `oneRemoved`: Three adapters come and the first one goes.
* `pending`: What is left to do of a call once its slots are in order.

## Theorems

* `toAll_eq`: The macro is a fold over the list.
* `addFrom_spec`, `removeFrom_spec`: The loops on the list.
* `addFrom_null`: NULL is not added: the loop stops where it finds it.
* `getElem?_shiftUp`: A slot of the list when one adapter is gone.
* `scanFrom_eq`: The scan goes to the end of the list.
* `removeFrom_found`: What the loop does once it has found the adapter in slot
  `i`.
* `removeFrom_null`: NULL is not found: the loop ends there.
* `shiftUp_perm`: One adapter goes, and the others stay.
* `call_holds`, `run_holds`: The slots are a list after every call.
* `mem_adaptersOf_iff`: While there is room for all, it is who is registered.
* `adapterTable`: All of it about the slots.
* `addAdapter_refines`: `addAdapter` of the client is the one of its table.
* `removeAdapter_refines`: `removeAdapter` of the client is the one of its
  table.
-/

namespace Victara

namespace LocApi

/-- A `LocAdapterBase*`; NULL is `none`. -/
abbrev AdapterPtr := Option AdapterId

/-- `LocAdapterBase* mLocAdapters[MAX_ADAPTERS]`. -/
abbrev Adapters := Vector AdapterPtr MAX_ADAPTERS

/-- What a call does besides: a `LocOpenMsg` with its mask, or `close()`. -/
inductive TableEffect
  | openMsg (mMask : EventMask)
  | close
  deriving DecidableEq, Repr

namespace Adapters

/-- As the constructor of `LocApiBase` leaves it. -/
def init : Adapters := Vector.replicate MAX_ADAPTERS none

/-- `mLocAdapters[i]`. The loops look at `i` only where there is a slot. -/
def slot (t : Adapters) (i : Nat) : AdapterPtr := t[i]?.getD none

/-- `mLocAdapters[i] = p`. -/
def put (t : Adapters) (i : Nat) (p : AdapterPtr) : Adapters := t.setIfInBounds i p

/-- `TO_ALL_ADAPTERS(mLocAdapters, call)`, from `i` on. -/
def toAllFrom {σ : Type} (call : σ → AdapterId → σ) (t : Adapters) (i : Nat) (s : σ) : σ :=
  if i < MAX_ADAPTERS then
    match t.slot i with
    | some adapter => toAllFrom call t (i + 1) (call s adapter)
    | none => s
  else s
termination_by MAX_ADAPTERS - i

def toAll {σ : Type} (call : σ → AdapterId → σ) (t : Adapters) (s : σ) : σ := toAllFrom call t 0 s

/-- The adapters that the macro calls, in order. -/
def reached (t : Adapters) : List AdapterId := t.toAll (fun l adapter => l ++ [adapter]) []

section

variable (evtMask : AdapterId → EventMask) (mExcludedMask : EventMask)

def getEvtMask (t : Adapters) : EventMask :=
  t.toAll (fun mask adapter => mask ||| evtMask adapter) 0#32 &&& ~~~mExcludedMask

/-- The loop of `addAdapter`, from `i` on. -/
def addFrom (t : Adapters) (adapter : AdapterPtr) (i : Nat) : Adapters × List TableEffect :=
  if i < MAX_ADAPTERS then
    if t.slot i = adapter then (t, [])
    else
      match t.slot i, adapter with
      -- NULL is not here, since the loop would have ended.
      | none, some a => (t.put i adapter, [.openMsg (evtMask a)])
      | _, _ => addFrom t adapter (i + 1)
  else (t, [])
termination_by MAX_ADAPTERS - i

def addAdapter (t : Adapters) (adapter : AdapterPtr) : Adapters × List TableEffect :=
  t.addFrom evtMask adapter 0

/-- `while (++i < MAX_ADAPTERS && mLocAdapters[i] != NULL);`, where `i` has been
    incremented already. -/
def scanFrom (t : Adapters) (i : Nat) : Nat :=
  if i < MAX_ADAPTERS ∧ t.slot i ≠ none then scanFrom t (i + 1) else i
termination_by MAX_ADAPTERS - i

theorem le_scanFrom (t : Adapters) (i : Nat) : i ≤ t.scanFrom i := by
  fun_induction scanFrom t i with
  | case1 i h ih => omega
  | case2 i h => exact Nat.le_refl i

/-- The loop of `removeAdapter`, from `i` on. -/
def removeFrom (t : Adapters) (adapter : AdapterPtr) (i : Nat) : Adapters × List TableEffect :=
  if i < MAX_ADAPTERS ∧ t.slot i ≠ none then
    if t.slot i = adapter then
      let holed := t.put i none
      -- The index of the loop is the last adapter's from here on.
      let last := holed.scanFrom (i + 1) - 1
      let moved := holed.put i (holed.slot last)
      let shifted := moved.put last none
      let effect := if 0 = last then .close else .openMsg (shifted.getEvtMask evtMask mExcludedMask)
      let r := removeFrom shifted adapter (last + 1)
      (r.1, effect :: r.2)
    else removeFrom t adapter (i + 1)
  else (t, [])
termination_by MAX_ADAPTERS - i
decreasing_by
  · have hle := le_scanFrom (t.put i none) (i + 1)
    omega
  · omega

def removeAdapter (t : Adapters) (adapter : AdapterPtr) : Adapters × List TableEffect :=
  t.removeFrom evtMask mExcludedMask adapter 0

end

/-! ## The slots are a list -/

theorem slot_init (i : Nat) : init.slot i = none := by
  unfold slot init
  rw [Vector.getElem?_replicate]
  split <;> rfl

theorem slot_put (t : Adapters) {i : Nat} (hi : i < MAX_ADAPTERS) (p : AdapterPtr) (j : Nat) :
    (t.put i p).slot j = if j = i then p else t.slot j := by
  unfold slot put
  rw [Vector.getElem?_setIfInBounds]
  by_cases hij : i = j
  · rw [if_pos hij, if_pos hi, if_pos hij.symm, Option.getD_some]
  · rw [if_neg hij, if_neg (Ne.symm hij)]

/-- The adapters in the slots, and no more than there are slots. Everything
    behind them is NULL, and all loops over the table are stated on the list
    from here on. -/
structure Holds (t : Adapters) (l : List AdapterId) : Prop where
  le : l.length ≤ MAX_ADAPTERS
  slot : ∀ i, t.slot i = l[i]?

theorem init_holds : init.Holds [] := ⟨Nat.zero_le _, fun i => slot_init i⟩

section

variable {t : Adapters} {l : List AdapterId}

theorem toAllFrom_eq (h : t.Holds l) {σ : Type} (call : σ → AdapterId → σ) (i : Nat) (s : σ) :
    t.toAllFrom call i s = (l.drop i).foldl call s := by
  fun_induction toAllFrom call t i s with
  | case1 i s hi adapter hslot ih =>
      rw [h.slot] at hslot
      rcases List.getElem?_eq_some_iff.mp hslot with ⟨hlt, hget⟩
      rw [ih, List.drop_eq_getElem_cons hlt, List.foldl_cons, hget]
  | case2 i s hi hslot =>
      rw [h.slot] at hslot
      rw [List.drop_of_length_le (List.getElem?_eq_none_iff.mp hslot), List.foldl_nil]
  | case3 i s hi =>
      have hle := h.le
      rw [List.drop_of_length_le (by omega), List.foldl_nil]

/-- The macro is a fold over the list. -/
theorem toAll_eq (h : t.Holds l) {σ : Type} (call : σ → AdapterId → σ) (s : σ) :
    t.toAll call s = l.foldl call s := toAllFrom_eq h call 0 s

theorem reached_eq (h : t.Holds l) : t.reached = l := by
  unfold reached
  rw [toAll_eq h, List.foldl_append_eq_append, List.nil_append, ← List.flatMap_def,
    List.flatMap_singleton']

end

/-! ## The calls on the list -/

/-- The list after `addAdapter`. -/
def added (l : List AdapterId) (a : AdapterId) : List AdapterId :=
  if a ∈ l ∨ MAX_ADAPTERS ≤ l.length then l else l ++ [a]

/-- The list after `removeAdapter`. -/
def removed (l : List AdapterId) (a : AdapterId) : List AdapterId :=
  if a ∈ l then shiftUp l (l.idxOf a) else l

section

variable (evtMask : AdapterId → EventMask) (mExcludedMask : EventMask) {t : Adapters}
  {l : List AdapterId}

/-- The loop stops where the adapter is, or at the first free slot. -/
theorem addFrom_spec (h : t.Holds l) (a : AdapterId) {i : Nat} (hi : i ≤ l.length)
    (hno : a ∉ l.take i) :
    (t.addFrom evtMask (some a) i).1.Holds (added l a) ∧
      (t.addFrom evtMask (some a) i).2 = if added l a = l then [] else [.openMsg (evtMask a)] := by
  generalize hp : some a = p
  fun_induction addFrom evtMask t p i with
  | case1 i hlt hslot =>
      rw [h.slot, ← hp] at hslot
      -- The adapter is in this slot already.
      have hold : added l a = l := if_pos (.inl (List.mem_of_getElem? hslot))
      rw [hold]
      exact ⟨h, (if_pos rfl).symm⟩
  | case2 i hlt hne b =>
      rename_i hsome hslot
      cases hp
      cases hsome
      rw [h.slot, List.getElem?_eq_none_iff] at hslot
      -- The first free slot is the one after the list.
      have hend : i = l.length := Nat.le_antisymm hi hslot
      rw [hend, List.take_length] at hno
      have hnew : added l a = l ++ [a] := by
        refine if_neg ?_
        rintro (hmem | hfull)
        · exact hno hmem
        · omega
      rw [hnew, if_neg (by simp)]
      refine ⟨⟨?_, fun j => ?_⟩, rfl⟩
      · rw [List.length_append, List.length_singleton]
        omega
      · rw [slot_put t hlt, hend, List.getElem?_append]
        by_cases hj : j = l.length
        · simp [hj]
        · rw [if_neg hj, h.slot]
          by_cases hjl : j < l.length
          · rw [if_pos hjl]
          · rw [if_neg hjl, List.getElem?_eq_none (by omega), List.getElem?_eq_none]
            rw [List.length_singleton]
            omega
  | case3 i hlt hne hother ih =>
      subst hp
      -- Another adapter is in this slot, and the loop goes on.
      have hsome : ∃ b, l[i]? = some b := by
        rw [← h.slot]
        cases hs : t.slot i with
        | none => exact absurd rfl (hother a hs)
        | some b => exact ⟨b, rfl⟩
      rcases hsome with ⟨b, hb⟩
      have hlen := (List.getElem?_eq_some_iff.mp hb).1
      refine ih hlen ?_
      rw [List.take_add_one, hb, List.mem_append, not_or]
      refine ⟨hno, fun hmem => hne ?_⟩
      rw [h.slot, hb, List.mem_singleton.mp hmem]
  | case4 i hge =>
      have hle := h.le
      -- The loop is past the last slot, so the table is full.
      have hfull : added l a = l := if_pos (.inr (by omega))
      rw [hfull]
      exact ⟨h, (if_pos rfl).symm⟩

/-- NULL is not added: the loop stops where it finds it. -/
theorem addFrom_null (i : Nat) : t.addFrom evtMask none i = (t, []) := by
  generalize hp : (none : AdapterPtr) = p
  fun_induction addFrom evtMask t p i with
  | case1 => rfl
  | case2 i hlt hne b =>
      rename_i hsome hslot
      rw [← hp] at hsome
      cases hsome
  | case3 i hlt hne hother ih => exact ih
  | case4 => rfl

/-- A slot of the list when one adapter is gone. -/
theorem getElem?_shiftUp (l : List AdapterId) {i : Nat} (hi : i < l.length) (j : Nat) :
    (shiftUp l i)[j]? =
      if j = l.length - 1 then none else if j = i then l[l.length - 1]? else l[j]? := by
  have hlast : l.getLast? = l[l.length - 1]? := List.getLast?_eq_getElem?
  rcases hl : l.getLast? with _ | last
  · rw [List.getLast?_eq_none_iff.mp hl] at hi
    exact absurd hi (Nat.not_lt_zero i)
  · rw [← hlast, hl, shiftUp, hl]
    simp only [List.getElem?_dropLast, List.length_set, List.getElem?_set]
    by_cases hend : j = l.length - 1
    -- The last slot is dropped; its adapter is in the hole.
    · rw [if_pos hend, if_neg (by omega)]
    · rw [if_neg hend]
      by_cases hlt : j < l.length - 1
      · rw [if_pos hlt]
        by_cases hij : i = j
        · rw [if_pos hij, if_pos hij.symm, if_pos hi]
        · rw [if_neg hij, if_neg (Ne.symm hij)]
      · rw [if_neg hlt, if_neg (by omega), List.getElem?_eq_none (by omega)]

/-- The scan goes to the end of the list. -/
theorem scanFrom_eq {s : Adapters} {n i : Nat} (hn : n ≤ MAX_ADAPTERS) (hi : i ≤ n)
    (hs : ∀ j, i ≤ j → j < MAX_ADAPTERS → (s.slot j ≠ none ↔ j < n)) : s.scanFrom i = n := by
  fun_induction scanFrom s i with
  | case1 i h ih =>
      have hlt : i < n := (hs i (Nat.le_refl i) h.1).mp h.2
      exact ih hlt fun j hj => hs j (by omega)
  | case2 i h =>
      refine Nat.le_antisymm hi (Nat.le_of_not_lt fun hlt => h ⟨by omega, ?_⟩)
      exact (hs i (Nat.le_refl i) (by omega)).mpr hlt

/-- What the loop does once it has found the adapter in slot `i`. -/
theorem removeFrom_found (h : t.Holds l) {i : Nat} {a : AdapterId} (hi : l[i]? = some a) :
    (t.removeFrom evtMask mExcludedMask (some a) i).1.Holds (shiftUp l i) ∧
      (t.removeFrom evtMask mExcludedMask (some a) i).2 =
        [if l.length = 1 then .close
          else .openMsg ((t.removeFrom evtMask mExcludedMask (some a) i).1.getEvtMask evtMask
            mExcludedMask)] := by
  have hlen := (List.getElem?_eq_some_iff.mp hi).1
  have hle := h.le
  have hlt : i < MAX_ADAPTERS := by omega
  have hslot : t.slot i = some a := by rw [h.slot, hi]
  have hhole (j : Nat) : (t.put i none).slot j = if j = i then none else l[j]? := by
    rw [slot_put t hlt, h.slot]
  have hscan : (t.put i none).scanFrom (i + 1) = l.length := by
    refine scanFrom_eq hle hlen fun j hj _ => ?_
    rw [hhole, if_neg (by omega), ne_eq, List.getElem?_eq_none_iff, Nat.not_le]
  -- The last adapter goes to slot `i`, unless it is the one that goes.
  have hshift (j : Nat) : (((t.put i none).put i ((t.put i none).slot (l.length - 1))).put
      (l.length - 1) none).slot j = (shiftUp l i)[j]? := by
    rw [slot_put _ (by omega), slot_put _ hlt, hhole, hhole, getElem?_shiftUp l hlen]
    by_cases hend : j = l.length - 1
    · rw [if_pos hend, if_pos hend]
    · rw [if_neg hend, if_neg hend]
      by_cases hij : j = i
      · rw [if_pos hij, if_pos hij, if_neg (by omega)]
      · rw [if_neg hij, if_neg hij, if_neg hij]
  have hholds : (((t.put i none).put i ((t.put i none).slot (l.length - 1))).put
      (l.length - 1) none).Holds (shiftUp l i) := by
    refine ⟨?_, hshift⟩
    -- The slot after the old list is free, so the new list ends before it.
    refine Nat.le_trans (Nat.le_of_not_lt fun hno => ?_) hle
    have hnone := hshift l.length
    rw [getElem?_shiftUp l hlen, if_neg (by omega), if_neg (by omega),
      List.getElem?_eq_none (Nat.le_refl _)] at hnone
    have hsome := List.getElem?_eq_some_iff.mpr ⟨hno, rfl⟩
    rw [getElem?_shiftUp l hlen, if_neg (by omega), if_neg (by omega),
      List.getElem?_eq_none (Nat.le_refl _)] at hsome
    cases hsome
  -- Behind the last adapter the loop ends.
  have hend (u : Adapters) (hu : u.slot (l.length - 1 + 1) = none) :
      u.removeFrom evtMask mExcludedMask (some a) (l.length - 1 + 1) = (u, []) := by
    rw [removeFrom, if_neg]
    rintro ⟨_, hne⟩
    exact hne hu
  have hstop := hend _ (by
    rw [hholds.slot, getElem?_shiftUp l hlen, if_neg (by omega), if_neg (by omega),
      List.getElem?_eq_none (by omega)])
  rw [removeFrom, if_pos ⟨hlt, by rw [hslot]; exact Option.some_ne_none a⟩, if_pos hslot]
  simp only [hscan, hstop]
  refine ⟨hholds, ?_⟩
  by_cases hone : l.length = 1
  · rw [if_pos hone, if_pos (by omega)]
  · rw [if_neg hone, if_neg (by omega)]

theorem removeFrom_spec (h : t.Holds l) (a : AdapterId) {i : Nat} (hi : i ≤ l.length)
    (hno : a ∉ l.take i) :
    (t.removeFrom evtMask mExcludedMask (some a) i).1.Holds (removed l a) ∧
      (t.removeFrom evtMask mExcludedMask (some a) i).2 =
        if a ∉ l then [] else [if l.length = 1 then .close
          else .openMsg ((t.removeFrom evtMask mExcludedMask (some a) i).1.getEvtMask evtMask
            mExcludedMask)] := by
  -- By induction on how many adapters are left to look at.
  induction hn : l.length - i generalizing i with
  | zero =>
      have hend : i = l.length := by omega
      rw [hend, List.take_length] at hno
      -- The slot after the list is free or past the end.
      have hstop : t.removeFrom evtMask mExcludedMask (some a) i = (t, []) := by
        rw [removeFrom, if_neg]
        rintro ⟨_, hne⟩
        rw [h.slot, List.getElem?_eq_none (by omega)] at hne
        exact hne rfl
      rw [hstop, removed, if_neg hno, if_pos hno]
      exact ⟨h, rfl⟩
  | succ n ih =>
      have hlt : i < l.length := by omega
      have hget : l[i]? = some l[i] := List.getElem?_eq_getElem hlt
      by_cases heq : l[i] = a
      · rw [heq] at hget
        have hmem : a ∈ l := List.mem_of_getElem? hget
        -- Nobody before it is the same, so it is the first.
        have hidx : l.idxOf a = i := by
          have hsplit := List.take_append_drop i l
          rw [List.drop_eq_getElem_cons hlt, heq] at hsplit
          rw [← hsplit, List.idxOf_append_of_notMem hno, List.idxOf_cons_self, List.length_take]
          omega
        rw [removed, if_pos hmem, hidx, if_neg (not_not_intro hmem)]
        exact removeFrom_found evtMask mExcludedMask h hget
      · have hskip : t.removeFrom evtMask mExcludedMask (some a) i =
            t.removeFrom evtMask mExcludedMask (some a) (i + 1) := by
          have hle := h.le
          have hslot := h.slot i
          rw [hget] at hslot
          rw [removeFrom, if_pos ⟨by omega, by rw [hslot]; exact Option.some_ne_none _⟩, if_neg]
          rw [hslot]
          exact fun hsome => heq (Option.some.inj hsome)
        rw [hskip]
        refine ih hlt ?_ (by omega)
        rw [List.take_add_one, hget, List.mem_append, not_or]
        exact ⟨hno, fun hmem => heq (List.mem_singleton.mp hmem).symm⟩

/-- NULL is not found: the loop ends there. -/
theorem removeFrom_null (i : Nat) : t.removeFrom evtMask mExcludedMask none i = (t, []) := by
  induction hn : MAX_ADAPTERS - i generalizing i with
  | zero => rw [removeFrom, if_neg (by omega)]
  | succ n ih =>
      rw [removeFrom]
      split
      case isTrue h => rw [if_neg h.2, ih (i + 1) (by omega)]
      case isFalse h => rfl

end

/-! ## Runs -/

/-- One adapter goes, and the others stay. -/
theorem shiftUp_perm {l : List AdapterId} {a : AdapterId} (h : a ∈ l) :
    (shiftUp l (l.idxOf a)).Perm (l.erase a) := by
  rcases List.eq_append_cons_of_mem h with ⟨xs, ys, rfl, hno⟩
  rw [List.idxOf_append_of_notMem hno, List.idxOf_cons_self, Nat.add_zero,
    List.erase_append_right _ hno, List.erase_cons_head]
  rcases List.eq_nil_or_concat ys with rfl | ⟨zs, z, rfl⟩
  · simp [shiftUp]
  · rw [List.concat_eq_append]
    -- The last of those behind it is in its place now.
    have hlast : (xs ++ a :: (zs ++ [z])).getLast? = some z := by
      rw [← List.cons_append, ← List.append_assoc, List.getLast?_concat]
    rw [shiftUp, hlast]
    simp only [List.set_append_right _ _ (Nat.le_refl _), Nat.sub_self, List.set_cons_zero]
    rw [← List.cons_append, ← List.append_assoc, List.dropLast_concat]
    exact List.Perm.append_left xs (List.perm_append_singleton z zs).symm

theorem mem_removed {l : List AdapterId} (hl : l.Nodup) (a b : AdapterId) :
    b ∈ removed l a ↔ b ≠ a ∧ b ∈ l := by
  unfold removed
  split
  case isTrue h => rw [(shiftUp_perm h).mem_iff, hl.mem_erase_iff]
  case isFalse h => exact ⟨fun hb => ⟨fun heq => h (heq ▸ hb), hb⟩, fun hb => hb.2⟩

theorem nodup_removed {l : List AdapterId} (hl : l.Nodup) (a : AdapterId) :
    (removed l a).Nodup := by
  unfold removed
  split
  case isTrue h => exact (shiftUp_perm h).nodup_iff.mpr (hl.erase a)
  case isFalse => exact hl

theorem nodup_added {l : List AdapterId} (hl : l.Nodup) (a : AdapterId) : (added l a).Nodup := by
  unfold added
  split
  case isTrue => exact hl
  case isFalse h =>
      rw [not_or] at h
      exact List.nodup_append.mpr ⟨hl, List.nodup_singleton a, fun x hx y hy heq =>
        h.1 (List.mem_singleton.mp hy ▸ heq ▸ hx)⟩

end Adapters

/-- The calls of the adapters. -/
inductive TableCall
  | addAdapter (adapter : AdapterPtr)
  | removeAdapter (adapter : AdapterPtr)
  deriving DecidableEq, Repr

/-- The adapters that a call leaves of a list. -/
def TableCall.onList (l : List AdapterId) : TableCall → List AdapterId
  | .addAdapter (some a) => Adapters.added l a
  | .removeAdapter (some a) => Adapters.removed l a
  | _ => l

/-- Who is registered after a call. -/
def TableCall.onSet (r : Finset AdapterId) : TableCall → Finset AdapterId
  | .addAdapter (some a) => insert a r
  | .removeAdapter (some a) => r.erase a
  | _ => r

/-- Who was added and not removed since. -/
def registered (cs : List TableCall) : Finset AdapterId := cs.foldl TableCall.onSet ∅

/-- There are never more registered than there are slots. -/
def Fits (cs : List TableCall) : Prop := ∀ p, p <+: cs → (registered p).card ≤ MAX_ADAPTERS

namespace Adapters

variable (evtMask : AdapterId → EventMask) (mExcludedMask : EventMask)

def call (t : Adapters) : TableCall → Adapters
  | .addAdapter adapter => (t.addAdapter evtMask adapter).1
  | .removeAdapter adapter => (t.removeAdapter evtMask mExcludedMask adapter).1

def run (cs : List TableCall) : Adapters := cs.foldl (call evtMask mExcludedMask) init

/-- The slots up to some are different pointers, and the others are NULL. All
    loops over the table stop at the first NULL, so that behind a hole nobody
    would be called. -/
def HoleFree (t : Adapters) : Prop :=
  ∃ n ≤ MAX_ADAPTERS, (∀ i, i < n → t.slot i ≠ none) ∧
    (∀ i, n ≤ i → i < MAX_ADAPTERS → t.slot i = none) ∧
    ∀ i j, i < n → j < n → t.slot i = t.slot j → i = j

/-- The adapter is in a slot. -/
def Has (t : Adapters) (a : AdapterId) : Prop := ∃ i, i < MAX_ADAPTERS ∧ t.slot i = some a

theorem call_holds {t : Adapters} {l : List AdapterId} (h : t.Holds l) (hl : l.Nodup)
    (c : TableCall) :
    (t.call evtMask mExcludedMask c).Holds (c.onList l) ∧ (c.onList l).Nodup := by
  cases c with
  | addAdapter adapter =>
      cases adapter with
      | none =>
          rw [call, addAdapter, addFrom_null]
          exact ⟨h, hl⟩
      | some a =>
          refine ⟨(addFrom_spec evtMask h a (Nat.zero_le _) ?_).1, nodup_added hl a⟩
          rw [List.take_zero]
          exact List.not_mem_nil
  | removeAdapter adapter =>
      cases adapter with
      | none =>
          rw [call, removeAdapter, removeFrom_null]
          exact ⟨h, hl⟩
      | some a =>
          refine ⟨(removeFrom_spec evtMask mExcludedMask h a (Nat.zero_le _) ?_).1,
            nodup_removed hl a⟩
          rw [List.take_zero]
          exact List.not_mem_nil

/-- The adapters of a run. -/
def adaptersOf (cs : List TableCall) : List AdapterId := cs.foldl TableCall.onList []

/-- After every call the slots are a list of different adapters. -/
theorem run_holds (cs : List TableCall) :
    (run evtMask mExcludedMask cs).Holds (adaptersOf cs) ∧ (adaptersOf cs).Nodup := by
  induction cs using List.reverseRecOn with
  | nil => exact ⟨init_holds, List.nodup_nil⟩
  | append_singleton cs c ih =>
      unfold run adaptersOf at ih ⊢
      rw [List.foldl_concat, List.foldl_concat]
      exact call_holds evtMask mExcludedMask ih.1 ih.2 c

theorem has_iff {t : Adapters} {l : List AdapterId} (h : t.Holds l) (a : AdapterId) :
    t.Has a ↔ a ∈ l := by
  rw [List.mem_iff_getElem?]
  refine exists_congr fun i => ?_
  rw [h.slot]
  refine and_iff_right_of_imp fun hi => ?_
  have hle := h.le
  have hlt := (List.getElem?_eq_some_iff.mp hi).1
  omega

theorem holeFree_of_holds {t : Adapters} {l : List AdapterId} (h : t.Holds l) (hl : l.Nodup) :
    t.HoleFree := by
  refine ⟨l.length, h.le, fun i hi => ?_, fun i hi _ => ?_, fun i j hi hj heq => ?_⟩
  · rw [h.slot, List.getElem?_eq_getElem hi]
    exact Option.some_ne_none _
  · rw [h.slot, List.getElem?_eq_none hi]
  · rw [h.slot, h.slot] at heq
    exact (List.getElem?_inj hi hl).mp heq

/-- While there is room for all, the table has those who are registered. -/
theorem mem_adaptersOf_iff {cs : List TableCall} (hfits : Fits cs) (a : AdapterId) :
    a ∈ adaptersOf cs ↔ a ∈ registered cs := by
  induction cs using List.reverseRecOn generalizing a with
  | nil => simp [adaptersOf, registered]
  | append_singleton cs c ih =>
      have hpre : Fits cs := fun p hp => hfits p (hp.trans (List.prefix_append cs [c]))
      have hnodup := (run_holds (fun _ => 0#32) 0#32 cs).2
      have hroom := hfits (cs ++ [c]) (List.prefix_refl _)
      unfold adaptersOf registered at hroom ⊢
      rw [List.foldl_concat] at hroom ⊢
      rw [List.foldl_concat]
      change (TableCall.onSet (registered cs) c).card ≤ _ at hroom
      show a ∈ TableCall.onList (adaptersOf cs) c ↔ a ∈ TableCall.onSet (registered cs) c
      cases c with
      | addAdapter adapter =>
          cases adapter with
          | none => exact ih hpre a
          | some b =>
              have hset : (adaptersOf cs).toFinset = registered cs := by
                ext x
                rw [List.mem_toFinset, ih hpre]
              have hlen : (adaptersOf cs).length = (registered cs).card := by
                rw [← hset, List.toFinset_card_of_nodup hnodup]
              simp only [TableCall.onList, TableCall.onSet, added] at hroom ⊢
              split
              case isTrue h =>
                  -- The table is not full where somebody new is registered.
                  have hold : b ∈ adaptersOf cs := by
                    by_cases hmem : b ∈ registered cs
                    · exact (ih hpre b).mpr hmem
                    · rw [Finset.card_insert_of_notMem hmem] at hroom
                      exact h.resolve_right (by omega)
                  rw [Finset.insert_eq_of_mem ((ih hpre b).mp hold), ih hpre]
              case isFalse =>
                  rw [List.mem_append, List.mem_singleton, Finset.mem_insert, ih hpre, or_comm]
      | removeAdapter adapter =>
          cases adapter with
          | none => exact ih hpre a
          | some b =>
              simp only [TableCall.onList, TableCall.onSet]
              rw [mem_removed hnodup, Finset.mem_erase, ih hpre]

/-- Removing an adapter takes it, and nobody else, out of the table. -/
def RemovesOnly (t : Adapters) (a : AdapterId) : Prop :=
  ¬ (t.removeAdapter evtMask mExcludedMask (some a)).1.Has a ∧
    ∀ b, b ≠ a → ((t.removeAdapter evtMask mExcludedMask (some a)).1.Has b ↔ t.Has b)

/-- After any calls the slots have no hole and nobody twice, and an adapter can
    be removed from them. While there is room for all, they are who is
    registered, and `TO_ALL_ADAPTERS` calls each of them once. An adapter that
    finds the table full is not told, and is not in it: so the last part is
    about runs in which that does not happen. -/
theorem adapterTable (cs : List TableCall) :
    (run evtMask mExcludedMask cs).HoleFree ∧
      (∀ a, (run evtMask mExcludedMask cs).RemovesOnly evtMask mExcludedMask a) ∧
      (Fits cs → ∀ a, ((run evtMask mExcludedMask cs).Has a ↔ a ∈ registered cs) ∧
        (run evtMask mExcludedMask cs).reached.count a = if a ∈ registered cs then 1 else 0) := by
  rcases run_holds evtMask mExcludedMask cs with ⟨hholds, hnodup⟩
  refine ⟨holeFree_of_holds hholds hnodup, fun a => ?_, fun hfits a => ?_⟩
  · have hnext := (call_holds evtMask mExcludedMask hholds hnodup (.removeAdapter (some a))).1
    refine ⟨fun hhas => ?_, fun b hb => ?_⟩
    · exact ((mem_removed hnodup a a).mp ((has_iff hnext a).mp hhas)).1 rfl
    · refine (has_iff hnext b).trans ?_
      rw [has_iff hholds]
      exact (mem_removed hnodup a b).trans (and_iff_right hb)
  · rw [has_iff hholds, reached_eq hholds, mem_adaptersOf_iff hfits]
    refine ⟨Iff.rfl, ?_⟩
    rw [hnodup.count]
    exact if_congr (mem_adaptersOf_iff hfits a) rfl rfl

/-- Three adapters come and the first one goes. The last one takes its slot. -/
def oneRemoved : List TableCall :=
  [.addAdapter (some 7), .addAdapter (some 8), .addAdapter (some 9), .removeAdapter (some 7)]

theorem adapterTable_removed :
    ¬ (run (fun _ => 1#32) 0#32 oneRemoved).Has 7 ∧ (run (fun _ => 1#32) 0#32 oneRemoved).Has 9 ∧
      (run (fun _ => 1#32) 0#32 oneRemoved).reached.count 9 = 1 := by
  have hfits : ∀ p ∈ oneRemoved.inits, (registered p).card ≤ MAX_ADAPTERS := by decide
  have htable := (adapterTable (fun _ => 1#32) 0#32 oneRemoved).2.2
    fun p hp => hfits p ((List.mem_inits p oneRemoved).mpr hp)
  refine ⟨fun hhas => ?_, (htable 9).1.mpr (by decide), ?_⟩
  · exact absurd ((htable 7).1.mp hhas) (by decide)
  · rw [(htable 9).2, if_pos (by decide)]

/-! ## The client that has the table -/

variable {t : Adapters}

theorem getEvtMask_eq {l : List AdapterId} (h : t.Holds l) :
    t.getEvtMask evtMask mExcludedMask = Mask.union (l.map evtMask) &&& ~~~mExcludedMask := by
  rw [getEvtMask, toAll_eq h, Mask.union, List.foldl_map]

/-- What is left to do of a call once its slots are in order. -/
def pending (s : LocApiBase) : List TableEffect :=
  match s.call with
  | .idle => []
  | .adding adapter => [.openMsg (evtMask adapter)]
  | .shifting _ | .shifted =>
      if s.mLocAdapters = [] then [.close]
      else [.openMsg (Mask.union (s.mLocAdapters.map evtMask) &&& ~~~s.client.mExcludedMask)]

/-- `addAdapter` of the client is the one of its table. -/
theorem addAdapter_refines {s : LocApiBase} (h : t.Holds s.mLocAdapters) (hidle : s.call = .idle)
    (a : AdapterId) :
    (t.addAdapter evtMask (some a)).1.Holds (s.addAdapter a).mLocAdapters ∧
      (t.addAdapter evtMask (some a)).2 = pending evtMask (s.addAdapter a) := by
  have hspec := addFrom_spec evtMask h a (Nat.zero_le _) (by
    rw [List.take_zero]
    exact List.not_mem_nil)
  unfold addAdapter LocApiBase.addAdapter
  unfold added at hspec
  split at hspec
  case isTrue hold =>
      rw [if_pos hold]
      refine ⟨hspec.1, ?_⟩
      rw [hspec.2, if_pos rfl, pending, hidle]
  case isFalse hnew =>
      rw [if_neg hnew]
      refine ⟨hspec.1, ?_⟩
      rw [hspec.2, if_neg (by simp), pending]

/-- So is `removeAdapter`. -/
theorem removeAdapter_refines {s : LocApiBase} (h : t.Holds s.mLocAdapters)
    (hidle : s.call = .idle) (a : AdapterId) :
    (t.removeAdapter evtMask s.client.mExcludedMask (some a)).1.Holds
        (s.removeAdapter a).mLocAdapters ∧
      (t.removeAdapter evtMask s.client.mExcludedMask (some a)).2 =
        pending evtMask (s.removeAdapter a) := by
  have hspec := removeFrom_spec evtMask s.client.mExcludedMask h a (Nat.zero_le _) (by
    rw [List.take_zero]
    exact List.not_mem_nil)
  unfold removeAdapter LocApiBase.removeAdapter
  by_cases hmem : a ∈ s.mLocAdapters
  · rw [removed, if_pos hmem, if_neg (not_not_intro hmem)] at hspec
    rw [if_pos hmem]
    refine ⟨hspec.1, ?_⟩
    have hlen := (shiftUp_perm hmem).length_eq
    rw [List.length_erase_of_mem hmem] at hlen
    have hpos := List.length_pos_of_mem hmem
    -- The table is empty now iff the adapter was the only one.
    have hnil : shiftUp s.mLocAdapters (s.mLocAdapters.idxOf a) = [] ↔
        s.mLocAdapters.length = 1 := by
      rw [← List.length_eq_zero_iff, hlen]
      omega
    rw [hspec.2, pending]
    simp only [hnil]
    split
    case isTrue => rfl
    case isFalse => rw [getEvtMask_eq evtMask _ hspec.1]
  · rw [removed, if_neg hmem, if_pos hmem] at hspec
    rw [if_neg hmem]
    refine ⟨hspec.1, ?_⟩
    rw [hspec.2, pending, hidle]

end Adapters

end LocApi

end Victara
