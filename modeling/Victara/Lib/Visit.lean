import Mathlib.Data.List.Basic

/-!
# Visiting a List with a Stateful Predicate

A search whose predicate acts on the way. `visit` walks a list from its head,
hands every element to a function that may change a state and that says
whether to stop, and drops the element it stopped at. `drain` repeats the
visit until one of them stops at nothing, which is how a search that removes
one element a time is turned into one that removes them all.

Both are given with no assumption on the predicate. The theorems are for the
predicates that occur: the ones that act only on the elements they accept
(`ActsOn`), for which the loop is a fold over the accepted elements and a
filter of the rest, whatever number of times the walk restarts from the head.

## Main definitions

* `visit`: One walk, up to and without the first accepted element.
* `drain`: Walks until nothing is accepted, within a number of walks.
* `visitM`: A walk with a function that may fail.
* `Drains`: The walks end, and what they leave.
* `handed`: The elements that a walk hands to the function.
* `ActsOn`: The predicate accepts by a pure test, and acts only then.

## Theorems

* `visitM_map`: A function that does not fail walks as one that cannot.
* `visit_found`, `visit_none`: The list that a walk leaves.
* `visit_keeps`, `drain_keeps`: An invariant of the function.
* `drain_sublist`: The loop only takes elements out.
* `visit_stop`, `visit_pass`: One element is visited.
* `visit_of_actsOn`: One walk is a find and an erase.
* `visit_stops_at`: A walk over somebody who is accepted stops at the first such
  one.
* `filter_eq_cons_of_find?`: The first accepted element and the rest account for
  the whole filter.
* `filter_not_eraseP`: Erasing an accepted element keeps what is not accepted.
* `drain_of_actsOn`: The loop is a fold over the accepted and a filter.
* `drains_of_actsOn`: It ends by itself.
* `handed_of_never`: It is handed every element once.
* `visit_of_never`: A predicate that never stops acts on the whole list.
-/

namespace Visit

variable {σ α : Type*}

/-- Walk the list with a state. The function answers whether to stop; the
    result is the state, the element stopped at, and the list without it. -/
def visit (f : σ → α → σ × Bool) (s : σ) : List α → σ × Option α × List α
  | [] => (s, none, [])
  | a :: l => match f s a with
    | (t, true) => (t, some a, l)
    | (t, false) =>
      let r := visit f t l
      (r.1, r.2.1, a :: r.2.2)

/-- Visit until nothing is accepted, at most `n` times. -/
def drain (f : σ → α → σ × Bool) : Nat → σ → List α → σ × List α
  | 0, s, l => (s, l)
  | n + 1, s, l => match visit f s l with
    | (t, some _, l') => drain f n t l'
    | (t, none, l') => (t, l')

/-- The same walk with a function that may fail. -/
def visitM (f : σ → α → Option (σ × Bool)) (s : σ) : List α → Option (σ × Option α × List α)
  | [] => some (s, none, [])
  | a :: l => (f s a).bind fun r =>
    if r.2 then some (r.1, some a, l)
    else (visitM f r.1 l).map fun r' => (r'.1, r'.2.1, a :: r'.2.2)

/-- Visiting until nothing is accepted ends in this state and with this list. -/
inductive Drains (f : σ → α → σ × Bool) : σ → List α → σ → List α → Prop
  | done {s t : σ} {l l' : List α} (h : visit f s l = (t, none, l')) : Drains f s l t l'
  | more {s t u : σ} {l l' l'' : List α} {a : α} (h : visit f s l = (t, some a, l'))
      (hrest : Drains f t l' u l'') : Drains f s l u l''

/-- The elements that one walk hands to the function. -/
def handed (f : σ → α → σ × Bool) (s : σ) : List α → List α
  | [] => []
  | a :: l => a :: if (f s a).2 then [] else handed f (f s a).1 l

/-- A function that does not fail walks as one that cannot. The elements may be
    known by a key. -/
theorem visitM_map {β : Type*} {f : σ → α → Option (σ × Bool)} {g : σ → β → σ × Bool} {k : β → α}
    {l : List β} (h : ∀ b ∈ l, ∀ s, f s (k b) = some (g s b)) (s : σ) :
    visitM f s (l.map k) =
      some ((visit g s l).1, (visit g s l).2.1.map k, (visit g s l).2.2.map k) := by
  induction l generalizing s with
  | nil => rfl
  | cons b l ih =>
      rw [List.map_cons, visitM, h b List.mem_cons_self s, Option.bind_some]
      have hrest := ih fun b' hb' => h b' (List.mem_cons_of_mem b hb')
      rcases hg : g s b with ⟨t, found⟩
      cases found with
      | true => simp only [visit, hg, if_true, Option.map_some]
      | false =>
          simp only [visit, hg, hrest t, Bool.false_eq_true, if_false, Option.map_some,
            List.map_cons]

/-- The element that a walk stops at is taken out of the list. -/
theorem visit_found {f : σ → α → σ × Bool} {s t : σ} {l l' : List α} {a : α}
    (h : visit f s l = (t, some a, l')) : ∃ pre post, l = pre ++ a :: post ∧ l' = pre ++ post := by
  induction l generalizing s t l' with
  | nil => cases h
  | cons b l ih =>
      rcases hf : f s b with ⟨u, found⟩
      cases found with
      | true =>
          simp only [visit, hf, Prod.mk.injEq, Option.some.injEq] at h
          rcases h with ⟨-, rfl, rfl⟩
          exact ⟨[], l, rfl, rfl⟩
      | false =>
          simp only [visit, hf, Prod.mk.injEq] at h
          rcases h with ⟨rfl, ha, rfl⟩
          have hrest : visit f u l = ((visit f u l).1, some a, (visit f u l).2.2) :=
            Prod.ext rfl (Prod.ext ha rfl)
          rcases ih hrest with ⟨pre, post, hl, hl'⟩
          refine ⟨b :: pre, post, ?_, ?_⟩
          · rw [hl]
            rfl
          · rw [hl']
            rfl

/-- A walk that stops nowhere leaves the list alone. -/
theorem visit_none {f : σ → α → σ × Bool} {s t : σ} {l l' : List α}
    (h : visit f s l = (t, none, l')) : l' = l := by
  induction l generalizing s l' with
  | nil =>
      cases h
      rfl
  | cons b l ih =>
      rcases hf : f s b with ⟨u, found⟩
      cases found with
      | true => simp only [visit, hf, Prod.mk.injEq, reduceCtorEq, false_and, and_false] at h
      | false =>
          simp only [visit, hf, Prod.mk.injEq] at h
          rcases h with ⟨rfl, hnone, rfl⟩
          exact congrArg (b :: ·) (ih (s := u) (Prod.ext rfl (Prod.ext hnone rfl)))

/-- What the function keeps, the walk keeps. -/
theorem visit_keeps {I : σ → Prop} {f : σ → α → σ × Bool} (hf : ∀ s a, I s → I (f s a).1) (s : σ)
    (hs : I s) (l : List α) : I (visit f s l).1 := by
  induction l generalizing s with
  | nil => exact hs
  | cons a l ih =>
      have ha := hf s a hs
      rcases hstep : f s a with ⟨t, b⟩
      rw [hstep] at ha
      cases b with
      | true => simpa only [visit, hstep] using ha
      | false => simpa only [visit, hstep] using ih t ha

/-- So does the loop around it. -/
theorem drain_keeps {I : σ → Prop} {f : σ → α → σ × Bool} (hf : ∀ s a, I s → I (f s a).1) (n : Nat)
    (s : σ) (hs : I s) (l : List α) : I (drain f n s l).1 := by
  induction n generalizing s l with
  | zero => exact hs
  | succ n ih =>
      have hwalk := visit_keeps hf s hs l
      rcases hvisit : visit f s l with ⟨t, found, l'⟩
      rw [hvisit] at hwalk
      cases found with
      | some a => simpa only [drain, hvisit] using ih t hwalk l'
      | none => simpa only [drain, hvisit] using hwalk

/-- The loop only takes elements out of the list. -/
theorem drain_sublist (f : σ → α → σ × Bool) (n : Nat) (s : σ) (l : List α) :
    (drain f n s l).2.Sublist l := by
  induction n generalizing s l with
  | zero => exact List.Sublist.refl l
  | succ n ih =>
      rcases hvisit : visit f s l with ⟨t, found, l'⟩
      cases found with
      | some a =>
          rcases visit_found hvisit with ⟨pre, post, rfl, rfl⟩
          simp only [drain, hvisit]
          exact (ih t (pre ++ post)).trans
            ((List.Sublist.refl pre).append (List.sublist_cons_self a post))
      | none =>
          simp only [drain, hvisit, visit_none hvisit]
          exact List.Sublist.refl l

/-- Where `I` holds of the state, the predicate accepts by the test `p`, acts
    by `g` when it accepts, and leaves the state alone when it does not; its
    actions keep `I`. -/
structure ActsOn (I : σ → Prop) (f : σ → α → σ × Bool) (p : α → Bool) (g : σ → α → σ) :
    Prop where
  eq : ∀ s a, I s → f s a = if p a then (g s a, true) else (s, false)
  keeps : ∀ s a, I s → p a = true → I (g s a)

/-- The first element is accepted, and nothing else is visited. -/
theorem visit_stop {f : σ → α → σ × Bool} {s : σ} {a : α} (h : (f s a).2 = true) (l : List α) :
    visit f s (a :: l) = ((f s a).1, some a, l) := by
  rcases hf : f s a with ⟨t, b⟩
  rw [hf] at h
  rw [visit, hf, show b = true from h]

theorem visit_pass {f : σ → α → σ × Bool} {s : σ} {a : α} (h : (f s a).2 = false) (l : List α) :
    visit f s (a :: l) = ((visit f (f s a).1 l).1, (visit f (f s a).1 l).2.1,
      a :: (visit f (f s a).1 l).2.2) := by
  rcases hf : f s a with ⟨t, b⟩
  rw [hf] at h
  rw [visit, hf, show b = false from h]

theorem visit_of_actsOn {I : σ → Prop} {f : σ → α → σ × Bool} {p : α → Bool} {g : σ → α → σ}
    (hf : ActsOn I f p g) (s : σ) (hs : I s) (l : List α) :
    visit f s l = ((l.find? p).elim s (g s), l.find? p, l.eraseP p) := by
  induction l with
  | nil => rfl
  | cons a l ih =>
      rw [visit, hf.eq s a hs]
      by_cases ha : p a
      · simp only [ha, if_true, List.find?_cons_of_pos, Option.elim_some,
          List.eraseP_cons_of_pos]
      · simp only [ha, if_false, ih, Bool.false_eq_true, not_false_eq_true,
          List.find?_cons_of_neg, List.eraseP_cons_of_neg]

/-- A walk over somebody who is accepted stops at the first such one. -/
theorem visit_stops_at {I : σ → Prop} {f : σ → α → σ × Bool} {p : α → Bool} {g : σ → α → σ}
    (hf : ActsOn I f p g) {s : σ} (hs : I s) {l : List α} {b : α} (hb : b ∈ l) (hp : p b = true) :
    ∃ pre a post, l = pre ++ a :: post ∧ p a = true ∧ (∀ x ∈ pre, ¬ p x = true) ∧
      visit f s l = (g s a, some a, pre ++ post) := by
  have hvisit := visit_of_actsOn hf s hs l
  rcases hfind : l.find? p with _ | a
  · exact absurd hp (List.find?_eq_none.mp hfind b hb)
  rcases List.find?_eq_some_iff_append.mp hfind with ⟨ha, pre, post, rfl, hpre⟩
  have hpass : ∀ x ∈ pre, ¬ p x = true := by
    intro x hx
    simpa only [Bool.not_eq_true', Bool.not_eq_true] using hpre x hx
  rw [hfind, Option.elim_some, List.eraseP_append_right _ hpass, List.eraseP_cons_of_pos ha]
    at hvisit
  exact ⟨pre, a, post, rfl, ha, hpass, hvisit⟩

/-- The first accepted element and the rest account for the whole filter. -/
theorem filter_eq_cons_of_find? {p : α → Bool} {l : List α} {a : α}
    (h : l.find? p = some a) : l.filter p = a :: (l.eraseP p).filter p := by
  induction l with
  | nil => simp only [List.find?_nil, reduceCtorEq] at h
  | cons b l ih =>
      by_cases hb : p b
      · rw [List.find?_cons_of_pos hb, Option.some.injEq] at h
        rw [List.filter_cons_of_pos hb, List.eraseP_cons_of_pos hb, h]
      · rw [List.find?_cons_of_neg hb] at h
        rw [List.filter_cons_of_neg hb, List.eraseP_cons_of_neg hb,
          List.filter_cons_of_neg hb, ih h]

/-- Erasing an accepted element keeps what is not accepted. -/
theorem filter_not_eraseP (p : α → Bool) (l : List α) :
    (l.eraseP p).filter (fun a => !p a) = l.filter (fun a => !p a) := by
  induction l with
  | nil => rfl
  | cons b l ih =>
      by_cases hb : p b
      · simp only [List.eraseP_cons_of_pos hb, List.filter_cons, hb, Bool.not_true,
          Bool.false_eq_true, if_false]
      · simp only [List.eraseP_cons_of_neg hb, List.filter_cons, ih]

/-- The loop as a whole: with one walk more than there are elements it acts
    on exactly the accepted ones, in list order, and keeps the others. Each
    walk that stops erases one element, so the walks suffice. -/
theorem drain_of_actsOn {I : σ → Prop} {f : σ → α → σ × Bool} {p : α → Bool} {g : σ → α → σ}
    (hf : ActsOn I f p g) (n : Nat) (s : σ) (hs : I s) (l : List α) (hn : l.length < n) :
    drain f n s l = ((l.filter p).foldl g s, l.filter (fun a => !p a)) := by
  induction n generalizing s l with
  | zero => omega
  | succ n ih =>
      rw [drain, visit_of_actsOn hf s hs]
      cases hfind : l.find? p with
      | none =>
          have hall : ∀ a ∈ l, ¬ p a = true := List.find?_eq_none.mp hfind
          have hempty : l.filter p = [] := List.filter_eq_nil_iff.mpr hall
          have hkeep : l.filter (fun a => !p a) = l := by
            rw [List.filter_eq_self]
            intro a ha
            simpa only [Bool.not_eq_true', Bool.not_eq_true] using hall a ha
          simp only [Option.elim_none, hempty, List.foldl_nil, hkeep,
            List.eraseP_of_forall_not hall]
      | some a =>
          have hmem : a ∈ l := List.mem_of_find?_eq_some hfind
          have hpa : p a = true := List.find?_some hfind
          have hlen : (l.eraseP p).length < n := by
            rw [List.length_eraseP_of_mem hmem hpa]
            have := List.length_pos_of_mem hmem
            omega
          simp only [Option.elim_some]
          rw [ih (g s a) (hf.keeps s a hs hpa) (l.eraseP p) hlen,
            filter_eq_cons_of_find? hfind, List.foldl_cons, filter_not_eraseP]

/-- A loop that acts on the accepted elements ends by itself. -/
theorem drains_of_actsOn {I : σ → Prop} {f : σ → α → σ × Bool} {p : α → Bool} {g : σ → α → σ}
    (hf : ActsOn I f p g) (s : σ) (hs : I s) (l : List α) :
    Drains f s l ((l.filter p).foldl g s) (l.filter fun a => !p a) := by
  -- By induction on how many are accepted; each walk erases the first of them.
  induction hn : (l.filter p).length generalizing s l with
  | zero =>
      have hempty : l.filter p = [] := List.length_eq_zero_iff.mp hn
      have hall : ∀ a ∈ l, ¬ p a = true := List.filter_eq_nil_iff.mp hempty
      have hfind : l.find? p = none := List.find?_eq_none.mpr hall
      have hkeep : l.filter (fun a => !p a) = l := by
        rw [List.filter_eq_self]
        intro a ha
        simpa only [Bool.not_eq_true', Bool.not_eq_true] using hall a ha
      refine .done ?_
      rw [visit_of_actsOn hf s hs, hfind, hempty, hkeep, List.eraseP_of_forall_not hall]
      rfl
  | succ n ih =>
      cases hfind : l.find? p with
      | none =>
          rw [List.filter_eq_nil_iff.mpr (List.find?_eq_none.mp hfind)] at hn
          cases hn
      | some a =>
          have hpa : p a = true := List.find?_some hfind
          have hfilter := filter_eq_cons_of_find? hfind
          rw [hfilter, List.length_cons, Nat.add_right_cancel_iff] at hn
          have hrest := ih (g s a) (hf.keeps s a hs hpa) (l.eraseP p) hn
          rw [filter_not_eraseP] at hrest
          rw [hfilter, List.foldl_cons]
          refine .more (a := a) ?_ hrest
          rw [visit_of_actsOn hf s hs, hfind, Option.elim_some]

/-- A predicate that never stops is handed every element once. -/
theorem handed_of_never {f : σ → α → σ × Bool} (hf : ∀ s a, (f s a).2 = false) (s : σ)
    (l : List α) : handed f s l = l := by
  induction l generalizing s with
  | nil => rfl
  | cons a l ih => rw [handed, hf, if_neg Bool.false_ne_true, ih]

/-- A predicate that never stops acts on every element it tests for, and
    finds nothing. -/
theorem visit_of_never {I : σ → Prop} {f : σ → α → σ × Bool} {p : α → Bool} {g : σ → α → σ}
    (hf : ∀ s a, I s → f s a = (if p a then g s a else s, false))
    (hI : ∀ s a, I s → p a = true → I (g s a)) (s : σ) (hs : I s) (l : List α) :
    visit f s l = ((l.filter p).foldl g s, none, l) := by
  induction l generalizing s with
  | nil => rfl
  | cons a l ih =>
      rw [visit, hf s a hs]
      simp only [List.filter_cons]
      by_cases ha : p a
      · simp only [ha, if_true, List.foldl_cons, ih (g s a) (hI s a hs ha)]
      · simp only [ha, if_false, Bool.false_eq_true, ih s hs]

end Visit
