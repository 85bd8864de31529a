import Victara.Lib.Visit

/-!
# The Linked List

`linked_list.c` as its callers see it: the data pointers from the head of the
list on. `linked_list_add` puts a new element before the head, and
`linked_list_search` walks from the head with a predicate that the caller
supplies and that may act on what it visits.

## Main definitions

* `linkedListAdd`, `linkedListEmpty`, `linkedListFlush`: The plain operations.
* `linkedListSearch`: The search, with or without `rm_if_found`.

## Theorems

* `linkedListSearch_test`: With a predicate that only tests, a find.
* `linkedListSearch_never`: With one that never stops, a walk of the list.
-/

namespace Victara

variable {σ α : Type*}

def linkedListAdd (l : List α) (data_obj : α) : List α := data_obj :: l

def linkedListEmpty (l : List α) : Bool := l.isEmpty

def linkedListFlush (_ : List α) : List α := []

/-- The state the predicate leaves, what `data_p` receives, and the list. An
    empty list leaves `data_p` alone, which every caller has set to `NULL`. -/
def linkedListSearch (equal : σ → α → σ × Bool) (rm_if_found : Bool) (s : σ) (l : List α) :
    σ × Option α × List α :=
  let r := Visit.visit equal s l
  (r.1, r.2.1, if rm_if_found then r.2.2 else l)

theorem linkedListSearch_test (p : α → Bool) (l : List α) :
    (linkedListSearch (fun (_ : Unit) a => ((), p a)) false () l).2.1 = l.find? p := by
  have hf : Visit.ActsOn (fun _ => True) (fun (_ : Unit) a => ((), p a)) p (fun s _ => s) := by
    refine ⟨fun _ a _ => ?_, fun _ _ _ _ => trivial⟩
    by_cases hp : p a = true
    · simp only [hp, if_true]
    · simp only [hp, Bool.false_eq_true, if_false]
  simp only [linkedListSearch, Visit.visit_of_actsOn hf () trivial]

theorem linkedListSearch_never {I : σ → Prop} {f : σ → α → σ × Bool} {p : α → Bool}
    {g : σ → α → σ} (hf : ∀ s a, I s → f s a = (if p a then g s a else s, false))
    (hI : ∀ s a, I s → p a = true → I (g s a)) (s : σ) (hs : I s) (l : List α) :
    linkedListSearch f false s l = ((l.filter p).foldl g s, none, l) := by
  simp only [linkedListSearch, Visit.visit_of_never hf hI s hs, Bool.false_eq_true, if_false]

end Victara
