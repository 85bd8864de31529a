import Mathlib.Data.List.Basic

/-!
# What Happened Since the Last of Two Events

A history is a list of events, the newest first. One kind of event turns
something on and another turns it off, and it is on when the last of the two
kinds was the first. `Avoids` says that a third kind of event does not occur
while it is on: a thing is not done again before it is asked for again.

A step of a system adds several events at once, so the lemmas are about
adding a block of them in which nothing is turned off.

## Main definitions

* `since`: The last event of the two kinds turned it on.
* `Avoids`: A kind of event does not occur while it is on.

## Theorems

* `since_append`: A block turns it on, or leaves it as it was.
* `avoids_append`: What is to be avoided in a block is avoided before it.
-/

namespace History

universe u

variable {ε : Type u}

/-- On since the last event of either kind. -/
def since (on off : ε → Bool) : List ε → Bool
  | [] => false
  | e :: es => on e || (!off e && since on off es)

/-- No bad event while it is on. -/
def Avoids (on off bad : ε → Bool) : List ε → Prop
  | [] => True
  | e :: es => (bad e = true → since on off es = false) ∧ Avoids on off bad es

variable {on off bad : ε → Bool}

instance decidableAvoids : (es : List ε) → Decidable (Avoids on off bad es)
  | [] => isTrue trivial
  | e :: es =>
      have : Decidable (Avoids on off bad es) := decidableAvoids es
      inferInstanceAs (Decidable ((bad e = true → since on off es = false) ∧
        Avoids on off bad es))

theorem since_append {es : List ε} (hoff : ∀ e ∈ es, off e = false) (es' : List ε) :
    since on off (es ++ es') = (es.any on || since on off es') := by
  induction es with
  | nil => rfl
  | cons e es ih =>
      have htail := ih (fun e' he' => hoff e' (List.mem_cons_of_mem e he'))
      simp only [List.cons_append, since, List.any_cons, hoff e List.mem_cons_self, Bool.not_false,
        Bool.true_and, htail, Bool.or_assoc]

theorem avoids_append {es es' : List ε} (hoff : ∀ e ∈ es, off e = false)
    (hbad : (∃ e ∈ es, bad e = true) → es.any on = false ∧ since on off es' = false)
    (h : Avoids on off bad es') : Avoids on off bad (es ++ es') := by
  induction es with
  | nil => exact h
  | cons e es ih =>
      have htail : ∀ e' ∈ es, off e' = false := fun e' he' => hoff e' (List.mem_cons_of_mem e he')
      refine ⟨fun he => ?_, ih htail (fun hex => ?_)⟩
      · have hnone := hbad ⟨e, List.mem_cons_self, he⟩
        simp only [List.any_cons, Bool.or_eq_false_iff] at hnone
        show since on off (es ++ es') = false
        rw [since_append htail, hnone.1.2, hnone.2, Bool.or_false]
      · rcases hex with ⟨e', he', hbad'⟩
        have hnone := hbad ⟨e', List.mem_cons_of_mem e he', hbad'⟩
        simp only [List.any_cons, Bool.or_eq_false_iff] at hnone
        exact ⟨hnone.1.2, hnone.2⟩

end History
