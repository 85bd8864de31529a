import Mathlib.Data.List.Induction
import Mathlib.Data.List.TakeDrop
import Mathlib.Tactic.Common
import Victara.Lib.StepSystem

/-!
# Matching a Pattern with a Counter

A matcher that counts how much of a pattern it has seen, and goes back to
nothing at an element that does not fit. It does not look at that element
again, so the input falls into attempts: a part of the pattern, and then an
element that is not the next one. What comes behind the abandoned attempts is
what the counter stands for.

Behind the end of the pattern there is nothing to compare with, so an element
after a whole pattern stops the matcher.

## Main definitions

* `advance`: The counter after one more element.
* `Abandoned`: An input of attempts that were all given up.

## Theorems

* `exec_take`: The beginning of the pattern is counted.
* `exec_abandoned`: Nothing is left of what was abandoned.
* `exec_cases`: What the input is, and what the matcher has made of it.
* `exec_iff`: The counter stands at the length of what is behind the abandoned
  attempts.
* `exec_eq_length_iff`: When the pattern has been found.
* `exec_eq_none_iff`: When the matcher has stopped.
-/

namespace Matcher

open StepSystem

universe u

variable {α : Type u} [DecidableEq α]

/-- The element is compared with the next one of the pattern. -/
def advance (p : List α) (c : Nat) (a : α) : Option Nat :=
  p[c]?.map fun b => if b = a then c + 1 else 0

/-- Attempts that have come to nothing, one behind the other. -/
inductive Abandoned (p : List α) : List α → Prop
  | nil : Abandoned p []
  | attempt {as : List α} {c : Nat} {a b : α} (hnext : p[c]? = some b) (hne : b ≠ a)
      (h : Abandoned p as) : Abandoned p (as ++ (p.take c ++ [a]))

variable {p : List α}

theorem advance_of_eq {c : Nat} {a : α} (h : p[c]? = some a) : advance p c a = some (c + 1) := by
  rw [advance, h, Option.map_some, if_pos rfl]

theorem advance_of_ne {c : Nat} {a b : α} (h : p[c]? = some b) (hne : b ≠ a) :
    advance p c a = some 0 := by
  rw [advance, h, Option.map_some, if_neg hne]

omit [DecidableEq α] in
theorem take_succ_of_next {c : Nat} {b : α} (h : p[c]? = some b) :
    p.take (c + 1) = p.take c ++ [b] := by
  rw [List.take_add_one, h, Option.toList_some]

/-- The beginning of the pattern is counted. -/
theorem exec_take {c : Nat} (hc : c ≤ p.length) : exec (advance p) 0 (p.take c) = some c := by
  induction c with
  | zero => rfl
  | succ c ih =>
      have hnext : p[c]? = some p[c] := List.getElem?_eq_getElem hc
      rw [take_succ_of_next hnext, exec_append (ih (Nat.le_of_lt hc)), exec, advance_of_eq hnext]
      rfl

/-- Nothing is left of what was abandoned. -/
theorem exec_abandoned {as : List α} (h : Abandoned p as) :
    exec (advance p) 0 as = some 0 := by
  induction h with
  | nil => rfl
  | attempt hnext hne _ ih =>
      have hlen := (List.getElem?_eq_some_iff.mp hnext).1
      rw [exec_append ih, exec_append (exec_take (Nat.le_of_lt hlen)), exec,
        advance_of_ne hnext hne]
      rfl

/-- The counter, or nothing once an element has come behind a whole pattern. -/
theorem exec_cases (p as : List α) :
    (∃ c ≤ p.length, ∃ pre, Abandoned p pre ∧ as = pre ++ p.take c ∧
        exec (advance p) 0 as = some c) ∨
      ∃ pre post, Abandoned p pre ∧ post ≠ [] ∧ as = pre ++ (p ++ post) ∧
        exec (advance p) 0 as = none := by
  -- One element more is the next one, or ends an attempt, or has nothing to be compared with.
  induction as using List.reverseRecOn with
  | nil => exact Or.inl ⟨0, Nat.zero_le _, [], .nil, rfl, rfl⟩
  | append_singleton as a ih =>
      rcases ih with ⟨c, hc, pre, hpre, has, hrun⟩ | ⟨pre, post, hpre, _, has, hrun⟩
      · have hexec : exec (advance p) 0 (as ++ [a]) = advance p c a := by
          rw [exec_append hrun, exec]
          cases advance p c a <;> rfl
        rw [hexec, has]
        by_cases hend : c = p.length
        · refine Or.inr ⟨pre, [a], hpre, List.cons_ne_nil _ _, ?_, ?_⟩
          · rw [hend, List.take_length, List.append_assoc]
          · rw [advance, hend, List.getElem?_eq_none (Nat.le_refl _), Option.map_none]
        · have hlt : c < p.length := by omega
          have hnext : p[c]? = some p[c] := List.getElem?_eq_getElem hlt
          refine Or.inl ?_
          by_cases heq : p[c] = a
          · refine ⟨c + 1, hlt, pre, hpre, ?_, ?_⟩
            · rw [take_succ_of_next hnext, heq, List.append_assoc]
            · exact advance_of_eq (heq ▸ hnext)
          · refine ⟨0, Nat.zero_le _, _, .attempt hnext heq hpre, ?_, advance_of_ne hnext heq⟩
            rw [List.take_zero, List.append_nil, List.append_assoc]
      · refine Or.inr ⟨pre, post ++ [a], hpre, by simp, ?_, exec_append_of_none hrun [a]⟩
        simp only [has, List.append_assoc]

/-- The counter stands at the length of what is behind the abandoned attempts. -/
theorem exec_iff {as : List α} {c : Nat} (hc : c ≤ p.length) :
    exec (advance p) 0 as = some c ↔ ∃ pre, Abandoned p pre ∧ as = pre ++ p.take c := by
  constructor
  · intro h
    rcases exec_cases p as with ⟨d, _, pre, hpre, has, hrun⟩ | ⟨_, _, _, _, _, hrun⟩
    · rw [hrun] at h
      cases h
      exact ⟨pre, hpre, has⟩
    · rw [hrun] at h
      cases h
  · rintro ⟨pre, hpre, rfl⟩
    rw [exec_append (exec_abandoned hpre)]
    exact exec_take hc

/-- The matcher has found the pattern. -/
theorem exec_eq_length_iff {as : List α} :
    exec (advance p) 0 as = some p.length ↔ ∃ pre, Abandoned p pre ∧ as = pre ++ p := by
  rw [exec_iff (Nat.le_refl _), List.take_length]

/-- The matcher has stopped behind the pattern. -/
theorem exec_eq_none_iff {as : List α} :
    exec (advance p) 0 as = none ↔
      ∃ pre post, Abandoned p pre ∧ post ≠ [] ∧ as = pre ++ (p ++ post) := by
  constructor
  · intro h
    rcases exec_cases p as with ⟨_, _, _, _, _, hrun⟩ | ⟨pre, post, hpre, hpost, has, _⟩
    · rw [hrun] at h
      cases h
    · exact ⟨pre, post, hpre, hpost, has⟩
  · rintro ⟨pre, post, hpre, hpost, rfl⟩
    have hfound : exec (advance p) 0 (pre ++ p) = some p.length :=
      exec_eq_length_iff.mpr ⟨pre, hpre, rfl⟩
    rw [← List.append_assoc, exec_append hfound]
    cases post with
    | nil => exact absurd rfl hpost
    | cons a post =>
        rw [exec, advance, List.getElem?_eq_none (Nat.le_refl _)]
        rfl

end Matcher
