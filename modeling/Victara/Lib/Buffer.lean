import Mathlib.Algebra.Group.Nat.Defs
import Mathlib.Data.List.TakeDrop
import Mathlib.Tactic.Common

/-!
# Buffers with Strings in Them

A buffer is a list of fixed length. A write to a place that it does not have is
a failure, so what comes out of a program that writes is the proof that it has
stayed inside. A string in a buffer goes up to the first element that is nul.

A buffer is looked at as a text that has been written, and behind it what was
there before, because that is how a loop that writes leaves it. The rules are
about a write at the place where the text ends, and about the string that is
there once a nul has been written.

## Main definitions

* `put`, `putAll`: Write one element, or some behind each other.
* `snprintf`: What of a text is written into so much room.
* `string`: The text up to the nul, if there is one.

## Theorems

* `put_append`, `putAll_append`: A write behind what is there.
* `snprintf_of_fits`: A text that there is room for is written whole.
* `takeWhile_append_cons`: A text without nul that has one behind it.
* `string_append_cons`: The string that ends there.
-/

namespace Buffer

universe u

variable {α : Type u}

/-- A write to the place `i`. -/
def put (buf : List α) (i : Nat) (a : α) : Option (List α) :=
  if i < buf.length then some (buf.set i a) else none

/-- Writes from the place `i` on. -/
def putAll (buf : List α) (i : Nat) : List α → Option (List α)
  | [] => some buf
  | a :: as => (put buf i a).bind fun buf => putAll buf (i + 1) as

/-- As much of a text as there is room for, and the nul behind it. -/
def snprintf (nul : α) (size : Nat) (text : List α) : List α :=
  if size = 0 then [] else text.take (size - 1) ++ [nul]

/-- The string in a buffer. -/
def string [DecidableEq α] (nul : α) (buf : List α) : Option (List α) :=
  if nul ∈ buf then some (buf.takeWhile (· ≠ nul)) else none

theorem put_append (done : List α) (old : α) (rest : List α) (a : α) :
    put (done ++ old :: rest) done.length a = some (done ++ a :: rest) := by
  rw [put, if_pos (by simp), List.set_append_right _ _ (Nat.le_refl _), Nat.sub_self,
    List.set_cons_zero]

theorem putAll_append (done : List α) {old as : List α} (h : old.length = as.length)
    (rest : List α) :
    putAll (done ++ (old ++ rest)) done.length as = some (done ++ (as ++ rest)) := by
  induction as generalizing done old with
  | nil =>
      rw [List.length_eq_zero_iff.mp h]
      rfl
  | cons a as ih =>
      cases old with
      | nil => cases h
      | cons o old =>
          have hone := put_append done o (old ++ rest) a
          -- What has been written is now in front of the next place.
          have hrest := ih (done ++ [a]) (Nat.succ.inj h)
          simp only [List.append_assoc, List.length_append, List.length_singleton,
            List.singleton_append] at hrest
          rw [putAll, List.cons_append, hone, Option.bind_some, hrest, List.cons_append]

/-- A text that there is room for is written whole. -/
theorem snprintf_of_fits (nul : α) {size : Nat} {text : List α} (h : text.length < size) :
    snprintf nul size text = text ++ [nul] := by
  rw [snprintf, if_neg (by omega), List.take_of_length_le (by omega)]

variable [DecidableEq α]

/-- A text without nul that has one behind it. -/
theorem takeWhile_append_cons {nul : α} {text : List α} (h : nul ∉ text) (rest : List α) :
    (text ++ nul :: rest).takeWhile (· ≠ nul) = text := by
  have htext : ∀ a ∈ text, decide (a ≠ nul) = true := fun a ha =>
    decide_eq_true fun heq => h (heq ▸ ha)
  rw [List.takeWhile_append_of_pos htext, List.takeWhile_cons_of_neg (by simp), List.append_nil]

theorem string_append_cons {nul : α} {text : List α} (h : nul ∉ text) (rest : List α) :
    string nul (text ++ nul :: rest) = some text := by
  rw [string, if_pos (by simp), takeWhile_append_cons h]

end Buffer
