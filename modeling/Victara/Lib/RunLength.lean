import Mathlib.Data.List.Infix
import Mathlib.Tactic.Common

/-!
# Runs of Equal Elements

A list of runs, each a number and an element, stands for so many copies of its
elements one behind the other. Into limited room goes the longest beginning
of the list that fits in whole.

A loop that stops at the first run which does not fit computes the longest
beginning, and there is no other one. `expand_fitting_eq_iff` compares two such
loops: one that has all the runs and all the room, and one that has only the
first runs and less room. They draw the same if and only if no run that stands
for something is lost.

## Main definitions

* `total`, `expand`: The length of what runs stand for, and what it is.
* `fitting`: That beginning, run by run.
* `Longest`: The longest beginning of a list of runs that fits.

## Theorems

* `longest_fitting`, `Longest.eq`: It is the only one.
* `initial_of_empty_rest`: A run that stands for something is not among runs
  that stand for nothing.
* `expand_fitting_eq_iff`: When less room, and only some of the runs, is no
  loss.
-/

namespace RunLength

universe u

variable {β : Type u}

def total : List (Nat × β) → Nat
  | [] => 0
  | r :: rs => r.1 + total rs

def expand : List (Nat × β) → List β
  | [] => []
  | r :: rs => List.replicate r.1 r.2 ++ expand rs

/-- Runs are taken as long as there is room for them. -/
def fitting : Nat → List (Nat × β) → List (Nat × β)
  | _, [] => []
  | room, r :: rs => if r.1 ≤ room then r :: fitting (room - r.1) rs else []

/-- `ps` is the longest beginning of `rs` that stands for no more than `room`
    places. There is just one, as of two beginnings one begins the other. -/
structure Longest (room : Nat) (rs ps : List (Nat × β)) : Prop where
  initial : ps <+: rs
  fits : total ps ≤ room
  longest : ∀ qs, qs <+: rs → total qs ≤ room → qs <+: ps

@[simp] theorem length_expand (rs : List (Nat × β)) : (expand rs).length = total rs := by
  induction rs with
  | nil => rfl
  | cons r rs ih => rw [expand, total, List.length_append, List.length_replicate, ih]

theorem total_append (rs rs' : List (Nat × β)) : total (rs ++ rs') = total rs + total rs' := by
  induction rs with
  | nil => rw [List.nil_append, total, Nat.zero_add]
  | cons r rs ih => rw [List.cons_append, total, total, ih, Nat.add_assoc]

theorem expand_append (rs rs' : List (Nat × β)) : expand (rs ++ rs') = expand rs ++ expand rs' := by
  induction rs with
  | nil => rfl
  | cons r rs ih => rw [List.cons_append, expand, expand, ih, List.append_assoc]

theorem total_le_of_initial {ps rs : List (Nat × β)} (h : ps <+: rs) : total ps ≤ total rs := by
  rcases h with ⟨rest, rfl⟩
  rw [total_append]
  exact Nat.le_add_right ..

theorem longest_fitting (room : Nat) (rs : List (Nat × β)) : Longest room rs (fitting room rs) := by
  induction rs generalizing room with
  | nil => exact ⟨List.prefix_refl _, Nat.zero_le _, fun _ h _ => h⟩
  | cons r rs ih =>
      rw [fitting]
      by_cases hr : r.1 ≤ room
      · rw [if_pos hr]
        have hrest := ih (room - r.1)
        refine ⟨List.cons_prefix_cons.mpr ⟨rfl, hrest.initial⟩, ?_, fun qs hqs hle => ?_⟩
        · have hfits := hrest.fits
          rw [total]
          omega
        · cases qs with
          | nil => exact List.nil_prefix
          | cons q qs =>
              rcases List.cons_prefix_cons.mp hqs with ⟨rfl, htail⟩
              rw [total] at hle
              exact List.cons_prefix_cons.mpr ⟨rfl, hrest.longest qs htail (by omega)⟩
      · rw [if_neg hr]
        refine ⟨List.nil_prefix, Nat.zero_le _, fun qs hqs hle => ?_⟩
        cases qs with
        | nil => exact List.prefix_refl _
        | cons q qs =>
            rcases List.cons_prefix_cons.mp hqs with ⟨rfl, _⟩
            rw [total] at hle
            omega

theorem Longest.eq {room : Nat} {rs ps : List (Nat × β)} (h : Longest room rs ps) :
    ps = fitting room rs := by
  have hfitting := longest_fitting room rs
  have hle := hfitting.longest ps h.initial h.fits
  have hge := h.longest _ hfitting.initial hfitting.fits
  exact hle.eq_of_length (Nat.le_antisymm hle.length_le hge.length_le)

theorem exists_run_of_total {rs : List (Nat × β)} (h : total rs ≠ 0) :
    ∃ pre r post, rs = pre ++ r :: post ∧ r.1 ≠ 0 := by
  induction rs with
  | nil => exact absurd rfl h
  | cons r rs ih =>
      by_cases hr : r.1 = 0
      · rw [total, hr, Nat.zero_add] at h
        rcases ih h with ⟨pre, r', post, rfl, hr'⟩
        exact ⟨r :: pre, r', post, rfl, hr'⟩
      · exact ⟨[], r, rs, rfl, hr⟩

theorem total_concat (pre : List (Nat × β)) (r : Nat × β) :
    total (pre ++ [r]) = total pre + r.1 := total_append pre [r]

/-- A run that stands for something is not among runs that stand for nothing. -/
theorem initial_of_empty_rest {ps rest pre : List (Nat × β)} {r : Nat × β}
    (hrest : total rest = 0) (hr : r.1 ≠ 0) (h : pre ++ [r] <+: ps ++ rest) :
    pre ++ [r] <+: ps := by
  have htotal := total_le_of_initial h
  rw [total_concat, total_append, hrest] at htotal
  rcases List.prefix_or_prefix_of_prefix h (List.prefix_append ps rest) with hps | hps
  · exact hps
  · rcases List.prefix_concat_iff.mp hps with heq | hbefore
    · rw [heq]
    · have hle := total_le_of_initial hbefore
      omega

/-- With less room, and the first `n` runs only, the same is written if every
    run that would have been, and stands for something, is still there and
    fits. -/
theorem expand_fitting_eq_iff {room room' : Nat} (hroom : room' ≤ room) (n : Nat)
    (rs : List (Nat × β)) :
    expand (fitting room' (rs.take n)) = expand (fitting room rs) ↔
      ∀ pre r post, rs = pre ++ r :: post → r.1 ≠ 0 → total pre + r.1 ≤ room →
        pre.length < n ∧ total pre + r.1 ≤ room' := by
  have hless := longest_fitting room' (rs.take n)
  have hmore := longest_fitting room rs
  rcases hmore.longest _ (hless.initial.trans (List.take_prefix n rs))
    (Nat.le_trans hless.fits hroom) with ⟨rest, hrest⟩
  -- What is lost is nothing just if the runs that are lost stand for nothing.
  have hsame : expand (fitting room' (rs.take n)) = expand (fitting room rs) ↔ total rest = 0 := by
    rw [← hrest, expand_append, List.self_eq_append_right, ← List.length_eq_zero_iff,
      length_expand]
  rw [hsame]
  constructor
  · intro hzero pre r post hrs hr hfits
    have hinitial : pre ++ [r] <+: rs := ⟨post, by rw [hrs, List.append_assoc]; rfl⟩
    have hwritten := hmore.longest _ hinitial (by rw [total_concat]; exact hfits)
    rw [← hrest] at hwritten
    have hstill : pre ++ [r] <+: fitting room' (rs.take n) :=
      initial_of_empty_rest hzero hr hwritten
    have htotal := total_le_of_initial hstill
    rw [total_concat] at htotal
    have hlen := (hstill.trans hless.initial).length_le
    rw [List.length_append, List.length_singleton, List.length_take] at hlen
    have hle := hless.fits
    exact ⟨by omega, by omega⟩
  · intro h
    refine Classical.byContradiction fun hpos => ?_
    rcases exists_run_of_total hpos with ⟨pre, r, post, rfl, hr⟩
    rcases hmore.initial with ⟨more, hrs⟩
    rw [← hrest] at hrs
    have hsplit : rs = fitting room' (rs.take n) ++ pre ++ r :: (post ++ more) :=
      hrs.symm.trans (by simp only [List.append_assoc, List.cons_append])
    have hfits : total (fitting room' (rs.take n) ++ pre) + r.1 ≤ room := by
      have hall := hmore.fits
      rw [← hrest, total_append, total_append, total] at hall
      rw [total_append]
      omega
    have hnext := h _ r (post ++ more) hsplit hr hfits
    have hinitial : fitting room' (rs.take n) ++ pre ++ [r] <+: rs.take n := by
      refine List.prefix_take_iff.mpr ⟨⟨post ++ more, ?_⟩, ?_⟩
      · rw [List.append_assoc]
        exact hsplit.symm
      · rw [List.length_append, List.length_singleton]
        omega
    have hlong := (hless.longest _ hinitial (by rw [total_concat]; exact hnext.2)).length_le
    simp only [List.length_append, List.length_singleton] at hlong
    omega

end RunLength
