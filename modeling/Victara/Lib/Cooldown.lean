import Mathlib.Data.List.Pairwise
import Mathlib.Tactic.Linarith

/-!
# Passing Once in a While

A limiter remembers a time, and lets a request through that comes more than
`d` after it; the time of the request is then remembered. A mark is remembered
as it comes, and lets nothing through.

The clock may jump. What is said of any two times therefore needs a clock that
does not go back, and what is said of the time remembered last does not.

## Main definitions

* `Event`: A mark or a request, with its time.
* `allows`: The request comes late enough.
* `next`: The time that is remembered.
* `passes`: The times of the requests that are let through.
* `Spaced`: Any two are more than `d` apart, the earlier first.
* `Forward`: The clock does not go back.

## Theorems

* `passes_append`: Events are taken part by part.
* `next_add_lt_iff`: The time that is remembered is the latest there is.
* `lt_of_mem_passes`: Nothing passes for `d` after the time that is remembered.
* `passes_spaced`: What passes is spaced, with a clock that does not go back.
* `Spaced.length_le`: How much can pass in a window.
-/

namespace Cooldown

inductive Event
  | mark (now : Int)
  | request (now : Int)
  deriving DecidableEq, Repr

def Event.time : Event → Int
  | .mark now => now
  | .request now => now

variable (d : Int)

/-- The request comes late enough. -/
def allows (last now : Int) : Bool := decide (d < now - last)

def next (last : Int) : Event → Int
  | .mark now => now
  | .request now => if allows d last now then now else last

/-- The times of the requests that pass, in their order. -/
def passes (last : Int) : List Event → List Int
  | [] => []
  | .mark now :: es => passes now es
  | .request now :: es =>
    if allows d last now then now :: passes now es else passes last es

/-- Each comes more than `d` after every earlier one. -/
def Spaced (ts : List Int) : Prop := ts.Pairwise fun a b => a + d < b

/-- The clock does not go back. -/
def Forward (last : Int) : List Event → Prop
  | [] => True
  | e :: es => last ≤ e.time ∧ Forward e.time es

instance decidableForward : (last : Int) → (es : List Event) → Decidable (Forward last es)
  | _, [] => isTrue trivial
  | last, e :: es =>
      have : Decidable (Forward e.time es) := decidableForward e.time es
      inferInstanceAs (Decidable (last ≤ e.time ∧ Forward e.time es))

variable {d}

theorem passes_append (last : Int) (es es' : List Event) :
    passes d last (es ++ es') = passes d last es ++ passes d (es.foldl (next d) last) es' := by
  induction es generalizing last with
  | nil => rfl
  | cons e es ih =>
      cases e with
      | mark now => exact ih now
      | request now =>
          simp only [List.cons_append, passes, List.foldl_cons, next, ih]
          by_cases h : allows d last now = true
          · simp only [h, if_true, List.cons_append]
          · simp only [h, Bool.false_eq_true, if_false]

theorem forward_of_le {last last' : Int} {es : List Event} (h : Forward last es)
    (hle : last' ≤ last) : Forward last' es := by
  cases es with
  | nil => trivial
  | cons e es => exact ⟨hle.trans h.1, h.2⟩

theorem forward_of_pairwise {last : Int} {es : List Event}
    (h : (last :: es.map Event.time).Pairwise (· ≤ ·)) : Forward last es := by
  induction es generalizing last with
  | nil => trivial
  | cons e es ih =>
      rcases List.pairwise_cons.mp h with ⟨hfirst, hrest⟩
      exact ⟨hfirst e.time (List.mem_cons_self ..), ih hrest⟩

/-- The time that is remembered is the latest there is. -/
theorem next_add_lt_iff {last t : Int} {es : List Event} (h : Forward last es) (hd : 0 ≤ d) :
    es.foldl (next d) last + d < t ↔
      last + d < t ∧ (∀ now, Event.mark now ∈ es → now + d < t) ∧
        ∀ now ∈ passes d last es, now + d < t := by
  induction es generalizing last with
  | nil => simp [passes]
  | cons e es ih =>
      have hstart := h.1
      cases e with
      -- What is remembered is the mark, which is not before what was remembered.
      | mark now =>
          have hlater : now + d < t → last + d < t := by
            intro hnow
            have hle : last ≤ now := hstart
            omega
          have hrest := ih h.2
          simp only [Event.time] at hrest
          simp only [List.foldl_cons, next, passes, hrest, List.mem_cons, Event.mark.injEq,
            forall_eq_or_imp]
          tauto
      | request now =>
          simp only [List.foldl_cons, next, passes]
          by_cases hpass : allows d last now = true
          -- The request is let through and remembered.
          · have hlate : d < now - last := of_decide_eq_true hpass
            have hlater : now + d < t → last + d < t := by omega
            have hmem : ∀ m, Event.mark m ∈ Event.request now :: es ↔ Event.mark m ∈ es := by simp
            have hrest := ih h.2
            simp only [Event.time] at hrest
            simp only [hpass, if_true, hrest, hmem, List.mem_cons, forall_eq_or_imp]
            tauto
          -- It is not, and leaves what is remembered.
          · simp only [hpass, Bool.false_eq_true, if_false, ih (forward_of_le h.2 hstart)]
            simp

/-- What passes comes more than `d` after the time that was remembered. -/
theorem lt_of_mem_passes (hd : 0 ≤ d) {last t : Int} {es : List Event} (h : Forward last es)
    (ht : t ∈ passes d last es) : last + d < t := by
  induction es generalizing last with
  | nil => cases ht
  | cons e es ih =>
      cases e with
      | mark now =>
          have hlater : now + d < t := ih h.2 ht
          have hstart : last ≤ now := h.1
          omega
      | request now =>
          have hstart : last ≤ now := h.1
          simp only [passes] at ht
          by_cases hpass : allows d last now = true
          · have hlate : d < now - last := of_decide_eq_true hpass
            rw [if_pos hpass] at ht
            rcases List.mem_cons.mp ht with rfl | hmem
            · omega
            · have hlater : now + d < t := ih h.2 hmem
              omega
          · rw [if_neg hpass] at ht
            exact ih (forward_of_le h.2 hstart) ht

/-- Any two that pass are more than `d` apart. -/
theorem passes_spaced (hd : 0 ≤ d) {last : Int} {es : List Event} (h : Forward last es) :
    Spaced d (passes d last es) := by
  induction es generalizing last with
  | nil => exact List.Pairwise.nil
  | cons e es ih =>
      cases e with
      | mark now => exact ih h.2
      | request now =>
          simp only [passes]
          by_cases hpass : allows d last now = true
          · rw [if_pos hpass]
            exact List.Pairwise.cons (fun t ht => lt_of_mem_passes hd h.2 ht) (ih h.2)
          · rw [if_neg hpass]
            exact ih (forward_of_le h.2 h.1)

/-- In a window of `w` there are no more than `w / (d + 1) + 1`. -/
theorem Spaced.length_le (hd : 0 ≤ d) {ts : List Int} (h : Spaced d ts) {t w : Int}
    (hmem : ∀ x ∈ ts, t ≤ x ∧ x ≤ t + w) (hw : 0 ≤ w) :
    (ts.length : Int) ≤ w / (d + 1) + 1 := by
  have hpos : 0 < d + 1 := by omega
  suffices hmul : (ts.length : Int) * (d + 1) ≤ w + (d + 1) by
    have hdiv := Int.le_ediv_of_mul_le hpos hmul
    rwa [Int.add_ediv_of_dvd_right (dvd_refl _), Int.ediv_self hpos.ne'] at hdiv
  induction ts generalizing t w with
  | nil =>
      simp only [List.length_nil, Nat.cast_zero, zero_mul]
      omega
  | cons x ts ih =>
      rcases List.pairwise_cons.mp h with ⟨hfirst, hrest⟩
      have hx := hmem x List.mem_cons_self
      cases ts with
      | nil =>
          simp only [List.length_cons, List.length_nil, Nat.zero_add, Nat.cast_one, one_mul]
          omega
      | cons y ts =>
          -- The rest fits into what is left of the window after the first of it.
          have hy := hfirst y List.mem_cons_self
          have hin := (hmem y (List.mem_cons_of_mem x List.mem_cons_self)).2
          have hleft : ∀ z ∈ y :: ts, t + (d + 1) ≤ z ∧ z ≤ t + (d + 1) + (w - (d + 1)) := by
            intro z hz
            have hlate := hfirst z hz
            have hend := (hmem z (List.mem_cons_of_mem x hz)).2
            constructor <;> omega
          have hlen := ih hrest hleft (by omega)
          rw [List.length_cons, Nat.cast_add, add_mul]
          simp only [Nat.cast_one, one_mul]
          omega

end Cooldown
