/-!
# Who Has What

Resources that are to be given back exactly once go from one place to another:
they are in a variable, then in a message, then in a queue. `holds` lists what
is in each place, and `Linear` says that whatever was given is in one place,
and there once, and that nothing else is anywhere.

The places may be infinitely many, so this is no sum over all of them. There is
an owner of every resource instead, and each list agrees with it.

## Main definitions

* `Linear`: Everything given is in one place, once.

## Theorems

* `count_le_one`: Nothing is in a place twice.
* `mem_iff`: What a place holds, it owns.
* `place_unique`: Nothing is in two places.
* `exists_place`: What was given is somewhere.
* `linear_empty`: At first nothing is anywhere.
* `linear_same`: The same items in the same places.
* `linear_put`: One token gets a place, where it was nowhere or in one that has
  lost it.
* `linear_give`: Something new is put somewhere.
* `linear_move`: Something goes from one place to another.
-/

namespace Ledger

universe u v

variable {Place : Type u} {Token : Type v} [DecidableEq Place] [DecidableEq Token]

/-- Every token that was given has an owner, which holds it once. -/
def Linear (given : Token → Prop) (holds : Place → List Token) : Prop :=
  ∃ owner : Token → Option Place, (∀ x, given x ↔ owner x ≠ none) ∧
    ∀ place x, (holds place).count x = if owner x = some place then 1 else 0

variable {given given' : Token → Prop} {holds holds' : Place → List Token} {x : Token}

theorem count_le_one (h : Linear given holds) (place : Place) (x : Token) :
    (holds place).count x ≤ 1 := by
  rcases h with ⟨owner, _, hcount⟩
  rw [hcount]
  split <;> omega

/-- What a place holds, it owns. -/
theorem mem_iff {owner : Token → Option Place}
    (hcount : ∀ place x, (holds place).count x = if owner x = some place then 1 else 0)
    {place : Place} : x ∈ holds place ↔ owner x = some place := by
  rw [← List.count_pos_iff, hcount]
  by_cases h : owner x = some place <;> simp [h]

theorem place_unique (h : Linear given holds) {a b : Place} (ha : x ∈ holds a) (hb : x ∈ holds b) :
    a = b := by
  rcases h with ⟨owner, _, hcount⟩
  rw [mem_iff hcount] at ha hb
  rw [ha] at hb
  exact Option.some.inj hb

/-- Whatever was given is somewhere, once. -/
theorem exists_place (h : Linear given holds) (hx : given x) :
    ∃ place, (holds place).count x = 1 := by
  rcases h with ⟨owner, hgiven, hcount⟩
  cases howner : owner x with
  | none => exact absurd howner ((hgiven x).mp hx)
  | some place => exact ⟨place, by rw [hcount, howner, if_pos rfl]⟩

theorem given_of_mem (h : Linear given holds) {place : Place} (hx : x ∈ holds place) : given x := by
  rcases h with ⟨owner, hgiven, hcount⟩
  rw [hgiven, (mem_iff hcount).mp hx]
  exact Option.some_ne_none place

theorem linear_empty (hnone : ∀ x, ¬ given x) (hempty : ∀ place, holds place = []) :
    Linear given holds := by
  refine ⟨fun _ => none, fun x => ?_, fun place x => ?_⟩
  · simp [hnone x]
  · simp [hempty place]

/-- The same in the same places. -/
theorem linear_same (h : Linear given holds) (hgiven : ∀ x, given' x ↔ given x)
    (hholds : ∀ place, holds' place = holds place) : Linear given' holds' := by
  rcases h with ⟨owner, hown, hcount⟩
  exact ⟨owner, fun x => (hgiven x).trans (hown x), fun place x => by rw [hholds, hcount]⟩

/-- One token gets a place, where it was nowhere or in one that has lost it. -/
theorem linear_put (h : Linear given holds) (x : Token) (dst : Place)
    (hgiven : ∀ y, given' y ↔ y = x ∨ given y)
    (hother : ∀ place y, y ≠ x → (holds' place).count y = (holds place).count y)
    (hx : ∀ place, (holds' place).count x = if place = dst then 1 else 0) :
    Linear given' holds' := by
  rcases h with ⟨owner, hown, hcount⟩
  refine ⟨fun y => if y = x then some dst else owner y, fun y => ?_, fun place y => ?_⟩
  · by_cases hy : y = x
    · simp [hgiven, hy]
    · simp [hgiven, hy, hown]
  · by_cases hy : y = x
    · rw [hy, hx]
      simp [eq_comm]
    · rw [hother place y hy, hcount]
      simp [hy]

theorem linear_give (h : Linear given holds) (dst : Place) (hnew : ¬ given x)
    (hgiven : ∀ y, given' y ↔ y = x ∨ given y) (hdst : (holds' dst).Perm (x :: holds dst))
    (hrest : ∀ place, place ≠ dst → holds' place = holds place) : Linear given' holds' := by
  have hnowhere : ∀ place, (holds place).count x = 0 := fun place =>
    List.count_eq_zero.mpr fun hmem => hnew (given_of_mem h hmem)
  refine linear_put h x dst hgiven (fun place y hy => ?_) (fun place => ?_)
  · by_cases hplace : place = dst
    · rw [hplace, hdst.count_eq, List.count_cons_of_ne (Ne.symm hy)]
    · rw [hrest place hplace]
  · by_cases hplace : place = dst
    · rw [hplace, hdst.count_eq, List.count_cons_self, hnowhere, if_pos rfl]
    · rw [hrest place hplace, hnowhere, if_neg hplace]

/-- A token that leaves one place for another. -/
theorem linear_move (h : Linear given holds) (src dst : Place)
    (hgiven : ∀ y, given' y ↔ given y) (hne : src ≠ dst) (hsrc : (holds src).Perm (x :: holds' src))
    (hdst : (holds' dst).Perm (x :: holds dst))
    (hrest : ∀ place, place ≠ src → place ≠ dst → holds' place = holds place) :
    Linear given' holds' := by
  have hmem : x ∈ holds src := hsrc.mem_iff.mpr List.mem_cons_self
  -- It is nowhere else, as it was in its place once.
  have helse : ∀ place, place ≠ src → (holds place).count x = 0 := fun place hplace =>
    List.count_eq_zero.mpr fun hin => hplace (place_unique h hin hmem)
  refine linear_put h x dst (fun y => ?_) (fun place y hy => ?_) (fun place => ?_)
  · rw [hgiven]
    constructor
    · exact Or.inr
    · rintro (heq | hy)
      · exact heq ▸ given_of_mem h hmem
      · exact hy
  · by_cases hs : place = src
    · rw [hs, hsrc.count_eq, List.count_cons_of_ne (Ne.symm hy)]
    · by_cases hd : place = dst
      · rw [hd, hdst.count_eq, List.count_cons_of_ne (Ne.symm hy)]
      · rw [hrest place hs hd]
  · by_cases hd : place = dst
    · rw [hd, hdst.count_eq, List.count_cons_self, helse dst (Ne.symm hne), if_pos rfl]
    · rw [if_neg hd]
      by_cases hs : place = src
      · -- It was there once, and that one is gone.
        have hle := count_le_one h src x
        rw [hsrc.count_eq, List.count_cons_self] at hle
        rw [hs]
        omega
      · rw [hrest place hs hd, helse place hs]

end Ledger
