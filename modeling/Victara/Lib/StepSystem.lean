/-!
# Partial Step Functions and Their Runs

A system whose labelled steps are a partial function: `step s l` is the state
after `l`, or nothing when `l` cannot happen in `s`. A schedule is a list of
labels, and `exec` runs it. Everything is computable as far as `step` is, so
that a schedule can be tried out as well as reasoned about.

A property that fails on some schedules is proved of the others by a guard:
`Meets` says that every step of a schedule is taken in a state where the
guard allows it, and a guarded step only has to keep the invariant where the
guard holds.

A safety property is `Throughout` a schedule when it holds in every state on
the way. Where a step that breaks the guard breaks the property with it, the
guard is the exact condition for that.

## Main definitions

* `exec`: The state after a schedule.
* `Meets`: Every step of a schedule meets a guard.
* `Throughout`: Every state of a schedule has a property.
* `trace`: What the steps of a schedule put out, one after the other.

## Theorems

* `exec_cons`: A schedule that runs starts with a step that can be taken.
* `exec_append`, `exec_append_of_none`: A schedule is run part by part.
* `meets_append`: A guard is checked part by part.
* `meets_iff_forall_split`: A guard is checked step by step.
* `meets_of_forall`: A guard that says nothing is met.
* `invariant_of_meets`: The same for the schedules that meet a guard.
* `invariant_of_step`: What every step keeps holds after every schedule.
* `throughout_exec`: What holds throughout holds at the end.
* `throughout_of_meets`: A guarded invariant holds throughout.
* `throughout_iff_meets`: The guard is exact where breaking it shows at once.
* `exec_isSome_iff_meets`: The guard is exact where breaking it stops the run.
* `simulation_of_meets`: An abstract system follows every schedule.
* `trace_append`: The output comes part by part.
* `trace_of_step`: What every step keeps of the state and the output so far.
-/

namespace StepSystem

universe u v w

variable {σ : Type u} {ℓ : Type v}

/-- Run a schedule, as long as its steps can be taken. -/
def exec (step : σ → ℓ → Option σ) (s : σ) : List ℓ → Option σ
  | [] => some s
  | l :: ls => (step s l).bind fun t => exec step t ls

/-- The guard `G` holds at every step that is taken. -/
def Meets (step : σ → ℓ → Option σ) (G : σ → ℓ → Prop) (s : σ) : List ℓ → Prop
  | [] => True
  | l :: ls => G s l ∧ ∀ t ∈ step s l, Meets step G t ls

/-- `P` holds at the start and after every step that is taken. -/
def Throughout (step : σ → ℓ → Option σ) (P : σ → Prop) (s : σ) : List ℓ → Prop
  | [] => P s
  | l :: ls => P s ∧ ∀ t ∈ step s l, Throughout step P t ls

variable {step : σ → ℓ → Option σ}

/-- A guard that can be decided can be decided along a schedule. -/
instance decidableMeets {G : σ → ℓ → Prop} [∀ s l, Decidable (G s l)] :
    (s : σ) → (ls : List ℓ) → Decidable (Meets step G s ls)
  | _, [] => isTrue trivial
  | s, l :: ls =>
      have : DecidablePred fun t => Meets step G t ls := fun t => decidableMeets t ls
      inferInstanceAs (Decidable (G s l ∧ ∀ t ∈ step s l, Meets step G t ls))

/-- So can a property be. -/
instance decidableThroughout {P : σ → Prop} [DecidablePred P] :
    (s : σ) → (ls : List ℓ) → Decidable (Throughout step P s ls)
  | s, [] => inferInstanceAs (Decidable (P s))
  | s, l :: ls =>
      have : DecidablePred fun t => Throughout step P t ls := fun t => decidableThroughout t ls
      inferInstanceAs (Decidable (P s ∧ ∀ t ∈ step s l, Throughout step P t ls))

/-- A schedule that runs starts with a step that can be taken. -/
theorem exec_cons {s t : σ} {l : ℓ} {ls : List ℓ} (h : exec step s (l :: ls) = some t) :
    ∃ u, step s l = some u ∧ exec step u ls = some t :=
  Option.bind_eq_some_iff.mp h

/-- A schedule is run part by part. -/
theorem exec_append {s t : σ} {ls ls' : List ℓ} (h : exec step s ls = some t) :
    exec step s (ls ++ ls') = exec step t ls' := by
  induction ls generalizing s with
  | nil =>
      cases h
      rfl
  | cons l ls ih =>
      rcases exec_cons h with ⟨u, hu, hrest⟩
      rw [List.cons_append, exec, hu, Option.bind_some, ih hrest]

/-- What stops a schedule stops every longer one. -/
theorem exec_append_of_none {s : σ} {ls : List ℓ} (h : exec step s ls = none) (ls' : List ℓ) :
    exec step s (ls ++ ls') = none := by
  induction ls generalizing s with
  | nil => cases h
  | cons l ls ih =>
      rw [List.cons_append, exec]
      cases hstep : step s l with
      | none => rfl
      | some t =>
          rw [exec, hstep, Option.bind_some] at h
          exact ih h

/-- So is a guard checked. -/
theorem meets_append {G : σ → ℓ → Prop} {s t : σ} {ls ls' : List ℓ}
    (h : exec step s ls = some t) :
    Meets step G s (ls ++ ls') ↔ Meets step G s ls ∧ Meets step G t ls' := by
  induction ls generalizing s with
  | nil =>
      cases h
      rw [List.nil_append, Meets, true_and]
  | cons l ls ih =>
      rcases exec_cons h with ⟨u, hu, hrest⟩
      simp only [List.cons_append, Meets, hu, Option.mem_some, forall_eq', ih hrest, and_assoc]

/-- A guard is met at every step just if it is where the schedule is split. -/
theorem meets_iff_forall_split {G : σ → ℓ → Prop} {s : σ} {ls : List ℓ} :
    Meets step G s ls ↔
      ∀ pre l post t, ls = pre ++ l :: post → exec step s pre = some t → G t l := by
  induction ls generalizing s with
  | nil =>
      refine iff_of_true trivial fun pre l post t h _ => ?_
      cases pre <;> cases h
  | cons l ls ih =>
      constructor
      · rintro ⟨hG, hrest⟩ pre l' post t hsplit hrun
        cases pre with
        | nil =>
            cases hsplit
            cases hrun
            exact hG
        | cons l'' pre =>
            cases hsplit
            rcases exec_cons hrun with ⟨u, hu, hend⟩
            exact ih.mp (hrest u hu) pre l' post t rfl hend
      · intro h
        refine ⟨h [] l ls s rfl rfl, fun u hu => ih.mpr fun pre l' post t hsplit hrun => ?_⟩
        refine h (l :: pre) l' post t (by rw [hsplit, List.cons_append]) ?_
        rw [exec, hu, Option.bind_some, hrun]

/-- Where the guard says nothing about the labels, it is met. -/
theorem meets_of_forall {G : σ → ℓ → Prop} {ls : List ℓ} (h : ∀ l ∈ ls, ∀ s, G s l) (s : σ) :
    Meets step G s ls := by
  induction ls generalizing s with
  | nil => trivial
  | cons l ls ih =>
      refine ⟨h l List.mem_cons_self s, fun t _ => ih (fun l' hl' => ?_) t⟩
      exact h l' (List.mem_cons_of_mem l hl')

/-- What holds at the start and is kept by the steps the guard allows holds
    after every schedule that meets the guard. -/
theorem invariant_of_meets {G : σ → ℓ → Prop} {I : σ → Prop}
    (hstep : ∀ s l t, I s → G s l → step s l = some t → I t) {s t : σ} {ls : List ℓ}
    (hs : I s) (hls : Meets step G s ls) (hrun : exec step s ls = some t) : I t := by
  induction ls generalizing s with
  | nil =>
      cases hrun
      exact hs
  | cons l ls ih =>
      rcases exec_cons hrun with ⟨u, hu, hrest⟩
      exact ih (hstep s l u hs hls.1 hu) (hls.2 u hu) hrest

/-- What every step keeps holds after every schedule. -/
theorem invariant_of_step {I : σ → Prop} (hstep : ∀ s l t, I s → step s l = some t → I t)
    {s t : σ} {ls : List ℓ} (hs : I s) (hrun : exec step s ls = some t) : I t := by
  induction ls generalizing s with
  | nil =>
      cases hrun
      exact hs
  | cons l ls ih =>
      rcases exec_cons hrun with ⟨u, hu, hrest⟩
      exact ih (hstep s l u hs hu) hrest

theorem throughout_head {P : σ → Prop} {s : σ} {ls : List ℓ} (h : Throughout step P s ls) :
    P s := by
  cases ls with
  | nil => exact h
  | cons l ls => exact h.1

/-- What holds throughout a schedule holds where it ends. -/
theorem throughout_exec {P : σ → Prop} {s t : σ} {ls : List ℓ} (h : Throughout step P s ls)
    (hrun : exec step s ls = some t) : P t := by
  induction ls generalizing s with
  | nil =>
      cases hrun
      exact h
  | cons l ls ih =>
      rcases exec_cons hrun with ⟨u, hu, hrest⟩
      exact ih (h.2 u hu) hrest

/-- An invariant that the guarded steps keep, and that gives the property. -/
theorem throughout_of_meets {G : σ → ℓ → Prop} {I P : σ → Prop} (hP : ∀ s, I s → P s)
    (hstep : ∀ s l t, I s → G s l → step s l = some t → I t) {s : σ} {ls : List ℓ} (hs : I s)
    (hls : Meets step G s ls) : Throughout step P s ls := by
  induction ls generalizing s with
  | nil => exact hP s hs
  | cons l ls ih => exact ⟨hP s hs, fun t ht => ih (hstep s l t hs hls.1 ht) (hls.2 t ht)⟩

/-- Where a step that the guard forbids can be taken, and leaves the property
    false, the schedules with the property are those that meet the guard. -/
theorem throughout_iff_meets {G : σ → ℓ → Prop} {I P : σ → Prop} (hP : ∀ s, I s → P s)
    (hstep : ∀ s l t, I s → G s l → step s l = some t → I t)
    (hbreak : ∀ s l, I s → ¬ G s l → ∃ t, step s l = some t ∧ ¬ P t) {s : σ} {ls : List ℓ}
    (hs : I s) : Throughout step P s ls ↔ Meets step G s ls := by
  refine ⟨fun h => ?_, throughout_of_meets hP hstep hs⟩
  induction ls generalizing s with
  | nil => trivial
  | cons l ls ih =>
      have hguard : G s l := by
        refine Classical.byContradiction fun hno => ?_
        rcases hbreak s l hs hno with ⟨t, ht, hnot⟩
        exact hnot (throughout_head (h.2 t ht))
      exact ⟨hguard, fun t ht => ih (hstep s l t hs hguard ht) (h.2 t ht)⟩

/-- Where a step can be taken just if the guard holds, so can a schedule. -/
theorem exec_isSome_iff_meets {G : σ → ℓ → Prop} {I : σ → Prop}
    (hstep : ∀ s l, I s → G s l → ∃ t, step s l = some t ∧ I t)
    (hstuck : ∀ s l, I s → ¬ G s l → step s l = none) {s : σ} {ls : List ℓ} (hs : I s) :
    (exec step s ls).isSome = true ↔ Meets step G s ls := by
  induction ls generalizing s with
  | nil => exact iff_of_true rfl trivial
  | cons l ls ih =>
      by_cases hG : G s l
      · rcases hstep s l hs hG with ⟨t, ht, hI⟩
        simp only [exec, Meets, ht, Option.bind_some, Option.mem_some, forall_eq', hG, true_and,
          ih hI]
      · rw [exec, hstuck s l hs hG, Option.bind_none]
        exact iff_of_false Bool.false_ne_true fun h => hG h.1

/-- Where every step the guard allows can be taken, and is followed by an
    abstract one, so is every schedule that meets the guard. -/
theorem simulation_of_meets {α : Type w} {G : σ → ℓ → Prop} {R : σ → α → Prop} {next : α → ℓ → α}
    (hstep : ∀ s a l, R s a → G s l → ∃ t, step s l = some t ∧ R t (next a l)) {s : σ} {a : α}
    {ls : List ℓ} (hs : R s a) (hls : Meets step G s ls) :
    ∃ t, exec step s ls = some t ∧ R t (ls.foldl next a) := by
  induction ls generalizing s a with
  | nil => exact ⟨s, rfl, hs⟩
  | cons l ls ih =>
      rcases hstep s a l hs hls.1 with ⟨u, hu, hrel⟩
      rcases ih hrel (hls.2 u hu) with ⟨t, ht, hend⟩
      refine ⟨t, ?_, hend⟩
      rw [exec, hu, Option.bind_some, ht]

/-- The output of a schedule, where `out s l` is that of the step `l` in `s`. -/
def trace {ε : Type w} (step : σ → ℓ → Option σ) (out : σ → ℓ → List ε) (s : σ) :
    List ℓ → List ε
  | [] => []
  | l :: ls => match step s l with
    | none => []
    | some t => out s l ++ trace step out t ls

/-- The output of a schedule comes part by part. -/
theorem trace_append {ε : Type w} {out : σ → ℓ → List ε} {s t : σ} {ls ls' : List ℓ}
    (h : exec step s ls = some t) :
    trace step out s (ls ++ ls') = trace step out s ls ++ trace step out t ls' := by
  induction ls generalizing s with
  | nil =>
      cases h
      rfl
  | cons l ls ih =>
      rcases exec_cons h with ⟨u, hu, hrest⟩
      simp only [List.cons_append, trace, hu, ih hrest, List.append_assoc]

/-- What every step keeps of the state and the output so far holds at the end
    of every schedule. -/
theorem trace_of_step {ε : Type w} {out : σ → ℓ → List ε} {R : σ → List ε → Prop}
    (hstep : ∀ s l t es, R s es → step s l = some t → R t (es ++ out s l)) {s t : σ}
    {es : List ε} {ls : List ℓ} (hs : R s es) (hrun : exec step s ls = some t) :
    R t (es ++ trace step out s ls) := by
  induction ls generalizing s es with
  | nil =>
      cases hrun
      rwa [trace, List.append_nil]
  | cons l ls ih =>
      rcases exec_cons hrun with ⟨u, hu, hrest⟩
      have hend := ih (hstep s l u es hs hu) hrest
      rw [List.append_assoc] at hend
      simpa only [trace, hu] using hend

end StepSystem
