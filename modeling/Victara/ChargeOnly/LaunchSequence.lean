import Mathlib.Data.List.Infix
import Victara.ChargeOnly.Events
import Victara.Lib.Matcher

/-!
# The Keys That Launch the Memory Test

`launch_sequence` of `main.c` is given every event of the main loop. It counts
how many keys of a secret sequence have been pressed one after the other, and
returns 1 at the last one. The count is kept from call to call. A key that is
not the next one sets it back to 0 and is then forgotten, also when it is the
first of the sequence; and a whole sequence leaves it at 9, behind the end of
the table that the next key is compared with.

A read behind the end of the table is undefined, and there is no call then.

## Main definitions

* `isKeyDown`: The cases of the switch.
* `launchSequence`: The function.
* `Launch`: Its counter, and the variable of `main.c` that it sets.
* `turn`: A turn of the main loop with an event.
* `keyDowns`: The keys among the events.
* `Launches`: The calls return 1 exactly at the end of the secret sequence.

## Theorems

* `launchSequence_key`: A key moves the counter as a matcher does, and 1 is
  returned at the end.
* `exec_turn_counter`: The counter is that of a matcher.
* `counter_of_exec`: The counter of the runs of the main loop that are still
  under way.
* `exec_turn_eq_none_iff`: There is no call any more once a key has come behind
  the sequence.
* `launched_turn`: The variable is set when the counter is behind the table.
* `launched_iff`: When the memory test is going to be run.
* `launchSequence_of_exec`: A call that reads the table where it has an entry
  returns 1 if the matcher has found the sequence.
* `exec_of_launches`: All reads are from the table.
* `split_of_keyDowns`: An event among the keys comes from one of the events.
* `abandoned_of_launches`: Where the calls do what they are for, the last key of
  a sequence is answered by 1, so nothing but abandoned attempts came before the
  sequence.
* `exec_of_no_key_behind`: There is a call for every event if no key comes
  behind a sequence.
* `launches_iff`: The events for which the calls do what they are for.
-/

namespace Victara

namespace ChargeOnly

open StepSystem Matcher

def sequence : List Int :=
  [EVENT_VOLUMEUP_KEY_DOWN, EVENT_VOLUMEUP_KEY_DOWN,
    EVENT_VOLUMEDOWN_KEY_DOWN, EVENT_VOLUMEDOWN_KEY_DOWN,
    EVENT_VOLUMEUP_KEY_DOWN, EVENT_VOLUMEUP_KEY_DOWN,
    EVENT_VOLUMEDOWN_KEY_DOWN, EVENT_VOLUMEDOWN_KEY_DOWN,
    EVENT_POWER_KEY_DOWN]

/-- The cases of the switch. -/
def isKeyDown (r : Int) : Bool :=
  r = EVENT_VOLUMEDOWN_KEY_DOWN || r = EVENT_VOLUMEUP_KEY_DOWN || r = EVENT_POWER_KEY_DOWN

/-- The counter afterwards, and what is returned. -/
def launchSequence (counter : Nat) (r : Int) : Option (Nat × Int) :=
  if isKeyDown r then
    match sequence[counter]? with
    | none => none
    | some key =>
      let counter := if key = r then counter + 1 else 0
      if counter = sequence.length then some (counter, 1) else some (counter, 0)
  else some (counter, 0)

structure Launch where
  counter : Nat
  launched : Bool
  deriving DecidableEq, Repr

namespace Launch

def init : Launch := ⟨0, false⟩

/-- A turn of the main loop with an event. -/
def turn (s : Launch) (r : Int) : Option Launch :=
  match launchSequence s.counter r with
  | none => none
  | some (counter, ret) => some ⟨counter, if ret ≠ 0 then true else s.launched⟩

end Launch

/-- The keys among the events. -/
def keyDowns (es : List Int) : List Int := es.filter isKeyDown

/-- Every call reads the table where it has an entry. It returns 1 if and only
    if a key has been pressed, and the last ones are the sequence. Keys that are
    released are events as well, and change nothing. -/
def Launches (es : List Int) : Prop :=
  ∀ pre r, pre ++ [r] <+: es → ∃ s counter ret, exec Launch.turn .init pre = some s ∧
    launchSequence s.counter r = some (counter, ret) ∧
    (ret = 1 ↔ isKeyDown r = true ∧ sequence <:+ keyDowns (pre ++ [r]))

/-! ## The counter -/

/-- A key moves the counter as a matcher does, and 1 is returned at the end. -/
theorem launchSequence_key {r : Int} (h : isKeyDown r = true) (counter : Nat) :
    launchSequence counter r =
      (advance sequence counter r).map fun c => (c, if c = sequence.length then 1 else 0) := by
  unfold launchSequence advance
  rw [if_pos h]
  cases sequence[counter]? with
  | none => rfl
  | some key =>
      simp only [Option.map_some]
      by_cases hkey : key = r
      · rw [if_pos hkey]
        split <;> rfl
      · rw [if_neg hkey]
        rfl

theorem launchSequence_other {r : Int} (h : isKeyDown r = false) (counter : Nat) :
    launchSequence counter r = some (counter, 0) := by
  rw [launchSequence, if_neg (by simp [h])]

theorem turn_counter (s : Launch) (r : Int) :
    (s.turn r).map Launch.counter = (launchSequence s.counter r).map Prod.fst := by
  unfold Launch.turn
  cases launchSequence s.counter r <;> rfl

theorem keyDowns_append (es es' : List Int) :
    keyDowns (es ++ es') = keyDowns es ++ keyDowns es' := List.filter_append ..

theorem keyDowns_key {r : Int} (h : isKeyDown r = true) (es : List Int) :
    keyDowns (r :: es) = r :: keyDowns es := List.filter_cons_of_pos h

theorem keyDowns_other {r : Int} (h : isKeyDown r = false) (es : List Int) :
    keyDowns (r :: es) = keyDowns es := List.filter_cons_of_neg (by simp [h])

/-- The counter is that of a matcher that is given the keys. -/
theorem exec_turn_counter (es : List Int) (s : Launch) :
    (exec Launch.turn s es).map Launch.counter =
      exec (advance sequence) s.counter (keyDowns es) := by
  induction es generalizing s with
  | nil => rfl
  | cons r es ih =>
      have hturn := turn_counter s r
      cases hkey : isKeyDown r with
      | true =>
          rw [launchSequence_key hkey, Option.map_map] at hturn
          have hcounter : (s.turn r).map Launch.counter = advance sequence s.counter r := by
            rw [hturn]
            exact Option.map_id' ..
          rw [keyDowns_key hkey, exec, exec, ← hcounter]
          cases s.turn r with
          | none => rfl
          | some t => exact ih t
      | false =>
          rw [launchSequence_other hkey, Option.map_some] at hturn
          rw [keyDowns_other hkey, exec]
          cases hs : s.turn r with
          | none =>
              rw [hs] at hturn
              cases hturn
          | some t =>
              rw [hs, Option.map_some] at hturn
              rw [Option.bind_some, ih t, Option.some.inj hturn]

/-- The counter of the runs of the main loop that are still under way. -/
theorem counter_of_exec {es : List Int} {s : Launch} (h : exec Launch.turn .init es = some s) :
    exec (advance sequence) 0 (keyDowns es) = some s.counter := by
  have hrun := exec_turn_counter es .init
  rw [h] at hrun
  exact hrun.symm

/-- There is no call any more once a key has come behind the sequence. -/
theorem exec_turn_eq_none_iff (es : List Int) :
    exec Launch.turn .init es = none ↔
      ∃ pre post, Abandoned sequence pre ∧ post ≠ [] ∧ keyDowns es = pre ++ (sequence ++ post) := by
  rw [← exec_eq_none_iff]
  show _ ↔ exec (advance sequence) Launch.init.counter (keyDowns es) = none
  rw [← exec_turn_counter, Option.map_eq_none_iff]

/-- The variable is set when the counter is behind the table. -/
theorem launched_turn {s t : Launch} {r : Int}
    (hs : s.launched = true ↔ s.counter = sequence.length) (h : s.turn r = some t) :
    t.launched = true ↔ t.counter = sequence.length := by
  unfold Launch.turn at h
  cases hkey : isKeyDown r with
  | true =>
      rw [launchSequence_key hkey] at h
      cases hc : advance sequence s.counter r with
      | none =>
          rw [hc] at h
          cases h
      | some c =>
          -- There was something to compare with, so it has not been set.
          have hlt : s.counter ≠ sequence.length := by
            intro heq
            rw [heq, advance, List.getElem?_eq_none (Nat.le_refl _)] at hc
            cases hc
          have hnot : s.launched = false := by
            rw [Bool.eq_false_iff, Ne, hs]
            exact hlt
          rw [hc] at h
          cases h
          by_cases hend : c = sequence.length
          · simp [hend]
          · simp [hend, hnot]
  | false =>
      rw [launchSequence_other hkey] at h
      cases h
      exact hs

/-- The memory test is going to be run if the keys end in the sequence, and
    nothing but abandoned attempts came before it. -/
theorem launched_iff {es : List Int} {s : Launch} (h : exec Launch.turn .init es = some s) :
    s.launched = true ↔ ∃ pre, Abandoned sequence pre ∧ keyDowns es = pre ++ sequence := by
  have hinv : s.launched = true ↔ s.counter = sequence.length :=
    invariant_of_step (I := fun s => s.launched = true ↔ s.counter = sequence.length)
      (fun _ _ _ hs h => launched_turn hs h) (by decide) h
  rw [hinv, ← exec_eq_length_iff, counter_of_exec h, Option.some.injEq]

/-! ## What the calls return -/

/-- A call that reads the table where it has an entry returns 1 if the matcher
    has found the sequence. -/
theorem launchSequence_of_exec {es : List Int} {r : Int} {s t : Launch}
    (hs : exec Launch.turn .init es = some s) (ht : exec Launch.turn .init (es ++ [r]) = some t) :
    ∃ counter ret, launchSequence s.counter r = some (counter, ret) ∧
      (ret = 1 ↔ isKeyDown r = true ∧
        ∃ pre, Abandoned sequence pre ∧ keyDowns (es ++ [r]) = pre ++ sequence) := by
  have hcounter := counter_of_exec ht
  rw [keyDowns_append] at hcounter
  cases hkey : isKeyDown r with
  | true =>
      have hone : keyDowns [r] = [r] := keyDowns_key hkey []
      rw [hone, exec_append (counter_of_exec hs), exec] at hcounter
      rcases Option.bind_eq_some_iff.mp hcounter with ⟨c, hc, hend⟩
      cases hend
      refine ⟨t.counter, if t.counter = sequence.length then 1 else 0, ?_, ?_⟩
      · rw [launchSequence_key hkey, hc, Option.map_some]
      · have hfound : exec (advance sequence) 0 (keyDowns (es ++ [r])) = some sequence.length ↔
            ∃ pre, Abandoned sequence pre ∧ keyDowns (es ++ [r]) = pre ++ sequence :=
          exec_eq_length_iff
        rw [counter_of_exec ht, Option.some.injEq] at hfound
        rw [← hfound]
        split <;> simp_all
  | false =>
      refine ⟨s.counter, 0, launchSequence_other hkey _, ?_⟩
      simp

theorem exec_of_prefix {es es' : List Int} {t : Launch} (h : exec Launch.turn .init es' = some t)
    (hpre : es <+: es') : ∃ s, exec Launch.turn .init es = some s := by
  rcases hpre with ⟨rest, rfl⟩
  cases hs : exec Launch.turn .init es with
  | some s => exact ⟨s, rfl⟩
  | none =>
      rw [exec_append_of_none hs] at h
      cases h

/-- All reads are from the table. -/
theorem exec_of_launches {es : List Int} (h : Launches es) :
    ∃ s, exec Launch.turn .init es = some s := by
  induction es using List.reverseRecOn with
  | nil => exact ⟨.init, rfl⟩
  | append_singleton es r _ =>
      rcases h es r (List.prefix_refl _) with ⟨s, counter, ret, hs, hcall, _⟩
      rw [exec_append hs, exec, Launch.turn, hcall]
      exact ⟨_, rfl⟩

/-- An event among the keys comes from one of the events. -/
theorem split_of_keyDowns {es ks ks' : List Int} {r : Int} (h : keyDowns es = ks ++ r :: ks') :
    ∃ pre post, es = pre ++ [r] ++ post ∧ isKeyDown r = true ∧
      keyDowns (pre ++ [r]) = ks ++ [r] := by
  rcases List.filter_eq_append_iff.mp h with ⟨l, m, rfl, hl, hm⟩
  rcases List.filter_eq_cons_iff.mp hm with ⟨m₁, m₂, rfl, hm₁, hr, _⟩
  refine ⟨l ++ m₁, m₂, by simp, hr, ?_⟩
  have hnone : keyDowns m₁ = [] := List.filter_eq_nil_iff.mpr hm₁
  have hone : keyDowns [r] = [r] := keyDowns_key hr []
  have hfirst : keyDowns l = ks := hl
  rw [keyDowns_append, keyDowns_append, hnone, hone, hfirst, List.append_nil]

/-- Where the calls do what they are for, the last key of a sequence is answered
    by 1, so nothing but abandoned attempts came before the sequence. -/
theorem abandoned_of_launches {es pre post : List Int} (h : Launches es)
    (hkeys : keyDowns es = pre ++ (sequence ++ post)) : Abandoned sequence pre := by
  rcases exec_of_launches h with ⟨t, ht⟩
  have hlast : keyDowns es = pre ++ sequence.dropLast ++ EVENT_POWER_KEY_DOWN :: post := by
    rw [hkeys, List.append_assoc]
    rfl
  rcases split_of_keyDowns hlast with ⟨l, m, rfl, hkey, hl⟩
  have hfound : keyDowns (l ++ [EVENT_POWER_KEY_DOWN]) = pre ++ sequence := by
    rw [hl, List.append_assoc]
    rfl
  rcases h l _ (List.prefix_append _ m) with ⟨s, counter, ret, hs, hcall, hret⟩
  rcases exec_of_prefix ht (List.prefix_append _ m) with ⟨u, hu⟩
  rcases launchSequence_of_exec hs hu with ⟨counter', ret', hcall', hret'⟩
  rw [hcall] at hcall'
  cases hcall'
  have hone : ret = 1 := by
    refine hret.mpr ⟨hkey, ?_⟩
    rw [hfound]
    exact List.suffix_append _ _
  rcases (hret'.mp hone).2 with ⟨pre', hpre', heq⟩
  rw [hfound] at heq
  have hsame : pre = pre' := List.append_cancel_right heq
  rw [hsame]
  exact hpre'

/-- There is a call for every event if no key comes behind a sequence. -/
theorem exec_of_no_key_behind {es : List Int}
    (h : ∀ pre post, keyDowns es = pre ++ (sequence ++ post) → post = []) :
    ∃ t, exec Launch.turn .init es = some t := by
  cases ht : exec Launch.turn .init es with
  | some t => exact ⟨t, rfl⟩
  | none =>
      rcases (exec_turn_eq_none_iff es).mp ht with ⟨pre, post, _, hpost, hkeys⟩
      exact absurd (h pre post hkeys) hpost

/-- The calls do what they are for as long as every secret sequence has nothing
    but abandoned attempts before it, and no key behind it. A key that does not
    fit sets the counter back and is dropped, although it may begin another
    attempt; and when the sequence is complete the counter is left behind the
    end of the table. -/
theorem launches_iff (es : List Int) :
    Launches es ↔ ∀ pre post, keyDowns es = pre ++ (sequence ++ post) →
      Abandoned sequence pre ∧ post = [] := by
  constructor
  · intro h pre post hkeys
    have hgiven := abandoned_of_launches h hkeys
    refine ⟨hgiven, Classical.byContradiction fun hpost => ?_⟩
    have hnone := (exec_turn_eq_none_iff _).mpr ⟨pre, post, hgiven, hpost, hkeys⟩
    rcases exec_of_launches h with ⟨t, ht⟩
    rw [ht] at hnone
    cases hnone
  · intro h pre r hpre
    rcases exec_of_no_key_behind fun _ _ hkeys => (h _ _ hkeys).2 with ⟨t, ht⟩
    rcases exec_of_prefix ht hpre with ⟨u, hu⟩
    rcases exec_of_prefix hu (List.prefix_append pre [r]) with ⟨s, hs⟩
    rcases launchSequence_of_exec hs hu with ⟨counter, ret, hcall, hret⟩
    refine ⟨s, counter, ret, hs, hcall, hret.trans (and_congr_right fun _ => ?_)⟩
    constructor
    · rintro ⟨pre', _, heq⟩
      rw [heq]
      exact List.suffix_append _ _
    · rintro ⟨pre', heq⟩
      -- What has been pressed since does not matter for the attempts before.
      rcases hpre with ⟨rest, rfl⟩
      refine ⟨pre', (h pre' (keyDowns rest) ?_).1, heq.symm⟩
      rw [keyDowns_append, ← heq, List.append_assoc]

/-- Volume up once more than it should be: the last nine keys are the sequence,
    and nothing is launched. -/
theorem launches_missed : ¬ Launches (EVENT_VOLUMEUP_KEY_DOWN :: sequence) := by
  intro h
  rcases h (EVENT_VOLUMEUP_KEY_DOWN :: sequence.dropLast) EVENT_POWER_KEY_DOWN
      (List.prefix_refl _) with ⟨s, counter, ret, hs, hcall, hret⟩
  have hstart : exec Launch.turn .init (EVENT_VOLUMEUP_KEY_DOWN :: sequence.dropLast) =
      some ⟨4, false⟩ := by decide
  rw [hstart] at hs
  cases hs
  have hzero : launchSequence 4 EVENT_POWER_KEY_DOWN = some (0, 0) := by decide
  rw [hzero] at hcall
  cases hcall
  refine absurd (hret.mpr ⟨by decide, ?_⟩) (by decide)
  exact List.suffix_cons _ _

end ChargeOnly

end Victara
