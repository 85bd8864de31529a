import Victara.Agps.Effect

/-!
# The State and the List

What the state pointer says about the subscriber list. Every state handler
looks at the list it has just changed before it picks the next state, so the
relation between the two holds after every call whatever the calls were:
Released means nobody is listed, Pending and Acquired mean somebody active is.

Releasing is the one state that needs more. It is entered when only inactive
subscribers are left, but active ones may join while the release is under
way. A single-subscriber machine refuses them, so there the listed subscriber
stays inactive; a machine that only lists ATL and BIT clients never gets
there, because neither of them waits for its close to complete.

## Main definitions

* `Consistent`: State and list fit together.
* `AllInactive`, `AllPlain`: Nobody listed is active, and nobody waits.
* `Call.Plain`: A subscribe of an ATL or a BIT client.
* `Call.Fits`: A subscribe as `loc_eng` makes it on the two kinds of machine.

## Theorems

* `consistent_of_hasActive`: Any state but Released over somebody active.
* `hasActive_addSubscriber`: Joining keeps everybody who was active.
* `hasActive_addSubscriber_nil`: The first one to join an empty list is active.
* `effect_consistent`: One call keeps state and list consistent.
* `run_consistent`: So does a run, on any machine and with any subscribers.
* `dismissed_allInactive`: A dismissal makes nobody active.
* `effect_allInactive`: While a single-subscriber machine waits for the release,
  nobody joins.
* `run_allInactive`: In Releasing, a single-subscriber machine lists only
  inactive subscribers.
* `isInactive_of_not_wait`: Who never waits is never inactive.
* `effect_plain`: With ATL and BIT clients only, the list stays plain and
  Releasing is not entered: whoever is left is active.
* `run_plain`: With ATL and BIT subscribers only, Releasing is not reached.
* `servicer_state_invariant`: The invariant of the servicer machine.
-/

namespace Victara

namespace Agps

open AgpsStateMachine

/-- Released iff nobody is listed; Pending and Acquired only with somebody
    active. It is about a state and a list, and not about a machine, so that it
    can be said of a list which a handler is still changing. -/
structure Consistent (s : AgpsState) (l : List Node) : Prop where
  released_iff : s = .released ↔ l = []
  hasActive : s = .pending ∨ s = .acquired → HasActive l

theorem hasActive_ne_nil {l : List Node} (h : HasActive l) : l ≠ [] := by
  rcases h with ⟨nd, hmem, _⟩
  exact List.ne_nil_of_mem hmem

theorem consistent_new (peek : Subscriber → IPv6Addr) (type : AGpsExtType) (enforce : Bool) :
    Consistent (new peek type enforce).mStatePtr (new peek type enforce).mSubscribers :=
  ⟨⟨fun _ => rfl, fun _ => rfl⟩, fun h => by rcases h with h | h <;> cases h⟩

/-- Any state but Released over somebody active. -/
theorem consistent_of_hasActive {s : AgpsState} {l : List Node} (hs : s ≠ .released)
    (ha : HasActive l) : Consistent s l :=
  ⟨⟨fun h => absurd h hs, fun h => absurd h (hasActive_ne_nil ha)⟩, fun _ => ha⟩

theorem consistent_nil : Consistent .released [] :=
  ⟨⟨fun _ => rfl, fun _ => rfl⟩, fun h => by rcases h with h | h <;> cases h⟩

theorem consistent_releasing {l : List Node} (hl : l ≠ []) : Consistent .releasing l :=
  ⟨⟨(fun h => by cases h), fun h => absurd h hl⟩, fun h => by rcases h with h | h <;> cases h⟩

theorem afterUnsubscribe_consistent {s s' : AgpsState} {l : List Node}
    {rs : List AGpsStatusValue} (hs : s ≠ .released) (h : AfterUnsubscribe s l s' rs) :
    Consistent s' l := by
  cases h with
  | emptied hl _ =>
      rw [hl]
      exact consistent_nil
  | finished hl _ =>
      rw [hl]
      exact consistent_nil
  | idle hl _ _ => exact consistent_releasing hl
  | stays hl ha =>
      by_cases hr : s = .releasing
      · rw [hr]
        exact consistent_releasing hl
      · exact consistent_of_hasActive hs (ha hr)

/-- Joining keeps everybody who was active. -/
theorem hasActive_addSubscriber {m : AgpsStateMachine} (x : Subscriber)
    (h : HasActive m.mSubscribers) : HasActive (m.addSubscriber x).mSubscribers := by
  rcases h with ⟨nd, hmem, hact⟩
  exact ⟨nd, mem_addSubscriber m x nd hmem, hact⟩

/-- The first one to join an empty list is active. -/
theorem hasActive_addSubscriber_nil {m : AgpsStateMachine} (x : Subscriber)
    (h : m.mSubscribers = []) : HasActive (m.addSubscriber x).mSubscribers := by
  rcases addSubscriber_eq m x with ⟨_, nd, hmem, _⟩ | ⟨heq, _⟩
  · rw [h] at hmem
    exact absurd hmem List.not_mem_nil
  · rw [heq]
    exact ⟨_, List.mem_cons_self, Subscriber.clone_isInactive x⟩

theorem effect_consistent {m : AgpsStateMachine} {c : Call} {o : Outcome} (h : Effect m c o)
    (hm : Consistent m.mStatePtr m.mSubscribers) : Consistent o.state o.subscribers := by
  cases h with
  | refused x env he hl => exact hm
  | requested x env hs ha => exact consistent_of_hasActive (fun h => by cases h) ha
  -- The list was empty, and the first one to join is active.
  | requestedNothing x env hs ha =>
      exact absurd (hasActive_addSubscriber_nil x (hm.released_iff.mp hs)) ha
  | queued x env he hs =>
      rcases hs with hs | hs
      · have ha := hasActive_addSubscriber x (hm.hasActive (Or.inl hs))
        simp only [hs]
        exact consistent_of_hasActive (fun h => by cases h) ha
      · -- Releasing lists somebody, and joining takes nobody away.
        have hne : m.mSubscribers ≠ [] := fun hl => by
          have hrel := hm.released_iff.mpr hl
          rw [hs] at hrel
          cases hrel
        rcases List.exists_mem_of_ne_nil _ hne with ⟨nd, hnd⟩
        simp only [hs]
        exact consistent_releasing (List.ne_nil_of_mem (mem_addSubscriber m x nd hnd))
  | grantedAtOnce x env he hs =>
      exact consistent_of_hasActive (fun h => by cases h)
        (hasActive_addSubscriber x (hm.hasActive (Or.inr hs)))
  | unknown x env hx => exact hm
  -- There is nobody to unsubscribe in Released.
  | tolerated x env nd hnd hs =>
      have hl := hm.released_iff.mp hs
      rw [hl] at hnd
      exact absurd hnd List.not_mem_nil
  | dismissed x env nd l ns s rs hnd hx hs hd hnext => exact afterUnsubscribe_consistent hs hnext
  | granted env hs =>
      exact consistent_of_hasActive (fun h => by cases h) (hm.hasActive (Or.inl hs))
  | closed event env hs => exact consistent_nil
  | renewed event env hs hev ha =>
      exact consistent_of_hasActive (fun h => by cases h) ((hasActive_actives _).mpr ha)
  | completed event env hs hev ha => exact consistent_nil
  | ignored event env hr => exact hm
  | setAPN apn len => exact hm
  | setBearer bearer => exact hm

theorem step_consistent {m : AgpsStateMachine} (hds : m.isDS = false)
    (hm : Consistent m.mStatePtr m.mSubscribers) (c : Call) :
    Consistent (step m c).mStatePtr (step m c).mSubscribers :=
  effect_consistent (step_effect m c hds) hm

/-- State and list stay consistent over any run. -/
theorem run_consistent {m : AgpsStateMachine} (hds : m.isDS = false)
    (hm : Consistent m.mStatePtr m.mSubscribers) (cs : List Call) :
    Consistent (run m cs).mStatePtr (run m cs).mSubscribers := by
  refine (List.foldlRecOn (motive := fun m => m.isDS = false ∧
    Consistent m.mStatePtr m.mSubscribers) cs step ⟨hds, hm⟩ ?_).2
  intro m' hm' c _
  exact ⟨(step_config m' c).isDS.trans hm'.1, step_consistent hm'.1 hm'.2 c⟩

/-- Nobody listed is active. -/
def AllInactive (l : List Node) : Prop := ∀ nd ∈ l, nd.subscriber.isInactive = true

theorem allInactive_of_not_hasActive {l : List Node} (h : ¬ HasActive l) : AllInactive l := by
  intro nd hnd
  cases hact : nd.subscriber.isInactive with
  | true => rfl
  | false => exact absurd ⟨nd, hnd, hact⟩ h

theorem markInactive_of_isInactive (s : Subscriber) (h : s.isInactive = true) :
    s.markInactive.isInactive = true := by
  cases s with
  | wifi _ _ _ _ => rfl
  | ds _ _ => rfl
  | _ => exact h

/-- A dismissal makes nobody active. -/
theorem dismissed_allInactive {m : AgpsStateMachine} {nd : Node} {l : List Node}
    {ns : List Note} (h : Dismissed m nd l ns) (hm : AllInactive m.mSubscribers) :
    AllInactive l := by
  cases h with
  | waits _ =>
      intro e he
      rcases List.mem_map.mp he with ⟨e', he', rfl⟩
      split
      · exact markInactive_of_isInactive _ (hm e' he')
      · exact hm e' he'
  | removed _ => exact fun e he => hm e (List.mem_filter.mp he).1

/-- While a single-subscriber machine waits for the release, nobody joins. -/
theorem effect_allInactive {m : AgpsStateMachine} {c : Call} {o : Outcome} (h : Effect m c o)
    (he : m.mEnforceSingleSubscriber = true) (hm : Consistent m.mStatePtr m.mSubscribers)
    (hi : m.mStatePtr = .releasing → AllInactive m.mSubscribers) :
    o.state = .releasing → AllInactive o.subscribers := by
  cases h with
  | queued x env hnot hs =>
      -- Somebody is listed in Releasing, so the subscribe was refused.
      intro hrel
      refine absurd ⟨he, fun hl => ?_⟩ hnot
      have := hm.released_iff.mpr hl
      rw [show m.mStatePtr = .releasing from hrel] at this
      cases this
  | dismissed x env nd l ns s rs hnd hx hs hd hnext =>
      intro hrel
      cases hnext with
      | emptied hl _ => cases hrel
      | finished hl _ => cases hrel
      | idle hl ha _ => exact allInactive_of_not_hasActive ha
      -- It was in Releasing before.
      | stays hl ha => exact dismissed_allInactive hd (hi hrel)
  | refused _ _ _ _ => exact hi
  | unknown _ _ _ => exact hi
  | ignored _ _ _ => exact hi
  | setAPN _ _ => exact hi
  | setBearer _ => exact hi
  | requested _ _ _ _ => exact fun hrel => by cases hrel
  | requestedNothing _ _ _ _ => exact fun hrel => by cases hrel
  | grantedAtOnce _ _ _ _ => exact fun hrel => by cases hrel
  | tolerated _ _ _ _ _ => exact fun hrel => by cases hrel
  | granted _ _ => exact fun hrel => by cases hrel
  | closed _ _ _ => exact fun hrel => by cases hrel
  | renewed _ _ _ _ _ => exact fun hrel => by cases hrel
  | completed _ _ _ _ _ => exact fun hrel => by cases hrel

theorem run_allInactive {m : AgpsStateMachine} (hds : m.isDS = false)
    (he : m.mEnforceSingleSubscriber = true) (hm : Consistent m.mStatePtr m.mSubscribers)
    (hi : m.mStatePtr = .releasing → AllInactive m.mSubscribers) (cs : List Call) :
    (run m cs).mStatePtr = .releasing → AllInactive (run m cs).mSubscribers := by
  induction cs generalizing m with
  | nil => exact hi
  | cons c cs ih =>
      have hc := step_config m c
      exact ih (hc.isDS.trans hds) (hc.enforce.trans he) (step_consistent hds hm c)
        (effect_allInactive (step_effect m c hds) he hm hi)

/-- The subscribe is for an ATL or a BIT client. -/
def Call.Plain : Call → Prop
  | .subscribeRsrc x _ => x.isATL = true ∨ x.isBIT = true
  | _ => True

/-- The subscribers `loc_eng` brings to a machine: ATL and BIT to a sharing one,
    WIFI and BIT to a single-subscriber one. The classes do not ask for this. A
    WIFI client on a machine that shares could be waiting for its close when
    somebody active joins it, and Releasing would then have active subscribers. -/
def Call.Fits (enforceSingleSubscriber : Bool) : Call → Prop
  | .subscribeRsrc x _ =>
      if enforceSingleSubscriber then x.isWIFI = true ∨ x.isBIT = true
      else x.isATL = true ∨ x.isBIT = true
  | _ => True

/-- Nobody listed waits for its close to complete. -/
def AllPlain (l : List Node) : Prop := ∀ nd ∈ l, nd.subscriber.waitForCloseComplete = false

/-- Who never waits is never inactive. -/
theorem isInactive_of_not_wait (s : Subscriber) (h : s.waitForCloseComplete = false) :
    s.isInactive = false := by
  cases s with
  | wifi _ _ _ _ => simp only [Subscriber.waitForCloseComplete, Bool.true_eq_false] at h
  | ds _ _ => simp only [Subscriber.waitForCloseComplete, Bool.true_eq_false] at h
  | _ => rfl

theorem hasActive_of_allPlain {l : List Node} (h : AllPlain l) (hl : l ≠ []) : HasActive l := by
  rcases List.exists_mem_of_ne_nil l hl with ⟨nd, hnd⟩
  exact ⟨nd, hnd, isInactive_of_not_wait _ (h nd hnd)⟩

theorem clone_not_wait (x : Subscriber) (h : x.isATL = true ∨ x.isBIT = true) :
    x.clone.waitForCloseComplete = false := by
  cases x with
  | wifi _ _ _ _ =>
      simp only [Subscriber.isATL, Subscriber.isBIT, Bool.false_eq_true, or_self] at h
  | ds _ _ => simp only [Subscriber.isATL, Subscriber.isBIT, Bool.false_eq_true, or_self] at h
  | _ => rfl

theorem addSubscriber_allPlain {m : AgpsStateMachine} {x : Subscriber}
    (hx : x.isATL = true ∨ x.isBIT = true) (hm : AllPlain m.mSubscribers) :
    AllPlain (m.addSubscriber x).mSubscribers := by
  rcases addSubscriber_eq m x with ⟨heq, _⟩ | ⟨heq, _⟩
  · rw [heq]
    exact hm
  · rw [heq]
    intro nd hnd
    rcases List.mem_cons.mp hnd with rfl | hnd
    · exact clone_not_wait x hx
    · exact hm nd hnd

theorem dismissed_allPlain {m : AgpsStateMachine} {nd : Node} {l : List Node} {ns : List Note}
    (h : Dismissed m nd l ns) (hnd : nd ∈ m.mSubscribers) (hm : AllPlain m.mSubscribers) :
    AllPlain l := by
  cases h with
  | waits hwait =>
      rw [hm nd hnd] at hwait
      exact absurd hwait Bool.false_ne_true
  | removed _ => exact fun e he => hm e (List.mem_filter.mp he).1

/-- With ATL and BIT clients only, the list stays plain and Releasing is not
    entered: whoever is left is active. -/
theorem effect_plain {m : AgpsStateMachine} {c : Call} {o : Outcome} (h : Effect m c o)
    (hc : c.Plain) (hm : AllPlain m.mSubscribers ∧ m.mStatePtr ≠ .releasing) :
    AllPlain o.subscribers ∧ o.state ≠ .releasing := by
  cases h with
  | requested x env _ _ => exact ⟨addSubscriber_allPlain hc hm.1, fun h => by cases h⟩
  | requestedNothing x env _ _ => exact ⟨addSubscriber_allPlain hc hm.1, fun h => by cases h⟩
  | queued x env _ _ => exact ⟨addSubscriber_allPlain hc hm.1, hm.2⟩
  | grantedAtOnce x env _ _ => exact ⟨addSubscriber_allPlain hc hm.1, fun h => by cases h⟩
  | dismissed x env nd l ns s rs hnd hx hs hd hnext =>
      have hl := dismissed_allPlain hd hnd hm.1
      refine ⟨hl, ?_⟩
      cases hnext with
      | emptied _ _ => exact fun h => by cases h
      | finished _ _ => exact fun h => by cases h
      -- Whoever is left does not wait, and is active.
      | idle hne hna _ => exact absurd (hasActive_of_allPlain hl hne) hna
      | stays _ _ => exact hm.2
  | renewed event env hs _ _ => exact absurd hs hm.2
  | completed event env hs _ _ => exact absurd hs hm.2
  | refused _ _ _ _ => exact hm
  | unknown _ _ _ => exact hm
  | ignored _ _ _ => exact hm
  | setAPN _ _ => exact hm
  | setBearer _ => exact hm
  | tolerated _ _ _ _ _ => exact ⟨hm.1, fun h => by cases h⟩
  | granted _ _ => exact ⟨hm.1, fun h => by cases h⟩
  | closed _ _ _ => exact ⟨fun _ h => absurd h List.not_mem_nil, fun h => by cases h⟩

theorem run_plain {m : AgpsStateMachine} (hds : m.isDS = false)
    (hm : AllPlain m.mSubscribers ∧ m.mStatePtr ≠ .releasing) (cs : List Call)
    (hcs : ∀ c ∈ cs, c.Plain) :
    AllPlain (run m cs).mSubscribers ∧ (run m cs).mStatePtr ≠ .releasing := by
  refine (List.foldlRecOn (motive := fun m => m.isDS = false ∧
    AllPlain m.mSubscribers ∧ m.mStatePtr ≠ .releasing) cs step ⟨hds, hm⟩ ?_).2
  intro m' hm' c hc
  exact ⟨(step_config m' c).isDS.trans hm'.1,
    effect_plain (step_effect m' c hm'.1) (hcs c hc) hm'.2⟩

/-- After every call of every run on a machine used as `loc_eng` uses it:
    Released iff nobody is listed, somebody active in Pending and Acquired,
    somebody inactive in Releasing, and no Releasing at all as long as only ATL
    and BIT clients subscribed. It is proved of the subscribers one call at a
    time, from what a call can do to the list. -/
theorem servicer_state_invariant (peek : Subscriber → IPv6Addr) (type : AGpsExtType)
    (enforce : Bool) (cs : List Call) (hcs : ∀ c ∈ cs, c.Fits enforce) :
    let m := run (new peek type enforce) cs
    (m.mStatePtr = .released ↔ m.mSubscribers = []) ∧
      (m.mStatePtr = .pending ∨ m.mStatePtr = .acquired →
        ∃ nd ∈ m.mSubscribers, nd.subscriber.isInactive = false) ∧
      (m.mStatePtr = .releasing → ∃ nd ∈ m.mSubscribers, nd.subscriber.isInactive = true) ∧
      ((∀ c ∈ cs, c.Plain) → m.mStatePtr ≠ .releasing) := by
  intro m
  have hnew := consistent_new peek type enforce
  have hcons : Consistent m.mStatePtr m.mSubscribers := run_consistent rfl hnew cs
  have hstart : AllPlain (new peek type enforce).mSubscribers ∧
      (new peek type enforce).mStatePtr ≠ .releasing :=
    ⟨fun _ h => absurd h List.not_mem_nil, fun h => by cases h⟩
  refine ⟨hcons.released_iff, hcons.hasActive, fun hrel => ?_,
    fun hplain => (run_plain rfl hstart cs hplain).2⟩
  -- Releasing lists somebody, the empty list being that of Released.
  have hne : m.mSubscribers ≠ [] := fun hl => by
    have := hcons.released_iff.mpr hl
    rw [hrel] at this
    cases this
  rcases List.exists_mem_of_ne_nil _ hne with ⟨nd, hnd⟩
  cases enforce with
  | true =>
      have hall : AllInactive m.mSubscribers :=
        run_allInactive rfl rfl hnew (fun h => by cases h) cs hrel
      exact ⟨nd, hnd, hall nd hnd⟩
  | false =>
      -- Whoever fits a sharing machine is an ATL or a BIT client.
      refine absurd hrel (run_plain rfl hstart cs (fun c hc => ?_)).2
      have hfit := hcs c hc
      cases c with
      | subscribeRsrc x env => exact hfit
      | _ => exact trivial

/-- A WIFI client that subscribes, is unsubscribed and waits for the close. -/
theorem servicer_state_invariant_wifi :
    let m := run (new (fun _ => Vector.replicate 16 0) AGPS_TYPE_WIFI true)
      [.subscribeRsrc (.newWifi none none 1) ⟨0, false⟩,
        .unsubscribeRsrc (.newWifi none none 1) ⟨0, false⟩]
    m.mStatePtr = .releasing ∧ ∃ nd ∈ m.mSubscribers, nd.subscriber.isInactive = true := by
  have h := servicer_state_invariant (fun _ => Vector.replicate 16 0) AGPS_TYPE_WIFI true
    [.subscribeRsrc (.newWifi none none 1) ⟨0, false⟩,
      .unsubscribeRsrc (.newWifi none none 1) ⟨0, false⟩]
    (by
      intro c hc
      rcases List.mem_pair.mp hc with rfl | rfl
      · exact Or.inl rfl
      · exact trivial)
  exact ⟨rfl, h.2.2.1 rfl⟩

end Agps

end Victara
