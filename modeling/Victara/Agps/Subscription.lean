import Victara.Agps.Invariant

/-!
# Whether a Subscription Is Kept

A client that subscribes is either told no, or it expects to hear of the
connection later on, and for that an active subscriber has to be listed for
it. `addSubscriber` adds nobody when an equal subscriber is listed already.
That is right as long as the listed one is active. One that was unsubscribed
and waits for its close is listed too, but it is inactive: the notifications
pass it by and the end of the release deletes it, and with it goes the new
subscription.

The results hold of every machine, the DS one included, in whatever state.

## Main definitions

* `ListedActive`: An active subscriber equal to `x` is listed.
* `Kept`: What a subscribe owes to its caller.
* `openedAndClosed`: The calls that bring a DS machine to Releasing with its
  only subscriber still listed: an emergency SUPL connection is opened, granted
  and closed.

## Theorems

* `listed_addSubscriber_iff`: When an active equal is listed after adding.
* `dispatch_subscribe_spec`: A subscribe that is not refused adds and does not
  deny.
* `subscribeRsrc_refused`: A single-subscriber machine that has its subscriber
  says no and changes nothing.
* `kept_accepted_iff`: Nothing but a grant is said to who is not refused, so for
  it `Kept` comes down to the list.
* `subscribe_kept_iff`: Exactly when a subscription is kept.
* `subscribe_kept_of_fits`: The agnss and internet machines, used as `loc_eng`
  uses them, keep every one.
-/

namespace Victara

namespace Agps

open AgpsStateMachine

/-- An active subscriber equal to `x` is listed. -/
def ListedActive (m : AgpsStateMachine) (x : Subscriber) : Prop :=
  ∃ nd ∈ m.mSubscribers, nd.subscriber.isInactive = false ∧
    nd.subscriber.equals m.peek x = true

/-- After a call that brought `x`: it was denied, or is listed and active.
    Nobody has to be listed who was told no at once, and somebody equal to `x`
    may be listed in its place. -/
def Kept (m : AgpsStateMachine) (x : Subscriber) : Prop :=
  (none, x, .rsrcDenied) ∈ notes m.out ∨ ListedActive m x

instance (m : AgpsStateMachine) (x : Subscriber) : Decidable (ListedActive m x) :=
  inferInstanceAs (Decidable (∃ nd ∈ m.mSubscribers, nd.subscriber.isInactive = false ∧
    nd.subscriber.equals m.peek x = true))

instance (m : AgpsStateMachine) (x : Subscriber) : Decidable (Kept m x) :=
  inferInstanceAs (Decidable (_ ∨ _))

/-- Adding leaves an active equal unless the only equals listed are inactive. -/
theorem listed_addSubscriber_iff (m : AgpsStateMachine) (x : Subscriber) :
    ListedActive (m.addSubscriber x) x ↔
      (∀ nd ∈ m.mSubscribers, nd.subscriber.equals m.peek x = false) ∨ ListedActive m x := by
  rcases addSubscriber_eq m x with ⟨heq, nd, hnd, hx⟩ | ⟨heq, hnone⟩
  · rw [heq]
    constructor
    · exact Or.inr
    · rintro (hnone | hlisted)
      · rw [hnone nd hnd] at hx
        exact absurd hx Bool.false_ne_true
      · exact hlisted
  · rw [heq]
    constructor
    · exact fun _ => Or.inl hnone
    · intro _
      exact ⟨_, List.mem_cons_self, Subscriber.clone_isInactive x,
        Subscriber.clone_equals m.peek x⟩

/-- What a state does with a subscribe: the list is that of `addSubscriber`,
    and the only thing said is that the connection is granted. -/
theorem dispatch_subscribe_spec (env : Env) (m : AgpsStateMachine) (x : Subscriber)
    (hout : m.out = []) :
    (m.dispatch env (.subscribe x)).mSubscribers = (m.addSubscriber x).mSubscribers ∧
      ∀ n ∈ notes (m.dispatch env (.subscribe x)).out, n = (none, x, .rsrcGranted) := by
  have hadd : notes (m.addSubscriber x).out = [] := by
    rw [addSubscriber_out, hout, notes_nil]
  have hquiet : ∀ n ∈ notes (m.addSubscriber x).out, n = (none, x, .rsrcGranted) := by
    rw [hadd]
    exact fun n hn => absurd hn List.not_mem_nil
  rw [dispatch]
  cases m.mStatePtr with
  | released =>
      rcases sendRsrcRequest_sends env (m.addSubscriber x) .requestAgpsDataConn with ⟨rs, hs⟩
      refine ⟨hs.mSubscribers, ?_⟩
      simp only [AgpsReleasedState.onRsrcEvent]
      rw [hs.notes, List.append_nil]
      exact hquiet
  | pending => exact ⟨rfl, hquiet⟩
  | acquired =>
      have hn := ((notifyRsrcStatus_sends m none x (.addressed x .rsrcGranted false) rfl
        (Subscriber.equals_self m.peek x)).2).addSubscriber x
      refine ⟨hn.mSubscribers, fun n h => ?_⟩
      simp only [AgpsAcquiredState.onRsrcEvent] at h
      rw [hn.notes, hadd, List.nil_append] at h
      exact List.mem_singleton.mp h
  | releasing => exact ⟨rfl, hquiet⟩

/-- A single-subscriber machine that has its subscriber says no and changes
    nothing. -/
theorem subscribeRsrc_refused (env : Env) (m : AgpsStateMachine) (x : Subscriber)
    (he : m.mEnforceSingleSubscriber = true) (hl : m.mSubscribers ≠ []) :
    (none, x, .rsrcDenied) ∈ notes (m.subscribeRsrc env x).out := by
  have hboth : (m.mEnforceSingleSubscriber && m.hasSubscribers) = true := by
    rw [he, Bool.true_and, hasSubscribers_iff]
    exact hl
  rw [subscribeRsrc, if_pos hboth]
  have hs := (notifyRsrcStatus_sends m none x (.broadcast .broadcastAll .rsrcDenied true) rfl
    rfl).2
  rw [hs.notes]
  exact List.mem_append_right _ List.mem_cons_self

theorem subscribeRsrc_accepted (env : Env) (m : AgpsStateMachine) (x : Subscriber)
    (h : ¬ (m.mEnforceSingleSubscriber = true ∧ m.mSubscribers ≠ [])) :
    m.subscribeRsrc env x = m.dispatch env (.subscribe x) := by
  have hnot : ¬ (m.mEnforceSingleSubscriber && m.hasSubscribers) = true := by
    rw [Bool.and_eq_true, hasSubscribers_iff]
    exact h
  rw [subscribeRsrc, if_neg hnot]

/-- Nothing but a grant is said to who is not refused, so for it `Kept` comes
    down to the list. -/
theorem kept_accepted_iff (m : AgpsStateMachine) (x : Subscriber) (env : Env)
    (h : ¬ (m.mEnforceSingleSubscriber = true ∧ m.mSubscribers ≠ [])) :
    Kept (step m (.subscribeRsrc x env)) x ↔
      (∀ nd ∈ m.mSubscribers, nd.subscriber.equals m.peek x = false) ∨ ListedActive m x := by
  have hpeek := (step_config m (.subscribeRsrc x env)).peek
  have hstep : step m (.subscribeRsrc x env) = m.fresh.dispatch env (.subscribe x) :=
    subscribeRsrc_accepted env m.fresh x h
  rcases dispatch_subscribe_spec env m.fresh x rfl with ⟨hlist, hnotes⟩
  rw [← hstep] at hlist hnotes
  refine Iff.trans ?_ (listed_addSubscriber_iff m.fresh x)
  constructor
  · rintro (hdenied | ⟨nd, hnd, hact, hx⟩)
    · cases hnotes _ hdenied
    · rw [hlist] at hnd
      rw [hpeek] at hx
      refine ⟨nd, hnd, hact, ?_⟩
      rw [addSubscriber_peek]
      exact hx
  · rintro ⟨nd, hnd, hact, hx⟩
    rw [addSubscriber_peek] at hx
    refine Or.inr ⟨nd, hlist ▸ hnd, hact, ?_⟩
    rw [hpeek]
    exact hx

/-- Exactly when a subscription is kept: the machine refuses it openly, or no
    subscriber equal to it is listed, or one that is listed is active. It fails
    for who comes back while its close is not complete: `addSubscriber` finds
    the inactive entry and takes it for the subscription. -/
theorem subscribe_kept_iff (m : AgpsStateMachine) (x : Subscriber) (env : Env) :
    Kept (step m (.subscribeRsrc x env)) x ↔
      (m.mEnforceSingleSubscriber = true ∧ m.mSubscribers ≠ []) ∨
      (∀ nd ∈ m.mSubscribers, nd.subscriber.equals m.peek x = false) ∨
      (∃ nd ∈ m.mSubscribers, nd.subscriber.isInactive = false ∧
        nd.subscriber.equals m.peek x = true) := by
  by_cases hsingle : m.mEnforceSingleSubscriber = true ∧ m.mSubscribers ≠ []
  · have hdenied := subscribeRsrc_refused env m.fresh x hsingle.1 hsingle.2
    exact ⟨fun _ => Or.inl hsingle, fun _ => Or.inl hdenied⟩
  · rw [kept_accepted_iff m x env hsingle]
    exact ⟨Or.inr, fun h => h.resolve_left hsingle⟩

/-- The calls that bring a DS machine to Releasing with its only subscriber
    still listed: an emergency SUPL connection is opened, granted and closed. -/
def openedAndClosed : List Call :=
  [.subscribeRsrc (.ds 5 false) ⟨0, true⟩, .onRsrcEvent .rsrcGranted ⟨0, true⟩,
    .unsubscribeRsrc (.ds 5 false) ⟨0, true⟩]

/-- The connection is opened again under its handle before the close is
    confirmed. The machine takes the closed subscriber for the new one, and
    the end of the release deletes it. -/
theorem subscribe_lost_by_ds :
    let m := run (newDS fun _ => Vector.replicate 16 0) openedAndClosed
    ¬ Kept (step m (.subscribeRsrc (.ds 5 false) ⟨0, true⟩)) (.ds 5 false) ∧
      (run m [.subscribeRsrc (.ds 5 false) ⟨0, true⟩,
        .onRsrcEvent .rsrcReleased ⟨0, true⟩]).mSubscribers = [] := by
  decide +kernel

/-- The machines of `loc_eng`, with the subscribers it brings to them, keep
    every subscription: a sharing one lists nobody inactive, and a
    single-subscriber one refuses whoever is not the first. -/
theorem subscribe_kept_of_fits (peek : Subscriber → IPv6Addr) (type : AGpsExtType)
    (enforce : Bool) (cs : List Call) (hcs : ∀ c ∈ cs, c.Fits enforce) (x : Subscriber)
    (env : Env) :
    Kept (step (run (new peek type enforce) cs) (.subscribeRsrc x env)) x := by
  have hconf := run_config (new peek type enforce) cs
  by_cases hl : (run (new peek type enforce) cs).mSubscribers = []
  · rw [kept_accepted_iff _ x env (fun h => h.2 hl), hl]
    exact Or.inl fun nd hnd => absurd hnd List.not_mem_nil
  · cases enforce with
    -- One client at a time: with somebody listed everybody else is refused.
    | true => exact Or.inl (subscribeRsrc_refused env _ x hconf.enforce hl)
    -- ATL and BIT clients do not wait for their close, so whoever is listed is active.
    | false =>
        have hplain : AllPlain (run (new peek type false) cs).mSubscribers := by
          refine (run_plain rfl ⟨fun _ h => absurd h List.not_mem_nil, fun h => by cases h⟩ cs
            (m := new peek type false) (fun c hc => ?_)).1
          have hfit := hcs c hc
          cases c with
          | subscribeRsrc x env => exact hfit
          | _ => exact trivial
        have henforce : (run (new peek type false) cs).mEnforceSingleSubscriber = false :=
          hconf.enforce
        rw [kept_accepted_iff _ x env (fun h => by rw [henforce] at h; cases h.1)]
        by_cases hx : ∃ nd ∈ (run (new peek type false) cs).mSubscribers,
            nd.subscriber.equals (run (new peek type false) cs).peek x = true
        · rcases hx with ⟨nd, hnd, hx⟩
          exact Or.inr ⟨nd, hnd, isInactive_of_not_wait _ (hplain nd hnd), hx⟩
        · refine Or.inl fun nd hnd => ?_
          rw [← Bool.not_eq_true]
          exact fun h => hx ⟨nd, hnd, h⟩

end Agps

end Victara
