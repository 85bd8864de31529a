import Victara.Agps.Emits

/-!
# What a Call Does on the DS Machine

The counterpart of `Effect` for `DSStateMachine`. A DS machine does not ask the
framework: it starts and stops a data call itself, its start request can fail,
and what it tells goes to the modem. So an outcome here is the new state, the
new list and the whole output.

`delay_callback` calls `retryCallback` when the retry timer expires, so it is
one of the calls.

The two pieces of work that all handlers share are those of `Effect`, stated
there of any machine. What is new is what is sent: a start request may be busy,
fail or fall back, and each of these is an outcome with its own output. So the
output of an outcome is a list in which the notifications and the data calls
have their places, and the results about connections are read off these lists.

## Main definitions

* `DSCall`, `stepDS`: The calls on a DS machine.
* `dismissMsgs`: What an unsubscribe outside Released sends at once.
* `stopMsgs`: The stop request, when one is made.
* `AgpsStateMachine.toldAll`: What the subscribers of a list are told.
* `reactsDS`: Whether an event does something on a DS machine: a RELEASED in
  Pending is taken for a DENIED.
* `DSEffect`: The possible outcomes, given the call.

## Theorems

* `dsEffect_of_emits`: An outcome is read off what was sent on the way to it.
* `addSubscriber_emits`: What `addSubscriber` changes, `Emits` does not compare.
* `notifyAll_emits`: The broadcasts that remove whom they are for.
* `afterUnsubscribe_effectDS`: The common tail of an unsubscribe, once the
  subscriber is dismissed.
* `onReleased_effectDS`: RELEASED or DENIED in Releasing.
* `dispatch_ignoredDS`: An event in a state that does not react to it.
* `stepDS_effect`: Every call has one of these outcomes.
-/

namespace Victara

namespace Agps

open AgpsStateMachine

inductive DSCall
  | call (c : Call)
  | retryCallback
  deriving DecidableEq, Repr

/-- The effect of a call, with `out` holding what this call sent. -/
def stepDS (m : AgpsStateMachine) : DSCall → AgpsStateMachine
  | .call c => step m c
  | .retryCallback => m.fresh.retryCallback

/-- What `dismiss` sends: a DS subscriber's ATL is closed, a WIFI subscriber
    waits in silence, and the others are told. -/
def dismissMsgs (m : AgpsStateMachine) (nd : Node) : List Output :=
  match nd.subscriber with
  | .ds id _ => [.atlCloseStatus id true]
  | .wifi _ _ _ _ => []
  | s => (addressees m (.addressed s .rsrcUnsubscribe true)).flatMap
      fun e => m.told (some e.addr) e.subscriber .rsrcUnsubscribe

def stopMsgs (rs : List AGpsStatusValue) : List Output := rs.map fun _ => .stopDataCall

/-- What the subscribers of a list are told. -/
def AgpsStateMachine.toldAll (m : AgpsStateMachine) (l : List Node) (status : AgpsRsrcStatus) :
    List Output :=
  l.flatMap fun nd => m.told (some nd.addr) nd.subscriber status

/-- Whether an event does something on a DS machine: a RELEASED in Pending is
    taken for a DENIED. -/
def reactsDS (s : AgpsState) (event : AgpsRsrcStatus) : Bool :=
  reacts s event || (s == .pending && event == .rsrcReleased)

/-- The new state and list, and all that was sent. -/
inductive DSEffect (m : AgpsStateMachine) :
    DSCall → AgpsState → List Node → List Output → Prop
  | refused (x : Subscriber) (env : Env) (he : m.mEnforceSingleSubscriber = true) :
      DSEffect m (.call (.subscribeRsrc x env)) m.mStatePtr m.mSubscribers
        (m.told none x .rsrcDenied)
  /-- The first one starts a data call, or stays listed in Released. -/
  | requested (x : Subscriber) (env : Env) (hst : m.mStatePtr = .released) :
      DSEffect m (.call (.subscribeRsrc x env))
        (if env.openAndStartDataCall = 0 then .pending else .released)
        (m.addSubscriber x).mSubscribers (startMsgs env (m.addSubscriber x))
  | waits (x : Subscriber) (env : Env) (hst : m.mStatePtr = .pending ∨ m.mStatePtr = .releasing) :
      DSEffect m (.call (.subscribeRsrc x env)) m.mStatePtr (m.addSubscriber x).mSubscribers []
  | served (x : Subscriber) (env : Env) (hst : m.mStatePtr = .acquired) :
      DSEffect m (.call (.subscribeRsrc x env)) .acquired (m.addSubscriber x).mSubscribers
        (m.told none x .rsrcGranted)
  | unlisted (x : Subscriber) (env : Env)
      (hx : ∀ nd ∈ m.mSubscribers, nd.subscriber.equals m.peek x = false) :
      DSEffect m (.call (.unsubscribeRsrc x env)) m.mStatePtr m.mSubscribers []
  /-- Released tells the client, and keeps the subscriber listed. -/
  | kept (x : Subscriber) (env : Env) (nd : Node) (hst : m.mStatePtr = .released)
      (hnd : nd ∈ m.mSubscribers) (hx : nd.subscriber.equals m.peek x = true) :
      DSEffect m (.call (.unsubscribeRsrc x env)) .released m.mSubscribers
        (m.told (some nd.addr) nd.subscriber .rsrcUnsubscribe)
  | dismissed (x : Subscriber) (env : Env) (nd : Node) (l : List Node) (ns : List Note)
      (s : AgpsState) (rs : List AGpsStatusValue) (hst : m.mStatePtr ≠ .released)
      (hnd : nd ∈ m.mSubscribers) (hx : nd.subscriber.equals m.peek x = true)
      (hl : Dismissed m nd l ns) (hs : AfterUnsubscribe m.mStatePtr l s rs) :
      DSEffect m (.call (.unsubscribeRsrc x env)) s l (dismissMsgs m nd ++ stopMsgs rs)
  | ignored (event : AgpsRsrcStatus) (env : Env) (hr : reactsDS m.mStatePtr event = false) :
      DSEffect m (.call (.onRsrcEvent event env)) m.mStatePtr m.mSubscribers []
  | connected (env : Env) (hst : m.mStatePtr = .pending) :
      DSEffect m (.call (.onRsrcEvent .rsrcGranted env)) .acquired m.mSubscribers
        (m.toldAll (actives m.mSubscribers) .rsrcGranted)
  | denied (event : AgpsRsrcStatus) (env : Env) (hst : m.mStatePtr = .pending)
      (hev : event = .rsrcReleased ∨ event = .rsrcDenied) :
      DSEffect m (.call (.onRsrcEvent event env)) .released []
        (m.toldAll m.mSubscribers .rsrcDenied)
  | dropped (env : Env) (hst : m.mStatePtr = .acquired) :
      DSEffect m (.call (.onRsrcEvent .rsrcReleased env)) .released []
        (m.toldAll m.mSubscribers .rsrcReleased)
  /-- The request is made once the inactive are gone, and nobody looks at its
      result. -/
  | restarted (event : AgpsRsrcStatus) (env : Env) (hst : m.mStatePtr = .releasing)
      (hev : event = .rsrcReleased ∨ event = .rsrcDenied) (ha : HasActive m.mSubscribers) :
      DSEffect m (.call (.onRsrcEvent event env)) .pending (actives m.mSubscribers)
        (m.toldAll (inactives m.mSubscribers) event ++
          startMsgs env (m.notifySubscribers (.broadcast .broadcastInactive event true)))
  | finished (event : AgpsRsrcStatus) (env : Env) (hst : m.mStatePtr = .releasing)
      (hev : event = .rsrcReleased ∨ event = .rsrcDenied) (ha : ¬ HasActive m.mSubscribers) :
      DSEffect m (.call (.onRsrcEvent event env)) .released (actives m.mSubscribers)
        (m.toldAll (inactives m.mSubscribers) event)
  | setAPN (apn : Option CString) (len : Nat) :
      DSEffect m (.call (.setAPN apn len)) m.mStatePtr m.mSubscribers []
  | setBearer (bearer : AGpsBearerType) :
      DSEffect m (.call (.setBearer bearer)) m.mStatePtr m.mSubscribers []
  | retried (nd : Node) (hnd : m.firstActive = some nd) :
      DSEffect m .retryCallback m.mStatePtr m.mSubscribers [.requestSuplES nd.subscriber.ID]
  | noRetry (hnd : m.firstActive = none) :
      DSEffect m .retryCallback m.mStatePtr m.mSubscribers []

theorem sendRsrcRequest_eqDS (env : Env) (m : AgpsStateMachine) (action : AGpsStatusValue)
    (hm : m.isDS = true) : m.sendRsrcRequest env action = m.sendRsrcRequestDS env action := by
  simp only [sendRsrcRequest, hm, if_true]

/-- An outcome is read off what was sent on the way to it. -/
theorem dsEffect_of_emits {m m' : AgpsStateMachine} {c : DSCall} {s : AgpsState} {l : List Node}
    {os : List Output} (heff : DSEffect m c s l os) (hout : m.out = [])
    (h : Emits { m with mSubscribers := l } m' os) :
    DSEffect m c s m'.mSubscribers m'.out := by
  have hlist : m'.mSubscribers = l := h.sends.mSubscribers
  have hsent : m'.out = os := by
    rw [h.out]
    simp only [hout, List.nil_append]
  rw [hlist, hsent]
  exact heff

/-- What `addSubscriber` changes, `Emits` does not compare. -/
theorem addSubscriber_emits {m m' : AgpsStateMachine} {os : List Output} (x : Subscriber)
    (h : Emits (m.addSubscriber x) m' os) (hout : m.out = []) :
    m'.mSubscribers = (m.addSubscriber x).mSubscribers ∧ m'.out = os := by
  refine ⟨h.sends.mSubscribers, ?_⟩
  rw [h.out, addSubscriber_out, hout, List.nil_append]

theorem dismiss_emits (m : AgpsStateMachine) (nd : Node) :
    ∃ l ns, Dismissed m nd l ns ∧
      Emits { m with mSubscribers := l } (m.dismiss nd) (dismissMsgs m nd) := by
  unfold dismiss dismissMsgs
  cases hsub : nd.subscriber with
  | ds id inactive =>
      have hwait : nd.subscriber.waitForCloseComplete = true := by
        rw [hsub]
        rfl
      refine ⟨_, [], .waits hwait, ?_⟩
      simp only [Subscriber.waitForCloseComplete, if_true, setInactive, hsub, informStatus]
      exact emit_emits _ _
  | wifi senderId ssid password inactive =>
      have hwait : nd.subscriber.waitForCloseComplete = true := by
        rw [hsub]
        rfl
      refine ⟨_, [], .waits hwait, ?_⟩
      simp only [Subscriber.waitForCloseComplete, if_true, setInactive, hsub]
      exact Emits.refl _
  -- BIT and ATL subscribers do not wait.
  | bit id v6 =>
      have hwait : nd.subscriber.waitForCloseComplete = false := by
        rw [hsub]
        rfl
      refine ⟨_, _, .removed hwait, ?_⟩
      rw [hsub]
      exact notifySubscribers_delete_emits m (.addressed (.bit id v6) .rsrcUnsubscribe true) rfl rfl
  | atl id mode =>
      have hwait : nd.subscriber.waitForCloseComplete = false := by
        rw [hsub]
        rfl
      refine ⟨_, _, .removed hwait, ?_⟩
      rw [hsub]
      exact notifySubscribers_delete_emits m (.addressed (.atl id mode) .rsrcUnsubscribe true) rfl
        rfl

/-- The broadcasts that remove whom they are for. -/
theorem notifyAll_emits (m : AgpsStateMachine) (event : AgpsRsrcStatus)
    (hev : event.isDelivered = true) :
    Emits { m with mSubscribers := [] } (m.notifySubscribers (.broadcast .broadcastAll event true))
      (m.toldAll m.mSubscribers event) := by
  have h := notifySubscribers_delete_emits m (.broadcast .broadcastAll event true) rfl hev
  simp only [forMe_broadcastAll, Bool.not_true, List.filter_false, addressees,
    List.filter_true] at h
  exact h

theorem notifyInactive_emits (m : AgpsStateMachine) (event : AgpsRsrcStatus)
    (hev : event.isDelivered = true) :
    Emits { m with mSubscribers := actives m.mSubscribers }
      (m.notifySubscribers (.broadcast .broadcastInactive event true))
      (m.toldAll (inactives m.mSubscribers) event) := by
  have h := notifySubscribers_delete_emits m (.broadcast .broadcastInactive event true) rfl hev
  simp only [forMe_broadcastInactive] at h
  exact h

section

variable (env : Env) (m : AgpsStateMachine) (hm : m.isDS = true) (hout : m.out = [])

include hm hout

theorem dispatch_subscribe_effectDS (x : Subscriber) :
    let m' := m.dispatch env (.subscribe x)
    DSEffect m (.call (.subscribeRsrc x env)) m'.mStatePtr m'.mSubscribers m'.out := by
  unfold dispatch
  cases hst : m.mStatePtr with
  | released =>
      have hds : (m.addSubscriber x).isDS = true := by rw [addSubscriber_isDS, hm]
      have hstart := sendRsrcRequestDS_start env (m.addSubscriber x)
      rcases addSubscriber_emits x hstart.1 hout with ⟨hlist, hsent⟩
      simp only [AgpsReleasedState.onRsrcEvent, sendRsrcRequest_eqDS env _ _ hds, hstart.2]
      rw [hlist, hsent]
      exact .requested x env hst
  | pending =>
      simp only [AgpsPendingState.onRsrcEvent, addSubscriber_out, hout]
      rw [← hst]
      exact .waits x env (Or.inl hst)
  | acquired =>
      simp only [AgpsAcquiredState.onRsrcEvent]
      have htold := notifyRsrcStatus_emits m none x (.addressed x .rsrcGranted false) rfl
        (Subscriber.equals_self m.peek x)
      -- The list it is added to is the one before the notification.
      have hadd := htold.sends.addSubscriber x
      rw [addSubscriber_out, htold.out, hout, List.nil_append, hadd.mSubscribers]
      exact .served x env hst
  | releasing =>
      simp only [AgpsReleasingState.onRsrcEvent, addSubscriber_out, hout]
      rw [← hst]
      exact .waits x env (Or.inr hst)

theorem subscribeRsrc_effectDS (x : Subscriber) :
    let m' := m.subscribeRsrc env x
    DSEffect m (.call (.subscribeRsrc x env)) m'.mStatePtr m'.mSubscribers m'.out := by
  unfold subscribeRsrc
  by_cases hsingle : (m.mEnforceSingleSubscriber && m.hasSubscribers) = true
  · simp only [hsingle, if_true]
    have htold := notifyRsrcStatus_emits m none x (.broadcast .broadcastAll .rsrcDenied true) rfl rfl
    rw [htold.sends.mStatePtr]
    rw [Bool.and_eq_true] at hsingle
    exact dsEffect_of_emits (.refused x env hsingle.1) hout htold
  · simp only [hsingle, if_false, Bool.false_eq_true]
    exact dispatch_subscribe_effectDS env m hm hout x

/-- The common tail of an unsubscribe, once the subscriber is dismissed. -/
theorem afterUnsubscribe_effectDS (x : Subscriber) (nd : Node) (s : AgpsState)
    (hnd : nd ∈ m.mSubscribers) (hx : nd.subscriber.equals m.peek x = true)
    (hst : m.mStatePtr = s) (hs : s = .pending ∨ s = .acquired) :
    let r := AgpsState.afterUnsubscribe env (m.dismiss nd) s
    DSEffect m (.call (.unsubscribeRsrc x env)) r.2 r.1.mSubscribers r.1.out := by
  subst hst
  have hnot : m.mStatePtr ≠ .released ∧ m.mStatePtr ≠ .releasing := by
    rcases hs with h | h <;> rw [h] <;> decide
  rcases dismiss_emits m nd with ⟨l, ns, hl, hemits⟩
  have hds : (m.dismiss nd).isDS = true := hemits.sends.isDS.trans hm
  rcases afterUnsubscribe_cases env (m.dismiss nd) m.mStatePtr hnot.2 with
    ⟨_, hafter, heq⟩ | ⟨hafter, heq⟩
  · rw [hemits.sends.mSubscribers] at hafter
    refine dsEffect_of_emits (.dismissed x env nd l ns _ _ hnot.1 hnd hx hl hafter) hout ?_
    rw [heq, sendRsrcRequest_eqDS env _ _ hds]
    exact hemits.trans (sendRsrcRequestDS_stop env _)
  · rw [hemits.sends.mSubscribers] at hafter
    refine dsEffect_of_emits (.dismissed x env nd l ns _ _ hnot.1 hnd hx hl hafter) hout ?_
    rw [heq]
    simpa only [stopMsgs, List.map_nil, List.append_nil] using hemits

theorem dispatch_unsubscribe_effectDS (x : Subscriber) (nd : Node) (hnd : nd ∈ m.mSubscribers)
    (hx : nd.subscriber.equals m.peek x = true) :
    let m' := m.dispatch env (.unsubscribe nd)
    DSEffect m (.call (.unsubscribeRsrc x env)) m'.mStatePtr m'.mSubscribers m'.out := by
  unfold dispatch
  cases hst : m.mStatePtr with
  | released =>
      simp only [AgpsReleasedState.onRsrcEvent]
      have htold := notifyRsrcStatus_emits m (some nd.addr) nd.subscriber
        (.addressed nd.subscriber .rsrcUnsubscribe false) rfl
        (Subscriber.equals_self m.peek nd.subscriber)
      exact dsEffect_of_emits (.kept x env nd hst hnd hx) hout htold
  | pending => exact afterUnsubscribe_effectDS env m hm hout x nd .pending hnd hx hst (Or.inl rfl)
  | acquired =>
      exact afterUnsubscribe_effectDS env m hm hout x nd .acquired hnd hx hst (Or.inr rfl)
  | releasing =>
      simp only [AgpsReleasingState.onRsrcEvent]
      rcases dismiss_emits m nd with ⟨l, ns, hl, hemits⟩
      -- The data call is being stopped already.
      have hafter : AfterUnsubscribe m.mStatePtr l
          (if (m.dismiss nd).hasSubscribers = true then .releasing else .released) [] := by
        have hsubs := hasSubscribers_iff (m.dismiss nd)
        rw [hemits.sends.mSubscribers] at hsubs
        rw [hst]
        by_cases hempty : l = []
        · have hno : ¬ (m.dismiss nd).hasSubscribers = true := fun h => hsubs.mp h hempty
          rw [if_neg hno]
          exact .finished hempty rfl
        · rw [if_pos (hsubs.mpr hempty)]
          exact .stays hempty (fun h => absurd rfl h)
      have hnot : m.mStatePtr ≠ .released := by
        rw [hst]
        decide
      refine dsEffect_of_emits (.dismissed x env nd l ns _ [] hnot hnd hx hl hafter) hout ?_
      simpa only [stopMsgs, List.map_nil, List.append_nil] using hemits

theorem unsubscribeRsrc_effectDS (x : Subscriber) :
    let m' := (m.unsubscribeRsrc env x).1
    DSEffect m (.call (.unsubscribeRsrc x env)) m'.mStatePtr m'.mSubscribers m'.out := by
  rcases unsubscribeRsrc_cases env m x with ⟨nd, hnd, hx, heq⟩ | ⟨hx, heq⟩
  · rw [heq]
    exact dispatch_unsubscribe_effectDS env m hm hout x nd hnd hx
  · rw [heq]
    exact dsEffect_of_emits (.unlisted x env hx) hout (Emits.refl m)

/-- RELEASED or DENIED in Releasing. -/
theorem onReleased_effectDS (event : AgpsRsrcStatus) (hst : m.mStatePtr = .releasing)
    (hev : event = .rsrcReleased ∨ event = .rsrcDenied) :
    let r := AgpsReleasingState.onReleased env m event
    DSEffect m (.call (.onRsrcEvent event env)) r.2 r.1.mSubscribers r.1.out := by
  have hdeliv : event.isDelivered = true := by rcases hev with rfl | rfl <;> rfl
  have hnote := notifyInactive_emits m event hdeliv
  rcases onReleased_cases env m event hdeliv with ⟨ha, heq⟩ | ⟨ha, heq⟩
  · rw [heq]
    refine dsEffect_of_emits (.restarted event env hst hev ha) hout ?_
    rw [sendRsrcRequest_eqDS env _ _ (hnote.sends.isDS.trans hm)]
    exact hnote.trans (sendRsrcRequestDS_start env _).1
  · rw [heq]
    exact dsEffect_of_emits (.finished event env hst hev ha) hout hnote

omit hm in
/-- An event in a state that does not react to it. -/
theorem dispatch_ignoredDS (event : AgpsRsrcStatus) (hr : reactsDS m.mStatePtr event = false) :
    let m' := m.onRsrcEventDS env event
    DSEffect m (.call (.onRsrcEvent event env)) m'.mStatePtr m'.mSubscribers m'.out := by
  have hsame : DSEffect m (.call (.onRsrcEvent event env)) m.mStatePtr m.mSubscribers m.out :=
    dsEffect_of_emits (.ignored event env hr) hout (Emits.refl m)
  -- Of the pairs of state and event, those that react contradict `hr`.
  cases hst : m.mStatePtr <;> cases event <;> rw [hst] at hr <;>
    simp only [reactsDS, reacts, reduceCtorEq, Bool.false_or, beq_self_eq_true, Bool.and_self,
      Bool.true_or] at hr <;>
    simpa [onRsrcEventDS, dispatch, hst, AgpsReleasedState.onRsrcEvent,
      AgpsPendingState.onRsrcEvent, AgpsAcquiredState.onRsrcEvent,
      AgpsReleasingState.onRsrcEvent] using hsame

theorem onRsrcEventDS_effect (event : AgpsRsrcStatus) :
    let m' := m.onRsrcEventDS env event
    DSEffect m (.call (.onRsrcEvent event env)) m'.mStatePtr m'.mSubscribers m'.out := by
  by_cases hr : reactsDS m.mStatePtr event = true
  · cases hst : m.mStatePtr with
    | released => cases event <;> simp [hst, reactsDS, reacts] at hr
    | pending =>
        cases event with
        | rsrcGranted =>
            simp only [onRsrcEventDS, dispatch, hst, AgpsPendingState.onRsrcEvent]
            have hnote := notifySubscribers_keep_emits m
              (.broadcast .broadcastActive .rsrcGranted false) rfl rfl
            exact dsEffect_of_emits (.connected env hst) hout hnote
        | rsrcReleased =>
            -- The state is kept, so the event is handed on as a DENIED.
            have hself : ({ m with mStatePtr := .pending } : AgpsStateMachine) = m := by rw [← hst]
            simp only [onRsrcEventDS, dispatch, hst, AgpsPendingState.onRsrcEvent, ne_eq,
              not_true_eq_false, if_false, hself]
            exact dsEffect_of_emits (.denied .rsrcReleased env hst (Or.inl rfl)) hout
              (notifyAll_emits m .rsrcDenied rfl)
        | rsrcDenied =>
            simp only [onRsrcEventDS, dispatch, hst, AgpsPendingState.onRsrcEvent]
            exact dsEffect_of_emits (.denied .rsrcDenied env hst (Or.inr rfl)) hout
              (notifyAll_emits m .rsrcDenied rfl)
        | _ => simp [hst, reactsDS, reacts] at hr
    | acquired =>
        cases event with
        | rsrcReleased =>
            simp only [onRsrcEventDS, dispatch, hst, AgpsAcquiredState.onRsrcEvent, ne_eq,
              reduceCtorEq, not_false_eq_true, if_true]
            exact dsEffect_of_emits (.dropped env hst) hout (notifyAll_emits m .rsrcReleased rfl)
        | _ => simp [hst, reactsDS, reacts] at hr
    | releasing =>
        cases event with
        | rsrcReleased =>
            have hmove := onReleased_effectDS env m hm hout .rsrcReleased hst (Or.inl rfl)
            -- Releasing is left either way.
            have hleft : (AgpsReleasingState.onReleased env m .rsrcReleased).2 ≠ .releasing := by
              rcases onReleased_cases env m .rsrcReleased rfl with ⟨_, heq⟩ | ⟨_, heq⟩ <;>
                simp [heq]
            simp only [onRsrcEventDS, dispatch, hst, AgpsReleasingState.onRsrcEvent, ne_eq, hleft,
              not_false_eq_true, if_true]
            exact hmove
        | rsrcDenied =>
            simp only [onRsrcEventDS, dispatch, hst, AgpsReleasingState.onRsrcEvent]
            exact onReleased_effectDS env m hm hout .rsrcDenied hst (Or.inr rfl)
        | _ => simp [hst, reactsDS, reacts] at hr
  · exact dispatch_ignoredDS env m hout event (by simpa only [Bool.not_eq_true] using hr)

end

/-- Every call on a DS machine has one of the listed outcomes. -/
theorem stepDS_effect (m : AgpsStateMachine) (c : DSCall) (hm : m.isDS = true) :
    DSEffect m.fresh c (stepDS m c).mStatePtr (stepDS m c).mSubscribers (stepDS m c).out := by
  cases c with
  | call c =>
      cases c with
      | subscribeRsrc x env => exact subscribeRsrc_effectDS env m.fresh hm rfl x
      | unsubscribeRsrc x env => exact unsubscribeRsrc_effectDS env m.fresh hm rfl x
      | onRsrcEvent event env =>
          have heff := onRsrcEventDS_effect env m.fresh hm rfl event
          simpa only [stepDS, step, onRsrcEvent, fresh, hm, if_true] using heff
      | setAPN apn len => exact .setAPN apn len
      | setBearer bearer => exact .setBearer bearer
  | retryCallback =>
      unfold stepDS retryCallback
      cases hfirst : m.fresh.firstActive with
      | some nd => exact .retried nd hfirst
      | none => exact .noRetry hfirst

end Agps

end Victara
