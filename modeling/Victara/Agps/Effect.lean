import Victara.Agps.Sends

/-!
# What a Call on an AGPS Machine Can Do

Every transition of `AgpsStateMachine` (not the DS machine) in one relation.
`Effect m c o` lists, case by case, the outcomes `o` a call `c` can have on
`m`: the new state, the new subscriber list, the notifications accepted and
the servicer requests made. `step_effect` is the only place where the four
state handlers are taken apart; every invariant of the machine is a case
analysis of `Effect`.

Each outcome carries what was tested on the way to it, so that nothing of the
handlers is needed once a call is known to have one. The four handlers share two
pieces of work, and these are described first: what follows an unsubscribe in
Pending and in Acquired, and what the answer to a release does in Releasing. The
DS machine has both of them too, so they are stated of any machine. What is sent
in between comes from `Sends`; `outcome_of_sends` puts the state and the list of
the new machine beside it.

## Main definitions

* `Outcome`: What a call leaves behind and what it sent.
* `Dismissed`: What becomes of the list when a subscriber is unsubscribed.
* `AfterUnsubscribe`: The transition that follows.
* `reacts`: The resource events a state does not ignore.
* `actives`: The active, and the inactive, of a list.
* `Effect`: The outcomes of a call.
* `AgpsStateMachine.fresh`: A machine as a call finds it, with nothing sent yet.
* `SameConfig`: What a machine is built with and keeps.

## Theorems

* `addSubscriber_eq`: A subscriber is added at the head or listed already.
* `Sends.addSubscriber`: What was sent before does not matter to adding a
  subscriber.
* `dismiss_spec`: `Dismissed` describes the unsubscribe notification.
* `afterUnsubscribe_cases`: The common tail of an unsubscribe in Pending and in
  Acquired, on either machine: with nobody active the servicer is asked to
  release.
* `onReleased_cases`: The answer to a release in Releasing, on either machine:
  the inactive leave, and somebody active who is left needs a new request.
* `outcome_of_sends`: What a machine looks like once it is known what was sent
  on the way.
* `afterUnsubscribe_effect`: An unsubscribe in Pending or in Acquired.
* `dispatch_unsubscribe_effect`: The three states in which an unsubscribe takes
  the subscriber off.
* `unsubscribeRsrc_cases`: Who unsubscribes is found on the list, or nothing
  happens.
* `notifyAll_sends`: A broadcast to everybody empties the list.
* `dispatch_ignored`: A state that does not react keeps everything as it is.
* `onRsrcEventAgps_effect`: The answers of the framework, in the states that
  react to them.
* `step_effect`: A call has one of the outcomes in `Effect`.
* `dispatch`: A handler changes the list and the output, nothing else.
* `step_config`, `run_config`: What no call and no run changes.
-/

namespace Victara

namespace Agps

open AgpsStateMachine

/-- What a call leaves behind, and what it sent. -/
structure Outcome where
  state : AgpsState
  subscribers : List Node
  nextAddr : Nat
  notes : List Note
  requests : List AGpsStatusValue

def AgpsStateMachine.outcome (m : AgpsStateMachine) : Outcome :=
  { state := m.mStatePtr, subscribers := m.mSubscribers, nextAddr := m.nextAddr,
    notes := Agps.notes m.out, requests := Agps.requests m.out }

/-- The list after a dismissal, and the notes it leaves: a subscriber that
    waits for its close is marked, any other is removed with its equals. -/
inductive Dismissed (m : AgpsStateMachine) (nd : Node) : List Node → List Note → Prop
  | waits (h : nd.subscriber.waitForCloseComplete = true) :
      Dismissed m nd (m.mSubscribers.map fun e =>
        if e.addr = nd.addr then { e with subscriber := e.subscriber.markInactive } else e) []
  | removed (h : nd.subscriber.waitForCloseComplete = false) :
      Dismissed m nd
        (m.mSubscribers.filter fun e => !e.subscriber.equals m.peek nd.subscriber)
        (notesTo (m.mSubscribers.filter fun e => e.subscriber.equals m.peek nd.subscriber)
          .rsrcUnsubscribe)

/-- The transition out of state `s` with list `l` after an unsubscribe. -/
inductive AfterUnsubscribe (s : AgpsState) (l : List Node) :
    AgpsState → List AGpsStatusValue → Prop
  | emptied (hl : l = []) (hs : s ≠ .releasing) :
      AfterUnsubscribe s l .released [.releaseAgpsDataConn]
  | finished (hl : l = []) (hs : s = .releasing) : AfterUnsubscribe s l .released []
  | idle (hl : l ≠ []) (ha : ¬ HasActive l) (hs : s ≠ .releasing) :
      AfterUnsubscribe s l .releasing [.releaseAgpsDataConn]
  | stays (hl : l ≠ []) (ha : s ≠ .releasing → HasActive l) : AfterUnsubscribe s l s []

/-- The resource events a state acts on. -/
def reacts : AgpsState → AgpsRsrcStatus → Bool
  | .pending, .rsrcGranted => true
  | .pending, .rsrcDenied => true
  | .acquired, .rsrcReleased => true
  | .releasing, .rsrcReleased => true
  | .releasing, .rsrcDenied => true
  | _, _ => false

/-- The active, and the inactive, of a list. -/
def actives (l : List Node) : List Node := l.filter fun nd => !nd.subscriber.isInactive

def inactives (l : List Node) : List Node := l.filter fun nd => nd.subscriber.isInactive

inductive Effect (m : AgpsStateMachine) : Call → Outcome → Prop
  /-- A single-subscriber machine denies the second one. -/
  | refused (x : Subscriber) (env : Env) (he : m.mEnforceSingleSubscriber = true)
      (hl : m.mSubscribers ≠ []) :
      Effect m (.subscribeRsrc x env)
        ⟨m.mStatePtr, m.mSubscribers, m.nextAddr, [(none, x, .rsrcDenied)], []⟩
  /-- A first subscriber, and the request for it. -/
  | requested (x : Subscriber) (env : Env) (hs : m.mStatePtr = .released)
      (ha : HasActive (m.addSubscriber x).mSubscribers) :
      Effect m (.subscribeRsrc x env)
        ⟨.pending, (m.addSubscriber x).mSubscribers, (m.addSubscriber x).nextAddr, [],
          [.requestAgpsDataConn]⟩
  /-- The same over a list without an active subscriber: nothing is sent. -/
  | requestedNothing (x : Subscriber) (env : Env) (hs : m.mStatePtr = .released)
      (ha : ¬ HasActive (m.addSubscriber x).mSubscribers) :
      Effect m (.subscribeRsrc x env)
        ⟨.pending, (m.addSubscriber x).mSubscribers, (m.addSubscriber x).nextAddr, [], []⟩
  | queued (x : Subscriber) (env : Env)
      (he : ¬ (m.mEnforceSingleSubscriber = true ∧ m.mSubscribers ≠ []))
      (hs : m.mStatePtr = .pending ∨ m.mStatePtr = .releasing) :
      Effect m (.subscribeRsrc x env)
        ⟨m.mStatePtr, (m.addSubscriber x).mSubscribers, (m.addSubscriber x).nextAddr, [], []⟩
  | grantedAtOnce (x : Subscriber) (env : Env)
      (he : ¬ (m.mEnforceSingleSubscriber = true ∧ m.mSubscribers ≠ []))
      (hs : m.mStatePtr = .acquired) :
      Effect m (.subscribeRsrc x env)
        ⟨.acquired, (m.addSubscriber x).mSubscribers, (m.addSubscriber x).nextAddr,
          [(none, x, .rsrcGranted)], []⟩
  | unknown (x : Subscriber) (env : Env)
      (hx : ∀ nd ∈ m.mSubscribers, nd.subscriber.equals m.peek x = false) :
      Effect m (.unsubscribeRsrc x env) ⟨m.mStatePtr, m.mSubscribers, m.nextAddr, [], []⟩
  /-- False tolerance: in Released the subscriber is only told. -/
  | tolerated (x : Subscriber) (env : Env) (nd : Node) (hnd : nd ∈ m.mSubscribers)
      (hs : m.mStatePtr = .released) :
      Effect m (.unsubscribeRsrc x env)
        ⟨.released, m.mSubscribers, m.nextAddr,
          [(some nd.addr, nd.subscriber, .rsrcUnsubscribe)], []⟩
  | dismissed (x : Subscriber) (env : Env) (nd : Node) (l : List Node) (ns : List Note)
      (s : AgpsState) (rs : List AGpsStatusValue) (hnd : nd ∈ m.mSubscribers)
      (hx : nd.subscriber.equals m.peek x = true) (hs : m.mStatePtr ≠ .released)
      (hd : Dismissed m nd l ns) (hnext : AfterUnsubscribe m.mStatePtr l s rs) :
      Effect m (.unsubscribeRsrc x env) ⟨s, l, m.nextAddr, ns, rs⟩
  | granted (env : Env) (hs : m.mStatePtr = .pending) :
      Effect m (.onRsrcEvent .rsrcGranted env)
        ⟨.acquired, m.mSubscribers, m.nextAddr, notesTo (actives m.mSubscribers) .rsrcGranted, []⟩
  /-- DENIED in Pending, RELEASED in Acquired: everybody is told and removed. -/
  | closed (event : AgpsRsrcStatus) (env : Env)
      (hs : m.mStatePtr = .pending ∧ event = .rsrcDenied ∨
        m.mStatePtr = .acquired ∧ event = .rsrcReleased) :
      Effect m (.onRsrcEvent event env)
        ⟨.released, [], m.nextAddr, notesTo m.mSubscribers event, []⟩
  /-- The release is complete, and somebody subscribed in the meantime. -/
  | renewed (event : AgpsRsrcStatus) (env : Env) (hs : m.mStatePtr = .releasing)
      (hev : event = .rsrcReleased ∨ event = .rsrcDenied) (ha : HasActive m.mSubscribers) :
      Effect m (.onRsrcEvent event env)
        ⟨.pending, actives m.mSubscribers, m.nextAddr, notesTo (inactives m.mSubscribers) event,
          [.requestAgpsDataConn]⟩
  | completed (event : AgpsRsrcStatus) (env : Env) (hs : m.mStatePtr = .releasing)
      (hev : event = .rsrcReleased ∨ event = .rsrcDenied) (ha : ¬ HasActive m.mSubscribers) :
      Effect m (.onRsrcEvent event env)
        ⟨.released, [], m.nextAddr, notesTo (inactives m.mSubscribers) event, []⟩
  | ignored (event : AgpsRsrcStatus) (env : Env) (hr : reacts m.mStatePtr event = false) :
      Effect m (.onRsrcEvent event env) ⟨m.mStatePtr, m.mSubscribers, m.nextAddr, [], []⟩
  | setAPN (apn : Option CString) (len : Nat) :
      Effect m (.setAPN apn len) ⟨m.mStatePtr, m.mSubscribers, m.nextAddr, [], []⟩
  | setBearer (bearer : AGpsBearerType) :
      Effect m (.setBearer bearer) ⟨m.mStatePtr, m.mSubscribers, m.nextAddr, [], []⟩

theorem hasActive_actives (l : List Node) : HasActive (actives l) ↔ HasActive l := by
  simp only [HasActive, actives, List.mem_filter, Bool.not_eq_true']
  constructor
  · rintro ⟨nd, ⟨hmem, hact⟩, _⟩
    exact ⟨nd, hmem, hact⟩
  · rintro ⟨nd, hmem, hact⟩
    exact ⟨nd, ⟨hmem, hact⟩, hact⟩

theorem actives_eq_nil (l : List Node) (h : ¬ HasActive l) : actives l = [] := by
  rw [actives, List.filter_eq_nil_iff]
  intro nd hnd hact
  exact h ⟨nd, hnd, by simpa only [Bool.not_eq_true'] using hact⟩

/-- Adding changes the list and the address counter only. -/
theorem addSubscriber_eq (m : AgpsStateMachine) (x : Subscriber) :
    (m.addSubscriber x = m ∧ ∃ nd ∈ m.mSubscribers, nd.subscriber.equals m.peek x = true) ∨
    (m.addSubscriber x = { m with mSubscribers := ⟨m.nextAddr, x.clone⟩ :: m.mSubscribers,
                                  nextAddr := m.nextAddr + 1 } ∧
      ∀ nd ∈ m.mSubscribers, nd.subscriber.equals m.peek x = false) := by
  rw [addSubscriber, search_eq]
  simp only [forMe_addressed]
  cases hfind : m.mSubscribers.find? (fun nd => nd.subscriber.equals m.peek x) with
  | some nd =>
      have hx := List.find?_some hfind
      exact Or.inl ⟨rfl, nd, List.mem_of_find?_eq_some hfind, hx⟩
  | none =>
      refine Or.inr ⟨rfl, fun nd hnd => ?_⟩
      simpa only [Bool.not_eq_true] using List.find?_eq_none.mp hfind nd hnd

@[simp] theorem addSubscriber_out (m : AgpsStateMachine) (x : Subscriber) :
    (m.addSubscriber x).out = m.out := by
  rcases addSubscriber_eq m x with ⟨h, _⟩ | ⟨h, _⟩ <;> rw [h]

@[simp] theorem addSubscriber_isDS (m : AgpsStateMachine) (x : Subscriber) :
    (m.addSubscriber x).isDS = m.isDS := by
  rcases addSubscriber_eq m x with ⟨h, _⟩ | ⟨h, _⟩ <;> rw [h]

@[simp] theorem addSubscriber_peek (m : AgpsStateMachine) (x : Subscriber) :
    (m.addSubscriber x).peek = m.peek := by
  rcases addSubscriber_eq m x with ⟨h, _⟩ | ⟨h, _⟩ <;> rw [h]

@[simp] theorem addSubscriber_mEnforceSingleSubscriber (m : AgpsStateMachine) (x : Subscriber) :
    (m.addSubscriber x).mEnforceSingleSubscriber = m.mEnforceSingleSubscriber := by
  rcases addSubscriber_eq m x with ⟨h, _⟩ | ⟨h, _⟩ <;> rw [h]

theorem core_addSubscriber (m : AgpsStateMachine) (x : Subscriber) :
    (m.addSubscriber x).core = m.core.addSubscriber x := by
  rw [addSubscriber, addSubscriber, search_eq, search_eq]
  cases hfind : m.mSubscribers.find? (fun nd =>
      nd.subscriber.forMe m.peek (.addressed x .rsrcStatusMax false)) with
  | some nd => simp only [AgpsStateMachine.core, hfind]
  | none => simp only [AgpsStateMachine.core, hfind]

/-- What was sent before does not matter to adding a subscriber. -/
theorem Sends.addSubscriber {m m' : AgpsStateMachine} {ns : List Note}
    {rs : List AGpsStatusValue} (h : Sends m m' ns rs) (x : Subscriber) :
    Sends (m.addSubscriber x) (m'.addSubscriber x) ns rs := by
  refine ⟨?_, ?_, ?_⟩
  · rw [core_addSubscriber, core_addSubscriber, h.core]
  · rw [addSubscriber_out, addSubscriber_out, h.notes]
  · rw [addSubscriber_out, addSubscriber_out, h.requests]

theorem mem_addSubscriber (m : AgpsStateMachine) (x : Subscriber) (nd : Node)
    (h : nd ∈ m.mSubscribers) : nd ∈ (m.addSubscriber x).mSubscribers := by
  rcases addSubscriber_eq m x with ⟨heq, _⟩ | ⟨heq, _⟩
  · rw [heq]
    exact h
  · rw [heq]
    exact List.mem_cons_of_mem _ h

/-- An unsubscribe acts on the list as `Dismissed` says, and asks nothing of
    the servicer. -/
theorem dismiss_spec (m : AgpsStateMachine) (nd : Node) :
    ∃ l ns, Dismissed m nd l ns ∧ Sends { m with mSubscribers := l } (m.dismiss nd) ns [] := by
  rw [dismiss]
  cases hwait : nd.subscriber.waitForCloseComplete with
  | true =>
      refine ⟨_, [], .waits hwait, ?_⟩
      simp only [if_true]
      cases hsub : nd.subscriber with
      -- A DS subscriber closes its ATL, which tells the modem only.
      | ds id inactive =>
          simp only [setInactive, hsub]
          exact informStatus_sends _ .rsrcUnsubscribe id
      | wifi senderId ssid password inactive =>
          simp only [setInactive, hsub]
          exact Sends.refl _
      -- BIT and ATL subscribers do not wait.
      | bit _ _ => simp only [hsub, Subscriber.waitForCloseComplete, Bool.false_eq_true] at hwait
      | atl _ _ => simp only [hsub, Subscriber.waitForCloseComplete, Bool.false_eq_true] at hwait
  | false =>
      simp only [Bool.false_eq_true, if_false]
      exact ⟨_, _, .removed hwait,
        notifySubscribers_delete m (.addressed nd.subscriber .rsrcUnsubscribe true) rfl rfl⟩

/-- The common tail of an unsubscribe in Pending and in Acquired, on either
    machine: with nobody active the servicer is asked to release. -/
theorem afterUnsubscribe_cases (env : Env) (m : AgpsStateMachine) (s : AgpsState)
    (hs : s ≠ .releasing) :
    (¬ HasActive m.mSubscribers ∧ AfterUnsubscribe s m.mSubscribers
        (AgpsState.afterUnsubscribe env m s).2 [.releaseAgpsDataConn] ∧
      (AgpsState.afterUnsubscribe env m s).1 = (m.sendRsrcRequest env .releaseAgpsDataConn).1) ∨
    (AfterUnsubscribe s m.mSubscribers (AgpsState.afterUnsubscribe env m s).2 [] ∧
      (AgpsState.afterUnsubscribe env m s).1 = m) := by
  rw [AgpsState.afterUnsubscribe]
  by_cases hl : m.mSubscribers = []
  -- Nobody is left at all, so nobody active is.
  · have hnone : m.hasSubscribers = false := by
      rw [← Bool.not_eq_true, hasSubscribers_iff]
      exact fun h => h hl
    have hna : ¬ HasActive m.mSubscribers := by
      rw [hl]
      rintro ⟨nd, hmem, _⟩
      exact absurd hmem List.not_mem_nil
    simp only [hnone, Bool.not_false, if_true]
    exact Or.inl ⟨hna, .emptied hl hs, trivial⟩
  · have hsome : m.hasSubscribers = true := (hasSubscribers_iff m).mpr hl
    simp only [hsome, Bool.not_true, Bool.false_eq_true, if_false]
    -- With somebody listed it is the active ones that count.
    by_cases ha : HasActive m.mSubscribers
    · simp only [(hasActiveSubscribers_iff m).mpr ha, Bool.not_true, Bool.false_eq_true, if_false]
      exact Or.inr ⟨.stays hl (fun _ => ha), trivial⟩
    · have hna : m.hasActiveSubscribers = false := by
        rw [← Bool.not_eq_true, hasActiveSubscribers_iff]
        exact ha
      simp only [hna, Bool.not_false, if_true]
      exact Or.inl ⟨ha, .idle hl ha hs, trivial⟩

theorem afterUnsubscribe_spec (env : Env) (m : AgpsStateMachine) (s : AgpsState)
    (hm : m.isDS = false) (hs : s ≠ .releasing) :
    ∃ rs, Sends m (AgpsState.afterUnsubscribe env m s).1 [] rs ∧
      AfterUnsubscribe s m.mSubscribers (AgpsState.afterUnsubscribe env m s).2 rs := by
  rcases afterUnsubscribe_cases env m s hs with ⟨hna, hafter, heq⟩ | ⟨hafter, heq⟩
  · refine ⟨_, ?_, hafter⟩
    -- With nobody active the guard of `sendRsrcRequest` lets a release through.
    rw [heq, sendRsrcRequest_eq env m _ hm]
    exact (sendRsrcRequestAgps_sends m .releaseAgpsDataConn
      ⟨fun h => absurd h hna, fun h => by cases h⟩).1
  · rw [heq]
    exact ⟨[], Sends.refl m, hafter⟩

/-- The answer to a release in Releasing, on either machine: the inactive
    leave, and somebody active who is left needs a new request. -/
theorem onReleased_cases (env : Env) (m : AgpsStateMachine) (event : AgpsRsrcStatus)
    (hev : event.isDelivered = true) :
    (HasActive m.mSubscribers ∧ AgpsReleasingState.onReleased env m event =
        (((m.notifySubscribers (.broadcast .broadcastInactive event true)).sendRsrcRequest env
          .requestAgpsDataConn).1, .pending)) ∨
    (¬ HasActive m.mSubscribers ∧ AgpsReleasingState.onReleased env m event =
        (m.notifySubscribers (.broadcast .broadcastInactive event true), .released)) := by
  have hnote := notifySubscribers_delete m (.broadcast .broadcastInactive event true) rfl hev
  simp only [forMe_broadcastInactive] at hnote
  -- The active are all that is left when the test is made.
  have hact := hasActiveSubscribers_iff
    (m.notifySubscribers (.broadcast .broadcastInactive event true))
  rw [hnote.mSubscribers] at hact
  rw [AgpsReleasingState.onReleased]
  by_cases ha : HasActive m.mSubscribers
  · have hyes := hact.mpr ((hasActive_actives _).mpr ha)
    simp only [hyes, if_true]
    exact Or.inl ⟨ha, trivial⟩
  · have hno : ¬ (m.notifySubscribers
        (.broadcast .broadcastInactive event true)).hasActiveSubscribers = true :=
      fun h => ha ((hasActive_actives _).mp (hact.mp h))
    simp only [hno, Bool.false_eq_true, if_false]
    exact Or.inr ⟨ha, trivial⟩

theorem onReleased_spec (env : Env) (m : AgpsStateMachine) (event : AgpsRsrcStatus)
    (hm : m.isDS = false) (hev : event.isDelivered = true) :
    ∃ s rs, (HasActive m.mSubscribers ∧ s = .pending ∧ rs = [.requestAgpsDataConn] ∨
        ¬ HasActive m.mSubscribers ∧ s = .released ∧ rs = []) ∧
      (AgpsReleasingState.onReleased env m event).2 = s ∧
      Sends { m with mSubscribers := actives m.mSubscribers }
        (AgpsReleasingState.onReleased env m event).1 (notesTo (inactives m.mSubscribers) event)
        rs := by
  have hnote := notifySubscribers_delete m (.broadcast .broadcastInactive event true) rfl hev
  simp only [forMe_broadcastInactive] at hnote
  rcases onReleased_cases env m event hev with ⟨ha, heq⟩ | ⟨ha, heq⟩
  · rw [heq]
    refine ⟨_, _, Or.inl ⟨ha, rfl, rfl⟩, rfl, ?_⟩
    rw [sendRsrcRequest_eq env _ _ (hnote.isDS.trans hm)]
    refine hnote.andThen (sendRsrcRequestAgps_sends _ .requestAgpsDataConn ?_).1
    rw [hnote.mSubscribers]
    exact ⟨fun _ => rfl, fun _ => (hasActive_actives _).mpr ha⟩
  · rw [heq]
    exact ⟨_, _, Or.inr ⟨ha, rfl, rfl⟩, rfl, hnote⟩

/-- What a machine looks like once it is known what was sent on the way. -/
theorem outcome_of_sends {m m' : AgpsStateMachine} {ns : List Note} {rs : List AGpsStatusValue}
    (h : Sends m m' ns rs) (hout : m.out = []) (s : AgpsState) :
    ({ m' with mStatePtr := s } : AgpsStateMachine).outcome =
      ⟨s, m.mSubscribers, m.nextAddr, ns, rs⟩ := by
  have hn := h.notes
  have hr := h.requests
  rw [hout, notes_nil, List.nil_append] at hn
  rw [hout, requests_nil, List.nil_append] at hr
  simp only [outcome, h.mSubscribers, h.nextAddr, hn, hr]

theorem subscribeRsrc_effect (env : Env) (m : AgpsStateMachine) (x : Subscriber)
    (hm : m.isDS = false) (hout : m.out = []) :
    Effect m (.subscribeRsrc x env) (m.subscribeRsrc env x).outcome := by
  rw [subscribeRsrc]
  by_cases hsingle : m.mEnforceSingleSubscriber = true ∧ m.mSubscribers ≠ []
  · have hboth : (m.mEnforceSingleSubscriber && m.hasSubscribers) = true := by
      rw [hsingle.1, Bool.true_and, hasSubscribers_iff]
      exact hsingle.2
    rw [if_pos hboth]
    -- Only the caller's own object is told, and the list is not touched.
    have hs := (notifyRsrcStatus_sends m none x (.broadcast .broadcastAll .rsrcDenied true) rfl
      rfl).2
    have ho := outcome_of_sends hs hout m.mStatePtr
    rw [← hs.mStatePtr] at ho
    rw [ho, hs.mStatePtr]
    exact .refused x env hsingle.1 hsingle.2
  · have hnot : ¬ (m.mEnforceSingleSubscriber && m.hasSubscribers) = true := by
      rw [Bool.and_eq_true, hasSubscribers_iff]
      exact hsingle
    rw [if_neg hnot, dispatch]
    have hadd : (m.addSubscriber x).out = [] := (addSubscriber_out m x).trans hout
    cases hst : m.mStatePtr with
    | released =>
        simp only [AgpsReleasedState.onRsrcEvent]
        rw [sendRsrcRequest_eq env _ _ ((addSubscriber_isDS m x).trans hm)]
        -- An equal subscriber that is inactive keeps the request from being sent.
        by_cases ha : HasActive (m.addSubscriber x).mSubscribers
        · have hs := sendRsrcRequestAgps_sends (m.addSubscriber x) .requestAgpsDataConn
            ⟨fun _ => rfl, fun _ => ha⟩
          rw [hs.2, if_pos rfl, outcome_of_sends hs.1 hadd]
          exact .requested x env hst ha
        · have hs := sendRsrcRequestAgps_silent (m.addSubscriber x) .requestAgpsDataConn
            (fun h => ha (h.mpr rfl))
          rw [hs, if_pos rfl, outcome_of_sends (Sends.refl _) hadd]
          exact .requestedNothing x env hst ha
    | pending =>
        simp only [AgpsPendingState.onRsrcEvent]
        rw [outcome_of_sends (Sends.refl _) hadd, ← hst]
        exact .queued x env hsingle (Or.inl hst)
    | acquired =>
        simp only [AgpsAcquiredState.onRsrcEvent]
        -- The caller is told before its clone is listed.
        have hs := (notifyRsrcStatus_sends m none x (.addressed x .rsrcGranted false) rfl
          (Subscriber.equals_self m.peek x)).2
        rw [outcome_of_sends (hs.addSubscriber x) hadd]
        exact .grantedAtOnce x env hsingle hst
    | releasing =>
        simp only [AgpsReleasingState.onRsrcEvent]
        rw [outcome_of_sends (Sends.refl _) hadd, ← hst]
        exact .queued x env hsingle (Or.inr hst)

/-- An unsubscribe in Pending or in Acquired. -/
theorem afterUnsubscribe_effect (env : Env) (m : AgpsStateMachine) (x : Subscriber) (nd : Node)
    (s : AgpsState) (hm : m.isDS = false) (hout : m.out = []) (hnd : nd ∈ m.mSubscribers)
    (hx : nd.subscriber.equals m.peek x = true) (hst : m.mStatePtr = s)
    (hs : s = .pending ∨ s = .acquired) :
    Effect m (.unsubscribeRsrc x env)
      ({ (AgpsState.afterUnsubscribe env (m.dismiss nd) s).1 with
        mStatePtr := (AgpsState.afterUnsubscribe env (m.dismiss nd) s).2 } :
        AgpsStateMachine).outcome := by
  have hne : s ≠ .released ∧ s ≠ .releasing := by
    rcases hs with rfl | rfl <;> decide
  rcases dismiss_spec m nd with ⟨l, ns, hd, hsend⟩
  rcases afterUnsubscribe_spec env (m.dismiss nd) s (hsend.isDS.trans hm) hne.2 with
    ⟨rs, hsend', hnext⟩
  rw [hsend.mSubscribers] at hnext
  rw [outcome_of_sends (hsend.andThen hsend') hout]
  refine .dismissed x env nd l ns _ rs hnd hx ?_ hd ?_
  · rw [hst]
    exact hne.1
  · rw [hst]
    exact hnext

/-- The three states in which an unsubscribe takes the subscriber off. -/
theorem dispatch_unsubscribe_effect (env : Env) (m : AgpsStateMachine) (x : Subscriber)
    (nd : Node) (hm : m.isDS = false) (hout : m.out = []) (hnd : nd ∈ m.mSubscribers)
    (hx : nd.subscriber.equals m.peek x = true) :
    Effect m (.unsubscribeRsrc x env) (m.dispatch env (.unsubscribe nd)).outcome := by
  rw [dispatch]
  cases hst : m.mStatePtr with
  | released =>
      simp only [AgpsReleasedState.onRsrcEvent]
      -- The notification does not delete, so the subscriber stays listed.
      have hn := (notifyRsrcStatus_sends m (some nd.addr) nd.subscriber
        (.addressed nd.subscriber .rsrcUnsubscribe false) rfl
        (Subscriber.equals_self m.peek nd.subscriber)).2
      rw [outcome_of_sends hn hout]
      exact .tolerated x env nd hnd hst
  | pending =>
      exact afterUnsubscribe_effect env m x nd .pending hm hout hnd hx hst (Or.inl rfl)
  | acquired =>
      exact afterUnsubscribe_effect env m x nd .acquired hm hout hnd hx hst (Or.inr rfl)
  | releasing =>
      -- The release is under way already, so nothing is sent; only the test
      -- whether anybody is left is made.
      simp only [AgpsReleasingState.onRsrcEvent]
      rcases dismiss_spec m nd with ⟨l, ns, hd, hs⟩
      rw [outcome_of_sends hs hout]
      refine .dismissed x env nd l ns _ [] hnd hx ?_ hd ?_
      · rw [hst]
        decide
      · rw [hst]
        have hsubs := hasSubscribers_iff (m.dismiss nd)
        rw [hs.mSubscribers] at hsubs
        by_cases hl : l = []
        · have hno : ¬ (m.dismiss nd).hasSubscribers = true := fun h => hsubs.mp h hl
          simp only [hno, Bool.false_eq_true, if_false]
          exact .finished hl rfl
        · simp only [hsubs.mpr hl, if_true]
          exact .stays hl (fun h => absurd rfl h)

/-- Who unsubscribes is found on the list, or nothing happens. -/
theorem unsubscribeRsrc_cases (env : Env) (m : AgpsStateMachine) (x : Subscriber) :
    (∃ nd ∈ m.mSubscribers, nd.subscriber.equals m.peek x = true ∧
      (m.unsubscribeRsrc env x).1 = m.dispatch env (.unsubscribe nd)) ∨
    ((∀ nd ∈ m.mSubscribers, nd.subscriber.equals m.peek x = false) ∧
      (m.unsubscribeRsrc env x).1 = m) := by
  rw [unsubscribeRsrc, search_eq]
  simp only [forMe_addressed]
  cases hfind : m.mSubscribers.find? (fun nd => nd.subscriber.equals m.peek x) with
  | some nd =>
      have hx := List.find?_some hfind
      exact Or.inl ⟨nd, List.mem_of_find?_eq_some hfind, hx, rfl⟩
  | none =>
      refine Or.inr ⟨fun nd hnd => ?_, rfl⟩
      simpa only [Bool.not_eq_true] using List.find?_eq_none.mp hfind nd hnd

theorem unsubscribeRsrc_effect (env : Env) (m : AgpsStateMachine) (x : Subscriber)
    (hm : m.isDS = false) (hout : m.out = []) :
    Effect m (.unsubscribeRsrc x env) (m.unsubscribeRsrc env x).1.outcome := by
  rcases unsubscribeRsrc_cases env m x with ⟨nd, hnd, hx, heq⟩ | ⟨hx, heq⟩
  · rw [heq]
    exact dispatch_unsubscribe_effect env m x nd hm hout hnd hx
  · have hsame := outcome_of_sends (Sends.refl m) hout m.mStatePtr
    rw [heq, hsame]
    exact .unknown x env hx

/-- A broadcast to everybody empties the list. -/
theorem notifyAll_sends (m : AgpsStateMachine) (event : AgpsRsrcStatus)
    (hev : event.isDelivered = true) :
    Sends { m with mSubscribers := [] }
      (m.notifySubscribers (.broadcast .broadcastAll event true))
      (notesTo m.mSubscribers event) [] := by
  have h := notifySubscribers_delete m (.broadcast .broadcastAll event true) rfl hev
  simp only [forMe_broadcastAll, Bool.not_true, List.filter_false, addressees,
    List.filter_true] at h
  exact h

/-- A state that does not react keeps everything as it is. -/
theorem dispatch_ignored (env : Env) (m : AgpsStateMachine) (event : AgpsRsrcStatus)
    (hout : m.out = []) (hr : reacts m.mStatePtr event = false) :
    (m.onRsrcEventAgps env event).outcome =
      ⟨m.mStatePtr, m.mSubscribers, m.nextAddr, [], []⟩ := by
  have hsame := outcome_of_sends (Sends.refl m) hout m.mStatePtr
  rw [← hsame]
  -- Of the pairs of state and event, those that react contradict `hr`.
  cases hst : m.mStatePtr <;> cases event <;> rw [hst] at hr <;>
    simp only [reacts, reduceCtorEq] at hr <;>
    simp only [onRsrcEventAgps, dispatch, hst, AgpsReleasedState.onRsrcEvent,
      AgpsPendingState.onRsrcEvent, AgpsAcquiredState.onRsrcEvent,
      AgpsReleasingState.onRsrcEvent] <;>
    simp only [← hst]

theorem dispatch_releasing_effect (env : Env) (m : AgpsStateMachine) (event : AgpsRsrcStatus)
    (hm : m.isDS = false) (hout : m.out = []) (hst : m.mStatePtr = .releasing)
    (hev : event = .rsrcReleased ∨ event = .rsrcDenied) :
    Effect m (.onRsrcEvent event env)
      ({ (AgpsReleasingState.onReleased env m event).1 with
        mStatePtr := (AgpsReleasingState.onReleased env m event).2 } :
        AgpsStateMachine).outcome := by
  have hdel : event.isDelivered = true := by
    rcases hev with rfl | rfl <;> rfl
  rcases onReleased_spec env m event hm hdel with ⟨s, rs, hcase, hnext, hsend⟩
  rw [outcome_of_sends hsend hout, hnext]
  rcases hcase with ⟨ha, rfl, rfl⟩ | ⟨ha, rfl, rfl⟩
  · exact .renewed event env hst hev ha
  · rw [actives_eq_nil _ ha]
    exact .completed event env hst hev ha

/-- The answers of the framework, in the states that react to them. -/
theorem onRsrcEventAgps_effect (env : Env) (m : AgpsStateMachine) (event : AgpsRsrcStatus)
    (hm : m.isDS = false) (hout : m.out = []) :
    Effect m (.onRsrcEvent event env) (m.onRsrcEventAgps env event).outcome := by
  -- A state that does not react is done with first; each of the others has two events or three.
  cases hr : reacts m.mStatePtr event with
  | false =>
      rw [dispatch_ignored env m event hout hr]
      exact .ignored event env hr
  | true =>
      cases hst : m.mStatePtr with
      | released => simp only [hst, reacts, Bool.false_eq_true] at hr
      | pending =>
          cases event with
          | rsrcGranted =>
              simp only [onRsrcEventAgps, dispatch, hst, AgpsPendingState.onRsrcEvent]
              have hs := notifySubscribers_keep m
                (.broadcast .broadcastActive .rsrcGranted false) rfl rfl
              rw [outcome_of_sends hs hout]
              exact .granted env hst
          | rsrcDenied =>
              simp only [onRsrcEventAgps, dispatch, hst, AgpsPendingState.onRsrcEvent]
              rw [outcome_of_sends (notifyAll_sends m .rsrcDenied rfl) hout]
              exact .closed .rsrcDenied env (Or.inl ⟨hst, rfl⟩)
          | _ => simp only [hst, reacts, Bool.false_eq_true] at hr
      | acquired =>
          cases event with
          | rsrcReleased =>
              simp only [onRsrcEventAgps, dispatch, hst, AgpsAcquiredState.onRsrcEvent]
              rw [outcome_of_sends (notifyAll_sends m .rsrcReleased rfl) hout]
              exact .closed .rsrcReleased env (Or.inr ⟨hst, rfl⟩)
          | _ => simp only [hst, reacts, Bool.false_eq_true] at hr
      | releasing =>
          cases event with
          | rsrcReleased =>
              have h := dispatch_releasing_effect env m .rsrcReleased hm hout hst (Or.inl rfl)
              simpa only [onRsrcEventAgps, dispatch, hst, AgpsReleasingState.onRsrcEvent] using h
          | rsrcDenied =>
              have h := dispatch_releasing_effect env m .rsrcDenied hm hout hst (Or.inr rfl)
              simpa only [onRsrcEventAgps, dispatch, hst, AgpsReleasingState.onRsrcEvent] using h
          | _ => simp only [hst, reacts, Bool.false_eq_true] at hr

/-- A machine as a call finds it, with nothing sent yet. -/
def AgpsStateMachine.fresh (m : AgpsStateMachine) : AgpsStateMachine := { m with out := [] }

/-- Every call on an AGPS machine has one of the listed outcomes. -/
theorem step_effect (m : AgpsStateMachine) (c : Call) (hm : m.isDS = false) :
    Effect m.fresh c (step m c).outcome := by
  cases c with
  | subscribeRsrc x env => exact subscribeRsrc_effect env m.fresh x hm rfl
  | unsubscribeRsrc x env => exact unsubscribeRsrc_effect env m.fresh x hm rfl
  | onRsrcEvent event env =>
      have hagps : m.fresh.onRsrcEvent env event = m.fresh.onRsrcEventAgps env event := by
        rw [onRsrcEvent, if_neg]
        rw [show m.fresh.isDS = false from hm]
        exact Bool.false_ne_true
      have h := onRsrcEventAgps_effect env m.fresh event hm rfl
      rwa [← hagps] at h
  | setAPN apn len => exact .setAPN apn len
  | setBearer bearer => exact .setBearer bearer

/-- What a machine is built with and keeps. -/
structure SameConfig (m m' : AgpsStateMachine) : Prop where
  isDS : m'.isDS = m.isDS
  peek : m'.peek = m.peek
  enforce : m'.mEnforceSingleSubscriber = m.mEnforceSingleSubscriber

namespace SameConfig

variable {m m' m'' : AgpsStateMachine}

theorem trans (h : SameConfig m m') (h' : SameConfig m' m'') : SameConfig m m'' :=
  ⟨h'.isDS.trans h.isDS, h'.peek.trans h.peek, h'.enforce.trans h.enforce⟩

theorem of_sends {l : List Node} {ns : List Note} {rs : List AGpsStatusValue}
    (h : Sends { m with mSubscribers := l } m' ns rs) : SameConfig m m' :=
  ⟨h.isDS, h.peek, h.mEnforceSingleSubscriber⟩

theorem addSubscriber (m : AgpsStateMachine) (x : Subscriber) : SameConfig m (m.addSubscriber x) :=
  ⟨addSubscriber_isDS m x, addSubscriber_peek m x, addSubscriber_mEnforceSingleSubscriber m x⟩

theorem sendRsrcRequest (env : Env) (m : AgpsStateMachine) (action : AGpsStatusValue) :
    SameConfig m (m.sendRsrcRequest env action).1 := by
  rcases sendRsrcRequest_sends env m action with ⟨rs, hs⟩
  exact of_sends hs

theorem afterUnsubscribe (env : Env) (m : AgpsStateMachine) (s : AgpsState) :
    SameConfig m (AgpsState.afterUnsubscribe env m s).1 := by
  rw [AgpsState.afterUnsubscribe]
  split
  · exact sendRsrcRequest env m _
  · split
    · exact sendRsrcRequest env m _
    · exact ⟨rfl, rfl, rfl⟩

theorem dismiss (m : AgpsStateMachine) (nd : Node) : SameConfig m (m.dismiss nd) := by
  rcases dismiss_spec m nd with ⟨l, ns, _, hs⟩
  exact of_sends hs

theorem notifyRsrcStatus (m : AgpsStateMachine) (addr : Option Nat) (s : Subscriber)
    (n : Notification) (hn : n.rsrcStatus.isDelivered = true) :
    SameConfig m (m.notifyRsrcStatus addr s n).1 := by
  cases hme : s.forMe m.peek n with
  | true => exact of_sends (notifyRsrcStatus_sends m addr s n hn hme).2
  | false =>
      rw [notifyRsrcStatus_not_forMe m addr s n hme]
      exact ⟨rfl, rfl, rfl⟩

theorem notifySubscribers (m : AgpsStateMachine) (n : Notification)
    (hn : n.rsrcStatus.isDelivered = true) : SameConfig m (m.notifySubscribers n) := by
  cases hdel : n.postNotifyDelete with
  | true => exact of_sends (notifySubscribers_delete m n hdel hn)
  | false => exact of_sends (notifySubscribers_keep m n hdel hn)

theorem onReleased (env : Env) (m : AgpsStateMachine) (event : AgpsRsrcStatus)
    (hev : event.isDelivered = true) :
    SameConfig m (AgpsReleasingState.onReleased env m event).1 := by
  have hn := notifySubscribers m (.broadcast .broadcastInactive event true) hev
  rw [AgpsReleasingState.onReleased]
  split
  · exact hn.trans (sendRsrcRequest env _ _)
  · exact hn

theorem released (env : Env) (m : AgpsStateMachine) (event : RsrcEvent) :
    SameConfig m (AgpsReleasedState.onRsrcEvent env m event).1 := by
  cases event with
  | subscribe x => exact (addSubscriber m x).trans (sendRsrcRequest env _ _)
  | unsubscribe nd =>
      exact notifyRsrcStatus m (some nd.addr) nd.subscriber
        (.addressed nd.subscriber .rsrcUnsubscribe false) rfl
  | _ => exact ⟨rfl, rfl, rfl⟩

theorem pending (env : Env) (m : AgpsStateMachine) (event : RsrcEvent) :
    SameConfig m (AgpsPendingState.onRsrcEvent env m event).1 := by
  cases event with
  | subscribe x => exact addSubscriber m x
  | unsubscribe nd => exact (dismiss m nd).trans (afterUnsubscribe env _ .pending)
  | granted => exact notifySubscribers m (.broadcast .broadcastActive .rsrcGranted false) rfl
  | released => exact ⟨rfl, rfl, rfl⟩
  | denied => exact notifySubscribers m (.broadcast .broadcastAll .rsrcDenied true) rfl

theorem acquired (env : Env) (m : AgpsStateMachine) (event : RsrcEvent) :
    SameConfig m (AgpsAcquiredState.onRsrcEvent env m event).1 := by
  cases event with
  | subscribe x =>
      exact (notifyRsrcStatus m none x (.addressed x .rsrcGranted false) rfl).trans
        (addSubscriber _ x)
  | unsubscribe nd => exact (dismiss m nd).trans (afterUnsubscribe env _ .acquired)
  | released => exact notifySubscribers m (.broadcast .broadcastAll .rsrcReleased true) rfl
  | _ => exact ⟨rfl, rfl, rfl⟩

theorem releasing (env : Env) (m : AgpsStateMachine) (event : RsrcEvent) :
    SameConfig m (AgpsReleasingState.onRsrcEvent env m event).1 := by
  cases event with
  | subscribe x => exact addSubscriber m x
  | unsubscribe nd => exact dismiss m nd
  | granted => exact ⟨rfl, rfl, rfl⟩
  | released => exact onReleased env m .rsrcReleased rfl
  | denied => exact onReleased env m .rsrcDenied rfl

/-- A handler changes the list and the output, nothing else. -/
theorem dispatch (env : Env) (m : AgpsStateMachine) (event : RsrcEvent) :
    SameConfig m (m.dispatch env event) := by
  -- The state pointer is no part of the configuration.
  have hstate : ∀ r : AgpsStateMachine × AgpsState, SameConfig m r.1 →
      SameConfig m { r.1 with mStatePtr := r.2 } := fun r h => ⟨h.isDS, h.peek, h.enforce⟩
  rw [AgpsStateMachine.dispatch]
  cases m.mStatePtr with
  | released => exact hstate _ (released env m event)
  | pending => exact hstate _ (pending env m event)
  | acquired => exact hstate _ (acquired env m event)
  | releasing => exact hstate _ (releasing env m event)

theorem onRsrcEvent (env : Env) (m : AgpsStateMachine) (event : AgpsRsrcStatus) :
    SameConfig m (m.onRsrcEvent env event) := by
  rw [AgpsStateMachine.onRsrcEvent]
  cases m.isDS with
  | true =>
      cases event with
      | rsrcGranted => exact dispatch env m .granted
      | rsrcReleased =>
          simp only [if_true, onRsrcEventDS]
          -- A RELEASED that changed no state is followed by a DENIED.
          split
          · exact dispatch env m .released
          · exact (dispatch env m .released).trans (dispatch env _ .denied)
      | rsrcDenied => exact dispatch env m .denied
      | _ => exact ⟨rfl, rfl, rfl⟩
  | false =>
      cases event with
      | rsrcGranted => exact dispatch env m .granted
      | rsrcReleased => exact dispatch env m .released
      | rsrcDenied => exact dispatch env m .denied
      | _ => exact ⟨rfl, rfl, rfl⟩

end SameConfig

/-- No call changes what a machine was built with. -/
theorem step_config (m : AgpsStateMachine) (c : Call) : SameConfig m (step m c) := by
  have hfresh : SameConfig m m.fresh := ⟨rfl, rfl, rfl⟩
  refine hfresh.trans ?_
  cases c with
  | subscribeRsrc x env =>
      show SameConfig m.fresh (m.fresh.subscribeRsrc env x)
      rw [subscribeRsrc]
      split
      · exact SameConfig.notifyRsrcStatus m.fresh none x
          (.broadcast .broadcastAll .rsrcDenied true) rfl
      · exact SameConfig.dispatch env m.fresh _
  | unsubscribeRsrc x env =>
      show SameConfig m.fresh (m.fresh.unsubscribeRsrc env x).1
      rw [unsubscribeRsrc]
      split
      · exact SameConfig.dispatch env m.fresh _
      · exact ⟨rfl, rfl, rfl⟩
  | onRsrcEvent event env => exact SameConfig.onRsrcEvent env m.fresh event
  | setAPN apn len => exact ⟨rfl, rfl, rfl⟩
  | setBearer bearer => exact ⟨rfl, rfl, rfl⟩

theorem run_config (m : AgpsStateMachine) (cs : List Call) : SameConfig m (run m cs) := by
  refine List.foldlRecOn (motive := fun m' => SameConfig m m') cs step ⟨rfl, rfl, rfl⟩ ?_
  intro m' hm' c _
  exact hm'.trans (step_config m' c)

end Agps

end Victara
