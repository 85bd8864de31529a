import Victara.Agps.DSPending

/-!
# How Often a Busy Modem Is Asked for a Data Call

`DSStateMachine::sendRsrcRequest` counts in `mRetries` how often the modem was
busy, and falls back to ATL when that exceeds `MAX_START_DATA_CALL_RETRIES`.
The budget is meant for one connection: so many busy answers, one after the
other, with no other answer in between.

Only a denial sets the counter back. A start request that succeeds, and one
whose return value is not recognized, leave it as it is. So the busy answers
of an earlier connection count against a later one.

A call makes one start request at most, so a run is a sequence of requests with
calls in between that start nothing. The counter is compared with the number of
busy answers in a row, which the program does not keep. A busy answer raises
both, and a fallback ends both. An answer that is neither ends the row and
leaves the counter; if that is zero the two still agree, and this is the
condition.

## Main definitions

* `StartsNothing`: What comes of all but the start requests.
* `restartsFrom`: In Releasing the request is made once the inactive subscribers
  are told.
* `startsFrom`, `startsIn`: The machine as it asks for a data call.
* `Started`: `m'` is what a start request makes of `u`, as far as it is compared
  here.
* `DSCall.result?`: What a start request made in this call returns.
* `fallsBackIn`: After the start request, and not only before it, a connection
  is handed back to the modem.
* `RetryRun`: A DS machine and the busy answers in a row.
* `RetryBudget`: A busy modem is asked often enough.
* `CountsAnew`: No answer is passed over while the counter is not zero.
* `Counted`: The counter does not run ahead of the busy answers in a row.
* `busyBefore`: Connection 1 finds the modem busy once and then gets its data
  call.

## Theorems

* `of_eq`: Nothing that is compared here is changed.
* `sendRsrcRequestDS_retries`: What a start request does to the counter.
* `onReleased_starts`: RELEASED or DENIED in Releasing, when somebody active is
  left.
* `dispatch_starts`, `dispatch_startsNothing`: An event on the state.
* `onRsrcEventDS_released`: A RELEASED that makes the machine ask for a data
  call leaves Releasing.
* `stepDS_eq_dispatch`: A call that asks for a data call is a single event.
* `stepDS_starts`, `stepDS_startsNothing`: A call.
* `fallsBack_busy_iff`: Of a busy modem, it is the fifth answer that makes the
  request fall back.
* `step_startsNothing`: A call without a start request.
* `step_starts`: A call with one.
* `retries_of_busy`: One more busy answer is counted, and the counter has room
  for it.
* `retries_of_answered`: Any other answer finds the counter at zero, or sets it
  back.
* `budget_of_fallsBack`: Who falls back because of a busy modem has counted up
  to the maximum.
* `counted_step`: A call that counts anew keeps the counter behind the busy
  answers.
* `retryBudget_of_countsAnew`: The budget is kept in runs that count anew.
-/

namespace Victara

namespace Agps

open AgpsStateMachine StepSystem

/-! ## Without a start request -/

/-- `m'` is `m` after something that starts no data call. The counter is kept,
    or set back by a denial. All that a DS machine does is this but for the
    start requests, so that a run is cut at those. -/
structure StartsNothing (m m' : AgpsStateMachine) : Prop where
  retries : m'.mRetries = m.mRetries ∨ m'.mRetries = 0
  out : ∃ os, m'.out = m.out ++ os ∧ Output.openAndStartDataCall ∉ os

namespace StartsNothing

variable {m m' m'' : AgpsStateMachine}

/-- Nothing that is compared here is changed. -/
theorem of_eq (hretries : m'.mRetries = m.mRetries) (hout : m'.out = m.out) :
    StartsNothing m m' :=
  ⟨.inl hretries, [], by rw [hout, List.append_nil], List.not_mem_nil⟩

theorem trans (h : StartsNothing m m') (h' : StartsNothing m' m'') : StartsNothing m m'' := by
  rcases h.out with ⟨os, hout, hno⟩
  rcases h'.out with ⟨os', hout', hno'⟩
  refine ⟨?_, os ++ os', ?_, fun hmem => ?_⟩
  · rcases h'.retries with heq | hzero
    · rw [heq]
      exact h.retries
    · exact .inr hzero
  · rw [hout', hout, List.append_assoc]
  · exact (List.mem_append.mp hmem).elim hno hno'

theorem retries_le (h : StartsNothing m m') : m'.mRetries.toNat ≤ m.mRetries.toNat := by
  rcases h.retries with heq | hzero
  · exact Nat.le_of_eq (congrArg UInt8.toNat heq)
  · rw [hzero]
    exact Nat.zero_le _

theorem withState (h : StartsNothing m m') (s : AgpsState) :
    StartsNothing m { m' with mStatePtr := s } := ⟨h.retries, h.out⟩

theorem emit (m : AgpsStateMachine) {o : Output} (ho : o ≠ .openAndStartDataCall) :
    StartsNothing m (m.emit o) :=
  ⟨.inl rfl, [o], rfl, fun hmem => ho (List.mem_singleton.mp hmem).symm⟩

theorem informStatus (m : AgpsStateMachine) (status : AgpsRsrcStatus) (ID : UInt32) :
    StartsNothing m (m.informStatus status ID) := by
  cases status with
  | rsrcUnsubscribe => exact emit m nofun
  | rsrcReleased => exact emit m nofun
  | rsrcGranted => exact emit m nofun
  | rsrcDenied =>
      -- The one place where the counter is set back.
      refine ⟨.inr rfl, [.requestATL ID AGPS_TYPE_SUPL], rfl, ?_⟩
      simp only [List.mem_singleton, reduceCtorEq, not_false_eq_true]
  | _ => exact of_eq rfl rfl

theorem onStatus {s : Subscriber} {status : AgpsRsrcStatus} (h : m.onStatus s status = some m') :
    StartsNothing m m' := by
  cases s with
  | ds id inactive =>
      cases status <;> cases h <;> exact informStatus m _ id
  | _ =>
      cases status <;> cases h <;>
        first
        | exact of_eq rfl rfl
        | exact emit m nofun

theorem notifyRsrcStatus (m : AgpsStateMachine) (addr : Option Nat) (s : Subscriber)
    (n : Notification) : StartsNothing m (m.notifyRsrcStatus addr s n).1 := by
  unfold AgpsStateMachine.notifyRsrcStatus
  split
  · have hnote : StartsNothing m (m.emit (.notified addr s n.rsrcStatus)) :=
      emit m nofun
    split
    · rename_i m' hon
      exact hnote.trans (onStatus hon)
    · exact of_eq rfl rfl
  · exact of_eq rfl rfl

theorem notifySubscribers (m : AgpsStateMachine) (n : Notification) :
    StartsNothing m (m.notifySubscribers n) := by
  have hkeeps (u : AgpsStateMachine) (nd : Node) (hu : StartsNothing m u) :
      StartsNothing m (notifySubscriber n u nd).1 := hu.trans (notifyRsrcStatus u _ _ n)
  unfold AgpsStateMachine.notifySubscribers
  split
  · have h := Visit.drain_keeps hkeeps (m.mSubscribers.length + 1) m (of_eq rfl rfl)
      m.mSubscribers
    exact h.trans (of_eq rfl rfl)
  · exact Visit.visit_keeps hkeeps m (of_eq rfl rfl) m.mSubscribers

theorem addSubscriber (m : AgpsStateMachine) (x : Subscriber) :
    StartsNothing m (m.addSubscriber x) := by
  rcases addSubscriber_eq m x with ⟨heq, _⟩ | ⟨heq, _⟩ <;> rw [heq] <;> exact of_eq rfl rfl

theorem dismiss (m : AgpsStateMachine) (nd : Node) : StartsNothing m (m.dismiss nd) := by
  unfold AgpsStateMachine.dismiss
  split
  · unfold setInactive
    split
    · refine trans ?_ (informStatus _ .rsrcUnsubscribe _)
      exact of_eq rfl rfl
    · exact of_eq rfl rfl
  · exact notifySubscribers m _

theorem stop (env : Env) (m : AgpsStateMachine) :
    StartsNothing m (m.sendRsrcRequestDS env .releaseAgpsDataConn).1 := emit m nofun

theorem afterUnsubscribe (env : Env) {m : AgpsStateMachine} (hds : m.isDS = true)
    (s : AgpsState) : StartsNothing m (AgpsState.afterUnsubscribe env m s).1 := by
  unfold AgpsState.afterUnsubscribe
  rw [sendRsrcRequest_eqDS env m _ hds]
  split
  · exact stop env m
  · split
    · exact stop env m
    · exact of_eq rfl rfl

end StartsNothing

/-! ## With a start request -/

/-- The counter is set back by a fallback, and counts a busy modem. -/
theorem sendRsrcRequestDS_retries (env : Env) (m : AgpsStateMachine) :
    (m.sendRsrcRequestDS env .requestAgpsDataConn).1.mRetries =
      if FallsBack env m then 0
      else if env.openAndStartDataCall = LOC_API_ADAPTER_ERR_ENGINE_BUSY then m.mRetries + 1
      else m.mRetries := by
  unfold sendRsrcRequestDS FallsBack
  unfold LOC_API_ADAPTER_ERR_UNSUPPORTED LOC_API_ADAPTER_ERR_ENGINE_BUSY LOC_API_ADAPTER_ERR_SUCCESS
  simp only [dataCallCb]
  by_cases hbusy : env.openAndStartDataCall = 6
  · by_cases hmax : m.mRetries + 1 > MAX_START_DATA_CALL_RETRIES
    · simp only [hbusy, emit, hmax, informStatus, if_true, and_self, or_true]
    · by_cases htimer : env.timerStarted = true
      · simp [hbusy, emit, hmax, htimer]
      · simp [hbusy, emit, hmax, htimer]
  · by_cases hunsup : env.openAndStartDataCall = 2
    · simp [hunsup, informStatus, emit]
    · by_cases hminus : env.openAndStartDataCall = -1
      · simp [hminus, informStatus, emit]
      · -- Success, or a value that is only logged.
        simp only [hbusy, hunsup, hminus, if_false, false_or, false_and, ite_self, emit]

/-- In Releasing the request is made once the inactive subscribers are told. -/
def restartsFrom (m : AgpsStateMachine) (event : AgpsRsrcStatus) : Option AgpsStateMachine :=
  let u := m.notifySubscribers (.broadcast .broadcastInactive event true)
  if m.mStatePtr = .releasing ∧ u.hasActiveSubscribers = true then some u else none

/-- The machine as an event makes it ask for a data call. -/
def startsFrom (m : AgpsStateMachine) : RsrcEvent → Option AgpsStateMachine
  | .subscribe x => if m.mStatePtr = .released then some (m.addSubscriber x) else none
  | .released => restartsFrom m .rsrcReleased
  | .denied => restartsFrom m .rsrcDenied
  | .unsubscribe _ | .granted => none

/-- `m'` is what a start request makes of `u`, as far as it is compared here. -/
structure Started (env : Env) (u m' : AgpsStateMachine) : Prop where
  retries : m'.mRetries = (u.sendRsrcRequestDS env .requestAgpsDataConn).1.mRetries
  out : m'.out = u.out ++ startMsgs env u

theorem started_sendRsrcRequest (env : Env) {u : AgpsStateMachine} (hds : u.isDS = true) :
    Started env u (u.sendRsrcRequest env .requestAgpsDataConn).1 := by
  rw [sendRsrcRequest_eqDS env u _ hds]
  exact ⟨rfl, (sendRsrcRequestDS_start env u).1.out⟩

theorem startsNothing_of_startsFrom {m u : AgpsStateMachine} {event : RsrcEvent}
    (h : startsFrom m event = some u) : StartsNothing m u := by
  cases event with
  | subscribe x =>
      simp only [startsFrom, Option.ite_none_right_eq_some, Option.some.injEq] at h
      exact h.2 ▸ StartsNothing.addSubscriber m x
  | unsubscribe nd => cases h
  | granted => cases h
  | released =>
      simp only [startsFrom, restartsFrom, Option.ite_none_right_eq_some, Option.some.injEq] at h
      exact h.2 ▸ StartsNothing.notifySubscribers m _
  | denied =>
      simp only [startsFrom, restartsFrom, Option.ite_none_right_eq_some, Option.some.injEq] at h
      exact h.2 ▸ StartsNothing.notifySubscribers m _

/-- RELEASED or DENIED in Releasing, when somebody active is left. -/
theorem onReleased_starts (env : Env) {m u : AgpsStateMachine} {event : AgpsRsrcStatus}
    (hds : m.isDS = true) (hdeliv : event.isDelivered = true) (h : restartsFrom m event = some u) :
    m.mStatePtr = .releasing ∧ (AgpsReleasingState.onReleased env m event).2 = .pending ∧
      Started env u (AgpsReleasingState.onReleased env m event).1 := by
  simp only [restartsFrom, Option.ite_none_right_eq_some, Option.some.injEq] at h
  rcases h with ⟨⟨hst, ha⟩, rfl⟩
  have hconfig := SameConfig.notifySubscribers m (.broadcast .broadcastInactive event true) hdeliv
  unfold AgpsReleasingState.onReleased
  simp only [ha, if_true]
  exact ⟨hst, trivial, started_sendRsrcRequest env (hconfig.isDS.trans hds)⟩

theorem onReleased_startsNothing (env : Env) {m : AgpsStateMachine} {event : AgpsRsrcStatus}
    (hst : m.mStatePtr = .releasing) (h : restartsFrom m event = none) :
    StartsNothing m (AgpsReleasingState.onReleased env m event).1 := by
  simp only [restartsFrom, hst, true_and, ite_eq_right_iff, reduceCtorEq, imp_false,
    Bool.not_eq_true] at h
  unfold AgpsReleasingState.onReleased
  simp only [h, Bool.false_eq_true, if_false]
  exact StartsNothing.notifySubscribers m _

/-- An event that makes the machine ask for a data call. -/
theorem dispatch_starts (env : Env) {m u : AgpsStateMachine} {event : RsrcEvent}
    (hds : m.isDS = true) (h : startsFrom m event = some u) :
    Started env u (m.dispatch env event) := by
  unfold dispatch
  cases event with
  | subscribe x =>
      simp only [startsFrom, Option.ite_none_right_eq_some, Option.some.injEq] at h
      rcases h with ⟨hst, rfl⟩
      have hconfig : (m.addSubscriber x).isDS = true := by rw [addSubscriber_isDS, hds]
      -- The handler of Released asks as soon as the subscriber is listed.
      have hstart := started_sendRsrcRequest env hconfig
      simp only [hst, AgpsReleasedState.onRsrcEvent]
      exact ⟨hstart.retries, hstart.out⟩
  | unsubscribe nd => cases h
  | granted => cases h
  | released =>
      rcases onReleased_starts env hds rfl h with ⟨hst, -, hstart⟩
      simp only [hst, AgpsReleasingState.onRsrcEvent]
      exact ⟨hstart.retries, hstart.out⟩
  | denied =>
      rcases onReleased_starts env hds rfl h with ⟨hst, -, hstart⟩
      simp only [hst, AgpsReleasingState.onRsrcEvent]
      exact ⟨hstart.retries, hstart.out⟩

/-- An event that does not. -/
theorem dispatch_startsNothing (env : Env) {m : AgpsStateMachine} {event : RsrcEvent}
    (hds : m.isDS = true) (h : startsFrom m event = none) :
    StartsNothing m (m.dispatch env event) := by
  -- Pending and Acquired dismiss alike, and stop a data call at most.
  have hdismiss (nd : Node) (s : AgpsState) :
      StartsNothing m (AgpsState.afterUnsubscribe env (m.dismiss nd) s).1 :=
    (StartsNothing.dismiss m nd).trans
      (.afterUnsubscribe env ((SameConfig.dismiss m nd).isDS.trans hds) s)
  unfold dispatch
  refine StartsNothing.withState ?_ _
  cases hst : m.mStatePtr with
  | released =>
      cases event with
      | subscribe x =>
          simp only [startsFrom, hst, if_true, reduceCtorEq] at h
      | unsubscribe nd => exact .notifyRsrcStatus m _ _ _
      | _ => exact .of_eq rfl rfl
  | pending =>
      cases event with
      | subscribe x => exact .addSubscriber m x
      | unsubscribe nd => exact hdismiss nd .pending
      | granted => exact .notifySubscribers m (.broadcast .broadcastActive .rsrcGranted false)
      | released => exact .of_eq rfl rfl
      | denied => exact .notifySubscribers m (.broadcast .broadcastAll .rsrcDenied true)
  | acquired =>
      cases event with
      | subscribe x => exact (StartsNothing.notifyRsrcStatus m _ _ _).trans (.addSubscriber _ x)
      | unsubscribe nd => exact hdismiss nd .acquired
      | released => exact .notifySubscribers m (.broadcast .broadcastAll .rsrcReleased true)
      | _ => exact .of_eq rfl rfl
  | releasing =>
      cases event with
      | subscribe x => exact .addSubscriber m x
      | unsubscribe nd => exact .dismiss m nd
      | granted => exact .of_eq rfl rfl
      | released => exact onReleased_startsNothing env hst h
      | denied => exact onReleased_startsNothing env hst h

/-! ## A call -/

/-- The machine as a call makes it ask for a data call, and what the modem
    answers. -/
def startsIn (m : AgpsStateMachine) : DSCall → Option (AgpsStateMachine × Env)
  | .call (.subscribeRsrc x env) => (startsFrom m (.subscribe x)).map fun u => (u, env)
  | .call (.onRsrcEvent .rsrcReleased env) => (startsFrom m .released).map fun u => (u, env)
  | .call (.onRsrcEvent .rsrcDenied env) => (startsFrom m .denied).map fun u => (u, env)
  | _ => none

theorem subscribeRsrc_eq_dispatch (env : Env) {m : AgpsStateMachine}
    (hsingle : m.mEnforceSingleSubscriber = false) (x : Subscriber) :
    m.subscribeRsrc env x = m.dispatch env (.subscribe x) := by
  unfold subscribeRsrc
  rw [hsingle, Bool.false_and, if_neg Bool.false_ne_true]

/-- A RELEASED that makes the machine ask for a data call leaves Releasing. -/
theorem onRsrcEventDS_released (env : Env) {m u : AgpsStateMachine} (hds : m.isDS = true)
    (h : startsFrom m .released = some u) :
    m.onRsrcEventDS env .rsrcReleased = m.dispatch env .released := by
  rcases onReleased_starts env hds rfl h with ⟨hst, hnext, -⟩
  have hleft : (m.dispatch env .released).mStatePtr ≠ m.mStatePtr := by
    simp only [dispatch, hst, AgpsReleasingState.onRsrcEvent, hnext, ne_eq, reduceCtorEq,
      not_false_eq_true]
  simp only [onRsrcEventDS, hleft, ne_eq, not_false_eq_true, if_true]

section

variable {m : AgpsStateMachine} (hds : m.isDS = true)
  (hsingle : m.mEnforceSingleSubscriber = false)

include hds hsingle

/-- A call that asks for a data call is a single event. -/
theorem stepDS_eq_dispatch {c : DSCall} {u : AgpsStateMachine} {env : Env}
    (h : startsIn m.fresh c = some (u, env)) :
    ∃ event, startsFrom m.fresh event = some u ∧ stepDS m c = m.fresh.dispatch env event := by
  unfold startsIn at h
  split at h
  case h_4 => cases h
  all_goals
    simp only [Option.map_eq_some_iff, Prod.mk.injEq] at h
    rcases h with ⟨u', hu, rfl, rfl⟩
    refine ⟨_, hu, ?_⟩
  case h_1 x env => exact subscribeRsrc_eq_dispatch env (m := m.fresh) hsingle x
  -- It leaves the state, so it is not taken for a DENIED as well.
  case h_2 env =>
      rw [← onRsrcEventDS_released env (m := m.fresh) hds hu]
      exact if_pos hds
  case h_3 env => exact if_pos hds

/-- A call that asks for a data call. -/
theorem stepDS_starts {c : DSCall} {u : AgpsStateMachine} {env : Env}
    (h : startsIn m.fresh c = some (u, env)) :
    StartsNothing m.fresh u ∧ Started env u (stepDS m c) := by
  rcases stepDS_eq_dispatch hds hsingle h with ⟨event, hu, hcall⟩
  rw [hcall]
  exact ⟨startsNothing_of_startsFrom hu, dispatch_starts env hds hu⟩

omit hsingle in
theorem onRsrcEventDS_startsNothing (env : Env) {event : AgpsRsrcStatus}
    (h : startsIn m (.call (.onRsrcEvent event env)) = none) :
    StartsNothing m (m.onRsrcEventDS env event) := by
  cases event with
  | rsrcGranted => exact dispatch_startsNothing env hds rfl
  | rsrcDenied =>
      exact dispatch_startsNothing env hds (Option.map_eq_none_iff.mp h)
  | rsrcReleased =>
      have hfirst := dispatch_startsNothing env hds (Option.map_eq_none_iff.mp h)
      unfold onRsrcEventDS
      dsimp only
      split
      · exact hfirst
      · rename_i hsame
        -- Who keeps the state is not in Releasing, and asks for nothing as a DENIED.
        rw [ne_eq, Classical.not_not] at hsame
        have hdsame : (m.dispatch env .released).isDS = true :=
          (SameConfig.dispatch env m .released).isDS.trans hds
        refine hfirst.trans (dispatch_startsNothing env hdsame ?_)
        have hnot : (m.dispatch env .released).mStatePtr ≠ .releasing := by
          rw [hsame]
          intro hst
          rw [hst] at hsame
          simp only [dispatch, hst, AgpsReleasingState.onRsrcEvent,
            AgpsReleasingState.onReleased] at hsame
          split at hsame <;> cases hsame
        simp only [startsFrom, restartsFrom, hnot, false_and, if_false]
  | _ => exact .of_eq rfl rfl

/-- A call that asks for none. -/
theorem stepDS_startsNothing {c : DSCall} (h : startsIn m.fresh c = none) :
    StartsNothing m.fresh (stepDS m c) := by
  cases c with
  | retryCallback =>
      show StartsNothing m.fresh m.fresh.retryCallback
      unfold retryCallback
      split
      · exact .emit _ nofun
      · exact .of_eq rfl rfl
  | call c =>
      cases c with
      | subscribeRsrc x env =>
          have hcall : stepDS m (.call (.subscribeRsrc x env)) =
              m.fresh.dispatch env (.subscribe x) :=
            subscribeRsrc_eq_dispatch env (m := m.fresh) hsingle x
          rw [hcall]
          exact dispatch_startsNothing env hds (Option.map_eq_none_iff.mp h)
      | unsubscribeRsrc x env =>
          -- Whether or not somebody is found, a data call is stopped at most.
          rcases unsubscribeRsrc_cases env m.fresh x with ⟨nd, _, _, heq⟩ | ⟨_, heq⟩
          · show StartsNothing m.fresh (m.fresh.unsubscribeRsrc env x).1
            rw [heq]
            exact dispatch_startsNothing env hds rfl
          · show StartsNothing m.fresh (m.fresh.unsubscribeRsrc env x).1
            rw [heq]
            exact .of_eq rfl rfl
      | onRsrcEvent event env =>
          have hcall : stepDS m (.call (.onRsrcEvent event env)) =
              m.fresh.onRsrcEventDS env event := if_pos hds
          rw [hcall]
          exact onRsrcEventDS_startsNothing (m := m.fresh) hds env h
      | setAPN apn len => exact .of_eq rfl rfl
      | setBearer bearer => exact .of_eq rfl rfl

end

/-! ## Whole runs -/

/-- What a start request made in this call returns. -/
def DSCall.result? : DSCall → Option Int
  | .call (.subscribeRsrc _ env) => some env.openAndStartDataCall
  | .call (.unsubscribeRsrc _ env) => some env.openAndStartDataCall
  | .call (.onRsrcEvent _ env) => some env.openAndStartDataCall
  | _ => none

def Output.isRequestATL : Output → Bool
  | .requestATL _ _ => true
  | _ => false

/-- After the start request, and not only before it, a connection is handed
    back to the modem. -/
def fallsBackIn (os : List Output) : Bool :=
  (os.dropWhile fun o => o != .openAndStartDataCall).any Output.isRequestATL

/-- `busy` is how many start requests in a row have found the modem busy, since
    one that did not, or that fell back. `gaveUp` is how many there were when
    the last call fell back because of a busy modem. The code keeps neither. -/
structure RetryRun where
  ds_nif : AgpsStateMachine
  busy : Nat
  gaveUp : Option Nat

namespace RetryRun

def init (peek : Subscriber → IPv6Addr) : RetryRun :=
  { ds_nif := newDS peek, busy := 0, gaveUp := none }

def step (s : RetryRun) (c : DSCall) : Option RetryRun :=
  let m := stepDS s.ds_nif c
  some <|
    if Output.openAndStartDataCall ∉ m.out then { ds_nif := m, busy := s.busy, gaveUp := none }
    else if c.result? ≠ some LOC_API_ADAPTER_ERR_ENGINE_BUSY then
      { ds_nif := m, busy := 0, gaveUp := none }
    else if fallsBackIn m.out then { ds_nif := m, busy := 0, gaveUp := some (s.busy + 1) }
    else { ds_nif := m, busy := s.busy + 1, gaveUp := none }

end RetryRun

/-- Who falls back because of a busy modem has found it busy once more than the
    retries that are allowed. -/
def RetryBudget (s : RetryRun) : Prop :=
  ∀ n ∈ s.gaveUp, MAX_START_DATA_CALL_RETRIES.toNat + 1 ≤ n

instance : DecidablePred RetryBudget := fun s =>
  inferInstanceAs (Decidable (∀ n ∈ s.gaveUp, MAX_START_DATA_CALL_RETRIES.toNat + 1 ≤ n))

/-- An answer that does not touch the counter, a success or a value that is not
    recognized, comes while the counter is zero. The other two do: a busy modem
    is counted, and falling back begins anew. So it is before a success that the
    budget of the next connection is decided. -/
def CountsAnew (s : RetryRun) (c : DSCall) : Prop :=
  ∀ start ∈ startsIn s.ds_nif.fresh c, start.1.mRetries = 0 ∨
    start.2.openAndStartDataCall = LOC_API_ADAPTER_ERR_ENGINE_BUSY ∨ FallsBack start.2 start.1

instance (s : RetryRun) (c : DSCall) : Decidable (CountsAnew s c) :=
  inferInstanceAs (Decidable (∀ start ∈ startsIn s.ds_nif.fresh c, _ ∨ _ ∨ _))

/-- The counter does not run ahead of the busy answers in a row. `busy` goes
    back to 0 with every other answer and the counter does not, so this is what
    the condition on the run keeps up; the bound on the counter is the
    comparison in `sendRsrcRequest`. -/
structure Counted (s : RetryRun) : Prop where
  isDS : s.ds_nif.isDS = true
  single : s.ds_nif.mEnforceSingleSubscriber = false
  busy : s.ds_nif.mRetries.toNat ≤ s.busy
  most : s.ds_nif.mRetries.toNat ≤ MAX_START_DATA_CALL_RETRIES.toNat
  budget : RetryBudget s

theorem counted_init (peek : Subscriber → IPv6Addr) : Counted (.init peek) := by
  refine ⟨rfl, rfl, Nat.le_refl _, Nat.zero_le _, ?_⟩
  intro n hn
  cases hn

theorem startsIn_result {m u : AgpsStateMachine} {c : DSCall} {env : Env}
    (h : startsIn m c = some (u, env)) : c.result? = some env.openAndStartDataCall := by
  unfold startsIn at h
  split at h
  case h_4 => cases h
  all_goals
    simp only [Option.map_eq_some_iff, Prod.mk.injEq] at h
    rcases h with ⟨u', -, -, rfl⟩
    rfl

theorem fallsBackIn_iff {os : List Output} (hos : Output.openAndStartDataCall ∉ os) (env : Env)
    (u : AgpsStateMachine) : fallsBackIn (os ++ startMsgs env u) = true ↔ FallsBack env u := by
  have hdrop : (os ++ startMsgs env u).dropWhile (fun o => o != .openAndStartDataCall) =
      startMsgs env u := by
    rw [List.dropWhile_append_of_pos]
    · rfl
    · intro o ho
      rw [bne_iff_ne]
      exact fun heq => hos (heq ▸ ho)
  rw [fallsBackIn, hdrop, startMsgs]
  split
  case isTrue hfall => exact iff_of_true rfl hfall
  case isFalse hno =>
      refine iff_of_false ?_ hno
      split <;> decide

/-- Of a busy modem, it is the fifth answer that makes the request fall back. -/
theorem fallsBack_busy_iff {env : Env} {u : AgpsStateMachine}
    (hbusy : env.openAndStartDataCall = LOC_API_ADAPTER_ERR_ENGINE_BUSY)
    (hmost : u.mRetries.toNat ≤ MAX_START_DATA_CALL_RETRIES.toNat) :
    FallsBack env u ↔ u.mRetries.toNat = MAX_START_DATA_CALL_RETRIES.toNat := by
  have hnext : (u.mRetries + 1).toNat = u.mRetries.toNat + 1 := by
    rw [UInt8.toNat_add]
    exact Nat.mod_eq_of_lt (Nat.lt_of_le_of_lt (Nat.succ_le_succ hmost) (by decide))
  have hlt : u.mRetries + 1 > MAX_START_DATA_CALL_RETRIES ↔
      MAX_START_DATA_CALL_RETRIES.toNat < u.mRetries.toNat + 1 := by
    rw [gt_iff_lt, UInt8.lt_iff_toNat_lt, hnext]
  unfold FallsBack
  rw [hlt, hbusy]
  simp only [LOC_API_ADAPTER_ERR_ENGINE_BUSY, LOC_API_ADAPTER_ERR_UNSUPPORTED, Int.reduceEq,
    Int.reduceNeg, false_or, true_and]
  omega

section

variable {s : RetryRun} {c : DSCall} (hs : Counted s)

include hs

/-- A call without a start request. -/
theorem step_startsNothing (h : startsIn s.ds_nif.fresh c = none) :
    s.step c = some { ds_nif := stepDS s.ds_nif c, busy := s.busy, gaveUp := none } := by
  rcases (stepDS_startsNothing hs.isDS hs.single h).out with ⟨os, hout, hno⟩
  rw [show s.ds_nif.fresh.out ++ os = os from rfl] at hout
  rw [← hout] at hno
  exact congrArg some (if_pos hno)

/-- A call with one. -/
theorem step_starts {u : AgpsStateMachine} {env : Env}
    (h : startsIn s.ds_nif.fresh c = some (u, env)) :
    s.step c = some (
      if env.openAndStartDataCall ≠ LOC_API_ADAPTER_ERR_ENGINE_BUSY then
        { ds_nif := stepDS s.ds_nif c, busy := 0, gaveUp := none }
      else if FallsBack env u then
        { ds_nif := stepDS s.ds_nif c, busy := 0, gaveUp := some (s.busy + 1) }
      else { ds_nif := stepDS s.ds_nif c, busy := s.busy + 1, gaveUp := none }) := by
  rcases stepDS_starts hs.isDS hs.single h with ⟨hbefore, hstarted⟩
  rcases hbefore.out with ⟨os, hout, hno⟩
  have hsent : (stepDS s.ds_nif c).out = os ++ startMsgs env u := by
    rw [hstarted.out, hout]
    rfl
  -- The request is among what was sent, and what follows it is known.
  have hmem : Output.openAndStartDataCall ∈ (stepDS s.ds_nif c).out := by
    rw [hsent]
    exact List.mem_append_right os (start_mem_startMsgs env u)
  have hback := fallsBackIn_iff hno env u
  rw [← hsent] at hback
  unfold RetryRun.step
  simp only [hmem, not_true_eq_false, if_false, startsIn_result h, ne_eq, Option.some.injEq, hback]

/-- One more busy answer is counted, and the counter has room for it. -/
theorem retries_of_busy {u : AgpsStateMachine} {env : Env}
    (h : startsIn s.ds_nif.fresh c = some (u, env))
    (hbusy : env.openAndStartDataCall = LOC_API_ADAPTER_ERR_ENGINE_BUSY)
    (hstays : ¬ FallsBack env u) :
    (stepDS s.ds_nif c).mRetries.toNat ≤ s.ds_nif.mRetries.toNat + 1 ∧
      (stepDS s.ds_nif c).mRetries.toNat ≤ MAX_START_DATA_CALL_RETRIES.toNat := by
  rcases stepDS_starts hs.isDS hs.single h with ⟨hbefore, hstarted⟩
  have hle : u.mRetries.toNat ≤ s.ds_nif.mRetries.toNat := hbefore.retries_le
  have hmost := Nat.le_trans hle hs.most
  -- Below the maximum, the counter does not wrap around.
  have hnot := (fallsBack_busy_iff hbusy hmost).not.mp hstays
  have hroom : u.mRetries.toNat < MAX_START_DATA_CALL_RETRIES.toNat := by omega
  have hcount := hstarted.retries
  rw [sendRsrcRequestDS_retries, if_neg hstays, if_pos hbusy] at hcount
  have hnext : (stepDS s.ds_nif c).mRetries.toNat = u.mRetries.toNat + 1 := by
    rw [hcount, UInt8.toNat_add]
    exact Nat.mod_eq_of_lt (Nat.lt_of_le_of_lt hroom (by decide))
  omega

/-- Any other answer finds the counter at zero, or sets it back. -/
theorem retries_of_answered {u : AgpsStateMachine} {env : Env} (hanew : CountsAnew s c)
    (h : startsIn s.ds_nif.fresh c = some (u, env))
    (hres : env.openAndStartDataCall ≠ LOC_API_ADAPTER_ERR_ENGINE_BUSY) :
    (stepDS s.ds_nif c).mRetries = 0 := by
  rw [(stepDS_starts hs.isDS hs.single h).2.retries, sendRsrcRequestDS_retries, if_neg hres]
  by_cases hback : FallsBack env u
  · exact if_pos hback
  · rw [if_neg hback]
    exact (hanew (u, env) h).resolve_right (not_or_intro hres hback)

/-- Who falls back because of a busy modem has counted up to the maximum. -/
theorem budget_of_fallsBack {u : AgpsStateMachine} {env : Env}
    (h : startsIn s.ds_nif.fresh c = some (u, env))
    (hbusy : env.openAndStartDataCall = LOC_API_ADAPTER_ERR_ENGINE_BUSY)
    (hback : FallsBack env u) :
    (stepDS s.ds_nif c).mRetries = 0 ∧ MAX_START_DATA_CALL_RETRIES.toNat ≤ s.busy := by
  rcases stepDS_starts hs.isDS hs.single h with ⟨hbefore, hstarted⟩
  have hle : u.mRetries.toNat ≤ s.ds_nif.mRetries.toNat := hbefore.retries_le
  have hmax := (fallsBack_busy_iff hbusy (Nat.le_trans hle hs.most)).mp hback
  have hahead := hs.busy
  refine ⟨?_, by omega⟩
  rw [hstarted.retries, sendRsrcRequestDS_retries, if_pos hback]

/-- A call that counts anew keeps the counter behind the busy answers. -/
theorem counted_step {t : RetryRun} (hanew : CountsAnew s c) (h : s.step c = some t) :
    Counted t := by
  have hconfig := stepDS_config s.ds_nif c
  have hds := hconfig.isDS.trans hs.isDS
  have hsingle := hconfig.enforce.trans hs.single
  cases hstart : startsIn s.ds_nif.fresh c with
  | none =>
      have hle : (stepDS s.ds_nif c).mRetries.toNat ≤ s.ds_nif.mRetries.toNat :=
        (stepDS_startsNothing hs.isDS hs.single hstart).retries_le
      rw [step_startsNothing hs hstart, Option.some.injEq] at h
      subst h
      exact ⟨hds, hsingle, Nat.le_trans hle hs.busy, Nat.le_trans hle hs.most, nofun⟩
  | some start =>
      rcases start with ⟨u, env⟩
      rw [step_starts hs hstart, Option.some.injEq] at h
      subst h
      by_cases hres : env.openAndStartDataCall = LOC_API_ADAPTER_ERR_ENGINE_BUSY
      -- A busy answer is one more in a row, and may be the last.
      · rw [if_neg (not_not_intro hres)]
        by_cases hback : FallsBack env u
        · rcases budget_of_fallsBack hs hstart hres hback with ⟨hzero, hmax⟩
          rw [if_pos hback]
          refine ⟨hds, hsingle, Nat.le_of_eq (by rw [hzero]; rfl), by rw [hzero]; decide, ?_⟩
          intro n hn
          cases hn
          omega
        · rcases retries_of_busy hs hstart hres hback with ⟨hone, hmost⟩
          rw [if_neg hback]
          exact ⟨hds, hsingle, Nat.le_trans hone (Nat.succ_le_succ hs.busy), hmost, nofun⟩
      · have hzero := congrArg UInt8.toNat (retries_of_answered hs hanew hstart hres)
        rw [if_pos hres]
        exact ⟨hds, hsingle, Nat.le_of_eq hzero, Nat.le_trans (Nat.le_of_eq hzero) (Nat.zero_le _),
          nofun⟩

end

/-- In every run in which no answer is passed over while the counter is not
    zero, a busy modem is asked five times in a row before the fallback. That is
    the first time and the four retries after it, with no other answer in
    between. -/
theorem retryBudget_of_countsAnew (peek : Subscriber → IPv6Addr) (cs : List DSCall)
    (h : Meets RetryRun.step CountsAnew (RetryRun.init peek) cs) :
    Throughout RetryRun.step RetryBudget (RetryRun.init peek) cs :=
  throughout_of_meets (fun _ hs => hs.budget)
    (fun _ _ _ hs hanew hstep => counted_step hs hanew hstep) (counted_init peek) h

/-- A connection that finds the modem busy five times falls back, and another
    one after it starts again from zero. -/
theorem retryBudget_busyFive :
    Throughout RetryRun.step RetryBudget (RetryRun.init fun _ => Vector.replicate 16 0)
      (List.replicate 5 (.call (.subscribeRsrc (.ds 1 false) ⟨6, true⟩)) ++
        [.call (.subscribeRsrc (.ds 2 false) ⟨0, true⟩)]) :=
  retryBudget_of_countsAnew _ _ (by decide)

/-- Connection 1 finds the modem busy once and then gets its data call. When
    that is over, connection 2 finds the modem busy four times, and falls
    back. -/
def busyBefore : List DSCall :=
  [.call (.subscribeRsrc (.ds 1 false) ⟨6, true⟩),
   .call (.subscribeRsrc (.ds 1 false) ⟨0, true⟩),
   .call (.onRsrcEvent .rsrcGranted ⟨0, true⟩),
   .call (.onRsrcEvent .rsrcReleased ⟨0, true⟩),
   .call (.subscribeRsrc (.ds 2 false) ⟨6, true⟩),
   .call (.subscribeRsrc (.ds 2 false) ⟨6, true⟩),
   .call (.subscribeRsrc (.ds 2 false) ⟨6, true⟩),
   .call (.subscribeRsrc (.ds 2 false) ⟨6, true⟩)]

theorem busyBefore_breaks_budget :
    ¬ Throughout RetryRun.step RetryBudget (RetryRun.init fun _ => Vector.replicate 16 0)
      busyBefore := by
  decide

end Agps

end Victara
