import Mathlib.Data.List.Nodup
import Victara.Agps.DSPending
import Victara.Lib.History

/-!
# Emergency SUPL Connections

The DS machine with the messages that drive it, from `loc_eng.cpp` and
`LocEngAdapter.cpp`. The modem asks for a connection, and asks to close one.
The data service client connects and disconnects the data call. And the retry
timer calls `retryCallback`, which sends the engine a `LocEngRequestSuplEs` of
its own: that looks like a request of the modem, and waits in the queue until
it is processed.

All subscribers are `DSSubscriber`s here. The history keeps what the modem
asked for and what the machine sent, the newest first. Nothing in the code
reads it.

## Main definitions

* `DSEvent`, `DSSystem`: The history, and the machine with its queue.
* `DSEvent.sends`: An event that sends an output of a kind.
* `DSLabel`, `DSSystem.step`: The messages and the timer.
* `Output.suplES?`: The connection that a message to the engine itself is for.
* `perform`: A call on the machine.
* `ConnCall`: The calls that come of the messages.
* `DSCall.asked?`: The connection that a call asks for.
* `informed`: What `informStatus` sends to the modem.
* `AllDS`: Every listed subscriber is a DS one.
* `handles`: The connections of a list.
* `Conns`: What the list of a DS machine keeps to.
* `deactivate`: The list with the subscribers at an address set inactive.

## Theorems

* `step_retrySuplEs`: A message that is sent again is the first of those that
  wait.
* `mem_toldAll_ds`: What the modem is told about a list of connections.
* `eq_of_handle`: Two listed connections with one handle are the same.
* `mem_addSubscriber_ds`: Who is listed after a request.
* `dismissed_ds`: A DS subscriber waits for its close, so it is only set
  inactive.
* `conns_addSubscriber`: The list after a request.
* `conns_of_effect`: Every outcome keeps the list in order.
* `conns_stepDS`: Every call keeps the list in order.
* `exists_connHandle`: A start request is for somebody who is listed.
* `hasActive_addSubscriber_ds`: Whoever asks in Released is active and listed
  when the request is made.
* `restarted_mSubscribers`: Releasing tells the inactive and removes them, and
  whoever was active is still listed when the request is made.
* `mem_startMsgs`: The messages of a failed start request, or of a delayed or a
  successful one.
* `asks_sent`: A block of output asks for nothing.
* `since_sent`: What a block of output turns on.
* `avoids_sent`: What a block of output is to avoid.
-/

namespace Victara

namespace Agps

open AgpsStateMachine StepSystem

/-- The modem asks for an emergency SUPL connection, or the machine sends. -/
inductive DSEvent
  | asked (id : UInt32)
  | sent (o : Output)
  deriving DecidableEq, Repr

def DSEvent.asks (id : UInt32) : DSEvent → Bool
  | .asked id' => id' == id
  | .sent _ => false

/-- An event that sends an output of a kind. -/
def DSEvent.sends (kind : Output → Bool) : DSEvent → Bool
  | .asked _ => false
  | .sent o => kind o

/-- `retries` holds the messages of `retryCallback` that are still queued. -/
structure DSSystem where
  ds_nif : AgpsStateMachine
  retries : List UInt32
  history : List DSEvent

/-- `requestSuplEs` is a `LocEngRequestSuplEs` of the modem, and `retrySuplEs`
    the oldest one of `retryCallback`. -/
inductive DSLabel
  | requestSuplEs (id : UInt32) (env : Env)
  | retrySuplEs (env : Env)
  | releaseATL (id : UInt32) (env : Env)
  | onRsrcEvent (event : AgpsRsrcStatus) (env : Env)
  | retryCallback
  deriving DecidableEq, Repr

/-- The connection that a message to the engine itself is for. -/
def Output.suplES? : Output → Option UInt32
  | .requestSuplES id => some id
  | _ => none

namespace DSSystem

def init (peek : Subscriber → IPv6Addr) : DSSystem :=
  { ds_nif := newDS peek, retries := [], history := [] }

/-- A call on the machine. -/
def perform (s : DSSystem) (c : DSCall) : DSSystem :=
  let m := stepDS s.ds_nif c
  { ds_nif := m, retries := s.retries ++ m.out.filterMap Output.suplES?,
    history := (m.out.map DSEvent.sent).reverse ++ s.history }

def ask (s : DSSystem) (id : UInt32) : DSSystem := { s with history := .asked id :: s.history }

def step (s : DSSystem) : DSLabel → Option DSSystem
  | .requestSuplEs id env => some ((s.ask id).perform (.call (.subscribeRsrc (.ds id false) env)))
  | .retrySuplEs env =>
    match s.retries with
    | id :: rest =>
        some ({ s with retries := rest }.perform (.call (.subscribeRsrc (.ds id false) env)))
    | [] => none
  | .releaseATL id env => some (s.perform (.call (.unsubscribeRsrc (.ds id false) env)))
  | .onRsrcEvent event env => some (s.perform (.call (.onRsrcEvent event env)))
  | .retryCallback => some (s.perform .retryCallback)

/-- A message that is sent again is the first of those that wait. -/
theorem step_retrySuplEs {s t : DSSystem} {env : Env} (h : s.step (.retrySuplEs env) = some t) :
    ∃ id rest, s.retries = id :: rest ∧
      t = { s with retries := rest }.perform (.call (.subscribeRsrc (.ds id false) env)) := by
  cases hretries : s.retries with
  | nil => simp [step, hretries] at h
  | cons id rest =>
      simp only [step, hretries, Option.some.injEq] at h
      exact ⟨id, rest, rfl, h.symm⟩

end DSSystem

/-- The calls that come of the messages. -/
inductive ConnCall : DSCall → Prop
  | subscribe (id : UInt32) (env : Env) : ConnCall (.call (.subscribeRsrc (.ds id false) env))
  | unsubscribe (id : UInt32) (env : Env) : ConnCall (.call (.unsubscribeRsrc (.ds id false) env))
  | event (event : AgpsRsrcStatus) (env : Env) : ConnCall (.call (.onRsrcEvent event env))
  | retry : ConnCall .retryCallback

/-- The connection that a call asks for. -/
def DSCall.asked? : DSCall → Option UInt32
  | .call (.subscribeRsrc x _) => some x.ID
  | _ => none

/-- What `informStatus` sends to the modem. -/
def informed (status : AgpsRsrcStatus) (ID : UInt32) : List Output :=
  match status with
  | .rsrcUnsubscribe => [.atlCloseStatus ID true]
  | .rsrcReleased => [.closeDataCall]
  | .rsrcDenied => [.requestATL ID AGPS_TYPE_SUPL]
  | .rsrcGranted => [.atlOpenStatus ID true none AGPS_APN_BEARER_INVALID AGPS_TYPE_INVALID]
  | _ => []

theorem clientMsgs_ds (m : AgpsStateMachine) (id : UInt32) (inactive : Bool)
    (status : AgpsRsrcStatus) : m.clientMsgs (.ds id inactive) status = informed status id := by
  cases status <;> rfl

/-- Every listed subscriber is a DS one. -/
def AllDS (l : List Node) : Prop := ∀ nd ∈ l, nd.subscriber = .ds nd.subscriber.ID nd.subscriber.isInactive

theorem mem_toldAll_ds (m : AgpsStateMachine) {l : List Node} (hl : AllDS l)
    (status : AgpsRsrcStatus) (o : Output) :
    o ∈ m.toldAll l status ↔ ∃ nd ∈ l, o = .notified (some nd.addr) nd.subscriber status ∨
      o ∈ informed status nd.subscriber.ID := by
  unfold toldAll told
  rw [List.mem_flatMap]
  constructor
  · rintro ⟨nd, hnd, ho⟩
    rw [hl nd hnd, clientMsgs_ds, ← hl nd hnd, List.mem_cons] at ho
    exact ⟨nd, hnd, ho⟩
  · rintro ⟨nd, hnd, ho⟩
    refine ⟨nd, hnd, ?_⟩
    rw [hl nd hnd, clientMsgs_ds, ← hl nd hnd, List.mem_cons]
    exact ho

/-- The connections of a list. -/
def handles (l : List Node) : List UInt32 := l.map fun nd => nd.subscriber.ID

/-- What the list of a DS machine keeps to. In Released there is nobody but
    those whose data call could not be started: they wait for the retry, and are
    active. -/
structure Conns (m : AgpsStateMachine) : Prop where
  isDS : m.isDS = true
  enforce : m.mEnforceSingleSubscriber = false
  ds : AllDS m.mSubscribers
  nodup : (handles m.mSubscribers).Nodup
  released : m.mStatePtr = .released → ∀ nd ∈ m.mSubscribers, nd.subscriber.isInactive = false

theorem newDS_conns (peek : Subscriber → IPv6Addr) : Conns (newDS peek) :=
  ⟨rfl, rfl, (fun _ h => absurd h List.not_mem_nil), List.nodup_nil,
    fun _ _ h => absurd h List.not_mem_nil⟩

/-- Two listed connections with one handle are the same. -/
theorem eq_of_handle {l : List Node} (hl : (handles l).Nodup) {nd e : Node} (hnd : nd ∈ l)
    (he : e ∈ l) (h : e.subscriber.ID = nd.subscriber.ID) : e = nd :=
  List.inj_on_of_nodup_map hl he hnd h

theorem equals_ds (m : AgpsStateMachine) {nd : Node} {id : UInt32} {inactive : Bool}
    (hnd : nd.subscriber = .ds nd.subscriber.ID nd.subscriber.isInactive) :
    nd.subscriber.equals m.peek (.ds id inactive) = true ↔ nd.subscriber.ID = id := by
  rw [hnd]
  simp only [Subscriber.equals, Subscriber.ID, beq_iff_eq]

/-- A request lists its connection, unless it is listed already. -/
theorem mem_addSubscriber_ds {m : AgpsStateMachine} (hl : AllDS m.mSubscribers) (id : UInt32) :
    (∃ nd ∈ m.mSubscribers, nd.subscriber.ID = id ∧ m.addSubscriber (.ds id false) = m) ∨
    ((∀ nd ∈ m.mSubscribers, nd.subscriber.ID ≠ id) ∧
      (m.addSubscriber (.ds id false)).mSubscribers =
        ⟨m.nextAddr, .ds id false⟩ :: m.mSubscribers) := by
  rcases addSubscriber_eq m (.ds id false) with ⟨heq, nd, hnd, hx⟩ | ⟨heq, hno⟩
  · exact Or.inl ⟨nd, hnd, (equals_ds m (hl nd hnd)).mp hx, heq⟩
  · refine Or.inr ⟨fun nd hnd hid => ?_, by rw [heq]; rfl⟩
    have hx : nd.subscriber.equals m.peek (.ds id false) = true :=
      (equals_ds m (hl nd hnd)).mpr hid
    rw [hno nd hnd] at hx
    cases hx

/-- The list with the subscribers at an address set inactive. -/
def deactivate (l : List Node) (addr : Nat) : List Node :=
  l.map fun e => if e.addr = addr then { e with subscriber := e.subscriber.markInactive } else e

section

variable {l : List Node} (hl : AllDS l)

include hl

theorem mem_deactivate {addr : Nat} {e : Node} (he : e ∈ deactivate l addr) :
    ∃ e₀ ∈ l, e.subscriber.ID = e₀.subscriber.ID ∧
      e.subscriber = .ds e.subscriber.ID e.subscriber.isInactive ∧
      (e₀.addr = addr ∨ e₀.subscriber.isInactive = true → e.subscriber.isInactive = true) := by
  rcases List.mem_map.mp he with ⟨e₀, he₀, rfl⟩
  refine ⟨e₀, he₀, ?_⟩
  by_cases haddr : e₀.addr = addr
  · rw [if_pos haddr, hl e₀ he₀]
    exact ⟨rfl, rfl, fun _ => rfl⟩
  · rw [if_neg haddr]
    refine ⟨rfl, hl e₀ he₀, ?_⟩
    intro h
    exact h.resolve_left haddr

theorem handles_deactivate (addr : Nat) : handles (deactivate l addr) = handles l := by
  unfold handles deactivate
  rw [List.map_map]
  apply List.map_congr_left
  intro e he
  simp only [Function.comp_apply]
  split
  · rw [hl e he]
    rfl
  · rfl

theorem allDS_filter (p : Node → Bool) : AllDS (l.filter p) :=
  fun nd hnd => hl nd (List.mem_filter.mp hnd).1

end

theorem nodup_handles_filter {l : List Node} (h : (handles l).Nodup) (p : Node → Bool) :
    (handles (l.filter p)).Nodup := by
  unfold handles
  exact h.sublist (List.Sublist.map _ List.filter_sublist)

/-- A DS subscriber waits for its close, so it is only set inactive. -/
theorem dismissed_ds {m : AgpsStateMachine} {nd : Node} {l : List Node} {ns : List Note}
    (hnd : nd.subscriber = .ds nd.subscriber.ID nd.subscriber.isInactive)
    (h : Dismissed m nd l ns) : l = deactivate m.mSubscribers nd.addr := by
  cases h with
  | waits hwait => rfl
  | removed hwait =>
      rw [hnd] at hwait
      cases hwait

theorem dismissMsgs_ds {m : AgpsStateMachine} {nd : Node}
    (hnd : nd.subscriber = .ds nd.subscriber.ID nd.subscriber.isInactive) :
    dismissMsgs m nd = [.atlCloseStatus nd.subscriber.ID true] := by
  unfold dismissMsgs
  rw [hnd]
  rfl

/-- The list after a request. -/
theorem conns_addSubscriber {m : AgpsStateMachine} (hm : Conns m) (id : UInt32) :
    AllDS (m.addSubscriber (.ds id false)).mSubscribers ∧
      (handles (m.addSubscriber (.ds id false)).mSubscribers).Nodup ∧
      (m.mStatePtr = .released → ∀ nd ∈ (m.addSubscriber (.ds id false)).mSubscribers,
        nd.subscriber.isInactive = false) := by
  rcases mem_addSubscriber_ds hm.ds id with ⟨_, _, _, heq⟩ | ⟨hno, heq⟩
  · rw [heq]
    exact ⟨hm.ds, hm.nodup, hm.released⟩
  · rw [heq]
    refine ⟨?_, ?_, ?_⟩
    · intro nd hnd
      rcases List.mem_cons.mp hnd with rfl | hold
      · rfl
      · exact hm.ds nd hold
    · refine List.nodup_cons.mpr ⟨?_, hm.nodup⟩
      intro hmem
      rcases List.mem_map.mp hmem with ⟨nd, hnd, hid⟩
      exact hno nd hnd hid
    · intro hst nd hnd
      rcases List.mem_cons.mp hnd with rfl | hold
      · rfl
      · exact hm.released hst nd hold

/-- Every outcome keeps the list in order. -/
theorem conns_of_effect {m : AgpsStateMachine} {c : DSCall} {s : AgpsState} {l : List Node}
    {os : List Output} (hm : Conns m) (hc : ConnCall c) (h : DSEffect m c s l os) :
    AllDS l ∧ (handles l).Nodup ∧
      (s = .released → ∀ nd ∈ l, nd.subscriber.isInactive = false) := by
  -- Three lists that are in order: the one before, the empty one, and the active ones.
  have hsame := And.intro hm.ds (And.intro hm.nodup hm.released)
  have hnil : AllDS [] ∧ (handles []).Nodup ∧
      (s = .released → ∀ nd ∈ ([] : List Node), nd.subscriber.isInactive = false) :=
    ⟨fun _ h => absurd h List.not_mem_nil, List.nodup_nil, fun _ _ h => absurd h List.not_mem_nil⟩
  have hactives : AllDS (actives m.mSubscribers) ∧ (handles (actives m.mSubscribers)).Nodup ∧
      (s = .released → ∀ nd ∈ actives m.mSubscribers, nd.subscriber.isInactive = false) := by
    refine ⟨allDS_filter hm.ds _, nodup_handles_filter hm.nodup _, fun _ nd hnd => ?_⟩
    simpa only [Bool.not_eq_true'] using (List.mem_filter.mp hnd).2
  cases h with
  | refused x env he => exact hsame
  | requested x env hst =>
      rcases hc with ⟨id, _⟩
      have hadd := conns_addSubscriber hm id
      exact ⟨hadd.1, hadd.2.1, fun _ => hadd.2.2 hst⟩
  | waits x env hst =>
      cases hc
      exact conns_addSubscriber hm _
  | served x env hst =>
      rcases hc with ⟨id, _⟩
      have hadd := conns_addSubscriber hm id
      exact ⟨hadd.1, hadd.2.1, fun h => by cases h⟩
  | unlisted x env hx => exact hsame
  | kept x env nd hst hnd hx => exact ⟨hm.ds, hm.nodup, fun _ => hm.released hst⟩
  | dismissed x env nd l ns s' rs hst hnd hx hl hs =>
      cases dismissed_ds (hm.ds nd hnd) hl
      refine ⟨fun e he => ?_, ?_, fun hrel => ?_⟩
      · rcases mem_deactivate hm.ds he with ⟨_, _, _, hds, _⟩
        exact hds
      · rw [handles_deactivate hm.ds]
        exact hm.nodup
      · -- Whoever waits for its close is still listed, so Released is out of reach.
        have hmem : nd.subscriber.ID ∈ handles (deactivate m.mSubscribers nd.addr) := by
          rw [handles_deactivate hm.ds]
          exact List.mem_map_of_mem hnd
        have hne : deactivate m.mSubscribers nd.addr ≠ [] := by
          intro hnil
          rw [hnil] at hmem
          exact absurd hmem List.not_mem_nil
        cases hs with
        | emptied hempty _ => exact absurd hempty hne
        | finished hempty _ => exact absurd hempty hne
        | idle _ _ _ => cases hrel
        | stays _ _ => exact absurd hrel hst
  | ignored event env hr => exact hsame
  | connected env hst => exact ⟨hm.ds, hm.nodup, fun h => by cases h⟩
  | denied event env hst hev => exact hnil
  | dropped env hst => exact hnil
  | restarted event env hst hev ha => exact hactives
  | finished event env hst hev ha => exact hactives
  | setAPN apn len => exact hsame
  | setBearer bearer => exact hsame
  | retried nd hnd => exact hsame
  | noRetry hnd => exact hsame

theorem conns_stepDS {m : AgpsStateMachine} {c : DSCall} (hm : Conns m) (hc : ConnCall c) :
    Conns (stepDS m c) := by
  have hconfig := stepDS_config m c
  have hfresh : Conns m.fresh := ⟨hm.isDS, hm.enforce, hm.ds, hm.nodup, hm.released⟩
  rcases conns_of_effect hfresh hc (stepDS_effect m c hm.isDS) with ⟨hds, hnodup, hrel⟩
  exact ⟨hconfig.isDS.trans hm.isDS, hconfig.enforce.trans hm.enforce, hds, hnodup, hrel⟩

/-- A start request that is made for somebody active is made for somebody
    active on the list. -/
theorem exists_connHandle {m : AgpsStateMachine} (h : HasActive m.mSubscribers) :
    ∃ nd ∈ m.mSubscribers, nd.subscriber.isInactive = false ∧
      m.connHandle = nd.subscriber.ID := by
  have hsome := (hasActiveSubscribers_iff m).mpr h
  unfold hasActiveSubscribers at hsome
  rcases Option.isSome_iff_exists.mp hsome with ⟨nd, hnd⟩
  refine ⟨nd, ?_, ?_, by unfold connHandle; rw [hnd]; rfl⟩
  · rw [firstActive_eq] at hnd
    exact List.mem_of_find?_eq_some hnd
  · rw [firstActive_eq] at hnd
    simpa only [Bool.not_eq_true'] using List.find?_some hnd

/-- Whoever asks in Released is active and listed when the request is made. -/
theorem hasActive_addSubscriber_ds {m : AgpsStateMachine} (hm : Conns m)
    (hst : m.mStatePtr = .released) (id : UInt32) :
    HasActive (m.addSubscriber (.ds id false)).mSubscribers := by
  have hadd := (conns_addSubscriber hm id).2.2 hst
  rcases mem_addSubscriber_ds hm.ds id with ⟨nd, hnd, _, heq⟩ | ⟨_, heq⟩
  · exact ⟨nd, mem_addSubscriber m _ nd hnd, hadd nd (mem_addSubscriber m _ nd hnd)⟩
  · rw [heq]
    exact ⟨_, List.mem_cons_self, rfl⟩

/-- Releasing tells the inactive and removes them, and whoever was active is
    still listed when the request is made. -/
theorem restarted_mSubscribers (m : AgpsStateMachine) {event : AgpsRsrcStatus}
    (hev : event = .rsrcReleased ∨ event = .rsrcDenied) :
    (m.notifySubscribers (.broadcast .broadcastInactive event true)).mSubscribers =
      actives m.mSubscribers := by
  have hdeliv : event.isDelivered = true := by rcases hev with rfl | rfl <;> rfl
  exact (notifyInactive_emits m event hdeliv).sends.mSubscribers

theorem hasActive_restarted {m : AgpsStateMachine} {event : AgpsRsrcStatus}
    (hev : event = .rsrcReleased ∨ event = .rsrcDenied) (ha : HasActive m.mSubscribers) :
    HasActive (m.notifySubscribers (.broadcast .broadcastInactive event true)).mSubscribers := by
  rw [restarted_mSubscribers m hev]
  exact (hasActive_actives _).mpr ha

/-- The messages of a failed start request, or of a delayed or a successful
    one. -/
theorem mem_startMsgs {env : Env} {m : AgpsStateMachine} {o : Output} (h : o ∈ startMsgs env m) :
    o = .openAndStartDataCall ∨ o = .locTimerStart DATA_CALL_RETRY_DELAY_MSEC ∨
      (FallsBack env m ∧ o = .requestATL m.connHandle AGPS_TYPE_SUPL) := by
  unfold startMsgs at h
  rcases List.mem_cons.mp h with h | h
  · exact Or.inl h
  · split at h
    · rename_i hfall
      exact Or.inr (Or.inr ⟨hfall, List.mem_singleton.mp h⟩)
    · split at h
      · exact Or.inr (Or.inl (List.mem_singleton.mp h))
      · exact absurd h List.not_mem_nil

/-- A block of output asks for nothing. -/
theorem asks_sent (id : UInt32) (os : List Output) :
    ∀ e ∈ (os.map DSEvent.sent).reverse, e.asks id = false := by
  intro e he
  rcases List.mem_map.mp (List.mem_reverse.mp he) with ⟨o, _, rfl⟩
  rfl

theorem any_sends (kind : Output → Bool) (os : List Output) :
    (os.map DSEvent.sent).reverse.any (DSEvent.sends kind) = os.any kind := by
  rw [List.any_reverse, List.any_map]
  rfl

/-- What a block of output turns on. -/
theorem since_sent (kind : Output → Bool) (id : UInt32) (os : List Output) (h : List DSEvent) :
    History.since (DSEvent.sends kind) (DSEvent.asks id) ((os.map DSEvent.sent).reverse ++ h) =
      (os.any kind || History.since (DSEvent.sends kind) (DSEvent.asks id) h) := by
  rw [History.since_append (asks_sent id os), any_sends]

/-- What a block of output is to avoid. -/
theorem avoids_sent {kind bad : Output → Bool} {id : UInt32} {os : List Output}
    {h : List DSEvent}
    (hbad : (∃ o ∈ os, bad o = true) → os.any kind = false ∧
      History.since (DSEvent.sends kind) (DSEvent.asks id) h = false)
    (hbefore : History.Avoids (DSEvent.sends kind) (DSEvent.asks id) (DSEvent.sends bad) h) :
    History.Avoids (DSEvent.sends kind) (DSEvent.asks id) (DSEvent.sends bad)
      ((os.map DSEvent.sent).reverse ++ h) := by
  refine History.avoids_append (asks_sent id os) ?_ hbefore
  rintro ⟨e, he, hsends⟩
  rcases List.mem_map.mp (List.mem_reverse.mp he) with ⟨o, ho, rfl⟩
  rw [any_sends]
  exact hbad ⟨o, ho, hsends⟩

end Agps

end Victara
