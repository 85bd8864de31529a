import Victara.Agps.SuplEs

/-!
# A Connection That Fell Back to ATL Leaves the DS Machine

`informStatus(RSRC_DENIED, ID)` hands a connection back to the modem, which is
to open an ordinary SUPL connection in its place. The DS machine is done with
it: it is not to be listed, and not to be granted, until the modem asks for it
again.

The DENIED broadcast removes whom it tells. The fallback of a start request
does not: it hands the first active connection back and leaves it listed, so a
later data call, of another connection, grants it as well. And the retry timer
remembers the connection it asks for. If that is denied before the message is
processed, the message lists it again.

What an outcome hands back, grants and lists is collected in one description of
it, `FallbackSpec`, and the property is kept by any outcome that fits it. That
leaves the two ways in which a connection comes back to be dealt with: a start
request that falls back leaves whom it has handed back on the list, which breaks
the property at once, and a retry lists its connection whatever has become of
it, which breaks it a step later. So the condition is exact.

## Main definitions

* `handsBack`, `grants`: What the modem is sent.
* `fellBack`: A connection was handed back, and not asked for since.
* `StaysBack`: None such is listed, and none was granted.
* `NoFallbackCall`: The start request that a call makes does not fall back.
* `NoFallback`: No start request falls back, and no retry is of a connection
  that has been handed back.
* `Output.isNeutral`: An output that neither hands back nor grants.
* `FallbackSpec`: What an outcome sends and lists, as far as fallbacks matter.

## Theorems

* `FallbackSpec.of_not_handsBack`: An outcome that hands nobody back.
* `FallbackSpec.of_neutral`: An outcome that sends neither.
* `toldAll_neutral`: What the listed are told with a status other than GRANTED
  and DENIED.
* `toldAll_denied`: A DENIED hands back, and grants nobody.
* `toldAll_granted`: A GRANTED grants, and hands nobody back.
* `toldAll_inactives`: The inactive are told and removed, and have other handles
  than those who stay.
* `fallbackSpec_served`: A GRANTED to the one that asks in Acquired.
* `fallbackSpec_restarted`: What is sent and listed when Releasing ends with a
  new request.
* `fallbackSpec_of_effect`: What every outcome without a fallback sends and
  lists.
* `staysBack_perform`: Every call without a fallback keeps those who fell back
  away, if it is not made for one of them.
* `staysBack_ask`: The modem's own request takes a connection back in.
* `listed_of_subscribe`: In every state a request ends up on the list.
* `not_staysBack_of_handsBack`: Handing somebody back who is listed.
* `handsBack_mem_startMsgs`: A start request that falls back hands back the
  first active one.
* `fallsBack_of_not`: A call that falls back comes in Released from a
  subscriber, or ends Releasing with somebody active.
* `fallback_stays_listed`: A fallback of a start request breaks it.
* `staysBack_iff`: The exact condition, over whole runs.
-/

namespace Victara

namespace Agps

open AgpsStateMachine StepSystem History

def Output.handsBack (id : UInt32) : Output → Bool
  | .requestATL connHandle _ => connHandle == id
  | _ => false

def Output.grants (id : UInt32) : Output → Bool
  | .atlOpenStatus handle isSucc _ _ _ => handle == id && isSucc
  | _ => false

/-- Handed back to the modem, which has not asked for it again. -/
def fellBack (h : List DSEvent) (id : UInt32) : Bool :=
  since (DSEvent.sends (Output.handsBack id)) (DSEvent.asks id) h

/-- Nobody who fell back is listed, and nobody was granted who had fallen back,
    before the modem asked for it again. The first part is about the state and
    the second about what was sent: who stays listed is granted by the next
    GRANTED. -/
def StaysBack (s : DSSystem) : Prop :=
  (∀ nd ∈ s.ds_nif.mSubscribers, fellBack s.history nd.subscriber.ID = false) ∧
    ∀ id, Avoids (DSEvent.sends (Output.handsBack id)) (DSEvent.asks id)
      (DSEvent.sends (Output.grants id)) s.history

/-- The start request that a call makes does not fall back. A subscriber makes
    one in Released. In Releasing it is made once the inactive subscribers are
    told, which may reset the retry counter. -/
def NoFallbackCall (m : AgpsStateMachine) : DSCall → Prop
  | .call (.subscribeRsrc _ env) => m.mStatePtr = .released → ¬ FallsBack env m
  | .call (.onRsrcEvent event env) => m.mStatePtr = .releasing →
      event = .rsrcReleased ∨ event = .rsrcDenied → HasActive m.mSubscribers →
        ¬ FallsBack env (m.notifySubscribers (.broadcast .broadcastInactive event true))
  | _ => True

/-- No start request falls back, and a retry that is processed is not of a
    connection that fell back. A start request is made by a subscription, by the
    event that ends a release and by a retry, and falls back for whoever comes
    first on the list. A retry is the only way back onto the list that the modem
    did not ask for. -/
def NoFallback (s : DSSystem) : DSLabel → Prop
  | .requestSuplEs id env =>
      NoFallbackCall s.ds_nif.fresh (.call (.subscribeRsrc (.ds id false) env))
  | .retrySuplEs env => ∀ id ∈ s.retries.head?, fellBack s.history id = false ∧
      NoFallbackCall s.ds_nif.fresh (.call (.subscribeRsrc (.ds id false) env))
  | .onRsrcEvent event env => NoFallbackCall s.ds_nif.fresh (.call (.onRsrcEvent event env))
  | .releaseATL _ _ | .retryCallback => True

theorem fallsBack_addSubscriber (env : Env) (m : AgpsStateMachine) (x : Subscriber) :
    FallsBack env (m.addSubscriber x) ↔ FallsBack env m := by
  rcases addSubscriber_eq m x with ⟨heq, _⟩ | ⟨heq, _⟩ <;> rw [heq]
  exact Iff.rfl

/-- Neither handed back nor granted. -/
def Output.isNeutral (o : Output) : Prop := ∀ id, o.handsBack id = false ∧ o.grants id = false

theorem startMsgs_neutral {env : Env} {m : AgpsStateMachine} (h : ¬ FallsBack env m) {o : Output}
    (ho : o ∈ startMsgs env m) : o.isNeutral := by
  rcases mem_startMsgs ho with rfl | rfl | ⟨hfall, _⟩
  · exact fun id => ⟨rfl, rfl⟩
  · exact fun id => ⟨rfl, rfl⟩
  · exact absurd hfall h

/-- What an outcome sends and lists: it grants only the active on the list and
    the one that asks, hands back only those it no longer lists, and lists
    nobody new but the one that asks. -/
structure FallbackSpec (m : AgpsStateMachine) (c : DSCall) (l : List Node) (os : List Output) :
    Prop where
  grants : ∀ o ∈ os, ∀ id, o.grants id = true →
    id ∈ handles m.mSubscribers ∨ c.asked? = some id
  handsBack : ∀ o ∈ os, ∀ id, o.handsBack id = true → id ∉ handles l ∧ ∀ o' ∈ os, ∀ id',
    o'.grants id' = false
  listed : ∀ nd ∈ l, nd.subscriber.ID ∈ handles m.mSubscribers ∨
    c.asked? = some nd.subscriber.ID

/-- An outcome that hands nobody back. -/
theorem FallbackSpec.of_not_handsBack {m : AgpsStateMachine} {c : DSCall} {l : List Node}
    {os : List Output} (hno : ∀ o ∈ os, ∀ id, o.handsBack id = false)
    (hgrants : ∀ o ∈ os, ∀ id, o.grants id = true →
      id ∈ handles m.mSubscribers ∨ c.asked? = some id)
    (hlisted : ∀ nd ∈ l, nd.subscriber.ID ∈ handles m.mSubscribers ∨
      c.asked? = some nd.subscriber.ID) : FallbackSpec m c l os := by
  refine ⟨hgrants, fun o ho id h => ?_, hlisted⟩
  rw [hno o ho id] at h
  cases h

/-- An outcome that sends neither. -/
theorem FallbackSpec.of_neutral {m : AgpsStateMachine} {c : DSCall} {l : List Node}
    {os : List Output} (hos : ∀ o ∈ os, o.isNeutral)
    (hlisted : ∀ nd ∈ l, nd.subscriber.ID ∈ handles m.mSubscribers ∨
      c.asked? = some nd.subscriber.ID) : FallbackSpec m c l os := by
  refine .of_not_handsBack (fun o ho id => (hos o ho id).1) (fun o ho id h => ?_) hlisted
  rw [(hos o ho id).2] at h
  cases h

theorem listed_addSubscriber {m : AgpsStateMachine} (hl : AllDS m.mSubscribers) (id : UInt32)
    (env : Env) : ∀ nd ∈ (m.addSubscriber (.ds id false)).mSubscribers,
      nd.subscriber.ID ∈ handles m.mSubscribers ∨
        (DSCall.call (.subscribeRsrc (.ds id false) env)).asked? = some nd.subscriber.ID := by
  intro nd hnd
  rcases mem_addSubscriber_ds hl id with ⟨_, _, _, heq⟩ | ⟨_, heq⟩
  · rw [heq] at hnd
    exact Or.inl (List.mem_map_of_mem hnd)
  · rw [heq] at hnd
    rcases List.mem_cons.mp hnd with rfl | hold
    · exact Or.inr rfl
    · exact Or.inl (List.mem_map_of_mem hold)

/-- What the listed are told with a status other than GRANTED and DENIED. -/
theorem toldAll_neutral {m : AgpsStateMachine} {l : List Node} (hl : AllDS l)
    {status : AgpsRsrcStatus} (hstatus : status = .rsrcReleased ∨ status = .rsrcUnsubscribe)
    {o : Output} (ho : o ∈ m.toldAll l status) : o.isNeutral := by
  rcases (mem_toldAll_ds m hl status o).mp ho with ⟨nd, _, rfl | hinf⟩
  · exact fun id => ⟨rfl, rfl⟩
  · rcases hstatus with rfl | rfl <;>
      rw [informed, List.mem_singleton] at hinf <;> rw [hinf] <;> exact fun id => ⟨rfl, rfl⟩

/-- A DENIED hands back, and grants nobody. -/
theorem toldAll_denied {m : AgpsStateMachine} {l : List Node} (hl : AllDS l) {o : Output}
    (ho : o ∈ m.toldAll l .rsrcDenied) (id : UInt32) :
    o.grants id = false ∧ (o.handsBack id = true → id ∈ handles l) := by
  rcases (mem_toldAll_ds m hl .rsrcDenied o).mp ho with ⟨nd, hnd, rfl | hinf⟩
  · exact ⟨rfl, fun h => by cases h⟩
  · rw [informed, List.mem_singleton] at hinf
    rw [hinf]
    refine ⟨rfl, fun h => ?_⟩
    simp only [Output.handsBack, beq_iff_eq] at h
    rw [← h]
    exact List.mem_map_of_mem hnd

/-- A GRANTED grants, and hands nobody back. -/
theorem toldAll_granted {m : AgpsStateMachine} {l : List Node} (hl : AllDS l) {o : Output}
    (ho : o ∈ m.toldAll l .rsrcGranted) (id : UInt32) :
    o.handsBack id = false ∧ (o.grants id = true → id ∈ handles l) := by
  rcases (mem_toldAll_ds m hl .rsrcGranted o).mp ho with ⟨nd, hnd, rfl | hinf⟩
  · exact ⟨rfl, fun h => by cases h⟩
  · rw [informed, List.mem_singleton] at hinf
    rw [hinf]
    refine ⟨rfl, fun h => ?_⟩
    simp only [Output.grants, Bool.and_true, beq_iff_eq] at h
    rw [← h]
    exact List.mem_map_of_mem hnd

/-- The inactive are told and removed, and have other handles than those who
    stay. -/
theorem toldAll_inactives {m : AgpsStateMachine} (hm : Conns m) {event : AgpsRsrcStatus}
    (hev : event = .rsrcReleased ∨ event = .rsrcDenied) {o : Output}
    (ho : o ∈ m.toldAll (inactives m.mSubscribers) event) (id : UInt32) :
    o.grants id = false ∧ (o.handsBack id = true → id ∉ handles (actives m.mSubscribers)) := by
  have hds : AllDS (inactives m.mSubscribers) := allDS_filter hm.ds _
  rcases hev with rfl | rfl
  · have hneutral := toldAll_neutral hds (Or.inl rfl) ho id
    refine ⟨hneutral.2, fun h => ?_⟩
    rw [hneutral.1] at h
    cases h
  · rcases toldAll_denied hds ho id with ⟨hno, hback⟩
    refine ⟨hno, fun h hmem => ?_⟩
    rcases List.mem_map.mp (hback h) with ⟨nd, hnd, hid⟩
    rcases List.mem_map.mp hmem with ⟨e, he, hid'⟩
    have hnd' := List.mem_filter.mp hnd
    have he' := List.mem_filter.mp he
    -- One handle, one subscriber, and that is either active or not.
    have hsame := eq_of_handle hm.nodup hnd'.1 he'.1 (hid'.trans hid.symm)
    rw [hsame, hnd'.2] at he'
    exact absurd he'.2 (by decide)

/-- A GRANTED to the one that asks in Acquired. -/
theorem fallbackSpec_served {m : AgpsStateMachine} (hm : Conns m) (id : UInt32) (env : Env) :
    FallbackSpec m (.call (.subscribeRsrc (.ds id false) env))
      (m.addSubscriber (.ds id false)).mSubscribers (m.told none (.ds id false) .rsrcGranted) := by
  unfold told
  rw [clientMsgs_ds]
  refine .of_not_handsBack (fun o ho id' => ?_) (fun o ho id' h => ?_)
    (listed_addSubscriber hm.ds id env)
  · rcases List.mem_cons.mp ho with rfl | ho
    · rfl
    · rw [informed, List.mem_singleton] at ho
      rw [ho]
      rfl
  · rcases List.mem_cons.mp ho with rfl | ho
    · cases h
    · rw [informed, List.mem_singleton] at ho
      rw [ho] at h
      simp only [Output.grants, Bool.and_true, beq_iff_eq] at h
      exact Or.inr (congrArg some h)

/-- Those who are handed back when Releasing ends have left the list, and the
    start request for the others does not fall back. -/
theorem fallbackSpec_restarted {m : AgpsStateMachine} (hm : Conns m) {event : AgpsRsrcStatus}
    {env : Env} (hst : m.mStatePtr = .releasing)
    (hev : event = .rsrcReleased ∨ event = .rsrcDenied) (ha : HasActive m.mSubscribers)
    (hno : NoFallbackCall m (.call (.onRsrcEvent event env))) :
    FallbackSpec m (.call (.onRsrcEvent event env)) (actives m.mSubscribers)
      (m.toldAll (inactives m.mSubscribers) event ++
        startMsgs env (m.notifySubscribers (.broadcast .broadcastInactive event true))) := by
  have hstart : ∀ o ∈ startMsgs env (m.notifySubscribers
      (.broadcast .broadcastInactive event true)), o.isNeutral :=
    fun o ho => startMsgs_neutral (hno hst hev ha) ho
  have hgrants : ∀ o ∈ m.toldAll (inactives m.mSubscribers) event ++ startMsgs env
      (m.notifySubscribers (.broadcast .broadcastInactive event true)), ∀ id,
      o.grants id = false := by
    intro o ho id
    rcases List.mem_append.mp ho with ho | ho
    · exact (toldAll_inactives hm hev ho id).1
    · exact (hstart o ho id).2
  refine ⟨fun o ho id h => ?_, fun o ho id h => ⟨?_, hgrants⟩,
    fun nd hnd => Or.inl (List.mem_map_of_mem (List.mem_filter.mp hnd).1)⟩
  · rw [hgrants o ho id] at h
    cases h
  · rcases List.mem_append.mp ho with ho | ho
    · exact (toldAll_inactives hm hev ho id).2 h
    · rw [(hstart o ho id).1] at h
      cases h

theorem fallbackSpec_of_effect {m : AgpsStateMachine} {c : DSCall} {s : AgpsState} {l : List Node}
    {os : List Output} (hm : Conns m) (hc : ConnCall c) (hno : NoFallbackCall m c)
    (h : DSEffect m c s l os) : FallbackSpec m c l os := by
  have hold : ∀ nd ∈ m.mSubscribers, nd.subscriber.ID ∈ handles m.mSubscribers ∨
      c.asked? = some nd.subscriber.ID := fun nd hnd => Or.inl (List.mem_map_of_mem hnd)
  have hnothing : ∀ o ∈ ([] : List Output), o.isNeutral := fun o ho => absurd ho List.not_mem_nil
  have hactives : ∀ nd ∈ actives m.mSubscribers, nd.subscriber.ID ∈ handles m.mSubscribers ∨
      c.asked? = some nd.subscriber.ID := fun nd hnd => hold nd (List.mem_filter.mp hnd).1
  cases h with
  | refused x env he =>
      rw [hm.enforce] at he
      cases he
  | requested x env hst =>
      rcases hc with ⟨id, _⟩
      -- `hno` says that this start does not fall back.
      refine .of_neutral (fun o ho => startMsgs_neutral ?_ ho) (listed_addSubscriber hm.ds id env)
      rw [fallsBack_addSubscriber]
      exact hno hst
  | waits x env hst =>
      rcases hc with ⟨id, _⟩
      exact .of_neutral hnothing (listed_addSubscriber hm.ds id env)
  | served x env hst =>
      rcases hc with ⟨id, _⟩
      exact fallbackSpec_served hm id env
  | unlisted x env hx => exact .of_neutral hnothing hold
  | kept x env nd hst hnd hx =>
      refine .of_neutral (fun o ho => ?_) hold
      unfold told at ho
      rw [hm.ds nd hnd, clientMsgs_ds, informed] at ho
      simp only [List.mem_cons, List.not_mem_nil, or_false] at ho
      rcases ho with rfl | rfl <;> exact fun id => ⟨rfl, rfl⟩
  | dismissed x env nd l ns s' rs hst hnd hx hl hs =>
      rw [dismissMsgs_ds (hm.ds nd hnd)]
      cases dismissed_ds (hm.ds nd hnd) hl
      refine .of_neutral (fun o ho => ?_) (fun e he => ?_)
      · rcases List.mem_append.mp ho with ho | ho
        · rw [List.mem_singleton.mp ho]
          exact fun id => ⟨rfl, rfl⟩
        · rcases List.mem_map.mp ho with ⟨_, _, rfl⟩
          exact fun id => ⟨rfl, rfl⟩
      · rcases mem_deactivate hm.ds he with ⟨e₀, he₀, hid, _⟩
        rw [hid]
        exact hold e₀ he₀
  | ignored event env hr => exact .of_neutral hnothing hold
  | connected env hst =>
      -- Only the active ones are told, and everyone stays listed.
      have hds : AllDS (actives m.mSubscribers) := allDS_filter hm.ds _
      refine .of_not_handsBack (fun o ho id => (toldAll_granted hds ho id).1)
        (fun o ho id h => Or.inl ?_) hold
      rcases List.mem_map.mp ((toldAll_granted hds ho id).2 h) with ⟨nd, hnd, rfl⟩
      exact List.mem_map_of_mem (List.mem_filter.mp hnd).1
  | denied event env hst hev =>
      -- Everyone is told, and no one is listed after that.
      refine ⟨fun o ho id h => ?_, fun o ho id h => ⟨List.not_mem_nil, fun o' ho' id' => ?_⟩,
        fun nd hnd => absurd hnd List.not_mem_nil⟩
      · rw [(toldAll_denied hm.ds ho id).1] at h
        cases h
      · exact (toldAll_denied hm.ds ho' id').1
  | dropped env hst =>
      exact .of_neutral (fun o ho => toldAll_neutral hm.ds (Or.inl rfl) ho)
        (fun nd hnd => absurd hnd List.not_mem_nil)
  | restarted event env hst hev ha => exact fallbackSpec_restarted hm hst hev ha hno
  | finished event env hst hev ha =>
      have htold := fun o ho id => toldAll_inactives hm hev (o := o) ho id
      refine ⟨fun o ho id h => ?_, fun o ho id h => ⟨(htold o ho id).2 h,
        fun o' ho' id' => (htold o' ho' id').1⟩, hactives⟩
      rw [(htold o ho id).1] at h
      cases h
  | retried nd hnd =>
      refine .of_neutral (fun o ho => ?_) hold
      rw [List.mem_singleton.mp ho]
      exact fun id => ⟨rfl, rfl⟩
  | noRetry hnd => exact .of_neutral hnothing hold
  | setAPN apn len => exact .of_neutral hnothing hold
  | setBearer bearer => exact .of_neutral hnothing hold

/-- Every call without a fallback keeps those who fell back away, if it is
    not made for one of them. -/
theorem staysBack_perform {s : DSSystem} {c : DSCall} (hm : Conns s.ds_nif) (hs : StaysBack s)
    (hc : ConnCall c) (hasked : ∀ id, c.asked? = some id → fellBack s.history id = false)
    (hno : NoFallbackCall s.ds_nif.fresh c) : StaysBack (s.perform c) := by
  have hfresh : Conns s.ds_nif.fresh := ⟨hm.isDS, hm.enforce, hm.ds, hm.nodup, hm.released⟩
  have hspec := fallbackSpec_of_effect hfresh hc hno (stepDS_effect s.ds_nif c hm.isDS)
  have haway : ∀ id, id ∈ handles s.ds_nif.mSubscribers ∨ c.asked? = some id →
      fellBack s.history id = false := by
    rintro id (hmem | hask)
    · rcases List.mem_map.mp hmem with ⟨nd, hnd, rfl⟩
      exact hs.1 nd hnd
    · exact hasked id hask
  refine ⟨fun nd hnd => ?_, fun id => avoids_sent (fun hex => ?_) (hs.2 id)⟩
  · have hback : (stepDS s.ds_nif c).out.any (Output.handsBack nd.subscriber.ID) = false := by
      rw [List.any_eq_false]
      intro o ho hyes
      exact (hspec.handsBack o ho _ hyes).1 (List.mem_map_of_mem hnd)
    show since _ _ _ = false
    simp only [DSSystem.perform, since_sent, hback, Bool.false_or]
    exact haway _ (hspec.listed nd hnd)
  · rcases hex with ⟨o, ho, hgrant⟩
    refine ⟨?_, haway id (hspec.grants o ho id hgrant)⟩
    rw [List.any_eq_false]
    intro o' ho' hback
    -- No call both grants and hands back.
    rw [(hspec.handsBack o' ho' id hback).2 o ho id] at hgrant
    cases hgrant

/-- The modem's own request takes a connection back in. -/
theorem staysBack_ask {s : DSSystem} (hs : StaysBack s) (id : UInt32) :
    StaysBack (s.ask id) ∧ fellBack (s.ask id).history id = false := by
  have hnow : ∀ id', fellBack (s.ask id).history id' =
      (!(id == id') && fellBack s.history id') := fun id' => rfl
  refine ⟨⟨fun nd hnd => ?_, fun id' => ⟨(fun h => by cases h), hs.2 id'⟩⟩, ?_⟩
  · rw [hnow, hs.1 nd hnd, Bool.and_false]
  · rw [hnow, beq_self_eq_true, Bool.not_true, Bool.false_and]

theorem staysBack_step {s t : DSSystem} {l : DSLabel} (hm : Conns s.ds_nif) (hs : StaysBack s)
    (hno : NoFallback s l) (h : s.step l = some t) : Conns t.ds_nif ∧ StaysBack t := by
  cases l with
  -- The modem has asked again for this connection, and for no other.
  | requestSuplEs id env =>
      cases h
      rcases staysBack_ask hs id with ⟨hask, hin⟩
      refine ⟨conns_stepDS hm (.subscribe id env),
        staysBack_perform hm hask (.subscribe id env) (fun id' h => ?_) hno⟩
      cases h
      exact hin
  -- The retry lists its connection without the modem having asked.
  | retrySuplEs env =>
      rcases DSSystem.step_retrySuplEs h with ⟨id, rest, hretries, rfl⟩
      have hhead := hno id (by rw [hretries]; rfl)
      refine ⟨conns_stepDS hm (.subscribe id env), staysBack_perform
        (s := { s with retries := rest }) hm hs (.subscribe id env) (fun id' h => ?_) hhead.2⟩
      cases h
      exact hhead.1
  | releaseATL id env =>
      cases h
      exact ⟨conns_stepDS hm (.unsubscribe id env),
        staysBack_perform hm hs (.unsubscribe id env) (fun id' h => by cases h) trivial⟩
  | onRsrcEvent event env =>
      cases h
      exact ⟨conns_stepDS hm (.event event env),
        staysBack_perform hm hs (.event event env) (fun id' h => by cases h) hno⟩
  | retryCallback =>
      cases h
      exact ⟨conns_stepDS hm .retry,
        staysBack_perform hm hs .retry (fun id' h => by cases h) trivial⟩

/-- In every state a request ends up on the list. -/
theorem listed_of_subscribe {m : AgpsStateMachine} (hm : Conns m) (id : UInt32) (env : Env) :
    ∃ nd ∈ (stepDS m (.call (.subscribeRsrc (.ds id false) env))).mSubscribers,
      nd.subscriber.ID = id := by
  have hfresh : Conns m.fresh := ⟨hm.isDS, hm.enforce, hm.ds, hm.nodup, hm.released⟩
  have hadd : ∃ nd ∈ (m.fresh.addSubscriber (.ds id false)).mSubscribers,
      nd.subscriber.ID = id := by
    rcases mem_addSubscriber_ds hfresh.ds id with ⟨nd, hnd, hid, heq⟩ | ⟨_, heq⟩
    · rw [heq]
      exact ⟨nd, hnd, hid⟩
    · rw [heq]
      exact ⟨_, List.mem_cons_self, rfl⟩
  have heff := stepDS_effect m (.call (.subscribeRsrc (.ds id false) env)) hm.isDS
  generalize (stepDS m (.call (.subscribeRsrc (.ds id false) env))).mStatePtr = s at heff
  generalize (stepDS m (.call (.subscribeRsrc (.ds id false) env))).mSubscribers = l at heff ⊢
  generalize (stepDS m (.call (.subscribeRsrc (.ds id false) env))).out = os at heff
  cases heff with
  | refused _ _ he =>
      rw [hfresh.enforce] at he
      cases he
  | _ => exact hadd

/-- Handing somebody back who is listed. -/
theorem not_staysBack_of_handsBack {s : DSSystem} {c : DSCall} {id : UInt32}
    (hlisted : id ∈ handles (stepDS s.ds_nif c).mSubscribers)
    (hback : ∃ o ∈ (stepDS s.ds_nif c).out, o.handsBack id = true) :
    ¬ StaysBack (s.perform c) := by
  intro hs
  rcases List.mem_map.mp hlisted with ⟨nd, hnd, rfl⟩
  have haway : since _ _ _ = false := hs.1 nd hnd
  simp only [DSSystem.perform, since_sent, List.any_eq_true.mpr hback, Bool.true_or] at haway
  cases haway

/-- A start request that falls back hands back the first active one. -/
theorem handsBack_mem_startMsgs {env : Env} {m : AgpsStateMachine} (h : FallsBack env m) :
    ∃ o ∈ startMsgs env m, o.handsBack m.connHandle = true := by
  refine ⟨.requestATL m.connHandle AGPS_TYPE_SUPL, ?_, by simp [Output.handsBack]⟩
  unfold startMsgs
  rw [if_pos h]
  simp

/-- A call that falls back comes in Released from a subscriber, or ends
    Releasing with somebody active. -/
theorem fallsBack_of_not {m : AgpsStateMachine} {c : DSCall} (h : ¬ NoFallbackCall m c) :
    (∃ x env, c = .call (.subscribeRsrc x env) ∧ m.mStatePtr = .released ∧ FallsBack env m) ∨
    ∃ event env, c = .call (.onRsrcEvent event env) ∧ m.mStatePtr = .releasing ∧
      (event = .rsrcReleased ∨ event = .rsrcDenied) ∧ HasActive m.mSubscribers ∧
      FallsBack env (m.notifySubscribers (.broadcast .broadcastInactive event true)) := by
  unfold NoFallbackCall at h
  split at h
  · simp only [Classical.not_imp, not_not] at h
    exact Or.inl ⟨_, _, rfl, h⟩
  · simp only [Classical.not_imp, not_not] at h
    exact Or.inr ⟨_, _, rfl, h⟩
  · exact absurd trivial h

/-- The fallback of a start request leaves the connection on the list. -/
theorem fallback_stays_listed {m : AgpsStateMachine} {c : DSCall} (hm : Conns m)
    (hc : ConnCall c) (hfall : ¬ NoFallbackCall m.fresh c) :
    ∃ id ∈ handles (stepDS m c).mSubscribers, ∃ o ∈ (stepDS m c).out, o.handsBack id = true := by
  have hfresh : Conns m.fresh := ⟨hm.isDS, hm.enforce, hm.ds, hm.nodup, hm.released⟩
  have heff := stepDS_effect m c hm.isDS
  generalize (stepDS m c).mStatePtr = s at heff
  generalize (stepDS m c).mSubscribers = l at heff ⊢
  generalize (stepDS m c).out = os at heff ⊢
  -- A start falls back, that of a new client or of those that were still active.
  rcases fallsBack_of_not hfall with ⟨x, env, rfl, hst, hfalls⟩ |
    ⟨event, env, rfl, hst, hev, ha, hfalls⟩
  · cases heff with
    | refused _ _ he =>
        rw [hfresh.enforce] at he
        cases he
    | requested =>
        rcases hc with ⟨id, _⟩
        rcases exists_connHandle (hasActive_addSubscriber_ds hfresh hst id) with
          ⟨nd, hnd, _, hhandle⟩
        have hfalls' := (fallsBack_addSubscriber env m.fresh (.ds id false)).mpr hfalls
        refine ⟨_, ?_, handsBack_mem_startMsgs hfalls'⟩
        rw [hhandle]
        exact List.mem_map_of_mem hnd
    | waits _ _ hst' =>
        rw [hst] at hst'
        rcases hst' with h | h <;> cases h
    | served _ _ hst' =>
        rw [hst] at hst'
        cases hst'
  · cases heff with
    | restarted =>
        rcases exists_connHandle (hasActive_restarted hev ha) with ⟨nd, hnd, _, hhandle⟩
        rcases handsBack_mem_startMsgs hfalls with ⟨o, ho, hback⟩
        refine ⟨_, ?_, o, List.mem_append_right _ ho, hback⟩
        rw [hhandle]
        rw [restarted_mSubscribers m.fresh hev] at hnd
        exact List.mem_map_of_mem hnd
    | ignored _ _ hr =>
        rw [hst] at hr
        rcases hev with rfl | rfl <;> cases hr
    | connected _ hst' =>
        rw [hst] at hst'
        cases hst'
    | denied _ _ hst' =>
        rw [hst] at hst'
        cases hst'
    | dropped _ hst' =>
        rw [hst] at hst'
        cases hst'
    | finished _ _ _ _ hno => exact absurd ha hno

theorem fallback_breaks {s : DSSystem} {l : DSLabel} (hm : Conns s.ds_nif)
    (hfall : ¬ NoFallback s l) : ∃ t, s.step l = some t ∧ ¬ StaysBack t := by
  cases l with
  | requestSuplEs id env =>
      rcases fallback_stays_listed hm (.subscribe id env) hfall with ⟨id', hlisted, hback⟩
      exact ⟨_, rfl, not_staysBack_of_handsBack (s := s.ask id) hlisted hback⟩
  | retrySuplEs env =>
      cases hretries : s.retries with
      | nil => exact absurd (fun id hid => by simp [hretries] at hid) hfall
      | cons id rest =>
          refine ⟨_, by simp only [DSSystem.step, hretries]; rfl, ?_⟩
          by_cases hback : fellBack s.history id = false
          -- It did not fall back before, so it is the start request that does.
          · have hcall : ¬ NoFallbackCall s.ds_nif.fresh
                (.call (.subscribeRsrc (.ds id false) env)) := by
              intro hok
              refine hfall (fun id' hid' => ?_)
              rw [hretries] at hid'
              cases hid'
              exact ⟨hback, hok⟩
            rcases fallback_stays_listed hm (.subscribe id env) hcall with ⟨id', hlisted, hsent⟩
            exact not_staysBack_of_handsBack (s := { s with retries := rest }) hlisted hsent
          · -- The message lists a connection that was handed back meanwhile.
            intro hstays
            rcases listed_of_subscribe hm id env with ⟨nd, hnd, hid⟩
            have haway : since _ _ _ = false := hstays.1 nd hnd
            rw [hid] at haway
            simp only [DSSystem.perform, since_sent, Bool.or_eq_false_iff] at haway
            exact hback haway.2
  | onRsrcEvent event env =>
      rcases fallback_stays_listed hm (.event event env) hfall with ⟨id', hlisted, hback⟩
      exact ⟨_, rfl, not_staysBack_of_handsBack hlisted hback⟩
  | releaseATL id env => exact absurd trivial hfall
  | retryCallback => exact absurd trivial hfall

/-- Connections that fell back stay away in just the runs in which no start
    request falls back and no retry brings one in again. The DENIED broadcast
    needs no condition, as it takes off the list whom it tells. -/
theorem staysBack_iff (peek : Subscriber → IPv6Addr) (ls : List DSLabel) :
    Throughout DSSystem.step StaysBack (DSSystem.init peek) ls ↔
      Meets DSSystem.step NoFallback (DSSystem.init peek) ls := by
  refine throughout_iff_meets (I := fun s => Conns s.ds_nif ∧ StaysBack s) (fun s hs => hs.2)
    (fun s l t hs hno hstep => staysBack_step hs.1 hs.2 hno hstep)
    (fun s l hs hno => fallback_breaks hs.1 hno) ⟨newDS_conns peek, ?_, fun id => trivial⟩
  exact fun nd hnd => absurd hnd List.not_mem_nil

/-- The data call of connection 1 is not supported, and it is handed back. The
    one of connection 2 is connected, and both are granted. -/
theorem fallen_back_is_granted :
    ∃ t, exec DSSystem.step (DSSystem.init fun _ => Vector.replicate 16 0)
        [.requestSuplEs 1 ⟨2, true⟩, .requestSuplEs 2 ⟨0, true⟩,
          .onRsrcEvent .rsrcGranted ⟨0, true⟩] = some t ∧
      fellBack t.history 1 = true ∧ 1 ∈ handles t.ds_nif.mSubscribers ∧
      ¬ Avoids (DSEvent.sends (Output.handsBack 1)) (DSEvent.asks 1)
        (DSEvent.sends (Output.grants 1)) t.history :=
  ⟨_, rfl, by decide, by decide, by decide⟩

end Agps

end Victara
