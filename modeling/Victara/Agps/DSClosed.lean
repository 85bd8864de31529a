import Victara.Agps.SuplEs

/-!
# A Closed DS Connection Stays Closed

A DS connection is closed at once when the modem asks for it: `setInactive`
sends `atlCloseStatus(ID, 1)`, and the subscriber stays listed until the data
call is down. From then on the machine has nothing to say about the connection
until the modem opens it again.

Three things break that. In Released nobody is set inactive: the subscriber of
a call that could not be started is told that it is closed, and stays listed
as an active one. A DENIED is broadcast to the closed ones too, and hands them
back to the modem. And the message of the retry timer lists a connection that
was closed meanwhile.

As for the fallback, what an outcome closes, reopens and lists is described
once, by `ClosedSpec`, for every outcome of `DSEffect`. A connection that is
closed is set inactive or taken off the list, and whoever is inactive is told of
nothing but the end of the release. The conditions rule out the three calls that
go past this.

## Main definitions

* `closes`, `reopens`: What the modem is sent.
* `closed`: A connection was closed, and not asked for since.
* `StaysClosed`: The machine does not come back to a closed connection.
* `ClosedAside`: The closed connections on the list are inactive.
* `broadcastsDenied`: A DENIED is broadcast to closed subscribers.
* `LeavesClosed`: None of the three things happens.
* `DSCall.deniedIn`: The call broadcasts a DENIED.
* `ClosedSpec`: What an outcome sends and lists, as far as closed connections
  matter.

## Theorems

* `ClosedSpec.of_not_closes`: An outcome that closes nobody.
* `toldAll_not_closes`: Only an unsubscribe closes.
* `toldAll_reopens`: Who is told GRANTED or DENIED is listed.
* `startMsgs_reopens`: A start request that falls back hands back the first
  active one.
* `reopens_inactives`: The inactive are told when Releasing ends, with a DENIED
  as with a RELEASED.
* `aside_addSubscriber`: Only the one that asks is added, and nobody is set
  active.
* `closedSpec_requested`: A start request in Released, where the list gets an
  active one.
* `closedSpec_dismissed`: The one that is closed is set inactive, and nobody is
  reopened.
* `closedSpec_restarted`: Once the inactive are told, a data call is started for
  the active.
* `listed_of_kept`: Who was listed may stay so.
* `closedSpec_told`: Somebody is told who is among the listed.
* `closedSpec_served`: Who asks for a connection that is there is told so.
* `closedSpec_retried`: The retry asks again for the first that is active.
* `closedSpec_of_effect`: What every outcome sends and lists.
* `staysClosed_perform`: Every call that leaves the closed connections alone
  keeps them closed.
* `staysClosed_ask`: The modem opens a connection anew.
* `staysClosed_of_leavesClosed`: The runs in which connections stay closed.
-/

namespace Victara

namespace Agps

open AgpsStateMachine StepSystem History

def Output.closes (id : UInt32) : Output → Bool
  | .atlCloseStatus handle isSucc => handle == id && isSucc
  | _ => false

/-- The machine tries for the connection, hands it back, or grants it. -/
def Output.reopens (id : UInt32) : Output → Bool
  | .requestSuplES connHandle => connHandle == id
  | .requestATL connHandle _ => connHandle == id
  | .atlOpenStatus handle isSucc _ _ _ => handle == id && isSucc
  | _ => false

/-- Closed, and the modem has not asked for it again. -/
def closed (h : List DSEvent) (id : UInt32) : Bool :=
  since (DSEvent.sends (Output.closes id)) (DSEvent.asks id) h

def StaysClosed (s : DSSystem) : Prop :=
  ∀ id, Avoids (DSEvent.sends (Output.closes id)) (DSEvent.asks id)
    (DSEvent.sends (Output.reopens id)) s.history

/-- A closed connection that is still listed waits for the data call to end. -/
def ClosedAside (s : DSSystem) : Prop :=
  ∀ nd ∈ s.ds_nif.mSubscribers, closed s.history nd.subscriber.ID = true →
    nd.subscriber.isInactive = true

/-- A DENIED is broadcast to closed subscribers. -/
def broadcastsDenied (s : AgpsState) (event : AgpsRsrcStatus) : Bool :=
  (s == .pending && (event == .rsrcReleased || event == .rsrcDenied)) ||
    (s == .releasing && event == .rsrcDenied)

/-- No connection is closed in Released, no DENIED is broadcast with a closed
    one on the list, and a retry that is processed is not of a closed one. These
    are the three ways back. A connection that is closed in Released stays
    listed as an active one, since only the other states set it inactive. A
    DENIED is for everybody who is listed, and to the modem it means that the
    connection is to be opened elsewhere. And a retry lists its connection
    whatever has become of it. -/
def LeavesClosed (s : DSSystem) : DSLabel → Prop
  | .releaseATL id _ => s.ds_nif.mStatePtr = .released → id ∉ handles s.ds_nif.mSubscribers
  | .onRsrcEvent event _ => broadcastsDenied s.ds_nif.mStatePtr event = true →
      ∀ nd ∈ s.ds_nif.mSubscribers, closed s.history nd.subscriber.ID = false
  | .retrySuplEs _ => ∀ id ∈ s.retries.head?, closed s.history id = false
  | .requestSuplEs _ _ | .retryCallback => True

instance decidableLeavesClosed (s : DSSystem) : (l : DSLabel) → Decidable (LeavesClosed s l)
  | .releaseATL id _ => inferInstanceAs (Decidable
      (s.ds_nif.mStatePtr = .released → id ∉ handles s.ds_nif.mSubscribers))
  | .onRsrcEvent event _ => inferInstanceAs (Decidable
      (broadcastsDenied s.ds_nif.mStatePtr event = true →
        ∀ nd ∈ s.ds_nif.mSubscribers, closed s.history nd.subscriber.ID = false))
  | .retrySuplEs _ => inferInstanceAs (Decidable
      (∀ id ∈ s.retries.head?, closed s.history id = false))
  | .requestSuplEs _ _ | .retryCallback => isTrue trivial

/-- The call broadcasts a DENIED. -/
def DSCall.deniedIn (m : AgpsStateMachine) : DSCall → Bool
  | .call (.onRsrcEvent event _) => broadcastsDenied m.mStatePtr event
  | _ => false

/-- What an outcome sends and lists: it comes back only to the active on the
    list, to the one that asks and, with a DENIED, to everybody; it closes only
    those whom it sets inactive; and it lists nobody else. -/
structure ClosedSpec (m : AgpsStateMachine) (c : DSCall) (l : List Node) (os : List Output) :
    Prop where
  reopens : ∀ o ∈ os, ∀ id, o.reopens id = true →
    (∃ nd ∈ m.mSubscribers, nd.subscriber.ID = id ∧
      (nd.subscriber.isInactive = false ∨ c.deniedIn m = true)) ∨ c.asked? = some id
  closes : ∀ o ∈ os, ∀ id, o.closes id = true →
    (∀ nd ∈ l, nd.subscriber.ID = id → nd.subscriber.isInactive = true) ∧
      ∀ o' ∈ os, ∀ id', o'.reopens id' = false
  listed : ∀ nd ∈ l, (∃ nd₀ ∈ m.mSubscribers, nd₀.subscriber.ID = nd.subscriber.ID ∧
    (nd₀.subscriber.isInactive = true → nd.subscriber.isInactive = true)) ∨
      c.asked? = some nd.subscriber.ID

/-- An outcome that closes nobody. -/
theorem ClosedSpec.of_not_closes {m : AgpsStateMachine} {c : DSCall} {l : List Node}
    {os : List Output} (hno : ∀ o ∈ os, ∀ id, o.closes id = false)
    (hreopens : ∀ o ∈ os, ∀ id, o.reopens id = true →
      (∃ nd ∈ m.mSubscribers, nd.subscriber.ID = id ∧
        (nd.subscriber.isInactive = false ∨ c.deniedIn m = true)) ∨ c.asked? = some id)
    (hlisted : ∀ nd ∈ l, (∃ nd₀ ∈ m.mSubscribers, nd₀.subscriber.ID = nd.subscriber.ID ∧
      (nd₀.subscriber.isInactive = true → nd.subscriber.isInactive = true)) ∨
        c.asked? = some nd.subscriber.ID) : ClosedSpec m c l os := by
  refine ⟨hreopens, fun o ho id h => ?_, hlisted⟩
  rw [hno o ho id] at h
  cases h

/-- Only an unsubscribe closes. -/
theorem toldAll_not_closes {m : AgpsStateMachine} {l : List Node} (hl : AllDS l)
    {status : AgpsRsrcStatus} (hstatus : status ≠ .rsrcUnsubscribe) {o : Output}
    (ho : o ∈ m.toldAll l status) (id : UInt32) : o.closes id = false := by
  rcases (mem_toldAll_ds m hl status o).mp ho with ⟨nd, _, rfl | hinf⟩
  · rfl
  · cases status with
    | rsrcUnsubscribe => exact absurd rfl hstatus
    | rsrcSubscribe => exact absurd hinf List.not_mem_nil
    | rsrcStatusMax => exact absurd hinf List.not_mem_nil
    | _ =>
        rw [informed, List.mem_singleton] at hinf
        rw [hinf]
        rfl

/-- Those who are told GRANTED or DENIED are listed. -/
theorem toldAll_reopens {m : AgpsStateMachine} {l : List Node} (hl : AllDS l)
    {status : AgpsRsrcStatus} {o : Output} (ho : o ∈ m.toldAll l status) {id : UInt32}
    (h : o.reopens id = true) :
    (∃ nd ∈ l, nd.subscriber.ID = id) ∧ status ≠ .rsrcReleased := by
  rcases (mem_toldAll_ds m hl status o).mp ho with ⟨nd, hnd, rfl | hinf⟩
  · cases h
  · cases status with
    | rsrcSubscribe => exact absurd hinf List.not_mem_nil
    | rsrcStatusMax => exact absurd hinf List.not_mem_nil
    | rsrcUnsubscribe =>
        rw [informed, List.mem_singleton] at hinf
        rw [hinf] at h
        cases h
    | rsrcReleased =>
        rw [informed, List.mem_singleton] at hinf
        rw [hinf] at h
        cases h
    | rsrcDenied =>
        rw [informed, List.mem_singleton] at hinf
        rw [hinf] at h
        simp only [Output.reopens, beq_iff_eq] at h
        exact ⟨⟨nd, hnd, h⟩, by decide⟩
    | rsrcGranted =>
        rw [informed, List.mem_singleton] at hinf
        rw [hinf] at h
        simp only [Output.reopens, Bool.and_true, beq_iff_eq] at h
        exact ⟨⟨nd, hnd, h⟩, by decide⟩

/-- A start request that falls back hands back the first active one. -/
theorem startMsgs_reopens {env : Env} {m : AgpsStateMachine} (ha : HasActive m.mSubscribers)
    {o : Output} (ho : o ∈ startMsgs env m) (id : UInt32) :
    o.closes id = false ∧ (o.reopens id = true →
      ∃ nd ∈ m.mSubscribers, nd.subscriber.ID = id ∧ nd.subscriber.isInactive = false) := by
  rcases mem_startMsgs ho with rfl | rfl | ⟨_, rfl⟩
  · exact ⟨rfl, fun h => by cases h⟩
  · exact ⟨rfl, fun h => by cases h⟩
  · refine ⟨rfl, fun h => ?_⟩
    simp only [Output.reopens, beq_iff_eq] at h
    rcases exists_connHandle ha with ⟨nd, hnd, hact, hhandle⟩
    exact ⟨nd, hnd, hhandle.symm.trans h, hact⟩

/-- The inactive are told when Releasing ends, with a DENIED as with a
    RELEASED. -/
theorem reopens_inactives {m : AgpsStateMachine} (hm : Conns m) {event : AgpsRsrcStatus}
    (hst : m.mStatePtr = .releasing) (hev : event = .rsrcReleased ∨ event = .rsrcDenied)
    (env : Env) :
    (∀ o ∈ m.toldAll (inactives m.mSubscribers) event, ∀ id, o.closes id = false) ∧
    (∀ o ∈ m.toldAll (inactives m.mSubscribers) event, ∀ id, o.reopens id = true →
      (∃ nd ∈ m.mSubscribers, nd.subscriber.ID = id ∧ (nd.subscriber.isInactive = false ∨
        (DSCall.call (.onRsrcEvent event env)).deniedIn m = true)) ∨
      (DSCall.call (.onRsrcEvent event env)).asked? = some id) := by
  have hds : AllDS (inactives m.mSubscribers) := allDS_filter hm.ds _
  refine ⟨fun o ho id => toldAll_not_closes hds ?_ ho id, fun o ho id hre => ?_⟩
  · rcases hev with rfl | rfl <;> decide
  · rcases toldAll_reopens hds ho hre with ⟨⟨nd, hnd, hid⟩, hne⟩
    refine Or.inl ⟨nd, (List.mem_filter.mp hnd).1, hid, Or.inr ?_⟩
    unfold DSCall.deniedIn broadcastsDenied
    rw [hst, hev.resolve_left hne]
    rfl

/-- Only the one that asks is added, and nobody is set active. -/
theorem aside_addSubscriber {m : AgpsStateMachine} (hl : AllDS m.mSubscribers) (id : UInt32)
    (env : Env) : ∀ nd ∈ (m.addSubscriber (.ds id false)).mSubscribers,
      (∃ nd₀ ∈ m.mSubscribers, nd₀.subscriber.ID = nd.subscriber.ID ∧
        (nd₀.subscriber.isInactive = true → nd.subscriber.isInactive = true)) ∨
      (DSCall.call (.subscribeRsrc (.ds id false) env)).asked? = some nd.subscriber.ID := by
  intro nd hnd
  rcases mem_addSubscriber_ds hl id with ⟨_, _, _, heq⟩ | ⟨_, heq⟩
  · rw [heq] at hnd
    exact Or.inl ⟨nd, hnd, rfl, fun h => h⟩
  · rw [heq] at hnd
    rcases List.mem_cons.mp hnd with rfl | hmem
    · exact Or.inr rfl
    · exact Or.inl ⟨nd, hmem, rfl, fun h => h⟩

/-- A start request in Released, where the list gets an active one. -/
theorem closedSpec_requested {m : AgpsStateMachine} (hm : Conns m)
    (hst : m.mStatePtr = .released) (id : UInt32) (env : Env) :
    ClosedSpec m (.call (.subscribeRsrc (.ds id false) env))
      (m.addSubscriber (.ds id false)).mSubscribers
      (startMsgs env (m.addSubscriber (.ds id false))) := by
  have ha := hasActive_addSubscriber_ds hm hst id
  refine .of_not_closes (fun o ho id' => (startMsgs_reopens ha ho id').1) (fun o ho id' hre => ?_)
    (aside_addSubscriber hm.ds id env)
  rcases (startMsgs_reopens ha ho id').2 hre with ⟨nd, hnd, rfl, hact⟩
  rcases aside_addSubscriber hm.ds id env nd hnd with ⟨nd₀, hnd₀, hid, hin⟩ | hask
  · refine Or.inl ⟨nd₀, hnd₀, hid, Or.inl ?_⟩
    by_contra hinactive
    rw [hin (by simpa only [Bool.not_eq_false] using hinactive)] at hact
    cases hact
  · exact Or.inr hask

/-- The one that is closed is set inactive, and nobody is reopened. -/
theorem closedSpec_dismissed {m : AgpsStateMachine} (hm : Conns m) {nd : Node}
    (hnd : nd ∈ m.mSubscribers) (c : DSCall) (rs : List AGpsStatusValue) :
    ClosedSpec m c (deactivate m.mSubscribers nd.addr)
      ([.atlCloseStatus nd.subscriber.ID true] ++ stopMsgs rs) := by
  have hquiet : ∀ o ∈ [Output.atlCloseStatus nd.subscriber.ID true] ++ stopMsgs rs, ∀ id,
      o.reopens id = false ∧ (o.closes id = true → id = nd.subscriber.ID) := by
    intro o ho id
    rcases List.mem_append.mp ho with ho | ho
    · rw [List.mem_singleton.mp ho]
      refine ⟨rfl, fun h => ?_⟩
      simp only [Output.closes, Bool.and_true, beq_iff_eq] at h
      exact h.symm
    · rcases List.mem_map.mp ho with ⟨_, _, rfl⟩
      exact ⟨rfl, fun h => by cases h⟩
  refine ⟨fun o ho id hre => ?_, fun o ho id hcl => ⟨fun e he hid => ?_,
    fun o' ho' id' => (hquiet o' ho' id').1⟩, fun e he => ?_⟩
  · rw [(hquiet o ho id).1] at hre
    cases hre
  · rcases mem_deactivate hm.ds he with ⟨e₀, he₀, hid₀, _, hin⟩
    -- Only the one that unsubscribes has that handle.
    have hsame := eq_of_handle hm.nodup hnd he₀
      (hid₀.symm.trans (hid.trans ((hquiet o ho id).2 hcl)))
    exact hin (Or.inl (by rw [hsame]))
  · rcases mem_deactivate hm.ds he with ⟨e₀, he₀, hid₀, _, hin⟩
    exact Or.inl ⟨e₀, he₀, hid₀.symm, fun h => hin (Or.inr h)⟩

/-- Once the inactive are told, a data call is started for the active. -/
theorem closedSpec_restarted {m : AgpsStateMachine} (hm : Conns m) {event : AgpsRsrcStatus}
    {env : Env} (hst : m.mStatePtr = .releasing)
    (hev : event = .rsrcReleased ∨ event = .rsrcDenied) (ha : HasActive m.mSubscribers) :
    ClosedSpec m (.call (.onRsrcEvent event env)) (actives m.mSubscribers)
      (m.toldAll (inactives m.mSubscribers) event ++
        startMsgs env (m.notifySubscribers (.broadcast .broadcastInactive event true))) := by
  have hactive := hasActive_restarted hev ha
  have hinact := reopens_inactives hm hst hev env
  refine .of_not_closes (fun o ho id => ?_) (fun o ho id hre => ?_)
    (fun nd hnd => Or.inl ⟨nd, (List.mem_filter.mp hnd).1, rfl, fun h => h⟩)
  · rcases List.mem_append.mp ho with ho | ho
    · exact hinact.1 o ho id
    · exact (startMsgs_reopens hactive ho id).1
  · rcases List.mem_append.mp ho with ho | ho
    · exact hinact.2 o ho id hre
    · rcases (startMsgs_reopens hactive ho id).2 hre with ⟨nd, hnd, hid, hact⟩
      rw [restarted_mSubscribers m hev] at hnd
      exact Or.inl ⟨nd, (List.mem_filter.mp hnd).1, hid, Or.inl hact⟩

/-- Who was listed may stay so. -/
theorem listed_of_kept {m : AgpsStateMachine} {c : DSCall} {l : List Node}
    (hl : ∀ nd ∈ l, nd ∈ m.mSubscribers) (nd : Node) (hnd : nd ∈ l) :
    (∃ nd₀ ∈ m.mSubscribers, nd₀.subscriber.ID = nd.subscriber.ID ∧
      (nd₀.subscriber.isInactive = true → nd.subscriber.isInactive = true)) ∨
        c.asked? = some nd.subscriber.ID :=
  Or.inl ⟨nd, hl nd hnd, rfl, fun h => h⟩

theorem closedSpec_silent {m : AgpsStateMachine} {c : DSCall} {l : List Node}
    (hlisted : ∀ nd ∈ l, (∃ nd₀ ∈ m.mSubscribers, nd₀.subscriber.ID = nd.subscriber.ID ∧
      (nd₀.subscriber.isInactive = true → nd.subscriber.isInactive = true)) ∨
        c.asked? = some nd.subscriber.ID) : ClosedSpec m c l [] :=
  .of_not_closes (fun _ ho => absurd ho List.not_mem_nil)
    (fun _ ho => absurd ho List.not_mem_nil) hlisted

/-- Somebody is told who is among the listed. -/
theorem closedSpec_told {m : AgpsStateMachine} {c : DSCall} {l l' : List Node}
    {status : AgpsRsrcStatus} (hds : AllDS l') (hstatus : status ≠ .rsrcUnsubscribe)
    (hmem : ∀ nd ∈ l', nd ∈ m.mSubscribers ∧ (status ≠ .rsrcReleased →
      nd.subscriber.isInactive = false ∨ c.deniedIn m = true))
    (hl : ∀ nd ∈ l, nd ∈ m.mSubscribers) : ClosedSpec m c l (m.toldAll l' status) := by
  refine .of_not_closes (fun o ho => toldAll_not_closes hds hstatus ho) (fun o ho id hre => ?_)
    (listed_of_kept hl)
  rcases toldAll_reopens hds ho hre with ⟨⟨nd, hnd, hid⟩, hne⟩
  exact Or.inl ⟨nd, (hmem nd hnd).1, hid, (hmem nd hnd).2 hne⟩

/-- Who asks for a connection that is there is told so. -/
theorem closedSpec_served {m : AgpsStateMachine} (hm : Conns m) (id : UInt32) (env : Env) :
    ClosedSpec m (.call (.subscribeRsrc (.ds id false) env))
      (m.addSubscriber (.ds id false)).mSubscribers
      (m.told none (.ds id false) .rsrcGranted) := by
  unfold told
  rw [clientMsgs_ds, informed]
  refine .of_not_closes (fun o ho id' => ?_) (fun o ho id' hre => ?_)
    (aside_addSubscriber hm.ds id env)
  · simp only [List.mem_cons, List.not_mem_nil, or_false] at ho
    rcases ho with rfl | rfl <;> rfl
  · simp only [List.mem_cons, List.not_mem_nil, or_false] at ho
    rcases ho with rfl | rfl
    · cases hre
    · simp only [Output.reopens, Bool.and_true, beq_iff_eq] at hre
      exact Or.inr (congrArg some hre)

/-- The retry asks again for the first that is active. -/
theorem closedSpec_retried {m : AgpsStateMachine} {nd : Node} (hnd : m.firstActive = some nd) :
    ClosedSpec m .retryCallback m.mSubscribers [.requestSuplES nd.subscriber.ID] := by
  refine .of_not_closes (fun o ho id => ?_) (fun o ho id hre => ?_)
    (listed_of_kept fun _ hnd' => hnd')
  · rw [List.mem_singleton.mp ho]
    rfl
  · rw [List.mem_singleton.mp ho] at hre
    simp only [Output.reopens, beq_iff_eq] at hre
    rw [firstActive_eq] at hnd
    exact Or.inl ⟨nd, List.mem_of_find?_eq_some hnd, hre,
      Or.inl (by simpa only [Bool.not_eq_true'] using List.find?_some hnd)⟩

/-- Every step is one of these. -/
theorem closedSpec_of_effect {m : AgpsStateMachine} {c : DSCall} {s : AgpsState} {l : List Node}
    {os : List Output} (hm : Conns m) (hc : ConnCall c)
    (hrel : ∀ id env, c = .call (.unsubscribeRsrc (.ds id false) env) →
      m.mStatePtr = .released → id ∉ handles m.mSubscribers)
    (h : DSEffect m c s l os) : ClosedSpec m c l os := by
  have hsame : ClosedSpec m c m.mSubscribers [] := closedSpec_silent (listed_of_kept fun _ h => h)
  have hactives : ∀ nd ∈ actives m.mSubscribers, nd ∈ m.mSubscribers :=
    fun nd hnd => (List.mem_filter.mp hnd).1
  cases h with
  | refused x env he =>
      rw [hm.enforce] at he
      cases he
  | requested x env hst =>
      rcases hc with ⟨id, _⟩
      exact closedSpec_requested hm hst id env
  | waits x env hst =>
      rcases hc with ⟨id, _⟩
      exact closedSpec_silent (aside_addSubscriber hm.ds id env)
  | served x env hst =>
      rcases hc with ⟨id, _⟩
      exact closedSpec_served hm id env
  | unlisted x env hx => exact hsame
  | kept x env nd hst hnd hx =>
      rcases hc with _ | ⟨id, _⟩
      -- In Released the client that unsubscribes is not listed.
      refine absurd ?_ (hrel id env rfl hst)
      rw [← (equals_ds m (hm.ds nd hnd)).mp hx]
      exact List.mem_map_of_mem hnd
  | dismissed x env nd l ns s' rs hst hnd hx hl hs =>
      rw [dismissMsgs_ds (hm.ds nd hnd)]
      cases dismissed_ds (hm.ds nd hnd) hl
      exact closedSpec_dismissed hm hnd _ rs
  | ignored event env hr => exact hsame
  | connected env hst =>
      -- Those that are told are active, so they have not asked for a close.
      refine closedSpec_told (allDS_filter hm.ds _) (by decide) (fun nd hnd => ?_) fun _ h => h
      have hactive := (List.mem_filter.mp hnd).2
      exact ⟨hactives nd hnd, fun _ => Or.inl (by simpa only [Bool.not_eq_true'] using hactive)⟩
  | denied event env hst hev =>
      have hdenied : (DSCall.call (.onRsrcEvent event env)).deniedIn m = true := by
        unfold DSCall.deniedIn broadcastsDenied
        rw [hst]
        rcases hev with rfl | rfl <;> rfl
      exact closedSpec_told hm.ds (by decide) (fun nd hnd => ⟨hnd, fun _ => Or.inr hdenied⟩)
        fun nd hnd => absurd hnd List.not_mem_nil
  | dropped env hst =>
      exact closedSpec_told hm.ds (by decide) (fun nd hnd => ⟨hnd, fun h => absurd rfl h⟩)
        fun nd hnd => absurd hnd List.not_mem_nil
  | restarted event env hst hev ha => exact closedSpec_restarted hm hst hev ha
  | finished event env hst hev ha =>
      have hinact := reopens_inactives hm hst hev env
      exact .of_not_closes hinact.1 hinact.2 (listed_of_kept hactives)
  | retried nd hnd => exact closedSpec_retried hnd
  | noRetry hnd => exact hsame
  | setAPN apn len => exact hsame
  | setBearer bearer => exact hsame

/-- Every call that leaves the closed connections alone keeps them closed. -/
theorem staysClosed_perform {s : DSSystem} {c : DSCall} (hm : Conns s.ds_nif)
    (hs : StaysClosed s) (haside : ClosedAside s) (hc : ConnCall c)
    (hasked : ∀ id, c.asked? = some id → closed s.history id = false)
    (hrel : ∀ id env, c = .call (.unsubscribeRsrc (.ds id false) env) →
      s.ds_nif.mStatePtr = .released → id ∉ handles s.ds_nif.mSubscribers)
    (hdenied : c.deniedIn s.ds_nif = true →
      ∀ nd ∈ s.ds_nif.mSubscribers, closed s.history nd.subscriber.ID = false) :
    StaysClosed (s.perform c) ∧ ClosedAside (s.perform c) := by
  have hfresh : Conns s.ds_nif.fresh := ⟨hm.isDS, hm.enforce, hm.ds, hm.nodup, hm.released⟩
  have hspec := closedSpec_of_effect hfresh hc hrel (stepDS_effect s.ds_nif c hm.isDS)
  refine ⟨fun id => avoids_sent (fun hex => ?_) (hs id), fun nd hnd hclosed => ?_⟩
  · rcases hex with ⟨o, ho, hre⟩
    refine ⟨?_, ?_⟩
    · rw [List.any_eq_false]
      intro o' ho' hcl
      -- No call both closes and comes back.
      rw [(hspec.closes o' ho' id hcl).2 o ho id] at hre
      cases hre
    · rcases hspec.reopens o ho id hre with ⟨nd, hnd, rfl, hact | hden⟩ | hask
      · show closed s.history nd.subscriber.ID = false
        by_contra hyes
        rw [Bool.not_eq_false] at hyes
        rw [haside nd hnd hyes] at hact
        cases hact
      · exact hdenied hden nd hnd
      · exact hasked id hask
  · have hsince : since _ _ _ = true := hclosed
    simp only [DSSystem.perform, since_sent, Bool.or_eq_true, List.any_eq_true] at hsince
    rcases hsince with ⟨o, ho, hcl⟩ | hbefore
    · exact (hspec.closes o ho _ hcl).1 nd hnd rfl
    · rcases hspec.listed nd hnd with ⟨nd₀, hnd₀, hid, hin⟩ | hask
      · refine hin (haside nd₀ hnd₀ ?_)
        rw [hid]
        exact hbefore
      · have hopen : since _ _ _ = false := hasked _ hask
        rw [hopen] at hbefore
        cases hbefore

/-- The modem opens a connection anew. -/
theorem staysClosed_ask {s : DSSystem} (hs : StaysClosed s) (haside : ClosedAside s)
    (id : UInt32) : StaysClosed (s.ask id) ∧ ClosedAside (s.ask id) ∧
      closed (s.ask id).history id = false := by
  have hnow : ∀ id', closed (s.ask id).history id' = (!(id == id') && closed s.history id') :=
    fun id' => rfl
  refine ⟨fun id' => ⟨(fun h => by cases h), hs id'⟩, fun nd hnd hclosed => ?_, ?_⟩
  · rw [hnow, Bool.and_eq_true] at hclosed
    exact haside nd hnd hclosed.2
  · rw [hnow, beq_self_eq_true, Bool.not_true, Bool.false_and]

theorem staysClosed_step {s t : DSSystem} {l : DSLabel} (hm : Conns s.ds_nif)
    (hs : StaysClosed s) (haside : ClosedAside s) (hok : LeavesClosed s l)
    (h : s.step l = some t) : Conns t.ds_nif ∧ StaysClosed t ∧ ClosedAside t := by
  cases l with
  -- The modem asks for the connection, so it is not closed any more.
  | requestSuplEs id env =>
      cases h
      rcases staysClosed_ask hs haside id with ⟨hask, haside', hopen⟩
      refine ⟨conns_stepDS hm (.subscribe id env), staysClosed_perform hm hask haside'
        (.subscribe id env) (fun id' h => ?_) (fun _ _ h => by cases h) (fun h => by cases h)⟩
      cases h
      exact hopen
  -- The retry does not ask: its connection must not be a closed one.
  | retrySuplEs env =>
      rcases DSSystem.step_retrySuplEs h with ⟨id, rest, hretries, rfl⟩
      refine ⟨conns_stepDS hm (.subscribe id env), staysClosed_perform
        (s := { s with retries := rest }) hm hs haside (.subscribe id env) (fun id' h => ?_)
        (fun _ _ h => by cases h) (fun h => by cases h)⟩
      cases h
      exact hok id (by rw [hretries]; rfl)
  -- Only here something is closed.
  | releaseATL id env =>
      cases h
      refine ⟨conns_stepDS hm (.unsubscribe id env), staysClosed_perform hm hs haside
        (.unsubscribe id env) (fun _ h => by cases h) (fun id' env' h => ?_) (fun h => by cases h)⟩
      cases h
      exact hok
  | onRsrcEvent event env =>
      cases h
      exact ⟨conns_stepDS hm (.event event env), staysClosed_perform hm hs haside
        (.event event env) (fun _ h => by cases h) (fun _ _ h => by cases h) hok⟩
  | retryCallback =>
      cases h
      exact ⟨conns_stepDS hm .retry, staysClosed_perform hm hs haside .retry
        (fun _ h => by cases h) (fun _ _ h => by cases h) (fun h => by cases h)⟩

/-- In a run that leaves the closed connections alone, they stay closed: between
    its close and the next time that the modem asks for it, a connection is
    neither granted nor handed back. -/
theorem staysClosed_of_leavesClosed (peek : Subscriber → IPv6Addr) (ls : List DSLabel)
    (hls : Meets DSSystem.step LeavesClosed (DSSystem.init peek) ls) :
    Throughout DSSystem.step StaysClosed (DSSystem.init peek) ls := by
  refine throughout_of_meets
    (I := fun s => Conns s.ds_nif ∧ StaysClosed s ∧ ClosedAside s) (fun s hs => hs.2.1)
    (fun s l t hs hok hstep => staysClosed_step hs.1 hs.2.1 hs.2.2 hok hstep) ?_ hls
  exact ⟨newDS_conns peek, fun id => trivial, fun nd hnd => absurd hnd List.not_mem_nil⟩

/-- Connection 1 is closed while its data call is being stopped, and that ends
    with a RELEASED. -/
theorem staysClosed_released :
    Throughout DSSystem.step StaysClosed (DSSystem.init fun _ => Vector.replicate 16 0)
      [.requestSuplEs 1 ⟨0, true⟩, .onRsrcEvent .rsrcGranted ⟨0, true⟩,
        .releaseATL 1 ⟨0, true⟩, .onRsrcEvent .rsrcReleased ⟨0, true⟩] :=
  staysClosed_of_leavesClosed _ _ (by decide)

/-- The data call of connection 1 cannot be started yet, and the modem closes
    the connection. The retry timer asks for it all the same. -/
theorem closed_is_retried :
    ∃ t, exec DSSystem.step (DSSystem.init fun _ => Vector.replicate 16 0)
        [.requestSuplEs 1 ⟨6, true⟩, .releaseATL 1 ⟨0, true⟩, .retryCallback] = some t ∧
      ¬ Avoids (DSEvent.sends (Output.closes 1)) (DSEvent.asks 1)
        (DSEvent.sends (Output.reopens 1)) t.history :=
  ⟨_, rfl, by decide⟩

end Agps

end Victara
