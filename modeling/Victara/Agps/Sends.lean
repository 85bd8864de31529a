import Mathlib.Tactic.SplitIfs
import Victara.Agps.Machine

/-!
# What the Operations Send

One specification for each operation the state handlers are built from, so
that no transition has to be unfolded below them. Of what a machine sends,
two things matter to the results: which subscribers accepted which
notification (`notes`), and what the servicer was asked (`requests`).
`Sends m m' ns rs` says that `m'` is `m` after sending exactly those, with
nothing else changed but the retry counter.

The notification loop is where the specification earns its keep. The loop
restarts its search from the head after every deletion, and each search hands
the notification to every subscriber before the one it deletes; by
`Visit.drain_of_actsOn` the whole of it is a fold over the addressed
subscribers and a filter of the others.

The specifications compose: `andThen` puts what a second operation sends behind
what the first has sent, and `withSubscribers` lets the list be changed in
between, which none of the operations looks at while it sends. A proof about a
handler is a chain of these, in the order of the source.

## Main definitions

* `Note`: An accepted notification: the object, the subscriber, the status.
* `notes`, `requests`: The accepted notifications and the servicer requests.
* `Output.isQuiet`: An output that is neither a note nor a servicer request.
* `AgpsRsrcStatus.isDelivered`: The statuses a subscriber takes; the two others
  are not for subscribers.
* `core`: A machine without its output and its retry counter.
* `Sends`: A machine after sending some notes and requests.
* `addressees`: The listed subscribers a notification is for, and the notes they
  leave.
* `HasActive`: Some listed subscriber is active.

## Theorems

* `andThen`: Notes first, requests after.
* `withSubscribers`: The list may be exchanged on both sides.
* `informStatus_sends`: Setting the retry counter is not seen in `core`.
* `onStatus_sends`: A subscriber takes each of the four statuses quietly.
* `notifyRsrcStatus_sends`: A notification that is for a subscriber is noted.
* `notifyRsrcStatus_not_forMe`: One that is not leaves no trace.
* `foldl_notify_sends`: Notifying in list order, all of them addressed, is noted
  in that order.
* `notifySubscriber_eq`: A notification is decided by the subscriber and the
  machine's `peek`, which no notification changes.
* `notifySubscriber_actsOn`: With a notification that deletes, a subscriber is
  accepted if it is addressed.
* `notifySubscribers_delete_eq`: The deleting loop is a fold and a filter.
* `notifySubscribers_keep_eq`: The other form is a fold.
* `notifySubscribers_delete`, `notifySubscribers_keep`: What they note.
* `search_eq`: The list search is a find.
* `hasActiveSubscribers_iff`: There is an active subscriber on the list.
* `sendRsrcRequestAgps_sends`: The parity test of the servicer request.
* `sendRsrcRequestAgps_silent`: With no fitting subscriber nothing is sent.
* `sendRsrcRequestDS_sends`: Whatever the DS request comes to, no subscriber
  hears of it through a notification, and the list stays.
* `sendRsrcRequest_sends`: A servicer request, of either machine, notifies
  nobody and leaves the list alone.
-/

namespace Victara

namespace Agps

open AgpsStateMachine

/-- An accepted notification: the object, the subscriber, the status. -/
abbrev Note := Option Nat × Subscriber × AgpsRsrcStatus

def notes (os : List Output) : List Note :=
  os.filterMap fun
    | .notified addr s status => some (addr, s, status)
    | _ => none

def requests (os : List Output) : List AGpsStatusValue :=
  os.filterMap fun
    | .agpsStatusCb nifRequest => some nifRequest.status
    | _ => none

@[simp] theorem notes_nil : notes [] = [] := rfl

@[simp] theorem requests_nil : requests [] = [] := rfl

/-- Neither a note nor a servicer request. -/
def Output.isQuiet : Output → Bool
  | .notified _ _ _ => false
  | .agpsStatusCb _ => false
  | _ => true

/-- The statuses a subscriber takes; the two others are not for subscribers. -/
def AgpsRsrcStatus.isDelivered : AgpsRsrcStatus → Bool
  | .rsrcUnsubscribe | .rsrcGranted | .rsrcReleased | .rsrcDenied => true
  | _ => false

/-- Everything but the output and the retry counter. -/
def AgpsStateMachine.core (m : AgpsStateMachine) : AgpsStateMachine :=
  { m with out := [], mRetries := 0 }

/-- `m'` is `m` after sending these notes and requests. -/
structure Sends (m m' : AgpsStateMachine) (ns : List Note) (rs : List AGpsStatusValue) : Prop where
  core : m'.core = m.core
  notes : notes m'.out = notes m.out ++ ns
  requests : requests m'.out = requests m.out ++ rs

namespace Sends

variable {m m' m'' : AgpsStateMachine} {ns ns' : List Note} {rs rs' : List AGpsStatusValue}

theorem refl (m : AgpsStateMachine) : Sends m m [] [] :=
  ⟨rfl, (List.append_nil _).symm, (List.append_nil _).symm⟩

theorem trans (h : Sends m m' ns rs) (h' : Sends m' m'' ns' rs') :
    Sends m m'' (ns ++ ns') (rs ++ rs') := by
  refine ⟨h'.core.trans h.core, ?_, ?_⟩
  · rw [h'.notes, h.notes, List.append_assoc]
  · rw [h'.requests, h.requests, List.append_assoc]

/-- Notes first, requests after. -/
theorem andThen (h : Sends m m' ns []) (h' : Sends m' m'' [] rs) : Sends m m'' ns rs := by
  simpa only [List.append_nil, List.nil_append] using h.trans h'

/-- The list may be exchanged on both sides. -/
theorem withSubscribers (h : Sends m m' ns rs) (l : List Node) :
    Sends { m with mSubscribers := l } { m' with mSubscribers := l } ns rs := by
  refine ⟨?_, h.notes, h.requests⟩
  show { m'.core with mSubscribers := l } = { m.core with mSubscribers := l }
  rw [h.core]

theorem isDS (h : Sends m m' ns rs) : m'.isDS = m.isDS :=
  show m'.core.isDS = m.core.isDS by rw [h.core]

theorem peek (h : Sends m m' ns rs) : m'.peek = m.peek :=
  show m'.core.peek = m.core.peek by rw [h.core]

theorem mEnforceSingleSubscriber (h : Sends m m' ns rs) :
    m'.mEnforceSingleSubscriber = m.mEnforceSingleSubscriber :=
  show m'.core.mEnforceSingleSubscriber = m.core.mEnforceSingleSubscriber by rw [h.core]

theorem mStatePtr (h : Sends m m' ns rs) : m'.mStatePtr = m.mStatePtr :=
  show m'.core.mStatePtr = m.core.mStatePtr by rw [h.core]

theorem mSubscribers (h : Sends m m' ns rs) : m'.mSubscribers = m.mSubscribers :=
  show m'.core.mSubscribers = m.core.mSubscribers by rw [h.core]

theorem nextAddr (h : Sends m m' ns rs) : m'.nextAddr = m.nextAddr :=
  show m'.core.nextAddr = m.core.nextAddr by rw [h.core]

end Sends

theorem emit_sends (m : AgpsStateMachine) (o : Output) :
    Sends m (m.emit o) (notes [o]) (requests [o]) := by
  refine ⟨rfl, ?_, ?_⟩
  · simp only [notes, emit, List.filterMap_append]
  · simp only [requests, emit, List.filterMap_append]

theorem emit_quiet (m : AgpsStateMachine) (o : Output) (h : o.isQuiet = true) :
    Sends m (m.emit o) [] [] := by
  have hsend := emit_sends m o
  cases o with
  | notified _ _ _ => simp only [Output.isQuiet, Bool.false_eq_true] at h
  | agpsStatusCb _ => simp only [Output.isQuiet, Bool.false_eq_true] at h
  | _ => exact hsend

/-- Setting the retry counter is not seen in `core`. -/
theorem informStatus_sends (m : AgpsStateMachine) (status : AgpsRsrcStatus) (ID : UInt32) :
    Sends m (m.informStatus status ID) [] [] := by
  cases status with
  | rsrcDenied =>
      have h := emit_quiet { m with mRetries := 0 } (.requestATL ID AGPS_TYPE_SUPL) rfl
      exact ⟨h.core, h.notes, h.requests⟩
  | rsrcUnsubscribe => exact emit_quiet m _ rfl
  | rsrcReleased => exact emit_quiet m _ rfl
  | rsrcGranted => exact emit_quiet m _ rfl
  | rsrcSubscribe => exact Sends.refl m
  | rsrcStatusMax => exact Sends.refl m

/-- Each of the four classes takes each of the four statuses, and tells its
    client in one quiet message or none. -/
theorem onStatus_sends (m : AgpsStateMachine) (s : Subscriber) (status : AgpsRsrcStatus)
    (h : status.isDelivered = true) :
    ∃ m', m.onStatus s status = some m' ∧ Sends m m' [] [] := by
  cases s with
  | bit id v6 =>
      cases status with
      | rsrcSubscribe => simp only [AgpsRsrcStatus.isDelivered, Bool.false_eq_true] at h
      | rsrcStatusMax => simp only [AgpsRsrcStatus.isDelivered, Bool.false_eq_true] at h
      | _ => exact ⟨_, rfl, emit_quiet m _ rfl⟩
  | atl id mode =>
      cases status with
      | rsrcSubscribe => simp only [AgpsRsrcStatus.isDelivered, Bool.false_eq_true] at h
      | rsrcStatusMax => simp only [AgpsRsrcStatus.isDelivered, Bool.false_eq_true] at h
      | _ => exact ⟨_, rfl, emit_quiet m _ rfl⟩
  | wifi senderId ssid password inactive =>
      cases status with
      | rsrcSubscribe => simp only [AgpsRsrcStatus.isDelivered, Bool.false_eq_true] at h
      | rsrcStatusMax => simp only [AgpsRsrcStatus.isDelivered, Bool.false_eq_true] at h
      | rsrcUnsubscribe => exact ⟨_, rfl, Sends.refl m⟩
      | _ => exact ⟨_, rfl, emit_quiet m _ rfl⟩
  | ds id inactive =>
      cases status with
      | rsrcSubscribe => simp only [AgpsRsrcStatus.isDelivered, Bool.false_eq_true] at h
      | rsrcStatusMax => simp only [AgpsRsrcStatus.isDelivered, Bool.false_eq_true] at h
      | _ => exact ⟨_, rfl, informStatus_sends m _ id⟩

theorem notifyRsrcStatus_sends (m : AgpsStateMachine) (addr : Option Nat) (s : Subscriber)
    (n : Notification) (hn : n.rsrcStatus.isDelivered = true) (hme : s.forMe m.peek n = true) :
    (m.notifyRsrcStatus addr s n).2 = true ∧
      Sends m (m.notifyRsrcStatus addr s n).1 [(addr, s, n.rsrcStatus)] [] := by
  rcases onStatus_sends (m.emit (.notified addr s n.rsrcStatus)) s n.rsrcStatus hn with
    ⟨m', hm', hs⟩
  simp only [notifyRsrcStatus, hme, if_true, hm']
  exact ⟨trivial, (emit_sends m (.notified addr s n.rsrcStatus)).trans hs⟩

theorem notifyRsrcStatus_not_forMe (m : AgpsStateMachine) (addr : Option Nat) (s : Subscriber)
    (n : Notification) (hme : s.forMe m.peek n = false) :
    m.notifyRsrcStatus addr s n = (m, false) := by
  simp only [notifyRsrcStatus, hme, Bool.false_eq_true, if_false]

/-- The listed subscribers a notification is for, and the notes they leave. -/
def addressees (m : AgpsStateMachine) (n : Notification) : List Node :=
  m.mSubscribers.filter fun nd => nd.subscriber.forMe m.peek n

def notesTo (l : List Node) (status : AgpsRsrcStatus) : List Note :=
  l.map fun nd => (some nd.addr, nd.subscriber, status)

/-- Notifying in list order, all of them addressed, is noted in that order. -/
theorem foldl_notify_sends (n : Notification) (hn : n.rsrcStatus.isDelivered = true)
    (l : List Node) (m : AgpsStateMachine) (hme : ∀ nd ∈ l, nd.subscriber.forMe m.peek n = true) :
    Sends m (l.foldl (fun m nd => (m.notifyRsrcStatus (some nd.addr) nd.subscriber n).1) m)
      (notesTo l n.rsrcStatus) [] := by
  induction l generalizing m with
  | nil => exact Sends.refl m
  | cons nd l ih =>
      have hhead := (notifyRsrcStatus_sends m (some nd.addr) nd.subscriber n hn
        (hme nd List.mem_cons_self)).2
      -- The first notification does not change who else is addressed.
      have htail := ih _ (fun e he => by
        rw [hhead.peek]
        exact hme e (List.mem_cons_of_mem nd he))
      exact hhead.trans htail

/-- A notification is decided by the subscriber and the machine's `peek`,
    which no notification changes. -/
theorem notifySubscriber_eq (peek : Subscriber → IPv6Addr) (n : Notification)
    (hn : n.rsrcStatus.isDelivered = true) (m : AgpsStateMachine) (nd : Node)
    (hm : m.peek = peek) :
    notifySubscriber n m nd =
      (if nd.subscriber.forMe peek n then
        (m.notifyRsrcStatus (some nd.addr) nd.subscriber n).1 else m,
        nd.subscriber.forMe peek n && n.postNotifyDelete) := by
  subst hm
  cases hme : nd.subscriber.forMe m.peek n with
  | true =>
      have h := notifyRsrcStatus_sends m (some nd.addr) nd.subscriber n hn hme
      simp only [notifySubscriber, h.1, if_true]
  | false =>
      simp only [notifySubscriber, notifyRsrcStatus_not_forMe _ _ _ _ hme, Bool.false_and,
        Bool.false_eq_true, if_false]

theorem notifySubscriber_keeps (peek : Subscriber → IPv6Addr) (n : Notification)
    (hn : n.rsrcStatus.isDelivered = true) (m : AgpsStateMachine) (nd : Node)
    (hm : m.peek = peek) (hme : nd.subscriber.forMe peek n = true) :
    (m.notifyRsrcStatus (some nd.addr) nd.subscriber n).1.peek = peek := by
  subst hm
  exact (notifyRsrcStatus_sends m (some nd.addr) nd.subscriber n hn hme).2.peek

/-- With a notification that deletes, a subscriber is accepted if it is
    addressed. Whatever is sent on the way, `peek` stays, and decides who is. -/
theorem notifySubscriber_actsOn (peek : Subscriber → IPv6Addr) (n : Notification)
    (hdel : n.postNotifyDelete = true) (hn : n.rsrcStatus.isDelivered = true) :
    Visit.ActsOn (fun m => m.peek = peek) (notifySubscriber n)
      (fun nd => nd.subscriber.forMe peek n)
      (fun m nd => (m.notifyRsrcStatus (some nd.addr) nd.subscriber n).1) := by
  refine ⟨fun m nd hm => ?_, fun m nd => notifySubscriber_keeps peek n hn m nd⟩
  rw [notifySubscriber_eq peek n hn m nd hm, hdel, Bool.and_true]
  cases hme : nd.subscriber.forMe peek n
  · simp only [Bool.false_eq_true, if_false]
  · simp only [if_true]

/-- The deleting form: the addressed subscribers are notified in list order,
    and the others stay in theirs. -/
theorem notifySubscribers_delete_eq (m : AgpsStateMachine) (n : Notification)
    (hdel : n.postNotifyDelete = true) (hn : n.rsrcStatus.isDelivered = true) :
    m.notifySubscribers n =
      { (addressees m n).foldl
          (fun m nd => (m.notifyRsrcStatus (some nd.addr) nd.subscriber n).1) m with
        mSubscribers := m.mSubscribers.filter fun nd => !nd.subscriber.forMe m.peek n } := by
  have hacts := notifySubscriber_actsOn m.peek n hdel hn
  rw [notifySubscribers, if_pos hdel]
  simp only [Visit.drain_of_actsOn hacts _ m rfl _ (Nat.lt_succ_self _)]
  rfl

/-- The other form: the addressed subscribers are notified in list order, and
    the list is left alone. -/
theorem notifySubscribers_keep_eq (m : AgpsStateMachine) (n : Notification)
    (hdel : n.postNotifyDelete = false) (hn : n.rsrcStatus.isDelivered = true) :
    m.notifySubscribers n = (addressees m n).foldl
      (fun m nd => (m.notifyRsrcStatus (some nd.addr) nd.subscriber n).1) m := by
  rw [notifySubscribers, hdel]
  simp only [Bool.false_eq_true, if_false]
  rw [linkedListSearch_never (fun m₁ nd hm₁ => ?_)
    (fun m₁ nd => notifySubscriber_keeps m.peek n hn m₁ nd) m rfl]
  · rfl
  · rw [notifySubscriber_eq m.peek n hn m₁ nd hm₁, hdel, Bool.and_false]

theorem notifySubscribers_delete (m : AgpsStateMachine) (n : Notification)
    (hdel : n.postNotifyDelete = true) (hn : n.rsrcStatus.isDelivered = true) :
    Sends { m with
        mSubscribers := m.mSubscribers.filter fun nd => !nd.subscriber.forMe m.peek n }
      (m.notifySubscribers n) (notesTo (addressees m n) n.rsrcStatus) [] := by
  rw [notifySubscribers_delete_eq m n hdel hn]
  exact (foldl_notify_sends n hn _ m (fun nd hnd => (List.mem_filter.mp hnd).2)).withSubscribers _

theorem notifySubscribers_keep (m : AgpsStateMachine) (n : Notification)
    (hdel : n.postNotifyDelete = false) (hn : n.rsrcStatus.isDelivered = true) :
    Sends m (m.notifySubscribers n) (notesTo (addressees m n) n.rsrcStatus) [] := by
  rw [notifySubscribers_keep_eq m n hdel hn]
  exact foldl_notify_sends n hn _ m (fun nd hnd => (List.mem_filter.mp hnd).2)

theorem search_eq (m : AgpsStateMachine) (n : Notification) :
    m.search n = m.mSubscribers.find? fun nd => nd.subscriber.forMe m.peek n := by
  rw [search, linkedListSearch_test]

theorem firstActive_eq (m : AgpsStateMachine) :
    m.firstActive = m.mSubscribers.find? fun nd => !nd.subscriber.isInactive := by
  rw [firstActive, search_eq]
  rfl

/-- Some listed subscriber is active. -/
def HasActive (l : List Node) : Prop := ∃ nd ∈ l, nd.subscriber.isInactive = false

theorem hasActiveSubscribers_iff (m : AgpsStateMachine) :
    m.hasActiveSubscribers = true ↔ HasActive m.mSubscribers := by
  rw [hasActiveSubscribers, firstActive_eq, List.find?_isSome]
  simp only [HasActive, Bool.not_eq_true']

theorem hasSubscribers_iff (m : AgpsStateMachine) :
    m.hasSubscribers = true ↔ m.mSubscribers ≠ [] := by
  simp only [hasSubscribers, linkedListEmpty, Bool.not_eq_true', List.isEmpty_eq_false_iff,
    ne_eq]

theorem sendRsrcRequest_eq (env : Env) (m : AgpsStateMachine) (action : AGpsStatusValue)
    (hm : m.isDS = false) : m.sendRsrcRequest env action = m.sendRsrcRequestAgps action := by
  simp only [sendRsrcRequest, hm, Bool.false_eq_true, if_false]

/-- The servicer is asked exactly when the presence of an active subscriber
    fits the request. -/
theorem sendRsrcRequestAgps_sends (m : AgpsStateMachine) (action : AGpsStatusValue)
    (h : HasActive m.mSubscribers ↔ action = .requestAgpsDataConn) :
    Sends m (m.sendRsrcRequestAgps action).1 [] [action] ∧
      (m.sendRsrcRequestAgps action).2 = 0 := by
  -- The guard in terms of the list the handler has just changed.
  have hfit : m.firstActive.isNone = (action == .releaseAgpsDataConn) := by
    rw [← hasActiveSubscribers_iff, hasActiveSubscribers] at h
    cases hact : m.firstActive <;> cases action <;> simp_all
  rw [sendRsrcRequestAgps, if_pos hfit]
  refine ⟨?_, rfl⟩
  have hstatus : (m.nifRequest action m.firstActive).status = action := by
    cases m.firstActive <;> rfl
  have hsend := emit_sends m (.agpsStatusCb (m.nifRequest action m.firstActive))
  refine ⟨hsend.core, hsend.notes, ?_⟩
  rw [hsend.requests]
  simp only [requests, List.filterMap_cons, List.filterMap_nil, hstatus]

/-- With no fitting subscriber nothing is sent. -/
theorem sendRsrcRequestAgps_silent (m : AgpsStateMachine) (action : AGpsStatusValue)
    (h : ¬ (HasActive m.mSubscribers ↔ action = .requestAgpsDataConn)) :
    m.sendRsrcRequestAgps action = (m, 0) := by
  have hmiss : ¬ m.firstActive.isNone = (action == .releaseAgpsDataConn) := by
    rw [← hasActiveSubscribers_iff, hasActiveSubscribers] at h
    cases hact : m.firstActive <;> cases action <;> simp_all
  rw [sendRsrcRequestAgps, if_neg hmiss]

/-- Whatever the DS request comes to, no subscriber hears of it through a
    notification, and the list stays. -/
theorem sendRsrcRequestDS_sends (env : Env) (m : AgpsStateMachine) (action : AGpsStatusValue) :
    Sends m (m.sendRsrcRequestDS env action).1 [] [] := by
  have hcall : Sends m (m.dataCallCb env action).1 [] [] := by
    cases action with
    | requestAgpsDataConn => exact emit_quiet m .openAndStartDataCall rfl
    | releaseAgpsDataConn => exact emit_quiet m .stopDataCall rfl
  have hinform : ∀ ID, Sends m ((m.dataCallCb env action).1.informStatus .rsrcDenied ID) [] [] :=
    fun ID => hcall.andThen (informStatus_sends _ .rsrcDenied ID)
  -- The retry counter is not part of what `Sends` compares.
  have hretry : Sends m { (m.dataCallCb env action).1 with
      mRetries := (m.dataCallCb env action).1.mRetries + 1 } [] [] :=
    ⟨hcall.core, hcall.notes, hcall.requests⟩
  simp only [sendRsrcRequestDS]
  split_ifs
  · exact hretry.andThen (informStatus_sends _ .rsrcDenied _)
  · exact hretry.andThen (emit_quiet _ (.locTimerStart DATA_CALL_RETRY_DELAY_MSEC) rfl)
  · exact hretry
  · exact hinform _
  · exact hcall
  · exact hinform _
  · exact hcall

/-- On either machine a servicer request notifies nobody. -/
theorem sendRsrcRequest_sends (env : Env) (m : AgpsStateMachine) (action : AGpsStatusValue) :
    ∃ rs, Sends m (m.sendRsrcRequest env action).1 [] rs := by
  rw [sendRsrcRequest]
  cases m.isDS with
  | true => exact ⟨[], sendRsrcRequestDS_sends env m action⟩
  | false =>
      by_cases h : HasActive m.mSubscribers ↔ action = .requestAgpsDataConn
      · exact ⟨[action], (sendRsrcRequestAgps_sends m action h).1⟩
      · simp only [Bool.false_eq_true, if_false, sendRsrcRequestAgps_silent m action h]
        exact ⟨[], Sends.refl m⟩

end Agps

end Victara
