import Victara.Agps.Effect

/-!
# Everything the Operations Send

`Sends` keeps of the output what an AGPS machine is about, the notes and the
servicer requests. The DS machine talks to the modem and to the data service
client as well, so here is the same with the output as a whole: `Emits m m' os`
says that `m'` is `m` after sending exactly `os`, with nothing else changed but
the retry counter.

The rules are the same as for `Sends`, which is what is left of `Emits` when
only the notes and the requests are kept. The loop over the subscribers is not
taken apart again: it is the same fold, with the output of each notification in
place of its note.

## Main definitions

* `Emits`: A machine after sending some output.
* `clientMsgs`: What a subscriber tells its client about a status.
* `told`: A notification with what comes of it.
* `FallsBack`: A request that could not start a data call is handed back.
* `AgpsStateMachine.connHandle`: The handle of the first active subscriber,
  which a request is for.
* `startMsgs`: A request to start a data call with what comes of it.

## Theorems

* `sends`: Of what is sent, `Sends` keeps the notes and the requests.
* `notifyRsrcStatus_emits`: A notification that is for a subscriber.
* `foldl_notify_emits`: Notifying in list order, all of them addressed.
* `notifySubscribers_delete_emits`, `notifySubscribers_keep_emits`: The loop.
* `dataCall_not_mem_told`: No notification starts or stops a data call.
* `sendRsrcRequestDS_start`, `sendRsrcRequestDS_stop`: The two requests of the
  DS machine.
-/

namespace Victara

namespace Agps

open AgpsStateMachine

/-- `m'` is `m` after sending this. -/
structure Emits (m m' : AgpsStateMachine) (os : List Output) : Prop where
  core : m'.core = m.core
  out : m'.out = m.out ++ os

namespace Emits

variable {m m' m'' : AgpsStateMachine} {os os' : List Output}

theorem refl (m : AgpsStateMachine) : Emits m m [] := ⟨rfl, (List.append_nil _).symm⟩

theorem trans (h : Emits m m' os) (h' : Emits m' m'' os') : Emits m m'' (os ++ os') := by
  refine ⟨h'.core.trans h.core, ?_⟩
  rw [h'.out, h.out, List.append_assoc]

/-- Of what is sent, `Sends` keeps the notes and the requests. -/
theorem sends (h : Emits m m' os) : Sends m m' (notes os) (requests os) := by
  refine ⟨h.core, ?_, ?_⟩
  · simp only [h.out, notes, List.filterMap_append]
  · simp only [h.out, requests, List.filterMap_append]

theorem withSubscribers (h : Emits m m' os) (l : List Node) :
    Emits { m with mSubscribers := l } { m' with mSubscribers := l } os :=
  ⟨(h.sends.withSubscribers l).core, h.out⟩

end Emits

theorem emit_emits (m : AgpsStateMachine) (o : Output) : Emits m (m.emit o) [o] := ⟨rfl, rfl⟩

/-- What a subscriber tells its client. Nothing that was sent before, and no
    retry counter, has a part in it. -/
def AgpsStateMachine.clientMsgs (m : AgpsStateMachine) (s : Subscriber) (status : AgpsRsrcStatus) :
    List Output :=
  ((m.core.onStatus s status).map fun m' => m'.out).getD []

/-- What comes of a notification that a subscriber accepts. -/
def AgpsStateMachine.told (m : AgpsStateMachine) (addr : Option Nat) (s : Subscriber)
    (status : AgpsRsrcStatus) : List Output :=
  .notified addr s status :: m.clientMsgs s status

theorem clientMsgs_core {m m' : AgpsStateMachine} (h : m'.core = m.core) (s : Subscriber)
    (status : AgpsRsrcStatus) : m'.clientMsgs s status = m.clientMsgs s status := by
  rw [clientMsgs, clientMsgs, h]

theorem onStatus_emits (m : AgpsStateMachine) (s : Subscriber) (status : AgpsRsrcStatus)
    (h : status.isDelivered = true) :
    ∃ m', m.onStatus s status = some m' ∧ Emits m m' (m.clientMsgs s status) := by
  cases s with
  | wifi senderId ssid password inactive =>
      cases status with
      | rsrcSubscribe => simp only [AgpsRsrcStatus.isDelivered, Bool.false_eq_true] at h
      | rsrcStatusMax => simp only [AgpsRsrcStatus.isDelivered, Bool.false_eq_true] at h
      | rsrcUnsubscribe => exact ⟨_, rfl, Emits.refl m⟩
      | _ => exact ⟨_, rfl, rfl, rfl⟩
  | _ =>
      cases status with
      | rsrcSubscribe => simp only [AgpsRsrcStatus.isDelivered, Bool.false_eq_true] at h
      | rsrcStatusMax => simp only [AgpsRsrcStatus.isDelivered, Bool.false_eq_true] at h
      | _ => exact ⟨_, rfl, rfl, rfl⟩

theorem notifyRsrcStatus_emits (m : AgpsStateMachine) (addr : Option Nat) (s : Subscriber)
    (n : Notification) (hn : n.rsrcStatus.isDelivered = true) (hme : s.forMe m.peek n = true) :
    Emits m (m.notifyRsrcStatus addr s n).1 (m.told addr s n.rsrcStatus) := by
  rcases onStatus_emits (m.emit (.notified addr s n.rsrcStatus)) s n.rsrcStatus hn with
    ⟨m', hm', hs⟩
  simp only [notifyRsrcStatus, hme, if_true, hm']
  exact (emit_emits m (.notified addr s n.rsrcStatus)).trans hs

/-- Notifying in list order, all of them addressed. -/
theorem foldl_notify_emits (n : Notification) (hn : n.rsrcStatus.isDelivered = true)
    (l : List Node) (m : AgpsStateMachine) (hme : ∀ nd ∈ l, nd.subscriber.forMe m.peek n = true) :
    Emits m (l.foldl (fun m nd => (m.notifyRsrcStatus (some nd.addr) nd.subscriber n).1) m)
      (l.flatMap fun nd => m.told (some nd.addr) nd.subscriber n.rsrcStatus) := by
  induction l generalizing m with
  | nil => exact Emits.refl m
  | cons nd l ih =>
      have hhead := notifyRsrcStatus_emits m (some nd.addr) nd.subscriber n hn
        (hme nd List.mem_cons_self)
      have htail := ih _ (fun e he => by
        rw [hhead.sends.peek]
        exact hme e (List.mem_cons_of_mem nd he))
      -- The first notification does not change what the others tell.
      simp only [told, clientMsgs_core hhead.core] at htail
      exact hhead.trans htail

theorem notifySubscribers_delete_emits (m : AgpsStateMachine) (n : Notification)
    (hdel : n.postNotifyDelete = true) (hn : n.rsrcStatus.isDelivered = true) :
    Emits { m with
        mSubscribers := m.mSubscribers.filter fun nd => !nd.subscriber.forMe m.peek n }
      (m.notifySubscribers n)
      ((addressees m n).flatMap fun nd => m.told (some nd.addr) nd.subscriber n.rsrcStatus) := by
  rw [notifySubscribers_delete_eq m n hdel hn]
  exact (foldl_notify_emits n hn _ m (fun nd hnd => (List.mem_filter.mp hnd).2)).withSubscribers _

theorem notifySubscribers_keep_emits (m : AgpsStateMachine) (n : Notification)
    (hdel : n.postNotifyDelete = false) (hn : n.rsrcStatus.isDelivered = true) :
    Emits m (m.notifySubscribers n)
      ((addressees m n).flatMap fun nd => m.told (some nd.addr) nd.subscriber n.rsrcStatus) := by
  rw [notifySubscribers_keep_eq m n hdel hn]
  exact foldl_notify_emits n hn _ m (fun nd hnd => (List.mem_filter.mp hnd).2)

/-- Only a request makes and ends data calls. -/
theorem dataCall_not_mem_told (m : AgpsStateMachine) (addr : Option Nat) (s : Subscriber)
    (status : AgpsRsrcStatus) : Output.openAndStartDataCall ∉ m.told addr s status := by
  have hmsgs : Output.openAndStartDataCall ∉ m.clientMsgs s status := by
    cases s <;> cases status <;>
      simp [clientMsgs, core, onStatus, bitOnStatus, atlOnStatus, wifiOnStatus, dsOnStatus,
        informStatus, emit]
  simpa only [told, List.mem_cons, reduceCtorEq, false_or] using hmsgs

/-- The request to start a data call is given up, and the connection it was for
    handed back to the modem. -/
def FallsBack (env : Env) (m : AgpsStateMachine) : Prop :=
  env.openAndStartDataCall = LOC_API_ADAPTER_ERR_UNSUPPORTED ∨ env.openAndStartDataCall = -1 ∨
    (env.openAndStartDataCall = LOC_API_ADAPTER_ERR_ENGINE_BUSY ∧
      m.mRetries + 1 > MAX_START_DATA_CALL_RETRIES)

instance (env : Env) (m : AgpsStateMachine) : Decidable (FallsBack env m) :=
  inferInstanceAs (Decidable (_ ∨ _ ∨ (_ ∧ _)))

/-- The handle of the first active subscriber, which a request is for. -/
def AgpsStateMachine.connHandle (m : AgpsStateMachine) : UInt32 :=
  m.firstActive.elim 0xFFFFFFFF (fun s => s.subscriber.ID)

/-- What comes of a request to start a data call. -/
def startMsgs (env : Env) (m : AgpsStateMachine) : List Output :=
  .openAndStartDataCall ::
    if FallsBack env m then [.requestATL m.connHandle AGPS_TYPE_SUPL]
    else if env.openAndStartDataCall = LOC_API_ADAPTER_ERR_ENGINE_BUSY ∧ env.timerStarted = true then
      [.locTimerStart DATA_CALL_RETRY_DELAY_MSEC]
    else []

theorem sendRsrcRequestDS_start (env : Env) (m : AgpsStateMachine) :
    Emits m (m.sendRsrcRequestDS env .requestAgpsDataConn).1 (startMsgs env m) ∧
      ((m.sendRsrcRequestDS env .requestAgpsDataConn).2 = 0 ↔ env.openAndStartDataCall = 0) := by
  unfold sendRsrcRequestDS startMsgs FallsBack connHandle
  unfold LOC_API_ADAPTER_ERR_UNSUPPORTED LOC_API_ADAPTER_ERR_ENGINE_BUSY LOC_API_ADAPTER_ERR_SUCCESS
  simp only [dataCallCb]
  by_cases hbusy : env.openAndStartDataCall = 6
  · by_cases hmax : m.mRetries + 1 > MAX_START_DATA_CALL_RETRIES
    · -- The retries are exhausted.
      simp only [hbusy, emit, hmax, informStatus]
      exact ⟨⟨rfl, by simp⟩, by simp⟩
    · by_cases htimer : env.timerStarted = true
      · simp only [hbusy, emit, hmax, htimer]
        exact ⟨⟨rfl, by simp⟩, by simp⟩
      · simp only [hbusy, emit, hmax, htimer]
        exact ⟨⟨rfl, by simp⟩, by simp⟩
  · by_cases hunsup : env.openAndStartDataCall = 2
    · simp only [hunsup, informStatus, emit]
      exact ⟨⟨rfl, by simp⟩, by simp⟩
    · by_cases hminus : env.openAndStartDataCall = -1
      · simp only [hminus, informStatus, emit]
        exact ⟨⟨rfl, by simp⟩, by simp⟩
      · -- Success, or a value that is only logged.
        simp only [hbusy, hunsup, hminus, if_false, false_or, false_and, ite_self]
        exact ⟨emit_emits m _, trivial⟩

theorem sendRsrcRequestDS_stop (env : Env) (m : AgpsStateMachine) :
    Emits m (m.sendRsrcRequestDS env .releaseAgpsDataConn).1 [.stopDataCall] :=
  ⟨rfl, rfl⟩

end Agps

end Victara
