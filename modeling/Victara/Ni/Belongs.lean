import Victara.Ni.Moves

/-!
# Whose Response It Is

A message that answers a request carries what is in `resp` when it is built,
and the payload that is in `rawRequest` then. Nothing ties the two together
but the order of steps: the payload is the one of the request in session, and
a response is stored by whoever found its id to be the right one and a request
in session, at some earlier time.

While one request at a time has to do with the shared data, that is enough.
`Quiet` is what the handler would have to find, besides that no request is in
session, when it takes a request: no thread still on its way, no response
between test and store, and nothing stored that nobody has fetched. Taken in
any other state, a request may be answered with what was given to another.

## Main definitions

* `Answers`, `Belongs`: The response was given to the request of the payload.
* `Quiet`, `InTurn`: What is left over when a request is taken.
* `Grows`: What was said of a request and a response stays said.
* `Fits`: What is in `resp` answers request `r`, as far as its id goes as that
  will be.
* `Current`: What is true of the request that is active.
* `Inv`: Of the shared data that belongs to it, an active request is the only
  user.
* `Setup.accepting`: Every request has a payload and the usual time, and call
  `q` of `loc_eng_ni_respond` accepts the notification with the id `q`.
* `taken`: The handler takes a request, and notifies.
* `wayOut`: A thread from the end of its wait loop to its own.
* `acceptedInTime`: The first request is accepted while its thread waits.

## Theorems

* `current_of_accepts`: A request taken in turn is current.
* `Tidy.not_handling`: A thread that was created has the handler behind it.
* `current_of_same`: A step that leaves alone what belongs to the request.
* `current_of_thread`: A step while the thread of the request is on its way: its
  own, or one of the message task.
* `move_grows`: Every move keeps what was said of requests and responses.
* `current_of_task`: A step of the message task that changes neither the request
  nor the responses, while the thread of the request is on its way.
* `current_of_handler`: A step of the handler, before the request has a thread.
* `current_of_leaves`: The thread of the request leaves its wait loop, with a
  response that fits or after a reset.
* `current_of_next`: The thread of the request goes on from there.
* `matched_of_move`: A response finds the id of the current request, or no
  longer.
* `storing_of_move`: A response that is being stored has found its request.
* `current_of_respond`: A step of `loc_eng_ni_respond`.
* `current_of_tested`: The tests of `loc_eng_ni_respond` write nothing.
* `Tidy.called_of_active`: Between two messages an active request has its
  thread, so it is not one that is still to come.
* `Tidy.inited_of_active`: Before `loc_eng_ni_init` no request is active.
* `current_of_move_task`: The active request stays current over a move of the
  message task.
* `current_of_move_thread`: The current request stays so over a move of a
  thread.
* `current_of_move`: It stays so while it is active.
* `alone_of_move`: Two requests are never active at once when they are taken in
  turn.
* `belongs_of_building`: A message that is built belongs to its payload: what
  the thread finds is its own.
* `response_belongs`: In turn, every message belongs to its payload.
* `response_of_other`: Otherwise it may not.
-/

namespace Victara

namespace Ni

variable {g : Setup} {s t : State}

/-- A response to request `p`, which has the notification id `id`: a call of
    `loc_eng_ni_respond` that found `p` in session gave it, for that id; or the
    thread of `p` has waited as long as the handler has set for `p`. -/
def Answers (g : Setup) (s : State) (p : RequestId) (id : Option Int32)
    (response : GpsUserResponseType) : Origin → Prop
  | .unset => False
  | .responded q => response = (g.response q).user_response ∧ s.responds q = .stored p ∧
      id = some (g.response q).notif_id
  | .expired r => r = p ∧ response = GPS_NI_RESPONSE_NORESP ∧ (s.requests p).timedOut = true ∧
      (s.requests p).delay = g.respTime p

instance (p : RequestId) (id : Option Int32) (response : GpsUserResponseType) :
    (o : Origin) → Decidable (Answers g s p id response o)
  | .unset => isFalse fun h => h
  | .responded _ => inferInstanceAs (Decidable (_ ∧ _))
  | .expired _ => inferInstanceAs (Decidable (_ ∧ _))

/-- A message has a response to the request of its payload. Who a response was
    given to is not in the program, so that the ghost `resp_by` of the message
    is compared with the payload that it carries. -/
def Belongs (g : Setup) (s : State) (msg : LocEngInformNiResponse) : Prop :=
  ∀ p ∈ msg.mPayload, Answers g s p (s.requests p).notification_id msg.mResponse msg.resp_by

instance (msg : LocEngInformNiResponse) : Decidable (Belongs g s msg) :=
  inferInstanceAs (Decidable (∀ p ∈ msg.mPayload, _))

/-- Nothing is left over from an earlier request: no thread is on its way to
    counting its request, no response is about to be stored or has found an
    earlier id to be the right one, and none is stored. Each field is about one
    of those who may still write what the next request reads. A thread that has
    not counted may build a message with the next payload, or count when the
    next id is already given out. A response that was compared with an id, and
    waits for the lock, is stored without another look at it. And `respRecvd`,
    once it is set, ends the wait of whoever comes next. A response that has not
    been compared yet does no harm, as it will be compared with the id of the
    next request. -/
structure Quiet (g : Setup) (s : State) : Prop where
  threads : ∀ r, (s.requests r).thread.busy = false
  matched : ∀ q, s.responds q = .matched → (g.response q).notif_id = s.ni_data.reqID
  storing : ∀ q p, s.responds q ≠ .storing p
  recvd : s.ni_data.respRecvd = false

/-- A request is taken only when nothing is left over of the one before. The
    handler has its own test for this, that `rawRequest` is `NULL`, which is not
    enough: the thread clears that before it counts, and the reset at any time. -/
def InTurn (g : Setup) (s : State) : Label → Prop
  | .request _ => s.ni_data.rawRequest = none → Quiet g s
  | _ => True

/-- What was said of a request and a response stays said. No step takes back who
    a response was stored for, which id a request has, or that its time is over;
    so a message that was queued goes on belonging to its payload. -/
structure Grows (g : Setup) (s t : State) : Prop where
  stored : ∀ q p, s.responds q = .stored p → t.responds q = .stored p
  named : ∀ p id, (s.requests p).notification_id = some id →
    (t.requests p).notification_id = some id
  expired : ∀ p, (s.requests p).timedOut = true → (s.requests p).delay = g.respTime p →
    (t.requests p).timedOut = true ∧ (t.requests p).delay = g.respTime p

theorem answers_mono (hg : Grows g s t) {p : RequestId} {id id' : Option Int32}
    {response : GpsUserResponseType} {o : Origin} (hid : ∀ x, id = some x → id' = some x)
    (h : Answers g s p id response o) : Answers g t p id' response o := by
  cases o with
  | unset => exact h
  | responded q => exact ⟨h.1, hg.stored q p h.2.1, hid _ h.2.2⟩
  | expired r => exact ⟨h.1, h.2.1, hg.expired p h.2.2.1 h.2.2.2⟩

theorem belongs_mono (hg : Grows g s t) {msg : LocEngInformNiResponse} (h : Belongs g s msg) :
    Belongs g t msg :=
  fun p hp => answers_mono hg (hg.named p) (h p hp)

/-- What is in `resp` answers request `r`, as far as its id goes as that will
    be. -/
def Fits (g : Setup) (s : State) (r : RequestId) : Prop :=
  Answers g s r (some s.ni_data.reqID) s.ni_data.resp s.resp_by

theorem fits_mono (hg : Grows g s t) (hid : t.ni_data.reqID = s.ni_data.reqID)
    (hresp : t.ni_data.resp = s.ni_data.resp) (hby : t.resp_by = s.resp_by) {r : RequestId}
    (h : Fits g s r) : Fits g t r := by
  rw [Fits, hid, hresp, hby]
  exact answers_mono hg (fun _ hx => hx) h

/-- The shared data belongs to request `r`. It is said for each place in which
    the request may be: before it is named there is no id, before its thread
    runs there is no delay, and a response that is about to be stored found the
    id of `r` in it. `recvd` has the reset as its second case. -/
structure Current (g : Setup) (s : State) (r : RequestId) : Prop where
  raw : ∀ p, s.ni_data.rawRequest = some p → p = r
  saving : s.task = .saving r → s.ni_data.rawRequest = none
  named : s.task ≠ .saving r → s.task ≠ .naming r →
    (s.requests r).notification_id = some s.ni_data.reqID
  time : s.task = .creating r ∨ (s.requests r).thread = .starting →
    s.ni_data.respTimeLeft = g.respTime r
  delay : (s.requests r).thread = .waiting → (s.requests r).delay = g.respTime r
  matched : ∀ q, s.responds q = .matched → (g.response q).notif_id = s.ni_data.reqID
  storing : ∀ q p, s.responds q = .storing p →
    p = r ∧ (g.response q).notif_id = s.ni_data.reqID
  recvd : s.ni_data.respRecvd = true → Fits g s r ∨
    (s.ni_data.rawRequest = none ∧ s.task ≠ .saving r)
  locked : (s.requests r).thread.locked = true → s.tLock = some r ∧
    (s.ni_data.rawRequest = none ∨ Fits g s r)

/-- Of the shared data that belongs to it, an active request is the only user.
    What has been built and sent belongs to its payload already, and stays so by
    `Grows`. -/
structure Inv (g : Setup) (s : State) : Prop where
  tidy : Tidy s
  alone : ∀ r r', Active s r → Active s r' → r = r'
  current : ∀ r, Active s r → Current g s r
  built : ∀ r msg, (s.requests r).thread.msg = some msg → Belongs g s msg
  sent : ∀ msg ∈ s.sent, Belongs g s msg

theorem zeroed_inv : Inv g State.zeroed := by
  have hnone : ∀ r, ¬ Active State.zeroed r := fun r h => by rcases h with h | h <;> cases h
  refine ⟨zeroed_tidy, fun r r' h => absurd h (hnone r), fun r h => absurd h (hnone r), ?_, ?_⟩
  · intro r msg h
    cases h
  · intro msg h
    cases h

/-- A request that is taken in turn finds nothing that is not its own. -/
theorem current_of_accepts (hs : Tidy s) {r : RequestId} {l : Label} (hm : Move g s l t)
    (h : Accepts s l r) (hquiet : Quiet g s) : Current g t r := by
  rcases of_accepts hs hm h with ⟨htask, hdata, hresp, hreq⟩
  refine ⟨fun p hp => ?_, fun _ => ?_, fun hno => absurd htask hno, fun hstart => ?_,
    fun hwait => ?_, fun q hq => ?_, fun q p hq => ?_, fun hrecvd => ?_, fun hlocked => ?_⟩
  · rw [hdata, h.free] at hp
    cases hp
  · rw [hdata]
    exact h.free
  · rw [htask, hreq] at hstart
    rcases hstart with hstart | hstart <;> cases hstart
  · rw [hreq] at hwait
    cases hwait
  · rw [hdata]
    exact hquiet.matched q (hresp ▸ hq)
  · exact absurd (hresp ▸ hq) (hquiet.storing q p)
  · rw [hdata, hquiet.recvd] at hrecvd
    cases hrecvd
  · rw [hreq] at hlocked
    cases hlocked

/-- A thread that was created has the handler behind it. -/
theorem Tidy.not_handling (hs : Tidy s) {r : RequestId} (h : (s.requests r).thread ≠ .absent) :
    s.task ≠ .saving r ∧ s.task ≠ .naming r ∧ s.task ≠ .creating r := by
  refine ⟨fun htask => h ?_, fun htask => h ?_, fun htask => h ?_⟩
  · exact (hs.handling r (htask ▸ rfl)).2
  · exact (hs.handling r (htask ▸ rfl)).2
  · exact (hs.handling r (htask ▸ rfl)).2

/-- A step that leaves alone what belongs to the request. -/
theorem current_of_same {r : RequestId} (h : Current g s r) (hg : Grows g s t)
    (htask : t.task = s.task) (hreq : t.requests r = s.requests r)
    (hdata : t.ni_data = s.ni_data) (hby : t.resp_by = s.resp_by) (hlock : t.tLock = s.tLock)
    (hresp : t.responds = s.responds) : Current g t r := by
  have hfits : Fits g s r → Fits g t r :=
    fits_mono hg (by rw [hdata]) (by rw [hdata]) hby
  refine ⟨?_, ?_, ?_, ?_, ?_, ?_, ?_, fun hrecvd => ?_, fun hlocked => ?_⟩
  · rw [hdata]
    exact h.raw
  · rw [hdata, htask]
    exact h.saving
  · rw [hdata, htask, hreq]
    exact h.named
  · rw [hdata, htask, hreq]
    exact h.time
  · rw [hreq]
    exact h.delay
  · rw [hdata, hresp]
    exact h.matched
  · rw [hdata, hresp]
    exact h.storing
  · rw [hdata] at hrecvd ⊢
    rw [htask]
    exact (h.recvd hrecvd).imp_left hfits
  · rw [hreq] at hlocked
    rw [hdata, hlock]
    exact ⟨(h.locked hlocked).1, (h.locked hlocked).2.imp_right hfits⟩

/-- A step while the thread of the request is on its way: its own, or one of
    the message task. -/
theorem current_of_thread (hs : Tidy s) {r : RequestId} (h : Current g s r)
    (hthread : (s.requests r).thread ≠ .absent)
    (htask : t.task = s.task ∨ t.task.handling = none) (hresp : t.responds = s.responds)
    (hid : t.ni_data.reqID = s.ni_data.reqID)
    (hname : (t.requests r).notification_id = (s.requests r).notification_id)
    (hraw : t.ni_data.rawRequest = s.ni_data.rawRequest ∨ t.ni_data.rawRequest = none)
    (htime : (t.requests r).thread = .starting → t.ni_data.respTimeLeft = g.respTime r)
    (hdelay : (t.requests r).thread = .waiting → (t.requests r).delay = g.respTime r)
    (hrecvd : t.ni_data.respRecvd = true → Fits g t r ∨ t.ni_data.rawRequest = none)
    (hlocked : (t.requests r).thread.locked = true → t.tLock = some r ∧
      (t.ni_data.rawRequest = none ∨ Fits g t r)) : Current g t r := by
  rcases hs.not_handling hthread with ⟨hsaving, hnaming, hcreating⟩
  -- The handler is past the request, and does not come back to it.
  have hno : t.task ≠ .saving r ∧ t.task ≠ .creating r := by
    rcases htask with hsame | hnone
    · exact ⟨hsame ▸ hsaving, hsame ▸ hcreating⟩
    · refine ⟨fun h => ?_, fun h => ?_⟩ <;> rw [h] at hnone <;> cases hnone
  refine ⟨fun p hp => ?_, fun hyes => absurd hyes hno.1, fun _ _ => ?_, fun hyes => ?_, hdelay,
    fun q hq => ?_, fun q p hq => ?_, fun hyes => ?_, hlocked⟩
  · rcases hraw with hsame | hnone
    · exact h.raw p (hsame ▸ hp)
    · rw [hnone] at hp
      cases hp
  · rw [hname, hid]
    exact h.named hsaving hnaming
  · rcases hyes with hyes | hyes
    · exact absurd hyes hno.2
    · exact htime hyes
  · rw [hid]
    exact h.matched q (hresp ▸ hq)
  · rw [hid]
    exact h.storing q p (hresp ▸ hq)
  · exact (hrecvd hyes).imp_right fun hnone => ⟨hnone, hno.1⟩

/-- Every move keeps what was said. -/
theorem move_grows (hs : Inv g s) {l : Label} (hm : Move g s l t) : Grows g s t := by
  refine ⟨fun q p hq => ?_, fun r id hid => ?_, fun r htimed hdelay => ?_⟩
  · have hmove := respondMove_of_move hm q
    generalize t.responds q = pc at hmove
    cases hmove with
    | same => exact hq
    | dropped hpc => rcases hpc with hpc | hpc <;> rw [hpc] at hq <;> cases hq
    | matched hpc hcb hid =>
        rw [hpc] at hq
        cases hq
    | outstanding p hpc hraw =>
        rw [hpc] at hq
        cases hq
    | stored p hpc =>
        rw [hpc] at hq
        cases hq
  · have hmove := requestMove_of_move hm r
    generalize t.requests r = k at hmove
    cases hmove with
    -- A notification gets its id once.
    | named htask hgo =>
        rw [hs.tidy.unnamed r (Or.inr htask)] at hid
        cases hid
    | _ => exact hid
  · have hmove := requestMove_of_move hm r
    generalize t.requests r = k at hmove
    cases hmove with
    -- Whatever its thread has read before, it reads the time set for it.
    | started pc hpc hnext =>
        have hactive : Active s r := Or.inr (hpc ▸ rfl)
        exact ⟨htimed, (hs.current r hactive).time (Or.inr hpc)⟩
    | expired hpc => exact ⟨rfl, hdelay⟩
    | _ => exact ⟨htimed, hdelay⟩

/-- A step of the message task that changes neither the request nor the
    responses, while the thread of the request is on its way. -/
theorem current_of_task (hs : Tidy s) {r : RequestId} (h : Current g s r) (hg : Grows g s t)
    (hthread : (s.requests r).thread ≠ .absent) (htask : t.task.handling = none)
    (hreq : t.requests r = s.requests r) (hresp : t.responds = s.responds)
    (hdata : ∃ raw recvd, t.ni_data =
        { s.ni_data with rawRequest := raw, respRecvd := recvd } ∧
      (raw = s.ni_data.rawRequest ∨ raw = none) ∧ (recvd = s.ni_data.respRecvd ∨ raw = none))
    (hby : t.resp_by = s.resp_by) (hlock : t.tLock = s.tLock) : Current g t r := by
  rcases hdata with ⟨raw, recvd, hdata, hraw, hrecvd⟩
  have hfits : Fits g s r → Fits g t r := fits_mono hg (by rw [hdata]) (by rw [hdata]) hby
  refine current_of_thread hs h hthread (Or.inr htask) hresp (by rw [hdata]) (by rw [hreq])
    (by rw [hdata]; exact hraw) ?_ ?_ ?_ ?_
  · rw [hreq, hdata]
    exact fun hstart => h.time (Or.inr hstart)
  · rw [hreq]
    exact h.delay
  · rw [hdata]
    intro hyes
    rcases hrecvd with hsame | hnone
    -- A response that was there belongs to the request or to none.
    · rcases h.recvd (hsame ▸ hyes) with hfit | hnone
      · exact Or.inl (hfits hfit)
      · rcases hraw with hraw | hraw
        · exact Or.inr (hraw.trans hnone.1)
        · exact Or.inr hraw
    · exact Or.inr hnone
  · rw [hreq, hdata, hlock]
    intro hyes
    refine ⟨(h.locked hyes).1, ?_⟩
    rcases (h.locked hyes).2 with hnone | hfit
    · rcases hraw with hraw | hraw
      · exact Or.inl (hraw.trans hnone)
      · exact Or.inl hraw
    · exact Or.inr (hfits hfit)

/-- A step of the handler, before the request has a thread. -/
theorem current_of_handler {r : RequestId} (h : Current g s r) (hg : Grows g s t)
    (hthread : (t.requests r).thread = .absent)
    (hresp : t.responds = s.responds)
    (hdata : ∃ raw time, t.ni_data = { s.ni_data with rawRequest := raw, respTimeLeft := time } ∧
      ∀ p, raw = some p → p = r)
    (hby : t.resp_by = s.resp_by) (hno : t.task ≠ .saving r)
    (hname : t.task ≠ .naming r → (t.requests r).notification_id = some s.ni_data.reqID)
    (htime : t.task = .creating r → t.ni_data.respTimeLeft = g.respTime r)
    (hrecvd : s.task ≠ .saving r → t.ni_data.rawRequest = s.ni_data.rawRequest) :
    Current g t r := by
  rcases hdata with ⟨raw, time, hdata, hraw⟩
  have hfits : Fits g s r → Fits g t r := fits_mono hg (by rw [hdata]) (by rw [hdata]) hby
  refine ⟨?_, fun hyes => absurd hyes hno, fun _ hnaming => ?_, fun hyes => ?_, fun hyes => ?_,
    ?_, ?_, fun hyes => ?_, fun hyes => ?_⟩
  · rw [hdata]
    exact hraw
  · rw [hdata]
    exact hname hnaming
  · rcases hyes with hyes | hyes
    · exact htime hyes
    · rw [hthread] at hyes
      cases hyes
  · rw [hthread] at hyes
    cases hyes
  · rw [hdata, hresp]
    exact h.matched
  · rw [hdata, hresp]
    exact h.storing
  · rw [hdata] at hyes
    rcases h.recvd hyes with hfit | hnone
    · exact Or.inl (hfits hfit)
    -- A reset came in between, and its response is for nobody.
    · exact Or.inr ⟨(hrecvd hnone.2).trans hnone.1, hno⟩
  · rw [hthread] at hyes
    cases hyes

/-- The thread of the request leaves its wait loop, with a response that fits
    or after a reset. -/
theorem current_of_leaves (hs : Tidy s) {r : RequestId} {k : Request} (h : Current g s r)
    (hthread : (s.requests r).thread ≠ .absent)
    (hreq : t.requests = Function.update s.requests r { k with thread := .testing })
    (hname : k.notification_id = (s.requests r).notification_id) (htask : t.task = s.task)
    (hresp : t.responds = s.responds) (hid : t.ni_data.reqID = s.ni_data.reqID)
    (hraw : t.ni_data.rawRequest = s.ni_data.rawRequest) (hlock : t.tLock = some r)
    (hrecvd : t.ni_data.respRecvd = false) (hfit : t.ni_data.rawRequest = none ∨ Fits g t r) :
    Current g t r := by
  have hself : t.requests r = { k with thread := .testing } := by rw [hreq, Function.update_self]
  refine current_of_thread hs h hthread (Or.inl htask) hresp hid (by rw [hself]; exact hname)
    (Or.inl hraw) ?_ ?_ ?_ fun _ => ⟨hlock, hfit⟩
  · rw [hself]
    exact fun hno => by cases hno
  · rw [hself]
    exact fun hno => by cases hno
  · rw [hrecvd]
    exact fun hno => by cases hno

theorem Next.from_loop {pc pc' : ThreadPc} (h : Next s pc pc') :
    pc ≠ .absent ∧ pc' ≠ .starting ∧ pc' ≠ .waiting ∧ (pc'.locked = true → pc.locked = true) := by
  cases h <;> exact ⟨(fun h => by cases h), (fun h => by cases h), (fun h => by cases h),
    fun h => by first | rfl | cases h⟩

/-- The thread of the request goes on from there. -/
theorem current_of_next (hs : Tidy s) {r : RequestId} {pc pc' : ThreadPc} (h : Current g s r)
    (hg : Grows g s t) (hpc : (s.requests r).thread = pc) (hnext : Next s pc pc')
    (hreq : t.requests = Function.update s.requests r { s.requests r with thread := pc' })
    (htask : t.task = s.task) (hresp : t.responds = s.responds)
    (hdata : ∃ raw time, t.ni_data = { s.ni_data with rawRequest := raw, respTimeLeft := time } ∧
      (raw = s.ni_data.rawRequest ∨ raw = none))
    (hby : t.resp_by = s.resp_by) (hlock : pc'.locked = true → t.tLock = s.tLock) :
    Current g t r := by
  rcases hdata with ⟨raw, time, hdata, hraw⟩
  -- Such a step leads neither to the start of the thread nor into a wait.
  rcases hnext.from_loop with ⟨hthread, hstart, hwait, hlocked⟩
  have hfits : Fits g s r → Fits g t r := fits_mono hg (by rw [hdata]) (by rw [hdata]) hby
  have hself : t.requests r = { s.requests r with thread := pc' } := by
    rw [hreq, Function.update_self]
  refine current_of_thread hs h (hpc ▸ hthread) (Or.inl htask) hresp (by rw [hdata]) (by rw [hself])
    (by rw [hdata]; exact hraw) ?_ ?_ (fun hyes => ?_) ?_
  · rw [hself]
    exact fun hno => absurd hno hstart
  · rw [hself]
    exact fun hno => absurd hno hwait
  · rw [hdata] at hyes ⊢
    rcases h.recvd hyes with hfit | hnone
    · exact Or.inl (hfits hfit)
    · exact Or.inr (hraw.elim (fun hsame => hsame.trans hnone.1) id)
  · rw [hself, hdata]
    intro hyes
    rcases h.locked (hpc ▸ hlocked hyes) with ⟨hheld, hfit⟩
    refine ⟨(hlock hyes).trans hheld, ?_⟩
    rcases hfit with hnone | hfit
    · exact Or.inl (hraw.elim (fun hsame => hsame.trans hnone) id)
    · exact Or.inr (hfits hfit)

/-- A response finds the id of the current request, or no longer. -/
theorem matched_of_move {r : RequestId} (h : Current g s r) {q : RespondId} {pc : RespondPc}
    (hm : RespondMove g s q pc) (hpc : pc = .matched) :
    (g.response q).notif_id = s.ni_data.reqID := by
  cases hm with
  | same => exact h.matched q hpc
  | matched _ _ hid => exact hid
  | _ => cases hpc

/-- And then it finds the request itself. -/
theorem storing_of_move {r : RequestId} (h : Current g s r) {q : RespondId} {pc : RespondPc}
    (hm : RespondMove g s q pc) {p : RequestId} (hpc : pc = .storing p) :
    p = r ∧ (g.response q).notif_id = s.ni_data.reqID := by
  cases hm with
  | same => exact h.storing q p hpc
  | outstanding p' hbefore hraw =>
      cases hpc
      exact ⟨h.raw p hraw, h.matched q hbefore⟩
  | _ => cases hpc

/-- A step of `loc_eng_ni_respond`. -/
theorem current_of_respond {r : RequestId} (h : Current g s r)
    (hmove : ∀ q, RespondMove g s q (t.responds q)) (htask : t.task = s.task)
    (hreq : t.requests r = s.requests r) (hid : t.ni_data.reqID = s.ni_data.reqID)
    (hraw : t.ni_data.rawRequest = s.ni_data.rawRequest)
    (htime : t.ni_data.respTimeLeft = s.ni_data.respTimeLeft)
    (hrecvd : t.ni_data.respRecvd = true → Fits g t r ∨
      (s.ni_data.rawRequest = none ∧ s.task ≠ .saving r))
    (hlocked : (s.requests r).thread.locked = true → t.tLock = some r ∧
      (s.ni_data.rawRequest = none ∨ Fits g t r)) : Current g t r := by
  -- A response does not touch the request itself, so only what was responded is new.
  refine ⟨?_, ?_, ?_, ?_, ?_, fun q hq => ?_, fun q p hq => ?_, ?_, ?_⟩
  · rw [hraw]
    exact h.raw
  · rw [hraw, htask]
    exact h.saving
  · rw [htask, hreq, hid]
    exact h.named
  · rw [htask, hreq, htime]
    exact h.time
  · rw [hreq]
    exact h.delay
  · rw [hid]
    exact matched_of_move h (hmove q) hq
  · rw [hid]
    exact storing_of_move h (hmove q) hq
  · rw [hraw, htask]
    exact hrecvd
  · rw [hraw, hreq]
    exact hlocked

/-- The tests of `loc_eng_ni_respond` write nothing. -/
theorem current_of_tested {r : RequestId} {q : RespondId} {pc : RespondPc} (h : Current g s r)
    (hg : Grows g s (s.setRespond q pc))
    (hmove : ∀ q', RespondMove g s q' ((s.setRespond q pc).responds q')) :
    Current g (s.setRespond q pc) r :=
  current_of_respond h hmove rfl rfl rfl rfl rfl
    (fun hyes => (h.recvd hyes).imp_left (fits_mono hg rfl rfl rfl))
    fun hyes => ⟨(h.locked hyes).1, (h.locked hyes).2.imp_right (fits_mono hg rfl rfl rfl)⟩

theorem ThreadPc.not_absent {pc : ThreadPc} (h : pc.busy = true) : pc ≠ .absent := by
  intro hno
  rw [hno] at h
  cases h

/-- Between two messages an active request has its thread, so it is not one
    that is still to come. -/
theorem Tidy.called_of_active (hs : Tidy s) {r : RequestId} (hr : Active s r)
    (hidle : s.task = .idle) : (s.requests r).called = true := by
  rcases hr with htask | hbusy
  · rw [hidle] at htask
    cases htask
  · by_contra hnew
    rw [hs.uncalled r (Bool.not_eq_true _ ▸ hnew)] at hbusy
    cases hbusy

/-- Before `loc_eng_ni_init` no request is active. -/
theorem Tidy.inited_of_active (hs : Tidy s) {r : RequestId} (hr : Active s r) :
    s.ni_notify_cb = true := by
  by_contra hcb
  rcases hs.uninited (Bool.not_eq_true _ ▸ hcb) with ⟨hidle, habsent, _⟩
  rcases hr with htask | hbusy
  · rw [hidle] at htask
    cases htask
  · rw [habsent r] at hbusy
    cases hbusy

theorem passThrough_eq {r p : RequestId} (h : g.passThrough r = some p) : p = r := by
  rw [Setup.passThrough] at h
  split at h
  · exact (Option.some.inj h).symm
  · cases h

/-- The active request stays current over a move of the message task. -/
theorem current_of_move_task (hs : Inv g s) {l : Label} (hl : l = .task ∨ ∃ b, l = .create b)
    (hm : Move g s l t) (hg : Grows g s t) {r : RequestId} (hr : Active s r) (hr' : Active t r) :
    Current g t r := by
  have h := hs.current r hr
  have hthread : s.task.handling = none → (s.requests r).thread ≠ .absent := fun hno => by
    rcases hr with htask | hbusy
    · rw [hno] at htask
      cases htask
    · exact ThreadPc.not_absent hbusy
  have hsame : ∀ {task r'}, s.task = task → task.handling = some r' → r' = r :=
    fun htask hr'' => hs.alone _ _ (Or.inl (htask ▸ hr'')) hr
  cases hm with
  | saved r' htask =>
      obtain rfl := hsame htask rfl
      exact current_of_handler h hg (hs.tidy.handling r' (htask ▸ rfl)).2 rfl
        ⟨_, _, rfl, fun p hp => passThrough_eq hp⟩ rfl (fun h => by cases h)
        (fun hno => absurd rfl hno) (fun h => by cases h) fun hno => absurd htask hno
  -- The id that is given out is the one a response will be compared with.
  | named r' htask =>
      obtain rfl := hsame htask rfl
      have hreq : (s.fillIn r').requests r' =
          { s.requests r' with notification_id := some s.ni_data.reqID } :=
        Function.update_self r' _ _
      refine current_of_handler h hg ?_ rfl ⟨_, _, rfl, h.raw⟩ rfl (fun h => by cases h) ?_
        (fun h => by cases h) fun _ => rfl
      · rw [hreq]
        exact (hs.tidy.handling r' (htask ▸ rfl)).2
      · rw [hreq]
        exact fun _ => rfl
  | timed r' htask =>
      obtain rfl := hsame htask rfl
      refine current_of_handler h hg (hs.tidy.handling r' (htask ▸ rfl)).2 rfl
        ⟨_, _, rfl, h.raw⟩ rfl (fun h => by cases h) (fun _ => ?_) (fun _ => rfl) fun _ => rfl
      refine h.named ?_ ?_ <;> rw [htask] <;> exact fun h => by cases h
  | created r' htask =>
      obtain rfl := hsame htask rfl
      have hreq : (s.setThread r' .starting).requests r' =
          { s.requests r' with thread := .starting } := Function.update_self r' _ _
      have hfits : Fits g s r' → Fits g _ r' := fits_mono hg rfl rfl rfl
      -- What was set for the request is there when its thread starts.
      refine ⟨h.raw, (fun h => by cases h), fun _ _ => ?_, fun _ => h.time (Or.inl htask),
        fun hno => ?_, h.matched, h.storing, fun hrecvd => ?_, fun hno => ?_⟩
      · rw [hreq]
        refine h.named ?_ ?_ <;> rw [htask] <;> exact fun h => by cases h
      · rw [hreq] at hno
        cases hno
      · exact (h.recvd hrecvd).imp hfits fun hnone => ⟨hnone.1, fun h => by cases h⟩
      · rw [hreq] at hno
        cases hno
  | failed r' htask =>
      -- Without a thread the request is not active any more.
      obtain rfl := hsame htask rfl
      rcases hr' with hno | hno
      · cases hno
      · rw [show (s.requests r').thread = .absent from
          (hs.tidy.handling r' (htask ▸ rfl)).2] at hno
        cases hno
  | notified r' htask =>
      exact current_of_task hs.tidy h hg (hthread (htask ▸ rfl)) rfl rfl rfl
        ⟨_, _, rfl, Or.inl rfl, Or.inl rfl⟩ rfl rfl
  | freed htask =>
      exact current_of_task hs.tidy h hg (hthread (htask ▸ rfl)) rfl rfl rfl
        ⟨_, _, rfl, Or.inl rfl, Or.inl rfl⟩ rfl rfl
  | cleared htask =>
      exact current_of_task hs.tidy h hg (hthread (htask ▸ rfl)) rfl rfl rfl
        ⟨_, _, rfl, Or.inr rfl, Or.inl rfl⟩ rfl rfl
  | woken htask hlock =>
      -- The reset wakes a thread that will find no request.
      exact current_of_task hs.tidy h hg (hthread (htask ▸ rfl)) rfl rfl rfl
        ⟨_, _, rfl, Or.inl rfl, Or.inr (hs.tidy.waking htask)⟩ rfl rfl
  | _ => rcases hl with hl | ⟨b, hl⟩ <;> cases hl

/-- It stays so over a move of a thread: its own, or one that has counted. -/
theorem current_of_move_thread (hs : Inv g s) {l : Label}
    (hl : (∃ r', l = .thread r') ∨ ∃ r' timedOut, l = .wake r' timedOut) (hm : Move g s l t)
    (hg : Grows g s t) {r : RequestId} (hr : Active s r) (hr' : Active t r) : Current g t r := by
  have h := hs.current r hr
  have hsame : ∀ {r' pc}, (s.requests r').thread = pc → pc.busy = true → r' = r :=
    fun hpc hbusy => hs.alone _ _ (Or.inr (hpc ▸ hbusy)) hr
  have hthread : ∀ {pc}, (s.requests r).thread = pc → pc.busy = true →
      (s.requests r).thread ≠ .absent :=
    fun hpc hbusy => ThreadPc.not_absent (hpc ▸ hbusy)
  cases hm with
  | began r' hpc hlock =>
      obtain rfl := hsame hpc rfl
      have hfits : Fits g s r' → Fits g _ r' := fits_mono hg rfl rfl rfl
      refine current_of_thread hs.tidy h (hthread hpc rfl) (Or.inl rfl) rfl rfl ?_ (Or.inl rfl)
        ?_ ?_ (fun hrecvd => (h.recvd hrecvd).imp hfits And.left) ?_ <;>
        rw [State.setRequest_requests, Function.update_self]
      · exact fun hno => by cases hno
      · -- The time it reads is the one the handler has set for it.
        exact fun _ => h.time (Or.inr hpc)
      · exact fun hno => by cases hno
  | found r' hpc hlock hrecvd =>
      obtain rfl := hsame hpc rfl
      exact current_of_leaves hs.tidy h (hthread hpc rfl) rfl rfl rfl rfl rfl rfl rfl rfl
        ((h.recvd hrecvd).symm.imp And.left (fits_mono hg rfl rfl rfl))
  | again r' hpc =>
      obtain rfl := hsame hpc rfl
      refine current_of_same h hg rfl ?_ rfl rfl rfl rfl
      rw [State.setRequest_requests, Function.update_self, ← hpc]
  | answered r' hpc hlock hrecvd =>
      obtain rfl := hsame hpc rfl
      exact current_of_leaves hs.tidy h (hthread hpc rfl) rfl rfl rfl rfl rfl rfl rfl rfl
        ((h.recvd hrecvd).symm.imp And.left (fits_mono hg rfl rfl rfl))
  | expired r' hpc hlock =>
      obtain rfl := hsame hpc rfl
      refine current_of_leaves hs.tidy h (hthread hpc rfl) rfl rfl rfl rfl rfl rfl rfl rfl
        (Or.inr ⟨rfl, rfl, ?_, ?_⟩) <;>
        rw [State.leaveLoop_requests, State.setRequest_requests, Function.update_self]
      exact h.delay hpc
  | gone r' hpc =>
      obtain rfl := hsame hpc rfl
      exact current_of_next hs.tidy h hg hpc .gone rfl rfl rfl ⟨_, _, rfl, Or.inl rfl⟩ rfl
        fun hno => by cases hno
  | present r' p hpc hraw =>
      obtain rfl := hsame hpc rfl
      exact current_of_next hs.tidy h hg hpc .present rfl rfl rfl ⟨_, _, rfl, Or.inl rfl⟩ rfl
        fun _ => rfl
  | built r' hpc =>
      obtain rfl := hsame hpc rfl
      exact current_of_next hs.tidy h hg hpc .built rfl rfl rfl ⟨_, _, rfl, Or.inl rfl⟩ rfl
        fun _ => rfl
  | ignored r' hpc =>
      obtain rfl := hsame hpc rfl
      exact current_of_next hs.tidy h hg hpc .ignored rfl rfl rfl ⟨_, _, rfl, Or.inl rfl⟩ rfl
        fun _ => rfl
  | unlocked r' msg hpc =>
      obtain rfl := hsame hpc rfl
      exact current_of_next hs.tidy h hg hpc (.unlocked msg) rfl rfl rfl ⟨_, _, rfl, Or.inr rfl⟩
        rfl fun hno => by cases hno
  | timeCleared r' msg hpc =>
      obtain rfl := hsame hpc rfl
      exact current_of_next hs.tidy h hg hpc (.timeCleared msg) rfl rfl rfl
        ⟨_, _, rfl, Or.inl rfl⟩ rfl fun _ => rfl
  | counted r' msg hpc =>
      -- The request is counted, and not active any more.
      obtain rfl := hsame hpc rfl
      rcases hr' with hno | hno
      · have habsent := (hs.tidy.handling r' hno).2
        rw [hpc] at habsent
        cases habsent
      · rw [State.count_requests, State.setThread_requests, Function.update_self] at hno
        cases hno
  | queued r' msg hpc =>
      -- A thread this far is that of another request, which is counted.
      have hne : r ≠ r' := by
        rintro rfl
        rcases hr with hno | hno
        · have habsent := (hs.tidy.handling r hno).2
          rw [hpc] at habsent
          cases habsent
        · rw [hpc] at hno
          cases hno
      refine current_of_same h hg rfl ?_ rfl rfl rfl rfl
      rw [State.sendMsg_requests, State.setThread_requests, Function.update_of_ne hne]
  | _ => rcases hl with ⟨_, hl⟩ | ⟨_, _, hl⟩ <;> cases hl

/-- An active request stays current over every move that takes no other. -/
theorem current_of_move (hs : Inv g s) {l : Label} (hm : Move g s l t) (hg : Grows g s t)
    (hno : ∀ r', ¬ Accepts s l r') {r : RequestId} (hr : Active s r) (hr' : Active t r) :
    Current g t r := by
  by_cases hlthread : (∃ r', l = .thread r') ∨ ∃ r' timedOut, l = .wake r' timedOut
  · exact current_of_move_thread hs hlthread hm hg hr hr'
  by_cases hltask : l = .task ∨ ∃ b, l = .create b
  · exact current_of_move_task hs hltask hm hg hr hr'
  have h := hs.current r hr
  have hinited := hs.tidy.inited_of_active hr
  have hmove := respondMove_of_move hm
  cases hm with
  | inited hcb =>
      rw [hinited] at hcb
      cases hcb
  | notInited r' htask hnew hcb =>
      rw [hinited] at hcb
      cases hcb
  | accepted r' htask hnew hcb hraw => exact absurd ⟨rfl, htask, hcb, hraw⟩ (hno r')
  | initedBefore hcb => exact h
  | noReset htask => exact h
  | busy r' p htask hnew hcb hraw =>
      have hne : r ≠ r' := by
        rintro rfl
        rw [hs.tidy.called_of_active hr htask] at hnew
        cases hnew
      exact current_of_same h hg rfl (Function.update_of_ne hne _ _) rfl rfl rfl rfl
  | resetting p htask hcb hraw =>
      have hthread : (s.requests r).thread ≠ .absent := by
        rcases hr with hhandling | hbusy
        · rw [htask] at hhandling
          cases hhandling
        · exact ThreadPc.not_absent hbusy
      exact current_of_task hs.tidy h hg hthread rfl rfl rfl
        ⟨_, _, rfl, Or.inl rfl, Or.inl rfl⟩ rfl rfl
  | informed msg rest htask hqueue => exact current_of_same h hg rfl rfl rfl rfl rfl rfl
  | dropped q hpc => exact current_of_tested h hg hmove
  | matched q hpc hcb hid => exact current_of_tested h hg hmove
  | outstanding q p hpc hraw => exact current_of_tested h hg hmove
  | stored q p hpc hlock =>
      -- The response that is stored found this request, and its id.
      rcases h.storing q p hpc with ⟨rfl, hid⟩
      refine current_of_respond h hmove rfl rfl rfl rfl rfl (fun _ => Or.inl ?_) fun hyes => ?_
      · exact ⟨rfl, Function.update_self q _ _, congrArg some hid.symm⟩
      · -- Whoever stores has the lock, so the thread of the request has not.
        have hheld := (h.locked hyes).1
        rw [hlock] at hheld
        cases hheld
  -- The moves of the threads and of the message task are done.
  | _ => simp at hlthread hltask

/-- Two requests are never active at once when they are taken in turn. -/
theorem alone_of_move (hs : Inv g s) {l : Label} (hm : Move g s l t) (hturn : InTurn g s l)
    {r r' : RequestId} (hr : Active t r) (hr' : Active t r') : r = r' := by
  -- A request taken in turn finds no other active.
  have hnone : ∀ {r₁ r₂}, Accepts s l r₁ → ¬ Active s r₂ := by
    rintro r₁ r₂ ⟨rfl, hidle, _, hraw⟩ (htask | hbusy)
    · rw [hidle] at htask
      cases htask
    · rw [(hturn hraw).threads r₂] at hbusy
      cases hbusy
  rcases active_of_move hm hr with hold | hnew
  · rcases active_of_move hm hr' with hold' | hnew'
    · exact hs.alone r r' hold hold'
    · exact absurd hold (hnone hnew')
  · rcases active_of_move hm hr' with hold' | hnew'
    · exact absurd hold' (hnone hnew)
    · have hsame := hnew.request.symm.trans hnew'.request
      cases hsame
      rfl

/-- A message that is built belongs to its payload: what the thread finds is
    its own. -/
theorem belongs_of_building (hs : Inv g s) {r : RequestId}
    (hpc : (s.requests r).thread = .building) :
    Belongs g s ⟨s.ni_data.resp, s.ni_data.rawRequest, s.resp_by⟩ := by
  have h := hs.current r (Or.inr (hpc ▸ rfl))
  intro p hp
  obtain rfl := h.raw p hp
  have hthread : (s.requests p).thread ≠ .absent := by
    rw [hpc]
    exact fun h => by cases h
  rcases hs.tidy.not_handling hthread with ⟨hsaving, hnaming, _⟩
  rw [h.named hsaving hnaming]
  -- The lock was held since the response was found, so it still fits.
  rcases (h.locked (hpc ▸ rfl)).2 with hnone | hfits
  · rw [show s.ni_data.rawRequest = some p from hp] at hnone
    cases hnone
  · exact hfits

theorem sent_of_move (hs : Inv g s) {l : Label} (hm : Move g s l t) {msg : LocEngInformNiResponse}
    (h : msg ∈ t.sent) : Belongs g s msg := by
  cases hm with
  | queued r built hpc =>
      rcases List.mem_append.mp h with hold | hnew
      · exact hs.sent msg hold
      · refine hs.built r msg ?_
        rw [hpc]
        exact Option.mem_toList.mp hnew
  | _ => exact hs.sent msg h

theorem step_inv {l : Label} (hs : Inv g s) (hturn : InTurn g s l) (h : step g s l = some t) :
    Inv g t := by
  have hm := step_move h
  have hg := move_grows hs hm
  refine ⟨move_tidy hs.tidy hm, fun r r' => alone_of_move hs hm hturn, fun r hr => ?_,
    fun r msg hmsg => ?_, fun msg hmsg => belongs_mono hg (sent_of_move hs hm hmsg)⟩
  · by_cases haccept : ∃ r', Accepts s l r'
    · rcases haccept with ⟨r', hr'⟩
      have hnew : Active t r' := Or.inl ((of_accepts hs.tidy hm hr').1 ▸ rfl)
      obtain rfl := alone_of_move hs hm hturn hr hnew
      rcases hr' with ⟨rfl, hidle, hcb, hraw⟩
      exact current_of_accepts hs.tidy hm ⟨rfl, hidle, hcb, hraw⟩ (hturn hraw)
    · rcases active_of_move hm hr with hold | hnew
      · exact current_of_move hs hm hg (fun r' hr' => haccept ⟨r', hr'⟩) hold hr
      · exact absurd ⟨r, hnew⟩ haccept
  · rcases msg_of_move hm hmsg with hold | ⟨hpc, rfl⟩
    · exact belongs_mono hg (hs.built r msg hold)
    · exact belongs_mono hg (belongs_of_building hs hpc)

/-- Over every schedule from before `loc_eng_ni_init` on in which requests are
    taken in turn: every message that was queued belongs to its payload. Resets,
    responses for any id and at any time, and threads that are late are all
    among the steps. -/
theorem response_belongs (g : Setup) (ls : List Label) (s : State)
    (hturn : StepSystem.Meets (step g) (InTurn g) State.zeroed ls)
    (hrun : StepSystem.exec (step g) State.zeroed ls = some s) :
    ∀ msg ∈ s.sent, Belongs g s msg :=
  (StepSystem.invariant_of_meets (fun _ _ _ => step_inv) zeroed_inv hturn hrun).sent

/-- Every request has a payload and the usual time, and call `q` of
    `loc_eng_ni_respond` accepts the notification with the id `q`. -/
def Setup.accepting : Setup where
  notif := fun _ => { timeout := 0, passThrough := true }
  response := fun q => { notif_id := Int32.ofNat q, user_response := GPS_NI_RESPONSE_ACCEPT }

/-- The handler takes a request, and notifies. -/
def taken (r : RequestId) : List Label :=
  [.request r, .task, .task, .task, .create true, .task]

/-- A thread from the end of its wait loop to its own. -/
def wayOut (r : RequestId) : List Label :=
  [.thread r, .thread r, .thread r, .thread r, .thread r, .thread r]

/-- The first request is accepted while its thread waits. -/
def acceptedInTime : List Label :=
  .init :: taken 0 ++ [.thread 0, .respond 0, .respond 0, .respond 0, .wake 0 false] ++ wayOut 0

theorem response_belongs_inTime :
    ∃ s, StepSystem.exec (step .accepting) State.zeroed acceptedInTime = some s ∧
      ∀ msg ∈ s.sent, Belongs .accepting s msg := by
  refine ⟨_, rfl, response_belongs .accepting acceptedInTime _ ⟨trivial, fun t ht => ?_⟩ rfl⟩
  cases ht
  refine ⟨fun _ => ?_, fun t _ => ?_⟩
  · exact ⟨fun _ => rfl, (fun _ h => by cases h), (fun _ _ h => by cases h), rfl⟩
  · refine StepSystem.meets_of_forall (fun l hl s => ?_) t
    cases l with
    | request r => simp [wayOut] at hl
    | _ => trivial

/-- The engine restarts before the thread of the second request has run, which
    then answers the third with what was left in `resp` by the first. And a
    response that was about to be stored when the first request timed out
    answers the second. -/
theorem response_of_other :
    (∃ s, StepSystem.exec (step .accepting) State.zeroed (acceptedInTime ++ taken 1 ++
        [.reset, .task, .task, .task] ++ taken 2 ++ [.thread 1] ++ wayOut 1) = some s ∧
      ∃ msg ∈ s.sent, msg.mPayload = some 2 ∧ msg.mResponse = GPS_NI_RESPONSE_ACCEPT ∧
        ¬ Belongs .accepting s msg) ∧
    (∃ s, StepSystem.exec (step .accepting) State.zeroed (.init :: taken 0 ++
        [.thread 0, .respond 0, .respond 0, .wake 0 true] ++ wayOut 0 ++ [.respond 0] ++
        taken 1 ++ [.thread 1] ++ wayOut 1) = some s ∧
      ∃ msg ∈ s.sent, msg.mPayload = some 1 ∧ msg.mResponse = GPS_NI_RESPONSE_ACCEPT ∧
        ¬ Belongs .accepting s msg) :=
  ⟨⟨_, rfl, by decide +kernel⟩, ⟨_, rfl, by decide +kernel⟩⟩

end Ni

end Victara
