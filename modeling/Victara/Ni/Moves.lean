import Victara.Ni.Model

/-!
# What a Step of the Network Initiated Requests Can Do

Every branch of every step, with what was tested on the way to it. The results
about requests and their answers are case analyses of `Move`.

A request is active from when the handler found none in session until its
thread has counted it. An active request gets its id, its time and its
response from data that any other may write.

There are many moves and few things that matter of each, so the moves are looked
at from one side at a time: what a move does to one request, and to one
response. `requestMove_of_move` and `respondMove_of_move` say so, with the
requests and responses that a move is not about left as they are. `Tidy` is what
holds without any condition on the run, and what the three results about
requests share.

## Main definitions

* `Move`: The branches.
* `Next`: The way of a thread from its wait loop to its end.
* `RequestMove`, `RespondMove`: What they do to one request, or response.
* `Task.handling`: The request the handler is busy with, until its thread is
  created.
* `ThreadPc.busy`: The thread is created and has not counted its request yet.
* `ThreadPc.locked`: The thread holds `tLock`.
* `ThreadPc.msg`: The message the thread has built.
* `Active`: The request has to do with the shared data.
* `Accepts`: The handler found no request in session, and takes `r`.
* `Tidy`: What every request and the message task keep to.

## Theorems

* `step_move`: A step is one of the moves.
* `RequestMove.of_absent`: Without a thread, a request is changed by the message
  task only.
* `requestMove_of_update`: One request is changed, and the others are the same.
* `requestMove_of_move`, `respondMove_of_move`: The moves seen from one of them.
* `respondMove_of_update`: One response is changed, and the others are the same.
* `handling_of_move`: The handler goes on with the request it has, or takes a
  new one.
* `Next.busy`: A thread that goes on from its wait loop was busy.
* `msg_of_move`: A message is built of what is shared at that time, and kept.
* `active_of_move`: A request becomes active by being accepted.
* `of_accepts`: What the handler takes is a new request, and nothing else
  changes yet.
* `move_tidy`: Every move keeps things tidy.
* `raw_of_move`: Who puts a request into session.
* `raw_uninited`: No request is in session before `loc_eng_ni_init`.
-/

namespace Victara

namespace Ni

variable {g : Setup} {s t : State}

inductive Move (g : Setup) (s : State) : Label → State → Prop
  | inited (hcb : s.ni_notify_cb = false) : Move g s .init { s with
      ni_data := { s.ni_data with respTimeLeft := 0, respRecvd := false, rawRequest := none, reqID := 0 }
      ni_notify_cb := true }
  | initedBefore (hcb : s.ni_notify_cb = true) : Move g s .init s
  | notInited (r : RequestId) (htask : s.task = .idle) (hnew : (s.requests r).called = false)
      (hcb : s.ni_notify_cb = false) :
      Move g s (.request r) (s.setRequest r { s.requests r with called := true })
  | busy (r p : RequestId) (htask : s.task = .idle) (hnew : (s.requests r).called = false)
      (hcb : s.ni_notify_cb = true) (hraw : s.ni_data.rawRequest = some p) :
      Move g s (.request r)
        ((s.setRequest r { s.requests r with called := true }).free (g.passThrough r))
  | accepted (r : RequestId) (htask : s.task = .idle) (hnew : (s.requests r).called = false)
      (hcb : s.ni_notify_cb = true) (hraw : s.ni_data.rawRequest = none) : Move g s (.request r)
        { s.setRequest r { s.requests r with called := true } with task := .saving r }
  | saved (r : RequestId) (htask : s.task = .saving r) : Move g s .task (s.saveRequest g r)
  | named (r : RequestId) (htask : s.task = .naming r) : Move g s .task (s.fillIn r)
  | timed (r : RequestId) (htask : s.task = .timing r) : Move g s .task (s.setTime g r)
  | created (r : RequestId) (htask : s.task = .creating r) :
      Move g s (.create true) { s.setThread r .starting with task := .notifying r }
  | failed (r : RequestId) (htask : s.task = .creating r) :
      Move g s (.create false) { s with task := .notifying r }
  | notified (r : RequestId) (htask : s.task = .notifying r) :
      Move g s .task { s with task := .idle }
  | noReset (htask : s.task = .idle) : Move g s .reset s
  | resetting (p : RequestId) (htask : s.task = .idle) (hcb : s.ni_notify_cb = true)
      (hraw : s.ni_data.rawRequest = some p) : Move g s .reset { s with task := .freeing }
  | freed (htask : s.task = .freeing) : Move g s .task s.freeRequest
  | cleared (htask : s.task = .clearing) : Move g s .task s.clearRequest
  | woken (htask : s.task = .waking) (hlock : s.tLock = none) : Move g s .task s.wakeThread
  | informed (msg : LocEngInformNiResponse) (rest : List LocEngInformNiResponse)
      (htask : s.task = .idle) (hqueue : s.queue = msg :: rest) :
      Move g s .inform (s.informNiResponse msg rest)
  | began (r : RequestId) (hpc : (s.requests r).thread = .starting) (hlock : s.tLock = none) :
      Move g s (.thread r) (s.setRequest r
        { s.requests r with delay := s.ni_data.respTimeLeft, thread := .waiting })
  /-- The response was there before the thread. -/
  | found (r : RequestId) (hpc : (s.requests r).thread = .starting) (hlock : s.tLock = none)
      (hrecvd : s.ni_data.respRecvd = true) : Move g s (.thread r)
        (s.leaveLoop r { s.requests r with delay := s.ni_data.respTimeLeft })
  | again (r : RequestId) (hpc : (s.requests r).thread = .waiting) :
      Move g s (.wake r false) (s.setRequest r { s.requests r with thread := .waiting })
  | answered (r : RequestId) (hpc : (s.requests r).thread = .waiting) (hlock : s.tLock = none)
      (hrecvd : s.ni_data.respRecvd = true) :
      Move g s (.wake r false) (s.leaveLoop r (s.requests r))
  | expired (r : RequestId) (hpc : (s.requests r).thread = .waiting) (hlock : s.tLock = none) :
      Move g s (.wake r true) ({ s with
          ni_data := { s.ni_data with resp := GPS_NI_RESPONSE_NORESP }
          resp_by := .expired r }.leaveLoop r { s.requests r with timedOut := true })
  | gone (r : RequestId) (hpc : (s.requests r).thread = .testing) :
      Move g s (.thread r) { s.setThread r (.finishing none) with tLock := none }
  | present (r p : RequestId) (hpc : (s.requests r).thread = .testing)
      (hraw : s.ni_data.rawRequest = some p) : Move g s (.thread r) (s.setThread r .building)
  | built (r : RequestId) (hpc : (s.requests r).thread = .building) : Move g s (.thread r)
      (s.setThread r (.clearing (some ⟨s.ni_data.resp, s.ni_data.rawRequest, s.resp_by⟩)))
  | ignored (r : RequestId) (hpc : (s.requests r).thread = .building) :
      Move g s (.thread r) (s.setThread r (.clearing none))
  | unlocked (r : RequestId) (msg : Option LocEngInformNiResponse)
      (hpc : (s.requests r).thread = .clearing msg) :
      Move g s (.thread r) (s.clearAndUnlock r msg)
  | timeCleared (r : RequestId) (msg : Option LocEngInformNiResponse)
      (hpc : (s.requests r).thread = .finishing msg) : Move g s (.thread r) (s.clearTime r msg)
  | counted (r : RequestId) (msg : Option LocEngInformNiResponse)
      (hpc : (s.requests r).thread = .counting msg) : Move g s (.thread r) (s.count r msg)
  | queued (r : RequestId) (msg : Option LocEngInformNiResponse)
      (hpc : (s.requests r).thread = .sending msg) : Move g s (.thread r) (s.sendMsg r msg)
  | dropped (q : RespondId) (hpc : s.responds q = .idle ∨ s.responds q = .matched) :
      Move g s (.respond q) (s.setRespond q .dropped)
  | matched (q : RespondId) (hpc : s.responds q = .idle) (hcb : s.ni_notify_cb = true)
      (hid : (g.response q).notif_id = s.ni_data.reqID) :
      Move g s (.respond q) (s.setRespond q .matched)
  | outstanding (q : RespondId) (p : RequestId) (hpc : s.responds q = .matched)
      (hraw : s.ni_data.rawRequest = some p) : Move g s (.respond q) (s.setRespond q (.storing p))
  | stored (q : RespondId) (p : RequestId) (hpc : s.responds q = .storing p)
      (hlock : s.tLock = none) : Move g s (.respond q) (s.storeResponse g q p)

theorem testLoop_cases (r : RequestId) (k : Request) :
    (s.ni_data.respRecvd = true ∧ s.testLoop r k = s.leaveLoop r k) ∨
      s.testLoop r k = s.setRequest r { k with thread := .waiting } := by
  rw [State.testLoop]
  split
  · rename_i h
    exact Or.inl ⟨h, rfl⟩
  · exact Or.inr rfl

theorem task_move {l : Label} (hl : l = .task ∨ ∃ created, l = .create created)
    (h : step g s l = some t) : Move g s l t := by
  -- The task has one step for each place it may be at, and the thread it creates one more.
  rcases hl with rfl | ⟨created, rfl⟩
  · simp only [step] at h
    split at h
    · rename_i r htask
      cases h
      exact .saved r htask
    · rename_i r htask
      cases h
      exact .named r htask
    · rename_i r htask
      cases h
      exact .timed r htask
    · rename_i r htask
      cases h
      exact .notified r htask
    · rename_i htask
      cases h
      exact .freed htask
    · rename_i htask
      cases h
      exact .cleared htask
    · rename_i htask
      split at h
      · rename_i hlock
        cases h
        exact .woken htask hlock
      · cases h
    · cases h
    · cases h
  · simp only [step] at h
    split at h
    · rename_i r htask
      cases h
      cases created with
      | true => exact .created r htask
      | false => exact .failed r htask
    · cases h

theorem thread_move {r : RequestId} (h : step g s (.thread r) = some t) :
    Move g s (.thread r) t := by
  simp only [step] at h
  split at h
  · rename_i hpc
    split at h
    · rename_i hlock
      cases h
      -- The test of the loop comes with the lock, as nothing can be between them.
      rcases testLoop_cases (s := s) r { s.requests r with delay := s.ni_data.respTimeLeft } with
        ⟨hrecvd, heq⟩ | heq
      · rw [State.startThread, heq]
        exact .found r hpc hlock hrecvd
      · rw [State.startThread, heq]
        exact .began r hpc hlock
    · cases h
  · rename_i hpc
    cases h
    -- `rawRequest` may be gone by now.
    rw [State.testRequest]
    split
    · rename_i hraw
      rcases Option.isSome_iff_exists.mp hraw with ⟨p, hp⟩
      exact .present r p hpc hp
    · exact .gone r hpc
  · rename_i hpc
    cases h
    rw [State.buildMessage]
    split
    · exact .built r hpc
    · exact .ignored r hpc
  · rename_i msg hpc
    cases h
    exact .unlocked r msg hpc
  · rename_i msg hpc
    cases h
    exact .timeCleared r msg hpc
  · rename_i msg hpc
    cases h
    exact .counted r msg hpc
  · rename_i msg hpc
    cases h
    exact .queued r msg hpc
  · cases h
  · cases h
  · cases h

theorem wake_move {r : RequestId} {timedOut : Bool} (h : step g s (.wake r timedOut) = some t) :
    Move g s (.wake r timedOut) t := by
  simp only [step] at h
  split at h
  · rename_i hpc
    split at h
    · rename_i hlock
      cases h
      cases timedOut with
      | true => exact .expired r hpc hlock
      | false =>
          rcases testLoop_cases (s := s) r (s.requests r) with ⟨hrecvd, heq⟩ | heq
          · rw [State.wakeUp, heq]
            exact .answered r hpc hlock hrecvd
          · rw [State.wakeUp, heq]
            exact .again r hpc
    · cases h
  · cases h

theorem respond_move {q : RespondId} (h : step g s (.respond q) = some t) :
    Move g s (.respond q) t := by
  simp only [step] at h
  split at h
  · rename_i hpc
    cases h
    rw [State.respond]
    split
    · rename_i hid
      exact .matched q hpc hid.1 hid.2
    · exact .dropped q (Or.inl hpc)
  · rename_i hpc
    cases h
    rw [State.testOutstanding]
    split
    · rename_i p hraw
      exact .outstanding q p hpc hraw
    · exact .dropped q (Or.inr hpc)
  · rename_i p hpc
    split at h
    · rename_i hlock
      cases h
      exact .stored q p hpc hlock
    · cases h
  · cases h
  · cases h

/-- Every step is a move. -/
theorem step_move {l : Label} (h : step g s l = some t) : Move g s l t := by
  cases l with
  | init =>
      cases h
      rw [State.loc_eng_ni_init]
      split
      · rename_i hcb
        exact .initedBefore hcb
      · rename_i hcb
        exact .inited (Bool.not_eq_true _ ▸ hcb)
  | request r =>
      simp only [step] at h
      split at h
      · rename_i hidle
        cases h
        rw [State.requestHandler]
        -- Not initialised, busy or accepted, in the order the handler tests them.
        cases hcb : s.ni_notify_cb with
        | false => exact .notInited r hidle.1 hidle.2 hcb
        | true =>
            cases hraw : s.ni_data.rawRequest with
            | none => exact .accepted r hidle.1 hidle.2 hcb hraw
            | some p => exact .busy r p hidle.1 hidle.2 hcb hraw
      · cases h
  | reset =>
      simp only [step] at h
      split at h
      · rename_i hidle
        cases h
        rw [State.resetOnEngineRestart]
        split
        · exact .noReset hidle
        · rename_i hcb
          rw [Bool.not_eq_true', Bool.not_eq_false] at hcb
          split
          · rename_i hraw
            rcases Option.isSome_iff_exists.mp hraw with ⟨p, hp⟩
            exact .resetting p hidle hcb hp
          · exact .noReset hidle
      · cases h
  | inform =>
      simp only [step] at h
      split at h
      · rename_i msg rest hidle hqueue
        cases h
        exact .informed msg rest hidle hqueue
      · cases h
  | task => exact task_move (Or.inl rfl) h
  | create created => exact task_move (Or.inr ⟨created, rfl⟩) h
  | thread r => exact thread_move h
  | wake r timedOut => exact wake_move h
  | respond q => exact respond_move h

/-- The way of a thread from its wait loop to its end. -/
inductive Next (s : State) : ThreadPc → ThreadPc → Prop
  | gone : Next s .testing (.finishing none)
  | present : Next s .testing .building
  | built : Next s .building
      (.clearing (some ⟨s.ni_data.resp, s.ni_data.rawRequest, s.resp_by⟩))
  | ignored : Next s .building (.clearing none)
  | unlocked (msg : Option LocEngInformNiResponse) : Next s (.clearing msg) (.finishing msg)
  | timeCleared (msg : Option LocEngInformNiResponse) : Next s (.finishing msg) (.counting msg)
  | counted (msg : Option LocEngInformNiResponse) : Next s (.counting msg) (.sending msg)
  | queued (msg : Option LocEngInformNiResponse) : Next s (.sending msg) .exited

/-- What a move makes of request `r`. -/
inductive RequestMove (s t : State) (r : RequestId) : Request → Prop
  | same : RequestMove s t r (s.requests r)
  | called (htask : s.task = .idle) (hnew : (s.requests r).called = false) :
      RequestMove s t r { s.requests r with called := true }
  | named (htask : s.task = .naming r) (hgo : t.task = .timing r) :
      RequestMove s t r { s.requests r with notification_id := some s.ni_data.reqID }
  | created (htask : s.task = .creating r) (hgo : t.task = .notifying r) :
      RequestMove s t r { s.requests r with thread := .starting }
  | started (pc : ThreadPc) (hpc : (s.requests r).thread = .starting)
      (hnext : pc = .waiting ∨ pc = .testing) :
      RequestMove s t r { s.requests r with delay := s.ni_data.respTimeLeft, thread := pc }
  | woke (pc : ThreadPc) (hpc : (s.requests r).thread = .waiting)
      (hnext : pc = .waiting ∨ pc = .testing) : RequestMove s t r { s.requests r with thread := pc }
  | expired (hpc : (s.requests r).thread = .waiting) :
      RequestMove s t r { s.requests r with timedOut := true, thread := .testing }
  | went (pc : ThreadPc) (hnext : Next s (s.requests r).thread pc) :
      RequestMove s t r { s.requests r with thread := pc }

/-- Without a thread, a request is changed by the message task only. -/
theorem RequestMove.of_absent {r : RequestId} {k : Request} (h : RequestMove s t r k)
    (habsent : (s.requests r).thread = .absent) :
    k = s.requests r ∨ k = { s.requests r with called := true } ∨
      (s.task = .naming r ∧
        k = { s.requests r with notification_id := some s.ni_data.reqID }) ∨
      (s.task = .creating r ∧ t.task = .notifying r) := by
  cases h with
  | same => exact Or.inl rfl
  | called htask hnew => exact Or.inr (Or.inl rfl)
  | named htask hgo => exact Or.inr (Or.inr (Or.inl ⟨htask, rfl⟩))
  | created htask hgo => exact Or.inr (Or.inr (Or.inr ⟨htask, hgo⟩))
  | started pc hpc hnext =>
      rw [habsent] at hpc
      cases hpc
  | woke pc hpc hnext =>
      rw [habsent] at hpc
      cases hpc
  | expired hpc =>
      rw [habsent] at hpc
      cases hpc
  | went pc hnext =>
      rw [habsent] at hnext
      cases hnext

/-- One request is changed, and the others are the same. -/
theorem requestMove_of_update {r' : RequestId} {k : Request}
    (hreq : t.requests = Function.update s.requests r' k) (hk : RequestMove s t r' k)
    (r : RequestId) : RequestMove s t r (t.requests r) := by
  rw [hreq]
  by_cases hr : r = r'
  · rw [hr, Function.update_self]
    exact hk
  · rw [Function.update_of_ne hr]
    exact .same

theorem requestMove_of_move {l : Label} (hm : Move g s l t) (r : RequestId) :
    RequestMove s t r (t.requests r) := by
  have hnext : ∀ {r' pc pc'}, (s.requests r').thread = pc → Next s pc pc' →
      RequestMove s t r' { s.requests r' with thread := pc' } :=
    fun hpc hnext => .went _ (hpc ▸ hnext)
  cases hm with
  | notInited r' htask hnew hcb => exact requestMove_of_update rfl (.called htask hnew) r
  | busy r' p htask hnew hcb hraw => exact requestMove_of_update rfl (.called htask hnew) r
  | accepted r' htask hnew hcb hraw => exact requestMove_of_update rfl (.called htask hnew) r
  | named r' htask => exact requestMove_of_update rfl (.named htask rfl) r
  | created r' htask => exact requestMove_of_update rfl (.created htask rfl) r
  | began r' hpc hlock => exact requestMove_of_update rfl (.started _ hpc (Or.inl rfl)) r
  | found r' hpc hlock hrecvd => exact requestMove_of_update rfl (.started _ hpc (Or.inr rfl)) r
  | again r' hpc => exact requestMove_of_update rfl (.woke _ hpc (Or.inl rfl)) r
  | answered r' hpc hlock hrecvd => exact requestMove_of_update rfl (.woke _ hpc (Or.inr rfl)) r
  | expired r' hpc hlock => exact requestMove_of_update rfl (.expired hpc) r
  | gone r' hpc => exact requestMove_of_update rfl (hnext hpc .gone) r
  | present r' p hpc hraw => exact requestMove_of_update rfl (hnext hpc .present) r
  | built r' hpc => exact requestMove_of_update rfl (hnext hpc .built) r
  | ignored r' hpc => exact requestMove_of_update rfl (hnext hpc .ignored) r
  | unlocked r' msg hpc => exact requestMove_of_update rfl (hnext hpc (.unlocked _)) r
  | timeCleared r' msg hpc => exact requestMove_of_update rfl (hnext hpc (.timeCleared _)) r
  | counted r' msg hpc => exact requestMove_of_update rfl (hnext hpc (.counted _)) r
  | queued r' msg hpc => exact requestMove_of_update rfl (hnext hpc (.queued _)) r
  | _ => exact .same

/-- What a move makes of response `q`. -/
inductive RespondMove (g : Setup) (s : State) (q : RespondId) : RespondPc → Prop
  | same : RespondMove g s q (s.responds q)
  | dropped (hpc : s.responds q = .idle ∨ s.responds q = .matched) : RespondMove g s q .dropped
  | matched (hpc : s.responds q = .idle) (hcb : s.ni_notify_cb = true)
      (hid : (g.response q).notif_id = s.ni_data.reqID) : RespondMove g s q .matched
  | outstanding (p : RequestId) (hpc : s.responds q = .matched)
      (hraw : s.ni_data.rawRequest = some p) : RespondMove g s q (.storing p)
  | stored (p : RequestId) (hpc : s.responds q = .storing p) : RespondMove g s q (.stored p)

/-- One response is changed, and the others are the same. -/
theorem respondMove_of_update {q' : RespondId} {pc : RespondPc}
    (hresp : t.responds = Function.update s.responds q' pc) (hpc : RespondMove g s q' pc)
    (q : RespondId) : RespondMove g s q (t.responds q) := by
  rw [hresp]
  by_cases hq : q = q'
  · rw [hq, Function.update_self]
    exact hpc
  · rw [Function.update_of_ne hq]
    exact .same

theorem respondMove_of_move {l : Label} (hm : Move g s l t) (q : RespondId) :
    RespondMove g s q (t.responds q) := by
  cases hm with
  | dropped q' hpc => exact respondMove_of_update rfl (.dropped hpc) q
  | matched q' hpc hcb hid => exact respondMove_of_update rfl (.matched hpc hcb hid) q
  | outstanding q' p hpc hraw => exact respondMove_of_update rfl (.outstanding p hpc hraw) q
  | stored q' p hpc hlock => exact respondMove_of_update rfl (.stored p hpc) q
  | _ => exact .same

/-- The request the handler is busy with, until its thread is created. -/
def Task.handling : Task → Option RequestId
  | .saving r | .naming r | .timing r | .creating r => some r
  | .idle | .notifying _ | .freeing | .clearing | .waking => none

/-- The thread is created and has not counted its request yet. -/
def ThreadPc.busy : ThreadPc → Bool
  | .starting | .waiting | .testing | .building | .clearing _ | .finishing _ | .counting _ => true
  | .absent | .sending _ | .exited => false

/-- The thread holds `tLock`. -/
def ThreadPc.locked : ThreadPc → Bool
  | .testing | .building | .clearing _ => true
  | .absent | .starting | .waiting | .finishing _ | .counting _ | .sending _ | .exited => false

/-- The message the thread has built. -/
def ThreadPc.msg : ThreadPc → Option LocEngInformNiResponse
  | .clearing msg | .finishing msg | .counting msg | .sending msg => msg
  | .absent | .starting | .waiting | .testing | .building | .exited => none

/-- The request has to do with the shared data. -/
def Active (s : State) (r : RequestId) : Prop :=
  s.task.handling = some r ∨ (s.requests r).thread.busy = true

/-- The handler found no request in session, and takes `r`. -/
structure Accepts (s : State) (l : Label) (r : RequestId) : Prop where
  request : l = .request r
  idle : s.task = .idle
  inited : s.ni_notify_cb = true
  free : s.ni_data.rawRequest = none

/-- The handler goes on with the request it has, or takes a new one. -/
theorem handling_of_move {l : Label} (hm : Move g s l t) {r : RequestId}
    (h : t.task.handling = some r) : s.task.handling = some r ∨ Accepts s l r := by
  cases hm with
  | accepted r' htask hnew hcb hraw =>
      cases h
      exact Or.inr ⟨rfl, htask, hcb, hraw⟩
  | saved r' htask => exact Or.inl (htask ▸ h)
  | named r' htask => exact Or.inl (htask ▸ h)
  | timed r' htask => exact Or.inl (htask ▸ h)
  | created r' htask => cases h
  | failed r' htask => cases h
  | notified r' htask => cases h
  | resetting p htask hcb hraw => cases h
  | freed htask => cases h
  | cleared htask => cases h
  | woken htask hlock => cases h
  | _ => exact Or.inl h

/-- A thread that goes on from its wait loop was busy. -/
theorem Next.busy {pc pc' : ThreadPc} (h : Next s pc pc') (hbusy : pc'.busy = true) :
    pc.busy = true := by
  cases h with
  | queued msg => cases hbusy
  | _ => rfl

/-- A message is built of what is shared at that time, and kept. -/
theorem msg_of_move {l : Label} (hm : Move g s l t) {r : RequestId}
    {msg : LocEngInformNiResponse} (h : (t.requests r).thread.msg = some msg) :
    (s.requests r).thread.msg = some msg ∨ ((s.requests r).thread = .building ∧
      msg = ⟨s.ni_data.resp, s.ni_data.rawRequest, s.resp_by⟩) := by
  have hr := requestMove_of_move hm r
  generalize t.requests r = k at hr h
  cases hr with
  | created htask hgo => cases h
  | started pc hpc hnext => rcases hnext with rfl | rfl <;> cases h
  | woke pc hpc hnext => rcases hnext with rfl | rfl <;> cases h
  | expired hpc => cases h
  | went pc hnext =>
      -- It is built in one step of the thread, and only passed on in the others.
      generalize (s.requests r).thread = pc' at hnext
      cases hnext with
      | built =>
          cases h
          exact Or.inr ⟨rfl, rfl⟩
      | unlocked msg => exact Or.inl h
      | timeCleared msg => exact Or.inl h
      | counted msg => exact Or.inl h
      | _ => cases h
  | _ => exact Or.inl h

/-- A request becomes active by being accepted. -/
theorem active_of_move {l : Label} (hm : Move g s l t) {r : RequestId} (h : Active t r) :
    Active s r ∨ Accepts s l r := by
  rcases h with htask | hbusy
  · rcases handling_of_move hm htask with hold | hnew
    · exact Or.inl (Or.inl hold)
    · exact Or.inr hnew
  · have hr := requestMove_of_move hm r
    generalize t.requests r = k at hr hbusy
    refine Or.inl ?_
    cases hr with
    | created htask hgo => exact Or.inl (htask ▸ rfl)
    | started pc hpc hnext => exact Or.inr (hpc ▸ rfl)
    | woke pc hpc hnext => exact Or.inr (hpc ▸ rfl)
    | expired hpc => exact Or.inr (hpc ▸ rfl)
    | went pc hnext => exact Or.inr (hnext.busy hbusy)
    | _ => exact Or.inr hbusy

/-- What every request and the message task keep to. It holds in every run: a
    request that was not brought yet is as it was at first, the thread of one
    that is being handled has not been created, and before `loc_eng_ni_init`
    there are no threads and no responses on their way. -/
structure Tidy (s : State) : Prop where
  uncalled : ∀ r, (s.requests r).called = false → s.requests r = Request.init
  handling : ∀ r, s.task.handling = some r →
    (s.requests r).called = true ∧ (s.requests r).thread = .absent
  unnamed : ∀ r, s.task = .saving r ∨ s.task = .naming r → (s.requests r).notification_id = none
  waking : s.task = .waking → s.ni_data.rawRequest = none
  uninited : s.ni_notify_cb = false → s.task = .idle ∧ (∀ r, (s.requests r).thread = .absent) ∧
    ∀ q, s.responds q = .idle ∨ s.responds q = .dropped

theorem zeroed_tidy : Tidy State.zeroed :=
  ⟨fun _ _ => rfl, (fun r h => by cases h), (fun r h => by rcases h with h | h <;> cases h),
    (fun h => by cases h), fun _ => ⟨rfl, fun _ => rfl, fun _ => Or.inl rfl⟩⟩

/-- What the handler takes is a new request, and nothing else changes yet. -/
theorem of_accepts (hs : Tidy s) {l : Label} (hm : Move g s l t) {r : RequestId}
    (h : Accepts s l r) : t.task = .saving r ∧ t.ni_data = s.ni_data ∧ t.responds = s.responds ∧
      t.requests r = { Request.init with called := true } := by
  rcases h with ⟨rfl, _, hcb, hraw⟩
  cases hm with
  | notInited _ _ hnew hno =>
      rw [hcb] at hno
      cases hno
  | busy _ p _ hnew _ hsome =>
      rw [hraw] at hsome
      cases hsome
  | accepted _ _ hnew _ _ =>
      refine ⟨rfl, rfl, rfl, ?_⟩
      rw [State.setRequest_requests, Function.update_self, hs.uncalled r hnew]

section

variable (hs : Tidy s) {l : Label} (hm : Move g s l t)

include hs hm

theorem uncalled_of_move (r : RequestId) (h : (t.requests r).called = false) :
    t.requests r = Request.init := by
  have hr := requestMove_of_move hm r
  have hcalled : (s.requests r).called = false := by
    cases hk : (s.requests r).called with
    | false => rfl
    | true =>
        -- Nothing takes that back.
        generalize t.requests r = k at hr h
        cases hr <;> simp [hk] at h
  have habsent : (s.requests r).thread = .absent := by
    rw [hs.uncalled r hcalled]
    rfl
  rcases hr.of_absent habsent with heq | heq | ⟨htask, _⟩ | ⟨htask, _⟩
  · rw [heq]
    exact hs.uncalled r hcalled
  · rw [heq] at h
    cases h
  · rw [(hs.handling r (htask ▸ rfl)).1] at hcalled
    cases hcalled
  · rw [(hs.handling r (htask ▸ rfl)).1] at hcalled
    cases hcalled

theorem handling_tidy (r : RequestId) (h : t.task.handling = some r) :
    (t.requests r).called = true ∧ (t.requests r).thread = .absent := by
  rcases handling_of_move hm h with hold | hnew
  · rcases hs.handling r hold with ⟨hcalled, habsent⟩
    rcases (requestMove_of_move hm r).of_absent habsent with heq | heq | ⟨_, heq⟩ | ⟨_, hgo⟩
    · rw [heq]
      exact ⟨hcalled, habsent⟩
    · rw [heq]
      exact ⟨rfl, habsent⟩
    · rw [heq]
      exact ⟨hcalled, habsent⟩
    · rw [hgo] at h
      cases h
  · rw [(of_accepts hs hm hnew).2.2.2]
    exact ⟨rfl, rfl⟩

theorem unnamed_of_move (r : RequestId) (h : t.task = .saving r ∨ t.task = .naming r) :
    (t.requests r).notification_id = none := by
  have hbefore : (s.task = .saving r ∨ s.task = .naming r) ∨ Accepts s l r := by
    -- The task is at one of the two places by this step only if it saved or accepted.
    cases hm with
    | accepted r' htask hnew hcb hraw =>
        rcases h with h | h <;> cases h
        exact Or.inr ⟨rfl, htask, hcb, hraw⟩
    | saved r' htask =>
        rcases h with h | h <;> cases h
        exact Or.inl (Or.inl htask)
    | named r' htask => rcases h with h | h <;> cases h
    | timed r' htask => rcases h with h | h <;> cases h
    | created r' htask => rcases h with h | h <;> cases h
    | failed r' htask => rcases h with h | h <;> cases h
    | notified r' htask => rcases h with h | h <;> cases h
    | resetting p htask hcb hraw => rcases h with h | h <;> cases h
    | freed htask => rcases h with h | h <;> cases h
    | cleared htask => rcases h with h | h <;> cases h
    | woken htask hlock => rcases h with h | h <;> cases h
    | _ => exact Or.inl h
  rcases hbefore with hold | hnew
  · have hr := requestMove_of_move hm r
    generalize t.requests r = k at hr
    cases hr with
    | named htask hgo => rcases h with h | h <;> rw [hgo] at h <;> cases h
    | _ => exact hs.unnamed r hold
  · rw [(of_accepts hs hm hnew).2.2.2]
    rfl

theorem uninited_of_move (h : t.ni_notify_cb = false) : t.task = .idle ∧
    (∀ r, (t.requests r).thread = .absent) ∧ ∀ q, t.responds q = .idle ∨ t.responds q = .dropped := by
  have hcb : s.ni_notify_cb = false := by
    cases hm with
    | inited hcb => exact hcb
    | _ => exact h
  rcases hs.uninited hcb with ⟨hidle, habsent, hresp⟩
  refine ⟨?_, fun r => ?_, fun q => ?_⟩
  · cases hm <;> simp_all
  · rcases (requestMove_of_move hm r).of_absent (habsent r) with heq | heq | ⟨_, heq⟩ | ⟨htask, _⟩
    · rw [heq]
      exact habsent r
    · rw [heq]
      exact habsent r
    · rw [heq]
      exact habsent r
    · rw [hidle] at htask
      cases htask
  · have hq := respondMove_of_move hm q
    generalize t.responds q = pc at hq
    cases hq with
    | same => exact hresp q
    | dropped hpc => exact Or.inr rfl
    -- Before `loc_eng_ni_init` every call of `loc_eng_ni_respond` is dropped.
    | matched hpc hyes hid =>
        rw [hcb] at hyes
        cases hyes
    | outstanding p hpc hraw => rcases hresp q with hno | hno <;> rw [hpc] at hno <;> cases hno
    | stored p hpc => rcases hresp q with hno | hno <;> rw [hpc] at hno <;> cases hno

end

theorem move_tidy (hs : Tidy s) {l : Label} (hm : Move g s l t) : Tidy t := by
  refine ⟨uncalled_of_move hs hm, handling_tidy hs hm, unnamed_of_move hs hm, fun h => ?_,
    uninited_of_move hs hm⟩
  -- The reset clears `rawRequest` before it wakes the thread, and the handler
  -- could set it again only when the reset is done.
  cases hm with
  | inited hcb => rfl
  | cleared htask => rfl
  | unlocked r msg hpc => rfl
  | saved r htask => cases h
  | accepted r htask hnew hcb hraw => cases h
  | named r htask => cases h
  | timed r htask => cases h
  | created r htask => cases h
  | failed r htask => cases h
  | notified r htask => cases h
  | resetting p htask hcb hraw => cases h
  | freed htask => cases h
  | woken htask hlock => cases h
  | _ => exact hs.waking h

/-- Only the handler puts a request into session. -/
theorem raw_of_move {l : Label} (hm : Move g s l t) {r : RequestId}
    (h : t.ni_data.rawRequest = some r) :
    s.ni_data.rawRequest = some r ∨ (s.task = .saving r ∧ t.task = .naming r) := by
  cases hm with
  | inited hcb => cases h
  | saved r' htask =>
      have hpass : g.passThrough r' = some r := h
      unfold Setup.passThrough at hpass
      split at hpass
      · cases hpass
        exact Or.inr ⟨htask, rfl⟩
      · cases hpass
  | cleared htask => cases h
  | unlocked r' msg hpc => cases h
  | _ => exact Or.inl h

/-- Nor is one in session before `loc_eng_ni_init`. -/
theorem raw_uninited (hs : Tidy s) {l : Label} (hm : Move g s l t)
    (hnone : s.ni_notify_cb = false → s.ni_data.rawRequest = none) (h : t.ni_notify_cb = false) :
    t.ni_data.rawRequest = none := by
  have hcb : s.ni_notify_cb = false := by
    cases hm with
    | inited hcb => exact hcb
    | _ => exact h
  cases hraw : t.ni_data.rawRequest with
  | none => rfl
  | some r =>
      rcases raw_of_move hm hraw with hold | ⟨htask, _⟩
      · rw [hnone hcb] at hold
        cases hold
      · rw [(hs.uninited hcb).1] at htask
        cases htask

end Ni

end Victara
