import Mathlib.Logic.Function.Basic
import Mathlib.Tactic.Simps.Basic
import Victara.Lib.StepSystem

/-!
# Network Initiated Requests

`loc_eng_ni.cpp`: the modem asks whether it may report a position, the user is
notified, and the answer goes back with the payload of the request.

Three kinds of threads share the data. The message task runs
`loc_eng_ni_request_handler`, `loc_eng_ni_reset_on_engine_restart` and the
messages that answer, one after another. Each request it accepts has an
`ni_thread_proc` of its own. And the framework calls `loc_eng_ni_respond` from
any number of threads.

A step is one access to what is shared without a lock: `rawRequest`, `reqID`
and `respTimeLeft` are. What is only touched under `tLock` is taken together
with the access beside it, and a thread that does more than one step under
the lock holds it in between. A condition wait ends with or without a signal,
in time or not, so a signal has no effect of its own.

One step is more than one access: `reqID++` at the end of `ni_thread_proc` reads
and writes, and `count` does both. Two threads that get there at once could lose
one of the two, so that a later request has the number of an earlier one. Such a
run is not among those of `step`.

Nothing in the program knows where a response came from. `resp_by` does, and a
message takes it along.

## Main definitions

* `RequestId`: A call of `loc_eng_ni_request_handler`.
* `RespondId`: A call of `loc_eng_ni_respond`.
* `Notif`: What the handler reads of a request; `passThrough` says whether it
  brings a payload.
* `Response`: The arguments of `loc_eng_ni_respond`.
* `Setup`: The calls of a run.
* `Setup.passThrough`: The pointer that request `r` brings.
* `Setup.respTime`: How long the thread of a request is to wait.
* `Origin`: Where a response came from: `loc_eng_ni_init` sets none, a call of
  `loc_eng_ni_respond` does, and a thread whose time is up.
* `Task`, `ThreadPc`, `RespondPc`: Where the threads are.
* `Request`: A request: its notification and its thread.
* `NiData`, `State`: The data.
* `Label`: The steps.
* `State.zeroed`: What `loc_eng_init` leaves: everything is zero.
* `free`: `free`, which ignores NULL.
* `loc_eng_ni_init`: `loc_eng_ni_init`, which has an effect once.
* `requestHandler`, `saveRequest`, `fillIn`, `setTime`, `createThread`: The
  steps of the handler.
* `resetOnEngineRestart`, `freeRequest`, `clearRequest`, `wakeThread`: Those of
  the reset.
* `informNiResponse`: A message that answers is processed, and its destructor
  frees the payload.
* `leaveLoop`: Thread `r`, now `k`, is out of the wait loop, and resets the flag
  for the next session.
* `testLoop`: The test of the wait loop.
* `startThread`, `wakeUp`, `testRequest`, `buildMessage`, `clearAndUnlock`,
  `clearTime`, `count`, `sendMsg`: Those of `ni_thread_proc`.
* `respond`, `testOutstanding`, `storeResponse`: Those of `loc_eng_ni_respond`.
* `step`: All of them.
-/

namespace Victara

namespace Ni

abbrev GpsUserResponseType := Int32

def GPS_NI_RESPONSE_ACCEPT : GpsUserResponseType := 1

def GPS_NI_RESPONSE_NORESP : GpsUserResponseType := 3

def GPS_NI_RESPONSE_IGNORE : GpsUserResponseType := 4

/-- In seconds. -/
def LOC_NI_NO_RESPONSE_TIME : Int32 := 20

/-- A call of `loc_eng_ni_request_handler`. Its payload is named after it. -/
abbrev RequestId := Nat

/-- A call of `loc_eng_ni_respond`. -/
abbrev RespondId := Nat

/-- What the handler reads of a request; `passThrough` says whether it brings
    a payload. -/
structure Notif where
  timeout : Int32
  passThrough : Bool
  deriving DecidableEq, Repr

/-- The arguments of `loc_eng_ni_respond`. -/
structure Response where
  notif_id : Int32
  user_response : GpsUserResponseType
  deriving DecidableEq, Repr

/-- The calls of a run. -/
structure Setup where
  notif : RequestId → Notif
  response : RespondId → Response

/-- The pointer that request `r` brings. -/
def Setup.passThrough (g : Setup) (r : RequestId) : Option RequestId :=
  if (g.notif r).passThrough then some r else none

/-- How long the thread of a request is to wait. -/
def Setup.respTime (g : Setup) (r : RequestId) : Int32 :=
  5 + if (g.notif r).timeout ≠ 0 then (g.notif r).timeout else LOC_NI_NO_RESPONSE_TIME

/-- Where a response came from: `loc_eng_ni_init` sets none, a call of
    `loc_eng_ni_respond` does, and a thread whose time is up. -/
inductive Origin
  | unset
  | responded (q : RespondId)
  | expired (r : RequestId)
  deriving DecidableEq, Repr

structure LocEngInformNiResponse where
  mResponse : GpsUserResponseType
  mPayload : Option RequestId
  resp_by : Origin
  deriving DecidableEq, Repr

/-- The message task: between two messages, in the handler once it found no
    request in session, and in the reset once it found one. -/
inductive Task
  | idle
  | saving (r : RequestId)
  | naming (r : RequestId)
  | timing (r : RequestId)
  | creating (r : RequestId)
  | notifying (r : RequestId)
  | freeing
  | clearing
  | waking
  deriving DecidableEq, Repr

/-- `ni_thread_proc`, with the message it has built. -/
inductive ThreadPc
  | absent
  | starting
  | waiting
  | testing
  | building
  | clearing (msg : Option LocEngInformNiResponse)
  | finishing (msg : Option LocEngInformNiResponse)
  | counting (msg : Option LocEngInformNiResponse)
  | sending (msg : Option LocEngInformNiResponse)
  | exited
  deriving DecidableEq, Repr

/-- `loc_eng_ni_respond`: it found its id to be the right one, and then the
    request `p`. -/
inductive RespondPc
  | idle
  | matched
  | storing (p : RequestId)
  | stored (p : RequestId)
  | dropped
  deriving DecidableEq, Repr

/-- A request: its notification, once that has its id, and its thread, with
    the time that read and whether it was up. -/
structure Request where
  called : Bool
  notification_id : Option Int32
  thread : ThreadPc
  delay : Int32
  timedOut : Bool
  deriving DecidableEq, Repr

/-- `loc_eng_ni_data_s_type`. -/
structure NiData where
  respTimeLeft : Int32
  respRecvd : Bool
  rawRequest : Option RequestId
  reqID : Int32
  resp : GpsUserResponseType
  deriving DecidableEq, Repr

/-- The shared data, the threads, who holds `tLock` from one step to the next,
    the messages that are queued and those that ever were, and the payloads
    that were freed. -/
structure State where
  ni_notify_cb : Bool
  ni_data : NiData
  resp_by : Origin
  tLock : Option RequestId
  task : Task
  requests : RequestId → Request
  responds : RespondId → RespondPc
  queue : List LocEngInformNiResponse
  sent : List LocEngInformNiResponse
  freed : List RequestId

/-- The steps. `pthread_create` is told whether it creates the thread, a
    wake-up whether the wait timed out. -/
inductive Label
  | init
  | request (r : RequestId)
  | reset
  | inform
  | task
  | create (created : Bool)
  | thread (r : RequestId)
  | wake (r : RequestId) (timedOut : Bool)
  | respond (q : RespondId)
  deriving DecidableEq, Repr

def Request.init : Request :=
  { called := false, notification_id := none, thread := .absent, delay := 0, timedOut := false }

/-- What `loc_eng_init` leaves: everything is zero. -/
def State.zeroed : State where
  ni_notify_cb := false
  ni_data := { respTimeLeft := 0, respRecvd := false, rawRequest := none, reqID := 0, resp := 0 }
  resp_by := .unset
  tLock := none
  task := .idle
  requests := fun _ => Request.init
  responds := fun _ => .idle
  queue := []
  sent := []
  freed := []

namespace State

@[simps]
def setRequest (s : State) (r : RequestId) (k : Request) : State :=
  { s with requests := Function.update s.requests r k }

@[simps]
def setThread (s : State) (r : RequestId) (pc : ThreadPc) : State :=
  { s with requests := Function.update s.requests r { s.requests r with thread := pc } }

@[simps]
def setRespond (s : State) (q : RespondId) (pc : RespondPc) : State :=
  { s with responds := Function.update s.responds q pc }

/-- `free`, which ignores NULL. -/
@[simps]
def free (s : State) (p : Option RequestId) : State := { s with freed := s.freed ++ p.toList }

/-- `loc_eng_ni_init`, which has an effect once. -/
def loc_eng_ni_init (s : State) : State :=
  if s.ni_notify_cb then s
  else { s with
    ni_data := { s.ni_data with respTimeLeft := 0, respRecvd := false, rawRequest := none, reqID := 0 }
    ni_notify_cb := true }

/-- `loc_eng_ni_request_handler` up to the test whether a request is in
    session. When one is, the new payload is freed. -/
def requestHandler (g : Setup) (s : State) (r : RequestId) : State :=
  let s' := s.setRequest r { s.requests r with called := true }
  if !s.ni_notify_cb then s'
  -- busy with another request, which is not told
  else if s.ni_data.rawRequest.isSome then s'.free (g.passThrough r)
  else { s' with task := .saving r }

@[simps]
def saveRequest (g : Setup) (s : State) (r : RequestId) : State :=
  { s with ni_data := { s.ni_data with rawRequest := g.passThrough r }, task := .naming r }

/-- The notification gets its id. -/
@[simps]
def fillIn (s : State) (r : RequestId) : State :=
  { s.setRequest r { s.requests r with notification_id := some s.ni_data.reqID } with task := .timing r }

@[simps]
def setTime (g : Setup) (s : State) (r : RequestId) : State :=
  { s with ni_data := { s.ni_data with respTimeLeft := g.respTime r }, task := .creating r }

/-- `pthread_create`. A failure is logged, and the handler goes on. -/
def createThread (s : State) (r : RequestId) (created : Bool) : State :=
  if created then { s.setThread r .starting with task := .notifying r }
  else { s with task := .notifying r }

/-- `loc_eng_ni_reset_on_engine_restart` up to the test whether a request is
    in session. -/
def resetOnEngineRestart (s : State) : State :=
  if !s.ni_notify_cb then s
  else if s.ni_data.rawRequest.isSome then { s with task := .freeing }
  else s

@[simps]
def freeRequest (s : State) : State := { s.free s.ni_data.rawRequest with task := .clearing }

@[simps]
def clearRequest (s : State) : State :=
  { s with ni_data := { s.ni_data with rawRequest := none }, task := .waking }

/-- The thread is to find that it was answered. -/
@[simps]
def wakeThread (s : State) : State :=
  { s with ni_data := { s.ni_data with respRecvd := true }, task := .idle }

/-- A message that answers is processed, and its destructor frees the
    payload. -/
@[simps]
def informNiResponse (s : State) (msg : LocEngInformNiResponse)
    (rest : List LocEngInformNiResponse) : State :=
  { s with queue := rest, freed := s.freed ++ msg.mPayload.toList }

/-- Thread `r`, now `k`, is out of the wait loop, and resets the flag for the
    next session. -/
@[simps]
def leaveLoop (s : State) (r : RequestId) (k : Request) : State :=
  { s.setRequest r { k with thread := .testing } with
    ni_data := { s.ni_data with respRecvd := false }
    tLock := some r }

/-- The test of the wait loop. -/
def testLoop (s : State) (r : RequestId) (k : Request) : State :=
  if s.ni_data.respRecvd then s.leaveLoop r k else s.setRequest r { k with thread := .waiting }

/-- `ni_thread_proc` up to its first wait. -/
def startThread (s : State) (r : RequestId) : State :=
  s.testLoop r { s.requests r with delay := s.ni_data.respTimeLeft }

/-- `pthread_cond_timedwait` returns. -/
def wakeUp (s : State) (r : RequestId) (timedOut : Bool) : State :=
  if timedOut then
    { s with ni_data := { s.ni_data with resp := GPS_NI_RESPONSE_NORESP }
             resp_by := .expired r }.leaveLoop r { s.requests r with timedOut := true }
  else s.testLoop r (s.requests r)

/-- The test whether the request is still there; without one the thread is
    done with the lock. -/
def testRequest (s : State) (r : RequestId) : State :=
  if s.ni_data.rawRequest.isSome then s.setThread r .building
  -- the engine restarted, and there is nothing to answer
  else { s.setThread r (.finishing none) with tLock := none }

def buildMessage (s : State) (r : RequestId) : State :=
  -- the payload goes with the message, unless the user ignores the request
  if s.ni_data.resp ≠ GPS_NI_RESPONSE_IGNORE then
    s.setThread r (.clearing (some ⟨s.ni_data.resp, s.ni_data.rawRequest, s.resp_by⟩))
  else s.setThread r (.clearing none)

@[simps]
def clearAndUnlock (s : State) (r : RequestId) (msg : Option LocEngInformNiResponse) : State :=
  { s.setThread r (.finishing msg) with
    ni_data := { s.ni_data with rawRequest := none }
    tLock := none }

@[simps]
def clearTime (s : State) (r : RequestId) (msg : Option LocEngInformNiResponse) : State :=
  { s.setThread r (.counting msg) with ni_data := { s.ni_data with respTimeLeft := 0 } }

/-- `reqID++`, as one step. -/
@[simps]
def count (s : State) (r : RequestId) (msg : Option LocEngInformNiResponse) : State :=
  { s.setThread r (.sending msg) with ni_data := { s.ni_data with reqID := s.ni_data.reqID + 1 } }

@[simps]
def sendMsg (s : State) (r : RequestId) (msg : Option LocEngInformNiResponse) : State :=
  { s.setThread r .exited with queue := s.queue ++ msg.toList, sent := s.sent ++ msg.toList }

/-- `loc_eng_ni_respond` up to the test of the id. -/
def respond (g : Setup) (s : State) (q : RespondId) : State :=
  if s.ni_notify_cb ∧ (g.response q).notif_id = s.ni_data.reqID then s.setRespond q .matched
  else s.setRespond q .dropped

/-- The test whether a request is outstanding. -/
def testOutstanding (s : State) (q : RespondId) : State :=
  match s.ni_data.rawRequest with
  | some p => s.setRespond q (.storing p)
  | none => s.setRespond q .dropped

@[simps]
def storeResponse (g : Setup) (s : State) (q : RespondId) (p : RequestId) : State :=
  { s.setRespond q (.stored p) with
    ni_data := { s.ni_data with resp := (g.response q).user_response, respRecvd := true }
    resp_by := .responded q }

end State

/-- The steps. Whoever takes `tLock` waits for who holds it. -/
def step (g : Setup) (s : State) : Label → Option State
  | .init => some s.loc_eng_ni_init
  | .request r =>
    if s.task = .idle ∧ (s.requests r).called = false then some (s.requestHandler g r) else none
  | .reset => if s.task = .idle then some s.resetOnEngineRestart else none
  | .inform =>
    match s.task, s.queue with
    | .idle, msg :: rest => some (s.informNiResponse msg rest)
    | _, _ => none
  | .task =>
    match s.task with
    | .saving r => some (s.saveRequest g r)
    | .naming r => some (s.fillIn r)
    | .timing r => some (s.setTime g r)
    | .notifying _ => some { s with task := .idle }
    | .freeing => some s.freeRequest
    | .clearing => some s.clearRequest
    -- `respRecvd` is set under the lock
    | .waking => if s.tLock = none then some s.wakeThread else none
    | .idle | .creating _ => none
  | .create created =>
    match s.task with
    | .creating r => some (s.createThread r created)
    | _ => none
  | .thread r =>
    match (s.requests r).thread with
    | .starting => if s.tLock = none then some (s.startThread r) else none
    | .testing => some (s.testRequest r)
    | .building => some (s.buildMessage r)
    | .clearing msg => some (s.clearAndUnlock r msg)
    | .finishing msg => some (s.clearTime r msg)
    | .counting msg => some (s.count r msg)
    | .sending msg => some (s.sendMsg r msg)
    | .absent | .waiting | .exited => none
  | .wake r timedOut =>
    match (s.requests r).thread with
    | .waiting => if s.tLock = none then some (s.wakeUp r timedOut) else none
    | _ => none
  | .respond q =>
    match s.responds q with
    | .idle => some (s.respond g q)
    | .matched => some (s.testOutstanding q)
    | .storing p => if s.tLock = none then some (s.storeResponse g q p) else none
    | .stored _ | .dropped => none

end Ni

end Victara
