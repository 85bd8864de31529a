import Victara.Utils.LinkedList
import Victara.Agps.Subscriber

/-!
# The AGPS State Machines

`AgpsStateMachine` and `DSStateMachine` of `loc_eng_agps.cpp`: the list of
subscribers, the four states with their event handlers, and the requests to
whoever provides the data connection.

Both classes are one structure, told apart by `isDS`, and the two virtual
methods `sendRsrcRequest` and `onRsrcEvent` branch on it. Everything a call
sends out is collected in `out`, oldest first, and `step` empties it before
each call, so `out` is what the last call sent. A listed subscriber carries
the address of its object: `nextAddr` counts the objects made by `clone`, and
no address is used twice. Neither `out` nor an address is ever read by the
code.

A `Call` is what the messages of the framework, the modem and the daemon lead
to. `dropAllSubscribers` is not one of them: only `loc_eng_handle_engine_up`
calls it, for two of the three machines, and it empties the list behind the
back of the state. What holds of every run of `step` is about the time between
two restarts of the modem. `Restart.lean` has what a restart leaves of the
invariant, and `ReleaseATL.lean` and `Answers.lean` have it as a step beside the
calls.

## Main definitions

* `LocApiIfStatus`: The statuses of `loc_eng_dmn_conn_loc_api_server_data_conn`.
* `AGpsExtStatus`: What the servicer callback is given.
* `Output`: What a machine sends to the framework, the daemon and the modem.
* `Node`: A list element: a subscriber object and its address.
* `AgpsStateMachine`: The machine with its subscriber list.
* `Env`: How the outside answers during a call: the value of
  `openAndStartDataCall`, and whether `loc_timer_start` returns a handle.
* `new`: The constructor of `AgpsStateMachine`.
* `newDS`: The constructor of `DSStateMachine`.
* `search`: `linked_list_search` with `hasSubscriber`: the first listed
  subscriber the notification is for.
* `firstActive`: The first active subscriber, as `sendRsrcRequest` and others
  look it up.
* `informStatus`: `DSStateMachine::informStatus`.
* `atlType`: The type an ATL client is told, which depends on the mode it asked
  in.
* `bitOnStatus`: The `switch` in `BITSubscriber::notifyRsrcStatus`.
* `atlOnStatus`: The `switch` in `ATLSubscriber::notifyRsrcStatus`.
* `wifiOnStatus`: The `switch` in `WIFISubscriber::notifyRsrcStatus`.
* `dsOnStatus`: The `switch` in `DSSubscriber::notifyRsrcStatus`.
* `notifyRsrcStatus`: A subscriber decides on a notification and acts on it.
* `notifySubscriber`: Notifies a listed subscriber; true when it is to be
  deleted as well.
* `notifySubscribers`: The notification loop.
* `addSubscriber`: Add a subscriber in the linked list, if not already there.
* `setInactive`: `setInactive` of a listed subscriber; a DS one also closes its
  ATL.
* `nifRequest`: The request put together for the framework.
* `sendRsrcRequestAgps`: `AgpsStateMachine::sendRsrcRequest`: put the data
  together and send the FW.
* `dataCallCb`: `dataCallCb`, the callback of the DS machine's servicer.
* `sendRsrcRequestDS`: `DSStateMachine::sendRsrcRequest`.
* `sendRsrcRequest`: The request to the servicer.
* `dismiss`: Tell a subscriber it is unsubscribed, or wait for its close to
  complete.
* `RsrcEvent`: What `onRsrcEvent(event, data)` of a state is called with.
* `AgpsState.afterUnsubscribe`: After an unsubscribe in Pending or Acquired:
  release the NIF when nobody is left, or nobody active.
* `AgpsReleasedState.onRsrcEvent` and its three siblings: The transitions.
* `subscribeRsrc`, `unsubscribeRsrc`, `onRsrcEvent`: The interface.
* `AgpsReleasingState.onReleased`: RELEASED or DENIED in Releasing: the inactive
  subscribers go, and the active ones, if any, need a new request.
* `dispatch`: `mStatePtr = mStatePtr->onRsrcEvent(event, data)`.
* `onRsrcEventAgps`: `AgpsStateMachine::onRsrcEvent`.
* `onRsrcEventDS`: `DSStateMachine::onRsrcEvent`: a RELEASED that changes no
  state is taken for a DENIED.
* `retryCallback`: `DSStateMachine::retryCallback`.
* `step`, `run`: One call, and a run of calls.
-/

namespace Victara

namespace Agps

/-- The statuses of `loc_eng_dmn_conn_loc_api_server_data_conn`. -/
inductive LocApiIfStatus
  | requestSuccess | releaseSuccess | failure
  deriving DecidableEq, Repr

/-- What the servicer callback is given. An address that `setIPAddresses`
    leaves unwritten is `none`; `ipv6_addr` holds the bytes written. -/
structure AGpsExtStatus where
  type : AGpsExtType
  status : AGpsStatusValue
  ipv4_addr : Option UInt32
  ipv6_addr : List UInt8
  ssid : CString
  password : CString
  deriving DecidableEq, Repr

/-- What leaves a machine. `notified` records that a subscriber accepted a
    notification; its address is `none` for the caller's own object, which is
    not on the list. -/
inductive Output
  | notified (addr : Option Nat) (subscriber : Subscriber) (status : AgpsRsrcStatus)
  | agpsStatusCb (nifRequest : AGpsExtStatus)
  | dataConn (senderId : UInt32) (status : LocApiIfStatus)
  | atlOpenStatus (handle : UInt32) (isSucc : Bool) (apn : Option CString)
      (bearer : AGpsBearerType) (agpsType : AGpsExtType)
  | atlCloseStatus (handle : UInt32) (isSucc : Bool)
  | requestATL (connHandle : UInt32) (agpsType : AGpsExtType)
  | requestSuplES (connHandle : UInt32)
  | openAndStartDataCall
  | stopDataCall
  | closeDataCall
  | locTimerStart (msec : Nat)
  deriving DecidableEq, Repr

inductive AgpsState
  | released | pending | acquired | releasing
  deriving DecidableEq, Repr

/-- A list element: a subscriber object and its address. -/
structure Node where
  addr : Nat
  subscriber : Subscriber
  deriving DecidableEq, Repr

structure AgpsStateMachine where
  isDS : Bool
  mType : AGpsExtType
  mEnforceSingleSubscriber : Bool
  peek : Subscriber → IPv6Addr
  mStatePtr : AgpsState
  mSubscribers : List Node
  mAPN : Option CString
  mBearer : AGpsBearerType
  mRetries : UInt8
  nextAddr : Nat
  out : List Output

/-- How the outside answers during a call: the value of
    `openAndStartDataCall`, and whether `loc_timer_start` returns a handle. -/
structure Env where
  openAndStartDataCall : Int
  timerStarted : Bool
  deriving DecidableEq, Repr

def LOC_API_ADAPTER_ERR_SUCCESS : Int := 0
def LOC_API_ADAPTER_ERR_UNSUPPORTED : Int := 2
def LOC_API_ADAPTER_ERR_ENGINE_BUSY : Int := 6

def MAX_START_DATA_CALL_RETRIES : UInt8 := 4
def DATA_CALL_RETRY_DELAY_MSEC : Nat := 500

namespace AgpsStateMachine

/-- The constructor of `AgpsStateMachine`. -/
def new (peek : Subscriber → IPv6Addr) (type : AGpsExtType) (enforceSingleSubscriber : Bool) :
    AgpsStateMachine where
  isDS := false
  mType := type
  mEnforceSingleSubscriber := enforceSingleSubscriber
  peek := peek
  mStatePtr := .released
  mSubscribers := []
  mAPN := none
  mBearer := AGPS_APN_BEARER_INVALID
  mRetries := 0
  nextAddr := 0
  out := []

/-- The constructor of `DSStateMachine`. -/
def newDS (peek : Subscriber → IPv6Addr) : AgpsStateMachine :=
  { new peek AGPS_TYPE_INVALID false with isDS := true }

def emit (m : AgpsStateMachine) (o : Output) : AgpsStateMachine := { m with out := m.out ++ [o] }

def setAPN (m : AgpsStateMachine) (apn : Option CString) (len : Nat) : AgpsStateMachine :=
  { m with mAPN := apn.map (List.take len) }

def setBearer (m : AgpsStateMachine) (bearer : AGpsBearerType) : AgpsStateMachine :=
  { m with mBearer := bearer }

def hasSubscribers (m : AgpsStateMachine) : Bool := !linkedListEmpty m.mSubscribers

def dropAllSubscribers (m : AgpsStateMachine) : AgpsStateMachine :=
  { m with mSubscribers := linkedListFlush m.mSubscribers }

/-- `linked_list_search` with `hasSubscriber`: the first listed subscriber the
    notification is for. -/
def search (m : AgpsStateMachine) (n : Notification) : Option Node :=
  (linkedListSearch (fun (_ : Unit) nd => ((), nd.subscriber.forMe m.peek n)) false ()
    m.mSubscribers).2.1

/-- The first active subscriber, as `sendRsrcRequest` and others look it up. -/
def firstActive (m : AgpsStateMachine) : Option Node :=
  m.search (.broadcast .broadcastActive .rsrcStatusMax false)

def hasActiveSubscribers (m : AgpsStateMachine) : Bool := m.firstActive.isSome

/-- `DSStateMachine::informStatus`. -/
def informStatus (m : AgpsStateMachine) (status : AgpsRsrcStatus) (ID : UInt32) :
    AgpsStateMachine :=
  match status with
  | .rsrcUnsubscribe => m.emit (.atlCloseStatus ID true)
  | .rsrcReleased => m.emit .closeDataCall
  -- the modem is to open an ordinary SUPL connection instead
  | .rsrcDenied => { m with mRetries := 0 }.emit (.requestATL ID AGPS_TYPE_SUPL)
  | .rsrcGranted => m.emit (.atlOpenStatus ID true none AGPS_APN_BEARER_INVALID AGPS_TYPE_INVALID)
  | _ => m

/-- The type an ATL client is told, which depends on the mode it asked in. -/
def atlType (m : AgpsStateMachine) (mBackwardCompatibleMode : Bool) : AGpsExtType :=
  if mBackwardCompatibleMode then AGPS_TYPE_INVALID else m.mType

/-- The `switch` in `BITSubscriber::notifyRsrcStatus`. Here and below `none` is
    the default branch, in which the subscriber does not take the
    notification. -/
def bitOnStatus (m : AgpsStateMachine) : AgpsRsrcStatus → Option AgpsStateMachine
  | .rsrcUnsubscribe | .rsrcReleased =>
      some (m.emit (.dataConn LOC_ENG_IF_REQUEST_SENDER_ID_GPSONE_DAEMON .releaseSuccess))
  | .rsrcDenied => some (m.emit (.dataConn LOC_ENG_IF_REQUEST_SENDER_ID_GPSONE_DAEMON .failure))
  | .rsrcGranted =>
      some (m.emit (.dataConn LOC_ENG_IF_REQUEST_SENDER_ID_GPSONE_DAEMON .requestSuccess))
  | _ => none

/-- The `switch` in `ATLSubscriber::notifyRsrcStatus`. -/
def atlOnStatus (m : AgpsStateMachine) (ID : UInt32) (mBackwardCompatibleMode : Bool) :
    AgpsRsrcStatus → Option AgpsStateMachine
  | .rsrcUnsubscribe | .rsrcReleased => some (m.emit (.atlCloseStatus ID true))
  | .rsrcDenied =>
      some (m.emit (.atlOpenStatus ID false m.mAPN m.mBearer (m.atlType mBackwardCompatibleMode)))
  | .rsrcGranted =>
      some (m.emit (.atlOpenStatus ID true m.mAPN m.mBearer (m.atlType mBackwardCompatibleMode)))
  | _ => none

/-- The `switch` in `WIFISubscriber::notifyRsrcStatus`. -/
def wifiOnStatus (m : AgpsStateMachine) (senderId : UInt32) :
    AgpsRsrcStatus → Option AgpsStateMachine
  | .rsrcUnsubscribe => some m
  | .rsrcReleased => some (m.emit (.dataConn senderId .releaseSuccess))
  | .rsrcDenied => some (m.emit (.dataConn senderId .failure))
  | .rsrcGranted => some (m.emit (.dataConn senderId .requestSuccess))
  | _ => none

/-- The `switch` in `DSSubscriber::notifyRsrcStatus`. -/
def dsOnStatus (m : AgpsStateMachine) (ID : UInt32) :
    AgpsRsrcStatus → Option AgpsStateMachine
  | .rsrcUnsubscribe => some (m.informStatus .rsrcUnsubscribe ID)
  | .rsrcReleased => some (m.informStatus .rsrcReleased ID)
  | .rsrcDenied => some (m.informStatus .rsrcDenied ID)
  | .rsrcGranted => some (m.informStatus .rsrcGranted ID)
  | _ => none

def onStatus (m : AgpsStateMachine) : Subscriber → AgpsRsrcStatus → Option AgpsStateMachine
  | .bit _ _ => m.bitOnStatus
  | .atl id mode => m.atlOnStatus id mode
  | .wifi senderId _ _ _ => m.wifiOnStatus senderId
  | .ds id _ => m.dsOnStatus id

/-- `notifyRsrcStatus` of the subscriber object at `addr`. -/
def notifyRsrcStatus (m : AgpsStateMachine) (addr : Option Nat) (s : Subscriber)
    (n : Notification) : AgpsStateMachine × Bool :=
  if s.forMe m.peek n then
    -- a status outside the switch leaves no trace
    match (m.emit (.notified addr s n.rsrcStatus)).onStatus s n.rsrcStatus with
    | some m' => (m', true)
    | none => (m, false)
  else (m, false)

/-- Notifies a listed subscriber; true when it is to be deleted as well. -/
def notifySubscriber (n : Notification) (m : AgpsStateMachine) (nd : Node) :
    AgpsStateMachine × Bool :=
  let r := m.notifyRsrcStatus (some nd.addr) nd.subscriber n
  (r.1, r.2 && n.postNotifyDelete)

/-- When deleting, search and delete until a search finds nothing; one search
    more than there are subscribers is enough. -/
def notifySubscribers (m : AgpsStateMachine) (n : Notification) : AgpsStateMachine :=
  if n.postNotifyDelete then
    -- the search stops after each deletion, so there is a loop around it
    let r := Visit.drain (notifySubscriber n) (m.mSubscribers.length + 1) m m.mSubscribers
    { r.1 with mSubscribers := r.2 }
  else
    (linkedListSearch (notifySubscriber n) false m m.mSubscribers).1

/-- Add a subscriber in the linked list, if not already there. -/
def addSubscriber (m : AgpsStateMachine) (subscriber : Subscriber) : AgpsStateMachine :=
  match m.search (.addressed subscriber .rsrcStatusMax false) with
  -- listed already, whether it is active or waits for its close
  | some _ => m
  | none =>
    { m with mSubscribers := linkedListAdd m.mSubscribers ⟨m.nextAddr, subscriber.clone⟩,
             nextAddr := m.nextAddr + 1 }

/-- `setInactive` of a listed subscriber; a DS one also closes its ATL. -/
def setInactive (m : AgpsStateMachine) (nd : Node) : AgpsStateMachine :=
  let m' := { m with mSubscribers := m.mSubscribers.map fun e =>
    if e.addr = nd.addr then { e with subscriber := e.subscriber.markInactive } else e }
  match nd.subscriber with
  -- the ATL is closed at once, and the subscriber stays listed
  | .ds id _ => m'.informStatus .rsrcUnsubscribe id
  | _ => m'

/-- The request put together for the framework. -/
def nifRequest (m : AgpsStateMachine) (action : AGpsStatusValue) : Option Node → AGpsExtStatus
  | none =>
    { type := m.mType, status := action, ipv4_addr := some INADDR_NONE, ipv6_addr := [0],
      ssid := [], password := [] }
  | some nd =>
    { type := m.mType, status := action, ipv4_addr := nd.subscriber.ipv4Written,
      ipv6_addr := nd.subscriber.ipv6Written, ssid := nd.subscriber.wifiInfo.1,
      password := nd.subscriber.wifiInfo.2 }

/-- `AgpsStateMachine::sendRsrcRequest`: put the data together and send the FW. -/
def sendRsrcRequestAgps (m : AgpsStateMachine) (action : AGpsStatusValue) :
    AgpsStateMachine × Int :=
  let s := m.firstActive
  -- a request needs somebody active, a release nobody
  if s.isNone = (action == .releaseAgpsDataConn) then
    (m.emit (.agpsStatusCb (m.nifRequest action s)), 0)
  else (m, 0)

/-- `dataCallCb`, the callback of the DS machine's servicer. -/
def dataCallCb (env : Env) (m : AgpsStateMachine) :
    AGpsStatusValue → AgpsStateMachine × Int
  | .requestAgpsDataConn => (m.emit .openAndStartDataCall, env.openAndStartDataCall)
  | .releaseAgpsDataConn => (m.emit .stopDataCall, 0)

/-- `DSStateMachine::sendRsrcRequest`. Only the request to start a data call
    can fail. -/
def sendRsrcRequestDS (env : Env) (m : AgpsStateMachine) (action : AGpsStatusValue) :
    AgpsStateMachine × Int :=
  let connHandle := m.firstActive.elim 0xFFFFFFFF (fun s => s.subscriber.ID)
  let r := m.dataCallCb env action
  let m := r.1
  let ret := r.2
  -- the request to stop a data call always succeeds
  if ret = LOC_API_ADAPTER_ERR_ENGINE_BUSY then
    let m := { m with mRetries := m.mRetries + 1 }
    if m.mRetries > MAX_START_DATA_CALL_RETRIES then (m.informStatus .rsrcDenied connHandle, ret)
    -- `retryCallback` asks again, and until then the state is kept
    else if env.timerStarted then (m.emit (.locTimerStart DATA_CALL_RETRY_DELAY_MSEC), -1)
    else (m, ret)
  else if ret = LOC_API_ADAPTER_ERR_UNSUPPORTED then (m.informStatus .rsrcDenied connHandle, ret)
  else if ret = LOC_API_ADAPTER_ERR_SUCCESS then (m, ret)
  else if ret = -1 then (m.informStatus .rsrcDenied connHandle, ret)
  else (m, ret)

def sendRsrcRequest (env : Env) (m : AgpsStateMachine) (action : AGpsStatusValue) :
    AgpsStateMachine × Int :=
  if m.isDS then m.sendRsrcRequestDS env action else m.sendRsrcRequestAgps action

/-- Tell a subscriber it is unsubscribed, or wait for its close to complete. -/
def dismiss (m : AgpsStateMachine) (nd : Node) : AgpsStateMachine :=
  if nd.subscriber.waitForCloseComplete then m.setInactive nd
  else m.notifySubscribers (.addressed nd.subscriber .rsrcUnsubscribe true)

/-- What `onRsrcEvent(event, data)` of a state is called with. -/
inductive RsrcEvent
  | subscribe (data : Subscriber)
  | unsubscribe (data : Node)
  | granted
  | released
  | denied

end AgpsStateMachine

open AgpsStateMachine

/-- After an unsubscribe in Pending or Acquired: release the NIF when nobody
    is left, or nobody active. -/
def AgpsState.afterUnsubscribe (env : Env) (m : AgpsStateMachine) (self : AgpsState) :
    AgpsStateMachine × AgpsState :=
  -- no more subscribers
  if !m.hasSubscribers then ((m.sendRsrcRequest env .releaseAgpsDataConn).1, .released)
  -- only inactive subscribers
  else if !m.hasActiveSubscribers then
    ((m.sendRsrcRequest env .releaseAgpsDataConn).1, .releasing)
  else (m, self)

def AgpsReleasedState.onRsrcEvent (env : Env) (m : AgpsStateMachine) :
    RsrcEvent → AgpsStateMachine × AgpsState
  | .subscribe subscriber =>
    -- no notification until we get RSRC_GRANTED
    let m := m.addSubscriber subscriber
    let r := m.sendRsrcRequest env .requestAgpsDataConn
    -- a data call that could not be started is tried again from here
    (r.1, if r.2 = 0 then .pending else .released)
  -- the list should really be empty, and the client is told all the same
  | .unsubscribe nd =>
    ((m.notifyRsrcStatus (some nd.addr) nd.subscriber
      (.addressed nd.subscriber .rsrcUnsubscribe false)).1, .released)
  | .granted | .released | .denied => (m, .released)

def AgpsPendingState.onRsrcEvent (env : Env) (m : AgpsStateMachine) :
    RsrcEvent → AgpsStateMachine × AgpsState
  -- already requested, so it waits with the others
  | .subscribe subscriber => (m.addSubscriber subscriber, .pending)
  | .unsubscribe nd => AgpsState.afterUnsubscribe env (m.dismiss nd) .pending
  | .granted => (m.notifySubscribers (.broadcast .broadcastActive .rsrcGranted false), .acquired)
  -- either GRANTED or DENIED is expected here
  | .released => (m, .pending)
  | .denied => (m.notifySubscribers (.broadcast .broadcastAll .rsrcDenied true), .released)

def AgpsAcquiredState.onRsrcEvent (env : Env) (m : AgpsStateMachine) :
    RsrcEvent → AgpsStateMachine × AgpsState
  | .subscribe subscriber =>
    -- we have rsrc in hand, so grant it right away
    let m := (m.notifyRsrcStatus none subscriber (.addressed subscriber .rsrcGranted false)).1
    (m.addSubscriber subscriber, .acquired)
  | .unsubscribe nd => AgpsState.afterUnsubscribe env (m.dismiss nd) .acquired
  | .granted => (m, .acquired)
  | .released => (m.notifySubscribers (.broadcast .broadcastAll .rsrcReleased true), .released)
  -- RELEASED is expected here
  | .denied => (m, .acquired)

/-- RELEASED or DENIED in Releasing: the inactive subscribers go, and the
    active ones, if any, need a new request. -/
def AgpsReleasingState.onReleased (env : Env) (m : AgpsStateMachine) (event : AgpsRsrcStatus) :
    AgpsStateMachine × AgpsState :=
  let m := m.notifySubscribers (.broadcast .broadcastInactive event true)
  if m.hasActiveSubscribers then ((m.sendRsrcRequest env .requestAgpsDataConn).1, .pending)
  else (m, .released)

def AgpsReleasingState.onRsrcEvent (env : Env) (m : AgpsStateMachine) :
    RsrcEvent → AgpsStateMachine × AgpsState
  -- `onReleased` asks for a connection again if anybody active is listed
  | .subscribe subscriber => (m.addSubscriber subscriber, .releasing)
  | .unsubscribe nd =>
    let m := m.dismiss nd
    (m, if m.hasSubscribers then .releasing else .released)
  -- the subscriber was gone before its request was denied
  | .denied => AgpsReleasingState.onReleased env m .rsrcDenied
  | .released => AgpsReleasingState.onReleased env m .rsrcReleased
  | .granted => (m, .releasing)

namespace AgpsStateMachine

/-- `mStatePtr = mStatePtr->onRsrcEvent(event, data)`. -/
def dispatch (env : Env) (m : AgpsStateMachine) (event : RsrcEvent) : AgpsStateMachine :=
  let r := match m.mStatePtr with
    | .released => AgpsReleasedState.onRsrcEvent env m event
    | .pending => AgpsPendingState.onRsrcEvent env m event
    | .acquired => AgpsAcquiredState.onRsrcEvent env m event
    | .releasing => AgpsReleasingState.onRsrcEvent env m event
  { r.1 with mStatePtr := r.2 }

/-- `AgpsStateMachine::onRsrcEvent`. -/
def onRsrcEventAgps (env : Env) (m : AgpsStateMachine) : AgpsRsrcStatus → AgpsStateMachine
  | .rsrcGranted => m.dispatch env .granted
  | .rsrcReleased => m.dispatch env .released
  | .rsrcDenied => m.dispatch env .denied
  | _ => m

/-- `DSStateMachine::onRsrcEvent`: a RELEASED that changes no state is taken
    for a DENIED. -/
def onRsrcEventDS (env : Env) (m : AgpsStateMachine) : AgpsRsrcStatus → AgpsStateMachine
  | .rsrcGranted => m.dispatch env .granted
  | .rsrcReleased =>
    let m' := m.dispatch env .released
    if m'.mStatePtr ≠ m.mStatePtr then m' else m'.dispatch env .denied
  | .rsrcDenied => m.dispatch env .denied
  | _ => m

def onRsrcEvent (env : Env) (m : AgpsStateMachine) (event : AgpsRsrcStatus) : AgpsStateMachine :=
  if m.isDS then m.onRsrcEventDS env event else m.onRsrcEventAgps env event

def subscribeRsrc (env : Env) (m : AgpsStateMachine) (subscriber : Subscriber) :
    AgpsStateMachine :=
  if m.mEnforceSingleSubscriber && m.hasSubscribers then
    -- only the caller's own object is told, nobody is listed for it
    (m.notifyRsrcStatus none subscriber (.broadcast .broadcastAll .rsrcDenied true)).1
  else m.dispatch env (.subscribe subscriber)

def unsubscribeRsrc (env : Env) (m : AgpsStateMachine) (subscriber : Subscriber) :
    AgpsStateMachine × Bool :=
  match m.search (.addressed subscriber .rsrcStatusMax false) with
  | some s => (m.dispatch env (.unsubscribe s), true)
  | none => (m, false)

/-- `DSStateMachine::retryCallback`. -/
def retryCallback (m : AgpsStateMachine) : AgpsStateMachine :=
  match m.firstActive with
  | some s => m.emit (.requestSuplES s.subscriber.ID)
  | none => m

end AgpsStateMachine

/-- One call on a machine. -/
inductive Call
  | subscribeRsrc (subscriber : Subscriber) (env : Env)
  | unsubscribeRsrc (subscriber : Subscriber) (env : Env)
  | onRsrcEvent (event : AgpsRsrcStatus) (env : Env)
  | setAPN (apn : Option CString) (len : Nat)
  | setBearer (bearer : AGpsBearerType)
  deriving DecidableEq, Repr

/-- The effect of a call, with `out` holding what this call sent. -/
def step (m : AgpsStateMachine) (c : Call) : AgpsStateMachine :=
  let m := { m with out := [] }
  match c with
  | .subscribeRsrc subscriber env => m.subscribeRsrc env subscriber
  | .unsubscribeRsrc subscriber env => (m.unsubscribeRsrc env subscriber).1
  | .onRsrcEvent event env => m.onRsrcEvent env event
  | .setAPN apn len => m.setAPN apn len
  | .setBearer bearer => m.setBearer bearer

/-- A run of calls, first one first. -/
def run (m : AgpsStateMachine) (cs : List Call) : AgpsStateMachine := cs.foldl step m

end Agps

end Victara
