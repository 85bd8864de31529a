import Mathlib.Logic.Function.Basic
import Victara.Agps.ReleaseATL

/-!
# The Machines of the Engine and Who Answers Them

The four machines of `loc_eng_data_s_type` with the queue of the engine, and
with everything that puts messages there: the modem, the daemons by way of the
server in `loc_eng_dmn_conn.cpp`, the data service client, and the framework
with its answers.

Each of the three machines that have the framework for a servicer tells it the
type of the connection that is requested. The functions by which the framework
answers are given no type. `loc.cpp` takes every answer for one about SUPL, so
that it is the agnss machine that hears of it. What the internet and the WIFI
machine have requested is never answered: nobody who subscribes there is ever
granted anything.

A WIFI client that is released has to wait for the answer, and the WIFI machine
serves one client at a time. So the first release is the end of it.

A message for a machine that is not there may be a call through `NULL`. There
is no step for that.

The two machines are followed through the steps of the whole engine by what a
step may do to one of them, `Served`. Neither hears of an answer, so the calls
that reach it are subscriptions and unsubscriptions, and a restart. Without an
answer nothing leads to Acquired, and GRANTED is told on the way there or in it.
For the WIFI machine the release of its only client leads to Releasing, and only
an answer leads out of it.

## Main definitions

* `NifId`, `getAgpsStateMachine`: The machines.
* `NifMsg`, `LocEngMachines`: The messages, and the engine.
* `NifMsg.answered?`: The machine that an answer of the framework is for.
* `Output.nifMsg?`: What the DS machine asks the engine itself for.
* `CtrlMsgIfRequest`, `ifRequestHandler`, `ifReleaseHandler`: The server.
* `CtrlMsgIfRequest.agpsType?`: The type of a request, and if it is one.
* `ifHandler`: What the two handlers have in common.
* `ModemMsg`: What comes from the modem and from the data service client.
* `EngLabel`, `LocEngMachines.step`: What happens.
* `put`: With a machine after a call.
* `call`: A call on a machine that has to be there.
* `callOr`: A call on a machine, and what is sent if it is not there.
* `unsubscribe`: `unsubscribeRsrc` of a machine that is there, when it returns
  true.
* `releaseATL`: `LocEngReleaseATL::proc`.
* `handleEngineUp`: `loc_eng_handle_engine_up`, as far as the machines are
  concerned.
* `reqRel`: A subscribe or an unsubscribe.
* `LocEngMachines.procMsg`: What is done with a message.
* `agpsInit`: `loc_eng_agps_init`, as far as the machines are concerned.
* `locEngAgpsOpen`, `locAgpsOpen` and their like: The answers.
* `Reaches`: A call on the internet or the WIFI machine, which is no answer.
* `Served`: What may become of the internet or the WIFI machine.
* `AnswersAgnss`: Every answer that waits is for the agnss machine.
* `Keeps`: What every step keeps of the callback and of the queue.
* `NoGrant`: No notification tells of a grant.
* `Quiet`: What is kept of either machine.
* `InternetInv`: An internet machine has ATL and BIT clients, so that none of
  them has to wait for its close, and Releasing is not entered.
* `WifiInv`: A WIFI machine serves one client at a time.
* `Unanswered`: What is kept of the two machines.
* `Stranded`: The WIFI machine waits for the answer to a release.

## Theorems

* `unsubscribe_eq_some`: `unsubscribeRsrc` that returns true is a call.
* `step_machine`: What a step does to the internet or the WIFI machine.
* `answersAgnss_ifHandler`: What the server of the daemons sends is a request or
  a release.
* `effect_unanswered`: Without an answer, a machine does not get to Acquired,
  and it is only there that a subscriber is granted the connection.
* `effect_single`: A machine that serves one client at a time lists one at most.
* `unanswered_step`: Neither is ever answered.
* `only_agnss_is_granted`: Nobody is granted anything by these two.
* `releasing_stays`: In Releasing, the WIFI machine stays there.
* `releasing_refuses`: In Releasing, the WIFI machine refuses everybody.
* `release_strands`: When its WIFI client is released, the WIFI machine gets to
  Releasing.
* `wifi_stranded`: The first release is the end of the WIFI machine.
-/

namespace Victara

namespace Agps

open AgpsStateMachine StepSystem

def AGPS_TYPE_ANY : AGpsExtType := 0

def AGPS_TYPE_SUPL_ES : AGpsExtType := 5

def AGPS_APN_BEARER_IPV4 : AGpsBearerType := 0

def MAX_APN_LEN : Nat := 100

/-- The machines, by the names of the fields that point to them. -/
inductive NifId
  | agnss | internet | wifi | ds
  deriving DecidableEq, Repr

/-- The machine for a type of connection. -/
def getAgpsStateMachine (agpsType : AGpsExtType) : NifId :=
  if agpsType = AGPS_TYPE_WIFI then .wifi
  else if agpsType = AGPS_TYPE_INVALID ∨ agpsType = AGPS_TYPE_SUPL then .agnss
  else if agpsType = AGPS_TYPE_SUPL_ES then .ds
  else .internet

/-- The messages for the machines. -/
inductive NifMsg
  | atlOpenSuccess (mStateMachine : NifId) (mAPN : CString) (mLen : Nat)
      (mBearerType : AGpsBearerType)
  | atlClosed (mStateMachine : NifId)
  | atlOpenFailed (mStateMachine : NifId)
  | reqRelBIT (mType : AGpsExtType) (mIPv4Addr : UInt32) (mIPv6Addr : IPv6Addr) (mIsReq : Bool)
  | reqRelWifi (mType : AGpsExtType) (mSenderId : UInt32) (mSSID mPassword : CString)
      (mIsReq : Bool)
  | requestATL (mID : UInt32) (mType : AGpsExtType)
  | releaseATL (mID : UInt32)
  | requestSuplEs (mID : UInt32)
  | suplEsOpened
  | suplEsClosed
  | dataClientInit
  | engineUp
  deriving DecidableEq, Repr

/-- The machine that an answer of the framework is for. -/
def NifMsg.answered? : NifMsg → Option NifId
  | .atlOpenSuccess sm _ _ _ => some sm
  | .atlClosed sm => some sm
  | .atlOpenFailed sm => some sm
  | _ => none

/-- What the DS machine asks the engine itself for. -/
def Output.nifMsg? : Output → Option NifMsg
  | .requestATL id type => some (.requestATL id type)
  | .requestSuplES id => some (.requestSuplEs id)
  | _ => none

/-- The machines, as far as they are there, the callback of the framework,
    whether the server of the daemons has been launched, the queue, and all
    that has been sent. -/
structure LocEngMachines where
  machine : NifId → Option AgpsStateMachine
  agps_status_cb : Bool
  loc_api_handle : Bool
  msgs : List NifMsg
  sent : List Output

/-- `struct ctrl_msg_if_request` -/
structure CtrlMsgIfRequest where
  type : Nat
  sender_id : Nat
  ipv4_addr : UInt32
  ipv6_addr : IPv6Addr
  ssid : CString
  password : CString
  deriving DecidableEq, Repr

/-- The type of a request, and if it is one. -/
def CtrlMsgIfRequest.agpsType? (r : CtrlMsgIfRequest) : Option AGpsExtType :=
  match r.type with
  | 0 => some AGPS_TYPE_SUPL
  | 1 => some AGPS_TYPE_WIFI
  | 2 => some AGPS_TYPE_ANY
  | _ => none

/-- What the two handlers have in common. QUIPC, MSAPM and MSAPU are the WIFI
    clients, and the GPSONE daemon is the BIT client. The modem is no sender. -/
def ifHandler (r : CtrlMsgIfRequest) (isReq : Bool) : Int × List NifMsg :=
  match r.agpsType? with
  | none => (-1, [])
  | some type =>
    match r.sender_id with
    | 0 => (0, [.reqRelWifi type 0 r.ssid r.password isReq])
    | 1 => (0, [.reqRelWifi type 1 r.ssid r.password isReq])
    | 2 => (0, [.reqRelWifi type 2 r.ssid r.password isReq])
    | 3 => (0, [.reqRelBIT type r.ipv4_addr r.ipv6_addr isReq])
    | _ => (-1, [])

/-- `loc_eng_dmn_conn_loc_api_server_if_request_handler` -/
def ifRequestHandler (loc_api_handle : Bool) (r : CtrlMsgIfRequest) : Int × List NifMsg :=
  if loc_api_handle = false then (1, []) else ifHandler r true

/-- `loc_eng_dmn_conn_loc_api_server_if_release_handler`, which does not look
    at the handle. -/
def ifReleaseHandler (r : CtrlMsgIfRequest) : Int × List NifMsg := ifHandler r false

/-- What comes from the modem and from the data service client. -/
inductive ModemMsg
  | requestATL (connHandle : UInt32) (agps_type : AGpsExtType)
  | releaseATL (connHandle : UInt32)
  | requestSuplEs (connHandle : UInt32)
  | suplEsOpened
  | suplEsClosed
  | engineUp
  deriving DecidableEq, Repr

def ModemMsg.msg : ModemMsg → NifMsg
  | .requestATL id type => .requestATL id type
  | .releaseATL id => .releaseATL id
  | .requestSuplEs id => .requestSuplEs id
  | .suplEsOpened => .suplEsOpened
  | .suplEsClosed => .suplEsClosed
  | .engineUp => .engineUp

/-- `agpsInit` is told whether the target has an agnss machine, and whether
    AGPS is enabled. `proc` takes the oldest message, with whether a data
    service client can be had. -/
inductive EngLabel
  | agpsInit (hasAgnss mAgpsEnabled : Bool)
  | agpsOpen (apn : Option CString)
  | agpsClosed
  | agpsOpenFailed
  | ifRequest (r : CtrlMsgIfRequest)
  | ifRelease (r : CtrlMsgIfRequest)
  | modem (m : ModemMsg)
  | retryCallback
  | proc (env : Env) (dataService : Bool)

namespace LocEngMachines

def init : LocEngMachines where
  machine _ := none
  agps_status_cb := false
  loc_api_handle := false
  msgs := []
  sent := []

def sendMsg (s : LocEngMachines) (msgs : List NifMsg) : LocEngMachines :=
  { s with msgs := s.msgs ++ msgs }

/-- With a machine after a call. -/
def put (s : LocEngMachines) (n : NifId) (m : AgpsStateMachine) : LocEngMachines :=
  { s with
    machine := Function.update s.machine n (some m)
    msgs := s.msgs ++ m.out.filterMap Output.nifMsg?
    sent := s.sent ++ m.out }

/-- A call on a machine that has to be there. -/
def call (s : LocEngMachines) (n : NifId) (c : Call) : Option LocEngMachines :=
  (s.machine n).map fun m => s.put n (Agps.step m c)

/-- A call on a machine, and what is sent if it is not there. -/
def callOr (s : LocEngMachines) (n : NifId) (c : Call) (os : List Output) : LocEngMachines :=
  match s.call n c with
  | some t => t
  | none => { s with sent := s.sent ++ os }

/-- `unsubscribeRsrc` of a machine that is there, when it returns true. -/
def unsubscribe (s : LocEngMachines) (env : Env) (n : NifId) (x : Subscriber) :
    Option LocEngMachines :=
  (unsubscribeIn env x (s.machine n)).map (s.put n)

/-- `LocEngReleaseATL::proc` -/
def releaseATL (s : LocEngMachines) (env : Env) (id : UInt32) : LocEngMachines :=
  match s.unsubscribe env .agnss (.atl id false) with
  | some t => t
  | none =>
    match s.unsubscribe env .internet (.atl id false) with
    | some t => t
    | none =>
      match s.unsubscribe env .ds (.ds id false) with
      | some t => t
      | none => { s with sent := s.sent ++ [.atlCloseStatus id false] }

/-- `loc_eng_handle_engine_up`, as far as the machines are concerned. -/
def handleEngineUp (s : LocEngMachines) : LocEngMachines :=
  if s.agps_status_cb then
    { s with machine := fun n =>
        if n = .agnss ∨ n = .internet then (s.machine n).map dropAllSubscribers
        else s.machine n }
  else s

/-- A subscribe or an unsubscribe. -/
def reqRel (x : Subscriber) (isReq : Bool) (env : Env) : Call :=
  if isReq then .subscribeRsrc x env else .unsubscribeRsrc x env

/-- `proc` of a message. -/
def procMsg (peek : Subscriber → IPv6Addr) (env : Env) (dataService : Bool)
    (s : LocEngMachines) : NifMsg → Option LocEngMachines
  | .atlOpenSuccess sm apn len bearer => do
    let s ← s.call sm (.setBearer bearer)
    let s ← s.call sm (.setAPN (some apn) len)
    s.call sm (.onRsrcEvent .rsrcGranted env)
  | .atlClosed sm => s.call sm (.onRsrcEvent .rsrcReleased env)
  | .atlOpenFailed sm => s.call sm (.onRsrcEvent .rsrcDenied env)
  | .reqRelBIT type ipv4 ipv6 isReq =>
    s.call (getAgpsStateMachine type) (reqRel (.bit ipv4 ipv6) isReq env)
  | .reqRelWifi type senderId ssid password isReq =>
    s.callOr .wifi (reqRel (.newWifi (some ssid) (some password) senderId) isReq env)
      [.atlOpenStatus senderId false none (-1) type]
  | .requestATL id type =>
    s.callOr (getAgpsStateMachine type)
      (.subscribeRsrc (.atl id (decide (type = AGPS_TYPE_INVALID))) env)
      [.atlOpenStatus id false none (-1) type]
  | .releaseATL id => s.releaseATL env id
  | .requestSuplEs id =>
    s.callOr .ds (.subscribeRsrc (.ds id false) env) [.atlOpenStatus id false none (-1) (-1)]
  | .suplEsOpened => s.callOr .ds (.onRsrcEvent .rsrcGranted env) []
  | .suplEsClosed => s.callOr .ds (.onRsrcEvent .rsrcReleased env) []
  | .dataClientInit =>
    if dataService then
      some { s with machine := Function.update s.machine .ds (some (newDS peek)) }
    else some s
  | .engineUp => s.handleEngineUp

/-- `loc_eng_agps_init`, as far as the machines are concerned. -/
def agpsInit (peek : Subscriber → IPv6Addr) (s : LocEngMachines) (hasAgnss mAgpsEnabled : Bool) :
    LocEngMachines :=
  if s.agps_status_cb then s
  else
    { s with
      agps_status_cb := true
      loc_api_handle := s.loc_api_handle || (hasAgnss && mAgpsEnabled)
      msgs := s.msgs ++ if hasAgnss && mAgpsEnabled then [.dataClientInit] else []
      machine := fun
        | .internet => some (new peek AGPS_TYPE_WWAN_ANY false)
        | .wifi => some (new peek AGPS_TYPE_WIFI true)
        | .agnss => if hasAgnss then some (new peek AGPS_TYPE_SUPL false) else s.machine .agnss
        | .ds => s.machine .ds }

def locEngAgpsOpen (s : LocEngMachines) (agpsType : AGpsExtType) (apn : Option CString)
    (bearerType : AGpsBearerType) : Int × LocEngMachines :=
  if s.agps_status_cb = false then (-1, s)
  else match apn with
    | none => (0, s)
    | some apn =>
      let apn_len := min apn.length MAX_APN_LEN
      (0, s.sendMsg [.atlOpenSuccess (getAgpsStateMachine agpsType) (apn.take apn_len) apn_len
        bearerType])

def locEngAgpsClosed (s : LocEngMachines) (agpsType : AGpsExtType) : Int × LocEngMachines :=
  if s.agps_status_cb = false then (-1, s)
  else (0, s.sendMsg [.atlClosed (getAgpsStateMachine agpsType)])

def locEngAgpsOpenFailed (s : LocEngMachines) (agpsType : AGpsExtType) : Int × LocEngMachines :=
  if s.agps_status_cb = false then (-1, s)
  else (0, s.sendMsg [.atlOpenFailed (getAgpsStateMachine agpsType)])

/-- `loc_agps_open`, and the two others of the interface. -/
def locAgpsOpen (s : LocEngMachines) (apn : Option CString) : Int × LocEngMachines :=
  s.locEngAgpsOpen AGPS_TYPE_SUPL apn AGPS_APN_BEARER_IPV4

def locAgpsClosed (s : LocEngMachines) : Int × LocEngMachines :=
  s.locEngAgpsClosed AGPS_TYPE_SUPL

def locAgpsOpenFailed (s : LocEngMachines) : Int × LocEngMachines :=
  s.locEngAgpsOpenFailed AGPS_TYPE_SUPL

def step (peek : Subscriber → IPv6Addr) (s : LocEngMachines) : EngLabel → Option LocEngMachines
  | .agpsInit hasAgnss mAgpsEnabled => some (s.agpsInit peek hasAgnss mAgpsEnabled)
  | .agpsOpen apn => some (s.locAgpsOpen apn).2
  | .agpsClosed => some s.locAgpsClosed.2
  | .agpsOpenFailed => some s.locAgpsOpenFailed.2
  -- the server has been launched, and has its handle
  | .ifRequest r =>
    if s.loc_api_handle then some (s.sendMsg (ifRequestHandler s.loc_api_handle r).2) else none
  | .ifRelease r => if s.loc_api_handle then some (s.sendMsg (ifReleaseHandler r).2) else none
  | .modem m => some (s.sendMsg [m.msg])
  | .retryCallback => (s.machine .ds).map fun m => s.put .ds (stepDS m .retryCallback)
  | .proc env dataService => match s.msgs with
    | [] => none
    | msg :: msgs => { s with msgs }.procMsg peek env dataService msg

/-! ## What a step does to a machine -/

/-- A call on the internet or the WIFI machine, which is no answer. Only ATL
    and BIT clients subscribe to the internet machine. -/
def Reaches (n : NifId) : Call → Prop
  | .subscribeRsrc x _ => n = .internet → x.isATL = true ∨ x.isBIT = true
  | .unsubscribeRsrc _ _ => True
  | _ => False

/-- What may become of the internet or the WIFI machine. It is left alone, or
    takes one of the calls that reach it, or is emptied at a restart, which only
    happens to the internet machine, or is made. The two invariants below need
    no more of a step than this. -/
inductive Served (peek : Subscriber → IPv6Addr) (n : NifId) (s t : LocEngMachines) : Prop
  | same (h : t.machine n = s.machine n)
  | call (m : AgpsStateMachine) (c : Call) (hm : s.machine n = some m) (hc : Reaches n c)
      (h : t.machine n = some (Agps.step m c))
  | dropped (hn : n = .internet) (h : t.machine n = (s.machine n).map dropAllSubscribers)
  | created (hcb : s.agps_status_cb = false) (hcb' : t.agps_status_cb = true)
      (h : t.machine n = some (new peek
        (if n = .wifi then AGPS_TYPE_WIFI else AGPS_TYPE_WWAN_ANY) (n == .wifi)))

/-- Every answer that waits is for the agnss machine. -/
def AnswersAgnss (msgs : List NifMsg) : Prop :=
  ∀ msg ∈ msgs, ∀ n, msg.answered? = some n → n = .agnss

variable {peek : Subscriber → IPv6Addr} {s t : LocEngMachines} {n k : NifId}

@[simp] theorem put_machine_self (s : LocEngMachines) (n : NifId) (m : AgpsStateMachine) :
    (s.put n m).machine n = some m := by
  simp [put]

theorem put_machine_of_ne (s : LocEngMachines) (h : n ≠ k) (m : AgpsStateMachine) :
    (s.put k m).machine n = s.machine n := by
  simp [put, h]

theorem answersAgnss_put (hs : AnswersAgnss s.msgs) (n : NifId) (m : AgpsStateMachine) :
    AnswersAgnss (s.put n m).msgs := by
  intro msg hmsg k hk
  rcases List.mem_append.mp hmsg with hmsg | hmsg
  · exact hs msg hmsg k hk
  · -- What a machine asks the engine for is no answer.
    rcases List.mem_filterMap.mp hmsg with ⟨o, _, ho⟩
    cases o <;> cases ho <;> cases hk

theorem answersAgnss_singleton {msg : NifMsg}
    (h : msg.answered? = none ∨ msg.answered? = some .agnss) : AnswersAgnss [msg] := by
  intro other hother n hn
  rw [List.mem_singleton.mp hother] at hn
  rcases h with h | h
  · rw [h] at hn
    cases hn
  · rw [h] at hn
    exact (Option.some.inj hn).symm

theorem answersAgnss_nil : AnswersAgnss [] := fun _ h => absurd h List.not_mem_nil

theorem answersAgnss_sendMsg (hs : AnswersAgnss s.msgs) {msgs : List NifMsg}
    (h : AnswersAgnss msgs) : AnswersAgnss (s.sendMsg msgs).msgs := by
  intro msg hmsg
  rcases List.mem_append.mp hmsg with hmsg | hmsg
  · exact hs msg hmsg
  · exact h msg hmsg

theorem call_eq_some {c : Call} (h : s.call n c = some t) :
    ∃ m, s.machine n = some m ∧ t = s.put n (Agps.step m c) := by
  rcases Option.map_eq_some_iff.mp h with ⟨m, hm, rfl⟩
  exact ⟨m, hm, rfl⟩

theorem served_call {c : Call} (h : s.call k c = some t) (hc : n = k → Reaches n c) :
    Served peek n s t := by
  rcases call_eq_some h with ⟨m, hm, rfl⟩
  by_cases hnk : n = k
  · subst hnk
    exact .call m c hm (hc rfl) (put_machine_self s n _)
  · exact .same (put_machine_of_ne s hnk _)

theorem served_callOr {c : Call} {os : List Output} (hc : n = k → Reaches n c) :
    Served peek n s (s.callOr k c os) := by
  unfold callOr
  cases h : s.call k c with
  | none => exact .same rfl
  | some t => exact served_call h hc

/-- `unsubscribeRsrc` that returns true is a call. -/
theorem unsubscribe_eq_some {env : Env} {x : Subscriber} (h : s.unsubscribe env n x = some t) :
    s.call n (.unsubscribeRsrc x env) = some t := by
  unfold unsubscribe unsubscribeIn at h
  cases hm : s.machine n with
  | none =>
      rw [hm] at h
      cases h
  | some m =>
      rw [hm, Option.bind_some] at h
      dsimp only at h
      split at h
      · rw [Option.map_some] at h
        rw [call, hm, Option.map_some, ← h]
        rfl
      · cases h

theorem served_releaseATL (env : Env) (id : UInt32) : Served peek n s (s.releaseATL env id) := by
  unfold releaseATL
  split
  · exact served_call (unsubscribe_eq_some ‹_›) fun _ => trivial
  · split
    · exact served_call (unsubscribe_eq_some ‹_›) fun _ => trivial
    · split
      · exact served_call (unsubscribe_eq_some ‹_›) fun _ => trivial
      · exact .same rfl

theorem reaches_reqRel {x : Subscriber} (isReq : Bool) (env : Env)
    (hx : n = .internet → x.isATL = true ∨ x.isBIT = true) : Reaches n (reqRel x isReq env) := by
  cases isReq with
  | true => exact hx
  | false => trivial

theorem served_handleEngineUp (hn : n = .internet ∨ n = .wifi) :
    Served peek n s s.handleEngineUp := by
  unfold handleEngineUp
  split
  · rcases hn with rfl | rfl
    · exact .dropped rfl rfl
    · exact .same rfl
  · exact .same rfl

theorem served_procMsg (hn : n = .internet ∨ n = .wifi) {env : Env} {dataService : Bool}
    {msg : NifMsg} (hmsg : ∀ k, msg.answered? = some k → k = .agnss)
    (h : s.procMsg peek env dataService msg = some t) : Served peek n s t := by
  have hagnss : n ≠ .agnss := by rcases hn with rfl | rfl <;> simp
  have hds : n ≠ .ds := by rcases hn with rfl | rfl <;> simp
  cases msg with
  -- Three calls one after the other, all of them on the machine of the answer.
  | atlOpenSuccess sm apn len bearer =>
      have hsm := hmsg sm rfl
      subst hsm
      simp only [procMsg, Option.bind_eq_bind, Option.bind_eq_some_iff] at h
      rcases h with ⟨u, hu, v, hv, ht⟩
      rcases call_eq_some hu with ⟨_, _, rfl⟩
      rcases call_eq_some hv with ⟨_, _, rfl⟩
      rcases call_eq_some ht with ⟨_, _, rfl⟩
      refine .same ?_
      rw [put_machine_of_ne _ hagnss, put_machine_of_ne _ hagnss, put_machine_of_ne _ hagnss]
  | atlClosed sm => exact served_call h fun hsm => absurd (hsm.trans (hmsg sm rfl)) hagnss
  | atlOpenFailed sm => exact served_call h fun hsm => absurd (hsm.trans (hmsg sm rfl)) hagnss
  -- Whoever subscribes to the internet machine is an ATL or a BIT client.
  | reqRelBIT type ipv4 ipv6 isReq =>
      exact served_call h fun _ => reaches_reqRel isReq env fun _ => Or.inr rfl
  | reqRelWifi type senderId ssid password isReq =>
      cases h
      exact served_callOr fun hwifi => reaches_reqRel isReq env fun hinternet => by
        rw [hwifi] at hinternet
        cases hinternet
  | requestATL id type =>
      cases h
      exact served_callOr fun _ _ => Or.inl rfl
  | releaseATL id =>
      cases h
      exact served_releaseATL env id
  -- The messages of the DS machine are for no other one.
  | requestSuplEs id =>
      cases h
      exact served_callOr fun hk => absurd hk hds
  | suplEsOpened =>
      cases h
      exact served_callOr fun hk => absurd hk hds
  | suplEsClosed =>
      cases h
      exact served_callOr fun hk => absurd hk hds
  -- The DS machine may be made here.
  | dataClientInit =>
      simp only [procMsg] at h
      split at h
      · cases h
        exact .same (Function.update_of_ne hds _ _)
      · cases h
        exact .same rfl
  | engineUp =>
      cases h
      exact served_handleEngineUp hn

theorem served_agpsInit (hn : n = .internet ∨ n = .wifi) (hasAgnss mAgpsEnabled : Bool) :
    Served peek n s (s.agpsInit peek hasAgnss mAgpsEnabled) := by
  unfold agpsInit
  split
  · exact .same rfl
  · rename_i hcb
    rw [Bool.not_eq_true] at hcb
    rcases hn with rfl | rfl
    · exact .created hcb rfl rfl
    · exact .created hcb rfl rfl

theorem locEngAgpsOpen_machine (s : LocEngMachines) (type : AGpsExtType) (apn : Option CString)
    (bearer : AGpsBearerType) : (s.locEngAgpsOpen type apn bearer).2.machine = s.machine := by
  unfold locEngAgpsOpen
  split
  · rfl
  · cases apn <;> rfl

theorem step_machine (hn : n = .internet ∨ n = .wifi) (hs : AnswersAgnss s.msgs) {l : EngLabel}
    (h : s.step peek l = some t) : Served peek n s t := by
  cases l with
  | agpsInit hasAgnss mAgpsEnabled =>
      cases h
      exact served_agpsInit hn hasAgnss mAgpsEnabled
  | agpsOpen apn =>
      cases h
      exact .same (by rw [locAgpsOpen, locEngAgpsOpen_machine])
  | agpsClosed =>
      cases h
      unfold locAgpsClosed locEngAgpsClosed
      split <;> exact .same rfl
  | agpsOpenFailed =>
      cases h
      unfold locAgpsOpenFailed locEngAgpsOpenFailed
      split <;> exact .same rfl
  | ifRequest r =>
      simp only [step] at h
      split_ifs at h
      cases h
      exact .same rfl
  | ifRelease r =>
      simp only [step] at h
      split_ifs at h
      cases h
      exact .same rfl
  | modem m =>
      cases h
      exact .same rfl
  | retryCallback =>
      have hds : n ≠ .ds := by rcases hn with rfl | rfl <;> simp
      rcases Option.map_eq_some_iff.mp h with ⟨m, _, rfl⟩
      exact .same (put_machine_of_ne s hds _)
  | proc env dataService =>
      cases hmsgs : s.msgs with
      | nil => simp [step, hmsgs] at h
      | cons msg msgs =>
          simp only [step, hmsgs] at h
          have hfirst := hs msg (by rw [hmsgs]; exact List.mem_cons_self)
          -- Taking the message does not change the machines.
          cases served_procMsg hn hfirst h with
          | same h => exact .same h
          | call m c hm hc h => exact .call m c hm hc h
          | dropped hn h => exact .dropped hn h
          | created hcb hcb' h => exact .created hcb hcb' h

/-- What every step keeps of the callback and of the queue. The machines are
    only there once the callback is, and whatever answers a request in the queue
    is for the agnss machine. -/
structure Keeps (s t : LocEngMachines) : Prop where
  cb : s.agps_status_cb = true → t.agps_status_cb = true
  msgs : AnswersAgnss s.msgs → AnswersAgnss t.msgs

theorem keeps_refl (s : LocEngMachines) : Keeps s s := ⟨id, id⟩

theorem keeps_put (s : LocEngMachines) (n : NifId) (m : AgpsStateMachine) : Keeps s (s.put n m) :=
  ⟨id, fun hs => answersAgnss_put hs n m⟩

theorem keeps_sendMsg (s : LocEngMachines) {msgs : List NifMsg} (h : AnswersAgnss msgs) :
    Keeps s (s.sendMsg msgs) :=
  ⟨id, fun hs => answersAgnss_sendMsg hs h⟩

theorem keeps_call {c : Call} (h : s.call n c = some t) : Keeps s t := by
  rcases call_eq_some h with ⟨m, _, rfl⟩
  exact keeps_put s n _

theorem keeps_callOr (s : LocEngMachines) (n : NifId) (c : Call) (os : List Output) :
    Keeps s (s.callOr n c os) := by
  unfold callOr
  cases h : s.call n c with
  | none => exact ⟨id, id⟩
  | some t => exact keeps_call h

theorem keeps_releaseATL (s : LocEngMachines) (env : Env) (id : UInt32) :
    Keeps s (s.releaseATL env id) := by
  unfold releaseATL
  split
  · exact keeps_call (unsubscribe_eq_some ‹_›)
  · split
    · exact keeps_call (unsubscribe_eq_some ‹_›)
    · split
      · exact keeps_call (unsubscribe_eq_some ‹_›)
      · exact ⟨fun h => h, fun h => h⟩

theorem keeps_procMsg {env : Env} {dataService : Bool} {msg : NifMsg}
    (h : s.procMsg peek env dataService msg = some t) : Keeps s t := by
  cases msg with
  | atlOpenSuccess sm apn len bearer =>
      simp only [procMsg, Option.bind_eq_bind, Option.bind_eq_some_iff] at h
      rcases h with ⟨u, hu, v, hv, ht⟩
      have hu := keeps_call hu
      have hv := keeps_call hv
      have ht := keeps_call ht
      exact ⟨fun h => ht.cb (hv.cb (hu.cb h)), fun h => ht.msgs (hv.msgs (hu.msgs h))⟩
  | atlClosed sm => exact keeps_call h
  | atlOpenFailed sm => exact keeps_call h
  | reqRelBIT type ipv4 ipv6 isReq => exact keeps_call h
  | releaseATL id =>
      cases h
      exact keeps_releaseATL s env id
  | dataClientInit =>
      simp only [procMsg] at h
      split at h <;> cases h <;> exact ⟨id, id⟩
  | engineUp =>
      cases h
      unfold handleEngineUp
      split <;> exact ⟨id, id⟩
  | _ =>
      cases h
      exact keeps_callOr s _ _ _

/-- What the server of the daemons sends is a request or a release. -/
theorem answersAgnss_ifHandler (r : CtrlMsgIfRequest) (isReq : Bool) :
    AnswersAgnss (ifHandler r isReq).2 := by
  unfold ifHandler
  cases r.agpsType? with
  | none => exact answersAgnss_nil
  | some type =>
      dsimp only
      split
      · exact answersAgnss_singleton (Or.inl rfl)
      · exact answersAgnss_singleton (Or.inl rfl)
      · exact answersAgnss_singleton (Or.inl rfl)
      · exact answersAgnss_singleton (Or.inl rfl)
      · exact answersAgnss_nil

theorem keeps_step {l : EngLabel} (h : s.step peek l = some t) : Keeps s t := by
  cases l with
  | agpsInit hasAgnss mAgpsEnabled =>
      cases h
      unfold agpsInit
      split
      · exact keeps_refl s
      · refine ⟨fun _ => rfl, fun hs => answersAgnss_sendMsg hs ?_⟩
        split
        · exact answersAgnss_singleton (Or.inl rfl)
        · exact answersAgnss_nil
  -- All three answers are taken for answers about SUPL.
  | agpsOpen apn =>
      cases h
      unfold locAgpsOpen locEngAgpsOpen
      split
      · exact keeps_refl s
      · cases apn with
        | none => exact keeps_refl s
        | some apn => exact keeps_sendMsg s (answersAgnss_singleton (Or.inr rfl))
  | agpsClosed =>
      cases h
      unfold locAgpsClosed locEngAgpsClosed
      split
      · exact keeps_refl s
      · exact keeps_sendMsg s (answersAgnss_singleton (Or.inr rfl))
  | agpsOpenFailed =>
      cases h
      unfold locAgpsOpenFailed locEngAgpsOpenFailed
      split
      · exact keeps_refl s
      · exact keeps_sendMsg s (answersAgnss_singleton (Or.inr rfl))
  | ifRequest r =>
      simp only [step] at h
      split_ifs at h with hhandle
      cases h
      rw [hhandle]
      exact keeps_sendMsg s (answersAgnss_ifHandler r true)
  | ifRelease r =>
      simp only [step] at h
      split_ifs at h
      cases h
      exact keeps_sendMsg s (answersAgnss_ifHandler r false)
  | modem m =>
      cases h
      exact keeps_sendMsg s (answersAgnss_singleton (Or.inl (by cases m <;> rfl)))
  | retryCallback =>
      rcases Option.map_eq_some_iff.mp h with ⟨m, _, rfl⟩
      exact keeps_put s _ _
  | proc env dataService =>
      cases hmsgs : s.msgs with
      | nil => simp [step, hmsgs] at h
      | cons msg msgs =>
          simp only [step, hmsgs] at h
          have hkeeps := keeps_procMsg h
          refine ⟨hkeeps.cb, fun hs => hkeeps.msgs fun other hother => hs other ?_⟩
          rw [hmsgs]
          exact List.mem_cons_of_mem msg hother

/-! ## The machines that are not answered -/

/-- No notification tells of a grant. -/
def NoGrant (ns : List Note) : Prop := ∀ note ∈ ns, note.2.2 ≠ .rsrcGranted

theorem noGrant_notesTo {status : AgpsRsrcStatus} (h : status ≠ .rsrcGranted) (l : List Node) :
    NoGrant (notesTo l status) := by
  intro note hnote
  rcases List.mem_map.mp hnote with ⟨nd, _, rfl⟩
  exact h

/-- Without an answer, a machine does not get to Acquired, and it is only there
    that a subscriber is granted the connection. -/
theorem effect_unanswered {m : AgpsStateMachine} {c : Call} {o : Outcome} (h : Effect m c o)
    (hc : Reaches n c) (hm : m.mStatePtr ≠ .acquired) :
    o.state ≠ .acquired ∧ NoGrant o.notes := by
  have hnil : NoGrant [] := fun _ h => absurd h List.not_mem_nil
  cases h with
  | refused x env he hl =>
      refine ⟨hm, fun note hnote => ?_⟩
      rw [List.mem_singleton.mp hnote]
      simp
  | requested x env hs ha => exact ⟨by simp, hnil⟩
  | requestedNothing x env hs ha => exact ⟨by simp, hnil⟩
  | queued x env he hs => exact ⟨hm, hnil⟩
  | grantedAtOnce x env he hs => exact absurd hs hm
  | unknown x env hx => exact ⟨hm, hnil⟩
  | tolerated x env nd hnd hs =>
      refine ⟨by simp, fun note hnote => ?_⟩
      rw [List.mem_singleton.mp hnote]
      simp
  | dismissed x env nd l ns s rs hnd hx hs hd hnext =>
      constructor
      · cases hnext with
        | stays _ _ => exact hm
        | _ => simp
      · cases hd with
        | waits _ => exact hnil
        | removed _ => exact noGrant_notesTo (by simp) _
  | _ => exact hc.elim

/-- What is kept of either machine. It has not got to Acquired, as that takes a
    GRANTED, and so it has told nobody of one: a subscriber is granted a
    connection by that event or in that state. -/
structure Quiet (m : AgpsStateMachine) : Prop where
  isDS : m.isDS = false
  state : m.mStatePtr ≠ .acquired
  notes : NoGrant (notes m.out)

theorem quiet_new (peek : Subscriber → IPv6Addr) (type : AGpsExtType) (enforce : Bool) :
    Quiet (new peek type enforce) :=
  ⟨rfl, by simp [new], fun _ h => absurd h List.not_mem_nil⟩

theorem quiet_step {m : AgpsStateMachine} {c : Call} (hm : Quiet m) (hc : Reaches n c) :
    Quiet (Agps.step m c) := by
  have h := effect_unanswered (step_effect m c hm.isDS) hc hm.state
  exact ⟨(step_config m c).isDS.trans hm.isDS, h.1, h.2⟩

/-- A machine that serves one client at a time lists one at most. -/
theorem effect_single {m : AgpsStateMachine} {c : Call} {o : Outcome} (h : Effect m c o)
    (he : m.mEnforceSingleSubscriber = true) (hm : Consistent m.mStatePtr m.mSubscribers)
    (hl : m.mSubscribers.length ≤ 1) : o.subscribers.length ≤ 1 := by
  have hadd : ∀ x, m.mSubscribers = [] → (m.addSubscriber x).mSubscribers.length ≤ 1 := by
    intro x hnil
    rcases addSubscriber_eq m x with ⟨heq, _⟩ | ⟨heq, _⟩
    · rw [heq]
      exact hl
    · rw [heq, hnil]
      exact Nat.le_refl 1
  cases h with
  | requested x env hs ha => exact hadd x (hm.released_iff.mp hs)
  | requestedNothing x env hs ha => exact hadd x (hm.released_iff.mp hs)
  -- Who comes while somebody is listed is refused.
  | queued x env hnot hs => exact hadd x (Classical.byContradiction fun hne => hnot ⟨he, hne⟩)
  | grantedAtOnce x env hnot hs =>
      exact hadd x (Classical.byContradiction fun hne => hnot ⟨he, hne⟩)
  | dismissed x env nd l ns s rs hnd hx hs hd hnext =>
      cases hd with
      | waits _ => rwa [List.length_map]
      | removed _ => exact Nat.le_trans (List.length_filter_le _ _) hl
  | closed event env hs => exact Nat.zero_le 1
  | completed event env hs hev ha => exact Nat.zero_le 1
  | renewed event env hs hev ha => exact Nat.le_trans (List.length_filter_le _ _) hl
  | _ => exact hl

/-- An internet machine has ATL and BIT clients, so that none of them has to
    wait for its close, and Releasing is not entered. -/
structure InternetInv (m : AgpsStateMachine) : Prop extends Quiet m where
  plain : AllPlain m.mSubscribers
  releasing : m.mStatePtr ≠ .releasing

/-- A WIFI machine serves one client at a time. In Releasing it is waiting for
    its close, and as nobody else may join it there is nothing that leads out of
    the state. -/
structure WifiInv (m : AgpsStateMachine) : Prop extends Quiet m where
  enforce : m.mEnforceSingleSubscriber = true
  consistent : Consistent m.mStatePtr m.mSubscribers
  inactive : m.mStatePtr = .releasing → AllInactive m.mSubscribers
  single : m.mSubscribers.length ≤ 1

theorem internetInv_step {m : AgpsStateMachine} {c : Call} (hm : InternetInv m)
    (hc : Reaches .internet c) : InternetInv (Agps.step m c) := by
  have hplain : c.Plain := by
    cases c with
    | subscribeRsrc x env => exact hc rfl
    | unsubscribeRsrc x env => trivial
    | _ => exact hc.elim
  have h := effect_plain (step_effect m c hm.isDS) hplain ⟨hm.plain, hm.releasing⟩
  exact ⟨quiet_step hm.toQuiet hc, h.1, h.2⟩

theorem wifiInv_step {m : AgpsStateMachine} {c : Call} (hm : WifiInv m) (hc : Reaches .wifi c) :
    WifiInv (Agps.step m c) := by
  have heff := step_effect m c hm.isDS
  exact ⟨quiet_step hm.toQuiet hc, (step_config m c).enforce.trans hm.enforce,
    effect_consistent heff hm.consistent,
    effect_allInactive heff hm.enforce hm.consistent hm.inactive,
    effect_single heff hm.enforce hm.consistent hm.single⟩

/-- Both machines are as above, wherever they have been made, and no message in
    the queue is an answer for either of them. -/
structure Unanswered (s : LocEngMachines) : Prop where
  msgs : AnswersAgnss s.msgs
  cb : ∀ m, s.machine .wifi = some m → s.agps_status_cb = true
  internet : ∀ m, s.machine .internet = some m → InternetInv m
  wifi : ∀ m, s.machine .wifi = some m → WifiInv m

theorem unanswered_init : Unanswered init :=
  ⟨answersAgnss_nil, (fun _ h => nomatch h), (fun _ h => nomatch h), fun _ h => nomatch h⟩

theorem unanswered_step {l : EngLabel} (hs : Unanswered s) (h : s.step peek l = some t) :
    Unanswered t := by
  refine ⟨(keeps_step h).msgs hs.msgs, fun m' hm' => ?_, fun m' hm' => ?_, fun m' hm' => ?_⟩
  · cases step_machine (Or.inr rfl) hs.msgs h with
    | same hsame => exact (keeps_step h).cb (hs.cb m' (hsame ▸ hm'))
    | call m c hm hc _ => exact (keeps_step h).cb (hs.cb m hm)
    | dropped hn _ => cases hn
    | created _ hcb' _ => exact hcb'
  -- The internet machine, which a restart may empty.
  · cases step_machine (Or.inl rfl) hs.msgs h with
    | same h => exact hs.internet m' (h ▸ hm')
    | call m c hm hc h =>
        rw [h] at hm'
        cases hm'
        exact internetInv_step (hs.internet m hm) hc
    | dropped _ h =>
        rw [h] at hm'
        -- An empty list, with the state as it was.
        rcases Option.map_eq_some_iff.mp hm' with ⟨m, hm, rfl⟩
        have hinv := hs.internet m hm
        exact ⟨⟨hinv.isDS, hinv.state, hinv.notes⟩,
          fun _ h => absurd h List.not_mem_nil, hinv.releasing⟩
    | created _ _ h =>
        rw [h] at hm'
        cases hm'
        exact ⟨quiet_new peek _ _, fun _ h => absurd h List.not_mem_nil, by simp [new]⟩
  · cases step_machine (Or.inr rfl) hs.msgs h with
    | same h => exact hs.wifi m' (h ▸ hm')
    | call m c hm hc h =>
        rw [h] at hm'
        cases hm'
        exact wifiInv_step (hs.wifi m hm) hc
    | dropped hn h => cases hn
    | created _ _ h =>
        rw [h] at hm'
        cases hm'
        exact ⟨quiet_new peek _ _, rfl, consistent_new peek _ _, (fun h => nomatch h),
          Nat.zero_le 1⟩

/-- At any time, the internet machine is in Released or Pending, the WIFI
    machine is not in Acquired, and what they did last was to grant nothing to
    anybody. -/
theorem only_agnss_is_granted (peek : Subscriber → IPv6Addr) (ls : List EngLabel)
    (hrun : exec (step peek) init ls = some s) :
    (∀ m, s.machine .internet = some m →
      (m.mStatePtr = .released ∨ m.mStatePtr = .pending) ∧ NoGrant (notes m.out)) ∧
    (∀ m, s.machine .wifi = some m → m.mStatePtr ≠ .acquired ∧ NoGrant (notes m.out)) := by
  have hs : Unanswered s := invariant_of_step (fun _ _ _ => unanswered_step) unanswered_init hrun
  constructor
  · intro m hm
    have hinv := hs.internet m hm
    refine ⟨?_, hinv.notes⟩
    have hacquired := hinv.state
    have hreleasing := hinv.releasing
    cases hstate : m.mStatePtr with
    | released => exact Or.inl rfl
    | pending => exact Or.inr rfl
    | acquired => exact absurd hstate hacquired
    | releasing => exact absurd hstate hreleasing
  · intro m hm
    have hinv := hs.wifi m hm
    exact ⟨hinv.state, hinv.notes⟩

/-! ## The WIFI machine -/

/-- In Releasing, the WIFI machine stays there. -/
theorem releasing_stays {m : AgpsStateMachine} {c : Call} (hm : WifiInv m)
    (hrel : m.mStatePtr = .releasing) (hc : Reaches .wifi c) :
    (Agps.step m c).mStatePtr = .releasing := by
  have heff := step_effect m c hm.isDS
  generalize ho : (Agps.step m c).outcome = o at heff
  have hstate : (Agps.step m c).mStatePtr = o.state := by
    rw [← ho]
    rfl
  rw [hstate]
  cases heff with
  | requested x env hs ha => exact absurd (hs.symm.trans hrel) (by simp)
  | requestedNothing x env hs ha => exact absurd (hs.symm.trans hrel) (by simp)
  | grantedAtOnce x env he hs => exact absurd (hs.symm.trans hrel) (by simp)
  | tolerated x env nd hnd hs => exact absurd (hs.symm.trans hrel) (by simp)
  | dismissed x env nd l ns s rs hnd hx hs hd hnext =>
      -- Whoever is listed waits already, and goes on waiting.
      have hwaits : nd.subscriber.waitForCloseComplete = true := by
        cases hwait : nd.subscriber.waitForCloseComplete with
        | true => rfl
        | false =>
            have hinactive := hm.inactive hrel nd hnd
            rw [isInactive_of_not_wait _ hwait] at hinactive
            cases hinactive
      cases hnext with
      | emptied _ hne => exact absurd hrel hne
      | finished hl _ =>
          cases hd with
          | waits _ => exact absurd (List.map_eq_nil_iff.mp hl) (List.ne_nil_of_mem hnd)
          | removed hno =>
              rw [hwaits] at hno
              cases hno
      | idle _ _ _ => rfl
      | stays _ _ => exact hrel
  | refused _ _ _ _ => exact hrel
  | queued _ _ _ _ => exact hrel
  | unknown _ _ _ => exact hrel
  | _ => exact hc.elim

/-- And refuses everybody. -/
theorem releasing_refuses {m : AgpsStateMachine} (hm : WifiInv m)
    (hrel : m.mStatePtr = .releasing) (x : Subscriber) (env : Env) :
    notes (Agps.step m (.subscribeRsrc x env)).out = [(none, x, .rsrcDenied)] := by
  have heff := step_effect m (.subscribeRsrc x env) hm.isDS
  generalize ho : (Agps.step m (.subscribeRsrc x env)).outcome = o at heff
  have hnotes : notes (Agps.step m (.subscribeRsrc x env)).out = o.notes := by
    rw [← ho]
    rfl
  have hne : m.mSubscribers ≠ [] := by
    intro hl
    have hreleased := hm.consistent.released_iff.mpr hl
    rw [hrel] at hreleased
    cases hreleased
  rw [hnotes]
  cases heff with
  | refused _ _ _ _ => rfl
  | requested _ _ hs ha => exact absurd (hs.symm.trans hrel) (by simp)
  | requestedNothing _ _ hs ha => exact absurd (hs.symm.trans hrel) (by simp)
  | queued _ _ hnot hs => exact absurd ⟨hm.enforce, hne⟩ hnot
  | grantedAtOnce _ _ hnot hs => exact absurd ⟨hm.enforce, hne⟩ hnot

/-- When its WIFI client is released, it gets to Releasing. -/
theorem release_strands {m : AgpsStateMachine} (hm : WifiInv m) {nd : Node}
    (hnd : nd ∈ m.mSubscribers) (hwifi : nd.subscriber.isWIFI = true) {x : Subscriber}
    (hx : x.ID = nd.subscriber.ID) (env : Env) :
    (Agps.step m (.unsubscribeRsrc x env)).mStatePtr = .releasing := by
  have hequals : nd.subscriber.equals m.peek x = true := by
    cases hsub : nd.subscriber with
    | wifi id ssid password inactive =>
        rw [hsub] at hx
        simp [Subscriber.equals, hx]
    | _ =>
        rw [hsub] at hwifi
        cases hwifi
  have hwaits : nd.subscriber.waitForCloseComplete = true := by
    cases hsub : nd.subscriber with
    | wifi id ssid password inactive => rfl
    | _ =>
        rw [hsub] at hwifi
        cases hwifi
  have hreleased : m.mStatePtr ≠ .released := fun hs =>
    List.ne_nil_of_mem hnd (hm.consistent.released_iff.mp hs)
  have heff := step_effect m (.unsubscribeRsrc x env) hm.isDS
  generalize ho : (Agps.step m (.unsubscribeRsrc x env)).outcome = o at heff
  have hstate : (Agps.step m (.unsubscribeRsrc x env)).mStatePtr = o.state := by
    rw [← ho]
    rfl
  rw [hstate]
  cases heff with
  | unknown _ _ hno => exact absurd (hequals.symm.trans (hno nd hnd)) Bool.noConfusion
  | tolerated _ _ _ _ hs => exact absurd hs hreleased
  | dismissed _ _ e l ns s rs he _ hs hd hnext =>
      -- There is nobody else on the list.
      have hone : m.mSubscribers = [nd] := by
        cases hlist : m.mSubscribers with
        | nil => exact absurd hlist (List.ne_nil_of_mem hnd)
        | cons a rest =>
            have hlength := hm.single
            rw [hlist, List.length_cons] at hlength
            have hrest : rest = [] := List.eq_nil_of_length_eq_zero (by omega)
            rw [hlist, hrest] at hnd
            rw [hrest, List.mem_singleton.mp hnd]
      have hend : e = nd := by
        have he' : e ∈ m.mSubscribers := he
        rw [hone] at he'
        exact List.mem_singleton.mp he'
      subst hend
      cases hd with
      | removed hno =>
          rw [hwaits] at hno
          cases hno
      | waits _ =>
          cases hnext with
          | emptied hl _ => exact absurd (List.map_eq_nil_iff.mp hl) (List.ne_nil_of_mem hnd)
          | finished hl _ => exact absurd (List.map_eq_nil_iff.mp hl) (List.ne_nil_of_mem hnd)
          | idle _ _ _ => rfl
          | stays _ ha =>
              refine Classical.byContradiction fun hne => ?_
              rcases ha hne with ⟨e', he', hactive⟩
              rcases List.mem_map.mp he' with ⟨a, ha, rfl⟩
              have hae : a = e := by
                have ha' : a ∈ m.mSubscribers := ha
                rw [hone] at ha'
                exact List.mem_singleton.mp ha'
              subst hae
              rw [if_pos rfl] at hactive
              cases hsub : a.subscriber with
              | wifi id ssid password inactive =>
                  rw [hsub] at hactive
                  cases hactive
              | _ =>
                  rw [hsub] at hwifi
                  cases hwifi

/-- The WIFI machine waits for the answer to a release. -/
def Stranded (s : LocEngMachines) : Prop :=
  ∃ m, s.machine .wifi = some m ∧ m.mStatePtr = .releasing

/-- Once a client of the WIFI machine has been released, the machine is in
    Releasing for good, and denies whoever subscribes. -/
theorem wifi_stranded (peek : Subscriber → IPv6Addr) (ls ls' : List EngLabel)
    (hrun : exec (step peek) init ls = some s) {m : AgpsStateMachine}
    (hm : s.machine .wifi = some m) (nd : Node) (hnd : nd ∈ m.mSubscribers)
    (hwifi : nd.subscriber.isWIFI = true) {type : AGpsExtType} {ssid password : CString}
    {msgs : List NifMsg}
    (hmsg : s.msgs = .reqRelWifi type nd.subscriber.ID ssid password false :: msgs) (env : Env)
    (dataService : Bool) (hrun' : exec (step peek) s (.proc env dataService :: ls') = some t) :
    ∃ m', t.machine .wifi = some m' ∧ m'.mStatePtr = .releasing ∧
      ∀ x env', notes (Agps.step m' (.subscribeRsrc x env')).out = [(none, x, .rsrcDenied)] := by
  have hs : Unanswered s := invariant_of_step (fun _ _ _ => unanswered_step) unanswered_init hrun
  rcases exec_cons hrun' with ⟨u, hu, hrest⟩
  have hreleasing : Stranded u := by
    simp only [step, hmsg, procMsg, callOr, call, hm, Option.map_some, Option.some.injEq] at hu
    refine ⟨_, by rw [← hu, put_machine_self], ?_⟩
    exact release_strands (hs.wifi m hm) hnd hwifi
      (x := .newWifi (some ssid) (some password) nd.subscriber.ID) rfl env
  -- From there on, whatever the step, the machine is still in Releasing.
  have hstep : ∀ u l v, (Unanswered u ∧ Stranded u) → u.step peek l = some v →
      Unanswered v ∧ Stranded v := by
    rintro u l v ⟨huv, m', hm', hrel⟩ h
    refine ⟨unanswered_step huv h, ?_⟩
    cases step_machine (Or.inr rfl) huv.msgs h with
    | same h => exact ⟨m', h.trans hm', hrel⟩
    | call m'' c hm'' hc h =>
        rw [hm'] at hm''
        cases hm''
        exact ⟨_, h, releasing_stays (huv.wifi m' hm') hrel hc⟩
    | dropped hn h => cases hn
    -- It is there already, so it is not made again.
    | created hcb _ _ =>
        rw [huv.cb m' hm'] at hcb
        cases hcb
  rcases invariant_of_step hstep ⟨unanswered_step hs hu, hreleasing⟩ hrest with
    ⟨ht, m', hm', hrel⟩
  exact ⟨m', hm', hrel, releasing_refuses (ht.wifi m' hm') hrel⟩

/-- QUIPC asks for a WIFI connection. -/
def quipc : CtrlMsgIfRequest where
  type := 1
  sender_id := 0
  ipv4_addr := 0
  ipv6_addr := Vector.replicate 16 0
  ssid := [65]
  password := []

/-- It has asked for one, and has then asked to release it. -/
def quipcReleases : List EngLabel :=
  [.agpsInit true true, .proc ⟨0, true⟩ false, .ifRequest quipc, .proc ⟨0, true⟩ false,
    .ifRelease quipc]

theorem quipc_waits :
    ∃ s m, exec (step fun _ => Vector.replicate 16 0) init quipcReleases = some s ∧
      s.machine .wifi = some m ∧ m.mStatePtr = .pending ∧ NoGrant (notes m.out) :=
  ⟨_, _, rfl, rfl, rfl,
    ((only_agnss_is_granted (fun _ => Vector.replicate 16 0) quipcReleases rfl).2 _ rfl).2⟩

theorem quipc_is_stranded :
    ∃ t m, exec (step fun _ => Vector.replicate 16 0) init
        (quipcReleases ++ [.proc ⟨0, true⟩ false, .agpsClosed]) = some t ∧
      t.machine .wifi = some m ∧ m.mStatePtr = .releasing := by
  rcases wifi_stranded (fun _ => Vector.replicate 16 0) quipcReleases [.agpsClosed] rfl
    rfl ⟨0, .wifi 0 (some [65]) (some []) false⟩ (List.mem_singleton_self _) rfl rfl
    ⟨0, true⟩ false rfl with ⟨m, hm, hrel, _⟩
  exact ⟨_, m, rfl, hm, hrel⟩

end LocEngMachines

end Agps

end Victara
