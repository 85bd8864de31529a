import Mathlib.Data.List.Perm.Basic

/-!
# Opening an Emergency Data Call

`ds_client_open_call`: find the service that knows the data profiles, ask for
the list of them, and then for the settings of one after the other until there
is one that supports emergency calls. A session is made for that one.

Every outcome of every call that is made on the way is in an `OpenEnv`. What is
taken and what is given back is written down in `acquired` and `released`. A
release counts even if it fails, as nothing more can be done about it.

The label `err` frees the two response buffers and nothing else. So a client
that has been initialized stays, if the search fails after that, and a
notifier stays if there is no client in the end. The session is stored before
the last call that can fail. `allOrNothing_iff` has the outcomes for which none
of that happens.

The call is cut into the search for the service, the search through the
profiles, and the session. Each part says which of its outcomes goes on to the
next, and what it takes and gives back in each. With nothing failing on the way
the resources are those that the last lines release; with a failure in between
the client stays, and with no client the notifier does, if there is one.

## Main definitions

* `DsClientStatus`, `Reply`: What the calls return.
* `Reply.status`: `ds_client_send_qmi_sync_req`, with
  `ds_client_convert_qmi_response`.
* `SettingsMsg`: The optional fields of an answer that are read.
* `SettingsResp`: `wds_get_profile_settings_resp_msg_v01`, as far as it is read.
* `SettingsResp.zero`: After `calloc` or `memset`.
* `SettingsResp.receive`: An answer is received.
* `SettingsResp.ipVersion`: The `pdp_type` that the caller gets.
* `ProfileEntry`: A profile, with what is answered about it.
* `Retry`: What happens in a round of waiting: the number of services, if they
  can be told at once, whether the wait times out, and the number after it.
* `OpenEnv`: The outcomes of the calls.
* `Resource`: What has to be given back.
* `Session`: `ds_client_session_data`.
* `Opening`: What the caller has, and what has been taken and given back.
* `start`: Before the call.
* `Retry.found`: The number of services that a round ends with.
* `Retry.noSignal`: The value of `no_signal` that a round ends with.
* `retryLoop`: The loop that waits for the service, `round` times done.
* `connect`: The rest of `ds_client_qmi_ctrl_point_init`, once there is a number
  of services or an error.
* `dsClientQmiCtrlPointInit`: The client.
* `OpenEnv.profiles`: The list that `ds_client_get_profile_list` leaves in the
  response.
* `dsClientGetProfileList`, `searchLoop`: The profiles.
* `openSession`: What is done with a profile, and with none.
* `searchProfiles`: The rest of `ds_client_open_call`, once there is a client.
* `dsClientOpenCall`: The function.
* `ProfileEntry.supports`: The settings are valid and support emergency calls.
* `Opened`: The caller has a session with a handle, and the index of the first
  profile that supports emergency calls.
* `AllOrNothing`: What is said of it.
* `Appears`: The service comes up in one of the ten rounds.
* `Connects`: With so many services, a client can be initialized.
* `Notified`: There is a notifier, to wait for the service.
* `Up`: There is a client.
* `Searched`: Nothing fails before the first profile that supports emergency
  calls.
* `Kept`: There is no such profile, or everything goes well after that, or the
  caller had what is stored already.
* `OpenEnv.Clean`: When it is true.
* `Opening.withClient`: What has been taken and given back once there is a
  client.
* `Opening.withProfiles`: What is held once a profile has been looked for.
* `goesWell`: One profile, which supports emergency calls, and everything goes
  well.

## Theorems

* `waits_iff`: A round after which the loop goes on is one that times out.
* `retryLoop_eq_some`: The service comes up while it is waited for.
* `init_up`, `init_not_up`: With a client and without one.
* `supports_receive`: In a buffer that has been cleared, the flags are those of
  the answer.
* `searchLoop_answered`: The loop is a search, though the buffer is used again.
* `not_released`: A resource that has been taken and not given back.
* `searchProfiles_not_searched`: What fails on the way leaves the client.
* `searchProfiles_searched`: With a profile, the session is come to.
* `openSession_ledger`: The client is released whatever becomes of the session.
* `openSession_outcome`: What the caller is left with.
* `openSession_allOrNothing`: When the session is made, the client and the two
  buffers are left to be given back, and they are.
* `left_of_taken`: What has been taken has been taken once, and the client and
  the two buffers are left of it.
* `allOrNothing_iff`: The outcomes for which it is all or nothing.
-/

namespace Victara

namespace DsApi

/-- The values of `ds_client_status_enum_type` that are returned here. -/
inductive DsClientStatus
  | success
  | failureGeneral
  | failureTimeout
  | failureInternal
  | failureNotEnoughMemory
  | retryLater
  deriving DecidableEq, Repr

/-- A synchronous request: it is not sent, or it is answered with an error, or
    it is answered. -/
inductive Reply (α : Type)
  | notSent
  | error
  | resp (a : α)
  deriving DecidableEq, Repr

/-- `ds_client_send_qmi_sync_req`, with `ds_client_convert_qmi_response`. -/
def Reply.status {α : Type} : Reply α → DsClientStatus
  | .notSent => .failureInternal
  | .error => .failureGeneral
  | .resp _ => .success

inductive WdsPdpType
  | ipv4
  | ppp
  | ipv6
  | ipv4v6
  deriving DecidableEq, Repr

inductive DsiIpVersion
  | v4
  | v6
  | v4_6
  deriving DecidableEq, Repr

/-- The optional fields of an answer that are read. -/
structure SettingsMsg where
  support_emergency_calls : Option UInt8
  pdp_type : Option WdsPdpType
  deriving DecidableEq, Repr

/-- `wds_get_profile_settings_resp_msg_v01`, as far as it is read. -/
structure SettingsResp where
  support_emergency_calls_valid : Bool
  support_emergency_calls : UInt8
  pdp_type_valid : Bool
  pdp_type : WdsPdpType
  deriving DecidableEq, Repr

/-- After `calloc` or `memset`. -/
def SettingsResp.zero : SettingsResp where
  support_emergency_calls_valid := false
  support_emergency_calls := 0
  pdp_type_valid := false
  pdp_type := .ipv4

/-- An answer is received. What is not in it stays as it was. -/
def SettingsResp.receive (resp : SettingsResp) (msg : SettingsMsg) : SettingsResp where
  support_emergency_calls_valid :=
    msg.support_emergency_calls.isSome || resp.support_emergency_calls_valid
  support_emergency_calls := msg.support_emergency_calls.getD resp.support_emergency_calls
  pdp_type_valid := msg.pdp_type.isSome || resp.pdp_type_valid
  pdp_type := msg.pdp_type.getD resp.pdp_type

/-- The `pdp_type` that the caller gets. -/
def SettingsResp.ipVersion (resp : SettingsResp) : DsiIpVersion :=
  if resp.pdp_type_valid then
    match resp.pdp_type with
    | .ipv4 => .v4
    | .ipv6 => .v6
    | .ipv4v6 => .v4_6
    | .ppp => .v4
  else .v4

/-- An element of `profile_list`, and what is answered when its settings are
    asked for. -/
structure ProfileEntry where
  profile_index : Nat
  settings : Reply SettingsMsg
  deriving DecidableEq, Repr

/-- What happens in a round of waiting: the number of services, if they can be
    told at once, whether the wait times out, and the number after it. -/
structure Retry where
  before : Option Nat
  timedOut : Bool
  after : Option Nat
  deriving DecidableEq, Repr

/-- The arguments, if they are not `NULL`, and the outcome of each call. -/
structure OpenEnv where
  callback : Option Nat
  caller_cookie : Nat
  client_handle : Bool
  service_object : Bool
  first : Option Nat
  notifier_init : Bool
  retry : Nat → Retry
  service_info : Bool
  populate : Bool
  client_init : Bool
  profile_list_resp : Bool
  profile_list_req : Bool
  profile_list : Reply (List ProfileEntry)
  profile_settings_resp : Bool
  release : Bool
  session : Option Nat
  dsi_handle : Option Nat

/-- What has to be given back. -/
inductive Resource
  | notifier
  | serviceInfo
  | wdsClient
  | profileListResp
  | profileListReq
  | profileSettingsResp
  deriving DecidableEq, Repr

/-- `ds_client_session_data` -/
structure Session where
  dsi_net_handle : Option Nat
  event_cb : Nat
  caller_cookie : Nat
  deriving DecidableEq, Repr

/-- The caller's variables, the session that has been allocated, with its
    address, and what has been taken and given back, in order. -/
structure Opening where
  client_handle : Option Nat
  profile_index : Option Nat
  pdp_type : Option DsiIpVersion
  session : Option (Nat × Session)
  acquired : List Resource
  released : List Resource
  deriving DecidableEq, Repr

namespace Opening

/-- Before the call. -/
def start (client_handle : Option Nat) : Opening where
  client_handle := client_handle
  profile_index := none
  pdp_type := none
  session := none
  acquired := []
  released := []

def acquire (s : Opening) (r : Resource) : Opening := { s with acquired := s.acquired ++ [r] }

def release (s : Opening) (r : Resource) : Opening := { s with released := s.released ++ [r] }

/-- The label `err`, with whether there is a buffer of each kind. -/
def err (s : Opening) (list settings : Bool) : Opening :=
  let s := if list then s.release .profileListResp else s
  if settings then s.release .profileSettingsResp else s

end Opening

def DS_CLIENT_SERVICE_TIMEOUT : Nat := 4000

def DS_CLIENT_SERVICE_TIMEOUT_TOTAL : Nat := 40000

/-- The number of services that a round ends with. -/
def Retry.found (r : Retry) : Option Nat :=
  match r.before with
  | some n => some n
  | none => if r.timedOut then none else r.after

/-- The value of `no_signal` that a round ends with. -/
def Retry.noSignal (r : Retry) (no_signal : Bool) : Bool :=
  if r.before = none then r.timedOut else no_signal

/-- The loop that waits for the service, `round` times done. -/
def retryLoop (env : OpenEnv) (round timeout : Nat) (no_signal : Bool) : Option Nat × Bool :=
  let r := env.retry round
  let timeout := timeout + DS_CLIENT_SERVICE_TIMEOUT
  if timeout < DS_CLIENT_SERVICE_TIMEOUT_TOTAL ∧ r.noSignal no_signal = true ∧ r.found = none then
    retryLoop env (round + 1) timeout (r.noSignal no_signal)
  else (r.found, r.noSignal no_signal)
termination_by DS_CLIENT_SERVICE_TIMEOUT_TOTAL - timeout
decreasing_by
  simp only [DS_CLIENT_SERVICE_TIMEOUT, DS_CLIENT_SERVICE_TIMEOUT_TOTAL] at *
  omega

/-- The rest of `ds_client_qmi_ctrl_point_init`, once there is a number of
    services or an error. -/
def connect (env : OpenEnv) (num_services : Option Nat) (no_signal notifier : Bool)
    (s : Opening) : DsClientStatus × Opening :=
  if num_services.getD 0 = 0 then
    (if no_signal then .failureTimeout else .failureInternal, s)
  else if env.service_info = false then (.failureInternal, s)
  else
    let s := s.acquire .serviceInfo
    if env.populate = false ∨ env.client_init = false then
      (.failureInternal, s.release .serviceInfo)
    else
      let s := s.acquire .wdsClient
      let s := if notifier then s.release .notifier else s
      (.success, s.release .serviceInfo)

def dsClientQmiCtrlPointInit (env : OpenEnv) (s : Opening) : DsClientStatus × Opening :=
  if env.service_object = false then (.failureInternal, s)
  else match env.first with
    | some n => connect env (some n) false false s
    | none =>
      if env.notifier_init = false then (.failureInternal, s)
      else
        let services := retryLoop env 0 0 false
        connect env services.1 services.2 true (s.acquire .notifier)

/-- The list that `ds_client_get_profile_list` leaves in the response. Without
    memory for the request it is not asked for. -/
def OpenEnv.profiles (env : OpenEnv) : List ProfileEntry :=
  match env.profile_list_req, env.profile_list with
  | true, .resp list => list
  | _, _ => []

def dsClientGetProfileList (env : OpenEnv) (s : Opening) : DsClientStatus × Opening :=
  if env.profile_list_req = false then (.success, s)
  else (env.profile_list.status, (s.acquire .profileListReq).release .profileListReq)

/-- The loop over the profiles, with the response buffer it uses again. -/
def searchLoop : List ProfileEntry → SettingsResp → Opening →
    DsClientStatus × Option Nat × Opening
  | [], _, s => (.success, none, s)
  | entry :: list, resp, s =>
    match entry.settings with
    | .notSent => (Reply.status entry.settings, none, s)
    | .error => (Reply.status entry.settings, none, s)
    | .resp msg =>
      let resp := resp.receive msg
      if resp.support_emergency_calls_valid = true ∧ resp.support_emergency_calls ≠ 0 then
        (.success, some entry.profile_index, { s with pdp_type := some resp.ipVersion })
      else searchLoop list .zero s

/-- What is done with a profile, and with none. -/
def openSession (env : OpenEnv) (event_cb : Nat) (found : Option Nat) (s : Opening) :
    DsClientStatus × Opening :=
  let s := s.release .wdsClient
  match found with
  | none => (.failureGeneral, s)
  | some index =>
    let s := { s with profile_index := some index, client_handle := env.session }
    match env.session with
    | none => (.failureNotEnoughMemory, s)
    | some a =>
      let session : Session := ⟨none, event_cb, env.caller_cookie⟩
      match env.dsi_handle with
      | none => (.retryLater, { s with session := some (a, session) })
      | some h =>
        (if env.release then .success else .failureGeneral,
          { s with session := some (a, { session with dsi_net_handle := some h }) })

/-- The rest of `ds_client_open_call`, once there is a client. -/
def searchProfiles (env : OpenEnv) (event_cb : Nat) (s : Opening) : DsClientStatus × Opening :=
  if env.profile_list_resp = false then (.failureNotEnoughMemory, s)
  else
    let list := dsClientGetProfileList env (s.acquire .profileListResp)
    if list.1 ≠ .success then (list.1, list.2.err true false)
    else if env.profile_settings_resp = false then
      (.failureNotEnoughMemory, list.2.err true false)
    else
      let search := searchLoop env.profiles .zero (list.2.acquire .profileSettingsResp)
      if search.1 ≠ .success then (search.1, search.2.2.err true true)
      else
        let opened := openSession env event_cb search.2.1 search.2.2
        (opened.1, opened.2.err true true)

def dsClientOpenCall (env : OpenEnv) (s : Opening) : DsClientStatus × Opening :=
  match env.callback with
  | none => (.failureGeneral, s)
  | some event_cb =>
    if env.client_handle = false then (.failureGeneral, s)
    else
      let init := dsClientQmiCtrlPointInit env s
      if init.1 ≠ .success then init else searchProfiles env event_cb init.2

/-! ## What is said of it -/

/-- The settings are valid and support emergency calls. -/
def ProfileEntry.supports (entry : ProfileEntry) : Bool :=
  match entry.settings with
  | .resp msg => msg.support_emergency_calls.any (· != 0)
  | _ => false

/-- The caller has a session with a handle, and the index of the first profile
    that supports emergency calls. -/
structure Opened (env : OpenEnv) (t : Opening) : Prop where
  session : ∃ a session, t.client_handle = some a ∧ t.session = some (a, session) ∧
    session.dsi_net_handle ≠ none
  profile : ∃ entry, env.profiles.find? (·.supports) = some entry ∧
    t.profile_index = some entry.profile_index

/-- All or nothing, and everything that was taken has been given back once. The
    handle is the caller's as before if nothing has come of it. What the session
    stands for is not among the things that are given back. -/
structure AllOrNothing (env : OpenEnv) (client_handle : Option Nat)
    (r : DsClientStatus × Opening) : Prop where
  outcome : r.1 = .success ∧ Opened env r.2 ∨
    r.1 ≠ .success ∧ r.2.client_handle = client_handle
  once : r.2.acquired.Nodup
  released : r.2.acquired.Perm r.2.released

/-! ## When it is true -/

namespace OpenEnv

/-- The service comes up in one of the ten rounds. -/
def Appears (env : OpenEnv) (n : Nat) : Prop :=
  ∃ k, k < 10 ∧ (∀ j, j < k → (env.retry j).before = none ∧ (env.retry j).timedOut = true) ∧
    (env.retry k).found = some n

/-- With so many services, a client can be initialized. -/
def Connects (env : OpenEnv) (n : Nat) : Prop :=
  n ≠ 0 ∧ env.service_info = true ∧ env.populate = true ∧ env.client_init = true

/-- There is a notifier, to wait for the service. -/
def Notified (env : OpenEnv) : Prop :=
  env.service_object = true ∧ env.first = none ∧ env.notifier_init = true

/-- There is a client. -/
def Up (env : OpenEnv) : Prop :=
  env.service_object = true ∧
    ∃ n, env.Connects n ∧ (env.first = some n ∨ env.Notified ∧ env.Appears n)

/-- Nothing fails before the first profile that supports emergency calls. -/
structure Searched (env : OpenEnv) : Prop where
  listResp : env.profile_list_resp = true
  list : env.profile_list_req = true → env.profile_list.status = .success
  settingsResp : env.profile_settings_resp = true
  settings : ∀ entry ∈ env.profiles.takeWhile (!·.supports), entry.settings.status = .success

/-- There is no such profile, or everything goes well after that, or the caller
    had what is stored already. -/
def Kept (env : OpenEnv) (client_handle : Option Nat) : Prop :=
  env.profiles.find? (·.supports) = none ∨
    env.session ≠ none ∧ env.dsi_handle ≠ none ∧ env.release = true ∨
    client_handle = env.session

/-- Nothing is tried, or there is no client and no notifier, or there is a
    client and nothing fails until it is released. The label `err` frees the
    response buffers and nothing else, so that a failure is harmless only where
    nothing has been acquired before; and the session is stored before the last
    call that can fail. -/
def Clean (env : OpenEnv) (client_handle : Option Nat) : Prop :=
  env.callback = none ∨ env.client_handle = false ∨ ¬ env.Up ∧ ¬ env.Notified ∨
    env.Up ∧ env.Searched ∧ env.Kept client_handle

end OpenEnv

/-! ## The client -/

theorem found_isNone_of_waits {r : Retry} (hbefore : r.before = none) (hwait : r.timedOut = true) :
    r.found = none := by
  rw [Retry.found, hbefore]
  exact if_pos hwait

/-- A round after which the loop goes on is one that times out. -/
theorem waits_iff (r : Retry) (no_signal : Bool) (hfound : r.found = none) :
    r.noSignal no_signal = true ↔ r.before = none ∧ r.timedOut = true := by
  unfold Retry.noSignal
  by_cases hbefore : r.before = none
  · rw [if_pos hbefore]
    exact ⟨fun h => ⟨hbefore, h⟩, fun h => h.2⟩
  · rcases hnum : r.before with _ | n
    · exact absurd hnum hbefore
    · unfold Retry.found at hfound
      rw [hnum] at hfound
      cases hfound

/-- The loop goes on while the wait times out, until the tenth round. -/
theorem retryLoop_eq_some (env : OpenEnv) {n : Nat} (round timeout : Nat) (no_signal : Bool)
    (htimeout : timeout = DS_CLIENT_SERVICE_TIMEOUT * round) (hround : round < 10) :
    (retryLoop env round timeout no_signal).1 = some n ↔
      ∃ k, round ≤ k ∧ k < 10 ∧
        (∀ j, round ≤ j → j < k → (env.retry j).before = none ∧ (env.retry j).timedOut = true) ∧
        (env.retry k).found = some n := by
  fun_induction retryLoop env round timeout no_signal with
  | case1 round timeout no_signal r timeout' hgo ih =>
      obtain ⟨hless, hsignal, hnone⟩ := hgo
      have hwait := (waits_iff r no_signal hnone).mp hsignal
      simp only [DS_CLIENT_SERVICE_TIMEOUT, DS_CLIENT_SERVICE_TIMEOUT_TOTAL, timeout'] at *
      rw [ih (by omega) (by omega)]
      constructor
      · rintro ⟨k, hk, hk10, hall, hfound⟩
        refine ⟨k, by omega, hk10, fun j hj hjk => ?_, hfound⟩
        by_cases hjr : j = round
        · exact hjr ▸ hwait
        · exact hall j (by omega) hjk
      · rintro ⟨k, hk, hk10, hall, hfound⟩
        -- It is not this round, as nothing has been found in it.
        have hne : k ≠ round := by
          intro h
          rw [h] at hfound
          exact Option.some_ne_none n (hfound.symm.trans hnone)
        exact ⟨k, by omega, hk10, fun j hj hjk => hall j (by omega) hjk, hfound⟩
  | case2 round timeout no_signal r timeout' hstop =>
      simp only [DS_CLIENT_SERVICE_TIMEOUT, DS_CLIENT_SERVICE_TIMEOUT_TOTAL, timeout'] at *
      constructor
      · intro hfound
        exact ⟨round, Nat.le_refl round, hround, fun j hj hjk => by omega, hfound⟩
      · rintro ⟨k, hk, hk10, hall, hfound⟩
        -- A later round has been waited for, so this one would have gone on.
        by_cases hkr : k = round
        · rw [hkr] at hfound
          exact hfound
        · have hwait := hall round (Nat.le_refl round) (by omega)
          have hnone := found_isNone_of_waits hwait.1 hwait.2
          exact absurd ⟨by omega, (waits_iff r no_signal hnone).mpr hwait, hnone⟩ hstop

theorem retryLoop_appears (env : OpenEnv) (n : Nat) :
    (retryLoop env 0 0 false).1 = some n ↔ env.Appears n := by
  rw [retryLoop_eq_some env 0 0 false rfl (by omega), OpenEnv.Appears]
  refine exists_congr fun k => ?_
  simp only [Nat.zero_le, true_and, forall_const]

theorem connect_connects {env : OpenEnv} {n : Nat} (h : env.Connects n) (no_signal : Bool)
    (notifier : Bool) (s : Opening) :
    connect env (some n) no_signal notifier s =
      (.success, { s with
        acquired := s.acquired ++ [.serviceInfo, .wdsClient]
        released := s.released ++ (if notifier then [.notifier] else []) ++ [.serviceInfo] }) := by
  obtain ⟨hn, hinfo, hpopulate, hinit⟩ := h
  unfold connect
  rw [if_neg (by simpa using hn), if_neg (by simp [hinfo]), if_neg (by simp [hpopulate, hinit])]
  cases notifier <;> simp [Opening.acquire, Opening.release]

theorem connect_not_connects {env : OpenEnv} {services : Option Nat}
    (h : ∀ n, services = some n → ¬ env.Connects n) (no_signal notifier : Bool) (s : Opening) :
    ∃ ret info, ret ≠ DsClientStatus.success ∧ (info = [] ∨ info = [Resource.serviceInfo]) ∧
      connect env services no_signal notifier s =
        (ret, { s with acquired := s.acquired ++ info, released := s.released ++ info }) := by
  unfold connect
  by_cases hzero : services.getD 0 = 0
  · refine ⟨_, [], ?_, Or.inl rfl, by rw [if_pos hzero, List.append_nil, List.append_nil]⟩
    cases no_signal <;> simp
  rw [if_neg hzero]
  by_cases hinfo : env.service_info = false
  · exact ⟨.failureInternal, [], by simp, Or.inl rfl, by simp [hinfo]⟩
  rw [if_neg hinfo]
  by_cases hclient : env.populate = false ∨ env.client_init = false
  · exact ⟨.failureInternal, [.serviceInfo], by simp, Or.inr rfl, by rw [if_pos hclient]; rfl⟩
  -- Everything has gone well, so there is a client.
  rcases hnum : services with _ | n
  · rw [hnum] at hzero
    exact absurd rfl hzero
  · rw [not_or, Bool.not_eq_false, Bool.not_eq_false] at hclient
    rw [hnum] at hzero
    exact absurd ⟨hzero, by simpa using hinfo, hclient.1, hclient.2⟩ (h n hnum)

/-- What has been taken and given back once there is a client. -/
def Opening.withClient (s : Opening) (note : List Resource) : Opening :=
  { s with
    acquired := s.acquired ++ note ++ [.serviceInfo, .wdsClient]
    released := s.released ++ note ++ [.serviceInfo] }

/-- And once a profile has been looked for. -/
def Opening.withProfiles (s : Opening) (req : List Resource) (pdp_type : Option DsiIpVersion) :
    Opening :=
  { s with
    acquired := s.acquired ++ .profileListResp :: req ++ [.profileSettingsResp]
    released := s.released ++ req
    pdp_type }

/-- With a client. -/
theorem init_up {env : OpenEnv} (h : env.Up) (s : Opening) :
    ∃ note, (note = [] ∨ note = [Resource.notifier]) ∧
      dsClientQmiCtrlPointInit env s = (.success, s.withClient note) := by
  obtain ⟨hobject, n, hconnects, hfirst | ⟨hnotified, happears⟩⟩ := h
  · refine ⟨[], Or.inl rfl, ?_⟩
    unfold dsClientQmiCtrlPointInit
    rw [if_neg (by simp [hobject]), hfirst]
    simp only [connect_connects hconnects, Bool.false_eq_true, if_false, List.append_nil,
      Opening.withClient]
  · refine ⟨[.notifier], Or.inr rfl, ?_⟩
    unfold dsClientQmiCtrlPointInit
    rw [if_neg (by simp [hobject]), hnotified.2.1]
    simp only [hnotified.2.2, Bool.true_eq_false, if_false, (retryLoop_appears env n).mpr happears,
      connect_connects hconnects, if_true, Opening.acquire, Opening.withClient]

/-- Without one. Then a notifier stays, if there is one. -/
theorem init_not_up {env : OpenEnv} (h : ¬ env.Up) (s : Opening) :
    ∃ ret note info, ret ≠ DsClientStatus.success ∧
      (env.Notified ∧ note = [Resource.notifier] ∨ ¬ env.Notified ∧ note = []) ∧
      (info = [] ∨ info = [Resource.serviceInfo]) ∧
      dsClientQmiCtrlPointInit env s =
        (ret, { s with acquired := s.acquired ++ note ++ info, released := s.released ++ info }) := by
  unfold dsClientQmiCtrlPointInit
  by_cases hobject : env.service_object = false
  · exact ⟨.failureInternal, [], [], by simp, Or.inr ⟨by simp [OpenEnv.Notified, hobject], rfl⟩,
      Or.inl rfl, by simp [hobject]⟩
  rw [if_neg hobject]
  rw [Bool.not_eq_false] at hobject
  -- The service is looked up once, and if it is not there a notifier waits for it.
  rcases hfirst : env.first with _ | n
  · by_cases hinit : env.notifier_init = false
    · exact ⟨.failureInternal, [], [], by simp, Or.inr ⟨by simp [OpenEnv.Notified, hinit], rfl⟩,
        Or.inl rfl, by simp [hinit]⟩
    rw [Bool.not_eq_false] at hinit
    have hnotified : env.Notified := ⟨hobject, hfirst, hinit⟩
    -- If it came up while it is waited for and could be connected to, there would be a client.
    have hnot : ∀ n, (retryLoop env 0 0 false).1 = some n → ¬ env.Connects n := by
      intro n hn hconnects
      exact h ⟨hobject, n, hconnects, Or.inr ⟨hnotified, (retryLoop_appears env n).mp hn⟩⟩
    obtain ⟨ret, info, hret, hinfo, heq⟩ := connect_not_connects hnot
      (retryLoop env 0 0 false).2 true (s.acquire .notifier)
    refine ⟨ret, [.notifier], info, hret, Or.inl ⟨hnotified, rfl⟩, hinfo, ?_⟩
    simp only [hinit, Bool.true_eq_false, if_false, heq]
    rfl
  · have hnot : ∀ m, some n = some m → ¬ env.Connects m := by
      rintro m hm hconnects
      exact h ⟨hobject, m, hconnects, Or.inl (hfirst.trans hm)⟩
    obtain ⟨ret, info, hret, hinfo, heq⟩ := connect_not_connects hnot false false s
    refine ⟨ret, [], info, hret, Or.inr ⟨fun hnotified => ?_, rfl⟩, hinfo, ?_⟩
    · exact Option.some_ne_none n (hfirst.symm.trans hnotified.2.1)
    · simp only [heq, List.append_nil]

/-! ## The search -/

/-- In a buffer that has been cleared, the flags are those of the answer. -/
theorem supports_receive (entry : ProfileEntry) {msg : SettingsMsg}
    (h : entry.settings = .resp msg) :
    (SettingsResp.zero.receive msg).support_emergency_calls_valid = true ∧
      (SettingsResp.zero.receive msg).support_emergency_calls ≠ 0 ↔ entry.supports = true := by
  unfold ProfileEntry.supports
  rw [h]
  rcases hvalue : msg.support_emergency_calls with _ | value
  · simp [SettingsResp.receive, SettingsResp.zero, hvalue]
  · simp [SettingsResp.receive, hvalue]

theorem status_eq_success_iff {α : Type} (reply : Reply α) :
    reply.status = .success ↔ ∃ a, reply = .resp a := by
  rcases reply with _ | _ | a <;> simp [Reply.status]

/-- The loop stops at the first profile that supports emergency calls, if it
    gets there. -/
theorem searchLoop_answered (list : List ProfileEntry) (s : Opening)
    (h : ∀ entry ∈ list.takeWhile (!·.supports), entry.settings.status = .success) :
    ∃ pdp_type, searchLoop list .zero s =
      (.success, (list.find? (·.supports)).map (·.profile_index), { s with pdp_type }) := by
  induction list with
  | nil => exact ⟨s.pdp_type, rfl⟩
  | cons entry list ih =>
      by_cases hsupports : entry.supports = true
      · rcases hreply : entry.settings with _ | _ | msg
        · simp [ProfileEntry.supports, hreply] at hsupports
        · simp [ProfileEntry.supports, hreply] at hsupports
        · refine ⟨some (SettingsResp.zero.receive msg).ipVersion, ?_⟩
          unfold searchLoop
          simp only [hreply]
          rw [if_pos ((supports_receive entry hreply).mpr hsupports), List.find?_cons_of_pos hsupports]
          rfl
      · rw [List.takeWhile_cons_of_pos (by simpa using hsupports)] at h
        obtain ⟨msg, hreply⟩ := (status_eq_success_iff _).mp (h entry List.mem_cons_self)
        obtain ⟨pdp_type, hrest⟩ := ih fun other hother => h other (List.mem_cons_of_mem entry hother)
        refine ⟨pdp_type, ?_⟩
        unfold searchLoop
        simp only [hreply]
        rw [if_neg (mt (supports_receive entry hreply).mp hsupports),
          List.find?_cons_of_neg hsupports]
        exact hrest

theorem searchLoop_not_answered (list : List ProfileEntry) (s : Opening)
    (h : ¬ ∀ entry ∈ list.takeWhile (!·.supports), entry.settings.status = .success) :
    ∃ ret, ret ≠ DsClientStatus.success ∧ searchLoop list .zero s = (ret, none, s) := by
  induction list with
  | nil => exact absurd (fun entry hentry => absurd hentry List.not_mem_nil) h
  | cons entry list ih =>
      unfold searchLoop
      rcases hreply : entry.settings with _ | _ | msg
      · exact ⟨.failureInternal, by simp, rfl⟩
      · exact ⟨.failureGeneral, by simp, rfl⟩
      · -- It has been answered, so it is one of the others that has not been.
        by_cases hsupports : entry.supports = true
        · rw [List.takeWhile_cons_of_neg (by simpa using hsupports)] at h
          exact absurd (fun other hother => absurd hother List.not_mem_nil) h
        · rw [List.takeWhile_cons_of_pos (by simpa using hsupports)] at h
          simp only [List.forall_mem_cons, hreply, Reply.status, true_and] at h
          obtain ⟨ret, hret, hrest⟩ := ih h
          refine ⟨ret, hret, ?_⟩
          simp only
          rw [if_neg (mt (supports_receive entry hreply).mp hsupports)]
          exact hrest

/-! ## The whole call -/

namespace Opening

@[simp] theorem acquire_acquired (s : Opening) (r : Resource) :
    (s.acquire r).acquired = s.acquired ++ [r] := rfl

@[simp] theorem acquire_released (s : Opening) (r : Resource) :
    (s.acquire r).released = s.released := rfl

@[simp] theorem err_acquired (s : Opening) (list settings : Bool) :
    (s.err list settings).acquired = s.acquired := by
  cases list <;> cases settings <;> rfl

@[simp] theorem err_released (s : Opening) (list settings : Bool) :
    (s.err list settings).released = s.released ++ (if list then [.profileListResp] else []) ++
      if settings then [.profileSettingsResp] else [] := by
  cases list <;> cases settings <;> simp [err, release]

end Opening

/-- A resource that has been taken and not given back. -/
theorem not_released {env : OpenEnv} {client_handle : Option Nat} {r : DsClientStatus × Opening}
    (resource : Resource) (htaken : resource ∈ r.2.acquired) (hkept : resource ∉ r.2.released) :
    ¬ AllOrNothing env client_handle r :=
  fun h => hkept (h.released.mem_iff.mp htaken)

theorem getProfileList_eq (env : OpenEnv) (s : Opening) :
    ∃ req, (req = [] ∨ req = [Resource.profileListReq]) ∧
      (dsClientGetProfileList env s).2 =
        { s with acquired := s.acquired ++ req, released := s.released ++ req } := by
  unfold dsClientGetProfileList
  by_cases hreq : env.profile_list_req = false
  · rw [if_pos hreq]
    exact ⟨[], Or.inl rfl, by simp⟩
  · rw [if_neg hreq]
    exact ⟨[.profileListReq], Or.inr rfl, rfl⟩

theorem getProfileList_status (env : OpenEnv) (s : Opening) :
    (dsClientGetProfileList env s).1 = .success ↔
      (env.profile_list_req = true → env.profile_list.status = .success) := by
  unfold dsClientGetProfileList
  by_cases hreq : env.profile_list_req = false <;> simp [hreq]

/-- What fails on the way leaves the client as it is. -/
theorem searchProfiles_not_searched {env : OpenEnv} (h : ¬ env.Searched) (event_cb : Nat)
    (s : Opening) :
    ∃ taken freed, Resource.wdsClient ∉ freed ∧
      (searchProfiles env event_cb s).2.acquired = s.acquired ++ taken ∧
      (searchProfiles env event_cb s).2.released = s.released ++ freed := by
  unfold searchProfiles
  by_cases hlistResp : env.profile_list_resp = false
  · rw [if_pos hlistResp]
    exact ⟨[], [], List.not_mem_nil, (List.append_nil _).symm, (List.append_nil _).symm⟩
  rw [if_neg hlistResp]
  obtain ⟨req, hreq, hlist⟩ := getProfileList_eq env (s.acquire .profileListResp)
  have hwds : Resource.wdsClient ∉ req := by rcases hreq with rfl | rfl <;> simp
  by_cases hstatus : (dsClientGetProfileList env (s.acquire .profileListResp)).1 = .success
  case neg =>
    simp only [hstatus, ne_eq, not_false_eq_true, if_true, hlist]
    exact ⟨.profileListResp :: req, req ++ [.profileListResp], by simpa using hwds,
      by simp, by simp⟩
  by_cases hsettingsResp : env.profile_settings_resp = false
  · simp only [hstatus, ne_eq, not_true_eq_false, if_false, hsettingsResp, if_true, hlist]
    exact ⟨.profileListResp :: req, req ++ [.profileListResp], by simpa using hwds,
      by simp, by simp⟩
  -- All that is left is a profile that cannot be asked about.
  have hanswers : ¬ ∀ entry ∈ env.profiles.takeWhile (!·.supports),
      entry.settings.status = .success := fun hanswers =>
    h ⟨by simpa using hlistResp, (getProfileList_status env _).mp hstatus,
      by simpa using hsettingsResp, hanswers⟩
  obtain ⟨ret, hret, hsearch⟩ := searchLoop_not_answered env.profiles
    ((dsClientGetProfileList env (s.acquire .profileListResp)).2.acquire .profileSettingsResp)
    hanswers
  rw [hlist] at hsearch
  simp only [hstatus, ne_eq, not_true_eq_false, if_false, hsettingsResp, hlist, hsearch, hret,
    not_false_eq_true, if_true]
  exact ⟨.profileListResp :: req ++ [.profileSettingsResp],
    req ++ [.profileListResp, .profileSettingsResp], by simpa using hwds, by simp,
    by simp⟩

/-- Otherwise it comes to the session. -/
theorem searchProfiles_searched {env : OpenEnv} (h : env.Searched) (event_cb : Nat) (s : Opening) :
    ∃ req pdp_type, (req = [] ∨ req = [Resource.profileListReq]) ∧
      searchProfiles env event_cb s =
        let opened := openSession env event_cb
          ((env.profiles.find? (·.supports)).map (·.profile_index)) (s.withProfiles req pdp_type)
        (opened.1, opened.2.err true true) := by
  obtain ⟨req, hreq, hlist⟩ := getProfileList_eq env (s.acquire .profileListResp)
  obtain ⟨pdp_type, hsearch⟩ := searchLoop_answered env.profiles
    ((dsClientGetProfileList env (s.acquire .profileListResp)).2.acquire .profileSettingsResp)
    h.settings
  refine ⟨req, pdp_type, hreq, ?_⟩
  rw [hlist] at hsearch
  unfold searchProfiles
  simp only [h.listResp, Bool.true_eq_false, if_false, (getProfileList_status env _).mpr h.list,
    ne_eq, not_true_eq_false, h.settingsResp, hsearch, hlist]
  simp only [Opening.acquire, Opening.withProfiles, List.append_assoc, List.cons_append,
    List.nil_append]

/-- The client is released whatever becomes of the session. -/
theorem openSession_ledger (env : OpenEnv) (event_cb : Nat) (found : Option Nat) (s : Opening) :
    (openSession env event_cb found s).2.acquired = s.acquired ∧
      (openSession env event_cb found s).2.released = s.released ++ [.wdsClient] := by
  unfold openSession
  rcases found with _ | index
  · exact ⟨rfl, rfl⟩
  rcases hsession : env.session with _ | a
  · exact ⟨rfl, rfl⟩
  rcases hdsi : env.dsi_handle with _ | dsi_handle <;> exact ⟨rfl, rfl⟩

/-- What the caller is left with. -/
theorem openSession_outcome (env : OpenEnv) (event_cb : Nat) (s : Opening) :
    let r := openSession env event_cb
      ((env.profiles.find? (·.supports)).map (·.profile_index)) s
    (r.1 = .success ∧ Opened env r.2 ∨ r.1 ≠ .success ∧ r.2.client_handle = s.client_handle) ↔
      env.Kept s.client_handle := by
  unfold OpenEnv.Kept
  rcases hfound : env.profiles.find? (·.supports) with _ | entry
  · simp [openSession, hfound, Opening.release]
  rcases hsession : env.session with _ | a
  · simpa [openSession, hfound, hsession] using eq_comm
  rcases hdsi : env.dsi_handle with _ | dsi_handle
  · simpa [openSession, hfound, hsession, hdsi] using eq_comm
  · -- Only the release can have failed, and that does not take the session back.
    by_cases hrelease : env.release = true
    · have hopened : Opened env { s.release .wdsClient with
          profile_index := some entry.profile_index
          client_handle := some a
          session := some (a, ⟨some dsi_handle, event_cb, env.caller_cookie⟩) } :=
        ⟨⟨a, _, rfl, rfl, Option.some_ne_none dsi_handle⟩, entry, hfound, rfl⟩
      simp [openSession, hfound, hsession, hdsi, hrelease, hopened]
    · simpa [openSession, hfound, hsession, hdsi, hrelease] using eq_comm

theorem opened_err (env : OpenEnv) (t : Opening) (list settings : Bool) :
    Opened env (t.err list settings) ↔ Opened env t := by
  cases list <;> cases settings <;> exact ⟨fun h => ⟨h.session, h.profile⟩, fun h => ⟨h.session, h.profile⟩⟩

/-- When the session is made, the client and the two buffers are left to be
    given back, and they are. -/
theorem openSession_allOrNothing (env : OpenEnv) (event_cb : Nat) (s : Opening)
    (honce : s.acquired.Nodup)
    (hleft : s.acquired.Perm
      (s.released ++ [.wdsClient, .profileListResp, .profileSettingsResp])) :
    let opened := openSession env event_cb
      ((env.profiles.find? (·.supports)).map (·.profile_index)) s
    AllOrNothing env s.client_handle (opened.1, opened.2.err true true) ↔
      env.Kept s.client_handle := by
  intro opened
  obtain ⟨hacquired, hreleased⟩ : opened.2.acquired = s.acquired ∧
      opened.2.released = s.released ++ [.wdsClient] := openSession_ledger env event_cb _ s
  have houtcome : (opened.1 = .success ∧ Opened env opened.2 ∨
      opened.1 ≠ .success ∧ opened.2.client_handle = s.client_handle) ↔ env.Kept s.client_handle :=
    openSession_outcome env event_cb s
  -- What is given back is settled by now, so the outcome alone decides.
  constructor
  · intro h
    refine houtcome.mp ?_
    rcases h.outcome with ⟨hret, hopened⟩ | ⟨hret, hsame⟩
    · exact Or.inl ⟨hret, (opened_err env opened.2 true true).mp hopened⟩
    · exact Or.inr ⟨hret, hsame⟩
  · intro h
    refine ⟨?_, ?_, ?_⟩
    · rcases houtcome.mpr h with ⟨hret, hopened⟩ | ⟨hret, hsame⟩
      · exact Or.inl ⟨hret, (opened_err env opened.2 true true).mpr hopened⟩
      · exact Or.inr ⟨hret, hsame⟩
    · rw [Opening.err_acquired, hacquired]
      exact honce
    · rw [Opening.err_acquired, Opening.err_released, hacquired, hreleased]
      simpa using hleft

open Resource in
/-- What has been taken has been taken once, and the client and the two buffers
    are left of it. -/
theorem left_of_taken {note req : List Resource} (hnote : note = [] ∨ note = [notifier])
    (hreq : req = [] ∨ req = [profileListReq]) :
    let taken := note ++ [serviceInfo, wdsClient] ++ profileListResp :: req ++ [profileSettingsResp]
    taken.Nodup ∧ taken.Perm
      (note ++ [serviceInfo] ++ req ++ [wdsClient, profileListResp, profileSettingsResp]) := by
  rcases hnote with rfl | rfl <;> rcases hreq with rfl | rfl <;> decide

/-- The outcomes for which it is all or nothing: a success with a session and a
    handle for it, or a failure with the handle as it was, and in both what was
    taken on the way given back. The outcomes of all the calls below are free. -/
theorem allOrNothing_iff (env : OpenEnv) (client_handle : Option Nat) :
    AllOrNothing env client_handle (dsClientOpenCall env (.start client_handle)) ↔
      env.Clean client_handle := by
  unfold OpenEnv.Clean
  rcases hcallback : env.callback with _ | event_cb
  · simp only [dsClientOpenCall, hcallback, true_or, iff_true]
    exact ⟨Or.inr ⟨by simp, rfl⟩, List.nodup_nil, List.Perm.nil⟩
  by_cases hhandle : env.client_handle = false
  · simp only [dsClientOpenCall, hcallback, hhandle, if_true, true_or, or_true, iff_true]
    exact ⟨Or.inr ⟨by simp, rfl⟩, List.nodup_nil, List.Perm.nil⟩
  by_cases hup : env.Up
  case neg =>
    obtain ⟨ret, note, info, hret, hnote, hinfo, hinit⟩ := init_not_up hup (.start client_handle)
    simp only [dsClientOpenCall, hcallback, hhandle, if_false, hinit, ne_eq, hret,
      not_false_eq_true, if_true, hup, true_and, false_and, or_false, reduceCtorEq, false_or]
    rcases hnote with ⟨hnotified, rfl⟩ | ⟨hnotified, rfl⟩
    · refine iff_of_false (not_released .notifier (by simp) ?_) (fun h => h hnotified)
      rcases hinfo with rfl | rfl <;> simp [Opening.start]
    · refine iff_of_true ⟨Or.inr ⟨hret, rfl⟩, ?_, ?_⟩ hnotified
      · rcases hinfo with rfl | rfl <;> simp [Opening.start]
      · exact List.Perm.refl info
  obtain ⟨note, hnote, hinit⟩ := init_up hup (.start client_handle)
  simp only [dsClientOpenCall, hcallback, hhandle, if_false, hinit, ne_eq, not_true_eq_false,
    hup, true_and, false_and, reduceCtorEq, false_or]
  by_cases hsearched : env.Searched
  case neg =>
    -- The client is there, and is not released.
    obtain ⟨taken, freed, hfreed, hacquired, hreleased⟩ := searchProfiles_not_searched hsearched
      event_cb ((Opening.start client_handle).withClient note)
    refine iff_of_false (not_released .wdsClient ?_ ?_) fun h => hsearched h.1
    · rw [hacquired]
      simp [Opening.withClient]
    · rw [hreleased]
      rcases hnote with rfl | rfl <;> simpa [Opening.start, Opening.withClient] using hfreed
  obtain ⟨req, pdp_type, hreq, hsearch⟩ := searchProfiles_searched hsearched event_cb
    ((Opening.start client_handle).withClient note)
  rw [hsearch]
  simp only [hsearched, true_and]
  have hleft := left_of_taken hnote hreq
  exact openSession_allOrNothing env event_cb
    (((Opening.start client_handle).withClient note).withProfiles req pdp_type)
    hleft.1 hleft.2

/-- One profile, which supports emergency calls, and everything goes well. -/
def goesWell : OpenEnv where
  callback := some 1
  caller_cookie := 2
  client_handle := true
  service_object := true
  first := some 1
  notifier_init := true
  retry := fun _ => ⟨none, true, none⟩
  service_info := true
  populate := true
  client_init := true
  profile_list_resp := true
  profile_list_req := true
  profile_list := .resp [⟨3, .resp ⟨some 1, none⟩⟩]
  profile_settings_resp := true
  release := true
  session := some 4
  dsi_handle := some 5

/-- The client stays when the list cannot be asked for, and the session when
    there is no handle for it. -/
theorem listNotSent_leaks :
    ¬ AllOrNothing { goesWell with profile_list := .notSent } none
        (dsClientOpenCall { goesWell with profile_list := .notSent } (.start none)) ∧
      ¬ AllOrNothing { goesWell with dsi_handle := none } none
        (dsClientOpenCall { goesWell with dsi_handle := none } (.start none)) := by
  refine ⟨not_released .wdsClient (by decide) (by decide), fun h => ?_⟩
  rcases h.outcome with ⟨hret, _⟩ | ⟨_, hsame⟩
  · exact absurd hret (by decide)
  · exact absurd hsame (by decide)

end DsApi

end Victara
