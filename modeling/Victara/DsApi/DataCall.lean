import Mathlib.Logic.Function.Basic
import Victara.Lib.StepSystem
import Victara.Agps.Machine
import Victara.DsApi.OpenCall

/-!
# Emergency Data Calls

The data calls of `LocApiV02`, over `ds_client.c`. A call is opened and started
in one go, stopped, and closed later. In between, events come from the DSI
library for the net handle, on a thread of its own. Each is handed to the
session that the net handle has been asked for with.

There is one handle, and an open stores the new session in it whatever was in
it before. If no net handle can be had, the session is stored all the same, and
the caller is told to try again later. So each time it does try again, a
session is left behind. That is never given back, and neither is the net handle
that it may have.

The address of a new session is not that of another one, and neither is a new
net handle.

An open has two outcomes that matter to the handle: it comes to a new session or
it does not, and `dsClientOpenCall_finds` says by which profile. Every other
step leaves the sessions, or removes that of the handle. A session that has lost
its handle is therefore there for good, and that happens just when an open
stores another one over it. That events find their session is true all the same:
net handles are told apart by the library.

## Main definitions

* `DsiNetEvt`, `netEvCb`: The events.
* `DataCallEvent`: What the callback of a session is given.
* `DsiRequest`: What is asked of the DSI library.
* `DataCalls`: The handle, the sessions and the net handles.
* `OpenEnv.passed`: What `openAndStartDataCall` passes: its callback and itself.
* `DataCallLabel`, `DataCalls.step`, `DataCalls.requests`: The steps.
* `DsiRequest.handle`: The net handle that a request is for.
* `session?`: What the handle points to.
* `store`: What an open has stored.
* `dsClientStartCall`: `ds_client_start_call`, with whether the request can be
  sent.
* `openAndStartDataCall`, `dsClientStopCall`, `dsClientCloseCall`: The calls.
* `Fresh`: What the allocators hand out is not in use.
* `netEvent`: What an event for a net handle comes to.
* `OpenEnv.Finds`: An open comes to a session.
* `ProfileEntry.ipVersion`: The IP version of a profile, for the DSI library.
* `OnlySession`, `LeftBehind`: No session is left behind, and one is.
* `StoresAlone`: An open that comes to a session finds no handle.
* `OpenEnv.status`: What an open that comes to a session returns.
* `withSession`: With the session of an open that comes to one.
* `Owned`: A net handle belongs to the session it has been asked for with, and a
  session is that of the handle or has no other one.
* `busyEnv`: An emergency profile is found, but there is no net handle.

## Theorems

* `searchProfiles_fails`: A search that fails tells the caller nothing and
  stores nothing.
* `searchLoop_pdp_type`: The loop stores the IP version of the profile that it
  stops at.
* `dsClientOpenCall_finds`, `dsClientOpenCall_not_finds`: What an open stores.
* `openAndStartDataCall_finds`: What the caller is told, and what is started:
  the profile is the first one that supports emergency calls, with its own IP
  version.
* `openAndStartDataCall_outcome`: What the caller is told, and what is started.
* `step_open`: What an open does, where it can be made.
* `step_cases`: A step does nothing, or closes the handle, or stores a session.
* `owned_step`: Who owns a net handle.
* `held_of_session`: A session's net handle is held.
* `request_held`: No net handle is used that has been released.
* `event_delivered`: An event finds its session.
* `leftBehind_withSession`: A new session leaves the others as they are, and
  takes the handle.
* `leftBehind_step`: What is left behind stays, whatever happens.
* `session_step`: Every session stays until the handle is closed.
* `onlySession_iff`: The runs in which no session is left behind.
* `busy_leaves_behind`: To try again later is not one of them.
-/

namespace Victara

namespace DsApi

open StepSystem

open Agps (LOC_API_ADAPTER_ERR_SUCCESS LOC_API_ADAPTER_ERR_UNSUPPORTED
  LOC_API_ADAPTER_ERR_ENGINE_BUSY)

/-- `dsi_net_evt_t` -/
inductive DsiNetEvt
  | invalid
  | netIsConn
  | netNoNet
  | physlinkDownState
  | physlinkUpState
  | netReconfigured
  | wdsConnected
  deriving DecidableEq, Repr

/-- What the callback of a session is given. -/
inductive DataCallEvent
  | connected
  | disconnected
  deriving DecidableEq, Repr

/-- The callback, its cookie and the event. -/
def netEvCb (callback_data : Session) (evt : DsiNetEvt) : Option (Nat × Nat × DataCallEvent) :=
  match evt with
  | .netIsConn | .wdsConnected =>
    some (callback_data.event_cb, callback_data.caller_cookie, .connected)
  | .netNoNet => some (callback_data.event_cb, callback_data.caller_cookie, .disconnected)
  | _ => none

/-- What is asked of the DSI library. A handle may be `NULL`. -/
inductive DsiRequest
  | startDataCall (handle : Option Nat) (profile_index : Option Nat)
      (ip_version : Option DsiIpVersion)
  | stopDataCall (handle : Option Nat)
  | relDataSrvcHndl (handle : Option Nat)
  deriving DecidableEq, Repr

/-- The handle of `LocApiV02`, the sessions that are allocated, and the net
    handles, with the session each has been asked for with. -/
structure DataCalls where
  dsClientHandle : Option Nat
  sessions : Nat → Option Session
  netHandles : List (Nat × Nat)

/-- What `openAndStartDataCall` passes: its callback and itself. -/
def OpenEnv.passed (env : OpenEnv) (event_cb cookie : Nat) : OpenEnv :=
  { env with callback := some event_cb, caller_cookie := cookie, client_handle := true }

/-- What happens. An event is for a net handle. -/
inductive DataCallLabel
  | openAndStartDataCall (env : OpenEnv) (sent : Bool)
  | stopDataCall (sent : Bool)
  | closeDataCall
  | netEvent (handle : Nat) (evt : DsiNetEvt)

/-- The net handle that a request is for. -/
def DsiRequest.handle : DsiRequest → Option Nat
  | .startDataCall handle _ _ => handle
  | .stopDataCall handle => handle
  | .relDataSrvcHndl handle => handle

namespace DataCalls

def init : DataCalls where
  dsClientHandle := none
  sessions _ := none
  netHandles := []

/-- What the handle points to. -/
def session? (s : DataCalls) : Option Session := s.dsClientHandle.bind s.sessions

/-- What an open has stored. -/
def store (s : DataCalls) (t : Opening) : DataCalls :=
  match t.session with
  | none => { s with dsClientHandle := t.client_handle }
  | some (a, session) =>
    { dsClientHandle := t.client_handle
      sessions := Function.update s.sessions a (some session)
      netHandles := (session.dsi_net_handle.map (·, a)).toList ++ s.netHandles }

/-- `ds_client_start_call`, with whether the request can be sent. -/
def dsClientStartCall (s : DataCalls) (profile_index : Option Nat)
    (pdp_type : Option DsiIpVersion) (sent : Bool) : DsClientStatus × List DsiRequest :=
  match s.session? with
  | none => (.failureGeneral, [])
  | some session =>
    (if sent then .success else .failureGeneral,
      [.startDataCall session.dsi_net_handle profile_index pdp_type])

/-- `ds_client_stop_call`, with whether the request can be sent. -/
def dsClientStopCall (s : DataCalls) (sent : Bool) : DsClientStatus × List DsiRequest :=
  match s.session? with
  | none => (.failureGeneral, [])
  | some session =>
    (if sent then .success else .failureGeneral, [.stopDataCall session.dsi_net_handle])

/-- `ds_client_close_call` -/
def dsClientCloseCall (s : DataCalls) : DataCalls × List DsiRequest :=
  match s.dsClientHandle with
  | none => (s, [])
  | some a =>
    let dsi_net_handle := (s.sessions a).bind (·.dsi_net_handle)
    ({ dsClientHandle := none
       sessions := Function.update s.sessions a none
       netHandles := s.netHandles.filter fun n => some n.1 ≠ dsi_net_handle },
      [.relDataSrvcHndl dsi_net_handle])

section Passed

variable (event_cb cookie : Nat)

def openAndStartDataCall (s : DataCalls) (env : OpenEnv) (sent : Bool) :
    Int × DataCalls × List DsiRequest :=
  let r := dsClientOpenCall (env.passed event_cb cookie) (.start s.dsClientHandle)
  let s := s.store r.2
  match r.1 with
  | .success =>
    let started := s.dsClientStartCall r.2.profile_index r.2.pdp_type sent
    if started.1 = .success then (LOC_API_ADAPTER_ERR_SUCCESS, s, started.2)
    else (LOC_API_ADAPTER_ERR_UNSUPPORTED, s, started.2)
  | .retryLater => (LOC_API_ADAPTER_ERR_ENGINE_BUSY, s, [])
  | _ => (LOC_API_ADAPTER_ERR_UNSUPPORTED, s, [])

/-- What the allocators hand out is not in use. -/
def Fresh (s : DataCalls) (env : OpenEnv) : Prop :=
  (∀ a ∈ env.session, s.sessions a = none) ∧
    ∀ h ∈ env.dsi_handle, h ∉ s.netHandles.map Prod.fst

instance (s : DataCalls) (env : OpenEnv) : Decidable (s.Fresh env) :=
  inferInstanceAs (Decidable (_ ∧ _))

def step (s : DataCalls) : DataCallLabel → Option DataCalls
  | .openAndStartDataCall env sent =>
    if s.Fresh env then some (s.openAndStartDataCall event_cb cookie env sent).2.1 else none
  | .stopDataCall _ => some s
  | .closeDataCall => some s.dsClientCloseCall.1
  | .netEvent handle _ => if handle ∈ s.netHandles.map Prod.fst then some s else none

/-- What a step asks of the DSI library. -/
def requests (s : DataCalls) : DataCallLabel → List DsiRequest
  | .openAndStartDataCall env sent => (s.openAndStartDataCall event_cb cookie env sent).2.2
  | .stopDataCall sent => (s.dsClientStopCall sent).2
  | .closeDataCall => s.dsClientCloseCall.2
  | .netEvent _ _ => []

end Passed

/-- What an event for a net handle comes to. -/
def netEvent (s : DataCalls) (handle : Nat) (evt : DsiNetEvt) :
    Option (Nat × Nat × DataCallEvent) :=
  (s.netHandles.find? (·.1 == handle)).bind fun n => (s.sessions n.2).bind (netEvCb · evt)

end DataCalls

/-! ## What is said of it -/

/-- The profile that an open takes, if it comes to that. -/
structure OpenEnv.Finds (env : OpenEnv) (entry : ProfileEntry) : Prop where
  up : env.Up
  searched : env.Searched
  found : env.profiles.find? (·.supports) = some entry

/-- The IP version of a profile, for the DSI library. -/
def ProfileEntry.ipVersion (entry : ProfileEntry) : DsiIpVersion :=
  match entry.settings with
  | .resp msg => (SettingsResp.zero.receive msg).ipVersion
  | _ => .v4

namespace DataCalls

/-- Every session is the one that the handle stands for. -/
def OnlySession (s : DataCalls) : Prop := ∀ a, s.sessions a ≠ none → s.dsClientHandle = some a

/-- An open that comes to a session finds no handle. The open itself does not
    look: it stores the new session over the one that is there, and nobody else
    has its address. -/
def StoresAlone (s : DataCalls) : DataCallLabel → Prop
  | .openAndStartDataCall env _ =>
    s.Fresh env → ∀ entry, env.Finds entry → s.dsClientHandle = none
  | _ => True

end DataCalls

/-! ## What an open stores -/

theorem status_ne_retryLater {α : Type} (reply : Reply α) : reply.status ≠ .retryLater := by
  cases reply <;> simp [Reply.status]

theorem connect_ne_retryLater (env : OpenEnv) (services : Option Nat) (no_signal notifier : Bool)
    (s : Opening) : (connect env services no_signal notifier s).1 ≠ .retryLater := by
  unfold connect
  split
  · cases no_signal <;> simp
  · split
    · simp
    · dsimp only
      split <;> simp

theorem init_ne_retryLater (env : OpenEnv) (s : Opening) :
    (dsClientQmiCtrlPointInit env s).1 ≠ .retryLater := by
  unfold dsClientQmiCtrlPointInit
  split
  · simp
  · split
    · exact connect_ne_retryLater env _ _ _ s
    · split
      · simp
      · exact connect_ne_retryLater env _ _ _ _

theorem searchLoop_ne_retryLater (list : List ProfileEntry) (resp : SettingsResp) (s : Opening) :
    (searchLoop list resp s).1 ≠ .retryLater := by
  fun_induction searchLoop list resp s with
  | case1 => simp
  | case2 => exact status_ne_retryLater _
  | case3 => exact status_ne_retryLater _
  | case4 => simp
  | case5 resp s entry list msg hreply resp' hno ih => exact ih

/-- A search that fails tells the caller nothing and stores nothing. -/
theorem searchProfiles_fails {env : OpenEnv} (h : ¬ env.Searched) (event_cb : Nat) (s : Opening) :
    (searchProfiles env event_cb s).1 ≠ .success ∧
      (searchProfiles env event_cb s).1 ≠ .retryLater ∧
      (searchProfiles env event_cb s).2.client_handle = s.client_handle ∧
      (searchProfiles env event_cb s).2.session = s.session := by
  unfold searchProfiles
  by_cases hlistResp : env.profile_list_resp = false
  · rw [if_pos hlistResp]
    simp
  rw [if_neg hlistResp]
  obtain ⟨req, _, hlist⟩ := getProfileList_eq env (s.acquire .profileListResp)
  by_cases hstatus : (dsClientGetProfileList env (s.acquire .profileListResp)).1 = .success
  -- The list could not be had: nothing was asked of a profile.
  case neg =>
    simp only [hstatus, ne_eq, not_false_eq_true, if_true, hlist]
    refine ⟨trivial, ?_, rfl, rfl⟩
    unfold dsClientGetProfileList
    split
    · simp
    · exact status_ne_retryLater _
  by_cases hsettingsResp : env.profile_settings_resp = false
  · simp only [hstatus, ne_eq, not_true_eq_false, if_false, hsettingsResp, if_true, hlist]
    exact ⟨by simp, by simp, rfl, rfl⟩
  -- All requests were made, so it is an answer before the first match that is missing.
  have hanswers : ¬ ∀ entry ∈ env.profiles.takeWhile (!·.supports),
      entry.settings.status = .success := fun hanswers =>
    h ⟨by simpa using hlistResp, (getProfileList_status env _).mp hstatus,
      by simpa using hsettingsResp, hanswers⟩
  obtain ⟨ret, hret, hsearch⟩ := searchLoop_not_answered env.profiles
    ((dsClientGetProfileList env (s.acquire .profileListResp)).2.acquire .profileSettingsResp)
    hanswers
  have hne := searchLoop_ne_retryLater env.profiles .zero
    ((dsClientGetProfileList env (s.acquire .profileListResp)).2.acquire .profileSettingsResp)
  rw [hlist] at hsearch hne
  rw [hsearch] at hne
  simp only [hstatus, ne_eq, not_true_eq_false, if_false, hsettingsResp, hlist, hsearch, hret,
    not_false_eq_true, if_true, Bool.true_eq_false]
  exact ⟨trivial, hne, rfl, rfl⟩

/-- The loop stores the IP version of the profile that it stops at. -/
theorem searchLoop_pdp_type (list : List ProfileEntry) {entry : ProfileEntry} (s : Opening)
    (h : ∀ other ∈ list.takeWhile (!·.supports), other.settings.status = .success)
    (hfound : list.find? (·.supports) = some entry) :
    (searchLoop list .zero s).2.2.pdp_type = some entry.ipVersion := by
  induction list with
  | nil => cases hfound
  | cons head list ih =>
      unfold searchLoop
      by_cases hsupports : head.supports = true
      · rw [List.find?_cons_of_pos hsupports] at hfound
        obtain rfl : head = entry := Option.some.inj hfound
        rcases hreply : head.settings with _ | _ | msg
        · simp [ProfileEntry.supports, hreply] at hsupports
        · simp [ProfileEntry.supports, hreply] at hsupports
        · simp only
          rw [if_pos ((supports_receive head hreply).mpr hsupports), ProfileEntry.ipVersion,
            hreply]
      · rw [List.find?_cons_of_neg hsupports] at hfound
        rw [List.takeWhile_cons_of_pos (by simpa using hsupports)] at h
        obtain ⟨msg, hreply⟩ := (status_eq_success_iff _).mp (h head List.mem_cons_self)
        simp only [hreply]
        rw [if_neg (mt (supports_receive head hreply).mp hsupports)]
        exact ih (fun other hother => h other (List.mem_cons_of_mem head hother)) hfound

theorem searchProfiles_pdp_type {env : OpenEnv} {entry : ProfileEntry} (h : env.Searched)
    (hfound : env.profiles.find? (·.supports) = some entry) (event_cb : Nat) (s : Opening) :
    (searchProfiles env event_cb s).2.pdp_type = some entry.ipVersion := by
  have hsearch := searchLoop_answered env.profiles
    ((dsClientGetProfileList env (s.acquire .profileListResp)).2.acquire .profileSettingsResp)
    h.settings
  have hpdp := searchLoop_pdp_type env.profiles
    ((dsClientGetProfileList env (s.acquire .profileListResp)).2.acquire .profileSettingsResp)
    h.settings hfound
  obtain ⟨pdp_type, hsearch⟩ := hsearch
  rw [hsearch] at hpdp
  unfold searchProfiles
  simp only [h.listResp, Bool.true_eq_false, if_false, (getProfileList_status env _).mpr h.list,
    ne_eq, not_true_eq_false, h.settingsResp, hsearch]
  -- Neither the session nor what is freed in the end changes it.
  rw [hfound]
  unfold openSession
  rcases env.session with _ | a
  · exact hpdp
  · rcases env.dsi_handle with _ | dsi_handle <;> exact hpdp

/-- What an open that comes to a session returns. -/
def OpenEnv.status (env : OpenEnv) : DsClientStatus :=
  match env.session, env.dsi_handle with
  | none, _ => .failureNotEnoughMemory
  | some _, none => .retryLater
  | some _, some _ => if env.release then .success else .failureGeneral

theorem OpenEnv.status_eq_success_iff (env : OpenEnv) :
    env.status = .success ↔
      env.session ≠ none ∧ env.dsi_handle ≠ none ∧ env.release = true := by
  unfold status
  rcases env.session with _ | a
  · simp
  · rcases env.dsi_handle with _ | d
    · simp
    · cases env.release <;> simp

theorem OpenEnv.status_eq_retryLater_iff (env : OpenEnv) :
    env.status = .retryLater ↔ env.session ≠ none ∧ env.dsi_handle = none := by
  unfold status
  rcases env.session with _ | a
  · simp
  · rcases env.dsi_handle with _ | d
    · simp
    · cases env.release <;> simp

theorem openSession_found (env : OpenEnv) (event_cb index : Nat) {s : Opening}
    (hs : s.session = none) :
    openSession env event_cb (some index) s =
      (env.status,
        { s.release .wdsClient with
          profile_index := some index
          client_handle := env.session
          session := env.session.map (·, ⟨env.dsi_handle, event_cb, env.caller_cookie⟩) }) := by
  unfold openSession OpenEnv.status
  rcases env.session with _ | a
  · simp [Opening.release, hs]
  · rcases env.dsi_handle with _ | dsi_handle <;> rfl

theorem dsClientOpenCall_finds {env : OpenEnv} {entry : ProfileEntry} (h : env.Finds entry)
    (event_cb cookie : Nat) (client_handle : Option Nat) :
    let r := dsClientOpenCall (env.passed event_cb cookie) (.start client_handle)
    r.1 = env.status ∧ r.2.client_handle = env.session ∧
      r.2.session = env.session.map (·, ⟨env.dsi_handle, event_cb, cookie⟩) ∧
      r.2.profile_index = some entry.profile_index ∧ r.2.pdp_type = some entry.ipVersion := by
  have hsearched : (env.passed event_cb cookie).Searched :=
    ⟨h.searched.listResp, h.searched.list, h.searched.settingsResp, h.searched.settings⟩
  have hup : (env.passed event_cb cookie).Up := h.up
  have hfound : (env.passed event_cb cookie).profiles.find? (·.supports) = some entry := h.found
  obtain ⟨note, _, hinit⟩ := init_up hup (.start client_handle)
  obtain ⟨req, pdp_type, _, hsearch⟩ := searchProfiles_searched hsearched event_cb
    ((Opening.start client_handle).withClient note)
  have hpdp := searchProfiles_pdp_type hsearched hfound event_cb
    ((Opening.start client_handle).withClient note)
  have hcall : dsClientOpenCall (env.passed event_cb cookie) (.start client_handle) =
      searchProfiles (env.passed event_cb cookie) event_cb
        ((Opening.start client_handle).withClient note) := by
    simp only [dsClientOpenCall, OpenEnv.passed, Bool.true_eq_false, if_false]
    rw [OpenEnv.passed] at hinit
    simp only [hinit, ne_eq, not_true_eq_false, if_false]
  rw [hcall]
  refine ⟨?_, ?_, ?_, ?_, hpdp⟩
  all_goals
    rw [hsearch, hfound, Option.map_some, openSession_found _ _ _ rfl]
    rfl

theorem dsClientOpenCall_not_finds {env : OpenEnv} (h : ∀ entry, ¬ env.Finds entry)
    (event_cb cookie : Nat) (client_handle : Option Nat) :
    let r := dsClientOpenCall (env.passed event_cb cookie) (.start client_handle)
    r.1 ≠ .success ∧ r.1 ≠ .retryLater ∧ r.2.client_handle = client_handle ∧
      r.2.session = none := by
  simp only [dsClientOpenCall, OpenEnv.passed, Bool.true_eq_false, if_false]
  by_cases hup : env.Up
  · have hup' : (env.passed event_cb cookie).Up := hup
    obtain ⟨note, _, hinit⟩ := init_up hup' (.start client_handle)
    rw [OpenEnv.passed] at hinit
    simp only [hinit, ne_eq, not_true_eq_false, if_false]
    by_cases hsearched : env.Searched
    · -- Nothing fails, so there is no profile.
      have hfound : env.profiles.find? (·.supports) = none := by
        cases hfound : env.profiles.find? (·.supports) with
        | none => rfl
        | some entry => exact absurd ⟨hup, hsearched, hfound⟩ (h entry)
      have hsearched' : (env.passed event_cb cookie).Searched :=
        ⟨hsearched.listResp, hsearched.list, hsearched.settingsResp, hsearched.settings⟩
      obtain ⟨req, pdp_type, _, hsearch⟩ := searchProfiles_searched hsearched' event_cb
        ((Opening.start client_handle).withClient note)
      have hfound' : (env.passed event_cb cookie).profiles.find? (·.supports) = none := hfound
      rw [hfound', OpenEnv.passed] at hsearch
      rw [hsearch]
      exact ⟨by simp [openSession], by simp [openSession], rfl, rfl⟩
    · have hnot : ¬ (env.passed event_cb cookie).Searched := fun hs =>
        hsearched ⟨hs.listResp, hs.list, hs.settingsResp, hs.settings⟩
      exact searchProfiles_fails hnot event_cb ((Opening.start client_handle).withClient note)
  -- The client did not come up, and nothing is searched for.
  · have hup' : ¬ (env.passed event_cb cookie).Up := hup
    obtain ⟨ret, note, info, hret, _, _, hinit⟩ := init_not_up hup' (.start client_handle)
    have hne := init_ne_retryLater (env.passed event_cb cookie) (.start client_handle)
    rw [hinit] at hne
    rw [OpenEnv.passed] at hinit
    simp only [hinit, ne_eq, hret, not_false_eq_true, if_true]
    exact ⟨trivial, hne, rfl, rfl⟩

namespace DataCalls

variable {event_cb cookie : Nat} {s t : DataCalls} {l : DataCallLabel}

/-- With the session of an open that comes to one. -/
def withSession (event_cb cookie : Nat) (s : DataCalls) (env : OpenEnv) : DataCalls :=
  match env.session with
  | none => { s with dsClientHandle := none }
  | some a =>
    { dsClientHandle := some a
      sessions := Function.update s.sessions a (some ⟨env.dsi_handle, event_cb, cookie⟩)
      netHandles := (env.dsi_handle.map (·, a)).toList ++ s.netHandles }

/-- What the caller is told, and what is started: the profile is the first one
    that supports emergency calls, with its own IP version. -/
theorem openAndStartDataCall_finds {env : OpenEnv} {entry : ProfileEntry} (h : env.Finds entry)
    (s : DataCalls) (sent : Bool) :
    s.openAndStartDataCall event_cb cookie env sent =
      (if env.status = .success ∧ sent = true then LOC_API_ADAPTER_ERR_SUCCESS
        else if env.status = .retryLater then LOC_API_ADAPTER_ERR_ENGINE_BUSY
        else LOC_API_ADAPTER_ERR_UNSUPPORTED,
        s.withSession event_cb cookie env,
        if env.status = .success then
          [.startDataCall env.dsi_handle (some entry.profile_index) (some entry.ipVersion)]
        else []) := by
  obtain ⟨hstatus, hhandle, hsession, hindex, hpdp⟩ :=
    dsClientOpenCall_finds h event_cb cookie s.dsClientHandle
  have hstore : s.store (dsClientOpenCall (env.passed event_cb cookie)
      (.start s.dsClientHandle)).2 = s.withSession event_cb cookie env := by
    unfold store withSession
    rw [hsession, hhandle]
    cases env.session <;> rfl
  unfold openAndStartDataCall
  simp only [hstatus, hstore, hindex, hpdp]
  -- From here the status is read off what the environment gave.
  cases ha : env.session with
  | none => simp [OpenEnv.status, ha]
  | some a =>
      cases hd : env.dsi_handle with
      | none => simp [OpenEnv.status, ha, hd]
      | some d =>
          have hstart : (s.withSession event_cb cookie env).session? =
              some ⟨some d, event_cb, cookie⟩ := by
            simp [withSession, session?, ha, hd]
          cases hrelease : env.release with
          | false => simp [OpenEnv.status, ha, hd, hrelease]
          | true =>
              cases sent <;> simp [OpenEnv.status, ha, hd, hrelease, dsClientStartCall, hstart]

theorem openAndStartDataCall_not_finds {env : OpenEnv} (h : ∀ entry, ¬ env.Finds entry)
    (s : DataCalls) (sent : Bool) :
    s.openAndStartDataCall event_cb cookie env sent = (LOC_API_ADAPTER_ERR_UNSUPPORTED, s, []) := by
  obtain ⟨hsuccess, hretry, hhandle, hsession⟩ :=
    dsClientOpenCall_not_finds h event_cb cookie s.dsClientHandle
  have hstore : s.store (dsClientOpenCall (env.passed event_cb cookie)
      (.start s.dsClientHandle)).2 = s := by
    rw [store, hsession, hhandle]
  unfold openAndStartDataCall
  simp only [hstore]

/-- The call succeeds just if there is a profile, a session and a net handle,
    the client can be released and the request sent. It is to be tried again
    just if there is no net handle. A call is started on the new net handle
    only, with the first profile that supports emergency calls. -/
theorem openAndStartDataCall_outcome (event_cb cookie : Nat) (s : DataCalls) (env : OpenEnv)
    (sent : Bool) :
    let r := s.openAndStartDataCall event_cb cookie env sent
    (r.1 = LOC_API_ADAPTER_ERR_SUCCESS ↔
      (∃ entry, env.Finds entry) ∧ env.session ≠ none ∧ env.dsi_handle ≠ none ∧
        env.release = true ∧ sent = true) ∧
    (r.1 = LOC_API_ADAPTER_ERR_ENGINE_BUSY ↔
      (∃ entry, env.Finds entry) ∧ env.session ≠ none ∧ env.dsi_handle = none) ∧
    (∀ request, request ∈ r.2.2 ↔
      ∃ entry d, env.Finds entry ∧ env.session ≠ none ∧ env.dsi_handle = some d ∧
        env.release = true ∧
        request = .startDataCall (some d) (some entry.profile_index) (some entry.ipVersion)) := by
  by_cases hfinds : ∃ entry, env.Finds entry
  case neg =>
    rw [not_exists] at hfinds
    simp only [openAndStartDataCall_not_finds hfinds, hfinds]
    simp [LOC_API_ADAPTER_ERR_SUCCESS, LOC_API_ADAPTER_ERR_ENGINE_BUSY,
      LOC_API_ADAPTER_ERR_UNSUPPORTED]
  rcases hfinds with ⟨entry, hentry⟩
  -- The first profile that supports it is one profile.
  have hunique : ∀ other, env.Finds other → other = entry := fun other hother =>
    Option.some.inj (hother.found.symm.trans hentry.found)
  have hexists : ∃ other, env.Finds other := ⟨entry, hentry⟩
  have hsuccess := env.status_eq_success_iff
  have hretry := env.status_eq_retryLater_iff
  simp only [openAndStartDataCall_finds hentry, hexists, true_and]
  refine ⟨?_, ?_, fun request => ?_⟩
  · rw [← and_assoc, ← and_assoc, and_assoc (a := env.session ≠ none), ← hsuccess]
    simp only [LOC_API_ADAPTER_ERR_SUCCESS, LOC_API_ADAPTER_ERR_ENGINE_BUSY,
      LOC_API_ADAPTER_ERR_UNSUPPORTED]
    split_ifs with h h' <;> simp [h]
  -- The error that means busy is the one of a session without a handle.
  · rw [← hretry]
    simp only [LOC_API_ADAPTER_ERR_SUCCESS, LOC_API_ADAPTER_ERR_ENGINE_BUSY,
      LOC_API_ADAPTER_ERR_UNSUPPORTED]
    split_ifs with h h' <;> simp_all
  · constructor
    · intro hmem
      split_ifs at hmem with hstatus
      · rcases hsuccess.mp hstatus with ⟨ha, hd, hrelease⟩
        rcases Option.ne_none_iff_exists'.mp hd with ⟨d, hd⟩
        rw [hd] at hmem
        exact ⟨entry, d, hentry, ha, hd, hrelease, List.mem_singleton.mp hmem⟩
      · cases hmem
    · rintro ⟨other, d, hother, ha, hd, hrelease, rfl⟩
      rw [hunique other hother, if_pos (hsuccess.mpr ⟨ha, by simp [hd], hrelease⟩), hd]
      exact List.mem_singleton_self _

/-! ## What every step keeps -/

/-- A net handle belongs to the session it has been asked for with, and a
    session is that of the handle or has no other one. This holds in every run,
    with sessions left behind or without: it is what an event of the library
    relies on. -/
structure Owned (event_cb cookie : Nat) (s : DataCalls) : Prop where
  live : ∀ a, s.dsClientHandle = some a → s.sessions a ≠ none
  callback : ∀ a session, s.sessions a = some session →
    session.event_cb = event_cb ∧ session.caller_cookie = cookie
  handles : ∀ d a, (d, a) ∈ s.netHandles ↔
    ∃ session, s.sessions a = some session ∧ session.dsi_net_handle = some d
  alone : ∀ d a b, (d, a) ∈ s.netHandles → (d, b) ∈ s.netHandles → a = b

theorem owned_init : Owned event_cb cookie init where
  live := fun _ h => nomatch h
  callback := fun _ _ h => nomatch h
  handles := fun d a => by simp [init]
  alone := fun _ _ _ h => nomatch h

theorem owned_withSession (hs : Owned event_cb cookie s) {env : OpenEnv} (hfresh : s.Fresh env) :
    Owned event_cb cookie (s.withSession event_cb cookie env) := by
  unfold withSession
  cases ha : env.session with
  | none => exact ⟨(fun _ h => nomatch h), hs.callback, hs.handles, hs.alone⟩
  | some a =>
      have hnone : s.sessions a = none := hfresh.1 a ha
      -- A session that is new has no handle yet, and a handle that is new no session.
      have hold : ∀ d, (d, a) ∉ s.netHandles := by
        intro d hmem
        rcases (hs.handles d a).mp hmem with ⟨session, hsession, _⟩
        rw [hnone] at hsession
        cases hsession
      have hnew : ∀ d, env.dsi_handle = some d → ∀ b, (d, b) ∉ s.netHandles :=
        fun d hd b hmem => hfresh.2 d hd (List.mem_map_of_mem hmem)
      have hmem : ∀ d b, (d, b) ∈ (env.dsi_handle.map (·, a)).toList ++ s.netHandles ↔
          env.dsi_handle = some d ∧ b = a ∨ (d, b) ∈ s.netHandles := by
        intro d b
        cases env.dsi_handle <;> simp [eq_comm]
      refine ⟨?_, ?_, ?_, ?_⟩
      · rintro b hb
        cases hb
        simp
      · intro b session hb
        dsimp only at hb
        by_cases hba : b = a
        · rw [hba, Function.update_self, Option.some.injEq] at hb
          exact hb ▸ ⟨rfl, rfl⟩
        · rw [Function.update_of_ne hba] at hb
          exact hs.callback b session hb
      · intro d b
        dsimp only
        rw [hmem]
        by_cases hba : b = a
        · subst hba
          simp [hold d]
        · simp only [hba, and_false, false_or, Function.update_of_ne hba]
          exact hs.handles d b
      · intro d b c hb hc
        dsimp only at hb hc
        rw [hmem] at hb hc
        rcases hb with ⟨hd, rfl⟩ | hb <;> rcases hc with ⟨hd', rfl⟩ | hc
        · rfl
        · exact absurd hc (hnew d hd c)
        · exact absurd hb (hnew d hd' b)
        · exact hs.alone d b c hb hc

theorem owned_close (hs : Owned event_cb cookie s) :
    Owned event_cb cookie s.dsClientCloseCall.1 := by
  unfold dsClientCloseCall
  cases ha : s.dsClientHandle with
  | none => exact hs
  | some a =>
      refine ⟨(fun _ h => nomatch h), ?_, ?_, ?_⟩
      -- The other sessions are as they were.
      · intro b session hb
        dsimp only at hb
        by_cases hba : b = a
        · rw [hba, Function.update_self] at hb
          cases hb
        · rw [Function.update_of_ne hba] at hb
          exact hs.callback b session hb
      · intro d b
        simp only [List.mem_filter, decide_eq_true_eq]
        by_cases hba : b = a
        · -- The net handle of the session is released with it.
          subst hba
          simp only [Function.update_self, reduceCtorEq, false_and, exists_false, iff_false]
          rintro ⟨hmem, hno⟩
          rcases (hs.handles d b).mp hmem with ⟨session, hsession, hd⟩
          exact hno (by simp [hsession, hd])
        · rw [Function.update_of_ne hba, ← hs.handles d b]
          refine and_iff_left_of_imp fun hmem hd => hba ?_
          rcases Option.bind_eq_some_iff.mp hd.symm with ⟨session, hsession, hd⟩
          exact hs.alone d b a hmem ((hs.handles d a).mpr ⟨session, hsession, hd⟩)
      · intro d b c hb hc
        exact hs.alone d b c (List.mem_filter.mp hb).1 (List.mem_filter.mp hc).1

/-- What an open does, where it can be made. -/
theorem step_open {env : OpenEnv} {sent : Bool}
    (h : s.step event_cb cookie (.openAndStartDataCall env sent) = some t) :
    s.Fresh env ∧ ((∃ entry, env.Finds entry) ∧ t = s.withSession event_cb cookie env ∨
      (∀ entry, ¬ env.Finds entry) ∧ t = s) := by
  simp only [step] at h
  split_ifs at h with hfresh
  cases h
  refine ⟨hfresh, ?_⟩
  by_cases hfinds : ∃ entry, env.Finds entry
  · rcases hfinds with ⟨entry, hentry⟩
    exact Or.inl ⟨⟨entry, hentry⟩, by rw [openAndStartDataCall_finds hentry]⟩
  · rw [not_exists] at hfinds
    exact Or.inr ⟨hfinds, by rw [openAndStartDataCall_not_finds hfinds]⟩

/-- A step does nothing, or closes the handle, or stores a session. -/
theorem step_cases (h : s.step event_cb cookie l = some t) :
    t = s ∨ (l = .closeDataCall ∧ t = s.dsClientCloseCall.1) ∨
      ∃ env sent, l = .openAndStartDataCall env sent ∧ s.Fresh env ∧
        (∃ entry, env.Finds entry) ∧ t = s.withSession event_cb cookie env := by
  cases l with
  | openAndStartDataCall env sent =>
      rcases step_open h with ⟨hfresh, ⟨hentry, ht⟩ | ⟨_, ht⟩⟩
      · exact Or.inr (Or.inr ⟨env, sent, rfl, hfresh, hentry, ht⟩)
      · exact Or.inl ht
  | stopDataCall sent =>
      cases h
      exact Or.inl rfl
  | closeDataCall =>
      cases h
      exact Or.inr (Or.inl ⟨rfl, rfl⟩)
  | netEvent handle evt =>
      simp only [step] at h
      split_ifs at h
      cases h
      exact Or.inl rfl

theorem owned_step (hs : Owned event_cb cookie s) (h : s.step event_cb cookie l = some t) :
    Owned event_cb cookie t := by
  rcases step_cases h with rfl | ⟨_, rfl⟩ | ⟨env, sent, _, hfresh, _, rfl⟩
  · exact hs
  · exact owned_close hs
  · exact owned_withSession hs hfresh

/-- A session's net handle is held. -/
theorem held_of_session (hs : Owned event_cb cookie s) {a d : Nat} {session : Session}
    (hsession : s.sessions a = some session) (hd : session.dsi_net_handle = some d) :
    d ∈ s.netHandles.map Prod.fst :=
  List.mem_map.mpr ⟨(d, a), (hs.handles d a).mpr ⟨session, hsession, hd⟩, rfl⟩

/-- What is asked of the DSI library is for a net handle that is held, or has
    just been got, if it is not for `NULL`. -/
theorem request_held (event_cb cookie : Nat) (ls : List DataCallLabel)
    (hrun : exec (step event_cb cookie) init ls = some s)
    (h : s.step event_cb cookie l = some t) {request : DsiRequest}
    (hmem : request ∈ s.requests event_cb cookie l) {d : Nat} (hd : request.handle = some d) :
    d ∈ s.netHandles.map Prod.fst ∨ d ∈ t.netHandles.map Prod.fst := by
  have hs : Owned event_cb cookie s :=
    invariant_of_step (fun _ _ _ => owned_step) owned_init hrun
  cases l with
  | openAndStartDataCall env sent =>
      -- A call is started with the session that has just been stored.
      rcases ((openAndStartDataCall_outcome event_cb cookie s env sent).2.2 request).mp hmem with
        ⟨entry, d', hentry, ha, hd', _, rfl⟩
      cases hd
      rcases Option.ne_none_iff_exists'.mp ha with ⟨a, ha⟩
      rcases step_open h with ⟨_, ⟨_, rfl⟩ | ⟨hno, _⟩⟩
      · exact Or.inr (by simp [withSession, ha, hd'])
      · exact absurd hentry (hno entry)
  | stopDataCall sent =>
      simp only [requests, dsClientStopCall] at hmem
      cases hsession : s.session? with
      | none =>
          rw [hsession] at hmem
          cases hmem
      | some session =>
          rw [hsession] at hmem
          rcases List.mem_singleton.mp hmem with rfl
          rcases Option.bind_eq_some_iff.mp hsession with ⟨a, _, ha⟩
          exact Or.inl (held_of_session hs ha hd)
  | closeDataCall =>
      simp only [requests, dsClientCloseCall] at hmem
      cases ha : s.dsClientHandle with
      | none =>
          rw [ha] at hmem
          cases hmem
      | some a =>
          rw [ha] at hmem
          rcases List.mem_singleton.mp hmem with rfl
          rcases Option.bind_eq_some_iff.mp hd with ⟨session, hsession, hd⟩
          exact Or.inl (held_of_session hs hsession hd)
  | netEvent => cases hmem

/-- A session that the handle does not stand for. -/
def LeftBehind (s : DataCalls) (a : Nat) : Prop := s.sessions a ≠ none ∧ s.dsClientHandle ≠ some a

theorem onlySession_withSession (hs : s.OnlySession) (hnone : s.dsClientHandle = none)
    (env : OpenEnv) : (s.withSession event_cb cookie env).OnlySession := by
  have hempty : ∀ a, s.sessions a = none := by
    intro a
    refine Classical.byContradiction fun hno => ?_
    rw [hs a hno] at hnone
    cases hnone
  unfold withSession
  cases ha : env.session with
  | none => exact fun b hb => absurd (hempty b) hb
  | some a =>
      intro b hb
      dsimp only at hb ⊢
      by_cases hba : b = a
      · rw [hba]
      · rw [Function.update_of_ne hba] at hb
        exact absurd (hempty b) hb

/-- A new session leaves the others as they are, and takes the handle. -/
theorem leftBehind_withSession {env : OpenEnv} (hfresh : s.Fresh env) {a : Nat}
    (ha : s.sessions a ≠ none) : (s.withSession event_cb cookie env).LeftBehind a := by
  unfold withSession
  cases hb : env.session with
  | none => exact ⟨ha, (fun h => nomatch h)⟩
  | some b =>
      have hab : a ≠ b := by
        rintro rfl
        exact ha (hfresh.1 a hb)
      exact ⟨by dsimp only; rwa [Function.update_of_ne hab],
        fun h => hab (Option.some.inj h).symm⟩

theorem leftBehind_close {a : Nat} (ha : s.LeftBehind a) :
    s.dsClientCloseCall.1.LeftBehind a := by
  unfold dsClientCloseCall
  cases hb : s.dsClientHandle with
  | none => exact ha
  | some b =>
      have hab : a ≠ b := by
        rintro rfl
        exact ha.2 hb
      exact ⟨by dsimp only; rw [Function.update_of_ne hab]; exact ha.1, (fun h => nomatch h)⟩

theorem onlySession_close (hs : s.OnlySession) : s.dsClientCloseCall.1.OnlySession := by
  unfold dsClientCloseCall
  cases ha : s.dsClientHandle with
  | none => exact hs
  | some a =>
      intro b hb
      dsimp only at hb
      by_cases hba : b = a
      · rw [hba, Function.update_self] at hb
        exact absurd rfl hb
      · rw [Function.update_of_ne hba] at hb
        have hhandle := hs b hb
        rw [ha] at hhandle
        exact absurd (Option.some.inj hhandle).symm hba

/-- What is left behind stays, whatever happens. -/
theorem leftBehind_step {a : Nat} (ha : s.LeftBehind a)
    (h : s.step event_cb cookie l = some t) : t.LeftBehind a := by
  rcases step_cases h with rfl | ⟨_, rfl⟩ | ⟨env, sent, _, hfresh, _, rfl⟩
  · exact ha
  · exact leftBehind_close ha
  · exact leftBehind_withSession hfresh ha.1

/-- So does every session, until the handle is closed. -/
theorem session_step {a : Nat} (ha : s.sessions a ≠ none) (hclose : l ≠ .closeDataCall)
    (h : s.step event_cb cookie l = some t) : t.sessions a ≠ none := by
  rcases step_cases h with rfl | ⟨hl, _⟩ | ⟨env, sent, _, hfresh, _, rfl⟩
  · exact ha
  · exact absurd hl hclose
  · exact (leftBehind_withSession hfresh ha).1

theorem onlySession_step (hs : s.OnlySession) (halone : s.StoresAlone l)
    (h : s.step event_cb cookie l = some t) : t.OnlySession := by
  rcases step_cases h with rfl | ⟨_, rfl⟩ | ⟨env, sent, rfl, hfresh, ⟨entry, hentry⟩, rfl⟩
  · exact hs
  · exact onlySession_close hs
  · exact onlySession_withSession hs (halone hfresh entry hentry) env

/-- If there is no net handle, the caller is to try again later. When it does,
    the session of the first time is left behind, for good. -/
theorem busy_leaves_behind (event_cb cookie : Nat) (s : DataCalls) (env env' : OpenEnv)
    (sent sent' : Bool) (ls ls' : List DataCallLabel) {entry : ProfileEntry}
    (hbusy : (s.openAndStartDataCall event_cb cookie env sent).1 = LOC_API_ADAPTER_ERR_ENGINE_BUSY)
    (hopen : ∀ l ∈ ls, l ≠ .closeDataCall) (hentry : env'.Finds entry)
    (hrun : exec (step event_cb cookie) s (.openAndStartDataCall env sent ::
      (ls ++ .openAndStartDataCall env' sent' :: ls')) = some t) :
    ∃ a, env.session = some a ∧ t.LeftBehind a := by
  rcases (openAndStartDataCall_outcome event_cb cookie s env sent).2.1.mp hbusy with
    ⟨⟨first, hfirst⟩, hsession, _⟩
  rcases Option.ne_none_iff_exists'.mp hsession with ⟨a, ha⟩
  refine ⟨a, ha, ?_⟩
  rcases exec_cons hrun with ⟨u, hu, hrun⟩
  -- The first open has stored its session, although it returns the error.
  have hua : u.sessions a ≠ none := by
    rcases step_open hu with ⟨_, ⟨_, rfl⟩ | ⟨hno, _⟩⟩
    · simp [withSession, ha]
    · exact absurd hfirst (hno first)
  cases hv : exec (step event_cb cookie) u ls with
  | none =>
      rw [exec_append_of_none hv] at hrun
      cases hrun
  | some v =>
      -- Nothing but a close could remove it.
      have hva : v.sessions a ≠ none :=
        invariant_of_meets (I := fun s => s.sessions a ≠ none)
          (fun _ _ _ hs hl hstep => session_step hs hl hstep) hua
          (meets_of_forall (fun l hl _ => hopen l hl) u) hv
      rw [exec_append hv] at hrun
      rcases exec_cons hrun with ⟨w, hw, hrun⟩
      -- The second open comes to a session of its own.
      have hwa : w.LeftBehind a := by
        rcases step_open hw with ⟨hfresh, ⟨_, rfl⟩ | ⟨hno, _⟩⟩
        · exact leftBehind_withSession hfresh hva
        · exact absurd hentry (hno entry)
      exact invariant_of_step (fun _ _ _ => leftBehind_step) hwa hrun

/-- An emergency profile is found, but there is no net handle. -/
def busyEnv (session : Nat) : OpenEnv where
  callback := none
  caller_cookie := 0
  client_handle := true
  service_object := true
  first := some 1
  notifier_init := false
  retry _ := ⟨none, false, none⟩
  service_info := true
  populate := true
  client_init := true
  profile_list_resp := true
  profile_list_req := true
  profile_list := .resp [⟨3, .resp ⟨some 1, some .ipv6⟩⟩]
  profile_settings_resp := true
  release := true
  session := some session
  dsi_handle := none

theorem busyEnv_finds (session : Nat) :
    (busyEnv session).Finds ⟨3, .resp ⟨some 1, some .ipv6⟩⟩ where
  up := ⟨rfl, 1, ⟨by decide, rfl, rfl, rfl⟩, Or.inl rfl⟩
  searched := ⟨rfl, fun _ => rfl, rfl, by simp [busyEnv, OpenEnv.profiles, ProfileEntry.supports]⟩
  found := rfl

theorem call_is_stopped :
    5 ∈ (init.openAndStartDataCall 1 2 { busyEnv 8 with dsi_handle := some 5 }
      true).2.1.netHandles.map Prod.fst := by
  rcases request_held 1 2 [.openAndStartDataCall { busyEnv 8 with dsi_handle := some 5 } true] rfl
    (l := .stopDataCall true) rfl (List.mem_singleton_self _) rfl with h | h
  · exact h
  · exact h

theorem second_try_leaves_behind :
    ∃ t, exec (step 1 2) init [.openAndStartDataCall (busyEnv 8) true,
        .openAndStartDataCall (busyEnv 9) true, .closeDataCall] = some t ∧
      t.LeftBehind 8 := by
  refine ⟨_, rfl, ?_⟩
  rcases busy_leaves_behind 1 2 init (busyEnv 8) (busyEnv 9) true true [] [.closeDataCall] rfl
    (by simp) (busyEnv_finds 9) rfl with ⟨a, ha, hleft⟩
  cases ha
  exact hleft

end DataCalls

end DsApi

end Victara
