import Victara.Engine.Session

/-!
# Which Events the Client Is Registered For

Position, satellite, NMEA and engine state events wake the application
processor up, so the client is to be registered for them during a session and
while the engine has not gone off after it, and not otherwise.

A session is kept in two places. The adapter says whether the framework
navigates, and the client of the modem whether it runs a fix. They agree as
long as a session ends with `stopFix`. It does not always: a fix that could not
be started leaves the client running one for which there is no session, and so
does a single shot fix that has been reported. The client is then registered
for everything, and the engine state indication that should put an end to that
passes it over. The exact condition is that neither happens with the engine
off, that the engine does not go off when it has happened, and that no event is
added then.

## Main definitions

* `noSession`: A mask has none of the session events.
* `Right`: The client is registered for the right events.
* `ClientInv`: What holds of the client besides.
* `AdapterInv`: What holds of an adapter and its client.
* `fails`: The modem does not start the fix.
* `EndsWell`: A message ends no session in the wrong way.
* `Stale`: Without a session, and with the engine off, the client is registered
  for a session event.
* `opened`: The engine, once the client of the modem is open.

## Theorems

* `clientInv_startFix`, `clientInv_stopFix`, `clientInv_ended`,
  `clientInv_updateEngineState`, `clientInv_openClient`: What each keeps.
* `setPositionMode_client`: New criteria leave the mask and the engine as they
  are.
* `right_step`, `right_broken`: A message that ends well, and one that does not.
* `stale_start`: A start that fails leaves the client registered for its whole
  mask.
* `registered_engineOff`: An engine that goes off while the client runs a fix
  leaves its events.
* `registered_openClient`: A client that runs a fix is registered for the events
  that are added.
* `right_iff`: The exact condition, over whole runs.
-/

namespace Victara

namespace Engine

open LocEng Mask StepSystem
open LocApi
open LocApiV02 (startErr startFix_spec stopFix_spec updateEngineState_spec openClient_of_open
  openClient_of_closed)
open Sync (LocClientStatus)

/-- None of the position, satellite, NMEA and engine state events. -/
def noSession (qmiMask : QmiMask) : Prop := qmiMask &&& sessionEvents = 0#64

instance : DecidablePred noSession := fun _ => inferInstanceAs (Decidable (_ = _))

theorem noSession_adjust (qmiMask : QmiMask) : noSession (adjustMaskForNoSession qmiMask) := by
  unfold noSession
  rw [adjustMaskForNoSession_eq, BitVec.and_assoc]
  simp [sessionEvents]

/-- In session the client is registered for all of its mask, and without one,
    once the engine is off, for no session event. -/
def Right (locEng : LocEng) : Prop :=
  (locEng.isInSession = true →
    Within locEng.adapter.mLocApi.mQmiMask locEng.adapter.mLocApi.registered) ∧
  (locEng.isInSession = false → locEng.adapter.mLocApi.mEngineOn = false →
    noSession locEng.adapter.mLocApi.registered)

instance : DecidablePred Right := fun _ =>
  inferInstanceAs (Decidable ((_ → Within _ _) ∧ (_ → _ → noSession _)))

/-- What holds of the client, with a session or without. `navigating` is the
    flag of the adapter. The client may run a fix without it, and `idle` is what
    has to be kept in spite of that. -/
structure ClientInv (navigating : Bool) (api : LocApiV02) : Prop where
  opened : api.clientHandle = true
  converted : api.mQmiMask = api.convertMask api.mMask
  running : navigating = true → api.mInSession = true
  full : api.mInSession = true → Within api.mQmiMask api.registered
  idle : navigating = false → api.mEngineOn = false → noSession api.registered

/-- What holds of an adapter and its client. -/
def AdapterInv (adapter : LocEngAdapter) : Prop := ClientInv adapter.mNavigating adapter.mLocApi

theorem right_of_adapterInv {locEng : LocEng} (h : AdapterInv locEng.adapter) : Right locEng :=
  ⟨fun hnav => h.full (h.running hnav), h.idle⟩

/-- The modem does not start the fix. -/
def fails (env : StartEnv) : Prop := startErr env ≠ .success ∧ startErr env ≠ .engineDown

instance : DecidablePred fails := fun _ => inferInstanceAs (Decidable (_ ∧ _))

/-! ## The client -/

theorem clientInv_startFix {navigating : Bool} {api : LocApiV02} (h : ClientInv navigating api)
    (p : LocPosMode) (env : StartEnv) (navigating' : Bool)
    (hidle : navigating' = false → api.mEngineOn = false → noSession api.mQmiMask) :
    ClientInv navigating' (api.startFix p env).1 := by
  rw [(startFix_spec api p env).2]
  exact { opened := h.opened, converted := h.converted, running := fun _ => rfl,
          full := fun _ => within_refl _, idle := hidle }

/-- A fix that is stopped leaves the events to the engine, or takes them off. -/
theorem clientInv_stopFix {navigating : Bool} {api : LocApiV02} (h : ClientInv navigating api)
    (status : LocClientStatus) : ClientInv false (api.stopFix status).1 := by
  rw [stopFix_spec]
  refine { opened := h.opened, converted := h.converted, running := (fun hno => by cases hno),
           full := (fun hno => by cases hno), idle := fun _ hoff => ?_ }
  have hoff : api.mEngineOn = false := hoff
  simp only [hoff]
  exact noSession_adjust api.mQmiMask

/-- A session that ends without the client. -/
theorem clientInv_ended {navigating : Bool} {api : LocApiV02} (h : ClientInv navigating api)
    (hidle : api.mEngineOn = false → noSession api.registered) : ClientInv false api :=
  { opened := h.opened, converted := h.converted, running := (fun hno => by cases hno),
    full := h.full, idle := fun _ => hidle }

theorem clientInv_updateEngineState {navigating : Bool} {api : LocApiV02}
    (h : ClientInv navigating api) (engineOn : Bool)
    (hoff : engineOn = false → navigating = false → api.mEngineOn = true →
      api.mInSession = true → noSession api.registered) :
    ClientInv navigating (api.updateEngineState engineOn) := by
  rw [updateEngineState_spec]
  by_cases hdrop : api.mEngineOn = true ∧ api.mInSession = false ∧ engineOn = false
  · rw [if_pos hdrop]
    refine { opened := h.opened, converted := h.converted, running := h.running,
             full := fun hin => ?_, idle := fun _ _ => noSession_adjust api.mQmiMask }
    have hin : api.mInSession = true := hin
    rw [hdrop.2.1] at hin
    cases hin
  · rw [if_neg hdrop]
    refine { opened := h.opened, converted := h.converted, running := h.running, full := h.full,
             idle := fun hnav hnow => ?_ }
    have hnow : engineOn = false := hnow
    by_cases hon : api.mEngineOn = true
    · refine hoff hnow hnav hon ?_
      by_contra hin
      exact hdrop ⟨hon, by simpa using hin, hnow⟩
    · exact h.idle hnav (by simpa using hon)

/-- More events are session events of a session, or taken off again. -/
theorem clientInv_openClient {navigating : Bool} {api : LocApiV02} (h : ClientInv navigating api)
    (mask : EventMask) (ok : Bool)
    (hidle : navigating = false → api.mEngineOn = false → api.mInSession = true →
      api.newMask mask ≠ api.mMask → noSession (api.convertMask (api.newMask mask))) :
    ClientInv navigating (api.openClient mask ok) := by
  rw [openClient_of_open h.opened]
  by_cases hnew : api.newMask mask ≠ api.mMask
  · have hmore : Within api.mQmiMask (api.convertMask (api.newMask mask)) := by
      rw [h.converted, LocApiV02.newMask, LocApiV02.convertMask_or]
      exact within_or_left _ _
    rw [if_pos hnew]
    refine { opened := h.opened, converted := ?_, running := h.running, full := fun hin => ?_,
             idle := fun hnav hoff => ?_ }
    · cases ok with
      | true => rfl
      | false => exact h.converted
    -- A call that fails leaves the old mask, and what is registered has all of its bits.
    · have hin : api.mInSession = true := hin
      simp only [hin, if_true]
      cases ok with
      | true => exact within_refl _
      | false => exact hmore
    · by_cases hin : api.mInSession = true
      · simp only [hin, if_true]
        exact hidle hnav hoff hin hnew
      · simp only [hin]
        exact noSession_adjust _
  · rw [if_neg hnew]
    exact h

/-! ## The messages -/

/-- A message ends no session in the wrong way: a fix that cannot be started, or
    that is over without being stopped, finds the engine on, the engine does not
    go off with the client still running one, and no event is added then. Masks
    without session events do not matter. The client keeps its own record of the
    session, which only `startFix` and `stopFix` change. Each case is about a
    message that ends the session of the adapter and leaves that of the client,
    or that finds the two apart and registers by the one of the client. -/
def EndsWell (locEng : LocEng) : EngineMsg → Prop
  | .startFix env => locEng.isInSession = false → fails env →
      locEng.adapter.mLocApi.mEngineOn = false → noSession locEng.adapter.mLocApi.mQmiMask
  | .engineUp _ start => locEng.isInSession = true → fails start →
      locEng.adapter.mLocApi.mEngineOn = false → noSession locEng.adapter.mLocApi.mQmiMask
  | .reportPosition msg _ =>
      locEng.mute_session_state ≠ .inSession ∧ locEng.completes msg ∧ msg.mStatus ≠ .intermediate →
        locEng.adapter.mLocApi.mEngineOn = false → noSession locEng.adapter.mLocApi.registered
  | .updateEngineState engineOn => engineOn = false → locEng.isInSession = false →
      locEng.adapter.mLocApi.mEngineOn = true → locEng.adapter.mLocApi.mInSession = true →
        noSession locEng.adapter.mLocApi.registered
  | .locOpen mask _ => locEng.isInSession = false → locEng.adapter.mLocApi.mEngineOn = false →
      locEng.adapter.mLocApi.mInSession = true →
        locEng.adapter.mLocApi.newMask mask ≠ locEng.adapter.mLocApi.mMask →
          noSession (locEng.adapter.mLocApi.convertMask (locEng.adapter.mLocApi.newMask mask))
  | .reportSv _ | .reportStatus _ | .reportNmea _ | .niRequest _ _ | .positionMode _ _ | .stopFix _
  | .delAidData _ | .engineDown | .niInit | .niThreadDone => True

theorem adapterInv_start {adapter : LocEngAdapter} {navigating : Bool}
    (h : ClientInv navigating adapter.mLocApi) (hoff : adapter.mNavigating = false)
    (env : StartEnv)
    (hidle : fails env → adapter.mLocApi.mEngineOn = false → noSession adapter.mLocApi.mQmiMask) :
    AdapterInv (adapter.start env) := by
  have herr : (adapter.startFix env).2 = startErr env := (startFix_spec _ _ env).1
  unfold LocEngAdapter.start
  rw [if_pos hoff, herr]
  split
  · exact clientInv_startFix h _ env true (fun hno => by cases hno)
  · rename_i hno
    rw [not_or] at hno
    have hinv : ClientInv false (adapter.startFix env).1.mLocApi :=
      clientInv_startFix h _ env false fun _ => hidle hno
    unfold AdapterInv
    have hnav : (adapter.startFix env).1.mNavigating = false := hoff
    rw [hnav]
    exact hinv

theorem adapterInv_complete {adapter : LocEngAdapter} (h : AdapterInv adapter)
    (mStatus : SessStatus) (status : LocClientStatus)
    (hidle : mStatus ≠ .intermediate → adapter.mLocApi.mEngineOn = false →
      noSession adapter.mLocApi.registered) :
    AdapterInv (adapter.complete mStatus status) := by
  unfold LocEngAdapter.complete
  split
  · exact clientInv_stopFix h status
  · rename_i hfinal
    exact clientInv_ended h (hidle hfinal)

theorem adapterInv_stop {adapter : LocEngAdapter} (h : AdapterInv adapter)
    (status : LocClientStatus) : AdapterInv (adapter.stop status) := by
  unfold LocEngAdapter.stop
  split
  · exact clientInv_stopFix h status
  · exact h

theorem adapterInv_setPositionMode {adapter : LocEngAdapter} (h : AdapterInv adapter)
    (posMode : Option LocPosMode) (env : StartEnv) :
    AdapterInv (adapter.setPositionMode posMode env).1 := by
  unfold AdapterInv at h ⊢
  unfold LocEngAdapter.setPositionMode LocApiV02.setPositionMode
  by_cases hnav : adapter.mNavigating = true
  · simp only [hnav, if_true]
    exact clientInv_startFix h _ env true (fun hno => by cases hno)
  · simp only [hnav] at h ⊢
    exact h

/-- New criteria leave the mask and the engine as they are. -/
theorem setPositionMode_client (adapter : LocEngAdapter) (posMode : Option LocPosMode)
    (env : StartEnv) :
    (adapter.setPositionMode posMode env).1.mLocApi.mQmiMask = adapter.mLocApi.mQmiMask ∧
      (adapter.setPositionMode posMode env).1.mLocApi.mEngineOn = adapter.mLocApi.mEngineOn := by
  unfold LocEngAdapter.setPositionMode LocApiV02.setPositionMode
  split
  · have hspec := (startFix_spec adapter.mLocApi (posMode.getD adapter.mFixCriteria) env).2
    have hmask := congrArg LocApiV02.mQmiMask hspec
    have hon := congrArg LocApiV02.mEngineOn hspec
    exact ⟨hmask, hon⟩
  · exact ⟨rfl, rfl⟩

theorem adapterInv_restart {adapter : LocEngAdapter} (h : AdapterInv adapter)
    (setMode start : StartEnv)
    (hidle : adapter.mNavigating = true → fails start → adapter.mLocApi.mEngineOn = false →
      noSession adapter.mLocApi.mQmiMask) :
    AdapterInv (adapter.restart setMode start) := by
  unfold LocEngAdapter.restart
  by_cases hnav : adapter.mNavigating = true
  · rw [if_pos hnav]
    have hclient := setPositionMode_client adapter none setMode
    have hset : ClientInv (adapter.setPositionMode none setMode).1.mNavigating
        ((adapter.setPositionMode none setMode).1.setInSession false).mLocApi :=
      adapterInv_setPositionMode h none setMode
    refine adapterInv_start hset rfl start (fun hfails hoff => ?_)
    have hoff' : adapter.mLocApi.mEngineOn = false := hclient.2.symm.trans hoff
    exact hclient.1.symm ▸ hidle hnav hfails hoff'
  · rw [if_neg hnav]
    exact h

/-- A message that ends no session in the wrong way. -/
theorem right_step {s t : LocEng} {msg : EngineMsg} (hs : AdapterInv s.adapter)
    (hok : EndsWell s msg) (h : s.step msg = some t) : AdapterInv t.adapter := by
  cases h
  have hfresh : AdapterInv s.fresh.adapter :=
    { opened := hs.opened, converted := hs.converted, running := hs.running, full := hs.full,
      idle := hs.idle }
  rw [proc_adapter]
  cases msg with
  | reportPosition msg status =>
      simp only [adapterAfter]
      split
      · rename_i hdone
        exact adapterInv_complete hfresh msg.mStatus status fun hfinal =>
          hok ⟨hdone.1, hdone.2, hfinal⟩
      · exact hfresh
  | startFix env =>
      by_cases hnav : s.fresh.adapter.mNavigating = false
      · exact adapterInv_start hfresh hnav env (hok hnav)
      · simp only [adapterAfter, LocEngAdapter.start]
        rw [if_neg hnav]
        exact hfresh
  | stopFix status => exact adapterInv_stop hfresh status
  | engineUp setMode start => exact adapterInv_restart hfresh setMode start hok
  | positionMode mPosMode env => exact adapterInv_setPositionMode hfresh (some mPosMode) env
  | updateEngineState engineOn => exact clientInv_updateEngineState hfresh engineOn hok
  | locOpen mask ok => exact clientInv_openClient hfresh mask ok hok
  | _ => exact hfresh

/-- Without a session, and with the engine off, the client is registered for a
    session event. -/
def Stale (adapter : LocEngAdapter) : Prop :=
  adapter.mNavigating = false ∧ adapter.mLocApi.mEngineOn = false ∧
    ¬ noSession adapter.mLocApi.registered

theorem not_right_of_stale {locEng : LocEng} (h : Stale locEng.adapter) : ¬ Right locEng :=
  fun hright => h.2.2 (hright.2 h.1 h.2.1)

/-- A start that fails leaves the client registered for its whole mask. -/
theorem stale_start {adapter : LocEngAdapter} {env : StartEnv} (hnav : adapter.mNavigating = false)
    (hfails : fails env) (hoff : adapter.mLocApi.mEngineOn = false)
    (hmask : ¬ noSession adapter.mLocApi.mQmiMask) : Stale (adapter.start env) := by
  have hspec := startFix_spec adapter.mLocApi adapter.mFixCriteria env
  have herr : (adapter.startFix env).2 = startErr env := hspec.1
  have hno : ¬ (startErr env = .success ∨ startErr env = .engineDown) := not_or.mpr hfails
  have hreg : (adapter.startFix env).1.mLocApi.registered = adapter.mLocApi.mQmiMask :=
    congrArg LocApiV02.registered hspec.2
  unfold LocEngAdapter.start
  rw [if_pos hnav, herr, if_neg hno]
  exact ⟨hnav, (congrArg LocApiV02.mEngineOn hspec.2).trans hoff, by rw [hreg]; exact hmask⟩

/-- An engine that goes off while the client runs a fix leaves its events. -/
theorem registered_engineOff (api : LocApiV02) (hin : api.mInSession = true) :
    (api.updateEngineState false).registered = api.registered := by
  simp [updateEngineState_spec, hin]

/-- A client that runs a fix is registered for the events that are added. -/
theorem registered_openClient (api : LocApiV02) {mask : EventMask}
    (hopen : api.clientHandle = true) (hin : api.mInSession = true)
    (hnew : api.newMask mask ≠ api.mMask) (ok : Bool) :
    (api.openClient mask ok).mEngineOn = api.mEngineOn ∧
      (api.openClient mask ok).registered = api.convertMask (api.newMask mask) := by
  rw [openClient_of_open hopen, if_pos hnew]
  simp [hin]

/-- One that ends a session in the wrong way leaves the client stale. -/
theorem right_broken {s : LocEng} {msg : EngineMsg} (hs : AdapterInv s.adapter)
    (hno : ¬ EndsWell s msg) : ∃ t, s.step msg = some t ∧ ¬ Right t := by
  refine ⟨_, rfl, not_right_of_stale ?_⟩
  rw [proc_adapter]
  cases msg with
  | startFix env =>
      simp only [EndsWell, Classical.not_imp] at hno
      exact stale_start hno.1 hno.2.1 hno.2.2.1 hno.2.2.2
  | engineUp setMode start =>
      simp only [EndsWell, Classical.not_imp] at hno
      have hnav : s.fresh.adapter.mNavigating = true := hno.1
      -- The modem is told the position mode before the start, which leaves the client alone.
      have hclient := setPositionMode_client s.fresh.adapter none setMode
      simp only [adapterAfter, LocEngAdapter.restart]
      rw [if_pos hnav]
      refine stale_start rfl hno.2.1 (hclient.2.trans hno.2.2.1) ?_
      have hmask : ((s.fresh.adapter.setPositionMode none setMode).1.setInSession false).mLocApi.mQmiMask =
          s.adapter.mLocApi.mQmiMask := hclient.1
      rw [hmask]
      exact hno.2.2.2
  | reportPosition msg status =>
      simp only [EndsWell, Classical.not_imp] at hno
      simp only [adapterAfter]
      rw [if_pos ⟨hno.1.1, hno.1.2.1⟩, LocEngAdapter.complete, if_neg hno.1.2.2]
      exact ⟨rfl, hno.2.1, hno.2.2⟩
  | updateEngineState engineOn =>
      simp only [EndsWell, Classical.not_imp] at hno
      rcases hno with ⟨rfl, hnav, hon, hin, hreg⟩
      -- While a fix is run, an engine that goes off leaves its events registered.
      have hkept := registered_engineOff s.fresh.adapter.mLocApi hin
      refine ⟨hnav, rfl, ?_⟩
      simp only [adapterAfter, hkept]
      exact hreg
  | locOpen mask ok =>
      simp only [EndsWell, Classical.not_imp] at hno
      rcases hno with ⟨hnav, hoff, hin, hnew, hreg⟩
      have hadded := registered_openClient s.fresh.adapter.mLocApi hs.opened hin hnew ok
      refine ⟨hnav, hadded.1.trans hoff, ?_⟩
      simp only [adapterAfter, hadded.2]
      exact hreg
  | _ => exact absurd trivial hno

/-- The engine, once the client of the modem is open. -/
def opened (config : Config) (batchedBreachReport mExcludedMask mask : EventMask) : LocEng :=
  LocEng.init config ((LocApiV02.new batchedBreachReport mExcludedMask).openClient mask true)

theorem opened_inv (config : Config) (batchedBreachReport mExcludedMask mask : EventMask) :
    AdapterInv (opened config batchedBreachReport mExcludedMask mask).adapter := by
  have hopen := @openClient_of_closed (.new batchedBreachReport mExcludedMask) rfl mask true
  show ClientInv false ((LocApiV02.new batchedBreachReport mExcludedMask).openClient mask true)
  rw [hopen]
  exact { opened := rfl, converted := rfl, running := (fun hno => by cases hno),
          full := (fun hno => by cases hno), idle := fun _ _ => noSession_adjust _ }

/-- The client is registered for the right events in just the runs in which
    every session ends well. Both directions are about runs: the first message
    that ends a session in the wrong way leaves a state in which the client is
    registered for a session event without a session. -/
theorem right_iff (config : Config) (batchedBreachReport mExcludedMask mask : EventMask)
    (msgs : List EngineMsg) :
    Throughout LocEng.step Right (opened config batchedBreachReport mExcludedMask mask) msgs ↔
      Meets LocEng.step EndsWell (opened config batchedBreachReport mExcludedMask mask) msgs :=
  throughout_iff_meets (I := fun s => AdapterInv s.adapter) (fun _ hs => right_of_adapterInv hs)
    (fun _ _ _ hs hok hstep => right_step hs hok hstep) (fun _ _ hs hno => right_broken hs hno)
    (opened_inv config batchedBreachReport mExcludedMask mask)

/-- A fix that cannot be started leaves its events registered, and a single
    shot fix that is over does when the engine goes off. -/
theorem events_stay_registered :
    ¬ Throughout LocEng.step Right
      (opened ⟨true, true, true, true, 0, 0, false⟩ 0#32 0#32 0x1#32)
      [.startFix ⟨.failureEngineBusy, false, .success⟩] ∧
    ¬ Throughout LocEng.step Right
      (opened ⟨true, true, true, true, 0, 0, false⟩ 0#32 0#32 0x1#32)
      [.positionMode { LocPosMode.new with recurrence := GPS_POSITION_RECURRENCE_SINGLE }
          ⟨.success, true, .success⟩,
        .startFix ⟨.success, true, .success⟩, .updateEngineState true,
        .reportPosition ⟨⟨false, false, true⟩, .success, 0x1#32, []⟩ .success,
        .updateEngineState false] :=
  ⟨by decide, by decide⟩

end Engine

end Victara
