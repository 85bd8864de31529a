import Victara.Engine.Resume

/-!
# A Single Fix

A session with the recurrence `GPS_POSITION_RECURRENCE_SINGLE` is over for the
engine as soon as a location has been handed on: the report that does it takes
the session flag off. If it was an intermediate one, the modem is told to stop,
as its final fix is not needed any more.

The reports that are in the queue by then are processed all the same, and
nothing in that looks at the session flag. They are handed on as well
(`queuedFix_handed_on`), until the next start. Of the reports that are
processed while the session is on at most one has a location that is handed on.

Criteria with another recurrence that come during the session make another
session of it, for the modem too.

The run keeps what has happened since a single shot session was started, which
the program does not.

## Main definitions

* `Output.isLocation`: `location_cb` is called with a location.
* `Shot`: A session, with the locations that were handed on since its start.
* `ShotRun`: The engine with the last session.
* `begun`: A session that a start makes of `s`.
* `followed`: What another message does to the session, from `s` to `t`.
* `OneLocation`: One location, and the session is over.
* `OneInSession`: The same for the reports that are processed during the
  session, if it stays a single shot.
* `LocEng.locations`: The locations among the calls.
* `LocEng.handedOn`: The location that a report is handed on with.
* `ShotInv`: While a single shot session is on it stays one, and no location has
  been handed on.
* `wantsAll`: Intermediate fixes are wanted.
* `singleMode`: The criteria of a single fix, and a report of a fix.

## Theorems

* `locations_proc`: What a message hands on.
* `isInSession_proc`: What becomes of the session flag.
* `isInSession_of_handedOn`: A location that is handed on ends a single shot.
* `recurrence_proc`: Only criteria change the recurrence.
* `shotInv_begun`: A start begins a session without locations.
* `shotInv_followed`: Another message keeps the session a single shot, or ends
  it.
* `oneInSession`: One location while the session is on, in every run.
* `oneLocation_of_inSession`: One location if none comes after the session.
-/

namespace Victara

namespace Engine

open LocEng StepSystem
open LocApi

/-- `location_cb` is called with a location. -/
def Output.isLocation : Output → Bool
  | .locationCb (some _) => true
  | _ => false

/-- Whether the session was given another recurrence while it was on, and for
    each location that has been handed on whether it was on before. -/
structure Shot where
  changed : Bool
  calls : List Bool
  deriving DecidableEq, Repr

/-- The engine, and the session that the last `LocEngStartFix` began, if it is a
    single shot. -/
structure ShotRun where
  locEng : LocEng
  shot : Option Shot

namespace ShotRun

def init (config : Config) (mLocApi : LocApiV02) : ShotRun :=
  { locEng := .init config mLocApi, shot := none }

/-- A session that a start makes of `s`. -/
def begun (s t : LocEng) : Option Shot :=
  if s.isInSession = false ∧ t.isInSession = true ∧
      t.adapter.mFixCriteria.recurrence = GPS_POSITION_RECURRENCE_SINGLE then
    some ⟨false, []⟩
  else none

/-- What another message does to the session, from `s` to `t`. -/
def followed (s t : LocEng) (msg : EngineMsg) (shot : Shot) : Shot where
  changed := shot.changed ||
    s.isInSession && msg.criteria.any (·.recurrence != GPS_POSITION_RECURRENCE_SINGLE)
  calls := (t.out.filter Output.isLocation).map (fun _ => s.isInSession) ++ shot.calls

def step (s : ShotRun) (msg : EngineMsg) : Option ShotRun :=
  let locEng := s.locEng.fresh.proc msg
  some {
    locEng := locEng
    shot := match msg with
      | .startFix _ => begun s.locEng locEng
      | msg => s.shot.map (followed s.locEng locEng msg) }

end ShotRun

/-- Since a single shot session was started, at most one location has been
    handed on, and if there has been one the session is over. -/
def OneLocation (s : ShotRun) : Prop :=
  ∀ shot ∈ s.shot, shot.calls.length ≤ 1 ∧ (shot.calls ≠ [] → s.locEng.isInSession = false)

/-- While the session was on, if it stayed a single shot, at most one report
    handed on a location, and if there has been one at all the session is over.
    A session that is made a tracking session meanwhile is left out by
    `changed`, as it goes on by design. -/
def OneInSession (s : ShotRun) : Prop :=
  ∀ shot ∈ s.shot, shot.changed = false →
    shot.calls.count true ≤ 1 ∧ (shot.calls ≠ [] → s.locEng.isInSession = false)

instance : DecidablePred OneLocation := fun s => inferInstanceAs (Decidable (∀ _ ∈ s.shot, _ ∧ (_ → _)))

/-! ## What is handed on -/

/-- The locations among the calls. -/
def LocEng.locations (locEng : LocEng) : List Output := locEng.out.filter Output.isLocation

theorem filter_statusMsgs (locEng : LocEng) (status : GpsStatusValue) :
    (locEng.statusMsgs status).filter Output.isLocation = [] := by
  unfold statusMsgs
  split <;> rfl

theorem filter_nmeaMsgs (locEng : LocEng) (sentences : List String) :
    (locEng.nmeaMsgs sentences).filter Output.isLocation = [] := by
  unfold nmeaMsgs
  split
  · simp [Output.isLocation]
  · rfl

theorem locations_informGpsStatus (locEng : LocEng) (status : GpsStatusValue) :
    (locEng.informGpsStatus status).locations = locEng.locations := by
  rw [informGpsStatus_eq]
  simp only [locations, List.filter_append, filter_statusMsgs, List.append_nil]

theorem locations_nmeaSend (locEng : LocEng) (sentences : List String) :
    (locEng.nmeaSend sentences).locations = locEng.locations := by
  rw [nmeaSend_eq]
  simp only [locations, List.filter_append, filter_nmeaMsgs, List.append_nil]

theorem locations_reportStatus (locEng : LocEng) (status : GpsStatusValue) :
    (locEng.reportStatus status).locations = locEng.locations := by
  have hcall : (locEng.reportMsgs status).filter Output.isLocation = [] := by
    unfold reportMsgs
    split
    · exact filter_statusMsgs locEng status
    · rfl
  rw [reportStatus_eq]
  simp only [locations, List.filter_append, hcall, List.append_nil]

theorem locations_updateAidingData (locEng : LocEng) :
    locEng.updateAidingData.locations = locEng.locations := by
  unfold updateAidingData
  split
  · simp [locations, emit, Output.isLocation]
  · rfl

theorem locations_startHandler (locEng : LocEng) (env : StartEnv) :
    (locEng.startHandler env).locations = locEng.locations := by
  unfold startHandler
  by_cases hin : locEng.isInSession = false
  · rw [if_pos hin]
    simp only
    split
    · rw [locations_informGpsStatus]
      rfl
    · rfl
  · rw [if_neg hin]

theorem locations_stopHandler (locEng : LocEng) (status : Sync.LocClientStatus) :
    (locEng.stopHandler status).locations = locEng.locations := by
  unfold stopHandler
  by_cases hin : locEng.isInSession = true
  · rw [if_pos hin]
    simp only
    split
    · exact locations_informGpsStatus { locEng with adapter := (locEng.adapter.stopFix status).1 }
        GPS_STATUS_SESSION_END
    · rfl
  · rw [if_neg hin]

theorem locations_handleEngineUp (locEng : LocEng) (setMode start : StartEnv) :
    (locEng.handleEngineUp setMode start).locations = locEng.locations := by
  unfold handleEngineUp
  simp only
  split
  · rw [locations_startHandler]
    exact locations_reportStatus locEng GPS_STATUS_ENGINE_ON
  · exact locations_reportStatus locEng GPS_STATUS_ENGINE_ON

theorem locations_procReportSv (locEng : LocEng) (nmea : List String) :
    (locEng.procReportSv nmea).locations = locEng.locations := by
  by_cases hmute : locEng.mute_session_state = .inSession
  · unfold procReportSv
    rw [if_neg (not_not_intro hmute)]
  · have hcalls : (locEng.svMsgs nmea).filter Output.isLocation = [] := by
      unfold svMsgs
      rw [List.filter_append]
      split <;> split <;> first | exact filter_nmeaMsgs locEng nmea | rfl
    rw [procReportSv_eq locEng nmea hmute]
    simp only [locations, List.filter_append, hcalls, List.append_nil]

theorem locations_niRequestHandler (locEng : LocEng) (notify_flags : GpsNiNotifyFlags)
    (passThrough : Bool) :
    (locEng.niRequestHandler notify_flags passThrough).locations = locEng.locations := by
  unfold niRequestHandler
  split
  · rfl
  · split
    · rfl
    · simp only [locations, emit, muteOneSession]
      split <;> simp [Output.isLocation]

/-- The location that a report is handed on with. -/
def LocEng.handedOn (locEng : LocEng) : EngineMsg → Option UlpLocation
  | .reportPosition msg _ =>
    if locEng.mute_session_state = .inSession then none else (locEng.reportedLocation msg).join
  | _ => none

theorem locations_procReportPosition (locEng : LocEng) (msg : LocEngReportPosition)
    (status : Sync.LocClientStatus) :
    (locEng.procReportPosition msg status).locations = locEng.locations ++
      ((locEng.handedOn (.reportPosition msg status)).map fun x => .locationCb (some x)).toList := by
  simp only [handedOn]
  by_cases hmute : locEng.mute_session_state = .inSession
  · rw [if_pos hmute]
    unfold procReportPosition
    rw [if_neg (not_not_intro hmute)]
    exact (List.append_nil _).symm
  · rw [if_neg hmute]
    have hnmea : (if locEng.config.generateNmea ∧ msg.mLocation.fromGnss then
        locEng.nmeaMsgs msg.nmea else []).filter Output.isLocation = [] := by
      split
      · exact filter_nmeaMsgs locEng msg.nmea
      · rfl
    rw [procReportPosition_eq locEng msg status hmute]
    simp only [locations, positionMsgs, List.filter_append, hnmea, List.append_nil]
    rcases locEng.reportedLocation msg with _ | location | location <;> rfl

/-- Only a report of a position hands on a location, and at most one. -/
theorem locations_proc (locEng : LocEng) (msg : EngineMsg) :
    (locEng.proc msg).locations = locEng.locations ++
      ((locEng.handedOn msg).map fun x => .locationCb (some x)).toList := by
  have hnone : ∀ l : List Output, l = l ++ ((none : Option UlpLocation).map fun x =>
      Output.locationCb (some x)).toList := fun l => (List.append_nil l).symm
  cases msg with
  | reportPosition msg status => exact locations_procReportPosition locEng msg status
  | reportSv nmea => exact (locations_procReportSv locEng nmea).trans (hnone _)
  | reportStatus mStatus =>
      exact ((locations_updateAidingData _).trans (locations_reportStatus locEng mStatus)).trans
        (hnone _)
  | reportNmea mNmea => exact (locations_nmeaSend locEng [mNmea]).trans (hnone _)
  | niRequest notify_flags passThrough =>
      exact (locations_niRequestHandler locEng notify_flags passThrough).trans (hnone _)
  | startFix env => exact (locations_startHandler locEng env).trans (hnone _)
  | stopFix status => exact (locations_stopHandler locEng status).trans (hnone _)
  | delAidData mType => exact (locations_updateAidingData _).trans (hnone _)
  | engineDown =>
      refine (locations_reportStatus _ GPS_STATUS_ENGINE_OFF).trans ?_
      unfold niResetOnEngineRestart
      split <;> exact hnone _
  | engineUp setMode start => exact (locations_handleEngineUp locEng setMode start).trans (hnone _)
  | niInit =>
      simp only [proc]
      split <;> exact hnone _
  | positionMode mPosMode env => exact hnone _
  | niThreadDone => exact hnone _
  | updateEngineState engineOn => exact hnone _
  | locOpen mask ok => exact hnone _

/-! ## The session flag -/

/-- Without a start a session is not begun. -/
theorem isInSession_proc {locEng : LocEng} {msg : EngineMsg} (hmsg : ∀ env, msg ≠ .startFix env)
    (hin : locEng.isInSession = false) : (locEng.proc msg).isInSession = false := by
  unfold isInSession at hin ⊢
  rw [proc_adapter]
  cases msg with
  | startFix env => exact absurd rfl (hmsg env)
  | reportPosition msg status =>
      simp only [adapterAfter]
      split
      · unfold LocEngAdapter.complete
        rfl
      · exact hin
  | stopFix status =>
      simp only [adapterAfter, LocEngAdapter.stop, hin]
      exact hin
  | engineUp setMode start =>
      simp only [adapterAfter, LocEngAdapter.restart, hin]
      exact hin
  | positionMode mPosMode env => exact hin
  | _ => exact hin

/-- A location that is handed on ends a single shot. -/
theorem isInSession_of_handedOn {locEng : LocEng} {msg : EngineMsg} {location : UlpLocation}
    (hsingle : locEng.adapter.mFixCriteria.recurrence = GPS_POSITION_RECURRENCE_SINGLE)
    (h : locEng.handedOn msg = some location) : (locEng.proc msg).isInSession = false := by
  unfold isInSession
  rw [proc_adapter]
  cases msg with
  | reportPosition msg status =>
      simp only [handedOn] at h
      by_cases hmute : locEng.mute_session_state = .inSession
      · rw [if_pos hmute] at h
        cases h
      · rw [if_neg hmute] at h
        have hreported : (locEng.reportedLocation msg).isSome = true := by
          rw [Option.join_eq_some_iff.mp h]
          rfl
        simp only [adapterAfter]
        rw [if_pos ⟨hmute, hreported, hsingle⟩]
        rfl
  | _ => cases h

/-- Only criteria change the recurrence. -/
theorem recurrence_proc (locEng : LocEng) (msg : EngineMsg) :
    (locEng.proc msg).adapter.mFixCriteria.recurrence =
      (msg.criteria.getD locEng.adapter.mFixCriteria).recurrence := by
  rw [proc_adapter]
  rcases criteria_of_adapterAfter locEng msg with hkept | ⟨hnone, hlost⟩
  · rw [hkept]
  · rw [hlost, hnone]
    rfl

/-! ## Every run -/

/-- While a single shot session is on it stays one, and no location has been
    handed on. -/
def ShotInv (s : ShotRun) : Prop :=
  ∀ shot ∈ s.shot, shot.changed = false →
    shot.calls.count true ≤ 1 ∧
      (s.locEng.isInSession = true → shot.calls = [] ∧
        s.locEng.adapter.mFixCriteria.recurrence = GPS_POSITION_RECURRENCE_SINGLE)

theorem oneInSession_of_inv {s : ShotRun} (h : ShotInv s) : OneInSession s := by
  intro shot hshot hchanged
  obtain ⟨hcount, hon⟩ := h shot hshot hchanged
  refine ⟨hcount, fun hcalls => ?_⟩
  by_contra hin
  rw [Bool.not_eq_false] at hin
  exact hcalls (hon hin).1

/-- A start begins a session without locations. -/
theorem shotInv_begun {s t : LocEng} : ShotInv ⟨t, ShotRun.begun s t⟩ := by
  intro shot hshot hchanged
  unfold ShotRun.begun at hshot
  simp only at hshot
  split at hshot
  case isTrue hbegun =>
      cases hshot
      exact ⟨Nat.zero_le 1, fun _ => ⟨rfl, hbegun.2.2⟩⟩
  case isFalse => cases hshot

theorem calls_followed (s : LocEng) (msg : EngineMsg) (shot : Shot) :
    (ShotRun.followed s (s.fresh.proc msg) msg shot).calls =
      (s.fresh.handedOn msg).toList.map (fun _ => s.isInSession) ++ shot.calls := by
  have hlocations := locations_proc s.fresh msg
  unfold locations at hlocations
  unfold ShotRun.followed
  simp only
  rw [hlocations]
  rcases s.fresh.handedOn msg with _ | location <;> rfl

/-- Another message keeps the session a single shot, or ends it. -/
theorem shotInv_followed {s : ShotRun} {msg : EngineMsg} (hmsg : ∀ env, msg ≠ .startFix env)
    (hs : ShotInv s) :
    ShotInv ⟨s.locEng.fresh.proc msg,
      s.shot.map (ShotRun.followed s.locEng (s.locEng.fresh.proc msg) msg)⟩ := by
  intro shot hshot hchanged
  obtain ⟨old, hold, rfl⟩ := Option.map_eq_some_iff.mp hshot
  obtain ⟨hbefore, hset⟩ : old.changed = false ∧
      (s.locEng.isInSession && msg.criteria.any (·.recurrence != GPS_POSITION_RECURRENCE_SINGLE)) =
        false := Bool.or_eq_false_iff.mp hchanged
  obtain ⟨hcount, hon⟩ := hs old hold hbefore
  rw [calls_followed]
  by_cases hin : s.locEng.isInSession = true
  · obtain ⟨hcalls, hsingle⟩ := hon hin
    rw [hcalls, List.append_nil]
    rcases hhanded : s.locEng.fresh.handedOn msg with _ | location
    · -- Nothing is handed on, and the recurrence is as it was.
      refine ⟨Nat.zero_le 1, fun _ => ⟨rfl, ?_⟩⟩
      rw [hin, Bool.true_and] at hset
      simp only
      rw [recurrence_proc]
      rcases hcriteria : msg.criteria with _ | p
      · exact hsingle
      · rw [hcriteria] at hset
        simpa using hset
    · -- This is the one, and the session is over.
      have hover : (s.locEng.fresh.proc msg).isInSession = false :=
        isInSession_of_handedOn hsingle hhanded
      refine ⟨List.count_le_length, fun hin' => ?_⟩
      rw [hover] at hin'
      cases hin'
  · -- The session is over already.
    rw [Bool.not_eq_true] at hin
    have hover : (s.locEng.fresh.proc msg).isInSession = false := isInSession_proc hmsg hin
    refine ⟨?_, fun hin' => ?_⟩
    · rw [List.count_append, hin]
      rcases s.locEng.fresh.handedOn msg with _ | location <;> simpa using hcount
    · rw [hover] at hin'
      cases hin'

theorem shotInv_step {s t : ShotRun} {msg : EngineMsg} (hs : ShotInv s)
    (h : s.step msg = some t) : ShotInv t := by
  cases h
  cases msg with
  | startFix env => exact shotInv_begun
  | _ => exact shotInv_followed (fun env => nofun) hs

/-- In every run: of the reports that are processed while a single shot session
    is on at most one hands on a location, and after that it is not on. -/
theorem oneInSession (config : Config) (mLocApi : LocApiV02) (msgs : List EngineMsg) :
    Throughout ShotRun.step OneInSession (ShotRun.init config mLocApi) msgs := by
  have hinit : ShotInv (ShotRun.init config mLocApi) := by
    intro shot hshot
    cases hshot
  exact throughout_of_meets (fun s => oneInSession_of_inv)
    (fun s msg t hs _ h => shotInv_step hs h) hinit (G := fun _ _ => True)
    (meets_of_forall (fun _ _ _ => trivial) _)

/-- If none comes after the session, and it stays a single shot, that is the only
    one. -/
theorem oneLocation_of_inSession {s : ShotRun} (h : OneInSession s)
    (hstays : ∀ shot ∈ s.shot, shot.changed = false ∧ ∀ on ∈ shot.calls, on = true) :
    OneLocation s := by
  intro shot hshot
  obtain ⟨hchanged, hall⟩ := hstays shot hshot
  obtain ⟨hcount, hover⟩ := h shot hshot hchanged
  rw [List.count_eq_length.mpr fun on hon => (hall on hon).symm] at hcount
  exact ⟨hcount, hover⟩

/-! ## Two runs in which there is more than one -/

/-- Intermediate fixes are wanted. -/
def wantsAll : Config := ⟨true, true, true, true, 1, 0, false⟩

/-- The criteria of a single fix, and a report of a fix. -/
def singleMode : EngineMsg :=
  .positionMode { LocPosMode.new with recurrence := GPS_POSITION_RECURRENCE_SINGLE }
    ⟨.success, true, .success⟩

def fixReport (mStatus : SessStatus) : EngineMsg :=
  .reportPosition ⟨⟨false, false, true⟩, mStatus, LOC_POS_TECH_MASK_SATELLITE, []⟩ .success

/-- The final fix is in the queue when the intermediate one ends the session, and
    is handed on too; and a session that is made a periodic one goes on. -/
theorem queuedFix_handed_on :
    ¬ Throughout ShotRun.step OneLocation (.init wantsAll (.new 0#32 0#32))
        [singleMode, .startFix ⟨.success, true, .success⟩, fixReport .intermediate,
          fixReport .success] ∧
      ¬ Throughout ShotRun.step OneLocation (.init wantsAll (.new 0#32 0#32))
        [singleMode, .startFix ⟨.success, true, .success⟩,
          .positionMode .new ⟨.success, true, .success⟩, fixReport .success] := by
  constructor <;> decide +kernel

end Engine

end Victara
