import Victara.Engine.Session
import Victara.Lib.History

/-!
# A Muted Session

A network request with a privacy override asks for the next session to be
hidden. From the status report that begins it until the one that ends it, no
report of the modem is to reach the framework.

The flag for that is `mute_session_state`, and there are two ways around it. An
NMEA report does not look at it. And a second network request with a privacy
override that comes during the session sets it back to waiting, so that the
rest of the session is in the open. In the runs without either, the session
stays hidden.

The history has the newest event first. A report is on it with every call it
makes, a status with the mute it puts on and the session it ends.

## Main definitions

* `EngineMsg.status`: The status a message has `loc_eng_report_status` process.
* `Output.isReport`: A location, satellites, NMEA or a status.
* `MuteEvent`, `MuteRun`: The engine and its history.
* `statusEvents`: A status that ends the session, or puts the mute on.
* `step`: The status is processed before its report calls.
* `hides`: A session began muted and has not ended.
* `Hidden`: A muted session is not reported.
* `overrides`: A network request with a privacy override is taken.
* `Discreet`: Neither of the two things happens in a muted session.
* `FlagSet`: In a muted session the flag is set.

## Theorems

* `proc_mute`: What a message does to the flag.
* `report_quiet`: What is not reported while the flag is set.
* `flagSet_of_status`: A session that goes on, or begins, leaves the flag set.
* `flagSet_changes`: What is changed before the reports of a message leaves the
  flag right.
* `isEnded_calls`: Reports end nothing.
* `hidden_of_discreet`: The runs in which sessions stay hidden.
-/

namespace Victara

namespace Engine

open LocEng StepSystem History
open LocApi (LocApiV02)

/-- The status a message has `loc_eng_report_status` process. -/
def EngineMsg.status : EngineMsg → Option GpsStatusValue
  | .reportStatus mStatus => some mStatus
  | .engineDown => some GPS_STATUS_ENGINE_OFF
  | .engineUp _ _ => some GPS_STATUS_ENGINE_ON
  | _ => none

def EngineMsg.isReport : EngineMsg → Bool
  | .reportPosition _ _ | .reportSv _ | .reportStatus _ | .reportNmea _ => true
  | _ => false

def EngineMsg.isNmea : EngineMsg → Bool
  | .reportNmea _ => true
  | _ => false

/-- A location, satellites, NMEA or a status. -/
def Output.isReport : Output → Bool
  | .locationCb _ | .svStatusCb | .statusCb _ | .nmeaCb _ => true
  | .niNotifyCb | .deleteAidingData _ => false

/-- A session begins muted, a session ends, and a report calls. -/
inductive MuteEvent
  | muted
  | ended
  | reported (o : Output)
  deriving DecidableEq, Repr

def MuteEvent.isMuted : MuteEvent → Bool
  | .muted => true
  | _ => false

def MuteEvent.isEnded : MuteEvent → Bool
  | .ended => true
  | _ => false

def MuteEvent.leaks : MuteEvent → Bool
  | .reported o => o.isReport
  | _ => false

/-- A status that ends the session, or puts the mute on. -/
def statusEvents (mute_session_state : MuteSession) (status : GpsStatusValue) : List MuteEvent :=
  if status = GPS_STATUS_SESSION_END ∨ status = GPS_STATUS_ENGINE_OFF then [.ended]
  else if mute_session_state ≠ .inSession ∧ muteAfter mute_session_state status = .inSession then
    [.muted]
  else []

structure MuteRun where
  locEng : LocEng
  history : List MuteEvent

namespace MuteRun

def init (config : Config) (mLocApi : LocApiV02) : MuteRun :=
  { locEng := .init config mLocApi, history := [] }

/-- The status is processed before its report calls. -/
def step (s : MuteRun) (msg : EngineMsg) : Option MuteRun :=
  let locEng := s.locEng.fresh.proc msg
  let calls := if msg.isReport then locEng.out.map MuteEvent.reported else []
  let changes := (msg.status.map (statusEvents s.locEng.mute_session_state)).getD []
  some { locEng := locEng, history := calls.reverse ++ (changes ++ s.history) }

end MuteRun

/-- A session began muted and has not ended. -/
def hides (h : List MuteEvent) : Bool := since MuteEvent.isMuted MuteEvent.isEnded h

def Hidden (s : MuteRun) : Prop :=
  Avoids MuteEvent.isMuted MuteEvent.isEnded MuteEvent.leaks s.history

instance : DecidablePred Hidden := fun s => inferInstanceAs (Decidable (Avoids _ _ _ s.history))

/-- A network request with a privacy override is taken. -/
def overrides (locEng : LocEng) : EngineMsg → Bool
  | .niRequest notify_flags _ =>
      locEng.ni_notify_cb && !locEng.rawRequest && notify_flags == GPS_NI_PRIVACY_OVERRIDE
  | _ => false

/-- In a muted session there is no NMEA report to hand on, and no further
    request with a privacy override. NMEA reports are handed on without a look
    at the state of the mute. And a second override sets it back to waiting for
    a session, so that the rest of the one that is on is not hidden. -/
def Discreet (s : MuteRun) (msg : EngineMsg) : Prop :=
  hides s.history = true → overrides s.locEng msg = false ∧
    (msg.isNmea = true → s.locEng.config.nmea_cb = false)

instance (s : MuteRun) (msg : EngineMsg) : Decidable (Discreet s msg) :=
  inferInstanceAs (Decidable (_ → _ ∧ (_ → _)))

/-- In a muted session the flag is set. -/
def FlagSet (s : MuteRun) : Prop :=
  hides s.history = true → s.locEng.mute_session_state = .inSession

/-! ## The flag -/

theorem startHandler_mute (locEng : LocEng) (env : LocApi.StartEnv) :
    (locEng.startHandler env).mute_session_state = locEng.mute_session_state := by
  unfold startHandler
  simp only [informGpsStatus_eq]
  split
  · split <;> rfl
  · rfl

theorem stopHandler_mute (locEng : LocEng) (status : Sync.LocClientStatus) :
    (locEng.stopHandler status).mute_session_state = locEng.mute_session_state := by
  unfold stopHandler
  simp only [informGpsStatus_eq]
  split
  · split <;> rfl
  · rfl

theorem updateAidingData_mute (locEng : LocEng) :
    locEng.updateAidingData.mute_session_state = locEng.mute_session_state := by
  unfold updateAidingData
  split <;> rfl

theorem handleEngineUp_mute (locEng : LocEng) (setMode start : LocApi.StartEnv) :
    (locEng.handleEngineUp setMode start).mute_session_state =
      muteAfter locEng.mute_session_state GPS_STATUS_ENGINE_ON := by
  simp only [handleEngineUp]
  split
  · rw [startHandler_mute, reportStatus_eq]
  · rw [reportStatus_eq]

theorem procReportPosition_mute (locEng : LocEng) (msg : LocEngReportPosition)
    (status : Sync.LocClientStatus) :
    (locEng.procReportPosition msg status).mute_session_state = locEng.mute_session_state := by
  by_cases hmute : locEng.mute_session_state = .inSession
  · simp [procReportPosition, hmute]
  · rw [procReportPosition_eq locEng msg status hmute]
    split <;> rfl

theorem procReportSv_mute (locEng : LocEng) (nmea : List String) :
    (locEng.procReportSv nmea).mute_session_state = locEng.mute_session_state := by
  by_cases hmute : locEng.mute_session_state = .inSession
  · simp [procReportSv, hmute]
  · rw [procReportSv_eq locEng nmea hmute]

theorem niRequestHandler_mute (locEng : LocEng) (notify_flags : GpsNiNotifyFlags)
    (passThrough : Bool) :
    (locEng.niRequestHandler notify_flags passThrough).mute_session_state =
      if overrides locEng (.niRequest notify_flags passThrough) then .wait
      else locEng.mute_session_state := by
  unfold niRequestHandler overrides
  by_cases hcb : locEng.ni_notify_cb = true
  · by_cases hbusy : locEng.rawRequest = true
    · simp [hcb, hbusy]
    · by_cases hflag : notify_flags = GPS_NI_PRIVACY_OVERRIDE
      · simp [hcb, hbusy, hflag, muteOneSession, emit]
      · simp [hcb, hbusy, hflag, emit]
  · simp [hcb]

/-- A status is processed, or a request with a privacy override is taken, or the
    flag stays as it is. -/
theorem proc_mute (locEng : LocEng) (msg : EngineMsg) :
    (locEng.proc msg).mute_session_state =
      match msg.status with
      | some status => muteAfter locEng.mute_session_state status
      | none => if overrides locEng msg then .wait else locEng.mute_session_state := by
  cases msg with
  -- Three kinds of messages: with a status, the request that mutes, and all others.
  | reportPosition msg status => exact procReportPosition_mute locEng msg status
  | reportSv nmea => exact procReportSv_mute locEng nmea
  | reportStatus mStatus =>
      show (locEng.procReportStatus mStatus).mute_session_state = _
      rw [procReportStatus, updateAidingData_mute, reportStatus_eq]
      rfl
  | reportNmea mNmea =>
      show (locEng.nmeaSend [mNmea]).mute_session_state = _
      rw [nmeaSend_eq]
      rfl
  | niRequest notify_flags passThrough => exact niRequestHandler_mute locEng notify_flags passThrough
  | startFix env => exact startHandler_mute locEng env
  | stopFix status => exact stopHandler_mute locEng status
  | delAidData mType => exact updateAidingData_mute _
  -- The reset of the requests leaves the mute alone, and the status is that of the engine.
  | engineDown =>
      show (locEng.niResetOnEngineRestart.reportStatus GPS_STATUS_ENGINE_OFF).mute_session_state = _
      rw [reportStatus_eq, niResetOnEngineRestart]
      split <;> rfl
  | engineUp setMode start => exact handleEngineUp_mute locEng setMode start
  | niInit =>
      show (if locEng.ni_notify_cb then _ else _ : LocEng).mute_session_state = _
      split <;> rfl
  | positionMode mPosMode env => rfl
  | niThreadDone => rfl
  | updateEngineState engineOn => rfl
  | locOpen mask ok => rfl

/-! ## The reports -/

theorem mem_updateAidingData_out {locEng : LocEng} {o : Output}
    (ho : o ∈ locEng.updateAidingData.out) : o ∈ locEng.out ∨ o.isReport = false := by
  unfold updateAidingData at ho
  split at ho
  · rcases List.mem_append.mp ho with hold | hnew
    · exact Or.inl hold
    · rw [List.mem_singleton.mp hnew]
      exact Or.inr rfl
  · exact Or.inl ho

/-- While the flag is set, no report is handed on but those of NMEA. -/
theorem report_quiet {locEng : LocEng} {msg : EngineMsg} (hout : locEng.out = [])
    (hreport : msg.isReport = true)
    (hmute : (locEng.proc msg).mute_session_state = .inSession)
    (hnmea : msg.isNmea = true → locEng.config.nmea_cb = false) :
    ∀ o ∈ (locEng.proc msg).out, o.isReport = false := by
  rw [proc_mute] at hmute
  cases msg with
  | reportPosition msg status =>
      have hset : locEng.mute_session_state = .inSession := hmute
      simp [proc, procReportPosition, hset, hout]
  | reportSv nmea =>
      have hset : locEng.mute_session_state = .inSession := hmute
      simp [proc, procReportSv, hset, hout]
  | reportStatus mStatus =>
      have hset : muteAfter locEng.mute_session_state mStatus = .inSession := hmute
      have hnone : locEng.reportMsgs mStatus = [] := by simp [reportMsgs, hset]
      intro o ho
      rcases mem_updateAidingData_out ho with hold | hother
      · rw [reportStatus_eq, hnone, hout] at hold
        cases hold
      · exact hother
  | reportNmea mNmea =>
      simp [proc, procReportNmea, nmeaSend, hnmea rfl, hout]
  | _ => cases hreport

/-- A session that goes on, or begins, leaves the flag set. -/
theorem flagSet_of_status {mute_session_state : MuteSession} {status : GpsStatusValue}
    {h : List MuteEvent} (hset : hides h = true → mute_session_state = .inSession)
    (hnow : hides (statusEvents mute_session_state status ++ h) = true) :
    muteAfter mute_session_state status = .inSession := by
  unfold statusEvents at hnow
  by_cases hend : status = GPS_STATUS_SESSION_END ∨ status = GPS_STATUS_ENGINE_OFF
  · rw [if_pos hend] at hnow
    cases hnow
  · rw [if_neg hend] at hnow
    by_cases hmute : mute_session_state ≠ .inSession ∧
        muteAfter mute_session_state status = .inSession
    · exact hmute.2
    · rw [if_neg hmute] at hnow
      have hin := hset hnow
      simp [muteAfter, hin, hend]

/-- What is changed before the reports of a message leaves the flag right. -/
theorem flagSet_changes {s : MuteRun} {msg : EngineMsg} (hs : FlagSet s) (hok : Discreet s msg)
    (hnow : hides ((msg.status.map (statusEvents s.locEng.mute_session_state)).getD [] ++
      s.history) = true) :
    (s.locEng.fresh.proc msg).mute_session_state = .inSession := by
  rw [proc_mute]
  cases hstatus : msg.status with
  | some status =>
      rw [hstatus] at hnow
      exact flagSet_of_status hs hnow
  | none =>
      rw [hstatus] at hnow
      have hoverride : overrides s.locEng.fresh msg = false := (hok hnow).1
      simp only [hoverride, Bool.false_eq_true, if_false]
      exact hs hnow

/-- Reports end nothing. -/
theorem isEnded_calls (os : List Output) :
    ∀ e ∈ (os.map MuteEvent.reported).reverse, e.isEnded = false := by
  intro e he
  rcases List.mem_map.mp (List.mem_reverse.mp he) with ⟨o, _, rfl⟩
  rfl

theorem isMuted_calls (os : List Output) :
    ((os.map MuteEvent.reported).reverse).any MuteEvent.isMuted = false := by
  rw [List.any_eq_false]
  intro e he
  rcases List.mem_map.mp (List.mem_reverse.mp he) with ⟨o, _, rfl⟩
  exact Bool.false_ne_true

theorem avoids_changes {mute_session_state : MuteSession} {msg : EngineMsg} {h : List MuteEvent}
    (hh : Avoids MuteEvent.isMuted MuteEvent.isEnded MuteEvent.leaks h) :
    Avoids MuteEvent.isMuted MuteEvent.isEnded MuteEvent.leaks
      ((msg.status.map (statusEvents mute_session_state)).getD [] ++ h) := by
  cases msg.status with
  | none => exact hh
  | some status =>
      simp only [Option.map_some, Option.getD_some, statusEvents]
      split
      · exact ⟨(fun hleak => by cases hleak), hh⟩
      · split
        · exact ⟨(fun hleak => by cases hleak), hh⟩
        · exact hh

theorem hidden_step {s t : MuteRun} {msg : EngineMsg} (hs : Hidden s) (hflag : FlagSet s)
    (hok : Discreet s msg) (h : s.step msg = some t) : Hidden t ∧ FlagSet t := by
  cases h
  have hchanges := flagSet_changes hflag hok
  by_cases hreport : msg.isReport = true
  · simp only [Hidden, FlagSet, hides, hreport, if_true]
    refine ⟨avoids_append (isEnded_calls _) ?_ (avoids_changes hs), fun hnow => ?_⟩
    · rintro ⟨e, he, hleak⟩
      refine ⟨isMuted_calls _, ?_⟩
      rcases List.mem_map.mp (List.mem_reverse.mp he) with ⟨o, ho, rfl⟩
      by_contra hnow
      rw [Bool.not_eq_false] at hnow
      have hout : s.locEng.fresh.out = [] := rfl
      have hquiet := report_quiet hout hreport (hchanges hnow) ?_ o ho
      · rw [MuteEvent.leaks, hquiet] at hleak
        cases hleak
      · intro hnmea
        cases msg with
        | reportNmea mNmea => exact (hok hnow).2 rfl
        | _ => cases hnmea
    · rw [since_append (isEnded_calls _), isMuted_calls, Bool.false_or] at hnow
      exact hchanges hnow
  · simp only [Hidden, FlagSet, hides, hreport]
    exact ⟨avoids_changes hs, hchanges⟩

/-- In a discreet run every muted session stays hidden: between the request that
    mutes it and its end nothing that the modem reports is handed to the
    framework. -/
theorem hidden_of_discreet (config : Config) (mLocApi : LocApiV02) (msgs : List EngineMsg)
    (hmsgs : Meets MuteRun.step Discreet (MuteRun.init config mLocApi) msgs) :
    Throughout MuteRun.step Hidden (MuteRun.init config mLocApi) msgs :=
  throughout_of_meets (I := fun s => Hidden s ∧ FlagSet s) (fun s hs => hs.1)
    (fun s msg t hs hok hstep => hidden_step hs.1 hs.2 hok hstep)
    ⟨trivial, fun h => by cases h⟩ hmsgs

/-- The location of a muted session is not reported. -/
theorem hidden_session :
    Throughout MuteRun.step Hidden
      (MuteRun.init ⟨true, true, true, true, 0, 0, false⟩ (.new 0#32 0#32))
      [.niInit, .niRequest GPS_NI_PRIVACY_OVERRIDE true, .reportStatus GPS_STATUS_SESSION_BEGIN,
        .reportPosition ⟨⟨false, false, true⟩, .success, 0x1#32, []⟩ .success,
        .reportStatus GPS_STATUS_SESSION_END] :=
  hidden_of_discreet _ _ _ (by decide)

/-- NMEA of a muted session is reported, and its location is after a second
    network request. -/
theorem muted_session_leaks :
    ¬ Throughout MuteRun.step Hidden
      (MuteRun.init ⟨true, true, true, true, 0, 0, false⟩ (.new 0#32 0#32))
      [.niInit, .niRequest GPS_NI_PRIVACY_OVERRIDE true, .reportStatus GPS_STATUS_SESSION_BEGIN,
        .reportNmea "GPGGA"] ∧
    ¬ Throughout MuteRun.step Hidden
      (MuteRun.init ⟨true, true, true, true, 0, 0, false⟩ (.new 0#32 0#32))
      [.niInit, .niRequest GPS_NI_PRIVACY_OVERRIDE true, .reportStatus GPS_STATUS_SESSION_BEGIN,
        .niThreadDone, .niRequest GPS_NI_PRIVACY_OVERRIDE true,
        .reportPosition ⟨⟨false, false, true⟩, .success, 0x1#32, []⟩ .success] :=
  ⟨by decide, by decide⟩

end Engine

end Victara
