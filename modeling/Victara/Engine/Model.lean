import Victara.LocApi.LocApiV02
import Victara.Lib.StepSystem

/-!
# The Messages of the Location Engine

`loc_eng.cpp`: everything the engine does it does in `proc` of a message, one
message after another. Reports of the modem are handed on to the framework,
requests of the framework to the modem.

A fix is under way for the engine when the adapter says so (`mNavigating`), and
for the client of the modem when `mInSession` says so; the two are set by
different functions. A session that a network request wants hidden is muted:
the request leaves `mute_session_state` waiting, the next session begins muted,
and its end takes the mute off.

What the modem answers to a message is part of the message, and so are the NMEA
sentences that the engine writes for a report: how a sentence is put together
does not matter here. `out` has what the message being processed has called.

## Main definitions

* `AidingData`: `GpsAidingData`.
* `MuteSession`: `loc_mute_session_e_type`.
* `SessStatus`: `loc_sess_status`.
* `UlpLocation`: What the engine reads of a location: whether its accuracy is
  given and exceeds `ACCURACY_THRES`, and whether it comes from the GNSS.
* `LocEngReportPosition`: `nmea` has the sentences that are written for the
  report.
* `Output`: What is called: the framework, and `deleteAidingData` of the
  adapter.
* `LocEngAdapter`, `LocEng`: The data.
* `Config`: What `loc_eng_init` is given: which callbacks there are, and what
  the configuration says.
* `LocEngAdapter.new`: A new adapter has no criteria.
* `LocEng.init`: `loc_eng_init`.
* `setPositionMode`: Without criteria the adapter's own copy is sent to the
  modem.
* `setInSession`: The client of the modem is told too, and does nothing about
  it.
* `informGpsStatus`: `loc_inform_gps_status`.
* `nmeaSend`: `loc_eng_nmea_send`, for a number of sentences.
* `muteAfter`: The mute of the status that is reported: a waiting one is put on
  when a session begins, and the one that is on is taken off when it ends.
* `reportStatus`, `startHandler`, `stopHandler`, `niRequestHandler`,
  `handleEngineDown`, `handleEngineUp`: The handlers.
* `updateAidingData`: `update_aiding_data_for_deletion`.
* `muteOneSession`: `loc_eng_mute_one_session`.
* `niResetOnEngineRestart`: `loc_eng_ni_reset_on_engine_restart`.
* `reportedLocation`: The call of `location_cb` for a report.
* `callLocationCb`: `location_cb` is called, or not.
* `completeSingleShot`: A single shot fix that has been reported is over.
* `procReportPosition`: `LocEngReportPosition::proc`.
* `procReportSv`: `LocEngReportSv::proc`.
* `procReportStatus`: `LocEngReportStatus::proc`.
* `procReportNmea`: `LocEngReportNmea::proc`.
* `procDelAidData`: `LocEngDelAidData::proc`.
* `procPositionMode`: `LocEngPositionMode::proc`.
* `EngineMsg`, `proc`: The messages.
* `fresh`: Before a message nothing has been called or sent for it.
* `step`: A message is processed.
* `statusMsgs`: The call that tells the framework a status.
* `nmeaMsgs`: The calls that send an output its sentences.
* `reportMsgs`: The call a status report makes, with the mute as it is after it.
* `positionMsgs`: The calls of a position report that is not muted.
* `svMsgs`: The calls of a satellite report.
* `completes`: The report is handed on, and the fix was to be a single one.

## Theorems

* `reportStatus_eq`, `procReportPosition_eq`, `procReportSv_eq`: All that a
  report does.
-/

namespace Victara

namespace Engine

open LocApi
open Sync (LocClientStatus)

abbrev GpsStatusValue := UInt16

def GPS_STATUS_NONE : GpsStatusValue := 0

def GPS_STATUS_SESSION_BEGIN : GpsStatusValue := 1

def GPS_STATUS_SESSION_END : GpsStatusValue := 2

def GPS_STATUS_ENGINE_ON : GpsStatusValue := 3

def GPS_STATUS_ENGINE_OFF : GpsStatusValue := 4

/-- `GpsAidingData`. -/
abbrev AidingData := BitVec 32

abbrev LocPosTechMask := BitVec 32

def LOC_POS_TECH_MASK_SATELLITE : LocPosTechMask := 0x1#32

def LOC_POS_TECH_MASK_SENSORS : LocPosTechMask := 0x8#32

def LOC_POS_TECH_MASK_HYBRID : LocPosTechMask := 0x80#32

abbrev GpsNiNotifyFlags := UInt32

def GPS_NI_PRIVACY_OVERRIDE : GpsNiNotifyFlags := 4

/-- `loc_mute_session_e_type`. -/
inductive MuteSession
  | none | wait | inSession
  deriving DecidableEq, Repr

/-- `loc_sess_status`. -/
inductive SessStatus
  | success | intermediate | failure
  deriving DecidableEq, Repr

/-- What the engine reads of a location: whether its accuracy is given and
    exceeds `ACCURACY_THRES`, and whether it comes from the GNSS. -/
structure UlpLocation where
  hasAccuracy : Bool
  exceedsThres : Bool
  fromGnss : Bool
  deriving DecidableEq, Repr

/-- `nmea` has the sentences that are written for the report. -/
structure LocEngReportPosition where
  mLocation : UlpLocation
  mStatus : SessStatus
  mTechMask : LocPosTechMask
  nmea : List String
  deriving DecidableEq, Repr

/-- What is called: the framework, and `deleteAidingData` of the adapter. -/
inductive Output
  | locationCb (location : Option UlpLocation)
  | svStatusCb
  | statusCb (status : GpsStatusValue)
  | nmeaCb (sentence : String)
  | niNotifyCb
  | deleteAidingData (f : AidingData)
  deriving DecidableEq, Repr

structure LocEngAdapter where
  mFixCriteria : LocPosMode
  mNavigating : Bool
  mLocApi : LocApiV02
  deriving DecidableEq

/-- What `loc_eng_init` is given: which callbacks there are, and what the
    configuration says. -/
structure Config where
  location_cb : Bool
  status_cb : Bool
  sv_status_cb : Bool
  nmea_cb : Bool
  intermediateFix : UInt8
  ACCURACY_THRES : UInt32
  generateNmea : Bool
  deriving DecidableEq, Repr

/-- `rawRequest` says whether a network request is in session, and `out` has
    the calls of one message. -/
structure LocEng where
  config : Config
  ni_notify_cb : Bool
  engine_status : GpsStatusValue
  fix_session_status : GpsStatusValue
  aiding_data_for_deletion : AidingData
  mute_session_state : MuteSession
  rawRequest : Bool
  adapter : LocEngAdapter
  out : List Output
  deriving DecidableEq

/-- A new adapter has no criteria. -/
def LocEngAdapter.new (mLocApi : LocApiV02) : LocEngAdapter where
  mFixCriteria :=
    { mode := .invalid, recurrence := GPS_POSITION_RECURRENCE_PERIODIC, min_interval := 0,
      preferred_accuracy := 0, preferred_time := 0,
      credentials := Vector.replicate 14 0, provider := Vector.replicate 8 0 }
  mNavigating := false
  mLocApi := mLocApi

/-- `loc_eng_init`. -/
def LocEng.init (config : Config) (mLocApi : LocApiV02) : LocEng where
  config := config
  ni_notify_cb := false
  engine_status := GPS_STATUS_NONE
  fix_session_status := GPS_STATUS_NONE
  aiding_data_for_deletion := 0#32
  mute_session_state := .none
  rawRequest := false
  adapter := .new mLocApi
  out := []

/-! ## The adapter -/

namespace LocEngAdapter

def startFix (adapter : LocEngAdapter) (env : StartEnv) : LocEngAdapter × AdapterErr :=
  let r := adapter.mLocApi.startFix adapter.mFixCriteria env
  ({ adapter with mLocApi := r.1 }, r.2)

def stopFix (adapter : LocEngAdapter) (status : LocClientStatus) : LocEngAdapter × AdapterErr :=
  let r := adapter.mLocApi.stopFix status
  ({ adapter with mLocApi := r.1 }, r.2)

/-- Without criteria the adapter's own copy is sent to the modem. -/
def setPositionMode (adapter : LocEngAdapter) (posMode : Option LocPosMode) (env : StartEnv) :
    LocEngAdapter × AdapterErr :=
  let mFixCriteria := posMode.getD adapter.mFixCriteria
  let r := adapter.mLocApi.setPositionMode adapter.mNavigating mFixCriteria env
  ({ adapter with mFixCriteria := mFixCriteria, mLocApi := r.1 }, r.2)

/-- The client of the modem is told too, and does nothing about it. -/
def setInSession (adapter : LocEngAdapter) (inSession : Bool) : LocEngAdapter :=
  { adapter with
    mNavigating := inSession,
    mFixCriteria :=
      if inSession then adapter.mFixCriteria else { adapter.mFixCriteria with mode := .invalid } }

end LocEngAdapter

/-! ## The handlers -/

namespace LocEng

def isInSession (locEng : LocEng) : Bool := locEng.adapter.mNavigating

def emit (locEng : LocEng) (o : Output) : LocEng := { locEng with out := locEng.out ++ [o] }

/-- `loc_inform_gps_status`. -/
def informGpsStatus (locEng : LocEng) (status : GpsStatusValue) : LocEng :=
  if locEng.config.status_cb then locEng.emit (.statusCb status) else locEng

/-- `loc_eng_nmea_send`, for a number of sentences. -/
def nmeaSend (locEng : LocEng) (sentences : List String) : LocEng :=
  if locEng.config.nmea_cb then { locEng with out := locEng.out ++ sentences.map .nmeaCb } else locEng

/-- The mute of the status that is reported: a waiting one is put on when a
    session begins, and the one that is on is taken off when it ends. -/
def muteAfter (mute_session_state : MuteSession) (status : GpsStatusValue) : MuteSession :=
  let mute_session_state :=
    if (status = GPS_STATUS_SESSION_BEGIN ∨ status = GPS_STATUS_ENGINE_ON) ∧
        mute_session_state = .wait then .inSession
    else mute_session_state
  if mute_session_state = .inSession ∧
      (status = GPS_STATUS_SESSION_END ∨ status = GPS_STATUS_ENGINE_OFF) then .none
  else mute_session_state

/-- `loc_eng_report_status`. -/
def reportStatus (locEng : LocEng) (status : GpsStatusValue) : LocEng :=
  let locEng := { locEng with mute_session_state := muteAfter locEng.mute_session_state status }
  let navigating := locEng.isInSession
  let locEng :=
    -- The end of a session is not reported while the framework navigates.
    if status ≠ GPS_STATUS_NONE ∧ ¬ (status = GPS_STATUS_SESSION_END ∧ navigating = true) ∧
        ¬ (status = GPS_STATUS_SESSION_BEGIN ∧ navigating = false) ∧
        locEng.mute_session_state ≠ .inSession then
      locEng.informGpsStatus status
    else locEng
  { locEng with
    engine_status :=
      if status = GPS_STATUS_ENGINE_ON ∨ status = GPS_STATUS_ENGINE_OFF then status
      else locEng.engine_status,
    fix_session_status :=
      if status = GPS_STATUS_SESSION_BEGIN ∨ status = GPS_STATUS_SESSION_END then status
      else locEng.fix_session_status }

/-- `update_aiding_data_for_deletion`. -/
def updateAidingData (locEng : LocEng) : LocEng :=
  if locEng.engine_status ≠ GPS_STATUS_ENGINE_ON ∧ locEng.aiding_data_for_deletion ≠ 0#32 then
    { locEng.emit (.deleteAidingData locEng.aiding_data_for_deletion) with
      aiding_data_for_deletion := 0#32 }
  else locEng

/-- `loc_eng_start_handler`. -/
def startHandler (locEng : LocEng) (env : StartEnv) : LocEng :=
  if locEng.isInSession = false then
    let r := locEng.adapter.startFix env
    let locEng := { locEng with adapter := r.1 }
    if r.2 = .success ∨ r.2 = .engineDown then
      { locEng with adapter := locEng.adapter.setInSession true }.informGpsStatus
        GPS_STATUS_SESSION_BEGIN
    else locEng
  else locEng

/-- `loc_eng_stop_handler`. -/
def stopHandler (locEng : LocEng) (status : LocClientStatus) : LocEng :=
  if locEng.isInSession then
    let r := locEng.adapter.stopFix status
    let locEng := { locEng with adapter := r.1 }
    let locEng :=
      if r.2 = .success then locEng.informGpsStatus GPS_STATUS_SESSION_END else locEng
    { locEng with adapter := locEng.adapter.setInSession false }
  else locEng

/-- `loc_eng_mute_one_session`. -/
def muteOneSession (locEng : LocEng) : LocEng := { locEng with mute_session_state := .wait }

/-- `loc_eng_ni_request_handler`: a request that comes while another one is in
    session is dropped. -/
def niRequestHandler (locEng : LocEng) (notify_flags : GpsNiNotifyFlags) (passThrough : Bool) :
    LocEng :=
  if locEng.ni_notify_cb = false then locEng
  else if locEng.rawRequest then locEng
  else
    let locEng := { locEng with rawRequest := passThrough }
    let locEng :=
      if notify_flags = GPS_NI_PRIVACY_OVERRIDE then locEng.muteOneSession else locEng
    locEng.emit .niNotifyCb

/-- `loc_eng_ni_reset_on_engine_restart`. -/
def niResetOnEngineRestart (locEng : LocEng) : LocEng :=
  if locEng.ni_notify_cb ∧ locEng.rawRequest then { locEng with rawRequest := false } else locEng

/-- `loc_eng_handle_engine_down`. -/
def handleEngineDown (locEng : LocEng) : LocEng :=
  locEng.niResetOnEngineRestart.reportStatus GPS_STATUS_ENGINE_OFF

/-- `loc_eng_handle_engine_up`, as far as the fix goes: the modem is back, and a
    fix that was under way is restarted. -/
def handleEngineUp (locEng : LocEng) (setMode start : StartEnv) : LocEng :=
  let locEng := locEng.reportStatus GPS_STATUS_ENGINE_ON
  if locEng.isInSession then
    -- The copy in the adapter goes to the modem.
    let locEng := { locEng with adapter := (locEng.adapter.setPositionMode none setMode).1 }
    let locEng := { locEng with adapter := locEng.adapter.setInSession false }
    locEng.startHandler start
  else locEng

/-! ## The messages -/

/-- The call of `location_cb` for a report: a failure is reported as such, a
    final fix when it is one of the satellites or sensors, an intermediate one
    when these are wanted and it is not too inaccurate. -/
def reportedLocation (locEng : LocEng) (msg : LocEngReportPosition) :
    Option (Option UlpLocation) :=
  if locEng.config.location_cb = false then none
  else if msg.mStatus = .failure then some none
  else if (msg.mStatus = .success ∧
        (LOC_POS_TECH_MASK_SATELLITE ||| LOC_POS_TECH_MASK_SENSORS ||| LOC_POS_TECH_MASK_HYBRID) &&&
          msg.mTechMask ≠ 0#32) ∨
      (locEng.config.intermediateFix = 1 ∧ ¬ (msg.mLocation.hasAccuracy = true ∧
        locEng.config.ACCURACY_THRES ≠ 0 ∧ msg.mLocation.exceedsThres = true)) then
    some (some msg.mLocation)
  else none

/-- `location_cb` is called, or not. -/
def callLocationCb (locEng : LocEng) : Option (Option UlpLocation) → LocEng
  | some location => locEng.emit (.locationCb location)
  | none => locEng

/-- A single shot fix that has been reported is over. -/
def completeSingleShot (locEng : LocEng) (mStatus : SessStatus) (status : LocClientStatus) :
    LocEng :=
  let adapter :=
    -- The modem may still work for a final fix.
    if mStatus = .intermediate then (locEng.adapter.stopFix status).1 else locEng.adapter
  { locEng with adapter := adapter.setInSession false }

/-- `LocEngReportPosition::proc`. -/
def procReportPosition (locEng : LocEng) (msg : LocEngReportPosition) (status : LocClientStatus) :
    LocEng :=
  if locEng.mute_session_state ≠ .inSession then
    let reported := locEng.reportedLocation msg
    let locEng := locEng.callLocationCb reported
    let locEng :=
      if reported.isSome ∧ locEng.adapter.mFixCriteria.recurrence = GPS_POSITION_RECURRENCE_SINGLE
      then locEng.completeSingleShot msg.mStatus status
      else locEng
    if locEng.config.generateNmea ∧ msg.mLocation.fromGnss then locEng.nmeaSend msg.nmea else locEng
  else locEng

/-- `LocEngReportSv::proc`. -/
def procReportSv (locEng : LocEng) (nmea : List String) : LocEng :=
  if locEng.mute_session_state ≠ .inSession then
    let locEng := if locEng.config.sv_status_cb then locEng.emit .svStatusCb else locEng
    if locEng.config.generateNmea then locEng.nmeaSend nmea else locEng
  else locEng

/-- `LocEngReportStatus::proc`. -/
def procReportStatus (locEng : LocEng) (mStatus : GpsStatusValue) : LocEng :=
  (locEng.reportStatus mStatus).updateAidingData

/-- `LocEngReportNmea::proc`. -/
def procReportNmea (locEng : LocEng) (mNmea : String) : LocEng := locEng.nmeaSend [mNmea]

/-- `LocEngDelAidData::proc`. -/
def procDelAidData (locEng : LocEng) (mType : AidingData) : LocEng :=
  { locEng with aiding_data_for_deletion := mType }.updateAidingData

/-- `LocEngPositionMode::proc`. -/
def procPositionMode (locEng : LocEng) (mPosMode : LocPosMode) (env : StartEnv) : LocEng :=
  { locEng with adapter := (locEng.adapter.setPositionMode (some mPosMode) env).1 }

end LocEng

/-- A message, with what the modem answers to it. The last four are not the
    engine's own: `loc_eng_ni_init` is called, `ni_thread_proc` is done with the
    request in session, and the client of the modem gets `MsgUpdateEngineState`
    and `LocOpenMsg`. -/
inductive EngineMsg
  | reportPosition (msg : LocEngReportPosition) (stopFix : LocClientStatus)
  | reportSv (nmea : List String)
  | reportStatus (mStatus : GpsStatusValue)
  | reportNmea (mNmea : String)
  | niRequest (notify_flags : GpsNiNotifyFlags) (passThrough : Bool)
  | positionMode (mPosMode : LocPosMode) (env : StartEnv)
  | startFix (env : StartEnv)
  | stopFix (status : LocClientStatus)
  | delAidData (mType : AidingData)
  | engineDown
  | engineUp (setMode start : StartEnv)
  | niInit
  | niThreadDone
  | updateEngineState (engineOn : Bool)
  | locOpen (mask : EventMask) (ok : Bool)
  deriving DecidableEq

namespace LocEng

/-- Before a message nothing has been called or sent for it. -/
def fresh (locEng : LocEng) : LocEng :=
  { locEng with
    adapter := { locEng.adapter with mLocApi := { locEng.adapter.mLocApi with sent := [] } },
    out := [] }

def tellClient (locEng : LocEng) (f : LocApiV02 → LocApiV02) : LocEng :=
  { locEng with adapter := { locEng.adapter with mLocApi := f locEng.adapter.mLocApi } }

def proc (locEng : LocEng) : EngineMsg → LocEng
  | .reportPosition msg status => locEng.procReportPosition msg status
  | .reportSv nmea => locEng.procReportSv nmea
  | .reportStatus mStatus => locEng.procReportStatus mStatus
  | .reportNmea mNmea => locEng.procReportNmea mNmea
  | .niRequest notify_flags passThrough => locEng.niRequestHandler notify_flags passThrough
  | .positionMode mPosMode env => locEng.procPositionMode mPosMode env
  | .startFix env => locEng.startHandler env
  | .stopFix status => locEng.stopHandler status
  | .delAidData mType => locEng.procDelAidData mType
  | .engineDown => locEng.handleEngineDown
  | .engineUp setMode start => locEng.handleEngineUp setMode start
  | .niInit => if locEng.ni_notify_cb then locEng
      else { locEng with ni_notify_cb := true, rawRequest := false }
  | .niThreadDone => { locEng with rawRequest := false }
  | .updateEngineState engineOn => locEng.tellClient (·.updateEngineState engineOn)
  | .locOpen mask ok => locEng.tellClient (·.openClient mask ok)

def step (locEng : LocEng) (msg : EngineMsg) : Option LocEng := some (locEng.fresh.proc msg)

/-! ## What the handlers call -/

/-- The call that tells the framework a status. -/
def statusMsgs (locEng : LocEng) (status : GpsStatusValue) : List Output :=
  if locEng.config.status_cb then [.statusCb status] else []

/-- The calls that send it sentences. -/
def nmeaMsgs (locEng : LocEng) (sentences : List String) : List Output :=
  if locEng.config.nmea_cb then sentences.map .nmeaCb else []

/-- The call a status report makes, with the mute as it is after it. -/
def reportMsgs (locEng : LocEng) (status : GpsStatusValue) : List Output :=
  if status ≠ GPS_STATUS_NONE ∧ ¬ (status = GPS_STATUS_SESSION_END ∧ locEng.isInSession = true) ∧
      ¬ (status = GPS_STATUS_SESSION_BEGIN ∧ locEng.isInSession = false) ∧
      muteAfter locEng.mute_session_state status ≠ .inSession then locEng.statusMsgs status
  else []

/-- The calls of a position report that is not muted. -/
def positionMsgs (locEng : LocEng) (msg : LocEngReportPosition) : List Output :=
  ((locEng.reportedLocation msg).map .locationCb).toList ++
    if locEng.config.generateNmea ∧ msg.mLocation.fromGnss then locEng.nmeaMsgs msg.nmea else []

/-- Those of a satellite report. -/
def svMsgs (locEng : LocEng) (nmea : List String) : List Output :=
  (if locEng.config.sv_status_cb then [.svStatusCb] else []) ++
    if locEng.config.generateNmea then locEng.nmeaMsgs nmea else []

/-- The report is handed on, and the fix was to be a single one. -/
def completes (locEng : LocEng) (msg : LocEngReportPosition) : Prop :=
  (locEng.reportedLocation msg).isSome = true ∧
    locEng.adapter.mFixCriteria.recurrence = GPS_POSITION_RECURRENCE_SINGLE

instance (locEng : LocEng) (msg : LocEngReportPosition) : Decidable (locEng.completes msg) :=
  inferInstanceAs (Decidable (_ ∧ _))

theorem informGpsStatus_eq (locEng : LocEng) (status : GpsStatusValue) :
    locEng.informGpsStatus status = { locEng with out := locEng.out ++ locEng.statusMsgs status } := by
  unfold informGpsStatus statusMsgs
  split
  · rfl
  · rw [List.append_nil]

theorem nmeaSend_eq (locEng : LocEng) (sentences : List String) :
    locEng.nmeaSend sentences = { locEng with out := locEng.out ++ locEng.nmeaMsgs sentences } := by
  unfold nmeaSend nmeaMsgs
  split
  · rfl
  · rw [List.append_nil]

/-- A status report sets the mute and the status, and makes at most one call. -/
theorem reportStatus_eq (locEng : LocEng) (status : GpsStatusValue) :
    locEng.reportStatus status = { locEng with
      mute_session_state := muteAfter locEng.mute_session_state status,
      out := locEng.out ++ locEng.reportMsgs status,
      engine_status :=
        if status = GPS_STATUS_ENGINE_ON ∨ status = GPS_STATUS_ENGINE_OFF then status
        else locEng.engine_status,
      fix_session_status :=
        if status = GPS_STATUS_SESSION_BEGIN ∨ status = GPS_STATUS_SESSION_END then status
        else locEng.fix_session_status } := by
  have hnav : ∀ mute, { locEng with mute_session_state := mute }.isInSession =
      locEng.isInSession := fun _ => rfl
  simp only [reportStatus, reportMsgs, informGpsStatus_eq, hnav]
  split
  · rfl
  · rw [List.append_nil]

theorem callLocationCb_eq (locEng : LocEng) (reported : Option (Option UlpLocation)) :
    locEng.callLocationCb reported =
      { locEng with out := locEng.out ++ (reported.map .locationCb).toList } := by
  cases reported with
  | none => simp [callLocationCb]
  | some location => simp [callLocationCb, emit]

/-- A position report that is not muted is handed on, and may end the session. -/
theorem procReportPosition_eq (locEng : LocEng) (msg : LocEngReportPosition)
    (status : LocClientStatus) (hmute : locEng.mute_session_state ≠ .inSession) :
    locEng.procReportPosition msg status =
      { (if locEng.completes msg then locEng.completeSingleShot msg.mStatus status else locEng) with
        out := locEng.out ++ locEng.positionMsgs msg } := by
  unfold procReportPosition positionMsgs
  rw [if_pos hmute]
  simp only [callLocationCb_eq, nmeaSend_eq]
  by_cases hdone : locEng.completes msg
  · have hsingle : (locEng.reportedLocation msg).isSome = true ∧
        locEng.adapter.mFixCriteria.recurrence = GPS_POSITION_RECURRENCE_SINGLE := hdone
    rw [if_pos hdone, if_pos hsingle]
    simp only [completeSingleShot, nmeaMsgs]
    split <;> simp
  · have hsingle : ¬ ((locEng.reportedLocation msg).isSome = true ∧
        locEng.adapter.mFixCriteria.recurrence = GPS_POSITION_RECURRENCE_SINGLE) := hdone
    rw [if_neg hdone, if_neg hsingle]
    simp only [nmeaMsgs]
    split <;> simp

/-- So is a satellite report. -/
theorem procReportSv_eq (locEng : LocEng) (nmea : List String)
    (hmute : locEng.mute_session_state ≠ .inSession) :
    locEng.procReportSv nmea = { locEng with out := locEng.out ++ locEng.svMsgs nmea } := by
  unfold procReportSv svMsgs
  rw [if_pos hmute]
  simp only [emit, nmeaSend_eq, nmeaMsgs]
  split <;> split <;> simp

end LocEng

end Engine

end Victara
