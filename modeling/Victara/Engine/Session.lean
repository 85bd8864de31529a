import Victara.Engine.Model

/-!
# What Messages Do to the Session

Of all that the engine does with a message only a part is about the fix: the
adapter with its criteria and its session flag, and the client of the modem.
`adapterAfter` is that part, message by message, and `proc_adapter` says that
it is what the handlers leave behind.

The results about sessions are then about `adapterAfter`, which has no
callbacks, no reports and no NMEA sentences in it, and a change to what a
handler tells the framework does not concern them.

## Main definitions

* `start`, `stop`, `complete`, `restart`: What happens to the adapter.
* `adapterAfter`: The adapter after a message.

## Theorems

* `proc_adapter`: The handlers leave that adapter.
-/

namespace Victara

namespace Engine

open LocApi
open Sync (LocClientStatus)

namespace LocEngAdapter

/-- A fix is started, unless one is under way. Only a success and an engine
    that is down make a session. -/
def start (adapter : LocEngAdapter) (env : StartEnv) : LocEngAdapter :=
  if adapter.mNavigating = false then
    if (adapter.startFix env).2 = .success ∨ (adapter.startFix env).2 = .engineDown then
      (adapter.startFix env).1.setInSession true
    else (adapter.startFix env).1
  else adapter

/-- A session ends whatever the modem says. -/
def stop (adapter : LocEngAdapter) (status : LocClientStatus) : LocEngAdapter :=
  if adapter.mNavigating then (adapter.stopFix status).1.setInSession false else adapter

def complete (adapter : LocEngAdapter) (mStatus : SessStatus) (status : LocClientStatus) :
    LocEngAdapter :=
  (if mStatus = .intermediate then (adapter.stopFix status).1 else adapter).setInSession false

def restart (adapter : LocEngAdapter) (setMode start : StartEnv) : LocEngAdapter :=
  if adapter.mNavigating then
    ((adapter.setPositionMode none setMode).1.setInSession false).start start
  else adapter

end LocEngAdapter

namespace LocEng

def adapterAfter (locEng : LocEng) : EngineMsg → LocEngAdapter
  | .reportPosition msg status =>
      if locEng.mute_session_state ≠ .inSession ∧ locEng.completes msg then
        locEng.adapter.complete msg.mStatus status
      else locEng.adapter
  | .positionMode mPosMode env => (locEng.adapter.setPositionMode (some mPosMode) env).1
  | .startFix env => locEng.adapter.start env
  | .stopFix status => locEng.adapter.stop status
  | .engineUp setMode start => locEng.adapter.restart setMode start
  | .updateEngineState engineOn =>
      { locEng.adapter with mLocApi := locEng.adapter.mLocApi.updateEngineState engineOn }
  | .locOpen mask ok => { locEng.adapter with mLocApi := locEng.adapter.mLocApi.openClient mask ok }
  | .reportSv _ | .reportStatus _ | .reportNmea _ | .niRequest _ _ | .delAidData _ | .engineDown
  | .niInit | .niThreadDone => locEng.adapter

theorem reportStatus_adapter (locEng : LocEng) (status : GpsStatusValue) :
    (locEng.reportStatus status).adapter = locEng.adapter := by
  rw [reportStatus_eq]

theorem updateAidingData_adapter (locEng : LocEng) :
    locEng.updateAidingData.adapter = locEng.adapter := by
  unfold updateAidingData
  split <;> rfl

theorem startHandler_adapter (locEng : LocEng) (env : StartEnv) :
    (locEng.startHandler env).adapter = locEng.adapter.start env := by
  unfold startHandler LocEngAdapter.start isInSession
  by_cases hnav : locEng.adapter.mNavigating = false
  · rw [if_pos hnav, if_pos hnav]
    simp only [informGpsStatus_eq]
    split <;> rfl
  · rw [if_neg hnav, if_neg hnav]

theorem stopHandler_adapter (locEng : LocEng) (status : LocClientStatus) :
    (locEng.stopHandler status).adapter = locEng.adapter.stop status := by
  unfold stopHandler LocEngAdapter.stop isInSession
  by_cases hnav : locEng.adapter.mNavigating = true
  · rw [if_pos hnav, if_pos hnav]
    simp only [informGpsStatus_eq]
    split <;> rfl
  · rw [if_neg hnav, if_neg hnav]

theorem handleEngineUp_adapter (locEng : LocEng) (setMode start : StartEnv) :
    (locEng.handleEngineUp setMode start).adapter = locEng.adapter.restart setMode start := by
  unfold handleEngineUp LocEngAdapter.restart
  simp only [isInSession, reportStatus_adapter]
  split
  · rw [startHandler_adapter]
  · exact reportStatus_adapter locEng _

theorem procReportPosition_adapter (locEng : LocEng) (msg : LocEngReportPosition)
    (status : LocClientStatus) :
    (locEng.procReportPosition msg status).adapter =
      if locEng.mute_session_state ≠ .inSession ∧ locEng.completes msg then
        locEng.adapter.complete msg.mStatus status
      else locEng.adapter := by
  by_cases hmute : locEng.mute_session_state = .inSession
  · simp [procReportPosition, hmute]
  · rw [procReportPosition_eq locEng msg status hmute]
    by_cases hdone : locEng.completes msg
    · rw [if_pos hdone, if_pos ⟨hmute, hdone⟩]
      rfl
    · rw [if_neg hdone, if_neg fun h => hdone h.2]

theorem procReportSv_adapter (locEng : LocEng) (nmea : List String) :
    (locEng.procReportSv nmea).adapter = locEng.adapter := by
  by_cases hmute : locEng.mute_session_state = .inSession
  · simp [procReportSv, hmute]
  · rw [procReportSv_eq locEng nmea hmute]

theorem niRequestHandler_adapter (locEng : LocEng) (notify_flags : GpsNiNotifyFlags)
    (passThrough : Bool) :
    (locEng.niRequestHandler notify_flags passThrough).adapter = locEng.adapter := by
  unfold niRequestHandler
  split
  · rfl
  · split
    · rfl
    · simp only [emit, muteOneSession]
      split <;> rfl

/-- What the handlers leave of the adapter. -/
theorem proc_adapter (locEng : LocEng) (msg : EngineMsg) :
    (locEng.proc msg).adapter = locEng.adapterAfter msg := by
  cases msg with
  | reportPosition msg status => exact procReportPosition_adapter locEng msg status
  | startFix env => exact startHandler_adapter locEng env
  | stopFix status => exact stopHandler_adapter locEng status
  | engineUp setMode start => exact handleEngineUp_adapter locEng setMode start
  | reportStatus mStatus =>
      exact (updateAidingData_adapter _).trans (reportStatus_adapter locEng mStatus)
  | delAidData mType => exact updateAidingData_adapter _
  | reportSv nmea => exact procReportSv_adapter locEng nmea
  | reportNmea mNmea =>
      simp only [proc, procReportNmea, nmeaSend_eq, adapterAfter]
  | niRequest notify_flags passThrough =>
      exact niRequestHandler_adapter locEng notify_flags passThrough
  | engineDown =>
      simp only [proc, handleEngineDown, adapterAfter, reportStatus_adapter]
      unfold niResetOnEngineRestart
      split <;> rfl
  | niInit =>
      simp only [proc, adapterAfter]
      split <;> rfl
  | positionMode mPosMode env => rfl
  | niThreadDone => rfl
  | updateEngineState engineOn => rfl
  | locOpen mask ok => rfl

end LocEng

end Engine

end Victara
