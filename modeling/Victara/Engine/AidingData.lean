import Victara.Engine.Model

/-!
# Aiding Data That Is to Be Deleted

The modem deletes aiding data only while the engine is off. So a request to
delete that comes while the engine is on is kept in `aiding_data_for_deletion`,
and the status report that says the engine is off passes it on.

The mask that is kept is the one of the last request: a request that comes
before the one kept has been passed on takes its place, and what only the
earlier one asked for is never deleted. Nothing is lost in just the runs where
a request takes the place of no bit that it does not ask for itself, and that
was not passed on before.

## Main definitions

* `AidingMsg`: The two messages.
* `AidingMsg.asks`: The data a message asks to delete.
* `deleted`: All that `deleteAidingData` was called with.
* `AidingRun`: The engine, and what was requested and passed on so far.
* `NothingLost`: All that was requested is passed on or kept.
* `KeepsPending`: A request loses nothing that is kept.
* `OnlyRequested`: Nothing is kept that was not requested.

## Theorems

* `reportStatus_deletes`: A status report deletes nothing itself, and keeps what
  is kept.
* `updateAidingData_spec`: What is kept is passed on unless the engine is on.
* `proc_delAidData_spec`: What the processing of a message passes on and keeps.
* `nothingLost_step`, `request_loses`: A request that keeps it, and one that
  does not.
* `nothingLost_iff`: The exact condition, over whole runs.
-/

namespace Victara

namespace Engine

open LocEng Mask StepSystem
open LocApi (LocApiV02)

/-- `LocEngDelAidData` and `LocEngReportStatus`. -/
inductive AidingMsg
  | delAidData (mType : AidingData)
  | reportStatus (mStatus : GpsStatusValue)
  deriving DecidableEq, Repr

def AidingMsg.toEngineMsg : AidingMsg → EngineMsg
  | .delAidData mType => .delAidData mType
  | .reportStatus mStatus => .reportStatus mStatus

/-- The data a message asks to delete. -/
def AidingMsg.asks : AidingMsg → AidingData
  | .delAidData mType => mType
  | .reportStatus _ => 0#32

/-- All that `deleteAidingData` was called with. -/
def deleted : List Output → AidingData
  | [] => 0#32
  | .deleteAidingData f :: os => f ||| deleted os
  | .locationCb _ :: os | .svStatusCb :: os | .statusCb _ :: os | .nmeaCb _ :: os
  | .niNotifyCb :: os => deleted os

/-- The engine, the union of what was requested and that of what was passed to
    the adapter. -/
structure AidingRun where
  locEng : LocEng
  requested : AidingData
  passed : AidingData

namespace AidingRun

def init (config : Config) (mLocApi : LocApiV02) : AidingRun :=
  { locEng := .init config mLocApi, requested := 0#32, passed := 0#32 }

def step (s : AidingRun) (msg : AidingMsg) : Option AidingRun :=
  let locEng := s.locEng.fresh.proc msg.toEngineMsg
  some { locEng := locEng, requested := s.requested ||| msg.asks,
         passed := s.passed ||| deleted locEng.out }

end AidingRun

def NothingLost (s : AidingRun) : Prop :=
  Within s.requested (s.passed ||| s.locEng.aiding_data_for_deletion) ∧
    (s.locEng.engine_status ≠ GPS_STATUS_ENGINE_ON → s.locEng.aiding_data_for_deletion = 0#32)

instance : DecidablePred NothingLost := fun _ => inferInstanceAs (Decidable (_ ∧ _))

/-- With the engine on, what is kept is asked for again or was passed on before.
    What is kept is one word of bits, and `loc_eng_delete_aiding_data`
    overwrites it. So bits get lost that are neither in the new request nor were
    given to the modem before. With the engine off the bits are passed on at
    once, and there are none left. -/
def KeepsPending (s : AidingRun) : AidingMsg → Prop
  | .delAidData mType => s.locEng.engine_status = GPS_STATUS_ENGINE_ON →
      Within s.locEng.aiding_data_for_deletion (s.passed ||| mType)
  | .reportStatus _ => True

/-- Nothing is kept that was not requested. -/
def OnlyRequested (s : AidingRun) : Prop :=
  Within s.locEng.aiding_data_for_deletion s.requested

theorem deleted_append (os os' : List Output) : deleted (os ++ os') = deleted os ||| deleted os' := by
  induction os with
  | nil => simp [deleted]
  | cons o os ih => cases o <;> simp [deleted, ih, BitVec.or_assoc]

/-- A status report deletes nothing itself, and keeps what is kept. -/
theorem reportStatus_deletes (locEng : LocEng) (status : GpsStatusValue) :
    deleted (locEng.reportStatus status).out = deleted locEng.out ∧
      (locEng.reportStatus status).aiding_data_for_deletion = locEng.aiding_data_for_deletion := by
  have hmsgs : deleted (locEng.reportMsgs status) = 0#32 := by
    unfold reportMsgs statusMsgs
    split
    · split <;> rfl
    · rfl
  rw [reportStatus_eq, deleted_append, hmsgs, BitVec.or_zero]
  exact ⟨rfl, rfl⟩

/-- What is kept is passed on, unless the engine is on. -/
theorem updateAidingData_spec (locEng : LocEng) :
    locEng.updateAidingData.engine_status = locEng.engine_status ∧
    (locEng.engine_status = GPS_STATUS_ENGINE_ON →
      locEng.updateAidingData = locEng) ∧
    (locEng.engine_status ≠ GPS_STATUS_ENGINE_ON →
      locEng.updateAidingData.aiding_data_for_deletion = 0#32 ∧
      deleted locEng.updateAidingData.out =
        deleted locEng.out ||| locEng.aiding_data_for_deletion) := by
  unfold updateAidingData
  by_cases hon : locEng.engine_status = GPS_STATUS_ENGINE_ON
  · simp [hon]
  · by_cases hnone : locEng.aiding_data_for_deletion = 0#32
    · simp [hon, hnone]
    · simp [hon, hnone, emit, deleted_append, deleted]

/-- What the processing of a message passes on and keeps. -/
theorem proc_delAidData_spec (locEng : LocEng) (mType : AidingData) (hout : locEng.out = []) :
    (locEng.procDelAidData mType).engine_status = locEng.engine_status ∧
    (locEng.engine_status = GPS_STATUS_ENGINE_ON →
      (locEng.procDelAidData mType).aiding_data_for_deletion = mType ∧
        deleted (locEng.procDelAidData mType).out = 0#32) ∧
    (locEng.engine_status ≠ GPS_STATUS_ENGINE_ON →
      (locEng.procDelAidData mType).aiding_data_for_deletion = 0#32 ∧
        deleted (locEng.procDelAidData mType).out = mType) := by
  have hspec := updateAidingData_spec { locEng with aiding_data_for_deletion := mType }
  unfold procDelAidData
  refine ⟨hspec.1, fun hon => ?_, fun hoff => ?_⟩
  · rw [hspec.2.1 hon]
    simp [hout, deleted]
  · refine ⟨(hspec.2.2 hoff).1, ?_⟩
    rw [(hspec.2.2 hoff).2]
    simp [hout, deleted]

theorem proc_reportStatus_spec (locEng : LocEng) (mStatus : GpsStatusValue)
    (hout : locEng.out = []) :
    ((locEng.procReportStatus mStatus).engine_status = GPS_STATUS_ENGINE_ON →
      (locEng.procReportStatus mStatus).aiding_data_for_deletion =
        locEng.aiding_data_for_deletion ∧
      deleted (locEng.procReportStatus mStatus).out = 0#32) ∧
    ((locEng.procReportStatus mStatus).engine_status ≠ GPS_STATUS_ENGINE_ON →
      (locEng.procReportStatus mStatus).aiding_data_for_deletion = 0#32 ∧
        deleted (locEng.procReportStatus mStatus).out = locEng.aiding_data_for_deletion) := by
  have hspec := updateAidingData_spec (locEng.reportStatus mStatus)
  have hreport := reportStatus_deletes locEng mStatus
  unfold procReportStatus
  rw [hspec.1]
  refine ⟨fun hon => ?_, fun hoff => ?_⟩
  · rw [hspec.2.1 hon, hreport.1, hreport.2]
    simp [hout, deleted]
  · rw [(hspec.2.2 hoff).1, (hspec.2.2 hoff).2, hreport.1, hreport.2]
    simp [hout, deleted]

theorem nothingLost_step {s t : AidingRun} {msg : AidingMsg} (hs : NothingLost s)
    (honly : OnlyRequested s) (hok : KeepsPending s msg) (h : s.step msg = some t) :
    NothingLost t ∧ OnlyRequested t := by
  cases h
  cases msg with
  | delAidData mType =>
      have hspec := proc_delAidData_spec s.locEng.fresh mType rfl
      unfold NothingLost OnlyRequested
      simp only [AidingMsg.toEngineMsg, AidingMsg.asks, proc, hspec.1]
      by_cases hon : s.locEng.engine_status = GPS_STATUS_ENGINE_ON
      · rw [(hspec.2.1 hon).1, (hspec.2.1 hon).2, BitVec.or_zero]
        refine ⟨⟨or_within_iff.mpr ⟨?_, within_or_right _ _⟩, fun hoff => absurd hon hoff⟩,
          within_or_right _ _⟩
        -- What was kept is passed on, or kept again.
        exact within_trans hs.1 (or_within_iff.mpr ⟨within_or_left _ _, hok hon⟩)
      · rw [(hspec.2.2 hon).1, (hspec.2.2 hon).2, BitVec.or_zero]
        have hnone := hs.2 hon
        rw [NothingLost, hnone, BitVec.or_zero] at hs
        exact ⟨⟨or_within_or hs.1 (within_refl mType), fun _ => rfl⟩, zero_within _⟩
  | reportStatus mStatus =>
      have hspec := proc_reportStatus_spec s.locEng.fresh mStatus rfl
      unfold NothingLost OnlyRequested
      simp only [AidingMsg.toEngineMsg, AidingMsg.asks, proc, BitVec.or_zero]
      by_cases hon : (s.locEng.fresh.procReportStatus mStatus).engine_status = GPS_STATUS_ENGINE_ON
      · rw [(hspec.1 hon).1, (hspec.1 hon).2, BitVec.or_zero]
        exact ⟨⟨hs.1, fun hoff => absurd hon hoff⟩, honly⟩
      · rw [(hspec.2 hon).1, (hspec.2 hon).2, BitVec.or_zero]
        exact ⟨⟨hs.1, fun _ => rfl⟩, zero_within _⟩

/-- A request that takes the place of a bit loses it. -/
theorem request_loses {s : AidingRun} {msg : AidingMsg} (honly : OnlyRequested s)
    (hno : ¬ KeepsPending s msg) : ∃ t, s.step msg = some t ∧ ¬ NothingLost t := by
  refine ⟨_, rfl, ?_⟩
  cases msg with
  | delAidData mType =>
      simp only [KeepsPending, Classical.not_imp] at hno
      have hspec := proc_delAidData_spec s.locEng.fresh mType rfl
      rintro ⟨hkept, _⟩
      simp only [AidingMsg.toEngineMsg, AidingMsg.asks, proc] at hkept
      rw [(hspec.2.1 hno.1).1, (hspec.2.1 hno.1).2, BitVec.or_zero] at hkept
      exact hno.2 (within_trans honly (or_within_iff.mp hkept).1)
  | reportStatus mStatus => exact absurd trivial hno

/-- Nothing is lost in just the runs in which no request takes the place of bits
    that are still to be passed on. Bits that were passed on count for all later
    requests for them, as they are not told apart by who has asked. -/
theorem nothingLost_iff (config : Config) (mLocApi : LocApiV02) (msgs : List AidingMsg) :
    Throughout AidingRun.step NothingLost (AidingRun.init config mLocApi) msgs ↔
      Meets AidingRun.step KeepsPending (AidingRun.init config mLocApi) msgs := by
  refine throughout_iff_meets (I := fun s => NothingLost s ∧ OnlyRequested s) (fun s hs => hs.1)
    (fun s msg t hs hok hstep => nothingLost_step hs.1 hs.2 hok hstep)
    (fun s msg hs hno => request_loses hs.2 hno) ⟨⟨zero_within _, fun _ => rfl⟩, zero_within _⟩

/-- With the engine on, the ephemeris (1) is to be deleted and then the almanac
    (2). When the engine is off only the almanac is. -/
theorem second_request_replaces :
    ¬ Throughout AidingRun.step NothingLost
      (AidingRun.init ⟨true, true, true, true, 0, 0, false⟩ (.new 0#32 0#32))
      [.reportStatus GPS_STATUS_ENGINE_ON, .delAidData 0x1#32, .delAidData 0x2#32,
        .reportStatus GPS_STATUS_ENGINE_OFF] := by
  decide

end Engine

end Victara
