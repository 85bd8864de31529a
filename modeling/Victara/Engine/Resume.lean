import Victara.Engine.Session

/-!
# A Fix over a Restart of the Modem

When the modem comes back in the middle of a fix, `loc_eng_handle_engine_up`
starts the fix again, with the criteria the adapter has kept. It does so twice.
The first request is right: it sends the criteria as they are. Then the session
flag is taken off so that the start handler can put it on again, and taking it
off makes the mode of the criteria invalid. So the second request, which is the
one that stays, asks for a standalone fix whatever the mode was, and the
adapter has forgotten the mode.

What is right for a fix that ends is wrong here: only criteria that were set
without a mode survive a restart.

## Main definitions

* `withoutMode`: The criteria without their mode.
* `EngineMsg.criteria`: The criteria a message sets.
* `CriteriaRun`: The engine, and the criteria that were set last.
* `accepts`: The modem takes the operation mode, so that the start request is
  sent.
* `asked`: The requests for a fix.
* `Resumes`: What a restart owes to the criteria.
* `KeepsCriteria`: The adapter has the criteria that were set last, but for
  their mode.
* `startMsgs`: The requests of a start, of which the second needs the first.

## Theorems

* `criteria_of_adapterAfter`: Only the mode of the criteria is ever lost.
* `restart_spec`: What a restart asks for and keeps.
* `asked_suffix_iff`: The last two requests are those for a fix only when the
  mode was taken.
* `resumes_iff`: When it resumes the same fix, in every state of a session.
-/

namespace Victara

namespace Engine

open LocEng StepSystem
open LocApi
open LocApiV02 (operationMode startMsg)

namespace LocEngAdapter

/-- The criteria without their mode. -/
def withoutMode (p : LocPosMode) : LocPosMode := { p with mode := .invalid }

theorem start_criteria (adapter : LocEngAdapter) (env : StartEnv) :
    (adapter.start env).mFixCriteria = adapter.mFixCriteria := by
  unfold start
  split
  · split <;> rfl
  · rfl

theorem stop_criteria (adapter : LocEngAdapter) (status : Sync.LocClientStatus) :
    (adapter.stop status).mFixCriteria = adapter.mFixCriteria ∨
      (adapter.stop status).mFixCriteria = withoutMode adapter.mFixCriteria := by
  unfold stop
  split
  · exact Or.inr rfl
  · exact Or.inl rfl

theorem complete_criteria (adapter : LocEngAdapter) (mStatus : SessStatus)
    (status : Sync.LocClientStatus) :
    (adapter.complete mStatus status).mFixCriteria = withoutMode adapter.mFixCriteria := by
  unfold complete
  split <;> rfl

theorem restart_criteria (adapter : LocEngAdapter) (setMode start : StartEnv) :
    (adapter.restart setMode start).mFixCriteria =
      if adapter.mNavigating then withoutMode adapter.mFixCriteria else adapter.mFixCriteria := by
  unfold restart
  split
  · rw [start_criteria]
    rfl
  · rfl

end LocEngAdapter

open LocEngAdapter

/-- The criteria a message sets. -/
def EngineMsg.criteria : EngineMsg → Option LocPosMode
  | .positionMode mPosMode _ => some mPosMode
  | _ => none

/-- The engine, and the criteria of the last `LocEngPositionMode`. -/
structure CriteriaRun where
  locEng : LocEng
  lastSet : Option LocPosMode

namespace CriteriaRun

def init (config : Config) (mLocApi : LocApiV02) : CriteriaRun :=
  { locEng := .init config mLocApi, lastSet := none }

def step (s : CriteriaRun) (msg : EngineMsg) : Option CriteriaRun :=
  some { locEng := s.locEng.fresh.proc msg, lastSet := msg.criteria.or s.lastSet }

end CriteriaRun

/-- The modem takes the operation mode, so that the start request is sent. Both
    the return value of the request and its indication have to say so. -/
def accepts (env : StartEnv) : Prop := env.setMode = .success ∧ env.setModeInd = true

instance : DecidablePred accepts := fun _ => inferInstanceAs (Decidable (_ ∧ _))

/-- The requests for a fix with these criteria. -/
def asked (p : LocPosMode) : List QmiRequest :=
  [.setOperationMode (operationMode p.mode), .start (startMsg p)]

/-- What the modem was asked last is a fix with the criteria, and the adapter
    still has them. -/
def Resumes (p : LocPosMode) (locEng : LocEng) : Prop :=
  asked p <:+ locEng.adapter.mLocApi.sent ∧ locEng.adapter.mFixCriteria = p

/-- The adapter has the criteria that were set last, but for their mode. -/
def KeepsCriteria (s : CriteriaRun) : Prop :=
  ∀ p ∈ s.lastSet, withoutMode s.locEng.adapter.mFixCriteria = withoutMode p

/-- Where a message sets no criteria, at most their mode is lost. -/
theorem criteria_of_adapterAfter (locEng : LocEng) (msg : EngineMsg) :
    (locEng.adapterAfter msg).mFixCriteria = msg.criteria.getD locEng.adapter.mFixCriteria ∨
      (msg.criteria = none ∧
        (locEng.adapterAfter msg).mFixCriteria = withoutMode locEng.adapter.mFixCriteria) := by
  cases msg with
  | reportPosition msg status =>
      simp only [adapterAfter]
      split
      · exact Or.inr ⟨rfl, complete_criteria _ _ _⟩
      · exact Or.inl rfl
  | startFix env => exact Or.inl (start_criteria _ env)
  | stopFix status =>
      rcases stop_criteria locEng.adapter status with h | h
      · exact Or.inl h
      · exact Or.inr ⟨rfl, h⟩
  | engineUp setMode start =>
      simp only [adapterAfter, restart_criteria]
      split
      · exact Or.inr ⟨rfl, rfl⟩
      · exact Or.inl rfl
  | positionMode mPosMode env => exact Or.inl rfl
  | updateEngineState engineOn => exact Or.inl rfl
  | locOpen mask ok => exact Or.inl rfl
  | _ => exact Or.inl rfl

theorem keepsCriteria_step {s t : CriteriaRun} {msg : EngineMsg} (hs : KeepsCriteria s)
    (h : s.step msg = some t) : KeepsCriteria t := by
  cases h
  intro p hp
  simp only [proc_adapter] at *
  rcases criteria_of_adapterAfter s.locEng.fresh msg with hkept | ⟨hnone, hlost⟩
  · cases hset : msg.criteria with
    | some q =>
        simp only [hset, Option.some_or, Option.mem_some_iff] at hp
        rw [hkept, hset, hp]
        rfl
    | none =>
        simp only [hset, Option.none_or] at hp
        rw [hkept, hset]
        exact hs p hp
  · simp only [hnone, Option.none_or] at hp
    rw [hlost]
    exact hs p hp

/-- The requests of a start, of which the second needs the first. -/
def startMsgs (p : LocPosMode) (env : StartEnv) : List QmiRequest :=
  .setOperationMode (operationMode p.mode) :: if accepts env then [.start (startMsg p)] else []

theorem startFix_sent (adapter : LocEngAdapter) (env : StartEnv) :
    (adapter.startFix env).1.mLocApi.sent =
      adapter.mLocApi.sent ++ startMsgs adapter.mFixCriteria env := by
  unfold LocEngAdapter.startFix LocApiV02.startFix startMsgs accepts
  by_cases hok : env.setMode = .success ∧ env.setModeInd = true
  · simp [hok, LocApiV02.send, LocApiV02.registerEventMask]
  · have hno : env.setMode ≠ .success ∨ env.setModeInd = false := by
      by_cases hmode : env.setMode = .success
      · exact Or.inr (by simpa [hmode] using hok)
      · exact Or.inl hmode
    simp [hok, hno, LocApiV02.send, LocApiV02.registerEventMask]

/-- A restart asks last for a fix without a mode, and that is what the adapter
    has afterwards. -/
theorem restart_spec (adapter : LocEngAdapter) (setMode start : StartEnv)
    (hnav : adapter.mNavigating = true) :
    (adapter.restart setMode start).mFixCriteria = withoutMode adapter.mFixCriteria ∧
      ∃ before, (adapter.restart setMode start).mLocApi.sent =
        before ++ startMsgs (withoutMode adapter.mFixCriteria) start := by
  refine ⟨by rw [restart_criteria, if_pos hnav], ?_⟩
  unfold restart
  rw [if_pos hnav]
  -- The flag is off, so the start handler starts.
  refine ⟨((adapter.setPositionMode none setMode).1.setInSession false).mLocApi.sent, ?_⟩
  have hsent := startFix_sent ((adapter.setPositionMode none setMode).1.setInSession false) start
  have hoff : ((adapter.setPositionMode none setMode).1.setInSession false).mNavigating = false :=
    rfl
  unfold LocEngAdapter.start
  rw [if_pos hoff]
  split <;> exact hsent

/-- The last two requests are those for a fix only when the mode was taken. -/
theorem asked_suffix_iff (before : List QmiRequest) (p q : LocPosMode) (env : StartEnv) :
    asked p <:+ before ++ startMsgs q env ↔ accepts env ∧ asked p = asked q := by
  unfold startMsgs
  by_cases hok : accepts env
  · rw [if_pos hok]
    constructor
    · rintro ⟨l, hl⟩
      exact ⟨hok, (List.append_inj' hl rfl).2⟩
    · rintro ⟨_, heq⟩
      exact ⟨before, by rw [heq]; rfl⟩
  · rw [if_neg hok]
    constructor
    · rintro ⟨l, hl⟩
      have hlast := congrArg List.getLast? hl
      simp [asked] at hlast
    · rintro ⟨h, _⟩
      exact absurd h hok

/-- In every state of a session a restart resumes the fix that was set last just
    when it was set without a mode, and the modem takes that. The first of its
    two start requests is right whatever the criteria are; the second comes when
    taking the session flag off has made their mode invalid. -/
theorem resumes_iff (config : Config) (mLocApi : LocApiV02) (msgs : List EngineMsg)
    {s : CriteriaRun} {p : LocPosMode}
    (hrun : exec CriteriaRun.step (CriteriaRun.init config mLocApi) msgs = some s)
    (hnav : s.locEng.isInSession = true) (hset : s.lastSet = some p) (setMode start : StartEnv) :
    Resumes p (s.locEng.fresh.handleEngineUp setMode start) ↔
      p.mode = .invalid ∧ accepts start := by
  have hkeeps : KeepsCriteria s :=
    invariant_of_step (fun s msg t hs hstep => keepsCriteria_step hs hstep)
      (fun p hp => by cases hp) hrun
  have hmode : withoutMode s.locEng.adapter.mFixCriteria = withoutMode p := hkeeps p hset
  rcases restart_spec s.locEng.fresh.adapter setMode start hnav with ⟨hcriteria, before, hsent⟩
  have hfresh : s.locEng.fresh.adapter.mFixCriteria = s.locEng.adapter.mFixCriteria := rfl
  unfold Resumes
  rw [handleEngineUp_adapter, hcriteria, hsent, asked_suffix_iff, hfresh, hmode]
  constructor
  · rintro ⟨⟨hok, _⟩, hsame⟩
    exact ⟨(congrArg LocPosMode.mode hsame).symm, hok⟩
  · rintro ⟨hinvalid, hok⟩
    have hsame : withoutMode p = p := by
      unfold withoutMode
      rw [← hinvalid]
    rw [hsame]
    exact ⟨⟨hok, rfl⟩, rfl⟩

/-- A fix for criteria without a mode goes on after a restart. -/
theorem resumes_standalone :
    Resumes (withoutMode .new)
      (((LocEng.init ⟨true, true, true, true, 0, 0, false⟩ (.new 0#32 0#32)).fresh.proc
        (.positionMode (withoutMode .new) ⟨.success, true, .success⟩)).fresh.proc
        (.startFix ⟨.success, true, .success⟩)
      |>.fresh.handleEngineUp ⟨.success, true, .success⟩ ⟨.success, true, .success⟩) :=
  (resumes_iff _ _ [.positionMode (withoutMode .new) ⟨.success, true, .success⟩,
    .startFix ⟨.success, true, .success⟩] rfl rfl rfl _ _).mpr ⟨rfl, by decide⟩

/-- One that is to be based on the mobile station is a standalone fix
    afterwards. -/
theorem restart_loses_mode :
    ∃ s, exec CriteriaRun.step
        (CriteriaRun.init ⟨true, true, true, true, 0, 0, false⟩ (.new 0#32 0#32))
        [.positionMode .new ⟨.success, true, .success⟩,
          .startFix ⟨.success, true, .success⟩] = some s ∧
      s.locEng.isInSession = true ∧ s.lastSet = some .new ∧
      ¬ Resumes .new (s.locEng.fresh.handleEngineUp ⟨.success, true, .success⟩
        ⟨.success, true, .success⟩) :=
  ⟨_, rfl, rfl, rfl, fun h => absurd (congrArg LocPosMode.mode h.2) (by decide)⟩

end Engine

end Victara
