import Victara.Engine.Resume

/-!
# A Fix That Is Reported Started

`LocApiV02::startFix` makes two requests, of which the second needs the first,
and one variable has the status of both. The operation mode can be refused in
two ways: the request fails, or it succeeds and its indication says no. In the
second case the start request is not sent and the variable still says success,
which is what `startFix` returns.

`loc_eng_start_handler` takes that for a fix. The adapter is in session then,
and the framework is told that a session has begun, while the modem was never
asked for one.

## Main definitions

* `ModeRefused`: The mode is refused by its indication.
* `requestsOf`: The requests that a call adds to those before it.
* `StartsFix`: A success is the answer to a start request.
* `BeginsFix`: A session begins with a start request.
* `modeRefused`: The mode request succeeds, and its indication says no.

## Theorems

* `convertErr_eq_success_iff`: Only a success is converted to one.
* `convertErr_ne_engineDown`: No answer of the modem is converted to an engine
  that is down.
* `startFix_requests`: The requests of `startFix`.
* `startErr_eq_success_iff`: A success is one of the start request, or of a mode
  that was refused.
* `startHandler_spec`: When a session begins, and what is told of it.
* `startHandler_of_refused`: A session that begins without a request.
* `startFix_truthful_iff`: When a fix that is reported is one.
-/

namespace Victara

namespace Engine

open LocApi
open LocApiV02 (startErr startFix_spec startMsg)

/-- The request succeeds, and the indication says that the mode is not set. A
    request that fails gives its error to the status that `startFix` returns. A
    refusal by the indication leaves a success in it, and keeps the start
    request from being sent. -/
def ModeRefused (env : StartEnv) : Prop := env.setMode = .success ∧ env.setModeInd = false

/-- The requests that a call adds to those before it. -/
def requestsOf (before after : LocApiV02) : List QmiRequest := after.sent.drop before.sent.length

/-- A success of `startFix` means that a start request was sent, and accepted. -/
def StartsFix (api : LocApiV02) (p : LocPosMode) (env : StartEnv) : Prop :=
  (api.startFix p env).2 = .success →
    .start (startMsg p) ∈ requestsOf api (api.startFix p env).1 ∧ env.start = .success

/-- A session that `loc_eng_start_handler` begins, or tells the framework of, is
    one that the modem was asked for, or the engine is down. With the engine
    down the request is kept for when it comes up, so a session is begun by
    design. -/
def BeginsFix (locEng : LocEng) (env : StartEnv) : Prop :=
  Output.statusCb GPS_STATUS_SESSION_BEGIN ∈ (locEng.startHandler env).out.drop locEng.out.length ∨
      (locEng.isInSession = false ∧ (locEng.startHandler env).isInSession = true) →
    (∃ msg, .start msg ∈
      requestsOf locEng.adapter.mLocApi (locEng.startHandler env).adapter.mLocApi) ∨
    (locEng.adapter.startFix env).2 = .engineDown

theorem convertErr_eq_success_iff (status : Sync.LocClientStatus) :
    convertErr status = .success ↔ status = .success := by
  cases status <;> simp [convertErr]

/-- No answer of the modem is converted to an engine that is down. -/
theorem convertErr_ne_engineDown (status : Sync.LocClientStatus) :
    convertErr status ≠ .engineDown := by
  cases status <;> simp [convertErr]

theorem startFix_requests (api : LocApiV02) (p : LocPosMode) (env : StartEnv) :
    requestsOf api (api.startFix p env).1 = startMsgs p env := by
  have hsent := startFix_sent { mFixCriteria := p, mNavigating := false, mLocApi := api } env
  unfold requestsOf
  rw [show (api.startFix p env).1.sent = api.sent ++ startMsgs p env from hsent, List.drop_left]

theorem start_mem_startMsgs_iff (p : LocPosMode) (env : StartEnv) (msg : StartMsg) :
    .start msg ∈ startMsgs p env ↔ accepts env ∧ msg = startMsg p := by
  unfold startMsgs
  split
  case isTrue h => simp [h]
  case isFalse h => simp [h]

/-- A success is one of the start request, or of a mode that was refused. -/
theorem startErr_eq_success_iff (env : StartEnv) :
    startErr env = .success ↔ accepts env ∧ env.start = .success ∨ ModeRefused env := by
  unfold startErr accepts ModeRefused
  split
  case isTrue hno =>
      -- The start request was not sent, and the status is that of the mode.
      rw [convertErr_eq_success_iff]
      constructor
      · intro hmode
        exact .inr ⟨hmode, hno.resolve_left (not_not_intro hmode)⟩
      · rintro (⟨⟨hmode, hind⟩, _⟩ | ⟨hmode, _⟩)
        · exact hmode
        · exact hmode
  case isFalse hyes =>
      rw [not_or, not_not, Bool.not_eq_false] at hyes
      rw [convertErr_eq_success_iff, and_iff_right hyes]
      -- The mode was accepted, and the status is that of the start request.
      refine (or_iff_left ?_).symm
      rintro ⟨_, hind⟩
      rw [hyes.2] at hind
      cases hind

theorem startErr_ne_engineDown (env : StartEnv) : startErr env ≠ .engineDown := by
  unfold startErr
  split
  · exact convertErr_ne_engineDown _
  · exact convertErr_ne_engineDown _

/-- A success begins a session, which the framework is told of. Otherwise
    nothing is told. -/
theorem startHandler_spec (locEng : LocEng) (env : StartEnv) (hoff : locEng.isInSession = false) :
    (locEng.startHandler env).isInSession = decide (startErr env = .success) ∧
      (locEng.startHandler env).out.drop locEng.out.length =
        (if startErr env = .success then locEng.statusMsgs GPS_STATUS_SESSION_BEGIN else []) ∧
      requestsOf locEng.adapter.mLocApi (locEng.startHandler env).adapter.mLocApi =
        startMsgs locEng.adapter.mFixCriteria env := by
  have hreq := startFix_requests locEng.adapter.mLocApi locEng.adapter.mFixCriteria env
  have herr : (locEng.adapter.startFix env).2 = startErr env :=
    (startFix_spec locEng.adapter.mLocApi locEng.adapter.mFixCriteria env).1
  have hdown := startErr_ne_engineDown env
  unfold LocEng.startHandler
  simp only [hoff, if_true, herr, hdown, or_false]
  -- The other result that begins a session is an engine that is down.
  by_cases hok : startErr env = .success
  · rw [if_pos hok, if_pos hok, decide_eq_true hok, LocEng.informGpsStatus_eq]
    exact ⟨rfl, List.drop_left, hreq⟩
  · rw [if_neg hok, if_neg hok, decide_eq_false hok]
    exact ⟨hoff, List.drop_length, hreq⟩

/-- With a mode that is refused by its indication a session begins, and no start
    request was sent. -/
theorem startHandler_of_refused (locEng : LocEng) (env : StartEnv)
    (hoff : locEng.isInSession = false) (href : ModeRefused env) :
    (locEng.startHandler env).isInSession = true ∧
      ∀ msg, .start msg ∉
        requestsOf locEng.adapter.mLocApi (locEng.startHandler env).adapter.mLocApi := by
  rcases startHandler_spec locEng env hoff with ⟨hsession, _, hreq⟩
  refine ⟨?_, fun msg hmsg => ?_⟩
  · rw [hsession, decide_eq_true ((startErr_eq_success_iff env).mpr (.inr href))]
  · rw [hreq, start_mem_startMsgs_iff] at hmsg
    have hind := hmsg.1.2
    rw [href.2] at hind
    cases hind

/-- A fix that is reported started is one, unless the mode is refused by its
    indication. This is about `startFix` of the client and about the handler
    above it at once, as the handler takes its word. -/
theorem startFix_truthful_iff (api : LocApiV02) (p : LocPosMode) (locEng : LocEng)
    (env : StartEnv) : StartsFix api p env ∧ BeginsFix locEng env ↔ ¬ ModeRefused env := by
  have herr := (startFix_spec api p env).1
  constructor
  · rintro ⟨hstarts, _⟩ href
    have hok : (api.startFix p env).2 = .success := by
      rw [herr]
      exact (startErr_eq_success_iff env).mpr (.inr href)
    have hmem := (hstarts hok).1
    rw [startFix_requests, start_mem_startMsgs_iff] at hmem
    have hind := hmem.1.2
    rw [href.2] at hind
    cases hind
  · intro href
    have htrue : startErr env = .success → accepts env ∧ env.start = .success := fun hok =>
      ((startErr_eq_success_iff env).mp hok).resolve_right href
    refine ⟨fun hok => ?_, fun hbegin => .inl ?_⟩
    · rw [herr] at hok
      rw [startFix_requests, start_mem_startMsgs_iff]
      exact ⟨⟨(htrue hok).1, rfl⟩, (htrue hok).2⟩
    · -- An adapter that is in session is left alone.
      have hoff : locEng.isInSession = false := by
        refine Classical.byContradiction fun hon => ?_
        have hsame : locEng.startHandler env = locEng := if_neg hon
        rw [hsame, List.drop_length] at hbegin
        rcases hbegin with hmem | ⟨hno, _⟩
        · exact List.not_mem_nil hmem
        · exact hon hno
      rcases startHandler_spec locEng env hoff with ⟨hsession, hout, hreq⟩
      -- Without a success nothing is told, and nobody is in session.
      have hok : startErr env = .success := by
        refine Classical.byContradiction fun hno => ?_
        rw [hout, if_neg hno, hsession, decide_eq_false hno] at hbegin
        rcases hbegin with hmem | ⟨_, hcontra⟩
        · exact List.not_mem_nil hmem
        · cases hcontra
      refine ⟨startMsg locEng.adapter.mFixCriteria, ?_⟩
      rw [hreq, start_mem_startMsgs_iff]
      exact ⟨(htrue hok).1, rfl⟩

/-- The mode request succeeds, and its indication says no. -/
def modeRefused : StartEnv where
  setMode := .success
  setModeInd := false
  start := .success

/-- A new client reports a fix then that it has not asked for. -/
theorem new_not_startsFix : ¬ StartsFix (.new 0#32 0#32) .new modeRefused := by
  intro h
  have hmem := (h (by decide)).1
  rw [startFix_requests, start_mem_startMsgs_iff] at hmem
  exact absurd hmem.1 (by decide)

end Engine

end Victara
