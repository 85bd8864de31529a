import Victara.Lib.StepSystem

/-!
# The Helper Thread of the Daemon

`loc_eng_dmn_conn_thread_helper.c`: `loc_eng_dmn_conn_launch_thelper` creates
`thelper_main` and waits until it is ready or gives up. A step is what happens
under one acquisition of `thread_mutex`, or one access without it: `thread_exit`
is written without the mutex, and launch reads it without the mutex for its
return.

Two flags tell launch what has become of the thread. `thread_ready` is set when
`thread_proc_init` has been called, and `thread_exit` before it if the call has
failed. A launch that finds one of them set can tell success from failure, and
so can one that waits until one of them is set: this is what `Phase` keeps of
the thread, place by place.

But the wait is not in a loop, and `pthread_cond_wait` may return when nobody
has signalled. Then launch reads `thread_exit` when it does not say anything
yet, and reports success for a thread of which nothing is known. So the runs
that are right are told by the returns of the wait alone, and the loop that is
missing would have taken care of them.

## Main definitions

* `ThelperProcs`: The functions launch is given, whether they are there.
* `LaunchPc`: Where `loc_eng_dmn_conn_launch_thelper` is; `result` is that of
  `thelper_signal_wait`.
* `MainPc`: Where `thelper_main` is.
* `Thelper`: The two flags, and where the two threads are.
* `init`: After `thelper_signal_init`.
* `createThread`: The creation of the thread; `runs` says whether there is one.
* `signalWaitEnds`: `thelper_signal_wait` after the wait, or without one.
* `thelperSignalWait`: `thelper_signal_wait` up to the wait.
* `launchReturns`: The return of launch.
* `thelperMain`: `thelper_main`, one step; `result` is what the function returns
  that is called in it.
* `Thelper.step`: The steps.
* `InitDone`: `thread_proc_init` has returned a value that is not negative, or
  there is nothing to call.
* `Ready`: What launch has returned is what became of `thread_proc_init`.
* `Loops`: The wait does not return before there is something to wait for.
* `Phase`, `ThelperInv`: How far the thread is, and what goes with that.
* `Flagged`: Launch is past its wait only with a flag set.
* `wokenEarly`: The wait ends at once, before `thread_proc_init` is called.

## Theorems

* `initDone_of_ready`: With no misleading flag, launch is after
  `thread_proc_init`.
* `thelperInv_launch`: A step of launch.
* `thelperInv_main`: A step of the thread after `thread_proc_init`.
* `thelperInit_inv`: The step that calls `thread_proc_init`.
* `thelperMain_inv`, `thelperInv_step`: What every step keeps.
* `flags_thelperMain`: The thread clears no flag.
* `flagged_step`: A wait that is waited for ends with a flag set.
* `ready_of_loop`: Launch returns the right thing in every run in which the wait
  does not return before its time.
* `early_breaks`: And a wait that does makes it return 0 too soon.
-/

namespace Victara

open StepSystem

/-- The functions launch is given, whether they are there. -/
structure ThelperProcs where
  thread_proc_init : Bool
  thread_proc_pre : Bool
  thread_proc : Bool
  thread_proc_post : Bool
  create_thread_cb : Bool
  deriving DecidableEq, Repr

/-- Where `loc_eng_dmn_conn_launch_thelper` is; `result` is that of
    `thelper_signal_wait`. -/
inductive LaunchPc
  | create | signalWait | waiting | waited (result : Int) | returned (result : Int)
  deriving DecidableEq, Repr

/-- Where `thelper_main` is. -/
inductive MainPc
  | absent | init | initFailed | failReady | ready | pre | preFailed | proc | procFailed | test
  | post | returned
  deriving DecidableEq, Repr

/-- `loc_eng_dmn_conn_thelper`, and the two threads. `initResult` has what
    `thread_proc_init` has returned; nobody reads it. -/
structure Thelper where
  procs : ThelperProcs
  thread_exit : Bool
  thread_ready : Bool
  launch : LaunchPc
  main : MainPc
  initResult : Option Int
  deriving DecidableEq, Repr

namespace Thelper

/-- After `thelper_signal_init`. -/
def init (procs : ThelperProcs) : Thelper where
  procs := procs
  thread_exit := false
  thread_ready := false
  launch := .create
  main := .absent
  initResult := none

/-- The creation of the thread; `runs` says whether there is one. What
    `create_thread_cb` returns is not looked at. -/
def createThread (s : Thelper) (runs : Bool) : Thelper :=
  if runs then { s with launch := .signalWait, main := .init }
  else if s.procs.create_thread_cb then { s with launch := .signalWait }
  else { s with launch := .returned (-1) }

/-- `thelper_signal_wait` after the wait, or without one. -/
def signalWaitEnds (s : Thelper) (result : Int) : Thelper :=
  { s with launch := .waited (if s.thread_exit then -1 else result) }

/-- `thelper_signal_wait` up to the wait. -/
def thelperSignalWait (s : Thelper) : Thelper :=
  if !s.thread_ready && !s.thread_exit then { s with launch := .waiting } else s.signalWaitEnds 0

/-- The return of launch. -/
def launchReturns (s : Thelper) : Thelper :=
  { s with launch := .returned (if s.thread_exit then 1 else 0) }

/-- `thelper_main`, one step; `result` is what the function returns that is
    called in it. -/
def thelperMain (s : Thelper) (result : Int) : Option Thelper :=
  match s.main with
  | .absent | .returned => none
  | .init =>
      if s.procs.thread_proc_init then
        some { s with
          main := if result < 0 then .initFailed else .ready
          initResult := some result }
      else some { s with main := .ready }
  | .initFailed => some { s with main := .failReady, thread_exit := true }
  | .failReady => some { s with main := .returned, thread_ready := true }
  | .ready => some { s with main := .pre, thread_ready := true }
  | .pre => some { s with
      main := if s.procs.thread_proc_pre ∧ result < 0 then .preFailed else .proc }
  | .preFailed => some { s with main := .returned, thread_exit := true }
  | .proc => some { s with main := if s.procs.thread_proc ∧ result < 0 then .procFailed else .test }
  | .procFailed => some { s with main := .test, thread_exit := true }
  | .test => some { s with main := if s.thread_exit then .post else .proc }
  | .post => some { s with main := .returned }

inductive Label
  | create (runs : Bool)
  | signalWait
  | wake (result : Int)
  | launchReturns
  | main (result : Int)
  deriving DecidableEq, Repr

def step (s : Thelper) : Label → Option Thelper
  | .create runs => if s.launch = .create then some (s.createThread runs) else none
  | .signalWait => if s.launch = .signalWait then some s.thelperSignalWait else none
  | .wake result => if s.launch = .waiting then some (s.signalWaitEnds result) else none
  | .launchReturns => match s.launch with
    | .waited _ => some s.launchReturns
    | _ => none
  | .main result => s.thelperMain result

/-! ## What launch is to return -/

/-- `thread_proc_init` has returned a value that is not negative, or there is
    nothing to call. -/
def InitDone (s : Thelper) : Prop :=
  s.procs.thread_proc_init = false ∨ ∃ result ∈ s.initResult, 0 ≤ result

def InitFailed (s : Thelper) : Prop := ∃ result ∈ s.initResult, result < 0

/-- Launch has returned 0 only if `thread_proc_init` is done, and something else
    if it has failed. Whoever launches the thread relies on both: what the
    initialisation sets up is used at once after a 0. -/
def Ready (s : Thelper) : Prop :=
  ∀ result, s.launch = .returned result → (result = 0 → s.InitDone) ∧ (s.InitFailed → result ≠ 0)

/-- `pthread_cond_wait` does not return before a flag is set. It may do so, and
    a loop around the wait would go on to wait; `thelper_signal_wait` has an `if`
    there, and takes any return for the signal it waits for. When the wait
    returns is not for launch to say, and this is all that is asked of it. -/
def Loops (s : Thelper) : Label → Prop
  | .wake _ => s.launch = .waiting → s.thread_ready = true ∨ s.thread_exit = true
  | .create _ | .signalWait | .launchReturns | .main _ => True

instance (s : Thelper) : DecidablePred s.Loops
  | .wake _ => inferInstanceAs
      (Decidable (s.launch = .waiting → s.thread_ready = true ∨ s.thread_exit = true))
  | .create _ | .signalWait | .launchReturns | .main _ => isTrue trivial

/-! ## Every run -/

/-- How far `thelper_main` is, and what the flags and `thread_proc_init` are
    then. -/
def Phase (s : Thelper) : MainPc → Prop
  | .absent | .init => s.thread_ready = false ∧ s.thread_exit = false ∧ s.initResult = none
  | .initFailed => s.thread_ready = false ∧ s.thread_exit = false ∧ s.InitFailed
  | .failReady | .post | .returned => s.thread_exit = true
  | .ready | .pre | .preFailed | .proc | .procFailed | .test => s.InitDone

/-- Launch has told the truth so far, and where the thread is decides what the
    flags say. A launch that has not got to creating the thread has none, and a
    thread without an initialisation has no result of it. -/
structure ThelperInv (s : Thelper) : Prop where
  ready : s.Ready
  phase : s.Phase s.main
  created : s.launch = .create → s.main = .absent
  noInit : s.procs.thread_proc_init = false → s.initResult = none

theorem init_thelperInv (procs : ThelperProcs) : ThelperInv (init procs) where
  ready := fun _ h => by cases h
  phase := ⟨rfl, rfl, rfl⟩
  created := fun _ => rfl
  noInit := fun _ => rfl

variable {s t : Thelper}

theorem not_initFailed (hs : ThelperInv s) (hdone : s.InitDone) : ¬ s.InitFailed := by
  rintro ⟨result, hresult, hneg⟩
  rcases hdone with hnull | ⟨result', hresult', hnonneg⟩
  · rw [hs.noInit hnull] at hresult
    cases hresult
  · rw [Option.mem_def.mp hresult] at hresult'
    cases hresult'
    omega

/-- As long as no flag is set that means something else, launch does not see
    that `thread_proc_init` is not done. -/
theorem initDone_of_ready (hs : ThelperInv s) (hexit : s.thread_exit = false)
    (hready : s.thread_ready = true) : s.InitDone := by
  have hphase := hs.phase
  cases hmain : s.main with
  | absent | init | initFailed =>
      rw [hmain] at hphase
      simp [Phase, hready] at hphase
  | failReady | post | returned =>
      rw [hmain] at hphase
      simp [Phase, hexit] at hphase
  | ready | pre | preFailed | proc | procFailed | test =>
      rw [hmain] at hphase
      exact hphase

/-- A step of launch. -/
theorem thelperInv_launch (hs : ThelperInv s) {launch : LaunchPc}
    (hready : ∀ result, launch = .returned result →
      (result = 0 → s.InitDone) ∧ (s.InitFailed → result ≠ 0))
    (hcreate : launch ≠ .create) : ThelperInv { s with launch := launch } where
  ready := hready
  phase := by
    have hphase := hs.phase
    cases hmain : s.main <;> rw [hmain] at hphase <;> exact hphase
  created := fun h => absurd h hcreate
  noInit := hs.noInit

/-- A step of the thread after `thread_proc_init`. -/
theorem thelperInv_main (hs : ThelperInv s) (hmain : s.main ≠ .absent) {main : MainPc}
    {thread_exit thread_ready : Bool}
    (hphase : Phase { s with
      main := main, thread_exit := thread_exit, thread_ready := thread_ready } main) :
    ThelperInv { s with
      main := main, thread_exit := thread_exit, thread_ready := thread_ready } where
  ready := hs.ready
  phase := hphase
  created := fun h => absurd (hs.created h) hmain
  noInit := hs.noInit

/-- The step that calls `thread_proc_init`. Nothing was done before, so launch
    has not returned 0. -/
theorem thelperInit_inv (hs : ThelperInv s) (hmain : s.main = .init) {result : Int}
    (h : s.thelperMain result = some t) : ThelperInv t := by
  have hphase := hs.phase
  rw [hmain] at hphase
  rw [thelperMain, hmain] at h
  rcases hphase with ⟨hready, hexit, hnone⟩
  have hcreated : s.launch ≠ .create := fun hcreate => by
    rw [hs.created hcreate] at hmain
    cases hmain
  cases hinit : s.procs.thread_proc_init with
  | false =>
      simp only [hinit, Bool.false_eq_true, if_false] at h
      cases h
      exact thelperInv_main hs (by simp [hmain]) (Or.inl hinit)
  | true =>
      simp only [hinit, if_true] at h
      cases h
      have hundone : ¬ s.InitDone := by simp [InitDone, hinit, hnone]
      refine ⟨fun r hr => ?_, ?_, fun h => absurd h hcreated, fun h => by simp [hinit] at h⟩
      · have hno : r ≠ 0 := fun hzero => hundone ((hs.ready r hr).1 hzero)
        exact ⟨fun hzero => absurd hzero hno, fun _ => hno⟩
      · by_cases hneg : result < 0
        · simp [Phase, hneg, hready, hexit, InitFailed]
        · simp [Phase, hneg, InitDone, Int.not_lt.mp hneg]

theorem thelperMain_inv (hs : ThelperInv s) {result : Int} (h : s.thelperMain result = some t) :
    ThelperInv t := by
  have hphase := hs.phase
  cases hmain : s.main with
  | absent | returned =>
      rw [thelperMain, hmain] at h
      cases h
  | init => exact thelperInit_inv hs hmain h
  | initFailed =>
      rw [thelperMain, hmain] at h
      cases h
      exact thelperInv_main hs (by simp [hmain]) rfl
  | failReady =>
      rw [hmain] at hphase
      rw [thelperMain, hmain] at h
      cases h
      exact thelperInv_main hs (by simp [hmain]) hphase
  | ready =>
      rw [hmain] at hphase
      rw [thelperMain, hmain] at h
      cases h
      exact thelperInv_main hs (by simp [hmain]) hphase
  -- A routine that is not there cannot fail, and the thread goes on to its loop.
  | pre =>
      rw [hmain] at hphase
      rw [thelperMain, hmain] at h
      cases h
      refine thelperInv_main hs (by simp [hmain]) ?_
      split <;> exact hphase
  | preFailed =>
      rw [thelperMain, hmain] at h
      cases h
      exact thelperInv_main hs (by simp [hmain]) rfl
  | proc =>
      rw [hmain] at hphase
      rw [thelperMain, hmain] at h
      cases h
      refine thelperInv_main hs (by simp [hmain]) ?_
      split <;> exact hphase
  | procFailed =>
      rw [hmain] at hphase
      rw [thelperMain, hmain] at h
      cases h
      exact thelperInv_main hs (by simp [hmain]) hphase
  | test =>
      rw [hmain] at hphase
      rw [thelperMain, hmain] at h
      cases h
      refine thelperInv_main hs (by simp [hmain]) ?_
      split
      -- The loop is left only because `thread_exit` is set, which is what the end asks for.
      next hexit => exact hexit
      next => exact hphase
  | post =>
      rw [hmain] at hphase
      rw [thelperMain, hmain] at h
      cases h
      exact thelperInv_main hs (by simp [hmain]) hphase

theorem createThread_inv (hs : ThelperInv s) (hcreate : s.launch = .create) (runs : Bool) :
    ThelperInv (s.createThread runs) := by
  have hphase := hs.phase
  rw [hs.created hcreate] at hphase
  unfold createThread
  cases runs with
  | true => exact ⟨fun _ => LaunchPc.noConfusion, hphase, LaunchPc.noConfusion, hs.noInit⟩
  | false =>
      cases hcb : s.procs.create_thread_cb with
      | true => exact thelperInv_launch hs (by simp) (by simp)
      | false => exact thelperInv_launch hs (fun result h => by cases h; simp) (by simp)

theorem launchReturns_inv (hs : ThelperInv s)
    (hflags : s.thread_ready = true ∨ s.thread_exit = true) : ThelperInv s.launchReturns := by
  refine thelperInv_launch hs (fun result h => ?_) (by simp)
  have hresult := LaunchPc.returned.inj h
  cases hexit : s.thread_exit with
  | true =>
      have hone : result = 1 := by simpa [hexit] using hresult.symm
      exact ⟨fun hzero => by omega, fun _ => by omega⟩
  | false =>
      have hdone : s.InitDone := by
        rcases hflags with hready | hexit'
        · exact initDone_of_ready hs hexit hready
        · rw [hexit] at hexit'
          cases hexit'
      exact ⟨fun _ => hdone, fun hfailed => absurd hfailed (not_initFailed hs hdone)⟩

/-- Launch is past its wait only with a flag set. -/
def Flagged (s : Thelper) : Prop :=
  (∃ result, s.launch = .waited result) → s.thread_ready = true ∨ s.thread_exit = true

/-- What every step keeps, as long as launch is past its wait only with a flag
    set. -/
theorem thelperInv_step {l : Label} (hs : ThelperInv s) (hflagged : s.Flagged)
    (h : s.step l = some t) : ThelperInv t := by
  cases l with
  | create runs =>
      rcases Option.ite_none_right_eq_some.mp h with ⟨hcreate, heq⟩
      cases heq
      exact createThread_inv hs hcreate runs
  -- It passes at once or waits, and either way only the launching side moves.
  | signalWait =>
      rcases Option.ite_none_right_eq_some.mp h with ⟨-, heq⟩
      cases heq
      unfold thelperSignalWait
      split
      · exact thelperInv_launch hs (by simp) (by simp)
      · exact thelperInv_launch hs (by simp) (by simp)
  | wake result =>
      rcases Option.ite_none_right_eq_some.mp h with ⟨-, heq⟩
      cases heq
      exact thelperInv_launch hs (by simp) (by simp)
  | launchReturns =>
      cases hlaunch : s.launch with
      | waited result =>
          rw [step, hlaunch] at h
          cases h
          exact launchReturns_inv hs (hflagged ⟨result, hlaunch⟩)
      | create | signalWait | waiting | returned _ =>
          rw [step, hlaunch] at h
          cases h
  | main result => exact thelperMain_inv hs h

/-! ## The flags -/

/-- The thread clears no flag. -/
theorem flags_thelperMain {result : Int} (h : s.thelperMain result = some t)
    (hflags : s.thread_ready = true ∨ s.thread_exit = true) :
    t.thread_ready = true ∨ t.thread_exit = true := by
  unfold thelperMain at h
  cases hmain : s.main <;> rw [hmain] at h <;> simp only at h
  case absent | returned => cases h
  case init =>
    split at h
    · cases h
      exact hflags
    · cases h
      exact hflags
  case initFailed | preFailed | procFailed =>
    cases h
    exact Or.inr rfl
  case failReady | ready =>
    cases h
    exact Or.inl rfl
  case pre | proc | test | post =>
    cases h
    exact hflags

theorem launch_thelperMain {result : Int} (h : s.thelperMain result = some t) :
    t.launch = s.launch := by
  unfold thelperMain at h
  cases hmain : s.main <;> rw [hmain] at h <;> simp only at h
  case absent | returned => cases h
  case init => split at h <;> cases h <;> rfl
  all_goals
    cases h
    rfl

theorem flagged_step {l : Label} (hs : s.Flagged) (hguard : s.Loops l) (h : s.step l = some t) :
    t.Flagged := by
  cases l with
  | create runs =>
      rcases Option.ite_none_right_eq_some.mp h with ⟨-, heq⟩
      cases heq
      rintro ⟨result, hwaited⟩
      unfold createThread at hwaited
      split at hwaited
      · cases hwaited
      · split at hwaited <;> cases hwaited
  | signalWait =>
      rcases Option.ite_none_right_eq_some.mp h with ⟨-, heq⟩
      cases heq
      rintro ⟨result, hwaited⟩
      unfold thelperSignalWait at hwaited ⊢
      -- The wait is skipped only where one of the flags is set.
      by_cases hunset : (!s.thread_ready && !s.thread_exit) = true
      · rw [if_pos hunset] at hwaited
        cases hwaited
      · rw [if_neg hunset]
        show s.thread_ready = true ∨ s.thread_exit = true
        cases hready : s.thread_ready with
        | true => exact Or.inl rfl
        | false => simpa [hready] using hunset
  | wake result =>
      rcases Option.ite_none_right_eq_some.mp h with ⟨hwaiting, heq⟩
      cases heq
      exact fun _ => hguard hwaiting
  | launchReturns =>
      cases hlaunch : s.launch with
      | waited result =>
          rw [step, hlaunch] at h
          cases h
          rintro ⟨result, hwaited⟩
          cases hwaited
      | create | signalWait | waiting | returned _ =>
          rw [step, hlaunch] at h
          cases h
  | main result =>
      rintro ⟨r, hwaited⟩
      rw [launch_thelperMain h] at hwaited
      exact flags_thelperMain h (hs ⟨r, hwaited⟩)

/-- Where no wait ends before a flag is set, launch returns what became of
    `thread_proc_init`. Nothing is asked of the thread: it may come late, fail
    to be created, or be through with its work before launch gets to the wait. -/
theorem ready_of_loop (procs : ThelperProcs) (ls : List Label)
    (hls : Meets step Loops (init procs) ls) : Throughout step Ready (init procs) ls :=
  throughout_of_meets (I := fun s => ThelperInv s ∧ s.Flagged) (fun _ h => h.1.ready)
    (fun _ _ _ hs hguard h => ⟨thelperInv_step hs.1 hs.2 h, flagged_step hs.2 hguard h⟩)
    ⟨init_thelperInv procs, fun ⟨_, h⟩ => by cases h⟩ hls

/-- Launch waits, and the thread is ready when the wait ends. -/
theorem ready_in_time :
    Throughout step Ready (init ⟨true, true, true, true, false⟩)
      [.create true, .signalWait, .main 0, .main 0, .wake 0, .launchReturns] :=
  ready_of_loop _ _ (by decide)

/-- A wait that ends before a flag is set makes launch return 0 if nothing
    happens in between, whatever has become of `thread_proc_init`. -/
theorem early_breaks {procs : ThelperProcs} {ls : List Label}
    (hrun : exec step (init procs) ls = some s) (hwaiting : s.launch = .waiting)
    (hexit : s.thread_exit = false) (hundone : ¬ s.InitDone) (result : Int) :
    ¬ Throughout step Ready (init procs) (ls ++ [.wake result, .launchReturns]) := by
  intro hthroughout
  have hwake : s.step (.wake result) = some (s.signalWaitEnds result) := if_pos hwaiting
  have hend : exec step (init procs) (ls ++ [.wake result, .launchReturns]) =
      some (s.signalWaitEnds result).launchReturns := by
    rw [exec_append hrun]
    simp only [exec, hwake, Option.bind_some]
    rfl
  have hzero : (s.signalWaitEnds result).launchReturns.launch = .returned 0 := by
    simp [launchReturns, signalWaitEnds, hexit]
  exact hundone ((throughout_exec hthroughout hend 0 hzero).1 rfl)

/-- The wait ends at once, before `thread_proc_init` is called. -/
def wokenEarly : List Label := [.create true, .signalWait, .wake 0, .launchReturns]

theorem wokenEarly_ready_not :
    ¬ Throughout step Ready (init ⟨true, true, true, true, false⟩) wokenEarly := by
  intro h
  have hready := throughout_exec h rfl 0 rfl
  rcases hready.1 rfl with hnull | ⟨_, hresult, _⟩
  · cases hnull
  · cases hresult

end Thelper

end Victara
