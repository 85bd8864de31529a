import Victara.Lib.StepSystem
import Mathlib.Logic.Function.Basic

/-!
# The Timer

`loc_timer.c`, for one timer: `loc_timer_start`, the thread it creates, and any
number of calls of `loc_timer_stop`. A step is what happens under one
acquisition of `timer_mutex`, or one access without it.

The thread decides by what `pthread_cond_timedwait` returned whether it calls
back. That is neither what a stop has set nor only ever a timeout: a stop may
get the mutex when the time is over but the thread does not have it yet, and a
wait may end with 0 although there was no stop. The thread sets the state to
done in both cases, and the state that would have told them apart is lost.

So there is one moment at which it is decided what the thread will do, the end
of the wait. `Decides` is about this moment: what the wait returns has to go
with the state that the thread finds. Before it the state and the ghost
`aborted` say the same, after it the value that was returned and the ghost do,
and this is what `Phase` keeps from place to place.

What comes after the free of the timer, or a lock of the mutex that is
destroyed, is undefined: such a step cannot be taken.

## Main definitions

* `TimerState`: `enum timer_state`.
* `StartCalls`: What the calls in `loc_timer_start` return.
* `StartCalls.Fine`: No call fails after `calloc`.
* `StartPc`: Where `loc_timer_start` is; `t` says whether it returns a pointer.
* `TimerPc`: Where `timer_thread` is.
* `StopId`: A call of `loc_timer_stop`.
* `LocTimer`: The timer, its thread and the callers of stop.
* `locTimerStart`, `threadLock`, `threadWake`, `threadCall`, `stopTest`,
  `stopLock`: The pieces of the functions.
* `Running`: A timer that a stop would stop.
* `Allocated`: The timer is neither freed nor never set up.
* `LocTimer.step`: The steps.
* `Decided`: The thread has decided whether to call back.
* `Handed`: The start returns a pointer.
* `Fires`: The timer fires exactly when it is not stopped.
* `Decides`: The wait returned a timeout exactly if no stop was there, and the
  start did not fail halfway.
* `Phase`, `TimerInv`: What is the case where the thread is.
* `Misled`: The wait has returned the wrong thing.
* `stoppedLate`: The timeout is over, a stop gets the mutex before the thread,
  and the thread calls back.

## Theorems

* `timerInv_of_undecided`: A state in which the thread has not decided.
* `timerInv_stops`: Who calls stop does not matter.
* `started_of_thread`: A timer has a thread only after it was started.
* `threadLock_timerInv`: A thread that finds the state set does not wait, and
  goes on with a value that is no timeout.
* `threadWake_timerInv`: What the wait returns is what the state says, and then
  the state is done.
* `stopLock_timerInv`: A stop sets the state of a thread that has not been
  through its wait, and no other.
* `timerInv_step`: What every step keeps.
* `start_breaks`: A start that fails halfway returns a pointer without a thread.
* `Misled.call`: A thread that decides by a wrong value calls back after a stop,
  or not at all.
* `misled_step`: A thread that is misled stays so until it decides.
* `misled_of_wake`: A wait that returns the wrong thing misleads the thread.
* `not_throughout_of_misled`: It never decides the right thing.
* `fires_iff`: The timer fires as it is to in the runs that meet `Decides`, and
  in no others that come to a decision.
-/

namespace Victara

open StepSystem

def ETIMEDOUT : Int := 110

/-- `enum timer_state`. -/
inductive TimerState
  | ready | waiting | done | abort
  deriving DecidableEq, Repr

/-- What the calls in `loc_timer_start` return. -/
structure StartCalls where
  calloc : Bool
  condInit : Int
  mutexInit : Int
  attrInit : Int
  create : Int
  deriving DecidableEq, Repr

/-- No call fails after `calloc`. -/
def StartCalls.Fine (r : StartCalls) : Prop :=
  r.condInit = 0 ∧ r.mutexInit = 0 ∧ r.attrInit = 0 ∧ r.create = 0

instance : DecidablePred StartCalls.Fine := fun r =>
  inferInstanceAs (Decidable (r.condInit = 0 ∧ r.mutexInit = 0 ∧ r.attrInit = 0 ∧ r.create = 0))

/-- Where `loc_timer_start` is; `t` says whether it returns a pointer. -/
inductive StartPc
  | idle | returning (t : Bool) | returned (t : Bool)
  deriving DecidableEq, Repr

/-- Where `timer_thread` is. -/
inductive TimerPc
  | absent | started | waiting | unlocked (ret : Int) | destroyed (ret : Int) | called | freed
  deriving DecidableEq, Repr

inductive StopPc
  | idle | locking | returned
  deriving DecidableEq, Repr

/-- A call of `loc_timer_stop`. -/
abbrev StopId := Nat

/-- `timer_data` and who uses it. `aborted` says that a stop has set the state,
    and `calls` has what the callback was called with; nobody reads these. -/
structure LocTimer where
  start : StartPc
  thread : TimerPc
  state : TimerState
  stops : StopId → StopPc
  aborted : Bool
  calls : List Int

namespace LocTimer

def init : LocTimer where
  start := .idle
  thread := .absent
  state := .ready
  stops := fun _ => .idle
  aborted := false
  calls := []

/-- `loc_timer_start`; `cb_func` says whether there is a callback. After
    `calloc`, each error frees `t` and returns it. -/
def locTimerStart (s : LocTimer) (msec : Nat) (cb_func : Bool) (r : StartCalls) : LocTimer :=
  if !cb_func || msec = 0 then { s with start := .returning false }
  else if !r.calloc then { s with start := .returning false }
  else if r.condInit ≠ 0 then { s with start := .returning true }
  else if r.mutexInit ≠ 0 then { s with start := .returning true }
  else if r.attrInit ≠ 0 then { s with start := .returning true, state := .ready }
  else if r.create ≠ 0 then { s with start := .returning true, state := .ready }
  else { s with start := .returning true, state := .ready, thread := .started }

/-- `timer_thread` up to its wait, or past it. -/
def threadLock (s : LocTimer) : LocTimer :=
  if s.state = .ready then { s with state := .waiting, thread := .waiting }
  else { s with thread := .unlocked (-ETIMEDOUT) }

/-- The end of the wait. -/
def threadWake (s : LocTimer) (ret : Int) : LocTimer :=
  { s with state := .done, thread := .unlocked ret }

/-- The callback, if there is one. -/
def threadCall (s : LocTimer) (ret : Int) : LocTimer :=
  { s with thread := .called, calls := if ret = ETIMEDOUT then s.calls ++ [ret] else s.calls }

/-- A timer that a stop would stop. -/
def Running (s : LocTimer) : Prop := s.state = .ready ∨ s.state = .waiting

instance : DecidablePred Running :=
  fun s => inferInstanceAs (Decidable (s.state = .ready ∨ s.state = .waiting))

/-- The test in `loc_timer_stop` before the mutex. -/
def stopTest (s : LocTimer) (c : StopId) (handle : Bool) : LocTimer :=
  let pc : StopPc := if handle = true ∧ s.Running then .locking else .returned
  { s with stops := Function.update s.stops c pc }

/-- `loc_timer_stop` under the mutex. -/
def stopLock (s : LocTimer) (c : StopId) : LocTimer :=
  let s := { s with stops := Function.update s.stops c .returned }
  if s.Running then { s with state := .abort, aborted := true } else s

inductive Label
  | start (msec : Nat) (cb_func : Bool) (r : StartCalls)
  | startReturns
  | lock
  | wake (ret : Int)
  | destroy
  | call
  | free
  | stopTest (c : StopId)
  | stopLock (c : StopId)
  deriving DecidableEq, Repr

/-- The timer is neither freed nor never set up. -/
def Allocated (s : LocTimer) : Prop := s.thread ≠ .absent ∧ s.thread ≠ .freed

instance : DecidablePred Allocated :=
  fun s => inferInstanceAs (Decidable (s.thread ≠ .absent ∧ s.thread ≠ .freed))

def step (s : LocTimer) : Label → Option LocTimer
  | .start msec cb_func r =>
      if s.start = .idle then some (s.locTimerStart msec cb_func r) else none
  | .startReturns => match s.start with
    | .returning t => some { s with start := .returned t }
    | _ => none
  | .lock => if s.thread = .started then some s.threadLock else none
  | .wake ret => if s.thread = .waiting then some (s.threadWake ret) else none
  | .destroy => match s.thread with
    | .unlocked ret => some { s with thread := .destroyed ret }
    | _ => none
  | .call => match s.thread with
    | .destroyed ret => some (s.threadCall ret)
    | _ => none
  | .free => if s.thread = .called then some { s with thread := .freed } else none
  | .stopTest c => match s.start with
    | .returned t =>
        if s.stops c = .idle ∧ (t = true → s.Allocated) then some (s.stopTest c t) else none
    | _ => none
  | .stopLock c => match s.thread with
    | .started | .waiting | .unlocked _ =>
        if s.stops c = .locking then some (s.stopLock c) else none
    | _ => none

/-! ## What the timer is to do -/

/-- The thread has decided whether to call back. -/
def Decided (s : LocTimer) : Prop := s.thread = .called ∨ s.thread = .freed

/-- The start returns a pointer. -/
def Handed (s : LocTimer) : Prop := s.start = .returning true ∨ s.start = .returned true

instance : DecidablePred Decided :=
  fun s => inferInstanceAs (Decidable (s.thread = .called ∨ s.thread = .freed))

instance : DecidablePred Handed :=
  fun s => inferInstanceAs (Decidable (s.start = .returning true ∨ s.start = .returned true))

/-- After a stop that took effect there is no callback; without one there is
    exactly one; and a pointer is returned only if there is a thread. Whether a
    stop took effect is in the ghost `aborted`, which nothing clears. -/
structure Fires (s : LocTimer) : Prop where
  stopped : s.aborted = true → s.calls = []
  fired : s.aborted = false → s.Decided → s.calls.length = 1
  once : s.calls.length ≤ 1
  created : s.Handed → s.thread ≠ .absent

instance : DecidablePred Fires := fun s =>
  decidable_of_iff ((s.aborted = true → s.calls = []) ∧
      (s.aborted = false → s.Decided → s.calls.length = 1) ∧ s.calls.length ≤ 1 ∧
      (s.Handed → s.thread ≠ .absent))
    ⟨fun h => ⟨h.1, h.2.1, h.2.2.1, h.2.2.2⟩, fun h => ⟨h.stopped, h.fired, h.once, h.created⟩⟩

/-- Once `calloc` has succeeded, so does the rest of the start. And the wait
    returns a timeout just if no stop has set the state by the time the thread
    has the mutex again: what it returns is for the operating system to choose,
    and a stop may get the mutex before the thread. This is where the thread
    takes up the value by which it will decide, and from here on no stop can set
    the state any more. -/
def Decides (s : LocTimer) : Label → Prop
  | .start msec cb_func r =>
      s.start = .idle → cb_func = true → msec ≠ 0 → r.calloc = true → r.Fine
  | .wake ret => s.thread = .waiting → (ret = ETIMEDOUT ↔ s.state ≠ .abort)
  | .startReturns | .lock | .destroy | .call | .free | .stopTest _ | .stopLock _ => True

instance (s : LocTimer) : DecidablePred s.Decides
  | .start msec cb_func r => inferInstanceAs
      (Decidable (s.start = .idle → cb_func = true → msec ≠ 0 → r.calloc = true → r.Fine))
  | .wake ret =>
      inferInstanceAs (Decidable (s.thread = .waiting → (ret = ETIMEDOUT ↔ s.state ≠ .abort)))
  | .startReturns | .lock | .destroy | .call | .free | .stopTest _ | .stopLock _ => isTrue trivial

/-! ## Every run -/

/-- What is the case where the thread is. Before the wait is over the state says
    whether a stop has taken effect; after it the value that was returned says
    it, and no stop takes effect any more. -/
def Phase (s : LocTimer) : TimerPc → Prop
  | .absent => True
  | .started => s.state = .ready ∧ s.aborted = false ∨ s.state = .abort ∧ s.aborted = true
  | .waiting => s.state = .waiting ∧ s.aborted = false ∨ s.state = .abort ∧ s.aborted = true
  | .unlocked ret | .destroyed ret => ¬ s.Running ∧ (ret = ETIMEDOUT ↔ s.aborted = false)
  | .called | .freed => True

/-- Nothing is called before the thread decides. `Phase` says of each place of
    the thread what it will decide by, and the property is read off where it has
    decided. -/
structure TimerInv (s : LocTimer) : Prop where
  fires : s.Fires
  quiet : ¬ s.Decided → s.calls = []
  phase : s.Phase s.thread
  idle : s.start = .idle → s.thread = .absent ∧ s.aborted = false

theorem init_timerInv : TimerInv init where
  fires := by decide
  quiet := fun _ => rfl
  phase := trivial
  idle := fun _ => ⟨rfl, rfl⟩

variable {s t : LocTimer}

/-- A state in which the thread has not decided. -/
theorem timerInv_of_undecided (hcalls : t.calls = []) (hundecided : ¬ t.Decided)
    (hcreated : t.Handed → t.thread ≠ .absent) (hphase : t.Phase t.thread)
    (hidle : t.start ≠ .idle) : TimerInv t where
  fires := ⟨fun _ => hcalls, fun _ hdecided => absurd hdecided hundecided, by simp [hcalls],
    hcreated⟩
  quiet := fun _ => hcalls
  phase := hphase
  idle := fun h => absurd h hidle

/-- Who calls stop does not matter. -/
theorem timerInv_stops (hs : TimerInv s) (stops : StopId → StopPc) :
    TimerInv { s with stops := stops } where
  fires := ⟨hs.fires.stopped, hs.fires.fired, hs.fires.once, hs.fires.created⟩
  quiet := hs.quiet
  phase := by
    have hphase := hs.phase
    show Phase { s with stops := stops } s.thread
    cases hthread : s.thread with
    | absent | called | freed => trivial
    | started | waiting | unlocked ret | destroyed ret => rwa [hthread] at hphase
  idle := hs.idle

theorem start_timerInv (hs : TimerInv s) {msec : Nat} {cb_func : Bool} {r : StartCalls}
    (hidle : s.start = .idle) (hfine : cb_func = true → msec ≠ 0 → r.calloc = true → r.Fine) :
    TimerInv (s.locTimerStart msec cb_func r) := by
  have habsent := (hs.idle hidle).1
  have haborted := (hs.idle hidle).2
  have hcalls := hs.quiet (by simp [Decided, habsent])
  -- The start that fails before there is a timer.
  have hnull : TimerInv { s with start := .returning false } := by
    refine timerInv_of_undecided hcalls ?_ ?_ ?_ ?_ <;>
      simp [Decided, Handed, Phase, habsent]
  unfold locTimerStart
  by_cases hargs : (!cb_func || decide (msec = 0)) = true
  · simpa [hargs] using hnull
  · by_cases hcalloc : r.calloc = true
    · have hboth : cb_func = true ∧ msec ≠ 0 := by simpa using hargs
      rcases hfine hboth.1 hboth.2 hcalloc with ⟨hcond, hmutex, hattr, hcreate⟩
      have hstarted : TimerInv
          { s with start := .returning true, state := .ready, thread := .started } := by
        refine timerInv_of_undecided hcalls ?_ ?_ ?_ ?_ <;>
          simp [Decided, Phase, haborted]
      simpa [hboth.1, hboth.2, hcalloc, hcond, hmutex, hattr, hcreate] using hstarted
    · simpa [hargs, hcalloc] using hnull

/-- A timer has a thread only after it was started. -/
theorem started_of_thread (hs : TimerInv s) (hpresent : s.thread ≠ .absent) : s.start ≠ .idle :=
  fun h => hpresent (hs.idle h).1

theorem startReturns_timerInv (hs : TimerInv s) {handle : Bool}
    (hstart : s.start = .returning handle) : TimerInv { s with start := .returned handle } where
  fires := by
    refine ⟨hs.fires.stopped, hs.fires.fired, hs.fires.once, fun hhanded => ?_⟩
    apply hs.fires.created
    simpa [Handed, hstart] using hhanded
  quiet := hs.quiet
  phase := by
    have hphase := hs.phase
    show Phase { s with start := .returned handle } s.thread
    cases hthread : s.thread with
    | absent | called | freed => trivial
    | started | waiting | unlocked ret | destroyed ret => rwa [hthread] at hphase
  idle := StartPc.noConfusion

/-- A thread that finds the state set does not wait, and goes on with a value
    that is no timeout. -/
theorem threadLock_timerInv (hs : TimerInv s) (hthread : s.thread = .started) :
    TimerInv s.threadLock := by
  have hquiet := hs.quiet (by simp [Decided, hthread])
  have hphase := hs.phase
  have hstart := started_of_thread hs (by simp [hthread])
  rw [hthread] at hphase
  unfold threadLock
  rcases hphase with ⟨hready, haborted⟩ | ⟨habort, haborted⟩
  · rw [if_pos hready]
    refine timerInv_of_undecided hquiet ?_ ?_ ?_ hstart <;> simp [Decided, Phase, haborted]
  · have hnot : s.state ≠ .ready := by simp [habort]
    rw [if_neg hnot]
    refine timerInv_of_undecided hquiet ?_ ?_ ?_ hstart <;>
      simp [Decided, Phase, Running, habort, haborted, ETIMEDOUT]

/-- What the wait returns is what the state says, and then the state is done. -/
theorem threadWake_timerInv (hs : TimerInv s) (hthread : s.thread = .waiting) {ret : Int}
    (hdecides : ret = ETIMEDOUT ↔ s.state ≠ .abort) : TimerInv (s.threadWake ret) := by
  have hquiet := hs.quiet (by simp [Decided, hthread])
  have hphase := hs.phase
  have hstart := started_of_thread hs (by simp [hthread])
  rw [hthread] at hphase
  have hret : ret = ETIMEDOUT ↔ s.aborted = false := by
    rcases hphase with ⟨hwaiting, haborted⟩ | ⟨habort, haborted⟩
    · simp [hdecides, hwaiting, haborted]
    · simp [hdecides, habort, haborted]
  refine timerInv_of_undecided hquiet ?_ ?_ ?_ hstart <;>
    simp [threadWake, Decided, Phase, Running, hret]

theorem destroy_timerInv (hs : TimerInv s) {ret : Int} (hthread : s.thread = .unlocked ret) :
    TimerInv { s with thread := .destroyed ret } := by
  have hquiet := hs.quiet (by simp [Decided, hthread])
  have hphase := hs.phase
  have hstart := started_of_thread hs (by simp [hthread])
  rw [hthread] at hphase
  refine timerInv_of_undecided hquiet ?_ ?_ hphase hstart <;> simp [Decided]

theorem threadCall_timerInv (hs : TimerInv s) {ret : Int} (hthread : s.thread = .destroyed ret) :
    TimerInv (s.threadCall ret) := by
  have hquiet := hs.quiet (by simp [Decided, hthread])
  have hphase := hs.phase
  have hstart := started_of_thread hs (by simp [hthread])
  rw [hthread] at hphase
  have hcalls : (s.threadCall ret).calls = if s.aborted = false then [ret] else [] := by
    by_cases hret : ret = ETIMEDOUT
    · simp [threadCall, hquiet, hret, hphase.2.mp hret]
    · simp [threadCall, hquiet, hret, mt hphase.2.mpr hret]
  refine ⟨⟨fun h => ?_, fun h _ => ?_, ?_, fun _ => TimerPc.noConfusion⟩, fun h => ?_, trivial,
    fun h => absurd h hstart⟩
  · have haborted : s.aborted = true := h
    simp [hcalls, haborted]
  · have haborted : s.aborted = false := h
    simp [hcalls, haborted]
  · rw [hcalls]
    split <;> simp
  · exact absurd (Or.inl rfl) h

theorem free_timerInv (hs : TimerInv s) (hthread : s.thread = .called) :
    TimerInv { s with thread := .freed } where
  fires := by
    have hdecided : s.Decided := Or.inl hthread
    exact ⟨hs.fires.stopped, fun hno _ => hs.fires.fired hno hdecided, hs.fires.once,
      fun _ => TimerPc.noConfusion⟩
  quiet := fun hno => absurd (Or.inr rfl) hno
  phase := trivial
  idle := by
    have hstart := started_of_thread hs (by simp [hthread])
    exact fun h => absurd h hstart

/-- A stop sets the state of a thread that has not been through its wait, and no
    other. -/
theorem stopLock_timerInv (hs : TimerInv s) (c : StopId) (hundecided : ¬ s.Decided)
    (hpresent : s.thread ≠ .absent) : TimerInv (s.stopLock c) := by
  have hquiet := hs.quiet hundecided
  have hphase := hs.phase
  unfold stopLock
  by_cases hrunning : s.Running
  · have habort : TimerInv { s with
        stops := Function.update s.stops c .returned, state := .abort, aborted := true } := by
      have hstart := started_of_thread hs hpresent
      refine timerInv_of_undecided hquiet hundecided (fun _ => hpresent) ?_ hstart
      show Phase { s with
        stops := Function.update s.stops c .returned, state := .abort, aborted := true } s.thread
      cases hthread : s.thread with
      | absent | called | freed => trivial
      | started | waiting => exact Or.inr ⟨rfl, rfl⟩
      | unlocked ret | destroyed ret =>
          rw [hthread] at hphase
          exact absurd hrunning hphase.1
    have hrunning' : Running { s with stops := Function.update s.stops c .returned } := hrunning
    simpa only [hrunning', if_true] using habort
  · have hno : ¬ Running { s with stops := Function.update s.stops c .returned } := hrunning
    simpa only [hno, if_false] using timerInv_stops hs _

/-- What every step keeps. -/
theorem timerInv_step {l : Label} (hs : TimerInv s) (hguard : s.Decides l)
    (h : s.step l = some t) : TimerInv t := by
  cases l with
  | start msec cb_func r =>
      rcases Option.ite_none_right_eq_some.mp h with ⟨hstart, heq⟩
      cases heq
      exact start_timerInv hs hstart (hguard hstart)
  | startReturns =>
      cases hstart : s.start with
      | returning handle =>
          rw [step, hstart] at h
          cases h
          exact startReturns_timerInv hs hstart
      | idle | returned handle =>
          rw [step, hstart] at h
          cases h
  | lock =>
      rcases Option.ite_none_right_eq_some.mp h with ⟨hthread, heq⟩
      cases heq
      exact threadLock_timerInv hs hthread
  -- The wait decides here, with the mutex held, whether the callback comes.
  | wake ret =>
      rcases Option.ite_none_right_eq_some.mp h with ⟨hthread, heq⟩
      cases heq
      exact threadWake_timerInv hs hthread (hguard hthread)
  | destroy =>
      cases hthread : s.thread with
      | unlocked ret =>
          rw [step, hthread] at h
          cases h
          exact destroy_timerInv hs hthread
      | absent | started | waiting | destroyed _ | called | freed =>
          rw [step, hthread] at h
          cases h
  | call =>
      cases hthread : s.thread with
      | destroyed ret =>
          rw [step, hthread] at h
          cases h
          exact threadCall_timerInv hs hthread
      | absent | started | waiting | unlocked _ | called | freed =>
          rw [step, hthread] at h
          cases h
  | free =>
      rcases Option.ite_none_right_eq_some.mp h with ⟨hthread, heq⟩
      cases heq
      exact free_timerInv hs hthread
  -- A stop that has no handle yet has nothing to test.
  | stopTest c =>
      cases hstart : s.start with
      | returned handle =>
          rw [step, hstart] at h
          rcases Option.ite_none_right_eq_some.mp h with ⟨-, heq⟩
          cases heq
          exact timerInv_stops hs _
      | idle | returning handle =>
          rw [step, hstart] at h
          cases h
  -- The mutex is there until the thread destroys it.
  | stopLock c =>
      cases hthread : s.thread with
      | started | waiting | unlocked _ =>
          rw [step, hthread] at h
          rcases Option.ite_none_right_eq_some.mp h with ⟨-, heq⟩
          cases heq
          exact stopLock_timerInv hs c (by simp [Decided, hthread]) (by simp [hthread])
      | absent | destroyed _ | called | freed =>
          rw [step, hthread] at h
          cases h

/-- A start that fails halfway returns a pointer without a thread. -/
theorem start_breaks (hs : TimerInv s) {msec : Nat} {cb_func : Bool} {r : StartCalls}
    (hno : ¬ s.Decides (.start msec cb_func r)) :
    ∃ t, s.step (.start msec cb_func r) = some t ∧ ¬ t.Fires := by
  simp only [Decides, Classical.not_imp] at hno
  rcases hno with ⟨hstart, hcb, hmsec, hcalloc, hfine⟩
  refine ⟨s.locTimerStart msec cb_func r, if_pos hstart, fun hfires => ?_⟩
  have habsent := (hs.idle hstart).1
  have hhanded : (s.locTimerStart msec cb_func r).Handed ∧
      (s.locTimerStart msec cb_func r).thread = .absent := by
    unfold locTimerStart
    by_cases hcond : r.condInit = 0
    · by_cases hmutex : r.mutexInit = 0
      · by_cases hattr : r.attrInit = 0
        · by_cases hcreate : r.create = 0
          · exact absurd ⟨hcond, hmutex, hattr, hcreate⟩ hfine
          · simp [hcb, hmsec, hcalloc, hcond, hmutex, hattr, hcreate, Handed, habsent]
        · simp [hcb, hmsec, hcalloc, hcond, hmutex, hattr, Handed, habsent]
      · simp [hcb, hmsec, hcalloc, hcond, hmutex, Handed, habsent]
    · simp [hcb, hmsec, hcalloc, hcond, Handed, habsent]
  exact hfires.created hhanded.1 hhanded.2

/-- The wait has returned a timeout in spite of a stop, or none without one, and
    the thread is on its way to decide by that. -/
structure Misled (s : LocTimer) : Prop where
  thread : ∃ ret, (s.thread = .unlocked ret ∨ s.thread = .destroyed ret) ∧
    ¬ (ret = ETIMEDOUT ↔ s.aborted = false)
  running : ¬ s.Running
  calls : s.calls = []
  start : s.start ≠ .idle

/-- A thread that decides by a wrong value calls back after a stop, or not at
    all. -/
theorem Misled.call (hs : s.Misled) {ret : Int} (hthread : s.thread = .destroyed ret) :
    ¬ (s.threadCall ret).Fires := by
  rcases hs.thread with ⟨ret', hplace, hwrong⟩
  have hret : ret' = ret := by
    rcases hplace with h | h <;> rw [hthread] at h <;> cases h
    rfl
  subst hret
  intro hfires
  refine hwrong ⟨fun htimeout => ?_, fun haborted => ?_⟩
  · cases haborted : s.aborted with
    | false => rfl
    | true =>
        have hnone := hfires.stopped haborted
        simp [threadCall, htimeout] at hnone
  · have hone := hfires.fired haborted (Or.inl rfl)
    by_contra htimeout
    simp [threadCall, htimeout, hs.calls] at hone

/-- A thread that is misled stays so until it decides. -/
theorem misled_step {l : Label} (hs : s.Misled) (h : s.step l = some t) :
    t.Misled ∨ ¬ t.Fires := by
  cases l with
  | start msec cb_func r => exact absurd (Option.ite_none_right_eq_some.mp h).1 hs.start
  | startReturns =>
      cases hstart : s.start with
      | returning handle =>
          rw [step, hstart] at h
          cases h
          exact Or.inl ⟨hs.thread, hs.running, hs.calls, StartPc.noConfusion⟩
      | idle | returned handle =>
          rw [step, hstart] at h
          cases h
  | lock | wake ret | free =>
      -- The thread is elsewhere.
      rcases hs.thread with ⟨ret, hthread | hthread, -⟩ <;>
        simp [step, hthread] at h
  | destroy =>
      rcases hs.thread with ⟨ret, hthread | hthread, hwrong⟩
      · rw [step, hthread] at h
        cases h
        exact Or.inl ⟨⟨ret, Or.inr rfl, hwrong⟩, hs.running, hs.calls, hs.start⟩
      · simp [step, hthread] at h
  | call =>
      rcases hs.thread with ⟨ret, hthread | hthread, -⟩
      · simp [step, hthread] at h
      · rw [step, hthread] at h
        cases h
        exact Or.inr (hs.call hthread)
  | stopTest c =>
      cases hstart : s.start with
      | returned handle =>
          rw [step, hstart] at h
          rcases Option.ite_none_right_eq_some.mp h with ⟨-, heq⟩
          cases heq
          exact Or.inl ⟨hs.thread, hs.running, hs.calls, hs.start⟩
      | idle | returning handle =>
          rw [step, hstart] at h
          cases h
  | stopLock c =>
      rcases hs.thread with ⟨ret, hthread | hthread, hwrong⟩
      · rw [step, hthread] at h
        rcases Option.ite_none_right_eq_some.mp h with ⟨-, heq⟩
        cases heq
        have hno : ¬ Running { s with stops := Function.update s.stops c .returned } := hs.running
        rw [stopLock, if_neg hno]
        exact Or.inl ⟨⟨ret, Or.inl hthread, hwrong⟩, hs.running, hs.calls, hs.start⟩
      · simp [step, hthread] at h

/-- A wait that returns the wrong thing misleads the thread. -/
theorem misled_of_wake (hs : TimerInv s) {ret : Int} (hno : ¬ s.Decides (.wake ret))
    (h : s.step (.wake ret) = some t) : t.Misled := by
  rcases Option.ite_none_right_eq_some.mp h with ⟨hthread, heq⟩
  cases heq
  have hwrong : ¬ (ret = ETIMEDOUT ↔ s.state ≠ .abort) := fun hdecides => hno fun _ => hdecides
  have hphase := hs.phase
  rw [hthread] at hphase
  have hstart := started_of_thread hs (by simp [hthread])
  refine ⟨⟨ret, Or.inl rfl, fun hret => hwrong ?_⟩, by simp [threadWake, Running],
    hs.quiet (by simp [Decided, hthread]), hstart⟩
  have haborted : ret = ETIMEDOUT ↔ s.aborted = false := hret
  rw [haborted]
  rcases hphase with ⟨hstate, hflag⟩ | ⟨hstate, hflag⟩ <;> simp [hstate, hflag]

/-- From a thread that is misled no run to its decision does the right thing. -/
theorem not_throughout_of_misled {ls : List Label} (hs : s.Misled)
    (hrun : exec step s ls = some t) (hdecided : t.Decided) : ¬ Throughout step Fires s ls := by
  induction ls generalizing s with
  | nil =>
      cases hrun
      rcases hs.thread with ⟨ret, hthread | hthread, -⟩ <;> simp [Decided, hthread] at hdecided
  | cons l ls ih =>
      rcases Option.bind_eq_some_iff.mp hrun with ⟨u, hstep, hrest⟩
      intro hfires
      have htail : Throughout step Fires u ls := hfires.2 u hstep
      rcases misled_step hs hstep with hu | hu
      · exact ih hu hrest htail
      · exact hu (throughout_head htail)

theorem meets_of_throughout {ls : List Label} (hs : TimerInv s) (hrun : exec step s ls = some t)
    (hdecided : t.Decided) (hfires : Throughout step Fires s ls) : Meets step Decides s ls := by
  induction ls generalizing s with
  | nil => trivial
  | cons l ls ih =>
      rcases Option.bind_eq_some_iff.mp hrun with ⟨u, hstep, hrest⟩
      have htail : Throughout step Fires u ls := hfires.2 u hstep
      have hguard : s.Decides l := by
        by_contra hno
        cases l with
        | start msec cb_func r =>
            rcases start_breaks hs hno with ⟨v, hv, hbroken⟩
            rw [hstep] at hv
            cases hv
            exact hbroken (throughout_head htail)
        | wake ret =>
            exact not_throughout_of_misled (misled_of_wake hs hno hstep) hrest hdecided htail
        | startReturns | lock | destroy | call | free | stopTest _ | stopLock _ =>
            exact hno trivial
      refine ⟨hguard, fun v hv => ?_⟩
      rw [hstep] at hv
      cases hv
      exact ih (timerInv_step hs hguard hstep) hrest htail

/-- The timer fires as it is to in every run in which the wait returns a timeout
    just when no stop has come before, and the start does not fail after
    `calloc`; and in no other run that goes on until the thread has decided. A
    run that ends earlier may break the condition and show nothing of it. -/
theorem fires_iff (ls : List Label) :
    (Meets step Decides init ls → Throughout step Fires init ls) ∧
      ∀ t, exec step init ls = some t → t.Decided →
        Throughout step Fires init ls → Meets step Decides init ls :=
  ⟨fun hmeets => throughout_of_meets (fun _ hs => hs.fires) (fun _ _ _ => timerInv_step)
    init_timerInv hmeets,
    fun _ hrun hdecided => meets_of_throughout init_timerInv hrun hdecided⟩

/-- The time runs out and nobody stops the timer; and a stop comes in time, and
    the wait returns 0. -/
theorem fires_in_time :
    Throughout step Fires init [.start 10 true ⟨true, 0, 0, 0, 0⟩, .startReturns, .lock,
      .wake ETIMEDOUT, .destroy, .call] ∧
    Throughout step Fires init [.start 10 true ⟨true, 0, 0, 0, 0⟩, .startReturns, .lock,
      .stopTest 0, .stopLock 0, .wake 0, .destroy, .call] :=
  ⟨(fires_iff _).1 (by decide), (fires_iff _).1 (by decide)⟩

/-- The timeout is over, a stop gets the mutex before the thread, and the
    thread calls back. -/
def stoppedLate : List Label :=
  [.start 10 true ⟨true, 0, 0, 0, 0⟩, .startReturns, .lock, .stopTest 0, .stopLock 0,
    .wake ETIMEDOUT, .destroy, .call]

theorem stoppedLate_fires_not : ¬ Throughout step Fires init stoppedLate := by
  decide

end LocTimer

end Victara
