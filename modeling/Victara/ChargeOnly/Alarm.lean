import Mathlib.Algebra.Order.Group.Multiset
import Mathlib.Data.List.Sort
import Mathlib.Tactic.Abel
import Victara.Lib.StepSystem

/-!
# The Alarm Queue

`alarm.c`: alarms in a list sorted by their times. `alarm_process` takes the
first one off and calls its function, which may set and cancel alarms and may
even process them, and goes on with the list as that function leaves it.

So a run is a schedule of calls and of the steps of the loops that are under
way. `frames` are the activations of `alarm_process`, the innermost first. A
call is made from outside when there is none, or by the function of the alarm
that the innermost one is running.

Nothing in the program numbers the alarms, keeps the readings of the clock or
logs what is done; that is here to say what is true of a run. The seconds of
a `timeval` are far from the ends of their type.

Events are written to a log, and the property is about the log and the list
together. An event takes alarms out of the list or puts one in, and says so;
`once_snoc` keeps the count. That what is fired is due and in order is an
invariant of the activations, each of which has the time that it has read:
alarms that are set later are set for a time that is not before, so what waits
never comes before what was fired.

## Main definitions

* `Timeval`: A time, `addMs` some milliseconds later.
* `after`: The comparison of both loops.
* `micros`: The microseconds of a time.
* `carry`: Whole seconds go where they belong.
* `Alarm`, `Alarms`: An alarm, and the queue with what is under way.
* `AlarmFrame`: An activation of `alarm_process`: its reading of the clock, the
  alarm whose function is running, and those it has fired so far.
* `AlarmLabel`, `Alarms.step`: What can happen next.
* `Alarm.place`: The loop of `alarm_set_relative`: in front of the first alarm
  after `a`.
* `Alarm.due`: The time at which an alarm is fired.
* `init`: No alarms, at a time that no later reading of the clock is before.
* `newAlarm`: The alarm that is set next.
* `Alarms.alarmSetRelative`, `Alarms.alarmCancel`,
  `Alarms.alarmGetTimeUntilNext`: The calls.
* `cancelLoop`: The loop of `alarm_cancel`: the alarms that stay and the count.
* `CanCall`: A call can be made.
* `process`: `alarm_process` reads the clock.
* `fire`: The innermost loop takes the first alarm off and calls its function.
* `done`: The function returns, and the alarm is freed.
* `leave`: The innermost loop is over: there is no alarm, or the first is not
  due.
* `Reads`: The readings of the clock are normal and none is before another, and
  the times to set alarms in are small enough.
* `Alarm.Before`: Of two alarms, the one that is fired first.
* `Alarms.Lawful`, `Alarms.StepLaw`: What is true of a state and of a step.
* `wasSet`: The alarms that were set, in order.
* `FrameInv`: What is true of an activation of `alarm_process`: what it has
  fired is due and comes before what is waiting.
* `Inv`: The list is lawful, and each activation is as above.
* `pending`: The alarms of `f` that are waiting.
* `rearming`: Two alarms at the same time, of which the first, when it fires,
  sets itself again and cancels the second.

## Theorems

* `addMs_spec`: The time of an alarm.
* `pairwise_place`: A new alarm goes where it belongs.
* `pending_set`, `pending_cancel`: How many alarms a function has.
* `once_snoc`: An event takes alarms out of the list, or into it, and says so.
* `lawful_snoc`: What an event has to be like.
* `frameInv_mono`: An activation does not mind alarms that go, nor new ones:
  these are set later than what it fires was due.
* `inv_snoc`: An event that sets no alarm.
* `fire_eq_some`: What `fire` finds and leaves.
* `inv_step`: What every step keeps.
* `alarms_of_step`: Only two kinds of steps take alarms out of the list.
* `alarms_lawful`: What is true of every run.
-/

namespace Victara

namespace ChargeOnly

open StepSystem

universe u v

/-! ## Times -/

structure Timeval where
  tv_sec : Int
  tv_usec : Int
  deriving DecidableEq, Repr

namespace Timeval

/-- The comparison of both loops. -/
def after (a b : Timeval) : Prop :=
  b.tv_sec < a.tv_sec ∨ (a.tv_sec = b.tv_sec ∧ b.tv_usec < a.tv_usec)

instance (a b : Timeval) : Decidable (a.after b) := inferInstanceAs (Decidable (_ ∨ _))

def Normal (t : Timeval) : Prop := 0 ≤ t.tv_usec ∧ t.tv_usec < 1000000

instance (t : Timeval) : Decidable t.Normal := inferInstanceAs (Decidable (_ ∧ _))

/-- The microseconds of a time. -/
def micros (t : Timeval) : Int := 1000000 * t.tv_sec + t.tv_usec

/-- Whole seconds go where they belong. -/
def carry (t : Timeval) : Timeval :=
  if 1000000 ≤ t.tv_usec then ⟨t.tv_sec + t.tv_usec.tdiv 1000000, t.tv_usec.tmod 1000000⟩ else t

/-- The time of an alarm that is set at `t`. The product is an int. -/
def addMs (t : Timeval) (ms : Int) : Timeval :=
  carry ⟨t.tv_sec, t.tv_usec + Int.bmod (ms * 1000) 4294967296⟩

theorem after_iff {a b : Timeval} (ha : a.Normal) (hb : b.Normal) :
    a.after b ↔ b.micros < a.micros := by
  unfold Normal at ha hb
  unfold after micros
  omega

theorem carry_spec {t : Timeval} (h : 0 ≤ t.tv_usec) : t.carry.Normal ∧ t.carry.micros = t.micros := by
  unfold carry
  split
  case isTrue =>
      have hdiv := Int.mul_tdiv_add_tmod t.tv_usec 1000000
      have hlt := Int.tmod_lt_of_pos t.tv_usec (show (0 : Int) < 1000000 by decide)
      refine ⟨⟨Int.tmod_nonneg 1000000 h, hlt⟩, ?_⟩
      simp only [micros]
      omega
  case isFalse hlt => exact ⟨⟨h, Int.not_le.mp hlt⟩, rfl⟩

theorem addMs_spec {t : Timeval} {ms : Int} (ht : t.Normal) (hms : 0 ≤ ms)
    (hmax : ms * 1000 + 999999 < 2147483648) :
    (t.addMs ms).Normal ∧ (t.addMs ms).micros = t.micros + 1000 * ms := by
  have hmul : Int.bmod (ms * 1000) 4294967296 = ms * 1000 := by
    apply Int.bmod_eq_of_le <;> omega
  have hsum : 0 ≤ t.tv_usec + ms * 1000 := by
    have hpos := ht.1
    omega
  have hcarry := carry_spec (t := ⟨t.tv_sec, t.tv_usec + ms * 1000⟩) hsum
  unfold addMs
  rw [hmul]
  refine ⟨hcarry.1, hcarry.2.trans ?_⟩
  simp only [micros]
  omega

end Timeval

/-! ## The queue -/

/-- `struct alarm_node`. `id` counts the alarms in the order they are set. -/
structure Alarm (F : Type u) (C : Type v) where
  id : Nat
  alarm_time : Timeval
  f : F
  cookie : C
  deriving DecidableEq, Repr

/-- An activation of `alarm_process`: its reading of the clock, the alarm
    whose function is running, and those it has fired so far. -/
structure AlarmFrame (F : Type u) (C : Type v) where
  now : Timeval
  running : Option (Alarm F C)
  fired : List (Alarm F C)
  deriving DecidableEq, Repr

inductive AlarmEvent (F : Type u) (C : Type v)
  | set (a : Alarm F C)
  | fired (a : Alarm F C) (now : Timeval)
  | cancelled (removed : List (Alarm F C))
  /-- `alarm_process` has returned, with these alarms fired and these left. -/
  | processed (now : Timeval) (taken left : List (Alarm F C))
  deriving DecidableEq, Repr

structure Alarms (F : Type u) (C : Type v) where
  alarms : List (Alarm F C)
  frames : List (AlarmFrame F C)
  clock : Timeval
  count : Nat
  log : List (AlarmEvent F C)
  deriving DecidableEq, Repr

/-- What can happen next: a call, or a step of the innermost `alarm_process`,
    which fires an alarm, is done with its function, or returns. A call that
    reads the clock is told what it reads, and `alarm_set_relative` whether
    there is memory. -/
inductive AlarmLabel (F : Type u) (C : Type v)
  | set (f : F) (cookie : C) (ms : Int) (malloc : Bool) (reading : Timeval)
  | cancel (f : F)
  | process (reading : Timeval)
  | fire
  | done
  | leave
  deriving DecidableEq, Repr

variable {F : Type u} {C : Type v}

/-- The loop of `alarm_set_relative`: in front of the first alarm after `a`. -/
def Alarm.place (a : Alarm F C) (alarms : List (Alarm F C)) : List (Alarm F C) :=
  alarms.orderedInsert (fun a c => c.alarm_time.after a.alarm_time) a

/-- Neither test of the loop of `alarm_process` breaks it. -/
def Alarm.due (a : Alarm F C) (now : Timeval) : Prop := ¬ a.alarm_time.after now

instance (a : Alarm F C) (now : Timeval) : Decidable (a.due now) :=
  inferInstanceAs (Decidable (¬ _))

namespace Alarms

/-- No alarms, at a time that no later reading of the clock is before. -/
def init (clock : Timeval) : Alarms F C where
  alarms := []
  frames := []
  clock := clock
  count := 0
  log := []

/-- The alarm that is set next. -/
def newAlarm (s : Alarms F C) (f : F) (cookie : C) (ms : Int) (reading : Timeval) : Alarm F C where
  id := s.count
  alarm_time := reading.addMs ms
  f := f
  cookie := cookie

/-- It returns -1 when there is no memory. -/
def alarmSetRelative (s : Alarms F C) (f : F) (cookie : C) (ms : Int) (malloc : Bool)
    (reading : Timeval) : Alarms F C × Int :=
  if malloc then
    let a := s.newAlarm f cookie ms reading
    ({ s with
        alarms := a.place s.alarms
        clock := reading
        count := s.count + 1
        log := s.log ++ [.set a] }, 0)
  else (s, -1)

/-- The loop of `alarm_cancel`: the alarms that stay and the count. -/
def cancelLoop [DecidableEq F] (f : F) : List (Alarm F C) → List (Alarm F C) × Nat
  | [] => ([], 0)
  | c :: alarms =>
    let r := cancelLoop f alarms
    if c.f = f then (r.1, r.2 + 1) else (c :: r.1, r.2)

def alarmCancel [DecidableEq F] (s : Alarms F C) (f : F) : Alarms F C × Nat :=
  let r := cancelLoop f s.alarms
  ({ s with
      alarms := r.1
      log := s.log ++ [.cancelled (s.alarms.filter fun a => a.f = f)] }, r.2)

/-- In milliseconds, as an int. -/
def alarmGetTimeUntilNext (s : Alarms F C) (now : Timeval) : Int :=
  match s.alarms with
  | [] => 0x7fffffff
  | a :: _ =>
    Int.bmod ((a.alarm_time.tv_sec - now.tv_sec) * 1000 +
      (a.alarm_time.tv_usec - now.tv_usec).tdiv 1000) 4294967296

/-- A call can be made. -/
def CanCall (s : Alarms F C) : Prop :=
  match s.frames with
  | [] => True
  | fr :: _ => fr.running.isSome = true

instance (s : Alarms F C) : Decidable s.CanCall := by
  unfold CanCall
  split <;> infer_instance

/-- `alarm_process` reads the clock. -/
def process (s : Alarms F C) (reading : Timeval) : Alarms F C :=
  { s with clock := reading, frames := ⟨reading, none, []⟩ :: s.frames }

/-- The innermost loop takes the first alarm off and calls its function. -/
def fire (s : Alarms F C) : Option (Alarms F C) :=
  match s.frames, s.alarms with
  | fr :: frames, a :: alarms =>
    if fr.running = none ∧ a.due fr.now then
      some { s with
        alarms := alarms
        frames := { fr with running := some a, fired := fr.fired ++ [a] } :: frames
        log := s.log ++ [.fired a fr.now] }
    else none
  | _, _ => none

/-- The function returns, and the alarm is freed. -/
def done (s : Alarms F C) : Option (Alarms F C) :=
  match s.frames with
  | fr :: frames =>
    if fr.running ≠ none then some { s with frames := { fr with running := none } :: frames }
    else none
  | [] => none

/-- The innermost loop is over: there is no alarm, or the first is not due. -/
def leave (s : Alarms F C) : Option (Alarms F C) :=
  match s.frames with
  | fr :: frames =>
    if fr.running = none ∧ ∀ a ∈ s.alarms.head?, ¬ a.due fr.now then
      some { s with frames, log := s.log ++ [.processed fr.now fr.fired s.alarms] }
    else none
  | [] => none

def step [DecidableEq F] [DecidableEq C] (s : Alarms F C) : AlarmLabel F C → Option (Alarms F C)
  | .set f cookie ms malloc reading =>
    if s.CanCall then some (s.alarmSetRelative f cookie ms malloc reading).1 else none
  | .cancel f => if s.CanCall then some (s.alarmCancel f).1 else none
  | .process reading => if s.CanCall then some (s.process reading) else none
  | .fire => s.fire
  | .done => s.done
  | .leave => s.leave

/-- The readings of the clock are normal and none is before another, and the
    times to set alarms in are small enough, which keeps the microseconds within
    32 bits. Nothing is asked of the functions of the alarms. -/
def Reads (s : Alarms F C) : AlarmLabel F C → Prop
  | .set _ _ ms _ reading =>
    reading.Normal ∧ s.clock.micros ≤ reading.micros ∧ 0 ≤ ms ∧ ms * 1000 + 999999 < 2147483648
  | .process reading => reading.Normal ∧ s.clock.micros ≤ reading.micros
  | .cancel _ | .fire | .done | .leave => True

instance (s : Alarms F C) : DecidablePred s.Reads
  | .set _ _ _ _ _ => inferInstanceAs (Decidable (_ ∧ _ ∧ _ ∧ _))
  | .process _ => inferInstanceAs (Decidable (_ ∧ _))
  | .cancel _ | .fire | .done | .leave => isTrue trivial

/-! ## What is true of a run -/

end Alarms

/-- Of two alarms, the one that is fired first. -/
def Alarm.Before (a b : Alarm F C) : Prop :=
  a.alarm_time.micros < b.alarm_time.micros ∨
    (a.alarm_time.micros = b.alarm_time.micros ∧ a.id < b.id)

namespace AlarmEvent

def setOf : AlarmEvent F C → List (Alarm F C)
  | .set a => [a]
  | _ => []

def firedOf : AlarmEvent F C → List (Alarm F C)
  | .fired a _ => [a]
  | _ => []

def cancelledOf : AlarmEvent F C → List (Alarm F C)
  | .cancelled removed => removed
  | _ => []

/-- No alarm is fired before its time, and an `alarm_process` that has returned
    fired due alarms, in order, and left none. -/
def Lawful : AlarmEvent F C → Prop
  | .set _ | .cancelled _ => True
  | .fired a now => a.alarm_time.micros ≤ now.micros
  | .processed now taken left => taken.Pairwise Alarm.Before ∧
      (∀ a ∈ taken, a.alarm_time.micros ≤ now.micros) ∧
        ∀ a ∈ left, now.micros < a.alarm_time.micros

end AlarmEvent

namespace Alarms

/-- The alarms that were set, in order. -/
def wasSet (s : Alarms F C) : List (Alarm F C) := s.log.flatMap AlarmEvent.setOf

def wasFired (s : Alarms F C) : List (Alarm F C) := s.log.flatMap AlarmEvent.firedOf

def wasCancelled (s : Alarms F C) : List (Alarm F C) := s.log.flatMap AlarmEvent.cancelledOf

/-- The list is sorted, and every alarm that was set is in one place: it is
    waiting, or was fired once, or was cancelled once. The places are compared
    as one permutation, in which an alarm that is lost or doubled anywhere would
    show. -/
structure Lawful (s : Alarms F C) : Prop where
  sorted : s.alarms.Pairwise Alarm.Before
  inOrder : s.wasSet.Pairwise fun a b => a.id < b.id
  once : (s.alarms ++ s.wasFired ++ s.wasCancelled).Perm s.wasSet
  events : ∀ e ∈ s.log, e.Lawful

/-- An alarm leaves the list when it is the first and fired, or is cancelled.
    A cancelled function has no alarm left, the others keep theirs, and the
    count is right. A new alarm has its time. -/
structure StepLaw [DecidableEq F] (s : Alarms F C) (l : AlarmLabel F C) (t : Alarms F C) :
    Prop where
  leaves : ∀ a ∈ s.alarms, a ∉ t.alarms →
    (l = .fire ∧ s.alarms.head? = some a ∧ a ∈ t.wasFired) ∨ l = .cancel a.f
  cancels : ∀ f, l = .cancel f → t.alarms = s.alarms.filter (fun a => a.f ≠ f) ∧
    (s.alarmCancel f).2 = s.alarms.countP fun a => a.f = f
  sets : ∀ f cookie ms reading, l = .set f cookie ms true reading →
    ∃ a ∈ t.alarms, a.f = f ∧ a.cookie = cookie ∧
      a.alarm_time.micros = reading.micros + 1000 * ms

/-- What is true of an activation of `alarm_process`: what it has fired is due
    and comes before what is waiting. An alarm that is set meanwhile is not
    before them, as it is set for a time that is not before the reading of the
    clock, and behind those of the same time. -/
structure FrameInv (s : Alarms F C) (fr : AlarmFrame F C) : Prop where
  normal : fr.now.Normal
  clock : fr.now.micros ≤ s.clock.micros
  sorted : fr.fired.Pairwise Alarm.Before
  due : ∀ a ∈ fr.fired, a.alarm_time.micros ≤ fr.now.micros
  older : ∀ a ∈ fr.fired, a.id < s.count
  before : ∀ a ∈ fr.fired, ∀ b ∈ s.alarms, a.Before b

/-- The list is lawful, and each activation is as above. The numbers and times
    are those of alarms that were set, so that nothing else can get into the
    list. -/
structure Inv (s : Alarms F C) : Prop where
  lawful : s.Lawful
  older : ∀ a ∈ s.wasSet, a.id < s.count
  normal : ∀ a ∈ s.wasSet, a.alarm_time.Normal
  frames : ∀ fr ∈ s.frames, s.FrameInv fr

/-! ## The loops -/

theorem perm_place (a : Alarm F C) (alarms : List (Alarm F C)) :
    (a.place alarms).Perm (a :: alarms) := List.perm_orderedInsert _ a alarms

theorem mem_place {a b : Alarm F C} {alarms : List (Alarm F C)} :
    b ∈ a.place alarms ↔ b = a ∨ b ∈ alarms := List.mem_orderedInsert _

/-- A new alarm goes behind those that are not after it. -/
theorem pairwise_place {a : Alarm F C} {alarms : List (Alarm F C)} (ha : a.alarm_time.Normal)
    (hold : ∀ c ∈ alarms, c.id < a.id ∧ c.alarm_time.Normal)
    (hsorted : alarms.Pairwise Alarm.Before) : (a.place alarms).Pairwise Alarm.Before := by
  induction alarms with
  | nil => exact List.pairwise_singleton _ _
  | cons c alarms ih =>
      rcases List.pairwise_cons.mp hsorted with ⟨hfirst, hrest⟩
      have hc := hold c List.mem_cons_self
      have hcmp := Timeval.after_iff hc.2 ha
      unfold Alarm.place
      rw [List.orderedInsert_cons]
      split
      -- The new alarm is before the first one, and so before all.
      case isTrue hafter =>
          refine List.pairwise_cons.mpr ⟨fun b hb => .inl ?_, hsorted⟩
          have hlt := hcmp.mp hafter
          rcases List.mem_cons.mp hb with rfl | hmem
          · exact hlt
          · rcases hfirst b hmem with h | h
            · exact Int.lt_trans hlt h
            · exact h.1 ▸ hlt
      -- It is behind the first one, also if their times are the same.
      case isFalse hnot =>
          have hle := Int.not_lt.mp (hcmp.not.mp hnot)
          refine List.pairwise_cons.mpr ⟨fun b hb => ?_, ih (fun b hb => ?_) hrest⟩
          · rcases mem_place.mp hb with rfl | hmem
            · rcases Int.lt_or_eq_of_le hle with h | h
              · exact .inl h
              · exact .inr ⟨h, hc.1⟩
            · exact hfirst b hmem
          · exact hold b (List.mem_cons_of_mem c hb)

theorem cancelLoop_eq [DecidableEq F] (f : F) (alarms : List (Alarm F C)) :
    cancelLoop f alarms = (alarms.filter (fun a => a.f ≠ f), alarms.countP fun a => a.f = f) := by
  induction alarms with
  | nil => rfl
  | cons c alarms ih =>
      rw [cancelLoop, ih]
      by_cases h : c.f = f <;> simp [h]

theorem alarmCancel_spec [DecidableEq F] (s : Alarms F C) (f : F) :
    (s.alarmCancel f).1.alarms = s.alarms.filter (fun a => a.f ≠ f) ∧
      (s.alarmCancel f).2 = s.alarms.countP fun a => a.f = f := by
  simp only [alarmCancel, cancelLoop_eq, and_self]

/-! ## How many alarms a function has -/

/-- The alarms of `f` that are waiting. -/
def pending [DecidableEq F] (s : Alarms F C) (f : F) : Nat := s.alarms.countP fun a => a.f = f

/-- A new alarm is one more of its function. -/
theorem pending_set [DecidableEq F] (s : Alarms F C) (f : F) (cookie : C) (ms : Int) (malloc : Bool)
    (reading : Timeval) (g : F) :
    (s.alarmSetRelative f cookie ms malloc reading).1.pending g =
      s.pending g + if malloc = true ∧ f = g then 1 else 0 := by
  cases malloc with
  | false => simp only [alarmSetRelative, Bool.false_eq_true, if_false, false_and, Nat.add_zero]
  | true =>
      show List.countP _ ((s.newAlarm f cookie ms reading).place s.alarms) = _
      rw [(perm_place _ s.alarms).countP_eq, List.countP_cons]
      by_cases h : f = g <;> simp [newAlarm, pending, h]

/-- A cancelled function has none. -/
theorem pending_cancel [DecidableEq F] (s : Alarms F C) (f g : F) :
    (s.alarmCancel f).1.pending g = if f = g then 0 else s.pending g := by
  unfold pending
  rw [(s.alarmCancel_spec f).1, List.countP_filter]
  split
  case isTrue h =>
      rw [List.countP_eq_zero]
      intro a _
      simp [h]
  case isFalse h =>
      refine List.countP_congr fun a _ => ?_
      simp only [ne_eq, decide_not, Bool.and_eq_true, decide_eq_true_eq, Bool.not_eq_true',
        decide_eq_false_iff_not, and_iff_left_iff_imp]
      rintro rfl hf
      exact h hf.symm

/-! ## What every step keeps -/

theorem inv_init (clock : Timeval) : (init clock : Alarms F C).Inv where
  lawful :=
    { sorted := List.Pairwise.nil
      inOrder := List.Pairwise.nil
      once := List.Perm.refl _
      events := fun _ h => absurd h List.not_mem_nil }
  older := fun _ h => absurd h List.not_mem_nil
  normal := fun _ h => absurd h List.not_mem_nil
  frames := fun _ h => absurd h List.not_mem_nil

theorem mem_wasSet {s : Alarms F C} (hs : s.Lawful) {a : Alarm F C} (ha : a ∈ s.alarms) :
    a ∈ s.wasSet :=
  hs.once.subset (List.mem_append_left _ (List.mem_append_left _ ha))

/-- An event takes alarms out of the list, or into it, and says so. -/
theorem once_snoc {s t : Alarms F C} {e : AlarmEvent F C} (hs : s.Lawful)
    (hlog : t.log = s.log ++ [e])
    (hmove : (t.alarms ++ e.firedOf ++ e.cancelledOf).Perm (s.alarms ++ e.setOf)) :
    (t.alarms ++ t.wasFired ++ t.wasCancelled).Perm t.wasSet := by
  have honce := hs.once
  unfold wasSet wasFired wasCancelled at honce ⊢
  rw [← Multiset.coe_eq_coe] at hmove honce ⊢
  simp only [hlog, List.flatMap_append, List.flatMap_singleton, ← Multiset.coe_add] at hmove honce ⊢
  rw [← honce]
  generalize (s.log.flatMap AlarmEvent.firedOf : Multiset (Alarm F C)) = fired at *
  generalize (s.log.flatMap AlarmEvent.cancelledOf : Multiset (Alarm F C)) = cancelled at *
  calc (t.alarms : Multiset (Alarm F C)) + (fired + e.firedOf) + (cancelled + e.cancelledOf)
      = t.alarms + e.firedOf + e.cancelledOf + (fired + cancelled) := by abel
    _ = s.alarms + e.setOf + (fired + cancelled) := by rw [hmove]
    _ = s.alarms + fired + cancelled + e.setOf := by abel

/-- What an event has to be like. -/
theorem lawful_snoc {s t : Alarms F C} {e : AlarmEvent F C} (hs : s.Lawful)
    (hlog : t.log = s.log ++ [e]) (hsorted : t.alarms.Pairwise Alarm.Before)
    (hnew : (s.wasSet ++ e.setOf).Pairwise fun a b => a.id < b.id)
    (hmove : (t.alarms ++ e.firedOf ++ e.cancelledOf).Perm (s.alarms ++ e.setOf))
    (he : e.Lawful) : t.Lawful where
  sorted := hsorted
  inOrder := by rwa [wasSet, hlog, List.flatMap_append, List.flatMap_singleton]
  once := once_snoc hs hlog hmove
  events := by
    rw [hlog]
    intro e' he'
    rcases List.mem_append.mp he' with hold | hlast
    · exact hs.events e' hold
    · rwa [List.mem_singleton.mp hlast]

/-- An activation does not mind alarms that go, nor new ones: these are set
    later than what it fires was due. -/
theorem frameInv_mono {s t : Alarms F C} {fr : AlarmFrame F C} (h : s.FrameInv fr)
    (hclock : s.clock.micros ≤ t.clock.micros) (hcount : s.count ≤ t.count)
    (halarms : ∀ b ∈ t.alarms, b ∈ s.alarms ∨
      (s.clock.micros ≤ b.alarm_time.micros ∧ s.count ≤ b.id)) : t.FrameInv fr where
  normal := h.normal
  clock := Int.le_trans h.clock hclock
  sorted := h.sorted
  due := h.due
  older := fun a ha => Nat.lt_of_lt_of_le (h.older a ha) hcount
  before := by
    intro a ha b hb
    rcases halarms b hb with hold | ⟨hlate, hnew⟩
    · exact h.before a ha b hold
    · have hdue := Int.le_trans (h.due a ha) (Int.le_trans h.clock hlate)
      have hid := Nat.lt_of_lt_of_le (h.older a ha) hnew
      rcases Int.lt_or_eq_of_le hdue with hlt | heq
      · exact .inl hlt
      · exact .inr ⟨heq, hid⟩

/-- An event that sets no alarm. -/
theorem inv_snoc {s t : Alarms F C} {e : AlarmEvent F C} (hs : s.Inv)
    (hlog : t.log = s.log ++ [e]) (hset : e.setOf = []) (hsub : t.alarms.Sublist s.alarms)
    (hmove : (t.alarms ++ e.firedOf ++ e.cancelledOf).Perm s.alarms) (he : e.Lawful)
    (hcount : t.count = s.count) (hframes : ∀ fr ∈ t.frames, t.FrameInv fr) : t.Inv := by
  have hwas : t.wasSet = s.wasSet := by
    rw [wasSet, hlog, List.flatMap_append, List.flatMap_singleton, hset, List.append_nil, wasSet]
  have hnew : (s.wasSet ++ e.setOf).Pairwise fun a b => a.id < b.id := by
    rw [hset, List.append_nil]
    exact hs.lawful.inOrder
  have hmove' : (t.alarms ++ e.firedOf ++ e.cancelledOf).Perm (s.alarms ++ e.setOf) := by
    rwa [hset, List.append_nil]
  refine ⟨lawful_snoc hs.lawful hlog (hs.lawful.sorted.sublist hsub) hnew hmove' he, ?_, ?_,
    hframes⟩
  · rw [hwas, hcount]
    exact hs.older
  · rw [hwas]
    exact hs.normal

theorem inv_set {s : Alarms F C} (hs : s.Inv) {f : F} {cookie : C} {ms : Int} {malloc : Bool}
    {reading : Timeval} (h : s.Reads (.set f cookie ms malloc reading)) :
    (s.alarmSetRelative f cookie ms malloc reading).1.Inv := by
  rcases h with ⟨hnormal, hclock, hms, hmax⟩
  cases malloc with
  | false => exact hs
  | true =>
      have htime := Timeval.addMs_spec hnormal hms hmax
      let a := s.newAlarm f cookie ms reading
      have hlate : s.clock.micros ≤ a.alarm_time.micros := by
        show _ ≤ (reading.addMs ms).micros
        omega
      -- All that was set before has a smaller number.
      have hset : (s.alarmSetRelative f cookie ms true reading).1.wasSet = s.wasSet ++ [a] :=
        List.flatMap_append
      have hnew : (s.wasSet ++ [a]).Pairwise fun a b => a.id < b.id := by
        rw [List.pairwise_append]
        refine ⟨hs.lawful.inOrder, List.pairwise_singleton _ _, fun b hb c hc => ?_⟩
        rw [List.mem_singleton.mp hc]
        exact hs.older b hb
      have hmove : (a.place s.alarms ++ [] ++ []).Perm (s.alarms ++ [a]) := by
        rw [List.append_nil, List.append_nil]
        exact (perm_place a s.alarms).trans (List.perm_append_singleton a _).symm
      have hsorted : (a.place s.alarms).Pairwise Alarm.Before := by
        refine pairwise_place htime.1 (fun c hc => ?_) hs.lawful.sorted
        have hmem := mem_wasSet hs.lawful hc
        exact ⟨hs.older c hmem, hs.normal c hmem⟩
      refine ⟨lawful_snoc hs.lawful rfl hsorted hnew hmove trivial, fun b hb => ?_, fun b hb => ?_,
        fun fr hfr => ?_⟩
      · rw [hset] at hb
        rcases List.mem_append.mp hb with hold | hlast
        · exact Nat.lt_succ_of_lt (hs.older b hold)
        · rw [List.mem_singleton.mp hlast]
          exact Nat.lt_succ_self s.count
      · rw [hset] at hb
        rcases List.mem_append.mp hb with hold | hlast
        · exact hs.normal b hold
        · rw [List.mem_singleton.mp hlast]
          exact htime.1
      · -- An activation that is under way has read the clock before.
        refine frameInv_mono (hs.frames fr hfr) hclock (Nat.le_succ s.count) (fun b hb => ?_)
        rcases mem_place.mp hb with rfl | hold
        · exact .inr ⟨hlate, Nat.le_refl _⟩
        · exact .inl hold

theorem inv_cancel [DecidableEq F] {s : Alarms F C} (hs : s.Inv) (f : F) :
    (s.alarmCancel f).1.Inv := by
  have hspec := (s.alarmCancel_spec f).1
  have hsub : (s.alarmCancel f).1.alarms.Sublist s.alarms := by
    rw [hspec]
    exact List.filter_sublist
  refine inv_snoc hs rfl rfl hsub ?_ trivial rfl (fun fr hfr => ?_)
  · rw [hspec]
    show (_ ++ [] ++ s.alarms.filter fun a : Alarm F C => a.f = f).Perm s.alarms
    rw [List.append_nil]
    refine List.perm_append_comm.trans ?_
    have hsplit := List.filter_append_perm (fun a : Alarm F C => decide (a.f = f)) s.alarms
    simpa only [decide_not] using hsplit
  · refine frameInv_mono (hs.frames fr hfr) (Int.le_refl _) (Nat.le_refl _) (fun b hb => .inl ?_)
    exact hsub.subset hb

theorem inv_process {s : Alarms F C} (hs : s.Inv) {reading : Timeval}
    (h : s.Reads (.process reading)) : (s.process reading).Inv where
  lawful := ⟨hs.lawful.sorted, hs.lawful.inOrder, hs.lawful.once, hs.lawful.events⟩
  older := hs.older
  normal := hs.normal
  frames := by
    intro fr hfr
    rcases List.mem_cons.mp hfr with rfl | hold
    · exact
        { normal := h.1
          clock := Int.le_refl _
          sorted := List.Pairwise.nil
          due := fun _ ha => absurd ha List.not_mem_nil
          older := fun _ ha => absurd ha List.not_mem_nil
          before := fun _ ha => absurd ha List.not_mem_nil }
    · exact frameInv_mono (hs.frames fr hold) h.2 (Nat.le_refl _) (fun b hb => .inl hb)

theorem due_iff {a : Alarm F C} {now : Timeval} (ha : a.alarm_time.Normal) (hnow : now.Normal) :
    a.due now ↔ a.alarm_time.micros ≤ now.micros := by
  unfold Alarm.due
  rw [Timeval.after_iff ha hnow, Int.not_lt]

/-- What `fire` finds and leaves. -/
theorem fire_eq_some {s t : Alarms F C} (h : s.fire = some t) :
    ∃ fr frames a alarms, s.frames = fr :: frames ∧ s.alarms = a :: alarms ∧ fr.running = none ∧
      a.due fr.now ∧ t = { s with
        alarms := alarms
        frames := { fr with running := some a, fired := fr.fired ++ [a] } :: frames
        log := s.log ++ [.fired a fr.now] } := by
  unfold fire at h
  split at h
  case h_1 fr frames a alarms hfr ha =>
      split at h
      case isTrue hdue => exact ⟨fr, frames, a, alarms, hfr, ha, hdue.1, hdue.2, (Option.some.inj h).symm⟩
      case isFalse => cases h
  case h_2 => cases h

theorem inv_fire {s t : Alarms F C} (hs : s.Inv) (h : s.fire = some t) : t.Inv := by
  rcases fire_eq_some h with ⟨fr, frames, a, alarms, hfr, ha, -, hdue, rfl⟩
  have hfirst := hs.frames fr (hfr ▸ List.mem_cons_self)
  have hmem : a ∈ s.alarms := ha ▸ List.mem_cons_self
  have hwas := mem_wasSet hs.lawful hmem
  have hnow := (due_iff (hs.normal a hwas) hfirst.normal).mp hdue
  have hsub : alarms.Sublist s.alarms := ha ▸ List.sublist_cons_self a alarms
  have hrest : ∀ b ∈ alarms, a.Before b := by
    have hsorted := hs.lawful.sorted
    rw [ha] at hsorted
    exact (List.pairwise_cons.mp hsorted).1
  refine inv_snoc hs rfl rfl hsub ?_ hnow rfl (fun fr' hfr' => ?_)
  · rw [ha]
    show (alarms ++ [a] ++ []).Perm (a :: alarms)
    rw [List.append_nil]
    exact List.perm_append_singleton a alarms
  · rcases List.mem_cons.mp hfr' with rfl | hother
    · -- What this activation fired before comes before `a`, and `a` before what is left.
      refine ⟨hfirst.normal, hfirst.clock, ?_, fun b hb => ?_, fun b hb => ?_, fun b hb c hc => ?_⟩
      · rw [List.pairwise_append]
        refine ⟨hfirst.sorted, List.pairwise_singleton _ _, fun b hb c hc => ?_⟩
        rw [List.mem_singleton.mp hc]
        exact hfirst.before b hb a hmem
      · rcases List.mem_append.mp hb with hold | hlast
        · exact hfirst.due b hold
        · exact List.mem_singleton.mp hlast ▸ hnow
      · rcases List.mem_append.mp hb with hold | hlast
        · exact hfirst.older b hold
        · exact List.mem_singleton.mp hlast ▸ hs.older a hwas
      · rcases List.mem_append.mp hb with hold | hlast
        · exact hfirst.before b hold c (hsub.subset hc)
        · exact List.mem_singleton.mp hlast ▸ hrest c hc
    -- Another activation has no part in it: one that waits has gone.
    · refine frameInv_mono (hs.frames fr' (hfr ▸ List.mem_cons_of_mem fr hother)) (Int.le_refl _)
        (Nat.le_refl _) (fun b hb => .inl (hsub.subset hb))

theorem inv_done {s t : Alarms F C} (hs : s.Inv) (h : s.done = some t) : t.Inv := by
  unfold done at h
  split at h
  case h_1 fr frames hfr =>
      split at h
      case isTrue =>
          rw [← Option.some.inj h]
          have hfirst := hs.frames fr (hfr ▸ List.mem_cons_self)
          refine ⟨⟨hs.lawful.sorted, hs.lawful.inOrder, hs.lawful.once, hs.lawful.events⟩, hs.older,
            hs.normal, fun fr' hfr' => ?_⟩
          rcases List.mem_cons.mp hfr' with rfl | hother
          · exact ⟨hfirst.normal, hfirst.clock, hfirst.sorted, hfirst.due, hfirst.older,
              hfirst.before⟩
          · have hold := hs.frames fr' (hfr ▸ List.mem_cons_of_mem fr hother)
            exact frameInv_mono hold (Int.le_refl _) (Nat.le_refl _) (fun b hb => .inl hb)
      case isFalse => cases h
  case h_2 => cases h

theorem inv_leave {s t : Alarms F C} (hs : s.Inv) (h : s.leave = some t) : t.Inv := by
  unfold leave at h
  split at h
  case h_1 fr frames hfr =>
      split at h
      case isTrue hend =>
          rw [← Option.some.inj h]
          have hfirst := hs.frames fr (hfr ▸ List.mem_cons_self)
          -- The first alarm is after the reading, and the others are after the first.
          have hleft : ∀ a ∈ s.alarms, fr.now.micros < a.alarm_time.micros := by
            intro a ha
            have hnormal := fun b hb => hs.normal b (mem_wasSet hs.lawful (a := b) hb)
            cases halarms : s.alarms with
            | nil =>
                rw [halarms] at ha
                exact absurd ha List.not_mem_nil
            | cons b alarms =>
                have hb : b ∈ s.alarms := halarms ▸ List.mem_cons_self
                have hnot := hend.2 b (by rw [halarms]; rfl)
                rw [due_iff (hnormal b hb) hfirst.normal, Int.not_le] at hnot
                have hsorted := hs.lawful.sorted
                rw [halarms] at ha hsorted
                rcases List.mem_cons.mp ha with rfl | hmem
                · exact hnot
                · rcases (List.pairwise_cons.mp hsorted).1 a hmem with hlt | ⟨heq, -⟩
                  · exact Int.lt_trans hnot hlt
                  · exact heq ▸ hnot
          refine inv_snoc hs rfl rfl (List.Sublist.refl _) ?_ ⟨hfirst.sorted, hfirst.due, hleft⟩ rfl
            (fun fr' hfr' => ?_)
          · show (s.alarms ++ [] ++ []).Perm s.alarms
            rw [List.append_nil, List.append_nil]
          · have hold := hs.frames fr' (hfr ▸ List.mem_cons_of_mem fr hfr')
            exact frameInv_mono hold (Int.le_refl _) (Nat.le_refl _) (fun b hb => .inl hb)
      case isFalse => cases h
  case h_2 => cases h

/-! ## Steps and runs -/

variable [DecidableEq F] [DecidableEq C]

theorem inv_step {s t : Alarms F C} {l : AlarmLabel F C} (hs : s.Inv) (hl : s.Reads l)
    (h : s.step l = some t) : t.Inv := by
  cases l with
  | set f cookie ms malloc reading =>
      rcases Option.ite_none_right_eq_some.mp h with ⟨-, ht⟩
      exact Option.some.inj ht ▸ inv_set hs hl
  | cancel f =>
      rcases Option.ite_none_right_eq_some.mp h with ⟨-, ht⟩
      exact Option.some.inj ht ▸ inv_cancel hs f
  | process reading =>
      rcases Option.ite_none_right_eq_some.mp h with ⟨-, ht⟩
      exact Option.some.inj ht ▸ inv_process hs hl
  | fire => exact inv_fire hs h
  | done => exact inv_done hs h
  | leave => exact inv_leave hs h

/-- Only two kinds of steps take alarms out of the list. -/
theorem alarms_of_step {s t : Alarms F C} {l : AlarmLabel F C} (h : s.step l = some t) :
    (∀ a ∈ s.alarms, a ∈ t.alarms) ∨ l = .fire ∨ ∃ f, l = .cancel f := by
  cases l with
  | set f cookie ms malloc reading =>
      rcases Option.ite_none_right_eq_some.mp h with ⟨-, ht⟩
      refine .inl fun a ha => Option.some.inj ht ▸ ?_
      cases malloc with
      | false => exact ha
      | true => exact mem_place.mpr (.inr ha)
  | cancel f => exact .inr (.inr ⟨f, rfl⟩)
  | process reading =>
      rcases Option.ite_none_right_eq_some.mp h with ⟨-, ht⟩
      exact .inl fun a ha => Option.some.inj ht ▸ ha
  | fire => exact .inr (.inl rfl)
  -- The last two leave the list alone, in the branches in which they are steps.
  | done =>
      refine .inl fun a ha => ?_
      simp only [step, done] at h
      split at h
      case h_1 =>
          rcases Option.ite_none_right_eq_some.mp h with ⟨-, ht⟩
          exact Option.some.inj ht ▸ ha
      case h_2 => cases h
  | leave =>
      refine .inl fun a ha => ?_
      simp only [step, leave] at h
      split at h
      case h_1 =>
          rcases Option.ite_none_right_eq_some.mp h with ⟨-, ht⟩
          exact Option.some.inj ht ▸ ha
      case h_2 => cases h

theorem stepLaw_of_step {s t : Alarms F C} {l : AlarmLabel F C} (hl : s.Reads l)
    (h : s.step l = some t) : s.StepLaw l t where
  leaves := by
    intro a ha hnot
    rcases alarms_of_step h with hkeep | rfl | ⟨f, rfl⟩
    · exact absurd (hkeep a ha) hnot
    -- The alarm that is gone is the first one, which has been fired.
    · rcases fire_eq_some h with ⟨fr, frames, b, alarms, hfr, hb, -, -, rfl⟩
      rw [hb] at ha ⊢
      rcases List.mem_cons.mp ha with rfl | hmem
      · refine .inl ⟨rfl, rfl, ?_⟩
        rw [wasFired, List.flatMap_append]
        exact List.mem_append_right _ List.mem_cons_self
      · exact absurd hmem hnot
    -- It was one of those that are cancelled.
    · rcases Option.ite_none_right_eq_some.mp h with ⟨-, ht⟩
      rw [← Option.some.inj ht, (s.alarmCancel_spec f).1, List.mem_filter] at hnot
      refine .inr ?_
      by_cases hf : a.f = f
      · rw [hf]
      · exact absurd ⟨ha, decide_eq_true hf⟩ hnot
  cancels := by
    rintro f rfl
    rcases Option.ite_none_right_eq_some.mp h with ⟨-, ht⟩
    exact Option.some.inj ht ▸ s.alarmCancel_spec f
  sets := by
    rintro f cookie ms reading rfl
    rcases Option.ite_none_right_eq_some.mp h with ⟨-, ht⟩
    rw [← Option.some.inj ht]
    exact ⟨s.newAlarm f cookie ms reading, mem_place.mpr (.inl rfl), rfl, rfl,
      (Timeval.addMs_spec hl.1 hl.2.2.1 hl.2.2.2).2⟩

/-- What is true of every run, whatever the functions of the alarms do. They may
    set and cancel alarms themselves, so that a step is about one call in one
    frame: the list is in the order of the times, an alarm is fired once at most
    and not before its time, and an `alarm_process` that returns has left none
    that was due. -/
theorem alarms_lawful (clock : Timeval) (ls : List (AlarmLabel F C))
    (h : Meets step Reads (init clock : Alarms F C) ls) :
    Throughout step (fun s => s.Lawful ∧ ∀ l t, s.Reads l → s.step l = some t → s.StepLaw l t)
      (init clock) ls :=
  throughout_of_meets (fun _ hs => ⟨hs.lawful, fun _ _ hl ht => stepLaw_of_step hl ht⟩)
    (fun _ _ _ hs hl ht => inv_step hs hl ht) (inv_init clock) h

/-- Two alarms at the same time, of which the first, when it fires, sets itself
    again and cancels the second. -/
def rearming : List (AlarmLabel Bool Unit) :=
  [.set true () 500 true ⟨5, 700000⟩, .set false () 500 true ⟨5, 700000⟩, .process ⟨6, 200000⟩,
    .fire, .set true () 500 true ⟨6, 200001⟩, .cancel false, .done, .leave]

theorem alarms_lawful_rearming :
    (exec step (init ⟨5, 0⟩) rearming).isSome = true ∧
      Throughout step (fun s => s.Lawful ∧ ∀ l t, s.Reads l → s.step l = some t → s.StepLaw l t)
        (init ⟨5, 0⟩) rearming :=
  ⟨by decide, alarms_lawful ⟨5, 0⟩ rearming (by decide)⟩

end Alarms

end ChargeOnly

end Victara
