import Victara.NxActions.IrGesture

/-!
# Silencing the Ringer and the Alarm

`IrSilencer.java` and `AlarmSilencer.java`: while the phone rings, or an alarm,
a swipe over the sensor silences it. For that long the silencer listens to the
sensor, and has a vote for swipes. `IrSilencer` knows whether it listens, and
`AlarmSilencer` does not: it starts whenever it is told of an alarm.

All of this is in the main thread. A step is an event; a swipe is one too, and
the snooze that it sends comes back as another.

The sensor service refuses a listener that it has, and may refuse any other. A
refusal throws an exception out of the event. `twice` says that a listener has
been registered while it was, which nobody keeps.

## Main definitions

* `Shared`: The manager of the votes, and the sensor.
* `Listening`: A listener, and its vote.
* `SilencerCalls`: What the calls of an event find: whether the service takes a
  listener, what the native calls do, and the time.
* `registerListener`: `SensorHelper.registerListener`, and whether it returns.
* `voteForSensors`: `IrGestureVote.voteForSensors`.
* `startListening`: Both silencers start like this, and say whether they got to
  the end.
* `Silencers`: The two silencers, with the manager they share.
* `SilencerEvent`, `Silencers.step`: The events.
* `init`: After the constructors.
* `onCallStateChanged`, `onReceive` and the other functions of the source.
* `silenceRinger`: `IrSilencer.onSensorChanged` silences the ringer.
* `sendBroadcast`: `AlarmSilencer.onSensorChanged` sends a broadcast.
* `Silencers.Once`: Each registers once, and for as long as it has a vote.
* `AlarmHistory`: What the events say of `AlarmSilencer`: the preference, and
  that an alarm was taken up and nothing has stopped it.
* `AlarmHistory.Alert`: An alarm that the preference allows.
* `NeverAgain`: There is no alarm while another is being listened for.
* `Listening.Backed`: A vote is there while the listener is registered.
* `Inv`: What every event keeps, alarms that come again included.
* `Follows`: The history of the events is that of the silencer.
* `alarmTwice`: An alarm that comes twice.

## Theorems

* `startListening_listening`: What starting does to the listener.
* `onReceive_cases`: A broadcast is an alarm that is taken up, or it stops the
  silencer.
* `inv_step_silencers`: What every event keeps.
* `irSilencer_once`: What is true of `IrSilencer` in every run.
* `silenceRinger_listening`: The ringer is silenced by one that listens.
* `follows_onReceive`: An alarm that comes again is registered for again.
* `follows_step`: Only an alarm that comes again makes a listener register
  twice.
* `once_iff_of_inv`: The silencers register once where `AlarmSilencer` does.
* `once_iff`: The runs in which both register once.
-/

namespace Victara

namespace NxActions

open StepSystem

def IR_GESTURE_SWIPE : Int := 3

/-- `1 << IR_GESTURE_SWIPE`. -/
def IR_GESTURES_FOR_RINGING : BitVec 32 := 8#32

def IR_GESTURES_FOR_ALARM : BitVec 32 := 8#32

def SILENCE_DELAY_MS : Int := 500

def GESTURE_IR_SILENCE_KEY : String := "gesture_ir_silence"

def ALARM_SILENCE_KEY : String := "gesture_ir_silence"

def ALARM_ALERT_ACTION : String := "com.android.deskclock.ALARM_ALERT"
def ALARM_SNOOZE_ACTION : String := "com.android.deskclock.ALARM_SNOOZE"
def ALARM_DISMISS_ACTION : String := "com.android.deskclock.ALARM_DISMISS"
def ALARM_DONE_ACTION : String := "com.android.deskclock.ALARM_DONE"

def CALL_STATE_RINGING : Int := 1

/-! ## Listeners -/

/-- The manager of the votes, and the sensor. -/
structure Shared where
  manager : IrGestureManager
  config : IrConfig

/-- A listener for the sensor of gestures, and its `IrGestureVote`. -/
structure Listening where
  registered : Bool
  mLastFlags : BitVec 32
  twice : Bool
  deriving DecidableEq

/-- What the calls of an event find: whether the service takes a listener, what
    the native calls do, and the time. -/
structure SilencerCalls where
  accepts : Bool
  ioctls₁ : IrIoctls
  ioctls₂ : IrIoctls
  currentTimeMillis : Int
  deriving DecidableEq

/-- `SensorHelper.registerListener`, and whether it returns. -/
def registerListener (l : Listening) (e : SilencerCalls) : Listening × Bool :=
  if l.registered then ({ l with twice := true }, false)
  else ({ l with registered := e.accepts }, e.accepts)

def unregisterListener (l : Listening) : Listening := { l with registered := false }

/-- `IrGestureVote.voteForSensors`. -/
def voteForSensors (g : Shared) (l : Listening) (e : SilencerCalls) (flags : BitVec 32) :
    Shared × Listening :=
  let r := updateState g.manager g.config e.ioctls₁ e.ioctls₂ l.mLastFlags flags
  (⟨r.1, r.2.1⟩, { l with mLastFlags := flags })

/-- Both silencers start like this, and say whether they got to the end. -/
def startListening (g : Shared) (l : Listening) (e : SilencerCalls) (flags : BitVec 32) :
    Shared × Listening × Bool :=
  let r := registerListener l e
  if r.2 then
    let v := voteForSensors g r.1 e flags
    (v.1, v.2, true)
  else (g, r.1, false)

def stopListening (g : Shared) (l : Listening) (e : SilencerCalls) : Shared × Listening :=
  voteForSensors g (unregisterListener l) e 0#32

/-! ## The silencers -/

structure Silencers where
  shared : Shared
  ir : Listening
  mIsRinging : Bool
  mRingStartedMs : Int
  mGestureIrSilenceEnabled : Bool
  alarm : Listening
  mAlarmSilenceEnabled : Bool

/-- The events, with the state of the phone, the action of a broadcast, or the
    key and the value of a preference. -/
inductive SilencerEvent
  | callStateChanged (state : Int) (calls : SilencerCalls)
  | alarm (action : String) (calls : SilencerCalls)
  | irSensorChanged (gesture currentTimeMillis : Int)
  | alarmSensorChanged (gesture : Int)
  | irPreferenceChanged (key : String) (value : Bool)
  | alarmPreferenceChanged (key : String) (value : Bool)
  deriving DecidableEq

namespace Silencers

/-- After the constructors. -/
def init (shared : Shared) (enabled : Bool) : Silencers where
  shared := shared
  ir := ⟨false, 0#32, false⟩
  mIsRinging := false
  mRingStartedMs := 0
  mGestureIrSilenceEnabled := enabled
  alarm := ⟨false, 0#32, false⟩
  mAlarmSilenceEnabled := enabled

/-- `IrSilencer.onCallStateChanged`. -/
def onCallStateChanged (s : Silencers) (state : Int) (e : SilencerCalls) : Silencers :=
  if state = CALL_STATE_RINGING ∧ s.mIsRinging = false ∧ s.mGestureIrSilenceEnabled = true then
    let r := startListening s.shared s.ir e IR_GESTURES_FOR_RINGING
    if r.2.2 then
      { s with
        shared := r.1
        ir := r.2.1
        mIsRinging := true
        mRingStartedMs := e.currentTimeMillis }
    -- The exception leaves before the flag is set.
    else { s with ir := r.2.1 }
  else if state ≠ CALL_STATE_RINGING ∧ s.mIsRinging = true then
    let r := stopListening s.shared s.ir e
    { s with shared := r.1, ir := r.2, mIsRinging := false }
  else s

def onAlarmStateOff (s : Silencers) (e : SilencerCalls) : Silencers :=
  let r := stopListening s.shared s.alarm e
  { s with shared := r.1, alarm := r.2 }

def onAlarmStateOn (s : Silencers) (e : SilencerCalls) : Silencers :=
  if s.mAlarmSilenceEnabled then
    let r := startListening s.shared s.alarm e IR_GESTURES_FOR_ALARM
    { s with shared := r.1, alarm := r.2.1 }
  else
    let r := stopListening s.shared s.alarm e
    { s with shared := r.1, alarm := r.2 }

/-- `AlarmSilencer.mAlarmStateReceiver`. -/
def onReceive (s : Silencers) (action : String) (e : SilencerCalls) : Silencers :=
  if action = ALARM_DISMISS_ACTION then s.onAlarmStateOff e
  else if action = ALARM_ALERT_ACTION then s.onAlarmStateOn e
  else s.onAlarmStateOff e

/-- `IrSilencer.onSensorChanged` silences the ringer. -/
def silenceRinger (s : Silencers) (gesture now : Int) : Bool :=
  gesture = IR_GESTURE_SWIPE && s.mIsRinging && s.mGestureIrSilenceEnabled &&
    SILENCE_DELAY_MS ≤ now - s.mRingStartedMs

/-- `AlarmSilencer.onSensorChanged` sends a broadcast. -/
def sendBroadcast (s : Silencers) (gesture : Int) : Option String :=
  if gesture = IR_GESTURE_SWIPE ∧ s.mAlarmSilenceEnabled = true then some ALARM_SNOOZE_ACTION
  else none

def step (s : Silencers) : SilencerEvent → Option Silencers
  | .callStateChanged state e => some (s.onCallStateChanged state e)
  | .alarm action e => some (s.onReceive action e)
  | .irSensorChanged _ _ => some s
  | .alarmSensorChanged _ => some s
  | .irPreferenceChanged key value =>
    some (if GESTURE_IR_SILENCE_KEY = key then { s with mGestureIrSilenceEnabled := value } else s)
  | .alarmPreferenceChanged key value =>
    some (if ALARM_SILENCE_KEY = key then { s with mAlarmSilenceEnabled := value } else s)

/-- Each listener was not registered when it was to be, and is if there is a
    vote. The first half is what the sensor service asks for, the second keeps
    the sensor on for as long as somebody listens, and no longer. -/
def Once (s : Silencers) : Prop :=
  (s.ir.twice = false ∧ (s.ir.registered = true ↔ s.ir.mLastFlags ≠ 0#32)) ∧
    (s.alarm.twice = false ∧ (s.alarm.registered = true ↔ s.alarm.mLastFlags ≠ 0#32))

instance (s : Silencers) : Decidable s.Once := inferInstanceAs (Decidable ((_ ∧ _) ∧ (_ ∧ _)))

end Silencers

/-- What the events say of `AlarmSilencer`: the preference, and that an alarm was
    taken up and nothing has stopped it. -/
structure AlarmHistory where
  enabled : Bool
  listening : Bool
  deriving DecidableEq

def AlarmHistory.next (h : AlarmHistory) : SilencerEvent → AlarmHistory
  | .alarm action e =>
    if action = ALARM_ALERT_ACTION ∧ h.enabled = true then
      { h with listening := h.listening || e.accepts }
    else { h with listening := false }
  | .alarmPreferenceChanged key value =>
    if ALARM_SILENCE_KEY = key then { h with enabled := value } else h
  | _ => h

/-- An alarm that the preference allows. -/
def AlarmHistory.Alert (h : AlarmHistory) : SilencerEvent → Prop
  | .alarm action _ => action = ALARM_ALERT_ACTION ∧ h.enabled = true
  | _ => False

/-- No alarm that the preference allows comes while another is listened for. It
    is read off the events alone: an alarm is listened for from its alert on, if
    the sensor service takes the listener, until a broadcast about alarms that
    is not such an alert. -/
def NeverAgain : AlarmHistory → List SilencerEvent → Prop
  | _, [] => True
  | h, e :: es => (h.Alert e → h.listening = false) ∧ NeverAgain (h.next e) es

/-! ## One call -/

/-- A vote is there while the listener is registered. -/
def Listening.Backed (l : Listening) : Prop :=
  l.mLastFlags = if l.registered then IR_GESTURES_FOR_ALARM else 0#32

theorem registered_iff_of_backed {l : Listening} (h : l.Backed) :
    l.registered = true ↔ l.mLastFlags ≠ 0#32 := by
  unfold Listening.Backed at h
  rw [h]
  cases l.registered <;> decide

/-- What starting does to the listener. -/
theorem startListening_listening (g : Shared) (l : Listening) (e : SilencerCalls)
    (flags : BitVec 32) :
    (startListening g l e flags).2 =
      if l.registered then ({ l with twice := true }, false)
      else if e.accepts then (⟨true, flags, l.twice⟩, true) else (l, false) := by
  unfold startListening registerListener
  cases hreg : l.registered with
  | true => rfl
  | false =>
      cases haccepts : e.accepts with
      | true => rfl
      | false =>
          have hsame : { l with registered := false } = l := by
            rw [← hreg]
          simp [hsame]

theorem backed_start {g : Shared} {l : Listening} (h : l.Backed) (e : SilencerCalls) :
    (startListening g l e IR_GESTURES_FOR_ALARM).2.1.Backed := by
  rw [startListening_listening]
  split
  · exact h
  · split
    · rfl
    · exact h

namespace Silencers

/-- What every event keeps, alarms that come again included. The ringer silencer
    is registered just while the phone rings, so it cannot be so twice. Of the
    alarm silencer only the vote is known. -/
structure Inv (s : Silencers) : Prop where
  irTwice : s.ir.twice = false
  irRegistered : s.ir.registered = s.mIsRinging
  irBacked : s.ir.Backed
  alarmBacked : s.alarm.Backed

theorem inv_init (shared : Shared) (enabled : Bool) : (init shared enabled).Inv :=
  ⟨rfl, rfl, rfl, rfl⟩

theorem inv_onCallStateChanged {s : Silencers} (hs : s.Inv) (state : Int) (e : SilencerCalls) :
    (s.onCallStateChanged state e).Inv := by
  unfold onCallStateChanged
  by_cases hstart : state = CALL_STATE_RINGING ∧ s.mIsRinging = false ∧
      s.mGestureIrSilenceEnabled = true
  · -- It does not ring yet, so the listener is free.
    have hfree : s.ir.registered = false := hs.irRegistered.trans hstart.2.1
    have hlisten := startListening_listening s.shared s.ir e IR_GESTURES_FOR_RINGING
    rw [if_neg (by simp [hfree])] at hlisten
    rw [if_pos hstart]
    cases haccepts : e.accepts with
    | true =>
        rw [if_pos haccepts] at hlisten
        simp only [hlisten, if_true]
        exact ⟨hs.irTwice, rfl, rfl, hs.alarmBacked⟩
    | false =>
        rw [if_neg (by simp [haccepts])] at hlisten
        simp only [hlisten, Bool.false_eq_true, if_false]
        exact hs
  · rw [if_neg hstart]
    by_cases hstop : state ≠ CALL_STATE_RINGING ∧ s.mIsRinging = true
    · rw [if_pos hstop]
      exact ⟨hs.irTwice, rfl, rfl, hs.alarmBacked⟩
    · rw [if_neg hstop]
      exact hs

/-- A broadcast is an alarm that is taken up, or it stops the silencer. -/
theorem onReceive_cases (s : Silencers) (action : String) (e : SilencerCalls) :
    (action = ALARM_ALERT_ACTION ∧ s.mAlarmSilenceEnabled = true ∧
        s.onReceive action e = { s with
          shared := (startListening s.shared s.alarm e IR_GESTURES_FOR_ALARM).1
          alarm := (startListening s.shared s.alarm e IR_GESTURES_FOR_ALARM).2.1 }) ∨
      (¬ (action = ALARM_ALERT_ACTION ∧ s.mAlarmSilenceEnabled = true) ∧
        s.onReceive action e = { s with
          shared := (stopListening s.shared s.alarm e).1
          alarm := ⟨false, 0#32, s.alarm.twice⟩ }) := by
  unfold onReceive
  by_cases halert : action = ALARM_ALERT_ACTION
  · have hother : action ≠ ALARM_DISMISS_ACTION := by
      rw [halert]
      decide
    rw [if_neg hother, if_pos halert, onAlarmStateOn]
    cases henabled : s.mAlarmSilenceEnabled with
    | true => exact Or.inl ⟨halert, rfl, rfl⟩
    | false => exact Or.inr ⟨by simp, rfl⟩
  · refine Or.inr ⟨fun h => halert h.1, ?_⟩
    rw [if_neg halert, ite_self]
    rfl

theorem inv_step_silencers {s t : Silencers} {e : SilencerEvent} (hs : s.Inv)
    (h : s.step e = some t) : t.Inv := by
  cases e with
  | callStateChanged state calls =>
      cases h
      exact inv_onCallStateChanged hs state calls
  | alarm action calls =>
      cases h
      rcases onReceive_cases s action calls with ⟨_, _, heq⟩ | ⟨_, heq⟩
      · rw [heq]
        exact ⟨hs.irTwice, hs.irRegistered, hs.irBacked, backed_start hs.alarmBacked calls⟩
      · rw [heq]
        exact ⟨hs.irTwice, hs.irRegistered, hs.irBacked, rfl⟩
  | irSensorChanged | alarmSensorChanged =>
      cases h
      exact hs
  | irPreferenceChanged key value | alarmPreferenceChanged key value =>
      cases h
      split
      · exact ⟨hs.irTwice, hs.irRegistered, hs.irBacked, hs.alarmBacked⟩
      · exact hs

/-- In every run `IrSilencer` registers once, and for as long as it has a vote. -/
theorem irSilencer_once {shared : Shared} {enabled : Bool} {es : List SilencerEvent}
    {s : Silencers} (h : exec step (init shared enabled) es = some s) :
    s.ir.twice = false ∧ (s.ir.registered = true ↔ s.ir.mLastFlags ≠ 0#32) := by
  have hs : s.Inv := invariant_of_step (fun _ _ _ hs h => inv_step_silencers hs h)
    (inv_init shared enabled) h
  exact ⟨hs.irTwice, registered_iff_of_backed hs.irBacked⟩

/-- The ringer is silenced only by a silencer that listens and has a vote. -/
theorem silenceRinger_listening {shared : Shared} {enabled : Bool} {es : List SilencerEvent}
    {s : Silencers} (h : exec step (init shared enabled) es = some s) {gesture now : Int}
    (hsilence : s.silenceRinger gesture now = true) :
    s.ir.registered = true ∧ s.ir.mLastFlags = IR_GESTURES_FOR_RINGING := by
  have hs : s.Inv := invariant_of_step (fun _ _ _ hs h => inv_step_silencers hs h)
    (inv_init shared enabled) h
  have hringing : s.mIsRinging = true := by
    simp only [silenceRinger, Bool.and_eq_true] at hsilence
    exact hsilence.1.1.2
  have hreg := hs.irRegistered.trans hringing
  have hbacked := hs.irBacked
  unfold Listening.Backed at hbacked
  rw [hreg, if_pos rfl] at hbacked
  exact ⟨hreg, hbacked⟩

/-! ## The alarm -/

/-- The history of the events is that of the silencer. -/
structure Follows (s : Silencers) (h : AlarmHistory) : Prop where
  enabled : s.mAlarmSilenceEnabled = h.enabled
  listening : s.alarm.registered = h.listening

theorem onCallStateChanged_alarm (s : Silencers) (state : Int) (e : SilencerCalls) :
    (s.onCallStateChanged state e).alarm = s.alarm ∧
      (s.onCallStateChanged state e).mAlarmSilenceEnabled = s.mAlarmSilenceEnabled := by
  unfold onCallStateChanged
  split
  · cases hdone : (startListening s.shared s.ir e IR_GESTURES_FOR_RINGING).2.2 <;>
      simp only [hdone, if_true, Bool.false_eq_true, if_false, and_self]
  · split <;> exact ⟨rfl, rfl⟩

/-- An alarm that comes again is registered for again. -/
theorem follows_onReceive {s : Silencers} {h : AlarmHistory} (hs : s.Follows h) (action : String)
    (e : SilencerCalls) :
    (s.onReceive action e).Follows (h.next (.alarm action e)) ∧
      ((s.onReceive action e).alarm.twice = true ↔
        s.alarm.twice = true ∨ (h.Alert (.alarm action e) ∧ h.listening = true)) := by
  rcases onReceive_cases s action e with ⟨halert, henabled, heq⟩ | ⟨hno, heq⟩
  · have hgiven : h.Alert (.alarm action e) := ⟨halert, hs.enabled.symm.trans henabled⟩
    have hnext : h.next (.alarm action e) = { h with listening := h.listening || e.accepts } :=
      if_pos hgiven
    have hgivenIff : ∀ p : Prop, h.Alert (.alarm action e) ∧ p ↔ p := fun _ => and_iff_right hgiven
    rw [heq, hnext, startListening_listening, hgivenIff]
    cases hlisten : h.listening with
    | true =>
        -- The service refuses, and the listener that was there stays.
        have hreg := hs.listening.trans hlisten
        rw [if_pos hreg]
        exact ⟨⟨hs.enabled, hreg⟩, by simp⟩
    | false =>
        have hreg := hs.listening.trans hlisten
        rw [if_neg (by simp [hreg])]
        cases e.accepts with
        | true => exact ⟨⟨hs.enabled, rfl⟩, by simp⟩
        | false => exact ⟨⟨hs.enabled, hreg⟩, by simp⟩
  · have hnot : ¬ (action = ALARM_ALERT_ACTION ∧ h.enabled = true) := by
      rw [← hs.enabled]
      exact hno
    have hnext : h.next (.alarm action e) = { h with listening := false } := if_neg hnot
    rw [heq, hnext]
    refine ⟨⟨hs.enabled, rfl⟩, ?_⟩
    simp only [AlarmHistory.Alert, hnot, false_and, or_false]

/-- Only an alarm that comes again makes a listener register twice. -/
theorem follows_step {s t : Silencers} {h : AlarmHistory} {e : SilencerEvent} (hs : s.Follows h)
    (hstep : s.step e = some t) :
    t.Follows (h.next e) ∧
      (t.alarm.twice = true ↔ s.alarm.twice = true ∨ (h.Alert e ∧ h.listening = true)) := by
  cases e with
  | alarm action calls =>
      cases hstep
      exact follows_onReceive hs action calls
  | callStateChanged state calls =>
      cases hstep
      -- The call side has its own listener and its own flags.
      have hsame := onCallStateChanged_alarm s state calls
      refine ⟨⟨hsame.2.trans hs.enabled, ?_⟩, ?_⟩
      · rw [hsame.1]
        exact hs.listening
      · rw [hsame.1]
        simp only [AlarmHistory.Alert, false_and, or_false]
  | irSensorChanged | alarmSensorChanged =>
      cases hstep
      exact ⟨hs, by simp [AlarmHistory.Alert]⟩
  | irPreferenceChanged key value =>
      cases hstep
      refine ⟨?_, ?_⟩
      · split
        · exact ⟨hs.enabled, hs.listening⟩
        · exact hs
      · split <;> simp [AlarmHistory.Alert]
  | alarmPreferenceChanged key value =>
      cases hstep
      unfold AlarmHistory.next
      by_cases hkey : ALARM_SILENCE_KEY = key
      · simp only [if_pos hkey]
        exact ⟨⟨rfl, hs.listening⟩, by simp [AlarmHistory.Alert]⟩
      · simp only [if_neg hkey]
        exact ⟨hs, by simp [AlarmHistory.Alert]⟩

/-- The silencers register once where `AlarmSilencer` does. -/
theorem once_iff_of_inv {s : Silencers} (hs : s.Inv) : s.Once ↔ s.alarm.twice = false := by
  constructor
  · intro h
    exact h.2.1
  · intro h
    exact ⟨⟨hs.irTwice, registered_iff_of_backed hs.irBacked⟩,
      h, registered_iff_of_backed hs.alarmBacked⟩

theorem step_total (s : Silencers) (e : SilencerEvent) : ∃ t, s.step e = some t := by
  cases e <;> exact ⟨_, rfl⟩

theorem once_iff_neverAgain {s : Silencers} {h : AlarmHistory} (hs : s.Inv)
    (hfollows : s.Follows h) (honce : s.alarm.twice = false) (es : List SilencerEvent) :
    Throughout step Once s es ↔ NeverAgain h es := by
  induction es generalizing s h with
  | nil => exact iff_of_true ((once_iff_of_inv hs).mpr honce) trivial
  | cons e es ih =>
      rcases step_total s e with ⟨t, ht⟩
      rcases follows_step hfollows ht with ⟨hnext, htwice⟩
      have hinv := inv_step_silencers hs ht
      have hnow := (once_iff_of_inv hs).mpr honce
      simp only [Throughout, NeverAgain, ht, Option.mem_some, forall_eq', hnow, true_and]
      by_cases hagain : h.Alert e ∧ h.listening = true
      · -- The alarm is registered for again, and the state afterwards shows it.
        refine iff_of_false (fun hrun => ?_) fun hnever => ?_
        · have hbad := (once_iff_of_inv hinv).mp (throughout_head hrun)
          rw [htwice.mpr (Or.inr hagain)] at hbad
          cases hbad
        · have hidle := hnever.1 hagain.1
          rw [hagain.2] at hidle
          cases hidle
      -- Nothing was registered twice by this event either, so the rest decides.
      · have hstill : t.alarm.twice = false := by
          rw [Bool.eq_false_iff, Ne, htwice]
          rintro (hold | hnew)
          · rw [honce] at hold
            cases hold
          · exact hagain hnew
        rw [ih hinv hnext hstill]
        refine (and_iff_right fun halert => ?_).symm
        cases hlisten : h.listening with
        | false => rfl
        | true => exact absurd ⟨halert, hlisten⟩ hagain

/-- Both silencers register once in the runs in which no alarm that the
    preference allows comes before another that was taken up has been stopped.
    The ringer silencer needs no condition, as it knows whether it listens. -/
theorem once_iff (shared : Shared) (enabled : Bool) (es : List SilencerEvent) :
    Throughout step Once (init shared enabled) es ↔ NeverAgain ⟨enabled, false⟩ es :=
  once_iff_neverAgain (inv_init shared enabled) ⟨rfl, rfl⟩ rfl es

/-- The manager after its constructor, and calls that all succeed. -/
def freshShared : Shared where
  manager := ⟨fun _ => 0, 0#32⟩
  config := IrVoters.freshConfig

def acceptedCalls : SilencerCalls := ⟨true, IrVoters.bothIoctls, IrVoters.bothIoctls, 0⟩

/-- An alarm that comes twice. -/
def alarmTwice : List SilencerEvent :=
  [.alarm ALARM_ALERT_ACTION acceptedCalls, .alarm ALARM_ALERT_ACTION acceptedCalls]

theorem alarmTwice_once_not : ¬ Throughout step Once (init freshShared true) alarmTwice := by
  intro h
  have hlast := throughout_exec h rfl
  revert hlast
  decide

end Silencers

end NxActions

end Victara
