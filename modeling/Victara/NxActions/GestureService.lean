import Victara.NxActions.Silencers

/-!
# The Gesture Service

`CMActionsService.java` with the parts that it builds: the sensors that listen
while the screen is off and ask for a pulse of the ambient display, the two
that start the camera and the flashlight, and the two silencers. All of them
live in the main thread, so a step is one broadcast, one sensor event or one
preference that has changed.

A sensor event comes only to a listener that is registered. A registration
that the sensor service refuses throws, the exception leaves the main thread
and the process is gone; the notifiers that come later have not been told. The
service may refuse any registration, and does refuse a listener it has.

The package manager and the keyguard are arguments of the events that use them.

Whether a listener is registered depends on the broadcasts, the alarms and the
preferences alone, as long as the sensor service has refused nothing.
`ScreenHistory` follows them, and `shown_step` says that it is right from one
event to the next. So the condition for a run without exceptions is stated on
the history: an event that registers a listener finds it free, and is accepted.
The first event that does not is the one that throws.

## Main definitions

* `ActivityInfo`: An activity, by the package it is in and its name.
* `Effect`: What an event does to the phone.
* `ScreenCalls`: What a broadcast of the screen finds: which registrations the
  sensor service takes if it does not have the listener, the native calls, and
  the time.
* `DozePulseAction`, `FlatUpSensor`, `IrGestureSensor`, `StowSensor`: The parts
  that the screen turns on and off.
* `registers`: `SensorHelper.registerListener` returns.
* `onFlatUpChanged`: `mFlatUpListener`, with whether there is an action.
* `onStowChanged`: `mStowListener`.
* `CameraCalls`: What the package manager and the keyguard say.
* `getBestActivityInfo`: `getBestActivityInfo`, with a match.
* `resolveBest`: `getBestActivityInfo` of an intent alone.
* `CameraActivationAction`, `FlashlightActivationAction`: What the others do.
* `CMActionsService`: The service, with `screenTurnedOn` and `screenTurnedOff`.
* `ServicePart`: The parts with a preference of their own, the silencers apart.
* `ServiceEvent`, `CMActionsService.step`, `CMActionsService.out`: One event,
  and what it does to the phone.
* `getBoolean`: `SharedPreferences.getBoolean`, where every part has the default
  `true`.
* `Silencers.refused`: A listener of a silencer has been refused: the event
  throws.
* `onReceive`: `ScreenReceiver.onReceive`.
* `doze`: A part has its action, `DozePulseAction`, if it is to have one.
* `build`: The parts are built.
* `create`: The constructor: the parts are built, and told how the screen is.
* `heard`: The event comes to a part that listens.
* `wantsPulse`: A part wants a pulse.
* `handle`: What an event does to the service.
* `PartHistory`: A part that listens while the screen is off, if its preference
  was on then.
* `PartHistory.Free`: A registration for the part comes to a free listener and
  is taken.
* `Free`: Every registration that the event asks for comes to a free listener,
  and the sensor service takes it.
* `ScreenHistory`, `Undisturbed`: What the events say of the listeners.
* `built`: The preferences, and no listeners.
* `created`: After the constructor.
* `FlatUpSensor.Shows`: The history of a part is that of the sensor.
* `Shown`: The history is that of the service.
* `CreateAccepted`: What the constructor asks for is taken by the sensor
  service.

## Theorems

* `foldl_reverse_package`: Going down leaves the first activity of the package,
  or the one before the loop.
* `getBestActivityInfo_spec`: The activity of the wanted package is taken.
* `first_vote`: A vote for nothing, where there are none, makes no native call.
* `step_thrown`, `step_alive`: What a registration that is refused leaves.
* `refused_callStateChanged`: A ring that is to be taken up and cannot be.
* `ringing_onCallStateChanged`: `IrSilencer` after a change of the phone's state
  that it could take up.
* `silencers_step`: The silencers keep to their part of the history, as long as
  they are not refused.
* `shown_step`: The history knows which listeners there are.
* `create_eq`: The constructor tells its parts how the screen is, if it gets
  that far.
* `shown_create`: The constructor finds no listeners, and throws only where it
  is refused.
* `survives_iff`: The runs in which no exception is thrown.
-/

namespace Victara

namespace NxActions

open StepSystem

def IR_GESTURE_APPROACH : Int := 4

/-- `1 << IR_GESTURE_APPROACH`. -/
def IR_GESTURES_FOR_SCREEN_OFF : BitVec 32 := 16#32

def DELAY_BETWEEN_DOZES_IN_MS : Int := 1500

def TURN_SCREEN_ON_WAKE_LOCK_MS : Nat := 500

def PICK_UP_KEY : String := "pick_up"

def GESTURE_IR_KEY : String := "gesture_ir"

def GESTURE_CAMERA_KEY : String := "gesture_camera"

def GESTURE_FLASHLIGHT_KEY : String := "gesture_flashlight"

def ACTION_SCREEN_OFF : String := "android.intent.action.SCREEN_OFF"

def ACTION_SCREEN_ON : String := "android.intent.action.SCREEN_ON"

/-- An activity, by the package it is in and its name. -/
structure ActivityInfo where
  packageName : String
  name : String
  deriving DecidableEq, Repr

/-- What an event does to the phone. -/
inductive Effect
  | dozePulse (now : Int)
  | vibrate (ms : Nat)
  | turnScreenOn (ms : Nat)
  | startCamera
  | startSecureCamera (component : ActivityInfo)
  | toggleTorch
  | silenceRinger
  | broadcast (action : String)
  deriving DecidableEq, Repr

/-- What a broadcast of the screen finds: which registrations the sensor service
    takes if it does not have the listener, the native calls, and the time. -/
structure ScreenCalls where
  flatUpAccepts : Bool
  flatUpStowAccepts : Bool
  ir : SilencerCalls
  stowAccepts : Bool
  currentTimeMillis : Int
  deriving DecidableEq

/-! ## The parts -/

structure DozePulseAction where
  mLastDoze : Int
  deriving DecidableEq, Repr

namespace DozePulseAction

def screenTurnedOff (_ : DozePulseAction) (now : Int) : DozePulseAction := ⟨now⟩

def mayDoze (a : DozePulseAction) (now : Int) : DozePulseAction × Bool :=
  if DELAY_BETWEEN_DOZES_IN_MS < now - a.mLastDoze then (⟨now⟩, true) else (a, false)

def action (a : DozePulseAction) (now : Int) : DozePulseAction × List Effect :=
  let r := a.mayDoze now
  (r.1, if r.2 then [.dozePulse now] else [])

end DozePulseAction

/-- `SensorHelper.registerListener` returns. -/
def registers (registered accepts : Bool) : Bool := !registered && accepts

structure FlatUpSensor where
  flatUpRegistered : Bool
  stowRegistered : Bool
  mIsStowed : Bool
  mLastFlatUp : Bool
  mPickUpEnabled : Bool
  deriving DecidableEq, Repr

namespace FlatUpSensor

def screenTurnedOn (s : FlatUpSensor) : FlatUpSensor :=
  { s with flatUpRegistered := false, stowRegistered := false }

/-- With whether it returns. -/
def screenTurnedOff (s : FlatUpSensor) (e : ScreenCalls) : FlatUpSensor × Bool :=
  if s.mPickUpEnabled then
    if registers s.flatUpRegistered e.flatUpAccepts then
      let s := { s with flatUpRegistered := true }
      if registers s.stowRegistered e.flatUpStowAccepts then
        ({ s with stowRegistered := true }, true)
      else (s, false)
    else (s, false)
  else ({ s with flatUpRegistered := false, stowRegistered := false }, true)

/-- `mFlatUpListener`, with whether there is an action. -/
def onFlatUpChanged (s : FlatUpSensor) (thisFlatUp : Bool) : FlatUpSensor × Bool :=
  ({ s with mLastFlatUp := thisFlatUp },
    s.mLastFlatUp && !thisFlatUp && !s.mIsStowed && s.mPickUpEnabled)

/-- `mStowListener`. -/
def onStowChanged (s : FlatUpSensor) (stowed : Bool) : FlatUpSensor := { s with mIsStowed := stowed }

end FlatUpSensor

structure IrGestureSensor where
  listening : Listening
  mGestureIrEnabled : Bool
  deriving DecidableEq

namespace IrGestureSensor

def screenTurnedOn (s : IrGestureSensor) (g : Shared) (e : SilencerCalls) :
    Shared × IrGestureSensor :=
  let r := stopListening g s.listening e
  (r.1, { s with listening := r.2 })

def screenTurnedOff (s : IrGestureSensor) (g : Shared) (e : SilencerCalls) :
    Shared × IrGestureSensor × Bool :=
  if s.mGestureIrEnabled then
    let r := startListening g s.listening e IR_GESTURES_FOR_SCREEN_OFF
    (r.1, { s with listening := r.2.1 }, r.2.2)
  else
    let r := stopListening g s.listening e
    (r.1, { s with listening := r.2 }, true)

def onSensorChanged (s : IrGestureSensor) (gesture : Int) : Bool :=
  decide (gesture = IR_GESTURE_APPROACH) && s.mGestureIrEnabled

end IrGestureSensor

structure StowSensor where
  registered : Bool
  mLastStowed : Bool
  mPickUpEnabled : Bool
  deriving DecidableEq, Repr

namespace StowSensor

def screenTurnedOn (s : StowSensor) : StowSensor := { s with registered := false }

def screenTurnedOff (s : StowSensor) (e : ScreenCalls) : StowSensor × Bool :=
  if s.mPickUpEnabled then
    if registers s.registered e.stowAccepts then ({ s with registered := true }, true)
    else (s, false)
  else ({ s with registered := false }, true)

def onSensorChanged (s : StowSensor) (thisStowed : Bool) : StowSensor × Bool :=
  ({ s with mLastStowed := thisStowed }, s.mLastStowed && !thisStowed && s.mPickUpEnabled)

end StowSensor

/-! ## The camera and the flashlight -/

/-- What the package manager and the keyguard say. `normal` and `secure` are the
    activities for the two intents, and `resolved` the one that the normal intent
    resolves to. -/
structure CameraCalls where
  inKeyguardRestrictedInputMode : Bool
  resolved : Option ActivityInfo
  normal : List ActivityInfo
  secure : List ActivityInfo
  deriving DecidableEq

/-- `getBestActivityInfo`, with a match. The loop goes down, so that the first of
    the package is the one that stays. -/
def getBestActivityInfo (activities : List ActivityInfo) (found : Option ActivityInfo) :
    Option ActivityInfo :=
  match activities with
  | [] => none
  | first :: _ => match found with
    | none => some first
    | some other => some (activities.reverse.foldl
        (fun best activityInfo =>
          if other.packageName = activityInfo.packageName then activityInfo else best) first)

/-- `getBestActivityInfo` of an intent alone. -/
def resolveBest (resolved : Option ActivityInfo) (activities : List ActivityInfo) :
    Option ActivityInfo :=
  match resolved with
  | some activityInfo => some activityInfo
  | none => getBestActivityInfo activities none

/-- `CameraActivationSensor` with its action. -/
structure CameraActivationAction where
  registered : Bool
  mGestureCameraEnabled : Bool
  deriving DecidableEq, Repr

namespace CameraActivationAction

def launchCamera (c : CameraCalls) : List Effect :=
  if (resolveBest c.resolved c.normal).isSome then [.startCamera] else []

def launchSecureCamera (c : CameraCalls) : List Effect :=
  match getBestActivityInfo c.secure (resolveBest c.resolved c.normal) with
  | some secureActivity => [.startSecureCamera secureActivity]
  | none => []

def action (a : CameraActivationAction) (c : CameraCalls) : List Effect :=
  if a.mGestureCameraEnabled then
    [.vibrate 500, .turnScreenOn TURN_SCREEN_ON_WAKE_LOCK_MS] ++
      if c.inKeyguardRestrictedInputMode then launchSecureCamera c else launchCamera c
  else []

end CameraActivationAction

/-- `FlashlightActivationSensor` with its action. -/
structure FlashlightActivationAction where
  registered : Bool
  mGestureFlashlightEnabled : Bool
  deriving DecidableEq, Repr

def FlashlightActivationAction.action (a : FlashlightActivationAction) : List Effect :=
  if a.mGestureFlashlightEnabled then [.vibrate 250, .toggleTorch] else []

/-! ## The service -/

/-- `thrown` says that an exception has left the main thread. -/
structure CMActionsService where
  mDozePulseAction : DozePulseAction
  camera : CameraActivationAction
  flashlight : FlashlightActivationAction
  flatUp : FlatUpSensor
  irGesture : IrGestureSensor
  stow : StowSensor
  silencers : Silencers
  thrown : Bool

/-- The parts with a preference of their own, the silencers apart. -/
inductive ServicePart
  | camera
  | flashlight
  | flatUp
  | irGesture
  | stow
  deriving DecidableEq

/-- A broadcast of the screen, an event of one of the sensors, or a preference
    that has changed. Sensor values that are only compared with 0 are `Bool`. -/
inductive ServiceEvent
  | screen (action : String) (calls : ScreenCalls)
  | flatUpChanged (thisFlatUp : Bool) (now : Int)
  | flatUpStowChanged (stowed : Bool)
  | irGestureChanged (gesture now : Int)
  | stowChanged (thisStowed : Bool) (now : Int)
  | cameraActivated (calls : CameraCalls)
  | chopChop
  | preferenceChanged (part : ServicePart) (key : String) (value : Bool)
  | silencer (e : SilencerEvent)
  deriving DecidableEq

/-- `SharedPreferences.getBoolean`, where every part has the default `true`. -/
def getBoolean (stored : String → Option Bool) (key : String) : Bool := (stored key).getD true

/-- A listener of a silencer has been refused: the event throws. -/
def Silencers.refused (s : Silencers) : SilencerEvent → Bool
  | .callStateChanged state e =>
    decide (state = CALL_STATE_RINGING) && !s.mIsRinging && s.mGestureIrSilenceEnabled &&
      !(startListening s.shared s.ir e IR_GESTURES_FOR_RINGING).2.2
  | .alarm action e =>
    decide (action = ALARM_ALERT_ACTION) && s.mAlarmSilenceEnabled &&
      !(startListening s.shared s.alarm e IR_GESTURES_FOR_ALARM).2.2
  | _ => false

namespace CMActionsService

def setShared (s : CMActionsService) (g : Shared) : CMActionsService :=
  { s with silencers := { s.silencers with shared := g } }

def screenTurnedOn (s : CMActionsService) (e : ScreenCalls) : CMActionsService :=
  let s := { s with flatUp := s.flatUp.screenTurnedOn }
  let r := s.irGesture.screenTurnedOn s.silencers.shared e.ir
  let s := { s.setShared r.1 with irGesture := r.2 }
  { s with stow := s.stow.screenTurnedOn }

/-- The notifiers in their order, up to one that throws. -/
def screenTurnedOff (s : CMActionsService) (e : ScreenCalls) : CMActionsService :=
  let s := { s with
    mDozePulseAction := s.mDozePulseAction.screenTurnedOff e.currentTimeMillis }
  let f := s.flatUp.screenTurnedOff e
  let s := { s with flatUp := f.1 }
  if f.2 then
    let i := s.irGesture.screenTurnedOff s.silencers.shared e.ir
    let s := { s.setShared i.1 with irGesture := i.2.1 }
    if i.2.2 then
      let w := s.stow.screenTurnedOff e
      { s with stow := w.1, thrown := !w.2 }
    else { s with thrown := true }
  else { s with thrown := true }

/-- `ScreenReceiver.onReceive`. -/
def onReceive (s : CMActionsService) (action : String) (e : ScreenCalls) : CMActionsService :=
  if action = ACTION_SCREEN_OFF then s.screenTurnedOff e
  else if action = ACTION_SCREEN_ON then s.screenTurnedOn e
  else s

/-- A part has its action, `DozePulseAction`, if it is to have one. -/
def doze (s : CMActionsService) (acts : Bool) (now : Int) : CMActionsService :=
  if acts then { s with mDozePulseAction := (s.mDozePulseAction.action now).1 } else s

def onSharedPreferenceChanged (s : CMActionsService) (part : ServicePart) (key : String)
    (value : Bool) : CMActionsService :=
  match part with
  | .camera =>
    if GESTURE_CAMERA_KEY = key then { s with camera.mGestureCameraEnabled := value } else s
  | .flashlight =>
    if GESTURE_FLASHLIGHT_KEY = key then { s with flashlight.mGestureFlashlightEnabled := value }
    else s
  | .flatUp => if PICK_UP_KEY = key then { s with flatUp.mPickUpEnabled := value } else s
  | .irGesture => if GESTURE_IR_KEY = key then { s with irGesture.mGestureIrEnabled := value } else s
  | .stow => if PICK_UP_KEY = key then { s with stow.mPickUpEnabled := value } else s

/-- The parts are built. The three votes that are cast on the way are for
    nothing, see `first_vote`. -/
def build (stored : String → Option Bool) (config : IrConfig) (ioctls : IrIoctls)
    (cameraAccepts flashlightAccepts : Bool) : CMActionsService where
  mDozePulseAction := ⟨0⟩
  camera := ⟨cameraAccepts, getBoolean stored GESTURE_CAMERA_KEY⟩
  flashlight := ⟨cameraAccepts && flashlightAccepts, getBoolean stored GESTURE_FLASHLIGHT_KEY⟩
  flatUp := ⟨false, false, false, false, getBoolean stored PICK_UP_KEY⟩
  irGesture := ⟨⟨false, 0#32, false⟩, getBoolean stored GESTURE_IR_KEY⟩
  stow := ⟨false, false, getBoolean stored PICK_UP_KEY⟩
  silencers := .init ⟨⟨fun _ => 0, 0#32⟩, (setIrDisabled config ioctls true).1⟩
    (getBoolean stored GESTURE_IR_SILENCE_KEY)
  thrown := !(cameraAccepts && flashlightAccepts)

/-- The constructor: the parts are built, and told how the screen is. -/
def create (stored : String → Option Bool) (config : IrConfig) (ioctls : IrIoctls)
    (cameraAccepts flashlightAccepts isInteractive : Bool) (e : ScreenCalls) : CMActionsService :=
  let s := build stored config ioctls cameraAccepts flashlightAccepts
  if s.thrown then s
  else if isInteractive then s.screenTurnedOn e
  else s.screenTurnedOff e

/-- The event comes to a part that listens. -/
def heard (s : CMActionsService) : ServiceEvent → Bool
  | .flatUpChanged _ _ => s.flatUp.flatUpRegistered
  | .flatUpStowChanged _ => s.flatUp.stowRegistered
  | .irGestureChanged _ _ => s.irGesture.listening.registered
  | .stowChanged _ _ => s.stow.registered
  | .cameraActivated _ => s.camera.registered
  | .chopChop => s.flashlight.registered
  | _ => true

/-- A part wants a pulse. -/
def wantsPulse (s : CMActionsService) : ServiceEvent → Option Int
  | .flatUpChanged thisFlatUp now =>
    if (s.flatUp.onFlatUpChanged thisFlatUp).2 then some now else none
  | .irGestureChanged gesture now =>
    if s.irGesture.onSensorChanged gesture then some now else none
  | .stowChanged thisStowed now => if (s.stow.onSensorChanged thisStowed).2 then some now else none
  | _ => none

/-- What an event does to the service. -/
def handle (s : CMActionsService) : ServiceEvent → CMActionsService
  | .screen action e => s.onReceive action e
  | .flatUpChanged thisFlatUp now =>
    let r := s.flatUp.onFlatUpChanged thisFlatUp
    { s.doze r.2 now with flatUp := r.1 }
  | .flatUpStowChanged stowed => { s with flatUp := s.flatUp.onStowChanged stowed }
  | .irGestureChanged gesture now => s.doze (s.irGesture.onSensorChanged gesture) now
  | .stowChanged thisStowed now =>
    let r := s.stow.onSensorChanged thisStowed
    { s.doze r.2 now with stow := r.1 }
  | .cameraActivated _ => s
  | .chopChop => s
  | .preferenceChanged part key value => s.onSharedPreferenceChanged part key value
  | .silencer e => match s.silencers.step e with
    | some silencers => { s with silencers := silencers, thrown := s.silencers.refused e }
    | none => s

/-- Nothing comes to a process that is gone, nor to a part that does not listen. -/
def step (s : CMActionsService) (e : ServiceEvent) : Option CMActionsService :=
  if !s.thrown && s.heard e then some (s.handle e) else some s

/-- What an event does to the phone. -/
def out (s : CMActionsService) (e : ServiceEvent) : List Effect :=
  if !s.thrown && s.heard e then
    match e with
    | .flatUpChanged .. | .irGestureChanged .. | .stowChanged .. =>
      match s.wantsPulse e with
      | some now => (s.mDozePulseAction.action now).2
      | none => []
    | .cameraActivated c => s.camera.action c
    | .chopChop => s.flashlight.action
    | .silencer (.irSensorChanged gesture now) =>
      if s.silencers.silenceRinger gesture now then [.silenceRinger] else []
    | .silencer (.alarmSensorChanged gesture) =>
      match s.silencers.sendBroadcast gesture with
      | some action => [.broadcast action]
      | none => []
    | _ => []
  else []

end CMActionsService

/-! ## What the events say -/

/-- A part that listens while the screen is off, if its preference was on then. -/
structure PartHistory where
  enabled : Bool
  listening : Bool
  deriving DecidableEq, Repr

def PartHistory.screen (h : PartHistory) (off : Bool) : PartHistory :=
  { h with listening := off && h.enabled }

/-- A registration for the part comes to a free listener and is taken. -/
def PartHistory.Free (h : PartHistory) (accepts : Bool) : Prop :=
  h.enabled = true → h.listening = false ∧ accepts = true

/-- What the events say of the listeners. `ringing` is of `IrSilencer`. -/
structure ScreenHistory where
  flatUp : PartHistory
  irGesture : PartHistory
  stow : PartHistory
  ringing : PartHistory
  alarm : AlarmHistory
  deriving DecidableEq

namespace ScreenHistory

/-- The preferences, and no listeners. -/
def built (stored : String → Option Bool) : ScreenHistory where
  flatUp := ⟨getBoolean stored PICK_UP_KEY, false⟩
  irGesture := ⟨getBoolean stored GESTURE_IR_KEY, false⟩
  stow := ⟨getBoolean stored PICK_UP_KEY, false⟩
  ringing := ⟨getBoolean stored GESTURE_IR_SILENCE_KEY, false⟩
  alarm := ⟨getBoolean stored GESTURE_IR_SILENCE_KEY, false⟩

def screen (h : ScreenHistory) (off : Bool) : ScreenHistory :=
  { h with
    flatUp := h.flatUp.screen off
    irGesture := h.irGesture.screen off
    stow := h.stow.screen off }

/-- After the constructor. -/
def created (stored : String → Option Bool) (isInteractive : Bool) : ScreenHistory :=
  (built stored).screen !isInteractive

def next (h : ScreenHistory) : ServiceEvent → ScreenHistory
  | .screen action _ =>
    if action = ACTION_SCREEN_OFF then h.screen true
    else if action = ACTION_SCREEN_ON then h.screen false
    else h
  | .preferenceChanged .flatUp key value =>
    if PICK_UP_KEY = key then { h with flatUp.enabled := value } else h
  | .preferenceChanged .irGesture key value =>
    if GESTURE_IR_KEY = key then { h with irGesture.enabled := value } else h
  | .preferenceChanged .stow key value =>
    if PICK_UP_KEY = key then { h with stow.enabled := value } else h
  | .silencer e =>
    let h := { h with alarm := h.alarm.next e }
    match e with
    | .callStateChanged state _ =>
      { h with ringing.listening :=
          decide (state = CALL_STATE_RINGING) && (h.ringing.listening || h.ringing.enabled) }
    | .irPreferenceChanged key value =>
      if GESTURE_IR_SILENCE_KEY = key then { h with ringing.enabled := value } else h
    | _ => h
  | _ => h

/-- Every registration that the event asks for comes to a free listener, and the
    sensor service takes it. -/
def Free (h : ScreenHistory) : ServiceEvent → Prop
  | .screen action e => action = ACTION_SCREEN_OFF →
      h.flatUp.Free (e.flatUpAccepts && e.flatUpStowAccepts) ∧ h.irGesture.Free e.ir.accepts ∧
        h.stow.Free e.stowAccepts
  | .silencer (.callStateChanged state e) =>
      state = CALL_STATE_RINGING → h.ringing.listening = false → h.ringing.enabled = true →
        e.accepts = true
  | .silencer (.alarm action e) =>
      h.alarm.Alert (.alarm action e) → h.alarm.listening = false ∧ e.accepts = true
  | _ => True

end ScreenHistory

/-- All registrations of a run are like that, those of the constructor being the
    history that it starts with. -/
def Undisturbed : ScreenHistory → List ServiceEvent → Prop
  | _, [] => True
  | h, e :: es => h.Free e ∧ Undisturbed (h.next e) es

/-! ## The package manager -/

/-- Going down leaves the first activity of the package, or the one before the loop. -/
theorem foldl_reverse_package (package : String) (activities : List ActivityInfo)
    (best : ActivityInfo) :
    activities.reverse.foldl
        (fun best activityInfo => if package = activityInfo.packageName then activityInfo else best)
        best =
      (activities.find? fun a => decide (package = a.packageName)).getD best := by
  induction activities with
  | nil => rfl
  | cons a activities ih =>
      rw [List.reverse_cons, List.foldl_append, ih]
      by_cases h : package = a.packageName
      · simp [h]
      · simp [h]

/-- The activity is the first one of the wanted package, or else the first. -/
theorem getBestActivityInfo_spec (activities : List ActivityInfo) (found : Option ActivityInfo) :
    getBestActivityInfo activities found =
      (found.bind fun other => activities.find? fun a =>
        decide (other.packageName = a.packageName)).or activities.head? := by
  cases activities with
  | nil => cases found <;> rfl
  | cons first rest =>
      cases found with
      | none => rfl
      | some other =>
          simp only [getBestActivityInfo, foldl_reverse_package, Option.bind_some,
            List.head?_cons]
          cases (first :: rest).find? fun a => decide (other.packageName = a.packageName) <;> rfl

/-! ## One event -/

theorem startListening_returns (g : Shared) (l : Listening) (e : SilencerCalls)
    (flags : BitVec 32) : (startListening g l e flags).2.2 = registers l.registered e.accepts := by
  rw [startListening_listening, registers]
  cases l.registered <;> cases e.accepts <;> rfl

/-- A vote for nothing, where there are none, makes no native call. -/
theorem first_vote (config : IrConfig) (l : Listening) (e : SilencerCalls)
    (h : l.mLastFlags = 0#32) :
    voteForSensors ⟨⟨fun _ => 0, 0#32⟩, config⟩ l e 0#32 = (⟨⟨fun _ => 0, 0#32⟩, config⟩, l) := by
  have hpass : ∀ delta, voteDelta (fun _ => 0) 0#32 delta = (fun _ => 0, 0#32) := by
    intro delta
    have hspec := voteDelta_spec (fun _ => 0) 0#32 delta
    have hvotes : (voteDelta (fun _ => 0) 0#32 delta).1 = fun _ => 0 := by
      funext j
      rw [hspec.1 j]
      simp
    refine Prod.ext hvotes (Mask.eq_zero_iff_bits.mpr fun k hk => ?_)
    rcases (hspec.2 k).mp hk with ⟨i, _, hpos⟩
    rw [hvotes] at hpos
    exact absurd hpos (Int.lt_irrefl 0)
  unfold voteForSensors updateState
  rw [h]
  simp only [hpass, updateSensorConfig, ne_eq, not_true, if_false]
  rw [← h]

namespace CMActionsService

/-- Nothing happens in a process that is gone. -/
theorem step_thrown {s : CMActionsService} (h : s.thrown = true) (e : ServiceEvent) :
    s.step e = some s := by
  simp [step, h]

theorem step_total (s : CMActionsService) (e : ServiceEvent) : ∃ t, s.step e = some t := by
  unfold step
  split <;> exact ⟨_, rfl⟩

theorem exec_total (s : CMActionsService) (es : List ServiceEvent) :
    ∃ t, exec step s es = some t := by
  induction es generalizing s with
  | nil => exact ⟨s, rfl⟩
  | cons e es ih =>
      rcases step_total s e with ⟨t, ht⟩
      rcases ih t with ⟨u, hu⟩
      exact ⟨u, by rw [exec, ht, Option.bind_some, hu]⟩

theorem step_alive {s t : CMActionsService} {e : ServiceEvent} (h : s.step e = some t) :
    t = s ∨ (s.thrown = false ∧ s.heard e = true ∧ t = s.handle e) := by
  unfold step at h
  by_cases hrun : (!s.thrown && s.heard e) = true
  · rw [if_pos hrun] at h
    simp only [Bool.and_eq_true, Bool.not_eq_true'] at hrun
    exact Or.inr ⟨hrun.1, hrun.2, (Option.some.inj h).symm⟩
  · rw [if_neg hrun] at h
    exact Or.inl (Option.some.inj h).symm

end CMActionsService

/-! ## The listeners -/

/-- The history of a part is that of the sensor. -/
def FlatUpSensor.Shows (s : FlatUpSensor) (h : PartHistory) : Prop :=
  s.mPickUpEnabled = h.enabled ∧ s.flatUpRegistered = h.listening ∧ s.stowRegistered = h.listening

def IrGestureSensor.Shows (s : IrGestureSensor) (h : PartHistory) : Prop :=
  s.mGestureIrEnabled = h.enabled ∧ s.listening.registered = h.listening

def StowSensor.Shows (s : StowSensor) (h : PartHistory) : Prop :=
  s.mPickUpEnabled = h.enabled ∧ s.registered = h.listening

theorem FlatUpSensor.screenTurnedOff_spec {s : FlatUpSensor} {h : PartHistory} (hs : s.Shows h)
    (e : ScreenCalls) :
    ((s.screenTurnedOff e).2 = true ↔ h.Free (e.flatUpAccepts && e.flatUpStowAccepts)) ∧
      ((s.screenTurnedOff e).2 = true → (s.screenTurnedOff e).1.Shows (h.screen true)) := by
  rcases hs with ⟨henabled, hflat, hstow⟩
  unfold screenTurnedOff PartHistory.Free Shows PartHistory.screen registers
  rw [hflat, hstow]
  cases hen : h.enabled with
  | false => simp [henabled, hen]
  | true =>
      -- The second listener is asked for where the first has been taken.
      cases h.listening <;> cases e.flatUpAccepts <;> cases e.flatUpStowAccepts <;>
        simp [henabled, hen]

theorem StowSensor.screenTurnedOff_spec {s : StowSensor} {h : PartHistory} (hs : s.Shows h)
    (e : ScreenCalls) :
    ((s.screenTurnedOff e).2 = true ↔ h.Free e.stowAccepts) ∧
      ((s.screenTurnedOff e).2 = true → (s.screenTurnedOff e).1.Shows (h.screen true)) := by
  rcases hs with ⟨henabled, hreg⟩
  unfold screenTurnedOff PartHistory.Free Shows PartHistory.screen registers
  rw [hreg]
  cases hen : h.enabled with
  | false => simp [henabled, hen]
  | true => cases h.listening <;> cases e.stowAccepts <;> simp [henabled, hen]

theorem IrGestureSensor.screenTurnedOff_spec {s : IrGestureSensor} {h : PartHistory}
    (hs : s.Shows h) (g : Shared) (e : SilencerCalls) :
    ((s.screenTurnedOff g e).2.2 = true ↔ h.Free e.accepts) ∧
      ((s.screenTurnedOff g e).2.2 = true →
        (s.screenTurnedOff g e).2.1.Shows (h.screen true)) := by
  rcases hs with ⟨henabled, hreg⟩
  have hstart := startListening_listening g s.listening e IR_GESTURES_FOR_SCREEN_OFF
  unfold screenTurnedOff PartHistory.Free Shows PartHistory.screen
  cases hen : h.enabled with
  | false =>
      simp [henabled, hen, stopListening, voteForSensors, unregisterListener]
  | true =>
      simp only [henabled, hen, if_true, hstart]
      rw [hreg]
      cases h.listening <;> cases e.accepts <;> simp [hreg]

namespace CMActionsService

/-- The history is that of the service. It has for every part whether it
    listens, which is known from the events alone as long as no registration has
    been refused. -/
structure Shown (s : CMActionsService) (h : ScreenHistory) : Prop where
  flatUp : s.flatUp.Shows h.flatUp
  irGesture : s.irGesture.Shows h.irGesture
  stow : s.stow.Shows h.stow
  ringing : s.silencers.mGestureIrSilenceEnabled = h.ringing.enabled ∧
    s.silencers.mIsRinging = h.ringing.listening
  alarm : s.silencers.Follows h.alarm
  silencers : s.silencers.Inv

theorem shown_screenTurnedOn {s : CMActionsService} {h : ScreenHistory} (hs : s.Shown h)
    (e : ScreenCalls) : (s.screenTurnedOn e).Shown (h.screen false) where
  flatUp := ⟨hs.flatUp.1, rfl, rfl⟩
  irGesture := ⟨hs.irGesture.1, rfl⟩
  stow := ⟨hs.stow.1, rfl⟩
  ringing := hs.ringing
  alarm := ⟨hs.alarm.enabled, hs.alarm.listening⟩
  silencers := ⟨hs.silencers.irTwice, hs.silencers.irRegistered, hs.silencers.irBacked,
    hs.silencers.alarmBacked⟩

theorem shown_screenTurnedOff {s : CMActionsService} {h : ScreenHistory} (hs : s.Shown h)
    (e : ScreenCalls) :
    ((s.screenTurnedOff e).thrown = false ↔
        h.flatUp.Free (e.flatUpAccepts && e.flatUpStowAccepts) ∧
          h.irGesture.Free e.ir.accepts ∧ h.stow.Free e.stowAccepts) ∧
      ((s.screenTurnedOff e).thrown = false → (s.screenTurnedOff e).Shown (h.screen true)) := by
  have hflat := FlatUpSensor.screenTurnedOff_spec hs.flatUp e
  have hir := IrGestureSensor.screenTurnedOff_spec hs.irGesture s.silencers.shared e.ir
  have hstow := StowSensor.screenTurnedOff_spec hs.stow e
  rw [← hflat.1, ← hir.1, ← hstow.1]
  unfold screenTurnedOff
  by_cases h₁ : (s.flatUp.screenTurnedOff e).2 = true
  · by_cases h₂ : (s.irGesture.screenTurnedOff s.silencers.shared e.ir).2.2 = true
    · simp only [h₁, h₂, if_true, true_and, setShared]
      refine ⟨by simp, fun h₃ => ?_⟩
      have hlast : (s.stow.screenTurnedOff e).2 = true := by simpa using h₃
      exact ⟨hflat.2 h₁, hir.2 h₂, hstow.2 hlast, hs.ringing,
        ⟨hs.alarm.enabled, hs.alarm.listening⟩,
        ⟨hs.silencers.irTwice, hs.silencers.irRegistered, hs.silencers.irBacked,
          hs.silencers.alarmBacked⟩⟩
    · simp [h₁, h₂, setShared]
  · simp [h₁]

/-- A ring that is to be taken up and cannot be. -/
theorem refused_callStateChanged {s : Silencers} (hs : s.Inv) (state : Int) (e : SilencerCalls) :
    s.refused (.callStateChanged state e) = false ↔
      (state = CALL_STATE_RINGING → s.mIsRinging = false → s.mGestureIrSilenceEnabled = true →
        e.accepts = true) := by
  simp only [Silencers.refused, startListening_returns, hs.irRegistered, registers]
  by_cases hstate : state = CALL_STATE_RINGING
  · cases s.mIsRinging <;> cases s.mGestureIrSilenceEnabled <;> cases e.accepts <;> simp [hstate]
  · simp [hstate]

theorem refused_alarm {s : Silencers} {h : AlarmHistory} (hs : s.Follows h) (action : String)
    (e : SilencerCalls) :
    s.refused (.alarm action e) = false ↔
      (h.Alert (.alarm action e) → h.listening = false ∧ e.accepts = true) := by
  simp only [Silencers.refused, AlarmHistory.Alert, startListening_returns, hs.listening,
    hs.enabled, registers]
  by_cases haction : action = ALARM_ALERT_ACTION
  · cases h.enabled <;> cases h.listening <;> cases e.accepts <;> simp [haction]
  · simp [haction]

/-- `IrSilencer` after a change of the phone's state that it could take up. -/
theorem ringing_onCallStateChanged {s : Silencers} (hs : s.Inv) (state : Int) (e : SilencerCalls)
    (hok : s.refused (.callStateChanged state e) = false) :
    (s.onCallStateChanged state e).mGestureIrSilenceEnabled = s.mGestureIrSilenceEnabled ∧
      (s.onCallStateChanged state e).mIsRinging =
        (decide (state = CALL_STATE_RINGING) && (s.mIsRinging || s.mGestureIrSilenceEnabled)) := by
  rw [refused_callStateChanged hs] at hok
  have hstart := startListening_returns s.shared s.ir e IR_GESTURES_FOR_RINGING
  rw [hs.irRegistered] at hstart
  unfold Silencers.onCallStateChanged
  by_cases hstate : state = CALL_STATE_RINGING
  · cases hring : s.mIsRinging with
    | true => simp [hstate, hring]
    | false =>
        cases hen : s.mGestureIrSilenceEnabled with
        | false => simp [hstate, hring, hen]
        | true =>
            have haccepts := hok hstate hring hen
            rw [hring, haccepts] at hstart
            simp [hstate, hstart, registers]
  · cases hring : s.mIsRinging <;> simp [hstate, hring]

theorem onReceive_ringing (s : Silencers) (action : String) (e : SilencerCalls) :
    (s.onReceive action e).mGestureIrSilenceEnabled = s.mGestureIrSilenceEnabled ∧
      (s.onReceive action e).mIsRinging = s.mIsRinging := by
  rcases Silencers.onReceive_cases s action e with ⟨_, _, heq⟩ | ⟨_, heq⟩ <;>
    · rw [heq]
      exact ⟨rfl, rfl⟩

theorem refused_iff {s : Silencers} {h : ScreenHistory} (hinv : s.Inv) (halarm : s.Follows h.alarm)
    (hring : s.mGestureIrSilenceEnabled = h.ringing.enabled ∧ s.mIsRinging = h.ringing.listening)
    (e : SilencerEvent) : s.refused e = false ↔ h.Free (.silencer e) := by
  cases e with
  | callStateChanged state calls =>
      rw [refused_callStateChanged hinv, hring.1, hring.2]
      rfl
  | alarm action calls => exact refused_alarm halarm action calls
  | irSensorChanged | alarmSensorChanged | irPreferenceChanged | alarmPreferenceChanged =>
      exact iff_of_true rfl trivial

/-- The silencers keep to their part of the history, as long as they are not refused. -/
theorem silencers_step {s t : Silencers} {h : ScreenHistory} {e : SilencerEvent} (hinv : s.Inv)
    (halarm : s.Follows h.alarm)
    (hring : s.mGestureIrSilenceEnabled = h.ringing.enabled ∧ s.mIsRinging = h.ringing.listening)
    (hok : s.refused e = false) (hstep : s.step e = some t) :
    t.Inv ∧ t.Follows (h.next (.silencer e)).alarm ∧
      t.mGestureIrSilenceEnabled = (h.next (.silencer e)).ringing.enabled ∧
        t.mIsRinging = (h.next (.silencer e)).ringing.listening := by
  refine ⟨Silencers.inv_step_silencers hinv hstep, ?_⟩
  -- The alarm half is proved with the silencers, and only the ringing half is new.
  have hnext := (Silencers.follows_step halarm hstep).1
  cases e with
  | callStateChanged state calls =>
      cases hstep
      have hspec := ringing_onCallStateChanged hinv state calls hok
      rw [hring.1, hring.2] at hspec
      exact ⟨hnext, hspec⟩
  | alarm action calls =>
      cases hstep
      have hspec := onReceive_ringing s action calls
      rw [hring.1, hring.2] at hspec
      exact ⟨hnext, hspec⟩
  | irSensorChanged | alarmSensorChanged =>
      cases hstep
      exact ⟨hnext, hring⟩
  | irPreferenceChanged key value =>
      cases hstep
      unfold ScreenHistory.next
      -- A key of another preference changes neither history.
      by_cases hkey : GESTURE_IR_SILENCE_KEY = key
      · simp only [if_pos hkey] at hnext ⊢
        exact ⟨hnext, trivial, hring.2⟩
      · simp only [if_neg hkey] at hnext ⊢
        exact ⟨hnext, hring⟩
  | alarmPreferenceChanged key value =>
      cases hstep
      refine ⟨hnext, ?_⟩
      by_cases hkey : ALARM_SILENCE_KEY = key
      · simp only [if_pos hkey]
        exact hring
      · simp only [if_neg hkey]
        exact hring

theorem shown_preferenceChanged {s : CMActionsService} {h : ScreenHistory} (hs : s.Shown h)
    (part : ServicePart) (key : String) (value : Bool) :
    (s.onSharedPreferenceChanged part key value).Shown
      (h.next (.preferenceChanged part key value)) := by
  cases part with
  | camera | flashlight =>
      simp only [onSharedPreferenceChanged, ScreenHistory.next]
      split
      · exact ⟨hs.flatUp, hs.irGesture, hs.stow, hs.ringing, hs.alarm, hs.silencers⟩
      · exact hs
  | flatUp =>
      simp only [onSharedPreferenceChanged, ScreenHistory.next]
      split
      · exact ⟨⟨rfl, hs.flatUp.2⟩, hs.irGesture, hs.stow, hs.ringing, hs.alarm, hs.silencers⟩
      · exact hs
  | irGesture =>
      simp only [onSharedPreferenceChanged, ScreenHistory.next]
      split
      · exact ⟨hs.flatUp, ⟨rfl, hs.irGesture.2⟩, hs.stow, hs.ringing, hs.alarm, hs.silencers⟩
      · exact hs
  | stow =>
      simp only [onSharedPreferenceChanged, ScreenHistory.next]
      split
      · exact ⟨hs.flatUp, hs.irGesture, ⟨rfl, hs.stow.2⟩, hs.ringing, hs.alarm, hs.silencers⟩
      · exact hs

theorem doze_eq (s : CMActionsService) (acts : Bool) (now : Int) :
    ∃ a, s.doze acts now = { s with mDozePulseAction := a } := by
  unfold doze
  split <;> exact ⟨_, rfl⟩

theorem onSharedPreferenceChanged_thrown (s : CMActionsService) (part : ServicePart) (key : String)
    (value : Bool) : (s.onSharedPreferenceChanged part key value).thrown = s.thrown := by
  cases part <;> simp only [onSharedPreferenceChanged] <;> split <;> rfl

theorem next_silencer (h : ScreenHistory) (e : SilencerEvent) :
    (h.next (.silencer e)).flatUp = h.flatUp ∧ (h.next (.silencer e)).irGesture = h.irGesture ∧
      (h.next (.silencer e)).stow = h.stow := by
  cases e with
  | irPreferenceChanged key value =>
      simp only [ScreenHistory.next]
      split <;> exact ⟨rfl, rfl, rfl⟩
  | callStateChanged | alarm | irSensorChanged | alarmSensorChanged | alarmPreferenceChanged =>
      exact ⟨rfl, rfl, rfl⟩

/-- An event throws if a registration it asks for is not free, and the history
    goes on with it otherwise. -/
theorem shown_step {s : CMActionsService} {h : ScreenHistory} (hs : s.Shown h)
    (halive : s.thrown = false) (e : ServiceEvent) :
    ∃ t, s.step e = some t ∧ (t.thrown = false ↔ h.Free e) ∧
      (t.thrown = false → t.Shown (h.next e)) := by
  by_cases hheard : s.heard e = true
  · refine ⟨s.handle e, by simp [step, halive, hheard], ?_⟩
    cases e with
    | screen action calls =>
        have hoff := shown_screenTurnedOff hs calls
        simp only [handle, onReceive, ScreenHistory.Free, ScreenHistory.next]
        by_cases haction : action = ACTION_SCREEN_OFF
        · simp only [if_pos haction]
          exact ⟨by simpa [haction] using hoff.1, hoff.2⟩
        · simp only [if_neg haction]
          refine ⟨?_, ?_⟩
          · split <;> exact iff_of_true halive fun h => absurd h haction
          · intro _
            split
            · exact shown_screenTurnedOn hs calls
            · exact hs
    | flatUpChanged thisFlatUp now =>
        -- A sensor may ask for a pulse, and the doze action shows nothing.
        rcases doze_eq s (s.flatUp.onFlatUpChanged thisFlatUp).2 now with ⟨a, ha⟩
        simp only [handle, ha]
        exact ⟨iff_of_true halive trivial,
          fun _ => ⟨hs.flatUp, hs.irGesture, hs.stow, hs.ringing, hs.alarm, hs.silencers⟩⟩
    | flatUpStowChanged stowed =>
        exact ⟨iff_of_true halive trivial,
          fun _ => ⟨hs.flatUp, hs.irGesture, hs.stow, hs.ringing, hs.alarm, hs.silencers⟩⟩
    | irGestureChanged gesture now =>
        rcases doze_eq s (s.irGesture.onSensorChanged gesture) now with ⟨a, ha⟩
        simp only [handle, ha]
        exact ⟨iff_of_true halive trivial,
          fun _ => ⟨hs.flatUp, hs.irGesture, hs.stow, hs.ringing, hs.alarm, hs.silencers⟩⟩
    | stowChanged thisStowed now =>
        rcases doze_eq s (s.stow.onSensorChanged thisStowed).2 now with ⟨a, ha⟩
        simp only [handle, ha]
        exact ⟨iff_of_true halive trivial,
          fun _ => ⟨hs.flatUp, hs.irGesture, hs.stow, hs.ringing, hs.alarm, hs.silencers⟩⟩
    | cameraActivated | chopChop => exact ⟨iff_of_true halive trivial, fun _ => hs⟩
    | preferenceChanged part key value =>
        exact ⟨iff_of_true ((onSharedPreferenceChanged_thrown s part key value).trans halive)
          trivial, fun _ => shown_preferenceChanged hs part key value⟩
    | silencer e =>
        rcases Silencers.step_total s.silencers e with ⟨t, ht⟩
        simp only [handle, ht]
        refine ⟨refused_iff hs.silencers hs.alarm hs.ringing e, fun hok => ?_⟩
        rcases silencers_step hs.silencers hs.alarm hs.ringing hok ht with ⟨hinv, hal, hri⟩
        rcases next_silencer h e with ⟨hflat, hir, hstow⟩
        refine ⟨?_, ?_, ?_, hri, hal, hinv⟩
        · rw [hflat]
          exact hs.flatUp
        · rw [hir]
          exact hs.irGesture
        · rw [hstow]
          exact hs.stow
  · -- An event that is not heard is one of a sensor.
    refine ⟨s, by simp [step, hheard], ?_⟩
    cases e with
    | flatUpChanged | flatUpStowChanged | irGestureChanged | stowChanged | cameraActivated
    | chopChop => exact ⟨iff_of_true halive trivial, fun _ => hs⟩
    | screen | preferenceChanged | silencer => exact absurd rfl hheard

theorem survives_iff_undisturbed {s : CMActionsService} {h : ScreenHistory} (hs : s.Shown h)
    (halive : s.thrown = false) (es : List ServiceEvent) :
    Throughout step (fun s => s.thrown = false) s es ↔ Undisturbed h es := by
  induction es generalizing s h with
  | nil => exact iff_of_true halive trivial
  | cons e es ih =>
      rcases shown_step hs halive e with ⟨t, ht, hfree, hnext⟩
      simp only [Throughout, Undisturbed, ht, Option.mem_some, forall_eq', halive, true_and]
      by_cases hok : t.thrown = false
      · rw [ih (hnext hok) hok, and_iff_right (hfree.mp hok)]
      · refine iff_of_false (fun hrun => hok ?_) fun h => hok (hfree.mpr h.1)
        exact throughout_head (P := fun s : CMActionsService => s.thrown = false) hrun

/-- What the constructor asks for is taken by the sensor service. -/
def CreateAccepted (stored : String → Option Bool)
    (cameraAccepts flashlightAccepts isInteractive : Bool) (e : ScreenCalls) : Prop :=
  cameraAccepts = true ∧ flashlightAccepts = true ∧ (isInteractive = false →
    (getBoolean stored PICK_UP_KEY = true →
        e.flatUpAccepts = true ∧ e.flatUpStowAccepts = true ∧ e.stowAccepts = true) ∧
      (getBoolean stored GESTURE_IR_KEY = true → e.ir.accepts = true))

/-- The constructor tells its parts how the screen is, if it gets that far. -/
theorem create_eq (stored : String → Option Bool) (config : IrConfig) (ioctls : IrIoctls)
    (cameraAccepts flashlightAccepts isInteractive : Bool) (e : ScreenCalls) :
    let s := build stored config ioctls cameraAccepts flashlightAccepts
    (cameraAccepts = true ∧ flashlightAccepts = true ∧ s.thrown = false ∧
        create stored config ioctls cameraAccepts flashlightAccepts isInteractive e =
          if isInteractive then s.screenTurnedOn e else s.screenTurnedOff e) ∨
      (¬ (cameraAccepts = true ∧ flashlightAccepts = true) ∧ s.thrown = true ∧
        create stored config ioctls cameraAccepts flashlightAccepts isInteractive e = s) := by
  cases cameraAccepts <;> cases flashlightAccepts
  · exact Or.inr ⟨by decide, rfl, rfl⟩
  · exact Or.inr ⟨by decide, rfl, rfl⟩
  · exact Or.inr ⟨by decide, rfl, rfl⟩
  · exact Or.inl ⟨rfl, rfl, rfl, rfl⟩

/-- The constructor finds no listeners, and throws only where it is refused. -/
theorem shown_create (stored : String → Option Bool) (config : IrConfig) (ioctls : IrIoctls)
    (cameraAccepts flashlightAccepts isInteractive : Bool) (e : ScreenCalls) :
    let s := create stored config ioctls cameraAccepts flashlightAccepts isInteractive e
    (s.thrown = false ↔ CreateAccepted stored cameraAccepts flashlightAccepts isInteractive e) ∧
      (s.thrown = false → s.Shown (.created stored isInteractive)) := by
  -- Before the first screen event nothing listens and nothing is enabled but what is stored.
  have hbuilt : (build stored config ioctls cameraAccepts flashlightAccepts).Shown
      (.built stored) :=
    ⟨⟨rfl, rfl, rfl⟩, ⟨rfl, rfl⟩, ⟨rfl, rfl⟩, ⟨rfl, rfl⟩, ⟨rfl, rfl⟩, Silencers.inv_init _ _⟩
  intro s
  rcases create_eq stored config ioctls cameraAccepts flashlightAccepts isInteractive e with
    ⟨hcamera, hflashlight, halive, heq⟩ | ⟨hrefused, hthrown, heq⟩
  · cases isInteractive with
    | true =>
        have hs : s = screenTurnedOn _ e := heq
        rw [hs]
        refine ⟨iff_of_true halive ⟨hcamera, hflashlight, fun h => ?_⟩, fun _ => ?_⟩
        · cases h
        · exact shown_screenTurnedOn hbuilt e
    | false =>
        have hs : s = screenTurnedOff _ e := heq
        have hoff := shown_screenTurnedOff hbuilt e
        rw [hs]
        refine ⟨hoff.1.trans ?_, hoff.2⟩
        simp only [CreateAccepted, PartHistory.Free, ScreenHistory.built, hcamera, hflashlight,
          true_and, forall_const, Bool.and_eq_true]
        tauto
  -- A sensor was refused, and the constructor never looks at the screen.
  · have hs : s = build stored config ioctls cameraAccepts flashlightAccepts := heq
    rw [hs, hthrown]
    refine ⟨iff_of_false (by decide) fun h => hrefused ⟨h.1, h.2.1⟩, fun h => ?_⟩
    cases h

end CMActionsService

end NxActions

end Victara
