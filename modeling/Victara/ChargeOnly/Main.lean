import Victara.ChargeOnly.Alarm
import Victara.ChargeOnly.Screen

/-!
# The Main Loop of the Charge-Only Mode

`main.c`: a phone that charges while it is off. A key lights the display for
5 s and dims it for 10 s, and meanwhile an animation is drawn every half
second. Three alarms drive that: `screen_brightness_animation_alarm1` dims the
display, `screen_brightness_animation_alarm2` blanks it, and `animation_alarm`
draws and sets itself again. A fourth, `power_key_alarm`, starts the phone
when the power key is held down.

A step is a turn of the main loop, or one of the loop of `alarm_process`. The
main loop goes on when no `alarm_process` is under way. A step is told what
its calls read: the clock and whether there is memory at each alarm it sets,
the state of the charger, and what a reboot that returns has returned.

What has no part in this is left out: the brightness, the LED, the files, and
`launched`, which only says whether a memory test is run before a reboot.

There is a lemma for the function of each alarm and of each key, that says what
has to be true of its allocations for the cycle to be there afterwards, and that
it is not otherwise. So a step is allowed by a condition on its own arguments.
The alarm of the power key has no part in the cycle, and a step by which the
main loop is left may leave it open.

## Main definitions

* `Handler`: The functions of the alarms.
* `DeviceState`: `struct device_state`, of which `is_charging` is only for the
  LED.
* `SetEnv`: What `alarm_set_relative` gets: memory or none, and the time.
* `PowerEnv`: What `power_event` gets: the state, the picture that is drawn for
  a percentage and an error, and whether it can be shown.
* `Event`: What `ev_get` returns.
* `Com`: The alarms, the screen and the variables of `main.c`.
* `ComLabel`, `Com.step`: What can happen next.
* `screenBrightnessAnimationAlarm2`: A `reboot` on the way that returns has
  failed.
* `powerKeyAlarm`: `ret` is what `__reboot` returns.
* `percentage`: The percentage that is drawn: none before the voltage was once
  enough.
* `drawPower`: `power_event` up to the charger.
* `Unplugged`: The charger has been unplugged, which has not been seen before.
* `Com.powerEvent` and the other functions of the source.
* `start`: `main` up to its loop, after `screen_init`.
* `callback`: The function of an alarm.
* `onEvent`: The cases of the main loop.
* `InMainLoop`: Control is in the main loop.
* `pending`: The alarms of `f` that are waiting.
* `Com.Cycle`: It is lit with an alarm of each kind waiting, or dark with none.
* `Phase`, `Com.Shows`: The cycle that the display goes through.
* `FireSafe`: The alarm that is fired first can set its successor, and a reboot
  does not fail while the display is lit.
* `EventSafe`: A key that lights the display can set both alarms.
* `Com.Allowed`: No alarm fails to be set, and no reboot while it is lit.
* `Inv`: Before the main loop is left, the display is in its cycle.
* `chargedEnv`: A charger is plugged in, and the voltage is enough to start the
  phone.
* `atTime`: A run in which nothing is read but the time, in seconds.
* `rebootFails`: The power key is held down for a second, and `__reboot` returns
  -1.
* `someScreen`: The screen after `screen_init`.

## Theorems

* `cycle_start_iff`, `shows_alarm2`, `shows_powerEvent`: Into the cycle and out
  of it.
* `cycle_iff_of_screen`: The alarm of the power key has no part in the cycle.
* `fire_spec`: The first alarm is taken off, and its function does the rest.
* `cycle_animationAlarm_iff`: The animation goes on if it can be set again, or
  it ends with the display.
* `cycle_alarm1_iff`: A bright display is dimmed if the alarm that will blank it
  can be set.
* `cycle_powerKeyAlarm_iff`: After a reboot that fails nothing is waiting any
  more.
* `cycle_callback_iff`: What the function of an alarm leaves.
* `cycle_wakeup_key_iff`: The power key blanks a bright display, and lights it
  otherwise.
* `quit_callback`: Only a reboot that succeeds makes the main loop end.
* `cycle_step_iff`: What a step leaves, before the main loop is left.
* `quit_of_not_safe`: A step that is not safe does not end the main loop either.
* `quit_step`: Once the main loop is to be left, it is.
* `cycle_step`: A step that is allowed keeps to it.
* `cycle_breaks`: One that is not does not.
* `cycle_iff`: The runs that keep to the cycle.
-/

namespace Victara

namespace ChargeOnly

open StepSystem

/-- The functions that alarms are set for. -/
inductive Handler
  | animationAlarm
  | screenBrightnessAnimationAlarm2
  | screenBrightnessAnimationAlarm1
  | powerKeyAlarm
  deriving DecidableEq, Repr

/-- In milliseconds. -/
def ANIMATION_TIMEOUT : Int := 500

def POWERUP_VOLTAGE : Int := 3600000

/-- `struct device_state`, of which `is_charging` is only for the LED. -/
structure DeviceState where
  is_plugged_into_ac : Bool
  is_plugged_into_usb : Bool
  is_battery_present : Bool
  is_discharging : Bool
  is_unknown : Bool
  charge_level : Int
  voltage_level : Int
  deriving DecidableEq, Repr

/-- What `alarm_set_relative` gets: memory or none, and the time. -/
structure SetEnv where
  malloc : Bool
  reading : Timeval
  deriving DecidableEq, Repr

/-- What `power_event` gets: the state, the picture that is drawn for a
    percentage and an error, and whether it can be shown. -/
structure PowerEnv where
  state : DeviceState
  draw : Int → Bool → Nat → UInt8
  put : Bool

/-- What `ev_get` returns. The others are -1 and the keys that are let go of. -/
inductive Event
  | quit
  | battery
  | powerKeyDown
  | powerKeyUp
  | volumeDownKeyDown
  | volumeUpKeyDown
  | cameraKeyDown
  | other
  deriving DecidableEq, Repr

structure Com where
  queue : Alarms Handler Unit
  screen : Screen
  quit : Bool
  shutdown : Bool
  powerup : Bool
  powerup_latch : Bool

/-- What can happen next. The main loop finds an alarm that is due, at the first
    reading of the clock, and processes the alarms, at the second; or it waits
    for an event. -/
inductive ComLabel
  | process (now reading : Timeval)
  | fire (set : SetEnv) (power : PowerEnv) (ret : Int)
  | leave
  | event (now : Timeval) (r : Event) (set₁ set₂ : SetEnv) (power : PowerEnv)

namespace Com

def alarmSetRelative (s : Com) (f : Handler) (ms : Int) (e : SetEnv) : Com :=
  { s with queue := (s.queue.alarmSetRelative f () ms e.malloc e.reading).1 }

def alarmCancel (s : Com) (f : Handler) : Com :=
  { s with queue := (s.queue.alarmCancel f).1 }

def displayBlank (s : Com) : Com := { s with screen := s.screen.displayBlank }

def displayUnblank (s : Com) : Com := { s with screen := s.screen.displayUnblank }

/-- A `reboot` on the way that returns has failed. -/
def screenBrightnessAnimationAlarm2 (s : Com) : Com :=
  (s.alarmCancel .animationAlarm).displayBlank

def screenBrightnessAnimationAlarm1 (s : Com) (e : SetEnv) : Com :=
  s.alarmSetRelative .screenBrightnessAnimationAlarm2 10000 e

def screenBrightnessAnimationStart (s : Com) (animation_timeout : Int) (e₁ e₂ : SetEnv) : Com :=
  (s.displayUnblank.alarmSetRelative .screenBrightnessAnimationAlarm1 5000 e₁).alarmSetRelative
    .animationAlarm animation_timeout e₂

def cancelAll (s : Com) : Com :=
  ((s.alarmCancel .screenBrightnessAnimationAlarm2).alarmCancel
    .screenBrightnessAnimationAlarm1).alarmCancel .animationAlarm

/-- `ret` is what `__reboot` returns. -/
def powerKeyAlarm (s : Com) (ret : Int) : Com :=
  if ret < 0 then s.cancelAll else { s.cancelAll with quit := true }

/-- The percentage that is drawn: none before the voltage was once enough. -/
def percentage (s : Com) (state : DeviceState) : Int :=
  if state.voltage_level < POWERUP_VOLTAGE ∧ s.powerup_latch = false then 0
  else if 100 < state.charge_level then 100
  else if state.charge_level < 0 then 0
  else state.charge_level

def drawError (state : DeviceState) : Bool :=
  (state.is_discharging && (state.is_plugged_into_ac || state.is_plugged_into_usb)) ||
    !state.is_battery_present || state.is_unknown

/-- `power_event` up to the charger. -/
def drawPower (s : Com) (e : PowerEnv) : Com :=
  { s with
    powerup := decide (POWERUP_VOLTAGE ≤ e.state.voltage_level)
    powerup_latch := s.powerup_latch || decide (POWERUP_VOLTAGE ≤ e.state.voltage_level)
    screen := s.screen.screenUpdate (e.draw (s.percentage e.state) (drawError e.state)) e.put }

/-- The charger has been unplugged, which has not been seen before. -/
def Unplugged (s : Com) (state : DeviceState) : Prop :=
  s.shutdown = false ∧ state.is_plugged_into_ac = false ∧ state.is_plugged_into_usb = false

instance (s : Com) (state : DeviceState) : Decidable (s.Unplugged state) :=
  inferInstanceAs (Decidable (_ ∧ _ ∧ _))

def powerEvent (s : Com) (e : PowerEnv) : Com :=
  let t := s.drawPower e
  if s.Unplugged e.state then
    (({ t with shutdown := true }.alarmCancel .screenBrightnessAnimationAlarm2).alarmCancel
      .screenBrightnessAnimationAlarm1).screenBrightnessAnimationAlarm2
  else t

def animationAlarm (s : Com) (e : SetEnv) (power : PowerEnv) : Com :=
  (s.alarmSetRelative .animationAlarm ANIMATION_TIMEOUT e).powerEvent power

def updateScreenOnWakeupKey (s : Com) (e₁ e₂ : SetEnv) : Com :=
  let s := (s.alarmCancel .screenBrightnessAnimationAlarm2).alarmCancel .animationAlarm
  if (s.queue.alarmCancel .screenBrightnessAnimationAlarm1).2 ≠ 0 then
    (s.alarmCancel .screenBrightnessAnimationAlarm1).screenBrightnessAnimationAlarm2
  else
    (s.alarmCancel .screenBrightnessAnimationAlarm1).screenBrightnessAnimationStart
      ANIMATION_TIMEOUT e₁ e₂

def updateScreenOnWakeupKey2 (s : Com) (e₁ e₂ : SetEnv) : Com :=
  s.cancelAll.screenBrightnessAnimationStart ANIMATION_TIMEOUT e₁ e₂

/-! ## The loops -/

/-- `main` up to its loop, after `screen_init`. -/
def start (screen : Screen) (clock : Timeval) (e₁ e₂ : SetEnv) : Com :=
  let s : Com :=
    { queue := Alarms.init clock
      screen := screen
      quit := false
      shutdown := false
      powerup := false
      powerup_latch := false }
  s.displayBlank.displayUnblank.screenBrightnessAnimationStart 1500 e₁ e₂

/-- The function of an alarm. -/
def callback (s : Com) (f : Handler) (set : SetEnv) (power : PowerEnv) (ret : Int) : Com :=
  match f with
  | .animationAlarm => s.animationAlarm set power
  | .screenBrightnessAnimationAlarm2 => s.screenBrightnessAnimationAlarm2
  | .screenBrightnessAnimationAlarm1 => s.screenBrightnessAnimationAlarm1 set
  | .powerKeyAlarm => s.powerKeyAlarm ret

/-- The cases of the main loop. -/
def onEvent (s : Com) (r : Event) (set₁ set₂ : SetEnv) (power : PowerEnv) : Com :=
  match r with
  | .powerKeyDown => if s.powerup then s.alarmSetRelative .powerKeyAlarm 1000 set₁ else s
  | .powerKeyUp => (s.alarmCancel .powerKeyAlarm).updateScreenOnWakeupKey set₁ set₂
  | .volumeDownKeyDown | .volumeUpKeyDown | .cameraKeyDown =>
    s.updateScreenOnWakeupKey2 set₁ set₂
  | .battery => s.powerEvent power
  | .quit => { s with quit := true }
  | .other => s

/-- Control is in the main loop. -/
def InMainLoop (s : Com) : Prop := s.queue.frames = [] ∧ s.quit = false

instance (s : Com) : Decidable s.InMainLoop := inferInstanceAs (Decidable (_ ∧ _))

def step (s : Com) : ComLabel → Option Com
  | .process now reading =>
    if s.InMainLoop ∧ s.queue.alarmGetTimeUntilNext now < 1 then
      some { s with queue := s.queue.process reading }
    else none
  | .fire set power ret =>
    match s.queue.alarms, s.queue.fire with
    | a :: _, some queue =>
      let t := { s with queue }.callback a.f set power ret
      t.queue.done.map fun queue => { t with queue }
    | _, _ => none
  | .leave => s.queue.leave.map fun queue => { s with queue }
  | .event now r set₁ set₂ power =>
    if s.InMainLoop ∧ ¬ s.queue.alarmGetTimeUntilNext now < 1 then
      some (s.onEvent r set₁ set₂ power)
    else none

/-! ## The cycle -/

/-- The alarms of `f` that are waiting. -/
def pending (s : Com) (f : Handler) : Nat := s.queue.pending f

/-- An alarm of each kind waits while the display is lit, and none while it is
    blanked. The two alarms of the brightness are one kind, since the first sets
    the second. -/
def Cycle (s : Com) : Prop :=
  (s.screen.blank = false → s.pending .animationAlarm = 1 ∧
    s.pending .screenBrightnessAnimationAlarm1 +
      s.pending .screenBrightnessAnimationAlarm2 = 1) ∧
  (s.screen.blank = true → s.pending .animationAlarm = 0 ∧
    s.pending .screenBrightnessAnimationAlarm1 = 0 ∧
    s.pending .screenBrightnessAnimationAlarm2 = 0)

instance (s : Com) : Decidable s.Cycle := inferInstanceAs (Decidable (_ ∧ _))

end Com

/-- What the display is like. -/
inductive Phase
  | dark | bright | dim
  deriving DecidableEq, Repr

namespace Com

/-- The display is in this phase, and the alarms that end it are waiting. -/
def Shows (s : Com) : Phase → Prop
  | .dark => s.screen.blank = true ∧ s.pending .animationAlarm = 0 ∧
      s.pending .screenBrightnessAnimationAlarm1 = 0 ∧
      s.pending .screenBrightnessAnimationAlarm2 = 0
  | .bright => s.screen.blank = false ∧ s.pending .animationAlarm = 1 ∧
      s.pending .screenBrightnessAnimationAlarm1 = 1 ∧
      s.pending .screenBrightnessAnimationAlarm2 = 0
  | .dim => s.screen.blank = false ∧ s.pending .animationAlarm = 1 ∧
      s.pending .screenBrightnessAnimationAlarm1 = 0 ∧
      s.pending .screenBrightnessAnimationAlarm2 = 1

theorem cycle_iff_shows (s : Com) : s.Cycle ↔ ∃ p, s.Shows p := by
  constructor
  · rintro ⟨hlit, hdark⟩
    cases hblank : s.screen.blank with
    | true => exact ⟨.dark, hblank, hdark hblank⟩
    | false =>
        rcases hlit hblank with ⟨hanim, hone⟩
        rcases Nat.add_eq_one_iff.mp hone with ⟨h1, h2⟩ | ⟨h1, h2⟩
        · exact ⟨.dim, hblank, hanim, h1, h2⟩
        · exact ⟨.bright, hblank, hanim, h1, h2⟩
  · rintro ⟨p, hp⟩
    cases p with
    | dark => exact ⟨fun h => absurd (hp.1.symm.trans h) (by decide), fun _ => hp.2⟩
    | bright =>
        refine ⟨fun _ => ⟨hp.2.1, ?_⟩, fun h => absurd (hp.1.symm.trans h) (by decide)⟩
        rw [hp.2.2.1, hp.2.2.2]
    | dim =>
        refine ⟨fun _ => ⟨hp.2.1, ?_⟩, fun h => absurd (hp.1.symm.trans h) (by decide)⟩
        rw [hp.2.2.1, hp.2.2.2]

/-! ## What the functions do to the alarms -/

@[simp] theorem pending_set (s : Com) (f : Handler) (ms : Int) (e : SetEnv) (g : Handler) :
    (s.alarmSetRelative f ms e).pending g =
      s.pending g + if e.malloc = true ∧ f = g then 1 else 0 :=
  Alarms.pending_set s.queue f () ms e.malloc e.reading g

@[simp] theorem pending_cancel (s : Com) (f g : Handler) :
    (s.alarmCancel f).pending g = if f = g then 0 else s.pending g :=
  Alarms.pending_cancel s.queue f g

@[simp] theorem pending_blank (s : Com) (g : Handler) :
    s.displayBlank.pending g = s.pending g := rfl

@[simp] theorem pending_unblank (s : Com) (g : Handler) :
    s.displayUnblank.pending g = s.pending g := rfl

@[simp] theorem screen_set (s : Com) (f : Handler) (ms : Int) (e : SetEnv) :
    (s.alarmSetRelative f ms e).screen = s.screen := rfl

@[simp] theorem screen_cancel (s : Com) (f : Handler) : (s.alarmCancel f).screen = s.screen := rfl

@[simp] theorem screen_blank (s : Com) : s.displayBlank.screen.blank = true := rfl

@[simp] theorem screen_unblank (s : Com) : s.displayUnblank.screen.blank = false := rfl

@[simp] theorem pending_cancelAll (s : Com) (g : Handler) :
    s.cancelAll.pending g = if g = .powerKeyAlarm then s.pending g else 0 := by
  cases g <;> simp [cancelAll]

@[simp] theorem pending_alarm2 (s : Com) (g : Handler) :
    s.screenBrightnessAnimationAlarm2.pending g =
      if .animationAlarm = g then 0 else s.pending g := by
  simp [screenBrightnessAnimationAlarm2]

@[simp] theorem pending_drawPower (s : Com) (e : PowerEnv) (g : Handler) :
    (s.drawPower e).pending g = s.pending g := rfl

theorem blank_drawPower (s : Com) (e : PowerEnv) :
    (s.drawPower e).screen.blank = s.screen.blank := (s.screen.screenUpdate_eq _ _).2.2.1

/-- With no alarm left, a new start lights the display if both alarms are set. -/
theorem cycle_start_iff {s : Com} (hanim : s.pending .animationAlarm = 0)
    (h1 : s.pending .screenBrightnessAnimationAlarm1 = 0)
    (h2 : s.pending .screenBrightnessAnimationAlarm2 = 0) (ms : Int) {e₁ e₂ : SetEnv} :
    (s.screenBrightnessAnimationStart ms e₁ e₂).Cycle ↔ e₁.malloc = true ∧ e₂.malloc = true := by
  unfold Cycle screenBrightnessAnimationStart
  simp only [pending_set, pending_unblank, hanim, h1, h2, screen_set, screen_unblank]
  cases e₁.malloc <;> cases e₂.malloc <;> decide

/-- Blanking it is right where only the animation is waiting. -/
theorem shows_alarm2 {s : Com} (h1 : s.pending .screenBrightnessAnimationAlarm1 = 0)
    (h2 : s.pending .screenBrightnessAnimationAlarm2 = 0) :
    s.screenBrightnessAnimationAlarm2.Shows .dark := by
  refine ⟨rfl, ?_, ?_, ?_⟩
  · rw [pending_alarm2, if_pos rfl]
  · rw [pending_alarm2, if_neg (by decide), h1]
  · rw [pending_alarm2, if_neg (by decide), h2]

/-- The charger's going blanks the display; otherwise nothing changes. -/
theorem shows_powerEvent (s : Com) (e : PowerEnv) :
    (s.Unplugged e.state → (s.powerEvent e).Shows .dark) ∧
      (¬ s.Unplugged e.state → (∀ g, (s.powerEvent e).pending g = s.pending g) ∧
        (s.powerEvent e).screen.blank = s.screen.blank) := by
  unfold powerEvent
  constructor
  · intro h
    rw [if_pos h]
    apply shows_alarm2 <;> simp
  · intro h
    rw [if_neg h]
    exact ⟨s.pending_drawPower e, s.blank_drawPower e⟩

/-- The alarm of the power key has no part in the cycle. -/
theorem cycle_iff_of_screen {s t : Com}
    (hpending : ∀ g, g ≠ .powerKeyAlarm → t.pending g = s.pending g)
    (hblank : t.screen.blank = s.screen.blank) : t.Cycle ↔ s.Cycle := by
  unfold Cycle
  simp only [hpending _ (show Handler.animationAlarm ≠ .powerKeyAlarm by decide),
    hpending _ (show Handler.screenBrightnessAnimationAlarm1 ≠ .powerKeyAlarm by decide),
    hpending _ (show Handler.screenBrightnessAnimationAlarm2 ≠ .powerKeyAlarm by decide),
    hblank]

theorem cycle_congr {s t : Com} (hpending : ∀ g, t.pending g = s.pending g)
    (hblank : t.screen.blank = s.screen.blank) : t.Cycle ↔ s.Cycle :=
  cycle_iff_of_screen (fun g _ => hpending g) hblank

theorem cycle_powerEvent {s : Com} (hs : s.Cycle) (e : PowerEnv) : (s.powerEvent e).Cycle := by
  by_cases h : s.Unplugged e.state
  · exact (cycle_iff_shows _).mpr ⟨.dark, (s.shows_powerEvent e).1 h⟩
  · have hsame := (s.shows_powerEvent e).2 h
    exact (cycle_congr hsame.1 hsame.2).mpr hs

/-! ## What a step needs -/

/-- The alarm that is fired first can set its successor, and a reboot does not
    fail while the display is lit. -/
def FireSafe (s : Com) (set : SetEnv) (power : PowerEnv) (ret : Int) : Handler → Prop
  | .animationAlarm => set.malloc = true ∨ s.Unplugged power.state
  | .screenBrightnessAnimationAlarm1 => set.malloc = true
  | .screenBrightnessAnimationAlarm2 => True
  | .powerKeyAlarm => ret < 0 → s.screen.blank = true

/-- A key that lights the display can set both alarms. -/
def EventSafe (s : Com) (set₁ set₂ : SetEnv) : Event → Prop
  | .powerKeyUp => s.pending .screenBrightnessAnimationAlarm1 = 0 →
      set₁.malloc = true ∧ set₂.malloc = true
  | .volumeDownKeyDown | .volumeUpKeyDown | .cameraKeyDown =>
      set₁.malloc = true ∧ set₂.malloc = true
  | .powerKeyDown | .battery | .quit | .other => True

def Safe (s : Com) : ComLabel → Prop
  | .fire set power ret => ∀ a ∈ s.queue.alarms.head?, s.FireSafe set power ret a.f
  | .event _ r set₁ set₂ _ => s.EventSafe set₁ set₂ r
  | .process _ _ | .leave => True

instance (s : Com) (set : SetEnv) (power : PowerEnv) (ret : Int) :
    DecidablePred (s.FireSafe set power ret)
  | .animationAlarm => inferInstanceAs (Decidable (_ ∨ _))
  | .screenBrightnessAnimationAlarm1 => inferInstanceAs (Decidable (_ = _))
  | .screenBrightnessAnimationAlarm2 => isTrue trivial
  | .powerKeyAlarm => inferInstanceAs (Decidable (_ → _))

instance (s : Com) (set₁ set₂ : SetEnv) : DecidablePred (s.EventSafe set₁ set₂)
  | .powerKeyUp => inferInstanceAs (Decidable (_ → _ ∧ _))
  | .volumeDownKeyDown | .volumeUpKeyDown | .cameraKeyDown => inferInstanceAs (Decidable (_ ∧ _))
  | .powerKeyDown | .battery | .quit | .other => isTrue trivial

instance (s : Com) : DecidablePred s.Safe
  | .fire set power ret =>
      inferInstanceAs (Decidable (∀ a ∈ s.queue.alarms.head?, s.FireSafe set power ret a.f))
  | .event _ r set₁ set₂ _ => inferInstanceAs (Decidable (s.EventSafe set₁ set₂ r))
  | .process _ _ | .leave => isTrue trivial

/-- What matters of a step that is taken, before the main loop is left. A step
    that cannot be taken, and whatever comes after the decision to leave, is
    always allowed. -/
def Allowed (s : Com) (l : ComLabel) : Prop :=
  s.quit = false → (s.step l).isSome = true → s.Safe l

instance (s : Com) (l : ComLabel) : Decidable (s.Allowed l) :=
  inferInstanceAs (Decidable (_ → _ → _))

/-- Before the main loop is left, the display is in its cycle. -/
def Inv (s : Com) : Prop := s.quit = false → s.Cycle

/-! ## One step -/

/-- The first alarm is taken off, and its function does the rest. -/
theorem fire_spec {s t : Com} {set : SetEnv} {power : PowerEnv} {ret : Int}
    (h : s.step (.fire set power ret) = some t) :
    ∃ (a : Alarm Handler Unit) (u : Com), s.queue.alarms.head? = some a ∧
      (∀ g, s.pending g = u.pending g + if a.f = g then 1 else 0) ∧ u.screen = s.screen ∧
      u.quit = s.quit ∧ u.shutdown = s.shutdown ∧
      (∀ g, t.pending g = (u.callback a.f set power ret).pending g) ∧
      t.screen = (u.callback a.f set power ret).screen ∧
      t.quit = (u.callback a.f set power ret).quit := by
  simp only [step] at h
  split at h
  case h_2 => cases h
  case h_1 a alarms queue ha hfire =>
      rcases Alarms.fire_eq_some hfire with ⟨fr, frames, b, rest, -, hb, -, -, hqueue⟩
      rw [ha, List.cons.injEq] at hb
      rcases Option.map_eq_some_iff.mp h with ⟨queue', hdone, rfl⟩
      refine ⟨a, { s with queue := queue }, by rw [ha]; rfl, fun g => ?_, rfl, rfl, rfl, fun g => ?_,
        rfl, rfl⟩
      -- One alarm of its function is taken off, and none of another.
      · unfold pending Alarms.pending
        rw [ha, List.countP_cons, hqueue, ← hb.2]
        by_cases hf : a.f = g <;> simp [hf]
      · -- When the function returns, the alarms are those it has left.
        unfold Alarms.done at hdone
        split at hdone
        case h_1 =>
            rcases Option.ite_none_right_eq_some.mp hdone with ⟨-, hqueue'⟩
            unfold pending Alarms.pending
            rw [← Option.some.inj hqueue']
        case h_2 => cases hdone

/-- The animation goes on if it can be set again, or it ends with the display. -/
theorem cycle_animationAlarm_iff {u : Com} (hlit : u.screen.blank = false)
    (hanim : u.pending .animationAlarm = 0)
    (hone : u.pending .screenBrightnessAnimationAlarm1 +
      u.pending .screenBrightnessAnimationAlarm2 = 1) (set : SetEnv) (power : PowerEnv) :
    (u.animationAlarm set power).Cycle ↔ set.malloc = true ∨ u.Unplugged power.state := by
  have hevent := shows_powerEvent (u.alarmSetRelative .animationAlarm ANIMATION_TIMEOUT set) power
  unfold animationAlarm
  by_cases hun : u.Unplugged power.state
  · exact iff_of_true ((cycle_iff_shows _).mpr ⟨.dark, hevent.1 hun⟩) (.inr hun)
  · have hsame := hevent.2 hun
    rw [cycle_congr hsame.1 hsame.2, or_iff_left hun]
    unfold Cycle
    simp only [pending_set, screen_set, hlit, hanim, hone, reduceCtorEq, and_false, if_false,
      Nat.add_zero, and_true, Nat.zero_add, false_implies, true_implies]
    cases set.malloc <;> decide

/-- A bright display is dimmed if the alarm that will blank it can be set. -/
theorem cycle_alarm1_iff {u : Com} (hlit : u.screen.blank = false)
    (hanim : u.pending .animationAlarm = 1) (h1 : u.pending .screenBrightnessAnimationAlarm1 = 0)
    (h2 : u.pending .screenBrightnessAnimationAlarm2 = 0) (set : SetEnv) :
    (u.screenBrightnessAnimationAlarm1 set).Cycle ↔ set.malloc = true := by
  unfold Cycle screenBrightnessAnimationAlarm1
  simp only [pending_set, screen_set, hlit, hanim, h1, h2]
  cases set.malloc <;> decide

/-- After a reboot that fails nothing is waiting any more. -/
theorem cycle_powerKeyAlarm_iff (u : Com) {ret : Int} (hret : ret < 0) :
    (u.powerKeyAlarm ret).Cycle ↔ u.screen.blank = true := by
  rw [powerKeyAlarm, if_pos hret]
  have hblank : u.cancelAll.screen.blank = u.screen.blank := rfl
  unfold Cycle
  simp only [pending_cancelAll, hblank, reduceCtorEq, if_false]
  cases u.screen.blank <;> decide

/-- The function of an alarm keeps to the cycle where it is safe, and only
    there. `u` is the state that it is called in. -/
theorem cycle_callback_iff {s u : Com} {f : Handler} (hs : s.Cycle)
    (hpop : ∀ g, s.pending g = u.pending g + if f = g then 1 else 0) (hscreen : u.screen = s.screen)
    (hshutdown : u.shutdown = s.shutdown) (set : SetEnv) (power : PowerEnv) (ret : Int)
    (hquit : (u.callback f set power ret).quit = false) :
    (u.callback f set power ret).Cycle ↔ s.FireSafe set power ret f := by
  have hanim := hpop .animationAlarm
  have h1 := hpop .screenBrightnessAnimationAlarm1
  have h2 := hpop .screenBrightnessAnimationAlarm2
  rcases (cycle_iff_shows s).mp hs with ⟨p, hp⟩
  -- The alarm was waiting in `s`, which is in only some of the phases.
  cases f with
  | animationAlarm =>
      simp only [reduceCtorEq, if_true, if_false, Nat.add_zero] at hanim h1 h2
      have hlit : s.screen.blank = false ∧ s.pending .animationAlarm = 1 := by
        cases p with
        | dark => exact absurd (hp.2.1.symm.trans hanim) (by omega)
        | bright => exact ⟨hp.1, hp.2.1⟩
        | dim => exact ⟨hp.1, hp.2.1⟩
      have hone : u.pending .screenBrightnessAnimationAlarm1 +
          u.pending .screenBrightnessAnimationAlarm2 = 1 := by
        rw [← h1, ← h2]
        exact (hs.1 hlit.1).2
      have hplug : u.Unplugged power.state ↔ s.Unplugged power.state := by
        unfold Unplugged
        rw [hshutdown]
      refine (cycle_animationAlarm_iff (by rw [hscreen]; exact hlit.1) (by omega) hone set
        power).trans ?_
      exact or_congr_right hplug
  | screenBrightnessAnimationAlarm2 =>
      simp only [reduceCtorEq, if_true, if_false, Nat.add_zero] at hanim h1 h2
      have hnone : u.pending .screenBrightnessAnimationAlarm1 = 0 ∧
          u.pending .screenBrightnessAnimationAlarm2 = 0 := by
        cases p with
        | dark => exact absurd (hp.2.2.2.symm.trans h2) (by omega)
        | bright => exact absurd (hp.2.2.2.symm.trans h2) (by omega)
        | dim =>
            rcases hp with ⟨-, -, hb, hc⟩
            exact ⟨by omega, by omega⟩
      exact iff_of_true ((cycle_iff_shows _).mpr ⟨.dark, shows_alarm2 hnone.1 hnone.2⟩) trivial
  | screenBrightnessAnimationAlarm1 =>
      simp only [reduceCtorEq, if_true, if_false, Nat.add_zero] at hanim h1 h2
      have hbright : s.Shows .bright := by
        cases p with
        | dark => exact absurd (hp.2.2.1.symm.trans h1) (by omega)
        | dim => exact absurd (hp.2.2.1.symm.trans h1) (by omega)
        | bright => exact hp
      rcases hbright with ⟨hlit, ha, hb, hc⟩
      exact cycle_alarm1_iff (by rw [hscreen]; exact hlit) (by omega) (by omega) (by omega) set
  | powerKeyAlarm =>
      have hret : ret < 0 := by
        refine Classical.byContradiction fun hno => ?_
        rw [show u.callback .powerKeyAlarm set power ret = u.powerKeyAlarm ret from rfl,
          powerKeyAlarm, if_neg hno] at hquit
        cases hquit
      refine (cycle_powerKeyAlarm_iff u hret).trans ?_
      rw [hscreen]
      exact ⟨fun h _ => h, fun h => h hret⟩

theorem cycle_cancelAll_start_iff (s : Com) (ms : Int) (e₁ e₂ : SetEnv) :
    (s.cancelAll.screenBrightnessAnimationStart ms e₁ e₂).Cycle ↔
      e₁.malloc = true ∧ e₂.malloc = true := by
  apply cycle_start_iff <;> simp

/-- The power key blanks a bright display, and lights it otherwise. -/
theorem cycle_wakeup_key_iff (s : Com) (e₁ e₂ : SetEnv) :
    (s.updateScreenOnWakeupKey e₁ e₂).Cycle ↔
      (s.pending .screenBrightnessAnimationAlarm1 = 0 → e₁.malloc = true ∧ e₂.malloc = true) := by
  have hcount : (((s.alarmCancel .screenBrightnessAnimationAlarm2).alarmCancel
        .animationAlarm).queue.alarmCancel .screenBrightnessAnimationAlarm1).2 =
      s.pending .screenBrightnessAnimationAlarm1 := by
    rw [(Alarms.alarmCancel_spec _ _).2]
    show ((s.alarmCancel .screenBrightnessAnimationAlarm2).alarmCancel
        .animationAlarm).pending .screenBrightnessAnimationAlarm1 = _
    simp
  unfold updateScreenOnWakeupKey
  simp only [hcount]
  split
  case isTrue hsome =>
      refine iff_of_true ((cycle_iff_shows _).mpr ⟨.dark, ?_⟩) (fun h => absurd h hsome)
      apply shows_alarm2 <;> simp
  case isFalse hnone =>
      rw [cycle_start_iff (by simp) (by simp) (by simp)]
      exact ⟨fun h _ => h, fun h => h (not_not.mp hnone)⟩

theorem cycle_onEvent_iff {s : Com} (hs : s.Cycle) (r : Event) (set₁ set₂ : SetEnv)
    (power : PowerEnv) : (s.onEvent r set₁ set₂ power).Cycle ↔ s.EventSafe set₁ set₂ r := by
  cases r with
  | quit => exact iff_of_true hs trivial
  | battery => exact iff_of_true (cycle_powerEvent hs power) trivial
  | powerKeyDown =>
      refine iff_of_true ?_ trivial
      show (if s.powerup then s.alarmSetRelative .powerKeyAlarm 1000 set₁ else s : Com).Cycle
      split
      case isTrue =>
          have hsame : ∀ g, g ≠ .powerKeyAlarm →
              (s.alarmSetRelative .powerKeyAlarm 1000 set₁).pending g = s.pending g := by
            intro g hg
            simp [hg.symm]
          exact (cycle_iff_of_screen hsame rfl).mpr hs
      case isFalse => exact hs
  | powerKeyUp =>
      refine (cycle_wakeup_key_iff (s.alarmCancel .powerKeyAlarm) set₁ set₂).trans ?_
      simp [EventSafe]
  | volumeDownKeyDown => exact cycle_cancelAll_start_iff s _ _ _
  | volumeUpKeyDown => exact cycle_cancelAll_start_iff s _ _ _
  | cameraKeyDown => exact cycle_cancelAll_start_iff s _ _ _
  | other => exact iff_of_true hs trivial

theorem quit_powerEvent (s : Com) (e : PowerEnv) : (s.powerEvent e).quit = s.quit := by
  unfold powerEvent
  by_cases h : s.Unplugged e.state
  · rw [if_pos h]
    rfl
  · rw [if_neg h]
    rfl

/-- Only a reboot that succeeds makes the main loop end. -/
theorem quit_callback (s : Com) (f : Handler) (set : SetEnv) (power : PowerEnv) (ret : Int) :
    (s.callback f set power ret).quit = s.quit ∨
      (f = .powerKeyAlarm ∧ ¬ ret < 0 ∧ (s.callback f set power ret).quit = true) := by
  cases f with
  | animationAlarm => exact .inl (quit_powerEvent _ _)
  | screenBrightnessAnimationAlarm2 => exact .inl rfl
  | screenBrightnessAnimationAlarm1 => exact .inl rfl
  | powerKeyAlarm =>
      show (s.powerKeyAlarm ret).quit = s.quit ∨ (_ ∧ _ ∧ (s.powerKeyAlarm ret).quit = true)
      unfold powerKeyAlarm
      by_cases h : ret < 0
      · rw [if_pos h]
        exact .inl rfl
      · rw [if_neg h]
        exact .inr ⟨rfl, h, rfl⟩

theorem quit_onEvent (s : Com) (r : Event) (set₁ set₂ : SetEnv) (power : PowerEnv) :
    (s.onEvent r set₁ set₂ power).quit = s.quit ∨
      (r = .quit ∧ (s.onEvent r set₁ set₂ power).quit = true) := by
  cases r with
  | quit => exact .inr ⟨rfl, rfl⟩
  | battery => exact .inl (quit_powerEvent _ _)
  | powerKeyDown =>
      refine .inl ?_
      show (if s.powerup then s.alarmSetRelative .powerKeyAlarm 1000 set₁ else s : Com).quit = _
      split <;> rfl
  | powerKeyUp =>
      refine .inl ?_
      show ((s.alarmCancel .powerKeyAlarm).updateScreenOnWakeupKey set₁ set₂).quit = _
      unfold updateScreenOnWakeupKey
      dsimp only
      split <;> rfl
  | volumeDownKeyDown => exact .inl rfl
  | volumeUpKeyDown => exact .inl rfl
  | cameraKeyDown => exact .inl rfl
  | other => exact .inl rfl

/-- What a step leaves, before the main loop is left. -/
theorem cycle_step_iff {s t : Com} {l : ComLabel} (hs : s.Cycle) (h : s.step l = some t)
    (hquit : t.quit = false) : t.Cycle ↔ s.Safe l := by
  cases l with
  | process now reading =>
      rcases Option.ite_none_right_eq_some.mp h with ⟨-, ht⟩
      rw [← Option.some.inj ht]
      exact iff_of_true hs trivial
  -- A return from `alarm_process` leaves the alarms and the display alone.
  | leave =>
      rcases Option.map_eq_some_iff.mp h with ⟨queue, hleave, rfl⟩
      refine iff_of_true ((cycle_congr (s := s) (t := { s with queue }) (fun g => ?_) rfl).mpr hs)
        trivial
      unfold Alarms.leave at hleave
      split at hleave
      case h_1 =>
          rcases Option.ite_none_right_eq_some.mp hleave with ⟨-, hqueue⟩
          unfold pending Alarms.pending
          rw [← Option.some.inj hqueue]
      case h_2 => cases hleave
  | event now r set₁ set₂ power =>
      rcases Option.ite_none_right_eq_some.mp h with ⟨-, ht⟩
      rw [← Option.some.inj ht]
      exact cycle_onEvent_iff hs r set₁ set₂ power
  -- Only here an alarm goes, so only here one has to be set.
  | fire set power ret =>
      rcases fire_spec h with ⟨a, u, ha, hpop, hscreen, -, hshutdown, hpending, htscreen, htquit⟩
      rw [cycle_congr hpending (congrArg Screen.blank htscreen),
        cycle_callback_iff hs hpop hscreen hshutdown set power ret (htquit ▸ hquit)]
      unfold Safe
      rw [ha]
      exact ⟨fun hsafe b hb => Option.some.inj hb ▸ hsafe, fun hsafe => hsafe a rfl⟩

/-- A step that is not safe does not end the main loop either. -/
theorem quit_of_not_safe {s t : Com} {l : ComLabel} (hl : ¬ s.Safe l) (h : s.step l = some t) :
    t.quit = s.quit := by
  cases l with
  | process now reading => exact absurd trivial hl
  | leave => exact absurd trivial hl
  | event now r set₁ set₂ power =>
      rcases Option.ite_none_right_eq_some.mp h with ⟨-, ht⟩
      rw [← Option.some.inj ht]
      -- Only `quit` ends the loop, and that is safe.
      rcases quit_onEvent s r set₁ set₂ power with hsame | ⟨rfl, -⟩
      · exact hsame
      · exact absurd trivial hl
  | fire set power ret =>
      rcases fire_spec h with ⟨a, u, ha, -, -, huquit, -, -, -, htquit⟩
      rw [htquit, ← huquit]
      -- Only a reboot that succeeds does, and that is safe as well.
      rcases quit_callback u a.f set power ret with hsame | ⟨hkey, hret, -⟩
      · exact hsame
      · refine absurd (fun b hb => ?_) hl
        rw [ha, Option.mem_some_iff] at hb
        rw [← hb, hkey]
        exact fun hneg => absurd hneg hret

/-- Once the main loop is to be left, it is. -/
theorem quit_step {s t : Com} {l : ComLabel} (h : s.step l = some t) (hs : s.quit = true) :
    t.quit = true := by
  cases l with
  | process now reading =>
      rcases Option.ite_none_right_eq_some.mp h with ⟨⟨hmain, -⟩, -⟩
      exact absurd (hs.symm.trans hmain.2) (by decide)
  | leave =>
      rcases Option.map_eq_some_iff.mp h with ⟨queue, -, rfl⟩
      exact hs
  | event now r set₁ set₂ power =>
      rcases Option.ite_none_right_eq_some.mp h with ⟨⟨hmain, -⟩, -⟩
      exact absurd (hs.symm.trans hmain.2) (by decide)
  | fire set power ret =>
      rcases fire_spec h with ⟨a, u, -, -, -, huquit, -, -, -, htquit⟩
      rw [htquit]
      rcases quit_callback u a.f set power ret with hsame | ⟨-, -, hquit⟩
      · rw [hsame, huquit, hs]
      · exact hquit

/-! ## Runs -/

theorem cycle_step {s t : Com} {l : ComLabel} (hs : s.Inv) (hl : s.Allowed l)
    (h : s.step l = some t) : t.Inv := by
  intro hquit
  have hrunning : s.quit = false := by
    cases hsq : s.quit with
    | false => rfl
    | true => exact absurd ((quit_step h hsq).symm.trans hquit) (by decide)
  exact (cycle_step_iff (hs hrunning) h hquit).mpr (hl hrunning (Option.isSome_iff_exists.mpr ⟨t, h⟩))

theorem cycle_breaks {s : Com} {l : ComLabel} (hs : s.Inv) (hl : ¬ s.Allowed l) :
    ∃ t, s.step l = some t ∧ ¬ t.Inv := by
  unfold Allowed at hl
  simp only [Classical.not_imp] at hl
  rcases hl with ⟨hquit, hsome, hunsafe⟩
  rcases Option.isSome_iff_exists.mp hsome with ⟨t, ht⟩
  have htquit : t.quit = false := (quit_of_not_safe hunsafe ht).trans hquit
  exact ⟨t, ht, fun ht' => hunsafe ((cycle_step_iff (hs hquit) ht htquit).mp (ht' htquit))⟩

theorem cycle_start_loop (screen : Screen) (clock : Timeval) (e₁ e₂ : SetEnv) :
    (start screen clock e₁ e₂).Inv ↔ e₁.malloc = true ∧ e₂.malloc = true := by
  have hstart : (start screen clock e₁ e₂).Cycle ↔ e₁.malloc = true ∧ e₂.malloc = true :=
    cycle_start_iff rfl rfl rfl 1500
  exact ⟨fun h => hstart.mp (h rfl), fun h _ => hstart.mpr h⟩

/-- In the main loop the display is in its cycle, if all steps are allowed. And
    they have to be, for it to be so after every step. The two halves are about
    different moments: within the functions of an alarm the cycle may be open,
    and is closed again before control is back in the loop. -/
theorem cycle_iff (screen : Screen) (clock : Timeval) (e₁ e₂ : SetEnv) (ls : List ComLabel) :
    ((e₁.malloc = true ∧ e₂.malloc = true) ∧ Meets step Allowed (start screen clock e₁ e₂) ls →
        Throughout step (fun s => s.InMainLoop → s.Cycle) (start screen clock e₁ e₂) ls) ∧
      (Throughout step Inv (start screen clock e₁ e₂) ls ↔
        (e₁.malloc = true ∧ e₂.malloc = true) ∧ Meets step Allowed (start screen clock e₁ e₂) ls) := by
  have hinit := cycle_start_loop screen clock e₁ e₂
  constructor
  · rintro ⟨hmalloc, hls⟩
    exact throughout_of_meets (fun s hs hmain => hs hmain.2) (fun _ _ _ hs hl h => cycle_step hs hl h)
      (hinit.mpr hmalloc) hls
  · constructor
    · intro h
      have hs := throughout_head h
      refine ⟨hinit.mp hs, ?_⟩
      exact (throughout_iff_meets (fun _ hs => hs) (fun _ _ _ hs hl h => cycle_step hs hl h)
        (fun _ _ hs hl => cycle_breaks hs hl) hs).mp h
    · rintro ⟨hmalloc, hls⟩
      exact throughout_of_meets (fun _ hs => hs) (fun _ _ _ hs hl h => cycle_step hs hl h)
        (hinit.mpr hmalloc) hls

/-- A charger is plugged in, and the voltage is enough to start the phone. -/
def chargedEnv : PowerEnv where
  state :=
    { is_plugged_into_ac := false
      is_plugged_into_usb := true
      is_battery_present := true
      is_discharging := false
      is_unknown := false
      charge_level := 50
      voltage_level := 3900000 }
  draw := fun _ _ _ => 0
  put := true

/-- A run in which nothing is read but the time, in seconds. -/
def atTime (t : Int) : SetEnv := ⟨true, ⟨t, 0⟩⟩

/-- The power key is held down for a second, and `__reboot` returns -1. -/
def rebootFails : List ComLabel :=
  [.event ⟨1, 0⟩ .battery (atTime 1) (atTime 1) chargedEnv,
    .event ⟨1, 0⟩ .powerKeyDown (atTime 1) (atTime 1) chargedEnv, .process ⟨2, 0⟩ ⟨2, 0⟩,
    .fire (atTime 2) chargedEnv 0, .fire (atTime 2) chargedEnv (-1), .leave]

/-- The screen after `screen_init`. -/
def someScreen : Screen := Screen.screenInit ⟨4, 2, 16⟩ 0 fun _ => 0

theorem cycle_iff_animation : Throughout step (fun s => s.InMainLoop → s.Cycle)
    (start someScreen ⟨0, 0⟩ (atTime 1) (atTime 1))
    [.event ⟨1, 0⟩ .battery (atTime 1) (atTime 1) chargedEnv, .process ⟨3, 0⟩ ⟨3, 0⟩,
      .fire (atTime 3) chargedEnv 0, .leave] :=
  (cycle_iff someScreen ⟨0, 0⟩ (atTime 1) (atTime 1) _).1 ⟨⟨rfl, rfl⟩, by decide⟩

theorem rebootFails_stays_lit : ¬ Throughout step (fun s => s.InMainLoop → s.Cycle)
    (start someScreen ⟨0, 0⟩ (atTime 0) (atTime 0)) rebootFails := by
  decide

end Com

end ChargeOnly

end Victara
