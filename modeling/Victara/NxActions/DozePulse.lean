import Victara.Lib.Cooldown
import Victara.NxActions.GestureService

/-!
# Pulses of the Ambient Display

The sensors that listen while the screen is off ask `DozePulseAction` for a
pulse. It sends one if the last one, and the last time the screen went off, are
long enough ago. That is the limiter of `Cooldown`, so the pulses of a run are
what the limiter lets through of the requests of the run.

What an event does to the limiter is one of its own events at most: a request,
when a sensor that is heard asks for a pulse, or a mark, when the screen goes
off. So the pulses of a run are those that the limiter lets through of the
events that the run makes, and what `Cooldown` says of spacing and number holds
of them. When a sensor is heard is in the history of the broadcasts, from which
it follows that the screen is off.

## Main definitions

* `pulses`: The times of the pulses among the effects.
* `ServiceEvent.dozeTime`: The time that `DozePulseAction` may ask for.
* `ClockForward`: The clock does not go back from `start` on.
* `screenIsOff`: The last that the receiver heard of the screen.
* `screenOffs`: The times at which the screen has been turned off.
* `CMActionsService.dozeEvents`: What an event is for the limiter.
* `ListensOff`: The parts listen while the screen is off.
* `quietCalls`: A sensor service that takes every listener, at the time 1000.
* `createdOff`: The service is created with the screen off, and nothing is
  stored.

## Theorems

* `action_eq`: A request that is let through is a pulse.
* `doze_step`: One event is one for the limiter at most.
* `pulses_eq_passes`: The pulses of a run are what the limiter lets through.
* `shown_exec`: A process that is still there is as the history says.
* `listensOff_next`, `listensOff_foldl`: Who listens does so while the screen is
  off.
* `listening_of_wantsPulse`: A part that wants a pulse hears its sensor, so it
  listens.
* `dozeEvents_times`: The events for the limiter come at times of the run.
* `mark_mem_trace`: The marks of a process that is still there are those of the
  screen.
* `mem_pulses_out_iff`: A pulse answers an event that wants one, at the time of
  that event.
* `pulse_iff`: When an event is answered with a pulse.
* `screenIsOff_of_pulse`: Pulses are for those who listen, and these do so while
  the screen is off.
* `pulses_spaced`: How far pulses are apart, and how many fit into a window.
-/

namespace Victara

namespace NxActions

open StepSystem

/-- The times of the pulses. -/
def pulses (effects : List Effect) : List Int :=
  effects.filterMap fun
    | .dozePulse now => some now
    | _ => none

/-- The time that `DozePulseAction` may ask for. -/
def ServiceEvent.dozeTime : ServiceEvent → Option Int
  | .screen _ e => some e.currentTimeMillis
  | .flatUpChanged _ now => some now
  | .irGestureChanged _ now => some now
  | .stowChanged _ now => some now
  | _ => none

/-- The clock does not go back from `start` on. -/
def ClockForward (start : Int) (es : List ServiceEvent) : Prop :=
  (start :: es.filterMap ServiceEvent.dozeTime).Pairwise (· ≤ ·)

instance (start : Int) (es : List ServiceEvent) : Decidable (ClockForward start es) :=
  inferInstanceAs (Decidable (List.Pairwise _ _))

/-- The last broadcast of the screen was that it is off. -/
def screenIsOff (off : Bool) (es : List ServiceEvent) : Bool :=
  es.foldl (fun off e => match e with
    | .screen action _ =>
      if action = ACTION_SCREEN_OFF then true
      else if action = ACTION_SCREEN_ON then false
      else off
    | _ => off) off

/-- The times at which the screen has been turned off. -/
def screenOffs (es : List ServiceEvent) : List Int :=
  es.filterMap fun
    | .screen action e => if action = ACTION_SCREEN_OFF then some e.currentTimeMillis else none
    | _ => none

theorem pulses_append (es es' : List Effect) : pulses (es ++ es') = pulses es ++ pulses es' :=
  List.filterMap_append

namespace CMActionsService

/-- What an event is for the limiter. -/
def dozeEvents (s : CMActionsService) (e : ServiceEvent) : List Cooldown.Event :=
  if !s.thrown && s.heard e then
    match e with
    | .screen action calls =>
      if action = ACTION_SCREEN_OFF then [.mark calls.currentTimeMillis] else []
    | e => (s.wantsPulse e).toList.map .request
  else []

/-! ## The limiter -/

theorem screenTurnedOff_doze (s : CMActionsService) (e : ScreenCalls) :
    (s.screenTurnedOff e).mDozePulseAction.mLastDoze = e.currentTimeMillis := by
  simp only [screenTurnedOff, setShared]
  by_cases hflat : (s.flatUp.screenTurnedOff e).2 = true
  · rw [if_pos hflat]
    split <;> rfl
  · rw [if_neg hflat]
    rfl

/-- A request that is let through is a pulse. -/
theorem action_eq (a : DozePulseAction) (now : Int) :
    (a.action now).1.mLastDoze =
        Cooldown.next DELAY_BETWEEN_DOZES_IN_MS a.mLastDoze (.request now) ∧
      pulses (a.action now).2 =
        Cooldown.passes DELAY_BETWEEN_DOZES_IN_MS a.mLastDoze [.request now] := by
  simp only [DozePulseAction.action, DozePulseAction.mayDoze, Cooldown.next, Cooldown.passes,
    Cooldown.allows, decide_eq_true_eq]
  split <;> exact ⟨rfl, rfl⟩

theorem onSharedPreferenceChanged_doze (s : CMActionsService) (part : ServicePart) (key : String)
    (value : Bool) :
    (s.onSharedPreferenceChanged part key value).mDozePulseAction = s.mDozePulseAction := by
  cases part <;> simp only [onSharedPreferenceChanged] <;> split <;> rfl

/-- One event is one for the limiter at most. -/
theorem doze_step {s t : CMActionsService} {e : ServiceEvent} (h : s.step e = some t) :
    t.mDozePulseAction.mLastDoze =
        (s.dozeEvents e).foldl (Cooldown.next DELAY_BETWEEN_DOZES_IN_MS)
          s.mDozePulseAction.mLastDoze ∧
      pulses (s.out e) = Cooldown.passes DELAY_BETWEEN_DOZES_IN_MS s.mDozePulseAction.mLastDoze
        (s.dozeEvents e) := by
  by_cases hrun : (!s.thrown && s.heard e) = true
  · simp only [step, hrun, if_true, Option.some.injEq] at h
    subst h
    simp only [dozeEvents, out, hrun, if_true]
    cases e with
    | screen action calls =>
        simp only [handle, onReceive]
        -- The screen that goes off starts the pause anew, and makes no pulse.
        by_cases hoff : action = ACTION_SCREEN_OFF
        · simp only [if_pos hoff, screenTurnedOff_doze]
          exact ⟨rfl, rfl⟩
        · simp only [if_neg hoff]
          refine ⟨?_, rfl⟩
          split <;> rfl
    | flatUpChanged thisFlatUp now =>
        have hact := action_eq s.mDozePulseAction now
        simp only [handle, wantsPulse, doze]
        -- A sensor asks for a pulse, or does nothing to the action.
        cases (s.flatUp.onFlatUpChanged thisFlatUp).2 with
        | true => exact hact
        | false => exact ⟨rfl, rfl⟩
    | irGestureChanged gesture now =>
        have hact := action_eq s.mDozePulseAction now
        simp only [handle, wantsPulse, doze]
        cases s.irGesture.onSensorChanged gesture with
        | true => exact hact
        | false => exact ⟨rfl, rfl⟩
    | stowChanged thisStowed now =>
        have hact := action_eq s.mDozePulseAction now
        simp only [handle, wantsPulse, doze]
        cases (s.stow.onSensorChanged thisStowed).2 with
        | true => exact hact
        | false => exact ⟨rfl, rfl⟩
    | flatUpStowChanged stowed => exact ⟨rfl, rfl⟩
    | cameraActivated calls =>
        refine ⟨rfl, ?_⟩
        simp only [CameraActivationAction.action, CameraActivationAction.launchSecureCamera,
          CameraActivationAction.launchCamera]
        split
        · split
          · split <;> rfl
          · split <;> rfl
        · rfl
    | chopChop =>
        refine ⟨rfl, ?_⟩
        simp only [FlashlightActivationAction.action]
        split <;> rfl
    | preferenceChanged part key value =>
        refine ⟨?_, rfl⟩
        simp only [handle, onSharedPreferenceChanged_doze]
        rfl
    | silencer e =>
        -- The silencers have a state of their own and send no pulse.
        rcases Silencers.step_total s.silencers e with ⟨t, ht⟩
        refine ⟨by simp only [handle, ht]; rfl, ?_⟩
        cases e with
        | irSensorChanged gesture now =>
            simp only
            split <;> rfl
        | alarmSensorChanged gesture =>
            simp only
            split <;> rfl
        | callStateChanged | alarm | irPreferenceChanged | alarmPreferenceChanged => rfl
  · simp only [step, hrun, Bool.false_eq_true, if_false, Option.some.injEq] at h
    subst h
    simp only [dozeEvents, out, hrun, Bool.false_eq_true, if_false]
    exact ⟨rfl, rfl⟩

/-- The pulses of a run are what the limiter lets through of its requests. -/
theorem pulses_eq_passes {s t : CMActionsService} {es : List ServiceEvent}
    (h : exec step s es = some t) :
    t.mDozePulseAction.mLastDoze =
        (trace step dozeEvents s es).foldl (Cooldown.next DELAY_BETWEEN_DOZES_IN_MS)
          s.mDozePulseAction.mLastDoze ∧
      pulses (trace step out s es) =
        Cooldown.passes DELAY_BETWEEN_DOZES_IN_MS s.mDozePulseAction.mLastDoze
          (trace step dozeEvents s es) := by
  induction es generalizing s with
  | nil =>
      cases h
      exact ⟨rfl, rfl⟩
  | cons e es ih =>
      rcases exec_cons h with ⟨u, hu, hrest⟩
      rcases doze_step hu with ⟨hlast, hout⟩
      rcases ih hrest with ⟨hend, hpulses⟩
      simp only [trace, hu]
      rw [List.foldl_append, ← hlast, pulses_append, Cooldown.passes_append, ← hlast, hout, hpulses]
      exact ⟨hend, rfl⟩

/-! ## The screen -/

theorem alive_of_exec {s t : CMActionsService} {es : List ServiceEvent}
    (h : exec step s es = some t) (ht : t.thrown = false) : s.thrown = false := by
  cases hs : s.thrown with
  | false => rfl
  | true =>
      have hgone : t.thrown = true := invariant_of_step (I := fun s => s.thrown = true)
        (fun s e t hs h => by rw [step_thrown hs e] at h; cases h; exact hs) hs h
      rw [ht] at hgone
      cases hgone

/-- A process that is still there is as the history says. -/
theorem shown_exec {s t : CMActionsService} {h : ScreenHistory} {es : List ServiceEvent}
    (hs : s.Shown h) (hrun : exec step s es = some t) (ht : t.thrown = false) :
    t.Shown (es.foldl ScreenHistory.next h) := by
  induction es generalizing s h with
  | nil =>
      cases hrun
      exact hs
  | cons e es ih =>
      have halive := alive_of_exec hrun ht
      rcases exec_cons hrun with ⟨u, hu, hrest⟩
      rcases shown_step hs halive e with ⟨u', hu', _, hnext⟩
      cases hu.symm.trans hu'
      exact ih (hnext (alive_of_exec hrest ht)) hrest

/-- The parts listen while the screen is off. -/
def ListensOff (h : ScreenHistory) (off : Bool) : Prop :=
  (h.flatUp.listening = true → off = true) ∧ (h.irGesture.listening = true → off = true) ∧
    (h.stow.listening = true → off = true)

theorem listensOff_next {h : ScreenHistory} {off : Bool} (hs : ListensOff h off)
    (e : ServiceEvent) : ListensOff (h.next e) (screenIsOff off [e]) := by
  cases e with
  | screen action calls =>
      simp only [screenIsOff, List.foldl_cons, List.foldl_nil, ScreenHistory.next]
      by_cases hoff : action = ACTION_SCREEN_OFF
      · simp only [if_pos hoff]
        exact ⟨fun _ => rfl, fun _ => rfl, fun _ => rfl⟩
      · simp only [if_neg hoff]
        by_cases hon : action = ACTION_SCREEN_ON
        · simp only [if_pos hon]
          exact ⟨id, id, id⟩
        · simp only [if_neg hon]
          exact hs
  | preferenceChanged part key value =>
      cases part with
      | camera | flashlight => exact hs
      | flatUp | irGesture | stow =>
          simp only [ScreenHistory.next]
          split <;> exact hs
  | silencer e =>
      rcases next_silencer h e with ⟨hflat, hir, hstow⟩
      unfold ListensOff
      rw [hflat, hir, hstow]
      exact hs
  | flatUpChanged | flatUpStowChanged | irGestureChanged | stowChanged | cameraActivated
  | chopChop => exact hs

theorem listensOff_foldl {h : ScreenHistory} {off : Bool} (hs : ListensOff h off)
    (es : List ServiceEvent) : ListensOff (es.foldl ScreenHistory.next h) (screenIsOff off es) := by
  induction es generalizing h off with
  | nil => exact hs
  | cons e es ih => exact ih (listensOff_next hs e)

/-- A part that wants a pulse hears its sensor, so it listens. -/
theorem listening_of_wantsPulse {s : CMActionsService} {h : ScreenHistory} {e : ServiceEvent}
    {now : Int} (hs : s.Shown h) (hheard : s.heard e = true) (hwants : s.wantsPulse e = some now) :
    h.flatUp.listening = true ∨ h.irGesture.listening = true ∨ h.stow.listening = true := by
  cases e with
  | flatUpChanged => exact Or.inl (hs.flatUp.2.1.symm.trans hheard)
  | irGestureChanged => exact Or.inr (Or.inl (hs.irGesture.2.symm.trans hheard))
  | stowChanged => exact Or.inr (Or.inr (hs.stow.2.symm.trans hheard))
  | screen | flatUpStowChanged | cameraActivated | chopChop | preferenceChanged | silencer =>
      cases hwants

/-! ## The clock -/

/-- The events for the limiter come at times of the run. -/
theorem dozeEvents_times (s : CMActionsService) (e : ServiceEvent) :
    ((s.dozeEvents e).map Cooldown.Event.time).Sublist e.dozeTime.toList := by
  unfold dozeEvents
  by_cases hrun : (!s.thrown && s.heard e) = true
  · rw [if_pos hrun]
    cases e with
    | screen action calls =>
        simp only [ServiceEvent.dozeTime]
        split
        · exact List.Sublist.refl _
        · exact List.nil_sublist _
    | flatUpChanged | irGestureChanged | stowChanged =>
        simp only [wantsPulse, ServiceEvent.dozeTime]
        split
        · exact List.Sublist.refl _
        · exact List.nil_sublist _
    | flatUpStowChanged | cameraActivated | chopChop | preferenceChanged | silencer =>
        exact List.nil_sublist _
  · rw [if_neg hrun]
    exact List.nil_sublist _

theorem trace_times {s t : CMActionsService} {es : List ServiceEvent}
    (h : exec step s es = some t) :
    ((trace step dozeEvents s es).map Cooldown.Event.time).Sublist
      (es.filterMap ServiceEvent.dozeTime) := by
  induction es generalizing s with
  | nil => exact List.Sublist.refl _
  | cons e es ih =>
      rcases exec_cons h with ⟨u, hu, hrest⟩
      have happ := (dozeEvents_times s e).append (ih hrest)
      simp only [trace, hu, List.map_append]
      refine happ.trans ?_
      rw [List.filterMap_cons]
      cases e.dozeTime <;> exact List.Sublist.refl _

theorem forward_trace {s t : CMActionsService} {es : List ServiceEvent} {start : Int}
    (h : exec step s es = some t) (hclock : ClockForward start es)
    (hstart : s.mDozePulseAction.mLastDoze ≤ start) :
    Cooldown.Forward s.mDozePulseAction.mLastDoze (trace step dozeEvents s es) := by
  refine Cooldown.forward_of_le ?_ hstart
  exact Cooldown.forward_of_pairwise (hclock.sublist ((trace_times h).cons_cons start))

/-- The marks of a process that is still there are those of the screen. -/
theorem mark_mem_trace {s t : CMActionsService} {es : List ServiceEvent}
    (h : exec step s es = some t) (ht : t.thrown = false) (now : Int) :
    Cooldown.Event.mark now ∈ trace step dozeEvents s es ↔ now ∈ screenOffs es := by
  induction es generalizing s with
  | nil => simp only [trace, screenOffs, List.filterMap_nil, List.not_mem_nil]
  | cons e es ih =>
      have halive := alive_of_exec h ht
      rcases exec_cons h with ⟨u, hu, hrest⟩
      have hone : Cooldown.Event.mark now ∈ s.dozeEvents e ↔ now ∈ screenOffs [e] := by
        cases e with
        | screen action calls =>
            simp only [dozeEvents, halive, heard, Bool.not_false, Bool.and_true, if_true,
              screenOffs]
            by_cases hoff : action = ACTION_SCREEN_OFF <;> simp [hoff]
        | flatUpChanged | irGestureChanged | stowChanged | flatUpStowChanged | cameraActivated
        | chopChop | preferenceChanged | silencer =>
            simp only [dozeEvents, screenOffs]
            split <;> simp
      have hsplit : screenOffs (e :: es) = screenOffs [e] ++ screenOffs es := by
        rw [screenOffs, screenOffs, screenOffs, ← List.filterMap_append, List.singleton_append]
      simp only [trace, hu]
      rw [List.mem_append, hone, ih hrest, hsplit, List.mem_append]

/-! ## The pulses -/

theorem create_doze (stored : String → Option Bool) (config : IrConfig) (ioctls : IrIoctls)
    (cameraAccepts flashlightAccepts isInteractive : Bool) (calls : ScreenCalls) :
    (create stored config ioctls cameraAccepts flashlightAccepts isInteractive
        calls).mDozePulseAction.mLastDoze =
      if cameraAccepts = true ∧ flashlightAccepts = true ∧ isInteractive = false then
        calls.currentTimeMillis
      else 0 := by
  rcases create_eq stored config ioctls cameraAccepts flashlightAccepts isInteractive calls with
    ⟨hcamera, hflashlight, _, heq⟩ | ⟨hrefused, _, heq⟩
  · rw [heq, hcamera, hflashlight]
    cases isInteractive with
    | true => rfl
    | false => exact screenTurnedOff_doze _ calls
  · rw [heq, if_neg fun h => hrefused ⟨h.1, h.2.1⟩]
    rfl

theorem create_doze_le {stored : String → Option Bool} {config : IrConfig} {ioctls : IrIoctls}
    {cameraAccepts flashlightAccepts isInteractive : Bool} {calls : ScreenCalls}
    (hstart : 0 ≤ calls.currentTimeMillis) :
    (create stored config ioctls cameraAccepts flashlightAccepts isInteractive
      calls).mDozePulseAction.mLastDoze ≤ calls.currentTimeMillis := by
  rw [create_doze]
  split <;> omega

/-- A pulse answers an event that wants one, at the time of that event. -/
theorem mem_pulses_out_iff (s : CMActionsService) (e : ServiceEvent) (now : Int) :
    now ∈ pulses (s.out e) ↔ s.thrown = false ∧ s.heard e = true ∧ s.wantsPulse e = some now ∧
      s.mDozePulseAction.mLastDoze + DELAY_BETWEEN_DOZES_IN_MS < now := by
  rcases step_total s e with ⟨t, ht⟩
  rw [(doze_step ht).2]
  unfold dozeEvents
  by_cases hrun : (!s.thrown && s.heard e) = true
  · rw [if_pos hrun]
    simp only [Bool.and_eq_true, Bool.not_eq_true'] at hrun
    rw [and_iff_right hrun.1, and_iff_right hrun.2]
    -- An event asks at most once, so the run of requests is one or none.
    have hone : ∀ wanted : Option Int,
        now ∈ Cooldown.passes DELAY_BETWEEN_DOZES_IN_MS s.mDozePulseAction.mLastDoze
            (wanted.toList.map .request) ↔
          wanted = some now ∧
            s.mDozePulseAction.mLastDoze + DELAY_BETWEEN_DOZES_IN_MS < now := by
      intro wanted
      cases wanted with
      | none => simp [Cooldown.passes]
      | some t =>
          simp only [Option.toList_some, List.map_cons, List.map_nil, Cooldown.passes,
            Cooldown.allows, decide_eq_true_eq, Option.some.injEq]
          split
          · simp only [List.mem_singleton]
            omega
          · simp only [List.not_mem_nil, false_iff]
            omega
    cases e with
    | screen action calls =>
        simp only [wantsPulse]
        split <;> simp [Cooldown.passes]
    | flatUpChanged | irGestureChanged | stowChanged | flatUpStowChanged | cameraActivated
    | chopChop | preferenceChanged | silencer => exact hone _
  · rw [if_neg hrun]
    simp only [Cooldown.passes, List.not_mem_nil, false_iff]
    rintro ⟨halive, hheard, _⟩
    exact hrun (by simp [halive, hheard])

/-- Pulses are for those who listen, and these do so while the screen is off. -/
theorem screenIsOff_of_pulse {stored : String → Option Bool} {config : IrConfig}
    {ioctls : IrIoctls} {cameraAccepts flashlightAccepts isInteractive : Bool}
    {calls : ScreenCalls} {pre : List ServiceEvent} {s : CMActionsService}
    (hrun : exec step (create stored config ioctls cameraAccepts flashlightAccepts isInteractive
      calls) pre = some s) {e : ServiceEvent} {now : Int} (hpulse : now ∈ pulses (s.out e)) :
    screenIsOff (!isInteractive) pre = true := by
  rcases (mem_pulses_out_iff s e now).mp hpulse with ⟨halive, hheard, hwants, _⟩
  have hshown := shown_exec ((shown_create stored config ioctls cameraAccepts flashlightAccepts
    isInteractive calls).2 (alive_of_exec hrun halive)) hrun halive
  have hfirst : ListensOff (.created stored isInteractive) (!isInteractive) := by
    cases isInteractive with
    | true => exact ⟨id, id, id⟩
    | false => exact ⟨fun _ => rfl, fun _ => rfl, fun _ => rfl⟩
  rcases listensOff_foldl hfirst pre with ⟨hflat, hir, hstow⟩
  rcases listening_of_wantsPulse hshown hheard hwants with h | h | h
  · exact hflat h
  · exact hir h
  · exact hstow h

/-- Any two pulses are more than 1500 ms apart, so that there are no more than
    one in each 1501 ms of a window and one more; and the screen is off when
    there is one. -/
theorem pulses_spaced (stored : String → Option Bool) (config : IrConfig) (ioctls : IrIoctls)
    (cameraAccepts flashlightAccepts isInteractive : Bool) (calls : ScreenCalls)
    (es : List ServiceEvent) (hstart : 0 ≤ calls.currentTimeMillis)
    (hclock : ClockForward calls.currentTimeMillis es) :
    let s := create stored config ioctls cameraAccepts flashlightAccepts isInteractive calls
    (pulses (trace step out s es)).Pairwise
        (fun a b => a + DELAY_BETWEEN_DOZES_IN_MS < b) ∧
      (∀ start length, 0 ≤ length →
        (((pulses (trace step out s es)).filter fun now =>
          decide (start ≤ now ∧ now ≤ start + length)).length : Int) ≤ length / 1501 + 1) ∧
      ∀ pre e post t now, es = pre ++ e :: post → exec step s pre = some t →
        now ∈ pulses (t.out e) → screenIsOff (!isInteractive) pre = true := by
  intro s
  rcases exec_total s es with ⟨t, hrun⟩
  have hforward := forward_trace hrun hclock (create_doze_le hstart)
  have hspaced : Cooldown.Spaced DELAY_BETWEEN_DOZES_IN_MS (pulses (trace step out s es)) := by
    rw [(pulses_eq_passes hrun).2]
    exact Cooldown.passes_spaced (by decide) hforward
  refine ⟨hspaced, fun start length hlength => ?_, ?_⟩
  · refine Cooldown.Spaced.length_le (d := DELAY_BETWEEN_DOZES_IN_MS) (t := start) (by decide)
      (hspaced.sublist List.filter_sublist) (fun now hnow => ?_) hlength
    exact of_decide_eq_true (List.mem_filter.mp hnow).2
  · intro pre e post t now _ hpre hpulse
    exact screenIsOff_of_pulse hpre hpulse

/-- A sensor service that takes every listener, at the time 1000. -/
def quietCalls : ScreenCalls where
  flatUpAccepts := true
  flatUpStowAccepts := true
  ir := Silencers.acceptedCalls
  stowAccepts := true
  currentTimeMillis := 1000

/-- The service is created with the screen off, and nothing is stored. -/
def createdOff : CMActionsService :=
  create (fun _ => none) IrVoters.freshConfig IrVoters.bothIoctls true true false quietCalls

theorem one_pulse_in_a_second :
    ((pulses (trace step out createdOff
      [.flatUpChanged true 3000, .flatUpChanged false 3000, .flatUpChanged true 3500,
        .flatUpChanged false 3500])).filter fun now =>
          decide (3000 ≤ now ∧ now ≤ 3000 + 1000)).length ≤ 1 := by
  have h := (pulses_spaced (fun _ => none) IrVoters.freshConfig IrVoters.bothIoctls true true
    false quietCalls [.flatUpChanged true 3000, .flatUpChanged false 3000,
      .flatUpChanged true 3500, .flatUpChanged false 3500] (by decide) (by decide)).2.1 3000 1000
    (by decide)
  exact Int.ofNat_le.mp h

end CMActionsService

end NxActions

end Victara
