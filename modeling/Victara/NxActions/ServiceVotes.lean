import Victara.NxActions.GestureService
import Victara.NxActions.IrRecovery

/-!
# The Votes of the Gesture Service

The service has three voters for the infrared sensor: `IrGestureSensor`, and the
two silencers. Every event of the service is at most one vote of one of them, so
a run of the service is one of `IrVoters`, in which the votes add up. What is
registered and what is voted for go together in all three, and so the sensor
looks for what its listeners are for.

The proof has two steps. An event of the service changes at most one of the
three votes, and leaves the sensor configuration as `updateState` with the old
and the new vote does: `casts_of_step` says so of all events, part by part. Then
a run of the service is a run of the voters, in which each vote is a call, its
`updateState` and its store without anything in between, and the invariant of
the voters is there to be used.

## Main definitions

* `ServiceVoter`, `CMActionsService.vote`: The voters, and what they vote for.
* `ServiceEvent.ioctls`: What the two native calls of an event do, if it may
  vote.
* `ServiceEvent.NativeOk`: The native calls of an event succeed.
* `CMActionsService.Casts`: One voter casts a vote.
* `Abstains`: Nobody votes.
* `CMActionsService.Represents`: The service is a state of the voters.
* `CastsOrNot`: A part replaces its vote, or leaves everything as it is.
* `IrConfig.Tuned`: The native calls read a configuration that they can read,
  whatever is changed in it.
* `Backs`: What is registered is voted for.

## Theorems

* `startListening_cases`: A listener that is taken votes, and one that is
  refused does not.
* `casts_or_abstains`: A part of the service votes or not, and no other does.
* `casts_screen`: What the screen does to the votes.
* `casts_of_step`: An event is at most one vote.
* `updateSensorConfig_ok`: No call fails whose ioctls succeed.
* `represents_of_casts`: A voter that is idle votes without another coming in
  between.
* `exists_represents_of_casts`: A vote in which the ioctls succeed leaves the
  sensor as tuned as it was.
* `exists_represents_run`: Every run of the service is one of its voters.
* `exists_represents`: Every run of the service is one of the voters.
* `vote_bits`: What the three votes come to.
* `sensor_follows_listeners`: The sensor looks for what its listeners are for.
-/

namespace Victara

namespace NxActions

open StepSystem

/-- Who votes for the sensor. -/
inductive ServiceVoter
  | irGesture
  | irSilencer
  | alarmSilencer
  deriving DecidableEq

instance : Fintype ServiceVoter where
  elems := {.irGesture, .irSilencer, .alarmSilencer}
  complete := by
    intro v
    cases v <;> decide

/-- What the two native calls of an event do, if it may vote. -/
def ServiceEvent.ioctls : ServiceEvent → IrIoctls × IrIoctls
  | .screen _ e => (e.ir.ioctls₁, e.ir.ioctls₂)
  | .silencer (.callStateChanged _ e) => (e.ioctls₁, e.ioctls₂)
  | .silencer (.alarm _ e) => (e.ioctls₁, e.ioctls₂)
  | _ => (⟨true, true⟩, ⟨true, true⟩)

/-- Their ioctls succeed. -/
def ServiceEvent.NativeOk (e : ServiceEvent) : Prop :=
  e.ioctls = (⟨true, true⟩, ⟨true, true⟩)

instance (e : ServiceEvent) : Decidable e.NativeOk :=
  inferInstanceAs (Decidable (e.ioctls = _))

namespace CMActionsService

/-- What the voters have voted for. -/
def vote (s : CMActionsService) : ServiceVoter → BitVec 32
  | .irGesture => s.irGesture.listening.mLastFlags
  | .irSilencer => s.silencers.ir.mLastFlags
  | .alarmSilencer => s.silencers.alarm.mLastFlags

/-- `v` replaces its vote by `flags`. -/
structure Casts (s t : CMActionsService) (v : ServiceVoter) (flags : BitVec 32)
    (ioctls : IrIoctls × IrIoctls) : Prop where
  shared : t.silencers.shared =
    ⟨(updateState s.silencers.shared.manager s.silencers.shared.config ioctls.1 ioctls.2
        (s.vote v) flags).1,
      (updateState s.silencers.shared.manager s.silencers.shared.config ioctls.1 ioctls.2
        (s.vote v) flags).2.1⟩
  vote : t.vote = Function.update s.vote v flags

/-- Nobody votes. -/
structure Abstains (s t : CMActionsService) : Prop where
  shared : t.silencers.shared = s.silencers.shared
  vote : t.vote = s.vote

/-- The service is the state `a` of its voters, none of which is in a call. All
    votes are made in the main thread, so that one is over before the next. -/
structure Represents (s : CMActionsService) (a : IrVoters ServiceVoter) : Prop where
  manager : a.manager = s.silencers.shared.manager
  config : a.config = s.silencers.shared.config
  idle : ∀ v, (a.voters v).pc = .idle
  votes : ∀ v, (a.voters v).mLastFlags.bits = s.vote v

end CMActionsService

/-! ## One vote -/

/-- A part replaces its vote, or leaves everything as it is. -/
def CastsOrNot (g g' : Shared) (l l' : Listening) (ioctls : IrIoctls × IrIoctls) : Prop :=
  (∃ flags : IrFlags,
      g' = ⟨(updateState g.manager g.config ioctls.1 ioctls.2 l.mLastFlags flags.bits).1,
        (updateState g.manager g.config ioctls.1 ioctls.2 l.mLastFlags flags.bits).2.1⟩ ∧
      l'.mLastFlags = flags.bits) ∨
    (g' = g ∧ l'.mLastFlags = l.mLastFlags)

theorem registerListener_flags (l : Listening) (e : SilencerCalls) :
    (registerListener l e).1.mLastFlags = l.mLastFlags := by
  unfold registerListener
  split <;> rfl

/-- A listener that is taken votes, and one that is refused does not. -/
theorem startListening_cases (g : Shared) (l : Listening) (e : SilencerCalls) (flags : BitVec 32) :
    ((startListening g l e flags).2.2 = true ∧
        (startListening g l e flags).1 = (voteForSensors g l e flags).1 ∧
        (startListening g l e flags).2.1.mLastFlags = flags) ∨
      ((startListening g l e flags).2.2 = false ∧ (startListening g l e flags).1 = g ∧
        (startListening g l e flags).2.1.mLastFlags = l.mLastFlags) := by
  have hflags := registerListener_flags l e
  unfold startListening
  by_cases htaken : (registerListener l e).2 = true
  · refine Or.inl ⟨?_, ?_, ?_⟩ <;> simp only [if_pos htaken, voteForSensors, hflags]
  · refine Or.inr ⟨?_, ?_, ?_⟩ <;> simp only [if_neg htaken, hflags]

theorem casts_startListening (g : Shared) (l : Listening) (e : SilencerCalls) (flags : IrFlags) :
    CastsOrNot g (startListening g l e flags.bits).1 l (startListening g l e flags.bits).2.1
      (e.ioctls₁, e.ioctls₂) := by
  rcases startListening_cases g l e flags.bits with ⟨_, hshared, hlast⟩ | ⟨_, hshared, hlast⟩
  · exact Or.inl ⟨flags, hshared, hlast⟩
  · exact Or.inr ⟨hshared, hlast⟩

theorem casts_stopListening (g : Shared) (l : Listening) (e : SilencerCalls) :
    CastsOrNot g (stopListening g l e).1 l (stopListening g l e).2 (e.ioctls₁, e.ioctls₂) :=
  Or.inl ⟨.none, rfl, rfl⟩

def irGestureFlags : IrFlags := ⟨IR_GESTURES_FOR_SCREEN_OFF, by decide⟩

def ringingFlags : IrFlags := ⟨IR_GESTURES_FOR_RINGING, by decide⟩

def alarmFlags : IrFlags := ⟨IR_GESTURES_FOR_ALARM, by decide⟩

theorem casts_screenTurnedOff (s : IrGestureSensor) (g : Shared) (e : SilencerCalls) :
    CastsOrNot g (s.screenTurnedOff g e).1 s.listening (s.screenTurnedOff g e).2.1.listening
      (e.ioctls₁, e.ioctls₂) := by
  unfold IrGestureSensor.screenTurnedOff
  cases s.mGestureIrEnabled with
  | true => exact casts_startListening g s.listening e irGestureFlags
  | false => exact casts_stopListening g s.listening e

theorem casts_onCallStateChanged (s : Silencers) (state : Int) (e : SilencerCalls) :
    CastsOrNot s.shared (s.onCallStateChanged state e).shared s.ir
      (s.onCallStateChanged state e).ir (e.ioctls₁, e.ioctls₂) := by
  unfold Silencers.onCallStateChanged
  split
  · rcases startListening_cases s.shared s.ir e IR_GESTURES_FOR_RINGING with
      ⟨htaken, hshared, hlast⟩ | ⟨hrefused, _, hlast⟩
    · simp only [htaken, if_true]
      exact Or.inl ⟨ringingFlags, hshared, hlast⟩
    · simp only [hrefused, Bool.false_eq_true, if_false]
      exact Or.inr ⟨rfl, hlast⟩
  · split
    · exact casts_stopListening s.shared s.ir e
    · exact Or.inr ⟨rfl, rfl⟩

theorem casts_onReceive (s : Silencers) (action : String) (e : SilencerCalls) :
    CastsOrNot s.shared (s.onReceive action e).shared s.alarm (s.onReceive action e).alarm
      (e.ioctls₁, e.ioctls₂) := by
  rcases Silencers.onReceive_cases s action e with ⟨_, _, heq⟩ | ⟨_, heq⟩
  · rw [heq]
    exact casts_startListening s.shared s.alarm e alarmFlags
  · rw [heq]
    exact casts_stopListening s.shared s.alarm e

theorem onCallStateChanged_other (s : Silencers) (state : Int) (e : SilencerCalls) :
    (s.onCallStateChanged state e).alarm.mLastFlags = s.alarm.mLastFlags := by
  rw [(Silencers.onCallStateChanged_alarm s state e).1]

theorem onReceive_other (s : Silencers) (action : String) (e : SilencerCalls) :
    (s.onReceive action e).ir = s.ir := by
  rcases Silencers.onReceive_cases s action e with ⟨_, _, heq⟩ | ⟨_, heq⟩ <;> rw [heq]

namespace CMActionsService

/-- A part of the service votes or not, and no other does. -/
theorem casts_or_abstains {s t : CMActionsService} {l m : Listening}
    {ioctls : IrIoctls × IrIoctls} (v : ServiceVoter)
    (h : CastsOrNot s.silencers.shared t.silencers.shared l m ioctls)
    (hold : s.vote v = l.mLastFlags) (hnew : t.vote v = m.mLastFlags)
    (hother : ∀ w, w ≠ v → t.vote w = s.vote w) :
    (∃ flags : IrFlags, s.Casts t v flags.bits ioctls) ∨ s.Abstains t := by
  rcases h with ⟨flags, hshared, hflags⟩ | ⟨hshared, hflags⟩
  · refine Or.inl ⟨flags, ?_, ?_⟩
    · rw [hold]
      exact hshared
    · funext w
      by_cases hw : w = v
      · rw [hw, Function.update_self, hnew, hflags]
      · rw [Function.update_of_ne hw, hother w hw]
  · refine Or.inr ⟨hshared, ?_⟩
    funext w
    by_cases hw : w = v
    · rw [hw, hnew, hflags, hold]
    · exact hother w hw

/-- What the screen does to the votes. -/
theorem casts_screen (s : CMActionsService) (action : String) (e : ScreenCalls) :
    (∃ flags : IrFlags, s.Casts (s.onReceive action e) .irGesture flags.bits
      (e.ir.ioctls₁, e.ir.ioctls₂)) ∨ s.Abstains (s.onReceive action e) := by
  unfold onReceive
  split
  · have hcasts := casts_screenTurnedOff s.irGesture s.silencers.shared e.ir
    simp only [screenTurnedOff, setShared]
    by_cases hflat : (s.flatUp.screenTurnedOff e).2 = true
    · rw [if_pos hflat]
      refine casts_or_abstains (l := s.irGesture.listening)
        (m := (s.irGesture.screenTurnedOff s.silencers.shared e.ir).2.1.listening) .irGesture
        ?_ rfl ?_ fun w hw => ?_
      · split <;> exact hcasts
      · split <;> rfl
      · split <;> cases w <;> first | rfl | exact absurd rfl hw
    · rw [if_neg hflat]
      exact Or.inr ⟨rfl, by funext w; cases w <;> rfl⟩
  · split
    · exact casts_or_abstains (l := s.irGesture.listening) .irGesture
        (casts_stopListening s.silencers.shared s.irGesture.listening e.ir) rfl rfl
        fun w hw => by cases w <;> first | rfl | exact absurd rfl hw
    · exact Or.inr ⟨rfl, rfl⟩

/-- An event is at most one vote. -/
theorem casts_of_step {s t : CMActionsService} {e : ServiceEvent} (h : s.step e = some t) :
    (∃ (v : ServiceVoter) (flags : IrFlags), s.Casts t v flags.bits e.ioctls) ∨ s.Abstains t := by
  rcases step_alive h with rfl | ⟨_, _, rfl⟩
  · exact Or.inr ⟨rfl, rfl⟩
  · cases e with
    | screen action calls =>
        rcases casts_screen s action calls with ⟨flags, hcasts⟩ | habstains
        · exact Or.inl ⟨.irGesture, flags, hcasts⟩
        · exact Or.inr habstains
    -- The sensors ask for pulses and never vote.
    | flatUpChanged thisFlatUp now =>
        rcases doze_eq s (s.flatUp.onFlatUpChanged thisFlatUp).2 now with ⟨a, ha⟩
        simp only [handle, ha]
        exact Or.inr ⟨rfl, by funext w; cases w <;> rfl⟩
    | irGestureChanged gesture now =>
        rcases doze_eq s (s.irGesture.onSensorChanged gesture) now with ⟨a, ha⟩
        simp only [handle, ha]
        exact Or.inr ⟨rfl, by funext w; cases w <;> rfl⟩
    | stowChanged thisStowed now =>
        rcases doze_eq s (s.stow.onSensorChanged thisStowed).2 now with ⟨a, ha⟩
        simp only [handle, ha]
        exact Or.inr ⟨rfl, by funext w; cases w <;> rfl⟩
    | flatUpStowChanged | cameraActivated | chopChop =>
        exact Or.inr ⟨rfl, by funext w; cases w <;> rfl⟩
    | preferenceChanged part key value =>
        refine Or.inr ⟨?_, ?_⟩
        · cases part <;> simp only [handle, onSharedPreferenceChanged] <;> split <;> rfl
        · funext w
          cases part <;> simp only [handle, onSharedPreferenceChanged] <;> split <;>
            cases w <;> rfl
    | silencer e =>
        cases e with
        -- A silencer may vote with its own voter, and leaves the flags of the two others.
        | callStateChanged state calls =>
            have hcasts := casts_or_abstains (s := s) (t := s.handle (.silencer
              (.callStateChanged state calls))) .irSilencer
              (casts_onCallStateChanged s.silencers state calls) rfl rfl fun w hw => by
                cases w with
                | irGesture => rfl
                | irSilencer => exact absurd rfl hw
                | alarmSilencer => exact onCallStateChanged_other s.silencers state calls
            exact hcasts.imp_left fun h => ⟨.irSilencer, h⟩
        | alarm action calls =>
            have hcasts := casts_or_abstains (s := s) (t := s.handle (.silencer
              (.alarm action calls))) .alarmSilencer
              (casts_onReceive s.silencers action calls) rfl rfl fun w hw => by
                cases w with
                | irGesture => rfl
                | irSilencer =>
                    exact congrArg Listening.mLastFlags (onReceive_other s.silencers action calls)
                | alarmSilencer => exact absurd rfl hw
            exact hcasts.imp_left fun h => ⟨.alarmSilencer, h⟩
        | irSensorChanged | alarmSensorChanged =>
            exact Or.inr ⟨rfl, by funext w; cases w <;> rfl⟩
        | irPreferenceChanged key value | alarmPreferenceChanged key value =>
            refine Or.inr ⟨?_, ?_⟩
            · simp only [handle, Silencers.step]
              split <;> rfl
            · funext w
              simp only [handle, Silencers.step]
              split <;> cases w <;> rfl

end CMActionsService

/-! ## The native calls -/

/-- The native calls read a configuration that they can read, whatever is changed in it. -/
def IrConfig.Tuned (config : IrConfig) : Prop :=
  STM401_IR_CONFIG_TUNING_NUMBER_MIN ≤ config.tuning_number ∧
    config.tuning_number ≤ STM401_IR_CONFIG_TUNING_NUMBER_MAX

instance (config : IrConfig) : Decidable config.Tuned := inferInstanceAs (Decidable (_ ∧ _))

theorem nativeOk_of_tuned {config : IrConfig} (h : config.Tuned) :
    nativeOk config ⟨true, true⟩ = true := by
  unfold nativeOk readIrConfig
  rw [decide_eq_true h.1, decide_eq_true h.2]
  rfl

theorem setIrWakeConfig_tuning (config : IrConfig) (ioctls : IrIoctls) (wake : BitVec 32) :
    (setIrWakeConfig config ioctls wake).1.tuning_number = config.tuning_number := by
  unfold setIrWakeConfig writeBack
  split <;> rfl

theorem updateState_tuning (m : IrGestureManager) (config : IrConfig)
    (ioctls : IrIoctls × IrIoctls) (oldFlags newFlags : BitVec 32) :
    (updateState m config ioctls.1 ioctls.2 oldFlags newFlags).2.1.tuning_number =
      config.tuning_number := by
  simp only [updateState, updateSensorConfig]
  split
  · exact (setIrWakeConfig_tuning _ _ _).trans (setIrDisabled_eq config ioctls.1 _).1
  · rfl

/-- No call fails whose ioctls succeed. -/
theorem updateSensorConfig_ok {config : IrConfig} (h : config.Tuned) (m : IrGestureManager)
    (gestures : BitVec 32) :
    (updateSensorConfig m config ⟨true, true⟩ ⟨true, true⟩ gestures).2.2 = true := by
  by_cases hsame : m.mGestures = gestures
  · rw [updateSensorConfig_same hsame]
  · rw [(updateSensorConfig_changed hsame config _ _).2.2, nativeOk_of_tuned h]
    rfl

/-! ## The run of the voters -/

namespace CMActionsService

/-- A voter that is idle votes without another coming in between. -/
theorem represents_of_casts {s t : CMActionsService} {a : IrVoters ServiceVoter}
    {v : ServiceVoter} {flags : IrFlags} {ioctls : IrIoctls × IrIoctls} (ha : s.Represents a)
    (h : s.Casts t v flags.bits ioctls) :
    ∃ b, exec IrVoters.step a [.call v flags, .update v ioctls.1 ioctls.2, .store v] = some b ∧
      t.Represents b ∧
      b.ok = (a.ok && (updateState a.manager a.config ioctls.1 ioctls.2
        (a.voters v).mLastFlags.bits flags.bits).2.2) := by
  have hidle := ha.idle v
  simp only [exec, IrVoters.step, hidle, Option.bind_some, IrVoters.setVoter,
    Function.update_self]
  refine ⟨_, rfl, ⟨?_, ?_, fun w => ?_, fun w => ?_⟩, rfl⟩
  · rw [h.shared, ha.manager, ha.config, ha.votes]
  · rw [h.shared, ha.manager, ha.config, ha.votes]
  · by_cases hw : w = v
    · simp only [hw, Function.update_self]
    · simp only [Function.update_of_ne hw]
      exact ha.idle w
  · rw [h.vote]
    by_cases hw : w = v
    · simp only [hw, Function.update_self]
    · simp only [Function.update_of_ne hw]
      exact ha.votes w

theorem represents_of_abstains {s t : CMActionsService} {a : IrVoters ServiceVoter}
    (ha : s.Represents a) (h : s.Abstains t) : t.Represents a where
  manager := by rw [ha.manager, h.shared]
  config := by rw [ha.config, h.shared]
  idle := ha.idle
  votes := by
    intro v
    rw [ha.votes, h.vote]

/-- A vote in which the ioctls succeed leaves the sensor as tuned as it was. -/
theorem exists_represents_of_casts {s t : CMActionsService} {a : IrVoters ServiceVoter}
    {ioctls : IrIoctls × IrIoctls} (ha : s.Represents a)
    (h : (∃ (v : ServiceVoter) (flags : IrFlags), s.Casts t v flags.bits ioctls) ∨
      s.Abstains t) :
    ∃ ls b, exec IrVoters.step a ls = some b ∧ t.Represents b ∧
      (a.config.Tuned → b.config.Tuned) ∧
      (a.config.Tuned → ioctls = (⟨true, true⟩, ⟨true, true⟩) → a.ok = true → b.ok = true) := by
  rcases h with ⟨v, flags, hcasts⟩ | habstains
  · rcases represents_of_casts ha hcasts with ⟨b, hrun, hb, hok⟩
    refine ⟨_, b, hrun, hb, ?_, ?_⟩
    · unfold IrConfig.Tuned
      rw [hb.config, hcasts.shared, updateState_tuning, ha.config]
      exact id
    · rintro htuned rfl haok
      rw [hok, haok, Bool.true_and]
      exact updateSensorConfig_ok htuned _ _
  · exact ⟨[], a, rfl, represents_of_abstains ha habstains, id, fun _ _ => id⟩

/-- Every run of the service is one of its voters. -/
theorem exists_represents_run {s t : CMActionsService} {a : IrVoters ServiceVoter}
    {es : List ServiceEvent} (ha : s.Represents a) (hrun : exec step s es = some t) :
    ∃ ls b, exec IrVoters.step a ls = some b ∧ t.Represents b ∧
      (a.config.Tuned → (∀ e ∈ es, e.NativeOk) → a.ok = true → b.ok = true) := by
  induction es generalizing s a with
  | nil =>
      cases hrun
      exact ⟨[], a, rfl, ha, fun _ _ => id⟩
  | cons e es ih =>
      rcases exec_cons hrun with ⟨u, hu, hrest⟩
      rcases exists_represents_of_casts ha (casts_of_step hu) with ⟨ls, b, hls, hb, htuned, hok⟩
      rcases ih hb hrest with ⟨ls', c, hls', hc, hok'⟩
      refine ⟨ls ++ ls', c, (exec_append hls).trans hls', hc, fun ha' hes haok => ?_⟩
      refine hok' (htuned ha') (fun e' he' => hes e' (List.mem_cons_of_mem e he')) ?_
      exact hok ha' (hes e List.mem_cons_self) haok

theorem casts_create (stored : String → Option Bool) (config : IrConfig) (ioctls : IrIoctls)
    (cameraAccepts flashlightAccepts isInteractive : Bool) (e : ScreenCalls) :
    let s := build stored config ioctls cameraAccepts flashlightAccepts
    let t := create stored config ioctls cameraAccepts flashlightAccepts isInteractive e
    (∃ (v : ServiceVoter) (flags : IrFlags), s.Casts t v flags.bits (e.ir.ioctls₁, e.ir.ioctls₂)) ∨
      s.Abstains t := by
  intro s t
  rcases create_eq stored config ioctls cameraAccepts flashlightAccepts isInteractive e with
    ⟨_, _, _, heq⟩ | ⟨_, _, heq⟩
  · have hscreen : ∃ action, t = s.onReceive action e := by
      cases isInteractive with
      | true => exact ⟨ACTION_SCREEN_ON, heq⟩
      | false => exact ⟨ACTION_SCREEN_OFF, heq⟩
    rcases hscreen with ⟨action, ht⟩
    rw [ht]
    exact (casts_screen s action e).imp_left fun h => ⟨.irGesture, h⟩
  · have ht : t = s := heq
    rw [ht]
    exact Or.inr ⟨rfl, rfl⟩

/-- A run of the service is one of its voters, from their start. Where all of
    its ioctls succeed, so do its native calls. -/
theorem exists_represents (stored : String → Option Bool) (config : IrConfig) (ioctls : IrIoctls)
    (cameraAccepts flashlightAccepts isInteractive : Bool) (calls : ScreenCalls)
    {es : List ServiceEvent} {s : CMActionsService}
    (hrun : exec step (create stored config ioctls cameraAccepts flashlightAccepts isInteractive
      calls) es = some s) :
    ∃ ls a, exec IrVoters.step (IrVoters.init config ioctls) ls = some a ∧ s.Represents a ∧
      (config.Tuned → ioctls = ⟨true, true⟩ →
        calls.ir.ioctls₁ = ⟨true, true⟩ → calls.ir.ioctls₂ = ⟨true, true⟩ →
          (∀ e ∈ es, e.NativeOk) → a.ok = true) := by
  have hbuilt : (build stored config ioctls cameraAccepts flashlightAccepts).Represents
      (IrVoters.init config ioctls) :=
    ⟨rfl, rfl, fun _ => rfl, fun v => by cases v <;> rfl⟩
  rcases exists_represents_of_casts hbuilt (casts_create stored config ioctls cameraAccepts
    flashlightAccepts isInteractive calls) with ⟨ls, a, hls, ha, htuned, hok⟩
  rcases exists_represents_run ha hrun with ⟨ls', b, hls', hb, hok'⟩
  refine ⟨ls ++ ls', b, (exec_append hls).trans hls', hb, ?_⟩
  rintro hconfig rfl hfirst hsecond hes
  have hinit : (IrVoters.init config ⟨true, true⟩ : IrVoters ServiceVoter).config.Tuned := by
    show (setIrDisabled config ⟨true, true⟩ true).1.Tuned
    unfold IrConfig.Tuned
    rw [(setIrDisabled_eq config ⟨true, true⟩ true).1]
    exact hconfig
  have hinitOk : (IrVoters.init config ⟨true, true⟩ : IrVoters ServiceVoter).ok = true := by
    show (setIrDisabled config ⟨true, true⟩ true).2 = true
    rw [(setIrDisabled_eq config ⟨true, true⟩ true).2.2, nativeOk_of_tuned hconfig]
  refine hok' (htuned hinit) hes (hok hinit ?_ hinitOk)
  rw [hfirst, hsecond]

/-! ## The sensor -/

/-- What is registered is voted for. A part that listens without a vote would
    wait for a sensor that is off, and one that votes without listening would
    keep it on. -/
structure Backs (s : CMActionsService) : Prop where
  irGesture : s.irGesture.listening.mLastFlags =
    if s.irGesture.listening.registered then IR_GESTURES_FOR_SCREEN_OFF else 0#32
  silencers : s.silencers.Inv

theorem backs_setShared {s : Silencers} (h : s.Inv) (g : Shared) : { s with shared := g }.Inv :=
  ⟨h.irTwice, h.irRegistered, h.irBacked, h.alarmBacked⟩

theorem irGesture_backed_screenTurnedOff {s : IrGestureSensor}
    (hs : s.listening.mLastFlags =
      if s.listening.registered then IR_GESTURES_FOR_SCREEN_OFF else 0#32)
    (g : Shared) (e : SilencerCalls) :
    (s.screenTurnedOff g e).2.1.listening.mLastFlags =
      if (s.screenTurnedOff g e).2.1.listening.registered then IR_GESTURES_FOR_SCREEN_OFF
      else 0#32 := by
  unfold IrGestureSensor.screenTurnedOff
  cases s.mGestureIrEnabled with
  | true =>
      simp only [if_true, startListening_listening]
      cases hreg : s.listening.registered with
      | true =>
          rw [hreg] at hs
          simpa only [hreg, if_true] using hs
      | false =>
          rw [hreg] at hs
          cases haccepts : e.accepts with
          | true => rfl
          | false => simpa only [hreg, Bool.false_eq_true, if_false] using hs
  | false => rfl

theorem backs_onReceive {s : CMActionsService} (hs : s.Backs) (action : String)
    (e : ScreenCalls) : (s.onReceive action e).Backs := by
  unfold onReceive
  split
  · have hoff := irGesture_backed_screenTurnedOff hs.irGesture s.silencers.shared e.ir
    simp only [screenTurnedOff, setShared]
    by_cases hflat : (s.flatUp.screenTurnedOff e).2 = true
    · rw [if_pos hflat]
      split <;> exact ⟨hoff, backs_setShared hs.silencers _⟩
    · rw [if_neg hflat]
      exact ⟨hs.irGesture, hs.silencers⟩
  · split
    · exact ⟨rfl, backs_setShared hs.silencers _⟩
    · exact hs

theorem backs_step {s t : CMActionsService} {e : ServiceEvent} (hs : s.Backs)
    (h : s.step e = some t) : t.Backs := by
  rcases step_alive h with rfl | ⟨_, _, rfl⟩
  · exact hs
  · cases e with
    | screen action calls => exact backs_onReceive hs action calls
    | flatUpChanged thisFlatUp now =>
        rcases doze_eq s (s.flatUp.onFlatUpChanged thisFlatUp).2 now with ⟨a, ha⟩
        simp only [handle, ha]
        exact ⟨hs.irGesture, hs.silencers⟩
    | irGestureChanged gesture now =>
        rcases doze_eq s (s.irGesture.onSensorChanged gesture) now with ⟨a, ha⟩
        simp only [handle, ha]
        exact ⟨hs.irGesture, hs.silencers⟩
    | stowChanged thisStowed now =>
        rcases doze_eq s (s.stow.onSensorChanged thisStowed).2 now with ⟨a, ha⟩
        simp only [handle, ha]
        exact ⟨hs.irGesture, hs.silencers⟩
    | flatUpStowChanged | cameraActivated | chopChop => exact ⟨hs.irGesture, hs.silencers⟩
    | preferenceChanged part key value =>
        cases part <;> simp only [handle, onSharedPreferenceChanged] <;> split <;>
          exact ⟨hs.irGesture, hs.silencers⟩
    | silencer e =>
        rcases Silencers.step_total s.silencers e with ⟨t, ht⟩
        simp only [handle, ht]
        exact ⟨hs.irGesture, Silencers.inv_step_silencers hs.silencers ht⟩

theorem backs_create (stored : String → Option Bool) (config : IrConfig) (ioctls : IrIoctls)
    (cameraAccepts flashlightAccepts isInteractive : Bool) (e : ScreenCalls) :
    (create stored config ioctls cameraAccepts flashlightAccepts isInteractive e).Backs := by
  have hbuilt : (build stored config ioctls cameraAccepts flashlightAccepts).Backs :=
    ⟨rfl, Silencers.inv_init _ _⟩
  rcases create_eq stored config ioctls cameraAccepts flashlightAccepts isInteractive e with
    ⟨_, _, _, heq⟩ | ⟨_, _, heq⟩
  · rw [heq]
    cases isInteractive with
    | true => exact backs_onReceive hbuilt ACTION_SCREEN_ON e
    | false => exact backs_onReceive hbuilt ACTION_SCREEN_OFF e
  · rw [heq]
    exact hbuilt

/-- What the three votes come to. -/
theorem vote_bits {s : CMActionsService} (hs : s.Backs) (k : Nat) :
    (∃ v, (s.vote v).getLsbD k = true) ↔
      ((if s.irGesture.listening.registered then IR_GESTURES_FOR_SCREEN_OFF else 0#32) |||
        (if s.silencers.ir.registered || s.silencers.alarm.registered then IR_GESTURES_FOR_RINGING
          else 0#32)).getLsbD k = true := by
  have hir : s.vote .irGesture = _ := hs.irGesture
  have hringing : s.vote .irSilencer = _ := hs.silencers.irBacked
  have halarm : s.vote .alarmSilencer = _ := hs.silencers.alarmBacked
  have hall : (∃ v, (s.vote v).getLsbD k = true) ↔ (s.vote .irGesture).getLsbD k = true ∨
      (s.vote .irSilencer).getLsbD k = true ∨ (s.vote .alarmSilencer).getLsbD k = true := by
    constructor
    · rintro ⟨v, hv⟩
      cases v with
      | irGesture => exact Or.inl hv
      | irSilencer => exact Or.inr (Or.inl hv)
      | alarmSilencer => exact Or.inr (Or.inr hv)
    · rintro (h | h | h)
      · exact ⟨.irGesture, h⟩
      · exact ⟨.irSilencer, h⟩
      · exact ⟨.alarmSilencer, h⟩
  rw [hall, hir, hringing, halarm, BitVec.getLsbD_or, Bool.or_eq_true]
  cases s.irGesture.listening.registered <;> cases s.silencers.ir.registered <;>
    cases s.silencers.alarm.registered <;>
    simp [IR_GESTURES_FOR_ALARM, IR_GESTURES_FOR_RINGING]

/-- In every run of the service without a failed native call, the sensor is off
    just if nobody listens to it, and looks for what its listeners are for while
    somebody does: for an approach, if the screen sensor listens, and for a
    swipe, if one of the silencers does. -/
theorem sensor_follows_listeners (stored : String → Option Bool) (config : IrConfig)
    (cameraAccepts flashlightAccepts isInteractive : Bool) (calls : ScreenCalls)
    (es : List ServiceEvent) {s : CMActionsService} (hconfig : config.Tuned)
    (hfirst : calls.ir.ioctls₁ = ⟨true, true⟩) (hsecond : calls.ir.ioctls₂ = ⟨true, true⟩)
    (hes : ∀ e ∈ es, e.NativeOk)
    (hrun : exec step (create stored config ⟨true, true⟩ cameraAccepts flashlightAccepts
      isInteractive calls) es = some s) :
    (s.silencers.shared.config.disabled = true ↔ s.irGesture.listening.registered = false ∧
        s.silencers.ir.registered = false ∧ s.silencers.alarm.registered = false) ∧
      (s.silencers.shared.config.disabled = false →
        s.silencers.shared.config.cmd_config =
          (if s.irGesture.listening.registered then 1#32 <<< IR_GESTURE_APPROACH.toNat else 0#32) |||
            (if s.silencers.ir.registered || s.silencers.alarm.registered then
              1#32 <<< IR_GESTURE_SWIPE.toNat else 0#32)) := by
  rcases exists_represents stored config ⟨true, true⟩ cameraAccepts flashlightAccepts
    isInteractive calls hrun with ⟨ls, a, hls, ha, hok⟩
  have haok := hok hconfig rfl hfirst hsecond hes
  have hbacks : s.Backs := invariant_of_step (fun _ _ _ hs h => backs_step hs h)
    (backs_create stored config ⟨true, true⟩ cameraAccepts flashlightAccepts isInteractive calls)
    hrun
  have hinv : a.Inv config := invariant_of_step (fun _ _ _ hs h => IrVoters.inv_step hs h)
    (IrVoters.inv_init config ⟨true, true⟩) hls
  have hfollowed := IrVoters.followed_of_inv hinv haok
  have hlatest : ∀ v, (a.latest v).bits = s.vote v := by
    intro v
    have hmem := hinv.memory v
    rw [ha.idle v] at hmem
    rw [← ha.votes v, hmem]
  have hoff : s.silencers.shared.config.disabled = true ↔ ∀ v, s.vote v = 0#32 := by
    have h := hfollowed.disabled
    simp only [ha.config, hlatest] at h
    exact h
  have hbits := vote_bits hbacks
  have hnone : (∀ v, s.vote v = 0#32) ↔ s.irGesture.listening.registered = false ∧
      s.silencers.ir.registered = false ∧ s.silencers.alarm.registered = false := by
    have hir := hbacks.irGesture
    have hringing := registered_iff_of_backed hbacks.silencers.irBacked
    have halarm := registered_iff_of_backed hbacks.silencers.alarmBacked
    constructor
    · intro h
      refine ⟨?_, ?_, ?_⟩
      · have hzero : s.irGesture.listening.mLastFlags = 0#32 := h .irGesture
        rw [hzero] at hir
        cases hreg : s.irGesture.listening.registered with
        | false => rfl
        | true =>
            rw [hreg] at hir
            cases hir
      · exact Bool.eq_false_iff.mpr fun hreg => hringing.mp hreg (h .irSilencer)
      · exact Bool.eq_false_iff.mpr fun hreg => halarm.mp hreg (h .alarmSilencer)
    · rintro ⟨h₁, h₂, h₃⟩ v
      rw [h₁] at hir
      rw [h₂] at hringing
      rw [h₃] at halarm
      cases v with
      | irGesture => exact hir
      | irSilencer => simpa [vote] using hringing
      | alarmSilencer => simpa [vote] using halarm
  refine ⟨hoff.trans hnone, fun hon => ?_⟩
  -- Somebody listens, so there have been votes.
  have hvoted : a.voted = true := by
    cases hv : a.voted with
    | true => rfl
    | false =>
        have hquiet := (IrVoters.gestures_eq_zero_iff hinv.tallied).mp (hinv.quiet hv).1
        simp only [hlatest] at hquiet
        rw [hoff.mpr hquiet] at hon
        cases hon
  refine Mask.eq_iff_bits.mpr fun k => ?_
  have hwake := hfollowed.wakeConfig hvoted k
  simp only [ha.config, hlatest] at hwake
  rw [hwake, hbits]
  refine and_iff_right_of_imp fun hk hzero => ?_
  rw [hzero, BitVec.getLsbD_or] at hk
  revert hk
  cases s.irGesture.listening.registered <;>
    cases s.silencers.ir.registered || s.silencers.alarm.registered <;> decide

/-- The phone rings while the screen is off. -/
theorem sensor_while_ringing :
    ∃ s, exec step (create (fun _ => none) IrVoters.freshConfig ⟨true, true⟩ true true false
        ⟨true, true, Silencers.acceptedCalls, true, 1000⟩)
        [.silencer (.callStateChanged CALL_STATE_RINGING Silencers.acceptedCalls)] = some s ∧
      (s.silencers.shared.config.disabled = false →
        s.silencers.shared.config.cmd_config = 24#32) := by
  refine ⟨_, rfl, fun hon => ?_⟩
  exact (sensor_follows_listeners (fun _ => none) IrVoters.freshConfig true true false
    ⟨true, true, Silencers.acceptedCalls, true, 1000⟩
    [.silencer (.callStateChanged CALL_STATE_RINGING Silencers.acceptedCalls)] (by decide) rfl rfl
    (by decide) rfl).2 hon

end CMActionsService

end NxActions

end Victara
