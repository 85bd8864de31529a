import Victara.NxActions.IrGesture

/-!
# Native Calls That Fail

`updateSensorConfig` of `IrGestureManager.java` notes the gestures before it
tells the sensor of them, and whether the two native calls for that succeed is
only logged. An `updateState` that finds the gestures it has noted makes no
calls, so what has gone wrong stays as it is until the gestures change.

The runs are those of the voters, with any of the native calls failing, and the
one of the constructor too.

## Main definitions

* `nativeOk`: A native call reads the configuration and writes it.
* `missed`: A native call that has something to change fails.
* `IrVoters.Corresponds`: The sensor is as the votes want it.
* `found`: What `updateState` finds when a voter calls it, if it does.
* `callsOk`: No native call of the step fails.
* `staleAtFirst`: The constructor could not turn the sensor off, or has left
  gestures in its wake configuration.
* `IrVoters.stale`: That was so when the gestures last changed.
* `IrVoters.Recovers`: It is after an `updateState` in which no call fails.
* `IrVoters.NeverReused`: No `updateState` finds stale gestures unchanged.
* `askedAgain`: The only voter asks for swipes, and both native calls fail.

## Theorems

* `updateSensorConfig_changed`: What the two native calls leave.
* `missed_eq_false_iff`: Nothing is missed if both parts are then what they
  should be.
* `found_of_step_eq_none`: A voter that has not called finds nothing.
* `corresponds_iff`: What the sensor should be, for the manager.
* `staleAtFirst_eq_false_iff`: The constructor has to turn the sensor off, and
  no gestures may be left in its configuration.
* `corresponds_step_iff`: When it is, after a step.
* `recovers_iff_of_inv`: A step recovers unless it finds stale gestures
  unchanged.
* `recovers_iff`: The runs in which the sensor recovers.
-/

namespace Victara

namespace NxActions

open StepSystem

universe u

/-- A native call reads the configuration and writes it. -/
def nativeOk (config : IrConfig) (ioctls : IrIoctls) : Bool :=
  readIrConfig config ioctls && ioctls.set

/-- A native call that has something to change fails. -/
def missed (config : IrConfig) (ioctls₁ ioctls₂ : IrIoctls) (gestures : BitVec 32) : Bool :=
  (!nativeOk config ioctls₁ && config.disabled != decide (gestures = 0#32)) ||
    (!nativeOk config ioctls₂ && config.cmd_config != gestures &&& STM401_IR_WAKE_CONFIG_MASK)

variable {V : Type u}

namespace IrVoters

/-- The sensor is off if there are no votes, and its wake configuration has the
    gestures that there are votes for. Bit 0 is no gesture that can be configured. -/
def Corresponds (s : IrVoters V) : Prop :=
  (s.config.disabled = true ↔ ∀ v, (s.latest v).bits = 0#32) ∧
    ∀ k, s.config.cmd_config.getLsbD k = true ↔ k ≠ 0 ∧ ∃ v, (s.latest v).bits.getLsbD k = true

/-- What `updateState` finds when a voter calls it, if it does. -/
def found (s : IrVoters V) : IrLabel V → Option (BitVec 32)
  | .update v _ _ =>
    match (s.voters v).pc with
    | .called flags => some (voteDelta
        (voteDelta s.manager.mVotes (s.voters v).mLastFlags.bits (-1)).1 flags.bits 1).2
    | _ => none
  | _ => none

/-- No native call of the step fails. -/
def callsOk (s : IrVoters V) : IrLabel V → Bool
  | .update v ioctls₁ ioctls₂ =>
    match (s.voters v).pc with
    | .called flags =>
      (updateState s.manager s.config ioctls₁ ioctls₂ (s.voters v).mLastFlags.bits flags.bits).2.2
    | _ => true
  | _ => true

/-- The constructor could not turn the sensor off, or has left gestures in its
    wake configuration. -/
def staleAtFirst (config₀ : IrConfig) (ioctls : IrIoctls) : Bool :=
  (!nativeOk config₀ ioctls && !config₀.disabled) || config₀.cmd_config != 0#32

/-- A call has missed something when the gestures last changed. -/
def stale (s : IrVoters V) (was : Bool) (l : IrLabel V) : Bool :=
  match l, s.found l with
  | .update _ ioctls₁ ioctls₂, some gestures =>
    if s.manager.mGestures ≠ gestures then missed s.config ioctls₁ ioctls₂ gestures else was
  | _, _ => was

variable [DecidableEq V]

/-- After an `updateState` without a failed call the sensor is as the votes want it. -/
def Recovers (s : IrVoters V) (l : IrLabel V) : Prop :=
  ∀ t, s.step l = some t → (s.found l).isSome = true → s.callsOk l = true → t.Corresponds

/-- No `updateState` finds the gestures that have been noted while they are
    stale: when they were noted, one of the calls for them failed in a way that
    shows. Whether the calls fail is an argument of the step, and the gestures
    come from the votes. -/
def NeverReused : IrVoters V → Bool → List (IrLabel V) → Prop
  | _, _, [] => True
  | s, was, l :: ls => (s.found l = some s.manager.mGestures → was = false) ∧
      ∀ t ∈ s.step l, NeverReused t (s.stale was l) ls

end IrVoters

/-! ## The native calls -/

theorem writeBack_of_nativeOk (config : IrConfig) (ioctls : IrIoctls) (f : IrConfig → IrConfig) :
    writeBack config ioctls f =
      if nativeOk config ioctls then (f config, true) else (config, false) := by
  unfold writeBack nativeOk
  simp only [Bool.and_eq_true]

theorem setIrDisabled_eq (config : IrConfig) (ioctls : IrIoctls) (disabled : Bool) :
    (setIrDisabled config ioctls disabled).1.tuning_number = config.tuning_number ∧
      (setIrDisabled config ioctls disabled).1.disabled =
        (if nativeOk config ioctls then disabled else config.disabled) ∧
      (setIrDisabled config ioctls disabled).2 = nativeOk config ioctls := by
  have hset : (setIrDisabled config ioctls disabled).2 = true →
      (setIrDisabled config ioctls disabled).1.disabled = disabled := setIrDisabled_disabled
  unfold setIrDisabled at hset ⊢
  rw [writeBack_of_nativeOk] at hset ⊢
  cases hok : nativeOk config ioctls with
  | true =>
      rw [hok] at hset
      exact ⟨rfl, hset rfl, rfl⟩
  | false => exact ⟨rfl, rfl, rfl⟩

theorem setIrWakeConfig_eq (config : IrConfig) (ioctls : IrIoctls) (wake : BitVec 32) :
    (setIrWakeConfig config ioctls wake).1.cmd_config =
        (if nativeOk config ioctls then wake &&& STM401_IR_WAKE_CONFIG_MASK
          else config.cmd_config) ∧
      (setIrWakeConfig config ioctls wake).2 = nativeOk config ioctls := by
  unfold setIrWakeConfig
  rw [writeBack_of_nativeOk]
  cases nativeOk config ioctls <;> exact ⟨rfl, rfl⟩

theorem updateSensorConfig_same {m : IrGestureManager} {gestures : BitVec 32}
    (h : m.mGestures = gestures) (config : IrConfig) (ioctls₁ ioctls₂ : IrIoctls) :
    updateSensorConfig m config ioctls₁ ioctls₂ gestures = (m, config, true) :=
  if_neg (not_not_intro h)

/-- Each of the two calls changes its part of the configuration, or fails. -/
theorem updateSensorConfig_changed {m : IrGestureManager} {gestures : BitVec 32}
    (h : m.mGestures ≠ gestures) (config : IrConfig) (ioctls₁ ioctls₂ : IrIoctls) :
    (updateSensorConfig m config ioctls₁ ioctls₂ gestures).2.1.disabled =
        (if nativeOk config ioctls₁ then decide (gestures = 0#32) else config.disabled) ∧
      (updateSensorConfig m config ioctls₁ ioctls₂ gestures).2.1.cmd_config =
        (if nativeOk config ioctls₂ then gestures &&& STM401_IR_WAKE_CONFIG_MASK
          else config.cmd_config) ∧
      (updateSensorConfig m config ioctls₁ ioctls₂ gestures).2.2 =
        (nativeOk config ioctls₁ && nativeOk config ioctls₂) := by
  rcases setIrDisabled_eq config ioctls₁ (decide (gestures = 0#32)) with ⟨htune, hdis, hok⟩
  rcases setIrWakeConfig_eq (setIrDisabled config ioctls₁ (decide (gestures = 0#32))).1 ioctls₂
    gestures with ⟨hwake, hok'⟩
  -- The first call does not change what the second one checks.
  have hsecond : nativeOk (setIrDisabled config ioctls₁ (decide (gestures = 0#32))).1 ioctls₂ =
      nativeOk config ioctls₂ := by
    unfold nativeOk readIrConfig
    rw [htune]
  rw [hsecond, setIrDisabled_cmd_config] at hwake
  unfold updateSensorConfig
  rw [if_pos h]
  refine ⟨(setIrWakeConfig_disabled _ _ _).trans hdis, hwake, ?_⟩
  show ((setIrDisabled config ioctls₁ _).2 && (setIrWakeConfig _ ioctls₂ gestures).2) = _
  rw [hok, hok', hsecond]

/-- Nothing is missed if both parts are then what they should be. -/
theorem missed_eq_false_iff (config : IrConfig) (ioctls₁ ioctls₂ : IrIoctls)
    (gestures : BitVec 32) :
    missed config ioctls₁ ioctls₂ gestures = false ↔
      (if nativeOk config ioctls₁ then decide (gestures = 0#32) else config.disabled) =
          decide (gestures = 0#32) ∧
        (if nativeOk config ioctls₂ then gestures &&& STM401_IR_WAKE_CONFIG_MASK
          else config.cmd_config) = gestures &&& STM401_IR_WAKE_CONFIG_MASK := by
  unfold missed
  cases nativeOk config ioctls₁ <;> cases nativeOk config ioctls₂ <;> simp

namespace IrVoters

/-! ## One step -/

section

variable [DecidableEq V]

/-- A voter that has not called finds nothing. -/
theorem found_of_step_eq_none {s : IrVoters V} {v : V} {ioctls₁ ioctls₂ : IrIoctls}
    (h : s.step (.update v ioctls₁ ioctls₂) = none) :
    s.found (.update v ioctls₁ ioctls₂) = none := by
  cases hpc : (s.voters v).pc with
  | called flags =>
      simp only [step, hpc] at h
      cases h
  | idle | updated flags => simp only [found, hpc]

theorem exists_of_update {s t : IrVoters V} {v : V} {ioctls₁ ioctls₂ : IrIoctls}
    (h : s.step (.update v ioctls₁ ioctls₂) = some t) :
    ∃ m gestures, m.mGestures = s.manager.mGestures ∧
      s.found (.update v ioctls₁ ioctls₂) = some gestures ∧ t.manager.mGestures = gestures ∧
      t.config = (updateSensorConfig m s.config ioctls₁ ioctls₂ gestures).2.1 ∧
      s.callsOk (.update v ioctls₁ ioctls₂) =
        (updateSensorConfig m s.config ioctls₁ ioctls₂ gestures).2.2 := by
  simp only [step] at h
  split at h
  case h_2 => cases h
  case h_1 flags hpc =>
      rw [← Option.some.inj h]
      simp only [found, callsOk, hpc]
      exact ⟨{ s.manager with mVotes := (voteDelta
        (voteDelta s.manager.mVotes (s.voters v).mLastFlags.bits (-1)).1 flags.bits 1).1 }, _, rfl,
        rfl, congrArg IrGestureManager.mGestures (updateSensorConfig_spec _ _ _ _ _).1, rfl, rfl⟩

end

variable [Fintype V]

/-- The sensor corresponds to the gestures that the manager has noted. -/
theorem corresponds_iff {s : IrVoters V} (hs : s.Tallied) :
    s.Corresponds ↔ s.config.disabled = decide (s.manager.mGestures = 0#32) ∧
      s.config.cmd_config = s.manager.mGestures &&& STM401_IR_WAKE_CONFIG_MASK := by
  have hoff : s.config.disabled = decide (s.manager.mGestures = 0#32) ↔
      (s.config.disabled = true ↔ s.manager.mGestures = 0#32) := by
    rw [Bool.eq_iff_iff, decide_eq_true_iff]
  unfold Corresponds
  rw [hoff, gestures_eq_zero_iff hs, Mask.eq_iff_bits]
  simp only [masked_iff hs]

/-- The constructor has to turn the sensor off, and no gestures may be left in
    its configuration. -/
theorem staleAtFirst_eq_false_iff (config₀ : IrConfig) (ioctls : IrIoctls) :
    staleAtFirst config₀ ioctls = false ↔ (init config₀ ioctls : IrVoters V).Corresponds := by
  rw [corresponds_iff (inv_init config₀ ioctls).tallied]
  show _ ↔ (setIrDisabled config₀ ioctls true).1.disabled = true ∧
    (setIrDisabled config₀ ioctls true).1.cmd_config = 0#32 &&& STM401_IR_WAKE_CONFIG_MASK
  rw [(setIrDisabled_eq config₀ ioctls true).2.1, setIrDisabled_cmd_config, BitVec.zero_and]
  unfold staleAtFirst
  cases nativeOk config₀ ioctls <;> simp

variable [DecidableEq V]

/-- After a step the sensor corresponds if nothing that was missed is stale. -/
theorem corresponds_step_iff {config₀ : IrConfig} {s t : IrVoters V} (hs : s.Inv config₀)
    {was : Bool} (hwas : was = false ↔ s.Corresponds) {l : IrLabel V} (h : s.step l = some t) :
    s.stale was l = false ↔ t.Corresponds := by
  have ht := (inv_step hs h).tallied
  cases l with
  | call v flags | store v =>
      -- The votes and the sensor stay as they were.
      simp only [step] at h
      split at h
      case h_1 =>
          rw [← Option.some.inj h]
          exact hwas
      case h_2 => cases h
  | update v ioctls₁ ioctls₂ =>
      rcases exists_of_update h with ⟨m, gestures, hm, hfound, hgestures, hconfig, _⟩
      rw [corresponds_iff ht, hgestures, hconfig]
      simp only [stale, hfound]
      by_cases hsame : s.manager.mGestures = gestures
      · -- There are no calls, and the sensor stays as it was.
        rw [if_neg (not_not_intro hsame), updateSensorConfig_same (hm.trans hsame), hwas,
          corresponds_iff hs.tallied, hsame]
      · rcases updateSensorConfig_changed (hm.trans_ne hsame) s.config ioctls₁ ioctls₂ with
          ⟨hdisabled, hwake, _⟩
        rw [if_pos hsame, missed_eq_false_iff, hdisabled, hwake]

/-- A step recovers unless it finds stale gestures unchanged. -/
theorem recovers_iff_of_inv {config₀ : IrConfig} {s : IrVoters V} (hs : s.Inv config₀)
    {was : Bool} (hwas : was = false ↔ s.Corresponds) (l : IrLabel V) :
    s.Recovers l ↔ (s.found l = some s.manager.mGestures → was = false) := by
  cases l with
  | call v flags | store v =>
      refine iff_of_true (fun t _ hfound _ => ?_) fun hfound => ?_ <;> cases hfound
  | update v ioctls₁ ioctls₂ =>
      cases hstep : s.step (.update v ioctls₁ ioctls₂) with
      | none =>
          refine iff_of_true (fun t ht => ?_) fun hfound => ?_
          · rw [hstep] at ht
            cases ht
          · rw [found_of_step_eq_none hstep] at hfound
            cases hfound
      | some t =>
          have hafter := corresponds_step_iff hs hwas hstep
          rcases exists_of_update hstep with ⟨m, gestures, hm, hfound, _, _, hok⟩
          simp only [stale, hfound] at hafter
          have hrecovers : s.Recovers (.update v ioctls₁ ioctls₂) ↔
              ((updateSensorConfig m s.config ioctls₁ ioctls₂ gestures).2.2 = true →
                t.Corresponds) := by
            unfold Recovers
            simp only [hstep, hfound, hok, Option.some.injEq, forall_eq', Option.isSome_some,
              forall_const]
          rw [hrecovers, hfound, Option.some.injEq, ← hafter]
          by_cases hsame : s.manager.mGestures = gestures
          · rw [updateSensorConfig_same (hm.trans hsame), if_neg (not_not_intro hsame)]
            exact ⟨fun h _ => h rfl, fun h _ => h hsame.symm⟩
          · rcases updateSensorConfig_changed (hm.trans_ne hsame) s.config ioctls₁ ioctls₂ with
              ⟨_, _, hboth⟩
            -- Two calls that do not fail miss nothing.
            rw [hboth, if_pos hsame, missed_eq_false_iff]
            refine iff_of_true (fun h => ?_) fun h => absurd h.symm hsame
            rw [Bool.and_eq_true] at h
            rw [if_pos h.1, if_pos h.2]
            exact ⟨rfl, rfl⟩

theorem recovers_iff_neverReused {config₀ : IrConfig} {s : IrVoters V} (hs : s.Inv config₀)
    {was : Bool} (hwas : was = false ↔ s.Corresponds) (ls : List (IrLabel V)) :
    Meets step Recovers s ls ↔ NeverReused s was ls := by
  induction ls generalizing s was with
  | nil => exact Iff.rfl
  | cons l ls ih =>
      refine and_congr (recovers_iff_of_inv hs hwas l) (forall_congr' fun t => ?_)
      exact imp_congr_right fun ht => ih (inv_step hs ht) (corresponds_step_iff hs hwas ht)

/-- The sensor recovers in the runs in which no `updateState` finds the gestures
    that have been noted after a call for them has missed something. Such an
    `updateState` makes no call, so that it succeeds and the sensor is as it was
    left. -/
theorem recovers_iff (config₀ : IrConfig) (ioctls : IrIoctls) (ls : List (IrLabel V)) :
    Meets step Recovers (init config₀ ioctls) ls ↔
      NeverReused (init config₀ ioctls) (staleAtFirst config₀ ioctls) ls :=
  recovers_iff_neverReused (inv_init config₀ ioctls) (staleAtFirst_eq_false_iff config₀ ioctls) ls

/-- The only voter asks for swipes, and both native calls fail. It asks again. -/
def askedAgain : List (IrLabel Unit) :=
  [.call () ⟨8#32, by decide⟩, .update () ⟨true, false⟩ ⟨true, false⟩, .store (),
    .call () ⟨8#32, by decide⟩, .update () bothIoctls bothIoctls]

/-- Nothing is done the second time, and the sensor is still off. -/
theorem askedAgain_recovers_not :
    ¬ Meets step Recovers (init freshConfig bothIoctls) askedAgain := by
  intro h
  rw [meets_iff_forall_split] at h
  have hlast := h [.call () ⟨8#32, by decide⟩, .update () ⟨true, false⟩ ⟨true, false⟩, .store (),
    .call () ⟨8#32, by decide⟩] (.update () bothIoctls bothIoctls) [] _ rfl rfl _ rfl rfl rfl
  have hoff := hlast.1.mp rfl ()
  revert hoff
  decide

end IrVoters

end NxActions

end Victara
