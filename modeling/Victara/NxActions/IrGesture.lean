import Victara.Lib.Mask
import Victara.Lib.StepSystem
import Victara.Lib.Tally

/-!
# Votes for the Infrared Sensor

`IrGestureManager.java`: parts of the application vote for gestures, each
through an `IrGestureVote` of its own. The manager counts the votes for every
gesture and has the sensor look for those that have any; without one the
sensor is turned off.

A voter remembers its last vote and hands it to the manager with the new one.
The manager is synchronized, so `updateState` is one step. The voter keeps its
memory outside the lock, so a vote is three: the call, `updateState`, and the
store. Other voters come in between.

What the sensor does with the two ioctls of a native call is an argument. A
new voter has not voted for anything, so all of them are there from the start.

## Main definitions

* `IrFlags`: A vote, with bits up to `IR_GESTURE_LAST`.
* `IrConfig`, `setIrDisabled`, `setIrWakeConfig`: The sensor.
* `IrIoctls`: The two ioctls of a native call succeed.
* `readIrConfig`: `read_ir_config` gives the configuration.
* `writeBack`: The configuration is read, changed and written back, and says
  whether it was.
* `IrConfig.disabled`: The sensor is turned off.
* `IrGestureManager`: The manager, with `voteDelta` and `updateState`.
* `voteOne`: A turn of the loop of `voteDelta`.
* `updateSensorConfig`: The manager, the sensor, and whether the last native
  calls succeeded.
* `VoterPc`: Where the thread that uses a voter is.
* `IrVoters`: The manager, the sensor and the voters.
* `IrLabel`, `IrVoters.step`: A step of a vote.
* `init`: After the constructor of the manager has turned the sensor off.
* `IrVoters.Tallied`, `IrVoters.Followed`: The counts, and the sensor.
* `Inv`: What the voters remember, and what the manager has told the sensor.
* `freshConfig`: A sensor that is on, with a wake configuration of its own.
* `votesOnce`: A single voter votes, and all native calls succeed.

## Theorems

* `foldl_voteOne`: A loop over gestures that are all different counts each of
  them once.
* `voteDelta_spec`: The counts and the gestures after one pass.
* `IrFlags.lt_of_bit`: There are no bits above `IR_GESTURE_LAST`.
* `gestures_eq_zero_iff`: Nothing is voted for just if every voter wants
  nothing.
* `masked_iff`: The mask has bits 1 to 10, and no voter has a vote above these.
* `updateSensorConfig_spec`: The sensor is told of gestures that are not those
  it was told of last.
* `updateState_sensor`: The sensor is told of the gestures that `updateState`
  finds, unless it has been told of them.
* `updateState_spec`: An old vote is replaced by a new one.
* `inv_setVoter`: A voter's thread that does not touch the manager.
* `inv_step`: What every step keeps.
* `votes_add_up`: What is true of every run.
-/

namespace Victara

namespace NxActions

open StepSystem

universe u

def IR_GESTURE_LAST : Nat := 10

/-- The Java int of flags over the bits up to `IR_GESTURE_LAST`. -/
structure IrFlags where
  bits : BitVec 32
  inRange : bits &&& ~~~0x7FF#32 = 0#32
  deriving DecidableEq

def IrFlags.none : IrFlags := ⟨0#32, by decide⟩

/-! ## The sensor -/

/-- The part of `struct stm401_ir_config` that is changed or checked. -/
structure IrConfig where
  tuning_number : UInt8
  cmd_control : BitVec 32
  cmd_config : BitVec 32
  deriving DecidableEq, Repr

/-- The two ioctls of a native call succeed. -/
structure IrIoctls where
  get : Bool
  set : Bool
  deriving DecidableEq, Repr

def STM401_IR_WAKE_CONFIG_MASK : BitVec 32 := 0x7FE#32

def STM401_IR_CONTROL_DISABLE : BitVec 32 := 0x1#32

def STM401_IR_CONFIG_TUNING_NUMBER_MIN : UInt8 := 6

def STM401_IR_CONFIG_TUNING_NUMBER_MAX : UInt8 := 7

/-- `read_ir_config` gives the configuration. -/
def readIrConfig (config : IrConfig) (ioctls : IrIoctls) : Bool :=
  ioctls.get && decide (STM401_IR_CONFIG_TUNING_NUMBER_MIN ≤ config.tuning_number) &&
    decide (config.tuning_number ≤ STM401_IR_CONFIG_TUNING_NUMBER_MAX)

/-- The configuration is read, changed and written back, and says whether it was. -/
def writeBack (config : IrConfig) (ioctls : IrIoctls) (f : IrConfig → IrConfig) : IrConfig × Bool :=
  if readIrConfig config ioctls = true ∧ ioctls.set = true then (f config, true)
  else (config, false)

def setIrDisabled (config : IrConfig) (ioctls : IrIoctls) (disabled : Bool) : IrConfig × Bool :=
  writeBack config ioctls fun c =>
    { c with
      cmd_control :=
        if disabled then c.cmd_control ||| STM401_IR_CONTROL_DISABLE
        else c.cmd_control &&& ~~~STM401_IR_CONTROL_DISABLE }

def setIrWakeConfig (config : IrConfig) (ioctls : IrIoctls) (wake_config : BitVec 32) :
    IrConfig × Bool :=
  writeBack config ioctls fun c => { c with cmd_config := wake_config &&& STM401_IR_WAKE_CONFIG_MASK }

/-- The sensor is turned off. -/
def IrConfig.disabled (config : IrConfig) : Bool := config.cmd_control.getLsbD 0

/-! ## The manager -/

abbrev Votes := Fin (IR_GESTURE_LAST + 1) → Int

structure IrGestureManager where
  mVotes : Votes
  mGestures : BitVec 32

/-- A turn of the loop of `voteDelta`. -/
def voteOne (flags : BitVec 32) (delta : Int) (r : Votes × BitVec 32)
    (i : Fin (IR_GESTURE_LAST + 1)) : Votes × BitVec 32 :=
  let mVotes := if flags &&& BitVec.twoPow 32 i ≠ 0#32 then Function.update r.1 i (r.1 i + delta) else r.1
  (mVotes, if 0 < mVotes i then r.2 ||| BitVec.twoPow 32 i else r.2)

/-- The votes afterwards, and the gestures that have any. -/
def voteDelta (mVotes : Votes) (flags : BitVec 32) (delta : Int) : Votes × BitVec 32 :=
  (List.finRange (IR_GESTURE_LAST + 1)).foldl (voteOne flags delta) (mVotes, 0#32)

/-- The manager, the sensor, and whether the last native calls succeeded. -/
def updateSensorConfig (m : IrGestureManager) (config : IrConfig) (ioctls₁ ioctls₂ : IrIoctls)
    (gestures : BitVec 32) : IrGestureManager × IrConfig × Bool :=
  if m.mGestures ≠ gestures then
    let r₁ := setIrDisabled config ioctls₁ (decide (gestures = 0#32))
    let r₂ := setIrWakeConfig r₁.1 ioctls₂ gestures
    ({ m with mGestures := gestures }, r₂.1, r₁.2 && r₂.2)
  else (m, config, true)

def updateState (m : IrGestureManager) (config : IrConfig) (ioctls₁ ioctls₂ : IrIoctls)
    (oldFlags newFlags : BitVec 32) : IrGestureManager × IrConfig × Bool :=
  let withdrawn := (voteDelta m.mVotes oldFlags (-1)).1
  let r := voteDelta withdrawn newFlags 1
  updateSensorConfig { m with mVotes := r.1 } config ioctls₁ ioctls₂ r.2

/-! ## The voters -/

/-- Where the thread that uses a voter is. -/
inductive VoterPc
  | idle
  | called (flags : IrFlags)
  | updated (flags : IrFlags)
  deriving DecidableEq

structure IrGestureVote where
  mLastFlags : IrFlags
  pc : VoterPc
  deriving DecidableEq

/-- `latest` is the vote of each voter that the manager has got last, `voted` says
    whether there were gestures at any time, and `ok` whether all native calls
    have succeeded. -/
structure IrVoters (V : Type u) where
  manager : IrGestureManager
  config : IrConfig
  voters : V → IrGestureVote
  latest : V → IrFlags
  voted : Bool
  ok : Bool

/-- A voter's thread calls `voteForSensors`, is in the manager, or stores its
    vote. -/
inductive IrLabel (V : Type u)
  | call (v : V) (flags : IrFlags)
  | update (v : V) (ioctls₁ ioctls₂ : IrIoctls)
  | store (v : V)

variable {V : Type u}

namespace IrVoters

/-- After the constructor of the manager has turned the sensor off. -/
def init (config : IrConfig) (ioctls : IrIoctls) : IrVoters V :=
  let r := setIrDisabled config ioctls true
  { manager := ⟨fun _ => 0, 0#32⟩
    config := r.1
    voters := fun _ => ⟨.none, .idle⟩
    latest := fun _ => .none
    voted := false
    ok := r.2 }

variable [DecidableEq V]

def setVoter (s : IrVoters V) (v : V) (x : IrGestureVote) : IrVoters V :=
  { s with voters := Function.update s.voters v x }

def step (s : IrVoters V) : IrLabel V → Option (IrVoters V)
  | .call v flags =>
    match (s.voters v).pc with
    | .idle => some (s.setVoter v { s.voters v with pc := .called flags })
    | _ => none
  | .update v ioctls₁ ioctls₂ =>
    match (s.voters v).pc with
    | .called flags =>
      let r := updateState s.manager s.config ioctls₁ ioctls₂ (s.voters v).mLastFlags.bits flags.bits
      some { s.setVoter v { s.voters v with pc := .updated flags } with
        manager := r.1
        config := r.2.1
        latest := Function.update s.latest v flags
        voted := s.voted || decide (r.1.mGestures ≠ 0#32)
        ok := s.ok && r.2.2 }
    | _ => none
  | .store v =>
    match (s.voters v).pc with
    | .updated flags => some (s.setVoter v ⟨flags, .idle⟩)
    | _ => none

/-! ## The counts -/

end IrVoters

theorem voteOne_fst (flags : BitVec 32) (delta : Int) (r : Votes × BitVec 32)
    (i j : Fin (IR_GESTURE_LAST + 1)) :
    (voteOne flags delta r i).1 j =
      r.1 j + if j = i ∧ flags.getLsbD i = true then delta else 0 := by
  unfold voteOne
  simp only [Mask.and_twoPow_ne_zero_iff]
  by_cases hbit : flags.getLsbD i = true
  · rw [if_pos hbit]
    by_cases hj : j = i
    · rw [hj, Function.update_self, if_pos ⟨rfl, hbit⟩]
    · rw [Function.update_of_ne hj, if_neg (fun h => hj h.1), Int.add_zero]
  · rw [if_neg hbit, if_neg (fun h => hbit h.2), Int.add_zero]

theorem voteOne_snd (flags : BitVec 32) (delta : Int) (r : Votes × BitVec 32)
    (i : Fin (IR_GESTURE_LAST + 1)) (k : Nat) :
    (voteOne flags delta r i).2.getLsbD k = true ↔
      r.2.getLsbD k = true ∨ (i.val = k ∧ 0 < (voteOne flags delta r i).1 i) := by
  show (if 0 < (voteOne flags delta r i).1 i then r.2 ||| BitVec.twoPow 32 i else r.2).getLsbD k =
    true ↔ _
  have hi : i.val < 32 := Nat.lt_trans i.isLt (by decide)
  split
  case isTrue h =>
      rw [BitVec.getLsbD_or, BitVec.getLsbD_twoPow, Bool.or_eq_true, Bool.and_eq_true,
        decide_eq_true hi, decide_eq_true_eq]
      simp [h]
  case isFalse h => simp [h]

/-- A loop over gestures that are all different counts each of them once. -/
theorem foldl_voteOne (flags : BitVec 32) (delta : Int) {is : List (Fin (IR_GESTURE_LAST + 1))}
    (hnodup : is.Nodup) (r : Votes × BitVec 32) :
    (∀ j, (is.foldl (voteOne flags delta) r).1 j =
        r.1 j + if j ∈ is ∧ flags.getLsbD j = true then delta else 0) ∧
      ∀ k, (is.foldl (voteOne flags delta) r).2.getLsbD k = true ↔
        r.2.getLsbD k = true ∨
          ∃ i ∈ is, i.val = k ∧ 0 < (is.foldl (voteOne flags delta) r).1 i := by
  induction is generalizing r with
  | nil => simp
  | cons i is ih =>
      rcases List.nodup_cons.mp hnodup with ⟨hnot, hrest⟩
      rcases ih hrest (voteOne flags delta r i) with ⟨hvotes, hgestures⟩
      have hone : ∀ j, ((i :: is).foldl (voteOne flags delta) r).1 j =
          r.1 j + if j ∈ i :: is ∧ flags.getLsbD j = true then delta else 0 := by
        intro j
        rw [List.foldl_cons, hvotes, voteOne_fst]
        by_cases hj : j = i
        · subst hj
          simp [hnot]
        · simp [hj]
      refine ⟨hone, fun k => ?_⟩
      -- The rest of the loop does not touch the votes of `i`.
      have hlast : (is.foldl (voteOne flags delta) (voteOne flags delta r i)).1 i =
          (voteOne flags delta r i).1 i := by
        rw [hvotes, if_neg (fun h => hnot h.1), Int.add_zero]
      rw [List.foldl_cons, hgestures, voteOne_snd, ← hlast, or_assoc]
      simp only [List.mem_cons, exists_eq_or_imp]

/-- One pass over the votes. -/
theorem voteDelta_spec (mVotes : Votes) (flags : BitVec 32) (delta : Int) :
    (∀ j, (voteDelta mVotes flags delta).1 j =
        mVotes j + if flags.getLsbD j = true then delta else 0) ∧
      ∀ k, (voteDelta mVotes flags delta).2.getLsbD k = true ↔
        ∃ i : Fin (IR_GESTURE_LAST + 1), i.val = k ∧ 0 < (voteDelta mVotes flags delta).1 i := by
  have h := foldl_voteOne flags delta (List.nodup_finRange _) (mVotes, 0#32)
  unfold voteDelta
  refine ⟨fun j => ?_, fun k => ?_⟩
  · rw [h.1 j]
    simp only [List.mem_finRange, true_and]
  · rw [h.2 k]
    simp only [BitVec.getLsbD_zero, Bool.false_eq_true, false_or, List.mem_finRange, true_and]

/-- There are no bits above `IR_GESTURE_LAST`. -/
theorem IrFlags.lt_of_bit {f : IrFlags} {k : Nat} (h : f.bits.getLsbD k = true) :
    k < IR_GESTURE_LAST + 1 := by
  have hlt : k < 32 := BitVec.lt_of_getLsbD h
  have hin := Mask.within_iff.mp (show Mask.Within f.bits 0x7FF#32 from f.inRange) k h
  refine Classical.byContradiction fun hno => ?_
  have hbits : ∀ j : Fin 32, ¬ j.val < IR_GESTURE_LAST + 1 → (0x7FF#32).getLsbD j = false := by decide
  rw [hbits ⟨k, hlt⟩ hno] at hin
  cases hin

namespace IrVoters

variable [Fintype V]

/-- The votes for a gesture are the voters whose last vote has it, and the
    gestures are those with such a voter. -/
structure Tallied (s : IrVoters V) : Prop where
  votes : ∀ i : Fin (IR_GESTURE_LAST + 1), s.manager.mVotes i =
    (Tally.count (fun f : IrFlags => f.bits.getLsbD i) s.latest : Int)
  gestures : ∀ k, s.manager.mGestures.getLsbD k = true ↔ ∃ v, (s.latest v).bits.getLsbD k = true

/-- The sensor is off if and only if there are no gestures. Its wake
    configuration is that of the gestures, bit 0 apart, from the first time on
    that there are any; before, it is as it was. -/
structure Followed (config₀ : IrConfig) (s : IrVoters V) : Prop where
  disabled : s.config.disabled = true ↔ ∀ v, (s.latest v).bits = 0#32
  wakeConfig : s.voted = true →
    ∀ k, s.config.cmd_config.getLsbD k = true ↔ k ≠ 0 ∧ ∃ v, (s.latest v).bits.getLsbD k = true
  untouched : s.voted = false → s.config.cmd_config = config₀.cmd_config

/-- What the voters remember, and what the manager has told the sensor. Between
    its `updateState` and the store a voter has forgotten its last vote, which
    is the one case of `memory` that is not the stored one. The sensor is only
    followed while no native call has failed. -/
structure Inv (config₀ : IrConfig) (s : IrVoters V) : Prop where
  tallied : s.Tallied
  memory : ∀ v, match (s.voters v).pc with
    | .updated flags => s.latest v = flags
    | .idle | .called _ => s.latest v = (s.voters v).mLastFlags
  quiet : s.voted = false → s.manager.mGestures = 0#32 ∧
    s.config.cmd_config = config₀.cmd_config
  sensor : s.ok = true → (s.config.disabled = true ↔ s.manager.mGestures = 0#32) ∧
    (s.voted = true → s.config.cmd_config = s.manager.mGestures &&& STM401_IR_WAKE_CONFIG_MASK)

/-- No gestures are those of voters that want none. -/
theorem gestures_eq_zero_iff {s : IrVoters V} (hs : s.Tallied) :
    s.manager.mGestures = 0#32 ↔ ∀ v, (s.latest v).bits = 0#32 := by
  rw [Mask.eq_zero_iff_bits]
  constructor
  · intro h v
    exact Mask.eq_zero_iff_bits.mpr fun k hk => h k ((hs.gestures k).mpr ⟨v, hk⟩)
  · intro h k hk
    rcases (hs.gestures k).mp hk with ⟨v, hv⟩
    exact Mask.eq_zero_iff_bits.mp (h v) k hv

/-- The mask has bits 1 to 10, and no voter has a vote above these. -/
theorem masked_iff {s : IrVoters V} (hs : s.Tallied) (k : Nat) :
    (s.manager.mGestures &&& STM401_IR_WAKE_CONFIG_MASK).getLsbD k = true ↔
      k ≠ 0 ∧ ∃ v, (s.latest v).bits.getLsbD k = true := by
  have hmask : ∀ j : Fin 32, STM401_IR_WAKE_CONFIG_MASK.getLsbD j = true ↔
      j.val ≠ 0 ∧ j.val < IR_GESTURE_LAST + 1 := by decide
  rw [BitVec.getLsbD_and, Bool.and_eq_true, hs.gestures]
  constructor
  · rintro ⟨hvote, hbit⟩
    exact ⟨((hmask ⟨k, BitVec.lt_of_getLsbD hbit⟩).mp hbit).1, hvote⟩
  · rintro ⟨hk, v, hv⟩
    exact ⟨⟨v, hv⟩, (hmask ⟨k, BitVec.lt_of_getLsbD hv⟩).mpr ⟨hk, IrFlags.lt_of_bit hv⟩⟩

theorem followed_of_inv {config₀ : IrConfig} {s : IrVoters V} (hs : s.Inv config₀)
    (hok : s.ok = true) : s.Followed config₀ where
  disabled := (hs.sensor hok).1.trans (gestures_eq_zero_iff hs.tallied)
  wakeConfig := by
    intro hvoted k
    rw [(hs.sensor hok).2 hvoted]
    exact masked_iff hs.tallied k
  untouched := fun h => (hs.quiet h).2

end IrVoters

/-! ## One step -/

theorem writeBack_eq (config : IrConfig) (ioctls : IrIoctls) (f : IrConfig → IrConfig)
    (h : (writeBack config ioctls f).2 = true) : (writeBack config ioctls f).1 = f config := by
  unfold writeBack at h ⊢
  split
  case isTrue => rfl
  case isFalse hno =>
      rw [if_neg hno] at h
      cases h

theorem setIrDisabled_disabled {config : IrConfig} {ioctls : IrIoctls} {disabled : Bool}
    (h : (setIrDisabled config ioctls disabled).2 = true) :
    (setIrDisabled config ioctls disabled).1.disabled = disabled := by
  unfold setIrDisabled at h ⊢
  rw [writeBack_eq _ _ _ h]
  unfold IrConfig.disabled STM401_IR_CONTROL_DISABLE
  cases disabled <;> simp

theorem setIrDisabled_cmd_config (config : IrConfig) (ioctls : IrIoctls) (disabled : Bool) :
    (setIrDisabled config ioctls disabled).1.cmd_config = config.cmd_config := by
  unfold setIrDisabled writeBack
  split <;> rfl

theorem setIrWakeConfig_disabled (config : IrConfig) (ioctls : IrIoctls) (wake : BitVec 32) :
    (setIrWakeConfig config ioctls wake).1.disabled = config.disabled := by
  unfold setIrWakeConfig writeBack
  split <;> rfl

theorem setIrWakeConfig_cmd_config {config : IrConfig} {ioctls : IrIoctls} {wake : BitVec 32}
    (h : (setIrWakeConfig config ioctls wake).2 = true) :
    (setIrWakeConfig config ioctls wake).1.cmd_config = wake &&& STM401_IR_WAKE_CONFIG_MASK := by
  unfold setIrWakeConfig at h ⊢
  rw [writeBack_eq _ _ _ h]

/-- The sensor is told of gestures that are not those it was told of last. -/
theorem updateSensorConfig_spec (m : IrGestureManager) (config : IrConfig)
    (ioctls₁ ioctls₂ : IrIoctls) (gestures : BitVec 32) :
    (updateSensorConfig m config ioctls₁ ioctls₂ gestures).1 = { m with mGestures := gestures } ∧
      (m.mGestures = gestures →
        (updateSensorConfig m config ioctls₁ ioctls₂ gestures).2.1 = config) ∧
      (m.mGestures ≠ gestures →
        (updateSensorConfig m config ioctls₁ ioctls₂ gestures).2.2 = true →
        (updateSensorConfig m config ioctls₁ ioctls₂ gestures).2.1.disabled =
            decide (gestures = 0#32) ∧
          (updateSensorConfig m config ioctls₁ ioctls₂ gestures).2.1.cmd_config =
            gestures &&& STM401_IR_WAKE_CONFIG_MASK) := by
  unfold updateSensorConfig
  by_cases h : m.mGestures = gestures
  · rw [if_neg (not_not_intro h)]
    refine ⟨?_, fun _ => rfl, fun hne => absurd h hne⟩
    rw [← h]
  · rw [if_pos h]
    refine ⟨rfl, fun heq => absurd heq h, fun _ hok => ?_⟩
    rw [Bool.and_eq_true] at hok
    exact ⟨(setIrWakeConfig_disabled _ _ _).trans (setIrDisabled_disabled hok.1),
      setIrWakeConfig_cmd_config hok.2⟩

/-- The sensor is told of the gestures that `updateState` finds, unless it has
    been told of them. -/
theorem updateState_sensor (m : IrGestureManager) (config : IrConfig) (ioctls₁ ioctls₂ : IrIoctls)
    (oldFlags newFlags : BitVec 32) :
    let r := updateState m config ioctls₁ ioctls₂ oldFlags newFlags
    (m.mGestures = r.1.mGestures → r.2.1 = config) ∧
      (m.mGestures ≠ r.1.mGestures → r.2.2 = true →
        r.2.1.disabled = decide (r.1.mGestures = 0#32) ∧
          r.2.1.cmd_config = r.1.mGestures &&& STM401_IR_WAKE_CONFIG_MASK) := by
  intro r
  have hspec := updateSensorConfig_spec
    { m with mVotes := (voteDelta (voteDelta m.mVotes oldFlags (-1)).1 newFlags 1).1 } config
    ioctls₁ ioctls₂ (voteDelta (voteDelta m.mVotes oldFlags (-1)).1 newFlags 1).2
  have hgestures : r.1.mGestures = (voteDelta (voteDelta m.mVotes oldFlags (-1)).1 newFlags 1).2 :=
    congrArg IrGestureManager.mGestures hspec.1
  rw [hgestures]
  exact hspec.2

/-- A voter's old vote is withdrawn and its new one counted. -/
theorem updateState_spec [Fintype V] [DecidableEq V] {s : IrVoters V} (hs : s.Tallied) (v : V)
    (flags : IrFlags) (ioctls₁ ioctls₂ : IrIoctls) :
    let m := (updateState s.manager s.config ioctls₁ ioctls₂ (s.latest v).bits flags.bits).1
    (∀ i : Fin (IR_GESTURE_LAST + 1), m.mVotes i =
        (Tally.count (fun f : IrFlags => f.bits.getLsbD i)
          (Function.update s.latest v flags) : Int)) ∧
      ∀ k, m.mGestures.getLsbD k = true ↔
        ∃ w, (Function.update s.latest v flags w).bits.getLsbD k = true := by
  -- The old flags are withdrawn first, and the new ones added to what is left.
  have hwithdrawn := voteDelta_spec s.manager.mVotes (s.latest v).bits (-1)
  have hadded := voteDelta_spec (voteDelta s.manager.mVotes (s.latest v).bits (-1)).1 flags.bits 1
  have hmanager : (updateState s.manager s.config ioctls₁ ioctls₂ (s.latest v).bits flags.bits).1 =
      { mVotes := (voteDelta (voteDelta s.manager.mVotes (s.latest v).bits (-1)).1 flags.bits 1).1
        mGestures :=
          (voteDelta (voteDelta s.manager.mVotes (s.latest v).bits (-1)).1 flags.bits 1).2 } :=
    (updateSensorConfig_spec _ _ _ _ _).1
  have hvotes : ∀ i : Fin (IR_GESTURE_LAST + 1),
      (voteDelta (voteDelta s.manager.mVotes (s.latest v).bits (-1)).1 flags.bits 1).1 i =
        (Tally.count (fun f : IrFlags => f.bits.getLsbD i)
          (Function.update s.latest v flags) : Int) := by
    intro i
    have hcount := Tally.count_update (fun f : IrFlags => f.bits.getLsbD i) s.latest v flags
    rw [hadded.1, hwithdrawn.1, hs.votes]
    -- Counted or not before and now: four cases, each one of arithmetic.
    cases hold : (s.latest v).bits.getLsbD i <;> cases hnew : flags.bits.getLsbD i <;>
      simp only [hold, hnew, Bool.toNat_true, Bool.toNat_false] at hcount ⊢ <;>
      simp only [if_true, if_false, Bool.false_eq_true] <;> omega
  simp only [hmanager]
  refine ⟨hvotes, fun k => ?_⟩
  rw [hadded.2 k]
  constructor
  · rintro ⟨i, rfl, hpos⟩
    rw [hvotes, Int.natCast_pos, Tally.count_pos_iff] at hpos
    exact hpos
  · rintro ⟨w, hw⟩
    refine ⟨⟨k, IrFlags.lt_of_bit hw⟩, rfl, ?_⟩
    rw [hvotes, Int.natCast_pos, Tally.count_pos_iff]
    exact ⟨w, hw⟩

namespace IrVoters

variable [Fintype V]

theorem inv_init (config₀ : IrConfig) (ioctls : IrIoctls) :
    (init config₀ ioctls : IrVoters V).Inv config₀ where
  tallied :=
    { votes := by
        intro i
        have hcount := Tally.count_const (V := V) (fun f : IrFlags => f.bits.getLsbD i) .none
          BitVec.getLsbD_zero
        show (0 : Int) = (Tally.count _ (fun _ : V => IrFlags.none) : Int)
        rw [hcount]
        rfl
      gestures := by
        intro k
        simp [init, IrFlags.none] }
  memory := fun _ => rfl
  quiet := fun _ => ⟨rfl, setIrDisabled_cmd_config config₀ ioctls true⟩
  sensor := by
    intro hok
    refine ⟨iff_of_true (setIrDisabled_disabled hok) rfl, fun h => ?_⟩
    cases h

variable [DecidableEq V]

/-- A voter's thread that does not touch the manager. -/
theorem inv_setVoter {config₀ : IrConfig} {s : IrVoters V} (hs : s.Inv config₀) {v : V}
    {x : IrGestureVote} (hx : match x.pc with
      | .updated flags => s.latest v = flags
      | .idle | .called _ => s.latest v = x.mLastFlags) : (s.setVoter v x).Inv config₀ where
  tallied := ⟨hs.tallied.votes, hs.tallied.gestures⟩
  memory := by
    intro w
    by_cases hw : w = v
    · subst hw
      have hself : (s.setVoter w x).voters w = x := Function.update_self ..
      rw [hself]
      exact hx
    · have hother : (s.setVoter v x).voters w = s.voters w := Function.update_of_ne hw ..
      rw [hother]
      exact hs.memory w
  quiet := hs.quiet
  sensor := hs.sensor

theorem inv_update {config₀ : IrConfig} {s t : IrVoters V} (hs : s.Inv config₀) {v : V}
    {ioctls₁ ioctls₂ : IrIoctls} (h : s.step (.update v ioctls₁ ioctls₂) = some t) :
    t.Inv config₀ := by
  simp only [step] at h
  split at h
  case h_2 => cases h
  case h_1 flags hpc =>
      -- The voter's memory is what the manager has got from it last.
      have hlast : s.latest v = (s.voters v).mLastFlags := by
        have hmem := hs.memory v
        rw [hpc] at hmem
        exact hmem
      rw [← hlast] at h
      rw [← Option.some.inj h]
      have htally := updateState_spec hs.tallied v flags ioctls₁ ioctls₂
      have hsensor := updateState_sensor s.manager s.config ioctls₁ ioctls₂ (s.latest v).bits
        flags.bits
      refine ⟨⟨htally.1, htally.2⟩, fun w => ?_, fun hquiet => ?_, fun hok => ?_⟩
      · by_cases hw : w = v
        · subst hw
          simp only [setVoter, Function.update_self]
        · have hmem := hs.memory w
          simpa only [setVoter, Function.update_of_ne hw] using hmem
      · -- Without gestures before and after, the sensor has been left alone.
        rcases Bool.or_eq_false_iff.mp hquiet with ⟨hbefore, hafter⟩
        have hnone := of_decide_eq_false hafter
        rw [ne_eq, not_not] at hnone
        have hconfig := hsensor.1 ((hs.quiet hbefore).1.trans hnone.symm)
        exact ⟨hnone, (congrArg IrConfig.cmd_config hconfig).trans (hs.quiet hbefore).2⟩
      · rcases Bool.and_eq_true_iff.mp hok with ⟨hbefore, hnow⟩
        by_cases hsame : s.manager.mGestures =
            (updateState s.manager s.config ioctls₁ ioctls₂ (s.latest v).bits flags.bits).1.mGestures
        · have hold := hs.sensor hbefore
          have hconfig := hsensor.1 hsame
          refine ⟨?_, fun hvoted => ?_⟩
          · show IrConfig.disabled _ = true ↔ _
            rw [hconfig, ← hsame]
            exact hold.1
          · refine (congrArg IrConfig.cmd_config hconfig).trans ?_
            rw [← hsame]
            refine hold.2 ?_
            rcases Bool.or_eq_true_iff.mp hvoted with hv | hv
            · exact hv
            · -- There are gestures now, so there were.
              cases hq : s.voted with
              | true => rfl
              | false =>
                  refine absurd ?_ (of_decide_eq_true hv)
                  rw [← hsame, (hs.quiet hq).1]
        · have hset := hsensor.2 hsame hnow
          refine ⟨?_, fun _ => hset.2⟩
          show IrConfig.disabled _ = true ↔ _
          rw [hset.1, decide_eq_true_iff]

theorem inv_step {config₀ : IrConfig} {s t : IrVoters V} {l : IrLabel V} (hs : s.Inv config₀)
    (h : s.step l = some t) : t.Inv config₀ := by
  cases l with
  | call v flags =>
      simp only [step] at h
      split at h
      case h_1 hpc =>
          rw [← Option.some.inj h]
          refine inv_setVoter hs ?_
          have hmem := hs.memory v
          rw [hpc] at hmem
          exact hmem
      case h_2 => cases h
  | update v ioctls₁ ioctls₂ => exact inv_update hs h
  | store v =>
      simp only [step] at h
      split at h
      case h_1 flags hpc =>
          rw [← Option.some.inj h]
          refine inv_setVoter hs ?_
          have hmem := hs.memory v
          rw [hpc] at hmem
          exact hmem
      case h_2 => cases h

/-- The votes add up in every run, and the sensor does what they say as long as
    no native call has failed. The voters keep their last votes outside the
    lock, so a voter is counted with the vote that the manager has seen, and not
    with the one that is under way. -/
theorem votes_add_up (config₀ : IrConfig) (ioctls : IrIoctls) (ls : List (IrLabel V)) :
    Throughout step (fun s => s.Tallied ∧ (s.ok = true → s.Followed config₀))
      (init config₀ ioctls) ls :=
  throughout_of_meets (G := fun _ _ => True) (fun _ hs => ⟨hs.tallied, followed_of_inv hs⟩)
    (fun _ _ _ hs _ h => inv_step hs h) (inv_init config₀ ioctls)
    (meets_of_forall (fun _ _ _ => trivial) _)

/-- A sensor that is on, with a wake configuration of its own. -/
def freshConfig : IrConfig where
  tuning_number := 6
  cmd_control := 0#32
  cmd_config := 0x4#32

def bothIoctls : IrIoctls := ⟨true, true⟩

/-- A single voter votes, and all native calls succeed. -/
def votesOnce (flags : IrFlags) : Option (IrVoters Unit) :=
  exec step (init freshConfig bothIoctls)
    [.call () flags, .update () bothIoctls bothIoctls, .store ()]

/-- Bit 0 is not configured, and an empty vote leaves what was there. -/
theorem votesOnce_config :
    (votesOnce ⟨1#32, by decide⟩).map (fun s => (s.ok, s.manager.mGestures, s.config.cmd_config)) =
        some (true, 1#32, 0#32) ∧
      (votesOnce .none).map (fun s => (s.ok, s.manager.mGestures, s.config.cmd_config)) =
        some (true, 0#32, 4#32) := by
  decide

end IrVoters

end NxActions

end Victara
