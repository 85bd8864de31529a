import Mathlib.Data.List.Nodup
import Victara.Lib.StepSystem

/-!
# The Camera Wrapper

`CameraWrapper.cpp`: a camera module in front of the vendor's. It keeps the
parameters that were set last, a string for each camera, in an array that all
cameras share. Opening a camera makes a new array, and closing one frees all
the strings in it, but leaves them there.

What is written into them has no part in that, so a string is a number that
`strdup` has given out. An access outside of the array and a second `free` are
faults, and there is no step after a fault. What the vendor's module and
`malloc` return is an argument of a step.

Two devices may be open for one camera; `devices` has those that are open,
with the `id` of each. `since` has the calls since the array was made, the last
one first. The program does not keep either.

Whether a string is there to be freed depends on what was stored since the array
was made, and on whether there was a close since: `Fresh` and `Stale` say so of
the history of the calls. The invariant ties the array to the history, element
by element. A close then frees all strings without a fault just if none of them
is stale, and a set parameter just if the one that it replaces is not.

## Main definitions

* `CameraFault`, `CameraWrapper`: What can go wrong, and the state.
* `ParamCall`: Parameters were set, and stored if `strdup` has found memory; or
  a device was closed.
* `OpenEnv`: What `camera_device_open` gets.
* `CameraLabel`, `CameraWrapper.step`: What can happen next.
* `init`: Before anything is opened.
* `entry`: `fixed_set_params[i]`, where there is such an element.
* `freeAt`: Free the string of a camera, if it has one.
* `store`: `fixed_set_params[id] = strdup(..)`.
* `CameraWrapper.cameraFixupSetparams`, `CameraWrapper.cameraDeviceClose`,
  `CameraWrapper.cameraDeviceOpen`: The functions.
* `sweep`: The loop of `camera_device_close`.
* `newParams`: A new array of settings, if there is memory for it.
* `idOf`: The `id` of an open device.
* `Holds`, `Stale`: A string was stored since, and closed since.
* `HasCamera`: The array is there and has the camera.
* `CameraWrapper.Allowed`: The array has the camera, and nothing stale is used.
* `Inv`: What is true as long as nothing goes wrong.
* `Ready`: What the loop has to find to be done.
* `strings`: The strings of some cameras.
* `Sound`: Nothing has gone wrong so far, and no string was freed twice.
* `closesOneOfTwo`: Two cameras are open and have parameters, one is closed, and
  the other one gets new parameters.

## Theorems

* `entry_of_hasCamera`: Where the array is there, it has the cameras.
* `freeAt_spec`, `sweep_spec`: Freeing what there is.
* `sweep_fault`: Freeing what is not there, or not any more.
* `ready_of_fresh`: A string that is not stale is one to free or none.
* `bad_of_not_fresh`: Any other camera has none, or one that is freed.
* `index_of_entry`: An element of the array is that of a camera.
* `inv_step`: What an allowed step keeps.
* `step_faults`: Another one goes wrong.
* `no_fault_iff`: The runs in which nothing goes wrong.
* `afterLast_faults`: A camera of the number after the last is opened, and gets
  parameters.
-/

namespace Victara

namespace Camera

open StepSystem

inductive CameraFault
  | outOfBounds (i : Int)
  | doubleFree (string : Nat)
  deriving DecidableEq, Repr

/-- Parameters were set, and stored if `strdup` has found memory; or a device
    was closed. -/
inductive ParamCall
  | set (id : Int) (stored : Bool)
  | close
  deriving DecidableEq, Repr

structure CameraWrapper where
  numCameras : Nat
  fixed_set_params : Option (List (Option Nat))
  devices : List (Nat × Int)
  nextDevice : Nat
  nextString : Nat
  freed : List Nat
  fault : Option CameraFault
  since : List ParamCall
  deriving DecidableEq, Repr

/-- What `camera_device_open` gets: whether there is a vendor module, memory for
    the array, for the device and for its operations, and what the vendor's
    `open` returns. -/
structure OpenEnv where
  vendorModule : Bool
  params : Bool
  camera_device : Bool
  rv : Int
  camera_ops : Bool
  deriving DecidableEq, Repr

/-- A call. `name` is what `atoi` makes of the name, and a device is given by its
    number. -/
inductive CameraLabel
  | openDevice (name : Option Int) (env : OpenEnv)
  | setParameters (device : Nat) (strdup : Bool)
  | close (device : Nat)
  deriving DecidableEq, Repr

namespace CameraWrapper

/-- Before anything is opened. -/
def init (numCameras : Nat) : CameraWrapper where
  numCameras := numCameras
  fixed_set_params := none
  devices := []
  nextDevice := 0
  nextString := 0
  freed := []
  fault := none
  since := []

/-- `fixed_set_params[i]`, where there is such an element. -/
def entry (s : CameraWrapper) (i : Int) : Option (Option Nat) :=
  if i < 0 then none else (s.fixed_set_params.getD [])[i.toNat]?

/-- Free the string of a camera, if it has one. -/
def freeAt (s : CameraWrapper) (i : Int) : CameraWrapper :=
  match s.entry i with
  | none => { s with fault := some (.outOfBounds i) }
  | some none => s
  | some (some x) =>
    if x ∈ s.freed then { s with fault := some (.doubleFree x) }
    else { s with freed := s.freed ++ [x] }

/-- `fixed_set_params[id] = strdup(..)`. -/
def store (s : CameraWrapper) (id : Int) (strdup : Bool) : CameraWrapper :=
  { s with
    fixed_set_params :=
      s.fixed_set_params.map (·.set id.toNat (if strdup then some s.nextString else none))
    nextString := s.nextString + 1
    since := .set id strdup :: s.since }

def cameraFixupSetparams (s : CameraWrapper) (id : Int) (strdup : Bool) : CameraWrapper :=
  if (s.freeAt id).fault = none then (s.freeAt id).store id strdup else s.freeAt id

/-- The loop of `camera_device_close`. -/
def sweep : List Nat → CameraWrapper → CameraWrapper
  | [], s => s
  | i :: is, s => if (s.freeAt i).fault = none then sweep is (s.freeAt i) else s.freeAt i

def cameraDeviceClose (s : CameraWrapper) (device : Nat) : CameraWrapper :=
  let t := sweep (List.range s.numCameras) s
  if t.fault = none then
    { t with devices := t.devices.filter (·.1 ≠ device), since := .close :: t.since }
  else t

/-- A new array, if there is memory for it. -/
def newParams (s : CameraWrapper) (params : Bool) : CameraWrapper :=
  { s with
    fixed_set_params := if params then some (List.replicate s.numCameras none) else none
    since := [] }

def cameraDeviceOpen (s : CameraWrapper) (name : Option Int) (env : OpenEnv) : CameraWrapper :=
  match name with
  | none => s
  | some cameraid =>
    if env.vendorModule = false then s
    else
      let s := s.newParams env.params
      if env.params = false ∨ s.numCameras < cameraid ∨ env.camera_device = false ∨ env.rv ≠ 0 ∨
          env.camera_ops = false then s
      else
        { s with devices := s.devices ++ [(s.nextDevice, cameraid)], nextDevice := s.nextDevice + 1 }

/-- The `id` of an open device. -/
def idOf (s : CameraWrapper) (device : Nat) : Option Int :=
  (s.devices.find? (·.1 = device)).map Prod.snd

def step (s : CameraWrapper) (l : CameraLabel) : Option CameraWrapper :=
  if s.fault ≠ none then none
  else match l with
    | .openDevice name env => some (s.cameraDeviceOpen name env)
    | .setParameters device strdup =>
      (s.idOf device).map fun id => s.cameraFixupSetparams id strdup
    | .close device => (s.idOf device).map fun _ => s.cameraDeviceClose device

end CameraWrapper

/-! ## What has been stored since -/

/-- The last parameters of the camera that were set have been stored. -/
def Holds (id : Int) : List ParamCall → Prop
  | [] => False
  | .close :: since => Holds id since
  | .set other stored :: since => if other = id then stored = true else Holds id since

/-- And a device has been closed after that. -/
def Stale (id : Int) : List ParamCall → Prop
  | [] => False
  | .close :: since => Holds id since
  | .set other _ :: since => other ≠ id ∧ Stale id since

instance decidableHolds (id : Int) : (since : List ParamCall) → Decidable (Holds id since)
  | [] => isFalse not_false
  | .close :: since => decidableHolds id since
  | .set other stored :: since =>
      have := decidableHolds id since
      inferInstanceAs (Decidable (if other = id then stored = true else Holds id since))

instance decidableStale (id : Int) : (since : List ParamCall) → Decidable (Stale id since)
  | [] => isFalse not_false
  | .close :: since => decidableHolds id since
  | .set other _ :: since =>
      have := decidableStale id since
      inferInstanceAs (Decidable (other ≠ id ∧ Stale id since))

theorem holds_of_stale {id : Int} {since : List ParamCall} (h : Stale id since) : Holds id since := by
  induction since with
  | nil => exact h
  | cons call since ih =>
      cases call with
      | close => exact h
      | set other stored =>
          show if other = id then stored = true else Holds id since
          rw [if_neg h.1]
          exact ih h.2

namespace CameraWrapper

/-- The array is there, and has the camera. -/
def HasCamera (s : CameraWrapper) (id : Int) : Prop :=
  s.fixed_set_params ≠ none ∧ 0 ≤ id ∧ id < s.numCameras

instance (s : CameraWrapper) (id : Int) : Decidable (s.HasCamera id) :=
  inferInstanceAs (Decidable (_ ∧ _ ∧ _))

/-- The cameras that a call goes through are in the array, and none of them has
    a string that was stored before the last close, in the same array.
    `fixed_set_params` is allocated for the number of cameras, indexed by the id
    of whoever calls, and freed string by string at a close without being
    cleared. So it is the ids that have to be below the number, and a second
    close, or a store after one, that frees again. -/
def Allowed (s : CameraWrapper) : CameraLabel → Prop
  | .openDevice _ _ => True
  | .setParameters device _ => s.fault = none →
      ∀ id ∈ s.idOf device, s.HasCamera id ∧ ¬ Stale id s.since
  | .close device => s.fault = none → (s.idOf device).isSome = true →
      ∀ i ∈ List.range s.numCameras, s.HasCamera i ∧ ¬ Stale i s.since

instance (s : CameraWrapper) : DecidablePred s.Allowed
  | .openDevice _ _ => isTrue trivial
  | .setParameters device _ => inferInstanceAs (Decidable (_ → ∀ id ∈ s.idOf device, _))
  | .close _ => inferInstanceAs (Decidable (_ → _ → ∀ i ∈ List.range s.numCameras, _))

/-- What is true as long as nothing goes wrong: the array has an element for each
    camera, a string is in one of them and was freed if it is stale, and nothing
    was freed twice. -/
structure Inv (s : CameraWrapper) : Prop where
  sound : s.fault = none
  size : ∀ params ∈ s.fixed_set_params, params.length = s.numCameras
  holds : ∀ i e, s.entry i = some e → (Holds i s.since ↔ e ≠ none)
  stale : ∀ i x, s.entry i = some (some x) → (x ∈ s.freed ↔ Stale i s.since)
  apart : ∀ i j x, s.entry i = some (some x) → s.entry j = some (some x) → i = j
  given : ∀ i x, s.entry i = some (some x) → x < s.nextString
  old : ∀ x ∈ s.freed, x < s.nextString
  once : s.freed.Nodup

/-! ## Elements of the array -/

/-- Where the array is there, it has the cameras. -/
theorem entry_of_hasCamera {s : CameraWrapper}
    (hsize : ∀ params ∈ s.fixed_set_params, params.length = s.numCameras) (i : Int) :
    s.HasCamera i ↔ (s.entry i).isSome = true := by
  unfold entry HasCamera
  cases hparams : s.fixed_set_params with
  | none => simp
  | some params =>
      have hlen := hsize params hparams
      by_cases hneg : i < 0
      · rw [if_pos hneg]
        simp only [Option.isSome_none, Bool.false_eq_true, iff_false, not_and]
        intro _ hpos
        omega
      · rw [if_neg hneg, Option.getD_some, isSome_getElem?, hlen]
        simp only [ne_eq, reduceCtorEq, not_false_eq_true, true_and]
        omega

/-- A camera whose string is not stale is freed, and nothing else changes. -/
theorem freeAt_spec {s : CameraWrapper} {i : Int} {e : Option Nat} (hentry : s.entry i = some e)
    (hlive : ∀ x ∈ e, x ∉ s.freed) : s.freeAt i = { s with freed := s.freed ++ e.toList } := by
  unfold freeAt
  rw [hentry]
  cases e with
  | none =>
      rw [Option.toList_none, List.append_nil]
  | some x =>
      have hx : x ∉ s.freed := hlive x rfl
      simp only [if_neg hx, Option.toList_some]

theorem freeAt_fault {s : CameraWrapper} {i : Int}
    (h : ∀ e, s.entry i = some e → ∃ x ∈ e, x ∈ s.freed) : (s.freeAt i).fault ≠ none := by
  unfold freeAt
  cases hentry : s.entry i with
  | none => exact Option.some_ne_none _
  | some e =>
      rcases h e hentry with ⟨x, hx, hfreed⟩
      rw [Option.mem_def.mp hx]
      simp only [if_pos hfreed]
      exact Option.some_ne_none _

/-- What the loop has to find to be done. -/
def Ready (s : CameraWrapper) (i : Nat) : Prop := ∃ e, s.entry i = some e ∧ ∀ x ∈ e, x ∉ s.freed

/-- The strings of some cameras. -/
def strings (s : CameraWrapper) (is : List Nat) : List Nat :=
  is.flatMap fun i : Nat => ((s.entry i).getD none).toList

theorem mem_strings {s : CameraWrapper} {is : List Nat} {x : Nat} :
    x ∈ s.strings is ↔ ∃ i : Nat, i ∈ is ∧ s.entry i = some (some x) := by
  unfold strings
  rw [List.mem_flatMap]
  refine exists_congr fun i => and_congr_right fun _ => ?_
  cases s.entry i with
  | none => simp
  | some e => cases e <;> simp [eq_comm]

/-- The loop frees the strings of all the cameras. -/
theorem sweep_spec {s : CameraWrapper} {is : List Nat} (hs : s.fault = none) (hnodup : is.Nodup)
    (hready : ∀ i ∈ is, s.Ready i)
    (hapart : ∀ i j x, s.entry i = some (some x) → s.entry j = some (some x) → i = j) :
    sweep is s = { s with freed := s.freed ++ s.strings is } := by
  induction is generalizing s with
  | nil => simp [sweep, strings]
  | cons i is ih =>
      rcases List.nodup_cons.mp hnodup with ⟨hnot, hrest⟩
      rcases hready i List.mem_cons_self with ⟨e, hentry, hlive⟩
      have hfree := freeAt_spec hentry hlive
      have hfault : (s.freeAt i).fault = none := by rw [hfree]; exact hs
      -- The other cameras have other strings, so these are still to be freed.
      have hready' : ∀ j ∈ is, (s.freeAt i).Ready j := by
        intro j hj
        rcases hready j (List.mem_cons_of_mem i hj) with ⟨e', hentry', hlive'⟩
        rw [hfree]
        refine ⟨e', hentry', fun x hx => ?_⟩
        rw [List.mem_append, not_or]
        refine ⟨hlive' x hx, fun hmem => hnot ?_⟩
        rw [Option.mem_toList] at hmem
        rw [Option.mem_def.mp hmem] at hentry
        rw [Option.mem_def.mp hx] at hentry'
        rw [Int.ofNat_inj.mp (hapart i j x hentry hentry')]
        exact hj
      have happ := ih hfault hrest hready' (by rw [hfree]; exact hapart)
      rw [sweep, if_pos hfault, happ, hfree]
      simp only [strings, List.flatMap_cons, hentry, Option.getD_some, List.append_assoc]
      rfl

/-- It does not get past a camera that is not there, or whose string is not. -/
theorem sweep_fault {s : CameraWrapper} {is : List Nat}
    (h : ∃ i ∈ is, ∀ e, s.entry i = some e → ∃ x ∈ e, x ∈ s.freed) : (sweep is s).fault ≠ none := by
  induction is generalizing s with
  | nil =>
      rcases h with ⟨i, hi, -⟩
      exact absurd hi List.not_mem_nil
  | cons i is ih =>
      rw [sweep]
      split
      case isFalse hfault => exact hfault
      case isTrue hok =>
          rcases h with ⟨j, hj, hbad⟩
          rcases List.mem_cons.mp hj with rfl | hmem
          · exact absurd hok (freeAt_fault hbad)
          · refine ih ⟨j, hmem, ?_⟩
            -- The loop has freed more, and left the array as it is.
            have hsame : (s.freeAt i).entry j = s.entry j ∧ s.freed ⊆ (s.freeAt i).freed := by
              unfold freeAt
              split
              case h_1 => exact ⟨rfl, List.Subset.refl _⟩
              case h_2 => exact ⟨rfl, List.Subset.refl _⟩
              case h_3 x hx =>
                  split
                  case isTrue => exact ⟨rfl, List.Subset.refl _⟩
                  case isFalse => exact ⟨rfl, List.subset_append_left _ _⟩
            intro e he
            rw [hsame.1] at he
            rcases hbad e he with ⟨x, hx, hfreed⟩
            exact ⟨x, hx, hsame.2 hfreed⟩

theorem nodup_strings {s : CameraWrapper} {is : List Nat} (hnodup : is.Nodup)
    (hapart : ∀ i j x, s.entry i = some (some x) → s.entry j = some (some x) → i = j) :
    (s.strings is).Nodup := by
  unfold strings
  rw [List.nodup_flatMap]
  refine ⟨fun i _ => ?_, hnodup.imp fun {i j} hne => ?_⟩
  · cases (s.entry i).getD none <;> simp
  · intro x hi hj
    have hin : ∀ k : Nat, x ∈ ((s.entry k).getD none).toList → s.entry k = some (some x) := by
      intro k hk
      have hmem : x ∈ s.strings [k] := by simpa [strings] using hk
      rcases mem_strings.mp hmem with ⟨k', hk', h⟩
      rw [List.mem_singleton.mp hk'] at h
      exact h
    exact hne (Int.ofNat_inj.mp (hapart i j x (hin i hi) (hin j hj)))

theorem entry_store {s : CameraWrapper} {id : Int} (h : s.HasCamera id)
    (hsize : ∀ params ∈ s.fixed_set_params, params.length = s.numCameras) (strdup : Bool) (j : Int) :
    (s.store id strdup).entry j =
      if j = id then some (if strdup then some s.nextString else none) else s.entry j := by
  rcases h with ⟨hparams, hpos, hlt⟩
  rcases Option.ne_none_iff_exists'.mp hparams with ⟨params, heq⟩
  have hlen := hsize params heq
  unfold entry store
  simp only [heq, Option.map_some, Option.getD_some]
  by_cases hneg : j < 0
  · rw [if_pos hneg, if_pos hneg, if_neg (by omega)]
  · rw [if_neg hneg, if_neg hneg, List.getElem?_set]
    by_cases hj : j = id
    · subst hj
      rw [if_pos rfl, if_pos rfl, if_pos (by omega)]
    · rw [if_neg hj, if_neg (by omega)]

theorem string_of_store {s : CameraWrapper} {id : Int} (h : s.HasCamera id)
    (hsize : ∀ params ∈ s.fixed_set_params, params.length = s.numCameras) {strdup : Bool} {j : Int}
    {x : Nat} (hx : (s.store id strdup).entry j = some (some x)) :
    (j = id ∧ x = s.nextString) ∨ (j ≠ id ∧ s.entry j = some (some x)) := by
  rw [entry_store h hsize] at hx
  by_cases hj : j = id
  · rw [if_pos hj, Option.some.injEq] at hx
    refine .inl ⟨hj, ?_⟩
    cases strdup with
    | false => cases hx
    | true => exact (Option.some.inj hx).symm
  · rw [if_neg hj] at hx
    exact .inr ⟨hj, hx⟩

/-! ## One step -/

theorem inv_init (numCameras : Nat) : (init numCameras).Inv := by
  have hentry : ∀ i, (init numCameras).entry i = none := by
    intro i
    simp [entry, init]
  constructor
  · rfl
  · intro params h
    cases h
  · intro i e h
    rw [hentry] at h
    cases h
  · intro i x h
    rw [hentry] at h
    cases h
  · intro i j x h
    rw [hentry] at h
    cases h
  · intro i x h
    rw [hentry] at h
    cases h
  · exact fun x hx => absurd hx List.not_mem_nil
  · exact List.nodup_nil

theorem inv_newParams {s : CameraWrapper} (hs : s.Inv) (params : Bool) : (s.newParams params).Inv := by
  -- The new array has no strings yet.
  have hnone : ∀ i e, (s.newParams params).entry i = some e → e = none := by
    intro i e h
    unfold entry newParams at h
    split at h
    case isTrue => cases h
    case isFalse =>
        cases params with
        | false => simp at h
        | true =>
            simp only [if_true, Option.getD_some, List.getElem?_replicate] at h
            split at h
            case isTrue => exact (Option.some.inj h).symm
            case isFalse => cases h
  have hno : ∀ i x, (s.newParams params).entry i ≠ some (some x) := by
    intro i x h
    cases hnone i _ h
  refine ⟨hs.sound, fun ps h => ?_, fun i e h => ?_, fun i x h => absurd h (hno i x),
    fun i j x h => absurd h (hno i x), fun i x h => absurd h (hno i x), hs.old, hs.once⟩
  · cases params with
    | false => cases h
    | true =>
        rw [← Option.some.inj h]
        exact List.length_replicate
  · exact iff_of_false id (fun hne => hne (hnone i e h))

theorem inv_open {s : CameraWrapper} (hs : s.Inv) (name : Option Int) (env : OpenEnv) :
    (s.cameraDeviceOpen name env).Inv := by
  unfold cameraDeviceOpen
  split
  case h_1 => exact hs
  case h_2 cameraid =>
      split
      case isTrue => exact hs
      case isFalse =>
          have hnew := inv_newParams hs env.params
          dsimp only
          split
          case isTrue => exact hnew
          case isFalse =>
              exact ⟨hnew.sound, hnew.size, hnew.holds, hnew.stale, hnew.apart, hnew.given, hnew.old,
                hnew.once⟩

/-- A camera that is there, and whose string is not stale, has one to free or none. -/
theorem ready_of_fresh {s : CameraWrapper} (hs : s.Inv) {i : Int} (hcamera : s.HasCamera i)
    (hfresh : ¬ Stale i s.since) : ∃ e, s.entry i = some e ∧ ∀ x ∈ e, x ∉ s.freed := by
  rcases Option.isSome_iff_exists.mp ((entry_of_hasCamera hs.size i).mp hcamera) with ⟨e, hentry⟩
  refine ⟨e, hentry, fun x hx hfreed => hfresh ?_⟩
  rw [Option.mem_def.mp hx] at hentry
  exact (hs.stale i x hentry).mp hfreed

theorem inv_set {s : CameraWrapper} (hs : s.Inv) {id : Int} (hcamera : s.HasCamera id)
    (hfresh : ¬ Stale id s.since) (strdup : Bool) : (s.cameraFixupSetparams id strdup).Inv := by
  rcases ready_of_fresh hs hcamera hfresh with ⟨e, hentry, hlive⟩
  have hfree := freeAt_spec hentry hlive
  have hok : (s.freeAt id).fault = none := by rw [hfree]; exact hs.sound
  unfold cameraFixupSetparams
  rw [if_pos hok, hfree]
  have hmine : ∀ x ∈ e, s.entry id = some (some x) := by
    intro x hx
    rw [hentry, Option.mem_def.mp hx]
  -- A string that is in the array now is the new one, or was there for another camera.
  have hstring : ∀ {j x}, (({ s with freed := s.freed ++ e.toList } : CameraWrapper).store id
      strdup).entry j = some (some x) →
      (j = id ∧ x = s.nextString) ∨ (j ≠ id ∧ s.entry j = some (some x)) :=
    fun h => string_of_store hcamera hs.size h
  refine ⟨hs.sound, fun params h => ?_, fun j e' h => ?_, fun j x h => ?_, fun i j x hi hj => ?_,
    fun j x h => ?_, fun x hx => ?_, ?_⟩
  · rcases Option.map_eq_some_iff.mp h with ⟨params', hparams, rfl⟩
    rw [List.length_set]
    exact hs.size params' hparams
  · have hnow := (entry_store (s := { s with freed := s.freed ++ e.toList }) hcamera hs.size strdup
      j).symm.trans h
    show (if id = j then strdup = true else Holds j s.since) ↔ e' ≠ none
    by_cases hj : j = id
    · rw [if_pos hj] at hnow
      rw [if_pos hj.symm, ← Option.some.inj hnow]
      cases strdup <;> simp
    · rw [if_neg hj] at hnow
      rw [if_neg (Ne.symm hj)]
      exact hs.holds j e' hnow
  · show x ∈ s.freed ++ e.toList ↔ id ≠ j ∧ Stale j s.since
    rw [List.mem_append, Option.mem_toList]
    rcases hstring h with ⟨rfl, rfl⟩ | ⟨hj, hother⟩
    · -- The new string is not one that was freed.
      refine iff_of_false ?_ (fun hne => hne.1 rfl)
      rintro (hfreed | hmem)
      · exact Nat.lt_irrefl _ (hs.old _ hfreed)
      · exact Nat.lt_irrefl _ (hs.given _ _ (hmine _ hmem))
    · -- The string of another camera is not the one that is freed here.
      have hnot : x ∉ e := fun hmem => hj (hs.apart j id x hother (hmine x hmem))
      rw [hs.stale j x hother, ← Option.mem_def, or_iff_left hnot]
      exact (and_iff_right (Ne.symm hj)).symm
  · rcases hstring hi with ⟨rfl, rfl⟩ | ⟨hii, hi⟩
    · rcases hstring hj with ⟨rfl, -⟩ | ⟨-, hj⟩
      · rfl
      · exact absurd (hs.given j _ hj) (Nat.lt_irrefl _)
    · rcases hstring hj with ⟨-, rfl⟩ | ⟨-, hj⟩
      · exact absurd (hs.given i _ hi) (Nat.lt_irrefl _)
      · exact hs.apart i j x hi hj
  · show x < s.nextString + 1
    rcases hstring h with ⟨-, rfl⟩ | ⟨-, hother⟩
    · exact Nat.lt_succ_self _
    · exact Nat.lt_succ_of_lt (hs.given j x hother)
  · show x < s.nextString + 1
    rcases List.mem_append.mp hx with hfreed | hmem
    · exact Nat.lt_succ_of_lt (hs.old x hfreed)
    · exact Nat.lt_succ_of_lt (hs.given id x (hmine x (Option.mem_toList.mp hmem)))
  · show (s.freed ++ e.toList).Nodup
    refine List.nodup_append.mpr ⟨hs.once, by cases e <;> simp, fun x hx y hy => ?_⟩
    rintro rfl
    exact hlive x (Option.mem_toList.mp hy) hx

/-- Any other camera has none, or one that is freed. -/
theorem bad_of_not_fresh {s : CameraWrapper} (hs : s.Inv) {i : Int}
    (h : ¬ (s.HasCamera i ∧ ¬ Stale i s.since)) :
    ∀ e, s.entry i = some e → ∃ x ∈ e, x ∈ s.freed := by
  intro e hentry
  have hcamera : s.HasCamera i := by
    rw [entry_of_hasCamera hs.size, hentry]
    rfl
  have hstale : Stale i s.since := Classical.byContradiction fun hno => h ⟨hcamera, hno⟩
  rcases Option.ne_none_iff_exists'.mp ((hs.holds i e hentry).mp (holds_of_stale hstale)) with ⟨x, rfl⟩
  exact ⟨x, rfl, (hs.stale i x hentry).mpr hstale⟩

/-- An element of the array is that of a camera. -/
theorem index_of_entry {s : CameraWrapper} (hs : s.Inv) {i : Int} {e : Option Nat}
    (h : s.entry i = some e) : ∃ k : Nat, k ∈ List.range s.numCameras ∧ i = k := by
  have hcamera : s.HasCamera i := by
    rw [entry_of_hasCamera hs.size, h]
    rfl
  rcases hcamera with ⟨-, hpos, hlt⟩
  refine ⟨i.toNat, List.mem_range.mpr ?_, ?_⟩ <;> omega

theorem inv_close {s : CameraWrapper} (hs : s.Inv)
    (hfresh : ∀ i ∈ List.range s.numCameras, s.HasCamera (i : Int) ∧ ¬ Stale i s.since)
    (device : Nat) : (s.cameraDeviceClose device).Inv := by
  have hready : ∀ i ∈ List.range s.numCameras, s.Ready i := fun i hi =>
    ready_of_fresh hs (hfresh i hi).1 (hfresh i hi).2
  have hsweep := sweep_spec hs.sound List.nodup_range hready hs.apart
  unfold cameraDeviceClose
  rw [hsweep, if_pos hs.sound]
  have hlive : ∀ x ∈ s.strings (List.range s.numCameras), x ∉ s.freed := by
    intro x hx
    rcases mem_strings.mp hx with ⟨i, hi, hentry⟩
    rcases hready i hi with ⟨e, he, hnot⟩
    rw [hentry, Option.some.injEq] at he
    exact hnot x he.symm
  refine ⟨hs.sound, hs.size, hs.holds, fun i x h => ?_, hs.apart, hs.given, fun x hx => ?_, ?_⟩
  · -- All that is in the array is freed now.
    refine iff_of_true ?_ ((hs.holds i _ h).mpr (Option.some_ne_none x))
    rcases index_of_entry hs h with ⟨k, hk, rfl⟩
    exact List.mem_append_right _ (mem_strings.mpr ⟨k, hk, h⟩)
  · rcases List.mem_append.mp hx with hfreed | hmem
    · exact hs.old x hfreed
    · rcases mem_strings.mp hmem with ⟨i, -, hentry⟩
      exact hs.given i x hentry
  · refine List.nodup_append.mpr ⟨hs.once, nodup_strings List.nodup_range hs.apart, ?_⟩
    rintro x hx y hy rfl
    exact hlive x hy hx

theorem inv_step {s t : CameraWrapper} {l : CameraLabel} (hs : s.Inv) (hl : s.Allowed l)
    (h : s.step l = some t) : t.Inv := by
  unfold step at h
  rw [if_neg (not_not_intro hs.sound)] at h
  cases l with
  | openDevice name env => exact Option.some.inj h ▸ inv_open hs name env
  | setParameters device strdup =>
      rcases Option.map_eq_some_iff.mp h with ⟨id, hid, rfl⟩
      have hsafe := hl hs.sound id hid
      exact inv_set hs hsafe.1 hsafe.2 strdup
  | close device =>
      rcases Option.map_eq_some_iff.mp h with ⟨id, hid, rfl⟩
      exact inv_close hs (hl hs.sound (Option.isSome_iff_exists.mpr ⟨id, hid⟩)) device

/-- A step that is not allowed is taken, and goes wrong. -/
theorem step_faults {s : CameraWrapper} {l : CameraLabel} (hs : s.Inv) (hl : ¬ s.Allowed l) :
    ∃ t, s.step l = some t ∧ t.fault ≠ none := by
  unfold step
  rw [if_neg (not_not_intro hs.sound)]
  cases l with
  | openDevice name env => exact absurd trivial hl
  | setParameters device strdup =>
      simp only [Allowed, Classical.not_imp, Classical.not_forall] at hl
      rcases hl with ⟨-, id, hid, hbad⟩
      refine ⟨s.cameraFixupSetparams id strdup, Option.map_eq_some_iff.mpr ⟨id, hid, rfl⟩, ?_⟩
      have hfault := freeAt_fault (bad_of_not_fresh hs hbad)
      unfold cameraFixupSetparams
      rwa [if_neg hfault]
  | close device =>
      simp only [Allowed, Classical.not_imp, Classical.not_forall] at hl
      rcases hl with ⟨-, hopen, i, hi, hbad⟩
      rcases Option.isSome_iff_exists.mp hopen with ⟨id, hid⟩
      refine ⟨s.cameraDeviceClose device, Option.map_eq_some_iff.mpr ⟨id, hid, rfl⟩, ?_⟩
      have hfault := sweep_fault ⟨i, hi, bad_of_not_fresh hs hbad⟩
      unfold cameraDeviceClose
      rwa [if_neg hfault]

/-! ## Runs -/

/-- Nothing has gone wrong so far, and no string was freed twice. -/
def Sound (s : CameraWrapper) : Prop := s.fault = none ∧ s.freed.Nodup

instance (s : CameraWrapper) : Decidable s.Sound := inferInstanceAs (Decidable (_ ∧ _))

/-- Nothing goes wrong in those runs, and only those, in which all the calls
    find their cameras in the array, and no string that was stored before the
    last close. It is about the history of the calls alone, which `since` keeps. -/
theorem no_fault_iff (numCameras : Nat) (ls : List CameraLabel) :
    Throughout step Sound (init numCameras) ls ↔ Meets step Allowed (init numCameras) ls := by
  refine throughout_iff_meets (I := Inv) (fun s hs => ⟨hs.sound, hs.once⟩)
    (fun _ _ _ hs hl h => inv_step hs hl h) (fun s l hs hl => ?_) (inv_init numCameras)
  rcases step_faults hs hl with ⟨t, ht, hfault⟩
  exact ⟨t, ht, fun hsound => hfault hsound.1⟩

/-- Everything there is to get is got. -/
def allGood : OpenEnv where
  vendorModule := true
  params := true
  camera_device := true
  rv := 0
  camera_ops := true

/-- Two cameras are open and have parameters, one is closed, and the other one
    gets new parameters. -/
def closesOneOfTwo : List CameraLabel :=
  [.openDevice (some 0) allGood, .openDevice (some 1) allGood, .setParameters 0 true,
    .setParameters 1 true, .close 0, .setParameters 1 true]

theorem closesOneOfTwo_faults : ¬ Throughout step Sound (init 2) closesOneOfTwo := by decide

/-- A camera of the number after the last is opened, and gets parameters. -/
theorem afterLast_faults : ¬ Throughout step Sound (init 2)
    [.openDevice (some 2) allGood, .setParameters 0 true] := by decide

end CameraWrapper

end Camera

end Victara
