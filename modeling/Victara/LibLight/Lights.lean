import Mathlib.Tactic.Common
import Victara.Lib.StepSystem

/-!
# The Lights

`lights.c`: the backlight of the display, and the LED, which shows the battery
or a notification. A request is a call of a `set_light`, and they exclude each
other. What is written goes to a file of the driver, and `write_int` says
whether that has worked.

The last brightness that was asked for is kept, and is not written again if the
next request is for the same. But it is kept also when it could not be written.

`led` and `lcd` are the numbers last written to the two files with success. The
program does not keep these.

Two folds over the requests have what the state has: `lastBrightness` is what
was asked for last, and goes with the number that is kept, and
`writtenBrightness` is what was written last, and goes with the file. A request
that repeats the last one is not written, and is obeyed if the two agree. Any
other is written, and is obeyed whenever it says so.

## Main definitions

* `LightState`, `rgbToBrightness`: A request, and how bright it is.
* `Errno`: What a call that fails leaves in `errno`.
* `FileCalls`, `writeInt`: What the calls for a file do, and a write with them.
* `Lights`, `setLightBacklight` and the other functions of the source.
* `Request`, `Lights.step`: The requests.
* `init`: Before the first request.
* `setLight`: The state afterwards, and what is returned.
* `Lights.Obeyed`: What is said to be done has been done.
* `nextBrightness`: The brightness that is asked for, if it is, and the last one
  otherwise.
* `lastBrightness`, `writtenBrightness`: What a series of requests has asked for
  and what it has written, told from the requests and the outcomes alone.
* `FileCalls.Succeed`: The file can be opened, and `write` does not return -1.
* `nextWritten`: What a request makes of the brightness asked for last, and of
  the one written last.
* `Keeps`: What is kept is what the last request has asked for.
* `Follows`: What is kept is what the last request has asked for, and in the
  file is what the first requests of the series have written.

## Theorems

* `rgbToBrightness_le`: A brightness is one byte.
* `obeyed_iff`: When a request for the backlight is obeyed.
* `keeps_setLight`, `follows_setLight`: The number that is kept and the file go
  as the requests and the outcomes of their calls say.
* `Keeps.eq_iff`: The number that is kept is the brightness just if that was
  asked for last.
* `follows_of_exec`: Every run of requests can be taken, and leaves in the file
  what the first requests of the series have written.
* `backlight_iff`: The requests that are all obeyed.
-/

namespace Victara

namespace LibLight

open StepSystem

def LIGHT_FLASH_NONE : Int := 0
def LIGHT_FLASH_HARDWARE : Int := 2

/-- `struct light_state_t`, as far as it is read. -/
structure LightState where
  color : UInt32
  flashMode : Int
  flashOnMS : Int
  deriving DecidableEq, Repr

/-- What a call that fails leaves in `errno`. -/
abbrev Errno := { n : Int // 0 < n }

/-- `open` fails, or `write` returns a number. -/
inductive FileCalls
  | openFails (errno : Errno)
  | write (amt : Int) (errno : Errno)
  deriving DecidableEq

/-- What is in the file afterwards, and what is returned. -/
def writeInt (file : Option Int) (value : Int) : FileCalls → Option Int × Int
  | .openFails errno => (file, -errno)
  | .write amt errno => if amt = -1 then (file, -errno) else (some value, 0)

def isLit (state : LightState) : Bool := state.color &&& 0x00ffffff ≠ 0

def rgbToBrightness (state : LightState) : Nat :=
  let color := (state.color &&& 0x00ffffff).toNat
  (77 * ((color >>> 16) &&& 0x00ff) + 150 * ((color >>> 8) &&& 0x00ff) +
    29 * (color &&& 0x00ff)) >>> 8

structure Lights where
  g_notification : LightState
  g_battery : LightState
  g_attention : Int
  g_lcd_brightness : Int
  led : Option Int
  lcd : Option Int
  deriving DecidableEq, Repr

inductive Request
  | backlight (state : LightState) (calls : FileCalls)
  | notifications (state : LightState) (calls : FileCalls)
  | attention (state : LightState) (calls : FileCalls)
  | buttons (state : LightState)
  deriving DecidableEq

namespace Lights

/-- Before the first request. -/
def init : Lights where
  g_notification := ⟨0, 0, 0⟩
  g_battery := ⟨0, 0, 0⟩
  g_attention := 0
  g_lcd_brightness := -1
  led := none
  lcd := none

def setLightBacklight (s : Lights) (state : LightState) (calls : FileCalls) : Lights × Int :=
  let brightness : Int := rgbToBrightness state
  if s.g_lcd_brightness < 0 ∨ s.g_lcd_brightness ≠ brightness then
    let r := writeInt s.lcd brightness calls
    ({ s with lcd := r.1, g_lcd_brightness := brightness }, r.2)
  else ({ s with g_lcd_brightness := brightness }, 0)

def setSpeakerLightLocked (s : Lights) (state : LightState) (calls : FileCalls) : Lights :=
  { s with led := (writeInt s.led (rgbToBrightness state) calls).1 }

def handleSpeakerBatteryLocked (s : Lights) (calls : FileCalls) : Lights :=
  if isLit s.g_battery then s.setSpeakerLightLocked s.g_battery calls
  else s.setSpeakerLightLocked s.g_notification calls

def setLightNotifications (s : Lights) (state : LightState) (calls : FileCalls) : Lights × Int :=
  (handleSpeakerBatteryLocked { s with g_notification := state } calls, 0)

def setLightAttention (s : Lights) (state : LightState) (calls : FileCalls) : Lights × Int :=
  let g_attention :=
    if state.flashMode = LIGHT_FLASH_HARDWARE then state.flashOnMS
    else if state.flashMode = LIGHT_FLASH_NONE then 0 else s.g_attention
  (handleSpeakerBatteryLocked { s with g_attention := g_attention } calls, 0)

def setLightButtons (s : Lights) (_state : LightState) : Lights × Int := (s, 0)

/-- The state afterwards, and what is returned. -/
def setLight (s : Lights) : Request → Lights × Int
  | .backlight state calls => s.setLightBacklight state calls
  | .notifications state calls => s.setLightNotifications state calls
  | .attention state calls => s.setLightAttention state calls
  | .buttons state => s.setLightButtons state

def step (s : Lights) (r : Request) : Option Lights := some (s.setLight r).1

/-- A request for the backlight that returns 0 leaves its brightness written.
    Requests for the other lights do not touch it, and one that fails says so. -/
def Obeyed (s : Lights) : Request → Prop
  | .backlight state calls =>
    (s.setLightBacklight state calls).2 = 0 →
      (s.setLightBacklight state calls).1.lcd = some (rgbToBrightness state : Int)
  | _ => True

instance : (s : Lights) → (r : Request) → Decidable (s.Obeyed r)
  | s, .backlight state calls => inferInstanceAs (Decidable
      ((s.setLightBacklight state calls).2 = 0 →
        (s.setLightBacklight state calls).1.lcd = some (rgbToBrightness state : Int)))
  | _, .notifications .. => isTrue trivial
  | _, .attention .. => isTrue trivial
  | _, .buttons .. => isTrue trivial

end Lights

/-- The brightness that is asked for, if it is, and the last one otherwise. -/
def nextBrightness (last : Option Nat) : Request → Option Nat
  | .backlight state _ => some (rgbToBrightness state)
  | _ => last

/-- The brightness that the last request for the backlight has asked for. -/
def lastBrightness (rs : List Request) : Option Nat := rs.foldl nextBrightness none

/-- The file can be opened, and `write` does not return -1. -/
def FileCalls.Succeed : FileCalls → Prop
  | .openFails _ => False
  | .write amt _ => amt ≠ -1

instance : DecidablePred FileCalls.Succeed
  | .openFails _ => isFalse id
  | .write amt _ => inferInstanceAs (Decidable (amt ≠ -1))

/-- What a request makes of the brightness asked for last, and of the one
    written last. A series of requests for one brightness has one write, that of
    its first request, so that only this request can change the second. -/
def nextWritten (last : Option Nat × Option Nat) : Request → Option Nat × Option Nat
  | .backlight state calls =>
    (some (rgbToBrightness state),
      if last.1 ≠ some (rgbToBrightness state) ∧ calls.Succeed then some (rgbToBrightness state)
      else last.2)
  | _ => last

/-- The brightness that has been written last, by the requests and the outcomes
    of their calls alone. A request writes if it asks for another brightness
    than the one before it did, and its calls succeed; one that repeats it
    writes nothing. -/
def writtenBrightness (rs : List Request) : Option Nat := (rs.foldl nextWritten (none, none)).2

/-! ## One request -/

/-- A brightness is one byte. -/
theorem rgbToBrightness_le (state : LightState) : rgbToBrightness state ≤ 255 := by
  unfold rgbToBrightness
  have hbyte : ∀ n : Nat, n &&& 0x00ff ≤ 255 := fun n => Nat.and_le_right
  have hred := hbyte ((state.color &&& 0x00ffffff).toNat >>> 16)
  have hgreen := hbyte ((state.color &&& 0x00ffffff).toNat >>> 8)
  have hblue := hbyte (state.color &&& 0x00ffffff).toNat
  rw [Nat.shiftRight_eq_div_pow]
  omega

theorem writeInt_zero {file : Option Int} {value : Int} {calls : FileCalls}
    (h : (writeInt file value calls).2 = 0) : (writeInt file value calls).1 = some value := by
  cases calls with
  | openFails errno =>
      have hpos := errno.property
      have hret : -errno.val = 0 := h
      omega
  | write amt errno =>
      by_cases hamt : amt = -1
      · have hpos := errno.property
        have hret : -errno.val = 0 := by
          rwa [writeInt, if_pos hamt] at h
        omega
      · rw [writeInt, if_neg hamt]

namespace Lights

theorem handleSpeakerBatteryLocked_backlight (s : Lights) (calls : FileCalls) :
    (s.handleSpeakerBatteryLocked calls).g_lcd_brightness = s.g_lcd_brightness ∧
      (s.handleSpeakerBatteryLocked calls).lcd = s.lcd := by
  unfold handleSpeakerBatteryLocked
  split <;> exact ⟨rfl, rfl⟩

theorem setLightBacklight_kept {s : Lights} {state : LightState}
    (h : s.g_lcd_brightness = rgbToBrightness state) (calls : FileCalls) :
    s.setLightBacklight state calls = (s, 0) := by
  have hnot : ¬ (s.g_lcd_brightness < 0 ∨ s.g_lcd_brightness ≠ rgbToBrightness state) := by
    omega
  have hrun : s.setLightBacklight state calls =
      ({ s with g_lcd_brightness := rgbToBrightness state }, 0) := if_neg hnot
  rw [hrun, ← h]

theorem setLightBacklight_other {s : Lights} {state : LightState}
    (h : s.g_lcd_brightness ≠ rgbToBrightness state) (calls : FileCalls) :
    s.setLightBacklight state calls =
      ({ s with
        lcd := (writeInt s.lcd (rgbToBrightness state) calls).1
        g_lcd_brightness := rgbToBrightness state },
        (writeInt s.lcd (rgbToBrightness state) calls).2) := if_pos (Or.inr h)

/-- A request is obeyed unless it is for the brightness that is kept, and that
    has not been written. -/
theorem obeyed_iff (s : Lights) (state : LightState) (calls : FileCalls) :
    s.Obeyed (.backlight state calls) ↔
      (s.g_lcd_brightness = rgbToBrightness state →
        s.lcd = some (rgbToBrightness state : Int)) := by
  show ((s.setLightBacklight state calls).2 = 0 → _) ↔ _
  by_cases hkept : s.g_lcd_brightness = rgbToBrightness state
  · -- Nothing is written, and the request says that it is done.
    rw [setLightBacklight_kept hkept]
    exact ⟨fun h _ => h rfl, fun h _ => h hkept⟩
  · rw [setLightBacklight_other hkept]
    exact iff_of_true writeInt_zero fun h => absurd h hkept

/-- What is kept is what the last request has asked for. -/
def Keeps (s : Lights) (last : Option Nat) : Prop :=
  s.g_lcd_brightness = match last with
    | some brightness => (brightness : Int)
    | none => -1

theorem keeps_setLight {s : Lights} {last : Option Nat} (h : s.Keeps last) (r : Request) :
    (s.setLight r).1.Keeps (nextBrightness last r) := by
  cases r with
  | backlight state calls =>
      show (s.setLightBacklight state calls).1.g_lcd_brightness = rgbToBrightness state
      by_cases hkept : s.g_lcd_brightness = rgbToBrightness state
      · rw [setLightBacklight_kept hkept]
        exact hkept
      · rw [setLightBacklight_other hkept]
  | notifications state calls =>
      exact (handleSpeakerBatteryLocked_backlight _ calls).1.trans h
  | attention state calls =>
      exact (handleSpeakerBatteryLocked_backlight _ calls).1.trans h
  | buttons state => exact h

/-- What is kept is what the last request has asked for, and in the file is what
    the first requests of the series have written. -/
def Follows (s : Lights) (last : Option Nat × Option Nat) : Prop :=
  s.Keeps last.1 ∧ s.lcd = last.2.map (Nat.cast : Nat → Int)

theorem writeInt_eq (file : Option Int) (value : Int) (calls : FileCalls) :
    (writeInt file value calls).1 = if calls.Succeed then some value else file := by
  cases calls with
  | openFails errno => rfl
  | write amt errno =>
      rw [writeInt]
      by_cases hamt : amt = -1
      · rw [if_pos hamt, if_neg (show ¬ (FileCalls.write amt errno).Succeed from fun h => h hamt)]
      · rw [if_neg hamt, if_pos (show (FileCalls.write amt errno).Succeed from hamt)]

theorem nextWritten_fst (last : Option Nat × Option Nat) (r : Request) :
    (nextWritten last r).1 = nextBrightness last.1 r := by
  cases r <;> rfl

/-- The number that is kept is the brightness just if that was asked for last. -/
theorem Keeps.eq_iff {s : Lights} {last : Option Nat} (h : s.Keeps last) (brightness : Nat) :
    s.g_lcd_brightness = brightness ↔ last = some brightness := by
  unfold Keeps at h
  rw [h]
  cases last with
  | none =>
      -- The number kept before the first request is no brightness.
      simp only [reduceCtorEq]
  | some n =>
      simp only [Option.some.injEq]
      omega

theorem follows_setLight {s : Lights} {last : Option Nat × Option Nat} (h : s.Follows last)
    (r : Request) : (s.setLight r).1.Follows (nextWritten last r) := by
  refine ⟨nextWritten_fst last r ▸ keeps_setLight h.1 r, ?_⟩
  cases r with
  | backlight state calls =>
      show (s.setLightBacklight state calls).1.lcd =
        (if last.1 ≠ some (rgbToBrightness state) ∧ calls.Succeed then
          some (rgbToBrightness state) else last.2).map _
      by_cases hkept : s.g_lcd_brightness = rgbToBrightness state
      · have hlast := (h.1.eq_iff _).mp hkept
        rw [setLightBacklight_kept hkept, if_neg (fun hnew => hnew.1 hlast)]
        exact h.2
      · have hlast : last.1 ≠ some (rgbToBrightness state) := fun heq =>
          hkept ((h.1.eq_iff _).mpr heq)
        rw [setLightBacklight_other hkept]
        show (writeInt s.lcd (rgbToBrightness state) calls).1 = _
        rw [writeInt_eq, h.2]
        by_cases hcalls : calls.Succeed
        · rw [if_pos hcalls, if_pos ⟨hlast, hcalls⟩]
          rfl
        · rw [if_neg hcalls, if_neg (fun hnew => hcalls hnew.2)]
  | notifications state calls => exact (handleSpeakerBatteryLocked_backlight _ calls).2.trans h.2
  | attention state calls => exact (handleSpeakerBatteryLocked_backlight _ calls).2.trans h.2
  | buttons state => exact h.2

theorem foldl_nextWritten_fst (rs : List Request) (last : Option Nat × Option Nat) :
    (rs.foldl nextWritten last).1 = rs.foldl nextBrightness last.1 := by
  induction rs generalizing last with
  | nil => rfl
  | cons r rs ih => rw [List.foldl_cons, ih, nextWritten_fst, List.foldl_cons]

/-- Every run of requests can be taken, and leaves in the file what the first
    requests of the series have written. -/
theorem follows_of_exec {rs : List Request} {s : Lights} (h : exec step init rs = some s) :
    s.Keeps (lastBrightness rs) ∧
      s.lcd = (writtenBrightness rs).map (Nat.cast : Nat → Int) := by
  have hsim : ∃ t, exec step init rs = some t ∧ t.Follows (rs.foldl nextWritten (none, none)) :=
    simulation_of_meets (G := fun _ _ => True) (R := Follows)
      (fun s last r hs _ => ⟨(s.setLight r).1, rfl, follows_setLight hs r⟩)
      (show init.Follows (none, none) from ⟨rfl, rfl⟩) (meets_of_forall (fun _ _ _ => trivial) init)
  rcases hsim with ⟨t, ht, hkeeps, hlcd⟩
  rw [h] at ht
  cases ht
  rw [foldl_nextWritten_fst] at hkeeps
  exact ⟨hkeeps, hlcd⟩

theorem exec_isSome (s : Lights) (rs : List Request) : ∃ t, exec step s rs = some t := by
  induction rs generalizing s with
  | nil => exact ⟨s, rfl⟩
  | cons r rs ih => exact ih (s.setLight r).1

/-- The requests are all obeyed if and only if each that repeats the brightness
    of the request before it comes when that brightness has been written: by the
    first request of its series, or before it and by no other since. Both sides
    of the condition are folds over the requests and the outcomes of their
    calls, and ask nothing of the state. The brightness is remembered before it
    is written, so that a repeat after a failure does nothing and returns 0. -/
theorem backlight_iff (rs : List Request) :
    Meets step Obeyed init rs ↔
      ∀ pre state calls post, rs = pre ++ .backlight state calls :: post →
        lastBrightness pre = some (rgbToBrightness state) →
          writtenBrightness pre = some (rgbToBrightness state) := by
  -- The file has integers, the requests have natural numbers.
  have hwritten : ∀ (n : Option Nat) (b : Nat),
      n.map (Nat.cast : Nat → Int) = some (b : Int) ↔ n = some b := by
    intro n b
    cases n with
    | none => simp
    | some n =>
        rw [Option.map_some, Option.some.injEq, Option.some.injEq]
        exact Int.ofNat_inj
  rw [meets_iff_forall_split]
  constructor
  · intro h pre state calls post hrs hlast
    -- Before each request, the state is what the two folds say of the requests so far.
    rcases exec_isSome init pre with ⟨s, hrun⟩
    have hfollows := follows_of_exec hrun
    have hobeyed := (obeyed_iff s state calls).mp (h pre _ post s hrs hrun)
    rw [hfollows.1.eq_iff, hfollows.2, hwritten] at hobeyed
    exact hobeyed hlast
  · intro h pre r post s hrs hrun
    cases r with
    | backlight state calls =>
        have hfollows := follows_of_exec hrun
        rw [obeyed_iff, hfollows.1.eq_iff, hfollows.2, hwritten]
        exact h pre state calls post hrs
    | notifications | attention | buttons => trivial

/-- White, twice. The file cannot be opened, and the second request says 0. -/
theorem backlight_dropped :
    ¬ Meets step Obeyed init
      [.backlight ⟨0xffffffff, 0, 0⟩ (.openFails ⟨5, by decide⟩),
        .backlight ⟨0xffffffff, 0, 0⟩ (.write 4 ⟨5, by decide⟩)] := by
  decide

end Lights

end LibLight

end Victara
