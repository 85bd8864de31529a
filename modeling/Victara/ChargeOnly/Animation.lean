import Victara.ChargeOnly.Draw

/-!
# Loading an Animation

`draw.c`: the wave on the battery has four frames, that come from an animation
in which a frame has only what is different from the one before. What is the
same is transparent, which is the colour 0xffff, and lines at the top and at the
bottom are left out. `load_anim_asset` makes whole frames of them. All of them
get memory for as many lines as the first one, and the pixels of all but the
first go in from the second line on. Where a frame is transparent it then gets
the pixel of the one before.

What comes out of `inflate` is an argument, and so is what the new memory has
been filled with. A frame that ends behind its memory has been written all the
same.

## Main definitions

* `Frame`: A frame before it is loaded.
* `loadAsset`, `patch`, `loadFrames`, `loadAnimAsset`: The functions of the
  source.
* `canvas`: A frame on its own, at its place.
* `latest`: The last pixel of some that is not transparent.
* `Frame.Whole`: `inflate` gives all pixels of a frame of this width.

## Theorems

* `loadAsset_eq`: A frame that is lower than its memory is at its place, and
  transparent around.
* `loadAsset_overrun`: One that is not is written behind its memory.
* `loadAsset_first`: The first frame fills its memory.
* `loadFrames_eq`: Every frame has the latest pixels up to it.
* `loadFrames_overrun`: The first frame that is not lower than the first one of
  all is written behind its memory.
* `loadAnimAsset_spec`: The animations that are loaded, and what comes out.
-/

namespace Victara

namespace ChargeOnly

/-- An asset with what `inflate` gives, if there is memory and it succeeds. -/
structure Frame where
  w : Nat
  h : Nat
  inflated : Option (List UInt16)
  heap : Nat → UInt16

inductive LoadError
  | failed
  | overrun
  deriving DecidableEq, Repr

abbrev Bits := Nat → UInt16

/-- `__load_asset`. -/
def loadAsset (a : Frame) (canvas_h y0 : Nat) : Except LoadError Bits :=
  match a.inflated with
  | none => .error .failed
  | some pixels =>
    if y0 * a.w + pixels.length ≤ a.w * canvas_h then
      .ok fun i =>
        if y0 * a.w ≤ i ∧ i < y0 * a.w + pixels.length then pixels.getD (i - y0 * a.w) 0
        else if canvas_h ≠ a.h then 0xffff
        else a.heap i
    else .error .overrun

/-- Transparent pixels are those of the frame before. -/
def patch (n : Nat) (bits before : Bits) : Bits := fun i =>
  if i < n ∧ bits i = 0xffff then before i else bits i

/-- The loop of `load_anim_asset`. -/
def loadFrames (h : Nat) (before : Bits) : List Frame → Except LoadError (List Bits)
  | [] => .ok []
  | a :: as => do
    let bits ← loadAsset a h 1
    let patched := patch (a.w * h) bits before
    let rest ← loadFrames h patched as
    return patched :: rest

def loadAnimAsset (a₀ : Frame) (as : List Frame) : Except LoadError (List Bits) := do
  let bits ← loadAsset a₀ a₀.h 0
  let rest ← loadFrames a₀.h bits as
  return bits :: rest

/-! ## What is meant -/

/-- The pixels of a frame from line `y0` on, and transparent around them. -/
def canvas (w y0 : Nat) (pixels : List UInt16) : Bits := fun i =>
  if y0 * w ≤ i ∧ i < y0 * w + pixels.length then pixels.getD (i - y0 * w) 0 else 0xffff

/-- The last pixel that is not transparent. -/
def latest (pixels : List UInt16) : UInt16 :=
  (pixels.reverse.find? fun p => p != 0xffff).getD 0xffff

def Frame.pixels (a : Frame) : List UInt16 := a.inflated.getD []

/-- `inflate` gives all pixels of a frame of this width. -/
structure Frame.Whole (a : Frame) (w : Nat) : Prop where
  width : a.w = w
  inflated : a.inflated = some a.pixels
  length : a.pixels.length = w * a.h

theorem latest_singleton (p : UInt16) : latest [p] = p := by
  by_cases h : p = 0xffff <;> simp [latest, h]

theorem latest_append (pixels : List UInt16) (p : UInt16) :
    latest (pixels ++ [p]) = if p = 0xffff then latest pixels else p := by
  by_cases h : p = 0xffff <;> simp [latest, h]

/-! ## The frames -/

/-- A frame that is lower than its memory is at its place, and transparent around. -/
theorem loadAsset_eq {a : Frame} {w h : Nat} (ha : a.Whole w) (hlow : a.h < h) :
    loadAsset a h 1 = .ok (canvas w 1 a.pixels) := by
  have hroom : 1 * w + a.pixels.length ≤ w * h := by
    calc 1 * w + a.pixels.length = w * (a.h + 1) := by
          rw [ha.length, Nat.mul_succ, Nat.one_mul, Nat.add_comm]
      _ ≤ w * h := Nat.mul_le_mul_left w hlow
  simp only [loadAsset, ha.inflated, ha.width, if_pos hroom, if_pos (Nat.ne_of_gt hlow)]
  rfl

/-- One that is not is written behind its memory. -/
theorem loadAsset_overrun {a : Frame} {w h : Nat} (ha : a.Whole w) (hpos : 0 < w)
    (hhigh : h ≤ a.h) : loadAsset a h 1 = .error .overrun := by
  have hroom : ¬ 1 * w + a.pixels.length ≤ w * h := by
    have hmul : w * h ≤ w * a.h := Nat.mul_le_mul_left w hhigh
    rw [ha.length]
    omega
  simp only [loadAsset, ha.inflated, ha.width, if_neg hroom]

/-- The first frame fills its memory. -/
theorem loadAsset_first {a : Frame} {w : Nat} (ha : a.Whole w) :
    ∃ bits, loadAsset a a.h 0 = .ok bits ∧ ∀ i < w * a.h, bits i = canvas w 0 a.pixels i := by
  have hlength := ha.length
  have hroom : 0 * a.w + a.pixels.length ≤ a.w * a.h := by
    rw [hlength, ha.width]
    omega
  simp only [loadAsset, ha.inflated, if_pos hroom]
  refine ⟨_, rfl, fun i hi => ?_⟩
  have hin (v : Nat) : 0 * v ≤ i ∧ i < 0 * v + a.pixels.length := by omega
  rw [if_pos (hin a.w), canvas, if_pos (hin w), Nat.zero_mul, Nat.zero_mul]

/-- Each frame has the latest pixels of the canvases up to its own. The induction
    is on the frames to come, with the pixels that have been seen. -/
theorem loadFrames_eq {w h : Nat} {as : List Frame} (has : ∀ a ∈ as, a.Whole w ∧ a.h < h)
    (before : Bits) (seen : Nat → List UInt16)
    (hbefore : ∀ i < w * h, before i = latest (seen i)) :
    ∃ frames, loadFrames h before as = .ok frames ∧ frames.length = as.length ∧
      ∀ k (hk : k < frames.length), ∀ i < w * h,
        frames[k] i = latest (seen i ++ (as.take (k + 1)).map fun a => canvas w 1 a.pixels i) := by
  induction as generalizing before seen with
  | nil => exact ⟨[], rfl, rfl, fun k hk => absurd hk (Nat.not_lt_zero k)⟩
  | cons a as ih =>
      rcases has a List.mem_cons_self with ⟨ha, hlow⟩
      have hload := loadAsset_eq ha hlow
      -- A pixel that is transparent is the one of the frame before.
      have hpatched : ∀ i < w * h, patch (a.w * h) (canvas w 1 a.pixels) before i =
          latest (seen i ++ [canvas w 1 a.pixels i]) := by
        intro i hi
        rw [latest_append, patch, ha.width]
        by_cases hclear : canvas w 1 a.pixels i = 0xffff
        · rw [if_pos ⟨hi, hclear⟩, if_pos hclear]
          exact hbefore i hi
        · rw [if_neg fun h => hclear h.2, if_neg hclear]
      -- The frame that has been made is the one before, for the next.
      rcases ih (fun a' ha' => has a' (List.mem_cons_of_mem a ha')) _
        (fun i => seen i ++ [canvas w 1 a.pixels i]) hpatched with ⟨frames, heq, hlength, hframes⟩
      refine ⟨patch (a.w * h) (canvas w 1 a.pixels) before :: frames, ?_, ?_, ?_⟩
      · simp only [loadFrames, hload, heq, bind, Except.bind, pure, Except.pure]
      · simp only [List.length_cons, hlength]
      · intro k hk i hi
        cases k with
        | zero => simpa using hpatched i hi
        | succ k =>
            have hk' : k < frames.length := by simpa using hk
            simpa using hframes k hk' i hi

/-- The first frame that is not lower than the first one of all is written behind
    its memory. -/
theorem loadFrames_overrun {w h : Nat} {as : List Frame} (has : ∀ a ∈ as, a.Whole w) (hpos : 0 < w)
    (hhigh : ∃ a ∈ as, h ≤ a.h) (before : Bits) : loadFrames h before as = .error .overrun := by
  induction as generalizing before with
  | nil =>
      rcases hhigh with ⟨a, ha, _⟩
      cases ha
  | cons a as ih =>
      have ha := has a List.mem_cons_self
      by_cases hlow : a.h < h
      · have hrest : ∃ a' ∈ as, h ≤ a'.h := by
          rcases hhigh with ⟨a', ha', hle⟩
          rcases List.mem_cons.mp ha' with rfl | hmem
          · exact absurd hlow (Nat.not_lt.mpr hle)
          · exact ⟨a', hmem, hle⟩
        have hmore := ih (fun a' ha' => has a' (List.mem_cons_of_mem a ha')) hrest
        simp only [loadFrames, loadAsset_eq ha hlow, hmore, bind, Except.bind]
      · simp only [loadFrames, loadAsset_overrun ha hpos (Nat.le_of_not_lt hlow), bind, Except.bind]

/-- An animation whose frames are all lower than its first one is loaded. The
    pixel of a frame is then the latest one up to it that is not transparent.
    Any other animation is written behind its memory: a later frame is put one
    line lower, in memory for as many lines as the first has. -/
theorem loadAnimAsset_spec (w : Nat) (a₀ : Frame) (as : List Frame) (hpos : 0 < w)
    (ha₀ : a₀.Whole w) (has : ∀ a ∈ as, a.Whole w) :
    ((∀ a ∈ as, a.h < a₀.h) → ∃ frames, loadAnimAsset a₀ as = .ok frames ∧
      frames.length = as.length + 1 ∧ ∀ k (hk : k < frames.length), ∀ i < w * a₀.h,
        frames[k] i = latest (canvas w 0 a₀.pixels i ::
          (as.take k).map fun a => canvas w 1 a.pixels i)) ∧
    ((∃ a ∈ as, a₀.h ≤ a.h) → loadAnimAsset a₀ as = .error .overrun) := by
  rcases loadAsset_first ha₀ with ⟨bits, hload, hbits⟩
  refine ⟨fun hlow => ?_, fun hhigh => ?_⟩
  · have hbefore : ∀ i < w * a₀.h, bits i = latest [canvas w 0 a₀.pixels i] := by
      intro i hi
      rw [latest_singleton]
      exact hbits i hi
    rcases loadFrames_eq (fun a ha => ⟨has a ha, hlow a ha⟩) bits
      (fun i => [canvas w 0 a₀.pixels i]) hbefore with ⟨frames, heq, hlength, hframes⟩
    refine ⟨bits :: frames, ?_, ?_, ?_⟩
    · simp only [loadAnimAsset, hload, heq, bind, Except.bind, pure, Except.pure]
    · rw [List.length_cons, hlength]
    · intro k hk i hi
      cases k with
      | zero => simpa using hbefore i hi
      | succ k =>
          have hk' : k < frames.length := by simpa using hk
          simpa using hframes k hk' i hi
  · simp only [loadAnimAsset, hload, loadFrames_overrun has hpos hhigh, bind, Except.bind]

/-- A line that changes below one that does not, and two lines that do. -/
theorem loadAnimAsset_second_line :
    (∃ frames, loadAnimAsset ⟨1, 2, some [3, 4], fun _ => 0⟩ [⟨1, 1, some [5], fun _ => 0⟩] =
      .ok frames ∧ ∃ hk : 1 < frames.length, frames[1] 0 = 3 ∧ frames[1] 1 = 5) ∧
    loadAnimAsset ⟨1, 2, some [3, 4], fun _ => 0⟩ [⟨1, 2, some [5, 6], fun _ => 0⟩] =
      .error .overrun := by
  refine ⟨?_, ?_⟩
  · have hspec := (loadAnimAsset_spec 1 ⟨1, 2, some [3, 4], fun _ => 0⟩
      [⟨1, 1, some [5], fun _ => 0⟩] (by decide) ⟨rfl, rfl, rfl⟩
      (by rintro a ha; cases List.mem_singleton.mp ha; exact ⟨rfl, rfl, rfl⟩)).1 (by simp)
    rcases hspec with ⟨frames, heq, hlength, hframes⟩
    have hk : 1 < frames.length := by
      rw [hlength]
      decide
    refine ⟨frames, heq, hk, ?_, ?_⟩
    · exact (hframes 1 hk 0 (by decide)).trans (by decide)
    · exact (hframes 1 hk 1 (by decide)).trans (by decide)
  · exact (loadAnimAsset_spec 1 ⟨1, 2, some [3, 4], fun _ => 0⟩
      [⟨1, 2, some [5, 6], fun _ => 0⟩] (by decide) ⟨rfl, rfl, rfl⟩
      (by rintro a ha; cases List.mem_singleton.mp ha; exact ⟨rfl, rfl, rfl⟩)).2 (by simp)

end ChargeOnly

end Victara
