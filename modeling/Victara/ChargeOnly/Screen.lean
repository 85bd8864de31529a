import Victara.Lib.Bytes
import Victara.Lib.StepSystem

/-!
# The Screen

`screen.c`: a framebuffer with two pages, one above the other. `screen_update`
draws into the page it did not draw into before, and then asks the driver to
show it, unless the display is blanked.

So the page that is drawn into is the other one of the last that was drawn,
and not of the last that is shown. After an update that is not shown, the
next one is drawn over what is.

What `draw` leaves in `mem_surface` is an argument of `screen_update`, and so
is whether the driver accepts the request. `selected` is the page that the
driver was last told to show, and `draws` what has been written into the
framebuffer; the program keeps neither.

## Main definitions

* `FB`: What the driver says of the framebuffer.
* `InPage`: A byte of the page that starts in line `yoffset`.
* `Packed`: Pixels of two bytes, or of four, that fill the lines.
* `Draw`: Bytes that an update writes, and the page that is shown then.
* `Draw.OffScreen`: What is written is all in one page, and not in the one
  shown.
* `Screen`: The framebuffer and what is kept of it.
* `ScreenCall`: A call, with the memory of `mem_surface` when it is shown, and
  whether `FBIOPUT_VSCREENINFO` succeeds.
* `rgb32`: `rgb32` of a pixel of 16 bits.
* `flip32`: The bytes that `flip_32` writes.
* `screenInit`: After `screen_init`, with what the driver says.
* `pixels`: Where the pixels of an update go, and what they are.
* `write`: Write into the page at `yoffset`.
* `flip`: Go to the other page.
* `Screen.screenUpdate`, `Screen.displayBlank`, `Screen.displayUnblank`: The
  calls.
* `Screen.Shown`: The last page that was drawn is shown.
* `Inv`: What is kept of the two pages.
* `batteryWhileBlanked`: An update that is shown, one while the display is
  blanked, and one more.

## Theorems

* `pixels_spec`: An update writes one page.
* `flip_yoffset`: The page that is drawn into.
* `flip_yoffset_ne`: A flip shows another page than the one drawn last.
* `flip_yoffset_eq`: A page that is shown before it is drawn is the other one.
* `draws_write`: What an update writes of a packed framebuffer is a page.
* `page_disjoint`: The bytes of two pages that start in different lines of these
  two.
* `bits_of_offScreen`: Then the page that is shown stays as it was.
* `pages_update`: The pages after an update.
* `step_offScreen`, `step_overdraws`: An update after a page that is shown, or
  not.
* `offScreen_iff`: The runs whose updates stay off the screen.
-/

namespace Victara

namespace ChargeOnly

open StepSystem

/-- The sizes are those of memory that is mapped. -/
structure FB where
  line_length : Nat
  yres : Nat
  bits_per_pixel : Nat
  deriving DecidableEq, Repr

namespace FB

def fbWidth (fb : FB) : Nat := fb.line_length / (fb.bits_per_pixel / 8)

def fbSize (fb : FB) : Nat := fb.line_length * fb.yres

/-- A byte of the page that starts in line `yoffset`. -/
def InPage (fb : FB) (yoffset b : Nat) : Prop :=
  fb.line_length * yoffset ≤ b ∧ b < fb.line_length * yoffset + fb.fbSize

/-- Pixels of two bytes, or of four, that fill the lines. -/
def Packed (fb : FB) : Prop :=
  (fb.bits_per_pixel = 16 ∧ 2 ∣ fb.line_length) ∨ (fb.bits_per_pixel = 32 ∧ 4 ∣ fb.line_length)

instance (fb : FB) : Decidable fb.Packed := inferInstanceAs (Decidable (_ ∨ _))

end FB

/-- Bytes that an update writes, and the page that is shown then. -/
structure Draw where
  start : Nat
  len : Nat
  selected : Option Nat
  deriving DecidableEq, Repr

/-- What is written is in one of the two pages, and not in the one shown. A byte
    is all that counts, and not whether it was changed: what is written over
    with what was there is on the screen as well while it is written. -/
def Draw.OffScreen (fb : FB) (d : Draw) : Prop :=
  ∃ yoffset, (yoffset = 0 ∨ yoffset = fb.yres) ∧ ∀ b, d.start ≤ b → b < d.start + d.len →
    fb.InPage yoffset b ∧ ∀ shown ∈ d.selected, ¬ fb.InPage shown b

structure Screen where
  fb : FB
  yoffset : Nat
  blank : Bool
  bits : Nat → UInt8
  selected : Option Nat
  draws : List Draw

/-- A call, with the memory of `mem_surface` when it is shown, and whether
    `FBIOPUT_VSCREENINFO` succeeds. -/
inductive ScreenCall
  | update (surface : Nat → UInt8) (put : Bool)
  | blank
  | unblank

/-- `rgb32` of a pixel of 16 bits. -/
def rgb32 (pixel : Nat) : Nat :=
  let r := pixel >>> 11 &&& 0x1F
  let g := pixel >>> 5 &&& 0x3F
  let b := pixel &&& 0x1F
  (0xff <<< 24) ||| ((r <<< 3 ||| r >>> 2) <<< 16) ||| ((g <<< 2 ||| g >>> 4) <<< 8) |||
    (b <<< 3 ||| b >>> 2)

/-- The bytes that `flip_32` writes. -/
def flip32 (ptr : Nat → UInt8) (count : Nat) : List UInt8 :=
  (List.range count).flatMap fun i => Bytes.toBytes 4 (rgb32 (Bytes.ofBytes (Bytes.load ptr (2 * i) 2)))

namespace Screen

/-- After `screen_init`, with what the driver says. -/
def screenInit (fb : FB) (yoffset : Nat) (bits : Nat → UInt8) : Screen where
  fb := fb
  yoffset := yoffset
  blank := false
  bits := bits
  selected := none
  draws := []

/-- Where the pixels of an update go, and what they are. -/
def pixels (fb : FB) (yoffset : Nat) (mem_surface : Nat → UInt8) : Nat × List UInt8 :=
  if fb.bits_per_pixel = 16 then
    (2 * (yoffset * fb.fbWidth), Bytes.load mem_surface 0 (fb.line_length * fb.yres))
  else (4 * (yoffset * fb.fbWidth), flip32 mem_surface (fb.fbWidth * fb.yres))

/-- Write into the page at `yoffset`. -/
def write (s : Screen) (mem_surface : Nat → UInt8) : Screen :=
  let p := pixels s.fb s.yoffset mem_surface
  { s with
    bits := Bytes.store s.bits p.1 p.2
    draws := s.draws ++ [⟨p.1, p.2.length, s.selected⟩] }

/-- Go to the other page. -/
def flip (s : Screen) : Screen :=
  { s with yoffset := if s.yoffset ≠ 0 then 0 else s.fb.yres }

def screenUpdate (s : Screen) (mem_surface : Nat → UInt8) (put : Bool) : Screen :=
  let s := s.flip.write mem_surface
  if s.blank = false ∧ put = true then { s with selected := some s.yoffset } else s

def displayBlank (s : Screen) : Screen := { s with blank := true }

def displayUnblank (s : Screen) : Screen := { s with blank := false }

def step (s : Screen) : ScreenCall → Option Screen
  | .update surface put => some (s.screenUpdate surface put)
  | .blank => some s.displayBlank
  | .unblank => some s.displayUnblank

/-! ## One update -/

theorem length_flip32 (ptr : Nat → UInt8) (count : Nat) : (flip32 ptr count).length = 4 * count := by
  induction count with
  | zero => rfl
  | succ count ih =>
      have hlast : (flip32 ptr (count + 1)).length = (flip32 ptr count).length + 4 := by
        simp only [flip32, List.range_succ, List.flatMap_append, List.length_append,
          List.flatMap_singleton]
        rfl
      omega

/-- An update writes one page, if the pixels fill the lines. -/
theorem pixels_spec {fb : FB} (h : fb.Packed) (yoffset : Nat) (mem_surface : Nat → UInt8) :
    (pixels fb yoffset mem_surface).1 = fb.line_length * yoffset ∧
      (pixels fb yoffset mem_surface).2.length = fb.fbSize := by
  unfold pixels FB.fbSize
  rcases h with ⟨hbpp, n, hn⟩ | ⟨hbpp, n, hn⟩
  · have hwidth : fb.fbWidth = n := by
      rw [FB.fbWidth, hbpp, hn]
      exact Nat.mul_div_cancel_left n (by decide)
    rw [if_pos hbpp, hwidth, hn]
    refine ⟨?_, Bytes.length_load _ _ _⟩
    show 2 * (yoffset * n) = 2 * n * yoffset
    rw [Nat.mul_assoc, Nat.mul_comm n]
  · have hwidth : fb.fbWidth = n := by
      rw [FB.fbWidth, hbpp, hn]
      exact Nat.mul_div_cancel_left n (by decide)
    rw [if_neg (by rw [hbpp]; decide), hwidth, hn]
    refine ⟨?_, (length_flip32 _ _).trans (Nat.mul_assoc 4 n fb.yres).symm⟩
    show 4 * (yoffset * n) = 4 * n * yoffset
    rw [Nat.mul_assoc, Nat.mul_comm n]

theorem screenUpdate_eq (s : Screen) (mem_surface : Nat → UInt8) (put : Bool) :
    (s.screenUpdate mem_surface put).fb = s.fb ∧
      (s.screenUpdate mem_surface put).yoffset = s.flip.yoffset ∧
      (s.screenUpdate mem_surface put).blank = s.blank ∧
      (s.screenUpdate mem_surface put).bits = (s.flip.write mem_surface).bits ∧
      (s.screenUpdate mem_surface put).selected =
        (if s.blank = false ∧ put = true then some s.flip.yoffset else s.selected) ∧
      (s.screenUpdate mem_surface put).draws = (s.flip.write mem_surface).draws := by
  by_cases h : s.blank = false ∧ put = true
  · have heq : s.screenUpdate mem_surface put =
        { s.flip.write mem_surface with selected := some s.flip.yoffset } := if_pos h
    rw [heq, if_pos h]
    exact ⟨rfl, rfl, rfl, rfl, rfl, rfl⟩
  · have heq : s.screenUpdate mem_surface put = s.flip.write mem_surface := if_neg h
    rw [heq, if_neg h]
    exact ⟨rfl, rfl, rfl, rfl, rfl, rfl⟩

/-- The page that is drawn into. -/
theorem flip_yoffset (s : Screen) : s.flip.yoffset = 0 ∨ s.flip.yoffset = s.fb.yres := by
  unfold flip
  by_cases h : s.yoffset = 0
  · exact .inr (if_neg (not_not_intro h))
  · exact .inl (if_pos h)

/-- It is not the one that was drawn last. -/
theorem flip_yoffset_ne {s : Screen} (hres : s.fb.yres ≠ 0) : s.yoffset ≠ s.flip.yoffset := by
  unfold flip
  by_cases h : s.yoffset = 0
  · rw [if_neg (not_not_intro h), h]
    exact Ne.symm hres
  · rw [if_pos h]
    exact h

/-- So it is the one that is shown, if that is another one. -/
theorem flip_yoffset_eq {s : Screen} {shown : Nat} (hy : s.yoffset = 0 ∨ s.yoffset = s.fb.yres)
    (hshown : shown = 0 ∨ shown = s.fb.yres) (hne : shown ≠ s.yoffset) :
    s.flip.yoffset = shown := by
  unfold flip
  by_cases h : s.yoffset = 0
  · rw [if_neg (not_not_intro h)]
    rcases hshown with hzero | hres
    · exact absurd (hzero.trans h.symm) hne
    · exact hres.symm
  · rw [if_pos h]
    rcases hshown with hzero | hres
    · exact hzero.symm
    · exact absurd (hres.trans (hy.resolve_left h).symm) hne

/-- What an update writes of a packed framebuffer is a page. -/
theorem draws_write {s : Screen} (h : s.fb.Packed) (mem_surface : Nat → UInt8) :
    (s.write mem_surface).draws =
      s.draws ++ [⟨s.fb.line_length * s.yoffset, s.fb.fbSize, s.selected⟩] := by
  have hpixels := pixels_spec h s.yoffset mem_surface
  unfold write
  rw [← hpixels.1, ← hpixels.2]

/-- The bytes of two pages that start in different lines of these two. -/
theorem page_disjoint {fb : FB} {yoffset shown b : Nat} (hy : yoffset = 0 ∨ yoffset = fb.yres)
    (hshown : shown = 0 ∨ shown = fb.yres) (hne : shown ≠ yoffset) (hb : fb.InPage yoffset b) :
    ¬ fb.InPage shown b := by
  unfold FB.InPage FB.fbSize at *
  rcases hy with rfl | rfl <;> rcases hshown with rfl | rfl <;> omega

/-- An update that stays off the screen leaves the page that is shown alone. -/
theorem bits_of_offScreen {s : Screen} {surface : Nat → UInt8} {put : Bool}
    (h : ∀ d ∈ (s.screenUpdate surface put).draws, d.OffScreen s.fb) {shown b : Nat}
    (hshown : s.selected = some shown) (hb : s.fb.InPage shown b) :
    (s.screenUpdate surface put).bits b = s.bits b := by
  rcases s.screenUpdate_eq surface put with ⟨-, -, -, hbits, -, hdraws⟩
  rw [hbits]
  refine Bytes.store_outside s.bits fun hin => ?_
  rw [hdraws] at h
  rcases h _ (List.mem_append_right _ List.mem_cons_self) with ⟨yoffset, -, hbytes⟩
  exact (hbytes b hin.1 hin.2).2 shown hshown hb

/-! ## Runs -/

/-- Nothing is shown yet, or the page that was drawn last is. An update draws
    into the other one of the page that was drawn last, whether or not the
    driver has shown that. If it has not, because the display was blanked or the
    request failed, the other one is what is on the screen. -/
def Shown (s : Screen) : ScreenCall → Prop
  | .update _ _ => s.fb.Packed ∧ ∀ shown ∈ s.selected, shown = s.yoffset
  | .blank | .unblank => True

instance (s : Screen) : DecidablePred s.Shown
  | .update _ _ => inferInstanceAs (Decidable (_ ∧ _))
  | .blank | .unblank => isTrue trivial

/-- All that was written so far was off the screen. -/
def OffScreen (s : Screen) : Prop := ∀ d ∈ s.draws, d.OffScreen s.fb

/-- Once a page is shown, it is one of the two, and so is the one drawn last.
    The page that is drawn next is then the other one, which is why it is off
    the screen. -/
structure Inv (fb : FB) (s : Screen) : Prop where
  same : s.fb = fb
  pages : ∀ shown ∈ s.selected, (shown = 0 ∨ shown = fb.yres) ∧
    (s.yoffset = 0 ∨ s.yoffset = fb.yres)
  offScreen : s.OffScreen

theorem inv_init (fb : FB) (yoffset : Nat) (bits : Nat → UInt8) :
    Inv fb (screenInit fb yoffset bits) where
  same := rfl
  pages := fun _ h => by cases h
  offScreen := fun _ h => absurd h List.not_mem_nil

/-- The pages after an update. -/
theorem pages_update {fb : FB} {s : Screen} (hs : Inv fb s) (surface : Nat → UInt8) (put : Bool) :
    ∀ shown ∈ (s.screenUpdate surface put).selected, (shown = 0 ∨ shown = fb.yres) ∧
      ((s.screenUpdate surface put).yoffset = 0 ∨
        (s.screenUpdate surface put).yoffset = fb.yres) := by
  rcases s.screenUpdate_eq surface put with ⟨-, hy, -, -, hsel, -⟩
  have hflip := s.flip_yoffset
  rw [hs.same] at hflip
  rw [hy, hsel]
  intro shown hshown
  split at hshown
  case isTrue => exact ⟨Option.some.inj hshown ▸ hflip, hflip⟩
  case isFalse => exact ⟨(hs.pages shown hshown).1, hflip⟩

/-- An update draws off the screen where the last page that was drawn is shown. -/
theorem step_offScreen {fb : FB} {s t : Screen} {l : ScreenCall} (hs : Inv fb s) (hl : s.Shown l)
    (h : s.step l = some t) : Inv fb t := by
  cases l with
  | update surface put =>
      rw [← Option.some.inj h]
      rcases s.screenUpdate_eq surface put with ⟨hfb, -, -, -, -, hdraws⟩
      refine ⟨hfb.trans hs.same, pages_update hs surface put, fun d hd => ?_⟩
      have hpacked : s.flip.fb.Packed := hl.1
      rw [hdraws, draws_write hpacked] at hd
      rw [hfb]
      rcases List.mem_append.mp hd with hold | hnew
      · exact hs.offScreen d hold
      · rw [List.mem_singleton.mp hnew]
        refine ⟨s.flip.yoffset, s.flip_yoffset, fun b hge hlt => ⟨⟨hge, hlt⟩, fun shown hshown => ?_⟩⟩
        have hpages := hs.pages shown hshown
        rw [← hs.same] at hpages
        have hlast := hl.2 shown hshown
        by_cases hres : s.fb.yres = 0
        · -- A page without lines has no bytes.
          have hsize : s.fb.fbSize = 0 := by rw [FB.fbSize, hres, Nat.mul_zero]
          exact absurd hlt (by show ¬ b < _ + s.fb.fbSize; omega)
        · refine page_disjoint s.flip_yoffset hpages.1 ?_ ⟨hge, hlt⟩
          rw [hlast]
          exact flip_yoffset_ne hres
  | blank => exact Option.some.inj h ▸ ⟨hs.same, hs.pages, hs.offScreen⟩
  | unblank => exact Option.some.inj h ▸ ⟨hs.same, hs.pages, hs.offScreen⟩

/-- Anywhere else it draws over the page that is shown. -/
theorem step_overdraws {fb : FB} {s : Screen} {l : ScreenCall} (hfb : fb.Packed)
    (hsize : 0 < fb.fbSize) (hs : Inv fb s) (hl : ¬ s.Shown l) :
    ∃ t, s.step l = some t ∧ ¬ t.OffScreen := by
  cases l with
  | update surface put =>
      refine ⟨_, rfl, fun hoff => ?_⟩
      rcases s.screenUpdate_eq surface put with ⟨hfb', -, -, -, -, hdraws⟩
      have hpacked : s.flip.fb.Packed := hs.same ▸ hfb
      -- A page is shown that is not the one drawn last, so it is the one drawn next.
      have hshown : s.selected = some s.flip.yoffset := by
        cases hsel : s.selected with
        | none => exact absurd ⟨hs.same ▸ hfb, fun shown hshown => by rw [hsel] at hshown; cases hshown⟩ hl
        | some shown =>
            have hpages := hs.pages shown hsel
            rw [← hs.same] at hpages
            have hne : shown ≠ s.yoffset := by
              rintro rfl
              refine hl ⟨hs.same ▸ hfb, fun other hother => ?_⟩
              exact (Option.some.inj (hsel.symm.trans hother)).symm
            rw [flip_yoffset_eq hpages.2 hpages.1 hne]
      -- Its first byte is written, and is one of the page that is shown.
      have hmem : ⟨s.flip.fb.line_length * s.flip.yoffset, s.flip.fb.fbSize, s.selected⟩ ∈
          (s.screenUpdate surface put).draws := by
        rw [hdraws, draws_write hpacked]
        exact List.mem_append_right _ List.mem_cons_self
      rcases hoff _ hmem with ⟨yoffset, -, hbytes⟩
      have hpos : 0 < s.flip.fb.fbSize := hs.same ▸ hsize
      have hfirst := (hbytes _ (Nat.le_refl _) (Nat.lt_add_of_pos_right hpos)).2 _ hshown
      rw [hfb'] at hfirst
      exact hfirst ⟨Nat.le_refl _, Nat.lt_add_of_pos_right hpos⟩
  | blank => exact absurd trivial hl
  | unblank => exact absurd trivial hl

/-- The runs that stay off the screen are those in which every update comes
    after one whose page is shown, or before any page is. For the converse the
    pages must not be empty and the pixels fill the lines: into a page without
    bytes nothing is drawn, wherever it is. -/
theorem offScreen_iff (fb : FB) (yoffset : Nat) (bits : Nat → UInt8) (ls : List ScreenCall) :
    (Meets step Shown (screenInit fb yoffset bits) ls →
        Throughout step OffScreen (screenInit fb yoffset bits) ls) ∧
      (fb.Packed → 0 < fb.fbSize → Throughout step OffScreen (screenInit fb yoffset bits) ls →
        Meets step Shown (screenInit fb yoffset bits) ls) := by
  constructor
  · exact throughout_of_meets (fun _ hs => hs.offScreen) (fun _ _ _ hs hl h => step_offScreen hs hl h)
      (inv_init fb yoffset bits)
  · intro hfb hsize
    refine (throughout_iff_meets (I := Inv fb) (fun _ hs => hs.offScreen)
      (fun _ _ _ hs hl h => step_offScreen hs hl h) (fun _ _ hs hl => ?_)
      (inv_init fb yoffset bits)).mp
    exact step_overdraws hfb hsize hs hl

/-- Two updates that are shown, and one while the display is blanked. -/
theorem offScreen_iff_blankLast : Throughout step OffScreen (screenInit ⟨4, 2, 16⟩ 0 fun _ => 0)
    [.update (fun _ => 1) true, .update (fun _ => 2) true, .blank, .update (fun _ => 3) true] :=
  (offScreen_iff ⟨4, 2, 16⟩ 0 (fun _ => 0) _).1 (by decide)

/-- An update that is shown, one while the display is blanked, and one more. -/
def batteryWhileBlanked (surface : Nat → UInt8) : List ScreenCall :=
  [.update surface true, .blank, .update surface true, .unblank, .update surface true]

theorem batteryWhileBlanked_overdraws : ¬ Throughout step OffScreen
    (screenInit ⟨4, 2, 16⟩ 0 fun _ => 0) (batteryWhileBlanked fun _ => 0) := by
  intro h
  have hend := throughout_exec h (t := exec step (screenInit ⟨4, 2, 16⟩ 0 fun _ => 0)
    (batteryWhileBlanked fun _ => 0) |>.get rfl) (Option.some_get _).symm
  have hlast : (⟨8, 8, some 2⟩ : Draw).OffScreen ⟨4, 2, 16⟩ := hend _ (by decide)
  rcases hlast with ⟨yoffset, -, hbytes⟩
  exact (hbytes 8 (by decide) (by decide)).2 2 rfl ⟨by decide, by decide⟩

end Screen

end ChargeOnly

end Victara
