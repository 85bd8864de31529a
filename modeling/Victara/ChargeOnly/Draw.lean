import Victara.Lib.Raster

/-!
# What Is Drawn

`draw.c`: a battery in the middle of the screen, filled up to the level, with a
wave on top of it, a sign in its middle, and the level in digits below it. All
of it is painted into flat memory. Each picture has its size in its type; that
the pictures have been loaded is taken for granted.

The signs and digits come as two masks of bytes, an intensity and an opacity.
An opacity of 0 or 255 is handled apart from the others.

The level is never negative: `power_event` sees to that. The number of the frame
is one that does not wrap.

Each function of the source is shown to paint a list of layers, by the rules of
`Raster`: a blit is one layer, the level is one line painted a number of times,
and the number is a layer for each digit, from the right place on. So `draw`
paints the layers one after the other if they are inside the memory, and that is
a question of the height alone. What a pixel of the battery shows is then read
off the layers from the top down.

## Main definitions

* `pack`: A pixel of 5, 6 and 5 bits.
* `mix`, `blend`: A pixel of a mask over one of the screen, as the source has it
  and as it is meant.
* `Asset`, `Art`: The pictures.
* `Mask`: An opacity and an intensity.
* `Surface`: The memory that is drawn into.
* `Cells`: The memory that a picture is drawn into.
* `originX`: Where the background is.
* `waveY`: The line of the wave, which does not leave the battery.
* `numberX`: Digits have a width of 28 with the gap between them.
* `pixels`: The cells that the memory has.
* `blit`, `aiBlit`, `fillBattery`, `drawNumber`, `draw`: The functions of the
  source.
* `digits`: The digits of the level.
* `levelLayer`: A line that is painted a number of times.
* `layers`: What is painted, from the bottom up.
* `Surface.Fits`: A screen that is wide enough, and high enough for the
  background.
* `Art.plain`: Pictures of one colour each.

## Theorems

* `blend_le`: A channel does not get brighter than both.
* `channels_mix`: The opacities that are handled apart give what the others do.
* `waveY_spec`: The wave stands on the level, or is at the top, and is inside
  the battery.
* `Fits.numberY`: The number is below the battery, and the screen has to be that
  high.
* `draw_paints`: The layers are what is drawn, whatever was there before.
* `draw_of_short`: The background starts above the screen, or ends below it.
* `drawNumber_of_short`: On a screen that is too low the number ends below it.
* `draw_shows_iff`: What is drawn are the layers, on a screen that has room for
  the number below the battery, or for the battery, where no number is drawn.
* `numberLayers_not_covers`: No layer of the number is above its first line.
* `level_pixel`: What the battery looks like.
* `draw_level`: What the memory has for a point of the battery that the sign
  does not cover: the wave, the level, or the background.
-/

namespace Victara

namespace ChargeOnly

open Raster

/-! ## Pixels -/

/-- A pixel of 5, 6 and 5 bits. -/
def pack (r g b : Nat) : UInt16 := UInt16.ofNat (r <<< 11 ||| g <<< 5 ||| b)

def red (t : UInt16) : Nat := t.toNat >>> 11

def green (t : UInt16) : Nat := (t.toNat >>> 5) &&& 0x3f

def blue (t : UInt16) : Nat := t.toNat &&& 0x1f

/-- One pixel of `ai_blit`. -/
def mix (a i : UInt8) (t : UInt16) : UInt16 :=
  if a = 0 then t
  else if a = 255 then pack (i.toNat >>> 3) (i.toNat >>> 2) (i.toNat >>> 3)
  else pack (((i.toNat >>> 3) * a.toNat + red t * (255 - a.toNat)) / 255)
    (((i.toNat >>> 2) * a.toNat + green t * (255 - a.toNat)) / 255)
    (((i.toNat >>> 3) * a.toNat + blue t * (255 - a.toNat)) / 255)

/-- A channel between the one of the screen and the one of the mask. -/
def blend (a : UInt8) (new old : Nat) : Nat := (new * a.toNat + old * (255 - a.toNat)) / 255

/-! ## Pictures -/

/-- `struct asset`, loaded, for pixels or for a mask. -/
structure Asset (α : Type) (w h : Nat) where
  bits : Nat → α

/-- An opacity and an intensity. -/
structure Mask (w h : Nat) where
  a : Asset UInt8 w h
  i : Asset UInt8 w h

structure Art where
  battery_charge_background : Asset UInt16 346 390
  battery_green_img : Asset UInt16 136 1
  battery_green_ani : Fin 4 → Asset UInt16 136 16
  battery_orange_img : Asset UInt16 136 1
  battery_orange_ani : Fin 4 → Asset UInt16 136 16
  battery_red_img : Asset UInt16 136 1
  battery_red_ani : Fin 4 → Asset UInt16 136 16
  ic_pane_battery_charge : Mask 136 136
  ic_pane_battery_complete : Mask 136 136
  ic_pane_battery_error : Mask 136 136
  battery_numbers : Fin 10 → Mask 26 39
  battery_numbers_percentage : Mask 18 39

namespace Art

def batteryImg (art : Art) (percent : Nat) : Asset UInt16 136 1 :=
  if percent ≤ 10 then art.battery_red_img
  else if percent < 30 then art.battery_orange_img
  else art.battery_green_img

def batteryAni (art : Art) (percent frame : Nat) : Asset UInt16 136 16 :=
  if percent ≤ 10 then art.battery_red_ani (Fin.ofNat 4 frame)
  else if percent < 30 then art.battery_orange_ani (Fin.ofNat 4 frame)
  else art.battery_green_ani (Fin.ofNat 4 frame)

def icPane (art : Art) (percent : Nat) (error : Bool) : Mask 136 136 :=
  if error then art.ic_pane_battery_error
  else if percent < 100 then art.ic_pane_battery_charge
  else art.ic_pane_battery_complete

end Art

/-! ## The source -/

/-- What `draw_init` is told. The size is in bytes. -/
structure Surface where
  fb_width : Nat
  fb_height : Nat
  fb_size : Nat
  deriving DecidableEq, Repr

/-- The memory that a picture is drawn into. -/
abbrev Cells := Int → UInt16

def PNG_TOP : Int := 71
def PNG_BOTTOM : Int := 317
def PNG_LEFT : Int := 105

namespace Surface

/-- Where the background is. -/
def originX (fb : Surface) : Int := Int.tdiv (fb.fb_width - 346) 2
def originY (fb : Surface) : Int := Int.tdiv (fb.fb_height - 390) 2

def top (fb : Surface) : Int := PNG_TOP + fb.originY
def bottom (fb : Surface) : Int := PNG_BOTTOM + fb.originY
def left (fb : Surface) : Int := PNG_LEFT + fb.originX

def fillHeightPixels (fb : Surface) (percent : Nat) : Int :=
  Int.tdiv (percent * (fb.bottom - fb.top)) 100

/-- The line of the wave, which does not leave the battery. -/
def waveY (fb : Surface) (percent : Nat) : Int :=
  let y := fb.bottom - fb.fillHeightPixels percent - 16
  if y < fb.top then fb.top else y

def paneX (fb : Surface) : Int := Int.tdiv (fb.fb_width - 136) 2
def paneY (fb : Surface) : Int := Int.tdiv (fb.fb_height - 136) 2

/-- Digits have a width of 28 with the gap between them. -/
def numberX (fb : Surface) (digits : Nat) : Int := Int.tdiv (fb.fb_width - digits * 28) 2 + 1
def numberY (fb : Surface) : Int := Int.tdiv (fb.fb_height + 390) 2 - 10

def memset (fb : Surface) (cells : Cells) : Cells := fun p =>
  if 0 ≤ p ∧ 2 * p < fb.fb_size then 0 else cells p

/-- The cells that are there. -/
def pixels (fb : Surface) : Nat := fb.fb_size / 2

end Surface

variable {w h : Nat}

/-- The lines of the picture, one by one. -/
def blit (fb : Surface) (a : Asset UInt16 w h) (x y : Int) : Cells → Option Cells :=
  walk fb.pixels fb.fb_width w (fun s _ => a.bits s) w h 0 (fb.fb_width * y + x)

def aiBlit (fb : Surface) (m : Mask w h) (x y : Int) : Cells → Option Cells :=
  walk fb.pixels fb.fb_width w (fun s t => mix (m.a.bits s) (m.i.bits s) t) w h 0
    (fb.fb_width * y + x)

/-- One line of the level again and again, and the wave unless it is full. -/
def fillBattery (fb : Surface) (art : Art) (frame percent : Nat) (cells : Cells) :
    Option Cells :=
  let img := art.batteryImg percent
  let fill_height_pixels := fb.fillHeightPixels percent
  (walk fb.pixels fb.fb_width 0 (fun s _ => img.bits s) 136 fill_height_pixels.toNat 0
    (fb.fb_width * (fb.bottom - fill_height_pixels) + fb.left) cells).bind fun cells =>
  if percent < 100 then
    blit fb (art.batteryAni percent frame) fb.left (fb.waveY percent) cells
  else some cells

/-- The digits of the level. -/
def digits (percent : Nat) : List (Fin 10) :=
  (if percent = 100 then [1] else []) ++
    (if 10 ≤ percent then [Fin.ofNat 10 (percent / 10)] else []) ++ [Fin.ofNat 10 percent]

def drawNumber (fb : Surface) (art : Art) (y : Int) : Int → List (Fin 10) → Cells → Option Cells
  | x, [], cells => aiBlit fb art.battery_numbers_percentage x y cells
  | x, d :: ds, cells =>
    (aiBlit fb (art.battery_numbers d) x y cells).bind (drawNumber fb art y (x + 28) ds)

def draw (fb : Surface) (art : Art) (frame percent : Nat) (error : Bool) (cells : Cells) :
    Option Cells :=
  ((blit fb art.battery_charge_background fb.originX fb.originY (fb.memset cells)).bind fun cells =>
    if error then some cells else fillBattery fb art frame percent cells).bind fun cells =>
  (aiBlit fb (art.icPane percent error) fb.paneX fb.paneY cells).bind fun cells =>
  if error then some cells
  else drawNumber fb art fb.numberY (fb.numberX (digits percent).length) (digits percent) cells

/-! ## What is meant -/

def imageLayer (a : Asset UInt16 w h) (x y : Int) : Layer UInt16 :=
  ⟨x, y, w, h, fun row col _ => a.bits (w * row + col)⟩

def maskLayer (m : Mask w h) (x y : Int) : Layer UInt16 :=
  ⟨x, y, w, h, fun row col t => mix (m.a.bits (w * row + col)) (m.i.bits (w * row + col)) t⟩

/-- A line that is painted a number of times. -/
def levelLayer (img : Asset UInt16 136 1) (x y : Int) (h : Nat) : Layer UInt16 :=
  ⟨x, y, 136, h, fun _ col _ => img.bits col⟩

def numberLayers (art : Art) (y : Int) : Int → List (Fin 10) → List (Layer UInt16)
  | x, [] => [maskLayer art.battery_numbers_percentage x y]
  | x, d :: ds => maskLayer (art.battery_numbers d) x y :: numberLayers art y (x + 28) ds

def batteryLayers (fb : Surface) (art : Art) (frame percent : Nat) : List (Layer UInt16) :=
  [levelLayer (art.batteryImg percent) fb.left (fb.bottom - fb.fillHeightPixels percent)
      (fb.fillHeightPixels percent).toNat] ++
    if percent < 100 then [imageLayer (art.batteryAni percent frame) fb.left (fb.waveY percent)]
    else []

def layers (fb : Surface) (art : Art) (frame percent : Nat) (error : Bool) :
    List (Layer UInt16) :=
  [imageLayer art.battery_charge_background fb.originX fb.originY] ++
    (if error then [] else batteryLayers fb art frame percent) ++
    ([maskLayer (art.icPane percent error) fb.paneX fb.paneY] ++
      if error then []
      else numberLayers art fb.numberY (fb.numberX (digits percent).length) (digits percent))

/-! ## Channels -/

section

variable {r g b : Nat}

theorem toNat_pack (hr : r < 32) (hg : g < 64) (hb : b < 32) :
    (pack r g b).toNat = r * 2048 + g * 32 + b := by
  have hlow : g <<< 5 ||| b = g * 32 + b := by
    rw [← Nat.shiftLeft_add_eq_or_of_lt (i := 5) hb, Nat.shiftLeft_eq]
  have hhigh : r <<< 11 ||| (g * 32 + b) = r * 2048 + (g * 32 + b) := by
    rw [← Nat.shiftLeft_add_eq_or_of_lt (i := 11) (by omega), Nat.shiftLeft_eq]
  unfold pack
  rw [Nat.or_assoc, hlow, hhigh, UInt16.toNat_ofNat', Nat.mod_eq_of_lt (by omega)]
  omega

theorem red_eq (t : UInt16) : red t = t.toNat / 2048 := Nat.shiftRight_eq_div_pow t.toNat 11

theorem green_eq (t : UInt16) : green t = t.toNat / 32 % 64 := by
  unfold green
  rw [Nat.shiftRight_eq_div_pow]
  exact Nat.and_two_pow_sub_one_eq_mod _ 6

theorem blue_eq (t : UInt16) : blue t = t.toNat % 32 := Nat.and_two_pow_sub_one_eq_mod _ 5

theorem channels_lt (t : UInt16) : red t < 32 ∧ green t < 64 ∧ blue t < 32 := by
  have hlt := t.toNat_lt
  rw [red_eq, green_eq, blue_eq]
  omega

theorem channels_pack (hr : r < 32) (hg : g < 64) (hb : b < 32) :
    red (pack r g b) = r ∧ green (pack r g b) = g ∧ blue (pack r g b) = b := by
  rw [red_eq, green_eq, blue_eq, toNat_pack hr hg hb]
  omega

end

section

variable {a : UInt8} {new old m : Nat}

theorem opacity_le (a : UInt8) : a.toNat ≤ 255 := Nat.le_of_lt_succ a.toNat_lt

/-- A channel does not get brighter than both. -/
theorem blend_le (hnew : new ≤ m) (hold : old ≤ m) : blend a new old ≤ m := by
  have ha := opacity_le a
  refine Nat.div_le_of_le_mul ?_
  calc new * a.toNat + old * (255 - a.toNat)
      ≤ m * a.toNat + m * (255 - a.toNat) :=
        Nat.add_le_add (Nat.mul_le_mul_right _ hnew) (Nat.mul_le_mul_right _ hold)
    _ = 255 * m := by rw [← Nat.mul_add, Nat.add_sub_cancel' ha, Nat.mul_comm]

theorem blend_zero (new old : Nat) : blend 0 new old = old := by
  show (new * 0 + old * 255) / 255 = old
  rw [Nat.mul_zero, Nat.zero_add, Nat.mul_div_cancel _ (by decide)]

theorem blend_opaque (new old : Nat) : blend 255 new old = new := by
  show (new * 255 + old * 0) / 255 = new
  rw [Nat.mul_zero, Nat.add_zero, Nat.mul_div_cancel _ (by decide)]

end

/-- Whatever the opacity is, each channel is blended on its own. None of them
    gets into another. -/
theorem channels_mix (a i : UInt8) (t : UInt16) :
    red (mix a i t) = blend a (i.toNat >>> 3) (red t) ∧
      green (mix a i t) = blend a (i.toNat >>> 2) (green t) ∧
      blue (mix a i t) = blend a (i.toNat >>> 3) (blue t) := by
  have hi : i.toNat >>> 3 < 32 ∧ i.toNat >>> 2 < 64 := by
    have hlt := i.toNat_lt
    rw [Nat.shiftRight_eq_div_pow, Nat.shiftRight_eq_div_pow]
    omega
  rcases channels_lt t with ⟨hred, hgreen, hblue⟩
  unfold mix
  by_cases hzero : a = 0
  · rw [if_pos hzero, hzero, blend_zero, blend_zero, blend_zero]
    exact ⟨rfl, rfl, rfl⟩
  · by_cases hopaque : a = 255
    · rw [if_neg hzero, if_pos hopaque, hopaque, blend_opaque, blend_opaque, blend_opaque]
      exact channels_pack hi.1 hi.2 hi.1
    · rw [if_neg hzero, if_neg hopaque]
      have hr : blend a (i.toNat >>> 3) (red t) ≤ 31 := blend_le (by omega) (by omega)
      have hg : blend a (i.toNat >>> 2) (green t) ≤ 63 := blend_le (by omega) (by omega)
      have hb : blend a (i.toNat >>> 3) (blue t) ≤ 31 := blend_le (by omega) (by omega)
      exact channels_pack (Nat.lt_succ_of_le hr) (Nat.lt_succ_of_le hg) (Nat.lt_succ_of_le hb)

/-! ## Where the layers are -/

/-- A screen that is wide enough, and high enough for the background. -/
structure Surface.Fits (fb : Surface) : Prop where
  width : 346 ≤ fb.fb_width
  height : 390 ≤ fb.fb_height
  size : 2 * (fb.fb_width * fb.fb_height) ≤ fb.fb_size

instance (fb : Surface) : Decidable fb.Fits :=
  decidable_of_iff (346 ≤ fb.fb_width ∧ 390 ≤ fb.fb_height ∧
      2 * (fb.fb_width * fb.fb_height) ≤ fb.fb_size)
    ⟨fun h => ⟨h.1, h.2.1, h.2.2⟩, fun h => ⟨h.width, h.height, h.size⟩⟩

theorem half_spec {n : Int} (h : 0 ≤ n) : 2 * Int.tdiv n 2 ≤ n ∧ n ≤ 2 * Int.tdiv n 2 + 1 := by
  rw [Int.tdiv_eq_ediv_of_nonneg h]
  omega

namespace Surface

variable {fb : Surface} {percent : Nat}

theorem Fits.pixels (h : fb.Fits) : fb.fb_width * fb.fb_height ≤ fb.pixels := by
  have hsize := h.size
  unfold Surface.pixels
  omega

theorem Fits.origin (h : fb.Fits) : (0 ≤ fb.originX ∧ fb.originX + 346 ≤ fb.fb_width) ∧
    0 ≤ fb.originY ∧ fb.originY + 390 ≤ fb.fb_height := by
  have hw := h.width
  have hh := h.height
  have hx := half_spec (n := fb.fb_width - 346) (by omega)
  have hy := half_spec (n := fb.fb_height - 390) (by omega)
  unfold originX originY
  omega

theorem fillHeightPixels_spec (fb : Surface) (hp : percent ≤ 100) :
    0 ≤ fb.fillHeightPixels percent ∧ fb.fillHeightPixels percent ≤ fb.bottom - fb.top := by
  have hheight : fb.bottom - fb.top = 246 := by
    unfold bottom top PNG_BOTTOM PNG_TOP
    omega
  unfold fillHeightPixels
  rw [hheight, Int.tdiv_eq_ediv_of_nonneg (by omega)]
  omega

/-- The wave stands on the level, or is at the top, and is inside the battery. -/
theorem waveY_spec (fb : Surface) (hp : percent ≤ 100) :
    fb.top ≤ fb.waveY percent ∧ fb.waveY percent + 16 ≤ fb.bottom ∧
      fb.bottom - fb.fillHeightPixels percent ≤ fb.waveY percent + 16 := by
  have hfill := fb.fillHeightPixels_spec hp
  have hheight : fb.bottom - fb.top = 246 := by
    unfold bottom top PNG_BOTTOM PNG_TOP
    omega
  simp only [waveY]
  split <;> omega

theorem Fits.pane (h : fb.Fits) : (0 ≤ fb.paneX ∧ fb.paneX + 136 ≤ fb.fb_width) ∧
    0 ≤ fb.paneY ∧ fb.paneY + 136 ≤ fb.fb_height := by
  have hw := h.width
  have hh := h.height
  have hx := half_spec (n := fb.fb_width - 136) (by omega)
  have hy := half_spec (n := fb.fb_height - 136) (by omega)
  unfold paneX paneY
  omega

theorem Fits.number (h : fb.Fits) {n : Nat} (hn : n ≤ 3) :
    0 ≤ fb.numberX n ∧ fb.numberX n + 28 * n + 18 ≤ fb.fb_width := by
  have hw := h.width
  have hx := half_spec (n := fb.fb_width - n * 28) (by omega)
  unfold numberX
  omega

/-- The number is below the battery, and the screen has to be that high. -/
theorem Fits.numberY (h : fb.Fits) : fb.bottom < fb.numberY ∧
    (fb.numberY + 39 ≤ fb.fb_height ↔ 447 ≤ fb.fb_height) := by
  have hh := h.height
  have horigin := half_spec (n := fb.fb_height - 390) (by omega)
  have hy := half_spec (n := fb.fb_height + 390) (by omega)
  unfold bottom PNG_BOTTOM originY Surface.numberY
  omega

end Surface

theorem length_digits (percent : Nat) : (digits percent).length ≤ 3 := by
  unfold digits
  split <;> split <;> simp

/-! ## What the functions paint -/

section

variable {fb : Surface} (hfits : fb.Fits)
include hfits

theorem paints_blit (a : Asset UInt16 w h) {x y : Int}
    (hin : (imageLayer a x y).Inside fb.fb_width fb.fb_height) :
    Paints fb.fb_width fb.fb_height (blit fb a x y) [imageLayer a x y] :=
  paints_walk (l := imageLayer a x y) hfits.pixels hin fun row _ col _ => by
    simp only [imageLayer, Nat.zero_add]

theorem paints_aiBlit (m : Mask w h) {x y : Int}
    (hin : (maskLayer m x y).Inside fb.fb_width fb.fb_height) :
    Paints fb.fb_width fb.fb_height (aiBlit fb m x y) [maskLayer m x y] :=
  paints_walk (l := maskLayer m x y) hfits.pixels hin fun row _ col _ => by
    simp only [maskLayer, Nat.zero_add]

theorem paints_level (img : Asset UInt16 136 1) {x y : Int} {n : Nat}
    (hin : (levelLayer img x y n).Inside fb.fb_width fb.fb_height) :
    Paints fb.fb_width fb.fb_height
      (walk fb.pixels fb.fb_width 0 (fun s _ => img.bits s) 136 n 0 (fb.fb_width * y + x))
      [levelLayer img x y n] :=
  paints_walk (l := levelLayer img x y n) hfits.pixels hin fun row _ col _ => by
    simp only [levelLayer, Nat.zero_mul, Nat.zero_add]

theorem paints_fillBattery (art : Art) (frame : Nat) {percent : Nat} (hp : percent ≤ 100) :
    Paints fb.fb_width fb.fb_height (fillBattery fb art frame percent)
      (batteryLayers fb art frame percent) := by
  rcases hfits.origin with ⟨⟨hx, hright⟩, hy, hbottom⟩
  have hfill := fb.fillHeightPixels_spec hp
  have hwave := fb.waveY_spec hp
  have hleft : 0 ≤ fb.left ∧ fb.left + 136 ≤ fb.fb_width := by
    unfold Surface.left PNG_LEFT
    omega
  have hlines : 0 ≤ fb.top ∧ fb.bottom ≤ fb.fb_height := by
    unfold Surface.top Surface.bottom PNG_TOP PNG_BOTTOM
    omega
  refine paints_bind (paints_level hfits (art.batteryImg percent) ?_) ?_
  -- The level goes down to the bottom of the battery.
  · refine ⟨hleft.1, hleft.2, ?_, ?_⟩
    · show 0 ≤ fb.bottom - fb.fillHeightPixels percent
      omega
    · show fb.bottom - fb.fillHeightPixels percent + (fb.fillHeightPixels percent).toNat ≤
        fb.fb_height
      omega
  -- A full battery has no wave.
  · by_cases hfull : percent < 100
    · simp only [if_pos hfull]
      refine paints_blit hfits (art.batteryAni percent frame) ⟨hleft.1, hleft.2, ?_, ?_⟩
      · show 0 ≤ fb.waveY percent
        omega
      · show fb.waveY percent + 16 ≤ fb.fb_height
        omega
    · simp only [if_neg hfull]
      exact paints_nil

theorem paints_drawNumber (art : Art) {x y : Int} {ds : List (Fin 10)} (hx : 0 ≤ x)
    (hright : x + 28 * ds.length + 18 ≤ fb.fb_width) (hy : 0 ≤ y) (hbottom : y + 39 ≤ fb.fb_height) :
    Paints fb.fb_width fb.fb_height (drawNumber fb art y x ds) (numberLayers art y x ds) := by
  induction ds generalizing x with
  | nil =>
      refine paints_aiBlit hfits art.battery_numbers_percentage ⟨hx, ?_, hy, hbottom⟩
      show x + 18 ≤ fb.fb_width
      simpa using hright
  | cons d ds ih =>
      simp only [List.length_cons, Nat.cast_succ] at hright
      have hrest := ih (x := x + 28) (by omega) (by omega)
      have hdigit : (maskLayer (art.battery_numbers d) x y).Inside fb.fb_width fb.fb_height := by
        refine ⟨hx, ?_, hy, hbottom⟩
        show x + 26 ≤ fb.fb_width
        omega
      exact paints_bind (paints_aiBlit hfits (art.battery_numbers d) hdigit) hrest

theorem shows_memset (cells : Cells) :
    Shows fb.fb_width fb.fb_height (fb.memset cells) fun _ _ => 0 := by
  intro px py hpx hlt hpy hht
  have hsize : 2 * ((fb.fb_width : Int) * fb.fb_height) ≤ fb.fb_size := by exact_mod_cast hfits.size
  have hmul : (0 : Int) ≤ fb.fb_width * py := Int.mul_nonneg (Int.natCast_nonneg _) hpy
  have hnext : py + 1 ≤ fb.fb_height := hht
  have hline := line_le fb.fb_width hnext
  exact if_pos (by omega)

theorem paints_numbers (art : Art) (percent : Nat) (htall : 447 ≤ fb.fb_height) :
    Paints fb.fb_width fb.fb_height
      (drawNumber fb art fb.numberY (fb.numberX (digits percent).length) (digits percent))
      (numberLayers art fb.numberY (fb.numberX (digits percent).length) (digits percent)) := by
  rcases hfits.number (length_digits percent) with ⟨hx, hright⟩
  rcases hfits.origin with ⟨_, hy, _⟩
  have hbelow := hfits.numberY
  refine paints_drawNumber hfits art hx hright ?_ (hbelow.2.mpr htall)
  have hbottom : 0 ≤ fb.bottom := by
    unfold Surface.bottom PNG_BOTTOM
    omega
  omega

end

/-- The layers are what is drawn, whatever was there before. -/
theorem draw_paints {fb : Surface} (hfits : fb.Fits) (art : Art) (frame : Nat) {percent : Nat}
    (hp : percent ≤ 100) (error : Bool) (htall : error = true ∨ 447 ≤ fb.fb_height)
    (cells : Cells) :
    ∃ cells', draw fb art frame percent error cells = some cells' ∧
      Shows fb.fb_width fb.fb_height cells'
        (paintAll (layers fb art frame percent error) fun _ _ => 0) := by
  rcases hfits.origin with ⟨⟨hx, hright⟩, hy, hbottom⟩
  rcases hfits.pane with ⟨⟨hpx, hpright⟩, hpy, hpbottom⟩
  -- The four parts, in the order in which they are drawn.
  have hbackground := paints_blit hfits art.battery_charge_background
    (x := fb.originX) (y := fb.originY) ⟨hx, hright, hy, hbottom⟩
  have hpane := paints_aiBlit hfits (art.icPane percent error)
    (x := fb.paneX) (y := fb.paneY) ⟨hpx, hpright, hpy, hpbottom⟩
  have hbattery : Paints fb.fb_width fb.fb_height
      (fun cells => if error then some cells else fillBattery fb art frame percent cells)
      (if error then [] else batteryLayers fb art frame percent) := by
    cases error with
    | true => exact paints_nil
    | false => exact paints_fillBattery hfits art frame hp
  have hnumbers : Paints fb.fb_width fb.fb_height
      (fun cells => if error then some cells
        else drawNumber fb art fb.numberY (fb.numberX (digits percent).length) (digits percent) cells)
      (if error then []
        else numberLayers art fb.numberY (fb.numberX (digits percent).length) (digits percent)) := by
    cases error with
    | true => exact paints_nil
    | false => exact paints_numbers hfits art percent (htall.resolve_left Bool.false_ne_true)
  exact paints_bind (paints_bind hbackground hbattery) (paints_bind hpane hnumbers) _ _
    (shows_memset hfits cells)

/-! ## Screens that are too small -/

theorem bind_none_eq (o : Option Cells) : (o.bind fun _ => none) = (none : Option Cells) := by
  cases o <;> rfl

theorem pixels_of_size {fb : Surface} (hsize : fb.fb_size = 2 * (fb.fb_width * fb.fb_height)) :
    fb.pixels = fb.fb_width * fb.fb_height := by
  unfold Surface.pixels
  omega

section

variable {fb : Surface} (hwidth : 346 ≤ fb.fb_width)
  (hsize : fb.fb_size = 2 * (fb.fb_width * fb.fb_height))
include hwidth hsize

/-- The background starts above the screen, or ends below it. -/
theorem draw_of_short (hshort : fb.fb_height < 390) (art : Art) (frame percent : Nat)
    (error : Bool) (cells : Cells) : draw fb art frame percent error cells = none := by
  have hx := half_spec (n := fb.fb_width - 346) (by omega)
  have hnone : blit fb art.battery_charge_background fb.originX fb.originY (fb.memset cells) =
      none := by
    refine walk_eq_none _ _ (pixels_of_size hsize) ?_ ?_ (by decide) (by decide) ?_
    · unfold Surface.originX
      omega
    · unfold Surface.originX
      omega
    · by_cases hy : fb.originY < 0
      · exact Or.inl hy
      · refine Or.inr ?_
        push_cast
        omega
  rw [draw, hnone]
  rfl

/-- The number ends below it. -/
theorem drawNumber_of_short (hheight : 390 ≤ fb.fb_height) (hshort : fb.fb_height < 447)
    (art : Art) (percent : Nat) (cells : Cells) :
    drawNumber fb art fb.numberY (fb.numberX (digits percent).length) (digits percent) cells =
      none := by
  have hfits : fb.Fits := ⟨hwidth, hheight, by omega⟩
  rcases hfits.number (length_digits percent) with ⟨hx, hright⟩
  have hbelow := hfits.numberY.2
  cases hdigits : digits percent with
  -- Without digits there is still a percent sign, which ends below the screen.
  | nil =>
      rw [hdigits] at hx hright
      simp only [List.length_nil, Nat.cast_zero, Int.mul_zero, Int.add_zero] at hright
      refine walk_eq_none _ _ (pixels_of_size hsize) hx ?_ (by decide) (by decide)
        (Or.inr ?_)
      · exact hright
      · push_cast
        omega
  -- The first digit does.
  | cons d ds =>
      rw [hdigits] at hx hright
      have hnone : aiBlit fb (art.battery_numbers d) (fb.numberX (d :: ds).length) fb.numberY
          cells = none := by
        refine walk_eq_none _ _ (pixels_of_size hsize) hx ?_ (by decide) (by decide)
          (Or.inr ?_)
        · have hlen : ((d :: ds).length : Int) = ds.length + 1 := by simp
          push_cast
          omega
        · push_cast
          omega
      rw [drawNumber, hnone]
      rfl

end

/-- Pictures of one colour each. -/
def Art.plain : Art where
  battery_charge_background := ⟨fun _ => 5⟩
  battery_green_img := ⟨fun _ => 7⟩
  battery_green_ani := fun _ => ⟨fun _ => 9⟩
  battery_orange_img := ⟨fun _ => 0⟩
  battery_orange_ani := fun _ => ⟨fun _ => 0⟩
  battery_red_img := ⟨fun _ => 0⟩
  battery_red_ani := fun _ => ⟨fun _ => 0⟩
  ic_pane_battery_charge := ⟨⟨fun _ => 128⟩, ⟨fun _ => 255⟩⟩
  ic_pane_battery_complete := ⟨⟨fun _ => 0⟩, ⟨fun _ => 0⟩⟩
  ic_pane_battery_error := ⟨⟨fun _ => 0⟩, ⟨fun _ => 0⟩⟩
  battery_numbers := fun _ => ⟨⟨fun _ => 255⟩, ⟨fun _ => 255⟩⟩
  battery_numbers_percentage := ⟨⟨fun _ => 255⟩, ⟨fun _ => 255⟩⟩

/-- No layer of the number is above its first line. -/
theorem numberLayers_not_covers {art : Art} {x y px py : Int} {ds : List (Fin 10)} (h : py < y) :
    ∀ l ∈ numberLayers art y x ds, ¬ l.Covers px py := by
  induction ds generalizing x with
  | nil =>
      intro l hl hc
      rw [numberLayers, List.mem_singleton] at hl
      subst hl
      have hlow : y ≤ py := hc.2.1
      omega
  | cons d ds ih =>
      intro l hl hc
      rw [numberLayers, List.mem_cons] at hl
      rcases hl with rfl | hl
      · have hlow : y ≤ py := hc.2.1
        omega
      · exact ih l hl hc

/-- A point of the battery that the sign does not cover is one of the wave, of
    the level, or of the background. -/
theorem level_pixel {fb : Surface} (hfits : fb.Fits) (art : Art) (frame : Nat) {percent : Nat}
    (hp : percent ≤ 100) {px py : Int} (hleft : fb.left ≤ px) (hright : px < fb.left + 136)
    (htop : fb.top ≤ py) (hbottom : py < fb.bottom)
    (hpane : ¬ Layer.Covers (maskLayer (art.icPane percent false) fb.paneX fb.paneY) px py) :
    paintAll (layers fb art frame percent false) (fun _ _ => 0) px py =
      if percent < 100 ∧ fb.waveY percent ≤ py ∧ py < fb.waveY percent + 16 then
        (art.batteryAni percent frame).bits
          (136 * (py - fb.waveY percent).toNat + (px - fb.left).toNat)
      else if fb.bottom - fb.fillHeightPixels percent ≤ py then
        (art.batteryImg percent).bits (px - fb.left).toNat
      else art.battery_charge_background.bits
        (346 * (py - fb.originY).toNat + (px - fb.originX).toNat) := by
  have hfill := fb.fillHeightPixels_spec hp
  have hnumber : py < fb.numberY := Int.lt_trans hbottom hfits.numberY.1
  have hbackground : Layer.Covers
      (imageLayer art.battery_charge_background fb.originX fb.originY) px py := by
    simp only [imageLayer, Layer.Covers, Surface.left, Surface.top, Surface.bottom, PNG_LEFT,
      PNG_TOP, PNG_BOTTOM] at *
    push_cast
    omega
  have hlevel : Layer.Covers (levelLayer (art.batteryImg percent) fb.left
      (fb.bottom - fb.fillHeightPixels percent) (fb.fillHeightPixels percent).toNat) px py ↔
        fb.bottom - fb.fillHeightPixels percent ≤ py := by
    simp only [levelLayer, Layer.Covers]
    push_cast
    omega
  have hwave : Layer.Covers (imageLayer (art.batteryAni percent frame) fb.left
      (fb.waveY percent)) px py ↔ fb.waveY percent ≤ py ∧ py < fb.waveY percent + 16 := by
    simp only [imageLayer, Layer.Covers]
    push_cast
    omega
  -- The number and the sign are off, and the background is below.
  simp only [layers, Bool.false_eq_true, if_false, paintAll_append]
  rw [paintAll_of_not_covers (numberLayers_not_covers hnumber)]
  have hsign : ∀ l ∈ [maskLayer (art.icPane percent false) fb.paneX fb.paneY],
      ¬ l.Covers px py := by
    intro l hl
    rw [List.mem_singleton.mp hl]
    exact hpane
  rw [paintAll_of_not_covers hsign]
  simp only [batteryLayers, paintAll_append]
  have hbelow : ∀ img : Int → Int → UInt16,
      paintAll [levelLayer (art.batteryImg percent) fb.left
          (fb.bottom - fb.fillHeightPixels percent) (fb.fillHeightPixels percent).toNat] img px py =
        if fb.bottom - fb.fillHeightPixels percent ≤ py then
          (art.batteryImg percent).bits (px - fb.left).toNat
        else img px py := by
    intro img
    show Layer.paintOver _ img px py = _
    unfold Layer.paintOver
    simp only [hlevel]
    rfl
  have hground : paintAll [imageLayer art.battery_charge_background fb.originX fb.originY]
      (fun _ _ => 0) px py = art.battery_charge_background.bits
        (346 * (py - fb.originY).toNat + (px - fb.originX).toNat) :=
    Layer.paintOver_of_covers hbackground fun _ _ => (0 : UInt16)
  by_cases hfull : percent < 100
  · simp only [hfull, if_true, true_and]
    by_cases hc : fb.waveY percent ≤ py ∧ py < fb.waveY percent + 16
    · rw [if_pos hc]
      exact Layer.paintOver_of_covers (hwave.mpr hc) _
    · rw [if_neg hc, ← hground, ← hbelow]
      exact Layer.paintOver_of_not_covers (fun h => hc (hwave.mp h)) _
  · simp only [hfull, if_false, false_and]
    rw [← hground, ← hbelow]
    rfl

/-- What the memory has for a point of the battery that the sign does not cover:
    the wave, the level, or the background. -/
theorem draw_level {fb : Surface} (hfits : fb.Fits) (htall : 447 ≤ fb.fb_height) (art : Art)
    (frame percent : Nat) (hp : percent ≤ 100) {cells cells' : Cells}
    (hdraw : draw fb art frame percent false cells = some cells') (px py : Int)
    (hleft : fb.left ≤ px) (hright : px < fb.left + 136) (htop : fb.top ≤ py)
    (hbottom : py < fb.bottom)
    (hpane : ¬ Layer.Covers (maskLayer (art.icPane percent false) fb.paneX fb.paneY) px py) :
    cells' (fb.fb_width * py + px) =
      if percent < 100 ∧ fb.waveY percent ≤ py ∧ py < fb.waveY percent + 16 then
        (art.batteryAni percent frame).bits
          (136 * (py - fb.waveY percent).toNat + (px - fb.left).toNat)
      else if fb.bottom - fb.fillHeightPixels percent ≤ py then
        (art.batteryImg percent).bits (px - fb.left).toNat
      else art.battery_charge_background.bits
        (346 * (py - fb.originY).toNat + (px - fb.originX).toNat) := by
  rcases draw_paints hfits art frame hp false (Or.inr htall) cells with ⟨cells'', heq, hshows⟩
  cases hdraw.symm.trans heq
  rcases hfits.origin with ⟨⟨hx, hwidth⟩, hy, hheight⟩
  have hin : 0 ≤ px ∧ px < fb.fb_width ∧ 0 ≤ py ∧ py < fb.fb_height := by
    simp only [Surface.left, Surface.top, Surface.bottom, PNG_LEFT, PNG_TOP, PNG_BOTTOM] at *
    omega
  rw [hshows px py hin.1 hin.2.1 hin.2.2.1 hin.2.2.2]
  exact level_pixel hfits art frame hp hleft hright htop hbottom hpane

theorem draw_level_at_half :
    ∃ cells', draw ⟨346, 447, 309324⟩ Art.plain 0 50 false (fun _ => 0) = some cells' ∧
      cells' (346 * 300 + 105) = 7 := by
  have hfits : Surface.Fits ⟨346, 447, 309324⟩ := by decide
  have hhalf : 50 ≤ 100 := by decide
  rcases draw_paints hfits Art.plain 0 hhalf false (Or.inr (by decide)) (fun _ => 0) with
    ⟨cells', heq, _⟩
  exact ⟨cells', heq, (draw_level hfits (by decide) Art.plain 0 50 hhalf heq 105 300 (by decide)
    (by decide) (by decide) (by decide) (by decide)).trans (by decide)⟩

end ChargeOnly

end Victara
