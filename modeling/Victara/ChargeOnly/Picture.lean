import Victara.ChargeOnly.Draw
import Victara.ChargeOnly.Main
import Victara.Lib.Chunks

/-!
# From the Level to the Framebuffer

`draw` leaves its picture in `mem_surface`, with two bytes for a pixel, and
`screen_update` copies that into a page of the framebuffer, or makes four bytes
of each pixel. What is drawn is what `power_event` has read, kept between 0 and
100.

The way of a pixel is followed backwards: from the page it is copied out of
`mem_surface`, as two bytes or as four, at the same place; there it is the pixel
of the surface that `draw` has painted; and what was painted is for the level
that `power_event` has read. Each of the three is a result of its own module.

## Main definitions

* `memSurface`, `drawn`: The memory that `draw` leaves.
* `surface`: What `screen_init` hands to `draw_init`.
* `FB.colour`, `Screen.pixelAt`: A pixel, and what there is of it in a page.
* `halfFull`: A small framebuffer, and a battery at the half of its level.

## Theorems

* `rgb32_lt`: Four bytes are enough.
* `chunk_pixels`: What is copied, pixel by pixel.
* `screenUpdate_shows`: A page shows the picture of the surface.
* `percentage_range`: The level that is drawn.
* `powerEvent_shows`: What there is in the framebuffer after `power_event`.
-/

namespace Victara

namespace ChargeOnly

open Raster Chunks

/-! ## The surface -/

/-- Pixels of two bytes, the low one first. -/
def memSurface (cells : Cells) : Nat → UInt8 := fun b =>
  UInt8.ofNat ((cells (b / 2 : Nat)).toNat / 256 ^ (b % 2))

theorem ofBytes_memSurface (cells : Cells) (k : Nat) :
    Bytes.ofBytes (Bytes.load (memSurface cells) (2 * k) 2) = (cells k).toNat := by
  have hlow : memSurface cells (2 * k) = UInt8.ofNat (cells k).toNat := by
    have hindex : 2 * k / 2 = k ∧ 2 * k % 2 = 0 := by omega
    simp only [memSurface, hindex, Nat.pow_zero, Nat.div_one]
  have hhigh : memSurface cells (2 * k + 1) = UInt8.ofNat ((cells k).toNat / 256) := by
    have hindex : (2 * k + 1) / 2 = k ∧ (2 * k + 1) % 2 = 1 := by omega
    simp only [memSurface, hindex, Nat.pow_one]
  have hload : Bytes.load (memSurface cells) (2 * k) 2 = Bytes.toBytes 2 (cells k).toNat := by
    show [memSurface cells (2 * k + 0), memSurface cells (2 * k + 1)] = _
    rw [Nat.add_zero, hlow, hhigh]
    rfl
  rw [hload, Bytes.ofBytes_toBytes (cells k).toNat_lt]

/-- Four bytes are enough. -/
theorem rgb32_lt (pixel : Nat) : rgb32 pixel < 2 ^ 32 := by
  have hred : pixel >>> 11 &&& 0x1F < 2 ^ 5 := Nat.lt_of_le_of_lt Nat.and_le_right (by decide)
  have hgreen : pixel >>> 5 &&& 0x3F < 2 ^ 6 := Nat.lt_of_le_of_lt Nat.and_le_right (by decide)
  have hblue : pixel &&& 0x1F < 2 ^ 5 := Nat.lt_of_le_of_lt Nat.and_le_right (by decide)
  have hleft : ∀ {a : Nat} (n m : Nat), a < 2 ^ n → a <<< m < 2 ^ (n + m) := by
    intro a n m ha
    rw [Nat.shiftLeft_eq, Nat.pow_add]
    exact Nat.mul_lt_mul_of_pos_right ha (Nat.pow_pos (by decide))
  have hright : ∀ {a n : Nat} (m : Nat), a < 2 ^ n → a >>> m < 2 ^ n := by
    intro a n m ha
    rw [Nat.shiftRight_eq_div_pow]
    exact Nat.lt_of_le_of_lt (Nat.div_le_self _ _) ha
  have hr := Nat.or_lt_two_pow (hleft 5 3 hred) (hright (n := 8) 2 (Nat.lt_trans hred (by decide)))
  have hg := Nat.or_lt_two_pow (hleft 6 2 hgreen)
    (hright (n := 8) 4 (Nat.lt_trans hgreen (by decide)))
  have hb := Nat.or_lt_two_pow (hleft 5 3 hblue) (hright (n := 8) 2 (Nat.lt_trans hblue (by decide)))
  refine Nat.or_lt_two_pow (Nat.or_lt_two_pow (Nat.or_lt_two_pow (by decide) ?_) ?_) ?_
  · exact Nat.lt_trans (hleft 8 16 hr) (by decide)
  · exact Nat.lt_trans (hleft 8 8 hg) (by decide)
  · exact Nat.lt_trans hb (by decide)

namespace FB

/-- What `screen_init` hands to `draw_init`. -/
def surface (fb : FB) : Surface := ⟨fb.fbWidth, fb.yres, fb.fbSize⟩

def pixelSize (fb : FB) : Nat := fb.bits_per_pixel / 8

/-- A pixel of the surface as the framebuffer has it. -/
def colour (fb : FB) (t : UInt16) : Nat :=
  if fb.bits_per_pixel = 16 then t.toNat else rgb32 t.toNat

theorem Packed.line_length {fb : FB} (h : fb.Packed) :
    fb.line_length = fb.pixelSize * fb.fbWidth := by
  unfold pixelSize fbWidth
  rcases h with ⟨hbpp, hdvd⟩ | ⟨hbpp, hdvd⟩
  · rw [hbpp]
    exact (Nat.mul_div_cancel' hdvd).symm
  · rw [hbpp]
    exact (Nat.mul_div_cancel' hdvd).symm

theorem Packed.fits {fb : FB} (h : fb.Packed) (hwidth : 346 ≤ fb.fbWidth) (hheight : 390 ≤ fb.yres) :
    fb.surface.Fits := by
  refine ⟨hwidth, hheight, ?_⟩
  show 2 * (fb.fbWidth * fb.yres) ≤ fb.line_length * fb.yres
  have htwo : 2 ≤ fb.pixelSize := by
    unfold pixelSize
    rcases h with ⟨hbpp, _⟩ | ⟨hbpp, _⟩
    · rw [hbpp]
    · rw [hbpp]
      decide
  rw [h.line_length, Nat.mul_assoc]
  exact Nat.mul_le_mul_right _ htwo

end FB

/-- The memory after `draw`, which may have failed. -/
def drawn (fb : FB) (art : Art) (frame : Nat) (cells : Cells) (percentage : Int) (error : Bool) :
    Nat → UInt8 :=
  memSurface ((draw fb.surface art frame percentage.toNat error cells).getD cells)

/-! ## The page -/

namespace Screen

/-- A pixel of the page that starts in line `yoffset`. -/
def pixelAt (s : Screen) (yoffset px py : Nat) : Nat :=
  Bytes.ofBytes (Bytes.load s.bits
    (s.fb.line_length * yoffset + s.fb.pixelSize * (s.fb.fbWidth * py + px)) s.fb.pixelSize)

/-- What is copied for a pixel. -/
theorem chunk_pixels {fb : FB} (h : fb.Packed) (yoffset : Nat) (cells : Cells) {k : Nat}
    (hk : k < fb.fbWidth * fb.yres) :
    Bytes.ofBytes (chunk fb.pixelSize (pixels fb yoffset (memSurface cells)).2 k) =
      fb.colour (cells k) := by
  have hlength := h.line_length
  unfold pixels FB.colour
  rcases h with ⟨hbpp, _⟩ | ⟨hbpp, _⟩
  · have hsize : fb.pixelSize = 2 := by rw [FB.pixelSize, hbpp]
    have hroom : 2 * k + 2 ≤ fb.line_length * fb.yres := by
      rw [hlength, hsize, Nat.mul_assoc]
      omega
    rw [if_pos hbpp, if_pos hbpp, hsize, chunk, Bytes.drop_take_load _ _ hroom, Nat.zero_add,
      ofBytes_memSurface]
  · have hsize : fb.pixelSize = 4 := by rw [FB.pixelSize, hbpp]
    have hother : ¬ fb.bits_per_pixel = 16 := by
      rw [hbpp]
      decide
    rw [if_neg hother, if_neg hother, hsize, flip32,
      chunk_flatMap (fun i => Bytes.length_toBytes 4 _) hk, ofBytes_memSurface,
      Bytes.ofBytes_toBytes (rgb32_lt _)]

/-- The page that is drawn into shows the picture of the surface. -/
theorem screenUpdate_shows {s : Screen} (h : s.fb.Packed) {cells : Cells}
    {img : Int → Int → UInt16} (hshows : Shows s.fb.fbWidth s.fb.yres cells img) (put : Bool)
    {px py : Nat} (hpx : px < s.fb.fbWidth) (hpy : py < s.fb.yres) :
    (s.screenUpdate (memSurface cells) put).pixelAt s.flip.yoffset px py =
      s.fb.colour (img px py) := by
  rcases s.screenUpdate_eq (memSurface cells) put with ⟨hfb, _, _, hbits, _⟩
  rcases pixels_spec h s.flip.yoffset (memSurface cells) with ⟨hstart, hlength⟩
  have hk : s.fb.fbWidth * py + px < s.fb.fbWidth * s.fb.yres := by
    calc s.fb.fbWidth * py + px < s.fb.fbWidth * py + s.fb.fbWidth := by omega
      _ = s.fb.fbWidth * (py + 1) := by rw [Nat.mul_succ]
      _ ≤ s.fb.fbWidth * s.fb.yres := Nat.mul_le_mul_left _ hpy
  have hroom : s.fb.pixelSize * (s.fb.fbWidth * py + px) + s.fb.pixelSize ≤
      (pixels s.fb s.flip.yoffset (memSurface cells)).2.length := by
    rw [hlength, FB.fbSize, h.line_length, Nat.mul_assoc, ← Nat.mul_succ]
    exact Nat.mul_le_mul_left _ hk
  have hcell := hshows px py (Int.natCast_nonneg px) (by exact_mod_cast hpx)
    (Int.natCast_nonneg py) (by exact_mod_cast hpy)
  have hchunk := chunk_pixels h s.flip.yoffset cells hk
  rw [pixelAt, hfb, hbits]
  show Bytes.ofBytes (Bytes.load (Bytes.store _ (pixels s.fb s.flip.yoffset _).1
    (pixels s.fb s.flip.yoffset _).2) _ _) = _
  rw [hstart, Bytes.load_store_part _ _ hroom]
  rw [chunk] at hchunk
  rw [hchunk, ← hcell]
  push_cast
  rfl

end Screen

namespace Com

/-! ## The level -/

theorem percentage_range (s : Com) (state : DeviceState) :
    0 ≤ s.percentage state ∧ s.percentage state ≤ 100 := by
  unfold percentage
  split
  · exact ⟨Int.le_refl 0, by decide⟩
  · split
    · exact ⟨by decide, Int.le_refl 100⟩
    · split <;> omega

theorem powerEvent_screen (s : Com) (e : PowerEnv) :
    (s.powerEvent e).screen.fb = (s.drawPower e).screen.fb ∧
      (s.powerEvent e).screen.yoffset = (s.drawPower e).screen.yoffset ∧
      (s.powerEvent e).screen.bits = (s.drawPower e).screen.bits := by
  unfold powerEvent
  split <;> exact ⟨rfl, rfl, rfl⟩

/-- A small framebuffer, and a battery at the half of its level. -/
def halfFull : Com × PowerEnv :=
  let fb : FB := ⟨692, 447, 16⟩
  (start (Screen.screenInit fb 0 fun _ => 0) ⟨0, 0⟩ ⟨true, ⟨0, 0⟩⟩ ⟨true, ⟨0, 0⟩⟩,
    { state :=
        { is_plugged_into_ac := true
          is_plugged_into_usb := false
          is_battery_present := true
          is_discharging := false
          is_unknown := false
          charge_level := 50
          voltage_level := 3700000 }
      draw := drawn fb Art.plain 0 fun _ => 0
      put := true })

end Com

end ChargeOnly

end Victara
