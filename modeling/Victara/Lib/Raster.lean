import Mathlib.Logic.Function.Basic
import Mathlib.Tactic.Ring

/-!
# Pictures in Flat Memory

A picture is painted into a row of cells by a pointer that goes along a line,
and then on to the next one. Above that there are pictures with columns and
rows, and layers that are painted over each other. A program that walks through
the memory paints a list of layers, if what it does to any picture is what the
layers do, and programs that do so can be put together.

The cells that are there are those from 0 up to the size. A walk that leaves
them fails.

A walk has one line after the other, and in a line one cell after the other.
`walkRow_shows` and `walk_shows` say what the memory shows afterwards, if it
showed a picture before: the picture with the layer painted over it. A walk that
leaves the memory at the top or at the bottom has no result, whatever the layer
is. `Paints` is the relation that programs are put together by, and it is closed
under doing one after another.

## Main definitions

* `modify`, `walkRow`, `walk`: A pointer that goes through the cells.
* `Layer`, `Layer.paintOver`, `paintAll`: Layers, and what they leave of a
  picture.
* `Inside`: The rectangle is inside the lines.
* `Shows`: The picture that the cells are.
* `Paints`: A program paints some layers.

## Theorems

* `walkRow_eq`, `walkRow_shows`: What one line becomes.
* `paintAll_of_not_covers`: Layers that do not cover a point leave it.
* `mem_line_iff`: A cell is in a part of a line if it is in that line, and its
  column is in that part.
* `Layer.paintOver_succ`: The first row of a layer, and then the others.
* `walk_shows`: What some lines become.
* `walk_eq_none`: A walk that starts too early, or ends too late.
* `paints_nil`, `paints_bind`, `paints_walk`: The programs that paint layers.
-/

namespace Victara

namespace Raster

universe u

variable {α : Type u}

/-! ## Flat memory -/

/-- Change a cell. -/
def modify (size : Nat) (f : α → α) (t : Int) (cells : Int → α) : Option (Int → α) :=
  if 0 ≤ t ∧ t < size then some (Function.update cells t (f (cells t))) else none

/-- Change `n` cells from `t` on, with a source that is read from `s` on. -/
def walkRow (size : Nat) (f : Nat → α → α) : Nat → Nat → Int → (Int → α) → Option (Int → α)
  | 0, _, _, cells => some cells
  | n + 1, s, t, cells => (modify size (f s) t cells).bind (walkRow size f n (s + 1) (t + 1))

/-- Change the first `w` cells of a number of lines. The source is moved on by
    `ds` after each, and the pointer by `stride`. -/
def walk (size stride ds : Nat) (f : Nat → α → α) (w : Nat) :
    Nat → Nat → Int → (Int → α) → Option (Int → α)
  | 0, _, _, cells => some cells
  | h + 1, s, t, cells =>
    (walkRow size f w s t cells).bind (walk size stride ds f w h (s + ds) (t + stride))

theorem walkRow_eq {size n : Nat} {t : Int} (f : Nat → α → α) (s : Nat) (cells : Int → α)
    (hlow : 0 ≤ t) (hhigh : t + n ≤ size) :
    walkRow size f n s t cells = some fun p =>
      if t ≤ p ∧ p < t + n then f (s + (p - t).toNat) (cells p) else cells p := by
  induction n generalizing s t cells with
  | zero =>
      rw [walkRow, Option.some.injEq]
      funext p
      rw [if_neg (by omega)]
  | succ n ih =>
      have hthere : 0 ≤ t ∧ t < size := by omega
      rw [walkRow, modify, if_pos hthere, Option.bind_some, ih _ _ (by omega) (by omega),
        Option.some.injEq]
      funext p
      -- The first cell is done, and the others are still as they were.
      by_cases hp : p = t
      · have hzero : s + (t - t).toNat = s := by omega
        rw [hp, if_neg (by omega), if_pos (by omega), Function.update_self, hzero]
      · have hnext : s + 1 + (p - (t + 1)).toNat = s + (p - t).toNat ∨ p < t := by omega
        rw [Function.update_of_ne hp]
        by_cases hin : t + 1 ≤ p ∧ p < t + 1 + n
        · rw [if_pos hin, if_pos (by omega), hnext.resolve_right (by omega)]
        · rw [if_neg hin, if_neg (by omega)]

theorem walkRow_eq_none {size n : Nat} {t : Int} (f : Nat → α → α) (s : Nat) (cells : Int → α)
    (hn : 0 < n) (hout : t < 0 ∨ size < t + n) : walkRow size f n s t cells = none := by
  induction n generalizing s t cells with
  | zero => exact absurd hn (Nat.lt_irrefl 0)
  | succ n ih =>
      rw [walkRow, modify]
      by_cases hthere : 0 ≤ t ∧ t < size
      · rw [if_pos hthere, Option.bind_some]
        exact ih _ _ (by omega) (by omega)
      · rw [if_neg hthere]
        rfl

/-! ## Layers -/

/-- A rectangle and what it does to a picture, by its row and column. -/
structure Layer (α : Type u) where
  x : Int
  y : Int
  w : Nat
  h : Nat
  paint : Nat → Nat → α → α

namespace Layer

def Covers (l : Layer α) (px py : Int) : Prop :=
  (l.x ≤ px ∧ px < l.x + l.w) ∧ l.y ≤ py ∧ py < l.y + l.h

instance (l : Layer α) (px py : Int) : Decidable (l.Covers px py) :=
  inferInstanceAs (Decidable (_ ∧ _))

/-- A picture with a layer over it. -/
def paintOver (l : Layer α) (img : Int → Int → α) : Int → Int → α := fun px py =>
  if l.Covers px py then l.paint (py - l.y).toNat (px - l.x).toNat (img px py) else img px py

/-- The rectangle is inside the lines. -/
structure Inside (l : Layer α) (stride height : Nat) : Prop where
  left : 0 ≤ l.x
  right : l.x + l.w ≤ stride
  top : 0 ≤ l.y
  bottom : l.y + l.h ≤ height

theorem paintOver_of_covers {l : Layer α} {px py : Int} (h : l.Covers px py) (img : Int → Int → α) :
    l.paintOver img px py = l.paint (py - l.y).toNat (px - l.x).toNat (img px py) := if_pos h

theorem paintOver_of_not_covers {l : Layer α} {px py : Int} (h : ¬ l.Covers px py)
    (img : Int → Int → α) : l.paintOver img px py = img px py := if_neg h

end Layer

/-- Layers are painted from the first on. -/
def paintAll (layers : List (Layer α)) (img : Int → Int → α) : Int → Int → α :=
  layers.foldl (fun img l => l.paintOver img) img

theorem paintAll_append (ls ls' : List (Layer α)) (img : Int → Int → α) :
    paintAll (ls ++ ls') img = paintAll ls' (paintAll ls img) := List.foldl_append

/-- Layers that do not cover a point leave it. -/
theorem paintAll_of_not_covers {layers : List (Layer α)} {px py : Int}
    (h : ∀ l ∈ layers, ¬ l.Covers px py) (img : Int → Int → α) :
    paintAll layers img px py = img px py := by
  induction layers generalizing img with
  | nil => rfl
  | cons l ls ih =>
      have hrest := ih (fun l' hl' => h l' (List.mem_cons_of_mem l hl')) (l.paintOver img)
      exact hrest.trans (Layer.paintOver_of_not_covers (h l List.mem_cons_self) img)

/-! ## The picture that the cells are -/

/-- Line by line, the cells are the picture. -/
def Shows (stride height : Nat) (cells : Int → α) (img : Int → Int → α) : Prop :=
  ∀ px py : Int, 0 ≤ px → px < stride → 0 ≤ py → py < height →
    cells (stride * py + px) = img px py

/-- A cell is in a part of a line if it is in that line, and its column is in
    that part. -/
theorem mem_line_iff {stride w : Nat} {x px : Int} (y py : Int) (hx : 0 ≤ x) (hw : x + w ≤ stride)
    (hpx : 0 ≤ px) (hlt : px < stride) :
    (stride * y + x ≤ stride * py + px ∧ stride * py + px < stride * y + x + w) ↔
      py = y ∧ x ≤ px ∧ px < x + w := by
  rcases Int.lt_trichotomy py y with hpy | hpy | hpy
  · have hline : (stride : Int) * py + stride ≤ stride * y := by
      calc (stride : Int) * py + stride = stride * (py + 1) := by ring
        _ ≤ stride * y := Int.mul_le_mul_of_nonneg_left hpy (Int.natCast_nonneg stride)
    constructor <;> intro h <;> omega
  · subst hpy
    constructor <;> intro h <;> omega
  · have hline : (stride : Int) * y + stride ≤ stride * py := by
      calc (stride : Int) * y + stride = stride * (y + 1) := by ring
        _ ≤ stride * py := Int.mul_le_mul_of_nonneg_left hpy (Int.natCast_nonneg stride)
    constructor <;> intro h <;> omega

theorem line_le (stride : Nat) {height : Nat} {y : Int} (hy : y + 1 ≤ height) :
    (stride : Int) * y + stride ≤ stride * height := by
  calc (stride : Int) * y + stride = stride * (y + 1) := by ring
    _ ≤ stride * height := Int.mul_le_mul_of_nonneg_left hy (Int.natCast_nonneg stride)

/-- A walk through one line paints a layer with one row. -/
theorem walkRow_shows {size stride height w : Nat} {x y : Int} {f : Nat → α → α}
    {paint : Nat → Nat → α → α} {s : Nat} {cells : Int → α} {img : Int → Int → α}
    (hsize : stride * height ≤ size) (hin : Layer.Inside ⟨x, y, w, 1, paint⟩ stride height)
    (hf : ∀ col < w, f (s + col) = paint 0 col) (hshows : Shows stride height cells img) :
    ∃ cells', walkRow size f w s (stride * y + x) cells = some cells' ∧
      Shows stride height cells' (Layer.paintOver ⟨x, y, w, 1, paint⟩ img) := by
  rcases hin with ⟨hleft, hright, htop, hbottom⟩
  simp only [Nat.cast_one] at hleft hright htop hbottom
  have hmul : (0 : Int) ≤ stride * y := Int.mul_nonneg (Int.natCast_nonneg stride) htop
  have hline := line_le stride hbottom
  have hcast : (stride : Int) * height ≤ size := by exact_mod_cast hsize
  refine ⟨_, walkRow_eq f s cells (by omega) (by omega), fun px py hpx hlt hpy hht => ?_⟩
  have hiff := mem_line_iff y py hleft hright hpx hlt
  have hcovers : Layer.Covers ⟨x, y, w, 1, paint⟩ px py ↔ py = y ∧ x ≤ px ∧ px < x + w := by
    simp only [Layer.Covers, Nat.cast_one]
    omega
  by_cases hc : py = y ∧ x ≤ px ∧ px < x + w
  · have hindex : s + ((stride * py + px) - (stride * y + x)).toNat = s + (px - x).toNat := by
      rw [hc.1]
      omega
    have hrow : (py - y).toNat = 0 := by omega
    rw [if_pos (hiff.mpr hc), Layer.paintOver_of_covers (hcovers.mpr hc), hindex,
      hf _ (by omega), hshows px py hpx hlt hpy hht, hrow]
  · rw [if_neg fun h => hc (hiff.mp h), Layer.paintOver_of_not_covers fun h => hc (hcovers.mp h)]
    exact hshows px py hpx hlt hpy hht

/-- The first row of a layer, and then the others. -/
theorem Layer.paintOver_succ (x y : Int) (w h : Nat) (paint : Nat → Nat → α → α)
    (img : Int → Int → α) :
    Layer.paintOver ⟨x, y + 1, w, h, fun row => paint (row + 1)⟩ (Layer.paintOver ⟨x, y, w, 1, paint⟩ img) =
      Layer.paintOver ⟨x, y, w, h + 1, paint⟩ img := by
  funext px py
  by_cases hrow : py = y
  -- The first line is not covered by the others.
  · have hno : ¬ Layer.Covers ⟨x, y + 1, w, h, fun row => paint (row + 1)⟩ px py := by
      rintro ⟨_, hlow, _⟩
      simp only at hlow
      omega
    have hiff : Layer.Covers ⟨x, y, w, 1, paint⟩ px py ↔
        Layer.Covers ⟨x, y, w, h + 1, paint⟩ px py := by
      simp only [Layer.Covers, Nat.cast_succ]
      omega
    rw [Layer.paintOver_of_not_covers hno]
    by_cases hc : Layer.Covers ⟨x, y, w, 1, paint⟩ px py
    · rw [Layer.paintOver_of_covers hc, Layer.paintOver_of_covers (hiff.mp hc)]
    · rw [Layer.paintOver_of_not_covers hc, Layer.paintOver_of_not_covers fun h => hc (hiff.mpr h)]
  -- Any other line is not covered by the first.
  · have hno : ¬ Layer.Covers ⟨x, y, w, 1, paint⟩ px py := by
      rintro ⟨_, hlow, hhigh⟩
      simp only [Nat.cast_one] at hlow hhigh
      omega
    have hiff : Layer.Covers ⟨x, y + 1, w, h, fun row => paint (row + 1)⟩ px py ↔
        Layer.Covers ⟨x, y, w, h + 1, paint⟩ px py := by
      simp only [Layer.Covers, Nat.cast_succ]
      omega
    by_cases hc : Layer.Covers ⟨x, y + 1, w, h, fun row => paint (row + 1)⟩ px py
    · have hindex : (py - (y + 1)).toNat + 1 = (py - y).toNat := by
        have hlow : y + 1 ≤ py := hc.2.1
        omega
      rw [Layer.paintOver_of_covers hc, Layer.paintOver_of_covers (hiff.mp hc), Layer.paintOver_of_not_covers hno]
      simp only [hindex]
    · rw [Layer.paintOver_of_not_covers hc, Layer.paintOver_of_not_covers hno,
        Layer.paintOver_of_not_covers fun h => hc (hiff.mpr h)]

/-- A walk through some lines paints a layer over the picture. -/
theorem walk_shows {size stride height ds w h : Nat} {x y : Int} {f : Nat → α → α}
    {paint : Nat → Nat → α → α} {s : Nat} {cells : Int → α} {img : Int → Int → α}
    (hsize : stride * height ≤ size) (hin : Layer.Inside ⟨x, y, w, h, paint⟩ stride height)
    (hf : ∀ row < h, ∀ col < w, f (s + ds * row + col) = paint row col)
    (hshows : Shows stride height cells img) :
    ∃ cells', walk size stride ds f w h s (stride * y + x) cells = some cells' ∧
      Shows stride height cells' (Layer.paintOver ⟨x, y, w, h, paint⟩ img) := by
  induction h generalizing y s paint cells img with
  | zero =>
      refine ⟨cells, rfl, fun px py hpx hlt hpy hht => ?_⟩
      have hno : ¬ Layer.Covers ⟨x, y, w, 0, paint⟩ px py := by
        rintro ⟨_, hlow, hhigh⟩
        simp only [Nat.cast_zero, Int.add_zero] at hlow hhigh
        omega
      rw [Layer.paintOver_of_not_covers hno]
      exact hshows px py hpx hlt hpy hht
  | succ h ih =>
      rcases hin with ⟨hleft, hright, htop, hbottom⟩
      simp only [Nat.cast_succ] at hleft hright htop hbottom
      have hfirst : Layer.Inside ⟨x, y, w, 1, paint⟩ stride height :=
        ⟨hleft, hright, htop, by simp only [Nat.cast_one]; omega⟩
      have hothers : Layer.Inside ⟨x, y + 1, w, h, fun row => paint (row + 1)⟩ stride height :=
        ⟨hleft, hright, by show 0 ≤ y + 1; omega, by show y + 1 + h ≤ height; omega⟩
      have hzero : ∀ col < w, f (s + col) = paint 0 col := hf 0 (Nat.succ_pos h)
      have hrest : ∀ row < h, ∀ col < w,
          f (s + ds + ds * row + col) = paint (row + 1) col := by
        intro row hrow col hcol
        have hindex : s + ds + ds * row + col = s + ds * (row + 1) + col := by ring
        rw [hindex]
        exact hf (row + 1) (Nat.succ_lt_succ hrow) col hcol
      have hnext : stride * y + x + stride = stride * (y + 1) + x := by ring
      -- The first line, and from there on the others.
      rcases walkRow_shows hsize hfirst hzero hshows with ⟨cells₁, heq₁, hshows₁⟩
      rcases ih hothers hrest hshows₁ with ⟨cells₂, heq₂, hshows₂⟩
      refine ⟨cells₂, ?_, ?_⟩
      · rw [walk, heq₁, Option.bind_some, hnext, heq₂]
      · rw [Layer.paintOver_succ] at hshows₂
        exact hshows₂

/-- A walk through lines that begin before the first, or end behind the last. -/
theorem walk_eq_none {size stride height ds w h : Nat} {x y : Int} {s : Nat} (f : Nat → α → α)
    (cells : Int → α) (hsize : size = stride * height) (hx : 0 ≤ x) (hw : x + w ≤ stride)
    (hpos : 0 < w) (hh : 0 < h) (hout : y < 0 ∨ height < y + h) :
    walk size stride ds f w h s (stride * y + x) cells = none := by
  have hcast : (size : Int) = stride * height := by exact_mod_cast hsize
  induction h generalizing y s cells with
  | zero => exact absurd hh (Nat.lt_irrefl 0)
  | succ h ih =>
      rw [walk]
      -- A line above the memory or below it fails at once; one inside leads on to such a line.
      by_cases hlow : y < 0
      · have hline : (stride : Int) * y + stride ≤ stride * 0 := by
          calc (stride : Int) * y + stride = stride * (y + 1) := by ring
            _ ≤ stride * 0 := Int.mul_le_mul_of_nonneg_left hlow (Int.natCast_nonneg stride)
        rw [walkRow_eq_none f s cells hpos (Or.inl (by omega))]
        rfl
      · by_cases hhigh : height ≤ y
        · have hline : (stride : Int) * height ≤ stride * y :=
            Int.mul_le_mul_of_nonneg_left hhigh (Int.natCast_nonneg stride)
          rw [walkRow_eq_none f s cells hpos (Or.inr (by omega))]
          rfl
        · have hnext : stride * y + x + stride = stride * (y + 1) + x := by ring
          have hleft : 0 < h := by
            push_cast at hout
            omega
          cases walkRow size f w s (stride * y + x) cells with
          | none => rfl
          | some cells' =>
              rw [Option.bind_some, hnext]
              exact ih cells' hleft (Or.inr (by push_cast at hout; omega))

/-! ## Programs that paint layers -/

/-- Whatever the cells show, afterwards there are the layers over it. -/
def Paints (stride height : Nat) (run : (Int → α) → Option (Int → α)) (layers : List (Layer α)) :
    Prop :=
  ∀ cells img, Shows stride height cells img →
    ∃ cells', run cells = some cells' ∧ Shows stride height cells' (paintAll layers img)

variable {stride height : Nat}

theorem paints_nil : Paints (α := α) stride height some [] :=
  fun cells _ hshows => ⟨cells, rfl, hshows⟩

theorem paints_bind {run next : (Int → α) → Option (Int → α)} {ls ls' : List (Layer α)}
    (hrun : Paints stride height run ls) (hnext : Paints stride height next ls') :
    Paints stride height (fun cells => (run cells).bind next) (ls ++ ls') := by
  intro cells img hshows
  rcases hrun cells img hshows with ⟨cells₁, heq₁, hshows₁⟩
  rcases hnext cells₁ _ hshows₁ with ⟨cells₂, heq₂, hshows₂⟩
  refine ⟨cells₂, ?_, ?_⟩
  · show (run cells).bind next = some cells₂
    rw [heq₁, Option.bind_some, heq₂]
  · rw [paintAll_append]
    exact hshows₂

theorem paints_walk {size ds s : Nat} {f : Nat → α → α} {l : Layer α}
    (hsize : stride * height ≤ size) (hin : l.Inside stride height)
    (hf : ∀ row < l.h, ∀ col < l.w, f (s + ds * row + col) = l.paint row col) :
    Paints stride height (walk size stride ds f l.w l.h s (stride * l.y + l.x)) [l] :=
  fun _ _ hshows => walk_shows hsize hin hf hshows

end Raster

end Victara
