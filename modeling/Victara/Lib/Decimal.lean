import Mathlib.Algebra.Order.Floor.Ring
import Mathlib.Data.Rat.Floor
import Mathlib.Tactic.FieldSimp
import Mathlib.Tactic.Linarith
import Mathlib.Tactic.Ring
import Victara.Lib.Printf

/-!
# Rational Numbers as Decimal Text

What `"%.1f"` and its like print of an exact value: it is rounded to so many
decimals, to the nearest one and in the middle to the even one. The text is
read back as the rounded value, which is half a unit of the last decimal away
at most.

A number is first rounded to a whole number of units of its last decimal, and
that is then written in digits. So what is read back is the number of units,
exactly, and how far it is from the value is the rounding error alone. Two
values print the same if they have the same units.

## Main definitions

* `roundEven`: The nearest integer, or the even one of two.
* `units`: A value in units of its last decimal.
* `fixed`: The text.
* `read`: The value of a text without a sign.
* `unitsText`: The text of so many units, with `d` decimals.

## Theorems

* `abs_roundEven_sub_le`: The rounding error.
* `roundEven_lt_iff`: What is rounded to less than an even number.
* `units_cast`: The units are the rounded value.
* `length_decimals`: The decimals are `d`.
* `read_point`: A text with a point between digits is read as two numbers.
* `read_fixed`: The rounded value is read back.
* `abs_read_fixed_sub_le`: It is half a unit away at most.
* `fixed_inj`: Texts are the same if the units are.
* `mem_fixed`: A text has digits, a point and a sign.
* `length_fixed_le`: How long a text is.
-/

namespace Decimal

/-- The nearest integer, and the even one in the middle of two. -/
def roundEven (x : ℚ) : Int :=
  if x - ⌊x⌋ < 1 / 2 ∨ x - ⌊x⌋ = 1 / 2 ∧ ⌊x⌋ % 2 = 0 then ⌊x⌋ else ⌊x⌋ + 1

/-- A value without its sign, in units of the decimal number `d`. -/
def units (d : Nat) (x : ℚ) : Nat := (roundEven (|x| * 10 ^ d)).toNat

/-- `"%0w.df"`. -/
def fixed (w d : Nat) (x : ℚ) : List Char :=
  let body := Nat.toDigits 10 (units d x / 10 ^ d) ++
    '.' :: (Nat.toDigits 10 (units d x % 10 ^ d)).leftpad d '0'
  if x < 0 then '-' :: body.leftpad (w - 1) '0' else body.leftpad w '0'

/-- The value of a text that has no sign. -/
def read (text : List Char) : ℚ :=
  let decimals := (text.dropWhile (· ≠ '.')).drop 1
  Nat.ofDigitChars 10 (text.takeWhile (· ≠ '.')) 0 +
    (Nat.ofDigitChars 10 decimals 0 : ℚ) / 10 ^ decimals.length

/-! ## Rounding -/

theorem abs_roundEven_sub_le (x : ℚ) : |(roundEven x : ℚ) - x| ≤ 1 / 2 := by
  have hle := Int.floor_le x
  have hlt := Int.lt_floor_add_one x
  -- The fraction is a half at most if it is dropped, and at least if it is not.
  unfold roundEven
  split
  · rename_i hdown
    have hhalf : x - ⌊x⌋ ≤ 1 / 2 := hdown.elim le_of_lt fun h => le_of_eq h.1
    rw [abs_le]
    constructor <;> linarith
  · rename_i hup
    have hhalf : 1 / 2 ≤ x - ⌊x⌋ := le_of_not_gt fun h => hup (Or.inl h)
    rw [abs_le]
    push_cast
    constructor <;> linarith

/-- What is rounded to less than an even number is less by more than a half. -/
theorem roundEven_lt_iff {n : Int} (hn : n % 2 = 0) (x : ℚ) :
    roundEven x < n ↔ x < n - 1 / 2 := by
  have hle := Int.floor_le x
  have hlt := Int.lt_floor_add_one x
  unfold roundEven
  split
  -- Rounded down, to the floor.
  · rename_i hdown
    constructor
    · intro hfloor
      by_cases hnext : ⌊x⌋ + 1 = n
      · -- The floor is odd, so that it is not the middle that has been rounded down.
        have hstrict : x - ⌊x⌋ < 1 / 2 := hdown.elim id fun h => by omega
        rw [← hnext]
        push_cast
        linarith
      · have hfar : ((⌊x⌋ : Int) : ℚ) + 2 ≤ n := by exact_mod_cast (by omega : ⌊x⌋ + 2 ≤ n)
        linarith
    · intro h
      have hfloor : ((⌊x⌋ : Int) : ℚ) < n := by linarith
      exact_mod_cast hfloor
  -- Rounded up, to one more than the floor.
  · rename_i hup
    have hhalf : 1 / 2 ≤ x - ⌊x⌋ := le_of_not_gt fun h => hup (Or.inl h)
    constructor
    · intro hfloor
      have hfar : ((⌊x⌋ : Int) : ℚ) + 1 + 1 ≤ n := by exact_mod_cast (by omega : ⌊x⌋ + 1 + 1 ≤ n)
      linarith
    · intro h
      have hfloor : ((⌊x⌋ : Int) : ℚ) + 1 < n := by linarith
      exact_mod_cast hfloor

theorem roundEven_nonneg {x : ℚ} (h : 0 ≤ x) : 0 ≤ roundEven x := by
  have hfloor : 0 ≤ ⌊x⌋ := Int.floor_nonneg.mpr h
  unfold roundEven
  split <;> omega

/-- The units are the rounded value. -/
theorem units_cast (d : Nat) {x : ℚ} (h : 0 ≤ x) : (units d x : ℚ) = roundEven (x * 10 ^ d) := by
  have hnonneg : 0 ≤ x * 10 ^ d := by positivity
  have hcast : ((units d x : Nat) : Int) = roundEven (x * 10 ^ d) := by
    rw [units, abs_of_nonneg h, Int.toNat_of_nonneg (roundEven_nonneg hnonneg)]
  exact_mod_cast hcast

/-! ## The text -/

/-- The text of so many units, with `d` decimals. -/
def unitsText (d n : Nat) : List Char :=
  Nat.toDigits 10 (n / 10 ^ d) ++ '.' :: (Nat.toDigits 10 (n % 10 ^ d)).leftpad d '0'

theorem fixed_of_nonneg (w d : Nat) {x : ℚ} (h : 0 ≤ x) :
    fixed w d x = (unitsText d (units d x)).leftpad w '0' := by
  rw [fixed, if_neg (not_lt.mpr h)]
  rfl

/-- The decimals are `d`. -/
theorem length_decimals {d : Nat} (hd : 0 < d) (n : Nat) :
    ((Nat.toDigits 10 (n % 10 ^ d)).leftpad d '0').length = d := by
  have hlt : n % 10 ^ d < 10 ^ d := Nat.mod_lt n (Nat.pow_pos (by decide))
  have hle := (Nat.length_toDigits_le_iff (b := 10) (by decide) hd).mpr hlt
  rw [List.length_leftpad]
  omega

theorem isDigit_of_mem_leftpad {k n : Nat} {c : Char}
    (h : c ∈ (Nat.toDigits 10 n).leftpad k '0') : c.isDigit = true := by
  rw [← Printf.zeroPad_natCast] at h
  exact Printf.isDigit_of_mem_zeroPad h

theorem ofDigitChars_leftpad (k n : Nat) :
    Nat.ofDigitChars 10 ((Nat.toDigits 10 n).leftpad k '0') 0 = n := by
  rw [← Printf.zeroPad_natCast, Printf.ofDigitChars_zeroPad]

/-- A text with a point between digits is read as two numbers. -/
theorem read_point {whole : List Char} (h : ∀ c ∈ whole, c.isDigit = true)
    (decimals : List Char) :
    read (whole ++ '.' :: decimals) =
      Nat.ofDigitChars 10 whole 0 + (Nat.ofDigitChars 10 decimals 0 : ℚ) / 10 ^ decimals.length := by
  have hkeep : ∀ c ∈ whole, decide (c ≠ '.') = true := by
    intro c hc
    refine decide_eq_true fun hpoint => ?_
    have hdigit := h c hc
    rw [hpoint] at hdigit
    exact absurd hdigit (by decide)
  rw [read, List.takeWhile_append_of_pos hkeep, List.dropWhile_append_of_pos hkeep,
    List.takeWhile_cons_of_neg (by simp), List.dropWhile_cons_of_neg (by simp), List.append_nil,
    List.drop_one, List.tail_cons]

theorem read_leftpad_unitsText (w : Nat) {d : Nat} (hd : 0 < d) (n : Nat) :
    read ((unitsText d n).leftpad w '0') = (n : ℚ) / 10 ^ d := by
  have hten : (10 : ℚ) ^ d ≠ 0 := pow_ne_zero d (by norm_num)
  -- The zeros in front belong to the whole number.
  have hpad : (unitsText d n).leftpad w '0' =
      (List.replicate (w - (unitsText d n).length) '0' ++ Nat.toDigits 10 (n / 10 ^ d)) ++
        '.' :: (Nat.toDigits 10 (n % 10 ^ d)).leftpad d '0' := by
    rw [List.leftpad, List.append_assoc]
    rfl
  have hwhole : ∀ c ∈ List.replicate (w - (unitsText d n).length) '0' ++
      Nat.toDigits 10 (n / 10 ^ d), c.isDigit = true := by
    intro c hc
    rcases List.mem_append.mp hc with hzero | hdigit
    · rw [List.eq_of_mem_replicate hzero]
      decide
    · exact Nat.isDigit_of_mem_toDigits (by decide) (by decide) hdigit
  have hsplit : ((n / 10 ^ d : Nat) : ℚ) * 10 ^ d + ((n % 10 ^ d : Nat) : ℚ) = n := by
    have hnat := Nat.div_add_mod n (10 ^ d)
    rw [Nat.mul_comm] at hnat
    exact_mod_cast hnat
  rw [hpad, read_point hwhole, length_decimals hd, ofDigitChars_leftpad, Nat.ofDigitChars_append,
    Nat.ofDigitChars_replicate_zero, Nat.mul_zero, Nat.ofDigitChars_ten_toDigits, ← hsplit]
  field_simp

/-- The rounded value is read back. -/
theorem read_fixed (w : Nat) {d : Nat} (hd : 0 < d) {x : ℚ} (h : 0 ≤ x) :
    read (fixed w d x) = (units d x : ℚ) / 10 ^ d := by
  rw [fixed_of_nonneg w d h, read_leftpad_unitsText w hd]

/-- What is read is half a unit of the last decimal away at most. -/
theorem abs_read_fixed_sub_le (w : Nat) {d : Nat} (hd : 0 < d) {x : ℚ} (h : 0 ≤ x) :
    |read (fixed w d x) - x| ≤ 1 / 2 / 10 ^ d := by
  have hten : (0 : ℚ) < 10 ^ d := by positivity
  have herror := abs_roundEven_sub_le (x * 10 ^ d)
  -- The error of the rounding, in units of the last decimal.
  have hscale : (units d x : ℚ) / 10 ^ d - x = (roundEven (x * 10 ^ d) - x * 10 ^ d) / 10 ^ d := by
    rw [units_cast d h]
    field_simp
  rw [read_fixed w hd h, hscale, abs_div, abs_of_pos hten]
  exact div_le_div_of_nonneg_right herror (le_of_lt hten)

/-- Two texts are the same if they are of as many units. -/
theorem fixed_inj (w : Nat) {d : Nat} (hd : 0 < d) {x y : ℚ} (hx : 0 ≤ x) (hy : 0 ≤ y) :
    fixed w d x = fixed w d y ↔ units d x = units d y := by
  constructor
  · intro h
    have hread := congrArg read h
    have hten : (10 : ℚ) ^ d ≠ 0 := pow_ne_zero d (by norm_num)
    rw [read_fixed w hd hx, read_fixed w hd hy, div_left_inj' hten] at hread
    exact_mod_cast hread
  · intro h
    rw [fixed_of_nonneg w d hx, fixed_of_nonneg w d hy, h]

/-- A text has digits, a point and a sign. -/
theorem mem_fixed {w d : Nat} {x : ℚ} {c : Char} (h : c ∈ fixed w d x) :
    c = '-' ∨ c = '.' ∨ c.isDigit = true := by
  have hbody : ∀ k, c ∈ (unitsText d (units d x)).leftpad k '0' → c = '.' ∨ c.isDigit = true := by
    intro k hmem
    rw [List.leftpad, unitsText, List.mem_append, List.mem_append, List.mem_cons] at hmem
    rcases hmem with hzero | hwhole | hpoint | hdecimal
    · rw [List.eq_of_mem_replicate hzero]
      decide
    · exact Or.inr (Nat.isDigit_of_mem_toDigits (by decide) (by decide) hwhole)
    · exact Or.inl hpoint
    · exact Or.inr (isDigit_of_mem_leftpad hdecimal)
  rw [fixed] at h
  split at h
  · exact (List.mem_cons.mp h).imp_right (hbody (w - 1))
  · exact Or.inr (hbody w h)

/-- How long a text is, with its sign. -/
theorem length_fixed_le {w d k : Nat} (hd : 0 < d) (hw : w ≤ k + d + 2) {x : ℚ}
    (h : |x| < 10 ^ k) : (fixed w d x).length ≤ k + d + 3 := by
  have hten : (0 : ℚ) < 10 ^ d := by positivity
  have hunits : units d x ≤ 10 ^ k * 10 ^ d := by
    have herror := (abs_le.mp (abs_roundEven_sub_le (|x| * 10 ^ d))).2
    have hscaled : |x| * 10 ^ d < 10 ^ k * 10 ^ d := mul_lt_mul_of_pos_right h hten
    have hround : (roundEven (|x| * 10 ^ d) : ℚ) < ((10 ^ k * 10 ^ d + 1 : Nat) : Int) := by
      push_cast
      linarith
    have hint : roundEven (|x| * 10 ^ d) < ((10 ^ k * 10 ^ d + 1 : Nat) : Int) := by
      exact_mod_cast hround
    rw [units]
    omega
  -- Rounding may carry into one more digit.
  have hwhole : units d x / 10 ^ d < 10 ^ (k + 1) := by
    have hdiv := Nat.div_le_div_right (c := 10 ^ d) hunits
    rw [Nat.mul_div_cancel _ (Nat.pow_pos (by decide))] at hdiv
    exact Nat.lt_of_le_of_lt hdiv (Nat.pow_lt_pow_right (by decide) (Nat.lt_succ_self k))
  have hdigits := (Nat.length_toDigits_le_iff (b := 10) (by decide) (Nat.succ_pos k)).mpr hwhole
  have hbody : (unitsText d (units d x)).length ≤ k + d + 2 := by
    rw [unitsText, List.length_append, List.length_cons, length_decimals hd]
    omega
  have hpad : ∀ n, n ≤ k + d + 2 →
      ((unitsText d (units d x)).leftpad n '0').length ≤ k + d + 2 := by
    intro n hn
    rw [List.length_leftpad]
    omega
  rw [fixed]
  split
  · exact Nat.succ_le_succ (hpad (w - 1) (by omega))
  · exact Nat.le_succ_of_le (hpad w hw)

end Decimal
