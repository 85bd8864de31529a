import Mathlib.Algebra.Group.Int.Defs
import Mathlib.Algebra.Group.Nat.Defs
import Mathlib.Algebra.GroupWithZero.Nat
import Mathlib.Data.List.Basic

/-!
# Text That Is Printed into a Buffer

What `snprintf` does for a program that writes a line piece by piece: numbers
with leading zeros, and pieces that are appended as long as they fit, or cut.
A line of fields between separators can be read back.

A number is printed with a least width, and read back as itself. For the lengths
there are bounds and no exact values, as these are compared with the size of a
buffer. A line of fields is read back if no field has the separator in it.

## Main definitions

* `zeroPad`: A number with leading zeros.
* `append`, `appendAll`, `appendCut`: Pieces for a buffer of some size.
* `line`: Fields, each with a separator behind it.

## Theorems

* `length_zeroPad_le`: How long a number is.
* `mem_zeroPad`: A number has no other characters.
* `ofDigitChars_zeroPad`: A number is read back.
* `appendAll_of_fits`: Pieces that fit are appended.
* `appendAll_eq_some`: What comes out is what was there and the pieces, and has
  room.
* `appendCut_of_fits`: What is in the buffer stays.
* `length_line_le`: How long a line is.
* `splitOn_line`: Fields are read back.
-/

namespace Printf

/-- `"%0wd"`. -/
def zeroPad (w : Nat) (x : Int) : List Char :=
  if x < 0 then '-' :: (Nat.toDigits 10 x.natAbs).leftpad (w - 1) '0'
  else (Nat.toDigits 10 x.natAbs).leftpad w '0'

theorem zeroPad_natCast (w n : Nat) :
    zeroPad w n = (Nat.toDigits 10 n).leftpad w '0' := by
  rw [zeroPad, if_neg (by omega), Int.natAbs_natCast]

theorem length_leftpad_toDigits_le {w k n : Nat} (hw : w ≤ k) (hk : 0 < k) (hn : n < 10 ^ k) :
    ((Nat.toDigits 10 n).leftpad w '0').length ≤ k := by
  rw [List.length_leftpad]
  exact Nat.max_le.mpr ⟨hw, (Nat.length_toDigits_le_iff (by decide) hk).mpr hn⟩

/-- A number of `k` digits and its sign. -/
theorem length_zeroPad_le {w k : Nat} {x : Int} (hw : w ≤ k) (hk : 0 < k)
    (hx : x.natAbs < 10 ^ k) : (zeroPad w x).length ≤ k + 1 := by
  unfold zeroPad
  split
  · exact Nat.succ_le_succ (length_leftpad_toDigits_le (by omega) hk hx)
  · exact Nat.le_succ_of_le (length_leftpad_toDigits_le hw hk hx)

theorem length_zeroPad_le_of_nonneg {w k : Nat} {x : Int} (hw : w ≤ k) (hk : 0 < k) (h : 0 ≤ x)
    (hx : x < 10 ^ k) : (zeroPad w x).length ≤ k := by
  rcases Int.eq_ofNat_of_zero_le h with ⟨n, rfl⟩
  rw [zeroPad_natCast]
  exact length_leftpad_toDigits_le hw hk (by exact_mod_cast hx)

theorem isDigit_of_mem_zeroPad {w n : Nat} {c : Char} (h : c ∈ zeroPad w n) : c.isDigit = true := by
  rw [zeroPad_natCast, List.leftpad, List.mem_append] at h
  rcases h with hzero | hdigit
  · rw [List.eq_of_mem_replicate hzero]
    decide
  · exact Nat.isDigit_of_mem_toDigits (by decide) (by decide) hdigit

/-- A number has no other characters. -/
theorem mem_zeroPad {w : Nat} {x : Int} {c : Char} (h : c ∈ zeroPad w x) :
    c = '-' ∨ c.isDigit = true := by
  have hdigits : ∀ k n : Nat, c ∈ (Nat.toDigits 10 n).leftpad k '0' → c.isDigit = true :=
    fun k n hmem => isDigit_of_mem_zeroPad (zeroPad_natCast k n ▸ hmem)
  unfold zeroPad at h
  split at h
  · exact (List.mem_cons.mp h).imp_right (hdigits _ _)
  · exact Or.inr (hdigits _ _ h)

theorem zeroPad_ne_nil (w n : Nat) : zeroPad w n ≠ [] := by
  rw [zeroPad_natCast, List.leftpad]
  exact List.append_ne_nil_of_right_ne_nil _ Nat.toDigits_ne_nil

theorem ofDigitChars_zeroPad (w n : Nat) : Nat.ofDigitChars 10 (zeroPad w n) 0 = n := by
  rw [zeroPad_natCast, List.leftpad, Nat.ofDigitChars_append, Nat.ofDigitChars_replicate_zero,
    Nat.mul_zero, Nat.ofDigitChars_ten_toDigits]

/-- Append a piece if there is room for it and for the byte 0 behind it. -/
def append (size : Nat) (buf text : List Char) : Option (List Char) :=
  if buf.length + text.length < size then some (buf ++ text) else none

/-- Append a number of pieces, and stop where there is no room. -/
def appendAll (size : Nat) (buf : List Char) (texts : List (List Char)) : Option (List Char) :=
  texts.foldlM (append size) buf

/-- Append what there is room for. -/
def appendCut (size : Nat) (buf text : List Char) : List Char := (buf ++ text).take (size - 1)

theorem appendAll_of_fits {size : Nat} {buf : List Char} {texts : List (List Char)}
    (h : buf.length + texts.flatten.length < size) :
    appendAll size buf texts = some (buf ++ texts.flatten) := by
  induction texts generalizing buf with
  | nil => simp [appendAll]
  | cons text texts ih =>
      simp only [List.flatten_cons, List.length_append] at h
      have hfirst : append size buf text = some (buf ++ text) := if_pos (by omega)
      have hrest : appendAll size (buf ++ text) texts = some (buf ++ text ++ texts.flatten) :=
        ih (by rw [List.length_append]; omega)
      rw [appendAll, List.foldlM_cons, hfirst]
      simpa [appendAll] using hrest

/-- What comes out is what was there and the pieces, and has room. -/
theorem appendAll_eq_some {size : Nat} {buf out : List Char} {texts : List (List Char)}
    (hbuf : buf.length < size) (h : appendAll size buf texts = some out) :
    out = buf ++ texts.flatten ∧ out.length < size := by
  induction texts generalizing buf with
  | nil =>
      cases h
      exact ⟨(List.append_nil _).symm, hbuf⟩
  | cons text texts ih =>
      rw [appendAll, List.foldlM_cons, append] at h
      by_cases hfits : buf.length + text.length < size
      · rw [if_pos hfits] at h
        rcases ih (by rw [List.length_append]; exact hfits) h with ⟨hout, hlt⟩
        exact ⟨by rw [hout, List.append_assoc, List.flatten_cons], hlt⟩
      · rw [if_neg hfits] at h
        cases h

/-- What is in the buffer stays. -/
theorem appendCut_of_fits {size : Nat} {buf : List Char} (h : buf.length < size)
    (text : List Char) : ∃ cut, appendCut size buf text = buf ++ cut := by
  refine ⟨text.take (size - 1 - buf.length), ?_⟩
  rw [appendCut, List.take_append, List.take_of_length_le (by omega)]

/-- Fields, each with a separator behind it. -/
def line (sep : Char) (fields : List (List Char)) : List Char := (fields.map (· ++ [sep])).flatten

theorem line_cons (sep : Char) (f : List Char) (fields : List (List Char)) :
    line sep (f :: fields) = f ++ sep :: line sep fields := by
  simp [line]

theorem length_line (sep : Char) (fields : List (List Char)) :
    (line sep fields).length = (fields.map fun f => f.length + 1).sum := by
  induction fields with
  | nil => rfl
  | cons f fields ih =>
      rw [line_cons, List.length_append, List.length_cons, ih, List.map_cons, List.sum_cons]
      omega

theorem flatten_map_line (sep : Char) (groups : List (List (List Char))) :
    (groups.map (line sep)).flatten = line sep groups.flatten := by
  induction groups with
  | nil => rfl
  | cons fields groups ih =>
      rw [List.map_cons, List.flatten_cons, List.flatten_cons, ih]
      simp only [line, List.map_append, List.flatten_append]

theorem length_line_le {k : Nat} (sep : Char) {fields : List (List Char)}
    (h : ∀ f ∈ fields, f.length ≤ k) : (line sep fields).length ≤ fields.length * (k + 1) := by
  induction fields with
  | nil => exact Nat.zero_le _
  | cons f fields ih =>
      have hf := h f List.mem_cons_self
      have hrest := ih (fun f' hf' => h f' (List.mem_cons_of_mem f hf'))
      rw [line_cons, List.length_append, List.length_cons, List.length_cons, Nat.succ_mul]
      omega

theorem splitOn_line {sep : Char} {fields : List (List Char)} (h : ∀ f ∈ fields, sep ∉ f)
    (rest : List Char) : (line sep fields ++ rest).splitOn sep = fields ++ rest.splitOn sep := by
  induction fields with
  | nil => rfl
  | cons f fields ih =>
      have hf : sep ∉ f := h f List.mem_cons_self
      have hfields := ih (fun f' hf' => h f' (List.mem_cons_of_mem f hf'))
      rw [line_cons, List.append_assoc, List.cons_append,
        List.splitOn_append_cons_self_of_not_mem hf, hfields, List.cons_append]

end Printf
