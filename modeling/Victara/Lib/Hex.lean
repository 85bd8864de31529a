import Mathlib.Data.List.Basic
import Mathlib.Tactic.Common

/-!
# Bytes as Hexadecimal Text

Two digits in upper case for each byte, in ASCII, and the bytes read back.

A text of this kind has no nul in it and is twice as long as the bytes, which is
what the size of a buffer is compared with.

## Main definitions

* `digit`, `byteText`, `text`: The text of some bytes.
* `digitVal`, `ofText`: The bytes of a text.

## Theorems

* `length_text`, `zero_notMem_text`: How long a text is, and that it is a
  string.
* `ofText_cons`: The two digits of a byte give the byte.
* `ofText_text`: The bytes are read back.
-/

namespace Hex

def digit (n : Nat) : UInt8 := if n < 10 then UInt8.ofNat (48 + n) else UInt8.ofNat (55 + n)

/-- `"%02X"`. -/
def byteText (b : UInt8) : List UInt8 := [digit (b.toNat / 16), digit (b.toNat % 16)]

def text (bytes : List UInt8) : List UInt8 := bytes.flatMap byteText

def digitVal (c : UInt8) : Option Nat :=
  if 48 ≤ c ∧ c ≤ 57 then some (c.toNat - 48)
  else if 65 ≤ c ∧ c ≤ 70 then some (c.toNat - 55)
  else none

/-- The bytes of a text of digits in upper case, two for each byte. -/
def ofText : List UInt8 → Option (List UInt8)
  | [] => some []
  | [_] => none
  | hi :: lo :: rest =>
      match digitVal hi, digitVal lo, ofText rest with
      | some h, some l, some bytes => some (UInt8.ofNat (16 * h + l) :: bytes)
      | _, _, _ => none

theorem digitVal_digit {n : Nat} (h : n < 16) : digitVal (digit n) = some n := by
  -- There are sixteen digits.
  have hall : ∀ n < 16, digitVal (digit n) = some n := by decide
  exact hall n h

theorem digit_ne_zero {n : Nat} (h : n < 16) : digit n ≠ 0 := by
  have hall : ∀ n < 16, digit n ≠ 0 := by decide
  exact hall n h

@[simp] theorem length_byteText (b : UInt8) : (byteText b).length = 2 := rfl

theorem zero_notMem_byteText (b : UInt8) : 0 ∉ byteText b := by
  have hb := b.toNat_lt
  have hhi : digit (b.toNat / 16) ≠ 0 := digit_ne_zero (by omega)
  have hlo : digit (b.toNat % 16) ≠ 0 := digit_ne_zero (by omega)
  simp [byteText, hhi.symm, hlo.symm]

theorem text_cons (b : UInt8) (bytes : List UInt8) : text (b :: bytes) = byteText b ++ text bytes :=
  List.flatMap_cons

theorem text_append (bytes more : List UInt8) : text (bytes ++ more) = text bytes ++ text more :=
  List.flatMap_append

theorem length_text (bytes : List UInt8) : (text bytes).length = 2 * bytes.length := by
  induction bytes with
  | nil => rfl
  | cons b bytes ih =>
      rw [text_cons, List.length_append, length_byteText, ih, List.length_cons]
      omega

theorem zero_notMem_text (bytes : List UInt8) : 0 ∉ text bytes := by
  intro h
  rcases List.mem_flatMap.mp h with ⟨b, -, hb⟩
  exact zero_notMem_byteText b hb

/-- The two digits of a byte give the byte. -/
theorem ofText_cons (b : UInt8) {rest bytes : List UInt8} (h : ofText rest = some bytes) :
    ofText (byteText b ++ rest) = some (b :: bytes) := by
  have hb := b.toNat_lt
  have hhi : digitVal (digit (b.toNat / 16)) = some (b.toNat / 16) := digitVal_digit (by omega)
  have hlo : digitVal (digit (b.toNat % 16)) = some (b.toNat % 16) := digitVal_digit (by omega)
  have hsum : 16 * (b.toNat / 16) + b.toNat % 16 = b.toNat := by omega
  simp only [byteText, List.cons_append, List.nil_append, ofText, hhi, hlo, h, hsum,
    UInt8.ofNat_toNat]

theorem ofText_text (bytes : List UInt8) : ofText (text bytes) = some bytes := by
  induction bytes with
  | nil => rfl
  | cons b bytes ih => rw [text_cons, ofText_cons b ih]

end Hex
