import Victara.Lib.Buffer
import Victara.Lib.Hex

/-!
# The Texts of a Network-Initiated Request

`hexcode` and `decodeAddress` of `LocApiBase.cpp`, which `reportNiRequest` of
`LocApiV02.cpp` puts the texts, the requestor and the address of a notification
together with. Both write into a buffer of so many bytes, two characters for
each byte of the data, and leave out what does not fit.

The characters are unsigned, as they are on ARM. A write outside the buffer, or
a read outside the data, has no result. The sizes are ints; what is compared
with `string_size` exceeds it by two at most.

Both loops are followed by what is filled: the buffer is a text that has been
written, and behind it what was there before. A step adds two characters if
there is room for them and for the end. So the text at the end is that of as
many bytes as fit, and the number that is returned counts them.

## Main definitions

* `hexcodeLoop`: The loop of `hexcode`, from `i` on, with the bytes from there
  on.
* `hexcode`, `decodeAddress`: The two functions.
* `putDigit`: A nibble that is a digit is written if there is room.
* `addressLoop`: The loop of `decodeAddress`, over the bytes behind the prefix.
* `digitOf`: The character of a nibble that is a digit.
* `addressDigits`: The digits that the bytes of an address stand for.
* `filled`: The buffer with as many digits as there is room for.

## Theorems

* `hexcodeLoop_text`, `hexcode_eq`: What `hexcode` writes.
* `putDigit_filled`, `addressLoop_filled`: A digit, and the digits of some
  bytes.
* `decodeAddress_eq`: What `decodeAddress` writes for an address with the
  prefix.
* `hexcode_decodes`: The text is that of the bytes that fit.
* `decodeAddress_fits`: The address has the digits that fit.
* `niText_fits`: For every input and size, both stay in their buffers and lose
  nothing that fits.
-/

namespace Victara

namespace NiText

open Buffer

/-- The loop of `hexcode`, from `i` on, with the bytes from there on. -/
def hexcodeLoop (string_size : Int) (hexstring : List UInt8) (i : Nat) :
    List UInt8 → Option (List UInt8 × Nat)
  | [] => some (hexstring, i)
  | ch :: data =>
      if i * 2 + 3 ≤ string_size then
        (putAll hexstring (i * 2) (snprintf 0 3 (Hex.byteText ch))).bind fun hexstring =>
          hexcodeLoop string_size hexstring (i + 1) data
      else some (hexstring, i)

/-- `hexcode`: the buffer, and how many bytes are in it. -/
def hexcode (hexstring : List UInt8) (string_size : Int) (data : List UInt8) :
    Option (List UInt8 × Nat) :=
  hexcodeLoop string_size hexstring 0 data

def addr_prefix : UInt8 := 0x91

/-- A nibble that is a digit is written if there is room. -/
def putDigit (string_size : Int) (addr_string : List UInt8) (idxOutput : Nat) (nibble : UInt8) :
    Option (List UInt8 × Nat) :=
  if nibble ≤ 9 ∧ idxOutput < string_size - 1 then
    (put addr_string idxOutput (nibble + 48)).map fun addr_string => (addr_string, idxOutput + 1)
  else some (addr_string, idxOutput)

/-- The loop of `decodeAddress`, over the bytes behind the prefix. -/
def addressLoop (string_size : Int) (addr_string : List UInt8) (idxOutput : Nat) :
    List UInt8 → Option (List UInt8 × Nat)
  | [] => some (addr_string, idxOutput)
  | ch :: data =>
      (putDigit string_size addr_string idxOutput (ch &&& 0x0F)).bind fun low =>
        (putDigit string_size low.1 low.2 (ch >>> 4)).bind fun hi =>
          addressLoop string_size hi.1 hi.2 data

/-- `decodeAddress`, of pointers that may be NULL: the buffer, and how many
    digits are in it. -/
def decodeAddress (addr_string : Option (List UInt8)) (string_size : Int)
    (data : Option (List UInt8)) : Option (Option (List UInt8) × Nat) :=
  match data, addr_string with
  | some data, some addr_string =>
      match data with
      | [] => none
      | ch :: data =>
          if ch ≠ addr_prefix then (put addr_string 0 0).map fun addr_string => (some addr_string, 0)
          else
            (addressLoop string_size addr_string 0 data).bind fun out =>
              (put out.1 out.2 0).map fun addr_string => (some addr_string, out.2)
  | _, _ => some (addr_string, 0)

/-! ## The text of some bytes -/

/-- The loop after `done`, with room for `k` bytes and the 0 behind them. -/
theorem hexcodeLoop_text {n r : Nat} (hr : 1 ≤ r ∧ r ≤ 2) (done data : List UInt8) {k : Nat}
    (h : n = 2 * done.length + (2 * k + r)) :
    hexcodeLoop n (Hex.text done ++ List.replicate (2 * k + r) 0) done.length data =
      some (Hex.text (done ++ data.take k) ++
        List.replicate (2 * k + r - 2 * min data.length k) 0, done.length + min data.length k) := by
  induction data generalizing done k with
  | nil => simp [hexcodeLoop]
  | cons ch data ih =>
      cases k with
      -- There is no room for two digits and the 0 behind them.
      | zero =>
          rw [hexcodeLoop, if_neg (by omega)]
          simp
      | succ k =>
          -- Two digits and a 0 are written, and the 0 is what has been there.
          have hput : putAll (Hex.text done ++ List.replicate (2 * (k + 1) + r) 0) (done.length * 2)
              (snprintf 0 3 (Hex.byteText ch)) =
                some (Hex.text (done ++ [ch]) ++ List.replicate (2 * k + r) 0) := by
            have hold : (List.replicate 3 (0 : UInt8)).length = (Hex.byteText ch ++ [0]).length :=
              rfl
            have hthree := putAll_append (Hex.text done) hold (List.replicate (2 * k + r - 1) 0)
            have hroom : 2 * (k + 1) + r = 3 + (2 * k + r - 1) := by omega
            have hlast : 2 * k + r = (2 * k + r - 1) + 1 := by omega
            have hfits : (Hex.byteText ch).length < 3 := Nat.lt_succ_self 2
            rw [Hex.length_text, Nat.mul_comm 2 done.length, ← List.replicate_add] at hthree
            rw [snprintf_of_fits 0 hfits, hroom, hthree, Hex.text_append, hlast,
              List.replicate_succ]
            simp [Hex.text]
          have hlength : (done ++ [ch]).length = done.length + 1 := by simp
          have hrest := ih (done ++ [ch]) (k := k) (by rw [hlength]; omega)
          rw [hlength, List.append_assoc, List.singleton_append] at hrest
          have hmin : min (data.length + 1) (k + 1) = min data.length k + 1 := by omega
          have hleft : 2 * (k + 1) + r - 2 * (min data.length k + 1) =
              2 * k + r - 2 * min data.length k := by omega
          have hcount : done.length + (min data.length k + 1) =
              done.length + 1 + min data.length k := by omega
          rw [hexcodeLoop, if_pos (by omega), hput, Option.bind_some, hrest, List.take_succ_cons,
            List.length_cons, hmin, hleft, hcount]

/-- What `hexcode` writes into a buffer that is 0. -/
theorem hexcode_eq {n : Nat} (hn : 1 ≤ n) (data : List UInt8) :
    hexcode (List.replicate n 0) n data =
      some (Hex.text (data.take ((n - 1) / 2)) ++
        List.replicate (n - 2 * min data.length ((n - 1) / 2)) 0,
        min data.length ((n - 1) / 2)) := by
  -- One or two bytes are left behind the digits, for the 0.
  have hroom : 2 * ((n - 1) / 2) + (n - 2 * ((n - 1) / 2)) = n := by omega
  have hloop := hexcodeLoop_text (n := n) (r := n - 2 * ((n - 1) / 2)) (by omega) [] data
    (k := (n - 1) / 2) (by simp; omega)
  rw [hroom] at hloop
  simpa [hexcode, Hex.text] using hloop

/-! ## The digits of an address -/

/-- The character of a nibble that is a digit. -/
def digitOf (nibble : UInt8) : List UInt8 := if nibble ≤ 9 then [nibble + 48] else []

/-- The digits of some bytes, of each the low nibble first. -/
def addressDigits (data : List UInt8) : List UInt8 :=
  data.flatMap fun ch => digitOf (ch &&& 0x0F) ++ digitOf (ch >>> 4)

/-- The buffer with as many digits as there is room for. -/
def filled (n : Nat) (old digits : List UInt8) : List UInt8 :=
  digits.take (n - 1) ++ old.drop (min digits.length (n - 1))

theorem putDigit_filled {n : Nat} {old : List UInt8} (hold : old.length = n)
    (digits : List UInt8) (nibble : UInt8) :
    putDigit n (filled n old digits) (min digits.length (n - 1)) nibble =
      some (filled n old (digits ++ digitOf nibble),
        min (digits ++ digitOf nibble).length (n - 1)) := by
  by_cases hdigit : nibble ≤ 9
  · rw [digitOf, if_pos hdigit, List.length_append, List.length_singleton]
    by_cases hroom : digits.length < n - 1
    · -- The place behind the digits is in the buffer.
      have hlt : digits.length < old.length := by omega
      have hmin : min digits.length (n - 1) = digits.length := by omega
      have hmin' : min (digits.length + 1) (n - 1) = digits.length + 1 := by omega
      have htake : (digits ++ [nibble + 48]).take (n - 1) = digits ++ [nibble + 48] :=
        List.take_of_length_le (by simp; omega)
      rw [putDigit, hmin, if_pos ⟨hdigit, by omega⟩, filled, filled, hmin,
        List.take_of_length_le (Nat.le_of_lt hroom), List.drop_eq_getElem_cons hlt, put_append,
        Option.map_some, List.length_append, List.length_singleton, hmin', htake,
        List.append_assoc, List.singleton_append]
    -- Without room the digits that are kept are the same.
    · have hmin : min digits.length (n - 1) = n - 1 := by omega
      have hmin' : min (digits.length + 1) (n - 1) = n - 1 := by omega
      rw [putDigit, if_neg (by omega), filled, filled, List.length_append, List.length_singleton,
        List.take_append_of_le_length (by omega), hmin, hmin']
  -- A nibble that is no digit is passed over.
  · rw [putDigit, if_neg (fun h => hdigit h.1), digitOf, if_neg hdigit, List.append_nil]

/-- The loop after some digits. -/
theorem addressLoop_filled {n : Nat} {old : List UInt8} (hold : old.length = n)
    (digits data : List UInt8) :
    addressLoop n (filled n old digits) (min digits.length (n - 1)) data =
      some (filled n old (digits ++ addressDigits data),
        min (digits ++ addressDigits data).length (n - 1)) := by
  induction data generalizing digits with
  | nil => simp [addressLoop, addressDigits]
  | cons ch data ih =>
      -- The low nibble of a byte comes first.
      have hbyte : addressDigits (ch :: data) =
          digitOf (ch &&& 0x0F) ++ (digitOf (ch >>> 4) ++ addressDigits data) := by
        rw [addressDigits, List.flatMap_cons, List.append_assoc]
        rfl
      rw [addressLoop, putDigit_filled hold, Option.bind_some, putDigit_filled hold,
        Option.bind_some, ih, hbyte]
      simp only [List.append_assoc]

theorem zero_notMem_addressDigits (data : List UInt8) : 0 ∉ addressDigits data := by
  have hdigit : ∀ nibble : UInt8, 0 ∉ digitOf nibble := by
    intro nibble hmem
    unfold digitOf at hmem
    split at hmem
    · rename_i hle
      have hnat : nibble.toNat ≤ 9 := UInt8.le_iff_toNat_le.mp hle
      have hzero := congrArg UInt8.toNat (List.mem_singleton.mp hmem)
      rw [UInt8.toNat_add] at hzero
      simp at hzero
      omega
    · cases hmem
  intro h
  rcases List.mem_flatMap.mp h with ⟨ch, -, hch⟩
  exact (List.mem_append.mp hch).elim (hdigit _) (hdigit _)

/-- What `decodeAddress` writes for an address with the prefix. -/
theorem decodeAddress_eq {n : Nat} (hn : 1 ≤ n) {old : List UInt8} (hold : old.length = n)
    (data : List UInt8) :
    decodeAddress (some old) n (some ( addr_prefix :: data)) =
      some (some ((addressDigits data).take (n - 1) ++
        0 :: old.drop (min (addressDigits data).length (n - 1) + 1)),
        min (addressDigits data).length (n - 1)) := by
  have hloop := addressLoop_filled hold [] data
  have hlt : min (addressDigits data).length (n - 1) < old.length := by omega
  -- The 0 is written behind the digits, over what was in the buffer.
  have hput := put_append ((addressDigits data).take (n - 1))
    old[min (addressDigits data).length (n - 1)]
    (old.drop (min (addressDigits data).length (n - 1) + 1)) 0
  rw [List.length_take, Nat.min_comm (n - 1), ← List.drop_eq_getElem_cons hlt] at hput
  simp only [filled, List.take_nil, List.length_nil, Nat.zero_min, List.drop_zero,
    List.nil_append] at hloop
  rw [decodeAddress]
  simp only [ne_eq, not_true_eq_false, if_false, hloop, Option.bind_some, hput, Option.map_some]

/-! ## Both functions -/

/-- The text of an NI request is that of the bytes that fit, which are read back
    from it, and stays in its buffer. -/
theorem hexcode_decodes {n : Nat} (hn : 1 ≤ n) (data : List UInt8) :
    ∃ hexstring, hexcode (List.replicate n 0) n data =
        some (hexstring, min data.length ((n - 1) / 2)) ∧
      hexstring.length = n ∧
      string 0 hexstring = some (Hex.text (data.take ((n - 1) / 2))) ∧
      Hex.ofText (Hex.text (data.take ((n - 1) / 2))) = some (data.take ((n - 1) / 2)) := by
  refine ⟨_, hexcode_eq hn data, ?_, ?_, Hex.ofText_text _⟩
  · rw [List.length_append, Hex.length_text, List.length_replicate, List.length_take]
    omega
  · have hzero : n - 2 * min data.length ((n - 1) / 2) =
        (n - 2 * min data.length ((n - 1) / 2) - 1) + 1 := by omega
    rw [hzero, List.replicate_succ]
    exact string_append_cons (Hex.zero_notMem_text _) _

/-- The address has the first digits, as many as fit, and their number is
    returned. -/
theorem decodeAddress_fits {n : Nat} (hn : 1 ≤ n) {old : List UInt8} (hold : old.length = n)
    (data : List UInt8) :
    ∃ addr_string, decodeAddress (some old) n (some ( addr_prefix :: data)) =
        some (some addr_string, ((addressDigits data).take (n - 1)).length) ∧
      addr_string.length = n ∧
      string 0 addr_string = some ((addressDigits data).take (n - 1)) := by
  have hcount : ((addressDigits data).take (n - 1)).length =
      min (addressDigits data).length (n - 1) := by rw [List.length_take, Nat.min_comm]
  have hzero : 0 ∉ (addressDigits data).take (n - 1) := fun h =>
    zero_notMem_addressDigits data (List.mem_of_mem_take h)
  refine ⟨_, hcount ▸ decodeAddress_eq hn hold data, ?_, string_append_cons hzero _⟩
  rw [List.length_append, List.length_cons, List.length_drop, hcount]
  omega

/-- For every input and size, both stay in their buffers and lose nothing that
    fits. A write outside of a buffer would have no result. The number that is
    returned is how much of the input is in the buffer, not how much there was. -/
theorem niText_fits {n : Nat} (hn : 1 ≤ n) (data : List UInt8) {old : List UInt8}
    (hold : old.length = n) :
    (∃ hexstring, hexcode (List.replicate n 0) n data =
        some (hexstring, min data.length ((n - 1) / 2)) ∧
      hexstring.length = n ∧
      string 0 hexstring = some (Hex.text (data.take ((n - 1) / 2))) ∧
      Hex.ofText (Hex.text (data.take ((n - 1) / 2))) = some (data.take ((n - 1) / 2))) ∧
    ∃ addr_string, decodeAddress (some old) n (some ( addr_prefix :: data)) =
        some (some addr_string, ((addressDigits data).take (n - 1)).length) ∧
      addr_string.length = n ∧
      string 0 addr_string = some ((addressDigits data).take (n - 1)) :=
  ⟨hexcode_decodes hn data, decodeAddress_fits hn hold data⟩

/-- In four bytes there is room for one byte of data, or for the digits 2, 1 and 3. -/
theorem niText_fits_four :
    (∃ hexstring, hexcode (List.replicate 4 0) (4 : Nat) [0x12, 0xF3, 0x4A] =
        some (hexstring, min 3 ((4 - 1) / 2)) ∧
      hexstring.length = 4 ∧
      string 0 hexstring = some (Hex.text ([0x12, 0xF3, 0x4A].take ((4 - 1) / 2))) ∧
      Hex.ofText (Hex.text ([0x12, 0xF3, 0x4A].take ((4 - 1) / 2))) =
        some ([0x12, 0xF3, 0x4A].take ((4 - 1) / 2))) ∧
    ∃ addr_string, decodeAddress (some (List.replicate 4 7)) (4 : Nat)
        (some ( addr_prefix :: [0x12, 0xF3, 0x4A])) =
        some (some addr_string, ((addressDigits [0x12, 0xF3, 0x4A]).take (4 - 1)).length) ∧
      addr_string.length = 4 ∧
      string 0 addr_string = some ((addressDigits [0x12, 0xF3, 0x4A]).take (4 - 1)) :=
  niText_fits (by decide) [0x12, 0xF3, 0x4A] rfl

end NiText

end Victara
