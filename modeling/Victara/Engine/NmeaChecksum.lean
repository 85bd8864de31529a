import Victara.Engine.NmeaText
import Victara.Lib.Buffer
import Victara.Lib.Hex

/-!
# The Checksum of a Sentence

`loc_eng_nmea_put_checksum` and `loc_eng_nmea_send` of `loc_eng_nmea.cpp`, byte
by byte: the first skips the `$`, adds up the bytes of the body and appends the
sum. What it returns is to be the length of the sentence, and that is what the
framework gets from the second. But the `$` has not been counted, so the
framework gets a sentence without its last character, the line feed.

The loop goes up to the end of the string, and finds the sum of the body and its
length. What is appended is known then, byte by byte, and so is the number that
is returned. The sentences of `Nmea` are made by the same function on texts, and
`putChecksum_bytes` says that their bytes are these.

## Main definitions

* `checksumLoop`, `locEngNmeaPutChecksum`, `locEngNmeaSend`: The functions.
* `checksumText`: `"*%02X\r\n"`.
* `snprintfInt`: `snprintf` with a size that is computed as an int.
* `NmeaReport`: A call of `nmea_cb`.
* `withChecksum`: The sentence that is to be in the buffer.
* `Summed`: It is there, and its length is returned and passed on.
* `noGpsBody`: `"$GPGSV,1,1,0,"` without the `$`.

## Theorems

* `checksumLoop_body`: What the loop finds.
* `locEngNmeaPutChecksum_eq`: What is in the buffer, and what is returned.
* `putChecksum_length`: The length is wrong by one, whatever the sentence.
* `putChecksum_bytes`: The sentences of `Nmea` have the same bytes.
-/

namespace Victara

namespace NmeaSend

open Buffer

/-- The loop: the sum of the bytes up to the 0, and how many they are. There is
    no result if there is no 0. -/
def checksumLoop (checksum : UInt8) (length : Nat) : List UInt8 → Option (UInt8 × Nat)
  | [] => none
  | c :: pNmea =>
      if c ≠ 0 then checksumLoop (checksum ^^^ c) (length + 1) pNmea else some (checksum, length)

/-- `"*%02X\r\n"`. -/
def checksumText (checksum : UInt8) : List UInt8 := 42 :: (Hex.byteText checksum ++ [13, 10])

/-- `snprintf` with a size that is computed as an int. A negative one is a large
    `size_t`. -/
def snprintfInt (size : Int) (text : List UInt8) : List UInt8 :=
  if size < 0 then text ++ [0] else snprintf 0 size.toNat text

/-- `loc_eng_nmea_put_checksum`: the buffer, and what is returned. -/
def locEngNmeaPutChecksum (pNmea : List UInt8) (maxSize : Int) : Option (List UInt8 × Int) :=
  (checksumLoop 0 0 (pNmea.drop 1)).bind fun sum =>
    let text := checksumText sum.1
    (putAll pNmea (1 + sum.2) (snprintfInt (maxSize - sum.2 - 1) text)).map fun pNmea =>
      (pNmea, sum.2 + text.length)

/-- A call of `nmea_cb`. -/
structure NmeaReport where
  now : Int
  pNmea : List UInt8
  length : Int
  deriving DecidableEq, Repr

/-- `loc_eng_nmea_send`, where `nmea_cb` may be NULL. -/
def locEngNmeaSend (nmea_cb : Bool) (now : Int) (pNmea : List UInt8) (length : Int) :
    Option NmeaReport :=
  if nmea_cb then some ⟨now, pNmea, length⟩ else none

/-- A sentence with what is behind its body. -/
def withChecksum (body : List UInt8) : List UInt8 :=
  36 :: (body ++ checksumText (body.foldl (· ^^^ ·) 0))

/-- The buffer has the sentence, within `maxSize`, and its length is returned
    and goes to the framework. The length is that of the whole sentence, from
    the `$` to the line feed, which is what the comment of the source says. -/
def Summed (body : List UInt8) (maxSize : Nat) (out : Option (List UInt8 × Int)) : Prop :=
  ∃ pNmea length, out = some (pNmea, length) ∧
    string 0 pNmea = some (withChecksum body) ∧ (withChecksum body).length < maxSize ∧
    length = (withChecksum body).length ∧
    ∀ now, locEngNmeaSend true now pNmea length = some ⟨now, pNmea, (withChecksum body).length⟩

theorem length_checksumText (checksum : UInt8) : (checksumText checksum).length = 5 := rfl

theorem length_withChecksum (body : List UInt8) :
    (withChecksum body).length = 1 + body.length + 5 := by
  rw [withChecksum, List.length_cons, List.length_append, length_checksumText]
  omega

theorem zero_notMem_withChecksum {body : List UInt8} (h : 0 ∉ body) : 0 ∉ withChecksum body := by
  have hhex := Hex.zero_notMem_byteText (body.foldl (· ^^^ ·) 0)
  simp [withChecksum, checksumText, h, hhex]

/-- The loop adds up the body and counts its bytes. -/
theorem checksumLoop_body {body : List UInt8} (h : 0 ∉ body) (checksum : UInt8) (length : Nat)
    (rest : List UInt8) :
    checksumLoop checksum length (body ++ 0 :: rest) =
      some (body.foldl (· ^^^ ·) checksum, length + body.length) := by
  induction body generalizing checksum length with
  | nil => rfl
  | cons c body ih =>
      have hc : c ≠ 0 := fun hzero => h (hzero ▸ List.mem_cons_self)
      have hbody : 0 ∉ body := fun hmem => h (List.mem_cons_of_mem c hmem)
      rw [List.cons_append, checksumLoop, if_pos hc, ih hbody, List.foldl_cons,
        List.length_cons, Nat.add_assoc, Nat.add_comm 1]

/-- What is put into a buffer with room for it, and what is returned. -/
theorem locEngNmeaPutChecksum_eq {body rest : List UInt8} {maxSize : Nat} (hbody : 0 ∉ body)
    (hroom : body.length + 7 ≤ maxSize) (hsize : maxSize ≤ (36 :: (body ++ 0 :: rest)).length) :
    ∃ pNmea, locEngNmeaPutChecksum (36 :: (body ++ 0 :: rest)) maxSize =
        some (pNmea, (body.length : Int) + 5) ∧ string 0 pNmea = some (withChecksum body) := by
  have hsum := checksumLoop_body hbody 0 0 rest
  rw [Nat.zero_add] at hsum
  have hnotneg : ¬ (maxSize : Int) - body.length - 1 < 0 := by omega
  have hfits : (checksumText (body.foldl (· ^^^ ·) 0)).length <
      ((maxSize : Int) - body.length - 1).toNat := by
    rw [length_checksumText]
    omega
  -- The 0 and the five bytes behind it are written over.
  have hold : (0 :: rest.take 5).length = (checksumText (body.foldl (· ^^^ ·) 0) ++ [0]).length := by
    simp only [List.length_cons, List.length_append] at hsize
    rw [List.length_append, length_checksumText, List.length_cons, List.length_take,
      List.length_singleton]
    omega
  have hput := putAll_append (36 :: body) hold (rest.drop 5)
  rw [List.cons_append, List.cons_append, List.take_append_drop, List.length_cons,
    Nat.add_comm body.length] at hput
  refine ⟨_, ?_, string_append_cons (zero_notMem_withChecksum hbody) (rest.drop 5)⟩
  rw [locEngNmeaPutChecksum, List.drop_one, List.tail_cons, hsum]
  simp only [Option.bind_some, snprintfInt, if_neg hnotneg, snprintf_of_fits 0 hfits, hput,
    Option.map_some, length_checksumText]
  simp [withChecksum]

/-- Whatever the sentence: it is in the buffer, but what is returned is its
    length without the `$`, so that is what the framework gets. There is no
    sentence for which the property holds. -/
theorem putChecksum_length {body rest : List UInt8} {maxSize : Nat} (hbody : 0 ∉ body)
    (hroom : body.length + 7 ≤ maxSize) (hsize : maxSize ≤ (36 :: (body ++ 0 :: rest)).length) :
    (∃ pNmea, locEngNmeaPutChecksum (36 :: (body ++ 0 :: rest)) maxSize =
        some (pNmea, ((withChecksum body).length : Int) - 1) ∧ string 0 pNmea = some (withChecksum body)) ∧
      ¬ Summed body maxSize (locEngNmeaPutChecksum (36 :: (body ++ 0 :: rest)) maxSize) := by
  have hlength := length_withChecksum body
  rcases locEngNmeaPutChecksum_eq hbody hroom hsize with ⟨pNmea, hput, hstring⟩
  have hless : ((withChecksum body).length : Int) - 1 = body.length + 5 := by omega
  refine ⟨⟨pNmea, hput.trans (by rw [hless]), hstring⟩, ?_⟩
  -- What is returned would have to be one more.
  rintro ⟨pNmea', length, hput', -, -, htotal, -⟩
  rw [hput, Option.some.injEq, Prod.mk.injEq] at hput'
  omega

/-! ## The sentence without satellites -/

/-- `"$GPGSV,1,1,0,"` without the `$`. -/
def noGpsBody : List UInt8 := [71, 80, 71, 83, 86, 44, 49, 44, 49, 44, 48, 44]

theorem putChecksum_length_noGps :
    (∃ pNmea, locEngNmeaPutChecksum (36 :: (noGpsBody ++ 0 :: List.replicate 186 0)) (200 : Nat) =
        some (pNmea, ((withChecksum noGpsBody).length : Int) - 1) ∧
      string 0 pNmea = some (withChecksum noGpsBody)) ∧
      ¬ Summed noGpsBody 200
        (locEngNmeaPutChecksum (36 :: (noGpsBody ++ 0 :: List.replicate 186 0)) (200 : Nat)) :=
  putChecksum_length (by decide) (by decide) (by decide +kernel)

/-- It has 18 characters, and 17 is returned. -/
theorem noGps_summed_not :
    ¬ Summed noGpsBody 200
      (locEngNmeaPutChecksum (36 :: (noGpsBody ++ 0 :: List.replicate 186 0)) (200 : Nat)) := by
  rintro ⟨pNmea, length, hput, -, -, htotal, -⟩
  have hreturned : (locEngNmeaPutChecksum (36 :: (noGpsBody ++ 0 :: List.replicate 186 0))
      (200 : Nat)).map (·.2) = some 17 := by decide +kernel
  have htwo : (withChecksum noGpsBody).length = 18 := by decide +kernel
  rw [hput, Option.map_some, Option.some.injEq] at hreturned
  simp only at hreturned
  omega

/-! ## The sentences as texts -/

def byteOf (c : Char) : UInt8 := UInt8.ofNat c.toNat

theorem checksumDigits_bytes (checksum : UInt8) :
    (((Nat.toDigits 16 checksum.toNat).map Char.toUpper).leftpad 2 '0').map byteOf =
      Hex.byteText checksum := by
  -- There are 256 sums.
  have hall : ∀ n < 256, (((Nat.toDigits 16 (UInt8.ofNat n).toNat).map Char.toUpper).leftpad 2
      '0').map byteOf = Hex.byteText (UInt8.ofNat n) := by decide +kernel
  have hbyte := hall checksum.toNat checksum.toNat_lt
  rwa [UInt8.ofNat_toNat] at hbyte

theorem length_checksumDigits (checksum : UInt8) :
    (((Nat.toDigits 16 checksum.toNat).map Char.toUpper).leftpad 2 '0').length = 2 := by
  have hdigits := congrArg List.length (checksumDigits_bytes checksum)
  rwa [List.length_map, Hex.length_byteText] at hdigits

/-- A sentence that leaves room for its checksum has the bytes that are put into
    the buffer. -/
theorem putChecksum_bytes {body : List Char}
    (h : 1 + body.length + 5 < Nmea.NMEA_SENTENCE_MAX_LENGTH) :
    (Nmea.putChecksum ('$' :: body)).map byteOf = withChecksum (body.map byteOf) := by
  have hsum : ∀ checksum : UInt8,
      body.foldl (fun sum c => sum ^^^ UInt8.ofNat c.toNat) checksum =
        (body.map byteOf).foldl (· ^^^ ·) checksum := fun checksum => by
    rw [List.foldl_map]
    rfl
  have hdigits := checksumDigits_bytes ((body.map byteOf).foldl (· ^^^ ·) 0)
  simp only [Nmea.putChecksum, Printf.appendCut, List.drop_one, List.tail_cons, hsum]
  rw [List.take_of_length_le, List.map_append, List.map_append, List.map_append, hdigits]
  · rfl
  · have hends : "*".toList.length = 1 ∧ "\r\n".toList.length = 2 := by decide
    have hsize : Nmea.NMEA_SENTENCE_MAX_LENGTH = 200 := rfl
    simp only [List.length_append, List.length_cons, length_checksumDigits, hends.1, hends.2]
    omega

end NmeaSend

end Victara
