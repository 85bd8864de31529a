import Victara.Engine.NmeaGsv
import Victara.Lib.Decimal

/-!
# The Sentences of a Position

All of `loc_eng_nmea_generate_pos`, with exact rational numbers for the floats:
behind GPGSA there are GPVTG, GPRMC and GPGGA. Each is put together in pieces,
and a piece that does not fit ends the function. Only the last piece of a
sentence is not checked, and may be cut.

A piece is written with fields, each with a comma behind it. What is sent is
read back by its fields too, so a sentence is known by the first one.

A sentence is a draft: the text that has been written so far, or that a piece
did not fit. If a sentence is sent, then every piece but the last has fitted, so
it begins with the fields that it was made of, and its name says which these
are. That it is sent at all is a question of length, and answered for numbers of
a usual size: each field has a bound, and the bounds add up to less than the
buffer.

## Main definitions

* `GpsLocation`, `GpsLocationExtended`, `PosInput`: What the function gets.
* `Tm`: `tm`, as far as it is printed.
* `trunc`: Towards 0.
* `ratFloat`: A conversion to int out of range gives the nearest one, as on ARM.
* `fmod`: The sign is that of `x`.
* `twoDigits`: `"%2.2d"`.
* `latLongFields`, `magTrack`, `Draft`: The parts of the sentences.
* `Draft.send`: The sentence, if it fits.
* `sendAll`: What is sent up to the first one that does not fit, and whether all
  do.
* `modeChar`: `N` means no fix, `A` autonomous and `D` differential.
* `innerMagTrack`: The `magTrack` of the inner block, which ends before it is
  printed.
* `gpvtg`, `gprmc`, `gpgga`: The sentences behind GPGSA.
* `hdopField`: The hdop of the position, or else the one that is cached.
* `posReport`: The position, with the sentences behind GPGSA.
* `locEngNmeaGeneratePos`: The function.
* `field`: A field of a sentence that was sent.
* `setBits`: The positions of the bits of a mask, from the lowest.
* `named`: The sentences, with their fields.
* `UsualSize`: No number is larger than a float, and the time is one.

## Theorems

* `Draft.fields_prefix`: A sentence has the fields it was made of.
* `generatePos_gpgsaFields`: So has GPGSA, which is always sent.
* `sent_cases`, `sent_fields`: What a sentence has by its name.
* `abs_fmod_lt`: The minutes are less than 60.
* `length_line_latLongFields`: The degrees and minutes take 34 bytes at most,
  with their commas.
* `Draft.send_of_fits`: A sentence that fits is sent.
* `generatePos_four`: With numbers of usual size all four are sent.
-/

namespace Victara

namespace Nmea

open Printf Decimal

/-- `gpsLocation`, of whose flags those are here that are read. -/
structure GpsLocation where
  HAS_LAT_LONG : Bool
  HAS_ALTITUDE : Bool
  HAS_SPEED : Bool
  HAS_BEARING : Bool
  latitude : ℚ
  longitude : ℚ
  altitude : ℚ
  speed : ℚ
  bearing : ℚ

structure GpsLocationExtended where
  HAS_DOP : Bool
  HAS_ALTITUDE_MEAN_SEA_LEVEL : Bool
  HAS_MAG_DEV : Bool
  altitudeMeanSeaLevel : ℚ
  dop : Dop ℚ
  magneticDeviation : ℚ

/-- `tm`, as far as it is printed. -/
structure Tm where
  tm_year : Int
  tm_mon : Int
  tm_mday : Int
  tm_hour : Int
  tm_min : Int
  tm_sec : Int

/-- What the function gets, with what `gmtime` says of the timestamp and whether
    the position mode is `LOC_POSITION_MODE_STANDALONE`. -/
structure PosInput where
  location : GpsLocation
  locationExtended : GpsLocationExtended
  generate_nmea : Bool
  pTm : Tm
  standalone : Bool

/-- Towards 0. -/
def trunc (x : ℚ) : Int := if x < 0 then ⌈x⌉ else ⌊x⌋

/-- A conversion to int out of range gives the nearest one, as on ARM. -/
def ratFloat : NmeaFloat ℚ where
  zero := 0
  pos x := 0 < x
  round x := max (-2 ^ 31) (min (2 ^ 31 - 1) (trunc (1 / 2 + x)))
  round_int x := by omega
  fmt := fixed 0 1

/-- The sign is that of `x`. -/
def fmod (x y : ℚ) : ℚ := x - y * trunc (x / y)

def toUint8 (x : Int) : Nat := (x % 256).toNat

/-- `"%2.2d"`. -/
def twoDigits (x : Int) : List Char :=
  if x < 0 then '-' :: (Nat.toDigits 10 x.natAbs).leftpad 2 '0'
  else (Nat.toDigits 10 x.natAbs).leftpad 2 '0'

/-- A sentence: the fields of each piece, and the last piece. -/
structure Draft where
  groups : List (List (List Char))
  last : List Char

def Draft.fields (d : Draft) : List (List Char) := d.groups.flatten

/-- The sentence, if it fits. -/
def Draft.send (d : Draft) : Option Sentence :=
  (appendAll NMEA_SENTENCE_MAX_LENGTH [] (d.groups.map (line ','))).map fun sentence =>
    putChecksum (appendCut NMEA_SENTENCE_MAX_LENGTH sentence d.last)

/-- What is sent up to the first one that does not fit, and whether all do. -/
def sendAll : List Draft → List Sentence × Bool
  | [] => ([], true)
  | d :: ds =>
      match d.send with
      | none => ([], false)
      | some sentence => (sentence :: (sendAll ds).1, (sendAll ds).2)

/-! ## The parts -/

def utcTime (pTm : Tm) : List Char :=
  zeroPad 2 pTm.tm_hour ++ zeroPad 2 pTm.tm_min ++ zeroPad 2 pTm.tm_sec

def utcDate (pTm : Tm) : List Char :=
  twoDigits pTm.tm_mday ++ twoDigits (pTm.tm_mon + 1) ++ twoDigits (pTm.tm_year.tmod 100)

/-- `N` means no fix, `A` autonomous and `D` differential. -/
def modeChar (pos : PosInput) : Char :=
  if !pos.location.HAS_LAT_LONG then 'N' else if pos.standalone then 'A' else 'D'

def gpsQuality (pos : PosInput) : Char :=
  if !pos.location.HAS_LAT_LONG then '0' else if pos.standalone then '1' else '2'

/-- The degrees and minutes of GPRMC and GPGGA. -/
def latLongFields (location : GpsLocation) : List (List Char) :=
  if location.HAS_LAT_LONG then
    let latHemisphere := if 0 < location.latitude then 'N' else 'S'
    let latitude := if 0 < location.latitude then location.latitude else location.latitude * -1
    let lonHemisphere := if location.longitude < 0 then 'W' else 'E'
    let longitude := if location.longitude < 0 then location.longitude * -1 else location.longitude
    let latMinutes := fmod (latitude * 60) 60
    let lonMinutes := fmod (longitude * 60) 60
    [zeroPad 2 (toUint8 ⌊latitude⌋) ++ fixed 9 6 latMinutes, [latHemisphere],
      zeroPad 3 (toUint8 ⌊longitude⌋) ++ fixed 9 6 lonMinutes, [lonHemisphere]]
  else [[], [], [], []]

/-- The `magTrack` of the inner block, which ends before it is printed. -/
def innerMagTrack (pos : PosInput) : ℚ :=
  let magTrack := pos.location.bearing - pos.locationExtended.magneticDeviation
  if magTrack < 0 then magTrack + 360
  else if 360 < magTrack then magTrack - 360
  else magTrack

/-- The `magTrack` that is printed. The inner block declares one of its own. -/
def magTrack (pos : PosInput) : ℚ := pos.location.bearing

def speedKnots (pos : PosInput) : ℚ := pos.location.speed * (3600 / 1852)

def speedKmPerHour (pos : PosInput) : ℚ := pos.location.speed * (36 / 10)

def gpvtg (pos : PosInput) : Draft where
  groups := [
    if pos.location.HAS_BEARING then
      ["$GPVTG".toList, fixed 0 1 pos.location.bearing, "T".toList, fixed 0 1 (magTrack pos),
        "M".toList]
    else ["$GPVTG".toList, [], "T".toList, [], "M".toList],
    if pos.location.HAS_SPEED then
      [fixed 0 1 (speedKnots pos), "N".toList, fixed 0 1 (speedKmPerHour pos), "K".toList]
    else [[], "N".toList, [], "K".toList]]
  last := [modeChar pos]

def gprmc (pos : PosInput) : Draft where
  groups := [
    ["$GPRMC".toList, utcTime pos.pTm, "A".toList],
    latLongFields pos.location,
    [if pos.location.HAS_SPEED then fixed 0 1 (speedKnots pos) else []],
    [if pos.location.HAS_BEARING then fixed 0 1 pos.location.bearing else []],
    [utcDate pos.pTm],
    if pos.locationExtended.HAS_MAG_DEV then
      let magneticVariation := pos.locationExtended.magneticDeviation
      if magneticVariation < 0 then [fixed 0 1 (magneticVariation * -1), "W".toList]
      else [fixed 0 1 magneticVariation, "E".toList]
    else [[], []]]
  last := [modeChar pos]

/-- The hdop of the position, or else the one that is cached. -/
def hdopField (cached : Dop ℚ) (pos : PosInput) : List Char :=
  if pos.locationExtended.HAS_DOP then fixed 0 1 pos.locationExtended.dop.hdop
  else if 0 < cached.pdop ∧ 0 < cached.hdop ∧ 0 < cached.vdop then fixed 0 1 cached.hdop
  else []

def gpgga (cache : NmeaCache ℚ) (pos : PosInput) : Draft where
  groups := [
    ["$GPGGA".toList, utcTime pos.pTm],
    latLongFields pos.location,
    [[gpsQuality pos], zeroPad 2 (svUsed cache.sv_used_mask).length, hdopField cache.dop pos],
    if pos.locationExtended.HAS_ALTITUDE_MEAN_SEA_LEVEL then
      [fixed 0 1 pos.locationExtended.altitudeMeanSeaLevel, "M".toList]
    else [[], []]]
  last :=
    if pos.location.HAS_ALTITUDE && pos.locationExtended.HAS_ALTITUDE_MEAN_SEA_LEVEL then
      fixed 0 1 (pos.location.altitude - pos.locationExtended.altitudeMeanSeaLevel) ++ ",M,,".toList
    else ",,,".toList

/-- The position, with the sentences behind GPGSA. -/
def posReport (cache : NmeaCache ℚ) (pos : PosInput) : PosReport ℚ where
  generate_nmea := pos.generate_nmea
  dop := if pos.locationExtended.HAS_DOP then some pos.locationExtended.dop else none
  others := (sendAll [gpvtg pos, gprmc pos, gpgga cache pos]).1
  othersFit := (sendAll [gpvtg pos, gprmc pos, gpgga cache pos]).2

/-- `loc_eng_nmea_generate_pos`: the cache, and what is sent. -/
def locEngNmeaGeneratePos (cache : NmeaCache ℚ) (pos : PosInput) :
    NmeaCache ℚ × List Sentence :=
  generatePos ratFloat cache (posReport cache pos)

/-! ## Reading a sentence -/

/-- A field of a sentence, counted from 0. -/
def field (sentence : Sentence) (i : Nat) : List Char := ((sentence.splitOn ',')[i]?).getD []

theorem field_of_starts {fields : List (List Char)} {sentence : Sentence}
    (h : fields <+: sentence.splitOn ',') {i : Nat} (hi : i < fields.length) :
    field sentence i = fields[i] := by
  rcases h with ⟨rest, hrest⟩
  rw [field, ← hrest, List.getElem?_append_left hi, List.getElem?_eq_getElem hi, Option.getD_some]

/-- A sentence has the fields that it was made of, and some more at its end. -/
theorem Draft.fields_prefix {d : Draft} (hcomma : ∀ f ∈ d.fields, ',' ∉ f) {sentence : Sentence}
    (h : d.send = some sentence) : d.fields <+: sentence.splitOn ',' := by
  rcases Option.map_eq_some_iff.mp h with ⟨buf, hbuf, rfl⟩
  rcases appendAll_eq_some (by decide) hbuf with ⟨rfl, hroom⟩
  rw [List.nil_append, flatten_map_line] at hroom ⊢
  -- Neither the last piece nor the checksum changes what is there.
  rcases appendCut_of_fits hroom d.last with ⟨cut, hcut⟩
  rcases putChecksum_append hroom cut with ⟨rest, hrest⟩
  rw [hcut, hrest, ← Draft.fields, splitOn_line hcomma]
  exact List.prefix_append _ _

theorem mem_sendAll {ds : List Draft} {sentence : Sentence} (h : sentence ∈ (sendAll ds).1) :
    ∃ d ∈ ds, d.send = some sentence := by
  induction ds with
  | nil => cases h
  | cons d ds ih =>
      rw [sendAll] at h
      cases hsend : d.send with
      | none =>
          rw [hsend] at h
          cases h
      | some first =>
          rw [hsend] at h
          rcases List.mem_cons.mp h with rfl | hmore
          · exact ⟨d, List.mem_cons_self, hsend⟩
          · rcases ih hmore with ⟨d', hd', hsend'⟩
            exact ⟨d', List.mem_cons_of_mem d hd', hsend'⟩

/-- The positions of the bits of a mask, from the lowest. -/
def setBits (mask : BitVec 32) : List Nat := (List.range 32).filter mask.getLsbD

theorem svUsed_eq (mask : BitVec 32) : svUsed mask = (setBits mask).map (1 + ·) :=
  svUsedLoop_eq (fun j hj => BitVec.getLsbD_of_ge mask j hj) (by decide)

/-! ## What the sentences have -/

theorem comma_notMem_fixed (w d : Nat) (x : ℚ) : ',' ∉ fixed w d x := fun h =>
  absurd (mem_fixed h) (by decide)

theorem comma_notMem_twoDigits (x : Int) : ',' ∉ twoDigits x := by
  have hdigits : ',' ∉ (Nat.toDigits 10 x.natAbs).leftpad 2 '0' := fun h =>
    absurd (isDigit_of_mem_leftpad h) (by decide)
  unfold twoDigits
  split
  · exact fun h => (List.mem_cons.mp h).elim (by decide) hdigits
  · exact hdigits

theorem comma_notMem_utcTime (pTm : Tm) : ',' ∉ utcTime pTm := by
  simp [utcTime, comma_notMem_zeroPad]

theorem comma_notMem_utcDate (pTm : Tm) : ',' ∉ utcDate pTm := by
  simp [utcDate, comma_notMem_twoDigits]

theorem comma_notMem_latLongFields (location : GpsLocation) :
    ∀ f ∈ latLongFields location, ',' ∉ f := by
  unfold latLongFields
  split
  · have hlat : ',' ≠ if 0 < location.latitude then 'N' else 'S' := by split <;> decide
    have hlon : ',' ≠ if location.longitude < 0 then 'W' else 'E' := by split <;> decide
    simp [comma_notMem_zeroPad, comma_notMem_fixed, hlat, hlon]
  · simp

theorem comma_notMem_gpvtg (pos : PosInput) : ∀ f ∈ (gpvtg pos).fields, ',' ∉ f := by
  unfold Draft.fields gpvtg
  cases pos.location.HAS_BEARING <;> cases pos.location.HAS_SPEED <;>
    simp [comma_notMem_fixed]

theorem comma_notMem_gprmc (pos : PosInput) : ∀ f ∈ (gprmc pos).fields, ',' ∉ f := by
  have hlatLong := comma_notMem_latLongFields pos.location
  have htime := comma_notMem_utcTime pos.pTm
  have hdate := comma_notMem_utcDate pos.pTm
  -- What is left out is an empty field.
  have hspeed : ',' ∉ if pos.location.HAS_SPEED then fixed 0 1 (speedKnots pos) else [] := by
    split <;> simp [comma_notMem_fixed]
  have hbearing : ',' ∉ if pos.location.HAS_BEARING then fixed 0 1 pos.location.bearing else [] := by
    split <;> simp [comma_notMem_fixed]
  have hmag : ∀ f ∈ (if pos.locationExtended.HAS_MAG_DEV then
      if pos.locationExtended.magneticDeviation < 0 then
        [fixed 0 1 (pos.locationExtended.magneticDeviation * -1), "W".toList]
      else [fixed 0 1 pos.locationExtended.magneticDeviation, "E".toList]
      else [[], []]), ',' ∉ f := by
    split
    · split <;> simp [comma_notMem_fixed]
    · simp
  intro f hf
  simp only [Draft.fields, gprmc, List.flatten_cons, List.flatten_nil, List.append_nil,
    List.mem_append, List.mem_cons, List.not_mem_nil, or_false] at hf
  -- In the order of the sentence.
  rcases hf with (rfl | rfl | rfl) | hf | rfl | rfl | rfl | hf
  · decide
  · exact htime
  · decide
  · exact hlatLong f hf
  · exact hspeed
  · exact hbearing
  · exact hdate
  · exact hmag f hf

theorem comma_notMem_gpgga (cache : NmeaCache ℚ) (pos : PosInput) :
    ∀ f ∈ (gpgga cache pos).fields, ',' ∉ f := by
  have hlatLong := comma_notMem_latLongFields pos.location
  have htime := comma_notMem_utcTime pos.pTm
  have hquality : ',' ∉ [gpsQuality pos] := by
    rw [List.mem_singleton, gpsQuality]
    split
    · decide
    · split <;> decide
  have hhdop : ',' ∉ hdopField cache.dop pos := by
    unfold hdopField
    split
    · exact comma_notMem_fixed _ _ _
    · split <;> simp [comma_notMem_fixed]
  have halt : ∀ f ∈ (if pos.locationExtended.HAS_ALTITUDE_MEAN_SEA_LEVEL then
      [fixed 0 1 pos.locationExtended.altitudeMeanSeaLevel, "M".toList] else [[], []]),
      ',' ∉ f := by
    split <;> simp [comma_notMem_fixed]
  intro f hf
  simp only [Draft.fields, gpgga, List.flatten_cons, List.flatten_nil, List.append_nil,
    List.mem_append, List.mem_cons, List.not_mem_nil, or_false] at hf
  -- In the order of the sentence.
  rcases hf with (rfl | rfl) | hf | (rfl | rfl | rfl) | hf
  · decide
  · exact htime
  · exact hlatLong f hf
  · exact hquality
  · exact comma_notMem_zeroPad _ _
  · exact hhdop
  · exact halt f hf

/-! ## Sentences by their names -/

variable {cache : NmeaCache ℚ} {pos : PosInput}

/-- GPGSA comes first, with its fields. -/
theorem generatePos_gpgsaFields (cache : NmeaCache ℚ) (h : pos.generate_nmea = true) :
    ∃ gpgsa, (locEngNmeaGeneratePos cache pos).2 =
        gpgsa :: (sendAll [gpvtg pos, gprmc pos, gpgga cache pos]).1 ∧
      gpgsaFields (svUsed cache.sv_used_mask) <+: gpgsa.splitOn ',' :=
  (generatePos_fields ratFloat cache h).2

theorem head_gpvtg (pos : PosInput) : (gpvtg pos).fields.head? = some "$GPVTG".toList := by
  unfold Draft.fields gpvtg
  cases pos.location.HAS_BEARING <;> rfl

theorem name_of_starts {fields : List (List Char)} {name : List Char} {sentence : Sentence}
    (hname : fields.head? = some name) (h : fields <+: sentence.splitOn ',') :
    field sentence 0 = name := by
  rcases h with ⟨rest, hrest⟩
  cases fields with
  | nil => cases hname
  | cons f fields =>
      cases hname
      rw [field, ← hrest]
      rfl

/-- A sentence is one of the four, and has a name and fields. -/
theorem sent_cases (h : pos.generate_nmea = true) {sentence : Sentence}
    (hsent : sentence ∈ (locEngNmeaGeneratePos cache pos).2) :
    (field sentence 0 = "$GPGSA".toList ∧
        gpgsaFields (svUsed cache.sv_used_mask) <+: sentence.splitOn ',') ∨
      (field sentence 0 = "$GPVTG".toList ∧ (gpvtg pos).fields <+: sentence.splitOn ',') ∨
      (field sentence 0 = "$GPRMC".toList ∧ (gprmc pos).fields <+: sentence.splitOn ',') ∨
      (field sentence 0 = "$GPGGA".toList ∧ (gpgga cache pos).fields <+: sentence.splitOn ',') := by
  rcases generatePos_gpgsaFields cache h with ⟨gpgsa, hall, hgpgsa⟩
  rw [hall] at hsent
  -- It is GPGSA, or one of the drafts.
  rcases List.mem_cons.mp hsent with rfl | hothers
  · exact Or.inl ⟨name_of_starts rfl hgpgsa, hgpgsa⟩
  · rcases mem_sendAll hothers with ⟨d, hd, hsend⟩
    rw [List.mem_cons, List.mem_pair] at hd
    rcases hd with rfl | rfl | rfl
    · have hprefix := Draft.fields_prefix (comma_notMem_gpvtg pos) hsend
      exact Or.inr (Or.inl ⟨name_of_starts (head_gpvtg pos) hprefix, hprefix⟩)
    · have hprefix := Draft.fields_prefix (comma_notMem_gprmc pos) hsend
      exact Or.inr (Or.inr (Or.inl ⟨name_of_starts rfl hprefix, hprefix⟩))
    · have hprefix := Draft.fields_prefix (comma_notMem_gpgga cache pos) hsend
      exact Or.inr (Or.inr (Or.inr ⟨name_of_starts rfl hprefix, hprefix⟩))

/-- The sentences, with their fields. -/
def named (cache : NmeaCache ℚ) (pos : PosInput) : List (List Char × List (List Char)) := [
  ("$GPGSA".toList, gpgsaFields (svUsed cache.sv_used_mask)),
  ("$GPVTG".toList, (gpvtg pos).fields),
  ("$GPRMC".toList, (gprmc pos).fields),
  ("$GPGGA".toList, (gpgga cache pos).fields)]

/-- A sentence has the fields for its name. -/
theorem sent_fields (h : pos.generate_nmea = true) {sentence : Sentence}
    (hsent : sentence ∈ (locEngNmeaGeneratePos cache pos).2) {name : List Char}
    (hname : field sentence 0 = name) {fields : List (List Char)}
    (hfields : (named cache pos).lookup name = some fields) :
    fields <+: sentence.splitOn ',' := by
  -- The name tells which of the four it is.
  rcases sent_cases h hsent with ⟨hcase, hprefix⟩ | ⟨hcase, hprefix⟩ | ⟨hcase, hprefix⟩ |
    ⟨hcase, hprefix⟩
  all_goals
    rw [← hname, hcase] at hfields
    exact Option.some.inj hfields ▸ hprefix

/-! ## Numbers of usual size -/

/-- No number is larger than a float, and the time is one. This is what a report
    of the modem can contain, and it bounds the length of every field. -/
structure UsualSize (cache : NmeaCache ℚ) (pos : PosInput) : Prop where
  bearing : |pos.location.bearing| < 10 ^ 39
  knots : |speedKnots pos| < 10 ^ 39
  kmPerHour : |speedKmPerHour pos| < 10 ^ 39
  magneticDeviation : |pos.locationExtended.magneticDeviation| < 10 ^ 39
  altitude : |pos.locationExtended.altitudeMeanSeaLevel| < 10 ^ 39
  hdop : |pos.locationExtended.dop.hdop| < 10 ^ 39
  cachedHdop : |cache.dop.hdop| < 10 ^ 39
  time : ∀ x ∈ [pos.pTm.tm_hour, pos.pTm.tm_min, pos.pTm.tm_sec, pos.pTm.tm_mday,
    pos.pTm.tm_mon + 1], 0 ≤ x ∧ x < 100

theorem length_one_decimal {x : ℚ} (h : |x| < 10 ^ 39) : (fixed 0 1 x).length ≤ 43 :=
  length_fixed_le (by decide) (by decide) h

theorem length_zeroPad_two {x : Int} (h : 0 ≤ x ∧ x < 100) : (zeroPad 2 x).length ≤ 2 :=
  length_zeroPad_le_of_nonneg (by decide) (by decide) h.1 (by omega)

theorem length_twoDigits {x : Int} (h : x.natAbs < 100) : (twoDigits x).length ≤ 3 := by
  have hdigits := length_leftpad_toDigits_le (w := 2) (k := 2) (by decide) (by decide) h
  unfold twoDigits
  split
  · exact Nat.succ_le_succ hdigits
  · exact Nat.le_succ_of_le hdigits

/-- The minutes are less than 60. -/
theorem abs_fmod_lt (x : ℚ) {y : ℚ} (hy : 0 < y) : |fmod x y| < y := by
  have hdiv : x / y * y = x := div_mul_cancel₀ x (ne_of_gt hy)
  -- What is taken away is a multiple of `y` on the side of 0, and less than `y` is left.
  unfold fmod trunc
  split
  · have hle := mul_le_mul_of_nonneg_right (Int.le_ceil (x / y)) (le_of_lt hy)
    have hlt := mul_lt_mul_of_pos_right (Int.ceil_lt_add_one (x / y)) hy
    rw [abs_lt]
    constructor <;> linarith
  · have hle := mul_le_mul_of_nonneg_right (Int.floor_le (x / y)) (le_of_lt hy)
    have hlt := mul_lt_mul_of_pos_right (Int.lt_floor_add_one (x / y)) hy
    rw [abs_lt]
    constructor <;> linarith

/-- The degrees and minutes take 34 bytes at most, with their commas. -/
theorem length_line_latLongFields (location : GpsLocation) :
    (line ',' (latLongFields location)).length ≤ 34 := by
  -- Whatever the value, a byte has three digits.
  have hdegrees : ∀ w x, w ≤ 3 → (zeroPad w (toUint8 x)).length ≤ 3 := by
    intro w x hw
    refine length_zeroPad_le_of_nonneg hw (by decide) (by omega) ?_
    have hbyte : toUint8 x < 256 := by
      unfold toUint8
      omega
    omega
  have hminutes : ∀ x : ℚ, (fixed 9 6 (fmod x 60)).length ≤ 11 := fun x =>
    length_fixed_le (k := 2) (by decide) (by decide)
      (lt_trans (abs_fmod_lt x (by norm_num)) (by norm_num))
  unfold latLongFields
  split
  · rw [length_line]
    simp only [List.map_cons, List.map_nil, List.sum_cons, List.sum_nil, List.length_append,
      List.length_cons, List.length_nil]
    have hlat := hdegrees 2 ⌊if 0 < location.latitude then location.latitude
      else location.latitude * -1⌋ (by decide)
    have hlon := hdegrees 3 ⌊if location.longitude < 0 then location.longitude * -1
      else location.longitude⌋ (by decide)
    have hlatMinutes := hminutes ((if 0 < location.latitude then location.latitude
      else location.latitude * -1) * 60)
    have hlonMinutes := hminutes ((if location.longitude < 0 then location.longitude * -1
      else location.longitude) * 60)
    omega
  · decide

/-- A sentence that fits is sent. -/
theorem Draft.send_of_fits {d : Draft} (h : (line ',' d.fields).length < NMEA_SENTENCE_MAX_LENGTH) :
    ∃ sentence, d.send = some sentence := by
  have hfits : ([] : List Char).length + (d.groups.map (line ',')).flatten.length <
      NMEA_SENTENCE_MAX_LENGTH := by
    rw [flatten_map_line, List.length_nil, Nat.zero_add]
    exact h
  exact ⟨_, by rw [Draft.send, appendAll_of_fits hfits, Option.map_some]⟩

theorem gpvtg_fits (h : UsualSize cache pos) :
    (line ',' (gpvtg pos).fields).length < NMEA_SENTENCE_MAX_LENGTH := by
  have hbearing := length_one_decimal h.bearing
  have hknots := length_one_decimal h.knots
  have hkm := length_one_decimal h.kmPerHour
  -- Each number has 43 characters at most, and the rest is a name and single letters.
  have hname : "$GPVTG".toList.length = 6 ∧ "T".toList.length = 1 ∧ "M".toList.length = 1 ∧
    "N".toList.length = 1 ∧ "K".toList.length = 1 := by decide
  rw [length_line, NMEA_SENTENCE_MAX_LENGTH]
  unfold Draft.fields gpvtg magTrack
  cases pos.location.HAS_BEARING <;> cases pos.location.HAS_SPEED <;>
    simp only [List.flatten_cons, List.flatten_nil, List.append_nil, List.map_append, List.map_cons,
      List.map_nil, List.sum_append, List.sum_cons, List.sum_nil, hname, List.length_nil, if_true,
      Bool.false_eq_true, if_false] <;> omega

theorem length_utcTime (h : UsualSize cache pos) : (utcTime pos.pTm).length ≤ 6 := by
  have hhour := length_zeroPad_two (h.time pos.pTm.tm_hour (by simp))
  have hmin := length_zeroPad_two (h.time pos.pTm.tm_min (by simp))
  have hsec := length_zeroPad_two (h.time pos.pTm.tm_sec (by simp))
  rw [utcTime, List.length_append, List.length_append]
  omega

theorem length_utcDate (h : UsualSize cache pos) : (utcDate pos.pTm).length ≤ 9 := by
  have hday := h.time pos.pTm.tm_mday (by simp)
  have hmonth := h.time (pos.pTm.tm_mon + 1) (by simp)
  -- The remainder of a negative year is negative, and has a sign to be printed.
  have hyear : (pos.pTm.tm_year.tmod 100).natAbs < 100 := by
    rw [Int.natAbs_tmod]
    exact Nat.mod_lt _ (by decide)
  have hday' := length_twoDigits (x := pos.pTm.tm_mday) (by omega)
  have hmonth' := length_twoDigits (x := pos.pTm.tm_mon + 1) (by omega)
  have hyear' := length_twoDigits hyear
  rw [utcDate, List.length_append, List.length_append]
  omega

theorem gprmc_fits (h : UsualSize cache pos) :
    (line ',' (gprmc pos).fields).length < NMEA_SENTENCE_MAX_LENGTH := by
  have htime := length_utcTime h
  have hdate := length_utcDate h
  have hlatLong := length_line_latLongFields pos.location
  -- A number of usual size has 43 characters at most.
  have hspeed : (if pos.location.HAS_SPEED then fixed 0 1 (speedKnots pos) else []).length ≤ 43 := by
    split
    · exact length_one_decimal h.knots
    · exact Nat.zero_le 43
  have hbearing : (if pos.location.HAS_BEARING then fixed 0 1 pos.location.bearing
      else []).length ≤ 43 := by
    split
    · exact length_one_decimal h.bearing
    · exact Nat.zero_le 43
  have hmag : ((if pos.locationExtended.HAS_MAG_DEV then
      if pos.locationExtended.magneticDeviation < 0 then
        [fixed 0 1 (pos.locationExtended.magneticDeviation * -1), "W".toList]
      else [fixed 0 1 pos.locationExtended.magneticDeviation, "E".toList]
      else [[], []]).map fun f => f.length + 1).sum ≤ 46 := by
    have hplus := length_one_decimal h.magneticDeviation
    have hminus : (fixed 0 1 (pos.locationExtended.magneticDeviation * -1)).length ≤ 43 := by
      refine length_one_decimal ?_
      rw [mul_neg_one, abs_neg]
      exact h.magneticDeviation
    have hdirection : "W".toList.length = 1 ∧ "E".toList.length = 1 := by decide
    split
    · split <;> simp only [List.map_cons, List.map_nil, List.sum_cons, List.sum_nil,
        hdirection.1, hdirection.2] <;> omega
    · decide
  have hname : "$GPRMC".toList.length = 6 ∧ "A".toList.length = 1 := by decide
  -- The sum of the bounds, with a comma for each field.
  rw [length_line] at hlatLong ⊢
  simp only [Draft.fields, gprmc, NMEA_SENTENCE_MAX_LENGTH, List.flatten_cons, List.flatten_nil,
    List.append_nil, List.map_append, List.map_cons, List.map_nil, List.sum_append, List.sum_cons,
    List.sum_nil, hname.1, hname.2]
  omega

theorem gpgga_fits (h : UsualSize cache pos) :
    (line ',' (gpgga cache pos).fields).length < NMEA_SENTENCE_MAX_LENGTH := by
  have htime := length_utcTime h
  have hlatLong := length_line_latLongFields pos.location
  -- A mask has 32 bits, so that their number has two digits.
  have hcount : (zeroPad 2 (svUsed cache.sv_used_mask).length).length ≤ 2 := by
    refine length_zeroPad_two ⟨Int.natCast_nonneg _, ?_⟩
    have hbits := List.length_filter_le cache.sv_used_mask.getLsbD (List.range 32)
    rw [List.length_range] at hbits
    rw [svUsed_eq, List.length_map, setBits]
    omega
  have hhdop : (hdopField cache.dop pos).length ≤ 43 := by
    unfold hdopField
    split
    · exact length_one_decimal h.hdop
    · split
      · exact length_one_decimal h.cachedHdop
      · exact Nat.zero_le 43
  have halt : ((if pos.locationExtended.HAS_ALTITUDE_MEAN_SEA_LEVEL then
      [fixed 0 1 pos.locationExtended.altitudeMeanSeaLevel, "M".toList]
      else [[], []]).map fun f => f.length + 1).sum ≤ 46 := by
    have haltitude := length_one_decimal h.altitude
    have hunit : "M".toList.length = 1 := by decide
    split
    · simp only [List.map_cons, List.map_nil, List.sum_cons, List.sum_nil, hunit]
      omega
    · decide
  have hname : "$GPGGA".toList.length = 6 := by decide
  -- The sum of the bounds, with a comma for each field.
  rw [length_line] at hlatLong ⊢
  simp only [Draft.fields, gpgga, NMEA_SENTENCE_MAX_LENGTH, List.flatten_cons, List.flatten_nil,
    List.append_nil, List.map_append, List.map_cons, List.map_nil, List.sum_append, List.sum_cons,
    List.sum_nil, hname, List.length_singleton]
  omega

/-- With numbers of usual size no piece fails: all four sentences are sent, and
    the cache is empty then. -/
theorem generatePos_four (h : pos.generate_nmea = true) (husual : UsualSize cache pos) :
    (locEngNmeaGeneratePos cache pos).1 = ⟨0, noDop ratFloat⟩ ∧
      (locEngNmeaGeneratePos cache pos).2.map (field · 0) =
        ["$GPGSA".toList, "$GPVTG".toList, "$GPRMC".toList, "$GPGGA".toList] := by
  rcases Draft.send_of_fits (gpvtg_fits husual) with ⟨vtg, hvtg⟩
  rcases Draft.send_of_fits (gprmc_fits husual) with ⟨rmc, hrmc⟩
  rcases Draft.send_of_fits (gpgga_fits husual) with ⟨gga, hgga⟩
  -- Nothing ends the function early.
  have hall : sendAll [gpvtg pos, gprmc pos, gpgga cache pos] = ([vtg, rmc, gga], true) := by
    simp only [sendAll, hvtg, hrmc, hgga]
  rcases generatePos_gpgsaFields cache h with ⟨gpgsa, hsent, hgpgsa⟩
  have hvtg' := name_of_starts (head_gpvtg pos) (Draft.fields_prefix (comma_notMem_gpvtg pos) hvtg)
  have hrmc' := name_of_starts rfl (Draft.fields_prefix (comma_notMem_gprmc pos) hrmc)
  have hgga' := name_of_starts rfl (Draft.fields_prefix (comma_notMem_gpgga cache pos) hgga)
  have hgpgsa' := name_of_starts rfl hgpgsa
  constructor
  · have hfinal : (posReport cache pos).generate_nmea = true := h
    have hfit : (posReport cache pos).othersFit = true := congrArg Prod.snd hall
    have hcache := (generatePos_fields ratFloat cache hfinal).1
    rwa [if_pos hfit] at hcache
  · rw [hsent, hall]
    simp only [List.map_cons, List.map_nil, hgpgsa', hvtg', hrmc', hgga']

end Nmea

end Victara
