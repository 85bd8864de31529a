import Victara.Engine.NmeaPos

/-!
# What the Fields of a Position Say

Three parts of the sentences of a final position, read back from what was sent:
the satellites of GPGSA and their number in GPGGA, the degrees and minutes of
GPRMC and GPGGA, and the magnetic track of GPVTG.

The minutes are taken modulo 60 before they are rounded, so that they are
printed as 60.000000 just below a whole degree. The magnetic track is computed
in a block that declares its own `magTrack`, so that the track is printed twice.

The fields come from `NmeaPos`, which has them as lists of characters by the
name of the sentence. What is left is arithmetic: how the bits of a mask are
listed, when a number of minutes is rounded to 60, and when two tracks have the
same decimal. Each of these is stated of the numbers first, and the theorems put
the fields around it.

## Main definitions

* `satelliteFields`: The twelve fields for the satellites.
* `samplePos`: A position in the north and west, with everything.
* `sampleCache`: Seventeen satellites, so that five are not listed.
* `readAngle`: A coordinate, from the `w` digits of its degrees and the minutes
  behind them.
* `WellEncoded`: Degrees and minutes that are read as a coordinate.
* `belowDegree`: Just below 38 degrees.
* `normalised`: An angle from 0 up to 360.
* `magneticTrack`: The track that is to be printed: that of the bearing, as far
  as the deviation is known.

## Theorems

* `gpgga_count`: A field behind the degrees and minutes.
* `gpgsa_satellites`: The satellites, the kind of fix and their number.
* `minutes_lt_iff`, `wellEncoded_iff`: When the minutes are less than 60.
* `length_degrees`: The degrees have `w` digits.
* `latLongFields_wellEncoded_iff`: The fields of a coordinate pair are read if
  neither is just below a whole degree.
* `latLong_wellEncoded_iff`: When the coordinates of the sentences are read.
* `exists_field`: A sentence that is found by its name and a field.
* `normalised_cases`: A bearing minus a deviation is three kinds of angle.
* `magTrack_eq_iff`, `innerMagTrack_eq_iff`: Which track is right.
* `gpvtg_magTrack_iff`: When the track that is printed is right.
-/

namespace Victara

namespace Nmea

open Printf Decimal

variable {cache : NmeaCache ℚ} {pos : PosInput}

/-! ## The satellites -/

/-- The twelve smallest of some positions, each plus one and with two digits, and
    empty fields for those that are missing. -/
def satelliteFields (bits : List Nat) : List (List Char) :=
  (bits.take 12).map (fun j => zeroPad 2 (j + 1 : Nat)) ++ List.replicate (12 - bits.length) []

theorem range_map_elim {α β : Type} (l : List α) (n : Nat) (f : α → β) (b : β) :
    (List.range n).map (fun i => (l[i]?).elim b f) =
      (l.take n).map f ++ List.replicate (n - l.length) b := by
  refine List.ext_getElem (by simp; omega) fun i hi _ => ?_
  rw [List.length_map, List.length_range] at hi
  rw [List.getElem_map, List.getElem_range]
  -- The place is one of the list, or one of those that fill it up.
  by_cases hl : i < l.length
  · have hfront : i < ((l.take n).map f).length := by simp; omega
    rw [List.getElem?_eq_getElem hl, List.getElem_append_left hfront]
    simp
  · rw [List.getElem?_eq_none (Nat.le_of_not_lt hl),
      List.getElem_append_right (by simp; omega)]
    simp

theorem gpgsaFields_eq (mask : BitVec 32) :
    gpgsaFields (svUsed mask) = "$GPGSA".toList :: "A".toList ::
      [fixType (setBits mask).length] :: satelliteFields (setBits mask) := by
  rw [gpgsaFields, range_map_elim, svUsed_eq, List.length_map, satelliteFields, ← List.map_take,
    List.map_map]
  have hsame : (fun sv : Nat => zeroPad 2 (sv : Int)) ∘ (1 + ·) =
      fun j : Nat => zeroPad 2 (j + 1 : Nat) := funext fun j => by
    rw [Function.comp_apply, Nat.add_comm]
  rw [hsame]

theorem length_satellite {mask : BitVec 32} {j : Nat} (h : j ∈ setBits mask) :
    (zeroPad 2 (j + 1 : Nat)).length = 2 := by
  have hlt := List.mem_range.mp (List.mem_filter.mp h).1
  have hle := length_zeroPad_two (x := ((j + 1 : Nat) : Int)) (by omega)
  have hpad : 2 ≤ (zeroPad 2 ((j + 1 : Nat) : Int)).length := by
    rw [zeroPad_natCast, List.length_leftpad]
    exact Nat.le_max_left _ _
  omega

theorem length_latLongFields (location : GpsLocation) : (latLongFields location).length = 4 := by
  unfold latLongFields
  split <;> rfl

/-- A field behind the degrees and minutes. -/
theorem gpgga_count {sentence : Sentence}
    (h : (gpgga cache pos).fields <+: sentence.splitOn ',') :
    field sentence 7 = zeroPad 2 (setBits cache.sv_used_mask).length := by
  have hfour := length_latLongFields pos.location
  have hfields : (gpgga cache pos).fields[7]? =
      some (zeroPad 2 (svUsed cache.sv_used_mask).length) := by
    rcases List.length_eq_four.mp hfour with ⟨a, b, c, d, habcd⟩
    rw [Draft.fields, gpgga, habcd]
    rfl
  rcases List.getElem?_eq_some_iff.mp hfields with ⟨hlt, hget⟩
  rw [field_of_starts h hlt, hget, svUsed_eq, List.length_map]

theorem length_satelliteFields (bits : List Nat) : (satelliteFields bits).length = 12 := by
  rw [satelliteFields, List.length_append, List.length_map, List.length_take,
    List.length_replicate]
  omega

/-- For every mask: GPGSA has its first twelve satellites in twelve fields, the
    kind of fix is by their number, and GPGGA has the same number. More than
    twelve are counted but not listed. -/
theorem gpgsa_satellites (cache : NmeaCache ℚ) (h : pos.generate_nmea = true) :
    ∃ gpgsa, (locEngNmeaGeneratePos cache pos).2.head? = some gpgsa ∧
      "$GPGSA".toList :: "A".toList ::
          [if (setBits cache.sv_used_mask).length = 0 then '1'
            else if (setBits cache.sv_used_mask).length ≤ 3 then '2' else '3'] ::
          satelliteFields (setBits cache.sv_used_mask) <+: gpgsa.splitOn ',' ∧
      (satelliteFields (setBits cache.sv_used_mask)).length = 12 ∧
      (∀ j ∈ setBits cache.sv_used_mask, (zeroPad 2 (j + 1 : Nat)).length = 2) ∧
      ∀ sentence ∈ (locEngNmeaGeneratePos cache pos).2, field sentence 0 = "$GPGGA".toList →
        field sentence 7 = zeroPad 2 (setBits cache.sv_used_mask).length := by
  rcases generatePos_gpgsaFields cache h with ⟨gpgsa, hsent, hfields⟩
  rw [gpgsaFields_eq] at hfields
  refine ⟨gpgsa, by rw [hsent]; rfl, hfields, length_satelliteFields _,
    fun j => length_satellite, ?_⟩
  intro sentence hmem hname
  exact gpgga_count (sent_fields h hmem hname rfl)

/-- A position in the north and west, with everything. -/
def samplePos : PosInput where
  location := ⟨true, true, true, true, 375 / 10, -(122 + 1 / 4), 35, 3 / 2, 359 / 2⟩
  locationExtended := ⟨true, true, true, 15, ⟨1, 12 / 10, 7 / 4⟩, 10⟩
  generate_nmea := true
  pTm := ⟨126, 9, 6, 7, 8, 9⟩
  standalone := true

/-- Seventeen satellites, so that five are not listed. -/
def sampleCache : NmeaCache ℚ := ⟨0x8000FFFF#32, ⟨0, 0, 0⟩⟩

theorem gpgsa_satellites_sample :
    ∃ gpgsa, (locEngNmeaGeneratePos sampleCache samplePos).2.head? = some gpgsa ∧
      "$GPGSA".toList :: "A".toList ::
          [if (setBits sampleCache.sv_used_mask).length = 0 then '1'
            else if (setBits sampleCache.sv_used_mask).length ≤ 3 then '2' else '3'] ::
          satelliteFields (setBits sampleCache.sv_used_mask) <+: gpgsa.splitOn ',' ∧
      (satelliteFields (setBits sampleCache.sv_used_mask)).length = 12 ∧
      (∀ j ∈ setBits sampleCache.sv_used_mask, (zeroPad 2 (j + 1 : Nat)).length = 2) ∧
      ∀ sentence ∈ (locEngNmeaGeneratePos sampleCache samplePos).2,
        field sentence 0 = "$GPGGA".toList →
          field sentence 7 = zeroPad 2 (setBits sampleCache.sv_used_mask).length :=
  gpgsa_satellites sampleCache rfl

/-! ## The degrees and minutes -/

/-- A coordinate, from the `w` digits of its degrees and the minutes behind
    them. One hemisphere has the sign. -/
def readAngle (w : Nat) (negative : Char) (angle hemisphere : List Char) : ℚ :=
  let degrees : ℚ := Nat.ofDigitChars 10 (angle.take w) 0
  let sign : ℚ := if hemisphere = [negative] then -1 else 1
  sign * (degrees + read (angle.drop w) / 60)

/-- The minutes are less than 60, and what is read is half a unit of their last
    digit away at most. -/
def WellEncoded (w : Nat) (negative : Char) (angle hemisphere : List Char) (x : ℚ) : Prop :=
  read (angle.drop w) < 60 ∧
    |readAngle w negative angle hemisphere - x| ≤ 1 / 2 * (1 / 10 ^ 6) / 60

theorem fmod_sixty {x : ℚ} (h : 0 ≤ x) : fmod (x * 60) 60 = 60 * Int.fract x := by
  have hx : x * 60 / 60 = x := by field_simp
  rw [fmod, hx, trunc, if_neg (not_lt.mpr h), Int.fract]
  ring

/-- The minutes are printed as less than 60 except in the last half unit. -/
theorem minutes_lt_iff (x : ℚ) :
    read (fixed 9 6 (60 * Int.fract x)) < 60 ↔ Int.fract x < 1 - 1 / 120000000 := by
  have hnonneg : 0 ≤ 60 * Int.fract x := mul_nonneg (by norm_num) (Int.fract_nonneg x)
  -- 60 minutes are 60000000 units, an even number.
  have hround : (units 6 (60 * Int.fract x) : ℚ) < 60000000 ↔
      roundEven (60 * Int.fract x * 10 ^ 6) < 60000000 := by
    rw [units_cast 6 hnonneg]
    exact_mod_cast Iff.rfl
  rw [read_fixed 9 (by decide) hnonneg, div_lt_iff₀ (by norm_num)]
  norm_num only at hround ⊢
  rw [hround, roundEven_lt_iff (by decide)]
  push_cast
  constructor <;> intro h <;> linarith

/-- The degrees have `w` digits. -/
theorem length_degrees {w n : Nat} (hw : 0 < w) (h : n < 10 ^ w) :
    (zeroPad w n).length = w := by
  have hle := (Nat.length_toDigits_le_iff (b := 10) (by decide) hw).mpr h
  rw [zeroPad_natCast, List.length_leftpad]
  omega

/-- A coordinate `x`, printed as the angle `a` and its hemisphere. -/
theorem wellEncoded_iff {w : Nat} (hw : 0 < w) {negative : Char} {hemisphere : List Char} {a x : ℚ}
    (ha : 0 ≤ a) (hdegrees : ⌊a⌋ < 10 ^ w ∧ ⌊a⌋ < 256)
    (hsign : (if hemisphere = [negative] then -1 else 1) * a = x) :
    WellEncoded w negative (zeroPad w (toUint8 ⌊a⌋) ++ fixed 9 6 (fmod (a * 60) 60)) hemisphere x ↔
      Int.fract a < 1 - 1 / 120000000 := by
  have hfloor : 0 ≤ ⌊a⌋ := Int.floor_nonneg.mpr ha
  -- The degrees are the same as a byte.
  have hcast : ((toUint8 ⌊a⌋ : Nat) : Int) = ⌊a⌋ := by
    unfold toUint8
    omega
  have hlt : toUint8 ⌊a⌋ < 10 ^ w := by
    have hint : ((toUint8 ⌊a⌋ : Nat) : Int) < 10 ^ w := hcast.symm ▸ hdegrees.1
    exact_mod_cast hint
  have hlength := length_degrees hw hlt
  have hnonneg : 0 ≤ 60 * Int.fract a := mul_nonneg (by norm_num) (Int.fract_nonneg a)
  have htake : (zeroPad w (toUint8 ⌊a⌋) ++ fixed 9 6 (fmod (a * 60) 60)).take w =
      zeroPad w (toUint8 ⌊a⌋) := by rw [List.take_append_of_le_length (by omega),
    List.take_of_length_le (by omega)]
  have hdrop : (zeroPad w (toUint8 ⌊a⌋) ++ fixed 9 6 (fmod (a * 60) 60)).drop w =
      fixed 9 6 (60 * Int.fract a) := by
    rw [List.drop_append_of_le_length (by omega), List.drop_of_length_le (by omega),
      List.nil_append, fmod_sixty ha]
  rw [WellEncoded, hdrop, minutes_lt_iff]
  refine and_iff_left ?_
  -- The error is that of the minutes, since the degrees are whole.
  have hminutes := abs_read_fixed_sub_le 9 (d := 6) (by decide) hnonneg
  have hwhole : ((toUint8 ⌊a⌋ : Nat) : ℚ) = a - Int.fract a := by
    rw [Int.self_sub_fract]
    exact_mod_cast congrArg (Int.cast : Int → ℚ) hcast
  have herror : readAngle w negative (zeroPad w (toUint8 ⌊a⌋) ++ fixed 9 6 (fmod (a * 60) 60))
      hemisphere - x = (if hemisphere = [negative] then -1 else 1) *
        ((read (fixed 9 6 (60 * Int.fract a)) - 60 * Int.fract a) / 60) := by
    rw [readAngle, htake, hdrop, ofDigitChars_zeroPad, hwhole, ← hsign]
    ring
  have hone : |(if hemisphere = [negative] then (-1 : ℚ) else 1)| = 1 := by
    split <;> norm_num
  rw [herror, abs_mul, hone, one_mul, abs_div, abs_of_pos (by norm_num : (0 : ℚ) < 60)]
  refine div_le_div_of_nonneg_right ?_ (by norm_num)
  rw [div_eq_mul_one_div] at hminutes
  exact hminutes

/-- The fields of a coordinate pair are read if neither is just below a whole
    degree. -/
theorem latLongFields_wellEncoded_iff {location : GpsLocation}
    (hflag : location.HAS_LAT_LONG = true)
    (hlat : |location.latitude| ≤ 90) (hlon : |location.longitude| ≤ 180) :
    ∃ lat ns lon ew, latLongFields location = [lat, ns, lon, ew] ∧
      ((WellEncoded 2 'S' lat ns location.latitude ∧ WellEncoded 3 'W' lon ew location.longitude) ↔
        Int.fract |location.latitude| < 1 - 1 / 120000000 ∧
          Int.fract |location.longitude| < 1 - 1 / 120000000) := by
  have hbound : ∀ (x : ℚ) (n : Nat), |x| ≤ n → ⌊|x|⌋ ≤ n := by
    intro x n hx
    have hle : ((⌊|x|⌋ : Int) : ℚ) ≤ (n : Int) := le_trans (Int.floor_le _) (by exact_mod_cast hx)
    exact_mod_cast hle
  have hlatFloor := hbound _ 90 hlat
  have hlonFloor := hbound _ 180 hlon
  have hlatAbs : (if 0 < location.latitude then location.latitude else location.latitude * -1) =
      |location.latitude| := by
    split
    case isTrue h => rw [abs_of_pos h]
    case isFalse h => rw [abs_of_nonpos (not_lt.mp h), mul_neg_one]
  have hlonAbs : (if location.longitude < 0 then location.longitude * -1
      else location.longitude) = |location.longitude| := by
    split
    case isTrue h => rw [abs_of_neg h, mul_neg_one]
    case isFalse h => rw [abs_of_nonneg (not_lt.mp h)]
  -- The hemisphere gives the sign back that the absolute value has lost.
  have hlatSign : (if [if 0 < location.latitude then 'N' else 'S'] = ['S'] then (-1 : ℚ) else 1) *
      |location.latitude| = location.latitude := by
    by_cases h : 0 < location.latitude
    · simp [h, abs_of_pos h]
    · simp [h, abs_of_nonpos (not_lt.mp h)]
  have hlonSign : (if [if location.longitude < 0 then 'W' else 'E'] = ['W'] then (-1 : ℚ) else 1) *
      |location.longitude| = location.longitude := by
    by_cases h : location.longitude < 0
    · simp [h, abs_of_neg h]
    · simp [h, abs_of_nonneg (not_lt.mp h)]
  refine ⟨_, _, _, _, by rw [latLongFields, if_pos hflag], ?_⟩
  rw [hlatAbs, hlonAbs]
  exact and_congr
    (wellEncoded_iff (by decide) (abs_nonneg _) ⟨by omega, by omega⟩ hlatSign)
    (wellEncoded_iff (by decide) (abs_nonneg _) ⟨by omega, by omega⟩ hlonSign)

theorem gprmc_latLong {sentence : Sentence} (h : (gprmc pos).fields <+: sentence.splitOn ',') :
    latLongFields pos.location =
      [field sentence 3, field sentence 4, field sentence 5, field sentence 6] := by
  rcases List.length_eq_four.mp (length_latLongFields pos.location) with ⟨a, b, c, d, habcd⟩
  rw [Draft.fields, gprmc, habcd] at h
  rw [habcd, field_of_starts h (i := 3) (by simp), field_of_starts h (i := 4) (by simp),
    field_of_starts h (i := 5) (by simp), field_of_starts h (i := 6) (by simp)]
  rfl

theorem gpgga_latLong {sentence : Sentence}
    (h : (gpgga cache pos).fields <+: sentence.splitOn ',') :
    latLongFields pos.location =
      [field sentence 2, field sentence 3, field sentence 4, field sentence 5] := by
  rcases List.length_eq_four.mp (length_latLongFields pos.location) with ⟨a, b, c, d, habcd⟩
  rw [Draft.fields, gpgga, habcd] at h
  rw [habcd, field_of_starts h (i := 2) (by simp), field_of_starts h (i := 3) (by simp),
    field_of_starts h (i := 4) (by simp), field_of_starts h (i := 5) (by simp)]
  rfl

/-- Both sentences have the same four fields, and these are read as the position
    if neither coordinate is in the last half unit below a whole degree. There
    the minutes are rounded up to 60, and the degrees are those below. -/
theorem latLong_wellEncoded_iff (cache : NmeaCache ℚ) (h : pos.generate_nmea = true)
    (hflag : pos.location.HAS_LAT_LONG = true)
    (hlat : |pos.location.latitude| ≤ 90) (hlon : |pos.location.longitude| ≤ 180) :
    ∃ lat ns lon ew, latLongFields pos.location = [lat, ns, lon, ew] ∧
      (∀ sentence ∈ (locEngNmeaGeneratePos cache pos).2,
        (field sentence 0 = "$GPRMC".toList → [lat, ns, lon, ew] =
          [field sentence 3, field sentence 4, field sentence 5, field sentence 6]) ∧
        (field sentence 0 = "$GPGGA".toList → [lat, ns, lon, ew] =
          [field sentence 2, field sentence 3, field sentence 4, field sentence 5])) ∧
      ((WellEncoded 2 'S' lat ns pos.location.latitude ∧
          WellEncoded 3 'W' lon ew pos.location.longitude) ↔
        Int.fract |pos.location.latitude| < 1 - 1 / 120000000 ∧
          Int.fract |pos.location.longitude| < 1 - 1 / 120000000) := by
  rcases latLongFields_wellEncoded_iff hflag hlat hlon with ⟨lat, ns, lon, ew, hfields, hiff⟩
  refine ⟨lat, ns, lon, ew, hfields, fun sentence hmem => ⟨fun hname => ?_, fun hname => ?_⟩, hiff⟩
  · rw [← hfields]
    exact gprmc_latLong (sent_fields h hmem hname rfl)
  · rw [← hfields]
    exact gpgga_latLong (sent_fields h hmem hname rfl)

theorem latLong_wellEncoded_iff_sample :
    ∃ lat ns lon ew, latLongFields samplePos.location = [lat, ns, lon, ew] ∧
      (∀ sentence ∈ (locEngNmeaGeneratePos sampleCache samplePos).2,
        (field sentence 0 = "$GPRMC".toList → [lat, ns, lon, ew] =
          [field sentence 3, field sentence 4, field sentence 5, field sentence 6]) ∧
        (field sentence 0 = "$GPGGA".toList → [lat, ns, lon, ew] =
          [field sentence 2, field sentence 3, field sentence 4, field sentence 5])) ∧
      ((WellEncoded 2 'S' lat ns samplePos.location.latitude ∧
          WellEncoded 3 'W' lon ew samplePos.location.longitude) ↔
        Int.fract |samplePos.location.latitude| < 1 - 1 / 120000000 ∧
          Int.fract |samplePos.location.longitude| < 1 - 1 / 120000000) :=
  latLong_wellEncoded_iff sampleCache rfl rfl (by norm_num [samplePos, abs_le])
    (by norm_num [samplePos, abs_le])

/-- A sentence that is found by its name and a field. -/
theorem exists_field {sent : List Sentence} {name value : List Char} {i : Nat}
    (h : (name, value) ∈ sent.map fun sentence => (field sentence 0, field sentence i)) :
    ∃ sentence ∈ sent, field sentence 0 = name ∧ field sentence i = value := by
  rcases List.mem_map.mp h with ⟨sentence, hsent, hfields⟩
  rw [Prod.mk.injEq] at hfields
  exact ⟨sentence, hsent, hfields⟩

/-- Just below 38 degrees. -/
def belowDegree : PosInput :=
  { samplePos with
    location := { samplePos.location with latitude := 38 - 1 / 1000000000 } }

/-- 37 degrees and 60 minutes are sent. -/
theorem belowDegree_wellEncoded_not :
    ¬ ∀ sentence ∈ (locEngNmeaGeneratePos sampleCache belowDegree).2,
      field sentence 0 = "$GPRMC".toList →
        WellEncoded 2 'S' (field sentence 3) (field sentence 4) belowDegree.location.latitude := by
  intro h
  have hmem : ("$GPRMC".toList, "3760.000000".toList) ∈
      (locEngNmeaGeneratePos sampleCache belowDegree).2.map
        (fun sentence => (field sentence 0, field sentence 3)) := by decide +kernel
  rcases exists_field hmem with ⟨sentence, hsent, hname, hlat⟩
  have hlt := (h sentence hsent hname).1
  rw [hlat] at hlt
  exact absurd hlt (by decide +kernel)

/-! ## The magnetic track -/

/-- The angle from 0 up to 360. -/
def normalised (x : ℚ) : ℚ := x - 360 * ⌊x / 360⌋

/-- The track that is to be printed: that of the bearing, as far as the deviation
    is known. -/
def magneticTrack (pos : PosInput) : ℚ :=
  if pos.locationExtended.HAS_MAG_DEV then
    normalised (pos.location.bearing - pos.locationExtended.magneticDeviation)
  else pos.location.bearing

theorem normalised_eq {x : ℚ} {k : Int} (h : 0 ≤ x - 360 * k ∧ x - 360 * k < 360) :
    normalised x = x - 360 * k := by
  have hfloor : ⌊x / 360⌋ = k := by
    rw [Int.floor_eq_iff]
    constructor <;> linarith
  rw [normalised, hfloor]

theorem normalised_range (x : ℚ) : 0 ≤ normalised x ∧ normalised x < 360 := by
  have hle := Int.floor_le (x / 360)
  have hlt := Int.lt_floor_add_one (x / 360)
  unfold normalised
  constructor <;> linarith

/-- A bearing minus a deviation is three kinds of angle. -/
theorem normalised_cases {b d : ℚ} (hb : 0 ≤ b ∧ b < 360) (hd : |d| ≤ 180) :
    normalised (b - d) =
      if b - d < 0 then b - d + 360 else if 360 ≤ b - d then b - d - 360 else b - d := by
  rcases abs_le.mp hd with ⟨hlow, hhigh⟩
  by_cases hneg : b - d < 0
  · rw [if_pos hneg, normalised_eq (k := -1) (by push_cast; constructor <;> linarith)]
    push_cast
    ring
  · rw [if_neg hneg]
    by_cases hbig : 360 ≤ b - d
    · rw [if_pos hbig, normalised_eq (k := 1) (by push_cast; constructor <;> linarith)]
      push_cast
      ring
    · rw [if_neg hbig, normalised_eq (k := 0) (by push_cast; constructor <;> linarith)]
      push_cast
      ring

/-- The track of the inner block is right, but for 360 itself. -/
theorem innerMagTrack_eq_iff (hb : 0 ≤ pos.location.bearing ∧ pos.location.bearing < 360)
    (hd : |pos.locationExtended.magneticDeviation| ≤ 180) :
    innerMagTrack pos =
        normalised (pos.location.bearing - pos.locationExtended.magneticDeviation) ↔
      pos.location.bearing - pos.locationExtended.magneticDeviation ≠ 360 := by
  rw [normalised_cases hb hd, innerMagTrack]
  by_cases hneg : pos.location.bearing - pos.locationExtended.magneticDeviation < 0
  · simp only [if_pos hneg, ne_eq, true_iff]
    linarith
  · by_cases hbig : 360 < pos.location.bearing - pos.locationExtended.magneticDeviation
    · simp only [if_neg hneg, if_pos hbig, if_pos (le_of_lt hbig), ne_eq, true_iff]
      exact ne_of_gt hbig
    · by_cases hfull : pos.location.bearing - pos.locationExtended.magneticDeviation = 360
      · norm_num [hfull]
      · have hless : ¬ 360 ≤ pos.location.bearing - pos.locationExtended.magneticDeviation :=
          fun hle => hbig (lt_of_le_of_ne hle (Ne.symm hfull))
        simp only [if_neg hneg, if_neg hbig, if_neg hless, ne_eq, hfull, not_false_eq_true]

/-- The track that is printed is right if there is nothing to subtract. -/
theorem magTrack_eq_iff (hb : 0 ≤ pos.location.bearing ∧ pos.location.bearing < 360)
    (hd : |pos.locationExtended.magneticDeviation| ≤ 180) :
    magTrack pos = magneticTrack pos ↔
      pos.locationExtended.HAS_MAG_DEV = false ∨ pos.locationExtended.magneticDeviation = 0 := by
  rcases abs_le.mp hd with ⟨hlow, hhigh⟩
  unfold magTrack magneticTrack
  cases pos.locationExtended.HAS_MAG_DEV with
  | false => simp
  | true =>
      simp only [if_true, Bool.true_eq_false, false_or]
      rw [normalised_cases hb hd]
      constructor
      -- A track that is the bearing again has been changed by nothing.
      · intro h
        split at h
        · linarith
        · split at h <;> linarith
      · intro h
        rw [h, sub_zero, if_neg (not_lt.mpr hb.1), if_neg (not_le.mpr hb.2)]

theorem gpvtg_track {sentence : Sentence} (hflag : pos.location.HAS_BEARING = true)
    (h : (gpvtg pos).fields <+: sentence.splitOn ',') :
    field sentence 1 = fixed 0 1 pos.location.bearing ∧
      field sentence 3 = fixed 0 1 (magTrack pos) := by
  rw [Draft.fields, gpvtg, if_pos hflag] at h
  rw [field_of_starts h (i := 1) (by simp), field_of_starts h (i := 3) (by simp)]
  exact ⟨rfl, rfl⟩

/-- The magnetic track is right if there is no deviation to subtract, or in
    print if it does not change the one decimal. The value that is computed with
    the deviation goes to a variable of the same name in an inner block, and the
    outer one is printed. -/
theorem gpvtg_magTrack_iff (cache : NmeaCache ℚ) (h : pos.generate_nmea = true)
    (hflag : pos.location.HAS_BEARING = true)
    (hb : 0 ≤ pos.location.bearing ∧ pos.location.bearing < 360)
    (hd : |pos.locationExtended.magneticDeviation| ≤ 180) :
    (magTrack pos = magneticTrack pos ↔
      pos.locationExtended.HAS_MAG_DEV = false ∨ pos.locationExtended.magneticDeviation = 0) ∧
    ∀ sentence ∈ (locEngNmeaGeneratePos cache pos).2, field sentence 0 = "$GPVTG".toList →
      field sentence 1 = fixed 0 1 pos.location.bearing ∧
      field sentence 3 = fixed 0 1 (magTrack pos) ∧
      (field sentence 3 = fixed 0 1 (magneticTrack pos) ↔
        pos.locationExtended.HAS_MAG_DEV = false ∨
          units 1 pos.location.bearing =
            units 1 (normalised
              (pos.location.bearing - pos.locationExtended.magneticDeviation))) := by
  refine ⟨magTrack_eq_iff hb hd, fun sentence hmem hname => ?_⟩
  rcases gpvtg_track hflag (sent_fields h hmem hname rfl) with ⟨htrack, hmag⟩
  refine ⟨htrack, hmag, ?_⟩
  -- Two texts with one decimal are the same if the tenths are.
  rw [hmag, magTrack, magneticTrack]
  cases pos.locationExtended.HAS_MAG_DEV with
  | false => simp
  | true =>
      simp only [if_true, Bool.true_eq_false, false_or]
      exact fixed_inj 0 (by decide) hb.1 (normalised_range _).1

theorem gpvtg_magTrack_iff_sample :
    (magTrack samplePos = magneticTrack samplePos ↔
      samplePos.locationExtended.HAS_MAG_DEV = false ∨
        samplePos.locationExtended.magneticDeviation = 0) ∧
    ∀ sentence ∈ (locEngNmeaGeneratePos sampleCache samplePos).2,
      field sentence 0 = "$GPVTG".toList →
        field sentence 1 = fixed 0 1 samplePos.location.bearing ∧
        field sentence 3 = fixed 0 1 (magTrack samplePos) ∧
        (field sentence 3 = fixed 0 1 (magneticTrack samplePos) ↔
          samplePos.locationExtended.HAS_MAG_DEV = false ∨
            units 1 samplePos.location.bearing =
              units 1 (normalised (samplePos.location.bearing -
                samplePos.locationExtended.magneticDeviation))) :=
  gpvtg_magTrack_iff sampleCache rfl rfl (by norm_num [samplePos]) (by norm_num [samplePos, abs_le])

/-- The bearing is 179.5 and the deviation 10, and 179.5 is sent for both
    tracks. -/
theorem sample_magTrack_not :
    ¬ ∀ sentence ∈ (locEngNmeaGeneratePos sampleCache samplePos).2,
      field sentence 0 = "$GPVTG".toList →
        field sentence 3 = fixed 0 1 (magneticTrack samplePos) := by
  intro h
  have hmem : ("$GPVTG".toList, "179.5".toList) ∈
      (locEngNmeaGeneratePos sampleCache samplePos).2.map
        (fun sentence => (field sentence 0, field sentence 3)) := by decide +kernel
  rcases exists_field hmem with ⟨sentence, hsent, hname, hmag⟩
  have htrack := h sentence hsent hname
  rw [hmag] at htrack
  exact absurd htrack (by decide +kernel)

end Nmea

end Victara
