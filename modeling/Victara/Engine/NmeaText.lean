import Victara.Lib.Printf

/-!
# The Sentences of an SV Report and of a Position

`loc_eng_nmea.cpp`: an SV report lists the satellites in view, four to a
sentence, and leaves the mask of those that are used for the position that
follows. The position lists the satellites of the mask in its GPGSA sentence.

Every piece is checked against the room that is left in the sentence, and the
function gives up where one does not fit. Yet all of them fit: `gsv_complete`
says so of the satellites in view, and `generatePos_gpgsa` of the GPGSA
sentence. So a mask that is not empty is always kept, and always used.

The two loops are alike. Each takes its satellites from an index that it carries
along, and writes pieces that are checked against the room that is left. That
they always fit is a bound for the piece of one satellite, times four or twelve,
plus what is before it. With that, a sentence is the text of its fields, and
reading it back at the commas gives the fields.

## Main definitions

* `NmeaFloat`: What the functions need of floating point numbers: 0, `> 0`, the
  conversion `(int)(0.5 + x)`, and `"%.1f"`.
* `GpsSvStatus`: The list has `num_svs` elements, and room for `GPS_MAX_SVS`.
* `NmeaCache`: What an SV report leaves for the position that follows.
* `putChecksum`, `gsv`, `generateSv`: The sentences of an SV report.
* `blankSentences`: What is sent when no satellite is used, and for a fix that
  is not final.
* `Constellation`: The satellites that a sentence is for.
* `nextSvs`: The satellites for one sentence, `n` more at most, and those that
  are left for the next.
* `svPieces`: A satellite in a sentence.
* `gsvLoop`: The sentences from `sentenceNumber` on, `n` of them, and whether
  all fit.
* `gsvText`: The text of a sentence up to its checksum.
* `svUsedLoop`: The loop over the mask, from bit `i` on with `n` bits left, when
  `svUsedCount` satellites have been found.
* `svUsed`, `gpgsaPieces`, `generatePos`: The sentences of a position.
* `gpgsaFields`: The fields of the GPGSA sentence up to the satellites.
* `dopText`: The dilution of precision of the position, or else the one that is
  cached.
* `PosReport`: A position, with the dilution of precision if it has it.
* `listed`: The satellites a GPGSA sentence lists.

## Theorems

* `length_svPieces`: A satellite of a constellation takes 39 bytes at most.
* `gsvLoop_succ`: Four satellites and what is before them take 171 bytes at
  most, so that the next sentence is sent.
* `gsv_complete`: The sentences for the satellites in view fit.
* `generateSv_mask`: An SV report keeps its mask if there is something in it.
* `svUsedLoop_eq`: The loop lists the bits of the mask from the lowest.
* `mem_svUsed`: The loop finds the bits of the mask.
* `length_gpgsa`: The head of the sentence and twelve satellites take 47 bytes
  at most.
* `comma_notMem_gpgsaFields`: No field has a comma in it.
* `read_fields`: The fields for `n` satellites, read back.
* `listed_of_prefix`: A sentence that begins with these fields lists the first
  twelve satellites.
* `generatePos_fields`: A position that is final has a GPGSA sentence with the
  fields for the satellites of the mask, and the mask is used up.
* `generatePos_gpgsa`: A GPGSA sentence lists the first twelve of them.
-/

namespace Victara

namespace Nmea

open Printf

abbrev Sentence := List Char

def NMEA_SENTENCE_MAX_LENGTH : Nat := 200

def GPS_MAX_SVS : Nat := 32

/-- What the functions need of floating point numbers: 0, `> 0`, the conversion
    `(int)(0.5 + x)`, and `"%.1f"`. -/
structure NmeaFloat (F : Type) where
  zero : F
  pos : F → Bool
  round : F → Int
  round_int : ∀ x, -2 ^ 31 ≤ round x ∧ round x < 2 ^ 31
  fmt : F → List Char

variable {F : Type} (fl : NmeaFloat F)

structure GpsSvInfo (F : Type) where
  prn : Int
  snr : F
  elevation : F
  azimuth : F

/-- The list has `num_svs` elements, and room for `GPS_MAX_SVS`. -/
structure GpsSvStatus (F : Type) where
  sv_list : List (GpsSvInfo F)
  num_svs_le : sv_list.length ≤ GPS_MAX_SVS
  used_in_fix_mask : BitVec 32

structure Dop (F : Type) where
  pdop : F
  hdop : F
  vdop : F

/-- What an SV report leaves for the position that follows. -/
structure NmeaCache (F : Type) where
  sv_used_mask : BitVec 32
  dop : Dop F

def noDop : Dop F := ⟨fl.zero, fl.zero, fl.zero⟩

/-- `loc_eng_nmea_put_checksum`: the sentence with what is behind it. -/
def putChecksum (sentence : Sentence) : Sentence :=
  let checksum := (sentence.drop 1).foldl (fun sum c => sum ^^^ UInt8.ofNat c.toNat) 0
  let digits := ((Nat.toDigits 16 checksum.toNat).map Char.toUpper).leftpad 2 '0'
  appendCut NMEA_SENTENCE_MAX_LENGTH sentence ("*".toList ++ digits ++ "\r\n".toList)

/-- What is sent when no satellite is used, and for a fix that is not final. -/
def blankSentences : List Sentence := [
  putChecksum "$GPGSA,A,1,,,,,,,,,,,,,,,".toList,
  putChecksum "$GPVTG,,T,,M,,N,,K,N".toList,
  putChecksum "$GPRMC,,V,,,,,,,,,,N".toList,
  putChecksum "$GPGGA,,,,,,0,,,,,,,,".toList]

/-! ## SV reports -/

/-- The satellites that a sentence is for. Their numbers have two digits. -/
structure Constellation where
  talker : List Char
  PRN_START : Int
  PRN_END : Int
  talker_length : talker.length = 6
  prn_digits : 0 ≤ PRN_START ∧ PRN_END < 100

def GPS : Constellation := ⟨"$GPGSV".toList, 1, 32, by decide, by decide⟩

def GLONASS : Constellation := ⟨"$GLGSV".toList, 65, 96, by decide, by decide⟩

def Constellation.has (con : Constellation) (sv : GpsSvInfo F) : Bool :=
  con.PRN_START ≤ sv.prn && sv.prn ≤ con.PRN_END

/-- The satellites for one sentence, `n` more at most, and those that are left
    for the next. -/
def nextSvs (con : Constellation) : Nat → List (GpsSvInfo F) →
    List (GpsSvInfo F) × List (GpsSvInfo F)
  | 0, svs => ([], svs)
  | _ + 1, [] => ([], [])
  | n + 1, sv :: svs =>
      if con.has sv then
        let (now, rest) := nextSvs con n svs
        (sv :: now, rest)
      else nextSvs con (n + 1) svs

/-- A satellite in a sentence. -/
def svPieces (sv : GpsSvInfo F) : List (List Char) :=
  (",".toList ++ zeroPad 2 sv.prn ++ ",".toList ++ zeroPad 2 (fl.round sv.elevation) ++
    ",".toList ++ zeroPad 3 (fl.round sv.azimuth) ++ ",".toList) ::
  if fl.pos sv.snr then [zeroPad 2 (fl.round sv.snr)] else []

def gsvHeader (con : Constellation) (sentenceCount sentenceNumber count : Nat) : List Char :=
  con.talker ++ ",".toList ++ zeroPad 0 sentenceCount ++ ",".toList ++
    zeroPad 0 sentenceNumber ++ ",".toList ++ zeroPad 2 count

/-- The sentences from `sentenceNumber` on, `n` of them, and whether all fit. -/
def gsvLoop (con : Constellation) (sentenceCount count : Nat) :
    Nat → Nat → List (GpsSvInfo F) → List Sentence × Bool
  | 0, _, _ => ([], true)
  | n + 1, sentenceNumber, svs =>
      let svNow := (nextSvs con 4 svs).1
      match appendAll NMEA_SENTENCE_MAX_LENGTH []
        (gsvHeader con sentenceCount sentenceNumber count :: svNow.flatMap (svPieces fl)) with
      | none => ([], false)
      | some sentence =>
          let more := gsvLoop con sentenceCount count n (sentenceNumber + 1) (nextSvs con 4 svs).2
          (putChecksum sentence :: more.1, more.2)

/-- The sentences for the satellites of a constellation, and whether all fit. -/
def gsv (con : Constellation) (svs : List (GpsSvInfo F)) : List Sentence × Bool :=
  let count := svs.countP con.has
  if count = 0 then ([putChecksum (con.talker ++ ",1,1,0,".toList)], true)
  else
    let sentenceCount := count / 4 + if count % 4 = 0 then 0 else 1
    gsvLoop fl con sentenceCount count sentenceCount 1 svs

/-- `loc_eng_nmea_generate_sv`, with the dilution of precision if the report has
    it: the cache, and what is sent. -/
def generateSv (cache : NmeaCache F) (svStatus : GpsSvStatus F) (dop : Option (Dop F)) :
    NmeaCache F × List Sentence :=
  let gps := gsv fl GPS svStatus.sv_list
  if !gps.2 then (cache, gps.1)
  else
    let gln := gsv fl GLONASS svStatus.sv_list
    if !gln.2 then (cache, gps.1 ++ gln.1)
    else if svStatus.used_in_fix_mask = 0 then (cache, gps.1 ++ gln.1 ++ blankSentences)
    else (⟨svStatus.used_in_fix_mask, dop.getD (noDop fl)⟩, gps.1 ++ gln.1)

theorem length_nextSvs (con : Constellation) (n : Nat) (svs : List (GpsSvInfo F)) :
    (nextSvs con n svs).1.length ≤ n := by
  induction svs generalizing n with
  | nil => cases n <;> exact Nat.zero_le _
  | cons sv svs ih =>
      cases n with
      | zero => exact Nat.le_refl 0
      | succ n =>
          simp only [nextSvs]
          split
          · exact Nat.succ_le_succ (ih n)
          · exact ih (n + 1)

theorem has_of_mem_nextSvs {con : Constellation} {n : Nat} {svs : List (GpsSvInfo F)}
    {sv : GpsSvInfo F} (h : sv ∈ (nextSvs con n svs).1) : con.has sv = true := by
  induction svs generalizing n with
  | nil => cases n <;> cases h
  | cons sv' svs ih =>
      cases n with
      | zero => cases h
      | succ n =>
          simp only [nextSvs] at h
          split at h
          · rename_i hhas
            rcases List.mem_cons.mp h with rfl | hrest
            · exact hhas
            · exact ih hrest
          · exact ih h

theorem length_zeroPad_round (w : Nat) (hw : w ≤ 10) (x : F) :
    (zeroPad w (fl.round x)).length ≤ 11 := by
  have hint := fl.round_int x
  exact length_zeroPad_le hw (by decide) (by omega)

/-- A satellite of a constellation takes 39 bytes at most. -/
theorem length_svPieces {con : Constellation} {sv : GpsSvInfo F} (h : con.has sv = true) :
    (svPieces fl sv).flatten.length ≤ 39 := by
  simp only [Constellation.has, Bool.and_eq_true, decide_eq_true_eq] at h
  have hrange := con.prn_digits
  have hprn : (zeroPad 2 sv.prn).length ≤ 2 :=
    length_zeroPad_le_of_nonneg (by decide) (by decide) (by omega) (by omega)
  have helevation := length_zeroPad_round fl 2 (by decide) sv.elevation
  have hazimuth := length_zeroPad_round fl 3 (by decide) sv.azimuth
  have hsnr := length_zeroPad_round fl 2 (by decide) sv.snr
  have hcomma : ",".toList.length = 1 := rfl
  unfold svPieces
  split <;> simp only [List.flatten_cons, List.flatten_nil, List.length_append, List.length_nil,
    hcomma] <;> omega

theorem length_flatMap_svPieces {con : Constellation} {svs : List (GpsSvInfo F)}
    (h : ∀ sv ∈ svs, con.has sv = true) :
    (svs.flatMap (svPieces fl)).flatten.length ≤ svs.length * 39 := by
  induction svs with
  | nil => exact Nat.le_refl 0
  | cons sv svs ih =>
      have hfirst := length_svPieces fl (h sv List.mem_cons_self)
      have hrest := ih (fun sv' hsv' => h sv' (List.mem_cons_of_mem sv hsv'))
      rw [List.flatMap_cons, List.flatten_append, List.length_append, List.length_cons]
      omega

theorem length_gsvHeader (con : Constellation) {sentenceCount sentenceNumber count : Nat}
    (h : sentenceCount < 100 ∧ sentenceNumber < 100 ∧ count < 100) :
    (gsvHeader con sentenceCount sentenceNumber count).length ≤ 15 := by
  have htwo : ∀ w n : Nat, w ≤ 2 → n < 100 → (zeroPad w n).length ≤ 2 := fun w n hw hn =>
    length_zeroPad_le_of_nonneg hw (by decide) (by omega) (by omega)
  have hsentences := htwo 0 sentenceCount (by decide) h.1
  have hnumber := htwo 0 sentenceNumber (by decide) h.2.1
  have hcount := htwo 2 count (by decide) h.2.2
  have hcomma : ",".toList.length = 1 := rfl
  simp only [gsvHeader, List.length_append, hcomma, con.talker_length]
  omega

theorem fits_of_length {header : List Char} {pieces : List (List Char)}
    (hheader : header.length ≤ 15) (hpieces : pieces.flatten.length ≤ 4 * 39) :
    ([] : List Char).length + (header :: pieces).flatten.length < NMEA_SENTENCE_MAX_LENGTH := by
  rw [List.flatten_cons, List.length_append, List.length_nil, NMEA_SENTENCE_MAX_LENGTH]
  omega

/-- The text of a sentence up to its checksum. -/
def gsvText (con : Constellation) (sentenceCount sentenceNumber count : Nat)
    (svs : List (GpsSvInfo F)) : Sentence :=
  gsvHeader con sentenceCount sentenceNumber count ++ (svs.flatMap (svPieces fl)).flatten

/-- Four satellites and what is before them take 171 bytes at most, so that the
    next sentence is sent. -/
theorem gsvLoop_succ (con : Constellation) {sentenceCount count sentenceNumber : Nat}
    (h : sentenceCount < 100 ∧ sentenceNumber < 100 ∧ count < 100) (n : Nat)
    (svs : List (GpsSvInfo F)) :
    gsvLoop fl con sentenceCount count (n + 1) sentenceNumber svs =
      let more := gsvLoop fl con sentenceCount count n (sentenceNumber + 1) (nextSvs con 4 svs).2
      (putChecksum (gsvText fl con sentenceCount sentenceNumber count (nextSvs con 4 svs).1) ::
        more.1, more.2) := by
  have hheader : (gsvHeader con sentenceCount sentenceNumber count).length ≤ 15 :=
    length_gsvHeader con h
  have hfour := length_nextSvs con 4 svs
  have hsvs : ((nextSvs con 4 svs).1.flatMap (svPieces fl)).flatten.length ≤
      (nextSvs con 4 svs).1.length * 39 :=
    length_flatMap_svPieces fl fun sv hsv => has_of_mem_nextSvs hsv
  -- The sentence is the header and at most four satellites.
  have hfits := appendAll_of_fits (fits_of_length hheader (Nat.le_trans hsvs (by omega)))
  simp only [gsvLoop, hfits, List.nil_append, List.flatten_cons, gsvText]

theorem gsvLoop_complete (con : Constellation) {sentenceCount count n sentenceNumber : Nat}
    (h : sentenceCount < 100 ∧ sentenceNumber + n ≤ 100 ∧ count < 100)
    (svs : List (GpsSvInfo F)) :
    (gsvLoop fl con sentenceCount count n sentenceNumber svs).2 = true := by
  induction n generalizing sentenceNumber svs with
  | zero => rfl
  | succ n ih =>
      rw [gsvLoop_succ fl con ⟨h.1, by omega, h.2.2⟩]
      exact ih ⟨h.1, by omega, h.2.2⟩ _

theorem gsv_complete (con : Constellation) {svs : List (GpsSvInfo F)}
    (h : svs.length ≤ GPS_MAX_SVS) : (gsv fl con svs).2 = true := by
  have hcount : svs.countP con.has ≤ 32 := Nat.le_trans List.countP_le_length h
  simp only [gsv]
  split
  · rfl
  · refine gsvLoop_complete fl con ⟨?_, ?_, by omega⟩ svs <;> split <;> omega

/-- An SV report keeps its mask if there is something in it, and changes nothing
    otherwise. -/
theorem generateSv_mask (cache : NmeaCache F) (svStatus : GpsSvStatus F)
    (dop : Option (Dop F)) : (generateSv fl cache svStatus dop).1.sv_used_mask =
      if svStatus.used_in_fix_mask = 0 then cache.sv_used_mask
      else svStatus.used_in_fix_mask := by
  simp only [generateSv, gsv_complete fl _ svStatus.num_svs_le, Bool.not_true,
    Bool.false_eq_true, if_false]
  split <;> rfl

/-! ## Positions -/

/-- The loop over the mask, from bit `i` on with `n` bits left, when `svUsedCount`
    satellites have been found. -/
def svUsedLoop : Nat → Nat → BitVec 32 → Nat → List Nat
  | 0, _, _, _ => []
  | n + 1, i, mask, svUsedCount =>
      if mask ≠ 0 ∧ svUsedCount < 32 then
        if mask.getLsbD 0 then i :: svUsedLoop n (i + 1) (mask >>> 1) (svUsedCount + 1)
        else svUsedLoop n (i + 1) (mask >>> 1) svUsedCount
      else []

/-- `svUsedList`, as far as it is filled. -/
def svUsed (mask : BitVec 32) : List Nat := svUsedLoop 32 1 mask 0

def fixType (svUsedCount : Nat) : Char :=
  if svUsedCount = 0 then '1' else if svUsedCount ≤ 3 then '2' else '3'

/-- The fields of the GPGSA sentence up to the satellites. -/
def gpgsaFields (svUsedList : List Nat) : List (List Char) :=
  "$GPGSA".toList :: "A".toList :: [fixType svUsedList.length] ::
    (List.range 12).map fun i => (svUsedList[i]?).elim [] fun sv : Nat => zeroPad 2 sv

/-- They are put together in pieces: the first three in one, then one by one. -/
def gpgsaPieces (svUsedList : List Nat) : List (List Char) :=
  line ',' ((gpgsaFields svUsedList).take 3) ::
    ((gpgsaFields svUsedList).drop 3).map (· ++ ",".toList)

/-- The dilution of precision of the position, or else the one that is cached. -/
def dopText (cached : Dop F) : Option (Dop F) → List Char
  | some dop => fl.fmt dop.pdop ++ ",".toList ++ fl.fmt dop.hdop ++ ",".toList ++ fl.fmt dop.vdop
  | none =>
      if fl.pos cached.pdop && fl.pos cached.hdop && fl.pos cached.vdop then
        fl.fmt cached.pdop ++ ",".toList ++ fl.fmt cached.hdop ++ ",".toList ++ fl.fmt cached.vdop
      else ",,".toList

/-- A position, with the dilution of precision if it has it. The sentences
    behind GPGSA have nothing to do with the satellites: what there is of them,
    and whether all fit, comes with the position. -/
structure PosReport (F : Type) where
  generate_nmea : Bool
  dop : Option (Dop F)
  others : List Sentence
  othersFit : Bool

/-- `loc_eng_nmea_generate_pos`: the cache, and what is sent. -/
def generatePos (cache : NmeaCache F) (pos : PosReport F) : NmeaCache F × List Sentence :=
  if pos.generate_nmea then
    match appendAll NMEA_SENTENCE_MAX_LENGTH [] (gpgsaPieces (svUsed cache.sv_used_mask)) with
    | none => (⟨0, cache.dop⟩, [])
    | some sentence =>
        let gpgsa := putChecksum
          (appendCut NMEA_SENTENCE_MAX_LENGTH sentence (dopText fl cache.dop pos.dop))
        (⟨0, if pos.othersFit then noDop fl else cache.dop⟩, gpgsa :: pos.others)
  else (⟨cache.sv_used_mask, noDop fl⟩, blankSentences)

/-- The satellites a GPGSA sentence lists: its fields from the fourth to the
    fifteenth, but for the empty ones. -/
def listed (sentence : Sentence) : List Nat :=
  ((((sentence.splitOn ',').drop 3).take 12).filter (· ≠ [])).map (Nat.ofDigitChars 10 · 0)

/-- The loop lists the bits of the mask from the lowest. Neither the count nor the
    number of rounds ends it before. -/
theorem svUsedLoop_eq {n i svUsedCount : Nat} {mask : BitVec 32}
    (hmask : ∀ j, n ≤ j → mask.getLsbD j = false) (hcount : svUsedCount + n ≤ 32) :
    svUsedLoop n i mask svUsedCount = ((List.range n).filter mask.getLsbD).map (i + ·) := by
  -- The induction is on the rounds that are left. One round later the mask is
  -- shifted, and what was bit `j + 1` is bit `j`.
  induction n generalizing i mask svUsedCount with
  | zero => rfl
  | succ n ih =>
      have hbit : ∀ j, (mask >>> 1).getLsbD j = mask.getLsbD (j + 1) := fun j => by
        rw [BitVec.getLsbD_ushiftRight, Nat.add_comm]
      have hmask' : ∀ j, n ≤ j → (mask >>> 1).getLsbD j = false := fun j hj => by
        rw [hbit, hmask (j + 1) (by omega)]
      have hrest : ∀ count, count + n ≤ 32 → svUsedLoop n (i + 1) (mask >>> 1) count =
          (((List.range n).map Nat.succ).filter mask.getLsbD).map (i + ·) := by
        intro count hroom
        rw [ih hmask' hroom, List.filter_map, List.map_map]
        have hsame : (mask >>> 1).getLsbD = mask.getLsbD ∘ Nat.succ := funext hbit
        rw [hsame]
        exact List.map_congr_left fun j _ => by
          rw [Function.comp_apply, Nat.add_assoc, Nat.add_comm 1]
      rw [svUsedLoop, List.range_succ_eq_map]
      -- The loop ends early when no bit is left, and then there is nothing to list.
      by_cases hzero : mask = 0
      · have hnone : ∀ j, mask.getLsbD j = false := fun j => by
          rw [hzero]
          exact BitVec.getLsbD_zero
        rw [if_neg (fun h => h.1 hzero), List.filter_eq_nil_iff.mpr (by simp [hnone])]
        rfl
      · -- There is room, since no more than 32 rounds have been made.
        rw [if_pos ⟨hzero, by omega⟩]
        by_cases hset : mask.getLsbD 0 = true
        · rw [if_pos hset, hrest _ (by omega), List.filter_cons_of_pos hset]
          rfl
        · rw [if_neg hset, hrest _ (by omega), List.filter_cons_of_neg hset]

theorem mem_svUsedLoop {n i svUsedCount sv : Nat} {mask : BitVec 32}
    (hmask : ∀ j, n ≤ j → mask.getLsbD j = false) (hcount : svUsedCount + n ≤ 32) :
    sv ∈ svUsedLoop n i mask svUsedCount ↔ ∃ j, mask.getLsbD j = true ∧ sv = i + j := by
  rw [svUsedLoop_eq hmask hcount, List.mem_map]
  constructor
  · rintro ⟨j, hj, rfl⟩
    exact ⟨j, (List.mem_filter.mp hj).2, rfl⟩
  · rintro ⟨j, hj, rfl⟩
    -- A bit that is set is one of those that are looked at.
    have hlt : j < n := by
      by_contra hge
      rw [hmask j (Nat.le_of_not_lt hge)] at hj
      cases hj
    exact ⟨j, List.mem_filter.mpr ⟨List.mem_range.mpr hlt, hj⟩, rfl⟩

/-- The satellites are counted from 1, the bits from 0. -/
theorem mem_svUsed {mask : BitVec 32} {sv : Nat} :
    sv ∈ svUsed mask ↔ ∃ j, mask.getLsbD j = true ∧ sv = 1 + j :=
  mem_svUsedLoop (fun j hj => BitVec.getLsbD_of_ge mask j hj) (by decide)

theorem svUsed_lt {mask : BitVec 32} {sv : Nat} (h : sv ∈ svUsed mask) : sv < 100 := by
  rcases mem_svUsed.mp h with ⟨j, hj, rfl⟩
  have hlt := BitVec.lt_of_getLsbD hj
  omega

theorem svUsed_ne_nil {mask : BitVec 32} (h : mask ≠ 0) : svUsed mask ≠ [] := by
  intro hnil
  refine h (BitVec.eq_of_getLsbD_eq fun j _ => ?_)
  show _ = (0#32).getLsbD j
  rw [BitVec.getLsbD_zero, Bool.eq_false_iff]
  intro hj
  have hmem : 1 + j ∈ svUsed mask := mem_svUsed.mpr ⟨j, hj, rfl⟩
  rw [hnil] at hmem
  cases hmem

/-! ## The GPGSA sentence -/

theorem flatten_gpgsaPieces (svUsedList : List Nat) :
    (gpgsaPieces svUsedList).flatten = line ',' (gpgsaFields svUsedList) := by
  rw [gpgsaPieces, List.flatten_cons]
  show (_ : List (List Char)).flatten ++ (List.map _ _).flatten = _
  rw [← List.flatten_append]
  show (List.map (· ++ [',']) _ ++ List.map (· ++ [',']) _).flatten = _
  rw [← List.map_append, List.take_append_drop]
  rfl

theorem length_field_le {svUsedList : List Nat} (h : ∀ sv ∈ svUsedList, sv < 100) (i : Nat) :
    ((svUsedList[i]?).elim [] fun sv : Nat => zeroPad 2 sv).length ≤ 2 := by
  cases hsv : svUsedList[i]? with
  | none => exact Nat.zero_le 2
  | some sv =>
      have hlt := h sv (List.mem_of_getElem? hsv)
      exact length_zeroPad_le_of_nonneg (by decide) (by decide) (by omega) (by omega)

/-- The head of the sentence and twelve satellites take 47 bytes at most. -/
theorem length_gpgsa {svUsedList : List Nat} (h : ∀ sv ∈ svUsedList, sv < 100) :
    (line ',' (gpgsaFields svUsedList)).length ≤ 47 := by
  have hfields : ∀ f ∈ (List.range 12).map fun i =>
      (svUsedList[i]?).elim [] fun sv : Nat => zeroPad 2 sv, f.length ≤ 2 := by
    intro f hf
    rcases List.mem_map.mp hf with ⟨i, -, rfl⟩
    exact length_field_le h i
  have htwelve := length_line_le ',' hfields
  have hhead : "$GPGSA".toList.length = 6 ∧ "A".toList.length = 1 := by decide
  simp only [List.length_map, List.length_range] at htwelve
  simp only [gpgsaFields, line_cons, List.length_append, List.length_cons, List.length_nil,
    hhead.1, hhead.2]
  omega

/-- No field has a comma in it. -/
theorem comma_notMem_gpgsaFields {svUsedList : List Nat} :
    ∀ f ∈ gpgsaFields svUsedList, ',' ∉ f := by
  intro f hf
  simp only [gpgsaFields, List.mem_cons, List.mem_map, List.mem_range] at hf
  rcases hf with rfl | rfl | rfl | ⟨i, -, rfl⟩
  · decide
  · decide
  · simp only [fixType, List.mem_singleton]
    split
    · decide
    · split <;> decide
  · cases svUsedList[i]? with
    | none => exact List.not_mem_nil
    | some sv => exact fun hcomma => absurd (isDigit_of_mem_zeroPad hcomma) (by decide)

/-- The fields for `n` satellites, read back. -/
theorem read_fields (svUsedList : List Nat) (n : Nat) :
    ((((List.range n).map fun i => (svUsedList[i]?).elim [] fun sv : Nat => zeroPad 2 sv).filter
      (· ≠ [])).map (Nat.ofDigitChars 10 · 0)) = svUsedList.take n := by
  induction n with
  | zero => rfl
  | succ n ih =>
      rw [List.range_succ, List.map_append, List.filter_append, List.map_append, ih,
        List.take_add_one]
      congr 1
      rw [List.map_singleton]
      cases svUsedList[n]? with
      | none => rfl
      | some sv => simp [zeroPad_ne_nil, ofDigitChars_zeroPad]

/-- A sentence that begins with these fields lists the first twelve satellites. -/
theorem listed_of_prefix {svUsedList : List Nat} {sentence : Sentence}
    (h : gpgsaFields svUsedList <+: sentence.splitOn ',') :
    listed sentence = svUsedList.take 12 := by
  rcases h with ⟨rest, hrest⟩
  have hfields : (((gpgsaFields svUsedList ++ rest).drop 3).take 12) =
      (List.range 12).map fun i => (svUsedList[i]?).elim [] fun sv : Nat => zeroPad 2 sv := by
    simp [gpgsaFields]
  rw [listed, ← hrest, hfields, read_fields]

theorem putChecksum_append {sentence : Sentence}
    (h : sentence.length < NMEA_SENTENCE_MAX_LENGTH) (dop : List Char) :
    ∃ rest, putChecksum (sentence ++ dop) = sentence ++ rest := by
  rw [putChecksum, appendCut, List.append_assoc]
  exact appendCut_of_fits h _

/-- A position that is final has a GPGSA sentence with the fields for the
    satellites of the mask, and the mask is used up. -/
theorem generatePos_fields (cache : NmeaCache F) {pos : PosReport F}
    (h : pos.generate_nmea = true) :
    (generatePos fl cache pos).1 = ⟨0, if pos.othersFit then noDop fl else cache.dop⟩ ∧
      ∃ gpgsa, (generatePos fl cache pos).2 = gpgsa :: pos.others ∧
        gpgsaFields (svUsed cache.sv_used_mask) <+: gpgsa.splitOn ',' := by
  have hlength : (line ',' (gpgsaFields (svUsed cache.sv_used_mask))).length ≤ 47 :=
    length_gpgsa fun sv => svUsed_lt
  have hfits : ([] : List Char).length +
      (gpgsaPieces (svUsed cache.sv_used_mask)).flatten.length < NMEA_SENTENCE_MAX_LENGTH := by
    rw [flatten_gpgsaPieces]
    exact Nat.lt_of_le_of_lt (Nat.add_le_add (Nat.le_refl 0) hlength) (by decide)
  have hpieces := appendAll_of_fits hfits
  rw [flatten_gpgsaPieces, List.nil_append] at hpieces
  simp only [generatePos, if_pos h, hpieces]
  refine ⟨trivial, _, rfl, ?_⟩
  -- What comes behind the satellites may be cut, they may not.
  have hroom : (line ',' (gpgsaFields (svUsed cache.sv_used_mask))).length <
      NMEA_SENTENCE_MAX_LENGTH := Nat.lt_of_le_of_lt hlength (by decide)
  rcases appendCut_of_fits hroom (dopText fl cache.dop pos.dop) with ⟨dop, hdop⟩
  rcases putChecksum_append hroom dop with ⟨rest, hrest⟩
  rw [hdop, hrest, splitOn_line comma_notMem_gpgsaFields]
  exact List.prefix_append _ _

/-- So it lists the satellites of the mask. -/
theorem generatePos_gpgsa (cache : NmeaCache F) {pos : PosReport F}
    (h : pos.generate_nmea = true) :
    (generatePos fl cache pos).1.sv_used_mask = 0 ∧
      ∃ gpgsa, (generatePos fl cache pos).2 = gpgsa :: pos.others ∧
        listed gpgsa = (svUsed cache.sv_used_mask).take 12 := by
  rcases generatePos_fields fl cache h with ⟨hcache, gpgsa, hsent, hfields⟩
  exact ⟨by rw [hcache], gpgsa, hsent, listed_of_prefix hfields⟩

end Nmea

end Victara
