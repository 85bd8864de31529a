import Victara.Engine.Nmea
import Victara.Engine.NmeaChecksum
import Victara.Lib.Chunks

/-!
# The Satellites in View

The GSV sentences of an SV report (`NmeaText`) are read back: what is in front
of the checksum, between commas, is the sentence's number and the counts, and
then four fields for each satellite. One index runs through the list for all
sentences of a constellation. A sentence stops at its fourth satellite, so that
the next one goes on behind it.

`gsvLoop_eq` says that the sentences are those for the chunks of four of the
satellites in view, whichever constellations the list mixes. Then one sentence
is read back, from the checksum at its end to the fields at its beginning, and
the chunks put together are the list of the satellites.

## Main definitions

* `gsvFields`: The fields of a sentence.
* `svFields`: Those of a satellite.
* `Partitioned`: The sentences of a constellation have each satellite once.
* `mixedSvs`: Five GPS satellites, with one of GLONASS and one of neither among
  them.

## Theorems

* `nextSvs_fst`, `filter_nextSvs_snd`: What a sentence takes, and what it
  leaves.
* `gsvLoop_eq`: The sentences are those of the chunks of four.
* `putChecksum_of_fits`: A sentence that leaves room for its checksum is cut
  nowhere.
* `gsvFields_putChecksum`: A sentence is read back.
* `splitOn_svPieces`: Four fields for each satellite, behind one that comes
  before.
* `gsvFields_gsvText`: The text of a sentence is read back, field by field.
* `gsv_partitioned`: The satellites of a constellation.
* `generateSv_partitions`: Those of both, in any mixture.
-/

namespace Victara

namespace Nmea

open Printf Chunks

variable {F : Type} (fl : NmeaFloat F)

/-- What is between the commas of a sentence, up to the checksum. -/
def gsvFields (sentence : Sentence) : List (List Char) :=
  (sentence.takeWhile (· ≠ '*')).splitOn ','

/-- The number of a satellite, its elevation, its azimuth, and its signal if it
    has one. -/
def svFields (sv : GpsSvInfo F) : List (List Char) := [
  zeroPad 2 sv.prn,
  zeroPad 2 (fl.round sv.elevation),
  zeroPad 3 (fl.round sv.azimuth),
  if fl.pos sv.snr then zeroPad 2 (fl.round sv.snr) else []]

/-- The sentences have one to four satellites each and are numbered, and
    together they have those of the constellation, each once and in order. -/
def Partitioned (con : Constellation) (svs : List (GpsSvInfo F)) (sent : List Sentence) : Prop :=
  let count := (svs.filter con.has).length
  ∃ groups : List (List (GpsSvInfo F)),
    groups.flatten = svs.filter con.has ∧
    groups.length = (count + 3) / 4 ∧
    (∀ g ∈ groups, 1 ≤ g.length ∧ g.length ≤ 4) ∧
    sent.map gsvFields = groups.mapIdx fun i g =>
      con.talker :: zeroPad 0 groups.length :: zeroPad 0 (i + 1 : Nat) :: zeroPad 2 count ::
        g.flatMap (svFields fl)

/-! ## What a sentence takes -/

theorem nextSvs_fst (con : Constellation) (n : Nat) (svs : List (GpsSvInfo F)) :
    (nextSvs con n svs).1 = (svs.filter con.has).take n := by
  induction svs generalizing n with
  | nil => cases n <;> rfl
  | cons sv svs ih =>
      cases n with
      | zero => rfl
      | succ n =>
          by_cases hhas : con.has sv = true
          · rw [nextSvs, if_pos hhas, List.filter_cons_of_pos hhas, List.take_succ_cons, ← ih n]
          · rw [nextSvs, if_neg hhas, List.filter_cons_of_neg hhas, ih (n + 1)]

theorem filter_nextSvs_snd (con : Constellation) (n : Nat) (svs : List (GpsSvInfo F)) :
    (nextSvs con n svs).2.filter con.has = (svs.filter con.has).drop n := by
  induction svs generalizing n with
  | nil => cases n <;> rfl
  | cons sv svs ih =>
      cases n with
      | zero => rfl
      | succ n =>
          by_cases hhas : con.has sv = true
          · rw [nextSvs, if_pos hhas, List.filter_cons_of_pos hhas, List.drop_succ_cons, ← ih n]
          · rw [nextSvs, if_neg hhas, List.filter_cons_of_neg hhas, ih (n + 1)]

theorem length_gsvText (con : Constellation) {sentenceCount sentenceNumber count : Nat}
    (h : sentenceCount < 100 ∧ sentenceNumber < 100 ∧ count < 100) {svs : List (GpsSvInfo F)}
    (hsvs : ∀ sv ∈ svs, con.has sv = true) (hfour : svs.length ≤ 4) :
    (gsvText fl con sentenceCount sentenceNumber count svs).length ≤ 171 := by
  have hheader := length_gsvHeader con h
  have hpieces := length_flatMap_svPieces fl hsvs
  rw [gsvText, List.length_append]
  omega

/-- The sentences are those of the chunks of four of the constellation. -/
theorem gsvLoop_eq (con : Constellation) {sentenceCount count n sentenceNumber : Nat}
    (h : sentenceCount < 100 ∧ sentenceNumber + n ≤ 100 ∧ count < 100)
    (svs : List (GpsSvInfo F)) :
    (gsvLoop fl con sentenceCount count n sentenceNumber svs).1 =
      (List.range n).map fun k => putChecksum (gsvText fl con sentenceCount (sentenceNumber + k)
        count (chunk 4 (svs.filter con.has) k)) := by
  induction n generalizing sentenceNumber svs with
  | zero => rfl
  | succ n ih =>
      have hnow : sentenceCount < 100 ∧ sentenceNumber < 100 ∧ count < 100 :=
        ⟨h.1, by omega, h.2.2⟩
      have hmore : sentenceCount < 100 ∧ sentenceNumber + 1 + n ≤ 100 ∧ count < 100 :=
        ⟨h.1, by omega, h.2.2⟩
      have hfirst : (nextSvs con 4 svs).1 = chunk 4 (svs.filter con.has) 0 := nextSvs_fst con 4 svs
      -- What is left for the next sentence is what the next chunk begins with.
      have hnext : ∀ k, chunk 4 ((nextSvs con 4 svs).2.filter con.has) k =
          chunk 4 (svs.filter con.has) (k + 1) := by
        intro k
        rw [filter_nextSvs_snd, chunk, chunk, List.drop_drop, Nat.mul_succ, Nat.add_comm]
      rw [gsvLoop_succ fl con hnow, List.range_succ_eq_map, List.map_cons, List.map_map]
      simp only [ih hmore, hnext, hfirst]
      congr 1
      refine List.map_congr_left fun k _ => ?_
      rw [Function.comp_apply, Nat.succ_eq_add_one, Nat.add_assoc, Nat.add_comm 1]

/-! ## Reading a sentence -/

/-- A sentence that leaves room for its checksum is cut nowhere. -/
theorem putChecksum_of_fits {sentence : Sentence}
    (h : sentence.length + 5 < NMEA_SENTENCE_MAX_LENGTH) :
    ∃ digits : List Char, putChecksum sentence = sentence ++ '*' :: (digits ++ "\r\n".toList) := by
  refine ⟨((Nat.toDigits 16 ((sentence.drop 1).foldl (fun sum c => sum ^^^ UInt8.ofNat c.toNat)
    0).toNat).map Char.toUpper).leftpad 2 '0', ?_⟩
  have hends : "*".toList.length = 1 ∧ "\r\n".toList.length = 2 := by decide
  rw [putChecksum, appendCut, List.take_of_length_le]
  · rfl
  · simp only [List.length_append, NmeaSend.length_checksumDigits, hends.1, hends.2]
    omega

/-- What is in front of the checksum is split into its fields. -/
theorem gsvFields_putChecksum {sentence : Sentence} (hstar : '*' ∉ sentence)
    (h : sentence.length + 5 < NMEA_SENTENCE_MAX_LENGTH) :
    gsvFields (putChecksum sentence) = sentence.splitOn ',' := by
  rcases putChecksum_of_fits h with ⟨digits, hsentence⟩
  rw [gsvFields, hsentence, Buffer.takeWhile_append_cons hstar]

theorem comma_notMem_zeroPad (w : Nat) (x : Int) : ',' ∉ zeroPad w x := fun h =>
  absurd (mem_zeroPad h) (by decide)

theorem star_notMem_zeroPad (w : Nat) (x : Int) : '*' ∉ zeroPad w x := fun h =>
  absurd (mem_zeroPad h) (by decide)

/-- Four fields for each satellite, behind one that comes before. -/
theorem splitOn_svPieces {f : List Char} (hf : ',' ∉ f) (svs : List (GpsSvInfo F)) :
    (f ++ (svs.flatMap (svPieces fl)).flatten).splitOn ',' = f :: svs.flatMap (svFields fl) := by
  induction svs generalizing f with
  | nil =>
      rw [List.flatMap_nil, List.flatten_nil, List.append_nil, List.flatMap_nil]
      exact List.splitOn_eq_singleton hf
  | cons sv svs ih =>
      -- The signal, which may be empty, is in front of the next satellite.
      have hsnr : ',' ∉ if fl.pos sv.snr then zeroPad 2 (fl.round sv.snr) else [] := by
        split
        · exact comma_notMem_zeroPad _ _
        · exact List.not_mem_nil
      have hfields : ∀ g ∈ [f, zeroPad 2 sv.prn, zeroPad 2 (fl.round sv.elevation),
          zeroPad 3 (fl.round sv.azimuth)], ',' ∉ g := by
        simp [hf, comma_notMem_zeroPad]
      have htext : f ++ ((sv :: svs).flatMap (svPieces fl)).flatten =
          line ',' [f, zeroPad 2 sv.prn, zeroPad 2 (fl.round sv.elevation),
            zeroPad 3 (fl.round sv.azimuth)] ++
          ((if fl.pos sv.snr then zeroPad 2 (fl.round sv.snr) else []) ++
            (svs.flatMap (svPieces fl)).flatten) := by
        rw [List.flatMap_cons, List.flatten_append]
        simp only [svPieces, line]
        split <;> simp
      rw [htext, splitOn_line hfields, ih hsnr, List.flatMap_cons]
      rfl

/-- The text of a sentence is read back, field by field. -/
theorem gsvFields_gsvText {con : Constellation} (htalker : ',' ∉ con.talker ∧ '*' ∉ con.talker)
    {sentenceCount sentenceNumber count : Nat}
    (h : sentenceCount < 100 ∧ sentenceNumber < 100 ∧ count < 100) {svs : List (GpsSvInfo F)}
    (hsvs : ∀ sv ∈ svs, con.has sv = true) (hfour : svs.length ≤ 4) :
    gsvFields (putChecksum (gsvText fl con sentenceCount sentenceNumber count svs)) =
      con.talker :: zeroPad 0 sentenceCount :: zeroPad 0 sentenceNumber :: zeroPad 2 count ::
        svs.flatMap (svFields fl) := by
  have hlength := length_gsvText fl con h hsvs hfour
  have hroom : (gsvText fl con sentenceCount sentenceNumber count svs).length + 5 <
      NMEA_SENTENCE_MAX_LENGTH := Nat.lt_of_le_of_lt (Nat.add_le_add_right hlength 5) (by decide)
  have hcomma : '*' ∉ ",".toList := by decide
  -- The only star is that of the checksum.
  have hstar : '*' ∉ gsvText fl con sentenceCount sentenceNumber count svs := by
    intro hmem
    simp only [gsvText, gsvHeader, List.mem_append, htalker.2, hcomma, star_notMem_zeroPad,
      List.mem_flatten, List.mem_flatMap, or_self, false_or] at hmem
    rcases hmem with ⟨piece, ⟨sv, -, hpiece⟩, hmem⟩
    simp only [svPieces, List.mem_cons] at hpiece
    rcases hpiece with rfl | hpiece
    · simp [star_notMem_zeroPad] at hmem
    · split at hpiece
      · rw [List.mem_singleton.mp hpiece] at hmem
        exact star_notMem_zeroPad _ _ hmem
      · cases hpiece
  have hfields : ∀ g ∈ [con.talker, zeroPad 0 sentenceCount, zeroPad 0 sentenceNumber],
      ',' ∉ g := by
    simp [htalker.1, comma_notMem_zeroPad]
  have htext : gsvText fl con sentenceCount sentenceNumber count svs =
      line ',' [con.talker, zeroPad 0 sentenceCount, zeroPad 0 sentenceNumber] ++
        (zeroPad 2 count ++ (svs.flatMap (svPieces fl)).flatten) := by
    simp [gsvText, gsvHeader, line]
  rw [gsvFields_putChecksum hstar hroom, htext, splitOn_line hfields,
    splitOn_svPieces fl (comma_notMem_zeroPad 2 count)]
  rfl

/-! ## All sentences -/

theorem gsv_partitioned {con : Constellation} (htalker : ',' ∉ con.talker ∧ '*' ∉ con.talker)
    {svs : List (GpsSvInfo F)} (h : svs.length ≤ GPS_MAX_SVS)
    (hsome : 0 < (svs.filter con.has).length) :
    Partitioned fl con svs (gsv fl con svs).1 := by
  have hcount : svs.countP con.has = (svs.filter con.has).length := List.countP_eq_length_filter
  have hle : (svs.filter con.has).length ≤ 32 := Nat.le_trans (List.length_filter_le _ _) h
  have hsentences : (svs.filter con.has).length / 4 +
      (if (svs.filter con.has).length % 4 = 0 then 0 else 1) =
        ((svs.filter con.has).length + 3) / 4 := by
    split <;> omega
  have hbound : ((svs.filter con.has).length + 3) / 4 < 100 ∧
      1 + ((svs.filter con.has).length + 3) / 4 ≤ 100 ∧ (svs.filter con.has).length < 100 := by
    omega
  have hsent := gsvLoop_eq fl con hbound svs
  refine ⟨(List.range (((svs.filter con.has).length + 3) / 4)).map (chunk 4 (svs.filter con.has)),
    ?_, by rw [List.length_map, List.length_range], ?_, ?_⟩
  -- The groups are the whole constellation, none is empty, and each has its sentence.
  · rw [← List.flatMap_def, flatMap_chunk]
    exact List.take_of_length_le (by omega)
  · intro g hg
    rcases List.mem_map.mp hg with ⟨k, hk, rfl⟩
    have hlt := List.mem_range.mp hk
    rw [length_chunk]
    omega
  · simp only [gsv, hcount, if_neg (Nat.ne_of_gt hsome), hsentences, hsent]
    rw [List.map_map]
    refine List.ext_getElem (by simp) fun i hi _ => ?_
    rw [List.length_map, List.length_range] at hi
    have hhas : ∀ sv ∈ chunk 4 (svs.filter con.has) i, con.has sv = true := fun sv hsv =>
      (List.mem_filter.mp (List.mem_of_mem_drop (List.mem_of_mem_take hsv))).2
    have hnumbers : ((svs.filter con.has).length + 3) / 4 < 100 ∧ 1 + i < 100 ∧
        (svs.filter con.has).length < 100 := by omega
    have hfour : (chunk 4 (svs.filter con.has) i).length ≤ 4 := by
      rw [length_chunk]
      omega
    have hread := gsvFields_gsvText fl htalker hnumbers hhas hfour
    rw [Nat.add_comm 1 i] at hread
    simp only [List.getElem_map, List.getElem_range, Function.comp_apply, hread,
      List.getElem_mapIdx, List.length_map, List.length_range, Nat.add_comm 1]

/-- No sentence of an SV report fails, and those of each constellation that is
    in view partition its satellites. It is said of the fields of the sentences
    as they are read at the commas, so that the numbers in the text are what is
    compared. -/
theorem generateSv_partitions (cache : NmeaCache F) (svStatus : GpsSvStatus F)
    (dop : Option (Dop F)) :
    (generateSv fl cache svStatus dop).2 =
        (gsv fl GPS svStatus.sv_list).1 ++ (gsv fl GLONASS svStatus.sv_list).1 ++
          (if svStatus.used_in_fix_mask = 0 then blankSentences else []) ∧
      ∀ con ∈ [GPS, GLONASS], (gsv fl con svStatus.sv_list).2 = true ∧
        (0 < (svStatus.sv_list.filter con.has).length →
          Partitioned fl con svStatus.sv_list (gsv fl con svStatus.sv_list).1) := by
  have hcomplete := fun con => gsv_complete fl con svStatus.num_svs_le
  constructor
  · simp only [generateSv, hcomplete, Bool.not_true, Bool.false_eq_true, if_false]
    split
    · rfl
    · rw [List.append_nil]
  · intro con hcon
    have htalker : ',' ∉ con.talker ∧ '*' ∉ con.talker := by
      rcases List.mem_pair.mp hcon with rfl | rfl <;> decide
    exact ⟨hcomplete con, gsv_partitioned fl htalker svStatus.num_svs_le⟩

/-- Five GPS satellites, with one of GLONASS and one of neither among them. -/
def mixedSvs : GpsSvStatus UInt8 where
  sv_list := [⟨7, 40, 30, 200⟩, ⟨70, 35, 10, 90⟩, ⟨9, 0, 5, 15⟩, ⟨120, 20, 1, 2⟩, ⟨12, 33, 60, 180⟩,
    ⟨31, 28, 45, 255⟩, ⟨32, 0, 0, 1⟩]
  num_svs_le := by decide
  used_in_fix_mask := 0

theorem generateSv_partitions_mixed :
    Partitioned wholeFloat GPS mixedSvs.sv_list (gsv wholeFloat GPS mixedSvs.sv_list).1 ∧
      Partitioned wholeFloat GLONASS mixedSvs.sv_list (gsv wholeFloat GLONASS mixedSvs.sv_list).1 :=
  let hcons := (generateSv_partitions wholeFloat ⟨0, noDop wholeFloat⟩ mixedSvs none).2
  ⟨(hcons GPS (by simp)).2 (by decide), (hcons GLONASS (by simp)).2 (by decide)⟩

end Nmea

end Victara
