import Mathlib.Data.List.Forall2
import Victara.Lib.Mask

/-!
# Satellite Reports

`LocApiV02::reportSv`: a satellite report of the modem is converted for the
framework. Up to 32 satellites are gone through. Each is written to the next
entry of the result, which is not taken if the system of the satellite is not
supported. An entry has the number of the satellite in a numbering that all the
systems share, and GPS satellites have a bit in three masks as well.

The entry of a satellite without a valid number is taken all the same, and has
the number 0. So has the entry of an SBAS satellite whose number is 87. The bit
of a GPS satellite is a shifted int, and nothing can be said of a number above
32 that sets one.

A float is its bits here. `sizeof(GpsSvStatus)`, which goes to the entries of
GPS satellites, is from a header that is not in the source.

The loop writes each satellite to the entry behind the last one that was taken,
and takes that if the system is supported. So the entries at any time are those
of the satellites that were kept so far, and the masks have the bits of the GPS
satellites among them: `svLoop_spec` is that, and says in which case there is no
result. A report is then as it should be if no satellite that is kept has the
number 0, and no bit is shifted too far.

## Main definitions

* `SvSystem`: `qmiLocSvSystemEnumT_v02`.
* `SvStatus`: `qmiLocSvStatusEnumT_v02`.
* `FloatBits`: The bits of a float.
* `SvInfo`, `GnssSvInfoInd`: A satellite and a report of the modem.
* `GpsSvInfo`, `GpsSvStatus`: An entry and a report to the framework.
* `SvFlag`: What the masks are about.
* `valid`: A bit of `validMask` is set.
* `identified`: The system and the number are valid, and there is a number.
* `zero`: What `memset` leaves.
* `fill`: What is valid of the rest goes to the entry.
* `current`: `SvStatus.sv_list[SvStatus.num_svs]`.
* `entries`: The entries that are reported.
* `mark`: `mask |= (1 << (gnssSvId-1))` for a satellite that has the flag.
* `addGps`: The branch of a GPS satellite.
* `addRest`: What follows the branches.
* `addSv`, `svLoop`, `reportSv`: The conversion.
* `GnssSvInfoInd.gone`: The satellites that the loop goes through.
* `Holds`: The entries taken so far; all the others are as `memset` has left
  them.
* `Writes`: The entry that is being written, after those.
* `Overflows`: A GPS satellite that sets a bit of a mask has a number that is
  too large.
* `Marks`: A GPS satellite sets a bit of a mask.
* `prn`: The number of a satellite that is identified, by its system.
* `SvInfo.entry`: The entry of a satellite by itself.
* `kept`: The satellites whose entry is taken.
* `GnssSvInfoInd.valid`: The satellites of a report.
* `Stems`: The entry of an identified satellite of a supported system, with a
  number.
* `Converted`: What a report should be.
* `Clean`: The satellites that are converted well.
* `nothingValid`: A report of one satellite, of which nothing is valid.

## Theorems

* `mark_spec`, `addGps_spec`, `addSv_other`, `addSv_spec`: One satellite.
* `addGps_eq_none_iff`: One mask without a value is enough.
* `svLoop_spec`: All of them.
* `reportSv_converted_iff`: The reports that are as they should be.
-/

namespace Victara

namespace LocApi

open Mask

/-- `qmiLocSvSystemEnumT_v02`. -/
abbrev SvSystem := Int

def eQMI_LOC_SV_SYSTEM_GPS : SvSystem := 1

def eQMI_LOC_SV_SYSTEM_SBAS : SvSystem := 3

def eQMI_LOC_SV_SYSTEM_GLONASS : SvSystem := 5

def eQMI_LOC_SV_SYSTEM_BDS : SvSystem := 6

/-- `qmiLocSvStatusEnumT_v02`. -/
abbrev SvStatus := Int

def eQMI_LOC_SV_STATUS_TRACK : SvStatus := 3

/-- The bits of a float. -/
abbrev FloatBits := BitVec 32

/-- `qmiLocSvInfoStructT_v02`, without the health. -/
structure SvInfo where
  validMask : BitVec 32
  system : SvSystem
  gnssSvId : UInt16
  svStatus : SvStatus
  svInfoMask : BitVec 8
  elevation : FloatBits
  azimuth : FloatBits
  snr : FloatBits
  deriving DecidableEq, Repr

/-- `qmiLocEventGnssSvInfoIndMsgT_v02`, with the first `svList_len` satellites. -/
structure GnssSvInfoInd where
  svList_valid : UInt8
  svList : List SvInfo
  deriving DecidableEq, Repr

structure GpsSvInfo where
  size : Nat
  prn : Int
  snr : FloatBits
  elevation : FloatBits
  azimuth : FloatBits
  deriving DecidableEq, Repr

def GPS_MAX_SVS : Nat := 32

/-- `sv_list` has `GPS_MAX_SVS` entries. -/
structure GpsSvStatus where
  num_svs : Nat
  sv_list : List GpsSvInfo
  ephemeris_mask : BitVec 32
  almanac_mask : BitVec 32
  used_in_fix_mask : BitVec 32
  deriving DecidableEq, Repr

/-- Each of them has a mask. -/
inductive SvFlag
  | ephemeris | almanac | tracked
  deriving DecidableEq, Repr

namespace SvInfo

/-- A bit of `validMask` is set. -/
def valid (sv : SvInfo) (bit : BitVec 32) : Bool := sv.validMask &&& bit != 0#32

/-- The system and the number are valid, and there is a number. -/
def identified (sv : SvInfo) : Bool := sv.valid 1#32 && sv.valid 2#32 && sv.gnssSvId != 0

def has (sv : SvInfo) : SvFlag → Bool
  | .ephemeris => sv.valid 0x10#32 && sv.svInfoMask &&& 1#8 != 0#8
  | .almanac => sv.valid 0x10#32 && sv.svInfoMask &&& 2#8 != 0#8
  | .tracked => sv.valid 8#32 && sv.svStatus == eQMI_LOC_SV_STATUS_TRACK

def supported (sv : SvInfo) : Bool :=
  sv.system == eQMI_LOC_SV_SYSTEM_GPS || sv.system == eQMI_LOC_SV_SYSTEM_SBAS ||
    sv.system == eQMI_LOC_SV_SYSTEM_GLONASS || sv.system == eQMI_LOC_SV_SYSTEM_BDS

end SvInfo

namespace GpsSvInfo

/-- What `memset` leaves. -/
def zero : GpsSvInfo where
  size := 0
  prn := 0
  snr := 0#32
  elevation := 0#32
  azimuth := 0#32

/-- What is valid of the rest goes to the entry. -/
def fill (e : GpsSvInfo) (sv : SvInfo) : GpsSvInfo where
  size := e.size
  prn := e.prn
  snr := if sv.valid 0x80#32 then sv.snr else e.snr
  elevation := if sv.valid 0x20#32 then sv.elevation else e.elevation
  azimuth := if sv.valid 0x40#32 then sv.azimuth else e.azimuth

end GpsSvInfo

namespace GpsSvStatus

def zero : GpsSvStatus where
  num_svs := 0
  sv_list := List.replicate GPS_MAX_SVS .zero
  ephemeris_mask := 0#32
  almanac_mask := 0#32
  used_in_fix_mask := 0#32

/-- `SvStatus.sv_list[SvStatus.num_svs]`. -/
def current (st : GpsSvStatus) : GpsSvInfo := st.sv_list[st.num_svs]?.getD .zero

def setCurrent (st : GpsSvStatus) (e : GpsSvInfo) : GpsSvStatus :=
  { st with sv_list := st.sv_list.set st.num_svs e }

def setPrn (st : GpsSvStatus) (prn : Int) : GpsSvStatus :=
  st.setCurrent { st.current with prn := prn }

def mask (st : GpsSvStatus) : SvFlag → BitVec 32
  | .ephemeris => st.ephemeris_mask
  | .almanac => st.almanac_mask
  | .tracked => st.used_in_fix_mask

/-- The entries that are reported. -/
def entries (st : GpsSvStatus) : List GpsSvInfo := st.sv_list.take st.num_svs

end GpsSvStatus

/-- `mask |= (1 << (gnssSvId-1))` for a satellite that has the flag. -/
def mark (mask : BitVec 32) (has : Bool) (gnssSvId : UInt16) : Option (BitVec 32) :=
  if has then (intShl (gnssSvId.toNat - 1)).map fun bit => mask ||| bit else some mask

section

variable (sizeofGpsSvStatus : Nat)

/-- The branch of a GPS satellite. -/
def addGps (st : GpsSvStatus) (sv : SvInfo) : Option GpsSvStatus :=
  let st := st.setCurrent
    { st.current with size := sizeofGpsSvStatus, prn := sv.gnssSvId.toNat }
  (mark st.ephemeris_mask (sv.has .ephemeris) sv.gnssSvId).bind fun ephemeris_mask =>
    (mark st.almanac_mask (sv.has .almanac) sv.gnssSvId).bind fun almanac_mask =>
      (mark st.used_in_fix_mask (sv.has .tracked) sv.gnssSvId).map fun used_in_fix_mask =>
        { st with ephemeris_mask, almanac_mask, used_in_fix_mask }

/-- What follows the branches. -/
def addRest (st : GpsSvStatus) (sv : SvInfo) : GpsSvStatus :=
  let st := st.setCurrent (st.current.fill sv)
  { st with num_svs := st.num_svs + 1 }

/-- An iteration of the loop. -/
def addSv (st : GpsSvStatus) (sv : SvInfo) : Option GpsSvStatus :=
  if sv.identified then
    if sv.system = eQMI_LOC_SV_SYSTEM_GPS then
      (addGps sizeofGpsSvStatus st sv).map fun st => addRest st sv
    -- SBAS numbers are 120 to 151, and 33 to 64 in NMEA.
    else if sv.system = eQMI_LOC_SV_SYSTEM_SBAS then
      some (addRest (st.setPrn (sv.gnssSvId.toNat + 33 - 120)) sv)
    -- GLONASS slots are 1 to 32, and 65 to 96 in NMEA.
    else if sv.system = eQMI_LOC_SV_SYSTEM_GLONASS then
      some (addRest (st.setPrn (sv.gnssSvId.toNat + (65 - 1))) sv)
    else if sv.system = eQMI_LOC_SV_SYSTEM_BDS then
      some (addRest (st.setPrn sv.gnssSvId.toNat) sv)
    -- `continue`, for an unsupported system
    else some st
  else some (addRest st sv)

def svLoop : List SvInfo → GpsSvStatus → Option GpsSvStatus
  | [], st => some st
  | sv :: svs, st => (addSv sizeofGpsSvStatus st sv).bind fun st => svLoop svs st

/-- The satellites that the loop goes through. -/
def GnssSvInfoInd.gone (ind : GnssSvInfoInd) : List SvInfo :=
  if ind.svList_valid = 1 then ind.svList.take GPS_MAX_SVS else []

/-- `LocApiV02::reportSv`, and what it hands on. -/
def reportSv (ind : GnssSvInfoInd) : Option GpsSvStatus := svLoop sizeofGpsSvStatus ind.gone .zero

end

/-! ## One satellite -/

theorem mark_spec (mask : BitVec 32) (has : Bool) {gnssSvId : UInt16} (hid : gnssSvId ≠ 0) :
    (mark mask has gnssSvId = none ↔ has = true ∧ 32 < gnssSvId.toNat) ∧
      ∀ m, mark mask has gnssSvId = some m → ∀ k, m.getLsbD k = true ↔
        mask.getLsbD k = true ∨ has = true ∧ gnssSvId.toNat = k + 1 := by
  have hpos : gnssSvId.toNat ≠ 0 := fun h => hid (UInt16.toNat_inj.mp h)
  unfold mark
  cases has with
  | false =>
      simp only [Bool.false_eq_true, if_false, reduceCtorEq, false_and, or_false,
        Option.some.injEq, true_and]
      rintro m rfl k
      exact Iff.rfl
  | true =>
      simp only [if_true, Option.map_eq_none_iff, intShl_eq_none, true_and]
      -- The number is from 1 on, and its bit from 0.
      refine ⟨by omega, fun m hm k => ?_⟩
      rcases Option.map_eq_some_iff.mp hm with ⟨bit, hbit, rfl⟩
      rcases intShl_eq_some.mp hbit with ⟨hlt, rfl⟩
      rw [BitVec.getLsbD_or, BitVec.getLsbD_twoPow, Bool.or_eq_true]
      simp only [Bool.and_eq_true, decide_eq_true_eq]
      refine or_congr_right ?_
      omega

namespace GpsSvStatus

/-- The entries taken so far; all the others are as `memset` has left them. The
    entry after the last may be written and then not taken, and is overwritten
    by the next: that is `Writes`. -/
structure Holds (st : GpsSvStatus) (l : List GpsSvInfo) : Prop where
  num : st.num_svs = l.length
  le : l.length ≤ GPS_MAX_SVS
  list : st.sv_list = l ++ List.replicate (GPS_MAX_SVS - l.length) .zero

/-- The entry that is being written, after those. -/
structure Writes (st : GpsSvStatus) (l : List GpsSvInfo) (e : GpsSvInfo) : Prop where
  num : st.num_svs = l.length
  lt : l.length < GPS_MAX_SVS
  list : st.sv_list = l ++ e :: List.replicate (GPS_MAX_SVS - (l.length + 1)) .zero

theorem zero_holds : zero.Holds [] := ⟨rfl, Nat.zero_le _, rfl⟩

section

variable {st : GpsSvStatus} {l : List GpsSvInfo} {e : GpsSvInfo}

theorem Holds.writes (h : st.Holds l) (hlt : l.length < GPS_MAX_SVS) : st.Writes l .zero := by
  refine ⟨h.num, hlt, ?_⟩
  rw [h.list, ← List.replicate_succ]
  congr 2
  omega

theorem Holds.entries (h : st.Holds l) : st.entries = l := by
  rw [GpsSvStatus.entries, h.num, h.list, List.take_left]

theorem Writes.current (h : st.Writes l e) : st.current = e := by
  rw [GpsSvStatus.current, h.num, h.list, List.getElem?_append_right (Nat.le_refl _), Nat.sub_self,
    List.getElem?_cons_zero, Option.getD_some]

theorem Writes.setCurrent (h : st.Writes l e) (e' : GpsSvInfo) :
    (st.setCurrent e').Writes l e' := by
  refine ⟨h.num, h.lt, ?_⟩
  show st.sv_list.set st.num_svs e' = _
  rw [h.num, h.list, List.set_append_right _ _ (Nat.le_refl _), Nat.sub_self, List.set_cons_zero]

theorem Writes.setPrn (h : st.Writes l e) (prn : Int) :
    (st.setPrn prn).Writes l { e with prn := prn } := by
  rw [GpsSvStatus.setPrn, h.current]
  exact h.setCurrent _

theorem Writes.addRest (h : st.Writes l e) (sv : SvInfo) :
    (LocApi.addRest st sv).Holds (l ++ [e.fill sv]) := by
  have hset := h.setCurrent (st.current.fill sv)
  rw [h.current] at hset
  have hlt := h.lt
  refine ⟨?_, ?_, ?_⟩
  · show st.num_svs + 1 = _
    rw [h.num, List.length_append, List.length_singleton]
  · rw [List.length_append, List.length_singleton]
    omega
  · show (st.setCurrent (st.current.fill sv)).sv_list = _
    rw [h.current, hset.list, List.length_append, List.length_singleton, List.append_assoc]
    rfl

end

@[simp] theorem mask_setCurrent (st : GpsSvStatus) (e : GpsSvInfo) (flag : SvFlag) :
    (st.setCurrent e).mask flag = st.mask flag := by cases flag <;> rfl

@[simp] theorem mask_setPrn (st : GpsSvStatus) (prn : Int) (flag : SvFlag) :
    (st.setPrn prn).mask flag = st.mask flag := mask_setCurrent _ _ flag

@[simp] theorem mask_addRest (st : GpsSvStatus) (sv : SvInfo) (flag : SvFlag) :
    (addRest st sv).mask flag = st.mask flag := by cases flag <;> rfl

end GpsSvStatus

namespace SvInfo

/-- A GPS satellite that sets a bit of a mask has a number that is too large. -/
def Overflows (sv : SvInfo) : Prop :=
  sv.identified = true ∧ sv.system = eQMI_LOC_SV_SYSTEM_GPS ∧ 32 < sv.gnssSvId.toNat ∧
    ∃ flag, sv.has flag = true

/-- A GPS satellite sets a bit of a mask. -/
def Marks (sv : SvInfo) (flag : SvFlag) (k : Nat) : Prop :=
  sv.identified = true ∧ sv.system = eQMI_LOC_SV_SYSTEM_GPS ∧ sv.has flag = true ∧
    sv.gnssSvId.toNat = k + 1

/-- The number of a satellite that is identified, by its system. -/
def prn (sv : SvInfo) : Int :=
  if sv.system = eQMI_LOC_SV_SYSTEM_GPS then sv.gnssSvId.toNat
  else if sv.system = eQMI_LOC_SV_SYSTEM_SBAS then sv.gnssSvId.toNat + 33 - 120
  else if sv.system = eQMI_LOC_SV_SYSTEM_GLONASS then sv.gnssSvId.toNat + (65 - 1)
  else sv.gnssSvId.toNat

/-- The entry of a satellite by itself. -/
def entry (sizeofGpsSvStatus : Nat) (sv : SvInfo) : GpsSvInfo :=
  if sv.identified then
    { GpsSvInfo.zero with
      size := if sv.system = eQMI_LOC_SV_SYSTEM_GPS then sizeofGpsSvStatus else 0
      prn := sv.prn }.fill sv
  else GpsSvInfo.zero.fill sv

/-- The satellites whose entry is taken. -/
def kept (sv : SvInfo) : Bool := !sv.identified || sv.supported

theorem gnssSvId_ne_zero {sv : SvInfo} (h : sv.identified = true) : sv.gnssSvId ≠ 0 := by
  simp only [identified, Bool.and_eq_true, bne_iff_ne] at h
  exact h.2

end SvInfo

section

variable (sizeofGpsSvStatus : Nat)

/-- One mask without a value is enough. -/
theorem addGps_eq_none_iff {st : GpsSvStatus} {sv : SvInfo} :
    addGps sizeofGpsSvStatus st sv = none ↔
      ∃ flag, mark (st.mask flag) (sv.has flag) sv.gnssSvId = none := by
  unfold addGps
  simp only [Option.bind_eq_none_iff, Option.map_eq_none_iff]
  constructor
  · intro h
    by_contra hno
    -- Were all the masks there, the third would be without a value.
    have hsome (flag : SvFlag) : ∃ m, mark (st.mask flag) (sv.has flag) sv.gnssSvId = some m :=
      Option.ne_none_iff_exists'.mp (not_exists.mp hno flag)
    rcases hsome .ephemeris with ⟨e, he⟩
    rcases hsome .almanac with ⟨a, ha⟩
    exact hno ⟨.tracked, h e he a ha⟩
  · rintro ⟨flag, hflag⟩ e he a ha
    cases flag with
    | ephemeris => cases hflag.symm.trans he
    | almanac => cases hflag.symm.trans ha
    | tracked => exact hflag

theorem addGps_eq_some {st st' : GpsSvStatus} {sv : SvInfo}
    (h : addGps sizeofGpsSvStatus st sv = some st') :
    (∀ flag, mark (st.mask flag) (sv.has flag) sv.gnssSvId = some (st'.mask flag)) ∧
      st'.num_svs = st.num_svs ∧ st'.sv_list = (st.setCurrent
        { st.current with size := sizeofGpsSvStatus, prn := sv.gnssSvId.toNat }).sv_list := by
  unfold addGps at h
  simp only [Option.bind_eq_some_iff, Option.map_eq_some_iff] at h
  rcases h with ⟨e, he, a, ha, u, hu, rfl⟩
  refine ⟨fun flag => ?_, rfl, rfl⟩
  cases flag with
  | ephemeris => exact he
  | almanac => exact ha
  | tracked => exact hu

theorem addGps_spec {st : GpsSvStatus} {l : List GpsSvInfo} {e : GpsSvInfo} {sv : SvInfo}
    (h : st.Writes l e) (hid : sv.gnssSvId ≠ 0) :
    (addGps sizeofGpsSvStatus st sv = none ↔
        32 < sv.gnssSvId.toNat ∧ ∃ flag, sv.has flag = true) ∧
      ∀ st', addGps sizeofGpsSvStatus st sv = some st' →
        st'.Writes l { e with size := sizeofGpsSvStatus, prn := sv.gnssSvId.toNat } ∧
        ∀ flag k, (st'.mask flag).getLsbD k = true ↔ (st.mask flag).getLsbD k = true ∨
          sv.has flag = true ∧ sv.gnssSvId.toNat = k + 1 := by
  have hmark (flag : SvFlag) := mark_spec (st.mask flag) (sv.has flag) hid
  constructor
  · rw [addGps_eq_none_iff]
    constructor
    · rintro ⟨flag, hno⟩
      have hbad := (hmark flag).1.mp hno
      exact ⟨hbad.2, flag, hbad.1⟩
    · rintro ⟨hlt, flag, hflag⟩
      exact ⟨flag, (hmark flag).1.mpr ⟨hflag, hlt⟩⟩
  · intro st' hst'
    rcases addGps_eq_some sizeofGpsSvStatus hst' with ⟨hmasks, hnum, hlist⟩
    rw [h.current] at hlist
    have hwrites := h.setCurrent { e with size := sizeofGpsSvStatus, prn := sv.gnssSvId.toNat }
    refine ⟨⟨hnum.trans h.num, h.lt, hlist.trans hwrites.list⟩, fun flag => ?_⟩
    exact (hmark flag).2 _ (hmasks flag)

/-- A satellite of another system gets its number, if the system is supported. -/
theorem addSv_other {st : GpsSvStatus} {sv : SvInfo} (hid : sv.identified = true)
    (hgps : sv.system ≠ eQMI_LOC_SV_SYSTEM_GPS) :
    addSv sizeofGpsSvStatus st sv =
      some (if sv.supported then addRest (st.setPrn sv.prn) sv else st) := by
  unfold addSv SvInfo.prn
  rw [if_pos hid, if_neg hgps, if_neg hgps]
  by_cases hsbas : sv.system = eQMI_LOC_SV_SYSTEM_SBAS
  · have hsup : sv.supported = true := by simp [SvInfo.supported, hsbas]
    rw [if_pos hsbas, if_pos hsbas, if_pos hsup]
  rw [if_neg hsbas, if_neg hsbas]
  by_cases hglonass : sv.system = eQMI_LOC_SV_SYSTEM_GLONASS
  · have hsup : sv.supported = true := by simp [SvInfo.supported, hglonass]
    rw [if_pos hglonass, if_pos hglonass, if_pos hsup]
  rw [if_neg hglonass, if_neg hglonass]
  by_cases hbds : sv.system = eQMI_LOC_SV_SYSTEM_BDS
  · have hsup : sv.supported = true := by simp [SvInfo.supported, hbds]
    rw [if_pos hbds, if_pos hsup]
  · have hsup : sv.supported = false := by simp [SvInfo.supported, hgps, hsbas, hglonass, hbds]
    rw [if_neg hbds, hsup, if_neg Bool.false_ne_true]

/-- A satellite adds its entry, or none, and the bits of its flags. -/
theorem addSv_spec {st : GpsSvStatus} {l : List GpsSvInfo} (sv : SvInfo) (h : st.Holds l)
    (hlt : l.length < GPS_MAX_SVS) :
    (addSv sizeofGpsSvStatus st sv = none ↔ sv.Overflows) ∧
      ∀ st', addSv sizeofGpsSvStatus st sv = some st' →
        st'.Holds (if sv.kept then l ++ [sv.entry sizeofGpsSvStatus] else l) ∧
        ∀ flag k, (st'.mask flag).getLsbD k = true ↔
          (st.mask flag).getLsbD k = true ∨ sv.Marks flag k := by
  have hw := h.writes hlt
  unfold SvInfo.kept SvInfo.Overflows SvInfo.Marks SvInfo.entry
  cases hid : sv.identified with
  | false =>
      unfold addSv
      -- Without a number only what follows the branches is done.
      simp only [hid, Bool.false_eq_true, if_false, false_and, reduceCtorEq, Option.some.injEq,
        Bool.not_false, Bool.true_or, if_true, or_false, true_and]
      rintro st' rfl
      refine ⟨hw.addRest sv, fun flag k => ?_⟩
      rw [GpsSvStatus.mask_addRest]
  | true =>
      simp only [if_true, true_and, Bool.not_true, Bool.false_or]
      by_cases hgps : sv.system = eQMI_LOC_SV_SYSTEM_GPS
      · have hspec := addGps_spec sizeofGpsSvStatus hw (SvInfo.gnssSvId_ne_zero hid)
        have hsup : sv.supported = true := by simp [SvInfo.supported, hgps]
        unfold addSv
        simp only [hid, hgps, if_true, true_and, hsup, Option.map_eq_none_iff]
        refine ⟨hspec.1, fun st' hst' => ?_⟩
        rcases Option.map_eq_some_iff.mp hst' with ⟨u, hu, rfl⟩
        rcases hspec.2 u hu with ⟨hwrites, hbits⟩
        refine ⟨?_, fun flag k => ?_⟩
        · rw [SvInfo.prn, if_pos hgps]
          exact hwrites.addRest sv
        · rw [GpsSvStatus.mask_addRest]
          exact hbits flag k
      · -- The other systems have no masks.
        rw [addSv_other sizeofGpsSvStatus hid hgps]
        simp only [hgps, if_false, false_and, or_false, iff_false, Option.some.injEq]
        refine ⟨Option.some_ne_none _, ?_⟩
        rintro st' rfl
        cases sv.supported with
        | true =>
            refine ⟨(hw.setPrn sv.prn).addRest sv, fun flag k => ?_⟩
            rw [if_pos rfl, GpsSvStatus.mask_addRest, GpsSvStatus.mask_setPrn]
        | false => exact ⟨h, fun _ _ => Iff.rfl⟩

/-! ## All of them -/

theorem svLoop_spec (svs : List SvInfo) {st : GpsSvStatus} {l : List GpsSvInfo} (h : st.Holds l)
    (hle : l.length + svs.length ≤ GPS_MAX_SVS) :
    (svLoop sizeofGpsSvStatus svs st = none ↔ ∃ sv ∈ svs, sv.Overflows) ∧
      ∀ st', svLoop sizeofGpsSvStatus svs st = some st' →
        st'.Holds (l ++ (svs.filter SvInfo.kept).map (SvInfo.entry sizeofGpsSvStatus)) ∧
        ∀ flag k, (st'.mask flag).getLsbD k = true ↔
          (st.mask flag).getLsbD k = true ∨ ∃ sv ∈ svs, sv.Marks flag k := by
  -- The status holds what the satellites so far have left.
  induction svs generalizing st l with
  | nil =>
      simp only [svLoop, reduceCtorEq, List.not_mem_nil, false_and, exists_false, or_false,
        Option.some.injEq, List.filter_nil, List.map_nil, List.append_nil, true_and]
      rintro st' rfl
      exact ⟨h, fun _ _ => Iff.rfl⟩
  | cons sv svs ih =>
      rw [List.length_cons] at hle
      rcases addSv_spec sizeofGpsSvStatus sv h (by omega) with ⟨hnone, hsome⟩
      simp only [svLoop, List.exists_mem_cons_iff]
      cases hadd : addSv sizeofGpsSvStatus st sv with
      | none =>
          rw [Option.bind_none]
          refine ⟨iff_of_true rfl (.inl (hnone.mp hadd)), fun st' hst' => ?_⟩
          cases hst'
      | some u =>
          rcases hsome u hadd with ⟨hholds, hbits⟩
          have hno : ¬ sv.Overflows := fun hover => by
            rw [hnone.mpr hover] at hadd
            cases hadd
          rw [Option.bind_some, or_iff_right hno]
          -- An entry that is taken leaves one fewer to write to.
          have hroom : (if sv.kept then l ++ [sv.entry sizeofGpsSvStatus] else l).length +
              svs.length ≤ GPS_MAX_SVS := by
            split
            · rw [List.length_append, List.length_singleton]
              omega
            · omega
          rcases ih hholds hroom with ⟨hnone', hsome'⟩
          refine ⟨hnone', fun st' hst' => ?_⟩
          rcases hsome' st' hst' with ⟨hholds', hbits'⟩
          refine ⟨?_, fun flag k => by rw [hbits', hbits, or_assoc]⟩
          cases hkept : sv.kept with
          | true =>
              rw [hkept, if_pos rfl, List.append_assoc] at hholds'
              rwa [List.filter_cons_of_pos hkept, List.map_cons]
          | false =>
              rw [hkept, if_neg Bool.false_ne_true] at hholds'
              rwa [List.filter_cons_of_neg (by rw [hkept]; exact Bool.false_ne_true)]

/-- The satellites of a report. -/
def GnssSvInfoInd.valid (ind : GnssSvInfoInd) : List SvInfo :=
  if ind.svList_valid = 1 then ind.svList else []

/-- The entry of an identified satellite of a supported system, with a number. -/
def Stems (e : GpsSvInfo) (sv : SvInfo) : Prop :=
  e.prn ≠ 0 ∧ sv.identified = true ∧ sv.supported = true ∧ e = sv.entry sizeofGpsSvStatus

/-- The entries are those of some of the satellites, in their order, and the
    masks have the bits of the GPS satellites among them. -/
def Converted (ind : GnssSvInfoInd) : Prop :=
  ∃ st, reportSv sizeofGpsSvStatus ind = some st ∧ st.entries.length = st.num_svs ∧
    ∃ svs : List SvInfo, svs.Sublist ind.valid ∧
      List.Forall₂ (Stems sizeofGpsSvStatus) st.entries svs ∧
      ∀ flag k, (st.mask flag).getLsbD k = true ↔ ∃ sv ∈ svs,
        sv.system = eQMI_LOC_SV_SYSTEM_GPS ∧ sv.has flag = true ∧
          sv.gnssSvId.toNat = k + 1 ∧ k + 1 ≤ 32

/-- An identified satellite that is not the SBAS satellite 87, nor a GPS
    satellite above 32 that sets a bit. One that is not identified is taken all
    the same, with the number 0. The number of an SBAS satellite is moved down
    by 87, so that this one gets the number 0 as well. And nothing can be said
    of a bit that is shifted out of an `int`. -/
def SvInfo.Clean (sv : SvInfo) : Prop :=
  sv.identified = true ∧ ¬ (sv.system = eQMI_LOC_SV_SYSTEM_SBAS ∧ sv.gnssSvId = 87) ∧
    ¬ (sv.system = eQMI_LOC_SV_SYSTEM_GPS ∧ 32 < sv.gnssSvId.toNat ∧ ∃ flag, sv.has flag = true)

theorem prn_eq_zero_iff {sv : SvInfo} (h : sv.identified = true) :
    sv.prn = 0 ↔ sv.system = eQMI_LOC_SV_SYSTEM_SBAS ∧ sv.gnssSvId = 87 := by
  have hpos : sv.gnssSvId.toNat ≠ 0 := fun hz => SvInfo.gnssSvId_ne_zero h (UInt16.toNat_inj.mp hz)
  have hid : sv.gnssSvId = 87 ↔ sv.gnssSvId.toNat = 87 := UInt16.toNat_inj.symm
  rw [hid]
  unfold SvInfo.prn
  by_cases hgps : sv.system = eQMI_LOC_SV_SYSTEM_GPS
  · have hne : sv.system ≠ eQMI_LOC_SV_SYSTEM_SBAS := by
      rw [hgps]
      decide
    simp only [if_pos hgps, hne, false_and, iff_false]
    omega
  · rw [if_neg hgps]
    by_cases hsbas : sv.system = eQMI_LOC_SV_SYSTEM_SBAS
    · rw [if_pos hsbas, and_iff_right hsbas]
      omega
    · rw [if_neg hsbas]
      refine iff_of_false ?_ fun h => hsbas h.1
      split <;> omega

theorem entry_prn (sv : SvInfo) :
    (sv.entry sizeofGpsSvStatus).prn = if sv.identified then sv.prn else 0 := by
  unfold SvInfo.entry
  split <;> rfl

theorem length_gone_le (ind : GnssSvInfoInd) : ind.gone.length ≤ GPS_MAX_SVS := by
  unfold GnssSvInfoInd.gone
  split
  · exact List.length_take_le _ _
  · exact Nat.zero_le _

theorem gone_sublist (ind : GnssSvInfoInd) : ind.gone.Sublist ind.valid := by
  unfold GnssSvInfoInd.gone GnssSvInfoInd.valid
  split
  · exact List.take_sublist _ _
  · exact List.Sublist.refl _

/-- The reports that are as they should be. -/
theorem reportSv_converted_iff (ind : GnssSvInfoInd) :
    Converted sizeofGpsSvStatus ind ↔ ∀ sv ∈ ind.gone, sv.Clean := by
  rcases svLoop_spec sizeofGpsSvStatus ind.gone GpsSvStatus.zero_holds
    (by rw [List.length_nil, Nat.zero_add]; exact length_gone_le ind) with ⟨hnone, hsome⟩
  rw [List.nil_append] at hsome
  constructor
  · rintro ⟨st, hst, _, svs, _, hstems, _⟩ sv hsv
    have hentries := (hsome st hst).1.entries
    have hno : ∀ sv ∈ ind.gone, ¬ sv.Overflows := fun sv hsv hover => by
      rw [reportSv, hnone.mpr ⟨sv, hsv, hover⟩] at hst
      cases hst
    -- Every entry that was taken has a number.
    have hprn : sv.kept = true → (sv.entry sizeofGpsSvStatus).prn ≠ 0 := by
      intro hkept
      refine ((List.forall₂_and_left _ _).mp hstems).1 _ ?_
      rw [hentries]
      exact List.mem_map_of_mem (List.mem_filter.mpr ⟨hsv, hkept⟩)
    rw [entry_prn] at hprn
    have hid : sv.identified = true := by
      refine Classical.byContradiction fun hnot => ?_
      rw [Bool.not_eq_true] at hnot
      exact hprn (by rw [SvInfo.kept, hnot]; rfl) (by rw [hnot]; rfl)
    rw [if_pos hid] at hprn
    refine ⟨hid, fun hsbas => ?_, fun hover => hno sv hsv ⟨hid, hover⟩⟩
    have hsup : sv.kept = true := by simp [SvInfo.kept, SvInfo.supported, hsbas.1]
    exact hprn hsup ((prn_eq_zero_iff hid).mpr hsbas)
  · intro hclean
    have hdef : ∃ st, reportSv sizeofGpsSvStatus ind = some st := by
      refine Option.ne_none_iff_exists'.mp fun hno => ?_
      rcases hnone.mp hno with ⟨sv, hsv, hover⟩
      exact (hclean sv hsv).2.2 hover.2
    rcases hdef with ⟨st, hst⟩
    rcases hsome st hst with ⟨hholds, hbits⟩
    refine ⟨st, hst, by rw [hholds.entries, hholds.num], ind.gone.filter SvInfo.kept,
      List.filter_sublist.trans (gone_sublist ind), ?_, fun flag k => ?_⟩
    · rw [hholds.entries, List.forall₂_map_left_iff, List.forall₂_same]
      intro sv hsv
      rcases List.mem_filter.mp hsv with ⟨hmem, hkept⟩
      rcases hclean sv hmem with ⟨hid, hsbas, _⟩
      refine ⟨?_, hid, ?_, rfl⟩
      · rw [entry_prn, if_pos hid]
        exact fun hz => hsbas ((prn_eq_zero_iff hid).mp hz)
      · simpa only [SvInfo.kept, hid, Bool.not_true, Bool.false_or] using hkept
    · have hzero : (GpsSvStatus.zero.mask flag).getLsbD k = false := by
        cases flag <;> exact BitVec.getLsbD_zero
      rw [hbits, hzero, or_iff_right Bool.false_ne_true]
      constructor
      · rintro ⟨sv, hsv, hid, hgps, hflag, hk⟩
        have hkept : sv.kept = true := by simp [SvInfo.kept, SvInfo.supported, hgps]
        refine ⟨sv, List.mem_filter.mpr ⟨hsv, hkept⟩, hgps, hflag, hk, ?_⟩
        refine Nat.le_of_not_lt fun hgt => ?_
        exact (hclean sv hsv).2.2 ⟨hgps, by omega, flag, hflag⟩
      · rintro ⟨sv, hsv, hgps, hflag, hk, _⟩
        have hmem := (List.mem_filter.mp hsv).1
        exact ⟨sv, hmem, (hclean sv hmem).1, hgps, hflag, hk⟩

end

/-- A report of one satellite, of which nothing is valid. -/
def nothingValid : GnssSvInfoInd where
  svList_valid := 1
  svList := [{
    validMask := 0#32
    system := eQMI_LOC_SV_SYSTEM_GPS
    gnssSvId := 7
    svStatus := eQMI_LOC_SV_STATUS_TRACK
    svInfoMask := 3#8
    elevation := 0#32
    azimuth := 0#32
    snr := 0#32 }]

/-- It is reported as a satellite with the number 0. -/
theorem nothingValid_not_converted : ¬ Converted 660 nothingValid := by
  rintro ⟨st, hst, _, svs, _, hstems, _⟩
  have hone : (reportSv 660 nothingValid).map GpsSvStatus.entries = some [GpsSvInfo.zero] := by
    decide
  rw [hst, Option.map_some, Option.some.injEq] at hone
  rw [hone] at hstems
  exact ((List.forall₂_and_left _ _).mp hstems).1 _ List.mem_cons_self rfl

end LocApi

end Victara
