import Victara.Engine.NmeaText
import Victara.Lib.History
import Victara.Lib.StepSystem

/-!
# The Satellites of the Current Fix

SV reports and positions come in any order. A mask that an SV report leaves is
cleared by the next position that is final, so it is used once. But an SV report
with an empty mask leaves the cache alone: it counts on there being no position
after it. If there is one all the same, and the mask before has not been used
yet, the position lists the satellites of a fix that is over.

## Main definitions

* `NmeaEvent`: A call, with the sentences it has sent.
* `NmeaRun`: The cache, and the calls, the last first.
* `NmeaRun.step`: A call of one of the two functions.
* `mask`: The mask of an SV report.
* `gpgsa`: The GPGSA sentence of a position that is final, which comes first.
* `lastMask`, `spent`: The mask of the last SV report, and whether there has
  been a GPGSA sentence since.
* `Uses`: A satellite is one of the mask.
* `CurrentGpgsa`: A GPGSA sentence lists satellites of the last SV report only,
  and none if there has been another sentence since.
* `Current`: Every GPGSA sentence is of the last SV report, and the first one
  after it.
* `Fresh`: A position that finds no mask from before an empty SV report.
* `Cached`: What is in the cache has not been used, and is the last mask that
  was not empty.
* `wholeFloat`: Whole numbers, which are enough here.
* `finalPos`: A final position.
* `staleMask`: A satellite is used, then none is, and then there is a position.

## Theorems

* `cached_step`: The cache has the last mask that was not empty, or nothing.
* `currentGpgsa_iff`: What a position that is final lists, and when that is
  current.
* `current_step`: A step is current if it is fresh, and only then.
* `current_iff`: The exact condition for the satellites to be current.
-/

namespace Victara

namespace Nmea

open History StepSystem

variable {F : Type} (fl : NmeaFloat F)

inductive NmeaCall (F : Type)
  | generateSv (svStatus : GpsSvStatus F) (dop : Option (Dop F))
  | generatePos (pos : PosReport F)

/-- A call, with what it has sent. -/
inductive NmeaEvent
  | sv (used_in_fix_mask : BitVec 32) (sent : List Sentence)
  | pos (generate_nmea : Bool) (sent : List Sentence)

/-- The cache, and the calls, the last first. -/
structure NmeaRun (F : Type) where
  cache : NmeaCache F
  log : List NmeaEvent

namespace NmeaRun

def init : NmeaRun F := ⟨⟨0, noDop fl⟩, []⟩

def step (s : NmeaRun F) : NmeaCall F → Option (NmeaRun F)
  | .generateSv svStatus dop =>
      let after := generateSv fl s.cache svStatus dop
      some ⟨after.1, .sv svStatus.used_in_fix_mask after.2 :: s.log⟩
  | .generatePos pos =>
      let after := generatePos fl s.cache pos
      some ⟨after.1, .pos pos.generate_nmea after.2 :: s.log⟩

end NmeaRun

namespace NmeaEvent

/-- The mask of an SV report. -/
def mask : NmeaEvent → Option (BitVec 32)
  | sv used_in_fix_mask _ => some used_in_fix_mask
  | pos .. => none

/-- The GPGSA sentence of a position that is final, which comes first. -/
def gpgsa : NmeaEvent → Option Sentence
  | pos true sent => sent.head?
  | pos false _ | sv .. => none

end NmeaEvent

/-- The mask of the last SV report, and none of it before the first. -/
def lastMask (log : List NmeaEvent) : BitVec 32 := (log.findSome? NmeaEvent.mask).getD 0

/-- There has been a GPGSA sentence since the last SV report. -/
def spent (log : List NmeaEvent) : Bool :=
  since (fun e => e.gpgsa.isSome) (fun e => e.mask.isSome) log

/-- A satellite is one of the mask. -/
def Uses (mask : BitVec 32) (sv : Nat) : Prop := ∃ j, mask.getLsbD j = true ∧ sv = 1 + j

/-- A GPGSA sentence lists satellites of the last SV report only, and none if
    there has been another sentence since. -/
def CurrentGpgsa (sentence : Sentence) (before : List NmeaEvent) : Prop :=
  (∀ sv ∈ listed sentence, Uses (lastMask before) sv) ∧
    (spent before = true → listed sentence = [])

/-- All GPGSA sentences do. -/
def Current : List NmeaEvent → Prop
  | [] => True
  | e :: log => (∀ sentence ∈ e.gpgsa, CurrentGpgsa sentence log) ∧ Current log

/-- A position that is final finds no mask, or the last SV report had one. The
    mask is kept over the reports, and an empty one does not overwrite it. So
    the mask of an earlier report is found just if the last one was empty and no
    final position has cleared it since. -/
def Fresh (s : NmeaRun F) : NmeaCall F → Prop
  | .generateSv .. => True
  | .generatePos pos =>
      pos.generate_nmea = true → s.cache.sv_used_mask = 0 ∨ lastMask s.log ≠ 0

/-- What is in the cache has not been used, and is the last mask that was not
    empty. -/
def Cached (s : NmeaRun F) : Prop :=
  s.cache.sv_used_mask ≠ 0 →
    lastMask s.log = 0 ∨ lastMask s.log = s.cache.sv_used_mask ∧ spent s.log = false

theorem lastMask_sv (mask : BitVec 32) (sent : List Sentence) (log : List NmeaEvent) :
    lastMask (.sv mask sent :: log) = mask := rfl

theorem lastMask_pos (generate_nmea : Bool) (sent : List Sentence) (log : List NmeaEvent) :
    lastMask (.pos generate_nmea sent :: log) = lastMask log := rfl

theorem spent_sv (mask : BitVec 32) (sent : List Sentence) (log : List NmeaEvent) :
    spent (.sv mask sent :: log) = false := rfl

theorem spent_blank (sent : List Sentence) (log : List NmeaEvent) :
    spent (.pos false sent :: log) = spent log := rfl

theorem cached_init : Cached (NmeaRun.init fl) := fun h => absurd rfl h

/-- An SV report puts its mask into the cache, or leaves it as it is; a position
    that is final clears it. -/
theorem cached_step {s t : NmeaRun F} {call : NmeaCall F} (hs : Cached s)
    (h : s.step fl call = some t) : Cached t := by
  cases call with
  | generateSv svStatus dop =>
      cases h
      intro hmask
      simp only [generateSv_mask] at hmask ⊢
      rw [lastMask_sv, spent_sv]
      by_cases hempty : svStatus.used_in_fix_mask = 0
      · exact Or.inl hempty
      · rw [if_neg hempty]
        exact Or.inr ⟨rfl, rfl⟩
  | generatePos pos =>
      cases h
      intro hmask
      cases hfinal : pos.generate_nmea with
      | true => exact absurd (generatePos_gpgsa fl s.cache hfinal).1 hmask
      | false =>
          simp only [generatePos, hfinal, Bool.false_eq_true, if_false] at hmask ⊢
          rw [lastMask_pos, spent_blank]
          exact hs hmask

/-- What a position that is final lists, and when that is current. -/
theorem currentGpgsa_iff {s : NmeaRun F} (hs : Cached s) {gpgsa : Sentence}
    (hlisted : listed gpgsa = (svUsed s.cache.sv_used_mask).take 12) :
    CurrentGpgsa gpgsa s.log ↔ s.cache.sv_used_mask = 0 ∨ lastMask s.log ≠ 0 := by
  by_cases hempty : s.cache.sv_used_mask = 0
  · have hnone : listed gpgsa = [] := by
      rw [hlisted, hempty]
      rfl
    refine ⟨fun _ => Or.inl hempty, fun _ => ⟨fun sv hsv => ?_, fun _ => hnone⟩⟩
    rw [hnone] at hsv
    cases hsv
  · rw [or_iff_right hempty]
    constructor
    · -- A mask that is not empty has a satellite, which the empty mask has not.
      intro hcurrent hzero
      rcases List.exists_mem_of_ne_nil _ (svUsed_ne_nil hempty) with ⟨sv, hsv⟩
      cases hused : svUsed s.cache.sv_used_mask with
      | nil => exact svUsed_ne_nil hempty hused
      | cons sv svs =>
          have hmem : sv ∈ listed gpgsa := by
            rw [hlisted, hused]
            exact List.mem_cons_self
          rcases hcurrent.1 sv hmem with ⟨j, hj, -⟩
          rw [hzero] at hj
          simp at hj
    -- The last report had a mask, and it is this one.
    · intro hlast
      rcases (hs hempty).resolve_left hlast with ⟨hmask, hfresh⟩
      refine ⟨fun sv hsv => ?_, fun hspent => ?_⟩
      · rw [hlisted] at hsv
        rw [hmask]
        exact mem_svUsed.mp (List.mem_of_mem_take hsv)
      · rw [hfresh] at hspent
        cases hspent

/-- A step is current if it is fresh, and only then. -/
theorem current_step {s t : NmeaRun F} {call : NmeaCall F} (hs : Cached s)
    (h : s.step fl call = some t) : Current t.log ↔ Fresh s call ∧ Current s.log := by
  cases call with
  | generateSv svStatus dop =>
      cases h
      exact and_congr_left fun _ => ⟨fun _ => trivial, fun _ _ hnone => nomatch hnone⟩
  | generatePos pos =>
      cases h
      refine and_congr_left fun _ => ?_
      cases hfinal : pos.generate_nmea with
      | true =>
          rcases (generatePos_gpgsa fl s.cache hfinal).2 with ⟨gpgsa, hsent, hlisted⟩
          rw [hsent]
          simp only [NmeaEvent.gpgsa, List.head?_cons, Option.mem_def, Option.some.injEq,
            forall_eq', Fresh, hfinal, true_implies]
          exact currentGpgsa_iff hs hlisted
      | false =>
          simp only [Fresh, hfinal]
          exact ⟨fun _ hno => (nomatch hno), fun _ _ hnone => nomatch hnone⟩

/-- Whatever the reports and positions and their order: every GPGSA sentence is
    current exactly if every position that is final finds no mask from before an
    empty SV report. The satellites are read back from the text of the sentence,
    and not from what the mask was when it was written. -/
theorem current_iff (calls : List (NmeaCall F)) :
    Throughout (NmeaRun.step fl) (fun s => Current s.log) (NmeaRun.init fl) calls ↔
      Meets (NmeaRun.step fl) Fresh (NmeaRun.init fl) calls :=
  throughout_iff_meets (I := fun s => Cached s ∧ Current s.log) (fun _ hs => hs.2)
    (fun _ _ _ hs hfresh h => ⟨cached_step fl hs.1 h, (current_step fl hs.1 h).mpr ⟨hfresh, hs.2⟩⟩)
    (fun s call hs hstale => by
      have hstep : ∃ t, s.step fl call = some t := by cases call <;> exact ⟨_, rfl⟩
      rcases hstep with ⟨t, ht⟩
      exact ⟨t, ht, fun h => hstale ((current_step fl hs.1 ht).mp h).1⟩)
    ⟨cached_init fl, trivial⟩

/-- Whole numbers, which are enough here. -/
def wholeFloat : NmeaFloat UInt8 where
  zero := 0
  pos x := 0 < x
  round x := x.toNat
  round_int x := by
    have hlt := x.toNat_lt
    omega
  fmt x := Nat.toDigits 10 x.toNat ++ ".0".toList

def svReport (used_in_fix_mask : BitVec 32) : NmeaCall UInt8 :=
  .generateSv ⟨[], by decide, used_in_fix_mask⟩ none

/-- A final position. -/
def finalPos : NmeaCall UInt8 := .generatePos ⟨true, none, [], true⟩

/-- A satellite is used, then none is, and then there is a position. -/
def staleMask : List (NmeaCall UInt8) := [svReport 1, svReport 0, finalPos]

/-- The satellite is listed all the same. -/
theorem staleMask_current_not :
    ¬ Throughout (NmeaRun.step wholeFloat) (fun s => Current s.log) (NmeaRun.init wholeFloat)
      staleMask := by
  intro h
  have hfresh : ∀ s t : NmeaRun UInt8, exec (NmeaRun.step wholeFloat) (NmeaRun.init wholeFloat)
      [svReport 1, svReport 0] = some s → s.step wholeFloat finalPos = some t → Current t.log →
      Fresh s finalPos := by
    intro s t hrun hstep hcurrent
    have hcached := invariant_of_step (fun _ _ _ => cached_step wholeFloat)
      (cached_init wholeFloat) hrun
    exact ((current_step wholeFloat hcached hstep).mp hcurrent).1
  have hlast := hfresh _ _ rfl rfl (((h.2 _ rfl).2 _ rfl).2 _ rfl)
  simp [Fresh, finalPos, generateSv_mask, lastMask_sv] at hlast

end Nmea

end Victara
