import Mathlib.Data.Nat.Count
import Victara.LocApi.Xtra

/-!
# XTRA Parts That the Modem Rejects

What `LocApiV02::setXtraData` makes of a part that the modem does not
acknowledge. The part number moves on with every part and the place in the
file only with the parts that are acknowledged. So a part carries the chunk
whose number is how many before it were acknowledged (`run_placed`), and what
the function returns is the status of the last part alone.

Here the modem's answers are a sequence that does not end, of which the loop
takes as many as it gets to.

## Main definitions

* `Accepted`: An answer that lets the place move on.
* `accepted`: How many of the first `n` parts are taken.
* `outcomes`: The first answers of a sequence.
* `XtraData.ReportsFailures`: Success stands for all the parts, and each is its
  own chunk of the file.
* `rejectFirst`: A modem that takes every part but the first.

## Theorems

* `acknowledged_iff`: The loop and the sequence mean the same by an
  acknowledgement.
* `run_placed`: What the first parts carry.
* `meets_outcomes`: A run is acknowledged if its answers are.
* `status_of_exec`: The status that is left is that of the last part.
* `setXtraData_outcomes`: When the loop has ended, it has taken the answers to
  all the parts, and returns the last of them.
* `part_zero`: The part after number 255 has number 0.
* `exists_part`: Each of the first parts is there, with what it carries.
* `part_of_mem`: Every request of the sequence is a part of the data.
* `reportsFailures_iff`: The files and answers for which failures are reported.
* `rejectFirst_not_reported`: A rejected first part of several is not reported.
-/

namespace Victara

namespace LocApi

open Sync (LocClientStatus)
open StepSystem

/-- The answer to the part after `i` others says that the part is taken. -/
def Accepted (i : Nat) (ack : XtraAck) : Prop :=
  ack.status = .success ∧ ack.success = true ∧ ack.partNum.toNat = i + 1

instance (i : Nat) (ack : XtraAck) : Decidable (Accepted i ack) :=
  inferInstanceAs (Decidable (_ ∧ _ ∧ _))

/-- How many of the first `n` parts are taken. The place in the file is this
    many times the size of a part, which is why a part that is rejected is not
    left out but shifts all that follow. -/
def accepted (acks : Nat → XtraAck) (n : Nat) : Nat := Nat.count (fun i => Accepted i (acks i)) n

/-- The answers to the first `n` parts. -/
def outcomes (acks : Nat → XtraAck) (n : Nat) : List XtraAck := (List.range n).map acks

theorem outcomes_succ (acks : Nat → XtraAck) (n : Nat) :
    outcomes acks (n + 1) = outcomes acks n ++ [acks n] := by
  rw [outcomes, List.range_succ, List.map_append]
  rfl

theorem length_outcomes (acks : Nat → XtraAck) (n : Nat) : (outcomes acks n).length = n := by
  rw [outcomes, List.length_map, List.length_range]

theorem convertErr_success {status : LocClientStatus} :
    convertErr status = .success ↔ status = .success := by
  cases status <;> decide

namespace XtraData

/-- As long as the part number is not back at 0, the loop and the sequence
    mean the same by an acknowledgement. -/
theorem acknowledged_iff {i : Nat} {s : XtraLoop} (ack : XtraAck)
    (hs : s.part = UInt8.ofNat (i + 1)) (hi : i < 255) : Acknowledged s ack ↔ Accepted i ack := by
  have hnum : s.part.toUInt16.toNat = i + 1 := by
    rw [hs, UInt8.toNat_toUInt16, UInt8.toNat_ofNat']
    omega
  unfold Acknowledged Accepted
  rw [← hnum, UInt16.toNat_inj]

/-- The first parts have the numbers from 1 on. The place of each is after as
    many chunks as there were acknowledgements before it. -/
theorem run_placed (x : XtraData) (acks : Nat → XtraAck) {n : Nat} (hn : n ≤ x.totalParts)
    (hbyte : n ≤ 255) :
    ∃ t, exec x.step .start (outcomes acks n) = some t ∧ x.Placed n (accepted acks n) t ∧
      (x.parts .start (outcomes acks n)).map (fun req => (req.partNum.toNat, req.partData)) =
        (List.range n).map fun i => (i + 1,
          Chunks.chunk QMI_LOC_MAX_PREDICTED_ORBITS_PART_LEN_V02 x.data (accepted acks i % 64)) := by
  induction n with
  | zero => exact ⟨.start, rfl, x.placed_start, rfl⟩
  | succ n ih =>
      rcases ih (by omega) (by omega) with ⟨s, hs, hplaced, hparts⟩
      -- The next part is sent from where the acknowledgements so far lead.
      have hcount : accepted acks n ≤ n := Nat.count_le _
      rcases x.step_placed (acks n) hplaced hcount (by omega) (by omega)
        with ⟨t, req, ht, hreq, hnum, hdata, hnext⟩
      rw [if_congr (acknowledged_iff (acks n) hplaced.part (by omega)) rfl rfl] at hnext
      have hsent : req.partNum.toNat = n + 1 := by
        rw [hnum, UInt8.toNat_toUInt16, hplaced.part, UInt8.toNat_ofNat']
        omega
      refine ⟨t, ?_, ?_, ?_⟩
      · rw [outcomes_succ, exec_append hs, exec, ht, Option.bind_some, exec]
      · rwa [accepted, Nat.count_succ]
      · have hlast : trace x.step (fun s _ => (x.injectXtra s).toList) s [acks n] = [req] := by
          simp only [trace, ht, hreq, Option.toList_some, List.append_nil]
        rw [parts] at hparts ⊢
        rw [outcomes_succ, trace_append hs, hlast, List.map_append, hparts, List.range_succ,
          List.map_append, List.map_singleton, List.map_singleton, hsent, hdata]

/-- The loop's own check of the first parts, said of the answers. -/
theorem meets_outcomes (x : XtraData) (acks : Nat → XtraAck) {n : Nat} (hn : n ≤ x.totalParts)
    (hbyte : n ≤ 255) :
    Meets x.step Acknowledged .start (outcomes acks n) ↔ ∀ i < n, Accepted i (acks i) := by
  induction n with
  | zero => exact iff_of_true trivial fun i hi => absurd hi (Nat.not_lt_zero i)
  | succ n ih =>
      rcases x.run_placed acks (n := n) (by omega) (by omega) with ⟨s, hs, hplaced, -⟩
      have hlast : Meets x.step Acknowledged s [acks n] ↔ Accepted n (acks n) := by
        rw [← acknowledged_iff (acks n) hplaced.part (by omega)]
        exact and_iff_left fun t _ => trivial
      rw [outcomes_succ, meets_append hs, ih (by omega) (by omega), hlast,
        Nat.forall_lt_succ_right]

/-- The status that is left is that of the last part. -/
theorem status_of_exec (x : XtraData) {s t u : XtraLoop} {acks : List XtraAck} {ack : XtraAck}
    (hs : exec x.step s acks = some t) (hrun : exec x.step s (acks ++ [ack]) = some u) :
    u.status = ack.status := by
  rw [exec_append hs] at hrun
  rcases exec_cons hrun with ⟨v, hv, hlast⟩
  rw [exec, Option.some.injEq] at hlast
  subst hlast
  unfold step at hv
  split at hv
  case isTrue =>
      rcases Option.map_eq_some_iff.mp hv with ⟨req, -, rfl⟩
      rfl
  case isFalse => exact absurd hv (by simp only [reduceCtorEq, not_false_eq_true])

/-- When the loop has ended, it has taken the answers to all the parts, and
    returns the last of them. -/
theorem setXtraData_outcomes (x : XtraData) (acks : Nat → XtraAck) (h : x.totalParts < 255) :
    x.setXtraData (outcomes acks x.totalParts) =
      some (convertErr (acks (x.totalParts - 1)).status,
        x.parts .start (outcomes acks x.totalParts)) := by
  rcases x.run_spec x.after_start (outcomes acks x.totalParts)
    (.inl (by rw [length_outcomes]; omega)) with ⟨t, ht, hafter⟩
  rw [length_outcomes, Nat.zero_add] at hafter
  have hstatus : t.status = (acks (x.totalParts - 1)).status := by
    rcases x.run_placed acks (n := x.totalParts - 1) (by omega) (by omega) with ⟨s, hs, -⟩
    have hsucc : x.totalParts - 1 + 1 = x.totalParts := Nat.sub_add_cancel x.totalParts_pos
    refine x.status_of_exec hs ?_
    rwa [← outcomes_succ, hsucc]
  rw [← hstatus]
  exact setXtraData_eq_some.mpr ⟨t, ht, (x.ended_iff hafter).mpr h, rfl⟩

/-- The part after number 255 has number 0. -/
theorem part_zero (x : XtraData) (acks : Nat → XtraAck) (h : 255 ≤ x.totalParts) :
    ∃ t, exec x.step .start (outcomes acks 256) = some t ∧
      ∃ req ∈ x.parts .start (outcomes acks 256), req.partNum.toNat = 0 := by
  rcases x.run_spec x.after_start (outcomes acks 255) (.inr h) with ⟨s, hs, hafter⟩
  rw [length_outcomes] at hafter
  rcases x.injectXtra_spec hafter.inFile with ⟨req, hreq, hnum, -⟩
  rcases x.step_spec (acks 255) (x.part_le hafter (.inr h)) hafter.inFile with ⟨t, ht, -⟩
  refine ⟨t, ?_, req, ?_, ?_⟩
  · rw [outcomes_succ, exec_append hs, exec, ht, Option.bind_some, exec]
  · rw [parts, outcomes_succ, trace_append hs]
    refine List.mem_append_right _ ?_
    simp only [trace, ht, hreq, Option.toList_some, List.append_nil, List.mem_singleton]
  · rw [hnum, hafter.part]
    rfl

/-- Success is returned only if every part is acknowledged, and every part that
    is sent carries the bytes that its number stands for. The answers are a
    sequence without an end, and the function is run on each of its beginnings. -/
structure ReportsFailures (x : XtraData) (acks : Nat → XtraAck) : Prop where
  success : ∀ n reqs, x.setXtraData (outcomes acks n) = some (.success, reqs) →
    Meets x.step Acknowledged .start (outcomes acks n)
  carries : ∀ n t, exec x.step .start (outcomes acks n) = some t →
    ∀ req ∈ x.parts .start (outcomes acks n), 1 ≤ req.partNum.toNat ∧
      req.partData = Chunks.chunk QMI_LOC_MAX_PREDICTED_ORBITS_PART_LEN_V02 x.data
        (req.partNum.toNat - 1)

/-- Each of the first parts is there, with what it carries. -/
theorem exists_part (x : XtraData) (acks : Nat → XtraAck) {i n : Nat} (hn : n ≤ x.totalParts)
    (hbyte : n ≤ 255) (hi : i < n) :
    ∃ req ∈ x.parts .start (outcomes acks n), req.partNum.toNat = i + 1 ∧
      req.partData =
        Chunks.chunk QMI_LOC_MAX_PREDICTED_ORBITS_PART_LEN_V02 x.data (accepted acks i % 64) := by
  rcases x.run_placed acks hn hbyte with ⟨t, -, -, hparts⟩
  have hmem := List.mem_map_of_mem (f := fun i => (i + 1,
    Chunks.chunk QMI_LOC_MAX_PREDICTED_ORBITS_PART_LEN_V02 x.data (accepted acks i % 64)))
    (List.mem_range.mpr hi)
  rw [← hparts, List.mem_map] at hmem
  rcases hmem with ⟨req, hreq, heq⟩
  rw [Prod.mk.injEq] at heq
  exact ⟨req, hreq, heq.1, heq.2⟩

/-- And there is no other. -/
theorem part_of_mem (x : XtraData) (acks : Nat → XtraAck) {n : Nat} {req : InjectXtra}
    (hn : n ≤ x.totalParts) (hbyte : n ≤ 255) (hreq : req ∈ x.parts .start (outcomes acks n)) :
    ∃ i < n, req.partNum.toNat = i + 1 ∧ req.partData =
      Chunks.chunk QMI_LOC_MAX_PREDICTED_ORBITS_PART_LEN_V02 x.data (accepted acks i % 64) := by
  rcases x.run_placed acks hn hbyte with ⟨t, -, -, hparts⟩
  have hmem := List.mem_map_of_mem (f := fun r : InjectXtra => (r.partNum.toNat, r.partData)) hreq
  rw [hparts, List.mem_map] at hmem
  rcases hmem with ⟨i, hi, heq⟩
  rw [Prod.mk.injEq] at heq
  exact ⟨i, List.mem_range.mp hi, heq.1.symm, heq.2.symm⟩

/-- Failures are reported, and the parts are their own chunks, if and only if
    the part numbers fit, no part is rejected before a last one that goes
    through, and each chunk is the one that its acknowledgements lead to. What
    the function returns is the status of the last part, whatever was before it.
    The last condition compares chunks and not their numbers, as a file may
    repeat itself. -/
theorem reportsFailures_iff (x : XtraData) (acks : Nat → XtraAck) :
    x.ReportsFailures acks ↔
      x.data.length ≤ 260096 ∧
      ((acks (x.totalParts - 1)).status = .success → ∀ i < x.totalParts, Accepted i (acks i)) ∧
      ∀ i < x.totalParts,
        Chunks.chunk QMI_LOC_MAX_PREDICTED_ORBITS_PART_LEN_V02 x.data (accepted acks i % 64) =
          Chunks.chunk QMI_LOC_MAX_PREDICTED_ORBITS_PART_LEN_V02 x.data i := by
  rw [← x.totalParts_lt_iff]
  by_cases hparts : x.totalParts < 255
  -- The numbers are enough, and the loop ends after all the parts.
  · have hmeets := x.meets_outcomes acks (Nat.le_refl _) (by omega)
    have hret := x.setXtraData_outcomes acks hparts
    rw [and_iff_right hparts]
    constructor
    · intro h
      refine ⟨fun hlast => ?_, fun i hi => ?_⟩
      · rw [hlast] at hret
        exact hmeets.mp (h.success _ _ hret)
      · rcases x.run_placed acks (Nat.le_refl _) (by omega) with ⟨t, ht, -⟩
        rcases x.exists_part acks (Nat.le_refl _) (by omega) hi with ⟨req, hreq, hnum, hdata⟩
        rw [← hdata, (h.carries _ t ht req hreq).2, hnum, Nat.add_sub_cancel]
    · intro h
      refine ⟨fun n reqs hsuccess => ?_, fun n t ht req hreq => ?_⟩
      · -- Only the answers to all the parts make the function return.
        rcases setXtraData_eq_some.mp hsuccess with ⟨t, hrun, hend, -⟩
        have hn := (x.length_of_ended hrun hend).1
        rw [length_outcomes] at hn
        subst hn
        rw [hret, Option.some.injEq, Prod.mk.injEq, convertErr_success] at hsuccess
        exact hmeets.mpr (h.1 hsuccess.1)
      · have hn := x.length_le_of_exec hparts ht
        rw [length_outcomes] at hn
        rcases x.part_of_mem acks hn (by omega) hreq with ⟨i, hi, hnum, hdata⟩
        rw [hnum, Nat.add_sub_cancel, hdata]
        exact ⟨Nat.succ_pos i, h.2 i (Nat.lt_of_lt_of_le hi hn)⟩
  -- With more parts than numbers, part 0 is sent, which is no chunk.
  · refine iff_of_false (fun h => ?_) fun h => hparts h.1
    rcases x.part_zero acks (Nat.not_lt.mp hparts) with ⟨t, ht, req, hreq, hzero⟩
    have hpos := (h.carries 256 t ht req hreq).1
    omega

/-- A modem that takes every part but the first. -/
def rejectFirst (i : Nat) : XtraAck where
  status := .success
  success := i != 0
  partNum := UInt16.ofNat (i + 1)

/-- Unless it is the only part, or the loop never ends, the first part can be
    rejected behind a success. -/
theorem rejectFirst_not_reported (x : XtraData) (h : 1 < x.totalParts)
    (hparts : x.totalParts < 255) : ¬ x.ReportsFailures rejectFirst := by
  intro hreports
  have hret := x.setXtraData_outcomes rejectFirst hparts
  have hlast : convertErr (rejectFirst (x.totalParts - 1)).status = .success := rfl
  rw [hlast] at hret
  have hmeets := hreports.success _ _ hret
  rw [x.meets_outcomes _ (Nat.le_refl _) (by omega)] at hmeets
  exact absurd (hmeets 0 (by omega)) (by decide)

/-- A file of two parts. -/
theorem rejected_not_reported : ¬ (zeros 1025 (by decide)).ReportsFailures rejectFirst := by
  have htwo : (zeros 1025 (by decide)).totalParts = 2 := by
    unfold totalParts
    rw [length_zeros]
    rfl
  exact rejectFirst_not_reported _ (by rw [htwo]; decide) (by rw [htwo]; decide)

end XtraData

end LocApi

end Victara
