import Victara.Lib.Chunks
import Victara.Lib.StepSystem
import Victara.LocApi.LocApiV02

/-!
# Injecting an XTRA File

`LocApiV02::setXtraData`: a file of predicted orbits is cut into parts of at
most 1024 bytes, and each part is a request of its own that the modem
acknowledges. A part that is not acknowledged is not sent again, but the next
request begins where it did.

The length of the file and the number of parts are ints. The number of the
part is a `uint8_t`, and the place in the file a `uint16_t`. The one never
gets past 255, so 255 parts are never done (`ends_iff`), and the other is
back at the start of the file after 64 parts (`sendsTheFile_iff`).

A step is an iteration of the loop and its label is the acknowledgement. A
copy that reads past the end of the file would be no step at all.

## Main definitions

* `XtraData`: A file.
* `InjectXtra`, `XtraAck`: A request and what comes back.
* `XtraLoop`: The loop's variables.
* `XtraLoop.start`: Before the first iteration.
* `copy`: `memcpy` into `partData`.
* `injectXtra`: The request of an iteration.
* `Acknowledged`: A request counts when it is acknowledged, for its own part.
* `Ended`: The condition of the loop is false.
* `XtraData.step`: An iteration.
* `parts`: The requests of a run, in order.
* `XtraData.setXtraData`: The function.
* `After`: After `n` iterations.
* `EndsAfterParts`: The loop ends after the last part.
* `zeros`: A file of zeros.
* `Placed`: After `n` iterations, when the modem has acknowledged `m` of them.
* `Acked`: After `n` iterations that the modem has acknowledged.
* `XtraData.SendsTheFile`: What the modem has got is the file.
* `ackOf`: The acknowledgement of the part after `n` others.

## Theorems

* `lt_totalParts_iff`: The first part is there also when it has no bytes.
* `injectXtra_spec`: The request of an iteration whose place is in the file.
* `step_spec`: An iteration never reads past the end.
* `part_le`: A part number that is not above the number of parts, or never gets
  there.
* `run_spec`: As many iterations as the part number allows.
* `never_ends`: The loop of the others does not end.
* `length_le_of_exec`: After the last part there is no further iteration, if the
  loop ends at all.
* `length_of_ended`: A loop that has ended has gone through all the parts.
* `ends_iff`: The files whose loop ends after the last part.
* `place_le`: The chunk whose place comes out of 16 bits.
* `step_placed`: An iteration puts the chunk at its place in the request, and an
  acknowledgement moves the place on by one chunk.
* `step_acked`: An iteration that is acknowledged puts the next chunk in its
  request.
* `parts_spec`: The requests of the parts from `n` on, when all are
  acknowledged.
* `parts_eq`: The parts of a run that is acknowledged throughout.
* `parts_full`: All the parts but the last are full, wherever they come from.
* `exists_acked`: The modem can acknowledge all the parts, unless the loop never
  ends.
* `flatMap_parts`: The requests carry the file as a place of 16 bits goes
  through it.
* `wrapped_iff`: What a place of 16 bits gives is the file, if and only if it
  gets to the end of it, or the file is whole chunks that begin anew where the
  place does.
* `sendsTheFile_iff`: The files that arrive as they are.
-/

namespace Victara

namespace LocApi

open Sync (LocClientStatus)
open StepSystem

def QMI_LOC_MAX_PREDICTED_ORBITS_PART_LEN_V02 : Nat := 1024

/-- The `data` of `setXtraData`, whose `length` is an int. -/
structure XtraData where
  data : List UInt8
  int : data.length < 2147483648

/-- `qmiLocInjectPredictedOrbitsDataReqMsgT_v02`, with the first `partData_len`
    bytes of `partData`. -/
structure InjectXtra where
  formatType : UInt32
  totalSize : UInt32
  totalParts : UInt16
  partNum : UInt16
  partData : List UInt8
  deriving DecidableEq, Repr

def eQMI_LOC_PREDICTED_ORBITS_XTRA_V02 : UInt32 := 0

/-- What `loc_sync_send_req` returns, whether the indication says success, and
    the part that it is for. -/
structure XtraAck where
  status : LocClientStatus
  success : Bool
  partNum : UInt16
  deriving DecidableEq, Repr

/-- The variables that an iteration of the loop leaves to the next one. -/
structure XtraLoop where
  part : UInt8
  len_injected : UInt16
  status : LocClientStatus
  deriving DecidableEq, Repr

/-- Before the first iteration. -/
def XtraLoop.start : XtraLoop where
  part := 1
  len_injected := 0
  status := .success

namespace XtraData

def length (x : XtraData) : Int := x.data.length

def totalParts (x : XtraData) : Nat :=
  (x.data.length - 1) / QMI_LOC_MAX_PREDICTED_ORBITS_PART_LEN_V02 + 1

def partDataLen (x : XtraData) (len_injected : UInt16) : UInt32 :=
  if (QMI_LOC_MAX_PREDICTED_ORBITS_PART_LEN_V02 : Int) > x.length - len_injected.toNat then
    UInt32.ofInt (x.length - len_injected.toNat)
  else UInt32.ofNat QMI_LOC_MAX_PREDICTED_ORBITS_PART_LEN_V02

/-- `memcpy` into `partData`. Nothing can be said of a copy that goes past the
    end of either array. -/
def copy (x : XtraData) (off len : Nat) : Option (List UInt8) :=
  if off + len ≤ x.data.length ∧ len ≤ QMI_LOC_MAX_PREDICTED_ORBITS_PART_LEN_V02 then
    some ((x.data.drop off).take len)
  else none

/-- The request of an iteration. -/
def injectXtra (x : XtraData) (s : XtraLoop) : Option InjectXtra :=
  (x.copy s.len_injected.toNat (x.partDataLen s.len_injected).toNat).map fun partData =>
    { formatType := eQMI_LOC_PREDICTED_ORBITS_XTRA_V02
      totalSize := UInt32.ofInt x.length
      totalParts := UInt16.ofNat x.totalParts
      partNum := s.part.toUInt16
      partData }

/-- A request counts when it is acknowledged, for its own part. -/
def Acknowledged (s : XtraLoop) (ack : XtraAck) : Prop :=
  ack.status = .success ∧ ack.success = true ∧ ack.partNum = s.part.toUInt16

instance (s : XtraLoop) (ack : XtraAck) : Decidable (Acknowledged s ack) :=
  inferInstanceAs (Decidable (_ ∧ _ ∧ _))

/-- The condition of the loop is false. -/
def Ended (x : XtraData) (s : XtraLoop) : Prop := ¬ s.part.toNat ≤ x.totalParts

instance (x : XtraData) (s : XtraLoop) : Decidable (x.Ended s) :=
  inferInstanceAs (Decidable (¬ _))

/-- An iteration of the loop. -/
def step (x : XtraData) (s : XtraLoop) (ack : XtraAck) : Option XtraLoop :=
  if s.part.toNat ≤ x.totalParts then
    (x.injectXtra s).map fun req =>
      { part := s.part + 1
        len_injected :=
          if Acknowledged s ack then s.len_injected + UInt16.ofNat req.partData.length
          else s.len_injected
        status := ack.status }
  else none

/-- The requests of a run, in order. -/
def parts (x : XtraData) (s : XtraLoop) (acks : List XtraAck) : List InjectXtra :=
  trace x.step (fun s _ => (x.injectXtra s).toList) s acks

/-- `LocApiV02::setXtraData`, when its loop ends with these acknowledgements.
    It returns the status of the last part. -/
def setXtraData (x : XtraData) (acks : List XtraAck) : Option (AdapterErr × List InjectXtra) :=
  (exec x.step .start acks).bind fun s =>
    if x.Ended s then some (convertErr s.status, x.parts .start acks) else none

/-! ## One iteration -/

theorem totalParts_pos (x : XtraData) : 1 ≤ x.totalParts := Nat.le_add_left 1 _

/-- The first part is there also when it has no bytes. -/
theorem lt_totalParts_iff (x : XtraData) {k : Nat} (hk : 0 < k) :
    k < x.totalParts ↔ QMI_LOC_MAX_PREDICTED_ORBITS_PART_LEN_V02 * k < x.data.length := by
  unfold totalParts QMI_LOC_MAX_PREDICTED_ORBITS_PART_LEN_V02
  omega

theorem partDataLen_eq (x : XtraData) {len_injected : UInt16}
    (h : len_injected.toNat ≤ x.data.length) :
    (x.partDataLen len_injected).toNat =
      min QMI_LOC_MAX_PREDICTED_ORBITS_PART_LEN_V02 (x.data.length - len_injected.toNat) := by
  have hint := x.int
  have hcast : x.length - (len_injected.toNat : Int) =
      ((x.data.length - len_injected.toNat : Nat) : Int) := (Int.ofNat_sub h).symm
  unfold partDataLen
  rw [hcast]
  split
  case isTrue hlast =>
      have hlt : x.data.length - len_injected.toNat < QMI_LOC_MAX_PREDICTED_ORBITS_PART_LEN_V02 :=
        Int.ofNat_lt.mp hlast
      rw [Nat.min_eq_right (Nat.le_of_lt hlt)]
      unfold UInt32.ofInt
      rw [UInt32.toNat_ofNat']
      omega
  case isFalse hfull =>
      have hle : QMI_LOC_MAX_PREDICTED_ORBITS_PART_LEN_V02 ≤ x.data.length - len_injected.toNat :=
        Int.ofNat_le.mp (Int.not_lt.mp hfull)
      rw [Nat.min_eq_left hle]
      rfl

/-- The request of an iteration whose place is in the file. -/
theorem injectXtra_spec (x : XtraData) {s : XtraLoop} (h : s.len_injected.toNat ≤ x.data.length) :
    ∃ req, x.injectXtra s = some req ∧ req.partNum = s.part.toUInt16 ∧
      req.partData = (x.data.drop s.len_injected.toNat).take
        QMI_LOC_MAX_PREDICTED_ORBITS_PART_LEN_V02 := by
  have hlen := x.partDataLen_eq h
  have hcopy : x.copy s.len_injected.toNat (x.partDataLen s.len_injected).toNat =
      some ((x.data.drop s.len_injected.toNat).take
        QMI_LOC_MAX_PREDICTED_ORBITS_PART_LEN_V02) := by
    unfold copy
    rw [hlen, if_pos ⟨by omega, Nat.min_le_left _ _⟩, ← List.length_drop, ← List.take_eq_take_min]
  exact ⟨_, by rw [injectXtra, hcopy, Option.map_some], rfl, rfl⟩

/-- An iteration can be done, and its place stays in the file. -/
theorem step_spec (x : XtraData) {s : XtraLoop} (ack : XtraAck)
    (hpart : s.part.toNat ≤ x.totalParts) (h : s.len_injected.toNat ≤ x.data.length) :
    ∃ t, x.step s ack = some t ∧ t.part = s.part + 1 ∧ t.len_injected.toNat ≤ x.data.length := by
  rcases x.injectXtra_spec h with ⟨req, hreq, -, hdata⟩
  refine ⟨_, by rw [step, if_pos hpart, hreq, Option.map_some], rfl, ?_⟩
  show (if Acknowledged s ack then _ else _ : UInt16).toNat ≤ x.data.length
  split
  case isTrue =>
      have hadd : s.len_injected.toNat + req.partData.length ≤ x.data.length := by
        rw [hdata, List.length_take, List.length_drop]
        omega
      -- In 16 bits the sum may wrap around, which makes it smaller.
      refine Nat.le_trans ?_ hadd
      rw [UInt16.toNat_add, UInt16.toNat_ofNat']
      omega
  case isFalse => exact h

theorem step_ended (x : XtraData) {s : XtraLoop} (ack : XtraAck) (h : x.Ended s) :
    x.step s ack = none := if_neg h

/-! ## How long the loop runs -/

/-- After `n` iterations. -/
structure After (x : XtraData) (n : Nat) (s : XtraLoop) : Prop where
  part : s.part = UInt8.ofNat (n + 1)
  inFile : s.len_injected.toNat ≤ x.data.length

theorem after_start (x : XtraData) : x.After 0 .start := ⟨rfl, Nat.zero_le _⟩

/-- A part number that is not above the number of parts, or never gets there. -/
theorem part_le (x : XtraData) {n : Nat} {s : XtraLoop} (hs : x.After n s)
    (h : n < x.totalParts ∨ 255 ≤ x.totalParts) : s.part.toNat ≤ x.totalParts := by
  rw [hs.part, UInt8.toNat_ofNat']
  omega

/-- As many iterations as the part number allows can be done. -/
theorem run_spec (x : XtraData) {n : Nat} {s : XtraLoop} (hs : x.After n s) (acks : List XtraAck)
    (h : n + acks.length ≤ x.totalParts ∨ 255 ≤ x.totalParts) :
    ∃ t, exec x.step s acks = some t ∧ x.After (n + acks.length) t := by
  induction acks generalizing n s with
  | nil => exact ⟨s, rfl, hs⟩
  | cons ack acks ih =>
      rw [List.length_cons] at h ⊢
      have hpart := x.part_le hs (h.imp_left (by omega))
      rcases x.step_spec ack hpart hs.inFile with ⟨u, hu, hnext, hin⟩
      have hafter : x.After (n + 1) u := by
        refine ⟨?_, hin⟩
        rw [hnext, hs.part, UInt8.ofNat_add (n + 1) 1]
        rfl
      rcases ih hafter (h.imp_left (by omega)) with ⟨t, ht, hend⟩
      refine ⟨t, by rw [exec, hu, Option.bind_some, ht], ?_⟩
      rwa [Nat.add_assoc, Nat.add_comm 1] at hend

theorem ended_iff (x : XtraData) {s : XtraLoop} (hs : x.After x.totalParts s) :
    x.Ended s ↔ x.totalParts < 255 := by
  unfold Ended
  rw [hs.part, UInt8.toNat_ofNat']
  omega

/-- The loop of a file of more than 254 parts does not end. -/
theorem never_ends (x : XtraData) (h : 255 ≤ x.totalParts) (acks : List XtraAck) :
    ∃ t, exec x.step .start acks = some t ∧ ¬ x.Ended t := by
  rcases x.run_spec x.after_start acks (.inr h) with ⟨t, ht, hafter⟩
  exact ⟨t, ht, not_not_intro (x.part_le hafter (.inr h))⟩

/-- After the last part there is no further iteration, if the loop ends at all. -/
theorem length_le_of_exec (x : XtraData) {acks : List XtraAck} {t : XtraLoop}
    (hparts : x.totalParts < 255) (hrun : exec x.step .start acks = some t) :
    acks.length ≤ x.totalParts := by
  refine Classical.byContradiction fun hlong => ?_
  have hlen : (acks.take x.totalParts).length = x.totalParts := by
    rw [List.length_take]
    omega
  rcases x.run_spec x.after_start (acks.take x.totalParts) (.inl (by omega))
    with ⟨u, hu, hafter⟩
  rw [hlen, Nat.zero_add] at hafter
  have hnone : exec x.step u (acks.drop x.totalParts) = none := by
    cases hdrop : acks.drop x.totalParts with
    | nil =>
        have hzero := List.drop_eq_nil_iff.mp hdrop
        omega
    | cons ack rest =>
        rw [exec, x.step_ended ack ((x.ended_iff hafter).mpr hparts), Option.bind_none]
  rw [← List.take_append_drop x.totalParts acks, exec_append hu, hnone] at hrun
  exact absurd hrun (by simp only [reduceCtorEq, not_false_eq_true])

/-- A loop that has ended has gone through all the parts. -/
theorem length_of_ended (x : XtraData) {acks : List XtraAck} {t : XtraLoop}
    (hrun : exec x.step .start acks = some t) (hend : x.Ended t) :
    acks.length = x.totalParts ∧ x.totalParts < 255 := by
  have hparts : x.totalParts < 255 := by
    refine Classical.byContradiction fun hno => ?_
    rcases x.never_ends (Nat.not_lt.mp hno) acks with ⟨u, hu, hnot⟩
    rw [hrun, Option.some.injEq] at hu
    exact hnot (hu ▸ hend)
  have hle := x.length_le_of_exec hparts hrun
  refine ⟨?_, hparts⟩
  rcases x.run_spec x.after_start acks (.inl (by omega)) with ⟨u, hu, hafter⟩
  rw [hrun, Option.some.injEq] at hu
  subst hu
  -- With parts left, the part number would not be above theirs.
  refine Classical.byContradiction fun hne => hend (x.part_le hafter (.inl ?_))
  omega

theorem setXtraData_eq_some {x : XtraData} {acks : List XtraAck} {r : AdapterErr × List InjectXtra} :
    x.setXtraData acks = some r ↔ ∃ t, exec x.step .start acks = some t ∧ x.Ended t ∧
      r = (convertErr t.status, x.parts .start acks) := by
  unfold setXtraData
  rw [Option.bind_eq_some_iff]
  refine exists_congr fun t => and_congr_right fun _ => ?_
  split
  case isTrue hend => rw [Option.some.injEq, eq_comm, and_iff_right hend]
  case isFalse hgo => simp only [reduceCtorEq, hgo, false_and]

/-- The loop ends after the last part. It is given an acknowledgement for each
    part and no more, so that a loop which goes on has no result. -/
def EndsAfterParts (x : XtraData) (acks : Nat → XtraAck) : Prop :=
  (x.setXtraData ((List.range x.totalParts).map acks)).isSome = true

theorem totalParts_lt_iff (x : XtraData) : x.totalParts < 255 ↔ x.data.length ≤ 260096 := by
  unfold totalParts QMI_LOC_MAX_PREDICTED_ORBITS_PART_LEN_V02
  omega

/-- Whatever the modem says, the loop goes through the parts once and ends, if
    and only if the number after the last part's is still a `uint8_t`. With 255
    parts it is 0 again, and the loop has another 255 before it. -/
theorem ends_iff (x : XtraData) (acks : Nat → XtraAck) :
    x.EndsAfterParts acks ↔ x.data.length ≤ 260096 := by
  rw [← x.totalParts_lt_iff]
  have hlen : ((List.range x.totalParts).map acks).length = x.totalParts := by
    rw [List.length_map, List.length_range]
  rcases x.run_spec x.after_start ((List.range x.totalParts).map acks) (.inl (by omega))
    with ⟨t, ht, hafter⟩
  rw [hlen, Nat.zero_add] at hafter
  constructor
  · intro h
    rcases Option.isSome_iff_exists.mp h with ⟨r, hr⟩
    rcases setXtraData_eq_some.mp hr with ⟨u, hu, hend, -⟩
    rw [ht, Option.some.injEq] at hu
    exact (x.ended_iff hafter).mp (hu ▸ hend)
  · intro h
    have hsome := setXtraData_eq_some.mpr ⟨t, ht, (x.ended_iff hafter).mpr h, rfl⟩
    exact Option.isSome_iff_exists.mpr ⟨_, hsome⟩

/-- A file of zeros. -/
def zeros (n : Nat) (int : n < 2147483648) : XtraData where
  data := List.replicate n 0
  int := by rwa [List.length_replicate]

theorem length_zeros {n : Nat} (int : n < 2147483648) :
    (zeros n int).data.length = n := List.length_replicate

/-- A file of 255 parts, the last of one byte. -/
theorem zeros_not_ends : ¬ (zeros 260097 (by decide)).EndsAfterParts
    fun _ => ⟨.success, true, 1⟩ := by
  intro h
  rcases Option.isSome_iff_exists.mp h with ⟨r, hr⟩
  rcases setXtraData_eq_some.mp hr with ⟨t, ht, hend, -⟩
  have hparts := (zeros 260097 (by decide)).totalParts_lt_iff.mp
    (length_of_ended _ ht hend).2
  rw [length_zeros] at hparts
  omega

/-! ## What the modem gets -/

/-- After `n` iterations, when the modem has acknowledged `m` of them. The two
    counters go apart with the first part that is not acknowledged, which is all
    there is to the wrong chunks. -/
structure Placed (x : XtraData) (n m : Nat) (s : XtraLoop) : Prop where
  part : s.part = UInt8.ofNat (n + 1)
  place : n < x.totalParts →
    s.len_injected.toNat = QMI_LOC_MAX_PREDICTED_ORBITS_PART_LEN_V02 * (m % 64)

theorem placed_start (x : XtraData) : x.Placed 0 0 .start := ⟨rfl, fun _ => rfl⟩

/-- The chunk whose place comes out of 16 bits. -/
theorem place_le (x : XtraData) {n m : Nat} (hn : n < x.totalParts) (hmn : m ≤ n) :
    QMI_LOC_MAX_PREDICTED_ORBITS_PART_LEN_V02 * (m % 64) ≤ x.data.length := by
  by_cases hpos : 0 < n
  · have hlt := (x.lt_totalParts_iff hpos).mp hn
    unfold QMI_LOC_MAX_PREDICTED_ORBITS_PART_LEN_V02 at hlt ⊢
    omega
  · have hzero : m % 64 = 0 := by omega
    rw [hzero, Nat.mul_zero]
    exact Nat.zero_le _

/-- An iteration puts the chunk at its place in the request, and an
    acknowledgement moves the place on by one chunk. -/
theorem step_placed (x : XtraData) {n m : Nat} {s : XtraLoop} (ack : XtraAck)
    (hs : x.Placed n m s) (hmn : m ≤ n) (hn : n < x.totalParts) (hbyte : n < 255) :
    ∃ t req, x.step s ack = some t ∧ x.injectXtra s = some req ∧
      req.partNum = s.part.toUInt16 ∧
      req.partData =
        Chunks.chunk QMI_LOC_MAX_PREDICTED_ORBITS_PART_LEN_V02 x.data (m % 64) ∧
      x.Placed (n + 1) (m + if Acknowledged s ack then 1 else 0) t := by
  have hplace := hs.place hn
  have hin : s.len_injected.toNat ≤ x.data.length := hplace ▸ x.place_le hn hmn
  rcases x.injectXtra_spec hin with ⟨req, hreq, hnum, hdata⟩
  rw [hplace] at hdata
  have hpart : s.part.toNat ≤ x.totalParts := by
    rw [hs.part, UInt8.toNat_ofNat']
    omega
  refine ⟨_, req, by rw [step, if_pos hpart, hreq, Option.map_some], hreq, hnum, hdata,
    ?_, fun hnext => ?_⟩
  -- The part counts the requests, acknowledged or not.
  · show s.part + 1 = _
    rw [hs.part, UInt8.ofNat_add (n + 1) 1]
    rfl
  · -- A part that another one follows is full, so the place moves on by one chunk.
    have hfull : req.partData.length = QMI_LOC_MAX_PREDICTED_ORBITS_PART_LEN_V02 := by
      have hlt := (x.lt_totalParts_iff (Nat.succ_pos n)).mp hnext
      rw [hdata, List.length_take, List.length_drop]
      unfold QMI_LOC_MAX_PREDICTED_ORBITS_PART_LEN_V02 at hlt ⊢
      omega
    show (if Acknowledged s ack then _ else _ : UInt16).toNat = _
    split
    case isTrue hack =>
        rw [hfull, UInt16.toNat_add, UInt16.toNat_ofNat', hplace]
        unfold QMI_LOC_MAX_PREDICTED_ORBITS_PART_LEN_V02
        omega
    case isFalse hrej => rw [hplace, Nat.add_zero]

/-- After `n` iterations that the modem has acknowledged. -/
structure Acked (x : XtraData) (n : Nat) (s : XtraLoop) : Prop where
  part : s.part = UInt8.ofNat (n + 1)
  place : n < x.totalParts →
    s.len_injected.toNat = QMI_LOC_MAX_PREDICTED_ORBITS_PART_LEN_V02 * (n % 64)

theorem acked_start (x : XtraData) : x.Acked 0 .start := ⟨rfl, fun _ => rfl⟩

/-- An iteration that is acknowledged puts the next chunk in its request. -/
theorem step_acked (x : XtraData) {n : Nat} {s t : XtraLoop} {ack : XtraAck} (hs : x.Acked n s)
    (hn : n < x.totalParts) (hbyte : n < 255) (hack : Acknowledged s ack)
    (hstep : x.step s ack = some t) :
    x.Acked (n + 1) t ∧ ∃ req, x.injectXtra s = some req ∧ req.partNum = s.part.toUInt16 ∧
      req.partData =
        Chunks.chunk QMI_LOC_MAX_PREDICTED_ORBITS_PART_LEN_V02 x.data (n % 64) := by
  rcases x.step_placed ack ⟨hs.part, hs.place⟩ (Nat.le_refl n) hn hbyte
    with ⟨u, req, hu, hreq, hnum, hdata, hnext⟩
  rw [hstep, Option.some.injEq] at hu
  subst hu
  rw [if_pos hack] at hnext
  exact ⟨⟨hnext.part, hnext.place⟩, req, hreq, hnum, hdata⟩

/-- The requests of the parts from `n` on, when all are acknowledged. -/
theorem parts_spec (x : XtraData) {n : Nat} {s t : XtraLoop} {acks : List XtraAck}
    (hs : x.Acked n s) (hlen : n + acks.length ≤ x.totalParts) (hparts : x.totalParts < 255)
    (hack : Meets x.step Acknowledged s acks) (hrun : exec x.step s acks = some t) :
    (x.parts s acks).map InjectXtra.partData = (List.range' n acks.length).map
        (fun k => Chunks.chunk QMI_LOC_MAX_PREDICTED_ORBITS_PART_LEN_V02 x.data (k % 64)) ∧
      (x.parts s acks).map (fun req => req.partNum.toNat) =
        List.range' (n + 1) acks.length := by
  induction acks generalizing n s with
  | nil => exact ⟨rfl, rfl⟩
  | cons ack acks ih =>
      rw [List.length_cons] at hlen
      rcases exec_cons hrun with ⟨u, hu, hrest⟩
      rcases x.step_acked hs (by omega) (by omega) hack.1 hu with ⟨hnext, req, hreq, hnum, hdata⟩
      rcases ih hnext (by omega) (hack.2 u hu) hrest with ⟨hchunks, hnums⟩
      have hcons : x.parts s (ack :: acks) = req :: x.parts u acks := by
        simp only [parts, trace, hu, hreq, Option.toList_some, List.singleton_append]
      have hpart : req.partNum.toNat = n + 1 := by
        rw [hnum, UInt8.toNat_toUInt16, hs.part, UInt8.toNat_ofNat']
        omega
      rw [hcons, List.length_cons, List.map_cons, List.map_cons, hchunks, hnums, hdata, hpart,
        List.range'_succ, List.range'_succ, List.map_cons]
      exact ⟨rfl, rfl⟩

/-- The parts of a run that is acknowledged throughout. -/
theorem parts_eq (x : XtraData) {acks : List XtraAck} {t : XtraLoop}
    (hrun : exec x.step .start acks = some t) (hend : x.Ended t)
    (hack : Meets x.step Acknowledged .start acks) :
    (x.parts .start acks).map InjectXtra.partData = (List.range x.totalParts).map
        (fun k => Chunks.chunk QMI_LOC_MAX_PREDICTED_ORBITS_PART_LEN_V02 x.data (k % 64)) ∧
      (x.parts .start acks).map (fun req => req.partNum.toNat) =
        List.range' 1 x.totalParts := by
  rcases x.length_of_ended hrun hend with ⟨hlen, hparts⟩
  have h := x.parts_spec x.acked_start (by omega) hparts hack hrun
  rwa [hlen, ← List.range_eq_range'] at h

/-- What the modem has got is the file, part by part and in order, and all the
    parts but the last are full. It is said of every run in which each part is
    acknowledged for its own number, and which comes to an end; a loop that does
    not end satisfies it, and `ends_iff` says when there is one. -/
def SendsTheFile (x : XtraData) : Prop :=
  ∀ acks err reqs, x.setXtraData acks = some (err, reqs) →
    Meets x.step Acknowledged .start acks →
    reqs.map (fun req => req.partNum.toNat) = List.range' 1 x.totalParts ∧
      reqs.flatMap InjectXtra.partData = x.data ∧
      ∀ req ∈ reqs.dropLast,
        req.partData.length = QMI_LOC_MAX_PREDICTED_ORBITS_PART_LEN_V02

/-- All the parts but the last are full, wherever they come from. -/
theorem parts_full (x : XtraData) {acks : List XtraAck} {t : XtraLoop}
    (hrun : exec x.step .start acks = some t) (hend : x.Ended t)
    (hack : Meets x.step Acknowledged .start acks) :
    ∀ req ∈ (x.parts .start acks).dropLast,
      req.partData.length = QMI_LOC_MAX_PREDICTED_ORBITS_PART_LEN_V02 := by
  intro req hreq
  have hmem : req.partData ∈ ((x.parts .start acks).map InjectXtra.partData).dropLast := by
    rw [← List.map_dropLast]
    exact List.mem_map_of_mem hreq
  rw [(x.parts_eq hrun hend hack).1, ← List.map_dropLast, List.mem_map] at hmem
  rcases hmem with ⟨k, hk, hchunk⟩
  have hlt : k + 1 < x.totalParts := by
    have hpos := x.totalParts_pos
    rw [List.dropLast_eq_take, List.length_range, List.take_range, List.mem_range] at hk
    omega
  have hroom := (x.lt_totalParts_iff (Nat.succ_pos k)).mp hlt
  rw [← hchunk, Chunks.length_chunk]
  unfold QMI_LOC_MAX_PREDICTED_ORBITS_PART_LEN_V02 at hroom ⊢
  omega

/-- The acknowledgement of the part after `n` others. -/
def ackOf (n : Nat) : XtraAck where
  status := .success
  success := true
  partNum := (UInt8.ofNat (n + 1)).toUInt16

theorem meets_ackOf (x : XtraData) {n m : Nat} {s : XtraLoop} (hs : x.After n s)
    (h : n + m ≤ x.totalParts) :
    Meets x.step Acknowledged s ((List.range' n m).map ackOf) := by
  induction m generalizing n s with
  | zero => trivial
  | succ m ih =>
      rw [List.range'_succ, List.map_cons]
      refine ⟨⟨rfl, rfl, by rw [hs.part, ackOf]⟩, fun t ht => ih ?_ (by omega)⟩
      rcases x.run_spec hs [ackOf n] (.inl (by rw [List.length_singleton]; omega))
        with ⟨u, hu, hafter⟩
      rw [exec, Option.mem_def.mp ht, Option.bind_some, exec, Option.some.injEq] at hu
      exact hu ▸ hafter

/-- The modem can acknowledge all the parts, unless the loop never ends. -/
theorem exists_acked (x : XtraData) (hparts : x.totalParts < 255) :
    ∃ acks t, exec x.step .start acks = some t ∧ x.Ended t ∧
      Meets x.step Acknowledged .start acks := by
  have hlen : ((List.range' 0 x.totalParts).map ackOf).length = x.totalParts := by
    rw [List.length_map, List.length_range']
  rcases x.run_spec x.after_start ((List.range' 0 x.totalParts).map ackOf) (.inl (by omega))
    with ⟨t, ht, hafter⟩
  rw [hlen, Nat.zero_add] at hafter
  exact ⟨_, t, ht, (x.ended_iff hafter).mpr hparts, x.meets_ackOf x.after_start (by omega)⟩

/-- The requests carry the file as a place of 16 bits goes through it. -/
theorem flatMap_parts (x : XtraData) {acks : List XtraAck} {t : XtraLoop}
    (hrun : exec x.step .start acks = some t) (hend : x.Ended t)
    (hack : Meets x.step Acknowledged .start acks) :
    (x.parts .start acks).flatMap InjectXtra.partData =
      Chunks.wrapped QMI_LOC_MAX_PREDICTED_ORBITS_PART_LEN_V02 64 x.data x.totalParts := by
  rw [List.flatMap_def, (x.parts_eq hrun hend hack).1, ← List.flatMap_def]
  rfl

/-- What a place of 16 bits gives is the file, if and only if it gets to the
    end of it, or the file is whole chunks that begin anew where the place does. -/
theorem wrapped_iff (x : XtraData) :
    Chunks.wrapped QMI_LOC_MAX_PREDICTED_ORBITS_PART_LEN_V02 64 x.data x.totalParts = x.data ↔
      x.data.length ≤ 65536 ∨ (1024 ∣ x.data.length ∧ x.data.drop 65536 <+: x.data) := by
  have hlast := (x.lt_totalParts_iff x.totalParts_pos).not.mp (Nat.lt_irrefl _)
  by_cases hsmall : x.data.length ≤ 65536
  · have hle : x.totalParts ≤ 64 := by
      refine Nat.le_of_not_lt fun hlt => ?_
      have hroom := (x.lt_totalParts_iff (k := 64) (by decide)).mp hlt
      unfold QMI_LOC_MAX_PREDICTED_ORBITS_PART_LEN_V02 at hroom
      omega
    rw [Chunks.wrapped_of_le x.data hle, List.take_of_length_le (Nat.le_of_not_lt hlast)]
    exact iff_of_true rfl (.inl hsmall)
  · have hlt : 64 < x.totalParts := by
      refine (x.lt_totalParts_iff (k := 64) (by decide)).mpr ?_
      unfold QMI_LOC_MAX_PREDICTED_ORBITS_PART_LEN_V02
      omega
    rw [Chunks.wrapped_eq_iff (by decide) (Nat.le_of_lt hlt)
      (Nat.le_of_lt ((x.lt_totalParts_iff (k := 64) (by decide)).mp hlt)), or_iff_right hsmall]
    refine and_congr_left fun _ => ?_
    unfold totalParts QMI_LOC_MAX_PREDICTED_ORBITS_PART_LEN_V02
    omega

/-- The files that arrive as they are. The place in the file is a `uint16_t`, so
    that a file of more than 64 parts starts again from its beginning. That may
    be what the file has there: the third case is a file that repeats itself, in
    full parts. The loop of the longest does not end. -/
theorem sendsTheFile_iff (x : XtraData) :
    x.SendsTheFile ↔ x.data.length ≤ 65536 ∨ 260096 < x.data.length ∨
      (1024 ∣ x.data.length ∧ x.data.drop 65536 <+: x.data) := by
  by_cases hparts : x.totalParts < 255
  · have hends := x.totalParts_lt_iff.mp hparts
    have hguard : (x.data.length ≤ 65536 ∨ 260096 < x.data.length ∨
        (1024 ∣ x.data.length ∧ x.data.drop 65536 <+: x.data)) ↔
        Chunks.wrapped QMI_LOC_MAX_PREDICTED_ORBITS_PART_LEN_V02 64 x.data x.totalParts =
          x.data := by
      rw [x.wrapped_iff, or_iff_right (a := 260096 < x.data.length) (Nat.not_lt.mpr hends)]
    rw [hguard]
    constructor
    · intro h
      rcases x.exists_acked hparts with ⟨acks, t, hrun, hend, hack⟩
      rw [← x.flatMap_parts hrun hend hack]
      exact (h acks _ _ (setXtraData_eq_some.mpr ⟨t, hrun, hend, rfl⟩) hack).2.1
    · intro h acks err reqs hret hack
      rcases setXtraData_eq_some.mp hret with ⟨t, hrun, hend, hr⟩
      rw [Prod.mk.injEq] at hr
      rw [hr.2, x.flatMap_parts hrun hend hack, h]
      exact ⟨(x.parts_eq hrun hend hack).2, rfl, x.parts_full hrun hend hack⟩
  · have hlong := x.totalParts_lt_iff.not.mp hparts
    refine iff_of_true (fun acks err reqs hret _ => ?_) (.inr (.inl (Nat.lt_of_not_le hlong)))
    rcases setXtraData_eq_some.mp hret with ⟨t, hrun, hend, -⟩
    exact absurd (x.length_of_ended hrun hend).2 hparts

/-- The last part of this file is its first 1024 bytes and not its last one. -/
theorem zeros_not_sent : ¬ (zeros 65537 (by decide)).SendsTheFile := by
  intro h
  have hlen := length_zeros (n := 65537) (by decide)
  have hparts := (zeros 65537 (by decide)).totalParts_lt_iff.mpr (by omega)
  rcases exists_acked _ hparts with ⟨acks, t, hrun, hend, hack⟩
  have hsent := (h acks _ _ (setXtraData_eq_some.mpr ⟨t, hrun, hend, rfl⟩) hack).2.1
  rw [flatMap_parts _ hrun hend hack, wrapped_iff, hlen] at hsent
  omega

end XtraData

end LocApi

end Victara
