import Mathlib.Data.List.Basic
import Victara.Lib.Mask

/-!
# Which Messages the Modem Supports

`checkQmiMsgsSupported` of `loc_api_v02_client.c`: of at most 64 messages, which
ones the modem supports. The modem answers with a list of bytes that has a bit
for every message. The result is a word that has a bit for every message that
was asked for.

The loop goes no further than the array that is asked for, the bits of the
result, and the bytes of the answer. The last of the three has nothing to do
with it: the messages of an array may all have their bits in the first byte.
And the bit of the result is a shifted int. For index 31 it is the sign, which
goes into all the bits above it, and from 32 on there is no such int.

## Main definitions

* `SupportedMsgs`, `MsgArray`: The answer and what is asked for.
* `supports`: The test of one message.
* `checkLoop`, `checkQmiMsgsSupported`: The function.
* `maxCheckedMsgsSavedNum`: `sizeof(result)<<3`.
* `Supported`: The bit of a message is in a byte of the list, and set.
* `SupportedAt`: The message with index `i` is supported.
* `SupportedMsgs.bitmap`: The bytes of the answer, which has none if they are
  not valid.
* `Exact`: What the result should be.
* `InReach`: The index of a supported message is below the number of bytes, and
  below that of an int's sign.
* `firstTwo`: The modem supports the messages 0 and 1, and is asked for both.

## Theorems

* `supports_iff`: The test is that of the bit.
* `exists_supportedAt_cons`: A supported message is the first one, or comes
  after it.
* `checkLoop_spec`: The bits that the loop sets, and when it has no value.
* `checkQmiMsgsSupported_eq`: The loop is the function, with no messages for an
  answer without bytes.
* `checkQmiMsgsSupported_spec`: The bits of the function.
* `checkQmiMsgsSupported_exact_iff`: The calls with the right result.
-/

namespace Victara

namespace LocApi

open Mask

/-- `qmi_get_supported_msgs_resp_v01`, with the first `supported_msgs_len` bytes. -/
structure SupportedMsgs where
  supported_msgs_valid : Bool
  supported_msgs : List (BitVec 8)
  len : supported_msgs.length < 4294967296

/-- `reqIdArray` of at most 64 messages. -/
structure MsgArray where
  reqIds : List (BitVec 32)
  len : reqIds.length ≤ 64

/-- `supportedMsgsLen > length` and the test of the bit that follows it. -/
def supports (msgs : List (BitVec 8)) (reqId : BitVec 32) : Bool :=
  match msgs[(reqId >>> 3).toNat]? with
  | some byte => byte.setWidth 32 &&& BitVec.twoPow 32 (reqId &&& 7#32).toNat != 0#32
  | none => false

/-- The rest of the loop. -/
def checkLoop (msgs : List (BitVec 8)) : List (BitVec 32) → Nat → BitVec 64 → Option (BitVec 64)
  | [], _, result => some result
  | reqId :: reqIds, idx, result =>
      if supports msgs reqId then
        (intShl idx).bind fun bit => checkLoop msgs reqIds (idx + 1) (result ||| bit.signExtend 64)
      else checkLoop msgs reqIds (idx + 1) result

/-- `sizeof(result)<<3`. -/
def maxCheckedMsgsSavedNum : Nat := 64

def loopSize (reqIdArrayLength supportedMsgsLen : Nat) : Nat :=
  min (min reqIdArrayLength supportedMsgsLen) maxCheckedMsgsSavedNum

/-- What is written to `supportedMsg`. -/
def checkQmiMsgsSupported (a : MsgArray) (resp : SupportedMsgs) : Option (BitVec 64) :=
  if resp.supported_msgs_valid then
    checkLoop resp.supported_msgs
      (a.reqIds.take (loopSize a.reqIds.length resp.supported_msgs.length)) 0 0#64
  else some 0#64

/-! ## The loop -/

/-- The bit of a message is in a byte of the list, and set. -/
def Supported (msgs : List (BitVec 8)) (reqId : BitVec 32) : Prop :=
  ∃ byte, msgs[reqId.toNat / 8]? = some byte ∧ byte.getLsbD (reqId.toNat % 8) = true

theorem supports_iff (msgs : List (BitVec 8)) (reqId : BitVec 32) :
    supports msgs reqId = true ↔ Supported msgs reqId := by
  have hbyte : (reqId >>> 3).toNat = reqId.toNat / 8 := by
    rw [BitVec.toNat_ushiftRight, Nat.shiftRight_eq_div_pow]
  have hbit : (reqId &&& 7#32).toNat = reqId.toNat % 8 := by
    rw [BitVec.toNat_and]
    exact Nat.and_two_pow_sub_one_eq_mod reqId.toNat 3
  unfold supports Supported
  rw [hbyte, hbit]
  cases msgs[reqId.toNat / 8]? with
  | none => simp only [Bool.false_eq_true, reduceCtorEq, false_and, exists_false]
  | some byte =>
      rw [bne_iff_ne, and_twoPow_ne_zero_iff, BitVec.getLsbD_setWidth]
      simp only [Option.some.injEq, exists_eq_left', Bool.and_eq_true, decide_eq_true_eq]
      exact and_iff_right (by omega)

/-- The message with index `i` is supported. -/
def SupportedAt (msgs : List (BitVec 8)) (reqIds : List (BitVec 32)) (i : Nat) : Prop :=
  ∃ reqId, reqIds[i]? = some reqId ∧ Supported msgs reqId

/-- It is the first one, or comes after it. -/
theorem exists_supportedAt_cons (msgs : List (BitVec 8)) (reqId : BitVec 32)
    (reqIds : List (BitVec 32)) (idx : Nat) (p : Nat → Prop) :
    (∃ i, SupportedAt msgs (reqId :: reqIds) i ∧ p (idx + i)) ↔
      Supported msgs reqId ∧ p idx ∨ ∃ i, SupportedAt msgs reqIds i ∧ p (idx + 1 + i) := by
  constructor
  · rintro ⟨i, ⟨reqId', hget, hsup⟩, hp⟩
    cases i with
    | zero =>
        rw [List.getElem?_cons_zero, Option.some.injEq] at hget
        exact .inl ⟨hget ▸ hsup, hp⟩
    | succ i =>
        rw [List.getElem?_cons_succ] at hget
        rw [Nat.add_comm i 1, ← Nat.add_assoc] at hp
        exact .inr ⟨i, ⟨reqId', hget, hsup⟩, hp⟩
  · rintro (⟨hsup, hp⟩ | ⟨i, ⟨reqId', hget, hsup⟩, hp⟩)
    · exact ⟨0, ⟨reqId, List.getElem?_cons_zero, hsup⟩, hp⟩
    · rw [Nat.add_assoc, Nat.add_comm 1 i] at hp
      exact ⟨i + 1, ⟨reqId', by rw [List.getElem?_cons_succ, hget], hsup⟩, hp⟩

/-- The loop has a value if no index of a supported message is too large for an
    int. Then it sets the bits of these, and all those above a sign. -/
theorem checkLoop_spec (msgs : List (BitVec 8)) (reqIds : List (BitVec 32)) (idx : Nat)
    (result : BitVec 64) :
    (checkLoop msgs reqIds idx result = none ↔ ∃ i, SupportedAt msgs reqIds i ∧ 32 ≤ idx + i) ∧
      ∀ r, checkLoop msgs reqIds idx result = some r → ∀ j, r.getLsbD j = true ↔
        result.getLsbD j = true ∨ ∃ i, SupportedAt msgs reqIds i ∧
          (j = idx + i ∨ idx + i = 31 ∧ 31 ≤ j ∧ j < 64) := by
  -- The index and the bits so far are those of the iteration.
  induction reqIds generalizing idx result with
  | nil =>
      have hno (p : Nat → Prop) : ¬ ∃ i, SupportedAt msgs [] i ∧ p i := by
        rintro ⟨i, ⟨reqId, hget, _⟩, _⟩
        cases hget
      refine ⟨iff_of_false (by rw [checkLoop]; exact Option.some_ne_none _) (hno _), ?_⟩
      intro r hr j
      rw [checkLoop, Option.some.injEq] at hr
      rw [hr]
      exact (or_iff_left (hno _)).symm
  | cons reqId reqIds ih =>
      rw [exists_supportedAt_cons msgs reqId reqIds idx fun i => 32 ≤ i, checkLoop, ← supports_iff]
      have hbits (j : Nat) := exists_supportedAt_cons msgs reqId reqIds idx
        fun i => j = i ∨ i = 31 ∧ 31 ≤ j ∧ j < 64
      simp only [hbits, ← supports_iff]
      cases hsup : supports msgs reqId with
      | false =>
          simp only [Bool.false_eq_true, if_false, false_and, false_or]
          exact ih (idx + 1) result
      | true =>
          simp only [if_true, true_and]
          cases hbit : intShl idx with
          | none =>
              rw [Option.bind_none]
              refine ⟨iff_of_true rfl (.inl (intShl_eq_none.mp hbit)), fun r hr => ?_⟩
              cases hr
          | some bit =>
              -- The bit of this message, or with index 31 all from there on.
              have hidx := (intShl_eq_some.mp hbit).1
              rw [Option.bind_some, or_iff_right (by omega)]
              refine ⟨(ih (idx + 1) _).1, fun r hr j => ?_⟩
              rw [(ih (idx + 1) _).2 r hr j, BitVec.getLsbD_or, Bool.or_eq_true,
                getLsbD_intShl_signExtend hbit (by decide), or_assoc]

/-! ## The result -/

/-- The bytes of the answer, which has none if they are not valid. -/
def SupportedMsgs.bitmap (resp : SupportedMsgs) : List (BitVec 8) :=
  if resp.supported_msgs_valid then resp.supported_msgs else []

/-- A bit of the result is set if it is that of a supported message. -/
def Exact (a : MsgArray) (resp : SupportedMsgs) : Prop :=
  ∃ r, checkQmiMsgsSupported a resp = some r ∧
    ∀ i, r.getLsbD i = true ↔ SupportedAt resp.bitmap a.reqIds i

/-- The index of a supported message is below the number of bytes, and below
    that of an int's sign. Or the sign sets all the bits above it, where all the
    messages are supported, and the loop has ended with it. The number of bytes
    in the answer ends the loop as well, although it has nothing to do with the
    index; and the bit that is set is a shifted `int`. The last case is the one
    in which the second fault gives what is right. -/
def InReach (a : MsgArray) (resp : SupportedMsgs) : Prop :=
  (∀ i, SupportedAt resp.bitmap a.reqIds i → i < resp.bitmap.length ∧ i < 31) ∨
    resp.bitmap.length = 32 ∧ ∀ i, 31 ≤ i → i < 64 → SupportedAt resp.bitmap a.reqIds i

theorem lt_of_supportedAt {msgs : List (BitVec 8)} {reqIds : List (BitVec 32)} {i : Nat}
    (h : SupportedAt msgs reqIds i) : i < reqIds.length := by
  rcases h with ⟨reqId, hget, _⟩
  exact (List.getElem?_eq_some_iff.mp hget).1

theorem supportedAt_take {msgs : List (BitVec 8)} {reqIds : List (BitVec 32)} {n i : Nat} :
    SupportedAt msgs (reqIds.take n) i ↔ i < n ∧ SupportedAt msgs reqIds i := by
  unfold SupportedAt
  rw [List.getElem?_take]
  split
  case isTrue h => exact (and_iff_right h).symm
  case isFalse h => simp only [reduceCtorEq, false_and, exists_false, h]

/-- The loop is the function, with no messages for an answer without bytes. -/
theorem checkQmiMsgsSupported_eq (a : MsgArray) (resp : SupportedMsgs) :
    checkQmiMsgsSupported a resp = checkLoop resp.bitmap
      (a.reqIds.take (loopSize a.reqIds.length resp.bitmap.length)) 0 0#64 := by
  unfold checkQmiMsgsSupported SupportedMsgs.bitmap
  split
  case isTrue => rfl
  case isFalse =>
      have hzero : loopSize a.reqIds.length ([] : List (BitVec 8)).length = 0 := by
        unfold loopSize
        rw [List.length_nil]
        omega
      rw [hzero, List.take_zero, checkLoop]

/-- The supported messages that the loop gets to are those with a byte of the
    answer for their index. -/
theorem checkQmiMsgsSupported_spec (a : MsgArray) (resp : SupportedMsgs) :
    (checkQmiMsgsSupported a resp = none ↔
      ∃ i, (i < resp.bitmap.length ∧ SupportedAt resp.bitmap a.reqIds i) ∧ 32 ≤ i) ∧
    ∀ r, checkQmiMsgsSupported a resp = some r → ∀ j, r.getLsbD j = true ↔
      ∃ i, (i < resp.bitmap.length ∧ SupportedAt resp.bitmap a.reqIds i) ∧
        (j = i ∨ i = 31 ∧ 31 ≤ j ∧ j < 64) := by
  have hlen := a.len
  have hspec := checkLoop_spec resp.bitmap
    (a.reqIds.take (loopSize a.reqIds.length resp.bitmap.length)) 0 0#64
  rw [← checkQmiMsgsSupported_eq] at hspec
  simp only [supportedAt_take, Nat.zero_add, BitVec.getLsbD_zero, Bool.false_eq_true, false_or]
    at hspec
  -- An index of the loop is one of the array and one of the bytes.
  have hsize (i : Nat) : i < loopSize a.reqIds.length resp.bitmap.length ∧
      SupportedAt resp.bitmap a.reqIds i ↔
      i < resp.bitmap.length ∧ SupportedAt resp.bitmap a.reqIds i := by
    refine and_congr_left fun hi => ?_
    have hlt := lt_of_supportedAt hi
    unfold loopSize maxCheckedMsgsSavedNum
    omega
  simp only [hsize] at hspec
  exact hspec

/-- The calls with the right result, for every array of message ids and every
    bitmap that the modem may answer with. -/
theorem checkQmiMsgsSupported_exact_iff (a : MsgArray) (resp : SupportedMsgs) :
    Exact a resp ↔ InReach a resp := by
  have hlen := a.len
  rcases checkQmiMsgsSupported_spec a resp with ⟨hnone, hsome⟩
  constructor
  · rintro ⟨r, hr, hbits⟩
    have hint : ∀ i, i < resp.bitmap.length → SupportedAt resp.bitmap a.reqIds i → i < 32 := by
      intro i hi hsup
      refine Nat.lt_of_not_le fun hge => ?_
      rw [hnone.mpr ⟨i, ⟨hi, hsup⟩, hge⟩] at hr
      cases hr
    by_cases hsign : 31 < resp.bitmap.length ∧ SupportedAt resp.bitmap a.reqIds 31
    · -- The sign has set all the bits above it.
      have hall : ∀ i, 31 ≤ i → i < 64 → SupportedAt resp.bitmap a.reqIds i := fun i hi hlt =>
        (hbits i).mp ((hsome r hr i).mpr ⟨31, hsign, .inr ⟨rfl, hi, hlt⟩⟩)
      refine .inr ⟨Nat.le_antisymm (Nat.le_of_not_lt fun hlong => ?_) hsign.1, hall⟩
      exact absurd (hint 32 hlong (hall 32 (by decide) (by decide))) (by decide)
    · refine .inl fun i hsup => ?_
      rcases (hsome r hr i).mp ((hbits i).mpr hsup) with ⟨k, hk, rfl | ⟨rfl, _, _⟩⟩
      · have hlt := hint i hk.1 hk.2
        have hne : i ≠ 31 := fun heq => hsign (heq ▸ hk)
        exact ⟨hk.1, by omega⟩
      · exact absurd hk hsign
  · intro hreach
    -- In reach no index needs a shift that has no value.
    have hdef : ∃ r, checkQmiMsgsSupported a resp = some r := by
      refine Option.ne_none_iff_exists'.mp fun hno => ?_
      rcases hnone.mp hno with ⟨i, ⟨hi, hsup⟩, hge⟩
      rcases hreach with hlow | ⟨hbytes, _⟩
      · have hlt := (hlow i hsup).2
        omega
      · omega
    rcases hdef with ⟨r, hr⟩
    refine ⟨r, hr, fun j => ?_⟩
    rw [hsome r hr]
    constructor
    · rintro ⟨i, ⟨hi, hsup⟩, rfl | ⟨rfl, hge, hlt⟩⟩
      · exact hsup
      · rcases hreach with hlow | ⟨_, hall⟩
        · exact absurd (hlow 31 hsup).2 (by decide)
        · exact hall j hge hlt
    · intro hsup
      have hlt := lt_of_supportedAt hsup
      rcases hreach with hlow | ⟨hbytes, hall⟩
      · exact ⟨j, ⟨(hlow j hsup).1, hsup⟩, .inl rfl⟩
      -- The loop ends at the sign, which stands for what comes after it.
      · by_cases hj : j < 32
        · exact ⟨j, ⟨by omega, hsup⟩, .inl rfl⟩
        · exact ⟨31, ⟨by omega, hall 31 (by decide) (by decide)⟩, .inr ⟨rfl, by omega, by omega⟩⟩

/-- The modem supports the messages 0 and 1, and is asked for both. -/
def firstTwo : MsgArray where
  reqIds := [0#32, 1#32]
  len := by decide

def bothSupported : SupportedMsgs where
  supported_msgs_valid := true
  supported_msgs := [3#8]
  len := by decide

/-- The second one is lost, since the answer has one byte. -/
theorem bothSupported_not_exact : ¬ Exact firstTwo bothSupported := by
  rintro ⟨r, hr, hbits⟩
  have hone : checkQmiMsgsSupported firstTwo bothSupported = some 1#64 := by decide
  rw [hone, Option.some.injEq] at hr
  have hsup : SupportedAt bothSupported.bitmap firstTwo.reqIds 1 := ⟨1#32, rfl, 3#8, rfl, rfl⟩
  have hbit := (hbits 1).mpr hsup
  rw [← hr] at hbit
  exact absurd hbit (by decide)

end LocApi

end Victara
