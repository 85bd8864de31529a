import Mathlib.Logic.Function.Iterate
import Victara.Agps.Machine

/-!
# Who a BIT Subscriber Is

A request of the BIT daemon has an IPv4 address and the 16 bytes of an IPv6
address. `LocEngReqRelBIT` makes a subscriber of it, and compares it with those
on the list: to see whether it is listed already, or to find the one that is
to leave.

Two BIT subscribers are compared by their IPv4 addresses, and by their IPv6
addresses if these are INADDR_NONE. The bytes are compared as strings, so that
nothing after a zero byte counts, and many addresses begin with one. A
subscriber of another kind is compared as if it were a BIT subscriber, or the
BIT subscriber as if it were one of its kind. Both ask for the same ID, and the
IDs of the kinds have nothing to do with each other.

## Main definitions

* `IfRequest`, `LocEngReqRelBIT`: A request and the message that is made of it.
* `IfRequest.message`: The daemon's array is never NULL, and the message has a
  copy of it.
* `newBIT`, `LocEngReqRelBIT.subscriber`: The subscriber.
* `AgreeToNul`: Arrays that are the same up to a zero byte.
* `BitSubscriber`: The subscribers of the daemon.
* `BitIdentity`: Who they are and who they are not.
* `NoSharedNul`: The IPv6 addresses, where they count, do not differ only after
  a zero byte that they share.
* `NoSharedID`: Nobody of another kind has the address for an ID.
* `lowAddr`: The IPv6 address whose last byte is `b`, and whose others are zero.

## Theorems

* `strncmpEq_iff`: When the string comparison says that arrays are equal.
* `strncmpEq_symm`, `strncmpEq_trans`: It is an equivalence all the same.
* `equals_bit`, `exact_iff`: When two requests make the same subscriber.
* `bit_of_isBIT`: Whoever is compared with a BIT subscriber.
* `equals_equivalence`: On the subscribers of the daemon `equals` is an
  equivalence.
* `clone_bit`: Copies of a BIT subscriber are the same.
* `other_equals_bit`: Another kind is the same as a BIT subscriber exactly if it
  has its ID.
* `bitIdentity_iff`: The requests that are told apart.
-/

namespace Victara

namespace Agps

open Subscriber

/-- What `ctrl_msg_if_request` says of an address; of `ipv4_addr` these are the
    bits that an int has. -/
structure IfRequest where
  ipv4_addr : UInt32
  ipv6_addr : IPv6Addr
  deriving DecidableEq

structure LocEngReqRelBIT where
  mIPv4Addr : UInt32
  mIPv6Addr : Option IPv6Addr
  mIsReq : Bool
  deriving DecidableEq

/-- The daemon's array is never NULL, and the message has a copy of it. -/
def IfRequest.message (r : IfRequest) (isReq : Bool) : LocEngReqRelBIT where
  mIPv4Addr := r.ipv4_addr
  mIPv6Addr := some r.ipv6_addr
  mIsReq := isReq

/-- The constructor of `BITSubscriber`. Without an IPv6 address the bytes after
    the first are what they were before, which is `stale` here. -/
def newBIT (stale : IPv6Addr) (ipv4 : UInt32) (ipv6 : Option IPv6Addr) : Subscriber :=
  match ipv6 with
  | none => .bit ipv4 (stale.set 0 0)
  | some v6 => .bit ipv4 v6

namespace LocEngReqRelBIT

def subscriber (stale : IPv6Addr) (msg : LocEngReqRelBIT) : Subscriber :=
  newBIT stale msg.mIPv4Addr msg.mIPv6Addr

def proc (stale : IPv6Addr) (env : Env) (sm : AgpsStateMachine) (msg : LocEngReqRelBIT) :
    AgpsStateMachine :=
  if msg.mIsReq then sm.subscribeRsrc env (msg.subscriber stale)
  else (sm.unsubscribeRsrc env (msg.subscriber stale)).1

end LocEngReqRelBIT

/-! ## Bytes compared as strings -/

/-- The same bytes up to a zero byte, and with it. -/
def AgreeToNul (as bs : List UInt8) : Prop :=
  ∃ k, as[k]? = some 0 ∧ as.take (k + 1) = bs.take (k + 1)

theorem strncmpEq_cons {a b : UInt8} {as bs : List UInt8} :
    strncmpEq (a :: as) (b :: bs) = true ↔ a = b ∧ (a = 0 ∨ strncmpEq as bs = true) := by
  rw [strncmpEq, Bool.and_eq_true, Bool.or_eq_true, beq_iff_eq, beq_iff_eq]

theorem agreeToNul_cons {a b : UInt8} {as bs : List UInt8} :
    AgreeToNul (a :: as) (b :: bs) ↔ a = b ∧ (a = 0 ∨ AgreeToNul as bs) := by
  constructor
  · rintro ⟨k, hnul, htake⟩
    rw [List.take_succ_cons, List.take_succ_cons, List.cons.injEq] at htake
    refine ⟨htake.1, ?_⟩
    cases k with
    | zero =>
        rw [List.getElem?_cons_zero, Option.some.injEq] at hnul
        exact .inl hnul
    | succ k =>
        rw [List.getElem?_cons_succ] at hnul
        exact .inr ⟨k, hnul, htake.2⟩
  · rintro ⟨rfl, rfl | ⟨k, hnul, htake⟩⟩
    · exact ⟨0, rfl, rfl⟩
    · refine ⟨k + 1, by rw [List.getElem?_cons_succ, hnul], ?_⟩
      rw [List.take_succ_cons, List.take_succ_cons (i := k + 1), htake]

/-- Arrays of one length are equal as strings if they are equal, or agree up to
    a zero byte. -/
theorem strncmpEq_iff {as bs : List UInt8} (hlen : as.length = bs.length) :
    strncmpEq as bs = true ↔ as = bs ∨ AgreeToNul as bs := by
  induction as generalizing bs with
  | nil =>
      -- Two arrays that have been gone through are equal.
      rw [List.length_nil, eq_comm, List.length_eq_zero_iff] at hlen
      rw [hlen]
      exact iff_of_true rfl (.inl rfl)
  | cons a as ih =>
      cases bs with
      | nil => cases hlen
      | cons b bs =>
          rw [List.length_cons, List.length_cons, Nat.add_right_cancel_iff] at hlen
          rw [strncmpEq_cons, agreeToNul_cons, ih hlen, List.cons.injEq]
          constructor
          · rintro ⟨hhead, hnul | heq | hagree⟩
            · exact .inr ⟨hhead, .inl hnul⟩
            · exact .inl ⟨hhead, heq⟩
            · exact .inr ⟨hhead, .inr hagree⟩
          · rintro (⟨hhead, heq⟩ | ⟨hhead, hnul | hagree⟩)
            · exact ⟨hhead, .inr (.inl heq)⟩
            · exact ⟨hhead, .inl hnul⟩
            · exact ⟨hhead, .inr (.inr hagree)⟩

theorem strncmpEq_symm {as bs : List UInt8} (hlen : as.length = bs.length)
    (h : strncmpEq as bs = true) : strncmpEq bs as = true := by
  induction as generalizing bs with
  | nil =>
      rw [List.length_nil, eq_comm, List.length_eq_zero_iff] at hlen
      rw [hlen]
      rfl
  | cons a as ih =>
      cases bs with
      | nil => cases hlen
      | cons b bs =>
          rw [List.length_cons, List.length_cons, Nat.add_right_cancel_iff] at hlen
          rcases strncmpEq_cons.mp h with ⟨rfl, hrest⟩
          exact strncmpEq_cons.mpr ⟨rfl, hrest.imp_right (ih hlen)⟩

theorem strncmpEq_trans {as bs cs : List UInt8} (hab : as.length = bs.length)
    (hbc : bs.length = cs.length) (h : strncmpEq as bs = true) (h' : strncmpEq bs cs = true) :
    strncmpEq as cs = true := by
  induction as generalizing bs cs with
  | nil =>
      rw [← hab, List.length_nil, eq_comm, List.length_eq_zero_iff] at hbc
      rw [hbc]
      rfl
  | cons a as ih =>
      cases bs with
      | nil => cases hab
      | cons b bs =>
          cases cs with
          | nil => cases hbc
          | cons c cs =>
              rw [List.length_cons, List.length_cons, Nat.add_right_cancel_iff] at hab hbc
              rcases strncmpEq_cons.mp h with ⟨rfl, hrest⟩
              rcases strncmpEq_cons.mp h' with ⟨rfl, hrest'⟩
              refine strncmpEq_cons.mpr ⟨rfl, ?_⟩
              -- After a zero byte there is nothing more to compare.
              by_cases hnul : a = 0
              · exact .inl hnul
              · exact .inr (ih hab hbc (hrest.resolve_left hnul) (hrest'.resolve_left hnul))

/-! ## BIT subscribers -/

/-- A subscriber of the daemon. -/
abbrev BitSubscriber := { s : Subscriber // s.isBIT = true }

section

variable (peek : Subscriber → IPv6Addr)

theorem equals_bit (id id' : UInt32) (v6 v6' : IPv6Addr) :
    (bit id v6).equals peek (bit id' v6') = true ↔
      id = id' ∧ (id = INADDR_NONE → strncmpEq v6.toList v6'.toList = true) := by
  simp only [equals, Subscriber.ID, mIPv6AddrAt, Bool.and_eq_true, Bool.or_eq_true, beq_iff_eq,
    bne_iff_ne]
  refine and_congr_right fun _ => ?_
  constructor
  · rintro (hne | heq) hnone
    · exact absurd hnone.symm hne
    · exact heq
  · intro h
    by_cases hnone : INADDR_NONE = id
    · exact .inr (h hnone.symm)
    · exact .inl hnone

/-- Whoever is compared with a BIT subscriber. -/
theorem bit_of_isBIT {s : Subscriber} (h : s.isBIT = true) : ∃ id v6, s = bit id v6 := by
  cases s with
  | bit id v6 => exact ⟨id, v6, rfl⟩
  | _ => cases h

/-- On the subscribers of the daemon `equals` is an equivalence. -/
theorem equals_equivalence :
    Equivalence fun a b : BitSubscriber => a.val.equals peek b.val = true := by
  refine ⟨fun a => equals_self peek a.val, ?_, ?_⟩
  · rintro ⟨a, ha⟩ ⟨b, hb⟩ h
    rcases bit_of_isBIT ha with ⟨i, v, rfl⟩
    rcases bit_of_isBIT hb with ⟨j, w, rfl⟩
    rcases (equals_bit peek i j v w).mp h with ⟨rfl, hstr⟩
    refine (equals_bit peek i i w v).mpr ⟨rfl, fun hnone => ?_⟩
    exact strncmpEq_symm (by simp) (hstr hnone)
  · rintro ⟨a, ha⟩ ⟨b, hb⟩ ⟨c, hc⟩ h h'
    rcases bit_of_isBIT ha with ⟨i, v, rfl⟩
    rcases bit_of_isBIT hb with ⟨j, w, rfl⟩
    rcases bit_of_isBIT hc with ⟨k, x, rfl⟩
    rcases (equals_bit peek i j v w).mp h with ⟨rfl, hstr⟩
    rcases (equals_bit peek i k w x).mp h' with ⟨rfl, hstr'⟩
    refine (equals_bit peek i i v x).mpr ⟨rfl, fun hnone => ?_⟩
    exact strncmpEq_trans (by simp) (by simp) (hstr hnone) (hstr' hnone)

/-- Copies of a BIT subscriber are the same. -/
theorem clone_bit (k : Nat) (id : UInt32) (v6 : IPv6Addr) :
    clone^[k] (bit id v6) = bit id v6 := by
  induction k with
  | zero => rfl
  | succ k ih => rw [Function.iterate_succ_apply, clone, ih]

end

/-- The subscriber of a request. -/
def IfRequest.subscriber (stale : IPv6Addr) (r : IfRequest) (isReq : Bool) : Subscriber :=
  (r.message isReq).subscriber stale

theorem subscriber_eq (stale : IPv6Addr) (r : IfRequest) (isReq : Bool) :
    r.subscriber stale isReq = .bit r.ipv4_addr r.ipv6_addr := rfl

/-- Any copies of two requests are the same subscriber if the addresses are the
    same. Subscribers of the daemon are the same or not, and none of them is
    the same as one of another kind that is listed. -/
structure BitIdentity (stale : IPv6Addr) (m : AgpsStateMachine) (r₁ r₂ : IfRequest) : Prop where
  exact : ∀ k₁ k₂ isReq₁ isReq₂,
    ((clone^[k₁] (r₁.subscriber stale isReq₁)).equals m.peek
        (clone^[k₂] (r₂.subscriber stale isReq₂)) = true ↔
      r₁.ipv4_addr = r₂.ipv4_addr ∧
        (r₁.ipv4_addr = INADDR_NONE → r₁.ipv6_addr = r₂.ipv6_addr))
  equivalence : Equivalence fun a b : BitSubscriber => a.val.equals m.peek b.val = true
  apart : ∀ nd ∈ m.mSubscribers, nd.subscriber.isBIT = false → ∀ isReq,
    (r₁.subscriber stale isReq).equals m.peek nd.subscriber = false ∧
      nd.subscriber.equals m.peek (r₁.subscriber stale isReq) = false

/-- The IPv6 addresses, where they count, do not differ only after a zero byte
    that they share. They are compared by `strncmp`, for which a zero byte ends
    both; and they count only if both IPv4 addresses are INADDR_NONE. -/
def NoSharedNul (r₁ r₂ : IfRequest) : Prop :=
  r₁.ipv4_addr = INADDR_NONE → r₂.ipv4_addr = INADDR_NONE →
    AgreeToNul r₁.ipv6_addr.toList r₂.ipv6_addr.toList → r₁.ipv6_addr = r₂.ipv6_addr

/-- Nobody of another kind has the address for an ID. `equals` does not ask of
    which kind the other one is, and both kinds have their number in the field
    that is compared. -/
def NoSharedID (m : AgpsStateMachine) (r : IfRequest) : Prop :=
  ∀ nd ∈ m.mSubscribers, nd.subscriber.isBIT = false → nd.subscriber.ID ≠ r.ipv4_addr

theorem exact_iff (peek : Subscriber → IPv6Addr) (r₁ r₂ : IfRequest) :
    ((Subscriber.bit r₁.ipv4_addr r₁.ipv6_addr).equals peek
        (.bit r₂.ipv4_addr r₂.ipv6_addr) = true ↔
      r₁.ipv4_addr = r₂.ipv4_addr ∧
        (r₁.ipv4_addr = INADDR_NONE → r₁.ipv6_addr = r₂.ipv6_addr)) ↔ NoSharedNul r₁ r₂ := by
  have hstr : strncmpEq r₁.ipv6_addr.toList r₂.ipv6_addr.toList = true ↔
      r₁.ipv6_addr = r₂.ipv6_addr ∨ AgreeToNul r₁.ipv6_addr.toList r₂.ipv6_addr.toList := by
    rw [strncmpEq_iff (by simp), Vector.toList_inj]
  rw [equals_bit, hstr]
  constructor
  · intro h hnone hnone' hagree
    -- Both addresses are INADDR_NONE, so the strings decide.
    have hboth : r₁.ipv4_addr = r₂.ipv4_addr := hnone.trans hnone'.symm
    exact (h.mp ⟨hboth, fun _ => .inr hagree⟩).2 hnone
  · refine fun h => and_congr_right fun hboth => ⟨fun hor hnone => ?_, fun heq hnone => ?_⟩
    · exact (hor hnone).elim id (h hnone (hboth ▸ hnone))
    · exact .inl (heq hnone)

/-- Another kind is the same as a BIT subscriber exactly if it has its ID. -/
theorem other_equals_bit (peek : Subscriber → IPv6Addr) {s : Subscriber} (h : s.isBIT = false)
    (id : UInt32) (v6 : IPv6Addr) : s.equals peek (.bit id v6) = true ↔ s.ID = id := by
  cases s with
  | bit _ _ => cases h
  | _ => simp only [equals, Subscriber.ID, beq_iff_eq]

theorem apart_iff (peek : Subscriber → IPv6Addr) {s : Subscriber} (h : s.isBIT = false)
    (id : UInt32) (v6 : IPv6Addr) :
    (Subscriber.bit id v6).equals peek s = false ∧ s.equals peek (.bit id v6) = false ↔
      s.ID ≠ id := by
  rw [← Bool.not_eq_true (s.equals peek _), other_equals_bit peek h]
  refine and_iff_right_of_imp fun hne => ?_
  -- The BIT subscriber looks at the ID first.
  have hid : (id == s.ID) = false := beq_eq_false_iff_ne.mpr (Ne.symm hne)
  simp only [equals, hid, Bool.false_and]

/-- The requests that are told apart from one another, and from other kinds. The
    two conditions are about different comparisons: the first about two BIT
    subscribers, the second about those on the list that are none. -/
theorem bitIdentity_iff (stale : IPv6Addr) (m : AgpsStateMachine) (r₁ r₂ : IfRequest) :
    BitIdentity stale m r₁ r₂ ↔ NoSharedNul r₁ r₂ ∧ NoSharedID m r₁ := by
  constructor
  · intro h
    refine ⟨(exact_iff m.peek r₁ r₂).mp (h.exact 0 0 true true), fun nd hnd hkind => ?_⟩
    exact (apart_iff m.peek hkind _ _).mp (h.apart nd hnd hkind true)
  · rintro ⟨hnul, hid⟩
    refine ⟨fun k₁ k₂ isReq₁ isReq₂ => ?_, equals_equivalence m.peek, fun nd hnd hkind isReq => ?_⟩
    · rw [subscriber_eq, subscriber_eq, clone_bit, clone_bit]
      exact (exact_iff m.peek r₁ r₂).mpr hnul
    · exact (apart_iff m.peek hkind _ _).mpr (hid nd hnd hkind)

/-- The IPv6 address whose last byte is `b`, and whose others are zero. -/
def lowAddr (b : UInt8) : IfRequest where
  ipv4_addr := INADDR_NONE
  ipv6_addr := (Vector.replicate 16 0).set 15 b

/-- The addresses ::1 and ::2 make the same subscriber. -/
theorem lowAddr_not_bitIdentity :
    ¬ BitIdentity (Vector.replicate 16 0)
      (.new (fun _ => Vector.replicate 16 0) AGPS_TYPE_SUPL false) (lowAddr 1) (lowAddr 2) := by
  intro h
  have hsame := (h.exact 0 0 true true).mp (by decide)
  exact absurd (hsame.2 rfl) (by decide)

end Agps

end Victara
