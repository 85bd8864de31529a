import Mathlib.Tactic.Common

/-!
# The Deadline of the Timer

`timer_thread` of `loc_timer.c` waits until the time it has read, and the
milliseconds of the timer. Whole seconds and the rest are added apart, and
nanoseconds that make one more second are carried once.

A `long` has 32 bits here. The seconds are added as unsigned ints, which wrap
around. What a signed operation cannot represent is undefined, and counts as
an overflow, as do nanoseconds that wrap around.

There is one statement for each of the three steps in the source: the whole
seconds are added as unsigned numbers, the rest is at most one second in
nanoseconds, and the carry brings the nanoseconds below one second again.
Together they are the sum of the time and the milliseconds, counted in
nanoseconds, unless the seconds do not fit.

## Main definitions

* `Timespec`: A time, and `nanos`, the nanoseconds it is.
* `Overflow`: Where an addition overflows.
* `product`: The product of unsigned ints.
* `wholeSeconds`: The whole seconds, and what is left in `time_msec`.
* `timerDeadline`: The time up to which the thread waits.

## Theorems

* `toInt_addUnsigned`: The sum of a `long` and an unsigned int wraps around.
* `wholeSeconds_spec`, `addMillis_spec`, `carryNsec_spec`: One statement each.
* `nanos_div_lt`: The seconds of a time can be represented.
* `timerDeadline_eq_carryNsec`: The time that is there to carry.
* `timerDeadline_spec`: The nanoseconds are right, and the seconds if there is
  room.
-/

namespace Victara

structure Timespec where
  tv_sec : Int32
  tv_nsec : Int32
  deriving DecidableEq

namespace Timespec

def Normal (ts : Timespec) : Prop := 0 ≤ ts.tv_nsec.toInt ∧ ts.tv_nsec.toInt < 1000000000

instance (ts : Timespec) : Decidable ts.Normal := inferInstanceAs (Decidable (_ ∧ _))

def nanos (ts : Timespec) : Int := 1000000000 * ts.tv_sec.toInt + ts.tv_nsec.toInt

end Timespec

/-- Where there is an overflow. -/
inductive Overflow
  | sec | nsec
  deriving DecidableEq, Repr

/-- A value that is stored in a `long`. -/
def long (e : Overflow) (x : Int) : Except Overflow Int32 :=
  if -2147483648 ≤ x ∧ x < 2147483648 then .ok (Int32.ofInt x) else .error e

/-- The product of unsigned ints. -/
def product (x y : UInt32) : Except Overflow UInt32 :=
  if x.toNat * y.toNat < 4294967296 then .ok (x * y) else .error .nsec

/-- The whole seconds, and what is left in `time_msec`. -/
def wholeSeconds (ts : Timespec) (time_msec : UInt32) : Timespec × UInt32 :=
  if 1000 ≤ time_msec then
    ({ ts with tv_sec := (ts.tv_sec.toUInt32 + time_msec / 1000).toInt32 }, time_msec % 1000)
  else (ts, time_msec)

def addMillis (ts : Timespec) (time_msec : UInt32) : Except Overflow Timespec :=
  if time_msec ≠ 0 then do
    let nsec ← product time_msec 1000000
    let tv_nsec ← long .nsec (ts.tv_nsec.toInt + nsec.toNat)
    return { ts with tv_nsec := tv_nsec }
  else return ts

def carryNsec (ts : Timespec) : Except Overflow Timespec :=
  if 999999999 < ts.tv_nsec then do
    let tv_sec ← long .sec (ts.tv_sec.toInt + 1)
    let tv_nsec ← long .nsec (ts.tv_nsec.toInt - 1000000000)
    return ⟨tv_sec, tv_nsec⟩
  else return ts

/-- The deadline, from the time that `clock_gettime` has given. -/
def timerDeadline (ts : Timespec) (time_msec : UInt32) : Except Overflow Timespec := do
  let r := wholeSeconds ts time_msec
  let ts ← addMillis r.1 r.2
  carryNsec ts

theorem long_of_fits {e : Overflow} {x : Int} (h : -2147483648 ≤ x ∧ x < 2147483648) :
    ∃ y : Int32, long e x = .ok y ∧ y.toInt = x := by
  refine ⟨Int32.ofInt x, if_pos h, ?_⟩
  exact Int32.toInt_ofInt_of_le (by omega) (by omega)

theorem product_of_fits {x y : UInt32} (h : x.toNat * y.toNat < 4294967296) :
    product x y = .ok (x * y) ∧ (x * y).toNat = x.toNat * y.toNat := by
  refine ⟨if_pos h, ?_⟩
  rw [UInt32.toNat_mul]
  exact Nat.mod_eq_of_lt h

/-- The sum of a `long` and an unsigned int wraps around. -/
theorem toInt_addUnsigned (x : Int32) {q : UInt32} (hq : q.toNat < 2147483648) :
    (x.toUInt32 + q).toInt32.toInt = Int.bmod (x.toInt + q.toNat) 4294967296 := by
  have hvalue : q.toInt32.toInt = q.toNat := by
    show q.toBitVec.toInt = (q.toBitVec.toNat : Int)
    exact BitVec.toInt_eq_toNat_of_lt (by rw [UInt32.toNat_toBitVec]; omega)
  rw [UInt32.toInt32_add, Int32.toInt32_toUInt32, Int32.toInt_add, hvalue]

theorem wholeSeconds_spec (ts : Timespec) (time_msec : UInt32) :
    (wholeSeconds ts time_msec).1.tv_sec.toInt =
        Int.bmod (ts.tv_sec.toInt + (time_msec.toNat / 1000 : Nat)) 4294967296 ∧
      (wholeSeconds ts time_msec).1.tv_nsec = ts.tv_nsec ∧
      (wholeSeconds ts time_msec).2.toNat = time_msec.toNat % 1000 := by
  have hlt : time_msec.toNat < 4294967296 := time_msec.toNat_lt
  have hquot : (time_msec / 1000).toNat = time_msec.toNat / 1000 := UInt32.toNat_div ..
  have hrest : (time_msec % 1000).toNat = time_msec.toNat % 1000 := UInt32.toNat_mod ..
  unfold wholeSeconds
  by_cases hbig : 1000 ≤ time_msec
  · rw [if_pos hbig]
    refine ⟨?_, rfl, hrest⟩
    rw [toInt_addUnsigned ts.tv_sec (by rw [hquot]; omega), hquot]
  · -- A sum that does not leave the range of its type has not wrapped around.
    rw [if_neg hbig]
    have hsmall : time_msec.toNat < 1000 := UInt32.not_le.mp hbig
    have hlow := ts.tv_sec.le_toInt
    have hhigh := ts.tv_sec.toInt_lt
    refine ⟨?_, rfl, (Nat.mod_eq_of_lt hsmall).symm⟩
    rw [Nat.div_eq_of_lt hsmall, Int.ofNat_zero, Int.add_zero]
    show ts.tv_sec.toInt = _
    exact (Int.bmod_eq_of_le (by omega) (by omega)).symm

/-- Less than a second is added to less than a second. -/
theorem addMillis_spec {ts : Timespec} (hts : ts.Normal) (time_msec : UInt32)
    (hm : time_msec.toNat < 1000) :
    ∃ r, addMillis ts time_msec = .ok r ∧ r.tv_sec = ts.tv_sec ∧
      r.tv_nsec.toInt = ts.tv_nsec.toInt + time_msec.toNat * 1000000 := by
  unfold Timespec.Normal at hts
  unfold addMillis
  by_cases hzero : time_msec = 0
  · rw [if_neg (not_not_intro hzero), hzero]
    exact ⟨ts, rfl, rfl, by simp⟩
  · rcases product_of_fits (x := time_msec) (y := 1000000) (by
      show time_msec.toNat * 1000000 < 4294967296
      omega) with ⟨hprod, hvalue⟩
    have hmillion : (1000000 : UInt32).toNat = 1000000 := rfl
    rw [hmillion] at hvalue
    rcases long_of_fits (e := .nsec) (x := ts.tv_nsec.toInt + (time_msec * 1000000).toNat)
      (by omega) with ⟨nsec, hsum, hnsec⟩
    rw [if_pos hzero, hprod]
    refine ⟨{ ts with tv_nsec := nsec }, ?_, rfl, ?_⟩
    · show (long .nsec (ts.tv_nsec.toInt + (time_msec * 1000000).toNat)).bind _ = _
      rw [hsum]
      rfl
    · show nsec.toInt = _
      omega

/-- One second is enough to carry, and there may be no room for it. -/
theorem carryNsec_spec (ts : Timespec) (hlow : 0 ≤ ts.tv_nsec.toInt)
    (hhigh : ts.tv_nsec.toInt < 2000000000) :
    (∃ r, carryNsec ts = .ok r ∧ r.Normal ∧ r.nanos = ts.nanos) ∨
      (carryNsec ts = .error .sec ∧ ts.tv_sec.toInt = 2147483647 ∧
        1000000000 ≤ ts.tv_nsec.toInt) := by
  have hsecLow := ts.tv_sec.le_toInt
  have hsecHigh := ts.tv_sec.toInt_lt
  have hbound : (999999999 : Int32).toInt = 999999999 := rfl
  unfold carryNsec Timespec.Normal Timespec.nanos
  by_cases hbig : 999999999 < ts.tv_nsec
  · rw [if_pos hbig]
    rw [Int32.lt_iff_toInt_lt, hbound] at hbig
    by_cases hroom : ts.tv_sec.toInt < 2147483647
    · rcases long_of_fits (e := .sec) (x := ts.tv_sec.toInt + 1) (by omega) with ⟨sec, hsec, hs⟩
      rcases long_of_fits (e := .nsec) (x := ts.tv_nsec.toInt - 1000000000) (by omega)
        with ⟨nsec, hnsec, hn⟩
      refine Or.inl ⟨⟨sec, nsec⟩, ?_, ⟨?_, ?_⟩, ?_⟩
      · rw [hsec, hnsec]
        rfl
      · show 0 ≤ nsec.toInt
        omega
      · show nsec.toInt < 1000000000
        omega
      · show 1000000000 * sec.toInt + nsec.toInt = _
        omega
    · -- The last second there is has no next one.
      refine Or.inr ⟨?_, by omega, by omega⟩
      rw [long, if_neg (by omega)]
      rfl
  · rw [if_neg hbig]
    rw [Int32.lt_iff_toInt_lt, hbound] at hbig
    exact Or.inl ⟨ts, rfl, ⟨hlow, by omega⟩, rfl⟩

/-- The seconds of a time can be represented. -/
theorem nanos_div_lt {ts : Timespec} (hts : ts.Normal) :
    ts.nanos / 1000000000 < 2147483648 := by
  have hsec := ts.tv_sec.toInt_lt
  unfold Timespec.Normal at hts
  unfold Timespec.nanos
  omega

/-- What is there to carry: the seconds may have wrapped around, and the
    nanoseconds have not. -/
theorem timerDeadline_eq_carryNsec {ts : Timespec} (hts : ts.Normal) (time_msec : UInt32) :
    ∃ a, timerDeadline ts time_msec = carryNsec a ∧
      a.tv_sec.toInt = Int.bmod (ts.tv_sec.toInt + (time_msec.toNat / 1000 : Nat)) 4294967296 ∧
      a.tv_nsec.toInt = ts.tv_nsec.toInt + (time_msec.toNat % 1000 : Nat) * 1000000 := by
  rcases wholeSeconds_spec ts time_msec with ⟨hsec, hnsec, hrest⟩
  have hnormal : (wholeSeconds ts time_msec).1.Normal := by
    unfold Timespec.Normal
    rw [hnsec]
    exact hts
  rcases addMillis_spec hnormal (wholeSeconds ts time_msec).2 (by omega)
    with ⟨a, hadd, hasec, hansec⟩
  rw [hnsec, hrest] at hansec
  refine ⟨a, ?_, ?_, hansec⟩
  · show (addMillis (wholeSeconds ts time_msec).1 (wholeSeconds ts time_msec).2).bind carryNsec = _
    rw [hadd]
    rfl
  · rw [hasec, hsec]

/-- The deadline is normal, and no nanoseconds overflow on the way to it. It is
    as late as it should be just if its seconds can be represented. For others
    nothing is said, as the sum overflows a signed type. -/
theorem timerDeadline_spec (ts : Timespec) (hts : ts.Normal) (time_msec : UInt32) :
    timerDeadline ts time_msec ≠ .error .nsec ∧
      (∀ d, timerDeadline ts time_msec = .ok d → d.Normal) ∧
      ((∃ d, timerDeadline ts time_msec = .ok d ∧
          d.nanos = ts.nanos + time_msec.toNat * 1000000) ↔
        (ts.nanos + time_msec.toNat * 1000000) / 1000000000 < 2147483648) := by
  rcases timerDeadline_eq_carryNsec hts time_msec with ⟨a, hrun, hasec, hansec⟩
  rw [hrun]
  unfold Timespec.Normal at hts
  have hsecLow := ts.tv_sec.le_toInt
  have hmsec : time_msec.toNat < 4294967296 := time_msec.toNat_lt
  -- Where there is room for the deadline, the seconds do not wrap around.
  have hexact : (ts.nanos + time_msec.toNat * 1000000) / 1000000000 < 2147483648 →
      a.tv_sec.toInt = ts.tv_sec.toInt + (time_msec.toNat / 1000 : Nat) := by
    intro hroom
    rw [hasec]
    unfold Timespec.nanos at hroom
    exact Int.bmod_eq_of_le (by omega) (by omega)
  rcases carryNsec_spec a (by omega) (by omega) with ⟨d, hd, hdn, hnanos⟩ | ⟨hd, has, hover⟩
  · rw [hd]
    refine ⟨?_, ?_, ?_, ?_⟩
    · intro h
      cases h
    · intro d' h'
      cases h'
      exact hdn
    · rintro ⟨d', h', heq⟩
      cases h'
      rw [← heq]
      exact nanos_div_lt hdn
    · intro hroom
      refine ⟨d, rfl, ?_⟩
      have ha := hexact hroom
      rw [hnanos]
      unfold Timespec.nanos
      omega
  · rw [hd]
    refine ⟨?_, ?_, ?_, ?_⟩
    · intro h
      cases h
    · intro d' h'
      cases h'
    · rintro ⟨d', h', _⟩
      cases h'
    · intro hroom
      have ha := hexact hroom
      unfold Timespec.nanos at hroom
      omega

/-- The nanoseconds at their highest, in the last second but one. -/
theorem timerDeadline_latest :
    ∃ d, timerDeadline ⟨2147483646, 999999999⟩ 999 = .ok d ∧
      d.nanos = (⟨2147483646, 999999999⟩ : Timespec).nanos + (999 : UInt32).toNat * 1000000 :=
  (timerDeadline_spec ⟨2147483646, 999999999⟩ (by decide) 999).2.2.mpr (by decide)

/-- A second more than can be represented. -/
theorem timerDeadline_wraps :
    (⟨2147483647, 0⟩ : Timespec).Normal ∧
      ¬ ∃ d, timerDeadline ⟨2147483647, 0⟩ 1000 = .ok d ∧ d.Normal ∧
        d.nanos = (⟨2147483647, 0⟩ : Timespec).nanos + (1000 : UInt32).toNat * 1000000 := by
  refine ⟨by decide, ?_⟩
  rintro ⟨d, hd, _, heq⟩
  have hrun : timerDeadline ⟨2147483647, 0⟩ 1000 = .ok ⟨-2147483648, 0⟩ := by decide
  rw [hrun] at hd
  cases hd
  revert heq
  decide

end Victara
