import Mathlib.Order.Basic
import Victara.Dmn.GlueMsg

/-!
# Flushing a Message Queue

`loc_eng_dmn_conn_glue_msgflush` reads from a pipe until a read returns 0, which
it then returns. An error does not end the loop, and what the reads before have
returned is not counted.

The results of the reads are a sequence here, for a descriptor that never waits.
How often the loop runs depends on it, so the loop has a bound for the number of
reads.

The loop is followed along the sequence of results: it goes on while they are
not 0, errors included, and the first 0 is what it returns. The number of bytes
is the sum of those that are positive, and that is 0 just if there are none.

## Main definitions

* `msgflush`: The function.
* `Yields`: The states and the results of one read after the other.
* `Ends`: In the end there are only end-of-file and errors.
* `discarded`: The number of bytes that the first reads have returned.
* `Flushes`: The function ends, and returns the number of bytes it has read.
* `eofPipe`: A pipe that nobody writes to any more.
* `badFd`: A descriptor that is not open.
* `readAgain`: The states when nothing but the number of reads changes.

## Theorems

* `discarded_eq_zero`: Nothing is discarded if no read has returned a byte.
* `msgflush_run`: The loop goes on while the results are not 0.
* `Yields.msgflush_first`: The loop ends at the first 0, which is returned.
* `msgflush_some`: What it can return, and when.
* `flushes_iff`: When the function does what it is to do.
-/

namespace Victara

namespace LocEngDmnConnGlue

variable {P : Type}

/-- `loc_eng_dmn_conn_glue_msgflush`, with at most `n` reads. There is no result
    if these do not suffice, or while it waits. -/
def msgflush (fd : Fd P) : Nat → Rcv P → Rcv P × Option Int
  | 0, s => (s, none)
  | n + 1, s =>
      match fd.piperead s 0 128 with
      | (s, none) => (s, none)
      | (s, some length) => if length ≠ 0 then msgflush fd n s else (s, some length)

/-- `t k` is the state before the read number `k`, and `r k` its result. -/
def Yields (fd : Fd P) (t : Nat → Rcv P) (r : Nat → Int) : Prop :=
  ∀ k, fd.piperead (t k) 0 128 = (t (k + 1), some (r k))

/-- In the end there are only end-of-file and errors. -/
def Ends (r : Nat → Int) : Prop := ∃ n, ∀ k, n ≤ k → r k ≤ 0

/-- The number of bytes that the first reads have returned. -/
def discarded (r : Nat → Int) : Nat → Int
  | 0 => 0
  | k + 1 => discarded r k + max (r k) 0

/-- The function ends, and returns the number of bytes of the reads that it has
    made. The bound `n` only has to be large enough. -/
def Flushes (fd : Fd P) (t : Nat → Rcv P) (r : Nat → Int) : Prop :=
  ∃ n k s, msgflush fd n (t 0) = (s, some (discarded r k)) ∧
    s.reads.length = (t 0).reads.length + k

/-! ## Bytes that are discarded -/

theorem discarded_nonneg (r : Nat → Int) (k : Nat) : 0 ≤ discarded r k := by
  induction k with
  | zero => exact Int.le_refl 0
  | succ k ih =>
      rw [discarded]
      omega

/-- Nothing is discarded if no read has returned a byte. -/
theorem discarded_eq_zero (r : Nat → Int) (k : Nat) :
    discarded r k = 0 ↔ ∀ i < k, r i ≤ 0 := by
  induction k with
  | zero => simp [discarded]
  | succ k ih =>
      have hnonneg := discarded_nonneg r k
      rw [discarded]
      constructor
      · intro hsum i hi
        rcases Nat.lt_succ_iff_lt_or_eq.mp hi with hlt | rfl
        · exact ih.mp (by omega) i hlt
        · omega
      · intro hall
        have hfront := ih.mpr fun i hi => hall i (by omega)
        have hlast := hall k (by omega)
        omega

/-! ## The loop -/

variable {fd : Fd P} {t : Nat → Rcv P} {r : Nat → Int}

theorem Yields.msgflush_succ (h : Yields fd t r) (n k : Nat) :
    msgflush fd (n + 1) (t k) =
      if r k ≠ 0 then msgflush fd n (t (k + 1)) else (t (k + 1), some (r k)) := by
  rw [msgflush, h k]

theorem Fd.piperead_reads (fd : Fd P) (s : Rcv P) (buf sz : Nat) :
    (fd.piperead s buf sz).1.reads = s.reads ++ [⟨buf, sz⟩] := by
  cases hread : fd.read s.pipe sz with
  | none => simp [Fd.piperead, hread]
  | some result =>
      cases result with
      | mk bytes p => cases bytes <;> simp [Fd.piperead, hread]

theorem Yields.length_reads (h : Yields fd t r) (k : Nat) :
    (t k).reads.length = (t 0).reads.length + k := by
  induction k with
  | zero => rfl
  | succ k ih =>
      have hone := fd.piperead_reads (t k) 0 128
      rw [h k] at hone
      rw [hone, List.length_append, ih]
      rfl

/-- The loop goes on while the results are not 0. -/
theorem Yields.msgflush_run (h : Yields fd t r) {k : Nat} (hne : ∀ i < k, r i ≠ 0) (n : Nat) :
    msgflush fd (k + n) (t 0) = msgflush fd n (t k) := by
  induction k generalizing n with
  | zero => rw [Nat.zero_add]
  | succ k ih =>
      have hfront := ih (fun i hi => hne i (by omega)) (n + 1)
      have hstep := h.msgflush_succ n k
      rw [if_pos (hne k (Nat.lt_succ_self k))] at hstep
      rw [Nat.add_right_comm, Nat.add_assoc, hfront, hstep]

/-- It ends at the first 0, which it returns. -/
theorem Yields.msgflush_first (h : Yields fd t r) {k : Nat} (hne : ∀ i < k, r i ≠ 0)
    (hk : r k = 0) : msgflush fd (k + 1) (t 0) = (t (k + 1), some 0) := by
  rw [h.msgflush_run hne 1, h.msgflush_succ 0 k, if_neg (by simp [hk]), hk]

/-- If it returns, a result was 0, and that is what it returns. -/
theorem Yields.msgflush_some (h : Yields fd t r) {n : Nat} {s : Rcv P} {length : Int}
    (hout : msgflush fd n (t 0) = (s, some length)) :
    ∃ k, r k = 0 ∧ (∀ i < k, r i ≠ 0) ∧ s = t (k + 1) ∧ length = 0 := by
  by_cases hzero : ∃ k, k < n ∧ r k = 0 ∧ ∀ i < k, r i ≠ 0
  · rcases hzero with ⟨k, hk, hrk, hne⟩
    refine ⟨k, hrk, hne, ?_⟩
    -- The run gets there and ends, whatever reads it would have left.
    have hrun := h.msgflush_run hne (n - k - 1 + 1)
    rw [h.msgflush_succ, if_neg (by simp [hrk]), show k + (n - k - 1 + 1) = n by omega, hout,
      Prod.mk.injEq, Option.some.injEq, hrk] at hrun
    exact hrun
  · -- No result among the first is 0, so all reads are used up.
    have hne : ∀ i, i < n → r i ≠ 0 := by
      intro i
      induction i using Nat.strongRecOn with
      | ind i ih =>
          intro hi hri
          exact hzero ⟨i, hi, hri, fun j hj => ih j hj (by omega)⟩
    have hrun := h.msgflush_run hne 0
    rw [Nat.add_zero, hout, msgflush] at hrun
    cases hrun

/-! ## What it is to do -/

/-- The function ends and returns the number of bytes if and only if a read
    returns 0 when there have been only errors. It returns what ended the loop,
    which is 0: that is the number just when nothing was read. -/
theorem flushes_iff (h : Yields fd t r) :
    Flushes fd t r ↔ ∃ k, r k = 0 ∧ ∀ i < k, r i < 0 := by
  constructor
  · rintro ⟨n, k, s, hout, hreads⟩
    rcases h.msgflush_some hout with ⟨j, hrj, hne, rfl, hzero⟩
    rw [h.length_reads] at hreads
    -- The bytes add up to the 0 that is returned, so none of the reads has returned any.
    have hcount : k = j + 1 := by omega
    subst hcount
    have hnone := (discarded_eq_zero r (j + 1)).mp hzero
    refine ⟨j, hrj, fun i hi => ?_⟩
    have hle := hnone i (by omega)
    have hne' := hne i hi
    omega
  · rintro ⟨k, hrk, hneg⟩
    have hfirst := h.msgflush_first (fun i hi => Int.ne_of_lt (hneg i hi)) hrk
    have hnone : discarded r (k + 1) = 0 := (discarded_eq_zero r (k + 1)).mpr fun i hi => by
      rcases Nat.lt_succ_iff_lt_or_eq.mp hi with hlt | rfl
      · exact Int.le_of_lt (hneg i hlt)
      · exact Int.le_of_eq hrk
    exact ⟨k + 1, k + 1, t (k + 1), by rw [hnone, hfirst], h.length_reads (k + 1)⟩

/-- A pipe that nobody writes to any more. -/
def eofPipe : Fd (List UInt8) where
  read p sz := some (some (p.take sz), p.drop sz)
  read_le := by
    rintro p sz bytes q ⟨⟩
    exact List.length_take_le sz p
  write p _ := (-1, p)

/-- A descriptor that is not open. -/
def badFd : Fd Unit where
  read p _ := some (none, p)
  read_le := by
    rintro p sz bytes q ⟨⟩
  write p _ := (-1, p)

/-- The states when nothing but the number of reads changes. -/
def readAgain (p : P) (k : Nat) : Rcv P := ⟨p, fun _ => 0, List.replicate k ⟨0, 128⟩⟩

theorem eofPipe_yields : Yields eofPipe (readAgain []) fun _ => 0 := by
  intro k
  have hmsgp : Bytes.store (fun _ => (0 : UInt8)) 0 [] = fun _ => 0 := rfl
  simp [Fd.piperead, eofPipe, readAgain, toInt, hmsgp, List.replicate_succ']

theorem badFd_yields : Yields badFd (readAgain ()) fun _ => -1 := by
  intro k
  simp [Fd.piperead, badFd, readAgain, List.replicate_succ']

theorem eofPipe_flushes : Flushes eofPipe (readAgain []) fun _ => 0 :=
  (flushes_iff eofPipe_yields).mpr ⟨0, rfl, fun i hi => absurd hi (Nat.not_lt_zero i)⟩

theorem badFd_flushes_not : Yields badFd (readAgain ()) (fun _ => -1) ∧ Ends (fun _ => -1) ∧
    ¬Flushes badFd (readAgain ()) fun _ => -1 := by
  refine ⟨badFd_yields, ⟨0, fun _ _ => (by decide : (-1 : Int) ≤ 0)⟩, ?_⟩
  rintro ⟨n, k, s, hout, -⟩
  rcases badFd_yields.msgflush_some hout with ⟨j, hj, -⟩
  cases hj

end LocEngDmnConnGlue

end Victara
