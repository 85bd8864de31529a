import Mathlib.Algebra.Group.Int.Defs
import Victara.Lib.Bytes

/-!
# Messages on the Daemon's Pipes

`loc_eng_dmn_conn_glue_msg.c` over `loc_eng_dmn_conn_glue_pipe.c`: a message
begins with a `size_t` that says how long it is. `msgsnd` writes that word into
the message and the message into the pipe; `msgrcv` reads the word into the
caller's buffer, and then the rest behind it.

A file descriptor is whatever `read` and `write` do. `pipe` is the one whose
writes are complete and whose reads wait for a byte.

The second read is the one that can leave the buffer. It asks for the difference
of the length word and the size of a word, as an unsigned number, and puts it
behind the word; so it stays inside if and only if the difference does not wrap
around. The first read is always inside.

## Main definitions

* `Abi`: The platforms of the daemon.
* `Abi.sizeMax`: The values of a `size_t` are below this.
* `Abi.sub`: Subtraction of two `size_t`.
* `toInt`: The cast to `int`.
* `Fd`, `pipe`: A file descriptor, and a pipe.
* `Piperead`: A call of `piperead`: up to `sz` bytes to the offset `buf` of the
  message buffer.
* `Rcv`: The caller of `msgrcv`: the pipe, its buffer and what it has asked for.
* `Fd.pipewrite`: `loc_eng_dmn_conn_glue_pipewrite`.
* `Fd.piperead`: `loc_eng_dmn_conn_glue_piperead`.
* `msgsnd`, `msgrcv`: The two functions.
* `Rcv.msgsz`: `pmsg->msgsz`.
* `Fd.lengthWord`: The length word that the first read of `msgrcv` finds in the
  pipe.
* `Piperead.InRange`: The bytes that are asked for have a place in the buffer.

## Theorems

* `msgrcv_reads`: A second read is issued when the length word is not above the
  buffer's size.
* `msgrcv_inRange_iff`: When `msgrcv` stays within the buffer.
-/

namespace Victara

namespace LocEngDmnConnGlue

open Bytes

/-- The platforms of the daemon. -/
inductive Abi
  | ilp32 | lp64
  deriving DecidableEq, Repr

def Abi.sizeofSizeT : Abi → Nat
  | .ilp32 => 4
  | .lp64 => 8

/-- The values of a `size_t` are below this. -/
def Abi.sizeMax (abi : Abi) : Nat := 256 ^ abi.sizeofSizeT

/-- Subtraction of two `size_t`. -/
def Abi.sub (abi : Abi) (x y : Nat) : Nat := (x + abi.sizeMax - y) % abi.sizeMax

/-- The cast to `int`. -/
def toInt (x : Int) : Int := x.bmod (2 ^ 32)

/-- A file descriptor. `read` gives nothing while it waits, and no bytes if it
    fails. -/
structure Fd (P : Type) where
  read : P → Nat → Option (Option (List UInt8) × P)
  read_le : ∀ p sz bytes q, read p sz = some (some bytes, q) → bytes.length ≤ sz
  write : P → List UInt8 → Int × P

/-- A pipe, as the bytes that are in it. -/
def pipe : Fd (List UInt8) where
  read p sz :=
    if sz = 0 then some (some [], p)
    else if p = [] then none
    else some (some (p.take sz), p.drop sz)
  read_le := by
    intro p sz bytes q h
    by_cases hsz : sz = 0
    · rw [if_pos hsz] at h
      cases h
      simp
    · by_cases hp : p = []
      · rw [if_neg hsz, if_pos hp] at h
        cases h
      · rw [if_neg hsz, if_neg hp] at h
        cases h
        exact List.length_take_le sz p
  write p bytes := (bytes.length, p ++ bytes)

/-- A call of `piperead`: up to `sz` bytes to the offset `buf` of the message
    buffer. -/
structure Piperead where
  buf : Nat
  sz : Nat
  deriving DecidableEq, Repr

/-- The caller of `msgrcv`, with the memory from its buffer on. -/
structure Rcv (P : Type) where
  pipe : P
  msgp : Nat → UInt8
  reads : List Piperead

variable {P : Type}

/-- `loc_eng_dmn_conn_glue_pipewrite`. -/
def Fd.pipewrite (fd : Fd P) (p : P) (buf : List UInt8) : Int × P :=
  let r := fd.write p buf
  (toInt r.1, r.2)

/-- `loc_eng_dmn_conn_glue_piperead`. -/
def Fd.piperead (fd : Fd P) (s : Rcv P) (buf sz : Nat) : Rcv P × Option Int :=
  let s := { s with reads := s.reads ++ [⟨buf, sz⟩] }
  match fd.read s.pipe sz with
  | none => (s, none)
  | some (none, p) => ({ s with pipe := p }, some (-1))
  | some (some bytes, p) =>
      ({ s with pipe := p, msgp := store s.msgp buf bytes }, some (toInt bytes.length))

/-- `loc_eng_dmn_conn_glue_msgsnd`. -/
def msgsnd (abi : Abi) (fd : Fd P) (p : P) (msgp : List UInt8) : Int × P :=
  let msgp := toBytes abi.sizeofSizeT msgp.length ++ msgp.drop abi.sizeofSizeT
  let r := fd.pipewrite p msgp
  if r.1 ≠ toInt msgp.length then (-1, r.2) else r

/-- `pmsg->msgsz`. -/
def Rcv.msgsz (abi : Abi) (s : Rcv P) : Nat := ofBytes (load s.msgp 0 abi.sizeofSizeT)

/-- `loc_eng_dmn_conn_glue_msgrcv`. There is no result while it waits. -/
def msgrcv (abi : Abi) (fd : Fd P) (msgbufsz : Nat) (s : Rcv P) : Rcv P × Option Int :=
  match fd.piperead s 0 abi.sizeofSizeT with
  | (s, none) => (s, none)
  | (s, some result) =>
      if result ≠ abi.sizeofSizeT then (s, some (-1))
      else if msgbufsz < s.msgsz abi then (s, some (-1))
      else
        let sz := abi.sub (s.msgsz abi) abi.sizeofSizeT
        match fd.piperead s abi.sizeofSizeT sz with
        | (s, none) => (s, none)
        | (s, some result) =>
            if result ≠ toInt sz then (s, some (-1)) else (s, some (toInt (s.msgsz abi)))

/-! ## What is asked for -/

/-- The length word that the first read of `msgrcv` finds in the pipe. There is
    none if the read fails or is cut short, and then nothing more is read. -/
def Fd.lengthWord (abi : Abi) (fd : Fd P) (p : P) : Option Nat :=
  match fd.read p abi.sizeofSizeT with
  | some (some bytes, _) => if bytes.length = abi.sizeofSizeT then some (ofBytes bytes) else none
  | _ => none

/-- The bytes that are asked for have a place in the buffer. -/
def Piperead.InRange (msgbufsz : Nat) (r : Piperead) : Prop := r.buf + r.sz ≤ msgbufsz

instance (msgbufsz : Nat) : DecidablePred (Piperead.InRange msgbufsz) :=
  fun r => inferInstanceAs (Decidable (r.buf + r.sz ≤ msgbufsz))

theorem Abi.sizeofSizeT_pos (abi : Abi) : 0 < abi.sizeofSizeT := by
  cases abi <;> decide

theorem Abi.sizeofSizeT_le (abi : Abi) : abi.sizeofSizeT ≤ 8 := by
  cases abi <;> decide

theorem Abi.sizeofSizeT_lt (abi : Abi) : abi.sizeofSizeT < abi.sizeMax := by
  cases abi <;> decide

theorem toInt_of_lt {x : Nat} (h : x < 2 ^ 31) : toInt x = x := by
  rw [toInt, Int.bmod_def]
  omega

theorem Abi.sub_of_le (abi : Abi) {x y : Nat} (hx : x < abi.sizeMax) (h : y ≤ x) :
    abi.sub x y = x - y := by
  rw [Abi.sub, show x + abi.sizeMax - y = x - y + abi.sizeMax by omega, Nat.add_mod_right]
  exact Nat.mod_eq_of_lt (by omega)

theorem Abi.sub_of_lt (abi : Abi) {x y : Nat} (hy : y ≤ abi.sizeMax) (h : x < y) :
    abi.sub x y = x + abi.sizeMax - y := Nat.mod_eq_of_lt (by omega)

/-- A second read is issued when the length word is not above the buffer's
    size. -/
theorem msgrcv_reads (abi : Abi) (fd : Fd P) (msgbufsz : Nat) (s : Rcv P) :
    (msgrcv abi fd msgbufsz s).1.reads = s.reads ++ ⟨0, abi.sizeofSizeT⟩ ::
      (fd.lengthWord abi s.pipe).toList.flatMap fun word =>
        if msgbufsz < word then [] else [⟨abi.sizeofSizeT, abi.sub word abi.sizeofSizeT⟩] := by
  have hw := abi.sizeofSizeT_le
  cases hread : fd.read s.pipe abi.sizeofSizeT with
  | none => simp [msgrcv, Fd.piperead, Fd.lengthWord, hread]
  | some r =>
      rcases r with ⟨bytes, p⟩
      cases bytes with
      | none =>
          have hresult : ¬ (-1 : Int) = abi.sizeofSizeT := by omega
          simp [msgrcv, Fd.piperead, Fd.lengthWord, hread, hresult]
      | some bytes =>
          have hle := fd.read_le _ _ _ _ hread
          have hresult : toInt bytes.length = (bytes.length : Int) := toInt_of_lt (by omega)
          by_cases hlen : bytes.length = abi.sizeofSizeT
          -- The word that is compared is the one that was read.
          · have hload : load (store s.msgp 0 bytes) 0 abi.sizeofSizeT = bytes := by
              rw [← hlen]
              exact load_store _ _ _
            rw [hlen] at hresult
            by_cases hbig : msgbufsz < ofBytes bytes
            · simp [msgrcv, Fd.piperead, Fd.lengthWord, hread, hlen, hresult, Rcv.msgsz, hload, hbig]
            · simp only [msgrcv, Fd.piperead, Fd.lengthWord, hread, hresult, hlen, Rcv.msgsz, hload,
                hbig, ne_eq, not_true_eq_false, if_false, if_true, Option.toList_some,
                List.flatMap_cons, List.flatMap_nil, List.append_nil]
              rcases fd.read p (abi.sub (ofBytes bytes) abi.sizeofSizeT) with
                _ | ⟨_ | rest, q⟩
              · simp
              · by_cases hshort : (-1 : Int) = toInt (abi.sub (ofBytes bytes) abi.sizeofSizeT) <;>
                  simp [hshort]
              · by_cases hshort : toInt rest.length =
                    toInt (abi.sub (ofBytes bytes) abi.sizeofSizeT) <;>
                  simp [hshort]
          · have hno : ¬ (bytes.length : Int) = abi.sizeofSizeT := by omega
            simp [msgrcv, Fd.piperead, Fd.lengthWord, hread, hresult, hlen, hno]

/-- `msgrcv` stays within its buffer exactly as long as a length word that it
    accepts is not below the size of the word itself. The size of the word is
    subtracted from it without a look, in unsigned arithmetic, so that the
    second read would be one of almost all of the memory. -/
theorem msgrcv_inRange_iff (abi : Abi) (fd : Fd P) (p : P) (msgp : Nat → UInt8) (msgbufsz : Nat)
    (hmin : abi.sizeofSizeT ≤ msgbufsz) (hmax : msgbufsz < abi.sizeMax) :
    (∀ r ∈ (msgrcv abi fd msgbufsz ⟨p, msgp, []⟩).1.reads, r.InRange msgbufsz) ↔
      ∀ word ∈ fd.lengthWord abi p, msgbufsz < word ∨ abi.sizeofSizeT ≤ word := by
  have hw := abi.sizeofSizeT_lt
  have hfirst : Piperead.InRange msgbufsz ⟨0, abi.sizeofSizeT⟩ := by
    simpa [Piperead.InRange] using hmin
  rw [msgrcv_reads, List.nil_append, List.forall_mem_cons, and_iff_right hfirst]
  cases hword : fd.lengthWord abi p with
  | none => simp
  | some word =>
      simp only [Option.toList_some, List.flatMap_cons, List.flatMap_nil, List.append_nil,
        Option.mem_some_iff, forall_eq']
      by_cases hbig : msgbufsz < word
      · simp [hbig]
      · rw [if_neg hbig, List.forall_mem_singleton]
        simp only [hbig, false_or]
        by_cases hle : abi.sizeofSizeT ≤ word
        · rw [abi.sub_of_le (by omega) hle]
          simp only [Piperead.InRange]
          omega
        · rw [abi.sub_of_lt (by omega) (by omega)]
          simp only [Piperead.InRange]
          omega

/-- A message of 12 bytes in a buffer of 264. -/
theorem twelveBytes_inRange :
    (msgrcv .lp64 pipe 264 ⟨12 :: List.replicate 11 0, fun _ => 0, []⟩).1.reads.all
      (fun r => r.InRange 264) = true := by
  have hread := (msgrcv_inRange_iff .lp64 pipe (12 :: List.replicate 11 0) (fun _ => 0) 264
    (by decide) (by decide)).mpr (by decide)
  exact List.all_eq_true.mpr fun r hr => decide_eq_true (hread r hr)

/-- The length word 0 makes the second read one of almost `SIZE_MAX` bytes. -/
theorem zeroWord_outOfRange :
    ¬ ∀ r ∈ (msgrcv .lp64 pipe 264 ⟨List.replicate 12 0, fun _ => 0, []⟩).1.reads,
      r.InRange 264 := by
  decide

end LocEngDmnConnGlue

end Victara
