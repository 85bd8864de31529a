import Victara.Dmn.GlueMsg

/-!
# Framing on the Daemon's Pipes

What comes out of a pipe is what went in: whole messages, if they fit in the
receiver's buffer. `msgrcv` gives up on a message that does not fit after it
has read the length word, and leaves the rest of the message in the pipe, where
the next call takes it for the beginning of a message.

A call reads twice, and each read gets what it asks for, or less, or waits.
`rcv_eq` puts the cases together in what a call returns and what it leaves in
the pipe. For a message that is fine both are as they should be, whatever
follows. For any other the shortest message sent behind it shows the difference:
the call for it finds more in the pipe than was sent, or waits though something
is there.

## Main definitions

* `Received`: What the caller has of a call: the length it returns, and so many
  bytes of the buffer.
* `rcv`: A call of `msgrcv` with the buffer `msgp`, and what it leaves in the
  pipe.
* `receives`: Calls of `msgrcv`, one after the other.
* `Msg`: A message that begins with a `size_t`.
* `sent`: The pipe after the messages were written.
* `Msg.framed`: A message as it is written.
* `Msg.received`: What the call for a message is to return.
* `RoundTrips`: The calls for some messages return them, and the calls after
  these return what they would have without them.
* `Msg.Fine`: A message that fits and whose length is an `int`, or one that does
  not fit and is a length word only.
* `lengthWord`: The word that a call takes for a length.
* `headerOnly`: The shortest message.
* `twelveBytes`: Four bytes behind the length word.

## Theorems

* `piperead_waits`: A read waits for an empty pipe.
* `piperead_reads`: A read that does not wait: there is something in the pipe,
  or nothing is asked for.
* `msgsz_store`: The length word is in the buffer, whatever is behind it.
* `rcv_short`: The first read brings less than a length word.
* `piperead_word`: The first read brings a length word.
* `rcv_big`: A length that is too large for the buffer.
* `msgrcv_second`: Once the length word is accepted, the second read decides.
* `rcv_rest`: The second read brings what there is of the rest.
* `rcv_eq`: What a call returns and leaves.
* `rcv_framed`: A fine message is received, and what is behind it stays in the
  pipe.
* `rcv_inv`: The three ways in which a call can come to its end.
* `rcv_fits`: A message that fits is returned only if it is what comes next.
* `length_left`: A read that leaves something has got all that it has asked for.
* `rcv_oversized`: A call that gives up on a message has read less than the
  message, unless that is a length word only.
* `rcv_tiny`: With a buffer below the size of the length word, a call that gives
  up and leaves something has read that word.
* `rcv_consumes`: The call for a message reads no more than the message, and
  less if that is not fine.
* `rcv_waits`: A call that waits, although something is in the pipe, waits for
  what is behind the length word.
* `receives_split`: What the calls for some messages leave.
* `rcv_left`: What is left cannot be a piece that makes the next call wait: it
  would be the shortest message.
* `left_of_roundTrips`: After a message that is not fine, the call for the
  shortest message has more in the pipe than what was sent later.
* `drop_of_tiny`: With a buffer below the size of a length word, a call reads
  just a word.
* `roundTrips_iff`: Messages round-trip as long as those that do not fit have
  nothing behind the length word.
-/

namespace Victara

namespace LocEngDmnConnGlue

open Bytes

/-- What the caller has of a call: the length it returns, and so many bytes of
    the buffer. -/
structure Received where
  length : Int
  msg : List UInt8
  deriving DecidableEq, Repr

/-- A call of `msgrcv` with the buffer `msgp`, and what it leaves in the pipe. -/
def rcv (abi : Abi) (msgbufsz : Nat) (msgp : Nat → UInt8) (p : List UInt8) :
    Option (Received × List UInt8) :=
  let r := msgrcv abi pipe msgbufsz ⟨p, msgp, []⟩
  r.2.map fun length => (⟨length, load r.1.msgp 0 length.toNat⟩, r.1.pipe)

/-- Calls with the buffers `msgps`, up to one that waits. -/
def receives (abi : Abi) (msgbufsz : Nat) : List (Nat → UInt8) → List UInt8 → List Received
  | [], _ => []
  | msgp :: msgps, p => match rcv abi msgbufsz msgp p with
    | none => []
    | some (r, q) => r :: receives abi msgbufsz msgps q

/-- A message: it has room for the length word, and its length is a `size_t`. -/
structure Msg (abi : Abi) where
  bytes : List UInt8
  header : abi.sizeofSizeT ≤ bytes.length
  size : bytes.length < abi.sizeMax

variable {abi : Abi}

/-- The pipe after the messages were written. -/
def sent (msgs : List (Msg abi)) : List UInt8 :=
  msgs.foldl (fun p m => (msgsnd abi pipe p m.bytes).2) []

/-- A message as it is written. -/
def Msg.framed (m : Msg abi) : List UInt8 :=
  toBytes abi.sizeofSizeT m.bytes.length ++ m.bytes.drop abi.sizeofSizeT

/-- What its call is to return: the message, or -1 if it does not fit. -/
def Msg.received (msgbufsz : Nat) (m : Msg abi) : Received :=
  if m.bytes.length ≤ msgbufsz then ⟨m.bytes.length, m.framed⟩ else ⟨-1, []⟩

/-- The calls for `msgs` return these, and what is sent later is received as if
    they had not been there. The second part makes the property one of each
    message: one that is received well but leaves bytes behind is no success.
    What the buffers had in them before must not matter. -/
def RoundTrips (abi : Abi) (msgbufsz : Nat) (msgs : List (Msg abi)) : Prop :=
  ∀ (later : List (Msg abi)) (msgps msgps' : List (Nat → UInt8)), msgps.length = msgs.length →
    receives abi msgbufsz (msgps ++ msgps') (sent (msgs ++ later)) =
      msgs.map (Msg.received msgbufsz) ++ receives abi msgbufsz msgps' (sent later)

/-- A message that fits and whose length is an `int`, or one that does not fit
    and is a length word only. The first kind is what the protocol is for. The
    second is turned away without being read further, and there is nothing more
    of it in the pipe: all others that do not fit leave their body there, and
    the next call takes that for a length word. -/
def Msg.Fine (msgbufsz : Nat) (m : Msg abi) : Prop :=
  m.bytes.length ≤ msgbufsz ∧ m.bytes.length < 2 ^ 31 ∨
    msgbufsz < m.bytes.length ∧ m.bytes.length = abi.sizeofSizeT

/-! ## A call -/

@[simp] theorem Msg.length_framed (m : Msg abi) : m.framed.length = m.bytes.length := by
  have := m.header
  simp only [Msg.framed, List.length_append, length_toBytes, List.length_drop]
  omega

theorem msgsnd_pipe (p : List UInt8) (m : Msg abi) :
    msgsnd abi pipe p m.bytes = (toInt m.bytes.length, p ++ m.framed) := by
  have hlen : (toBytes abi.sizeofSizeT m.bytes.length ++ m.bytes.drop abi.sizeofSizeT).length =
      m.bytes.length := m.length_framed
  simp only [msgsnd, Fd.pipewrite, pipe, hlen, ne_eq, not_true_eq_false, if_false]
  rfl

theorem sent_eq (msgs : List (Msg abi)) : sent msgs = msgs.flatMap Msg.framed := by
  have hfold : ∀ p, msgs.foldl (fun p m => (msgsnd abi pipe p m.bytes).2) p =
      p ++ msgs.flatMap Msg.framed := by
    induction msgs with
    | nil => simp
    | cons m msgs ih =>
        intro p
        rw [List.foldl_cons, msgsnd_pipe, ih]
        simp
  exact hfold []

theorem toInt_lt (x : Int) : toInt x < 2 ^ 31 := by
  rw [toInt, Int.bmod_def]
  omega

/-! ## The two reads of a call -/

/-- A read waits for an empty pipe. -/
theorem piperead_waits {sz : Nat} (hsz : sz ≠ 0) (buf : Nat) (msgp : Nat → UInt8)
    (reads : List Piperead) :
    pipe.piperead ⟨[], msgp, reads⟩ buf sz = (⟨[], msgp, reads ++ [⟨buf, sz⟩]⟩, none) := by
  have hread : pipe.read [] sz = none := by
    simp only [pipe, if_neg hsz, if_pos]
  simp only [Fd.piperead, hread]

/-- A read that does not wait: there is something in the pipe, or nothing is
    asked for. -/
theorem piperead_reads {p : List UInt8} {sz : Nat} (h : p ≠ [] ∨ sz = 0) (buf : Nat)
    (msgp : Nat → UInt8) (reads : List Piperead) :
    pipe.piperead ⟨p, msgp, reads⟩ buf sz =
      (⟨p.drop sz, store msgp buf (p.take sz), reads ++ [⟨buf, sz⟩]⟩,
        some (toInt (min sz p.length : Nat))) := by
  have hread : pipe.read p sz = some (some (p.take sz), p.drop sz) := by
    by_cases hsz : sz = 0
    · simp only [pipe, hsz, if_true, List.take_zero, List.drop_zero]
    · simp only [pipe, if_neg hsz, if_neg (h.resolve_right hsz)]
  simp only [Fd.piperead, hread, List.length_take]

/-- The length word is in the buffer, whatever is behind it. -/
theorem msgsz_store {word : List UInt8} (hword : word.length = abi.sizeofSizeT)
    (msgp : Nat → UInt8) (rest q : List UInt8) (reads : List Piperead) :
    Rcv.msgsz abi ⟨q, store msgp 0 (word ++ rest), reads⟩ = ofBytes word := by
  have hload := load_store_append msgp 0 word rest
  rw [hword] at hload
  rw [Rcv.msgsz, hload]

theorem store_store {word : List UInt8} (hword : word.length = abi.sizeofSizeT)
    (msgp : Nat → UInt8) (rest : List UInt8) :
    store (store msgp 0 word) abi.sizeofSizeT rest = store msgp 0 (word ++ rest) := by
  have happend := store_append msgp 0 word rest
  rwa [hword, Nat.zero_add] at happend

/-- The first read brings less than a length word. -/
theorem rcv_short {msgbufsz : Nat} {p : List UInt8} (hnil : p ≠ [])
    (hshort : p.length < abi.sizeofSizeT) (msgp : Nat → UInt8) :
    rcv abi msgbufsz msgp p = some (⟨-1, []⟩, []) := by
  have hle := abi.sizeofSizeT_le
  have hmin : min abi.sizeofSizeT p.length = p.length := by omega
  have hresult : toInt p.length ≠ abi.sizeofSizeT := by
    rw [toInt_of_lt (by omega)]
    omega
  have hdrop : p.drop abi.sizeofSizeT = [] := List.drop_eq_nil_of_le (by omega)
  rw [rcv, msgrcv, piperead_reads (Or.inl hnil)]
  simp only [hmin, if_pos hresult, hdrop]
  rfl

/-- The first read brings a length word. -/
theorem piperead_word {p : List UInt8} (hlong : abi.sizeofSizeT ≤ p.length) (msgp : Nat → UInt8) :
    pipe.piperead ⟨p, msgp, []⟩ 0 abi.sizeofSizeT =
      (⟨p.drop abi.sizeofSizeT, store msgp 0 (p.take abi.sizeofSizeT), [⟨0, abi.sizeofSizeT⟩]⟩,
        some (abi.sizeofSizeT : Int)) := by
  have hpos := abi.sizeofSizeT_pos
  have hle := abi.sizeofSizeT_le
  have hnil : p ≠ [] := by
    rintro rfl
    simp only [List.length_nil] at hlong
    omega
  rw [piperead_reads (Or.inl hnil), Nat.min_eq_left hlong, toInt_of_lt (by omega)]
  rfl

theorem length_take_word {p : List UInt8} (hlong : abi.sizeofSizeT ≤ p.length) :
    (p.take abi.sizeofSizeT).length = abi.sizeofSizeT := by
  rw [List.length_take, Nat.min_eq_left hlong]

theorem msgsz_word {p : List UInt8} (hlong : abi.sizeofSizeT ≤ p.length) (msgp : Nat → UInt8)
    (q : List UInt8) (reads : List Piperead) :
    Rcv.msgsz abi ⟨q, store msgp 0 (p.take abi.sizeofSizeT), reads⟩ =
      ofBytes (p.take abi.sizeofSizeT) := by
  have hmsgsz := msgsz_store (length_take_word hlong) msgp [] q reads
  rwa [List.append_nil] at hmsgsz

/-- A length that is too large for the buffer. -/
theorem rcv_big {msgbufsz : Nat} {p : List UInt8} (hlong : abi.sizeofSizeT ≤ p.length)
    (hbig : msgbufsz < ofBytes (p.take abi.sizeofSizeT)) (msgp : Nat → UInt8) :
    rcv abi msgbufsz msgp p = some (⟨-1, []⟩, p.drop abi.sizeofSizeT) := by
  rw [rcv, msgrcv, piperead_word hlong]
  simp only [msgsz_word hlong, if_pos hbig, ne_eq, not_true_eq_false, if_false]
  rfl

/-- Otherwise the second read decides. -/
theorem msgrcv_second {msgbufsz : Nat} {p : List UInt8} (hlong : abi.sizeofSizeT ≤ p.length)
    (hfits : ¬ msgbufsz < ofBytes (p.take abi.sizeofSizeT)) {sz : Nat}
    (hsz : abi.sub (ofBytes (p.take abi.sizeofSizeT)) abi.sizeofSizeT = sz) (msgp : Nat → UInt8)
    {r : Rcv (List UInt8) × Option Int}
    (hr : pipe.piperead ⟨p.drop abi.sizeofSizeT, store msgp 0 (p.take abi.sizeofSizeT),
      [⟨0, abi.sizeofSizeT⟩]⟩ abi.sizeofSizeT sz = r) :
    msgrcv abi pipe msgbufsz ⟨p, msgp, []⟩ =
      (r.1, r.2.map fun result => if result ≠ toInt sz then -1 else toInt (r.1.msgsz abi)) := by
  rw [msgrcv, piperead_word hlong]
  simp only [msgsz_word hlong, if_neg hfits, hsz, hr, ne_eq, not_true_eq_false, if_false]
  rcases r with ⟨s, _ | result⟩
  · rfl
  · by_cases hfull : result = toInt sz
    · simp only [hfull, not_true_eq_false, if_false, Option.map_some]
    · simp only [hfull, not_false_eq_true, if_true, Option.map_some]

/-- It brings what there is of the rest. -/
theorem rcv_rest {msgbufsz : Nat} {p : List UInt8} (hlong : abi.sizeofSizeT ≤ p.length)
    (hfits : ¬ msgbufsz < ofBytes (p.take abi.sizeofSizeT)) {sz : Nat}
    (hsz : abi.sub (ofBytes (p.take abi.sizeofSizeT)) abi.sizeofSizeT = sz)
    (hmore : p.drop abi.sizeofSizeT ≠ [] ∨ sz = 0) (msgp : Nat → UInt8) :
    rcv abi msgbufsz msgp p = some
      (if toInt (min sz (p.length - abi.sizeofSizeT) : Nat) = toInt sz then
        ⟨toInt (ofBytes (p.take abi.sizeofSizeT)), load (store msgp 0 (p.take (abi.sizeofSizeT + sz)))
          0 (toInt (ofBytes (p.take abi.sizeofSizeT))).toNat⟩
      else ⟨-1, []⟩, p.drop (abi.sizeofSizeT + sz)) := by
  have hword := length_take_word hlong
  rw [rcv, msgrcv_second hlong hfits hsz msgp (piperead_reads hmore _ _ _), store_store hword,
    msgsz_store hword, List.length_drop, List.drop_drop, ← List.take_add, Option.map_some,
    Option.map_some]
  by_cases hfull : toInt (min sz (p.length - abi.sizeofSizeT) : Nat) = toInt sz
  · rw [if_neg (not_not_intro hfull), if_pos hfull]
  · rw [if_pos hfull, if_neg hfull]
    rfl

/-- What a call returns, and what it leaves. -/
theorem rcv_eq (msgbufsz : Nat) (msgp : Nat → UInt8) (p : List UInt8) :
    rcv abi msgbufsz msgp p =
      let word := ofBytes (p.take abi.sizeofSizeT)
      let sz := abi.sub word abi.sizeofSizeT
      if p = [] then none
      else if p.length < abi.sizeofSizeT then some (⟨-1, []⟩, [])
      else if msgbufsz < word then some (⟨-1, []⟩, p.drop abi.sizeofSizeT)
      else if sz ≠ 0 ∧ p.length = abi.sizeofSizeT then none
      else some
        (if toInt (min sz (p.length - abi.sizeofSizeT) : Nat) = toInt sz then
          ⟨toInt word, load (store msgp 0 (p.take (abi.sizeofSizeT + sz))) 0 (toInt word).toNat⟩
        else ⟨-1, []⟩, p.drop (abi.sizeofSizeT + sz)) := by
  have hpos := abi.sizeofSizeT_pos
  dsimp only
  split
  · rename_i hnil
    -- The first read waits.
    have hw : abi.sizeofSizeT ≠ 0 := by omega
    rw [hnil, rcv, msgrcv, piperead_waits hw]
    rfl
  · rename_i hnil
    split
    · rename_i hshort
      exact rcv_short hnil hshort msgp
    · rename_i hlong
      have hle : abi.sizeofSizeT ≤ p.length := Nat.not_lt.mp hlong
      split
      · rename_i hbig
        exact rcv_big hle hbig msgp
      · rename_i hfits
        split
        · rename_i hend
          -- The second read waits for the rest.
          have hdrop : p.drop abi.sizeofSizeT = [] := List.drop_eq_nil_of_le (by omega)
          rw [rcv, msgrcv_second hle hfits rfl msgp (hdrop ▸ piperead_waits hend.1 _ _ _)]
          rfl
        · rename_i hmore
          refine rcv_rest hle hfits rfl ?_ msgp
          rw [ne_eq, List.drop_eq_nil_iff]
          omega

/-! ## A call that returns what is expected -/

theorem Msg.take_framed (m : Msg abi) (q : List UInt8) :
    (m.framed ++ q).take abi.sizeofSizeT = toBytes abi.sizeofSizeT m.bytes.length := by
  have hlen := length_toBytes abi.sizeofSizeT m.bytes.length
  rw [Msg.framed, List.append_assoc]
  exact List.take_left' hlen

/-- A fine message is received, and what is behind it stays in the pipe. -/
theorem rcv_framed {msgbufsz : Nat} {m : Msg abi} (hm : m.Fine msgbufsz) (msgp : Nat → UInt8)
    (q : List UInt8) :
    rcv abi msgbufsz msgp (m.framed ++ q) = some (m.received msgbufsz, q) := by
  have hpos := abi.sizeofSizeT_pos
  have hheader := m.header
  have hsize := m.size
  have hword : ofBytes ((m.framed ++ q).take abi.sizeofSizeT) = m.bytes.length := by
    rw [Msg.take_framed, ofBytes_toBytes hsize]
  have hlen : (m.framed ++ q).length = m.bytes.length + q.length := by simp
  have hnil : ¬ m.framed ++ q = [] := by
    intro h
    rw [h] at hlen
    simp only [List.length_nil] at hlen
    omega
  rw [rcv_eq]
  simp only [hword, hlen, hnil, if_false, abi.sub_of_le hsize hheader]
  rw [if_neg (by omega)]
  -- It fits and is read whole, or it is turned away with nothing behind its word.
  rcases hm with ⟨hfits, hint⟩ | ⟨hbig, hheaderOnly⟩
  · rw [if_neg (by omega), if_neg (by omega)]
    have hmin : min (m.bytes.length - abi.sizeofSizeT)
        (m.bytes.length + q.length - abi.sizeofSizeT) = m.bytes.length - abi.sizeofSizeT := by
      omega
    have hend : abi.sizeofSizeT + (m.bytes.length - abi.sizeofSizeT) = m.framed.length := by
      rw [Msg.length_framed]
      omega
    have hload := load_store msgp 0 m.framed
    rw [Msg.length_framed] at hload
    simp [hmin, hend, toInt_of_lt hint, Msg.received, hfits, hload]
  · rw [if_pos (by omega), ← hheaderOnly, ← Msg.length_framed, List.drop_left]
    simp [Msg.received, hbig]

/-- The word that a call takes for a length. -/
def lengthWord (abi : Abi) (p : List UInt8) : Nat := ofBytes (p.take abi.sizeofSizeT)

/-- The three ways in which a call can come to its end. -/
theorem rcv_inv {msgbufsz : Nat} {msgp : Nat → UInt8} {p q : List UInt8} {r : Received}
    (h : rcv abi msgbufsz msgp p = some (r, q)) :
    p.length < abi.sizeofSizeT ∧ r = ⟨-1, []⟩ ∧ q = [] ∨
    abi.sizeofSizeT ≤ p.length ∧ msgbufsz < lengthWord abi p ∧ r = ⟨-1, []⟩ ∧
      q = p.drop abi.sizeofSizeT ∨
    ∃ sz, sz = abi.sub (lengthWord abi p) abi.sizeofSizeT ∧ abi.sizeofSizeT ≤ p.length ∧
      lengthWord abi p ≤ msgbufsz ∧ q = p.drop (abi.sizeofSizeT + sz) ∧
      r = if toInt (min sz (p.length - abi.sizeofSizeT) : Nat) = toInt sz then
          ⟨toInt (lengthWord abi p),
            load (store msgp 0 (p.take (abi.sizeofSizeT + sz))) 0
              (toInt (lengthWord abi p)).toNat⟩
        else ⟨-1, []⟩ := by
  rw [rcv_eq] at h
  simp only at h
  -- One `if` after the other: it waits, the word is cut, it is too large, the rest waits.
  split at h
  · cases h
  · split at h
    next hshort =>
      cases h
      exact Or.inl ⟨hshort, rfl, rfl⟩
    next hshort =>
      split at h
      next hbig =>
        cases h
        exact Or.inr (Or.inl ⟨Nat.not_lt.mp hshort, hbig, rfl, rfl⟩)
      next hbig =>
        split at h
        · cases h
        · rcases Prod.mk.inj (Option.some.inj h) with ⟨hr, hq⟩
          exact Or.inr (Or.inr ⟨_, rfl, Nat.not_lt.mp hshort, Nat.not_lt.mp hbig, hq.symm, hr.symm⟩)

theorem lengthWord_lt {p : List UInt8} (h : abi.sizeofSizeT ≤ p.length) :
    lengthWord abi p < abi.sizeMax := by
  have hlt := ofBytes_lt (p.take abi.sizeofSizeT)
  rwa [List.length_take, Nat.min_eq_left h] at hlt

/-- A message that fits is returned only if it is what comes next. -/
theorem rcv_fits {msgbufsz : Nat} {m : Msg abi} {msgp : Nat → UInt8} {p q : List UInt8}
    (hfits : m.bytes.length ≤ msgbufsz)
    (h : rcv abi msgbufsz msgp p = some (m.received msgbufsz, q)) :
    m.bytes.length < 2 ^ 31 ∧ q = p.drop m.bytes.length := by
  have hheader := m.header
  have hno : ¬ (m.bytes.length : Int) = -1 := by omega
  rw [Msg.received, if_pos hfits] at h
  rcases rcv_inv h with ⟨-, hr, -⟩ | ⟨-, -, hr, -⟩ | ⟨sz, hsz, hle, hword, hq, hr⟩
  · exact absurd (congrArg Received.length hr) hno
  · exact absurd (congrArg Received.length hr) hno
  · split at hr
    · rcases Received.mk.inj hr with ⟨hlength, hmsg⟩
      rw [← hlength, Int.toNat_natCast] at hmsg
      -- The length word of the message is the one that was read.
      have hfirst : toBytes abi.sizeofSizeT m.bytes.length = p.take abi.sizeofSizeT := by
        have hload := load_store_append msgp 0 (p.take abi.sizeofSizeT)
          ((p.drop abi.sizeofSizeT).take sz)
        rw [List.length_take, Nat.min_eq_left hle] at hload
        have htake := congrArg (List.take abi.sizeofSizeT) hmsg
        rw [load_take _ _ hheader, List.take_add, hload] at htake
        rw [← htake]
        simpa using (m.take_framed []).symm
      have hsame : lengthWord abi p = m.bytes.length := by
        rw [lengthWord, ← hfirst, ofBytes_toBytes m.size]
      have hint := toInt_lt (lengthWord abi p)
      rw [hsame, abi.sub_of_le m.size hheader] at hsz
      refine ⟨by omega, ?_⟩
      rw [hq, hsz, Nat.add_sub_of_le hheader]
    · exact absurd (congrArg Received.length hr) hno

/-- A read that leaves something has got all that it has asked for. -/
theorem length_left {p q : List UInt8} {sz : Nat} (hdrop : q = p.drop (abi.sizeofSizeT + sz))
    (hq : q ≠ []) : p.length = abi.sizeofSizeT + sz + q.length := by
  have hlen := congrArg List.length hdrop
  have hpos := List.length_pos_iff.mpr hq
  rw [List.length_drop] at hlen
  omega

/-- A call that gives up on a message has read less than the message, unless
    that is a length word only. -/
theorem rcv_oversized {msgbufsz : Nat} {m : Msg abi} {msgp : Nat → UInt8} {p q : List UInt8}
    (hbig : msgbufsz < m.bytes.length)
    (h : rcv abi msgbufsz msgp p = some (m.received msgbufsz, q)) (hq : q ≠ []) :
    p.length ≤ q.length + m.bytes.length ∧
      (m.bytes.length ≠ abi.sizeofSizeT → p.length < q.length + m.bytes.length) := by
  have hheader := m.header
  have hw := abi.sizeofSizeT_le
  rw [Msg.received, if_neg (Nat.not_le.mpr hbig)] at h
  rcases rcv_inv h with ⟨-, -, hnil⟩ | ⟨hle, hword, -, hdrop⟩ | ⟨sz, hsz, hle, hword, hdrop, hr⟩
  · exact absurd hnil hq
  · have hlen := congrArg List.length hdrop
    rw [List.length_drop] at hlen
    omega
  · have hlen := length_left hdrop hq
    have hmin : min sz (p.length - abi.sizeofSizeT) = sz := by omega
    rw [hmin, if_pos rfl] at hr
    have hlength := (Received.mk.inj hr).1
    have hlarge : abi.sizeofSizeT ≤ lengthWord abi p := by
      by_contra hsmall
      rw [toInt_of_lt (by omega)] at hlength
      omega
    rw [abi.sub_of_le (lengthWord_lt hle) hlarge] at hsz
    omega

/-- With a buffer below the size of the length word, a call that gives up and
    leaves something has read that word. -/
theorem rcv_tiny {msgbufsz : Nat} (htiny : msgbufsz < abi.sizeofSizeT) {msgp : Nat → UInt8}
    {p q : List UInt8} (h : rcv abi msgbufsz msgp p = some (⟨-1, []⟩, q)) (hq : q ≠ []) :
    msgbufsz < lengthWord abi p ∧ q = p.drop abi.sizeofSizeT := by
  have hw := abi.sizeofSizeT_le
  rcases rcv_inv h with ⟨-, -, hnil⟩ | ⟨-, hword, -, hdrop⟩ | ⟨sz, hsz, hle, hword, hdrop, hr⟩
  · exact absurd hnil hq
  · exact ⟨hword, hdrop⟩
  · have hlen := length_left hdrop hq
    have hmin : min sz (p.length - abi.sizeofSizeT) = sz := by omega
    rw [hmin, if_pos rfl] at hr
    have hlength := (Received.mk.inj hr).1
    rw [toInt_of_lt (by omega)] at hlength
    omega

theorem rcv_suffix {msgbufsz : Nat} {msgp : Nat → UInt8} {p q : List UInt8} {r : Received}
    (h : rcv abi msgbufsz msgp p = some (r, q)) : q <:+ p := by
  rcases rcv_inv h with ⟨-, -, rfl⟩ | ⟨-, -, -, rfl⟩ | ⟨sz, -, -, -, rfl, -⟩
  · exact List.nil_suffix
  · exact List.drop_suffix _ _
  · exact List.drop_suffix _ _

/-- The call for a message reads no more than the message, and less if that is
    not fine. -/
theorem rcv_consumes {msgbufsz : Nat} {m : Msg abi} {msgp : Nat → UInt8} {p q : List UInt8}
    (h : rcv abi msgbufsz msgp p = some (m.received msgbufsz, q)) (hq : q ≠ []) :
    p.length ≤ q.length + m.bytes.length ∧
      (¬ m.Fine msgbufsz → p.length < q.length + m.bytes.length) ∧
      (msgbufsz < abi.sizeofSizeT → q = p.drop abi.sizeofSizeT) := by
  have hheader := m.header
  by_cases hfits : m.bytes.length ≤ msgbufsz
  · rcases rcv_fits hfits h with ⟨hint, hdrop⟩
    have hlen := congrArg List.length hdrop
    rw [List.length_drop] at hlen
    exact ⟨by omega, fun hno => absurd (Or.inl ⟨hfits, hint⟩) hno, fun htiny => by omega⟩
  · have hbig := Nat.not_le.mp hfits
    rcases rcv_oversized hbig h hq with ⟨hle, hlt⟩
    refine ⟨hle, fun hno => hlt fun heq => hno (Or.inr ⟨hbig, heq⟩), fun htiny => ?_⟩
    rw [Msg.received, if_neg hfits] at h
    exact (rcv_tiny htiny h hq).2

/-- A call that waits, although something is in the pipe, waits for what is
    behind the length word. -/
theorem rcv_waits {msgbufsz : Nat} {msgp : Nat → UInt8} {p : List UInt8}
    (h : rcv abi msgbufsz msgp p = none) (hp : p ≠ []) : p.length = abi.sizeofSizeT := by
  rw [rcv_eq] at h
  simp only [if_neg hp] at h
  split at h
  · cases h
  · split at h
    · cases h
    · split at h
      next hend => exact hend.2
      next => cases h

theorem rcv_nil (msgbufsz : Nat) (msgp : Nat → UInt8) : rcv abi msgbufsz msgp [] = none := by
  rw [rcv_eq]
  simp

/-! ## The calls for some messages -/

/-- What the calls for some messages leave, if each returns what it is to
    return. -/
theorem receives_split {msgbufsz : Nat} {msgps' : List (Nat → UInt8)} {rs : List Received} :
    ∀ {msgs : List (Msg abi)} {msgps : List (Nat → UInt8)} {p : List UInt8},
      msgps.length = msgs.length →
      receives abi msgbufsz (msgps ++ msgps') p = msgs.map (Msg.received msgbufsz) ++ rs →
      ∃ q, receives abi msgbufsz msgps' q = rs ∧ q <:+ p ∧ (q ≠ [] →
        p.length ≤ q.length + (msgs.flatMap Msg.framed).length ∧
        ((∃ m ∈ msgs, ¬ m.Fine msgbufsz) →
          p.length < q.length + (msgs.flatMap Msg.framed).length) ∧
        (msgbufsz < abi.sizeofSizeT → q = p.drop (msgs.length * abi.sizeofSizeT))) := by
  intro msgs
  induction msgs with
  | nil =>
      intro msgps p hlen h
      rw [List.length_eq_zero_iff.mp hlen] at h
      exact ⟨p, h, List.suffix_refl p, fun _ => by simp⟩
  | cons m msgs ih =>
      intro msgps p hlen h
      cases msgps with
      | nil => cases hlen
      | cons msgp msgps =>
          cases hcall : rcv abi msgbufsz msgp p with
          | none =>
              simp only [List.cons_append, receives, hcall, List.map_cons] at h
              cases h
          | some r =>
              rcases r with ⟨r, p'⟩
              simp only [List.cons_append, receives, hcall, List.map_cons, List.cons.injEq] at h
              rcases h with ⟨rfl, h⟩
              rcases ih (Nat.succ.inj hlen) h with ⟨q, hrs, hsuffix, hrest⟩
              refine ⟨q, hrs, hsuffix.trans (rcv_suffix hcall), fun hq => ?_⟩
              -- What is left in the end was left after the first message too.
              have hp' : p' ≠ [] := by
                rintro rfl
                exact hq (List.suffix_nil.mp hsuffix)
              rcases hrest hq with ⟨hle, hlt, hdrop⟩
              rcases rcv_consumes hcall hp' with ⟨hle', hlt', hdrop'⟩
              simp only [List.flatMap_cons, List.length_append, Msg.length_framed]
              refine ⟨by omega, ?_, fun htiny => ?_⟩
              · -- The message that is not fine takes fewer bytes, be it the first or a later one.
                rintro ⟨m', hm', hno⟩
                rcases List.mem_cons.mp hm' with rfl | hm'
                · have := hlt' hno
                  omega
                · have := hlt ⟨m', hm', hno⟩
                  omega
              · rw [hdrop htiny, hdrop' htiny, List.drop_drop, List.length_cons, Nat.succ_mul,
                  Nat.add_comm]

theorem receives_framed {msgbufsz : Nat} {msgs : List (Msg abi)}
    (hfine : ∀ m ∈ msgs, m.Fine msgbufsz) (msgps' : List (Nat → UInt8)) (q : List UInt8) :
    ∀ {msgps : List (Nat → UInt8)}, msgps.length = msgs.length →
      receives abi msgbufsz (msgps ++ msgps') (msgs.flatMap Msg.framed ++ q) =
        msgs.map (Msg.received msgbufsz) ++ receives abi msgbufsz msgps' q := by
  induction msgs with
  | nil =>
      intro msgps hlen
      rw [List.length_eq_zero_iff.mp hlen]
      rfl
  | cons m msgs ih =>
      intro msgps hlen
      cases msgps with
      | nil => cases hlen
      | cons msgp msgps =>
          rw [List.forall_mem_cons] at hfine
          rw [List.flatMap_cons, List.append_assoc, List.cons_append, receives,
            rcv_framed hfine.1 msgp]
          simp only [List.map_cons, List.cons_append]
          rw [ih hfine.2 (Nat.succ.inj hlen)]

/-! ## A message that is a length word only -/

/-- The shortest message. -/
def headerOnly (abi : Abi) : Msg abi where
  bytes := List.replicate abi.sizeofSizeT 0
  header := by simp
  size := by simpa using abi.sizeofSizeT_lt

theorem headerOnly_fine (abi : Abi) (msgbufsz : Nat) : (headerOnly abi).Fine msgbufsz := by
  have hw := abi.sizeofSizeT_le
  have hlen : (headerOnly abi).bytes.length = abi.sizeofSizeT := List.length_replicate
  by_cases hfits : abi.sizeofSizeT ≤ msgbufsz
  · exact Or.inl ⟨by omega, by omega⟩
  · exact Or.inr ⟨by omega, hlen⟩

/-- What is left cannot be a piece that makes the next call wait: it would be
    the shortest message. -/
theorem rcv_left {msgbufsz : Nat} {msgp : Nat → UInt8} {p q : List UInt8}
    (hp : (headerOnly abi).framed <:+ p) (hq : q <:+ p) (hne : q ≠ []) :
    rcv abi msgbufsz msgp q ≠ none := by
  intro hwaits
  have hlen := rcv_waits hwaits hne
  have hframed : (headerOnly abi).framed.length = abi.sizeofSizeT := by
    rw [Msg.length_framed]
    exact List.length_replicate
  have heq : q = (headerOnly abi).framed :=
    (List.suffix_of_suffix_length_le hq hp (by omega)).eq_of_length (by omega)
  have hcall := rcv_framed (headerOnly_fine abi msgbufsz) msgp []
  rw [List.append_nil, ← heq, hwaits] at hcall
  cases hcall

theorem sent_append (msgs later : List (Msg abi)) :
    sent (msgs ++ later) = sent msgs ++ sent later := by
  simp [sent_eq]

theorem rcv_of_receives {msgbufsz : Nat} {msgp : Nat → UInt8} {msgps : List (Nat → UInt8)}
    {p : List UInt8} {r : Received} {rs : List Received}
    (h : receives abi msgbufsz (msgp :: msgps) p = r :: rs) :
    ∃ q, rcv abi msgbufsz msgp p = some (r, q) ∧ receives abi msgbufsz msgps q = rs := by
  cases hcall : rcv abi msgbufsz msgp p with
  | none =>
      rw [receives, hcall] at h
      cases h
  | some s =>
      rw [receives, hcall] at h
      simp only [List.cons.injEq] at h
      exact ⟨s.2, by rw [← h.1], h.2⟩

theorem rcv_of_receives_nil {msgbufsz : Nat} {msgp : Nat → UInt8} {msgps : List (Nat → UInt8)}
    {p : List UInt8} (h : receives abi msgbufsz (msgp :: msgps) p = []) :
    rcv abi msgbufsz msgp p = none := by
  cases hcall : rcv abi msgbufsz msgp p with
  | none => rfl
  | some s =>
      rw [receives, hcall] at h
      cases h

/-- After a message that is not fine, the call for the shortest message has more
    in the pipe than what was sent later. -/
theorem left_of_roundTrips {msgbufsz : Nat} {msgs : List (Msg abi)}
    (h : RoundTrips abi msgbufsz msgs) (hbad : ∃ m ∈ msgs, ¬ m.Fine msgbufsz)
    (msgp : Nat → UInt8) (rest : List (Msg abi)) :
    ∃ q q', q <:+ sent (msgs ++ headerOnly abi :: rest) ∧ abi.sizeofSizeT < q.length ∧
      (msgbufsz < abi.sizeofSizeT →
        q = (sent (msgs ++ headerOnly abi :: rest)).drop (msgs.length * abi.sizeofSizeT)) ∧
      rcv abi msgbufsz msgp q = some ((headerOnly abi).received msgbufsz, q') ∧
      receives abi msgbufsz [msgp] q' = receives abi msgbufsz [msgp] (sent rest) := by
  have hlater := h (headerOnly abi :: rest) (List.replicate msgs.length msgp) [msgp, msgp]
    List.length_replicate
  rcases receives_split List.length_replicate hlater with ⟨q, hq, hsuffix, hleft⟩
  -- The shortest message is fine, so its call returns it and leaves what is behind.
  have hfirst : receives abi msgbufsz [msgp, msgp] (sent (headerOnly abi :: rest)) =
      (headerOnly abi).received msgbufsz :: receives abi msgbufsz [msgp] (sent rest) := by
    have hone : receives abi msgbufsz ([msgp] ++ [msgp])
        ([headerOnly abi].flatMap Msg.framed ++ sent rest) = _ :=
      receives_framed (by simpa using headerOnly_fine abi msgbufsz) [msgp] (sent rest) rfl
    simpa [sent_eq] using hone
  rw [hfirst] at hq
  rcases rcv_of_receives hq with ⟨q', hcall, hrest⟩
  -- Something must be left, for the call does not wait.
  have hne : q ≠ [] := by
    rintro rfl
    rw [rcv_nil] at hcall
    cases hcall
  rcases hleft hne with ⟨-, hmore, hdrop⟩
  have hlen : (headerOnly abi).bytes.length = abi.sizeofSizeT := List.length_replicate
  have hmore := hmore hbad
  rw [sent_append, List.length_append, sent_eq, sent_eq, List.flatMap_cons, List.length_append,
    Msg.length_framed, hlen] at hmore
  exact ⟨q, q', hsuffix, by omega, hdrop, hcall, hrest⟩

/-- With a buffer below the size of the length word, the call for the shortest
    message reads just a word: it would leave nothing for a second such message
    otherwise. -/
theorem drop_of_tiny {msgbufsz : Nat} {msgs : List (Msg abi)} {msgp : Nat → UInt8}
    {q q' : List UInt8} (h : RoundTrips abi msgbufsz msgs)
    (hbad : ∃ m ∈ msgs, ¬ m.Fine msgbufsz) (htiny : msgbufsz < abi.sizeofSizeT)
    (hlong : abi.sizeofSizeT < q.length)
    (hq : q = (sent (msgs ++ [headerOnly abi])).drop (msgs.length * abi.sizeofSizeT))
    (hcall : rcv abi msgbufsz msgp q = some ((headerOnly abi).received msgbufsz, q')) :
    q' = q.drop abi.sizeofSizeT := by
  have hheader : (headerOnly abi).bytes.length = abi.sizeofSizeT := List.length_replicate
  rcases left_of_roundTrips h hbad msgp [headerOnly abi] with ⟨r, r', -, -, hr, hcallr, hrest⟩
  have hr' : r' ≠ [] := by
    rintro rfl
    have hcallH := rcv_framed (headerOnly_fine abi msgbufsz) msgp []
    rw [List.append_nil] at hcallH
    rw [receives, receives, rcv_nil, sent_eq, List.flatMap_singleton, hcallH] at hrest
    cases hrest
  rw [Msg.received, if_neg (by omega)] at hcall hcallr
  -- With one more message behind it the call leaves something, and has read just a word.
  have hword := (rcv_tiny htiny hcallr hr').1
  -- What is read of the word does not depend on that message.
  have hsame : lengthWord abi r = lengthWord abi q := by
    have hsplit : sent (msgs ++ [headerOnly abi, headerOnly abi]) =
        sent (msgs ++ [headerOnly abi]) ++ (headerOnly abi).framed := by
      simp [sent_eq]
    have hlen := congrArg List.length hq
    rw [List.length_drop] at hlen
    rw [hr htiny, hsplit, List.drop_append_of_le_length (by omega), ← hq, lengthWord,
      List.take_append_of_le_length (by omega)]
    rfl
  rcases rcv_inv hcall with ⟨hshort, -⟩ | ⟨-, -, -, hdrop⟩ | ⟨_, _, _, hsmall, _⟩
  · omega
  · exact hdrop
  · omega

/-- Messages come out as they went in, whatever is sent later, exactly if each
    of them fits in the buffer and its length in an `int`, or is a length word
    only. Both sizes of a `size_t` are covered, and the content of the messages
    does not matter. -/
theorem roundTrips_iff (abi : Abi) (msgbufsz : Nat) (msgs : List (Msg abi)) :
    RoundTrips abi msgbufsz msgs ↔ ∀ m ∈ msgs, m.Fine msgbufsz := by
  constructor
  · intro h
    by_contra hno
    have hbad : ∃ m ∈ msgs, ¬ m.Fine msgbufsz := by
      simpa using hno
    let msgp : Nat → UInt8 := fun _ => 0
    have hheader : (headerOnly abi).bytes.length = abi.sizeofSizeT := List.length_replicate
    rcases left_of_roundTrips h hbad msgp [] with ⟨q, q', hsuffix, hmore, hdrop, hcall, hrest⟩
    have hwaits : rcv abi msgbufsz msgp q' = none := by
      have hnone : receives abi msgbufsz [msgp] q' = [] := by
        rw [hrest, sent_eq, List.flatMap_nil, receives, rcv_nil]
      exact rcv_of_receives_nil hnone
    -- The call reads a length word, and leaves something.
    have hq' : q' = q.drop abi.sizeofSizeT := by
      by_cases hfits : abi.sizeofSizeT ≤ msgbufsz
      · have hdrop := (rcv_fits (by omega) hcall).2
        rwa [hheader] at hdrop
      · exact drop_of_tiny h hbad (Nat.not_le.mp hfits) hmore (hdrop (Nat.not_le.mp hfits)) hcall
    have hne : q' ≠ [] := by
      intro hnil
      have hlen := congrArg List.length (hq'.symm.trans hnil)
      rw [List.length_drop, List.length_nil] at hlen
      omega
    have hlast : (headerOnly abi).framed <:+ sent (msgs ++ [headerOnly abi]) := by
      rw [sent_append, sent_eq [headerOnly abi], List.flatMap_singleton]
      exact List.suffix_append _ _
    exact rcv_left hlast ((rcv_suffix hcall).trans hsuffix) hne hwaits
  · intro hfine later msgps msgps' hlen
    rw [sent_append, sent_eq msgs]
    exact receives_framed hfine msgps' (sent later) hlen

/-- Four bytes behind the length word. -/
def twelveBytes : Msg .lp64 := ⟨List.replicate 12 0, by decide, by decide⟩

/-- With a buffer for the length word, the four bytes stay in the pipe, and the
    next message is not returned. -/
theorem payload_stays :
    receives .lp64 8 [fun _ => 0, fun _ => 0] (sent [twelveBytes, headerOnly .lp64]) ≠
      [twelveBytes, headerOnly .lp64].map (Msg.received 8) := by
  decide

end LocEngDmnConnGlue

end Victara
