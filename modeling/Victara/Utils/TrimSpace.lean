import Mathlib.Data.List.DropRight
import Victara.Lib.Buffer
import Victara.Utils.LocCfg

/-!
# Removing Spaces in Place

`trim_space` of `loc_cfg.cpp`, in the buffer of the string. The text is copied
to the front from the first character that is not a space, and the place behind
the last one that was copied is remembered. At the end it is made the end of the
string. If there was none, nothing is: a string of spaces stays as it is.

The loop has two phases. Before the first character that is not a space nothing
is written. From there on the text that has been copied is at the front of the
buffer, and the place of its last character that is not a space is known;
`trimLoop_started` has this as the invariant. What is then cut off behind that
place is what a second call would find nothing to do about.

## Main definitions

* `Trim`: The buffer and the pointers.
* `Trim.step`, `trimLoop`, `trimInPlace`: The function.
* `trimmed`: The text without the spaces at its ends.
* `TrimsTo`: What the function is to do.

## Theorems

* `rdropWhile_cons`: A character in front stays if it is none, or if something
  is behind it.
* `trimmed_trimmed`: Trimming twice is trimming once.
* `trimLoop_leading`, `trimLoop_started`: The loop before the first character
  that is not a space, and from there on.
* `step_started`: A character is copied to the end of the text.
* `trimInPlace_spaces`, `trimInPlace_eq`: What is in the buffer.
* `step_first`: The first character that is no space is remembered.
* `put_end`: The end of the string is set.
* `trimLoop_eq`: The loop when the text, `c :: todo`, is behind the spaces
  `lead`.
* `spaces_or`: A text has only spaces, or something else.
* `trimInPlace_text`: The string is that of `trimSpace`.
* `trimInPlace_again`: A second call changes nothing.
* `trimsTo_iff`: When the function does what it is to do.
-/

namespace Victara

open Buffer

/-- The buffer and the pointers. `write_ptr` is behind what has been copied. -/
structure Trim where
  buf : List Char
  scan_ptr : Nat
  write_ptr : Nat
  first_nonspace : Option Nat
  last_nonspace : Option Nat

/-- The body of the loop, for the character at `scan_ptr`. -/
def Trim.step (s : Trim) (c : Char) : Option Trim :=
  let s := if !isspace c ∧ s.first_nonspace = none then
    { s with first_nonspace := some s.scan_ptr } else s
  if s.first_nonspace = none then some { s with scan_ptr := s.scan_ptr + 1 }
  else
    (put s.buf s.write_ptr c).bind fun buf =>
      buf[s.scan_ptr]?.map fun c =>
        { s with
          buf := buf
          scan_ptr := s.scan_ptr + 1
          write_ptr := s.write_ptr + 1
          last_nonspace := if !isspace c then some (s.write_ptr + 1) else s.last_nonspace }

/-- The loop, with no more characters to look at than the buffer has. There is no
    result if none of them is the nul. -/
def trimLoop : Nat → Trim → Option Trim
  | 0, _ => none
  | n + 1, s =>
      match s.buf[s.scan_ptr]? with
      | none => none
      | some c => if c = '\x00' then some s else (s.step c).bind (trimLoop n)

/-- `trim_space`. -/
def trimInPlace (org_string : List Char) : Option (List Char) :=
  (trimLoop org_string.length ⟨org_string, 0, 0, none, none⟩).bind fun s =>
    match s.last_nonspace with
    | some last_nonspace => put s.buf last_nonspace '\x00'
    | none => some s.buf

/-- Without the spaces at both ends. -/
def trimmed (s : List Char) : List Char := (s.dropWhile isspace).rdropWhile isspace

/-- The buffer has the text without its spaces, what is behind the string is as
    it was, and a second call changes nothing. -/
def TrimsTo (s rest : List Char) (out : Option (List Char)) : Prop :=
  ∃ buf, out = some buf ∧ string '\x00' buf = some (trimmed s) ∧
    buf.length = s.length + 1 + rest.length ∧ buf.drop (s.length + 1) = rest ∧
    trimInPlace buf = some buf

/-! ## Spaces at the ends -/

theorem rdropWhile_nil_iff {s : List Char} :
    s.rdropWhile isspace = [] ↔ s.all isspace = true := by
  rw [List.rdropWhile_eq_nil_iff, List.all_eq_true]

/-- A character in front stays if it is none, or if something is behind it. -/
theorem rdropWhile_cons (c : Char) (s : List Char) :
    (c :: s).rdropWhile isspace =
      if isspace c = true ∧ s.all isspace = true then [] else c :: s.rdropWhile isspace := by
  induction s using List.reverseRecOn with
  | nil => simp [List.rdropWhile_singleton]
  | append_singleton s x ih =>
      rw [← List.cons_append, List.rdropWhile_concat, ih, List.rdropWhile_concat]
      by_cases hx : isspace x = true <;> simp [hx]

theorem trimmed_cons_space {c : Char} (h : isspace c = true) (s : List Char) :
    trimmed (c :: s) = trimmed s := by
  rw [trimmed, List.dropWhile_cons_of_pos h]
  rfl

theorem trimmed_cons_nonspace {c : Char} (h : isspace c = false) (s : List Char) :
    trimmed (c :: s) = c :: s.rdropWhile isspace := by
  rw [trimmed, List.dropWhile_cons_of_neg (by simp [h]), rdropWhile_cons, if_neg (by simp [h])]

/-- Without its spaces a text begins with no space, if anything is left. -/
theorem trimmed_trimmed (s : List Char) : trimmed (trimmed s) = trimmed s := by
  induction s with
  | nil => rfl
  | cons c s ih =>
      by_cases hc : isspace c = true
      · rw [trimmed_cons_space hc, ih]
      · rw [Bool.not_eq_true] at hc
        rw [trimmed_cons_nonspace hc, trimmed_cons_nonspace hc, List.rdropWhile_idempotent]

/-! ## The loop -/

/-- Before the first character that is no space nothing is written. -/
theorem trimLoop_leading {lead : List Char} (h : ∀ c ∈ lead, isspace c = true)
    (front tail : List Char) (n : Nat) :
    trimLoop (lead.length + n) ⟨front ++ (lead ++ tail), front.length, 0, none, none⟩ =
      trimLoop n ⟨front ++ (lead ++ tail), front.length + lead.length, 0, none, none⟩ := by
  induction lead generalizing front with
  | nil => simp
  | cons c lead ih =>
      have hspace := h c List.mem_cons_self
      have hnul : c ≠ '\x00' := by
        rintro rfl
        cases hspace
      have hrest := ih (fun d hd => h d (List.mem_cons_of_mem c hd)) (front ++ [c])
      rw [List.length_append, List.append_assoc] at hrest
      -- Only the pointer that looks moves.
      rw [List.length_cons, Nat.add_right_comm, trimLoop]
      simp only [List.cons_append, List.getElem?_append_right (Nat.le_refl _), Nat.sub_self,
        List.getElem?_cons_zero, if_neg hnul, Trim.step, hspace]
      simpa [Nat.add_assoc, Nat.add_comm 1] using hrest

/-- A character is copied to the end of the text. The text behind it may lie
    between the two pointers, `mid`, which are as far apart as before. -/
theorem step_started (done mid tail : List Char) (c : Char) (first : Nat)
    (last : Option Nat) :
    ∃ mid', mid'.length = mid.length ∧
      Trim.step ⟨done ++ (mid ++ c :: tail), done.length + mid.length, done.length,
        some first, last⟩ c =
      some ⟨(done ++ [c]) ++ (mid' ++ tail), (done ++ [c]).length + mid'.length,
        (done ++ [c]).length, some first,
        if isspace c = true then last else some (done ++ [c]).length⟩ := by
  cases mid with
  | nil =>
      refine ⟨[], rfl, ?_⟩
      have hput := put_append done c tail c
      by_cases hc : isspace c = true <;> simp [Trim.step, hput, hc]
  | cons m mid =>
      refine ⟨mid ++ [c], by simp, ?_⟩
      have hput := put_append done m (mid ++ c :: tail) c
      by_cases hc : isspace c = true <;>
        simp [Trim.step, hput, hc, Nat.add_assoc, Nat.add_comm 1]

/-- From the first character that is no space on the text is copied to the
    front. -/
theorem trimLoop_started {todo : List Char} (h : '\x00' ∉ todo) (done mid rest : List Char)
    (first : Nat) (last : Option Nat) (n : Nat) :
    ∃ mid', mid'.length = mid.length ∧
      trimLoop (todo.length + (n + 1)) ⟨done ++ (mid ++ (todo ++ '\x00' :: rest)),
        done.length + mid.length, done.length, some first, last⟩ =
      some ⟨(done ++ todo) ++ (mid' ++ '\x00' :: rest), (done ++ todo).length + mid'.length,
        (done ++ todo).length, some first,
        if todo.all isspace = true then last
        else some (done.length + (todo.rdropWhile isspace).length)⟩ := by
  induction todo generalizing done mid last with
  | nil =>
      refine ⟨mid, rfl, ?_⟩
      simp [trimLoop]
  | cons c todo ih =>
      have hc : c ≠ '\x00' := fun heq => h (heq ▸ List.mem_cons_self)
      have hget : (done ++ (mid ++ c :: (todo ++ '\x00' :: rest)))[done.length + mid.length]? =
          some c := by
        simp
      rcases step_started done mid (todo ++ '\x00' :: rest) c first last with ⟨mid₁, hlen₁, hstep⟩
      rcases ih (fun hmem => h (List.mem_cons_of_mem c hmem)) (done ++ [c]) mid₁
        (if isspace c = true then last else some (done ++ [c]).length) with ⟨mid', hlen, hloop⟩
      refine ⟨mid', hlen.trans hlen₁, ?_⟩
      rw [List.length_cons, Nat.add_right_comm, trimLoop, List.cons_append]
      simp only [hget, if_neg hc, hstep, Option.bind_some, hloop]
      -- The last one is that of the rest, or else this one.
      have hdone : done ++ [c] ++ todo = done ++ c :: todo := by simp
      rw [rdropWhile_cons, List.all_cons, hdone]
      by_cases hall : todo.all isspace = true
      · have hnil := rdropWhile_nil_iff.mpr hall
        rw [hnil]
        by_cases hspace : isspace c = true <;> simp [hspace, hall]
      · by_cases hspace : isspace c = true <;>
          simp [hspace, hall, Nat.add_assoc, Nat.add_comm 1]

/-! ## The function -/

/-- A string of spaces stays as it is. -/
theorem trimInPlace_spaces {s : List Char} (h : ∀ c ∈ s, isspace c = true) (rest : List Char) :
    trimInPlace (s ++ '\x00' :: rest) = some (s ++ '\x00' :: rest) := by
  have hlead := trimLoop_leading h [] ('\x00' :: rest) (rest.length + 1)
  rw [List.nil_append] at hlead
  rw [trimInPlace, List.length_append, List.length_cons, List.length_nil] at *
  rw [hlead]
  simp [trimLoop]

/-- The first character that is no space is remembered. -/
theorem step_first {c : Char} (h : isspace c = false) (s : Trim)
    (hfirst : s.first_nonspace = none) :
    s.step c = Trim.step { s with first_nonspace := some s.scan_ptr } c := by
  simp [Trim.step, h, hfirst]

/-- The end of the string is set. What was behind the text moves into the rest. -/
theorem put_end (text behind rest : List Char) :
    ∃ tail, tail.length = behind.length ∧
      put (text ++ (behind ++ '\x00' :: rest)) text.length '\x00' =
        some (text ++ '\x00' :: (tail ++ rest)) := by
  cases behind with
  | nil => exact ⟨[], rfl, put_append text _ rest _⟩
  | cons c behind =>
      refine ⟨behind ++ ['\x00'], by simp, ?_⟩
      have hput := put_append text c (behind ++ '\x00' :: rest) '\x00'
      rw [List.cons_append, hput, List.append_assoc, List.singleton_append]

/-- The loop when the text, `c :: todo`, is behind the spaces `lead`. -/
theorem trimLoop_eq {lead todo : List Char} {c : Char} (hlead : ∀ d ∈ lead, isspace d = true)
    (hc : isspace c = false) (hnul : '\x00' ∉ c :: todo) (rest : List Char) :
    ∃ mid, mid.length = lead.length ∧
      trimLoop (lead.length + ((c :: todo).length + (rest.length + 1)))
        ⟨lead ++ (c :: todo ++ '\x00' :: rest), 0, 0, none, none⟩ =
      some ⟨c :: todo ++ (mid ++ '\x00' :: rest), (c :: todo).length + mid.length,
        (c :: todo).length, some lead.length,
        some ((c :: todo).rdropWhile isspace).length⟩ := by
  have hne : c ≠ '\x00' := fun heq => hnul (heq ▸ List.mem_cons_self)
  have hskip := trimLoop_leading hlead [] (c :: todo ++ '\x00' :: rest)
    ((c :: todo).length + (rest.length + 1))
  rw [List.nil_append, List.length_nil, Nat.zero_add] at hskip
  -- With the pointer set or not, the loop goes on with this character.
  have hfirst : trimLoop ((c :: todo).length + (rest.length + 1))
      ⟨lead ++ (c :: todo ++ '\x00' :: rest), lead.length, 0, none, none⟩ =
      trimLoop ((c :: todo).length + (rest.length + 1))
      ⟨lead ++ (c :: todo ++ '\x00' :: rest), lead.length, 0, some lead.length, none⟩ := by
    rw [List.length_cons, Nat.add_right_comm, trimLoop, trimLoop]
    simp only [List.cons_append, List.getElem?_append_right (Nat.le_refl _), Nat.sub_self,
      List.getElem?_cons_zero, if_neg hne]
    rw [step_first hc _ rfl]
  rcases trimLoop_started hnul [] lead rest lead.length none rest.length with ⟨mid, hlen, hloop⟩
  have hlast : ¬(c :: todo).all isspace = true := by simp [hc]
  rw [List.nil_append, List.nil_append, if_neg hlast, List.length_nil, Nat.zero_add,
    Nat.zero_add] at hloop
  exact ⟨mid, hlen, by rw [hskip, hfirst, hloop]⟩

/-- What is in the buffer of a string with another character: the text without
    its spaces, and what is behind the string. -/
theorem trimInPlace_eq {s : List Char} (h : '\x00' ∉ s) (hsome : ∃ c ∈ s, isspace c = false)
    (rest : List Char) :
    ∃ tail, (trimmed s).length + tail.length = s.length ∧
      trimInPlace (s ++ '\x00' :: rest) = some (trimmed s ++ '\x00' :: (tail ++ rest)) := by
  have hsplit := List.takeWhile_append_dropWhile (p := isspace) (l := s)
  have hlead : ∀ d ∈ s.takeWhile isspace, isspace d = true := fun d => List.mem_takeWhile_imp
  generalize s.takeWhile isspace = lead at hsplit hlead
  cases hdrop : s.dropWhile isspace with
  -- There is something behind the spaces.
  | nil =>
      rcases hsome with ⟨c, hmem, hc⟩
      rw [List.dropWhile_eq_nil_iff.mp hdrop c hmem] at hc
      cases hc
  | cons c todo =>
      have hc : isspace c = false := by
        have hhead := List.head_dropWhile_not isspace (l := s) (by simp [hdrop])
        simpa [hdrop] using hhead
      rw [hdrop] at hsplit
      subst hsplit
      have hnul : '\x00' ∉ c :: todo := fun hmem => h (List.mem_append_right lead hmem)
      rcases trimLoop_eq hlead hc hnul rest with ⟨mid, hlen, hloop⟩
      have hparts := List.rdropWhile_append_rtakeWhile (p := isspace) (l := c :: todo)
      rcases put_end ((c :: todo).rdropWhile isspace) ((c :: todo).rtakeWhile isspace ++ mid)
        rest with ⟨tail, htail, hput⟩
      -- The spaces at both ends are as many as what is behind the text.
      refine ⟨tail, ?_, ?_⟩
      · have hcount := congrArg List.length hparts
        rw [List.length_append] at hcount
        rw [trimmed, hdrop, htail, List.length_append, List.length_append]
        omega
      · have hsize : (lead ++ c :: todo ++ '\x00' :: rest).length =
            lead.length + ((c :: todo).length + (rest.length + 1)) := by
          rw [List.length_append, List.length_append, Nat.add_assoc]
          rfl
        rw [List.append_assoc, ← List.append_assoc, hparts] at hput
        rw [trimInPlace, hsize, List.append_assoc, hloop, trimmed, hdrop]
        exact hput

theorem trimmed_of_spaces {s : List Char} (h : ∀ c ∈ s, isspace c = true) : trimmed s = [] := by
  rw [trimmed, List.dropWhile_eq_nil_iff.mpr h]
  rfl

theorem nul_not_mem_trimmed {s : List Char} (h : '\x00' ∉ s) : '\x00' ∉ trimmed s := fun hmem =>
  h ((List.dropWhile_suffix isspace).subset ((List.rdropWhile_prefix isspace _).subset hmem))

/-- Either there are only spaces or there is something else. -/
theorem spaces_or (s : List Char) :
    (∀ c ∈ s, isspace c = true) ∨ ∃ c ∈ s, isspace c = false := by
  by_cases h : ∃ c ∈ s, isspace c = false
  · exact Or.inr h
  · left
    intro c hc
    by_cases hspace : isspace c = true
    · exact hspace
    · exact absurd ⟨c, hc, Bool.not_eq_true _ ▸ hspace⟩ h

/-- The string that is left is the one that the parser of the lines has. -/
theorem trimInPlace_text {s : List Char} (h : '\x00' ∉ s) (rest : List Char) :
    (trimInPlace (s ++ '\x00' :: rest)).bind (string '\x00') = some (trimSpace s) := by
  rcases spaces_or s with hspaces | hsome
  · rw [trimInPlace_spaces hspaces, Option.bind_some, string_append_cons h, trimSpace,
      if_pos (List.all_eq_true.mpr hspaces)]
  · rcases trimInPlace_eq h hsome rest with ⟨tail, -, hout⟩
    have hall : ¬s.all isspace = true := by
      rcases hsome with ⟨c, hc, hspace⟩
      intro hall
      rw [List.all_eq_true.mp hall c hc] at hspace
      cases hspace
    rw [hout, Option.bind_some, string_append_cons (nul_not_mem_trimmed h), trimSpace,
      if_neg hall]
    rfl

/-- A second call finds nothing to do. -/
theorem trimInPlace_again {s rest buf : List Char} (h : '\x00' ∉ s)
    (hout : trimInPlace (s ++ '\x00' :: rest) = some buf) : trimInPlace buf = some buf := by
  rcases spaces_or s with hspaces | hsome
  · rw [trimInPlace_spaces hspaces, Option.some.injEq] at hout
    subst hout
    exact trimInPlace_spaces hspaces rest
  · rcases trimInPlace_eq h hsome rest with ⟨tail, -, heq⟩
    rw [heq, Option.some.injEq] at hout
    subst hout
    rcases spaces_or (trimmed s) with hspaces' | hsome'
    · exact trimInPlace_spaces hspaces' _
    · rcases trimInPlace_eq (nul_not_mem_trimmed h) hsome' (tail ++ rest) with
        ⟨tail', hlen, hagain⟩
      -- Nothing is cut off, so there is no place for a tail.
      rw [trimmed_trimmed] at hlen hagain
      have hnil : tail' = [] := List.length_eq_zero_iff.mp (by omega)
      rw [hagain, hnil, List.nil_append]

/-- The function removes the spaces of every string but one of spaces. Such a
    string has no last character that is copied, and the end is not set. -/
theorem trimsTo_iff {s : List Char} (h : '\x00' ∉ s) (rest : List Char) :
    TrimsTo s rest (trimInPlace (s ++ '\x00' :: rest)) ↔ s = [] ∨ ∃ c ∈ s, isspace c = false := by
  constructor
  · rintro ⟨buf, hout, htext, -⟩
    rcases spaces_or s with hspaces | hsome
    · left
      rw [trimInPlace_spaces hspaces, Option.some.injEq] at hout
      rw [← hout, string_append_cons h, trimmed_of_spaces hspaces, Option.some.injEq] at htext
      exact htext
    · exact Or.inr hsome
  · rintro (rfl | hsome)
    · have hout := trimInPlace_spaces (s := []) (by simp) rest
      exact ⟨_, hout, string_append_cons h rest, by simp [Nat.add_comm], rfl, hout⟩
    · rcases trimInPlace_eq h hsome rest with ⟨tail, hlen, hout⟩
      refine ⟨_, hout, string_append_cons (nul_not_mem_trimmed h) _, ?_, ?_,
        trimInPlace_again h hout⟩
      · rw [List.length_append, List.length_cons, List.length_append]
        omega
      -- The rest is behind as many characters as the string has taken.
      · have hfront : s.length + 1 = (trimmed s ++ '\x00' :: tail).length := by
          rw [List.length_append, List.length_cons]
          omega
        rw [hfront, ← List.cons_append, ← List.append_assoc, List.drop_left]

theorem trimsTo_sample :
    TrimsTo [' ', 'A', ' ', 'B', ' '] [] (trimInPlace [' ', 'A', ' ', 'B', ' ', '\x00']) :=
  (trimsTo_iff (s := [' ', 'A', ' ', 'B', ' ']) (by simp) []).mpr (Or.inr ⟨'A', by simp, rfl⟩)

theorem blank_trimsTo_not : ¬TrimsTo [' '] [] (trimInPlace [' ', '\x00']) := by
  rintro ⟨buf, hout, htext, -⟩
  have hspaces := trimInPlace_spaces (s := [' ']) (List.forall_mem_singleton.mpr rfl) []
  rw [List.singleton_append] at hspaces
  rw [hspaces, Option.some.injEq] at hout
  subst hout
  exact absurd htext (by decide)

end Victara
