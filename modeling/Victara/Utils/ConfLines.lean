import Mathlib.Data.List.TakeWhile
import Victara.Utils.LocCfg

/-!
# Long Lines of Configuration Files

A line of a configuration file goes up to its newline. `loc_read_conf` reads it
in pieces of 79 characters, and takes every piece for a line. The end of a long
comment may so define a parameter.

What a file does to every table of parameters is decided by the last definition
of each set of names: a later one overwrites the variable, and no definition
clears a validity bit. So the pieces do what the lines do if and only if their
last definitions agree. That compares two results of reading the file. A file is
not judged by it, but by its text: a line with an `=` has to fit into one piece,
and neither its name nor its value may be empty, because `strtok_r` skips every
`=` in front of a token. Lines without an `=` are comments and may be of any
length, for no piece of them says anything.

A file may break this and still be read well, for example if a later line
defines the same name again. What cannot be undone is a definition behind a cut
in a file of one line: the piece defines the name, and the line defines a longer
one, of which the text in front is a part.

## Main definitions

* `ValidName`: A name for which a table has room.
* `logicalLines`, `lineValue`, `lineValues`: The lines, and what they say.
* `LocParamV.ofTexts`: What two texts say, for the name and for the value.
* `pieceValues`: What the pieces say.
* `ReadsLines`: The file has the effect of its lines.
* `lastOf`: The last definition of one of some names.
* `SameDefinitions`: The pieces and the lines have the same ones.
* `namesOf`: The names of a variable in a table.
* `namesOfBit`: The names of a validity bit in a table.
* `oneVariable`: A table with one variable, under all of the names.
* `PlainLine`, `PlainFile`: Nothing is cut and no operand is empty.
* `Hidden`: A definition behind a cut.
* `definition`: A definition as a line has it.
* `commentFile`: A comment of one line.

## Theorems

* `mem_names_iff`: The names of some entries, as texts.
* `mem_namesOf_iff`, `mem_namesOfBit_iff`: The entries that a name stands for.
* `foldl_value`, `foldl_valid`: What definitions leave in a variable.
* `validName_filter`: The names that are looked for are those of entries.
* `readsLines_iff`: When a file has the effect of its lines.
* `fgetsLines_newline`: A piece ends at a newline.
* `confLines_flatMap`: No piece has characters of two lines.
* `confLines_eq`: Each piece is one of a single line.
* `fgetsLines_of_fits`: A line in which a newline is at most the last character,
  and for which there is room, is a piece.
* `logicalLines_shape`: A line has a newline at most at its end.
* `strtokR_of_plain`: A token with no `=` in front of it.
* `parseLine_eq`: What a piece says is made of two tokens.
* `parseLine_of_plain`: Of a plain line the two tokens are the two operands.
* `readsLines_of_lines`: A file whose lines say what their pieces say, one by
  one, has the effect of its lines.
* `mem_fgetsLines`: The characters of a piece are those of the line.
* `parseLine_of_no_equals`: A piece without an `=` says nothing.
* `readsLines_of_plain`: A plain file has the effect of its lines.
* `fgetsLines_append`: A text that fills its pieces ends at a cut.
* `lineValue_definition`: Two operands with an `=` between them, of a line or of
  a piece.
* `logicalLines_newline_end`: A line is what comes up to the first newline.
* `trimSpace_append_word`: Nothing is trimmed behind a word, and what is in
  front of it loses its leading spaces only.
* `trimSpace_append_ne`: A text that is not blank stays in front of a word.
* `Hidden.pieceValues_eq`: The pieces of the text in front say nothing, and the
  piece behind them is the definition.
* `Hidden.lineValues_eq`: The line defines what begins with the text in front.
* `cut_readsLines_not`: A definition behind a cut is taken for one.
-/

namespace Victara

variable {ν F : Type} [DecidableEq ν]

/-! ## The lines -/

def LOC_MAX_PARAM_NAME : Nat := 48

/-- A name that there is room for in a table. -/
def ValidName (param_name : String) : Prop :=
  param_name.toList.length < LOC_MAX_PARAM_NAME ∧ '\x00' ∉ param_name.toList

/-- The lines of a file, each up to its newline and with it. -/
def logicalLines : List Char → List Char → List (List Char)
  | [], [] => []
  | line, [] => [line]
  | line, c :: s =>
      if c = '\n' then (line ++ [c]) :: logicalLines [] s else logicalLines (line ++ [c]) s

/-- What two texts say, for the name and for the value. -/
def LocParamV.ofTexts (libc : Libc F) (param_name param_str_value : List Char) : LocParamV F :=
  let param_str_value := trimSpace param_str_value
  { param_name := trimSpace param_name
    param_str_value := param_str_value
    param_int_value :=
      if isHex param_str_value then strtoi libc.LONG_MAX (param_str_value.drop 2) 16
      else strtoi libc.LONG_MAX param_str_value 10
    param_double_value := if isHex param_str_value then libc.zero else libc.atof param_str_value }

/-- What a line says: the name is before the first `=`, and the value goes up to
    the next one. A line without two operands says nothing. -/
def lineValue (libc : Libc F) (line : List Char) : Option (LocParamV F) :=
  let text := line.takeWhile (· ≠ '\x00')
  let param_name := text.takeWhile (· ≠ '=')
  let param_str_value := ((text.dropWhile (· ≠ '=')).drop 1).takeWhile (· ≠ '=')
  if param_name = [] ∨ param_str_value = [] then none
  else some (LocParamV.ofTexts libc param_name param_str_value)

/-- What the lines of a file say, one after the other. -/
def lineValues (libc : Libc F) (file : List Char) : List (LocParamV F) :=
  (logicalLines [] file).filterMap (lineValue libc)

/-- What `loc_read_conf` finds in the pieces of a file. -/
def pieceValues (libc : Libc F) (file : List Char) : List (LocParamV F) :=
  (confLines file).filterMap (parseLine libc)

/-- The file does to every table what its lines do. The lines are those of the
    file, up to their newlines, and what a line says is what
    `loc_set_config_entry` would make of it if it came in one piece. -/
def ReadsLines (libc : Libc F) (file : List Char) : Prop :=
  ∀ (ν : Type) [DecidableEq ν] (config_table : List (LocParam ν)) (conf : Conf ν F),
    (∀ e ∈ config_table, ValidName e.param_name) →
    locReadConf libc config_table conf (some file) =
      (lineValues libc file).foldl (setEntries config_table) (clearValid config_table conf)

/-! ## What definitions leave in a variable -/

/-- The last definition of one of the names, as a parameter of the type has
    it. -/
def lastOf (names : List String) (t : ParamType) (vs : List (LocParamV F)) :
    Option (ParamValue F) :=
  ((vs.filter fun v => v.param_name ∈ names.map String.toList).getLast?).map fun v => v.value t

/-- For every set of names the last definition in the pieces and the last one in
    the lines say the same. -/
def SameDefinitions (libc : Libc F) (file : List Char) : Prop :=
  ∀ names : List String, (∀ name ∈ names, ValidName name) → ∀ t : ParamType,
    lastOf names t (pieceValues libc file) = lastOf names t (lineValues libc file)

/-- The names with which the table has the variable. -/
def namesOf (config_table : List (LocParam ν)) (t : ParamType) (x : ν) : List String :=
  (config_table.filter fun e => e.param_type = t ∧ e.param_ptr = some x).map LocParam.param_name

/-- The names with which it has the validity bit. -/
def namesOfBit (config_table : List (LocParam ν)) (x : ν) : List String :=
  (config_table.filter fun e => e.param_ptr ≠ none ∧ e.param_set = some x).map LocParam.param_name

variable {config_table : List (LocParam ν)}

omit [DecidableEq ν] in
theorem Conf.eq_of_values {conf conf' : Conf ν F}
    (hvalue : ∀ x t, conf.value x t = conf'.value x t)
    (hvalid : ∀ x, conf.valid x = conf'.valid x) : conf = conf' := by
  cases conf with
  | mk ints doubles strs valid =>
      cases conf' with
      | mk ints' doubles' strs' valid' =>
          have hints : ints = ints' := funext fun x => ParamValue.n.inj (hvalue x .n)
          have hdoubles : doubles = doubles' := funext fun x => ParamValue.f.inj (hvalue x .f)
          have hstrs : strs = strs' := funext fun x => ParamValue.s.inj (hvalue x .s)
          have hbits : valid = valid' := funext hvalid
          rw [hints, hdoubles, hstrs, hbits]

omit [DecidableEq ν] in
/-- The names of some entries, as texts. -/
theorem mem_names_iff (p : LocParam ν → Bool) (name : List Char) :
    name ∈ ((config_table.filter p).map LocParam.param_name).map String.toList ↔
      ∃ e ∈ config_table, p e = true ∧ e.param_name.toList = name := by
  simp only [List.mem_map, List.mem_filter]
  constructor
  · rintro ⟨_, ⟨e, ⟨he, hp⟩, rfl⟩, hname⟩
    exact ⟨e, he, hp, hname⟩
  · rintro ⟨e, he, hp, hname⟩
    exact ⟨e.param_name, ⟨e, ⟨he, hp⟩, rfl⟩, hname⟩

theorem mem_namesOf_iff (v : LocParamV F) (x : ν) (t : ParamType) :
    v.param_name ∈ (namesOf config_table t x).map String.toList ↔
      ∃ e ∈ config_table, e.Hit v ∧ e.param_type = t ∧ e.param_ptr = some x := by
  rw [namesOf, mem_names_iff]
  refine exists_congr fun e => and_congr_right fun _ => ?_
  rw [decide_eq_true_eq, LocParam.Hit]
  constructor
  · rintro ⟨⟨htype, hptr⟩, hname⟩
    exact ⟨⟨hname, by rw [hptr]; exact Option.some_ne_none x⟩, htype, hptr⟩
  · rintro ⟨⟨hname, -⟩, htype, hptr⟩
    exact ⟨⟨htype, hptr⟩, hname⟩

theorem mem_namesOfBit_iff (v : LocParamV F) (x : ν) :
    v.param_name ∈ (namesOfBit config_table x).map String.toList ↔
      ∃ e ∈ config_table, e.Hit v ∧ e.param_set = some x := by
  rw [namesOfBit, mem_names_iff]
  refine exists_congr fun e => and_congr_right fun _ => ?_
  rw [decide_eq_true_eq, LocParam.Hit]
  constructor
  · rintro ⟨⟨hptr, hset⟩, hname⟩
    exact ⟨⟨hname, hptr⟩, hset⟩
  · rintro ⟨⟨hname, hptr⟩, hset⟩
    exact ⟨⟨hptr, hset⟩, hname⟩

theorem lastOf_cons (names : List String) (t : ParamType) (v : LocParamV F)
    (vs : List (LocParamV F)) :
    lastOf names t (v :: vs) =
      (lastOf names t vs).or
        (if v.param_name ∈ names.map String.toList then some (v.value t) else none) := by
  by_cases hname : v.param_name ∈ names.map String.toList
  · rw [lastOf, List.filter_cons_of_pos (by simpa using hname), List.getLast?_cons,
      if_pos hname, lastOf]
    cases (vs.filter fun v => v.param_name ∈ names.map String.toList).getLast? <;> rfl
  · rw [lastOf, List.filter_cons_of_neg (by simpa using hname), if_neg hname, Option.or_none]
    rfl

/-- The last definition counts. -/
theorem foldl_value (conf : Conf ν F) (vs : List (LocParamV F)) (x : ν) (t : ParamType) :
    (vs.foldl (setEntries config_table) conf).value x t =
      (lastOf (namesOf config_table t x) t vs).getD (conf.value x t) := by
  induction vs generalizing conf with
  | nil => rfl
  | cons v vs ih =>
      rw [List.foldl_cons, ih, setEntries_value, lastOf_cons]
      simp only [← mem_namesOf_iff]
      -- A later definition has overwritten this one, if there is one.
      cases lastOf (namesOf config_table t x) t vs with
      | some value => rfl
      | none =>
          by_cases hname : v.param_name ∈ (namesOf config_table t x).map String.toList
          · rw [if_pos hname, if_pos hname]
            rfl
          · rw [if_neg hname, if_neg hname]
            rfl

/-- A validity bit tells if there is a definition. -/
theorem foldl_valid (conf : Conf ν F) (vs : List (LocParamV F)) (x : ν) (t : ParamType) :
    (vs.foldl (setEntries config_table) conf).valid x =
      (conf.valid x || (lastOf (namesOfBit config_table x) t vs).isSome) := by
  induction vs generalizing conf with
  | nil => exact (Bool.or_false _).symm
  | cons v vs ih =>
      rw [List.foldl_cons, ih, lastOf_cons, Option.isSome_or]
      have hbit : (setEntries config_table conf v).valid x = true ↔ conf.valid x = true ∨
          v.param_name ∈ (namesOfBit config_table x).map String.toList := by
        rw [setEntries_valid, mem_namesOfBit_iff]
      by_cases hname : v.param_name ∈ (namesOfBit config_table x).map String.toList
      · rw [hbit.mpr (Or.inr hname), if_pos hname]
        simp
      · rw [if_neg hname, Option.isSome_none, Bool.or_false]
        have hsame : (setEntries config_table conf v).valid x = conf.valid x :=
          Bool.eq_iff_iff.mpr (hbit.trans ⟨fun h => h.resolve_right hname, Or.inl⟩)
        rw [hsame]

/-! ## When the pieces do what the lines do -/

/-- A table with one variable, under all of the names. -/
def oneVariable (names : List String) (t : ParamType) : List (LocParam Unit) :=
  names.map fun name => ⟨name, some (), some (), t⟩

theorem namesOf_oneVariable (names : List String) (t : ParamType) :
    namesOf (oneVariable names t) t () = names := by
  simp [namesOf, oneVariable, List.filter_map, Function.comp_def]

theorem namesOfBit_oneVariable (names : List String) (t : ParamType) :
    namesOfBit (oneVariable names t) () = names := by
  simp [namesOfBit, oneVariable, List.filter_map, Function.comp_def]

theorem lastOf_nil (t : ParamType) (vs : List (LocParamV F)) : lastOf [] t vs = none := by
  simp [lastOf]

theorem locReadConf_eq (libc : Libc F) (config_table : List (LocParam ν)) (conf : Conf ν F)
    (file : List Char) :
    locReadConf libc config_table conf (some file) =
      (pieceValues libc file).foldl (setEntries config_table) (clearValid config_table conf) :=
  rfl

theorem eq_of_isSome_getD {α : Type} {o o' : Option α} {a : α} (hsome : o.isSome = o'.isSome)
    (h : o.getD a = o'.getD a) : o = o' := by
  cases o with
  | none =>
      cases o' with
      | none => rfl
      | some b => cases hsome
  | some b =>
      cases o' with
      | none => cases hsome
      | some b' => exact congrArg some h

omit [DecidableEq ν] in
/-- The names that are looked for are those of entries. -/
theorem validName_filter (h : ∀ e ∈ config_table, ValidName e.param_name)
    (p : LocParam ν → Bool) :
    ∀ name ∈ (config_table.filter p).map LocParam.param_name, ValidName name := by
  intro name hname
  rcases List.mem_map.mp hname with ⟨e, he, rfl⟩
  exact h e (List.mem_of_mem_filter he)

/-- A file has the effect of its lines if and only if the last definitions are
    the same. -/
theorem readsLines_iff (libc : Libc F) (file : List Char) :
    ReadsLines libc file ↔ SameDefinitions libc file := by
  constructor
  · intro hreads names hnames t
    cases names with
    | nil => rw [lastOf_nil, lastOf_nil]
    | cons name names =>
        have hvalid : ∀ e ∈ oneVariable (name :: names) t, ValidName e.param_name := by
          intro e he
          rcases List.mem_map.mp he with ⟨n, hn, rfl⟩
          exact hnames n hn
        let conf : Conf Unit F := ⟨fun _ => 0, fun _ => libc.zero, fun _ => [], fun _ => false⟩
        have heq := hreads Unit (oneVariable (name :: names) t) conf hvalid
        have hclear : (clearValid (oneVariable (name :: names) t) conf).valid () = false :=
          clearValid_valid List.mem_cons_self rfl conf
        -- The bit tells if there is a definition, the variable what it says.
        have hbit := congrArg (fun conf : Conf Unit F => conf.valid ()) heq
        have hvalue := congrArg (fun conf : Conf Unit F => conf.value () t) heq
        simp only [locReadConf_eq, foldl_valid _ _ _ t, foldl_value, namesOf_oneVariable,
          namesOfBit_oneVariable, hclear, Bool.false_or] at hbit hvalue
        exact eq_of_isSome_getD hbit hvalue
  · intro hsame ν _ config_table conf hvalid
    rw [locReadConf_eq]
    refine Conf.eq_of_values ?_ ?_
    · intro x t
      rw [foldl_value, foldl_value,
        hsame (namesOf config_table t x) (validName_filter hvalid _) t]
    · intro x
      rw [foldl_valid _ _ _ .n, foldl_valid _ _ _ .n,
        hsame (namesOfBit config_table x) (validName_filter hvalid _) .n]

/-! ## Short lines -/

theorem logicalLines_newline (line s : List Char) :
    logicalLines line ('\n' :: s) = (line ++ ['\n']) :: logicalLines [] s := by
  rw [logicalLines, if_pos rfl]

theorem logicalLines_cons {c : Char} (h : c ≠ '\n') (line s : List Char) :
    logicalLines line (c :: s) = logicalLines (line ++ [c]) s := by
  rw [logicalLines, if_neg h]

/-- A piece ends at a newline. -/
theorem fgetsLines_newline (n : Nat) (piece line s : List Char) :
    fgetsLines n piece (line ++ '\n' :: s) =
      fgetsLines n piece (line ++ ['\n']) ++ fgetsLines n [] s := by
  induction line generalizing piece with
  | nil => simp [fgetsLines]
  | cons c line ih =>
      rw [List.cons_append, List.cons_append, fgetsLines, fgetsLines]
      by_cases hend : c = '\n' ∨ piece.length + 1 = n
      · rw [if_pos hend, if_pos hend, ih, List.cons_append]
      · rw [if_neg hend, if_neg hend, ih]

/-- No piece has characters of two lines. -/
theorem confLines_flatMap (n : Nat) (line s : List Char) :
    fgetsLines n [] (line ++ s) = (logicalLines line s).flatMap (fgetsLines n []) := by
  induction s generalizing line with
  | nil =>
      cases line with
      | nil => rfl
      | cons c line => simp [logicalLines]
  | cons c s ih =>
      by_cases hc : c = '\n'
      -- The pieces of this line end here, and the next line begins with an empty buffer.
      · have hrest := ih []
        rw [List.nil_append] at hrest
        rw [hc, logicalLines_newline, fgetsLines_newline, hrest]
        rfl
      · have hrest := ih (line ++ [c])
        rw [List.append_assoc, List.singleton_append] at hrest
        rw [logicalLines_cons hc, hrest]

theorem confLines_eq (file : List Char) :
    confLines file = (logicalLines [] file).flatMap confLines :=
  confLines_flatMap (LOC_MAX_PARAM_LINE - 1) [] file

/-- A line in which a newline is at most the last character, and for which there
    is room, is a piece. -/
theorem fgetsLines_of_fits {n : Nat} {piece line : List Char} (hline : line ≠ [])
    (hnewline : '\n' ∉ line.dropLast) (hfits : piece.length + line.length ≤ n) :
    fgetsLines n piece line = [piece ++ line] := by
  induction line generalizing piece with
  | nil => exact absurd rfl hline
  | cons c line ih =>
      rw [fgetsLines]
      cases line with
      | nil => by_cases hend : c = '\n' ∨ piece.length + 1 = n <;> simp [hend, fgetsLines]
      | cons d line =>
          rw [List.dropLast_cons_of_ne_nil (List.cons_ne_nil d line)] at hnewline
          -- There is a character behind this one, and room for it.
          have hend : ¬(c = '\n' ∨ piece.length + 1 = n) := by
            rw [List.length_cons, List.length_cons] at hfits
            rintro (hc | hn)
            · exact hnewline (hc ▸ List.mem_cons_self)
            · omega
          have hrest : fgetsLines n (piece ++ [c]) (d :: line) = [piece ++ [c] ++ d :: line] :=
            ih (List.cons_ne_nil d line) (fun hmem => hnewline (List.mem_cons_of_mem c hmem))
              (by simpa [Nat.add_assoc, Nat.add_comm 1] using hfits)
          rw [if_neg hend, hrest, List.append_assoc, List.singleton_append]

/-- A line has a newline at most at its end. -/
theorem logicalLines_shape {line : List Char} (hline : '\n' ∉ line) (s : List Char) :
    ∀ l ∈ logicalLines line s, l ≠ [] ∧ '\n' ∉ l.dropLast := by
  induction s generalizing line with
  | nil =>
      cases line with
      | nil => simp [logicalLines]
      | cons c line =>
          intro l hl
          rw [logicalLines, List.mem_singleton] at hl
          · subst hl
            exact ⟨List.cons_ne_nil c line, fun hmem => hline (List.dropLast_subset _ hmem)⟩
          · rintro ⟨⟩
  | cons c s ih =>
      by_cases hc : c = '\n'
      · rw [hc, logicalLines_newline]
        intro l hl
        rcases List.mem_cons.mp hl with rfl | hl
        · exact ⟨by simp, by simpa using hline⟩
        · exact ih (by simp) l hl
      · rw [logicalLines_cons hc]
        refine ih ?_
        rw [List.mem_append, List.mem_singleton]
        rintro (h | h)
        · exact hline h
        · exact hc h.symm

/-- The text of a line does not begin with `=`, and neither does what is behind
    the first one. -/
def PlainLine (line : List Char) : Prop :=
  let text := line.takeWhile (· ≠ '\x00')
  text.head? ≠ some '=' ∧ ((text.dropWhile (· ≠ '=')).drop 1).head? ≠ some '='

/-- A token where there is none to skip. -/
theorem strtokR_of_plain {c : Char} (h : c ≠ '=') (s : List Char) :
    strtokR (c :: s) =
      some ((c :: s).takeWhile (· ≠ '='), ((c :: s).dropWhile (· ≠ '=')).drop 1) := by
  rw [strtokR, List.dropWhile_cons_of_neg (by simpa using h)]

/-- What a piece says is made of two tokens. -/
theorem parseLine_eq (libc : Libc F) (line : List Char) :
    parseLine libc line = (strtokR (line.takeWhile (· ≠ '\x00'))).bind fun name =>
      (strtokR name.2).map fun value => LocParamV.ofTexts libc name.1 value.1 := by
  unfold parseLine
  cases strtokR (line.takeWhile (· ≠ '\x00')) with
  | none => rfl
  | some name =>
      cases name with
      | mk param_name lasts =>
          cases hvalue : strtokR lasts <;> simp [hvalue, LocParamV.ofTexts]

theorem parseLine_of_plain (libc : Libc F) {line : List Char} (h : PlainLine line) :
    parseLine libc line = lineValue libc line := by
  rcases h with ⟨hname, hvalue⟩
  -- No `=` is skipped in front of either token, so both are split off in the same way.
  rw [parseLine_eq, lineValue]
  generalize line.takeWhile (· ≠ '\x00') = text at hname hvalue
  cases text with
  | nil => rfl
  | cons c text =>
      have hc : c ≠ '=' := by simpa using hname
      have hfirst : (c :: text).takeWhile (· ≠ '=') ≠ [] := by
        rw [List.takeWhile_cons_of_pos (by simpa using hc)]
        exact List.cons_ne_nil _ _
      rw [strtokR_of_plain hc, Option.bind_some]
      generalize ((c :: text).dropWhile (· ≠ '=')).drop 1 = lasts at hvalue
      cases lasts with
      | nil => simp [strtokR]
      | cons d lasts =>
          have hd : d ≠ '=' := by simpa using hvalue
          have hsecond : (d :: lasts).takeWhile (· ≠ '=') ≠ [] := by
            rw [List.takeWhile_cons_of_pos (by simpa using hd)]
            exact List.cons_ne_nil _ _
          rw [strtokR_of_plain hd, Option.map_some, if_neg (not_or.mpr ⟨hfirst, hsecond⟩)]

/-- A file whose lines say what their pieces say, one by one, has the effect of
    its lines. -/
theorem readsLines_of_lines (libc : Libc F) {file : List Char}
    (h : ∀ line ∈ logicalLines [] file, pieceValues libc line = (lineValue libc line).toList) :
    ReadsLines libc file := by
  have hall : pieceValues libc file = lineValues libc file := by
    rw [pieceValues, confLines_eq, List.filterMap_flatMap, lineValues,
      List.filterMap_eq_flatMap_toList]
    exact List.flatMap_congr h
  intro ν _ config_table conf _
  rw [locReadConf_eq, hall]

/-- The characters of a piece are those of the line. -/
theorem mem_fgetsLines {n : Nat} {piece s l : List Char} (hl : l ∈ fgetsLines n piece s) :
    ∀ c ∈ l, c ∈ piece ∨ c ∈ s := by
  -- The piece read so far grows with each character, so it is part of the induction.
  induction s generalizing piece with
  | nil =>
      cases piece with
      | nil => simp [fgetsLines] at hl
      | cons d piece =>
          rw [fgetsLines, List.mem_singleton] at hl
          · rw [hl]
            exact fun c hc => Or.inl hc
          · rintro ⟨⟩
  | cons d s ih =>
      have hboth : ∀ c ∈ piece ++ [d], c ∈ piece ∨ c ∈ d :: s := by
        intro c hc
        rcases List.mem_append.mp hc with hpiece | hd
        · exact Or.inl hpiece
        · exact Or.inr (List.mem_singleton.mp hd ▸ List.mem_cons_self)
      intro c hc
      rw [fgetsLines] at hl
      by_cases hend : d = '\n' ∨ piece.length + 1 = n
      · rw [if_pos hend] at hl
        rcases List.mem_cons.mp hl with rfl | hl
        · exact hboth c hc
        · exact Or.inr (List.mem_cons_of_mem d ((ih hl c hc).resolve_left List.not_mem_nil))
      · rw [if_neg hend] at hl
        rcases ih hl c hc with hpiece | hs
        · exact hboth c hpiece
        · exact Or.inr (List.mem_cons_of_mem d hs)

theorem dropWhile_of_no_equals {text : List Char} (h : '=' ∉ text) :
    text.dropWhile (· ≠ '=') = [] := by
  rw [List.dropWhile_eq_nil_iff]
  intro c hc
  exact decide_eq_true fun heq => h (heq ▸ hc)

/-- Without an `=` there is nothing behind the name. -/
theorem parseLine_of_no_equals (libc : Libc F) {line : List Char} (h : '=' ∉ line) :
    parseLine libc line = none := by
  have htext : '=' ∉ line.takeWhile (· ≠ '\x00') := fun hmem =>
    h ((List.takeWhile_prefix _).subset hmem)
  rw [parseLine_eq]
  generalize line.takeWhile (· ≠ '\x00') = text at htext
  cases text with
  | nil => rfl
  | cons c text =>
      have hc : c ≠ '=' := fun heq => htext (heq ▸ List.mem_cons_self)
      rw [strtokR_of_plain hc, Option.bind_some, dropWhile_of_no_equals htext]
      rfl

theorem lineValue_of_no_equals (libc : Libc F) {line : List Char} (h : '=' ∉ line) :
    lineValue libc line = none := by
  have htext : '=' ∉ line.takeWhile (· ≠ '\x00') := fun hmem =>
    h ((List.takeWhile_prefix _).subset hmem)
  have hplain : PlainLine line := by
    constructor
    · exact fun hhead => htext (List.mem_of_head? hhead)
    · rw [dropWhile_of_no_equals htext]
      decide
  rw [← parseLine_of_plain libc hplain, parseLine_of_no_equals libc h]

/-- Every line with an `=` is short enough for one piece, and its name and its
    value are not empty. Lines without an `=` may be of any length. -/
def PlainFile (file : List Char) : Prop :=
  ∀ line ∈ logicalLines [] file, '=' ∈ line → line.length < LOC_MAX_PARAM_LINE ∧ PlainLine line

/-- A plain file has the effect of its lines. -/
theorem readsLines_of_plain (libc : Libc F) {file : List Char} (h : PlainFile file) :
    ReadsLines libc file := by
  refine readsLines_of_lines libc fun line hline => ?_
  by_cases hequals : '=' ∈ line
  · rcases h line hline hequals with ⟨hshort, hplain⟩
    have hshape := logicalLines_shape List.not_mem_nil file line hline
    have hpiece : confLines line = [line] :=
      fgetsLines_of_fits hshape.1 hshape.2 (by
        rw [List.length_nil, Nat.zero_add]
        exact Nat.le_sub_one_of_lt hshort)
    rw [pieceValues, hpiece, List.filterMap_cons, List.filterMap_nil,
      parseLine_of_plain libc hplain]
    cases lineValue libc line <;> rfl
  -- No piece has an `=` either.
  · rw [lineValue_of_no_equals libc hequals, Option.toList_none, pieceValues,
      List.filterMap_eq_nil_iff]
    intro piece hpiece
    refine parseLine_of_no_equals libc fun hmem => hequals ?_
    exact (mem_fgetsLines hpiece '=' hmem).resolve_left List.not_mem_nil

/-- A comment, a short definition, a line of spaces and a long line. -/
theorem readsLines_plain :
    ReadsLines wholeLibc ("# a comment\nA = 5\n   \n".toList ++ List.replicate 100 'x') :=
  readsLines_of_plain wholeLibc (by
    intro line hline
    have hlines : logicalLines [] ("# a comment\nA = 5\n   \n".toList ++ List.replicate 100 'x') =
        ["# a comment\n".toList, "A = 5\n".toList, "   \n".toList, List.replicate 100 'x'] := by
      decide +kernel
    rw [hlines] at hline
    simp only [List.mem_cons, List.not_mem_nil, or_false] at hline
    rcases hline with rfl | rfl | rfl | rfl
    · exact fun hmem => absurd hmem (by decide +kernel)
    · exact fun _ => ⟨by decide +kernel, by decide +kernel, by decide +kernel⟩
    · exact fun hmem => absurd hmem (by decide +kernel)
    · exact fun hmem => absurd (List.eq_of_mem_replicate hmem) (by decide))

/-! ## A definition behind a cut -/

/-- A text without a newline that is as long as some pieces fills them. -/
theorem fgetsLines_append {n : Nat} {piece x : List Char} (hx : '\n' ∉ x)
    (hpiece : piece.length < n) (hlen : n ∣ piece.length + x.length) (y : List Char) :
    fgetsLines n piece (x ++ y) = fgetsLines n piece x ++ fgetsLines n [] y := by
  induction x generalizing piece with
  | nil =>
      have hnil : piece = [] := List.eq_nil_of_length_eq_zero (Nat.eq_zero_of_dvd_of_lt hlen hpiece)
      rw [hnil]
      rfl
  | cons c x ih =>
      rw [List.mem_cons, not_or] at hx
      have hc : ¬ c = '\n' := fun h => hx.1 h.symm
      rw [List.cons_append, fgetsLines, fgetsLines]
      by_cases hend : piece.length + 1 = n
      · -- The piece is full.
        have hrest : n ∣ x.length := by
          rw [List.length_cons, Nat.add_comm x.length, ← Nat.add_assoc, hend] at hlen
          exact (Nat.dvd_add_right (Nat.dvd_refl n)).mp hlen
        rw [if_pos (Or.inr hend), if_pos (Or.inr hend), List.cons_append,
          ih hx.2 (by rw [List.length_nil]; omega) (by simpa using hrest)]
      · have hopen : ¬ (c = '\n' ∨ piece.length + 1 = n) := not_or.mpr ⟨hc, hend⟩
        rw [if_neg hopen, if_neg hopen]
        refine ih hx.2 ?_ ?_
        · rw [List.length_append, List.length_singleton]
          omega
        · rw [List.length_cons] at hlen
          rw [List.length_append, List.length_singleton]
          rwa [Nat.add_assoc, Nat.add_comm 1]

/-- A text that fills some pieces and is no more than one line, and behind it a
    definition of `name` that fits into the next piece. -/
structure Hidden (x : List Char) (name : String) (value : List Char) : Prop where
  full : LOC_MAX_PARAM_LINE - 1 ∣ x.length
  text : ∀ c ∈ x, c ≠ '=' ∧ c ≠ '\n' ∧ c ≠ '\x00'
  notBlank : ∃ c ∈ x, isspace c = false
  valid : ValidName name
  named : name.toList ≠ []
  word : ∀ c ∈ name.toList, c ≠ '=' ∧ isspace c = false
  operand : ∀ c ∈ value, c ≠ '=' ∧ c ≠ '\n' ∧ c ≠ '\x00'
  fits : name.toList.length + value.length + 2 < LOC_MAX_PARAM_LINE

/-- A definition as a line has it. -/
def definition (name value : List Char) : List Char := name ++ '=' :: (value ++ ['\n'])

/-- Two operands with an `=` between them, of a line or of a piece. -/
theorem lineValue_definition (libc : Libc F) {name value : List Char} (hname : name ≠ [])
    (hnames : ∀ c ∈ name, c ≠ '=' ∧ c ≠ '\x00') (hvalues : ∀ c ∈ value, c ≠ '=' ∧ c ≠ '\x00') :
    lineValue libc (definition name value) =
      some (LocParamV.ofTexts libc name (value ++ ['\n'])) := by
  have hnul : ∀ c ∈ definition name value, decide (c ≠ '\x00') = true := by
    intro c hc
    rw [decide_eq_true_eq]
    simp only [definition, List.mem_append, List.mem_cons, List.not_mem_nil, or_false] at hc
    rcases hc with hc | rfl | hc | rfl
    · exact (hnames c hc).2
    · decide
    · exact (hvalues c hc).2
    · decide
  have hbefore : ∀ c ∈ name, decide (c ≠ '=') = true := fun c hc => decide_eq_true (hnames c hc).1
  have hbehind : ∀ c ∈ value ++ ['\n'], decide (c ≠ '=') = true := by
    intro c hc
    rw [decide_eq_true_eq]
    rcases List.mem_append.mp hc with hc | hc
    · exact (hvalues c hc).1
    · rw [List.mem_singleton.mp hc]
      decide
  -- The name is what stands before the first `=`, the value what stands behind it.
  have htake : (definition name value).takeWhile (· ≠ '=') = name := by
    rw [definition, List.takeWhile_append_of_pos hbefore]
    simp
  have hdrop : ((definition name value).dropWhile (· ≠ '=')).drop 1 = value ++ ['\n'] := by
    rw [definition, List.dropWhile_append_of_pos hbefore]
    simp
  rw [lineValue, List.takeWhile_eq_self_iff.mpr hnul]
  simp only [htake, hdrop, List.takeWhile_eq_self_iff.mpr hbehind]
  rw [if_neg (by simp [hname])]

theorem definition_plain {name value : List Char} (hname : name ≠ [])
    (hnames : ∀ c ∈ name, c ≠ '=' ∧ c ≠ '\x00') (hvalues : ∀ c ∈ value, c ≠ '=' ∧ c ≠ '\x00') :
    PlainLine (definition name value) := by
  have hnul : '\x00' ∉ definition name value := by
    simp only [definition, List.mem_append, List.mem_cons, List.not_mem_nil, or_false, not_or]
    exact ⟨fun h => (hnames _ h).2 rfl, by decide, fun h => (hvalues _ h).2 rfl, by decide⟩
  have htext : (definition name value).takeWhile (· ≠ '\x00') = definition name value :=
    List.takeWhile_eq_self_iff.mpr fun c hc => decide_eq_true fun h => hnul (h ▸ hc)
  have hbefore : ∀ c ∈ name, decide (c ≠ '=') = true := fun c hc => decide_eq_true (hnames c hc).1
  have hdrop : ((definition name value).dropWhile (· ≠ '=')).drop 1 = value ++ ['\n'] := by
    rw [definition, List.dropWhile_append_of_pos hbefore]
    simp
  unfold PlainLine
  simp only [htext, hdrop]
  constructor
  · cases name with
    | nil => exact absurd rfl hname
    | cons c name =>
        intro hhead
        exact (hnames c List.mem_cons_self).1 (Option.some.inj hhead)
  · cases value with
    | nil => simp
    | cons c value =>
        intro hhead
        exact (hvalues c List.mem_cons_self).1 (Option.some.inj hhead)

/-- A line is what comes up to the first newline. -/
theorem logicalLines_newline_end {l : List Char} (hl : '\n' ∉ l) (line : List Char) :
    logicalLines line (l ++ ['\n']) = [line ++ l ++ ['\n']] := by
  induction l generalizing line with
  | nil => simp [logicalLines]
  | cons c l ih =>
      rw [List.mem_cons, not_or] at hl
      rw [List.cons_append, logicalLines_cons (Ne.symm hl.1), ih hl.2]
      simp

theorem dropWhile_isspace_of_word {s : List Char} (h : ∀ c ∈ s, isspace c = false) :
    s.dropWhile isspace = s := by
  cases s with
  | nil => rfl
  | cons c s => exact List.dropWhile_cons_of_neg (by simp [h c List.mem_cons_self])

theorem all_isspace_append_word (x : List Char) {word : List Char} (hne : word ≠ [])
    (hword : ∀ c ∈ word, isspace c = false) : (x ++ word).all isspace = false := by
  rcases List.exists_mem_of_ne_nil word hne with ⟨c, hc⟩
  rw [List.all_eq_false]
  exact ⟨c, List.mem_append_right x hc, by simp [hword c hc]⟩

/-- Nothing is trimmed behind a word, and what is in front of it loses its leading
    spaces only. -/
theorem trimSpace_append_word (x : List Char) {word : List Char} (hne : word ≠ [])
    (hword : ∀ c ∈ word, isspace c = false) :
    trimSpace (x ++ word) = x.dropWhile isspace ++ word := by
  have hfront : (x ++ word).dropWhile isspace = x.dropWhile isspace ++ word := by
    rw [List.dropWhile_append]
    by_cases hblank : (x.dropWhile isspace).isEmpty = true
    · rw [if_pos hblank, dropWhile_isspace_of_word hword, List.isEmpty_iff.mp hblank,
        List.nil_append]
    · rw [if_neg hblank]
  have hback : (word.reverse ++ (x.dropWhile isspace).reverse).dropWhile isspace =
      word.reverse ++ (x.dropWhile isspace).reverse := by
    rcases List.eq_nil_or_concat word with rfl | ⟨init, c, rfl⟩
    · exact absurd rfl hne
    · have hlast : isspace c = false := hword c (by simp)
      rw [List.concat_eq_append, List.reverse_append, List.reverse_singleton,
        List.singleton_append, List.cons_append]
      exact List.dropWhile_cons_of_neg (by simp [hlast])
  rw [trimSpace, all_isspace_append_word x hne hword, if_neg Bool.false_ne_true, hfront,
    List.reverse_append, hback, List.reverse_append, List.reverse_reverse, List.reverse_reverse]

/-- A text that is not blank stays in front of a word. -/
theorem trimSpace_append_ne {x word : List Char} (hx : ∃ c ∈ x, isspace c = false)
    (hne : word ≠ []) (hword : ∀ c ∈ word, isspace c = false) : trimSpace (x ++ word) ≠ word := by
  rw [trimSpace_append_word x hne hword]
  intro heq
  rcases hx with ⟨c, hc, hspace⟩
  have hblank := List.dropWhile_eq_nil_iff.mp (List.append_left_eq_self.mp heq) c hc
  rw [hspace] at hblank
  exact Bool.false_ne_true hblank

section Cut

variable {x value : List Char} {name : String}

/-- The pieces of the text in front say nothing, and the piece behind them is the
    definition. -/
theorem Hidden.pieceValues_eq (h : Hidden x name value) (libc : Libc F) :
    pieceValues libc (x ++ definition name.toList value) =
      [LocParamV.ofTexts libc name.toList (value ++ ['\n'])] := by
  have hnames : ∀ c ∈ name.toList, c ≠ '=' ∧ c ≠ '\x00' := fun c hc =>
    ⟨(h.word c hc).1, fun heq => h.valid.2 (heq ▸ hc)⟩
  have hvalues : ∀ c ∈ value, c ≠ '=' ∧ c ≠ '\x00' := fun c hc =>
    ⟨(h.operand c hc).1, (h.operand c hc).2.2⟩
  -- Nothing before the cut is a definition, for there is no `=` in it.
  have hfront : (fgetsLines (LOC_MAX_PARAM_LINE - 1) [] x).filterMap (parseLine libc) = [] := by
    rw [List.filterMap_eq_nil_iff]
    intro piece hpiece
    refine parseLine_of_no_equals libc fun hmem => ?_
    exact (h.text _ ((mem_fgetsLines hpiece '=' hmem).resolve_left List.not_mem_nil)).1 rfl
  -- The cut falls right before the definition, which fits into one piece.
  have hpiece : fgetsLines (LOC_MAX_PARAM_LINE - 1) [] (definition name.toList value) =
      [definition name.toList value] := by
    refine fgetsLines_of_fits (by simp [definition]) ?_ ?_
    · have hlast : (definition name.toList value).dropLast = name.toList ++ '=' :: value := by
        rw [definition, ← List.cons_append, ← List.append_assoc, List.dropLast_concat]
      rw [hlast, List.mem_append, List.mem_cons, not_or, not_or]
      refine ⟨fun hmem => ?_, by decide, fun hmem => (h.operand _ hmem).2.1 rfl⟩
      exact absurd (h.word _ hmem).2 (by decide)
    · have hfits := h.fits
      simp only [definition, List.length_nil, List.length_append, List.length_cons]
      omega
  rw [pieceValues, confLines, fgetsLines_append (fun hmem => (h.text _ hmem).2.1 rfl) (by decide)
    (by simpa using h.full), List.filterMap_append, hfront, hpiece, List.nil_append,
    List.filterMap_cons, List.filterMap_nil,
    parseLine_of_plain libc (definition_plain h.named hnames hvalues),
    lineValue_definition libc h.named hnames hvalues]

/-- The line defines what begins with the text in front. -/
theorem Hidden.lineValues_eq (h : Hidden x name value) (libc : Libc F) :
    lineValues libc (x ++ definition name.toList value) =
      [LocParamV.ofTexts libc (x ++ name.toList) (value ++ ['\n'])] := by
  have hnames : ∀ c ∈ x ++ name.toList, c ≠ '=' ∧ c ≠ '\x00' := by
    intro c hc
    rcases List.mem_append.mp hc with hc | hc
    · exact ⟨(h.text c hc).1, (h.text c hc).2.2⟩
    · exact ⟨(h.word c hc).1, fun heq => h.valid.2 (heq ▸ hc)⟩
  have hvalues : ∀ c ∈ value, c ≠ '=' ∧ c ≠ '\x00' := fun c hc =>
    ⟨(h.operand c hc).1, (h.operand c hc).2.2⟩
  have hnewline : '\n' ∉ x ++ name.toList ++ '=' :: value := by
    simp only [List.mem_append, List.mem_cons, not_or]
    refine ⟨⟨fun hmem => (h.text _ hmem).2.1 rfl, fun hmem => ?_⟩, by decide,
      fun hmem => (h.operand _ hmem).2.1 rfl⟩
    exact absurd (h.word _ hmem).2 (by decide)
  have hline : x ++ definition name.toList value = definition (x ++ name.toList) value := by
    rw [definition, definition, List.append_assoc]
  have hlines : logicalLines [] (definition (x ++ name.toList) value) =
      [definition (x ++ name.toList) value] := by
    have hend : definition (x ++ name.toList) value =
        (x ++ name.toList ++ '=' :: value) ++ ['\n'] := by
      simp [definition]
    rw [hend, logicalLines_newline_end hnewline, List.nil_append]
  rw [lineValues, hline, hlines, List.filterMap_cons, List.filterMap_nil,
    lineValue_definition libc (by simp [h.named]) hnames hvalues]

/-- A file with such a line does not have the effect of the line: it defines the
    name, which the line does not. -/
theorem cut_readsLines_not (libc : Libc F) (h : Hidden x name value) :
    ¬ReadsLines libc (x ++ definition name.toList value) := by
  intro hreads
  have hword : ∀ c ∈ name.toList, isspace c = false := fun c hc => (h.word c hc).2
  have hsame := (readsLines_iff libc _).mp hreads [name]
    (fun n hn => List.mem_singleton.mp hn ▸ h.valid) .s
  have hpiece : trimSpace name.toList = name.toList := by
    have htrim := trimSpace_append_word [] h.named hword
    rwa [List.nil_append, List.dropWhile_nil, List.nil_append] at htrim
  have hline : trimSpace (x ++ name.toList) ≠ name.toList :=
    trimSpace_append_ne h.notBlank h.named hword
  rw [h.pieceValues_eq, h.lineValues_eq, lastOf_cons, lastOf_cons] at hsame
  simp [lastOf, LocParamV.ofTexts, hpiece, hline] at hsame

end Cut

/-- A comment of one line. Behind its first 79 characters is what looks like a
    definition. -/
def commentFile : List Char := '#' :: (List.replicate 78 'x' ++ ['A', '=', '5', '\n'])

theorem commentFile_readsLines_not : ¬ReadsLines wholeLibc commentFile := by
  intro hreads
  have heq := hreads Unit [⟨"A", some (), none, .n⟩]
    ⟨fun _ => 0, fun _ => 0, fun _ => [], fun _ => false⟩ (by simp [ValidName, LOC_MAX_PARAM_NAME])
  have hints := congrArg (fun conf : Conf Unit Int => conf.ints ()) heq
  exact absurd hints (by decide +kernel)

end Victara
