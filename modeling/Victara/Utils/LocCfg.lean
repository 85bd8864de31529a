import Mathlib.Algebra.Group.Int.Defs
import Mathlib.Algebra.Group.Nat.Defs
import Mathlib.Data.List.Basic
import Mathlib.Logic.Function.Basic
import Mathlib.Tactic.Common

/-!
# Configuration Files

`loc_cfg.cpp`: `loc_read_conf` reads a file line by line and sets the variables
of a table. It clears all validity bits of the table before it parses. A line
is what one `fgets` returns, so that a longer one comes in pieces.

The variables are of a type `ν`, for the pointers of the table. What `atof`
returns is a parameter, as is the range of `long`; the values of the type
double are an `F`. The table of `loc_cfg.cpp` itself is that of the logger.

A line sets one entry for each entry of the table that has its name. So what a
file does to a variable is the last of the lines that name an entry with it, and
its validity bit is whether there is one. This is stated for entries that are
alone with their variable and bit, which those of the tables are.

## Main definitions

* `ParamType`: `param_type`.
* `LocParam`, `Conf`: An entry of a table, and the variables.
* `Libc`: What the C library has.
* `LocParamV`: `loc_param_v_type`.
* `fgetsLines`, `parseLine`: The lines of a file, and what a line says.
* `strtokR`: `strtok_r` with the delimiter `=`: a token, and what is behind it.
* `digitVal`: The value of a digit.
* `digits`: The number that the digits in front make.
* `strtol`: `strtol`; a value out of range is the nearest one in it.
* `strtoi`: `(int) strtol` and `atoi`.
* `trimSpace`: `trim_space`.
* `isHex`: The value begins with `0x`.
* `LocParam.Hit`: The parameter is the one that the line is about, and has a
  variable.
* `setVar`: A variable is set, if there is one.
* `LocParamV.strValue`: The string that is stored for a value.
* `locSetConfigEntry`, `locReadConf`: The two functions.
* `setEntries`: A line that says something, for all entries of the table.
* `clearValid`: All validity bits of the table are cleared.
* `readLines`: The loop of `loc_read_conf`.
* `confLines`: The lines of a file, as `loc_read_conf` gets them.
* `definitions`: The values that some lines give a parameter.
* `ParamValue`: A value of one of the types.
* `LocParamV.value`: The value for a parameter of the type.
* `Conf.value`: The variable of the type.
* `Alone`: The entry `p` of the table is alone with its variable and its
  validity bit.
* `fileLines`: The lines of a file, if it is there.
* `wholeLibc`: A library with a double for every number, which is enough to read
  texts without a fraction.

## Theorems

* `setEntries_valid`, `setEntries_value`: What a line sets.
* `setEntries_doubles`: What a line sets of the doubles.
* `Alone.hit_iff`: A line is about an entry that is alone if it has its name.
* `readLines_valid`, `readLines_doubles`: What the lines of a file set.
* `clearValid_valid`: The validity bits of the table are cleared.
* `Alone.locReadConf_valid`: A file that is read decides the validity bit alone.
-/

namespace Victara

def LOC_MAX_PARAM_STRING : Nat := 80

def LOC_MAX_PARAM_LINE : Nat := 80

/-- `param_type`. -/
inductive ParamType
  | n | f | s
  deriving DecidableEq, Repr

/-- `loc_param_s_type`; a pointer may be NULL. -/
structure LocParam (ν : Type) where
  param_name : String
  param_ptr : Option ν
  param_set : Option ν
  param_type : ParamType
  deriving DecidableEq, Repr

/-- The variables a table points to: those of each type, and the validity
    bits. -/
structure Conf (ν F : Type) where
  ints : ν → Int
  doubles : ν → F
  strs : ν → List Char
  valid : ν → Bool

/-- What the C library has. -/
structure Libc (F : Type) where
  atof : List Char → F
  /-- The double 0. -/
  zero : F
  LONG_MAX : Int

/-- `loc_param_v_type`. -/
structure LocParamV (F : Type) where
  param_name : List Char
  param_str_value : List Char
  param_int_value : Int
  param_double_value : F

/-! ## The C library -/

def isspace (c : Char) : Bool :=
  c = ' ' || c = '\t' || c = '\n' || c = '\x0b' || c = '\x0c' || c = '\r'

/-- The lines that `fgets` returns with a buffer for `n` characters. -/
def fgetsLines (n : Nat) : List Char → List Char → List (List Char)
  | [], [] => []
  | line, [] => [line]
  | line, c :: s =>
      if c = '\n' ∨ line.length + 1 = n then (line ++ [c]) :: fgetsLines n [] s
      else fgetsLines n (line ++ [c]) s

/-- `strtok_r` with the delimiter `=`: a token, and what is behind it. -/
def strtokR (s : List Char) : Option (List Char × List Char) :=
  match s.dropWhile (· = '=') with
  | [] => none
  | s => some (s.takeWhile (· ≠ '='), (s.dropWhile (· ≠ '=')).drop 1)

/-- The value of a digit. -/
def digitVal (c : Char) : Option Nat :=
  if '0' ≤ c ∧ c ≤ '9' then some (c.toNat - '0'.toNat)
  else if 'a' ≤ c ∧ c ≤ 'z' then some (c.toNat - 'a'.toNat + 10)
  else if 'A' ≤ c ∧ c ≤ 'Z' then some (c.toNat - 'A'.toNat + 10)
  else none

/-- The number that the digits in front make. -/
def digits (base : Nat) (acc : Nat) : List Char → Nat
  | [] => acc
  | c :: s => match digitVal c with
    | some d => if d < base then digits base (acc * base + d) s else acc
    | none => acc

/-- `strtol`; a value out of range is the nearest one in it. -/
def strtol (LONG_MAX : Int) (s : List Char) (base : Nat) : Int :=
  let s := s.dropWhile isspace
  let negative := s.head? = some '-'
  let s := if s.head? = some '-' ∨ s.head? = some '+' then s.drop 1 else s
  let s := match base, s with
    | 16, '0' :: 'x' :: s | 16, '0' :: 'X' :: s => s
    | _, s => s
  let v : Int := digits base 0 s
  if negative then max (-v) (-LONG_MAX - 1) else min v LONG_MAX

/-- `(int) strtol` and `atoi`. -/
def strtoi (LONG_MAX : Int) (s : List Char) (base : Nat) : Int :=
  (strtol LONG_MAX s base).bmod (2 ^ 32)

/-! ## The functions -/

variable {ν F : Type} [DecidableEq ν]

/-- `trim_space`. A string of spaces stays as it is. -/
def trimSpace (s : List Char) : List Char :=
  if s.all isspace then s
  else ((s.dropWhile isspace).reverse.dropWhile isspace).reverse

/-- The value begins with `0x`. -/
def isHex : List Char → Bool
  | '0' :: 'x' :: _ | '0' :: 'X' :: _ => true
  | _ => false

/-- The body of the loop of `loc_read_conf`, up to the tables. The double of a
    hexadecimal value is the 0 of `memset`. -/
def parseLine (libc : Libc F) (input_buf : List Char) : Option (LocParamV F) := do
  let (param_name, lasts) ← strtokR (input_buf.takeWhile (· ≠ '\x00'))
  let (param_str_value, _) ← strtokR lasts
  let param_str_value := trimSpace param_str_value
  some {
    param_name := trimSpace param_name
    param_str_value := param_str_value
    param_int_value :=
      if isHex param_str_value then strtoi libc.LONG_MAX (param_str_value.drop 2) 16
      else strtoi libc.LONG_MAX param_str_value 10
    param_double_value := if isHex param_str_value then libc.zero else libc.atof param_str_value }

/-- The parameter is the one that the line is about, and has a variable. -/
def LocParam.Hit (config_entry : LocParam ν) (config_value : LocParamV F) : Prop :=
  config_entry.param_name.toList = config_value.param_name ∧ config_entry.param_ptr ≠ none

instance (config_entry : LocParam ν) (config_value : LocParamV F) :
    Decidable (config_entry.Hit config_value) :=
  inferInstanceAs (Decidable (config_entry.param_name.toList = config_value.param_name ∧
    config_entry.param_ptr ≠ none))

/-- A variable is set, if there is one. -/
def setVar {α : Type} (vars : ν → α) (param_ptr : Option ν) (value : α) : ν → α :=
  fun x => if param_ptr = some x then value else vars x

/-- The string that is stored for a value. -/
def LocParamV.strValue (config_value : LocParamV F) : List Char :=
  if config_value.param_str_value = ['N', 'U', 'L', 'L'] then []
  else config_value.param_str_value.take LOC_MAX_PARAM_STRING

/-- `loc_set_config_entry`. -/
def locSetConfigEntry (conf : Conf ν F) (config_entry : LocParam ν) (config_value : LocParamV F) :
    Conf ν F :=
  if config_entry.Hit config_value then
    let conf := { conf with valid := setVar conf.valid config_entry.param_set true }
    let ptr := config_entry.param_ptr
    match config_entry.param_type with
    | .s => { conf with strs := setVar conf.strs ptr config_value.strValue }
    | .n => { conf with ints := setVar conf.ints ptr config_value.param_int_value }
    | .f => { conf with doubles := setVar conf.doubles ptr config_value.param_double_value }
  else conf

/-- A line that says something, for all entries of the table. -/
def setEntries (config_table : List (LocParam ν)) (conf : Conf ν F)
    (config_value : LocParamV F) : Conf ν F :=
  config_table.foldl (fun conf config_entry => locSetConfigEntry conf config_entry config_value)
    conf

/-- All validity bits of the table are cleared. -/
def clearValid (config_table : List (LocParam ν)) (conf : Conf ν F) : Conf ν F :=
  let valid := config_table.foldl
    (fun valid config_entry => setVar valid config_entry.param_set false) conf.valid
  { conf with valid := valid }

/-- The loop of `loc_read_conf`. -/
def readLines (libc : Libc F) (config_table : List (LocParam ν)) (conf : Conf ν F)
    (lines : List (List Char)) : Conf ν F :=
  (lines.filterMap (parseLine libc)).foldl (setEntries config_table) conf

/-- The lines of a file, as `loc_read_conf` gets them. -/
def confLines (file : List Char) : List (List Char) := fgetsLines (LOC_MAX_PARAM_LINE - 1) [] file

/-- `loc_read_conf`, of a file that may not be there. -/
def locReadConf (libc : Libc F) (config_table : List (LocParam ν)) (conf : Conf ν F) :
    Option (List Char) → Conf ν F
  | none => conf
  | some file => readLines libc config_table (clearValid config_table conf) (confLines file)

/-! ## What is set -/

/-- The values that some lines give the parameter `name`, one after the
    other. -/
def definitions (libc : Libc F) (name : String) (lines : List (List Char)) : List F :=
  ((lines.filterMap (parseLine libc)).filter fun v => name.toList = v.param_name).map
    LocParamV.param_double_value

/-- The value of a variable, of one of the types. -/
inductive ParamValue (F : Type)
  | n (param_int_value : Int)
  | f (param_double_value : F)
  | s (param_str_value : List Char)

/-- The value for a parameter of the type. -/
def LocParamV.value (v : LocParamV F) : ParamType → ParamValue F
  | .n => .n v.param_int_value
  | .f => .f v.param_double_value
  | .s => .s v.strValue

omit [DecidableEq ν] in
/-- The variable of the type. -/
def Conf.value (conf : Conf ν F) (x : ν) : ParamType → ParamValue F
  | .n => .n (conf.ints x)
  | .f => .f (conf.doubles x)
  | .s => .s (conf.strs x)

/-- The entry `p` of the table is alone with its variable and its validity bit.
    Otherwise a line about another parameter could be what set them. -/
structure Alone (config_table : List (LocParam ν)) (p : LocParam ν) (ptr set : ν) : Prop where
  mem : p ∈ config_table
  param_type : p.param_type = .f
  param_ptr : p.param_ptr = some ptr
  param_set : p.param_set = some set
  only_ptr : ∀ e ∈ config_table, e.param_type = .f → e.param_ptr = some ptr → e = p
  only_set : ∀ e ∈ config_table, e.param_set = some set → e = p

variable {libc : Libc F} {config_table : List (LocParam ν)} {p : LocParam ν} {ptr set : ν}

theorem locSetConfigEntry_valid (conf : Conf ν F) (e : LocParam ν) (v : LocParamV F) (x : ν) :
    (locSetConfigEntry conf e v).valid x = true ↔
      conf.valid x = true ∨ e.Hit v ∧ e.param_set = some x := by
  unfold locSetConfigEntry
  by_cases hhit : e.Hit v
  · rw [if_pos hhit]
    cases e.param_type <;> by_cases hset : e.param_set = some x <;> simp [setVar, hset, hhit]
  · simp [hhit]

theorem locSetConfigEntry_value (conf : Conf ν F) (e : LocParam ν) (v : LocParamV F) (x : ν)
    (t : ParamType) :
    (locSetConfigEntry conf e v).value x t =
      if e.Hit v ∧ e.param_type = t ∧ e.param_ptr = some x then v.value t
      else conf.value x t := by
  unfold locSetConfigEntry
  by_cases hhit : e.Hit v
  · by_cases hptr : e.param_ptr = some x
    · cases htype : e.param_type <;> cases t <;>
        simp [hhit, hptr, Conf.value, LocParamV.value, setVar]
    · cases htype : e.param_type <;> cases t <;> simp [hhit, hptr, Conf.value, setVar]
  · simp [hhit]

/-- What a line sets of the validity bits. -/
theorem setEntries_valid (conf : Conf ν F) (v : LocParamV F) (x : ν) :
    (setEntries config_table conf v).valid x = true ↔
      conf.valid x = true ∨ ∃ e ∈ config_table, e.Hit v ∧ e.param_set = some x := by
  induction config_table generalizing conf with
  | nil => simp [setEntries]
  | cons e config_table ih =>
      have hrest := ih (locSetConfigEntry conf e v)
      rw [locSetConfigEntry_valid, or_assoc] at hrest
      rw [List.exists_mem_cons_iff, ← hrest]
      rfl

/-- What a line sets of the variables. -/
theorem setEntries_value (conf : Conf ν F) (v : LocParamV F) (x : ν) (t : ParamType) :
    (setEntries config_table conf v).value x t =
      if ∃ e ∈ config_table, e.Hit v ∧ e.param_type = t ∧ e.param_ptr = some x then v.value t
      else conf.value x t := by
  induction config_table generalizing conf with
  | nil => simp [setEntries]
  | cons e config_table ih =>
      have hrest := ih (locSetConfigEntry conf e v)
      rw [locSetConfigEntry_value] at hrest
      have hfold : setEntries (e :: config_table) conf v =
          setEntries config_table (locSetConfigEntry conf e v) v := rfl
      rw [hfold, hrest]
      by_cases hhit : e.Hit v ∧ e.param_type = t ∧ e.param_ptr = some x
      · simp [hhit]
      · simp [hhit]

/-- What a line sets of the doubles. -/
theorem setEntries_doubles (conf : Conf ν F) (v : LocParamV F) (x : ν) :
    (setEntries config_table conf v).doubles x =
      if ∃ e ∈ config_table, e.Hit v ∧ e.param_type = .f ∧ e.param_ptr = some x then
        v.param_double_value
      else conf.doubles x := by
  have hvalue : (setEntries config_table conf v).value x .f = _ := setEntries_value conf v x .f
  by_cases hhit : ∃ e ∈ config_table, e.Hit v ∧ e.param_type = .f ∧ e.param_ptr = some x
  · rw [if_pos hhit] at hvalue ⊢
    exact ParamValue.f.inj hvalue
  · rw [if_neg hhit] at hvalue ⊢
    exact ParamValue.f.inj hvalue

omit [DecidableEq ν] in
/-- A line is about an entry that is alone if it has its name. -/
theorem Alone.hit_iff (hp : Alone config_table p ptr set) (v : LocParamV F) :
    p.Hit v ↔ p.param_name.toList = v.param_name := by
  simp [LocParam.Hit, hp.param_ptr]

theorem Alone.setEntries_valid (hp : Alone config_table p ptr set) (conf : Conf ν F)
    (v : LocParamV F) : (setEntries config_table conf v).valid set = true ↔
      conf.valid set = true ∨ p.param_name.toList = v.param_name := by
  rw [Victara.setEntries_valid, ← hp.hit_iff v]
  refine or_congr_right ⟨?_, fun hhit => ⟨p, hp.mem, hhit, hp.param_set⟩⟩
  rintro ⟨e, he, hhit, hset⟩
  rwa [← hp.only_set e he hset]

theorem Alone.setEntries_doubles (hp : Alone config_table p ptr set) (conf : Conf ν F)
    (v : LocParamV F) : (setEntries config_table conf v).doubles ptr =
      if p.param_name.toList = v.param_name then v.param_double_value else conf.doubles ptr := by
  have hiff : (∃ e ∈ config_table, e.Hit v ∧ e.param_type = .f ∧ e.param_ptr = some ptr) ↔
      p.param_name.toList = v.param_name := by
    rw [← hp.hit_iff v]
    refine ⟨?_, fun hhit => ⟨p, hp.mem, hhit, hp.param_type, hp.param_ptr⟩⟩
    rintro ⟨e, he, hhit, htype, hptr⟩
    rwa [← hp.only_ptr e he htype hptr]
  rw [Victara.setEntries_doubles]
  simp only [hiff]

/-- What the lines of a file set of the validity bits: nothing is cleared. -/
theorem Alone.readLines_valid (hp : Alone config_table p ptr set) (conf : Conf ν F)
    (lines : List (List Char)) : (readLines libc config_table conf lines).valid set = true ↔
      conf.valid set = true ∨ definitions libc p.param_name lines ≠ [] := by
  unfold readLines definitions
  induction lines.filterMap (parseLine libc) generalizing conf with
  | nil => simp
  | cons v vs ih =>
      rw [List.foldl_cons, ih, hp.setEntries_valid, or_assoc]
      by_cases hname : p.param_name.toList = v.param_name <;> simp [hname]

/-- What they set of the doubles: the last line counts. -/
theorem Alone.readLines_doubles (hp : Alone config_table p ptr set) (conf : Conf ν F)
    (lines : List (List Char)) : (readLines libc config_table conf lines).doubles ptr =
      (definitions libc p.param_name lines).getLast?.getD (conf.doubles ptr) := by
  unfold readLines definitions
  induction lines.filterMap (parseLine libc) generalizing conf with
  | nil => rfl
  | cons v vs ih =>
      rw [List.foldl_cons, ih, hp.setEntries_doubles]
      by_cases hname : p.param_name.toList = v.param_name
      · simp [hname, List.getLast?_cons]
      · simp [hname]

/-- The validity bits of the table are cleared. -/
theorem clearValid_valid {e : LocParam ν} (he : e ∈ config_table) (hset : e.param_set = some set)
    (conf : Conf ν F) : (clearValid config_table conf).valid set = false := by
  have hfold : ∀ valid : ν → Bool, (valid set = false ∨ e ∈ config_table) →
      config_table.foldl (fun valid config_entry => setVar valid config_entry.param_set false)
        valid set = false := by
    clear he
    induction config_table with
    | nil =>
        intro valid h
        simpa using h
    | cons e' config_table ih =>
        intro valid h
        apply ih
        by_cases hset' : e'.param_set = some set
        · exact Or.inl (by simp [setVar, hset'])
        · rcases h with h | h
          · exact Or.inl (by simp [setVar, hset', h])
          · rcases List.mem_cons.mp h with rfl | h
            · exact absurd hset hset'
            · exact Or.inr h
  exact hfold conf.valid (Or.inr he)

/-- The lines of a file, if it is there. -/
def fileLines (file : Option (List Char)) : List (List Char) := (file.map confLines).getD []

/-- A file that is read decides the validity bit alone. -/
theorem Alone.locReadConf_valid (hp : Alone config_table p ptr set) (conf : Conf ν F)
    (file : Option (List Char)) : (locReadConf libc config_table conf file).valid set = true ↔
      file = none ∧ conf.valid set = true ∨
        definitions libc p.param_name (fileLines file) ≠ [] := by
  cases file with
  | none => simp [locReadConf, fileLines, definitions]
  | some file =>
      have hclear := clearValid_valid hp.mem hp.param_set conf
      rw [locReadConf, hp.readLines_valid, hclear]
      simp [fileLines]

theorem Alone.locReadConf_doubles (hp : Alone config_table p ptr set) (conf : Conf ν F)
    (file : Option (List Char)) : (locReadConf libc config_table conf file).doubles ptr =
      (definitions libc p.param_name (fileLines file)).getLast?.getD (conf.doubles ptr) := by
  cases file with
  | none => rfl
  | some file => exact hp.readLines_doubles _ _

theorem definitions_append (libc : Libc F) (name : String) (lines lines' : List (List Char)) :
    definitions libc name (lines ++ lines') =
      definitions libc name lines ++ definitions libc name lines' := by
  simp [definitions]

/-- A library with a double for every number, which is enough to read texts
    without a fraction. -/
def wholeLibc : Libc Int := ⟨fun s => strtoi (2 ^ 31 - 1) s 10, 0, 2 ^ 31 - 1⟩

end Victara
