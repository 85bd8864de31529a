import Mathlib.Data.List.Nodup
import Victara.Engine.Config
import Victara.Lib.Layout

/-!
# The Bytes of the Configuration

A line of a configuration file is compared with the entries of two tables,
that of the caller and that of `loc_cfg.cpp`. An entry has a `void *`, and what
is written there depends on the type in the entry: for the type n it is an
int, whatever the variable has been declared as.

The entries of type n are for variables of the types `unsigned long`, which
has at least the four bytes of an int, and `uint8_t`. There the other three
bytes go to what is behind it, which is padding for `NMEA_PROVIDER`
(`nmeaProvider_others`), and for the two variables of the logger anything.

The sizes and alignments of the C types are an `Abi`.

## Main definitions

* `TableVar`, `ConfObject`: The variables of the tables, and the objects they
  are in.
* `Abi`, `confDecls`: The declarations.
* `Abi.fields`: `loc_gps_cfg_s_type`, `loc_sap_cfg_s_type`, and the static
  variables of `loc_cfg.cpp`.
* `LocParam.map`: An entry with its variable renamed.
* `engineTable`: The table of `loc_eng.cpp`.
* `loggerTable`: The table of `loc_cfg.cpp`.
* `tables`: The tables that a line is compared with.
* `LocParamV.bytes`: What is written for a value, of the type in the entry.
* `LocParam.writes`, `processLine`: What is written for a line.
* `NumParam`: A parameter of type n of either table.
* `NumParam.Named`: A line that says something about the parameter.
* `Framed`: Only the parameter's own variable is written to.
* `ilp32`: 32 bits.
* `sideBySide`: The two bytes of the logger are next to each other.
* `suplVerValue`: What the line `SUPL_VER=0x20000` says.

## Theorems

* `tables_names`: No name is in the tables twice, and an entry of type n has no
  validity bit.
* `NumParam.writes_eq`: The entry of the parameter writes an int, and no other
  entry writes anything.
* `processLine_eq`: A line writes at most one int.
* `processLine_within`: All that is written is the four bytes of the int.
* `framed_iff`: The parameters that are alone with their bytes.
* `width_lt_iff`: The variables that are too narrow.
* `gpsConf_offset`: The variables that `gps_conf` has before `NMEA_PROVIDER`
  have no gaps.
* `nmeaProvider_room`: Behind `NMEA_PROVIDER` there is padding for the rest of
  an int.
* `nmeaProvider_others`: The overflow that does no harm.
-/

namespace Victara

open Layout

/-- The variables of both tables. -/
inductive TableVar
  | engine (x : ConfVar)
  | DEBUG_LEVEL
  | TIMESTAMP
  deriving DecidableEq, Repr

inductive ConfObject
  | gps_conf
  | sap_conf
  | DEBUG_LEVEL
  | TIMESTAMP
  deriving DecidableEq, Repr

/-- What a compiler says of the types: an `unsigned long` has no less than the
    four bytes of an int. -/
structure Abi where
  long : Nat
  int_le_long : 4 ≤ long
  longAlign : Nat
  doubleAlign : Nat

def sizeofInt : Nat := 4

def uint8 (x : TableVar) : Member TableVar := ⟨x, 1, 1⟩

def Abi.ulong (abi : Abi) (x : ConfVar) : Member TableVar := ⟨.engine x, abi.long, abi.longAlign⟩

def Abi.double (abi : Abi) (x : ConfVar) : Member TableVar := ⟨.engine x, 8, abi.doubleAlign⟩

/-- `loc_gps_cfg_s_type`, `loc_sap_cfg_s_type`, and the static variables of
    `loc_cfg.cpp`. -/
def Abi.fields (abi : Abi) : ConfObject → List (Member TableVar)
  | .gps_conf => [
      abi.ulong .INTERMEDIATE_POS,
      abi.ulong .ACCURACY_THRES,
      abi.ulong .SUPL_VER,
      abi.ulong .CAPABILITIES,
      abi.ulong .QUIPC_ENABLED,
      abi.ulong .LPP_PROFILE,
      uint8 (.engine .NMEA_PROVIDER),
      abi.ulong .A_GLONASS_POS_PROTOCOL_SELECT]
  | .sap_conf => [
      uint8 (.engine .GYRO_BIAS_RANDOM_WALK_VALID),
      abi.double .GYRO_BIAS_RANDOM_WALK,
      abi.ulong .SENSOR_ACCEL_BATCHES_PER_SEC,
      abi.ulong .SENSOR_ACCEL_SAMPLES_PER_BATCH,
      abi.ulong .SENSOR_GYRO_BATCHES_PER_SEC,
      abi.ulong .SENSOR_GYRO_SAMPLES_PER_BATCH,
      abi.ulong .SENSOR_ACCEL_BATCHES_PER_SEC_HIGH,
      abi.ulong .SENSOR_ACCEL_SAMPLES_PER_BATCH_HIGH,
      abi.ulong .SENSOR_GYRO_BATCHES_PER_SEC_HIGH,
      abi.ulong .SENSOR_GYRO_SAMPLES_PER_BATCH_HIGH,
      abi.ulong .SENSOR_CONTROL_MODE,
      abi.ulong .SENSOR_USAGE,
      abi.ulong .SENSOR_ALGORITHM_CONFIG_MASK,
      uint8 (.engine .ACCEL_RANDOM_WALK_SPECTRAL_DENSITY_VALID),
      abi.double .ACCEL_RANDOM_WALK_SPECTRAL_DENSITY,
      uint8 (.engine .ANGLE_RANDOM_WALK_SPECTRAL_DENSITY_VALID),
      abi.double .ANGLE_RANDOM_WALK_SPECTRAL_DENSITY,
      uint8 (.engine .RATE_RANDOM_WALK_SPECTRAL_DENSITY_VALID),
      abi.double .RATE_RANDOM_WALK_SPECTRAL_DENSITY,
      uint8 (.engine .VELOCITY_RANDOM_WALK_SPECTRAL_DENSITY_VALID),
      abi.double .VELOCITY_RANDOM_WALK_SPECTRAL_DENSITY]
  | .DEBUG_LEVEL => [uint8 .DEBUG_LEVEL]
  | .TIMESTAMP => [uint8 .TIMESTAMP]

def TableVar.object : TableVar → ConfObject
  | .DEBUG_LEVEL => .DEBUG_LEVEL
  | .TIMESTAMP => .TIMESTAMP
  | .engine .INTERMEDIATE_POS | .engine .ACCURACY_THRES | .engine .SUPL_VER
  | .engine .CAPABILITIES | .engine .QUIPC_ENABLED | .engine .LPP_PROFILE
  | .engine .NMEA_PROVIDER | .engine .A_GLONASS_POS_PROTOCOL_SELECT => .gps_conf
  | .engine _ => .sap_conf

/-- The declarations of the variables. -/
def confDecls (abi : Abi) : Decls TableVar ConfObject where
  fields := abi.fields
  object := TableVar.object
  declared k := by
    rcases k with x | _ | _
    · cases x <;> simp [TableVar.object, Abi.fields, Abi.ulong, Abi.double, uint8]
    · exact List.mem_singleton_self _
    · exact List.mem_singleton_self _

/-! ## The tables -/

/-- The same entry, for a variable that is called something else. -/
def LocParam.map {ν μ : Type} (g : ν → μ) (p : LocParam ν) : LocParam μ :=
  ⟨p.param_name, p.param_ptr.map g, p.param_set.map g, p.param_type⟩

/-- The table of `loc_eng.cpp`. -/
def engineTable : List (LocParam TableVar) := locParameterTable.map (·.map .engine)

/-- The table of `loc_cfg.cpp`. -/
def loggerTable : List (LocParam TableVar) := [
  ⟨"DEBUG_LEVEL", some .DEBUG_LEVEL, none, .n⟩,
  ⟨"TIMESTAMP", some .TIMESTAMP, none, .n⟩]

/-- The tables that a line is compared with. That of the engine is not there for
    `UTIL_READ_CONF_DEFAULT`. -/
def tables (config_table : Bool) : List (LocParam TableVar) :=
  (if config_table then engineTable else []) ++ loggerTable

variable {F : Type}

/-- What is written for a value, of the type in the entry. -/
def LocParamV.bytes (config_value : LocParamV F) (repr : F → { bs : List UInt8 // bs.length = 8 }) :
    ParamType → List UInt8
  | .n => Bytes.toBytes sizeofInt (config_value.param_int_value % 4294967296).toNat
  | .f => repr config_value.param_double_value
  | .s => config_value.strValue.map (fun c => UInt8.ofNat c.toNat) ++ [0]

/-- `loc_set_config_entry`, with the variables at `addr`. -/
def LocParam.writes {ν : Type} (addr : ν → Nat) (repr : F → { bs : List UInt8 // bs.length = 8 })
    (config_entry : LocParam ν) (config_value : LocParamV F) : List (Nat × List UInt8) :=
  if config_entry.Hit config_value then
    (config_entry.param_ptr.toList.map fun x =>
      (addr x, config_value.bytes repr config_entry.param_type)) ++
      config_entry.param_set.toList.map fun x => (addr x, [1])
  else []

/-- The body of the loop of `loc_read_conf`. -/
def processLine (libc : Libc F) (repr : F → { bs : List UInt8 // bs.length = 8 })
    (addr : TableVar → Nat) (config_table : Bool) (input_buf : List Char) :
    List (Nat × List UInt8) :=
  match parseLine libc input_buf with
  | none => []
  | some config_value => (tables config_table).flatMap (·.writes addr repr config_value)

/-! ## A parameter of type n -/

/-- An entry of type n of either table, with its variable. -/
structure NumParam where
  param : LocParam TableVar
  mem : param ∈ tables true
  isNum : param.param_type = .n
  ptr : TableVar
  param_ptr : param.param_ptr = some ptr

/-- A line that says something about the parameter. -/
def NumParam.Named (p : NumParam) (libc : Libc F) (input_buf : List Char)
    (config_value : LocParamV F) : Prop :=
  parseLine libc input_buf = some config_value ∧ p.param.param_name.toList = config_value.param_name

/-- Only bytes of the variable are written, and all others are as they were. -/
structure Framed {abi : Abi} (place : Placement (confDecls abi)) (mem : Nat → UInt8) (x : TableVar)
    (writes : List (Nat × List UInt8)) : Prop where
  own : Within (place.address x) ((confDecls abi).width x) writes
  others : ∀ y, y ≠ x → ∀ i, i < (confDecls abi).width y →
    writeAll mem writes (place.address y + i) = mem (place.address y + i)

/-- No name is in the tables twice, and an entry of type n has no validity bit. -/
theorem tables_names : ((tables true).map LocParam.param_name).Nodup ∧
    ∀ p ∈ tables true, p.param_type = .n → p.param_set = none := by
  decide +kernel

theorem mem_tables {p : LocParam TableVar} {config_table : Bool} (h : p ∈ tables config_table) :
    p ∈ tables true := by
  cases config_table with
  | true => exact h
  | false => exact List.mem_append_right engineTable h

theorem flatMap_ite_singleton {α β : Type} [DecidableEq α] {l : List α} (h : l.Nodup) (a : α)
    (b : β) : (l.flatMap fun x => if x = a then [b] else []) = if a ∈ l then [b] else [] := by
  induction l with
  | nil => rfl
  | cons x l ih =>
      obtain ⟨hx, hl⟩ := List.nodup_cons.mp h
      rw [List.flatMap_cons, ih hl]
      by_cases hxa : x = a
      · rw [if_pos hxa, if_neg (hxa ▸ hx), if_pos (hxa ▸ List.mem_cons_self), List.append_nil]
      · rw [if_neg hxa, List.nil_append]
        exact if_congr (by rw [List.mem_cons, or_iff_right (Ne.symm hxa)]) rfl rfl

/-- The entry of the parameter writes an int, and no other entry writes
    anything. -/
theorem NumParam.writes_eq (p : NumParam) {libc : Libc F}
    {repr : F → { bs : List UInt8 // bs.length = 8 }} {addr : TableVar → Nat}
    {input_buf : List Char} {config_value : LocParamV F}
    (h : p.Named libc input_buf config_value) {e : LocParam TableVar} (he : e ∈ tables true) :
    e.writes addr repr config_value =
      if e = p.param then [(addr p.ptr, config_value.bytes repr .n)] else [] := by
  unfold LocParam.writes
  by_cases hep : e = p.param
  · have hhit : p.param.Hit config_value := ⟨h.2, by rw [p.param_ptr]; exact Option.some_ne_none _⟩
    rw [if_pos hep, hep, if_pos hhit, tables_names.2 p.param p.mem p.isNum, p.param_ptr, p.isNum]
    rfl
  · have hmiss : ¬ e.Hit config_value := by
      intro hhit
      -- It would have the same name.
      have hname : e.param_name = p.param.param_name :=
        String.toList_inj.mp (hhit.1.trans h.2.symm)
      exact hep (List.inj_on_of_nodup_map tables_names.1 he p.mem hname)
    rw [if_neg hep, if_neg hmiss]

theorem tables_nodup (config_table : Bool) : (tables config_table).Nodup := by
  have htrue : (tables true).Nodup := List.Nodup.of_map _ tables_names.1
  cases config_table with
  | true => exact htrue
  | false => exact htrue.of_append_right

/-- A line writes the parameter's int, if the table of the parameter is there. -/
theorem processLine_eq (p : NumParam) {libc : Libc F}
    {repr : F → { bs : List UInt8 // bs.length = 8 }} {addr : TableVar → Nat}
    {input_buf : List Char} {config_value : LocParamV F}
    (h : p.Named libc input_buf config_value) (config_table : Bool) :
    processLine libc repr addr config_table input_buf =
      if p.param ∈ tables config_table then [(addr p.ptr, config_value.bytes repr .n)] else [] := by
  rw [← flatMap_ite_singleton (tables_nodup config_table)]
  unfold processLine
  rw [h.1]
  refine List.flatMap_congr fun e he => ?_
  exact p.writes_eq h (mem_tables he)

/-- All that is written is the four bytes of the int. -/
theorem processLine_within (p : NumParam) {libc : Libc F}
    (repr : F → { bs : List UInt8 // bs.length = 8 }) (addr : TableVar → Nat)
    {input_buf : List Char} {config_value : LocParamV F}
    (h : p.Named libc input_buf config_value) {config_table : Bool} {n : Nat}
    (hn : p.param ∈ tables config_table → sizeofInt ≤ n) :
    Within (addr p.ptr) n (processLine libc repr addr config_table input_buf) := by
  rw [processLine_eq p h]
  intro w hw i hi
  by_cases hmem : p.param ∈ tables config_table
  · rw [if_pos hmem, List.mem_singleton] at hw
    have hwidth := hn hmem
    subst hw
    simp only [LocParamV.bytes, Bytes.length_toBytes] at hi
    exact ⟨Nat.le_add_right _ i, by simp only; omega⟩
  · rw [if_neg hmem] at hw
    exact absurd hw List.not_mem_nil

/-- The bytes of a parameter are written alone if it has been declared with
    those of an int. An `int` is written through the pointer of a numeric
    parameter, whatever it points to, and where that is a `uint8_t` three bytes
    behind it are written as well. The placement of the variables and the memory
    are arbitrary. -/
theorem framed_iff {abi : Abi} (place : Placement (confDecls abi)) (mem : Nat → UInt8)
    (libc : Libc F) (repr : F → { bs : List UInt8 // bs.length = 8 }) (config_table : Bool)
    (p : NumParam) {input_buf : List Char} {config_value : LocParamV F}
    (h : p.Named libc input_buf config_value) :
    Framed place mem p.ptr (processLine libc repr place.address config_table input_buf) ↔
      (p.param ∈ tables config_table → sizeofInt ≤ (confDecls abi).width p.ptr) := by
  constructor
  · intro hframed hmem
    have hown := hframed.own
    rw [processLine_eq p h, if_pos hmem] at hown
    -- The last byte of the int is in the variable.
    have hlast := hown _ List.mem_cons_self 3 (by simp [LocParamV.bytes, sizeofInt])
    simp only [sizeofInt]
    omega
  · intro hwide
    have hown := processLine_within p repr place.address h hwide
    exact ⟨hown, fun y hy i hi => writeAll_apart (address_apart place hy) mem hown hi⟩

/-- Those that are declared as `uint8_t`. -/
theorem width_lt_iff (abi : Abi) (p : NumParam) :
    (confDecls abi).width p.ptr < sizeofInt ↔
      p.ptr = .engine .NMEA_PROVIDER ∨ p.ptr = .DEBUG_LEVEL ∨ p.ptr = .TIMESTAMP := by
  have hlong := abi.int_le_long
  have hflag : ∀ e ∈ tables true, e.param_type = .n →
      ∀ x, e.param_ptr = some (.engine x) → x.isValid = false ∧ x.isDouble = false := by
    have hall : ∀ e ∈ locParameterTable, e.param_type = .n →
        e.param_ptr.all fun x => !x.isValid && !x.isDouble := by decide +kernel
    intro e he hn x hx
    rcases List.mem_append.mp he with hengine | hlogger
    · rw [if_pos rfl] at hengine
      obtain ⟨e', he', rfl⟩ := List.mem_map.mp hengine
      obtain ⟨y, hy, hyx⟩ := Option.map_eq_some_iff.mp hx
      have hy' := hall e' he' hn
      cases hyx
      simpa [hy] using hy'
    · rcases List.mem_pair.mp hlogger with rfl | rfl <;> cases hx
  rcases hptr : p.ptr with x | _ | _
  · have hx := hflag p.param p.mem p.isNum x (hptr ▸ p.param_ptr)
    cases x <;> simp [ConfVar.isValid, ConfVar.isDouble] at hx <;>
      simp [Decls.width, confDecls, TableVar.object, Abi.fields, Abi.ulong, Abi.double, uint8, size,
        sizeofInt] <;> omega
  · simp [Decls.width, confDecls, TableVar.object, Abi.fields, uint8, size, sizeofInt]
  · simp [Decls.width, confDecls, TableVar.object, Abi.fields, uint8, size, sizeofInt]

/-- The variables that `gps_conf` has before `NMEA_PROVIDER` have no gaps. -/
theorem gpsConf_offset (abi : Abi) (hlong : abi.longAlign ∣ abi.long) :
    offset (.engine .NMEA_PROVIDER) 0 (abi.fields .gps_conf) = 6 * abi.long ∧
      ∀ x ∈ [ConfVar.INTERMEDIATE_POS, .ACCURACY_THRES, .SUPL_VER, .CAPABILITIES, .QUIPC_ENABLED,
        .LPP_PROFILE], offset (.engine x) 0 (abi.fields .gps_conf) + abi.long ≤ 6 * abi.long := by
  have hzero : alignUp 0 abi.longAlign = 0 := alignUp_of_dvd (Nat.dvd_zero _)
  have hone : ∀ n, alignUp n 1 = n := fun n => alignUp_of_dvd (Nat.one_dvd n)
  have hfirst : alignUp abi.long abi.longAlign = abi.long := alignUp_of_dvd hlong
  have htwo : abi.long + abi.long = 2 * abi.long := (Nat.two_mul _).symm
  have hmul : ∀ k, alignUp (k * abi.long) abi.longAlign = k * abi.long := fun k =>
    alignUp_of_dvd (Nat.dvd_mul_left_of_dvd hlong k)
  have hnext : ∀ k, k * abi.long + abi.long = (k + 1) * abi.long := fun k => (Nat.succ_mul k _).symm
  constructor
  · simp [offset, Abi.fields, Abi.ulong, uint8, hone, hzero, hfirst, htwo, hmul, hnext]
  · intro x hx
    simp only [List.mem_cons, List.not_mem_nil, or_false] at hx
    rcases hx with rfl | rfl | rfl | rfl | rfl | rfl <;>
      simp [offset, Abi.fields, Abi.ulong, uint8, hzero, hfirst, htwo, hmul, hnext] <;> omega

/-- Behind `NMEA_PROVIDER` there is padding for the rest of an int. -/
theorem nmeaProvider_room (abi : Abi) (halign : 4 ≤ abi.longAlign) (hlong : abi.longAlign ∣ abi.long)
    (place : Placement (confDecls abi)) {y : TableVar} (hy : y ≠ .engine .NMEA_PROVIDER) :
    Apart (place.address (.engine .NMEA_PROVIDER)) sizeofInt (place.address y)
      ((confDecls abi).width y) := by
  obtain ⟨hoffset, hbefore⟩ := gpsConf_offset abi hlong
  -- The next field is behind the padding.
  have hnext : 6 * abi.long + abi.longAlign ≤
      offset (.engine .A_GLONASS_POS_PROTOCOL_SELECT) 0 (abi.fields .gps_conf) := by
    have hpad := add_le_alignUp (Nat.dvd_mul_left_of_dvd hlong 6) (r := 1) Nat.one_pos (by omega)
    simp [offset, Abi.fields, Abi.ulong, uint8] at hoffset ⊢
    rw [hoffset]
    exact hpad
  have hsize := offset_le_sizeof (.engine .A_GLONASS_POS_PROTOCOL_SELECT) (abi.fields .gps_conf)
  refine room_apart place (fun l hl hobject => ?_) ?_ hy
  · change Apart (offset _ 0 (abi.fields .gps_conf)) sizeofInt (offset l 0 (abi.fields .gps_conf)) _
    change l.object = .gps_conf at hobject
    rcases l with x | _ | _
    · cases x
      case NMEA_PROVIDER => exact absurd rfl hl
      case A_GLONASS_POS_PROTOCOL_SELECT =>
        rw [hoffset]
        exact Or.inl (by unfold sizeofInt; omega)
      all_goals first
        | exact Or.inr (hoffset ▸ hbefore _ (by decide))
        | cases hobject
    · cases hobject
    · cases hobject
  · change offset _ 0 (abi.fields .gps_conf) + sizeofInt ≤ sizeof (abi.fields .gps_conf)
    unfold sizeofInt
    omega

/-- So a line that sets it leaves all others as they are, for compilers that
    align an `unsigned long` like an int, or further apart. -/
theorem nmeaProvider_others {abi : Abi} (halign : 4 ≤ abi.longAlign)
    (hlong : abi.longAlign ∣ abi.long) (place : Placement (confDecls abi)) (mem : Nat → UInt8)
    (libc : Libc F) (repr : F → { bs : List UInt8 // bs.length = 8 }) (config_table : Bool)
    (p : NumParam) (hp : p.ptr = .engine .NMEA_PROVIDER) {input_buf : List Char}
    {config_value : LocParamV F} (h : p.Named libc input_buf config_value) {y : TableVar}
    (hy : y ≠ .engine .NMEA_PROVIDER) {i : Nat} (hi : i < (confDecls abi).width y) :
    writeAll mem (processLine libc repr place.address config_table input_buf)
      (place.address y + i) = mem (place.address y + i) := by
  have hroom := nmeaProvider_room abi halign hlong place hy
  rw [← hp] at hroom
  exact writeAll_apart hroom mem (processLine_within p repr place.address h fun _ => Nat.le_refl _) hi

/-! ## Two lines -/

/-- 32 bits. -/
def ilp32 : Abi where
  long := 4
  int_le_long := by decide
  longAlign := 4
  doubleAlign := 8

/-- The two bytes of the logger are next to each other. -/
def sideBySide : Placement (confDecls ilp32) where
  base
    | .gps_conf => 4096
    | .sap_conf => 4128
    | .DEBUG_LEVEL => 8192
    | .TIMESTAMP => 8193
  apart a b h := by cases a <;> cases b <;> first | exact absurd rfl h | decide

def wholeRepr (_ : Int) : { bs : List UInt8 // bs.length = 8 } := ⟨List.replicate 8 0, rfl⟩

def suplVer : NumParam where
  param := ⟨"SUPL_VER", some (.engine .SUPL_VER), none, .n⟩
  mem := by decide +kernel
  isNum := rfl
  ptr := .engine .SUPL_VER
  param_ptr := rfl

/-- What the line `SUPL_VER=0x20000` says. -/
def suplVerValue : LocParamV Int := ⟨"SUPL_VER".toList, "0x20000".toList, 0x20000, 0⟩

theorem suplVer_named : suplVer.Named wholeLibc "SUPL_VER=0x20000\n".toList suplVerValue :=
  ⟨by rfl, by rfl⟩

theorem framed_iff_suplVer :
    Framed sideBySide (fun _ => 0) (.engine .SUPL_VER)
      (processLine wholeLibc wholeRepr sideBySide.address true "SUPL_VER=0x20000\n".toList) :=
  (framed_iff sideBySide (fun _ => 0) wholeLibc wholeRepr true suplVer suplVer_named).mpr fun _ => by
    decide +kernel

/-- The second byte of the debug level becomes the timestamp. -/
theorem debugLevel_timestamp :
    ¬ Framed sideBySide (fun _ => 0) .DEBUG_LEVEL
      (processLine wholeLibc wholeRepr sideBySide.address true "DEBUG_LEVEL=511\n".toList) := by
  intro h
  have hsame := h.others .TIMESTAMP (by decide) 0 (by decide +kernel)
  exact absurd hsame (by decide +kernel)

end Victara
