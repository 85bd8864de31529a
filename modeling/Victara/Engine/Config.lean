import Victara.Utils.LocCfg

/-!
# The Configuration of the Engine

`loc_eng_read_config` of `loc_eng.cpp`: the defaults, then `gps.conf` and then
`sap.conf`, both into the same table. The values that are set stay, and the
second file clears the validity bits that the first has set.

The value and the validity bit of a parameter are decided by different lines:
the value by the last line in either file, the bit by the lines of the second
file alone. They agree if the second file has the parameter whenever the first
has. That both are decided by lines about this parameter and no other needs that
no two entries share a variable, which is a matter of going through the table.

## Main definitions

* `ConfVar`: The variables of `gps_conf` and `sap_conf`.
* `numParam`: An entry of type n.
* `floatParam`: An entry of type f.
* `locParameterTable`, `locDefaultParameters`, `locEngReadConfig`: The table and
  the two functions.
* `defaultInt`: What `loc_default_parameters` sets the integers to.
* `ConfFiles`: The two files, as far as they are there.
* `EngineConf`: `configAlreadyRead`, and the variables.
* `EngineConf.init`: Static variables are 0 at first.
* `FloatParam`: An entry of type f of the table.
* `ConfFiles.lines`: The lines of both files in reading order.
* `Told`: The validity bit says that a file has the parameter, and the value is
  the last one.
* `Kept`: The second file has the parameter if the first has it.
* `splitFiles`: The first file has a parameter, the second another one.

## Theorems

* `floatParam_alone`: The parameters of type f have their own variables.
* `locEngReadConfig_once`: Configuration files are read once.
* `locEngReadConfig_doubles`: The value is that of the last line, in either
  file.
* `locEngReadConfig_valid`: The validity bit is that of the second file, or of
  the first where there is no second.
* `told_iff`: The exact condition for what the validity bits are to say.
-/

namespace Victara

/-- The variables the table of `loc_eng.cpp` points to. -/
inductive ConfVar
  | INTERMEDIATE_POS | ACCURACY_THRES | NMEA_PROVIDER | SUPL_VER | CAPABILITIES | QUIPC_ENABLED
  | LPP_PROFILE | A_GLONASS_POS_PROTOCOL_SELECT
  | GYRO_BIAS_RANDOM_WALK | GYRO_BIAS_RANDOM_WALK_VALID
  | ACCEL_RANDOM_WALK_SPECTRAL_DENSITY | ACCEL_RANDOM_WALK_SPECTRAL_DENSITY_VALID
  | ANGLE_RANDOM_WALK_SPECTRAL_DENSITY | ANGLE_RANDOM_WALK_SPECTRAL_DENSITY_VALID
  | RATE_RANDOM_WALK_SPECTRAL_DENSITY | RATE_RANDOM_WALK_SPECTRAL_DENSITY_VALID
  | VELOCITY_RANDOM_WALK_SPECTRAL_DENSITY | VELOCITY_RANDOM_WALK_SPECTRAL_DENSITY_VALID
  | SENSOR_ACCEL_BATCHES_PER_SEC | SENSOR_ACCEL_SAMPLES_PER_BATCH | SENSOR_GYRO_BATCHES_PER_SEC
  | SENSOR_GYRO_SAMPLES_PER_BATCH | SENSOR_ACCEL_BATCHES_PER_SEC_HIGH
  | SENSOR_ACCEL_SAMPLES_PER_BATCH_HIGH | SENSOR_GYRO_BATCHES_PER_SEC_HIGH
  | SENSOR_GYRO_SAMPLES_PER_BATCH_HIGH | SENSOR_CONTROL_MODE | SENSOR_USAGE
  | SENSOR_ALGORITHM_CONFIG_MASK
  deriving DecidableEq, Repr

/-- An entry of type n. -/
def numParam (param_name : String) (param_ptr : ConfVar) : LocParam ConfVar :=
  ⟨param_name, some param_ptr, none, .n⟩

/-- An entry of type f. -/
def floatParam (param_name : String) (param_ptr param_set : ConfVar) : LocParam ConfVar :=
  ⟨param_name, some param_ptr, some param_set, .f⟩

/-- `loc_parameter_table`. -/
def locParameterTable : List (LocParam ConfVar) := [
  numParam "INTERMEDIATE_POS" .INTERMEDIATE_POS,
  numParam "ACCURACY_THRES" .ACCURACY_THRES,
  numParam "NMEA_PROVIDER" .NMEA_PROVIDER,
  numParam "SUPL_VER" .SUPL_VER,
  numParam "CAPABILITIES" .CAPABILITIES,
  floatParam "GYRO_BIAS_RANDOM_WALK" .GYRO_BIAS_RANDOM_WALK .GYRO_BIAS_RANDOM_WALK_VALID,
  floatParam "ACCEL_RANDOM_WALK_SPECTRAL_DENSITY" .ACCEL_RANDOM_WALK_SPECTRAL_DENSITY
    .ACCEL_RANDOM_WALK_SPECTRAL_DENSITY_VALID,
  floatParam "ANGLE_RANDOM_WALK_SPECTRAL_DENSITY" .ANGLE_RANDOM_WALK_SPECTRAL_DENSITY
    .ANGLE_RANDOM_WALK_SPECTRAL_DENSITY_VALID,
  floatParam "RATE_RANDOM_WALK_SPECTRAL_DENSITY" .RATE_RANDOM_WALK_SPECTRAL_DENSITY
    .RATE_RANDOM_WALK_SPECTRAL_DENSITY_VALID,
  floatParam "VELOCITY_RANDOM_WALK_SPECTRAL_DENSITY" .VELOCITY_RANDOM_WALK_SPECTRAL_DENSITY
    .VELOCITY_RANDOM_WALK_SPECTRAL_DENSITY_VALID,
  numParam "SENSOR_ACCEL_BATCHES_PER_SEC" .SENSOR_ACCEL_BATCHES_PER_SEC,
  numParam "SENSOR_ACCEL_SAMPLES_PER_BATCH" .SENSOR_ACCEL_SAMPLES_PER_BATCH,
  numParam "SENSOR_GYRO_BATCHES_PER_SEC" .SENSOR_GYRO_BATCHES_PER_SEC,
  numParam "SENSOR_GYRO_SAMPLES_PER_BATCH" .SENSOR_GYRO_SAMPLES_PER_BATCH,
  numParam "SENSOR_ACCEL_BATCHES_PER_SEC_HIGH" .SENSOR_ACCEL_BATCHES_PER_SEC_HIGH,
  numParam "SENSOR_ACCEL_SAMPLES_PER_BATCH_HIGH" .SENSOR_ACCEL_SAMPLES_PER_BATCH_HIGH,
  numParam "SENSOR_GYRO_BATCHES_PER_SEC_HIGH" .SENSOR_GYRO_BATCHES_PER_SEC_HIGH,
  numParam "SENSOR_GYRO_SAMPLES_PER_BATCH_HIGH" .SENSOR_GYRO_SAMPLES_PER_BATCH_HIGH,
  numParam "SENSOR_CONTROL_MODE" .SENSOR_CONTROL_MODE,
  numParam "SENSOR_USAGE" .SENSOR_USAGE,
  numParam "SENSOR_ALGORITHM_CONFIG_MASK" .SENSOR_ALGORITHM_CONFIG_MASK,
  numParam "QUIPC_ENABLED" .QUIPC_ENABLED,
  numParam "LPP_PROFILE" .LPP_PROFILE,
  numParam "A_GLONASS_POS_PROTOCOL_SELECT" .A_GLONASS_POS_PROTOCOL_SELECT]

/-- What `loc_default_parameters` sets the integers to. -/
def defaultInt : ConfVar → Option Int
  | .INTERMEDIATE_POS | .ACCURACY_THRES | .NMEA_PROVIDER => some 0
  | .SUPL_VER => some 0x10000
  | .CAPABILITIES => some 0x7
  | .SENSOR_ACCEL_BATCHES_PER_SEC | .SENSOR_GYRO_BATCHES_PER_SEC => some 2
  | .SENSOR_ACCEL_SAMPLES_PER_BATCH | .SENSOR_GYRO_SAMPLES_PER_BATCH => some 5
  | .SENSOR_ACCEL_BATCHES_PER_SEC_HIGH | .SENSOR_GYRO_BATCHES_PER_SEC_HIGH => some 4
  | .SENSOR_ACCEL_SAMPLES_PER_BATCH_HIGH | .SENSOR_GYRO_SAMPLES_PER_BATCH_HIGH => some 25
  | .SENSOR_CONTROL_MODE | .SENSOR_USAGE | .SENSOR_ALGORITHM_CONFIG_MASK => some 0
  | .LPP_PROFILE | .A_GLONASS_POS_PROTOCOL_SELECT => some 0
  | _ => none

def ConfVar.isDouble : ConfVar → Bool
  | .GYRO_BIAS_RANDOM_WALK | .ACCEL_RANDOM_WALK_SPECTRAL_DENSITY
  | .ANGLE_RANDOM_WALK_SPECTRAL_DENSITY | .RATE_RANDOM_WALK_SPECTRAL_DENSITY
  | .VELOCITY_RANDOM_WALK_SPECTRAL_DENSITY => true
  | _ => false

def ConfVar.isValid : ConfVar → Bool
  | .GYRO_BIAS_RANDOM_WALK_VALID | .ACCEL_RANDOM_WALK_SPECTRAL_DENSITY_VALID
  | .ANGLE_RANDOM_WALK_SPECTRAL_DENSITY_VALID | .RATE_RANDOM_WALK_SPECTRAL_DENSITY_VALID
  | .VELOCITY_RANDOM_WALK_SPECTRAL_DENSITY_VALID => true
  | _ => false

variable {F : Type}

/-- `loc_default_parameters`. -/
def locDefaultParameters (libc : Libc F) (conf : Conf ConfVar F) : Conf ConfVar F where
  ints x := (defaultInt x).getD (conf.ints x)
  doubles x := if x.isDouble then libc.zero else conf.doubles x
  strs := conf.strs
  valid x := if x.isValid then false else conf.valid x

/-- The two files, as far as they are there. -/
structure ConfFiles where
  GPS_CONF_FILE : Option (List Char)
  SAP_CONF_FILE : Option (List Char)

/-- `configAlreadyRead`, and the variables. -/
structure EngineConf (F : Type) where
  configAlreadyRead : Bool
  conf : Conf ConfVar F

/-- Static variables are 0 at first. -/
def EngineConf.init (libc : Libc F) : EngineConf F where
  configAlreadyRead := false
  conf := ⟨fun _ => 0, fun _ => libc.zero, fun _ => [], fun _ => false⟩

/-- `loc_eng_read_config`. -/
def locEngReadConfig (libc : Libc F) (s : EngineConf F) (files : ConfFiles) : EngineConf F :=
  if s.configAlreadyRead then s
  else
    let conf := locDefaultParameters libc s.conf
    let conf := locReadConf libc locParameterTable conf files.GPS_CONF_FILE
    let conf := locReadConf libc locParameterTable conf files.SAP_CONF_FILE
    ⟨true, conf⟩

/-! ## The parameters of type f -/

/-- An entry of type f of the table. -/
def FloatParam : Type := { p : LocParam ConfVar // p ∈ locParameterTable ∧ p.param_type = .f }

/-- The lines of both files in reading order. -/
def ConfFiles.lines (files : ConfFiles) : List (List Char) :=
  fileLines files.GPS_CONF_FILE ++ fileLines files.SAP_CONF_FILE

/-- The validity bit of the parameter says whether a line of the files defines
    it, and its value is that of the last such line, or else the default. -/
structure Told (libc : Libc F) (files : ConfFiles) (p : FloatParam) (conf : Conf ConfVar F) :
    Prop where
  valid : ∀ x ∈ p.1.param_set,
    (conf.valid x = true ↔ definitions libc p.1.param_name files.lines ≠ [])
  value : ∀ x ∈ p.1.param_ptr,
    conf.doubles x = (definitions libc p.1.param_name files.lines).getLast?.getD libc.zero

/-- If both files are there and the first defines the parameter, so does the
    second. Reading the second file clears the validity bits of the whole table,
    and what the first has set is only confirmed if it is set again. -/
def Kept (libc : Libc F) (files : ConfFiles) (p : FloatParam) : Prop :=
  files.SAP_CONF_FILE ≠ none →
    definitions libc p.1.param_name (fileLines files.GPS_CONF_FILE) ≠ [] →
    definitions libc p.1.param_name (fileLines files.SAP_CONF_FILE) ≠ []

/-- Each parameter of type f has a variable and a validity bit of its own. -/
theorem floatParam_alone (p : FloatParam) : ∃ ptr set, Alone locParameterTable p.1 ptr set ∧
    ptr.isDouble = true ∧ set.isValid = true := by
  have htable : ∀ p ∈ locParameterTable, p.param_type = .f →
      (p.param_ptr.any ConfVar.isDouble ∧ p.param_set.any ConfVar.isValid) ∧
      ∀ e ∈ locParameterTable, (e.param_type = .f → e.param_ptr = p.param_ptr → e = p) ∧
        (e.param_set = p.param_set → e = p) := by
    decide +kernel
  rcases htable p.1 p.2.1 p.2.2 with ⟨⟨hptr, hset⟩, hother⟩
  rcases (Option.any_eq_true _ _).mp hptr with ⟨ptr, hptr, hdouble⟩
  rcases (Option.any_eq_true _ _).mp hset with ⟨set, hset, hvalid⟩
  refine ⟨ptr, set, ⟨p.2.1, p.2.2, hptr, hset, fun e he htype h => ?_, fun e he h => ?_⟩, hdouble,
    hvalid⟩
  · exact (hother e he).1 htype (h.trans hptr.symm)
  · exact (hother e he).2 (h.trans hset.symm)

theorem getLast?_append_getD (xs ys : List F) (d : F) :
    (xs ++ ys).getLast?.getD d = ys.getLast?.getD (xs.getLast?.getD d) := by
  rw [List.getLast?_append]
  cases ys.getLast? <;> rfl

/-- Configuration files are read once. -/
theorem locEngReadConfig_once (libc : Libc F) {s : EngineConf F} (hs : s.configAlreadyRead = true)
    (later : List ConfFiles) : later.foldl (locEngReadConfig libc) s = s := by
  induction later with
  | nil => rfl
  | cons files later ih =>
      have hsame : locEngReadConfig libc s files = s := by simp [locEngReadConfig, hs]
      rw [List.foldl_cons, hsame, ih]

theorem locEngReadConfig_conf (libc : Libc F) (files : ConfFiles) :
    (locEngReadConfig libc (EngineConf.init libc) files).conf =
      locReadConf libc locParameterTable (locReadConf libc locParameterTable
        (locDefaultParameters libc (EngineConf.init libc).conf) files.GPS_CONF_FILE)
        files.SAP_CONF_FILE := rfl

/-- The value is that of the last line, in either file. -/
theorem locEngReadConfig_doubles (libc : Libc F) (files : ConfFiles) {p : LocParam ConfVar}
    {ptr set : ConfVar} (hp : Alone locParameterTable p ptr set) (hdouble : ptr.isDouble = true) :
    (locEngReadConfig libc (EngineConf.init libc) files).conf.doubles ptr =
      (definitions libc p.param_name files.lines).getLast?.getD libc.zero := by
  have hzero : (locDefaultParameters libc (EngineConf.init libc).conf).doubles ptr = libc.zero := by
    simp [locDefaultParameters, hdouble]
  rw [locEngReadConfig_conf, hp.locReadConf_doubles, hp.locReadConf_doubles, hzero,
    ConfFiles.lines, definitions_append, getLast?_append_getD]

/-- The validity bit is that of the second file, or of the first where there is
    no second. -/
theorem locEngReadConfig_valid (libc : Libc F) (files : ConfFiles) {p : LocParam ConfVar}
    {ptr set : ConfVar} (hp : Alone locParameterTable p ptr set) (hvalid : set.isValid = true) :
    (locEngReadConfig libc (EngineConf.init libc) files).conf.valid set = true ↔
      files.SAP_CONF_FILE = none ∧
          definitions libc p.param_name (fileLines files.GPS_CONF_FILE) ≠ [] ∨
        definitions libc p.param_name (fileLines files.SAP_CONF_FILE) ≠ [] := by
  have hbit : (locDefaultParameters libc (EngineConf.init libc).conf).valid set = false := by
    simp [locDefaultParameters, hvalid]
  rw [locEngReadConfig_conf, hp.locReadConf_valid, hp.locReadConf_valid, hbit]
  simp

theorem definitions_lines (libc : Libc F) (name : String) (files : ConfFiles) :
    definitions libc name files.lines ≠ [] ↔
      definitions libc name (fileLines files.GPS_CONF_FILE) ≠ [] ∨
        definitions libc name (fileLines files.SAP_CONF_FILE) ≠ [] := by
  rw [ConfFiles.lines, definitions_append, ne_eq, List.append_eq_nil_iff, not_and_or]

/-- After any calls, with the first of which `files` were there: the validity
    bit and the value of a parameter of type f are as the files say exactly if
    the second file has a parameter that the first has. Only the first call
    reads anything, so the later ones are arbitrary. -/
theorem told_iff (libc : Libc F) (files : ConfFiles) (later : List ConfFiles) (p : FloatParam) :
    Told libc files p ((files :: later).foldl (locEngReadConfig libc) (EngineConf.init libc)).conf ↔
      Kept libc files p := by
  rw [List.foldl_cons, locEngReadConfig_once libc rfl]
  rcases floatParam_alone p with ⟨ptr, set, hp, hdouble, hvalid⟩
  have hset := locEngReadConfig_valid libc files hp hvalid
  have hany := definitions_lines libc p.1.param_name files
  constructor
  -- The bit is to be set, and with a second file it is so only by that.
  · intro htold hsap hgps
    have hbits := (htold.valid set hp.param_set).mpr (hany.mpr (Or.inl hgps))
    rcases hset.mp hbits with ⟨hnone, -⟩ | hyes
    · exact absurd hnone hsap
    · exact hyes
  · intro hkept
    refine ⟨fun x hx => ?_, fun x hx => ?_⟩
    · rw [hp.param_set] at hx
      cases hx
      rw [hset, hany]
      constructor
      · rintro (⟨-, hgps⟩ | hsap)
        · exact Or.inl hgps
        · exact Or.inr hsap
      -- A definition in the first file counts if there is no second, or is one in the second too.
      · rintro (hgps | hsap)
        · by_cases hnone : files.SAP_CONF_FILE = none
          · exact Or.inl ⟨hnone, hgps⟩
          · exact Or.inr (hkept hnone hgps)
        · exact Or.inr hsap
    · -- The value is as it is to be in any case.
      rw [hp.param_ptr] at hx
      cases hx
      exact locEngReadConfig_doubles libc files hp hdouble

/-- The first file has a parameter, the second another one. -/
def splitFiles : ConfFiles where
  GPS_CONF_FILE := some "GYRO_BIAS_RANDOM_WALK=1\n".toList
  SAP_CONF_FILE := some "SENSOR_USAGE=1\n".toList

def gyroBias : FloatParam := ⟨floatParam "GYRO_BIAS_RANDOM_WALK" .GYRO_BIAS_RANDOM_WALK
  .GYRO_BIAS_RANDOM_WALK_VALID, by decide +kernel, rfl⟩

/-- The parameter is set, and its validity bit is not. -/
theorem splitFiles_told_not :
    ¬ Told wholeLibc splitFiles gyroBias
      (locEngReadConfig wholeLibc (EngineConf.init wholeLibc) splitFiles).conf := by
  intro h
  have hdefined : definitions wholeLibc gyroBias.1.param_name splitFiles.lines ≠ [] := by
    decide +kernel
  have hbit := (h.valid .GYRO_BIAS_RANDOM_WALK_VALID rfl).mpr hdefined
  have hno : (locEngReadConfig wholeLibc (EngineConf.init wholeLibc) splitFiles).conf.valid
      .GYRO_BIAS_RANDOM_WALK_VALID = false := by
    decide +kernel
  rw [hno] at hbit
  cases hbit

end Victara
