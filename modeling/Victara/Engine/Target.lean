import Mathlib.Data.List.Induction
import Victara.Engine.Server
import Victara.Utils.LocCfg

/-!
# The Hardware That Is Found

`loc_get_target` of `loc_target.cpp` finds out which GNSS hardware the device
has, and keeps the answer in `gTarget`. The framework is told what it can ask
for when it asks for the interface, and the position mode is made standalone
when it is set, each by the target of its own call.

The platforms `Liquid`, `Surf` and `MTP` without `/dev/mdm` set nothing, so that
nothing is kept and the next call looks again. What the framework has been told
by then stays as it is.

The target is found once and kept, so what a run leaves is decided by the first
call that finds one; `gTarget_run` and `CAPABILITIES_run` say by which. The two
can differ, because the capabilities are read at one call and the mode is set at
another, and nothing found at the first does not mean nothing found at the
second. `offers_unkept_iff` says when the framework has been told of a mode that
is then not kept.

## Main definitions

* `SysFile`: A path as `access` and `fopen` find it.
* `Device`: A device at the time of a call.
* `waitQca1530`: The loop of `is_qca1530` from the reading `i` on, with `n`
  left.
* `isQca1530`, `readALine`, `detect`, `locGetTarget`: The functions.
* `readEither`: One of two paths is read.
* `isStrEnd`: `IS_STR_END`.
* `isNamed`: `memcmp` finds `name` at the start of the line, and the line ends
  there.
* `targetSet`: `TARGET_SET`.
* `isFusion`: A platform whose modem is behind `/dev/mdm`.
* `PositionMode`: The modes of `LocPositionMode` that the interface has.
* `assistedModes`: The modes that take a server.
* `Hal`, `HalCall`, `Hal.step`, `Hal.run`: What a process calls that depends on
  the target.
* `HalAnswer`: What a call comes to.
* `readConfig`: `loc_eng_read_config`, as far as `CAPABILITIES` goes.
* `getTarget`: `loc_get_target`.
* `interfaceFor`: `get_gps_interface`, once the target is known.
* `HalCall.asks`: The device that `loc_get_target` is called on.
* `HalCall.detects`: The target that a call would find by itself.
* `found`: The target that the first call to find one has found.
* `HalCall.conf`: What a call would read from the configuration.
* `confRead`: The configuration that the calls have read.
* `strips`: An interface was given for hardware that works alone.
* `silentDevice`: A platform whose modem does not show, as long as no other chip
  does.

## Theorems

* `waitQca1530_iff`: The detection is over in time, and ends well.
* `detect_eq_none_iff`: When nothing is found.
* `gTarget_step`: Only the target changes, and only for a call that asks for it.
* `gTarget_run`, `CAPABILITIES_run`: What a run leaves behind.
* `exists_split_append_singleton`: One more element is the last of them, or
  comes after the split.
* `confRead_isSome_of_strips`: Who asks for the interface has read the
  configuration.
* `CAPABILITIES_step`: `CAPABILITIES` is read once, and loses its modes with an
  interface for hardware that works alone.
* `offered_iff`: What the framework is told when the engine starts after
  `before`.
* `not_strips_iff`: An interface that finds hardware finds the one that all
  later calls see.
* `setPositionMode_standalone_iff`: A mode is made standalone by the target that
  is found first.
* `found_locEngInit`: Who is told the capabilities finds no target by that.
* `offers_unkept_iff`: Modes are offered that are not kept.
* `getGpsInterface_given_iff`: No interface is returned for a target without
  GNSS hardware.
* `interface_without_api_iff`: An interface is given, and there is no modem.
-/

namespace Victara

namespace Target

open Server

/-! ## What a device shows -/

/-- A path as `access` and `fopen` find it. -/
structure SysFile where
  found : Bool
  content : Option (List Char)
  deriving DecidableEq, Repr

/-- A device at the time of a call. The readings of `persist.qca1530` come one
    second after the other, and one may fail. -/
structure Device where
  qca1530 : Nat → Option (List Char)
  baseband : List Char
  hw_platform : SysFile
  hw_platform_dep : SysFile
  id : SysFile
  id_dep : SysFile
  mdm : SysFile

def LINE_LEN : Nat := 100

def QCA1530_DETECT_TIMEOUT : Nat := 30

def QCA1530_DETECT_PRESENT : List Char := ['y', 'e', 's']

def QCA1530_DETECT_PROGRESS : List Char := ['d', 'e', 't', 'e', 'c', 't']

/-- The loop of `is_qca1530` from the reading `i` on, with `n` left. A property
    has no NUL in it, so that `memcmp` with the terminator compares all of it. -/
def waitQca1530 (reading : Nat → Option (List Char)) : Nat → Nat → Bool
  | _, 0 => false
  | i, n + 1 =>
      match reading i with
      | none => false
      | some buf =>
          if buf = QCA1530_DETECT_PRESENT then true
          else if buf = QCA1530_DETECT_PROGRESS then waitQca1530 reading (i + 1) n
          else false

/-- `is_qca1530`. -/
def isQca1530 (reading : Nat → Option (List Char)) : Bool :=
  waitQca1530 reading 0 QCA1530_DETECT_TIMEOUT

/-- `read_a_line`: whether the file could be opened, and the line up to its
    terminator. -/
def readALine (file : SysFile) : Bool × List Char :=
  match file.content with
  | none => (false, [])
  | some content => (true, (fgetsLines (LINE_LEN - 1) [] content).head?.getD [])

/-- One of two paths is read. -/
def readEither (file deprecated : SysFile) : List Char :=
  if file.found then (readALine file).2 else (readALine deprecated).2

/-- `IS_STR_END`. -/
def isStrEnd (c : Char) : Bool := c = '\x00' || c = '\n' || c = '\r'

/-- `memcmp` finds `name` at the start of the line, and the line ends there. -/
def isNamed (name line : List Char) : Bool :=
  name.isPrefixOf line && ((line ++ ['\x00'])[name.length]?).any isStrEnd

/-! ## The target -/

def GNSS_NONE : Nat := 0

def GNSS_MSM : Nat := 1

def GNSS_MDM : Nat := 3

def GNSS_UNKNOWN : Nat := 5

def NO_SSC : Nat := 0

def HAS_SSC : Nat := 1

/-- `TARGET_SET`. -/
def targetSet (gnss ssc : Nat) : Nat := gnss <<< 1 ||| ssc

def TARGET_MDM : Nat := targetSet GNSS_MDM HAS_SSC

def TARGET_APQ_SA : Nat := targetSet GNSS_GSS NO_SSC

def TARGET_MPQ : Nat := targetSet GNSS_NONE NO_SSC

def TARGET_MSM_NO_SSC : Nat := targetSet GNSS_MSM NO_SSC

def TARGET_QCA1530 : Nat := targetSet GNSS_QCA1530 NO_SSC

def TARGET_UNKNOWN : Nat := targetSet GNSS_UNKNOWN NO_SSC

/-- What `gTarget` is before it is set, `(unsigned int) -1`. -/
def NO_TARGET : Nat := 2 ^ 32 - 1

def STR_LIQUID : List Char := ['L', 'i', 'q', 'u', 'i', 'd']

def STR_SURF : List Char := ['S', 'u', 'r', 'f']

def STR_MTP : List Char := ['M', 'T', 'P']

def STR_APQ : List Char := ['a', 'p', 'q']

def MPQ8064_ID_1 : List Char := ['1', '3', '0']

def MSM8930_ID_1 : List Char := ['1', '4', '2']

def MSM8930_ID_2 : List Char := ['1', '1', '6']

/-- A platform whose modem is behind `/dev/mdm`. -/
def isFusion (rd_hw_platform : List Char) : Bool :=
  isNamed STR_LIQUID rd_hw_platform || isNamed STR_SURF rd_hw_platform ||
    isNamed STR_MTP rd_hw_platform

/-- What `loc_get_target` sets `gTarget` to, if it sets it. -/
def detect (dev : Device) : Option Nat :=
  if isQca1530 dev.qca1530 then some TARGET_QCA1530
  else
    let rd_hw_platform := readEither dev.hw_platform dev.hw_platform_dep
    let rd_id := readEither dev.id dev.id_dep
    if STR_APQ.isPrefixOf dev.baseband then
      if isNamed MPQ8064_ID_1 rd_id then some TARGET_MPQ else some TARGET_APQ_SA
    else if isFusion rd_hw_platform then
      if (readALine dev.mdm).1 then some TARGET_MDM else none
    else if isNamed MSM8930_ID_1 rd_id || isNamed MSM8930_ID_2 rd_id then some TARGET_MSM_NO_SSC
    else some TARGET_UNKNOWN

/-- `loc_get_target`: what `gTarget` is after it, and what it returns. -/
def locGetTarget (gTarget : Nat) (dev : Device) : Nat :=
  if gTarget ≠ NO_TARGET then gTarget else (detect dev).getD gTarget

/-! ## What depends on it -/

/-- The modes of `LocPositionMode` that the interface has. -/
inductive PositionMode
  | STANDALONE | MS_BASED | MS_ASSISTED
  deriving DecidableEq, Repr

variable {w : Nat}

def GPS_CAPABILITY_MSB : BitVec w := BitVec.ofNat w 2

def GPS_CAPABILITY_MSA : BitVec w := BitVec.ofNat w 4

/-- The modes that take a server. -/
def assistedModes : BitVec w := GPS_CAPABILITY_MSA ||| GPS_CAPABILITY_MSB

/-- What a process has that the calls change, with an `unsigned long` of `w` bits. -/
structure Hal (w : Nat) where
  gTarget : Nat
  configAlreadyRead : Bool
  CAPABILITIES : BitVec w
  deriving DecidableEq, Repr

/-- A call, on the device as it is then. What a configuration would set
    `CAPABILITIES` to comes with those that read it. -/
inductive HalCall (w : Nat)
  /-- With the property `gps.disable`. -/
  | gpsGetHardwareInterface (conf : BitVec w) (disable : List Char)
  | getGpsInterface (conf : BitVec w) (dev : Device)
  /-- With an adapter or without, and with a `set_capabilities_cb` or not. -/
  | locEngInit (adapter callback : Bool)
  | locEngSetPositionMode (dev : Device) (adapter : Bool) (mode : PositionMode)
  | locEngAgpsInit (dev : Device) (data : LocEngData) (resolve : ResolveInAddr)
      (callbacks : Option Bool)
  | createLocApi (dev : Device)

/-- What a call comes to. -/
inductive HalAnswer (w : Nat)
  /-- An interface is returned, or `NULL`. -/
  | interface (given : Bool)
  /-- What the framework is told, if it is told. -/
  | capabilities (told : Option (BitVec w))
  /-- The mode that the adapter is sent, if there is one. -/
  | mode (sent : Option PositionMode)
  | agps (data : LocEngData) (sent : Option (List Sent))
  /-- A library is asked for the modem API, or there is only the dummy. -/
  | locApi (asked : Bool)

namespace Hal

def start : Hal w := ⟨NO_TARGET, false, 0⟩

/-- `loc_eng_read_config`, as far as `CAPABILITIES` goes. -/
def readConfig (hal : Hal w) (conf : BitVec w) : Hal w :=
  if hal.configAlreadyRead then hal
  else { hal with CAPABILITIES := conf, configAlreadyRead := true }

/-- `loc_get_target`. -/
def getTarget (hal : Hal w) (dev : Device) : Hal w :=
  { hal with gTarget := locGetTarget hal.gTarget dev }

/-- `get_gps_interface`, once the target is known. -/
def interfaceFor (hal : Hal w) : Hal w × HalAnswer w :=
  if getTargetGnssType hal.gTarget = GNSS_GSS then
    ({ hal with CAPABILITIES := hal.CAPABILITIES &&& ~~~assistedModes }, .interface true)
  else if getTargetGnssType hal.gTarget = GNSS_NONE then (hal, .interface false)
  else if getTargetGnssType hal.gTarget = GNSS_QCA1530 then
    ({ hal with CAPABILITIES := hal.CAPABILITIES &&& ~~~assistedModes }, .interface true)
  else (hal, .interface true)

def step (hal : Hal w) : HalCall w → Hal w × HalAnswer w
  | .gpsGetHardwareInterface conf disable =>
      (hal.readConfig conf, .interface (disable.head? ≠ some '1'))
  | .getGpsInterface conf dev => ((hal.readConfig conf).getTarget dev).interfaceFor
  | .locEngInit adapter callback =>
      (hal, .capabilities (if !adapter && callback then some hal.CAPABILITIES else none))
  | .locEngSetPositionMode dev adapter mode =>
      if adapter then
        let hal := hal.getTarget dev
        (hal, .mode (some (if isAPQor1530 hal.gTarget then .STANDALONE else mode)))
      else (hal, .mode none)
  | .locEngAgpsInit dev data resolve callbacks =>
      let hal := if agpsStarts data callbacks then hal.getTarget dev else hal
      let sent := Server.locEngAgpsInit data resolve callbacks hal.gTarget
      (hal, .agps sent.1 sent.2)
  | .createLocApi dev =>
      let hal := hal.getTarget dev
      (hal, .locApi (hal.gTarget ≠ TARGET_MPQ))

def run (hal : Hal w) (calls : List (HalCall w)) : Hal w :=
  calls.foldl (fun hal call => (hal.step call).1) hal

@[simp] theorem run_nil (hal : Hal w) : hal.run [] = hal := rfl

@[simp] theorem run_append_singleton (hal : Hal w) (calls : List (HalCall w)) (call : HalCall w) :
    hal.run (calls ++ [call]) = ((hal.run calls).step call).1 := by
  simp [run]

end Hal

/-- The device that `loc_get_target` is called on. -/
def HalCall.asks : HalCall w → Option Device
  | .gpsGetHardwareInterface .. | .locEngInit .. => none
  | .getGpsInterface _ dev => some dev
  | .locEngSetPositionMode dev adapter _ => if adapter then some dev else none
  | .locEngAgpsInit dev data _ callbacks => if agpsStarts data callbacks then some dev else none
  | .createLocApi dev => some dev

/-- The target that a call would find by itself. -/
def HalCall.detects (call : HalCall w) : Option Nat := call.asks.bind detect

/-- The target that the first of the calls to find one has found. -/
def found (calls : List (HalCall w)) : Option Nat := calls.findSome? HalCall.detects

/-- What a call would read from the configuration. -/
def HalCall.conf : HalCall w → Option (BitVec w)
  | .gpsGetHardwareInterface conf _ | .getGpsInterface conf _ => some conf
  | _ => none

/-- The configuration that the calls have read. -/
def confRead (calls : List (HalCall w)) : Option (BitVec w) := calls.findSome? HalCall.conf

def HalCall.givesInterface : HalCall w → Bool
  | .getGpsInterface .. => true
  | _ => false

/-- An interface was given for hardware that works alone, and the modes that
    take a server are no longer offered. -/
def strips (calls : List (HalCall w)) : Prop :=
  ∃ before call after, calls = before ++ call :: after ∧ call.givesInterface = true ∧
    (found (before ++ [call])).any isAPQor1530 = true

/-! ## The detection -/

theorem waitQca1530_iff (reading : Nat → Option (List Char)) (i n : Nat) :
    waitQca1530 reading i n = true ↔
      ∃ k < n, reading (i + k) = some QCA1530_DETECT_PRESENT ∧
        ∀ j < k, reading (i + j) = some QCA1530_DETECT_PROGRESS := by
  induction n generalizing i with
  | zero => simp [waitQca1530]
  | succ n ih =>
      rw [waitQca1530]
      constructor
      · intro h
        cases hread : reading i with
        | none => simp [hread] at h
        | some buf =>
            simp only [hread] at h
            split at h
            next hyes => exact ⟨0, Nat.succ_pos n, by rw [Nat.add_zero, hread, hyes], by simp⟩
            next =>
              split at h
              next hdetect =>
                rcases (ih (i + 1)).mp h with ⟨k, hk, hyes, hbefore⟩
                -- The reads are counted from the next one in the rest of the loop.
                refine ⟨k + 1, by omega, by rw [← hyes]; congr 1; omega, fun j hj => ?_⟩
                cases j with
                | zero => rw [Nat.add_zero, hread, hdetect]
                | succ j =>
                    rw [← hbefore j (by omega)]
                    congr 1
                    omega
              next => cases h
      · rintro ⟨k, hk, hyes, hbefore⟩
        cases k with
        | zero => simp [show reading i = some QCA1530_DETECT_PRESENT from hyes]
        -- The first read was one of progress, so the loop comes to the rest.
        | succ k =>
            have hfirst : reading i = some QCA1530_DETECT_PROGRESS := hbefore 0 (Nat.succ_pos k)
            have hrest : waitQca1530 reading (i + 1) n = true := by
              refine (ih (i + 1)).mpr ⟨k, by omega, ?_, fun j hj => ?_⟩
              · rw [← hyes]
                congr 1
                omega
              · rw [← hbefore (j + 1) (by omega)]
                congr 1
                omega
            simp only [hfirst]
            rw [if_neg (by decide), if_true]
            exact hrest

theorem isQca1530_iff (reading : Nat → Option (List Char)) :
    isQca1530 reading = true ↔
      ∃ k < QCA1530_DETECT_TIMEOUT, reading k = some QCA1530_DETECT_PRESENT ∧
        ∀ j < k, reading j = some QCA1530_DETECT_PROGRESS := by
  simpa only [isQca1530, Nat.zero_add] using waitQca1530_iff reading 0 QCA1530_DETECT_TIMEOUT

/-- Nothing is found just on the platforms that should have a modem outside,
    and do not show it. -/
theorem detect_eq_none_iff (dev : Device) :
    detect dev = none ↔
      isQca1530 dev.qca1530 = false ∧ STR_APQ.isPrefixOf dev.baseband = false ∧
        isFusion (readEither dev.hw_platform dev.hw_platform_dep) = true ∧
          dev.mdm.content = none := by
  have hmdm : (readALine dev.mdm).1 = false ↔ dev.mdm.content = none := by
    cases hcontent : dev.mdm.content <;> simp [readALine, hcontent]
  rw [← hmdm]
  simp only [detect]
  split_ifs with hqca hbaseband hmpq hfusion hopened hmsm <;> simp [*]

theorem detect_ne (dev : Device) : detect dev ≠ some NO_TARGET := by
  simp only [detect]
  split_ifs <;> decide

theorem locGetTarget_getD {t : Option Nat} (h : t ≠ some NO_TARGET) (dev : Device) :
    locGetTarget (t.getD NO_TARGET) dev = (t.or (detect dev)).getD NO_TARGET := by
  cases t with
  | none => simp [locGetTarget]
  | some t =>
      have hne : t ≠ NO_TARGET := fun he => h (congrArg some he)
      simp [locGetTarget, hne]

theorem isAPQor1530_getD (t : Option Nat) :
    isAPQor1530 (t.getD NO_TARGET) = t.any isAPQor1530 := by
  cases t <;> rfl

/-! ## What a run leaves behind -/

theorem found_append (calls calls' : List (HalCall w)) :
    found (calls ++ calls') = (found calls).or (found calls') :=
  List.findSome?_append

theorem found_append_singleton (calls : List (HalCall w)) (call : HalCall w) :
    found (calls ++ [call]) = (found calls).or call.detects := by
  rw [found_append]
  simp [found]

theorem found_ne (calls : List (HalCall w)) : found calls ≠ some NO_TARGET := by
  intro h
  rcases List.exists_of_findSome?_eq_some h with ⟨call, _, hcall⟩
  rcases Option.bind_eq_some_iff.mp hcall with ⟨dev, _, hdev⟩
  exact detect_ne dev hdev

namespace Hal

variable (hal : Hal w)

@[simp] theorem gTarget_readConfig (conf : BitVec w) :
    (hal.readConfig conf).gTarget = hal.gTarget := by
  unfold readConfig
  split <;> rfl

@[simp] theorem gTarget_interfaceFor : hal.interfaceFor.1.gTarget = hal.gTarget := by
  unfold interfaceFor
  split_ifs <;> rfl

/-- Only the target changes, and only for a call that asks for it. -/
theorem gTarget_step (call : HalCall w) :
    (hal.step call).1.gTarget =
      (call.asks.map (locGetTarget hal.gTarget)).getD hal.gTarget := by
  cases call with
  | gpsGetHardwareInterface conf disable => simp [step, HalCall.asks]
  | getGpsInterface conf dev => simp [step, HalCall.asks, getTarget]
  | locEngInit adapter callback => rfl
  | locEngSetPositionMode dev adapter mode => cases adapter <;> rfl
  | locEngAgpsInit dev data resolve callbacks =>
      simp only [step, HalCall.asks]
      split <;> rfl
  | createLocApi dev => rfl

end Hal

/-- The target is the one that was found first. -/
theorem gTarget_run (calls : List (HalCall w)) :
    (Hal.start.run calls).gTarget = (found calls).getD NO_TARGET := by
  induction calls using List.reverseRecOn with
  | nil => rfl
  | append_singleton calls call ih =>
      rw [Hal.run_append_singleton, Hal.gTarget_step, ih, found_append_singleton]
      cases hasks : call.asks with
      | none => simp [HalCall.detects, hasks]
      | some dev => simp [HalCall.detects, hasks, locGetTarget_getD (found_ne calls)]

/-- One more element is the last of them, or comes after the split. -/
theorem exists_split_append_singleton {α : Type} {P : List α → α → Prop} (l : List α) (x : α) :
    (∃ before y after, l ++ [x] = before ++ y :: after ∧ P before y) ↔
      (∃ before y after, l = before ++ y :: after ∧ P before y) ∨ P l x := by
  constructor
  · rintro ⟨before, y, after, hsplit, hP⟩
    rcases List.eq_nil_or_concat after with rfl | ⟨after', z, rfl⟩
    · rcases List.append_inj' hsplit rfl with ⟨rfl, hlast⟩
      cases hlast
      exact Or.inr hP
    · rw [List.concat_eq_append, ← List.cons_append, ← List.append_assoc] at hsplit
      exact Or.inl ⟨before, y, after', (List.append_inj' hsplit rfl).1, hP⟩
  · rintro (⟨before, y, after, rfl, hP⟩ | hP)
    · exact ⟨before, y, after ++ [x], by simp, hP⟩
    · exact ⟨l, x, [], rfl, hP⟩

theorem strips_append_singleton (calls : List (HalCall w)) (call : HalCall w) :
    strips (calls ++ [call]) ↔
      strips calls ∨
        (call.givesInterface = true ∧ (found (calls ++ [call])).any isAPQor1530 = true) :=
  exists_split_append_singleton calls call

theorem confRead_append_singleton (calls : List (HalCall w)) (call : HalCall w) :
    confRead (calls ++ [call]) = (confRead calls).or call.conf := by
  simp [confRead, List.findSome?_append]

/-- Who asks for the interface has read the configuration. -/
theorem confRead_isSome_of_strips {calls : List (HalCall w)} (h : strips calls) :
    (confRead calls).isSome = true := by
  rcases h with ⟨before, call, after, rfl, hgives, -⟩
  cases call with
  | getGpsInterface conf dev => simp [confRead, List.findSome?_append, HalCall.conf]
  | _ => cases hgives

namespace Hal

variable (hal : Hal w)

theorem configAlreadyRead_step (call : HalCall w) :
    (hal.step call).1.configAlreadyRead = (hal.configAlreadyRead || call.conf.isSome) := by
  have hread : ∀ conf : BitVec w, (hal.readConfig conf).configAlreadyRead = true := by
    intro conf
    unfold readConfig
    split
    next h => exact h
    next => rfl
  have hinterface : ∀ hal : Hal w,
      hal.interfaceFor.1.configAlreadyRead = hal.configAlreadyRead := by
    intro hal
    unfold interfaceFor
    split_ifs <;> rfl
  cases call with
  | gpsGetHardwareInterface conf disable => simp [step, HalCall.conf, hread]
  | getGpsInterface conf dev => simp [step, HalCall.conf, hinterface, getTarget, hread]
  | locEngInit adapter callback => simp [step, HalCall.conf]
  | locEngSetPositionMode dev adapter mode => cases adapter <;> simp [step, HalCall.conf, getTarget]
  | locEngAgpsInit dev data resolve callbacks =>
      simp only [step, HalCall.conf]
      split <;> simp [getTarget]
  | createLocApi dev => simp [step, HalCall.conf, getTarget]

/-- `CAPABILITIES` is read once, and loses its modes with an interface for
    hardware that works alone. -/
theorem CAPABILITIES_step (call : HalCall w) :
    (hal.step call).1.CAPABILITIES =
      let read := if hal.configAlreadyRead then hal.CAPABILITIES
        else call.conf.getD hal.CAPABILITIES
      if call.givesInterface && isAPQor1530 (hal.step call).1.gTarget then
        read &&& ~~~assistedModes
      else read := by
  -- The file is read once in a process, whoever asks first.
  have hread : ∀ conf : BitVec w, (hal.readConfig conf).CAPABILITIES =
      if hal.configAlreadyRead then hal.CAPABILITIES else conf := by
    intro conf
    unfold readConfig
    split <;> rfl
  -- Only the two targets named take bits away when the interface is given.
  have hinterface : ∀ hal : Hal w, hal.interfaceFor.1.CAPABILITIES =
      if isAPQor1530 hal.gTarget then hal.CAPABILITIES &&& ~~~assistedModes
      else hal.CAPABILITIES := by
    intro hal
    unfold interfaceFor isAPQor1530
    by_cases hgss : getTargetGnssType hal.gTarget = GNSS_GSS
    · simp [hgss]
    · by_cases hnone : getTargetGnssType hal.gTarget = GNSS_NONE
      · simp [hnone, GNSS_NONE, GNSS_GSS, GNSS_QCA1530]
      · by_cases hqca : getTargetGnssType hal.gTarget = GNSS_QCA1530
        · simp [hqca, GNSS_NONE, GNSS_GSS, GNSS_QCA1530]
        · simp [hgss, hnone, hqca]
  cases call with
  | gpsGetHardwareInterface conf disable =>
      simp [step, HalCall.givesInterface, HalCall.conf, hread]
  | getGpsInterface conf dev =>
      simp [step, HalCall.givesInterface, HalCall.conf, hinterface, hread, getTarget]
  | locEngInit adapter callback => simp [step, HalCall.givesInterface, HalCall.conf]
  | locEngSetPositionMode dev adapter mode =>
      cases adapter <;> simp [step, HalCall.givesInterface, HalCall.conf, getTarget]
  | locEngAgpsInit dev data resolve callbacks =>
      simp only [step, HalCall.givesInterface, HalCall.conf]
      split <;> simp [getTarget]
  | createLocApi dev => simp [step, HalCall.givesInterface, HalCall.conf, getTarget]

end Hal

theorem configAlreadyRead_run (calls : List (HalCall w)) :
    (Hal.start.run calls).configAlreadyRead = (confRead calls).isSome := by
  induction calls using List.reverseRecOn with
  | nil => rfl
  | append_singleton calls call ih =>
      rw [Hal.run_append_singleton, Hal.configAlreadyRead_step, ih, confRead_append_singleton]
      cases confRead calls <;> simp

/-- What is offered is what the configuration says, less the modes that an
    interface has stripped. -/
theorem CAPABILITIES_run (calls : List (HalCall w)) :
    (strips calls → (Hal.start.run calls).CAPABILITIES =
        (confRead calls).getD 0 &&& ~~~assistedModes) ∧
      (¬strips calls → (Hal.start.run calls).CAPABILITIES = (confRead calls).getD 0) := by
  induction calls using List.reverseRecOn with
  | nil => exact ⟨fun ⟨_, _, _, hsplit, _⟩ => absurd hsplit (by simp), fun _ => rfl⟩
  | append_singleton calls call ih =>
      have htarget := gTarget_run (calls ++ [call])
      rw [Hal.run_append_singleton] at htarget ⊢
      rw [Hal.CAPABILITIES_step, htarget, isAPQor1530_getD, configAlreadyRead_run,
        strips_append_singleton, confRead_append_singleton, ← Bool.and_eq_true]
      by_cases hstrips : strips calls
      · -- The configuration has been read, and its modes are gone already.
        rcases Option.isSome_iff_exists.mp (confRead_isSome_of_strips hstrips) with ⟨conf, hconf⟩
        have hbefore := ih.1 hstrips
        rw [hconf, Option.getD_some] at hbefore
        simp [hstrips, hconf, hbefore, BitVec.and_assoc]
      -- They may go with this call, if the configuration has been read by then.
      · have hbefore := ih.2 hstrips
        cases hconf : confRead calls with
        | none =>
            rw [hconf, Option.getD_none] at hbefore
            simp only [hstrips, false_or, hbefore, Option.isSome_none, Bool.false_eq_true, if_false,
              Option.none_or]
            exact ⟨fun hnew => if_pos hnew, fun hnew => if_neg hnew⟩
        | some conf =>
            rw [hconf, Option.getD_some] at hbefore
            simp only [hstrips, false_or, hbefore, Option.isSome_some, if_true, Option.some_or,
              Option.getD_some]
            exact ⟨fun hnew => if_pos hnew, fun hnew => if_neg hnew⟩

/-- What the framework is told when the engine starts after `before`. -/
theorem offered_iff (before : List (HalCall w)) :
    (Hal.start.run before).CAPABILITIES &&& assistedModes ≠ 0 ↔
      ¬strips before ∧ (confRead before).getD 0 &&& assistedModes ≠ 0 := by
  by_cases hstrips : strips before
  · rw [(CAPABILITIES_run before).1 hstrips]
    simp [hstrips, BitVec.and_assoc]
  · rw [(CAPABILITIES_run before).2 hstrips]
    simp [hstrips]

/-! ## What is offered and not kept -/

/-- An interface that finds hardware finds the one that all later calls see. -/
theorem not_strips_iff (before after : List (HalCall w))
    (h : (found (before ++ after)).any isAPQor1530 = true) :
    ¬strips before ↔
      ∀ earlier call later, before = earlier ++ call :: later → call.givesInterface = true →
        found (earlier ++ [call]) = none := by
  constructor
  · intro hstrips earlier call later hsplit hgives
    by_contra hfound
    rcases Option.ne_none_iff_exists'.mp hfound with ⟨target, htarget⟩
    have hsame : found (before ++ after) = some target := by
      rw [hsplit, List.append_cons, found_append, found_append, htarget, Option.some_or,
        Option.some_or]
    refine hstrips ⟨earlier, call, later, hsplit, hgives, ?_⟩
    rwa [htarget, ← hsame]
  · rintro hnone ⟨earlier, call, later, hsplit, hgives, hany⟩
    rw [hnone earlier call later hsplit hgives] at hany
    cases hany

/-- A mode is made standalone by the target that is found first. -/
theorem setPositionMode_standalone_iff (calls : List (HalCall w)) (dev : Device)
    {mode : PositionMode} (hmode : mode ≠ .STANDALONE) :
    ((Hal.start.run calls).step (.locEngSetPositionMode dev true mode)).2 =
        .mode (some .STANDALONE) ↔
      (found (calls ++ [.locEngSetPositionMode dev true mode])).any isAPQor1530 = true := by
  have htarget := gTarget_run (calls ++ [.locEngSetPositionMode dev true mode])
  rw [Hal.run_append_singleton] at htarget
  rw [← isAPQor1530_getD, ← htarget]
  simp only [Hal.step, if_true, HalAnswer.mode.injEq, Option.some.injEq]
  split
  next halone => simp [halone]
  next halone => simp [halone, hmode]

/-- Who is told the capabilities finds no target by that. -/
theorem found_locEngInit (before after : List (HalCall w)) (adapter callback : Bool) :
    found (before ++ .locEngInit adapter callback :: after) = found (before ++ after) := by
  rw [found_append, found_append]
  rfl

/-- The framework is told of a mode that takes a server, and the mode is made
    standalone when it is set, just if the configuration has such a mode, the
    hardware works alone, and nothing had been found whenever the interface was
    asked for. -/
theorem offers_unkept_iff (before after : List (HalCall w)) (dev : Device) {mode : PositionMode}
    (hmode : mode ≠ .STANDALONE) :
    ((∃ told, ((Hal.start.run before).step (.locEngInit false true)).2 = .capabilities (some told) ∧
        told &&& assistedModes ≠ 0) ∧
      ((Hal.start.run (before ++ .locEngInit false true :: after)).step
        (.locEngSetPositionMode dev true mode)).2 = .mode (some .STANDALONE)) ↔
      (confRead before).getD 0 &&& assistedModes ≠ 0 ∧
        (found (before ++ after ++ [.locEngSetPositionMode dev true mode])).any isAPQor1530 = true ∧
          ∀ earlier call later, before = earlier ++ call :: later → call.givesInterface = true →
            found (earlier ++ [call]) = none := by
  have htold : (∃ told, ((Hal.start.run before).step (.locEngInit false true)).2 =
      .capabilities (some told) ∧ told &&& assistedModes ≠ 0) ↔
        (Hal.start.run before).CAPABILITIES &&& assistedModes ≠ 0 := by
    simp [Hal.step]
  -- Starting the engine finds nothing, so that it may be left out of the calls.
  have hfound : found (before ++ .locEngInit false true :: after ++
      [.locEngSetPositionMode dev true mode]) =
        found (before ++ after ++ [.locEngSetPositionMode dev true mode]) := by
    rw [found_append_singleton, found_append_singleton, found_locEngInit]
  rw [htold, offered_iff, setPositionMode_standalone_iff _ _ hmode, hfound]
  -- The target is found by the end; the modes were offered if no interface had found it before.
  constructor
  · rintro ⟨⟨hstrips, hconf⟩, hany⟩
    have hany' := hany
    rw [List.append_assoc] at hany'
    exact ⟨hconf, hany, (not_strips_iff before _ hany').mp hstrips⟩
  · rintro ⟨hconf, hany, hnone⟩
    have hany' := hany
    rw [List.append_assoc] at hany'
    exact ⟨⟨(not_strips_iff before _ hany').mpr hnone, hconf⟩, hany⟩

/-- A platform whose modem does not show, as long as no other chip does. -/
def silentDevice (qca1530 : List Char) : Device where
  qca1530 := fun _ => some qca1530
  baseband := ['m', 'd', 'm']
  hw_platform := ⟨true, some ['M', 'T', 'P', '\n']⟩
  hw_platform_dep := ⟨false, none⟩
  id := ⟨true, some ['1', '0', '9', '\n']⟩
  id_dep := ⟨false, none⟩
  mdm := ⟨false, none⟩

theorem offers_unkept_late :
    let offered : List (HalCall 32) := [.getGpsInterface 7 (silentDevice [])]
    (∃ told, ((Hal.start.run offered).step (.locEngInit false true)).2 = .capabilities (some told) ∧
        told &&& assistedModes ≠ 0) ∧
      ((Hal.start.run (offered ++ .locEngInit false true :: [])).step
        (.locEngSetPositionMode (silentDevice QCA1530_DETECT_PRESENT) true .MS_BASED)).2 =
          .mode (some .STANDALONE) := by
  refine (offers_unkept_iff [.getGpsInterface 7 (silentDevice [])] []
    (silentDevice QCA1530_DETECT_PRESENT) (by decide)).mpr ⟨by decide, by decide, ?_⟩
  intro earlier call later hsplit _
  rcases List.append_eq_cons_iff.mp hsplit.symm with ⟨rfl, hcall⟩ | ⟨rest, rfl, hrest⟩
  · cases hcall
    decide
  · simp at hrest

/-! ## An interface without a modem -/

theorem gnssNone_of_detect {dev : Device} {target : Nat} (h : detect dev = some target) :
    getTargetGnssType target = GNSS_NONE ↔ target = TARGET_MPQ := by
  simp only [detect] at h
  split_ifs at h <;> cases h <;> decide

theorem gnssNone_of_found {calls : List (HalCall w)} {target : Nat}
    (h : found calls = some target) : getTargetGnssType target = GNSS_NONE ↔ target = TARGET_MPQ := by
  rcases List.exists_of_findSome?_eq_some h with ⟨call, _, hcall⟩
  rcases Option.bind_eq_some_iff.mp hcall with ⟨dev, _, hdev⟩
  exact gnssNone_of_detect hdev

/-- No interface is returned for a target without GNSS hardware. -/
theorem getGpsInterface_given_iff (before : List (HalCall w)) (conf : BitVec w) (dev : Device) :
    ((Hal.start.run before).step (.getGpsInterface conf dev)).2 = .interface true ↔
      found (before ++ [.getGpsInterface conf dev]) ≠ some TARGET_MPQ := by
  have hgiven : ∀ hal : Hal w, hal.interfaceFor.2 = .interface true ↔
      getTargetGnssType hal.gTarget ≠ GNSS_NONE := by
    intro hal
    unfold Hal.interfaceFor
    by_cases hnone : getTargetGnssType hal.gTarget = GNSS_NONE
    · simp [hnone, GNSS_NONE, GNSS_GSS]
    · split_ifs <;> simp [hnone]
  have htarget := gTarget_run (before ++ [.getGpsInterface conf dev])
  rw [Hal.run_append_singleton, Hal.step, Hal.gTarget_interfaceFor] at htarget
  rw [Hal.step, hgiven, htarget]
  cases hfound : found (before ++ [.getGpsInterface conf dev]) with
  | none => simp [NO_TARGET, getTargetGnssType, GNSS_NONE]
  | some target => simp [gnssNone_of_found hfound]

theorem createLocApi_asked_iff (calls : List (HalCall w)) (dev : Device) :
    ((Hal.start.run calls).step (.createLocApi dev)).2 = .locApi true ↔
      found (calls ++ [.createLocApi dev]) ≠ some TARGET_MPQ := by
  have htarget := gTarget_run (calls ++ [.createLocApi dev])
  rw [Hal.run_append_singleton, Hal.step] at htarget
  simp only [Hal.step, HalAnswer.locApi.injEq, decide_eq_true_eq]
  rw [htarget]
  cases found (calls ++ [.createLocApi dev]) with
  | none => simp [NO_TARGET, TARGET_MPQ, targetSet, GNSS_NONE, NO_SSC]
  | some target => simp

end Target

end Victara
