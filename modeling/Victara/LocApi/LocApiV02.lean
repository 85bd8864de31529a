import Victara.Lib.Mask
import Victara.Sync.Model

/-!
# The Location Client of the Modem

`LocApiV02.cpp`: the part of the location API that holds a client of the
modem's location service. It opens and closes the client, keeps the mask of
events the client is registered for, and starts and stops fixes.

A client that is registered for position, satellite, NMEA and engine state
events is woken up by the modem all the time. So these are left out while no
fix is running: every mask goes through `registerEventMask`, which takes them
off when `mInSession` is false. The engine goes on for a while after a fix is
stopped, and its last events are wanted: with the engine on, `stopFix` leaves
the registration to the engine state indication that says it is off.

What the modem answers is an argument of each function. `registered` is the
mask that the client was last opened with or registered for; it is the modem
that keeps it. `sent` has the requests of the message being processed.

## Main definitions

* `EventMask`: `LOC_API_ADAPTER_EVENT_MASK_T`.
* `QmiMask`: `locClientEventMaskType`.
* `AdapterErr`: `loc_api_adapter_err`.
* `GpsPositionRecurrence`: Any other value is periodic to `startFix`.
* `LocPosMode`: The criteria of a fix.
* `LocPosMode.new`: The criteria that `LocPosMode` is constructed with.
* `new`: A client that has not been opened.
* `StartMsg`: `qmiLocStartReqMsgT_v02`: the application is there when
  credentials are given, and altitude assumed information is always disabled.
* `StartEnv`: What `startFix` gets back: the result of the mode request, whether
  its indication says success, and the result of the start request.
* `LocApiV02`: `clientHandle` says whether the handle is valid.
* `eventBits`: The bits of the adapters' mask and the events of the modem they
  stand for.
* `eventsOf`: The events of those bits that a mask has one of.
* `sessionEvents`: The events that only a running fix is worth.
* `dropEvent`: A bit is toggled where it is set.
* `convertMask`, `adjustMaskForNoSession`: Event masks of the modem.
* `registerEventMask`, `startFix`, `stopFix`, `setPositionMode`,
  `updateEngineState`: What it is told.
* `newMask`: A mask of a client with more events, capped to those not excluded.
* `openClient`, `closeClient`: The client.
* `startMsg`: The last byte of either name ends it.
* `startErr`: The result of `startFix`.

## Theorems

* `adjustMaskForNoSession_eq`: Four bits are taken off.
* `foldl_events`: What is set already stays set.
* `eventsOf_or`: Each bit of a mask is converted on its own.
* `convertMask_or`: The events of two masks are those of both.
* `startFix_spec`, `stopFix_spec`, `updateEngineState_spec`,
  `openClient_of_closed`, `openClient_of_open`: What they leave.
-/

namespace Victara

namespace LocApi

open Sync (LocClientStatus)
open Mask

/-- `LOC_API_ADAPTER_EVENT_MASK_T`. -/
abbrev EventMask := BitVec 32

/-- `locClientEventMaskType`. -/
abbrev QmiMask := BitVec 64

/-- `loc_api_adapter_err`. The header has no value for an internal error, which
    `convertErr` returns. -/
inductive AdapterErr
  | success | generalFailure | unsupported | invalidHandle | invalidParameter | engineBusy
  | phoneOffline | timeout | serviceNotPresent | internal | engineDown | failure | unknown
  deriving DecidableEq, Repr

def convertErr : LocClientStatus → AdapterErr
  | .success => .success
  | .failureGeneral => .generalFailure
  | .failureUnsupported => .unsupported
  | .failureInvalidParameter => .invalidParameter
  | .failureEngineBusy => .engineBusy
  | .failurePhoneOffline => .phoneOffline
  | .failureTimeout => .timeout
  | .failureInvalidHandle => .invalidHandle
  | .failureServiceNotPresent => .serviceNotPresent
  | .failureInternal => .internal
  | .failureServiceVersionUnsupported | .failureClientVersionUnsupported
  | .failureNotInitialized | .failureNotEnoughMemory => .failure

inductive LocPositionMode
  | invalid | standalone | msBased | msAssisted | reserved1 | reserved2 | reserved3 | reserved4
  | reserved5
  deriving DecidableEq, Repr

/-- Any other value is periodic to `startFix`. -/
abbrev GpsPositionRecurrence := UInt32

def GPS_POSITION_RECURRENCE_PERIODIC : GpsPositionRecurrence := 0

def GPS_POSITION_RECURRENCE_SINGLE : GpsPositionRecurrence := 1

structure LocPosMode where
  mode : LocPositionMode
  recurrence : GpsPositionRecurrence
  min_interval : UInt32
  preferred_accuracy : UInt32
  preferred_time : UInt32
  credentials : Vector UInt8 14
  provider : Vector UInt8 8
  deriving DecidableEq

/-- In milliseconds. -/
def MIN_POSSIBLE_FIX_INTERVAL : UInt32 := 1000

/-- The criteria that `LocPosMode` is constructed with. -/
def LocPosMode.new : LocPosMode where
  mode := .msBased
  recurrence := GPS_POSITION_RECURRENCE_PERIODIC
  min_interval := MIN_POSSIBLE_FIX_INTERVAL
  preferred_accuracy := 50
  preferred_time := 120000
  credentials := Vector.replicate 14 0
  provider := Vector.replicate 8 0

inductive OperationMode
  | msb | msa | standalone | cellId | wwan
  deriving DecidableEq, Repr

inductive AccuracyLevel
  | low | med | high
  deriving DecidableEq, Repr

inductive FixRecurrence
  | periodic | single
  deriving DecidableEq, Repr

/-- `qmiLocStartReqMsgT_v02`: the application is there when credentials are
    given, and altitude assumed information is always disabled. -/
structure StartMsg where
  minInterval : UInt32
  horizontalAccuracyLevel : AccuracyLevel
  fixRecurrence : FixRecurrence
  sessionId : UInt8
  applicationId : Option (List UInt8 × List UInt8)
  deriving DecidableEq

def LOC_API_V02_DEF_SESSION_ID : UInt8 := 1

inductive QmiRequest
  | setOperationMode (operationMode : OperationMode)
  | start (start_msg : StartMsg)
  | stop (sessionId : UInt8)
  deriving DecidableEq

/-- What `startFix` gets back: the result of the mode request, whether its
    indication says success, and the result of the start request. -/
structure StartEnv where
  setMode : LocClientStatus
  setModeInd : Bool
  start : LocClientStatus
  deriving DecidableEq, Repr

/-- `clientHandle` says whether the handle is valid. One of the adapter's bits,
    `LOC_API_ADAPTER_BATCHED_GENFENCE_BREACH_REPORT`, is in no header of the
    source and has any value here. -/
structure LocApiV02 where
  batchedBreachReport : EventMask
  mExcludedMask : EventMask
  mMask : EventMask
  mQmiMask : QmiMask
  mInSession : Bool
  mEngineOn : Bool
  clientHandle : Bool
  registered : QmiMask
  sent : List QmiRequest
  deriving DecidableEq

/-! ## Masks -/

/-- The bits of the adapters' mask and the events of the modem they stand for.
    From `LOC_API_ADAPTER_REQUEST_WIFI` on the source tests the number of a bit
    and not the bit. -/
def eventBits (batchedBreachReport : EventMask) : List (EventMask × QmiMask) :=
  [(0x1#32, 0x1#64),                    -- position
   (0x2#32, 0x2#64),                    -- satellites
   (0x8#32 ||| 0x4#32, 0x4#64),         -- NMEA, of either rate
   (0x10#32, 0x8#64),                   -- NI notify verify
   (0x20#32, 0x20#64 ||| 0x10#64 ||| 0x40#64),  -- predicted orbits, time and position
   (0x100#32, 0x80#64),                 -- engine state
   (0x40#32, 0x2000#64),                -- location server
   (9#32, 0x200#64),                    -- Wi-Fi
   (10#32, 0x400#64),                   -- sensors
   (11#32, 0x800#64),                   -- time sync
   (12#32, 0x1000#64),                  -- stationary position
   (13#32, 0x4000#64),                  -- NI geofence
   (14#32, 0x8000#64),                  -- geofence alert
   (15#32, 0x10000#64),                 -- geofence breach
   (batchedBreachReport, 0x400000#64),  -- batched geofence breach
   (16#32, 0x20000#64),                 -- pedometer
   (17#32, 0x40000#64),                 -- motion
   (18#32, 0x200000#64),                -- Wi-Fi access points
   (0x80000#32, 0x80000#64),            -- batch full
   (0x100000#32, 0x100000#64)]          -- batched positions

/-- The events of those bits that a mask has one of. -/
def eventsOf (bits : List (EventMask × QmiMask)) (mask : EventMask) : QmiMask :=
  bits.foldl (fun eventMask b => if mask &&& b.1 ≠ 0#32 then eventMask ||| b.2 else eventMask) 0#64

def QMI_LOC_EVENT_MASK_POSITION_REPORT : QmiMask := 0x1#64

def QMI_LOC_EVENT_MASK_GNSS_SV_INFO : QmiMask := 0x2#64

def QMI_LOC_EVENT_MASK_NMEA : QmiMask := 0x4#64

def QMI_LOC_EVENT_MASK_ENGINE_STATE : QmiMask := 0x80#64

/-- The events that only a running fix is worth. -/
def sessionEvents : QmiMask :=
  QMI_LOC_EVENT_MASK_POSITION_REPORT ||| QMI_LOC_EVENT_MASK_GNSS_SV_INFO |||
    QMI_LOC_EVENT_MASK_NMEA ||| QMI_LOC_EVENT_MASK_ENGINE_STATE

/-- A bit is toggled where it is set. -/
def dropEvent (qmiMask event : QmiMask) : QmiMask :=
  if qmiMask &&& event ≠ 0#64 then qmiMask ^^^ event else qmiMask

def adjustMaskForNoSession (qmiMask : QmiMask) : QmiMask :=
  dropEvent (dropEvent (dropEvent (dropEvent qmiMask QMI_LOC_EVENT_MASK_POSITION_REPORT)
    QMI_LOC_EVENT_MASK_GNSS_SV_INFO) QMI_LOC_EVENT_MASK_NMEA) QMI_LOC_EVENT_MASK_ENGINE_STATE

theorem dropEvent_twoPow (qmiMask : QmiMask) (k : Nat) :
    dropEvent qmiMask (BitVec.twoPow 64 k) = qmiMask &&& ~~~BitVec.twoPow 64 k :=
  xor_twoPow_of_set qmiMask k

theorem adjustMaskForNoSession_eq (qmiMask : QmiMask) :
    adjustMaskForNoSession qmiMask = qmiMask &&& ~~~sessionEvents := by
  have hbits : QMI_LOC_EVENT_MASK_POSITION_REPORT = BitVec.twoPow 64 0 ∧
      QMI_LOC_EVENT_MASK_GNSS_SV_INFO = BitVec.twoPow 64 1 ∧
      QMI_LOC_EVENT_MASK_NMEA = BitVec.twoPow 64 2 ∧
      QMI_LOC_EVENT_MASK_ENGINE_STATE = BitVec.twoPow 64 7 := by decide
  unfold adjustMaskForNoSession sessionEvents
  rw [hbits.1, hbits.2.1, hbits.2.2.1, hbits.2.2.2]
  simp only [dropEvent_twoPow, BitVec.not_or, BitVec.and_assoc]

/-- What is set already stays set. -/
theorem foldl_events (bits : List (EventMask × QmiMask)) (mask : EventMask) (acc : QmiMask) :
    bits.foldl (fun eventMask b => if mask &&& b.1 ≠ 0#32 then eventMask ||| b.2 else eventMask) acc =
      acc ||| eventsOf bits mask := by
  unfold eventsOf
  induction bits generalizing acc with
  | nil => simp
  | cons b bits ih =>
      rw [List.foldl_cons, List.foldl_cons, ih (if mask &&& b.1 ≠ 0#32 then acc ||| b.2 else acc),
        ih (if mask &&& b.1 ≠ 0#32 then 0#64 ||| b.2 else 0#64)]
      by_cases h : mask &&& b.1 = 0#32
      · simp [h]
      · simp [h, BitVec.or_assoc]

theorem eventsOf_cons (b : EventMask × QmiMask) (bits : List (EventMask × QmiMask))
    (mask : EventMask) :
    eventsOf (b :: bits) mask =
      (if mask &&& b.1 ≠ 0#32 then b.2 else 0#64) ||| eventsOf bits mask := by
  rw [eventsOf, List.foldl_cons, foldl_events]
  by_cases h : mask &&& b.1 = 0#32 <;> simp [h]

/-- Each bit is tested on its own. -/
theorem eventsOf_or (bits : List (EventMask × QmiMask)) (m n : EventMask) :
    eventsOf bits (m ||| n) = eventsOf bits m ||| eventsOf bits n := by
  induction bits with
  | nil => simp [eventsOf]
  | cons b bits ih =>
      have hsplit : (m ||| n) &&& b.1 = 0#32 ↔ m &&& b.1 = 0#32 ∧ n &&& b.1 = 0#32 := by
        rw [BitVec.and_or_distrib_right, ← within_zero_iff, or_within_iff, within_zero_iff,
          within_zero_iff]
      rw [eventsOf_cons, eventsOf_cons, eventsOf_cons, ih]
      apply BitVec.eq_of_getLsbD_eq
      intro i _
      by_cases hm : m &&& b.1 = 0#32 <;> by_cases hn : n &&& b.1 = 0#32 <;>
        simp [hsplit, hm, hn, Bool.or_left_comm, Bool.or_assoc]

namespace LocApiV02

/-- A client that has not been opened. -/
def new (batchedBreachReport mExcludedMask : EventMask) : LocApiV02 where
  batchedBreachReport := batchedBreachReport
  mExcludedMask := mExcludedMask
  mMask := 0#32
  mQmiMask := 0#64
  mInSession := false
  mEngineOn := false
  clientHandle := false
  registered := 0#64
  sent := []

def convertMask (api : LocApiV02) (mask : EventMask) : QmiMask :=
  eventsOf (eventBits api.batchedBreachReport) mask

theorem convertMask_or (api : LocApiV02) (m n : EventMask) :
    api.convertMask (m ||| n) = api.convertMask m ||| api.convertMask n := eventsOf_or _ m n

/-! ## The client -/

/-- Hand a mask to the client, without the session events while no fix runs. -/
def registerEventMask (api : LocApiV02) (qmiMask : QmiMask) : LocApiV02 :=
  { api with registered := if api.mInSession then qmiMask else adjustMaskForNoSession qmiMask }

/-- A mask of a client with more events, capped to those not excluded. -/
def newMask (api : LocApiV02) (mask : EventMask) : EventMask :=
  api.mMask ||| (mask &&& ~~~api.mExcludedMask)

/-- `LocApiV02::open`. `ok` says whether `locClientOpen` gives a valid handle,
    or `locClientRegisterEventMask` succeeds. -/
def openClient (api : LocApiV02) (mask : EventMask) (ok : Bool) : LocApiV02 :=
  let newMask := api.newMask mask
  let qmiMask := api.convertMask newMask
  if api.clientHandle = false then
    let api := { api with registered := adjustMaskForNoSession qmiMask, clientHandle := ok }
    if ok then { api with mMask := newMask, mQmiMask := qmiMask }
    else { api with mMask := 0#32, mQmiMask := 0#64 }
  else if newMask ≠ api.mMask then
    let api := api.registerEventMask qmiMask
    -- The mask of a client that cannot be registered anew is the old one.
    if ok then { api with mMask := newMask, mQmiMask := qmiMask } else api
  else api

/-- `LocApiV02::close`. -/
def closeClient (api : LocApiV02) : LocApiV02 :=
  { api with mMask := 0#32, clientHandle := false }

/-! ## Fixes -/

def operationMode : LocPositionMode → OperationMode
  | .msBased => .msb
  | .msAssisted => .msa
  | .reserved4 => .cellId
  | .reserved5 => .wwan
  | .invalid | .standalone | .reserved1 | .reserved2 | .reserved3 => .standalone

def accuracyLevel (preferred_accuracy : UInt32) : AccuracyLevel :=
  if preferred_accuracy ≤ 100 then .high
  else if preferred_accuracy ≤ 1000 then .med
  else .low

/-- The last byte of either name ends it. -/
def startMsg (fixCriteria : LocPosMode) : StartMsg where
  minInterval := fixCriteria.min_interval
  horizontalAccuracyLevel := accuracyLevel fixCriteria.preferred_accuracy
  fixRecurrence :=
    if GPS_POSITION_RECURRENCE_SINGLE = fixCriteria.recurrence then .single else .periodic
  sessionId := LOC_API_V02_DEF_SESSION_ID
  applicationId :=
    if fixCriteria.credentials[0] ≠ 0 then
      some (fixCriteria.credentials.toList.take 13, fixCriteria.provider.toList.take 7)
    else none

def send (api : LocApiV02) (req : QmiRequest) : LocApiV02 := { api with sent := api.sent ++ [req] }

def startFix (api : LocApiV02) (fixCriteria : LocPosMode) (env : StartEnv) :
    LocApiV02 × AdapterErr :=
  let api := { api with mInSession := true }
  let api := api.registerEventMask api.mQmiMask
  -- The mode goes before the start message.
  let api := api.send (.setOperationMode (operationMode fixCriteria.mode))
  if env.setMode ≠ .success ∨ env.setModeInd = false then (api, convertErr env.setMode)
  else (api.send (.start (startMsg fixCriteria)), convertErr env.start)

def stopFix (api : LocApiV02) (status : LocClientStatus) : LocApiV02 × AdapterErr :=
  let api := api.send (.stop LOC_API_V02_DEF_SESSION_ID)
  let api := { api with mInSession := false }
  -- If the engine never came on, do not wait for it to go off.
  let api := if api.mEngineOn = false then api.registerEventMask api.mQmiMask else api
  (api, convertErr status)

/-- `inSession` is `isInSession()`: some adapter says that it is. -/
def setPositionMode (api : LocApiV02) (inSession : Bool) (posMode : LocPosMode) (env : StartEnv) :
    LocApiV02 × AdapterErr :=
  if inSession then api.startFix posMode env else (api, .success)

/-- `MsgUpdateEngineState::proc`. -/
def updateEngineState (api : LocApiV02) (engineOn : Bool) : LocApiV02 :=
  let api :=
    if api.mEngineOn = true ∧ api.mInSession = false ∧ engineOn = false then
      api.registerEventMask api.mQmiMask
    else api
  { api with mEngineOn := engineOn }

/-! ## What they leave -/

/-- The result of `startFix`. -/
def startErr (env : StartEnv) : AdapterErr :=
  if env.setMode ≠ .success ∨ env.setModeInd = false then convertErr env.setMode
  else convertErr env.start

/-- A fix that is started, with or without success, has the client registered
    for its whole mask. -/
theorem startFix_spec (api : LocApiV02) (p : LocPosMode) (env : StartEnv) :
    (api.startFix p env).2 = startErr env ∧
      (api.startFix p env).1 = { api with
        mInSession := true, registered := api.mQmiMask, sent := (api.startFix p env).1.sent } := by
  unfold startFix startErr
  split <;> exact ⟨rfl, rfl⟩

/-- With the engine off, a fix that is stopped takes the session events off. -/
theorem stopFix_spec (api : LocApiV02) (status : LocClientStatus) :
    (api.stopFix status).1 = { api with
      mInSession := false,
      registered := if api.mEngineOn then api.registered else adjustMaskForNoSession api.mQmiMask,
      sent := (api.stopFix status).1.sent } := by
  cases hon : api.mEngineOn <;> simp [stopFix, send, registerEventMask, hon]

/-- So does an engine that goes off without a fix. -/
theorem updateEngineState_spec (api : LocApiV02) (engineOn : Bool) :
    api.updateEngineState engineOn = { api with
      mEngineOn := engineOn,
      registered :=
        if api.mEngineOn = true ∧ api.mInSession = false ∧ engineOn = false then
          adjustMaskForNoSession api.mQmiMask
        else api.registered } := by
  unfold updateEngineState
  by_cases hdrop : api.mEngineOn = true ∧ api.mInSession = false ∧ engineOn = false
  · simp [hdrop, registerEventMask]
  · rw [if_neg hdrop, if_neg hdrop]

/-- A client that is not open gets the mask on its own. -/
theorem openClient_of_closed {api : LocApiV02} (h : api.clientHandle = false) (mask : EventMask)
    (ok : Bool) :
    api.openClient mask ok = { api with
      clientHandle := ok,
      mMask := if ok then api.newMask mask else 0#32,
      mQmiMask := if ok then api.convertMask (api.newMask mask) else 0#64,
      registered := adjustMaskForNoSession (api.convertMask (api.newMask mask)) } := by
  cases ok <;> simp [openClient, h]

/-- One that is open is registered anew when the mask adds to its own. -/
theorem openClient_of_open {api : LocApiV02} (h : api.clientHandle = true) (mask : EventMask)
    (ok : Bool) :
    api.openClient mask ok = if api.newMask mask ≠ api.mMask then { api with
      mMask := if ok then api.newMask mask else api.mMask,
      mQmiMask := if ok then api.convertMask (api.newMask mask) else api.mQmiMask,
      registered :=
        if api.mInSession then api.convertMask (api.newMask mask)
        else adjustMaskForNoSession (api.convertMask (api.newMask mask)) } else api := by
  cases ok <;> simp [openClient, h, registerEventMask]

end LocApiV02

end LocApi

end Victara
