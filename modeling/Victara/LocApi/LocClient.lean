import Victara.Lib.StepSystem
import Victara.LocApi.LocApiV02

/-!
# A Client of the Location Service

`loc_api_v02_client.c`: opening and closing a client of the modem's location
service, registering it for events, and what is done with the indications that
come in. `LocApiV02` holds the handle.

A client is opened in steps. The callback data is allocated and handed to the
QMI framework, then the modem is asked for the events, and only then are the
callbacks filled in. Indications come on a thread of the framework, between any
two steps; what they find then is callback data without a callback. Every step
may fail. After a failure everything is to be undone, and it is tried again, 21
times in all.

An address may be handed out again after it has been freed. An indication for a
client whose callback data has been freed reads it all the same: there is no
step for that. The sizes of the indications are those of C structures and are
left out.

The invariant has two cases: there is nothing, or there is one client with its
callback data and the handle for it, at one of the places of the opening. Each
is kept by its own lemma, with the failures that can be undone leading from the
second back to the first. A failure that cannot be undone leads to a state in
which something is left without a handle, and since an address that is in use is
not handed out again it stays there.

## Main definitions

* `locClientEventIndTable`, `locClientRespIndTable`: The indications.
* `handledInds`: The cases of the switch of `locClientHandleIndication`, in
  their order.
* `eventMaskOf`: The mask of an event, if it is one.
* `CallbackData`, `QmiClient`: What the library and the framework keep.
* `CallbackData.zero`: What `calloc` gives.
* `Delivery`: What is called, with the number of the indication.
* `locClientIndCb`, `locClientErrorCb`: What an indication is handed to.
* `OpenArgs`: The arguments of `locClientOpen`.
* `OpenPc`, `LocClient`: Where an open is, and the state.
* `InitOutcome`: How far `locClientQmiCtrlPointInit` gets.
* `RegReply`: What comes back for a registration.
* `ClientLabel`, `LocClient.step`, `LocClient.out`: The steps.
* `tryAgain`: An instance has failed: it is tried again, or given up.
* `setModemMask`: The modem registers a client for events.
* `sendRegEvents`, `locClientClose`: Two calls on a handle.
* `Tidy`: Nothing is there that the handle does not stand for.
* `ClientLabel.Leaves`: A failure that leaves something behind.
* `Undone`: What fails can be undone.
* `Heard`: No registration gets to the modem without the client hearing of it,
  unless it changes nothing.
* `SameMask`: The modem has the mask of the client.
* `unhandledInds`: The responses that the switch does not know.
* `Nothing`: There is no client.
* `HeldBy`: There is one client, and the handle is for it.
* `Synced`: The modem has the mask of the client, unless it is about to be
  released.
* `Masked`: What `Synced` says of the masks.
* `HasEventCb`: The client that is open has a callback for events.
* `openedClient`: A client that is registered for position reports, opened at
  the first try.

## Theorems

* `locClientHandleIndication_event`: Every event passes the switch.
* `undelivered_iff`: The responses that the switch does not know.
* `not_tidy_of_handle`: What is there without the handle is not tidy.
* `Nothing.stuck`: Without a client there is nothing to be done with one.
* `held_step_of_nothing`: A step where there is no client.
* `nothing_closed`: A client that has been released.
* `held_step_of_heldBy`: A step where there is a client.
* `held_step`: What every step keeps, where failures are undone.
* `tidy_iff`: The runs in which nothing is left behind.
* `masked_ctrlPointInit`: The modem has registered a new client for nothing.
* `masked_registerInOpen`: The client has what it has asked for, or is released.
* `masked_release`: No client is left.
* `mask_registerEventMask`: The registration whose reply is lost is the only one
  that the client does not hear of.
* `mask_step`: A step after which the modem has another mask is one whose reply
  is lost.
* `sameMask_iff`: The runs in which the modem has the mask of the client.
* `locClientIndCb_eq`: What is handed on of an indication for callback data that
  is in order.
* `out_indication`: An indication finds no client, or the callback data of the
  open one.
* `delivered_iff`: The indications that a client is handed.
-/

namespace Victara

namespace LocApi

open StepSystem

/-! ## The indications -/

/-- The events, with the bit that registers for them. -/
def locClientEventIndTable : List (UInt32 × QmiMask) :=
  [(0x24, 0x1#64),       -- position report
   (0x25, 0x2#64),       -- satellite report
   (0x26, 0x4#64),       -- NMEA
   (0x27, 0x8#64),       -- NI notify verify request
   (0x28, 0x10#64),      -- time injection request
   (0x29, 0x20#64),      -- predicted orbits injection request
   (0x2A, 0x40#64),      -- position injection request
   (0x2B, 0x80#64),      -- engine state
   (0x2C, 0x100#64),     -- fix session state
   (0x2D, 0x200#64),     -- Wi-Fi request
   (0x2E, 0x400#64),     -- sensor streaming ready
   (0x2F, 0x800#64),     -- time sync request
   (0x30, 0x1000#64),    -- set SPI streaming report
   (0x31, 0x2000#64),    -- location server connection request
   (0x60, 0x4000#64),    -- NI geofence notification
   (0x61, 0x8000#64),    -- geofence general alert
   (0x62, 0x10000#64),   -- geofence breach
   (0x80, 0x400000#64),  -- batched geofence breach
   (0x6D, 0x20000#64),   -- pedometer control
   (0x6E, 0x40000#64),   -- motion data control
   (0x7C, 0x200000#64),  -- Wi-Fi access points request
   (0x78, 0x100000#64),  -- batched positions
   (0x77, 0x80000#64),   -- batch full
   (0x81, 0x800000#64),  -- vehicle data ready
   (0x8C, 0x4000000#64)] -- geofence proximity

/-- The responses. Two of them are events as well. -/
def locClientRespIndTable : List UInt32 :=
  [0x32, 0x33, 0x34, 0x35, 0x36, 0x37, 0x38, 0x39, 0x3A, 0x3B, 0x3C, 0x3D, 0x3E, 0x3F, 0x40, 0x41,
    0x42, 0x43, 0x44, 0x45, 0x46, 0x47, 0x48, 0x49, 0x4A, 0x4B, 0x4C, 0x4D, 0x4E, 0x4F, 0x50, 0x51,
    0x52, 0x53, 0x54, 0x55, 0x56, 0x57, 0x58, 0x59, 0x5A, 0x5B, 0x5C, 0x5D, 0x5E, 0x5F, 0x63, 0x64,
    0x65, 0x66, 0x67, 0x68, 0x69, 0x6A, 0x6B, 0x6C, 0x6F, 0x70, 0x71, 0x72, 0x7D, 0x76, 0x7A, 0x75,
    0x78, 0x77, 0x79, 0x7B, 0x85, 0x82, 0x7E, 0x7F, 0x84, 0x83]

/-- The cases of the switch of `locClientHandleIndication`, in their order. -/
def handledInds : List UInt32 :=
  [0x24, 0x25, 0x26, 0x27, 0x28, 0x29, 0x2A, 0x2B, 0x2C, 0x2D, 0x2E, 0x2F, 0x30, 0x31, 0x60, 0x61,
    0x62, 0x80, 0x6D, 0x6E, 0x7C, 0x81, 0x82, 0x8C, 0x32, 0x33, 0x35, 0x36, 0x37, 0x4D, 0x55, 0x54,
    0x52, 0x50, 0x57, 0x5B, 0x59, 0x5A, 0x5E, 0x5F, 0x63, 0x64, 0x66, 0x65, 0x67, 0x3B, 0x69, 0x6F,
    0x76, 0x7A, 0x75, 0x78, 0x77, 0x79, 0x7B, 0x34, 0x38, 0x39, 0x3A, 0x3C, 0x3E, 0x40, 0x42, 0x44,
    0x45, 0x47, 0x48, 0x4A, 0x4C, 0x4E, 0x4F, 0x51, 0x53, 0x56, 0x58, 0x5C, 0x5D, 0x68, 0x6A, 0x6B,
    0x6C, 0x70, 0x71, 0x72, 0x7D, 0x7E, 0x7F, 0x84, 0x83, 0x85, 0x49]

inductive IndType
  | event
  | resp
  deriving DecidableEq, Repr

/-- The mask of an event, if it is one. -/
def eventMaskOf (indId : UInt32) : Option QmiMask :=
  (locClientEventIndTable.find? fun e => e.1 == indId).map Prod.snd

def locClientGetSizeAndTypeByIndId (indId : UInt32) : Option IndType :=
  if (eventMaskOf indId).isSome then some .event
  else if indId ∈ locClientRespIndTable then some .resp
  else none

def isClientRegisteredForEvent (eventRegMask : QmiMask) (eventIndId : UInt32) : Bool :=
  match eventMaskOf eventIndId with
  | some eventMask => eventRegMask &&& eventMask != 0#64
  | none => false

def locClientHandleIndication (indId : UInt32) : Bool := decide (indId ∈ handledInds)

/-! ## Callback data -/

/-- `locClientCbDataStructT`. The cookie is not there; of the callbacks only
    whether they are. `pMe` says that the data points to itself. -/
structure CallbackData where
  userHandle : Option Nat
  eventCallback : Bool
  respCallback : Bool
  errorCallback : Bool
  eventRegMask : QmiMask
  pMe : Bool
  deriving DecidableEq, Repr

/-- What `calloc` gives. -/
def CallbackData.zero : CallbackData where
  userHandle := none
  eventCallback := false
  respCallback := false
  errorCallback := false
  eventRegMask := 0#64
  pMe := false

/-- A client of the QMI framework: the address it was given, whether it has the
    error callback, and the events that the modem has registered it for. -/
structure QmiClient where
  clnt : Nat
  cbData : Nat
  errorCb : Bool
  eventMask : QmiMask
  deriving DecidableEq, Repr

/-- What is called, with the number of the indication. -/
inductive Delivery
  | event (indId : UInt32)
  | resp (indId : UInt32)
  | error
  deriving DecidableEq, Repr

/-- `decodes` says that there is memory for the indication, and that it can be
    decoded. -/
def locClientIndCb (data : CallbackData) (user_handle : Nat) (msg_id : UInt32) (decodes : Bool) :
    Option Delivery :=
  if data.pMe = false then none
  else if data.userHandle ≠ some user_handle then none
  else match locClientGetSizeAndTypeByIndId msg_id with
    | none => none
    | some indType =>
      if indType = .event ∧ (data.eventCallback = false ∨
          isClientRegisteredForEvent data.eventRegMask msg_id = false) then none
      else if decodes && locClientHandleIndication msg_id then
        match indType with
        | .event => if data.eventCallback then some (.event msg_id) else none
        | .resp => if data.respCallback then some (.resp msg_id) else none
      else none

def locClientErrorCb (data : CallbackData) : Option Delivery :=
  if data.errorCallback && data.pMe then some .error else none

/-! ## The state -/

def LOC_CLIENT_MAX_OPEN_RETRIES : Nat := 20

/-- The arguments of `locClientOpen`. There is always a response callback, since
    it is checked. -/
structure OpenArgs where
  eventRegMask : QmiMask
  eventIndCb : Bool
  errorCb : Bool
  deriving DecidableEq, Repr

/-- Where an open is: nowhere, before the callback data is there, before the
    modem is asked for the events, before the callbacks are filled in, and
    before what has failed is released. -/
inductive OpenPc
  | idle
  | initialising (args : OpenArgs) (tries : Nat)
  | registering (args : OpenArgs) (tries : Nat)
  | filling (args : OpenArgs) (tries : Nat)
  | releasing (args : OpenArgs) (tries : Nat)
  deriving DecidableEq, Repr

/-- How far `locClientQmiCtrlPointInit` gets. Without memory it is not called. -/
inductive InitOutcome
  | noMemory
  | noClient
  | noErrorCb
  | ok
  deriving DecidableEq, Repr

/-- What comes back for a registration. When nothing comes back, the modem may
    have registered the events all the same. -/
inductive RegReply
  | success
  | refused
  | lost (applied : Bool)
  deriving DecidableEq, Repr

/-- `acked` is the mask of the last registration that was acknowledged. -/
structure LocClient where
  heap : Nat → Option CallbackData
  clients : List QmiClient
  handle : Option Nat
  pc : OpenPc
  acked : QmiMask

/-- An indication is told its client and number, and whether it can be decoded. -/
inductive ClientLabel
  | locClientOpen (args : OpenArgs)
  | ctrlPointInit (cbData clnt : Nat) (outcome : InitOutcome)
  | registerInOpen (reply : RegReply)
  | fill
  | release (ok : Bool)
  | registerEventMask (mask : QmiMask) (reply : RegReply)
  | close (ok : Bool)
  | indication (clnt : Nat) (msg_id : UInt32) (decodes : Bool)
  | serviceError (clnt : Nat)
  deriving DecidableEq, Repr

namespace LocClient

def init : LocClient where
  heap := fun _ => none
  clients := []
  handle := none
  pc := .idle
  acked := 0#64

/-- An instance has failed: it is tried again, or given up. -/
def tryAgain (s : LocClient) (args : OpenArgs) (tries : Nat) : LocClient :=
  { s with
    handle := none
    pc := if tries ≤ LOC_CLIENT_MAX_OPEN_RETRIES then .initialising args (tries + 1) else .idle }

/-- The modem registers a client for events. -/
def setModemMask (clients : List QmiClient) (clnt : Nat) (mask : QmiMask) : List QmiClient :=
  clients.map fun c => if c.clnt = clnt then { c with eventMask := mask } else c

/-- `locClientRegisterEventMask` and `locClientSendReq`, and whether it succeeds. -/
def sendRegEvents (s : LocClient) (p : Nat) (mask : QmiMask) (reply : RegReply) :
    Option (LocClient × Bool) :=
  match s.heap p with
  | none => none
  | some data =>
    match data.userHandle, data.pMe with
    | some clnt, true =>
      match reply with
      | .success => some
          ({ s with
            heap := Function.update s.heap p (some { data with eventRegMask := mask })
            clients := setModemMask s.clients clnt mask
            acked := mask }, true)
      | .refused => some (s, false)
      | .lost applied => some
          ({ s with clients := if applied then setModemMask s.clients clnt mask else s.clients },
            false)
    | _, _ => some (s, false)

/-- `locClientClose`, with what the release gives. -/
def locClientClose (s : LocClient) (p : Nat) (ok : Bool) : Option LocClient :=
  match s.heap p with
  | none => none
  | some data =>
    match data.userHandle, data.pMe with
    | some clnt, true =>
      if ok then some
        { s with
          heap := Function.update s.heap p none
          clients := s.clients.filter fun c => c.clnt != clnt
          handle := none }
      else some s
    | _, _ => some s

def step (s : LocClient) : ClientLabel → Option LocClient
  | .locClientOpen args =>
    if s.pc = .idle ∧ s.handle = none then some { s with pc := .initialising args 1 } else none
  | .ctrlPointInit cbData clnt outcome =>
    match s.pc with
    | .initialising args tries =>
      if s.heap cbData = none ∧ ∀ c ∈ s.clients, c.clnt ≠ clnt then
        match outcome with
        | .noMemory | .noClient => some (s.tryAgain args tries)
        -- The callback data is freed, and the client is not released.
        | .noErrorCb =>
          some { s.tryAgain args tries with clients := s.clients ++ [⟨clnt, cbData, false, 0#64⟩] }
        | .ok => some
          { s with
            heap := Function.update s.heap cbData
              (some { CallbackData.zero with userHandle := some clnt, pMe := true })
            clients := s.clients ++ [⟨clnt, cbData, true, 0#64⟩]
            handle := some cbData
            acked := 0#64
            pc := .registering args tries }
      else none
    | _ => none
  | .registerInOpen reply =>
    match s.pc, s.handle with
    | .registering args tries, some p =>
      match s.sendRegEvents p args.eventRegMask reply with
      | some (t, true) => some { t with pc := .filling args tries }
      | some (t, false) => some { t with pc := .releasing args tries }
      | none => none
    | _, _ => none
  | .fill =>
    match s.pc, s.handle with
    | .filling args _, some p =>
      match s.heap p with
      | none => none
      | some data => some
        { s with
          heap := Function.update s.heap p (some
            { data with
              eventCallback := args.eventIndCb
              respCallback := true
              errorCallback := args.errorCb
              eventRegMask := args.eventRegMask })
          pc := .idle }
    | _, _ => none
  | .release ok =>
    match s.pc, s.handle with
    | .releasing args tries, some p => (s.locClientClose p ok).map fun t => t.tryAgain args tries
    | _, _ => none
  | .registerEventMask mask reply =>
    match s.pc, s.handle with
    | .idle, some p => (s.sendRegEvents p mask reply).map Prod.fst
    | _, _ => none
  -- `LocApiV02::close` forgets the handle also when it could not be closed.
  | .close ok =>
    match s.pc, s.handle with
    | .idle, some p => (s.locClientClose p ok).map fun t => { t with handle := none }
    | _, _ => none
  | .indication clnt _ _ =>
    match s.clients.find? fun c => c.clnt == clnt with
    | some c => if (s.heap c.cbData).isSome then some s else none
    | none => none
  | .serviceError clnt =>
    match s.clients.find? fun c => c.clnt == clnt && c.errorCb with
    | some c => if (s.heap c.cbData).isSome then some s else none
    | none => none

/-- What the callbacks are handed. -/
def out (s : LocClient) : ClientLabel → List Delivery
  | .indication clnt msg_id decodes =>
    match (s.clients.find? fun c => c.clnt == clnt).bind fun c => s.heap c.cbData with
    | some data => (locClientIndCb data clnt msg_id decodes).toList
    | none => []
  | .serviceError clnt =>
    match (s.clients.find? fun c => c.clnt == clnt && c.errorCb).bind fun c => s.heap c.cbData with
    | some data => (locClientErrorCb data).toList
    | none => []
  | _ => []

/-- All memory, and every client of the framework, is that of the handle. -/
def Tidy (s : LocClient) : Prop :=
  (∀ p, s.heap p ≠ none → s.handle = some p) ∧
    ∀ c ∈ s.clients, s.handle = some c.cbData ∧ s.heap c.cbData ≠ none

end LocClient

/-- A failure that leaves something behind. -/
def ClientLabel.Leaves : ClientLabel → Prop
  | .ctrlPointInit _ _ outcome => outcome = .noErrorCb
  | .release ok => ok = false
  | .close ok => ok = false
  | _ => False

instance : (l : ClientLabel) → Decidable l.Leaves
  | .ctrlPointInit _ _ outcome => inferInstanceAs (Decidable (outcome = .noErrorCb))
  | .release ok | .close ok => inferInstanceAs (Decidable (ok = false))
  | .locClientOpen _ | .registerInOpen _ | .fill | .registerEventMask _ _ | .indication _ _ _
  | .serviceError _ => isFalse id

namespace LocClient

/-- The step leaves nothing behind. Two labels do: a client that the framework
    gives out but to which it refuses an error callback, and a release that
    fails. A step that cannot be taken does not count. -/
def Undone (s : LocClient) (l : ClientLabel) : Prop := (s.step l).isSome = true → ¬ l.Leaves

instance (s : LocClient) (l : ClientLabel) : Decidable (s.Undone l) :=
  inferInstanceAs (Decidable (_ → _))

/-- No registration gets to the modem without the client hearing of it, unless
    it changes nothing. Whether a reply that is lost was that of a registration
    which the modem has taken is known to the label only. -/
def Heard (s : LocClient) (l : ClientLabel) : Prop :=
  ∀ mask, l = .registerEventMask mask (.lost true) → (s.step l).isSome = true → mask = s.acked

/-- The modem has registered an open client for what the client thinks. -/
def SameMask (s : LocClient) : Prop := s.pc = .idle → ∀ c ∈ s.clients, c.eventMask = s.acked

end LocClient

/-! ## The tables -/

/-- Every event passes the switch. -/
theorem locClientHandleIndication_event {indId : UInt32} {eventMask : QmiMask}
    (h : eventMaskOf indId = some eventMask) : locClientHandleIndication indId = true := by
  have hall : locClientEventIndTable.all (fun e => locClientHandleIndication e.1) = true := by
    decide +kernel
  unfold eventMaskOf at h
  rcases Option.map_eq_some_iff.mp h with ⟨e, he, _⟩
  have hid : e.1 = indId := by simpa using List.find?_some he
  rw [← hid]
  exact List.all_eq_true.mp hall e (List.mem_of_find?_eq_some he)

/-- The responses to requests for the SBAS configuration, the NMEA types, the low
    power mode, the server, the XTRA-T session control and the operation mode. -/
def unhandledInds : List UInt32 := [0x3D, 0x3F, 0x41, 0x43, 0x46, 0x4B]

/-- Six responses are in the table and not in the switch. -/
theorem undelivered_iff (indId : UInt32) :
    locClientGetSizeAndTypeByIndId indId = some .resp ∧ locClientHandleIndication indId = false ↔
      indId ∈ unhandledInds := by
  constructor
  · rintro ⟨htype, hunhandled⟩
    have hresp : indId ∈ locClientRespIndTable := by
      unfold locClientGetSizeAndTypeByIndId at htype
      split at htype
      · cases htype
      · split at htype
        case isTrue h => exact h
        case isFalse => cases htype
    have hall : (locClientRespIndTable.all fun i =>
        locClientHandleIndication i || unhandledInds.contains i) = true := by decide +kernel
    have hor := List.all_eq_true.mp hall indId hresp
    rw [hunhandled, Bool.false_or, List.contains_iff_mem] at hor
    exact hor
  · intro h
    have hall : (unhandledInds.all fun i =>
        locClientGetSizeAndTypeByIndId i == some .resp && !locClientHandleIndication i) = true := by
      decide +kernel
    simpa using List.all_eq_true.mp hall indId h

/-! ## What is held -/

namespace LocClient

/-- There is no client. -/
structure Nothing (s : LocClient) : Prop where
  handle : s.handle = none
  heap : ∀ p, s.heap p = none
  clients : s.clients = []
  pc : s.pc = .idle ∨ ∃ args tries, s.pc = .initialising args tries

/-- There is one, with its callback data, and the handle is for it. While it is
    being opened it has no callbacks, so that indications which come in between
    are handed to nobody. The mask of the callback data is the one that the
    modem has acknowledged. -/
structure HeldBy (s : LocClient) (p : Nat) (data : CallbackData) (c : QmiClient) : Prop where
  handle : s.handle = some p
  heap : s.heap = Function.update (fun _ => none) p (some data)
  clients : s.clients = [c]
  cbData : c.cbData = p
  errorCb : c.errorCb = true
  userHandle : data.userHandle = some c.clnt
  pMe : data.pMe = true
  mask : data.eventRegMask = s.acked
  opened : s.pc = .idle → data.respCallback = true
  half : s.pc ≠ .idle → data.eventCallback = false ∧ data.respCallback = false ∧
    data.errorCallback = false
  pc : ∀ args tries, s.pc ≠ .initialising args tries
  filling : ∀ args tries, s.pc = .filling args tries → s.acked = args.eventRegMask

def Held (s : LocClient) : Prop := s.Nothing ∨ ∃ p data c, s.HeldBy p data c

theorem held_init : init.Held := Or.inl ⟨rfl, fun _ => rfl, rfl, Or.inl rfl⟩

theorem tidy_of_held {s : LocClient} (hs : s.Held) : s.Tidy := by
  rcases hs with hs | ⟨p, data, c, hs⟩
  · refine ⟨fun q hq => absurd (hs.heap q) hq, fun c hc => ?_⟩
    rw [hs.clients] at hc
    cases hc
  · refine ⟨fun q hq => ?_, fun c' hc' => ?_⟩
    · by_cases hqp : q = p
      · rw [hqp]
        exact hs.handle
      · rw [hs.heap, Function.update_of_ne hqp] at hq
        exact absurd rfl hq
    · rw [hs.clients, List.mem_singleton] at hc'
      rw [hc', hs.cbData]
      refine ⟨hs.handle, ?_⟩
      rw [hs.heap, Function.update_self]
      exact Option.some_ne_none data

section

variable {s : LocClient} {p : Nat} {data : CallbackData} {c : QmiClient}

theorem HeldBy.heap_self (hs : s.HeldBy p data c) : s.heap p = some data := by
  rw [hs.heap, Function.update_self]

theorem HeldBy.setModemMask (hs : s.HeldBy p data c) (mask : QmiMask) :
    setModemMask s.clients c.clnt mask = [{ c with eventMask := mask }] := by
  rw [hs.clients]
  simp [LocClient.setModemMask]

/-- What a registration leaves: the mask on both sides, or on the modem's at
    most. -/
theorem HeldBy.sendRegEvents (hs : s.HeldBy p data c) (mask : QmiMask) (reply : RegReply) :
    (reply = .success ∧ s.sendRegEvents p mask reply = some
        ({ s with
          heap := Function.update (fun _ => none) p (some { data with eventRegMask := mask })
          clients := [{ c with eventMask := mask }]
          acked := mask }, true)) ∨
      (reply = .lost true ∧ s.sendRegEvents p mask reply =
        some ({ s with clients := [{ c with eventMask := mask }] }, false)) ∨
      (reply ≠ .success ∧ reply ≠ .lost true ∧ s.sendRegEvents p mask reply = some (s, false)) := by
  simp only [LocClient.sendRegEvents, hs.heap_self, hs.userHandle, hs.pMe]
  cases reply with
  | success =>
      refine Or.inl ⟨rfl, ?_⟩
      rw [hs.setModemMask, hs.heap, Function.update_idem]
  | refused => exact Or.inr (Or.inr ⟨by decide, by decide, rfl⟩)
  | lost applied =>
      cases applied with
      | true => exact Or.inr (Or.inl ⟨rfl, by simp only [if_true, hs.setModemMask]⟩)
      | false => exact Or.inr (Or.inr ⟨by decide, by decide, rfl⟩)

/-- A client that can be released leaves nothing. -/
theorem HeldBy.locClientClose (hs : s.HeldBy p data c) :
    s.locClientClose p true = some
        { s with heap := fun _ => none, clients := [], handle := none } ∧
      s.locClientClose p false = some s := by
  simp only [LocClient.locClientClose, hs.heap_self, hs.userHandle, hs.pMe, if_true]
  refine ⟨?_, rfl⟩
  have hheap : Function.update s.heap p none = fun _ => none := by
    rw [hs.heap, Function.update_idem]
    funext q
    by_cases hq : q = p
    · rw [hq, Function.update_self]
    · rw [Function.update_of_ne hq]
  rw [hheap, hs.clients]
  simp

end

theorem nothing_tryAgain {s : LocClient} (hheap : ∀ p, s.heap p = none) (hclients : s.clients = [])
    (args : OpenArgs) (tries : Nat) : (s.tryAgain args tries).Nothing where
  handle := rfl
  heap := hheap
  clients := hclients
  pc := by
    unfold tryAgain
    by_cases htries : tries ≤ LOC_CLIENT_MAX_OPEN_RETRIES
    · exact Or.inr ⟨args, tries + 1, if_pos htries⟩
    · exact Or.inl (if_neg htries)

/-- A client that is there while the handle is not, or memory that is not the
    handle's, is not tidy. -/
theorem not_tidy_of_handle {s : LocClient} (hhandle : s.handle = none)
    (h : s.clients ≠ [] ∨ ∃ p, s.heap p ≠ none) : ¬ s.Tidy := by
  rintro ⟨hheap, hclients⟩
  rcases h with hne | ⟨p, hp⟩
  · rcases List.exists_mem_of_ne_nil _ hne with ⟨c, hc⟩
    have h := (hclients c hc).1
    rw [hhandle] at h
    cases h
  · have h := hheap p hp
    rw [hhandle] at h
    cases h

/-- Without a client there is nothing to be done with one. -/
theorem Nothing.stuck {s : LocClient} (hs : s.Nothing) :
    (∀ reply, s.step (.registerInOpen reply) = none) ∧ s.step .fill = none ∧
      (∀ ok, s.step (.release ok) = none) ∧ (∀ ok, s.step (.close ok) = none) ∧
        ∀ mask reply, s.step (.registerEventMask mask reply) = none := by
  rcases hs.pc with hpc | ⟨args, tries, hpc⟩ <;>
    simp only [step, hs.handle, hpc, implies_true, and_self]

/-- A step where there is no client. -/
theorem held_step_of_nothing {s t : LocClient} {l : ClientLabel} (hs : s.Nothing)
    (h : s.step l = some t) : (¬ l.Leaves ∧ t.Held) ∨ (l.Leaves ∧ ¬ t.Tidy) := by
  cases l with
  | locClientOpen args =>
      refine Or.inl ⟨id, ?_⟩
      simp only [step] at h
      split at h
      · cases h
        exact Or.inl ⟨hs.handle, hs.heap, hs.clients, Or.inr ⟨args, 1, rfl⟩⟩
      · cases h
  | ctrlPointInit cbData clnt outcome =>
      rcases hs.pc with hpc | ⟨args, tries, hpc⟩
      · simp only [step, hpc] at h
        cases h
      · simp only [step, hpc, hs.heap cbData, hs.clients, true_and, List.nil_append] at h
        rw [if_pos (by simp)] at h
        cases outcome with
        | noMemory | noClient =>
            cases h
            refine Or.inl ⟨(fun hno => nomatch hno), Or.inl ?_⟩
            exact nothing_tryAgain hs.heap hs.clients args tries
        -- The one failure that is not undone: the client stays and no handle names it.
        | noErrorCb =>
            cases h
            exact Or.inr ⟨rfl, not_tidy_of_handle rfl (Or.inl (List.cons_ne_nil _ _))⟩
        -- The client is there, and `locClientOpen` still has to register and to store the handle.
        | ok =>
            cases h
            refine Or.inl ⟨(fun hno => nomatch hno), Or.inr ⟨cbData,
              { CallbackData.zero with userHandle := some clnt, pMe := true },
              ⟨clnt, cbData, true, 0#64⟩, ?_⟩⟩
            have hheap : s.heap = fun _ => none := funext hs.heap
            exact
              { handle := rfl
                heap := by rw [hheap]
                clients := rfl
                cbData := rfl
                errorCb := rfl
                userHandle := rfl
                pMe := rfl
                mask := rfl
                opened := fun hidle => nomatch hidle
                half := fun _ => ⟨rfl, rfl, rfl⟩
                pc := fun _ _ hinit => nomatch hinit
                filling := fun _ _ hfill => nomatch hfill }
  | registerInOpen | fill | release | registerEventMask | close =>
      simp only [hs.stuck] at h
      cases h
  | indication | serviceError =>
      simp only [step, hs.clients, List.find?_nil] at h
      cases h

/-- A client that has been released. -/
theorem nothing_closed {s : LocClient} (hpc : s.pc = .idle) :
    { s with heap := fun _ => none, clients := [], handle := none }.Nothing :=
  ⟨rfl, fun _ => rfl, rfl, Or.inl hpc⟩

section

variable {s t : LocClient} {p : Nat} {data : CallbackData} {c : QmiClient}

theorem held_registerInOpen (hs : s.HeldBy p data c) {reply : RegReply}
    (h : s.step (.registerInOpen reply) = some t) : t.Held := by
  cases hpc : s.pc with
  | registering args tries =>
      have hhalf := hs.half (by simp [hpc])
      simp only [step, hpc, hs.handle] at h
      rcases hs.sendRegEvents args.eventRegMask reply with ⟨_, heq⟩ | ⟨_, heq⟩ | ⟨_, _, heq⟩
      -- Acknowledged: both masks are the one that was asked for.
      · rw [heq] at h
        cases h
        refine Or.inr ⟨p, { data with eventRegMask := args.eventRegMask },
          { c with eventMask := args.eventRegMask }, ?_⟩
        exact
          { handle := hs.handle
            heap := rfl
            clients := rfl
            cbData := hs.cbData
            errorCb := hs.errorCb
            userHandle := hs.userHandle
            pMe := hs.pMe
            mask := rfl
            opened := fun hidle => nomatch hidle
            half := fun _ => hhalf
            pc := fun _ _ hinit => nomatch hinit
            filling := fun _ _ hfill => by cases hfill; rfl }
      · rw [heq] at h
        cases h
        -- The answer is lost, so only the modem has the new mask.
        refine Or.inr ⟨p, data, { c with eventMask := args.eventRegMask }, ?_⟩
        exact
          { handle := hs.handle
            heap := hs.heap
            clients := rfl
            cbData := hs.cbData
            errorCb := hs.errorCb
            userHandle := hs.userHandle
            pMe := hs.pMe
            mask := hs.mask
            opened := fun hidle => nomatch hidle
            half := fun _ => hhalf
            pc := fun _ _ hinit => nomatch hinit
            filling := fun _ _ hfill => nomatch hfill }
      · rw [heq] at h
        cases h
        -- Refused, or not sent at all: neither has it.
        refine Or.inr ⟨p, data, c, ?_⟩
        exact
          { handle := hs.handle
            heap := hs.heap
            clients := hs.clients
            cbData := hs.cbData
            errorCb := hs.errorCb
            userHandle := hs.userHandle
            pMe := hs.pMe
            mask := hs.mask
            opened := fun hidle => nomatch hidle
            half := fun _ => hhalf
            pc := fun _ _ hinit => nomatch hinit
            filling := fun _ _ hfill => nomatch hfill }
  | idle | initialising | filling | releasing =>
      simp only [step, hpc] at h
      cases h

theorem held_fill (hs : s.HeldBy p data c) (h : s.step .fill = some t) : t.Held := by
  cases hpc : s.pc with
  | filling args tries =>
      simp only [step, hpc, hs.handle, hs.heap_self] at h
      cases h
      refine Or.inr ⟨p, { data with
        eventCallback := args.eventIndCb
        respCallback := true
        errorCallback := args.errorCb
        eventRegMask := args.eventRegMask }, c, ?_⟩
      exact
        { handle := rfl
          heap := by rw [hs.heap, Function.update_idem]
          clients := hs.clients
          cbData := hs.cbData
          errorCb := hs.errorCb
          userHandle := hs.userHandle
          pMe := hs.pMe
          mask := (hs.filling args tries hpc).symm
          opened := fun _ => rfl
          half := fun hno => absurd rfl hno
          pc := fun _ _ hinit => nomatch hinit
          filling := fun _ _ hfill => nomatch hfill }
  | idle | initialising | registering | releasing =>
      simp only [step, hpc] at h
      cases h

theorem held_release (hs : s.HeldBy p data c) {ok : Bool} (h : s.step (.release ok) = some t) :
    (ok = true ∧ t.Held) ∨ (ok = false ∧ ¬ t.Tidy) := by
  cases hpc : s.pc with
  | releasing args tries =>
      rcases hs.locClientClose with ⟨hclosed, hleft⟩
      simp only [step, hpc, hs.handle] at h
      cases ok with
      | true =>
          rw [hclosed] at h
          cases h
          exact Or.inl ⟨rfl, Or.inl (nothing_tryAgain (fun _ => rfl) rfl args tries)⟩
      | false =>
          rw [hleft] at h
          cases h
          refine Or.inr ⟨rfl, not_tidy_of_handle rfl (Or.inl ?_)⟩
          show s.clients ≠ []
          rw [hs.clients]
          exact List.cons_ne_nil _ _
  | idle | initialising | registering | filling =>
      simp only [step, hpc] at h
      cases h

theorem held_close (hs : s.HeldBy p data c) {ok : Bool} (h : s.step (.close ok) = some t) :
    (ok = true ∧ t.Held) ∨ (ok = false ∧ ¬ t.Tidy) := by
  cases hpc : s.pc with
  | idle =>
      rcases hs.locClientClose with ⟨hclosed, hleft⟩
      simp only [step, hpc, hs.handle] at h
      cases ok with
      | true =>
          rw [hclosed] at h
          cases h
          exact Or.inl ⟨rfl, Or.inl (nothing_closed hpc)⟩
      | false =>
          rw [hleft] at h
          cases h
          refine Or.inr ⟨rfl, not_tidy_of_handle rfl (Or.inl ?_)⟩
          show s.clients ≠ []
          rw [hs.clients]
          exact List.cons_ne_nil _ _
  | initialising | registering | filling | releasing =>
      simp only [step, hpc] at h
      cases h

theorem held_registerEventMask (hs : s.HeldBy p data c) {mask : QmiMask} {reply : RegReply}
    (h : s.step (.registerEventMask mask reply) = some t) : t.Held := by
  cases hpc : s.pc with
  | idle =>
      simp only [step, hpc, hs.handle] at h
      -- The answers are those of the registration in `locClientOpen`.
      rcases hs.sendRegEvents mask reply with ⟨_, heq⟩ | ⟨_, heq⟩ | ⟨_, _, heq⟩
      · rw [heq] at h
        cases h
        refine Or.inr ⟨p, { data with eventRegMask := mask }, { c with eventMask := mask }, ?_⟩
        exact
          { handle := hs.handle
            heap := rfl
            clients := rfl
            cbData := hs.cbData
            errorCb := hs.errorCb
            userHandle := hs.userHandle
            pMe := hs.pMe
            mask := rfl
            opened := hs.opened
            half := hs.half
            pc := hs.pc
            filling := fun _ _ hfill => nomatch hpc.symm.trans hfill }
      · rw [heq] at h
        cases h
        exact Or.inr ⟨p, data, { c with eventMask := mask },
          { handle := hs.handle
            heap := hs.heap
            clients := rfl
            cbData := hs.cbData
            errorCb := hs.errorCb
            userHandle := hs.userHandle
            pMe := hs.pMe
            mask := hs.mask
            opened := hs.opened
            half := hs.half
            pc := hs.pc
            filling := hs.filling }⟩
      · rw [heq] at h
        cases h
        exact Or.inr ⟨p, data, c, hs⟩
  | initialising | registering | filling | releasing =>
      simp only [step, hpc] at h
      cases h

/-- A step where there is a client. -/
theorem held_step_of_heldBy {l : ClientLabel} (hs : s.HeldBy p data c) (h : s.step l = some t) :
    (¬ l.Leaves ∧ t.Held) ∨ (l.Leaves ∧ ¬ t.Tidy) := by
  cases l with
  -- A handle is stored, so there is no second open.
  | locClientOpen args =>
      simp only [step, hs.handle] at h
      rw [if_neg (fun hno => nomatch hno.2)] at h
      cases h
  | ctrlPointInit cbData clnt outcome =>
      cases hpc : s.pc with
      | initialising args tries => exact absurd hpc (hs.pc args tries)
      | idle | registering | filling | releasing =>
          simp only [step, hpc] at h
          cases h
  | registerInOpen reply => exact Or.inl ⟨id, held_registerInOpen hs h⟩
  | fill => exact Or.inl ⟨id, held_fill hs h⟩
  | registerEventMask mask reply => exact Or.inl ⟨id, held_registerEventMask hs h⟩
  -- Only a release that fails leaves the client behind.
  | release ok =>
      rcases held_release hs h with ⟨hok, ht⟩ | ⟨hok, ht⟩
      · exact Or.inl ⟨(fun hno => nomatch hok.symm.trans hno), ht⟩
      · exact Or.inr ⟨hok, ht⟩
  | close ok =>
      rcases held_close hs h with ⟨hok, ht⟩ | ⟨hok, ht⟩
      · exact Or.inl ⟨(fun hno => nomatch hok.symm.trans hno), ht⟩
      · exact Or.inr ⟨hok, ht⟩
  | indication | serviceError =>
      simp only [step] at h
      split at h
      · split at h
        · cases h
          exact Or.inl ⟨id, Or.inr ⟨p, data, c, hs⟩⟩
        · cases h
      · cases h

end

/-- Every step leaves what is held, or is one of the failures, and leaves
    something behind. -/
theorem held_step {s t : LocClient} {l : ClientLabel} (hs : s.Held) (h : s.step l = some t) :
    (¬ l.Leaves ∧ t.Held) ∨ (l.Leaves ∧ ¬ t.Tidy) := by
  rcases hs with hs | ⟨p, data, c, hs⟩
  · exact held_step_of_nothing hs h
  · exact held_step_of_heldBy hs h

/-- Nothing is left behind in the runs in which every client that the framework
    gives out gets its error callback, and every client that is to be released
    is. That is so after each of the 21 times that opening is tried. -/
theorem tidy_iff (ls : List ClientLabel) :
    Throughout step Tidy init ls ↔ Meets step Undone init ls := by
  refine throughout_iff_meets (I := Held) (fun _ => tidy_of_held) ?_ ?_ held_init
  · intro s l t hs hundone h
    rcases held_step hs h with ⟨_, ht⟩ | ⟨hleaves, _⟩
    · exact ht
    · exact absurd hleaves (hundone (by rw [h]; rfl))
  · intro s l hs hleft
    rw [Undone, Classical.not_imp, not_not] at hleft
    rcases Option.isSome_iff_exists.mp hleft.1 with ⟨t, ht⟩
    rcases held_step hs ht with ⟨hno, _⟩ | ⟨_, hbad⟩
    · exact absurd hleft.2 hno
    · exact ⟨t, ht, hbad⟩

/-! ## The mask -/

/-- The modem has the mask of the client, unless it is about to be released. -/
def Synced (s : LocClient) : Prop :=
  s.Held ∧ ((∀ args tries, s.pc ≠ .releasing args tries) → ∀ c ∈ s.clients, c.eventMask = s.acked)

theorem sameMask_of_synced {s : LocClient} (hs : s.Synced) : s.SameMask := by
  intro hpc
  refine hs.2 fun args tries hno => ?_
  rw [hpc] at hno
  cases hno

/-- What `Synced` says of the masks. -/
def Masked (s : LocClient) : Prop :=
  (∀ args tries, s.pc ≠ .releasing args tries) → ∀ c ∈ s.clients, c.eventMask = s.acked

section

variable {s t : LocClient}

theorem not_releasing_of_pc {pc : OpenPc} (hpc : s.pc = pc)
    (h : ∀ args tries, pc ≠ .releasing args tries) : ∀ args tries, s.pc ≠ .releasing args tries :=
  fun args tries hno => h args tries (hpc.symm.trans hno)

theorem masked_locClientOpen (hs : s.Masked) {args : OpenArgs}
    (h : s.step (.locClientOpen args) = some t) : t.Masked := by
  simp only [step] at h
  split at h
  case isTrue hidle =>
      cases h
      exact fun _ => hs (not_releasing_of_pc hidle.1 (by rintro _ _ ⟨⟩))
  case isFalse => cases h

/-- The modem has registered a new client for nothing. -/
theorem masked_ctrlPointInit (hheld : s.Held) (hs : s.Masked) {cbData clnt : Nat}
    {outcome : InitOutcome} (hundone : s.Undone (.ctrlPointInit cbData clnt outcome))
    (h : s.step (.ctrlPointInit cbData clnt outcome) = some t) : t.Masked := by
  have hleaves := hundone (by rw [h]; rfl)
  cases hpc : s.pc with
  | initialising args tries =>
      have hinit := not_releasing_of_pc hpc (by rintro _ _ ⟨⟩)
      simp only [step, hpc] at h
      split at h
      case isTrue =>
          cases outcome with
          | noMemory | noClient =>
              cases h
              exact fun _ => hs hinit
          | noErrorCb => exact absurd rfl hleaves
          | ok =>
              cases h
              rcases hheld with hnone | ⟨p, data, c, hby⟩
              · intro _ c' hc'
                simp only [hnone.clients, List.nil_append, List.mem_singleton] at hc'
                rw [hc']
              · exact absurd hpc (hby.pc args tries)
      case isFalse => cases h
  | idle | registering | filling | releasing =>
      simp only [step, hpc] at h
      cases h

variable {p : Nat} {data : CallbackData} {c : QmiClient}

/-- The client has what it has asked for, or is released. -/
theorem masked_registerInOpen (hby : s.HeldBy p data c) {reply : RegReply}
    (h : s.step (.registerInOpen reply) = some t) : t.Masked := by
  cases hpc : s.pc with
  | registering args tries =>
      simp only [step, hpc, hby.handle] at h
      rcases hby.sendRegEvents args.eventRegMask reply with ⟨_, heq⟩ | ⟨_, heq⟩ | ⟨_, _, heq⟩
      · rw [heq] at h
        cases h
        intro _ c' hc'
        rw [List.mem_singleton.mp hc']
      · rw [heq] at h
        cases h
        exact fun hno => absurd rfl (hno args tries)
      · rw [heq] at h
        cases h
        exact fun hno => absurd rfl (hno args tries)
  | idle | initialising | filling | releasing =>
      simp only [step, hpc] at h
      cases h

theorem masked_fill (hby : s.HeldBy p data c) (hs : s.Masked) (h : s.step .fill = some t) :
    t.Masked := by
  cases hpc : s.pc with
  | filling args tries =>
      simp only [step, hpc, hby.handle, hby.heap_self] at h
      cases h
      exact fun _ => hs (not_releasing_of_pc hpc (by rintro _ _ ⟨⟩))
  | idle | initialising | registering | releasing =>
      simp only [step, hpc] at h
      cases h

/-- No client is left. -/
theorem masked_release (hby : s.HeldBy p data c) {ok : Bool} (hundone : s.Undone (.release ok))
    (h : s.step (.release ok) = some t) : t.Masked := by
  rcases held_release hby h with ⟨rfl, _⟩ | ⟨rfl, _⟩
  · cases hpc : s.pc with
    | releasing args tries =>
        simp only [step, hpc, hby.handle, hby.locClientClose.1] at h
        cases h
        exact fun _ c' hc' => nomatch hc'
    | idle | initialising | registering | filling =>
        simp only [step, hpc] at h
        cases h
  · exact absurd rfl (hundone (by rw [h]; rfl))

theorem masked_close (hby : s.HeldBy p data c) {ok : Bool} (hundone : s.Undone (.close ok))
    (h : s.step (.close ok) = some t) : t.Masked := by
  rcases held_close hby h with ⟨rfl, _⟩ | ⟨rfl, _⟩
  · cases hpc : s.pc with
    | idle =>
        simp only [step, hpc, hby.handle, hby.locClientClose.1] at h
        cases h
        exact fun _ c' hc' => nomatch hc'
    | initialising | registering | filling | releasing =>
        simp only [step, hpc] at h
        cases h
  · exact absurd rfl (hundone (by rw [h]; rfl))

/-- The registration whose reply is lost is the only one that the client does not
    hear of. -/
theorem mask_registerEventMask (hby : s.HeldBy p data c) (hs : s.Masked) {mask : QmiMask}
    {reply : RegReply} (h : s.step (.registerEventMask mask reply) = some t) :
    t.Masked ∨
      reply = .lost true ∧ t.acked = s.acked ∧ t.clients = [{ c with eventMask := mask }] := by
  cases hpc : s.pc with
  | idle =>
      simp only [step, hpc, hby.handle] at h
      rcases hby.sendRegEvents mask reply with ⟨_, heq⟩ | ⟨hlost, heq⟩ | ⟨_, _, heq⟩
      · rw [heq] at h
        cases h
        refine Or.inl fun _ c' hc' => ?_
        rw [List.mem_singleton.mp hc']
      · rw [heq] at h
        cases h
        exact Or.inr ⟨hlost, rfl, rfl⟩
      · rw [heq] at h
        cases h
        exact Or.inl hs
  | initialising | registering | filling | releasing =>
      simp only [step, hpc] at h
      cases h

/-- A step after which the modem has another mask is one whose reply is lost. -/
theorem mask_step {l : ClientLabel} (hs : s.Synced) (hundone : s.Undone l)
    (h : s.step l = some t) :
    t.Masked ∨ ∃ mask c, l = .registerEventMask mask (.lost true) ∧ t.acked = s.acked ∧
      t.clients = [c] ∧ c.eventMask = mask := by
  rcases hs with ⟨hheld, hmask⟩
  cases l with
  | locClientOpen args => exact Or.inl (masked_locClientOpen hmask h)
  | ctrlPointInit cbData clnt outcome =>
      exact Or.inl (masked_ctrlPointInit hheld hmask hundone h)
  | indication | serviceError =>
      simp only [step] at h
      split at h
      · split at h
        · cases h
          exact Or.inl hmask
        · cases h
      · cases h
  -- The other steps are about the client of the handle.
  | registerInOpen reply =>
      rcases hheld with hnone | ⟨p, data, c, hby⟩
      · simp only [hnone.stuck] at h
        cases h
      · exact Or.inl (masked_registerInOpen hby h)
  | fill =>
      rcases hheld with hnone | ⟨p, data, c, hby⟩
      · simp only [hnone.stuck] at h
        cases h
      · exact Or.inl (masked_fill hby hmask h)
  | release ok =>
      rcases hheld with hnone | ⟨p, data, c, hby⟩
      · simp only [hnone.stuck] at h
        cases h
      · exact Or.inl (masked_release hby hundone h)
  | registerEventMask mask reply =>
      rcases hheld with hnone | ⟨p, data, c, hby⟩
      · simp only [hnone.stuck] at h
        cases h
      · rcases mask_registerEventMask hby hmask h with ht | ⟨rfl, hacked, hclients⟩
        · exact Or.inl ht
        · exact Or.inr ⟨mask, _, rfl, hacked, hclients, rfl⟩
  | close ok =>
      rcases hheld with hnone | ⟨p, data, c, hby⟩
      · simp only [hnone.stuck] at h
        cases h
      · exact Or.inl (masked_close hby hundone h)

end

/-- Nothing is left behind, and the modem has the mask of the open client, in
    the runs in which failures can be undone and no reply is lost to a
    registration that the modem has taken. -/
theorem sameMask_iff (ls : List ClientLabel) :
    Throughout step (fun s => s.Tidy ∧ s.SameMask) init ls ↔
      Meets step (fun s l => s.Undone l ∧ s.Heard l) init ls := by
  refine throughout_iff_meets (I := Synced)
    (fun _ hs => ⟨tidy_of_held hs.1, sameMask_of_synced hs⟩) ?_ ?_
    ⟨held_init, fun _ c hc => nomatch hc⟩
  · rintro s l t hs ⟨hundone, hheard⟩ h
    have ht : t.Held := by
      rcases held_step hs.1 h with ⟨_, ht⟩ | ⟨hleaves, _⟩
      · exact ht
      · exact absurd hleaves (hundone (by rw [h]; rfl))
    refine ⟨ht, ?_⟩
    rcases mask_step hs hundone h with hmask | ⟨mask, c, rfl, hacked, hclients, hc⟩
    · exact hmask
    · intro _ c' hc'
      rw [hclients, List.mem_singleton] at hc'
      rw [hc', hc, hacked]
      exact hheard mask rfl (by rw [h]; rfl)
  · intro s l hs hbad
    by_cases hundone : s.Undone l
    · have hheard : ¬ s.Heard l := fun h => hbad ⟨hundone, h⟩
      simp only [Heard, not_forall] at hheard
      rcases hheard with ⟨mask, rfl, hsome, hne⟩
      rcases Option.isSome_iff_exists.mp hsome with ⟨t, ht⟩
      refine ⟨t, ht, fun hP => hne ?_⟩
      rcases hs.1 with hnone | ⟨p, data, c, hby⟩
      · simp only [hnone.stuck] at ht
        cases ht
      · cases hpc : s.pc with
        | idle =>
            simp only [step, hpc, hby.handle] at ht
            rcases hby.sendRegEvents mask (.lost true) with ⟨hno, _⟩ | ⟨_, heq⟩ | ⟨_, hno, _⟩
            · cases hno
            · rw [heq] at ht
              cases ht
              exact hP.2 hpc _ (List.mem_singleton_self _)
            · exact absurd rfl hno
        | initialising | registering | filling | releasing =>
            simp only [step, hpc] at ht
            cases ht
    -- What is left behind stays, whatever its masks are.
    · rw [Undone, Classical.not_imp, not_not] at hundone
      rcases Option.isSome_iff_exists.mp hundone.1 with ⟨t, ht⟩
      rcases held_step hs.1 ht with ⟨hno, _⟩ | ⟨_, hbad⟩
      · exact absurd hundone.2 hno
      · exact ⟨t, ht, fun h => hbad h.1⟩

/-! ## Indications -/

/-- The client that is open has a callback for events. -/
def HasEventCb (s : LocClient) : Prop :=
  ∃ p data, s.handle = some p ∧ s.heap p = some data ∧ data.eventCallback = true

theorem held_of_meets {ls : List ClientLabel} {s : LocClient} (hls : Meets step Undone init ls)
    (hrun : exec step init ls = some s) : s.Held := by
  refine invariant_of_meets (I := Held) (fun s l t hs hundone h => ?_) held_init hls hrun
  rcases held_step hs h with ⟨_, ht⟩ | ⟨hleaves, _⟩
  · exact ht
  · exact absurd hleaves (hundone (by rw [h]; rfl))

/-- What is handed on of an indication for callback data that is in order. -/
theorem locClientIndCb_eq {data : CallbackData} {clnt : Nat} (hpMe : data.pMe = true)
    (hhandle : data.userHandle = some clnt) (msg_id : UInt32) (decodes : Bool) :
    locClientIndCb data clnt msg_id decodes =
      match eventMaskOf msg_id with
      | some eventMask =>
        if data.eventCallback = true ∧ decodes = true ∧ data.eventRegMask &&& eventMask ≠ 0#64 then
          some (.event msg_id)
        else none
      | none =>
        if data.respCallback = true ∧ decodes = true ∧ msg_id ∈ locClientRespIndTable ∧
            locClientHandleIndication msg_id = true then some (.resp msg_id)
        else none := by
  unfold locClientIndCb locClientGetSizeAndTypeByIndId isClientRegisteredForEvent
  rw [hpMe, hhandle]
  cases hmask : eventMaskOf msg_id with
  | some eventMask =>
      have hhandled := locClientHandleIndication_event hmask
      cases hcb : data.eventCallback <;> cases decodes <;>
        by_cases hbit : data.eventRegMask &&& eventMask = 0#64 <;> simp [hbit, hhandled]
  | none =>
      by_cases hresp : msg_id ∈ locClientRespIndTable
      · cases data.respCallback <;> cases decodes <;>
          cases locClientHandleIndication msg_id <;> simp [hresp]
      · simp [hresp]

/-- An indication finds no client, or the callback data of the open one. -/
theorem out_indication {s : LocClient} (hs : s.Held) (clnt : Nat) (msg_id : UInt32)
    (decodes : Bool) :
    ((∀ c ∈ s.clients, c.clnt ≠ clnt) ∧ s.out (.indication clnt msg_id decodes) = []) ∨
      ∃ p data c, s.HeldBy p data c ∧ c.clnt = clnt ∧
        s.out (.indication clnt msg_id decodes) =
          (locClientIndCb data clnt msg_id decodes).toList := by
  rcases hs with hnone | ⟨p, data, c, hby⟩
  · exact Or.inl ⟨by simp [hnone.clients], by simp [out, hnone.clients]⟩
  · by_cases hc : c.clnt = clnt
    · refine Or.inr ⟨p, data, c, hby, hc, ?_⟩
      simp [out, hby.clients, hc, hby.cbData, hby.heap_self]
    · exact Or.inl ⟨by simp [hby.clients, hc], by simp [out, hby.clients, hc]⟩

theorem HeldBy.hasEventCb_iff {s : LocClient} {p : Nat} {data : CallbackData} {c : QmiClient}
    (hs : s.HeldBy p data c) : s.HasEventCb ↔ data.eventCallback = true := by
  constructor
  · rintro ⟨p', data', hp', hdata', hcb'⟩
    rw [hs.handle] at hp'
    cases hp'
    rw [hs.heap_self] at hdata'
    cases hdata'
    exact hcb'
  · exact fun h => ⟨p, data, hs.handle, hs.heap_self, h⟩

theorem HeldBy.idle_iff {s : LocClient} {p : Nat} {data : CallbackData} {c : QmiClient}
    (hs : s.HeldBy p data c) : s.pc = .idle ↔ data.respCallback = true := by
  refine ⟨hs.opened, fun hresp => Classical.byContradiction fun hno => ?_⟩
  rw [(hs.half hno).2.1] at hresp
  cases hresp

theorem out_of_opening {s : LocClient} (hs : s.Held) (hpc : s.pc ≠ .idle) (clnt : Nat)
    (msg_id : UInt32) (decodes : Bool) : s.out (.indication clnt msg_id decodes) = [] := by
  rcases out_indication hs clnt msg_id decodes with ⟨_, hout⟩ | ⟨p, data, c, hby, hc, hout⟩
  · exact hout
  · have hhalf := hby.half hpc
    rw [hout, locClientIndCb_eq hby.pMe (hc ▸ hby.userHandle), hhalf.1, hhalf.2.1]
    cases eventMaskOf msg_id <;> simp

theorem event_mem_out_iff {s : LocClient} (hs : s.Held) (clnt : Nat) (msg_id : UInt32)
    (decodes : Bool) :
    .event msg_id ∈ s.out (.indication clnt msg_id decodes) ↔
      (∃ c ∈ s.clients, c.clnt = clnt) ∧ s.HasEventCb ∧ decodes = true ∧
        ∃ eventMask, eventMaskOf msg_id = some eventMask ∧ s.acked &&& eventMask ≠ 0#64 := by
  rcases out_indication hs clnt msg_id decodes with ⟨hno, hout⟩ | ⟨p, data, c, hby, hc, hout⟩
  · rw [hout]
    refine ⟨(fun h => nomatch h), ?_⟩
    rintro ⟨⟨c, hmem, hc⟩, _⟩
    exact absurd hc (hno c hmem)
  · have hexists : ∃ c' ∈ s.clients, c'.clnt = clnt := ⟨c, by simp [hby.clients], hc⟩
    rw [hout, locClientIndCb_eq hby.pMe (hc ▸ hby.userHandle), hby.hasEventCb_iff, ← hby.mask,
      and_iff_right hexists]
    cases eventMaskOf msg_id <;> simp

theorem resp_mem_out_iff {s : LocClient} (hs : s.Held) (clnt : Nat) (msg_id : UInt32)
    (decodes : Bool) :
    .resp msg_id ∈ s.out (.indication clnt msg_id decodes) ↔
      (∃ c ∈ s.clients, c.clnt = clnt) ∧ s.pc = .idle ∧ decodes = true ∧
        msg_id ∈ locClientRespIndTable ∧ eventMaskOf msg_id = none ∧
          msg_id ∉ unhandledInds := by
  rcases out_indication hs clnt msg_id decodes with ⟨hno, hout⟩ | ⟨p, data, c, hby, hc, hout⟩
  · rw [hout]
    refine ⟨(fun h => nomatch h), ?_⟩
    rintro ⟨⟨c, hmem, hc⟩, _⟩
    exact absurd hc (hno c hmem)
  · have hexists : ∃ c' ∈ s.clients, c'.clnt = clnt := ⟨c, by simp [hby.clients], hc⟩
    rw [hout, locClientIndCb_eq hby.pMe (hc ▸ hby.userHandle), hby.idle_iff,
      and_iff_right hexists]
    cases hmask : eventMaskOf msg_id with
    | some eventMask => simp
    | none =>
        by_cases hresp : msg_id ∈ locClientRespIndTable
        · have htype : locClientGetSizeAndTypeByIndId msg_id = some .resp := by
            simp [locClientGetSizeAndTypeByIndId, hmask, hresp]
          have hswitch := undelivered_iff msg_id
          rw [htype, and_iff_right rfl] at hswitch
          rw [← hswitch]
          cases locClientHandleIndication msg_id <;> simp [hresp]
        · simp [hresp]

/-- A client that is registered for position reports, opened at the first try. -/
def openedClient : List ClientLabel :=
  [.locClientOpen ⟨0x1#64, true, true⟩, .ctrlPointInit 8 3 .ok, .registerInOpen .success, .fill]

end LocClient

end LocApi

end Victara
