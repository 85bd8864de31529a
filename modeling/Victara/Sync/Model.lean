import Mathlib.Logic.Function.Basic
import Victara.Lib.StepSystem

/-!
# Synchronous Requests to the Modem

`loc_api_sync_req.c`: any number of callers in `loc_sync_send_req`, one
indication thread in `loc_sync_process_ind`, and the eight slots they share.

A step is what happens under one acquisition of a mutex, or the call that
sends the request. `loc_alloc_slot` and `loc_free_slot` hold
`loc_sync_call_mutex`; so does the indication thread from its first step to
its last, with the lock of one slot at a time on the way. The other steps of
a caller hold the lock of its slot only, and may fall between two visits of
the indication thread. A condition wait ends with or without a signal, in
time or not.

A caller makes one call in a run, and its payload buffer is its own. With
each call is kept what nobody in the program reads: what `locClientSendReq`
returned, whether the wait was signalled, the indications its slot was
handed, and what was copied to its buffer.

## Main definitions

* `LocClientStatus`: `locClientStatusEnumType`.
* `SelectId`: An index of a slot.
* `CallId`: A call of `loc_sync_send_req`.
* `LocClientHandle`: A client handle, a pointer in the source.
* `Slot`, `Pc`, `Call`, `Ind`, `State`: The data.
* `Slot.cleared`: What `loc_sync_req_init` and `loc_free_slot` leave in a slot.
* `Slot.arrive`: The flags after a match: a waiting caller is signalled, for any
  other the arrival is remembered.
* `Key`: What an indication is matched by.
* `Args`: The arguments of a call; `ind_payload_ptr` says whether it brings a
  buffer.
* `Args.payloadPtr`: The pointer that call `c` brings.
* `Setup`: The calls of a run, and the table of response indications.
* `Pc.slot`: The slot a call holds.
* `Handed`: An indication that a slot was handed: its number, and what it was
  matched by.
* `Label`: The steps, with what the environment decides in them.
* `State.init`: `loc_sync_req_init`.
* `goto`: Call `c` goes on at `pc`.
* `firstFree`: The first slot that is not in use.
* `take`: The slot is taken.
* `allocSlot`, `selectInd`, `sendReq`, `waitForInd`, `wake`, `freeSlot`: The
  steps of a caller.
* `processInd`, `visitSlot`, `processIndEnd`: The steps of the indication
  thread.
* `Matches`: The slot is in use, for this indication, and has not got it yet.
* `copied`: What is copied where: the size of the indication has to be known,
  and neither pointer NULL.
* `copyPayload`: The copy of the payload.
* `note`: Who holds the slot is handed the indication, with a signal if it
  waits.
* `step`: All of them.
-/

namespace Victara

namespace Sync

/-- `locClientStatusEnumType`. -/
inductive LocClientStatus
  | success | failureGeneral | failureUnsupported | failureInvalidParameter | failureEngineBusy
  | failurePhoneOffline | failureTimeout | failureServiceNotPresent
  | failureServiceVersionUnsupported | failureClientVersionUnsupported | failureInvalidHandle
  | failureInternal | failureNotInitialized | failureNotEnoughMemory
  deriving DecidableEq, Repr

def LOC_SYNC_REQ_BUFFER_SIZE : Nat := 8

/-- An index of a slot. -/
abbrev SelectId := Fin LOC_SYNC_REQ_BUFFER_SIZE

/-- A call of `loc_sync_send_req`. -/
abbrev CallId := Nat

/-- A client handle, a pointer in the source. -/
abbrev LocClientHandle := Nat

def LOC_CLIENT_INVALID_HANDLE_VALUE : LocClientHandle := 0

/-- `loc_sync_req_data_s_type`. A payload pointer that is not NULL is named
    after the call whose buffer it points to. -/
structure Slot where
  client_handle : LocClientHandle
  ind_is_selected : Bool
  ind_is_waiting : Bool
  ind_has_arrived : Bool
  req_id : UInt32
  recv_ind_payload_ptr : Option CallId
  recv_ind_id : UInt32
  deriving DecidableEq, Repr

/-- What `loc_sync_req_init` and `loc_free_slot` leave in a slot. -/
def Slot.cleared : Slot where
  client_handle := LOC_CLIENT_INVALID_HANDLE_VALUE
  ind_is_selected := false
  ind_is_waiting := false
  ind_has_arrived := false
  req_id := 0
  recv_ind_payload_ptr := none
  recv_ind_id := 0

/-- The flags after a match: a waiting caller is signalled, for any other the
    arrival is remembered. -/
def Slot.arrive (slot : Slot) (ind_id : UInt32) : Slot :=
  if slot.ind_is_waiting then { slot with recv_ind_id := ind_id }
  else { slot with ind_has_arrived := true }

/-- What an indication is matched by. -/
structure Key where
  client_handle : LocClientHandle
  ind_id : UInt32
  deriving DecidableEq, Repr

/-- The arguments of a call; `ind_payload_ptr` says whether it brings a
    buffer. -/
structure Args where
  client_handle : LocClientHandle
  req_id : UInt32
  ind_id : UInt32
  ind_payload_ptr : Bool
  deriving DecidableEq, Repr

def Args.key (a : Args) : Key := ⟨a.client_handle, a.ind_id⟩

/-- The pointer that call `c` brings. -/
def Args.payloadPtr (a : Args) (c : CallId) : Option CallId :=
  if a.ind_payload_ptr then some c else none

/-- The calls of a run, and the table of response indications. -/
structure Setup where
  args : CallId → Args
  locClientGetSizeByRespIndId : UInt32 → Option Nat

/-- Where a call is: before it, about to write its slot, to send, to wait, in
    the wait, about to free its slot, and done. -/
inductive Pc
  | idle
  | selecting (select_id : SelectId)
  | sending (select_id : SelectId)
  | entering (select_id : SelectId)
  | waiting (select_id : SelectId)
  | freeing (select_id : SelectId) (status : LocClientStatus)
  | returned (status : LocClientStatus)
  deriving DecidableEq, Repr

/-- The slot a call holds. -/
def Pc.slot : Pc → Option SelectId
  | .selecting i | .sending i | .entering i | .waiting i | .freeing i _ => some i
  | .idle | .returned _ => none

/-- An indication that a slot was handed: its number, and what it was matched
    by. -/
structure Handed where
  seq : Nat
  key : Key
  deriving DecidableEq, Repr

structure Call (P : Type*) where
  pc : Pc
  sent : Option LocClientStatus
  signalled : Bool
  handed : List Handed
  buffer : Option P
  deriving DecidableEq, Repr

/-- An indication being processed: the arguments, the loop variables and its
    number. -/
structure Ind (P : Type*) where
  key : Key
  ind_payload_ptr : Option P
  i : Nat
  in_use : Bool
  consumed : Bool
  seq : Nat
  deriving DecidableEq, Repr

/-- `loc_sync_array`, the two kinds of threads, and which call holds which
    slot. `seq` counts the indications, `processed` lists those that are
    done. -/
structure State (P : Type*) where
  in_use : Bool
  slot_in_use : SelectId → Bool
  slots : SelectId → Slot
  ind : Option (Ind P)
  calls : CallId → Call P
  owner : SelectId → Option CallId
  seq : Nat
  processed : List Key

/-- The steps. A send is told its status, a wake-up whether the wait timed
    out, an indication its arguments. -/
inductive Label (P : Type*)
  | alloc (c : CallId)
  | select (c : CallId)
  | send (c : CallId) (status : LocClientStatus)
  | wait (c : CallId)
  | wake (c : CallId) (timedOut : Bool)
  | free (c : CallId)
  | indBegin (key : Key) (ind_payload_ptr : Option P)
  | indVisit
  | indEnd
  deriving DecidableEq, Repr

variable {P : Type*}

def Call.init : Call P := { pc := .idle, sent := none, signalled := false, handed := [], buffer := none }

/-- `loc_sync_req_init`. -/
def State.init : State P where
  in_use := false
  slot_in_use := fun _ => false
  slots := fun _ => Slot.cleared
  ind := none
  calls := fun _ => Call.init
  owner := fun _ => none
  seq := 0
  processed := []

namespace State

def setCall (s : State P) (c : CallId) (k : Call P) : State P :=
  { s with calls := Function.update s.calls c k }

def setSlot (s : State P) (i : SelectId) (slot : Slot) : State P :=
  { s with slots := Function.update s.slots i slot }

/-- Call `c` goes on at `pc`. -/
def goto (s : State P) (c : CallId) (pc : Pc) : State P := s.setCall c { s.calls c with pc := pc }

/-- The first slot that is not in use. -/
def firstFree (s : State P) : Option SelectId :=
  (List.finRange LOC_SYNC_REQ_BUFFER_SIZE).find? fun i => !s.slot_in_use i

/-- The slot is taken. -/
def take (s : State P) (c : CallId) (select_id : SelectId) : State P :=
  { s with slot_in_use := Function.update s.slot_in_use select_id true
           in_use := true
           owner := Function.update s.owner select_id (some c) }.goto c (.selecting select_id)

/-- `loc_alloc_slot`. When it finds no slot, `loc_sync_send_req` has nothing
    left to do and returns the status it started with. -/
def allocSlot (s : State P) (c : CallId) : State P :=
  match s.firstFree with
  | some select_id => s.take c select_id
  | none => s.goto c (.returned .success)

/-- The rest of `loc_sync_select_ind`. -/
def selectInd (g : Setup) (s : State P) (c : CallId) (select_id : SelectId) : State P :=
  (s.setSlot select_id
    { client_handle := (g.args c).client_handle
      ind_is_selected := true
      ind_is_waiting := false
      ind_has_arrived := false
      req_id := (g.args c).req_id
      recv_ind_payload_ptr := (g.args c).payloadPtr c
      recv_ind_id := (g.args c).ind_id }).goto c (.sending select_id)

/-- `locClientSendReq` returns. -/
def sendReq (s : State P) (c : CallId) (select_id : SelectId) (status : LocClientStatus) :
    State P :=
  s.setCall c { s.calls c with
    sent := some status
    -- a request that was not sent is not waited for
    pc := if status ≠ .success then .freeing select_id status else .entering select_id }

/-- `loc_sync_wait_for_ind` up to the wait. The slot has to be in use, an
    arrival is remembered, and a slot somebody waits in is busy. -/
def waitForInd (s : State P) (c : CallId) (select_id : SelectId) : State P :=
  let slot := s.slots select_id
  -- the id is not one that was selected
  if !s.slot_in_use select_id then s.goto c (.returned .failureInternal)
  -- the indication came before the wait
  else if slot.ind_has_arrived then s.goto c (.freeing select_id .success)
  -- busy
  else if slot.ind_is_waiting then s.goto c (.freeing select_id .failureInternal)
  else (s.setSlot select_id { slot with ind_is_waiting := true }).goto c (.waiting select_id)

/-- `pthread_cond_timedwait` returns. Nothing but a timeout is an error. -/
def wake (s : State P) (c : CallId) (select_id : SelectId) (timedOut : Bool) : State P :=
  (s.setSlot select_id { s.slots select_id with ind_is_waiting := false }).goto c
    (.freeing select_id (if timedOut then .failureTimeout else .success))

/-- `loc_free_slot`, after which the call returns. -/
def freeSlot (s : State P) (c : CallId) (select_id : SelectId) (status : LocClientStatus) :
    State P :=
  let slot_in_use := Function.update s.slot_in_use select_id false
  ({ s with slot_in_use := slot_in_use
            -- this slot is free when the others are looked at
            in_use := s.in_use && (List.finRange LOC_SYNC_REQ_BUFFER_SIZE).any slot_in_use
            owner := Function.update s.owner select_id none }.setSlot select_id Slot.cleared).goto
    c (.returned status)

/-- `loc_sync_process_ind` up to the loop: nothing to do when no slot is in
    use. -/
def processInd (s : State P) (key : Key) (ind_payload_ptr : Option P) : State P :=
  if !s.in_use then { s with seq := s.seq + 1, processed := s.processed ++ [key] }
  else { s with seq := s.seq + 1, ind := some ⟨key, ind_payload_ptr, 0, false, false, s.seq⟩ }

/-- The slot is in use, for this indication, and has not got it yet. -/
def Matches (s : State P) (ind : Ind P) (i : SelectId) : Prop :=
  s.slot_in_use i = true ∧ (s.slots i).client_handle = ind.key.client_handle ∧
    ind.key.ind_id = (s.slots i).recv_ind_id ∧ (s.slots i).ind_has_arrived = false

instance (s : State P) (ind : Ind P) (i : SelectId) : Decidable (s.Matches ind i) :=
  inferInstanceAs (Decidable (_ ∧ _))

/-- What is copied where: the size of the indication has to be known, and
    neither pointer NULL. -/
def copied (g : Setup) (s : State P) (ind : Ind P) (i : SelectId) : Option (CallId × P) :=
  match g.locClientGetSizeByRespIndId ind.key.ind_id, (s.slots i).recv_ind_payload_ptr,
      ind.ind_payload_ptr with
  | some _, some b, some p => some (b, p)
  | _, _, _ => none

/-- The copy of the payload. -/
def copyPayload (g : Setup) (s : State P) (ind : Ind P) (i : SelectId) : State P :=
  match s.copied g ind i with
  | some (b, p) => s.setCall b { s.calls b with buffer := some p }
  | none => s

/-- Who holds the slot is handed the indication, with a signal if it waits. -/
def note (s : State P) (ind : Ind P) (i : SelectId) : State P :=
  match s.owner i with
  | some c => s.setCall c { s.calls c with
      handed := (s.calls c).handed ++ [⟨ind.seq, ind.key⟩]
      signalled := (s.calls c).signalled || (s.slots i).ind_is_waiting }
  | none => s

/-- One round of the loop. -/
def visitSlot (g : Setup) (s : State P) (ind : Ind P) (i : SelectId) : State P :=
  let in_use := ind.in_use || s.slot_in_use i
  if s.Matches ind i then
    -- the loop ends here only if the payload was copied
    let s' := (s.copyPayload g ind i).note ind i
    { s'.setSlot i ((s.slots i).arrive ind.key.ind_id) with
      ind := some { ind with
        i := ind.i + 1, in_use := in_use, consumed := (s.copied g ind i).isSome } }
  else { s with ind := some { ind with i := ind.i + 1, in_use := in_use } }

/-- After the loop. -/
def processIndEnd (s : State P) (ind : Ind P) : State P :=
  { s with in_use := s.in_use && ind.in_use
           ind := none
           processed := s.processed ++ [ind.key] }

end State

/-- The steps. `loc_alloc_slot` and `loc_free_slot` wait for an indication
    that is being processed, and so does the next indication. -/
def step (g : Setup) (s : State P) : Label P → Option (State P)
  | .alloc c =>
    match (s.calls c).pc, s.ind with
    | .idle, none => some (s.allocSlot c)
    | _, _ => none
  | .select c =>
    match (s.calls c).pc with
    | .selecting select_id => some (s.selectInd g c select_id)
    | _ => none
  | .send c status =>
    match (s.calls c).pc with
    | .sending select_id => some (s.sendReq c select_id status)
    | _ => none
  | .wait c =>
    match (s.calls c).pc with
    | .entering select_id => some (s.waitForInd c select_id)
    | _ => none
  | .wake c timedOut =>
    match (s.calls c).pc with
    | .waiting select_id => some (s.wake c select_id timedOut)
    | _ => none
  | .free c =>
    match (s.calls c).pc, s.ind with
    | .freeing select_id status, none => some (s.freeSlot c select_id status)
    | _, _ => none
  | .indBegin key ind_payload_ptr =>
    match s.ind with
    | none => some (s.processInd key ind_payload_ptr)
    | some _ => none
  | .indVisit =>
    match s.ind with
    | some ind =>
      if h : ind.i < LOC_SYNC_REQ_BUFFER_SIZE then
        if ind.consumed then none else some (s.visitSlot g ind ⟨ind.i, h⟩)
      else none
    | none => none
  | .indEnd =>
    match s.ind with
    | some ind =>
      if ind.i < LOC_SYNC_REQ_BUFFER_SIZE ∧ ind.consumed = false then none
      else some (s.processIndEnd ind)
    | none => none

end Sync

end Victara
