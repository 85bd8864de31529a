import Mathlib.Logic.Function.Basic
import Victara.Agps.Machine

/-!
# The AGPS State Machines with Their Subscribers in a Store

`AgpsStateMachine` lists its subscribers by value. In the code the list holds
pointers to objects that `clone` makes and `delete` takes away, and a
notification that is addressed holds a pointer too. In Pending, Acquired and
Releasing, `unsubscribeRsrc` addresses a notification to the very object that
it found on the list.

Here the list holds addresses, and an object is read through the store.
Reading one that is not there is an error, and so is a call in which that
happens. Whatever does not touch an object is taken from `AgpsStateMachine`.
A list that is searched without deleting is read through the store beforehand.

## Main definitions

* `Store`: The objects, by their addresses.
* `nodes`: The list elements, each with the object at its address.
* `PtrNotification`: A notification that holds the address of its receiver.
* `read`: What `forMe` finds when it follows the pointer.
* `notifySubscriberAt`: A listed subscriber is asked and told.
* `drainAt`, `StoreMachine.notifySubscribers`: The notification loop.
* `StoreMachine`: A machine whose subscribers are in a store.
* `new`: A machine with its store, without subscribers.
* `load`: The machine with its list read through the store.
* `reading`: What reads the list, and changes neither it nor an object on it.
* `notifyRsrcStatus`: The notification of an object that is not on the list, or
  stays on it.
* `addSubscriber`: A clone of the caller's object goes on the list, at a new
  address.
* `dismiss`: The notification is addressed to the object on the list.
* `RsrcEvent`: What `onRsrcEvent(event, data)` of a state is called with: the
  caller's object, or one on the list.
* `stateOnRsrcEvent`: `mStatePtr->onRsrcEvent(event, data)`.
* `StoreMachine.dispatch`, `StoreMachine.step`: An event, and a call.
-/

namespace Victara

namespace Agps

open AgpsStateMachine

abbrev Store := Nat → Option Subscriber

def Store.write (σ : Store) (a : Nat) (s : Subscriber) : Store := Function.update σ a (some s)

def Store.delete (σ : Store) (a : Nat) : Store := Function.update σ a none

/-- The list elements, each with the object at its address. -/
def nodes (σ : Store) : List Nat → Option (List Node)
  | [] => some []
  | a :: l => (σ a).bind fun s => (nodes σ l).map fun nds => ⟨a, s⟩ :: nds

/-- A `Notification` as it is in memory: `rcver` is a pointer. -/
structure PtrNotification where
  rcver : Option Nat
  groupID : GroupID
  rsrcStatus : AgpsRsrcStatus
  postNotifyDelete : Bool

namespace PtrNotification

def broadcast (group : GroupID) (status : AgpsRsrcStatus) (deleteAfterwards : Bool) :
    PtrNotification :=
  { rcver := none, groupID := group, rsrcStatus := status, postNotifyDelete := deleteAfterwards }

def addressed (addr : Nat) (status : AgpsRsrcStatus) (deleteAfterwards : Bool) :
    PtrNotification :=
  { rcver := some addr, groupID := .none, rsrcStatus := status,
    postNotifyDelete := deleteAfterwards }

/-- What `forMe` finds when it follows the pointer. A broadcast has none. -/
def read (σ : Store) (n : PtrNotification) : Option Notification :=
  match n.rcver with
  | none => some
    { rcver := none, groupID := n.groupID, rsrcStatus := n.rsrcStatus,
      postNotifyDelete := n.postNotifyDelete }
  | some a => (σ a).map fun r =>
    { rcver := some r, groupID := n.groupID, rsrcStatus := n.rsrcStatus,
      postNotifyDelete := n.postNotifyDelete }

end PtrNotification

/-- `notifySubscriber` of the listed object at `a`. -/
def notifySubscriberAt (σ : Store) (n : PtrNotification) (m : AgpsStateMachine) (a : Nat) :
    Option (AgpsStateMachine × Bool) :=
  (σ a).bind fun s => (n.read σ).map fun n => notifySubscriber n m ⟨a, s⟩

/-- Search and delete until a search finds nothing. Each search follows the
    pointer of the same notification. -/
def drainAt (n : PtrNotification) :
    Nat → AgpsStateMachine → Store → List Nat → Option (AgpsStateMachine × Store × List Nat)
  | 0, m, σ, l => some (m, σ, l)
  | k + 1, m, σ, l => (Visit.visitM (notifySubscriberAt σ n) m l).bind fun r => match r.2.1 with
    | some a => drainAt n k r.1 (σ.delete a) r.2.2
    | none => some (r.1, σ, r.2.2)

/-- A machine with its subscribers in a store. `rest` is all but the list, so
    its own list says nothing. -/
structure StoreMachine where
  rest : AgpsStateMachine
  mSubscribers : List Nat
  store : Store

namespace StoreMachine

/-- As `m` is constructed, without subscribers. -/
def new (m : AgpsStateMachine) : StoreMachine :=
  { rest := m, mSubscribers := [], store := fun _ => none }

/-- The machine with its list read through the store. -/
def load (s : StoreMachine) : Option AgpsStateMachine :=
  (nodes s.store s.mSubscribers).map fun l => { s.rest with mSubscribers := l }

/-- What reads the list, and changes neither it nor an object on it. -/
def reading {α : Type} (s : StoreMachine) (f : AgpsStateMachine → AgpsStateMachine × α) :
    Option (StoreMachine × α) :=
  s.load.map fun m => ({ s with rest := (f m).1 }, (f m).2)

def hasSubscribers (s : StoreMachine) : Bool := !linkedListEmpty s.mSubscribers

def hasActiveSubscribers (s : StoreMachine) : Option Bool :=
  s.load.map AgpsStateMachine.hasActiveSubscribers

def sendRsrcRequest (env : Env) (s : StoreMachine) (action : AGpsStatusValue) :
    Option (StoreMachine × Int) :=
  s.reading fun m => m.sendRsrcRequest env action

/-- The notification of an object that is not on the list, or stays on it. -/
def notifyRsrcStatus (s : StoreMachine) (addr : Option Nat) (x : Subscriber) (n : Notification) :
    Option StoreMachine :=
  (s.reading fun m => m.notifyRsrcStatus addr x n).map Prod.fst

def notifySubscribers (s : StoreMachine) (n : PtrNotification) : Option StoreMachine :=
  s.load.bind fun m =>
    if n.postNotifyDelete then
      (drainAt n (s.mSubscribers.length + 1) m s.store s.mSubscribers).map fun r =>
        { rest := r.1, mSubscribers := r.2.2, store := r.2.1 }
    else
      (Visit.visitM (notifySubscriberAt s.store n) m s.mSubscribers).map fun r =>
        { s with rest := r.1 }

/-- A clone of the caller's object goes on the list, at a new address. -/
def addSubscriber (s : StoreMachine) (subscriber : Subscriber) : Option StoreMachine :=
  s.load.map fun m => match m.search (.addressed subscriber .rsrcStatusMax false) with
    | some _ => s
    | none =>
      { rest := { s.rest with nextAddr := s.rest.nextAddr + 1 }
        mSubscribers := linkedListAdd s.mSubscribers s.rest.nextAddr
        store := s.store.write s.rest.nextAddr subscriber.clone }

def setInactive (s : StoreMachine) (a : Nat) : Option StoreMachine :=
  (s.store a).map fun x =>
    let s := { s with store := s.store.write a x.markInactive }
    match x with
    | .ds id _ => { s with rest := s.rest.informStatus .rsrcUnsubscribe id }
    | _ => s

/-- The notification is addressed to the object on the list. -/
def dismiss (s : StoreMachine) (a : Nat) : Option StoreMachine :=
  (s.store a).bind fun x =>
    if x.waitForCloseComplete then s.setInactive a
    else s.notifySubscribers (.addressed a .rsrcUnsubscribe true)

/-- What `onRsrcEvent(event, data)` of a state is called with: the caller's
    object, or one on the list. -/
inductive RsrcEvent
  | subscribe (data : Subscriber)
  | unsubscribe (data : Nat)
  | granted
  | released
  | denied

def afterUnsubscribe (env : Env) (s : StoreMachine) (self : AgpsState) :
    Option (StoreMachine × AgpsState) :=
  if !s.hasSubscribers then
    (s.sendRsrcRequest env .releaseAgpsDataConn).map fun r => (r.1, .released)
  else s.hasActiveSubscribers.bind fun active =>
    if !active then (s.sendRsrcRequest env .releaseAgpsDataConn).map fun r => (r.1, .releasing)
    else some (s, self)

def releasedOnRsrcEvent (env : Env) (s : StoreMachine) :
    RsrcEvent → Option (StoreMachine × AgpsState)
  | .subscribe subscriber => (s.addSubscriber subscriber).bind fun s =>
    (s.sendRsrcRequest env .requestAgpsDataConn).map fun r =>
      (r.1, if r.2 = 0 then .pending else .released)
  | .unsubscribe a => (s.store a).bind fun x =>
    (s.notifyRsrcStatus (some a) x (.addressed x .rsrcUnsubscribe false)).map fun s =>
      (s, .released)
  | .granted | .released | .denied => some (s, .released)

def pendingOnRsrcEvent (env : Env) (s : StoreMachine) :
    RsrcEvent → Option (StoreMachine × AgpsState)
  | .subscribe subscriber => (s.addSubscriber subscriber).map fun s => (s, .pending)
  | .unsubscribe a => (s.dismiss a).bind fun s => s.afterUnsubscribe env .pending
  | .granted => (s.notifySubscribers (.broadcast .broadcastActive .rsrcGranted false)).map
      fun s => (s, .acquired)
  | .released => some (s, .pending)
  | .denied => (s.notifySubscribers (.broadcast .broadcastAll .rsrcDenied true)).map
      fun s => (s, .released)

def acquiredOnRsrcEvent (env : Env) (s : StoreMachine) :
    RsrcEvent → Option (StoreMachine × AgpsState)
  | .subscribe subscriber =>
    (s.notifyRsrcStatus none subscriber (.addressed subscriber .rsrcGranted false)).bind
      fun s => (s.addSubscriber subscriber).map fun s => (s, .acquired)
  | .unsubscribe a => (s.dismiss a).bind fun s => s.afterUnsubscribe env .acquired
  | .granted => some (s, .acquired)
  | .released => (s.notifySubscribers (.broadcast .broadcastAll .rsrcReleased true)).map
      fun s => (s, .released)
  | .denied => some (s, .acquired)

def onReleased (env : Env) (s : StoreMachine) (event : AgpsRsrcStatus) :
    Option (StoreMachine × AgpsState) :=
  (s.notifySubscribers (.broadcast .broadcastInactive event true)).bind fun s =>
    s.hasActiveSubscribers.bind fun active =>
      if active then
        (s.sendRsrcRequest env .requestAgpsDataConn).map fun r => (r.1, .pending)
      else some (s, .released)

def releasingOnRsrcEvent (env : Env) (s : StoreMachine) :
    RsrcEvent → Option (StoreMachine × AgpsState)
  | .subscribe subscriber => (s.addSubscriber subscriber).map fun s => (s, .releasing)
  | .unsubscribe a => (s.dismiss a).map fun s =>
      (s, if s.hasSubscribers then .releasing else .released)
  | .denied => s.onReleased env .rsrcDenied
  | .released => s.onReleased env .rsrcReleased
  | .granted => some (s, .releasing)

/-- `mStatePtr->onRsrcEvent(event, data)`. -/
def stateOnRsrcEvent (env : Env) (s : StoreMachine) (event : RsrcEvent) :
    Option (StoreMachine × AgpsState) :=
  match s.rest.mStatePtr with
  | .released => s.releasedOnRsrcEvent env event
  | .pending => s.pendingOnRsrcEvent env event
  | .acquired => s.acquiredOnRsrcEvent env event
  | .releasing => s.releasingOnRsrcEvent env event

def withState (s : StoreMachine) (state : AgpsState) : StoreMachine :=
  { s with rest := { s.rest with mStatePtr := state } }

def dispatch (env : Env) (s : StoreMachine) (event : RsrcEvent) : Option StoreMachine :=
  (s.stateOnRsrcEvent env event).map fun r => r.1.withState r.2

def onRsrcEventAgps (env : Env) (s : StoreMachine) : AgpsRsrcStatus → Option StoreMachine
  | .rsrcGranted => s.dispatch env .granted
  | .rsrcReleased => s.dispatch env .released
  | .rsrcDenied => s.dispatch env .denied
  | _ => some s

def onRsrcEventDS (env : Env) (s : StoreMachine) : AgpsRsrcStatus → Option StoreMachine
  | .rsrcGranted => s.dispatch env .granted
  | .rsrcReleased => (s.dispatch env .released).bind fun s' =>
    if s'.rest.mStatePtr ≠ s.rest.mStatePtr then some s' else s'.dispatch env .denied
  | .rsrcDenied => s.dispatch env .denied
  | _ => some s

def onRsrcEvent (env : Env) (s : StoreMachine) (event : AgpsRsrcStatus) : Option StoreMachine :=
  if s.rest.isDS then s.onRsrcEventDS env event else s.onRsrcEventAgps env event

def subscribeRsrc (env : Env) (s : StoreMachine) (subscriber : Subscriber) :
    Option StoreMachine :=
  if s.rest.mEnforceSingleSubscriber && s.hasSubscribers then
    s.notifyRsrcStatus none subscriber (.broadcast .broadcastAll .rsrcDenied true)
  else s.dispatch env (.subscribe subscriber)

/-- The search follows the pointer to the caller's object, which is there
    during the call. -/
def unsubscribeRsrc (env : Env) (s : StoreMachine) (subscriber : Subscriber) :
    Option StoreMachine :=
  s.load.bind fun m => match m.search (.addressed subscriber .rsrcStatusMax false) with
    | some nd => s.dispatch env (.unsubscribe nd.addr)
    | none => some s

/-- A call, or nothing when it reads an object that has been deleted. -/
def step (s : StoreMachine) (c : Call) : Option StoreMachine :=
  let s := { s with rest := { s.rest with out := [] } }
  match c with
  | .subscribeRsrc subscriber env => s.subscribeRsrc env subscriber
  | .unsubscribeRsrc subscriber env => s.unsubscribeRsrc env subscriber
  | .onRsrcEvent event env => s.onRsrcEvent env event
  | .setAPN apn len => some { s with rest := s.rest.setAPN apn len }
  | .setBearer bearer => some { s with rest := s.rest.setBearer bearer }

end StoreMachine

end Agps

end Victara
