import Victara.Agps.Invariant
import Victara.Agps.SuplEs

/-!
# Releasing an ATL Handle

The modem opens a connection with a handle, and closes it by the handle alone.
`LocApiV02` brings the request to the agnss, the internet or the DS machine,
and `LocEngReleaseATL` tries the three in this order, up to the first that has
a subscriber to unsubscribe.

A handle can be on more than one of them. When the DS machine falls back to
ATL, it asks the engine itself for an ATL with the same handle, which goes to
the agnss machine, and keeps its own subscriber. Two requests of the modem may
name one handle as well. And a BIT subscriber whose IPv4 address is the handle
is taken for it.

The list of an AGPS machine in Released is empty, so the handle is found in no
other state there. A DS machine in Released keeps who waits for a retry, and
only tells it.

First, who holds a handle and who is found under it is compared on each machine.
An ATL client is found by its handle, and so is a BIT subscriber whose address
is the same number. Then one machine is tried: the unsubscribe tells the modem
as often as ATL clients are taken off the list, which is once at most because a
handle is listed once. The three machines together give the condition, case by
case in the order in which they are tried.

## Main definitions

* `EngineMsg`: What the DS machine asks the engine itself for.
* `WwanType`: `wwanType` of a request to open a connection.
* `NifCall`: What the BIT daemon and the framework call an AGPS machine with.
* `LocEngNifs`, `LocEngNifs.step`: The three machines and their messages.
* `unsubscribeIn`: `unsubscribeRsrc` of a machine that is there, when it returns
  true.
* `init`: The machines as `loc_eng_agps_init` and `LocEngDataClientInit` leave
  them.
* `callDS`: A call on the DS machine.
* `requestAgnss`: `LocEngRequestATL::proc`, for the agnss machine and for the
  internet one.
* `requestSuplEs`: `LocEngRequestSuplEs::proc`.
* `LocEngNifs.releaseATL`: `LocEngReleaseATL::proc`.
* `Subscriber.atlHandle?`: The handle of an ATL client.
* `Serves`: What an AGPS machine with ATL and BIT clients keeps to.
* `Subscriber.holds`: An active subscriber that was subscribed for the handle.
* `Finds`: The search of `unsubscribeRsrc` has a result.
* `Output.answersClose`: The answer to a request to close a handle, whatever it
  says.
* `ReleasesEverywhere`: Nobody holds the handle any more, and the modem is told
  so once.
* `HeldOnce`: The first machine that has a result has the handle, and no other.
* `Release`: Which machine a release comes to, what it leaves, and what is sent.
* `InOrder`: What is kept of the three machines.

## Theorems

* `nodup_addSubscriber`: An ATL client is listed once.
* `effect_sublist`: A call lists one more, or takes some away.
* `effect_released`: Nobody is left when a machine gets back to Released.
* `step_serves`: A call keeps an AGPS machine in order.
* `holds_iff_atl`: Of those that do not wait for their close, the ATL clients
  hold handles.
* `equals_of_atlHandle`: An ATL client is found under its handle, and by whoever
  has the handle as its ID.
* `handleHeld_iff_atl`: An AGPS machine holds the handles of its ATL clients.
* `handleHeld_iff_ds`: A DS machine holds the handles of its active subscribers.
* `finds_of_held_atl`: Whoever holds a handle on an AGPS machine is found.
* `unsubscribeRsrc_snd`: An unsubscribe succeeds iff the subscriber is found.
* `unsubscribeIn_cases`: A machine that finds nobody is left alone.
* `answersClose_told`: An ATL client tells the modem that its handle is closed.
* `count_atlHandles_filter`: Taking a list apart, the handle is where its
  clients are.
* `afterUnsubscribe_emits`: What follows an unsubscribe on an AGPS machine is
  for the framework.
* `dispatch_unsubscribe`: Pending and Acquired dismiss a subscriber alike.
* `dismisses_atl`: Whoever is found is dismissed with its equals, and tells
  their clients.
* `unsubscribe_atl`, `unsubscribe_ds`: One machine is tried.
* `run_inOrder`: A run keeps all three in order.
* `released_atl`: After the unsubscribe from an AGPS machine nobody has the
  handle there, and the modem is told once iff somebody had it.
* `releasesEverywhere_of_inOrder`: What a release does, given what is kept.
* `releasesEverywhere_iff`: When a release does what it is to do.
-/

namespace Victara

namespace Agps

open AgpsStateMachine

/-- A message of the DS machine to the engine. The ATL is one of type SUPL. -/
inductive EngineMsg
  | requestATL (connHandle : UInt32)
  | requestSuplEs (connHandle : UInt32)
  deriving DecidableEq, Repr

def Output.engineMsg? : Output → Option EngineMsg
  | .requestATL id _ => some (.requestATL id)
  | .requestSuplES id => some (.requestSuplEs id)
  | _ => none

/-- `wwanType` of a request to open a connection. -/
inductive WwanType
  | internet | agnss | agnssEmergency | other
  deriving DecidableEq, Repr

/-- What the BIT daemon and the framework call an AGPS machine with. -/
inductive NifCall
  | reqRelBIT (isReq : Bool) (ID : UInt32) (mIPv6Addr : IPv6Addr) (env : Env)
  | onRsrcEvent (event : AgpsRsrcStatus) (env : Env)
  | setAPN (apn : Option CString) (len : Nat)
  | setBearer (bearer : AGpsBearerType)
  deriving DecidableEq, Repr

def NifCall.call : NifCall → Call
  | .reqRelBIT true id v6 env => .subscribeRsrc (.bit id v6) env
  | .reqRelBIT false id v6 env => .unsubscribeRsrc (.bit id v6) env
  | .onRsrcEvent event env => .onRsrcEvent event env
  | .setAPN apn len => .setAPN apn len
  | .setBearer bearer => .setBearer bearer

/-- The machines that `loc_eng_data_s_type` has for the modem, each there or
    not, and the engine's messages to itself. -/
structure LocEngNifs where
  agnss_nif : Option AgpsStateMachine
  internet_nif : Option AgpsStateMachine
  ds_nif : Option AgpsStateMachine
  msgs : List EngineMsg

inductive NifLabel
  | agnss (c : NifCall)
  | internet (c : NifCall)
  | openATL (connHandle : UInt32) (wwanType : WwanType) (env : Env)
  | closeATL (connHandle : UInt32) (env : Env)
  | dsEvent (event : AgpsRsrcStatus) (env : Env)
  | retryCallback
  | engineMsg (env : Env)
  | engineUp
  deriving DecidableEq, Repr

/-- `unsubscribeRsrc` of a machine that is there, when it returns true. -/
def unsubscribeIn (env : Env) (x : Subscriber) (nif : Option AgpsStateMachine) :
    Option AgpsStateMachine :=
  nif.bind fun m =>
    let r := m.fresh.unsubscribeRsrc env x
    if r.2 then some r.1 else none

namespace LocEngNifs

/-- As `loc_eng_agps_init` and `LocEngDataClientInit` leave it on a target. A
    request for a machine that is not there yet leaves nothing behind. -/
def init (peek : Subscriber → IPv6Addr) (agnss internet ds : Bool) : LocEngNifs :=
  { agnss_nif := if agnss then some (new peek AGPS_TYPE_SUPL false) else none
    internet_nif := if internet then some (new peek AGPS_TYPE_WWAN_ANY false) else none
    ds_nif := if ds then some (newDS peek) else none
    msgs := [] }

/-- A call on the DS machine. -/
def callDS (e : LocEngNifs) (c : DSCall) : LocEngNifs :=
  match e.ds_nif with
  | none => e
  | some m =>
    { e with ds_nif := some (stepDS m c)
             msgs := e.msgs ++ (stepDS m c).out.filterMap Output.engineMsg? }

/-- `LocEngRequestATL::proc`, for the agnss machine and for the internet one. -/
def requestAgnss (env : Env) (e : LocEngNifs) (id : UInt32) : LocEngNifs :=
  { e with agnss_nif := e.agnss_nif.map fun m => Agps.step m (.subscribeRsrc (.atl id false) env) }

def requestInternet (env : Env) (e : LocEngNifs) (id : UInt32) : LocEngNifs :=
  { e with
    internet_nif := e.internet_nif.map fun m => Agps.step m (.subscribeRsrc (.atl id false) env) }

/-- `LocEngRequestSuplEs::proc`. -/
def requestSuplEs (env : Env) (e : LocEngNifs) (id : UInt32) : LocEngNifs :=
  e.callDS (.call (.subscribeRsrc (.ds id false) env))

/-- `LocEngReleaseATL::proc`, and what is sent. The first machine that returns
    true is the last that is tried. -/
def releaseATL (env : Env) (e : LocEngNifs) (id : UInt32) : LocEngNifs × List Output :=
  match unsubscribeIn env (.atl id false) e.agnss_nif with
  | some m => ({ e with agnss_nif := some m }, m.out)
  | none =>
    match unsubscribeIn env (.atl id false) e.internet_nif with
    | some m => ({ e with internet_nif := some m }, m.out)
    | none =>
      match unsubscribeIn env (.ds id false) e.ds_nif with
      | some m => ({ e with ds_nif := some m }, m.out)
      | none => (e, [.atlCloseStatus id false])

def step (e : LocEngNifs) : NifLabel → LocEngNifs
  | .agnss c => { e with agnss_nif := e.agnss_nif.map fun m => Agps.step m c.call }
  | .internet c => { e with internet_nif := e.internet_nif.map fun m => Agps.step m c.call }
  | .openATL id .agnss env => e.requestAgnss env id
  | .openATL id .agnssEmergency env => e.requestSuplEs env id
  | .openATL id _ env => e.requestInternet env id
  | .closeATL id env =>
    let r := e.releaseATL env id
    { r.1 with msgs := r.1.msgs ++ r.2.filterMap Output.engineMsg? }
  | .dsEvent event env => e.callDS (.call (.onRsrcEvent event env))
  | .retryCallback => e.callDS .retryCallback
  | .engineMsg env => match e.msgs with
    | [] => e
    | .requestATL id :: rest => { e with msgs := rest }.requestAgnss env id
    | .requestSuplEs id :: rest => { e with msgs := rest }.requestSuplEs env id
  -- `loc_eng_handle_engine_up` leaves the DS machine alone
  | .engineUp =>
    { e with agnss_nif := e.agnss_nif.map dropAllSubscribers
             internet_nif := e.internet_nif.map dropAllSubscribers }

def run (e : LocEngNifs) (ls : List NifLabel) : LocEngNifs := ls.foldl step e

end LocEngNifs

/-! ## What is kept -/

/-- The handle of an ATL client. -/
def Subscriber.atlHandle? : Subscriber → Option UInt32
  | .atl id _ => some id
  | _ => none

def atlHandles (l : List Node) : List UInt32 := l.filterMap fun nd => nd.subscriber.atlHandle?

/-- What an AGPS machine with ATL and BIT clients keeps to, also when its
    subscribers are dropped. It is less than the invariant of a machine that is
    not: a machine in Pending or Acquired may have an empty list after that. For
    the handles only Released counts, where the list is empty. -/
structure Serves (m : AgpsStateMachine) : Prop where
  isDS : m.isDS = false
  plain : AllPlain m.mSubscribers
  releasing : m.mStatePtr ≠ .releasing
  released : m.mStatePtr = .released → m.mSubscribers = []
  nodup : (atlHandles m.mSubscribers).Nodup

theorem serves_new (peek : Subscriber → IPv6Addr) (type : AGpsExtType) :
    Serves (new peek type false) :=
  ⟨rfl, fun _ h => absurd h List.not_mem_nil, nofun, fun _ => rfl, List.nodup_nil⟩

theorem Serves.drop {m : AgpsStateMachine} (hm : Serves m) : Serves m.dropAllSubscribers :=
  ⟨hm.isDS, fun _ h => absurd h List.not_mem_nil, hm.releasing, fun _ => rfl, List.nodup_nil⟩

/-- An ATL client is listed once. -/
theorem nodup_addSubscriber {m : AgpsStateMachine} (x : Subscriber)
    (hm : (atlHandles m.mSubscribers).Nodup) :
    (atlHandles (m.addSubscriber x).mSubscribers).Nodup := by
  rcases addSubscriber_eq m x with ⟨heq, _⟩ | ⟨heq, hno⟩
  · rw [heq]
    exact hm
  · rw [heq]
    cases x with
    | atl id mode =>
        refine List.nodup_cons.mpr ⟨fun hin => ?_, hm⟩
        rcases List.mem_filterMap.mp hin with ⟨nd, hnd, hid⟩
        -- Who has the handle would have been found.
        have hmiss := hno nd hnd
        cases hsub : nd.subscriber <;> rw [hsub] at hid hmiss <;> cases hid
        simp only [Subscriber.equals, Subscriber.ID, beq_self_eq_true, Bool.true_eq_false]
          at hmiss
    | _ => exact hm

/-- A call lists one more, or takes some away. -/
theorem effect_sublist {m : AgpsStateMachine} {c : Call} {o : Outcome} (h : Effect m c o)
    (hm : AllPlain m.mSubscribers) :
    (∃ x, o.subscribers = (m.addSubscriber x).mSubscribers) ∨
      o.subscribers.Sublist m.mSubscribers := by
  cases h with
  | requested x env _ _ => exact .inl ⟨x, rfl⟩
  | requestedNothing x env _ _ => exact .inl ⟨x, rfl⟩
  | queued x env _ _ => exact .inl ⟨x, rfl⟩
  | grantedAtOnce x env _ _ => exact .inl ⟨x, rfl⟩
  | dismissed x env nd l ns s rs hnd hx hs hd hnext =>
      -- ATL and BIT clients do not wait, so the one is removed.
      cases hd with
      | waits hwait =>
          rw [hm nd hnd] at hwait
          cases hwait
      | removed _ => exact .inr List.filter_sublist
  | closed _ _ _ => exact .inr (List.nil_sublist _)
  | completed _ _ _ _ _ => exact .inr (List.nil_sublist _)
  | renewed _ _ _ _ _ => exact .inr List.filter_sublist
  | _ => exact .inr (List.Sublist.refl _)

/-- Nobody is left when a machine gets back to Released. -/
theorem effect_released {m : AgpsStateMachine} {c : Call} {o : Outcome} (h : Effect m c o)
    (hm : m.mStatePtr = .released → m.mSubscribers = []) :
    o.state = .released → o.subscribers = [] := by
  intro hst
  cases h with
  | requested x env _ _ => cases hst
  | requestedNothing x env _ _ => cases hst
  | queued x env _ hs =>
      rw [show m.mStatePtr = .released from hst] at hs
      rcases hs with hs | hs <;> cases hs
  | grantedAtOnce x env _ _ => cases hst
  | tolerated x env nd hnd hs => exact hm hs
  | dismissed x env nd l ns s rs hnd hx hs hd hnext =>
      -- The state is Released only if nobody is left.
      cases hnext with
      | emptied hl _ => exact hl
      | finished hl _ => exact hl
      | idle _ _ _ => cases hst
      | stays _ _ => exact absurd hst hs
  | granted _ _ => cases hst
  | closed _ _ _ => rfl
  | completed _ _ _ _ _ => rfl
  | renewed _ _ _ _ _ => cases hst
  | _ => exact hm hst

theorem step_serves {m : AgpsStateMachine} {c : Call} (hc : c.Plain) (hm : Serves m) :
    Serves (Agps.step m c) := by
  have heff := step_effect m c hm.isDS
  have hplain := effect_plain heff hc ⟨hm.plain, hm.releasing⟩
  refine ⟨(step_config m c).isDS.trans hm.isDS, hplain.1, hplain.2,
    effect_released heff hm.released, ?_⟩
  rcases effect_sublist heff hm.plain with ⟨x, hlist⟩ | hsub
  · rw [show (Agps.step m c).mSubscribers = _ from hlist]
    exact nodup_addSubscriber x hm.nodup
  · exact hm.nodup.sublist (hsub.filterMap _)

theorem NifCall.plain (c : NifCall) : c.call.Plain := by
  cases c with
  | reqRelBIT isReq id v6 env =>
      cases isReq with
      | true => exact .inr rfl
      | false => trivial
  | _ => trivial

/-! ## Who holds a handle -/

/-- An active subscriber that was subscribed for the handle. -/
def Subscriber.holds (h : UInt32) : Subscriber → Bool
  | .atl id _ => id == h
  | .ds id inactive => id == h && !inactive
  | _ => false

def HandleHeld (h : UInt32) (nif : Option AgpsStateMachine) : Prop :=
  ∃ m ∈ nif, ∃ nd ∈ m.mSubscribers, nd.subscriber.holds h = true

/-- The search of `unsubscribeRsrc` has a result. -/
def Finds (x : Subscriber) (nif : Option AgpsStateMachine) : Prop :=
  ∃ m ∈ nif, ∃ nd ∈ m.mSubscribers, nd.subscriber.equals m.peek x = true

/-- The answer to a request to close a handle, whatever it says. -/
def Output.answersClose (h : UInt32) : Output → Bool
  | .atlCloseStatus id _ => id == h
  | _ => false

/-- Nobody holds the handle after its release, and the modem is told so once. -/
def ReleasesEverywhere (env : Env) (e : LocEngNifs) (h : UInt32) : Prop :=
  let r := e.releaseATL env h
  ¬ HandleHeld h r.1.agnss_nif ∧ ¬ HandleHeld h r.1.internet_nif ∧ ¬ HandleHeld h r.1.ds_nif ∧
    r.2.countP (Output.answersClose h) = 1

/-- The first machine with a result for the handle has the handle itself, and no
    later one has. The DS machine does not have it in Released. The release goes
    to one machine and says nothing to the others. It finds there whoever is
    equal to the ATL subscriber that is made of the handle, which may be a BIT
    subscriber with that address. In Released a DS machine only tells whom it
    finds. -/
structure HeldOnce (e : LocEngNifs) (h : UInt32) : Prop where
  agnss : Finds (.atl h false) e.agnss_nif →
    HandleHeld h e.agnss_nif ∧ ¬ HandleHeld h e.internet_nif ∧ ¬ HandleHeld h e.ds_nif
  internet : ¬ Finds (.atl h false) e.agnss_nif → Finds (.atl h false) e.internet_nif →
    HandleHeld h e.internet_nif ∧ ¬ HandleHeld h e.ds_nif
  ds : ¬ Finds (.atl h false) e.agnss_nif → ¬ Finds (.atl h false) e.internet_nif →
    ∀ m ∈ e.ds_nif, Finds (.ds h false) (some m) → m.mStatePtr ≠ .released

theorem handleHeld_some {h : UInt32} {m : AgpsStateMachine} :
    HandleHeld h (some m) ↔ ∃ nd ∈ m.mSubscribers, nd.subscriber.holds h = true := by
  simp only [HandleHeld, Option.mem_some_iff, exists_eq_left']

theorem finds_some {x : Subscriber} {m : AgpsStateMachine} :
    Finds x (some m) ↔ ∃ nd ∈ m.mSubscribers, nd.subscriber.equals m.peek x = true := by
  simp only [Finds, Option.mem_some_iff, exists_eq_left']

theorem id_of_equals {peek : Subscriber → IPv6Addr} {s x : Subscriber}
    (h : s.equals peek x = true) : s.ID = x.ID := by
  cases s with
  | bit id v6 =>
      rw [Subscriber.equals, Bool.and_eq_true] at h
      exact beq_iff_eq.mp h.1
  | _ => exact beq_iff_eq.mp h

theorem mem_atlHandles {l : List Node} {h : UInt32} :
    h ∈ atlHandles l ↔ ∃ nd ∈ l, nd.subscriber.atlHandle? = some h :=
  List.mem_filterMap

/-- Of those that do not wait for their close, the ATL clients hold handles. -/
theorem holds_iff_atl {s : Subscriber} {h : UInt32} (hs : s.waitForCloseComplete = false) :
    s.holds h = true ↔ s.atlHandle? = some h := by
  cases s with
  | atl id mode => simp only [Subscriber.holds, Subscriber.atlHandle?, beq_iff_eq, Option.some.injEq]
  | bit id v6 => simp only [Subscriber.holds, Subscriber.atlHandle?, Bool.false_eq_true, reduceCtorEq]
  | wifi senderId ssid password inactive => cases hs
  | ds id inactive => cases hs

/-- An ATL client is found under its handle, and by whoever has the handle as
    its ID. -/
theorem equals_of_atlHandle (peek : Subscriber → IPv6Addr) {s x : Subscriber} {h : UInt32}
    (hs : s.atlHandle? = some h) (hx : x.ID = h) : s.equals peek x = true := by
  cases s with
  | atl id mode =>
      cases hs
      exact beq_iff_eq.mpr hx.symm
  | _ => cases hs

/-- An AGPS machine holds the handles of its ATL clients. -/
theorem handleHeld_iff_atl {m : AgpsStateMachine} (hm : Serves m) (h : UInt32) :
    HandleHeld h (some m) ↔ h ∈ atlHandles m.mSubscribers := by
  rw [handleHeld_some, mem_atlHandles]
  exact exists_congr fun nd => and_congr_right fun hnd => holds_iff_atl (hm.plain nd hnd)

/-- A DS machine holds the handles of its active subscribers. -/
theorem handleHeld_iff_ds {m : AgpsStateMachine} (hm : Conns m) (h : UInt32) :
    HandleHeld h (some m) ↔
      ∃ nd ∈ m.mSubscribers, nd.subscriber.ID = h ∧ nd.subscriber.isInactive = false := by
  rw [handleHeld_some]
  refine exists_congr fun nd => and_congr_right fun hnd => ?_
  rw [hm.ds nd hnd]
  simp only [Subscriber.holds, Bool.and_eq_true, beq_iff_eq, Bool.not_eq_true', Subscriber.ID,
    Subscriber.isInactive]

/-- Whoever holds a handle on an AGPS machine is found. -/
theorem finds_of_held_atl {nif : Option AgpsStateMachine} {h : UInt32}
    (hnif : ∀ m ∈ nif, Serves m) (hh : HandleHeld h nif) : Finds (.atl h false) nif := by
  rcases hh with ⟨m, hm, hh⟩
  have hmem := (handleHeld_iff_atl (hnif m hm) h).mp (handleHeld_some.mpr hh)
  rcases mem_atlHandles.mp hmem with ⟨nd, hnd, hid⟩
  exact ⟨m, hm, nd, hnd, equals_of_atlHandle m.peek hid rfl⟩

theorem finds_iff_ds {m : AgpsStateMachine} (hm : Conns m) (h : UInt32) :
    Finds (.ds h false) (some m) ↔ ∃ nd ∈ m.mSubscribers, nd.subscriber.ID = h := by
  rw [finds_some]
  exact exists_congr fun nd => and_congr_right fun hnd => equals_ds m (hm.ds nd hnd)

/-! ## One machine is tried -/

/-- An unsubscribe succeeds iff the subscriber is found. -/
theorem unsubscribeRsrc_snd (env : Env) (m : AgpsStateMachine) (x : Subscriber) :
    (m.unsubscribeRsrc env x).2 = true ↔
      ∃ nd ∈ m.mSubscribers, nd.subscriber.equals m.peek x = true := by
  rw [unsubscribeRsrc, search_eq]
  simp only [forMe_addressed]
  cases hfind : m.mSubscribers.find? (fun nd => nd.subscriber.equals m.peek x) with
  | some nd =>
      have hx := List.find?_some hfind
      exact iff_of_true rfl ⟨nd, List.mem_of_find?_eq_some hfind, hx⟩
  | none =>
      refine iff_of_false Bool.false_ne_true ?_
      rintro ⟨nd, hnd, hx⟩
      exact List.find?_eq_none.mp hfind nd hnd hx

/-- A machine that finds nobody is left alone. -/
theorem unsubscribeIn_cases (env : Env) (x : Subscriber) (nif : Option AgpsStateMachine) :
    (∃ m, nif = some m ∧ Finds x (some m) ∧
      unsubscribeIn env x nif = some (Agps.step m (.unsubscribeRsrc x env))) ∨
    (¬ Finds x nif ∧ unsubscribeIn env x nif = none) := by
  cases nif with
  | none =>
      refine .inr ⟨?_, rfl⟩
      rintro ⟨m, hm, _⟩
      cases hm
  | some m =>
      have hsnd := (unsubscribeRsrc_snd env m.fresh x)
      by_cases hf : Finds x (some m)
      · exact .inl ⟨m, rfl, hf, if_pos (hsnd.mpr (finds_some (m := m).mp hf))⟩
      · exact .inr ⟨hf, if_neg fun hyes => hf (finds_some (m := m).mpr (hsnd.mp hyes))⟩

theorem atlHandles_cons (nd : Node) (l : List Node) :
    atlHandles (nd :: l) = nd.subscriber.atlHandle?.toList ++ atlHandles l := by
  unfold atlHandles
  rw [List.filterMap_cons]
  cases nd.subscriber.atlHandle? <;> rfl

/-- An ATL client tells the modem that its handle is closed. -/
theorem answersClose_told (m : AgpsStateMachine) (addr : Option Nat) (h : UInt32) {s : Subscriber}
    (hs : s.waitForCloseComplete = false) :
    (m.told addr s .rsrcUnsubscribe).countP (Output.answersClose h) =
      s.atlHandle?.toList.count h := by
  cases s with
  | bit id v6 => rfl
  | atl id mode => rfl
  -- The others wait for their close.
  | wifi senderId ssid password inactive => cases hs
  | ds id inactive => cases hs

theorem answersClose_toldAll (m : AgpsStateMachine) (h : UInt32) {l : List Node} (hl : AllPlain l) :
    (m.toldAll l .rsrcUnsubscribe).countP (Output.answersClose h) = (atlHandles l).count h := by
  induction l with
  | nil => rfl
  | cons nd l ih =>
      have hhead := answersClose_told m (some nd.addr) h (hl nd List.mem_cons_self)
      have hrest := ih fun e he => hl e (List.mem_cons_of_mem nd he)
      unfold toldAll at hrest ⊢
      rw [List.flatMap_cons, List.countP_append, atlHandles_cons, List.count_append, hhead, hrest]

/-- Taking a list apart, the handle is where its clients are. -/
theorem count_atlHandles_filter {l : List Node} {p : Node → Bool} {h : UInt32}
    (hp : ∀ nd ∈ l, nd.subscriber.atlHandle? = some h → p nd = true) :
    (atlHandles (l.filter p)).count h = (atlHandles l).count h := by
  induction l with
  | nil => rfl
  | cons nd l ih =>
      have hrest := ih fun e he => hp e (List.mem_cons_of_mem nd he)
      by_cases hnd : p nd = true
      · rw [List.filter_cons_of_pos hnd, atlHandles_cons, atlHandles_cons, List.count_append,
          List.count_append, hrest]
      · rw [List.filter_cons_of_neg hnd, atlHandles_cons, List.count_append, hrest]
        -- Who is taken out has another handle, or none.
        have hno : nd.subscriber.atlHandle? ≠ some h :=
          fun hid => hnd (hp nd List.mem_cons_self hid)
        have hzero : nd.subscriber.atlHandle?.toList.count h = 0 :=
          List.count_eq_zero.mpr fun hin => hno (Option.mem_toList.mp hin)
        omega

/-- What follows an unsubscribe on an AGPS machine is for the framework. -/
theorem afterUnsubscribe_emits (env : Env) (m : AgpsStateMachine) (s : AgpsState)
    (hm : m.isDS = false) (hs : s ≠ .releasing) :
    ∃ os, Emits m (AgpsState.afterUnsubscribe env m s).1 os ∧
      ∀ h, os.countP (Output.answersClose h) = 0 := by
  rcases afterUnsubscribe_cases env m s hs with ⟨_, _, heq⟩ | ⟨_, heq⟩
  · rw [heq, sendRsrcRequest_eq env m _ hm, sendRsrcRequestAgps]
    split
    · exact ⟨_, emit_emits m _, fun _ => rfl⟩
    · exact ⟨[], Emits.refl m, fun _ => rfl⟩
  · rw [heq]
    exact ⟨[], Emits.refl m, fun _ => rfl⟩

/-- Pending and Acquired dismiss a subscriber alike. -/
theorem dispatch_unsubscribe (env : Env) {m : AgpsStateMachine} (nd : Node)
    (hrel : m.mStatePtr ≠ .released) (hrels : m.mStatePtr ≠ .releasing) :
    m.dispatch env (.unsubscribe nd) =
      { (AgpsState.afterUnsubscribe env (m.dismiss nd) m.mStatePtr).1 with
        mStatePtr := (AgpsState.afterUnsubscribe env (m.dismiss nd) m.mStatePtr).2 } := by
  unfold dispatch
  cases hst : m.mStatePtr with
  | released => exact absurd hst hrel
  | pending => rfl
  | acquired => rfl
  | releasing => exact absurd hst hrels

/-- Whoever is found is dismissed with its equals, and tells their clients. -/
theorem dismisses_atl {m : AgpsStateMachine} (hm : Serves m) (env : Env) {h : UInt32}
    (hf : Finds (.atl h false) (some m)) :
    ∃ (nd : Node) (os : List Output), nd.subscriber.ID = h ∧
      (∀ h, os.countP (Output.answersClose h) = 0) ∧
      (Agps.step m (.unsubscribeRsrc (.atl h false) env)).mSubscribers =
        m.mSubscribers.filter (fun e => !e.subscriber.equals m.peek nd.subscriber) ∧
      (Agps.step m (.unsubscribeRsrc (.atl h false) env)).out = m.fresh.toldAll
        (m.mSubscribers.filter fun e => e.subscriber.equals m.peek nd.subscriber)
        .rsrcUnsubscribe ++ os := by
  rcases finds_some.mp hf with ⟨e, he, hxe⟩
  -- Somebody is listed, so the state is not Released.
  have hst : m.mStatePtr ≠ .released := by
    intro hrel
    rw [hm.released hrel] at he
    exact List.not_mem_nil he
  rcases unsubscribeRsrc_cases env m.fresh (.atl h false) with ⟨nd, hnd, hx, heq⟩ | ⟨hno, _⟩
  · have hplain := hm.plain nd hnd
    have hstep := heq.trans (dispatch_unsubscribe env nd hst hm.releasing)
    have hnote := notifySubscribers_delete_emits m.fresh
      (.addressed nd.subscriber .rsrcUnsubscribe true) rfl rfl
    -- The one that is found does not wait either.
    have hdismiss : m.fresh.dismiss nd =
        m.fresh.notifySubscribers (.addressed nd.subscriber .rsrcUnsubscribe true) :=
      if_neg (by rw [hplain]; exact Bool.false_ne_true)
    rw [← hdismiss] at hnote
    rcases afterUnsubscribe_emits env (m.fresh.dismiss nd) m.mStatePtr
      (hnote.sends.isDS.trans hm.isDS) hm.releasing with ⟨os, hafter, hos⟩
    have hall := hnote.trans hafter
    refine ⟨nd, os, id_of_equals hx, hos, ?_, ?_⟩
    · exact (congrArg mSubscribers hstep).trans hall.sends.mSubscribers
    · exact (congrArg out hstep).trans hall.out
  · have hmiss : e.subscriber.equals m.peek (.atl h false) = false := hno e he
    rw [hxe] at hmiss
    cases hmiss

/-- An AGPS machine that finds somebody tells every ATL client of the handle,
    and keeps none. -/
theorem unsubscribe_atl {m : AgpsStateMachine} (hm : Serves m) (env : Env) {h : UInt32}
    (hf : Finds (.atl h false) (some m)) :
    h ∉ atlHandles (Agps.step m (.unsubscribeRsrc (.atl h false) env)).mSubscribers ∧
      (Agps.step m (.unsubscribeRsrc (.atl h false) env)).out.countP (Output.answersClose h) =
        (atlHandles m.mSubscribers).count h := by
  rcases dismisses_atl hm env hf with ⟨nd, os, hid, hos, hlist, hout⟩
  rw [hlist, hout]
  refine ⟨fun hin => ?_, ?_⟩
  · -- Whoever has the handle was taken out.
    rcases mem_atlHandles.mp hin with ⟨e, he, hatl⟩
    have hstay := (List.mem_filter.mp he).2
    rw [equals_of_atlHandle m.peek hatl hid] at hstay
    cases hstay
  · rw [List.countP_append, hos, Nat.add_zero,
      answersClose_toldAll _ _ fun e he => hm.plain e (List.mem_filter.mp he).1]
    exact count_atlHandles_filter fun e _ hatl => equals_of_atlHandle m.peek hatl hid

/-- A DS machine that finds somebody tells the modem. Only in Released does the
    subscriber stay active. -/
theorem unsubscribe_ds {m : AgpsStateMachine} (hm : Conns m) (env : Env) {h : UInt32}
    (hf : Finds (.ds h false) (some m)) :
    (HandleHeld h (some (Agps.step m (.unsubscribeRsrc (.ds h false) env))) ↔
        m.mStatePtr = .released) ∧
      (Agps.step m (.unsubscribeRsrc (.ds h false) env)).out.countP
        (Output.answersClose h) = 1 := by
  rcases (finds_iff_ds hm h).mp hf with ⟨e, he, heid⟩
  have hconns : Conns (Agps.step m (.unsubscribeRsrc (.ds h false) env)) :=
    conns_stepDS hm (.unsubscribe h env)
  rw [handleHeld_iff_ds hconns]
  clear hconns
  have heff := stepDS_effect m (.call (.unsubscribeRsrc (.ds h false) env)) hm.isDS
  simp only [stepDS] at heff
  generalize (Agps.step m (.unsubscribeRsrc (.ds h false) env)).mStatePtr = s at heff
  generalize (Agps.step m (.unsubscribeRsrc (.ds h false) env)).mSubscribers = l at heff ⊢
  generalize (Agps.step m (.unsubscribeRsrc (.ds h false) env)).out = os at heff ⊢
  cases heff with
  | unlisted _ _ hno =>
      have hx : e.subscriber.equals m.fresh.peek (.ds h false) = true :=
        (equals_ds m.fresh (hm.ds e he)).mpr heid
      rw [hno e he] at hx
      cases hx
  | kept _ _ nd hst hnd hx =>
      have hid := (equals_ds m (hm.ds nd hnd)).mp hx
      refine ⟨iff_of_true ⟨nd, hnd, hid, hm.released hst nd hnd⟩ hst, ?_⟩
      -- Released tells the modem, and that is all.
      rw [hm.ds nd hnd, told, clientMsgs_ds, hid]
      simp only [informed, List.countP_cons, Output.answersClose, List.countP_nil, beq_self_eq_true]
      rfl
  | dismissed _ _ nd l ns s rs hst hnd hx hl hs =>
      have hid := (equals_ds m (hm.ds nd hnd)).mp hx
      rw [dismissMsgs_ds (hm.ds nd hnd), dismissed_ds (hm.ds nd hnd) hl]
      refine ⟨iff_of_false ?_ hst, ?_⟩
      · rintro ⟨e', he', hid', hact⟩
        rcases mem_deactivate hm.ds he' with ⟨e₀, he₀, hid₀, _, hinact⟩
        -- The one with the handle was set inactive.
        have hsame : e₀ = nd :=
          eq_of_handle hm.nodup hnd he₀ (hid₀.symm.trans (hid'.trans hid.symm))
        rw [hinact (.inl (congrArg Node.addr hsame))] at hact
        cases hact
      · have hstop : (stopMsgs rs).countP (Output.answersClose h) = 0 := by
          rw [stopMsgs, List.countP_map]
          exact List.countP_eq_zero.mpr fun _ _ => Bool.false_ne_true
        rw [List.countP_append, hstop, hid, List.countP_singleton]
        simp only [Output.answersClose, beq_self_eq_true, if_true]

/-! ## All three -/

/-- Which machine a release comes to, what it leaves, and what is sent. -/
inductive Release (env : Env) (e : LocEngNifs) (id : UInt32) : LocEngNifs × List Output → Prop
  | agnss (m : AgpsStateMachine) (hm : e.agnss_nif = some m) (hf : Finds (.atl id false) (some m)) :
      Release env e id
        ({ e with agnss_nif := some (Agps.step m (.unsubscribeRsrc (.atl id false) env)) },
          (Agps.step m (.unsubscribeRsrc (.atl id false) env)).out)
  | internet (m : AgpsStateMachine) (hno : ¬ Finds (.atl id false) e.agnss_nif)
      (hm : e.internet_nif = some m) (hf : Finds (.atl id false) (some m)) :
      Release env e id
        ({ e with internet_nif := some (Agps.step m (.unsubscribeRsrc (.atl id false) env)) },
          (Agps.step m (.unsubscribeRsrc (.atl id false) env)).out)
  | ds (m : AgpsStateMachine) (hno : ¬ Finds (.atl id false) e.agnss_nif)
      (hno' : ¬ Finds (.atl id false) e.internet_nif)
      (hm : e.ds_nif = some m) (hf : Finds (.ds id false) (some m)) :
      Release env e id
        ({ e with ds_nif := some (Agps.step m (.unsubscribeRsrc (.ds id false) env)) },
          (Agps.step m (.unsubscribeRsrc (.ds id false) env)).out)
  /-- Nobody is found, and the modem is told of a failure. -/
  | nobody (hno : ¬ Finds (.atl id false) e.agnss_nif)
      (hno' : ¬ Finds (.atl id false) e.internet_nif) (hno'' : ¬ Finds (.ds id false) e.ds_nif) :
      Release env e id (e, [.atlCloseStatus id false])

theorem releaseATL_release (env : Env) (e : LocEngNifs) (id : UInt32) :
    Release env e id (e.releaseATL env id) := by
  unfold LocEngNifs.releaseATL
  rcases unsubscribeIn_cases env (.atl id false) e.agnss_nif with ⟨m, hm, hf, heq⟩ | ⟨hno, heq⟩
  · rw [heq]
    exact .agnss m hm hf
  rw [heq]
  rcases unsubscribeIn_cases env (.atl id false) e.internet_nif with ⟨m, hm, hf, heq⟩ | ⟨hno', heq⟩
  · rw [heq]
    exact .internet m hno hm hf
  rw [heq]
  rcases unsubscribeIn_cases env (.ds id false) e.ds_nif with ⟨m, hm, hf, heq⟩ | ⟨hno'', heq⟩
  · rw [heq]
    exact .ds m hno hno' hm hf
  · rw [heq]
    exact .nobody hno hno' hno''

/-- What is kept of the three machines. A handle is listed once at most on each
    of them, which is what makes one release per machine enough. -/
structure InOrder (e : LocEngNifs) : Prop where
  agnss : ∀ m ∈ e.agnss_nif, Serves m
  internet : ∀ m ∈ e.internet_nif, Serves m
  ds : ∀ m ∈ e.ds_nif, Conns m

theorem serves_map {nif : Option AgpsStateMachine} {f : AgpsStateMachine → AgpsStateMachine}
    (h : ∀ m ∈ nif, Serves m) (hf : ∀ m, Serves m → Serves (f m)) : ∀ m ∈ nif.map f, Serves m := by
  intro m' hm'
  rcases Option.map_eq_some_iff.mp hm' with ⟨m, hm, rfl⟩
  exact hf m (h m hm)

theorem init_inOrder (peek : Subscriber → IPv6Addr) (agnss internet ds : Bool) :
    InOrder (LocEngNifs.init peek agnss internet ds) := by
  refine ⟨fun m hm => ?_, fun m hm => ?_, fun m hm => ?_⟩
  · cases agnss <;> cases hm
    exact serves_new peek AGPS_TYPE_SUPL
  · cases internet <;> cases hm
    exact serves_new peek AGPS_TYPE_WWAN_ANY
  · cases ds <;> cases hm
    exact newDS_conns peek

section

variable {e : LocEngNifs} (he : InOrder e) (env : Env) (id : UInt32)

include he

theorem callDS_inOrder {c : DSCall} (hc : ConnCall c) : InOrder (e.callDS c) := by
  unfold LocEngNifs.callDS
  cases hds : e.ds_nif with
  | none => exact he
  | some m =>
      refine ⟨he.agnss, he.internet, fun m' hm' => ?_⟩
      cases hm'
      exact conns_stepDS (he.ds m hds) hc

theorem requestAgnss_inOrder : InOrder (e.requestAgnss env id) :=
  ⟨serves_map he.agnss fun _ hm => step_serves (.inl rfl) hm, he.internet, he.ds⟩

theorem requestInternet_inOrder : InOrder (e.requestInternet env id) :=
  ⟨he.agnss, serves_map he.internet fun _ hm => step_serves (.inl rfl) hm, he.ds⟩

theorem releaseATL_inOrder : InOrder (e.releaseATL env id).1 := by
  have hrel := releaseATL_release env e id
  generalize e.releaseATL env id = r at hrel ⊢
  -- One machine has made a step, and the others are as they were.
  cases hrel with
  | agnss m hm _ =>
      refine ⟨fun m' hm' => ?_, he.internet, he.ds⟩
      cases hm'
      exact step_serves trivial (he.agnss m hm)
  | internet m _ hm _ =>
      refine ⟨he.agnss, fun m' hm' => ?_, he.ds⟩
      cases hm'
      exact step_serves trivial (he.internet m hm)
  | ds m _ _ hm _ =>
      refine ⟨he.agnss, he.internet, fun m' hm' => ?_⟩
      cases hm'
      exact conns_stepDS (he.ds m hm) (.unsubscribe id env)
  | nobody _ _ _ => exact he

theorem step_inOrder (l : NifLabel) : InOrder (e.step l) := by
  cases l with
  | agnss c =>
      exact ⟨serves_map he.agnss fun _ hm => step_serves c.plain hm, he.internet, he.ds⟩
  | internet c =>
      exact ⟨he.agnss, serves_map he.internet fun _ hm => step_serves c.plain hm, he.ds⟩
  | openATL id type env =>
      cases type with
      | agnss => exact requestAgnss_inOrder he env id
      | agnssEmergency => exact callDS_inOrder he (.subscribe id env)
      | _ => exact requestInternet_inOrder he env id
  | closeATL id env =>
      have hrel := releaseATL_inOrder he env id
      exact ⟨hrel.agnss, hrel.internet, hrel.ds⟩
  | dsEvent event env => exact callDS_inOrder he (.event event env)
  | retryCallback => exact callDS_inOrder he .retry
  -- A message of the engine to itself is a request like that of the modem.
  | engineMsg env =>
      unfold LocEngNifs.step
      rcases hmsgs : e.msgs with _ | ⟨msg, rest⟩
      · exact he
      · have hrest : InOrder { e with msgs := rest } := ⟨he.agnss, he.internet, he.ds⟩
        cases msg with
        | requestATL id => exact requestAgnss_inOrder hrest env id
        | requestSuplEs id => exact callDS_inOrder hrest (.subscribe id env)
  | engineUp =>
      exact ⟨serves_map he.agnss fun _ hm => hm.drop, serves_map he.internet fun _ hm => hm.drop,
        he.ds⟩

theorem run_inOrder (ls : List NifLabel) : InOrder (e.run ls) :=
  List.foldlRecOn ls LocEngNifs.step he fun _ he' l _ => step_inOrder he' l

end

/-- After the unsubscribe from an AGPS machine nobody has the handle there, and
    the modem is told once iff somebody had it. -/
theorem released_atl {m : AgpsStateMachine} (hm : Serves m) (env : Env) {h : UInt32}
    (hf : Finds (.atl h false) (some m)) :
    ¬ HandleHeld h (some (Agps.step m (.unsubscribeRsrc (.atl h false) env))) ∧
      ((Agps.step m (.unsubscribeRsrc (.atl h false) env)).out.countP (Output.answersClose h) = 1 ↔
        HandleHeld h (some m)) := by
  rcases unsubscribe_atl hm env hf with ⟨hgone, hcount⟩
  have hm' : Serves (Agps.step m (.unsubscribeRsrc (.atl h false) env)) := step_serves trivial hm
  rw [handleHeld_iff_atl hm', handleHeld_iff_atl hm, hcount]
  refine ⟨hgone, fun hone => ?_, List.count_eq_one_of_mem hm.nodup⟩
  have hpos : 0 < (atlHandles m.mSubscribers).count h := by omega
  exact List.count_pos_iff.mp hpos

theorem finds_of_held_ds {nif : Option AgpsStateMachine} {h : UInt32}
    (hnif : ∀ m ∈ nif, Conns m) (hh : HandleHeld h nif) : Finds (.ds h false) nif := by
  rcases hh with ⟨m, hm, hh⟩
  rcases (handleHeld_iff_ds (hnif m hm) h).mp (handleHeld_some.mpr hh) with ⟨nd, hnd, hid, _⟩
  exact ⟨m, hm, finds_some.mp ((finds_iff_ds (hnif m hm) h).mpr ⟨nd, hnd, hid⟩)⟩

/-- What a release does, given what is kept. -/
theorem releasesEverywhere_of_inOrder {e : LocEngNifs} (he : InOrder e) (env : Env) (h : UInt32) :
    ReleasesEverywhere env e h ↔ HeldOnce e h := by
  have hrel := releaseATL_release env e h
  unfold ReleasesEverywhere
  -- Whom a machine does not find, it does not have.
  have hagnss : ¬ Finds (.atl h false) e.agnss_nif → ¬ HandleHeld h e.agnss_nif :=
    mt (finds_of_held_atl he.agnss)
  have hinternet : ¬ Finds (.atl h false) e.internet_nif → ¬ HandleHeld h e.internet_nif :=
    mt (finds_of_held_atl he.internet)
  generalize e.releaseATL env h = r at hrel ⊢
  cases hrel with
  | agnss m hm hf =>
      rcases released_atl (he.agnss m hm) env hf with ⟨hgone, hone⟩
      have hfound : Finds (.atl h false) e.agnss_nif := by rw [hm]; exact hf
      simp only [hone, ← hm]
      constructor
      · rintro ⟨_, hint, hds, hheld⟩
        exact ⟨fun _ => ⟨hheld, hint, hds⟩, fun hno => absurd hfound hno,
          fun hno => absurd hfound hno⟩
      · intro hheld
        rcases hheld.agnss hfound with ⟨hheld, hint, hds⟩
        exact ⟨hgone, hint, hds, hheld⟩
  | internet m hno hm hf =>
      rcases released_atl (he.internet m hm) env hf with ⟨hgone, hone⟩
      have hfound : Finds (.atl h false) e.internet_nif := by rw [hm]; exact hf
      simp only [hone, ← hm]
      constructor
      · rintro ⟨_, _, hds, hheld⟩
        exact ⟨fun hyes => absurd hyes hno, fun _ _ => ⟨hheld, hds⟩,
          fun _ hno' => absurd hfound hno'⟩
      · intro hheld
        rcases hheld.internet hno hfound with ⟨hheld, hds⟩
        exact ⟨hagnss hno, hgone, hds, hheld⟩
  | ds m hno hno' hm hf =>
      rcases unsubscribe_ds (he.ds m hm) env hf with ⟨hstays, hone⟩
      simp only [hone, hstays]
      constructor
      · rintro ⟨_, _, hst, _⟩
        refine ⟨fun hyes => absurd hyes hno, fun _ hyes => absurd hyes hno', fun _ _ m' hm' _ => ?_⟩
        rw [Option.mem_def, hm] at hm'
        cases hm'
        exact hst
      · intro hheld
        exact ⟨hagnss hno, hinternet hno', hheld.ds hno hno' m hm hf, trivial⟩
  | nobody hno hno' hno'' =>
      refine iff_of_true ⟨hagnss hno, hinternet hno', mt (finds_of_held_ds he.ds) hno'', ?_⟩ ?_
      · simp only [List.countP_singleton, Output.answersClose, beq_self_eq_true, if_true]
      · refine ⟨fun hyes => absurd hyes hno, fun _ hyes => absurd hyes hno', fun _ _ m hm hf => ?_⟩
        exact absurd ⟨m, hm, finds_some.mp hf⟩ hno''

/-- After any run, a release closes the handle everywhere iff it is where the
    first result is, and nowhere else. The condition is about the lists before
    the release; the runs have all the messages that bring a handle to one of
    the three machines. -/
theorem releasesEverywhere_iff (peek : Subscriber → IPv6Addr) (agnss internet ds : Bool)
    (ls : List NifLabel) (env : Env) (h : UInt32) :
    ReleasesEverywhere env ((LocEngNifs.init peek agnss internet ds).run ls) h ↔
      HeldOnce ((LocEngNifs.init peek agnss internet ds).run ls) h :=
  releasesEverywhere_of_inOrder (run_inOrder (init_inOrder peek agnss internet ds) ls) env h

/-- A request that falls back to ATL leaves its handle on two machines, and the
    release closes it on one. -/
theorem fallback_keeps_handle :
    ¬ ReleasesEverywhere ⟨0, true⟩
      ((LocEngNifs.init (fun _ => Vector.replicate 16 0) true true true).run
        [.openATL 1 .agnssEmergency ⟨LOC_API_ADAPTER_ERR_UNSUPPORTED, true⟩,
          .engineMsg ⟨0, true⟩]) 1 := by
  rintro ⟨_, _, hds, _⟩
  exact hds ⟨_, rfl, ⟨0, .ds 1 false⟩, List.mem_cons_self, rfl⟩

end Agps

end Victara
