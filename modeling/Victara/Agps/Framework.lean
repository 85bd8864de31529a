import Victara.Lib.StepSystem
import Victara.Agps.DataConn

/-!
# A Machine and Its Connectivity Framework

The servicer machine with the framework at the other end of the callback. The
framework answers every request with GRANTED or DENIED and every release with
RELEASED, in the order they were sent, and clients subscribe and unsubscribe
in between. It keeps the connection it granted until it answers a release.

The machine does not wait for its answers. It counts one request for one
subscriber population, and takes GRANTED, whenever it comes, for the answer to
the request it made last. With one request under way that is right, whatever
releases go with it. With two, the first grant brings a machine to Acquired
whose next answer is the RELEASED of the connection before, and the second
grant finds it in Released, where it is ignored: the connection is held for
nobody.

## Main definitions

* `Answer`: How the framework answers: the message it has put in the queue, with
  what the client API brought along.
* `Answer.proc`: `LocEngAtlOpenSuccess::proc`, `LocEngAtlOpenFailed::proc` and
  `LocEngAtlClosed::proc`, as calls on the machine.
* `Answer.answers`: The answers a request may get.
* `Framework`: The machine, the unanswered requests, the connection.
* `call`: A call on the machine; what it asks for queues up.
* `connAfter`: The connection after an answer.
* `Framework.step`: A client call, or the next answer.
* `SendsRequest`: The calls with which a machine makes a new request.
* `OneRequest`: No new request while an earlier one is unanswered.
* `Fits`: What state, unanswered requests and connection have to do with each
  other as long as that is so.
* `EventMove`: What an answer does to the state, and what is asked for next;
  `active` says that somebody active is listed.
* `Answer.event`: The event an answer ends in.
* `Ok`: What every state of the system satisfies, as long as there is one
  request at a time.
* `cameAgain`: An ATL client comes, is granted the connection, goes, and comes
  again while the release is under way.

## Theorems

* `effect_subscribe`, `effect_unsubscribe`, `effect_event`: When a machine asks
  for something.
* `fits_request`: A new request behind at most one release.
* `fits_release`: A release behind what Pending and Acquired leave unanswered.
* `fits_opened`: A grant reaches Pending, or nobody who takes it.
* `fits_openFailed`: A denial ends Pending, or the release of what was never
  granted.
* `fits_closed`: A release that is done: the request it leads to must be the
  only one.
* `call_ok`: A call keeps what does not depend on the requests.
* `calls_proc`: The last call of an answer is the event; the calls before it set
  what the connection is called.
* `step_ok`: One step of the system keeps `Fits`.
* `no_leaked_connection`: With one request at a time no connection leaks.
* `leaked_connection`: With two, one does.
-/

namespace Victara

namespace Agps

open AgpsStateMachine

/-- How the framework answers: the message it has put in the queue, with what
    the client API brought along. -/
inductive Answer
  | opened (apn : Option CString) (len : Nat) (bearer : AGpsBearerType)
  | openFailed
  | closed
  deriving DecidableEq, Repr

/-- `LocEngAtlOpenSuccess::proc`, `LocEngAtlOpenFailed::proc` and
    `LocEngAtlClosed::proc`, as calls on the machine. -/
def Answer.proc (env : Env) : Answer → List Call
  | .opened apn len bearer =>
      [.setBearer bearer, .setAPN apn len, .onRsrcEvent .rsrcGranted env]
  | .openFailed => [.onRsrcEvent .rsrcDenied env]
  | .closed => [.onRsrcEvent .rsrcReleased env]

/-- The answers a request may get. -/
def Answer.answers : Answer → AGpsStatusValue → Bool
  | .closed => (· = .releaseAgpsDataConn)
  | _ => (· = .requestAgpsDataConn)

structure Framework where
  machine : AgpsStateMachine
  asked : List AGpsStatusValue
  conn : Bool

inductive Move
  | subscribe (x : Subscriber) (env : Env)
  | unsubscribe (x : Subscriber) (env : Env)
  | answer (a : Answer) (env : Env)
  deriving DecidableEq, Repr

namespace Framework

def start (m : AgpsStateMachine) : Framework := { machine := m, asked := [], conn := false }

/-- A call on the machine; what it asks for queues up. -/
def call (f : Framework) (c : Call) : Framework :=
  let m := Agps.step f.machine c
  { f with machine := m, asked := f.asked ++ requests m.out }

def calls (f : Framework) (cs : List Call) : Framework := cs.foldl call f

/-- The connection after an answer. -/
def connAfter (conn : Bool) : Answer → Bool
  | .opened _ _ _ => true
  | .openFailed => conn
  | .closed => false

def step (f : Framework) : Move → Option Framework
  | .subscribe x env => some (f.call (.subscribeRsrc x env))
  | .unsubscribe x env => some (f.call (.unsubscribeRsrc x env))
  | .answer a env => match f.asked with
    | [] => none
    | r :: asked =>
      if a.answers r then
        some ({ f with asked := asked, conn := connAfter f.conn a }.calls (a.proc env))
      else none

end Framework

/-- The calls with which a machine makes a new request: a subscribe in
    Released, and the end of a release that somebody active waits for. -/
def SendsRequest (m : AgpsStateMachine) : Call → Prop
  | .subscribeRsrc _ _ => m.mStatePtr = .released
  | .onRsrcEvent event _ => m.mStatePtr = .releasing ∧
      (event = .rsrcReleased ∨ event = .rsrcDenied) ∧
      ∃ nd ∈ m.mSubscribers, nd.subscriber.isInactive = false
  | _ => False

instance (m : AgpsStateMachine) : (c : Call) → Decidable (SendsRequest m c)
  | .subscribeRsrc _ _ => inferInstanceAs (Decidable (m.mStatePtr = .released))
  | .onRsrcEvent _ _ => inferInstanceAs (Decidable (_ ∧ _))
  | .unsubscribeRsrc _ _ | .setBearer _ | .setAPN _ _ => isFalse id

/-- No new request is made while an earlier one is unanswered. It is about the
    moment before the call, and so about what the call would send. Releases may
    be on their way in any number: they are answered by RELEASED, which no state
    takes for the answer to a request. -/
def OneRequest (f : Framework) : Move → Prop
  | .subscribe x env =>
      SendsRequest f.machine (.subscribeRsrc x env) → .requestAgpsDataConn ∉ f.asked
  | .unsubscribe _ _ => True
  | .answer a env =>
      (∃ c ∈ a.proc env, SendsRequest f.machine c) → .requestAgpsDataConn ∉ f.asked.tail

instance (f : Framework) : (mv : Move) → Decidable (OneRequest f mv)
  | .subscribe x env => inferInstanceAs (Decidable
      (SendsRequest f.machine (.subscribeRsrc x env) → .requestAgpsDataConn ∉ f.asked))
  | .unsubscribe _ _ => isTrue trivial
  | .answer a env => inferInstanceAs (Decidable
      ((∃ c ∈ a.proc env, SendsRequest f.machine c) → .requestAgpsDataConn ∉ f.asked.tail))

/-- What may be unanswered in a state, and what the framework holds. The
    connection of the release at the front may be the one granted last. -/
def Fits : AgpsState → List AGpsStatusValue → Bool → Prop
  | .pending, asked, conn =>
      asked = [.requestAgpsDataConn] ∧ conn = false ∨
      asked = [.releaseAgpsDataConn, .requestAgpsDataConn]
  | .acquired, asked, conn => asked = [] ∧ conn = true
  | _, asked, conn =>
      asked = [] ∧ conn = false ∨ asked = [.releaseAgpsDataConn] ∨
      asked = [.requestAgpsDataConn, .releaseAgpsDataConn] ∧ conn = false ∨
      asked = [.releaseAgpsDataConn, .requestAgpsDataConn, .releaseAgpsDataConn]

/-- The state, the list and the requests of a subscribe. -/
theorem effect_subscribe {m : AgpsStateMachine} {x : Subscriber} {env : Env} {o : Outcome}
    (h : Effect m (.subscribeRsrc x env) o) (hm : Consistent m.mStatePtr m.mSubscribers) :
    m.mStatePtr = .released ∧ o.state = .pending ∧ o.requests = [.requestAgpsDataConn] ∨
    m.mStatePtr ≠ .released ∧ o.state = m.mStatePtr ∧ o.requests = [] := by
  cases h with
  | refused _ _ he hl => exact Or.inr ⟨fun hs => hl (hm.released_iff.mp hs), rfl, rfl⟩
  | requested _ _ hs ha => exact Or.inl ⟨hs, rfl, rfl⟩
  | requestedNothing _ _ hs ha =>
      -- The first subscriber of an empty list is active.
      exact absurd (hasActive_addSubscriber_nil x (hm.released_iff.mp hs)) ha
  | queued _ _ he hs =>
      refine Or.inr ⟨?_, rfl, rfl⟩
      rcases hs with hs | hs <;> rw [hs] <;> exact fun h => by cases h
  | grantedAtOnce _ _ he hs =>
      refine Or.inr ⟨?_, hs.symm, rfl⟩
      rw [hs]
      exact fun h => by cases h

theorem effect_unsubscribe {m : AgpsStateMachine} {x : Subscriber} {env : Env} {o : Outcome}
    (h : Effect m (.unsubscribeRsrc x env) o) :
    (m.mStatePtr = .pending ∨ m.mStatePtr = .acquired) ∧
      (o.state = .released ∨ o.state = .releasing) ∧ o.requests = [.releaseAgpsDataConn] ∨
    m.mStatePtr = .releasing ∧ o.state = .released ∧ o.requests = [] ∨
    o.state = m.mStatePtr ∧ o.requests = [] := by
  cases h with
  | unknown _ _ _ => exact Or.inr (Or.inr ⟨rfl, rfl⟩)
  | tolerated _ _ nd hnd hs => exact Or.inr (Or.inr ⟨hs.symm, rfl⟩)
  | dismissed _ _ nd l ns s rs hnd hx hs hd hnext =>
      have hasked : m.mStatePtr ≠ .releasing → m.mStatePtr = .pending ∨ m.mStatePtr = .acquired := by
        intro hne
        cases hst : m.mStatePtr with
        | released => exact absurd hst hs
        | pending => exact Or.inl rfl
        | acquired => exact Or.inr rfl
        | releasing => exact absurd hst hne
      cases hnext with
      | emptied _ hne => exact Or.inl ⟨hasked hne, Or.inl rfl, rfl⟩
      | finished _ hrel => exact Or.inr (Or.inl ⟨hrel, rfl, rfl⟩)
      | idle _ _ hne => exact Or.inl ⟨hasked hne, Or.inr rfl, rfl⟩
      | stays _ _ => exact Or.inr (Or.inr ⟨rfl, rfl⟩)

/-- What an answer does to the state, and what is asked for next; `active`
    says that somebody active is listed. -/
inductive EventMove (active : Prop) :
    AgpsState → AgpsRsrcStatus → AgpsState → List AGpsStatusValue → Prop
  | granted : EventMove active .pending .rsrcGranted .acquired []
  | denied : EventMove active .pending .rsrcDenied .released []
  | lost : EventMove active .acquired .rsrcReleased .released []
  | renewed (event : AgpsRsrcStatus) (hev : event = .rsrcReleased ∨ event = .rsrcDenied)
      (ha : active) : EventMove active .releasing event .pending [.requestAgpsDataConn]
  | completed (event : AgpsRsrcStatus) (hev : event = .rsrcReleased ∨ event = .rsrcDenied) :
      EventMove active .releasing event .released []
  | ignored (s : AgpsState) (event : AgpsRsrcStatus) (hr : reacts s event = false) :
      EventMove active s event s []

theorem effect_event {m : AgpsStateMachine} {event : AgpsRsrcStatus} {env : Env} {o : Outcome}
    (h : Effect m (.onRsrcEvent event env) o) :
    EventMove (HasActive m.mSubscribers) m.mStatePtr event o.state o.requests := by
  cases h with
  | granted _ hs =>
      rw [hs]
      exact .granted
  | closed _ _ hs =>
      rcases hs with ⟨hs, rfl⟩ | ⟨hs, rfl⟩
      · rw [hs]
        exact .denied
      · rw [hs]
        exact .lost
  | renewed _ _ hs hev ha =>
      rw [hs]
      exact .renewed event hev ha
  | completed _ _ hs hev ha =>
      rw [hs]
      exact .completed event hev
  | ignored _ _ hr => exact .ignored _ event hr

/-- The event an answer ends in. -/
def Answer.event : Answer → AgpsRsrcStatus
  | .opened _ _ _ => .rsrcGranted
  | .openFailed => .rsrcDenied
  | .closed => .rsrcReleased

/-- A new request behind at most one release. -/
theorem fits_request {asked : List AGpsStatusValue} {conn : Bool}
    (h : Fits .released asked conn) (hone : .requestAgpsDataConn ∉ asked) :
    Fits .pending (asked ++ [.requestAgpsDataConn]) conn := by
  rcases h with ⟨rfl, rfl⟩ | rfl | ⟨rfl, _⟩ | rfl
  · exact Or.inl ⟨rfl, rfl⟩
  · exact Or.inr rfl
  · exact absurd List.mem_cons_self hone
  · exact absurd (List.mem_cons_of_mem _ List.mem_cons_self) hone

/-- A release behind what Pending and Acquired leave unanswered. -/
theorem fits_release {s s' : AgpsState} {asked : List AGpsStatusValue} {conn : Bool}
    (h : Fits s asked conn) (hs : s = .pending ∨ s = .acquired)
    (hs' : s' = .released ∨ s' = .releasing) :
    Fits s' (asked ++ [.releaseAgpsDataConn]) conn := by
  -- Released and Releasing allow the same.
  have hsame : Fits .released (asked ++ [.releaseAgpsDataConn]) conn := by
    rcases hs with rfl | rfl
    · rcases h with ⟨rfl, rfl⟩ | rfl
      · exact Or.inr (Or.inr (Or.inl ⟨rfl, rfl⟩))
      · exact Or.inr (Or.inr (Or.inr rfl))
    · rw [h.1]
      exact Or.inr (Or.inl rfl)
  rcases hs' with rfl | rfl
  · exact hsame
  · exact hsame

/-- A grant reaches Pending, or nobody who takes it. -/
theorem fits_opened {active : Prop} {s s' : AgpsState} {asked rs : List AGpsStatusValue}
    {conn : Bool} (h : Fits s (.requestAgpsDataConn :: asked) conn)
    (hmove : EventMove active s .rsrcGranted s' rs) : Fits s' (asked ++ rs) true := by
  cases hmove with
  | granted =>
      rcases h with ⟨heq, _⟩ | heq
      · cases heq
        exact ⟨rfl, rfl⟩
      · cases heq
  | renewed _ hev _ => rcases hev with hev | hev <;> cases hev
  | completed _ hev => rcases hev with hev | hev <;> cases hev
  | ignored _ _ hr =>
      cases s with
      -- Pending takes the grant, and Acquired has nothing unanswered.
      | pending => cases hr
      | acquired => cases h.1
      | _ =>
          rcases h with ⟨heq, _⟩ | heq | ⟨heq, _⟩ | heq
          · cases heq
          · cases heq
          · cases heq
            -- The request was given up, and the release behind it is unanswered.
            exact Or.inr (Or.inl rfl)
          · cases heq

/-- A denial ends Pending, or the release of what was never granted. -/
theorem fits_openFailed {active : Prop} {s s' : AgpsState} {asked rs : List AGpsStatusValue}
    {conn : Bool} (h : Fits s (.requestAgpsDataConn :: asked) conn)
    (hmove : EventMove active s .rsrcDenied s' rs) : Fits s' (asked ++ rs) conn := by
  cases hmove with
  | denied =>
      -- What has been asked for tells which of the cases of `Fits` this is.
      rcases h with ⟨heq, hconn⟩ | heq
      · cases heq
        exact Or.inl ⟨rfl, hconn⟩
      · cases heq
  | renewed _ _ _ =>
      rcases h with ⟨heq, _⟩ | heq | ⟨heq, _⟩ | heq
      · cases heq
      · cases heq
      · cases heq
        exact Or.inr rfl
      · cases heq
  | completed _ _ =>
      rcases h with ⟨heq, _⟩ | heq | ⟨heq, _⟩ | heq
      · cases heq
      · cases heq
      · cases heq
        exact Or.inr (Or.inl rfl)
      · cases heq
  | ignored _ _ hr =>
      cases s with
      | pending => cases hr
      | releasing => cases hr
      | acquired => cases h.1
      | released =>
          rcases h with ⟨heq, _⟩ | heq | ⟨heq, _⟩ | heq
          · cases heq
          · cases heq
          · cases heq
            exact Or.inr (Or.inl rfl)
          · cases heq

/-- A release that is done: the request it leads to must be the only one. -/
theorem fits_closed {active : Prop} {s s' : AgpsState} {asked rs : List AGpsStatusValue}
    {conn : Bool} (h : Fits s (.releaseAgpsDataConn :: asked) conn)
    (hmove : EventMove active s .rsrcReleased s' rs)
    (hone : s = .releasing → active → .requestAgpsDataConn ∉ asked) :
    Fits s' (asked ++ rs) false := by
  cases hmove with
  | lost => cases h.1
  | renewed _ _ ha =>
      rcases h with ⟨heq, _⟩ | heq | ⟨heq, _⟩ | heq
      · cases heq
      · cases heq
        exact Or.inl ⟨rfl, rfl⟩
      · cases heq
      · cases heq
        -- A request is unanswered, so a new one would be the second.
        exact absurd List.mem_cons_self (hone rfl ha)
  | completed _ _ =>
      rcases h with ⟨heq, _⟩ | heq | ⟨heq, _⟩ | heq
      · cases heq
      · cases heq
        exact Or.inl ⟨rfl, rfl⟩
      · cases heq
      · cases heq
        exact Or.inr (Or.inr (Or.inl ⟨rfl, rfl⟩))
  | ignored _ _ hr =>
      cases s with
      | acquired => cases hr
      | releasing => cases hr
      | pending =>
          rcases h with ⟨heq, _⟩ | heq
          · cases heq
          · cases heq
            exact Or.inl ⟨rfl, rfl⟩
      | released =>
          rcases h with ⟨heq, _⟩ | heq | ⟨heq, _⟩ | heq
          · cases heq
          · cases heq
            exact Or.inl ⟨rfl, rfl⟩
          · cases heq
          · cases heq
            exact Or.inr (Or.inr (Or.inl ⟨rfl, rfl⟩))

namespace Framework

/-- What every state of the system satisfies, as long as there is one request at
    a time. `Fits` ties the state of the machine to what is under way and to the
    connection that the framework holds. It has a case for each order in which a
    request and releases may be waiting. -/
structure Ok (f : Framework) : Prop where
  isDS : f.machine.isDS = false
  consistent : Consistent f.machine.mStatePtr f.machine.mSubscribers
  fits : Fits f.machine.mStatePtr f.asked f.conn

/-- A call keeps what does not depend on the requests. -/
theorem call_ok {f : Framework} (c : Call) (hf : f.Ok)
    (hfits : Fits (f.call c).machine.mStatePtr (f.call c).asked (f.call c).conn) :
    (f.call c).Ok :=
  ⟨(step_config f.machine c).isDS.trans hf.isDS, step_consistent hf.isDS hf.consistent c, hfits⟩

theorem subscribe_ok {f : Framework} (x : Subscriber) (env : Env) (hf : f.Ok)
    (hone : f.machine.mStatePtr = .released → .requestAgpsDataConn ∉ f.asked) :
    (f.call (.subscribeRsrc x env)).Ok := by
  refine call_ok _ hf ?_
  have heff := effect_subscribe (step_effect f.machine (.subscribeRsrc x env) hf.isDS) hf.consistent
  have hfits := hf.fits
  rcases heff with ⟨hs, hs', hrs⟩ | ⟨_, hs', hrs⟩
  · rw [show f.machine.mStatePtr = .released from hs] at hfits
    show Fits (Agps.step f.machine _).outcome.state
      (f.asked ++ (Agps.step f.machine _).outcome.requests) f.conn
    rw [hs', hrs]
    exact fits_request hfits (hone hs)
  · show Fits (Agps.step f.machine _).outcome.state
      (f.asked ++ (Agps.step f.machine _).outcome.requests) f.conn
    rw [hs', hrs, List.append_nil]
    exact hfits

theorem unsubscribe_ok {f : Framework} (x : Subscriber) (env : Env) (hf : f.Ok) :
    (f.call (.unsubscribeRsrc x env)).Ok := by
  refine call_ok _ hf ?_
  have heff := effect_unsubscribe (step_effect f.machine (.unsubscribeRsrc x env) hf.isDS)
  have hfits := hf.fits
  show Fits (Agps.step f.machine _).outcome.state
    (f.asked ++ (Agps.step f.machine _).outcome.requests) f.conn
  rcases heff with ⟨hs, hs', hrs⟩ | ⟨hs, hs', hrs⟩ | ⟨hs', hrs⟩
  · rw [hrs]
    exact fits_release hfits hs hs'
  · rw [show f.machine.mStatePtr = .releasing from hs] at hfits
    rw [hs', hrs, List.append_nil]
    exact hfits
  · rw [hs', hrs, List.append_nil]
    exact hfits

/-- The last call of an answer is the event; the calls before it set what the
    connection is called. -/
theorem calls_proc (m : AgpsStateMachine) (asked : List AGpsStatusValue) (conn : Bool)
    (a : Answer) (env : Env) :
    ∃ m', m'.isDS = m.isDS ∧ m'.mStatePtr = m.mStatePtr ∧ m'.mSubscribers = m.mSubscribers ∧
      (Framework.mk m asked conn).calls (a.proc env) =
        (Framework.mk m' asked conn).call (.onRsrcEvent a.event env) := by
  cases a with
  | opened apn len bearer =>
      refine ⟨Agps.step (Agps.step m (.setBearer bearer)) (.setAPN apn len), rfl, rfl, rfl, ?_⟩
      -- Neither `setBearer` nor `setAPN` asks for anything.
      have hasked : (asked ++ []) ++ [] = asked := by
        rw [List.append_nil, List.append_nil]
      show (Framework.mk _ ((asked ++ []) ++ []) conn).call _ = _
      rw [hasked]
      rfl
  | openFailed => exact ⟨m, rfl, rfl, rfl, rfl⟩
  | closed => exact ⟨m, rfl, rfl, rfl, rfl⟩

theorem answer_ok {m : AgpsStateMachine} {r : AGpsStatusValue} {asked : List AGpsStatusValue}
    {conn : Bool} (a : Answer) (env : Env) (hf : (Framework.mk m (r :: asked) conn).Ok)
    (ha : a.answers r = true)
    (hone : m.mStatePtr = .releasing → HasActive m.mSubscribers → a = .closed →
      .requestAgpsDataConn ∉ asked) :
    ((Framework.mk m asked (connAfter conn a)).calls (a.proc env)).Ok := by
  rcases calls_proc m asked (connAfter conn a) a env with ⟨m', hds, hstate, hlist, hcalls⟩
  have hds' : m'.isDS = false := hds.trans hf.isDS
  have hcons : Consistent m'.mStatePtr m'.mSubscribers := by
    rw [hstate, hlist]
    exact hf.consistent
  have hfits : Fits m'.mStatePtr (r :: asked) conn := by
    rw [hstate]
    exact hf.fits
  -- What the answer does to the machine, with everything that was set before it.
  have hmove := effect_event (step_effect m' (.onRsrcEvent a.event env) hds')
  rw [hcalls]
  refine ⟨(step_config m' _).isDS.trans hds', step_consistent hds' hcons _, ?_⟩
  show Fits (Agps.step m' _).outcome.state (asked ++ (Agps.step m' _).outcome.requests)
    (connAfter conn a)
  cases a with
  | opened apn len bearer =>
      rw [show r = .requestAgpsDataConn from of_decide_eq_true ha] at hfits
      exact fits_opened hfits hmove
  | openFailed =>
      rw [show r = .requestAgpsDataConn from of_decide_eq_true ha] at hfits
      exact fits_openFailed hfits hmove
  -- RELEASED may make the machine ask again, which it must not do with a request under way.
  | closed =>
      rw [show r = .releaseAgpsDataConn from of_decide_eq_true ha] at hfits
      refine fits_closed hfits hmove fun hs hactive => ?_
      exact hone (hstate.symm.trans hs) (hlist ▸ hactive) rfl

/-- One step, with one request at a time. -/
theorem step_ok (f : Framework) (mv : Move) (f' : Framework) (hf : f.Ok) (hone : OneRequest f mv)
    (hstep : f.step mv = some f') : f'.Ok := by
  cases mv with
  | subscribe x env =>
      cases hstep
      exact subscribe_ok x env hf hone
  | unsubscribe x env =>
      cases hstep
      exact unsubscribe_ok x env hf
  | answer a env =>
      rcases f with ⟨m, asked, conn⟩
      cases asked with
      | nil => cases hstep
      | cons r asked =>
          simp only [step] at hstep
          split at hstep
          · rename_i ha
            cases hstep
            -- Only the end of a release may lead to a new request.
            refine answer_ok a env hf ha fun hs hactive hclosed => hone ?_
            rw [hclosed]
            exact ⟨_, List.mem_singleton_self _, hs, Or.inl rfl, hactive⟩
          · cases hstep

end Framework

/-- With one request at a time, over any calls and any answers of the framework:
    when all answers are in, the framework holds a connection iff the machine is
    in Acquired. Before that the two may differ, as a GRANTED that is on its way
    is a connection already. -/
theorem no_leaked_connection (peek : Subscriber → IPv6Addr) (type : AGpsExtType)
    (enforce : Bool) (mvs : List Move) (f : Framework)
    (hone : StepSystem.Meets Framework.step OneRequest (.start (new peek type enforce)) mvs)
    (hrun : StepSystem.exec Framework.step (.start (new peek type enforce)) mvs = some f)
    (hdone : f.asked = []) : f.conn = true ↔ f.machine.mStatePtr = .acquired := by
  have hstart : (Framework.start (new peek type enforce)).Ok :=
    ⟨rfl, consistent_new peek type enforce, Or.inl ⟨rfl, rfl⟩⟩
  have hok : f.Ok := StepSystem.invariant_of_meets Framework.step_ok hstart hone hrun
  have hfits := hok.fits
  rw [hdone] at hfits
  cases hst : f.machine.mStatePtr with
  | pending =>
      rw [hst] at hfits
      -- Pending has a request unanswered.
      rcases hfits with ⟨heq, _⟩ | heq <;> cases heq
  | acquired =>
      rw [hst] at hfits
      exact ⟨fun _ => rfl, fun _ => hfits.2⟩
  | _ =>
      rw [hst] at hfits
      rcases hfits with ⟨_, hconn⟩ | heq | ⟨heq, _⟩ | heq
      · rw [hconn]
        exact ⟨(fun h => by cases h), fun h => by cases h⟩
      · cases heq
      · cases heq
      · cases heq

/-- An ATL client comes, is granted the connection, goes, and comes again
    while the release is under way. -/
def cameAgain : List Move :=
  [.subscribe (.atl 1 false) ⟨0, false⟩, .answer (.opened none 0 1) ⟨0, false⟩,
    .unsubscribe (.atl 1 false) ⟨0, false⟩, .subscribe (.atl 1 false) ⟨0, false⟩,
    .answer .closed ⟨0, false⟩, .answer (.opened none 0 1) ⟨0, false⟩]

theorem no_leaked_connection_cameAgain :
    ∃ f, StepSystem.exec Framework.step
        (.start (new (fun _ => Vector.replicate 16 0) AGPS_TYPE_SUPL false)) cameAgain = some f ∧
      f.machine.mStatePtr = .acquired ∧ f.conn = true :=
  ⟨_, rfl, rfl, (no_leaked_connection (fun _ => Vector.replicate 16 0) AGPS_TYPE_SUPL false
    cameAgain _ (by decide +kernel) rfl rfl).mpr rfl⟩

/-- The client comes, goes and comes again before the first answer. When the
    last answer is in, the framework holds the connection of the second
    request, and the machine is in Released with nobody listed. -/
theorem leaked_connection :
    ∃ f, StepSystem.exec Framework.step
        (.start (new (fun _ => Vector.replicate 16 0) AGPS_TYPE_SUPL false))
        [.subscribe (.atl 1 false) ⟨0, false⟩, .unsubscribe (.atl 1 false) ⟨0, false⟩,
          .subscribe (.atl 1 false) ⟨0, false⟩, .answer (.opened none 0 1) ⟨0, false⟩,
          .answer .closed ⟨0, false⟩, .answer (.opened none 0 1) ⟨0, false⟩] = some f ∧
      f.asked = [] ∧ f.machine.mStatePtr = .released ∧ f.machine.mSubscribers = [] ∧
      f.conn = true :=
  ⟨_, rfl, rfl, rfl, rfl, rfl⟩

end Agps

end Victara
