import Victara.Agps.Invariant

/-!
# The Machines over an Engine Restart

`loc_eng` with its agnss and internet machines, from `loc_eng_agps_init` on.
When the modem comes up again, `loc_eng_handle_engine_up` drops the
subscribers of both: they were the modem's. It empties the lists and leaves
the state pointers where they are, which is right for a machine in Released
and for no other. A machine in Pending or Acquired goes on without anybody to
wait for or to hold the connection for, and one in Releasing waits for a
release on behalf of nobody.

Next to each machine stands whether the framework holds a connection for it,
as told by the answers.

## Main definitions

* `Nif`, `LocEng`: The machines and what the framework holds for them.
* `LocEngEvent`: What happens to `loc_eng`.
* `agpsInit`: `loc_eng_agps_init`, which does nothing the second time.
* `LocEng.handleEngineUp`: The engine is back.
* `Has`: `n` is one of the two machines.
* `Recovered`: What a restart owes to the machines.
* `Ok`: What is kept over calls and restarts: the machines are servicer
  machines, and there are none before `loc_eng_agps_init`.

## Theorems

* `consistent_dropAll_iff`: An emptied list fits Released only.
* `subscribe_released_requests`: From there the next subscribe is a request.
* `isDS_map`: A machine before a step, and the one after it.
* `handleEngineUp_has`: The machines after the engine came up are the emptied
  ones from before.
* `engine_up_recovers_iff`: Exactly when a restart leaves them consistent.
* `engine_up_in_pending`: It does not when a request is unanswered.
-/

namespace Victara

namespace Agps

open AgpsStateMachine

/-- A machine, and whether the framework holds a connection for it. -/
structure Nif where
  machine : AgpsStateMachine
  conn : Bool

def Nif.call (n : Nif) (c : Call) : Nif where
  machine := Agps.step n.machine c
  conn := match c with
    | .onRsrcEvent .rsrcGranted _ => true
    | .onRsrcEvent .rsrcReleased _ => false
    | _ => n.conn

def Nif.drop (n : Nif) : Nif := { n with machine := n.machine.dropAllSubscribers }

/-- The part of `loc_eng_data_s_type` the restart looks at. -/
structure LocEng where
  agps_status_cb : Bool
  agnss_nif : Option Nif
  internet_nif : Option Nif

/-- What happens to `loc_eng`. `agpsInit` is told whether the target is one
    that has an agnss machine. -/
inductive LocEngEvent
  | agpsInit (hasAgnss : Bool)
  | agnss (c : Call)
  | internet (c : Call)
  | engineUp
  deriving DecidableEq, Repr

namespace LocEng

def init : LocEng := { agps_status_cb := false, agnss_nif := none, internet_nif := none }

/-- `loc_eng_agps_init`, which does nothing the second time. -/
def agpsInit (peek : Subscriber → IPv6Addr) (e : LocEng) (hasAgnss : Bool) : LocEng :=
  if e.agps_status_cb then e
  else
    { agps_status_cb := true
      agnss_nif := if hasAgnss then some ⟨new peek AGPS_TYPE_SUPL false, false⟩ else none
      internet_nif := some ⟨new peek AGPS_TYPE_WWAN_ANY false, false⟩ }

/-- `loc_eng_handle_engine_up`, as far as the machines are concerned. -/
def handleEngineUp (e : LocEng) : LocEng :=
  if e.agps_status_cb then
    { e with agnss_nif := e.agnss_nif.map Nif.drop, internet_nif := e.internet_nif.map Nif.drop }
  else e

def step (peek : Subscriber → IPv6Addr) (e : LocEng) : LocEngEvent → LocEng
  | .agpsInit hasAgnss => e.agpsInit peek hasAgnss
  | .agnss c => { e with agnss_nif := e.agnss_nif.map (·.call c) }
  | .internet c => { e with internet_nif := e.internet_nif.map (·.call c) }
  | .engineUp => e.handleEngineUp

def run (peek : Subscriber → IPv6Addr) (evs : List LocEngEvent) : LocEng :=
  evs.foldl (step peek) init

/-- `n` is one of the two machines. -/
def Has (e : LocEng) (n : Nif) : Prop := e.agnss_nif = some n ∨ e.internet_nif = some n

end LocEng

/-- State and list fit together, and whoever subscribes next leads to a request,
    or to a grant the framework holds a connection for. The second part is what
    the restart is for: a machine that waits for an answer which does not come
    serves nobody, however its list looks. -/
structure Recovered (n : Nif) : Prop where
  consistent : Consistent n.machine.mStatePtr n.machine.mSubscribers
  served : ∀ x env,
    .requestAgpsDataConn ∈ requests (step n.machine (.subscribeRsrc x env)).out ∨
    (none, x, .rsrcGranted) ∈ notes (step n.machine (.subscribeRsrc x env)).out ∧ n.conn = true

/-- A list that was emptied fits Released, and no other state. -/
theorem consistent_dropAll_iff (m : AgpsStateMachine) :
    Consistent m.dropAllSubscribers.mStatePtr m.dropAllSubscribers.mSubscribers ↔
      m.mStatePtr = .released := by
  have hempty : m.dropAllSubscribers.mSubscribers = [] := rfl
  constructor
  · exact fun h => h.released_iff.mpr hempty
  · intro hs
    rw [show m.dropAllSubscribers.mStatePtr = .released from hs]
    exact consistent_nil

/-- In Released with nobody listed, a subscribe is a request. -/
theorem subscribe_released_requests {m : AgpsStateMachine} (hds : m.isDS = false)
    (hs : m.mStatePtr = .released) (hl : m.mSubscribers = []) (x : Subscriber) (env : Env) :
    requests (step m (.subscribeRsrc x env)).out = [.requestAgpsDataConn] := by
  have heff := step_effect m (.subscribeRsrc x env) hds
  generalize ho : (step m (.subscribeRsrc x env)).outcome = o at heff
  have hreq : requests (step m (.subscribeRsrc x env)).out = o.requests := by
    rw [← ho]
    rfl
  rw [hreq]
  cases heff with
  | refused _ _ _ hne => exact absurd hl hne
  | requested _ _ _ _ => rfl
  -- Whoever joins the empty list is active.
  | requestedNothing _ _ _ ha => exact absurd (hasActive_addSubscriber_nil (m := m.fresh) x hl) ha
  | queued _ _ _ hst =>
      rw [show m.fresh.mStatePtr = .released from hs] at hst
      rcases hst with hst | hst <;> cases hst
  | grantedAtOnce _ _ _ hst =>
      rw [show m.fresh.mStatePtr = .released from hs] at hst
      cases hst

theorem recovered_drop_iff (n : Nif) (hds : n.machine.isDS = false) :
    Recovered n.drop ↔ n.machine.mStatePtr = .released := by
  constructor
  · exact fun h => (consistent_dropAll_iff n.machine).mp h.consistent
  · refine fun hs => ⟨(consistent_dropAll_iff n.machine).mpr hs, fun x env => Or.inl ?_⟩
    have hreq := subscribe_released_requests (m := n.drop.machine) hds hs rfl x env
    rw [hreq]
    exact List.mem_singleton_self _

namespace LocEng

/-- What is kept over calls and restarts: the machines are servicer machines,
    and there are none before `loc_eng_agps_init`. Nothing is kept of the list
    and the state, as a restart takes them apart. -/
structure Ok (e : LocEng) : Prop where
  isDS : ∀ n, e.Has n → n.machine.isDS = false
  absent : e.agps_status_cb = false → e.agnss_nif = none ∧ e.internet_nif = none

theorem init_ok : init.Ok := by
  refine ⟨fun n hn => ?_, fun _ => ⟨rfl, rfl⟩⟩
  rcases hn with hn | hn <;> cases hn

/-- A machine before a step, and the one after it. -/
theorem isDS_map {f : Nif → Nif} (hf : ∀ n, (f n).machine.isDS = n.machine.isDS)
    {o : Option Nif} {n : Nif} (ho : ∀ n, o = some n → n.machine.isDS = false)
    (hn : o.map f = some n) : n.machine.isDS = false := by
  rcases Option.map_eq_some_iff.mp hn with ⟨n', hn', rfl⟩
  exact (hf n').trans (ho n' hn')

theorem step_ok (peek : Subscriber → IPv6Addr) (e : LocEng) (ev : LocEngEvent) (h : e.Ok) :
    (e.step peek ev).Ok := by
  have hagnss : ∀ n, e.agnss_nif = some n → n.machine.isDS = false := fun n hn =>
    h.isDS n (Or.inl hn)
  have hinternet : ∀ n, e.internet_nif = some n → n.machine.isDS = false := fun n hn =>
    h.isDS n (Or.inr hn)
  have hcall : ∀ (c : Call) (n : Nif), (n.call c).machine.isDS = n.machine.isDS := fun c n =>
    (step_config n.machine c).isDS
  cases ev with
  | agpsInit hasAgnss =>
      simp only [step, agpsInit]
      split
      · exact h
      -- Both machines are new, or the target has no agnss machine.
      · refine ⟨fun n hn => ?_, fun hcb => by cases hcb⟩
        rcases hn with hn | hn
        · simp only at hn
          split at hn <;> cases hn
          rfl
        · cases hn
          rfl
  | agnss c =>
      refine ⟨fun n hn => ?_, fun hcb => ?_⟩
      · rcases hn with hn | hn
        · exact isDS_map (hcall c) hagnss hn
        · exact hinternet n hn
      · have hnone := h.absent hcb
        exact ⟨by rw [step, hnone.1]; rfl, hnone.2⟩
  | internet c =>
      refine ⟨fun n hn => ?_, fun hcb => ?_⟩
      · rcases hn with hn | hn
        · exact hagnss n hn
        · exact isDS_map (hcall c) hinternet hn
      · have hnone := h.absent hcb
        exact ⟨hnone.1, by rw [step, hnone.2]; rfl⟩
  | engineUp =>
      simp only [step, handleEngineUp]
      split
      -- Dropping the subscribers leaves the kind of a machine alone.
      · rename_i hcb
        refine ⟨fun n hn => ?_, fun hno => ?_⟩
        · rcases hn with hn | hn
          · exact isDS_map (f := Nif.drop) (fun _ => rfl) hagnss hn
          · exact isDS_map (f := Nif.drop) (fun _ => rfl) hinternet hn
        · rw [show e.agps_status_cb = false from hno] at hcb
          cases hcb
      · exact h

theorem run_ok (peek : Subscriber → IPv6Addr) (evs : List LocEngEvent) : (run peek evs).Ok :=
  List.foldlRecOn (motive := Ok) evs (step peek) init_ok fun e he ev _ => step_ok peek e ev he

/-- The machines after the engine came up are the emptied ones from before. -/
theorem handleEngineUp_has {e : LocEng} (h : e.Ok) (n : Nif) :
    e.handleEngineUp.Has n ↔
      ∃ n', e.Has n' ∧ n = n'.drop := by
  rw [handleEngineUp]
  cases hcb : e.agps_status_cb with
  | true =>
      simp only [if_true, Has, Option.map_eq_some_iff]
      constructor
      · rintro (⟨n', hn', rfl⟩ | ⟨n', hn', rfl⟩)
        · exact ⟨n', Or.inl hn', rfl⟩
        · exact ⟨n', Or.inr hn', rfl⟩
      · rintro ⟨n', hn' | hn', rfl⟩
        · exact Or.inl ⟨n', hn', rfl⟩
        · exact Or.inr ⟨n', hn', rfl⟩
  | false =>
      have hnone := h.absent hcb
      simp only [Bool.false_eq_true, if_false, Has, hnone.1, hnone.2, reduceCtorEq, or_self,
        false_and, exists_false]

end LocEng

/-- From every state `loc_eng` can reach, over any calls and earlier restarts:
    the engine coming up leaves both machines consistent, and their next
    subscriber served, iff both are in Released at that moment.
    `dropAllSubscribers` empties the lists and does not look at the states, so
    that any other state is left with nobody in it. -/
theorem engine_up_recovers_iff (peek : Subscriber → IPv6Addr) (evs : List LocEngEvent) :
    (∀ n, (LocEng.run peek evs).handleEngineUp.Has n → Recovered n) ↔
      ∀ n, (LocEng.run peek evs).Has n → n.machine.mStatePtr = .released := by
  have hok := LocEng.run_ok peek evs
  constructor
  · intro h n hn
    have hrec := h _ ((LocEng.handleEngineUp_has hok _).mpr ⟨n, hn, rfl⟩)
    exact (recovered_drop_iff n (hok.isDS n hn)).mp hrec
  · intro h n hn
    rcases (LocEng.handleEngineUp_has hok n).mp hn with ⟨n', hn', rfl⟩
    exact (recovered_drop_iff n' (hok.isDS n' hn')).mpr (h n' hn')

/-- The engine comes up while the request of an ATL client is unanswered. The
    machine stays in Pending with nobody listed, and the next client waits for
    an answer that nobody was asked for. -/
theorem engine_up_in_pending :
    let e := (LocEng.run (fun _ => Vector.replicate 16 0)
      [.agpsInit true, .agnss (.subscribeRsrc (.atl 1 false) ⟨0, false⟩)]).handleEngineUp
    ∃ n, e.agnss_nif = some n ∧ n.machine.mStatePtr = .pending ∧ n.machine.mSubscribers = [] ∧
      requests (step n.machine (.subscribeRsrc (.atl 2 false) ⟨0, false⟩)).out = [] ∧
      notes (step n.machine (.subscribeRsrc (.atl 2 false) ⟨0, false⟩)).out = [] :=
  ⟨_, rfl, rfl, rfl, rfl, rfl⟩

end Agps

end Victara
