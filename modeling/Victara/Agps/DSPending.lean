import Victara.Agps.DSEffect
import Victara.Lib.StepSystem

/-!
# Pending Means that a Data Call Is Being Set Up

In Pending nothing is asked for: who subscribes is listed and waits for a
GRANTED. So a DS machine that is Pending without a start request that
succeeded has clients waiting for a data call that nobody will make.

Released looks at what its request returned and stays where it is when that
was a failure. Releasing makes the same request on its way to Pending and does
not look. That is the only way into Pending without a data call under way, so
the runs in which Pending always means one are the runs in which that request
never fails.

## Main definitions

* `DSRun`: A DS machine and whether its last start request is outstanding.
* `DSCall.succeeds`: A start request made in this call returns success.
* `DSCall.answers`: The data call is connected, or disconnected.
* `step`: A request made in a call comes after the event the call is about.
* `PendingOutstanding`: Pending only with an outstanding start request.
* `RestartSucceeds`: The request made in Releasing returns success.

## Theorems

* `pending_of_effect`: How a call ends in Pending.
* `pendingOutstanding_step`: A call that restarts with success keeps it.
* `restart_strands`: A call that restarts without success breaks it.
* `pendingOutstanding_iff`: The exact condition, over whole runs.
-/

namespace Victara

namespace Agps

open AgpsStateMachine StepSystem

/-- `outstanding` says that the last start request returned success, and that
    no GRANTED or RELEASED has answered it. The code keeps no such flag. -/
structure DSRun where
  ds_nif : AgpsStateMachine
  outstanding : Bool

/-- A start request made in this call returns success. -/
def DSCall.succeeds : DSCall → Bool
  | .call (.subscribeRsrc _ env) => env.openAndStartDataCall == LOC_API_ADAPTER_ERR_SUCCESS
  | .call (.unsubscribeRsrc _ env) => env.openAndStartDataCall == LOC_API_ADAPTER_ERR_SUCCESS
  | .call (.onRsrcEvent _ env) => env.openAndStartDataCall == LOC_API_ADAPTER_ERR_SUCCESS
  | _ => false

/-- The data call is connected, or disconnected. -/
def DSCall.answers : DSCall → Bool
  | .call (.onRsrcEvent .rsrcGranted _) => true
  | .call (.onRsrcEvent .rsrcReleased _) => true
  | _ => false

namespace DSRun

def init (peek : Subscriber → IPv6Addr) : DSRun := { ds_nif := newDS peek, outstanding := false }

/-- A request made in a call comes after the event the call is about. -/
def step (s : DSRun) (c : DSCall) : Option DSRun :=
  let m := stepDS s.ds_nif c
  some { ds_nif := m,
         outstanding := if Output.openAndStartDataCall ∈ m.out then c.succeeds
                        else s.outstanding && !c.answers }

end DSRun

def PendingOutstanding (s : DSRun) : Prop :=
  s.ds_nif.mStatePtr = .pending → s.outstanding = true

instance : DecidablePred PendingOutstanding := fun s =>
  inferInstanceAs (Decidable (s.ds_nif.mStatePtr = .pending → s.outstanding = true))

/-- When Releasing comes to its end with somebody active on the list, the data
    call it asks for can be started. Released stays where it is when its request
    fails, and so has no case. In Releasing what the request returns is not
    looked at. -/
def RestartSucceeds (s : DSRun) : DSCall → Prop
  | .call (.onRsrcEvent event env) =>
      s.ds_nif.mStatePtr = .releasing → event = .rsrcReleased ∨ event = .rsrcDenied →
        HasActive s.ds_nif.mSubscribers →
          env.openAndStartDataCall = LOC_API_ADAPTER_ERR_SUCCESS
  | _ => True

theorem start_not_mem_toldAll (m : AgpsStateMachine) (l : List Node) (status : AgpsRsrcStatus) :
    Output.openAndStartDataCall ∉ m.toldAll l status := by
  unfold toldAll
  rw [List.mem_flatMap]
  rintro ⟨nd, _, hmem⟩
  exact dataCall_not_mem_told m _ _ _ hmem

theorem start_not_mem_dismissMsgs (m : AgpsStateMachine) (nd : Node) :
    Output.openAndStartDataCall ∉ dismissMsgs m nd := by
  unfold dismissMsgs
  cases nd.subscriber with
  | ds id inactive => simp
  | wifi senderId ssid password inactive => simp
  | bit id v6 => exact start_not_mem_toldAll m _ _
  | atl id mode => exact start_not_mem_toldAll m _ _

theorem start_mem_startMsgs (env : Env) (m : AgpsStateMachine) :
    Output.openAndStartDataCall ∈ startMsgs env m := List.mem_cons_self

/-- A call ends in Pending because it found the machine there and was no
    answer, or because it asked for a data call, out of Released with success,
    or out of Releasing with any result. -/
theorem pending_of_effect {m : AgpsStateMachine} {c : DSCall} {s : AgpsState} {l : List Node}
    {os : List Output} (h : DSEffect m c s l os) (hs : s = .pending) :
    (Output.openAndStartDataCall ∉ os ∧ m.mStatePtr = .pending ∧ c.answers = false) ∨
    (Output.openAndStartDataCall ∈ os ∧ (c.succeeds = true ∨
      ∃ event env, c = .call (.onRsrcEvent event env) ∧ m.mStatePtr = .releasing ∧
        (event = .rsrcReleased ∨ event = .rsrcDenied) ∧ HasActive m.mSubscribers)) := by
  cases h with
  -- On the left are the outcomes that ask for nothing, which find Pending.
  | refused x env he => exact Or.inl ⟨dataCall_not_mem_told m _ _ _, hs, rfl⟩
  | requested x env hst =>
      refine Or.inr ⟨start_mem_startMsgs env _, Or.inl ?_⟩
      by_cases hok : env.openAndStartDataCall = 0
      · simp [DSCall.succeeds, hok, LOC_API_ADAPTER_ERR_SUCCESS]
      · rw [if_neg hok] at hs
        cases hs
  | waits x env hst => exact Or.inl ⟨List.not_mem_nil, hs, rfl⟩
  | unlisted x env hx => exact Or.inl ⟨List.not_mem_nil, hs, rfl⟩
  | dismissed x env nd l ns s' rs hst hnd hx hl hafter =>
      refine Or.inl ⟨?_, ?_, rfl⟩
      · rw [List.mem_append, not_or]
        refine ⟨start_not_mem_dismissMsgs m nd, ?_⟩
        simp [stopMsgs]
      · -- Of the ways an unsubscribe can end, only staying ends in Pending.
        cases hafter with
        | stays hne ha => exact hs
        | _ => cases hs
  -- Pending does not ignore the answers to a start request.
  | ignored event env hr =>
      refine Or.inl ⟨List.not_mem_nil, hs, ?_⟩
      rw [hs] at hr
      cases event with
      | rsrcGranted => cases hr
      | rsrcReleased => cases hr
      | _ => rfl
  -- The one way in without a look at what the request returned.
  | restarted event env hst hev ha =>
      refine Or.inr ⟨?_, Or.inr ⟨event, env, rfl, hst, hev, ha⟩⟩
      rw [List.mem_append]
      exact Or.inr (start_mem_startMsgs env _)
  | setAPN apn len => exact Or.inl ⟨List.not_mem_nil, hs, rfl⟩
  | setBearer bearer => exact Or.inl ⟨List.not_mem_nil, hs, rfl⟩
  | retried nd hnd => exact Or.inl ⟨by simp, hs, rfl⟩
  | noRetry hnd => exact Or.inl ⟨List.not_mem_nil, hs, rfl⟩
  | _ => cases hs

theorem stepDS_config (m : AgpsStateMachine) (c : DSCall) : SameConfig m (stepDS m c) := by
  cases c with
  | call c => exact step_config m c
  | retryCallback =>
      unfold stepDS retryCallback
      cases m.fresh.firstActive <;> exact ⟨rfl, rfl, rfl⟩

theorem pendingOutstanding_step {s t : DSRun} {c : DSCall} (hds : s.ds_nif.isDS = true)
    (hs : PendingOutstanding s) (hok : RestartSucceeds s c) (h : s.step c = some t) :
    PendingOutstanding t := by
  cases h
  intro hpend
  have heff := stepDS_effect s.ds_nif c hds
  rcases pending_of_effect heff hpend with ⟨hno, hbefore, hunanswered⟩ | ⟨hyes, hcause⟩
  · simp only [hno, if_false, hs hbefore, hunanswered, Bool.not_false, Bool.and_self]
  · simp only [hyes, if_true]
    rcases hcause with hsucc | ⟨event, env, rfl, hst, hev, ha⟩
    · exact hsucc
    · simp [DSCall.succeeds, hok hst hev ha]

/-- A restart that fails leaves the machine in Pending all the same. -/
theorem restart_strands {s : DSRun} {c : DSCall} (hds : s.ds_nif.isDS = true)
    (hfail : ¬ RestartSucceeds s c) : ∃ t, s.step c = some t ∧ ¬ PendingOutstanding t := by
  refine ⟨_, rfl, ?_⟩
  unfold RestartSucceeds at hfail
  split at hfail
  · rename_i event env
    simp only [Classical.not_imp] at hfail
    rcases hfail with ⟨hst, hev, ha, hret⟩
    intro hall
    have hreact : reactsDS s.ds_nif.mStatePtr event = true := by
      rw [hst]
      rcases hev with rfl | rfl <;> rfl
    have heff := stepDS_effect s.ds_nif (.call (.onRsrcEvent event env)) hds
    -- Of the outcomes of such an event only the restart fits.
    generalize hm' : stepDS s.ds_nif (.call (.onRsrcEvent event env)) = m' at heff hall
    generalize hst' : m'.mStatePtr = st' at heff
    generalize hl' : m'.mSubscribers = l' at heff
    generalize hout : m'.out = os at heff
    have hsame : s.ds_nif.fresh.mStatePtr = s.ds_nif.mStatePtr := rfl
    cases heff with
    | restarted _ _ _ _ _ =>
        have hmem : Output.openAndStartDataCall ∈ m'.out := by
          rw [hout, List.mem_append]
          exact Or.inr (start_mem_startMsgs env _)
        have hlive := hall (by rw [hst'])
        simp only [hmem, if_true, DSCall.succeeds, beq_iff_eq] at hlive
        exact hret hlive
    | ignored _ _ hr =>
        rw [hsame, hreact] at hr
        cases hr
    | connected _ hp =>
        rw [hsame, hst] at hp
        cases hp
    | denied _ _ hp _ =>
        rw [hsame, hst] at hp
        cases hp
    | dropped _ hp =>
        rw [hsame, hst] at hp
        cases hp
    | finished _ _ _ _ hna => exact hna ha
  · exact absurd trivial hfail

/-- On a DS machine Pending always means an outstanding start request in just
    the runs in which every restart out of Releasing succeeds. After one that
    fails there is a state in which the machine is Pending and nothing is asked
    for, so that the condition cannot be weaker. -/
theorem pendingOutstanding_iff (peek : Subscriber → IPv6Addr) (cs : List DSCall) :
    Throughout DSRun.step PendingOutstanding (DSRun.init peek) cs ↔
      Meets DSRun.step RestartSucceeds (DSRun.init peek) cs := by
  refine throughout_iff_meets (I := fun s => s.ds_nif.isDS = true ∧ PendingOutstanding s)
    (fun s hs => hs.2) ?_ (fun s c hs hno => restart_strands hs.1 hno) ⟨rfl, fun h => by cases h⟩
  rintro s c t ⟨hds, hs⟩ hok hstep
  refine ⟨?_, pendingOutstanding_step hds hs hok hstep⟩
  cases hstep
  exact (stepDS_config s.ds_nif c).isDS.trans hds

/-- Connection 2 is asked for while the data call of connection 1 is being
    stopped. That it cannot be started then goes unnoticed. -/
theorem restart_failure_strands :
    ¬ Throughout DSRun.step PendingOutstanding (DSRun.init fun _ => Vector.replicate 16 0)
      [.call (.subscribeRsrc (.ds 1 false) ⟨0, true⟩),
       .call (.onRsrcEvent .rsrcGranted ⟨0, true⟩),
       .call (.unsubscribeRsrc (.ds 1 false) ⟨0, true⟩),
       .call (.subscribeRsrc (.ds 2 false) ⟨0, true⟩),
       .call (.onRsrcEvent .rsrcReleased ⟨1, true⟩)] := by
  decide

end Agps

end Victara
