import Victara.Agps.Invariant

/-!
# The Data Connection a Machine Asks For

The requests of the servicer machine, followed by a bit that the machine does
not have: whether a connection is asked for or held. A request sets it, a
release clears it, and so do the two answers after which there is nothing
left to release, DENIED in Pending and RELEASED in Acquired.

`sendRsrcRequest` sends only when the presence of an active subscriber fits
the request, and looks at the list the handler has just changed. That the
guard never swallows a request, and that nothing is asked for twice, comes
down to the bit being readable from the state.

## Main definitions

* `AgpsState.holds`: The bit as the state tells it.
* `clears`: The answers that clear the bit.
* `heldAfter`: The bit after the servicer got a request.
* `Disciplined`: Requests sent only while the bit is as it should be.
* `Held`: A machine together with the bit.
* `during`: What is left of the bit when a call has been made and has sent
  nothing yet.

## Theorems

* `afterUnsubscribe_disciplined`: The unsubscribe that empties a list of its
  active subscribers releases, and only that.
* `effect_disciplined`: One call sends in order and leaves the bit to the state.
* `Held.watch_machine`: The machine is the one that runs without the bit.
* `Held.watch_holds`: The bit is that of the state after every run.
* `data_conn_discipline`: The discipline of the servicer machine.
-/

namespace Victara

namespace Agps

open AgpsStateMachine

/-- Pending and Acquired have a connection asked for or held. -/
def AgpsState.holds : AgpsState → Bool
  | .pending | .acquired => true
  | .released | .releasing => false

theorem holds_iff (s : AgpsState) : s.holds = true ↔ s = .pending ∨ s = .acquired := by
  cases s <;> decide

/-- The connection is denied, or taken away: there is nothing to release. -/
def clears (s : AgpsState) : Call → Bool
  | .onRsrcEvent .rsrcDenied _ => s = .pending
  | .onRsrcEvent .rsrcReleased _ => s = .acquired
  | _ => false

/-- The bit after the servicer got a request. -/
def heldAfter (_held : Bool) (action : AGpsStatusValue) : Bool := action = .requestAgpsDataConn

/-- A request finds the bit cleared, a release finds it set. -/
def Disciplined : Bool → List AGpsStatusValue → Prop
  | _, [] => True
  | held, action :: rs =>
      held = decide (action = .releaseAgpsDataConn) ∧ Disciplined (heldAfter held action) rs

instance : (held : Bool) → (rs : List AGpsStatusValue) → Decidable (Disciplined held rs)
  | _, [] => isTrue trivial
  | held, action :: rs =>
      have := instDecidableDisciplined (heldAfter held action) rs
      inferInstanceAs (Decidable (_ ∧ _))

/-- A machine and its bit. -/
structure Held where
  machine : AgpsStateMachine
  held : Bool

namespace Held

/-- What is left of the bit when a call has been made and has sent nothing
    yet. -/
def during (w : Held) (c : Call) : Bool := w.held && !clears w.machine.mStatePtr c

def step (w : Held) (c : Call) : Held where
  machine := Agps.step w.machine c
  held := (requests (Agps.step w.machine c).out).foldl heldAfter (w.during c)

def watch (w : Held) (cs : List Call) : Held := cs.foldl step w

end Held

/-- The unsubscribe that empties a list of its active subscribers releases,
    and only that. -/
theorem afterUnsubscribe_disciplined {s s' : AgpsState} {l : List Node}
    {rs : List AGpsStatusValue} (hs : s ≠ .released) (h : AfterUnsubscribe s l s' rs) :
    Disciplined s.holds rs ∧ rs.foldl heldAfter s.holds = s'.holds := by
  cases h with
  | emptied hl hne => cases s <;> first | contradiction | decide
  | finished hl heq =>
      rw [heq]
      decide
  | idle hl ha hne => cases s <;> first | contradiction | decide
  | stays hl ha => exact ⟨trivial, rfl⟩

/-- One call of a consistent machine: what it sends fits the state it was in,
    and the bit comes out as the new state has it. -/
theorem effect_disciplined {m : AgpsStateMachine} {c : Call} {o : Outcome} (h : Effect m c o)
    (hm : Consistent m.mStatePtr m.mSubscribers) :
    Disciplined (m.mStatePtr.holds && !clears m.mStatePtr c) o.requests ∧
      o.requests.foldl heldAfter (m.mStatePtr.holds && !clears m.mStatePtr c) =
        o.state.holds := by
  cases h with
  | requested x env hs ha =>
      rw [hs]
      exact ⟨⟨rfl, trivial⟩, rfl⟩
  | requestedNothing x env hs ha =>
      -- The first subscriber of an empty list is active.
      exact absurd (hasActive_addSubscriber_nil x (hm.released_iff.mp hs)) ha
  | tolerated x env nd hnd hs =>
      rw [hm.released_iff.mp hs] at hnd
      exact absurd hnd List.not_mem_nil
  | dismissed x env nd l ns s rs hnd hx hs hd hnext =>
      -- An unsubscribe is no answer, so the bit is as the state has it.
      simp only [clears, Bool.not_false, Bool.and_true]
      exact afterUnsubscribe_disciplined hs hnext
  | granted env hs =>
      rw [hs]
      exact ⟨trivial, rfl⟩
  | closed event env hs =>
      -- The two answers that clear the bit, and bring Released about.
      rcases hs with ⟨hs, rfl⟩ | ⟨hs, rfl⟩
      · rw [hs]
        exact ⟨trivial, rfl⟩
      · rw [hs]
        exact ⟨trivial, rfl⟩
  | renewed event env hs hev ha =>
      rw [hs]
      exact ⟨⟨rfl, trivial⟩, rfl⟩
  | completed event env hs hev ha =>
      rw [hs]
      exact ⟨trivial, rfl⟩
  | ignored event env hr =>
      -- What a state does not react to does not clear the bit.
      have hkeep : (m.mStatePtr.holds && !clears m.mStatePtr (.onRsrcEvent event env)) =
          m.mStatePtr.holds := by
        cases hst : m.mStatePtr <;> cases event <;> rw [hst] at hr <;> first | rfl | cases hr
      rw [hkeep]
      exact ⟨trivial, rfl⟩
  | grantedAtOnce x env he hs =>
      rw [hs]
      exact ⟨trivial, rfl⟩
  | refused x env he hl => exact ⟨trivial, Bool.and_true _⟩
  | queued x env he hs => exact ⟨trivial, Bool.and_true _⟩
  | unknown x env hx => exact ⟨trivial, Bool.and_true _⟩
  | setAPN apn len => exact ⟨trivial, Bool.and_true _⟩
  | setBearer bearer => exact ⟨trivial, Bool.and_true _⟩

/-- The machine is the one that runs without the bit. -/
theorem Held.watch_machine (w : Held) (cs : List Call) :
    (w.watch cs).machine = run w.machine cs := by
  induction cs generalizing w with
  | nil => rfl
  | cons c cs ih => exact ih (w.step c)

/-- The bit can be read from the state after every run. -/
theorem Held.watch_holds (w : Held) (hds : w.machine.isDS = false)
    (hm : Consistent w.machine.mStatePtr w.machine.mSubscribers)
    (hw : w.held = w.machine.mStatePtr.holds) (cs : List Call) :
    (w.watch cs).held = (w.watch cs).machine.mStatePtr.holds := by
  induction cs generalizing w with
  | nil => exact hw
  | cons c cs ih =>
      refine ih (w.step c) ((step_config w.machine c).isDS.trans hds)
        (step_consistent hds hm c) ?_
      have heff := (effect_disciplined (step_effect w.machine c hds) hm).2
      show (requests (Agps.step w.machine c).out).foldl heldAfter (w.during c) = _
      rw [Held.during, hw]
      exact heff

/-- In every run of a servicer machine, with any mix of subscribers: a request
    is sent only while no connection is asked for or held, a release only while
    one is, and after every call one is iff the state is Pending or Acquired.
    The last part is what the induction needs, and is why the guard in
    `sendRsrcRequest` never stops a request. -/
theorem data_conn_discipline (peek : Subscriber → IPv6Addr) (type : AGpsExtType)
    (enforce : Bool) (cs : List Call) (c : Call) :
    let w := (Held.mk (new peek type enforce) false).watch cs
    Disciplined (w.during c) (requests (w.step c).machine.out) ∧
      (w.held = true ↔
        w.machine.mStatePtr = .pending ∨ w.machine.mStatePtr = .acquired) := by
  intro w
  have hnew := consistent_new peek type enforce
  have hrun : w.machine = run (new peek type enforce) cs := Held.watch_machine _ cs
  have hds : w.machine.isDS = false := by
    rw [hrun]
    exact (run_config _ cs).isDS
  have hcons : Consistent w.machine.mStatePtr w.machine.mSubscribers := by
    rw [hrun]
    exact run_consistent rfl hnew cs
  have hheld : w.held = w.machine.mStatePtr.holds := Held.watch_holds _ rfl hnew rfl cs
  constructor
  · rw [Held.during, hheld]
    exact (effect_disciplined (step_effect w.machine c hds) hcons).1
  · rw [hheld]
    exact holds_iff _

end Agps

end Victara
