import Victara.Agps.Emits

/-!
# Who Is Notified, and Who Stays

`AgpsStateMachine::notifySubscribers` as a whole. The form that deletes is a
loop around a search that removes what it finds, and it is the predicate of the
search that notifies. So the loop ends, and deletes whoever was notified and
nobody else, because the predicate is true exactly when it has notified: when
the notification is for the subscriber, and its status is one that the
subscriber takes.

`Sends.lean` has this for the four statuses that subscribers take. Here are all
of them: with another status the predicate is false, for every subscriber.

## Main definitions

* `takes`: A subscriber is notified.
* `AgpsStateMachine.toldEach`: What comes of notifying these, one after the
  other.
* `ExactPartition`: What the two forms do to the list.

## Theorems

* `onStatus_isSome`: The statuses that a subscriber takes.
* `notifyRsrcStatus_of_not_delivered`: Of a status that is not in the `switch`
  nothing comes.
* `notifySubscriber_spec`: The predicate of the search.
* `takes_congr`: Who takes a notification does not depend on what was sent so
  far.
* `foldl_takes_emits`: Notifying whoever takes it, one after the other.
* `notifySubscribers_partition`: Both forms, for every notification.
-/

namespace Victara

namespace Agps

open AgpsStateMachine

/-- The notification is for the subscriber, and its `switch` has the status. -/
def AgpsStateMachine.takes (m : AgpsStateMachine) (n : Notification) (nd : Node) : Bool :=
  nd.subscriber.forMe m.peek n && (m.onStatus nd.subscriber n.rsrcStatus).isSome

/-- What comes of notifying these, one after the other. -/
def AgpsStateMachine.toldEach (m : AgpsStateMachine) (n : Notification) (l : List Node) :
    List Output :=
  l.flatMap fun nd => m.told (some nd.addr) nd.subscriber n.rsrcStatus

/-- With `postNotifyDelete` the loop ends, whoever takes the notification is
    told once, in list order, and leaves, and the others stay in their order.
    Without, it is handed to everybody once, whoever takes it is told once, and
    all stay. -/
structure ExactPartition (m : AgpsStateMachine) (n : Notification) : Prop where
  delete : n.postNotifyDelete = true →
    (∃ t, Visit.Drains (notifySubscriber n) m m.mSubscribers t
        (m.mSubscribers.filter fun nd => !m.takes n nd) ∧
      m.notifySubscribers n =
        { t with mSubscribers := m.mSubscribers.filter fun nd => !m.takes n nd }) ∧
    (m.notifySubscribers n).out = m.out ++ m.toldEach n (m.mSubscribers.filter (m.takes n))
  keep : n.postNotifyDelete = false →
    Visit.handed (notifySubscriber n) m m.mSubscribers = m.mSubscribers ∧
    (m.notifySubscribers n).mSubscribers = m.mSubscribers ∧
    (m.notifySubscribers n).out = m.out ++ m.toldEach n (m.mSubscribers.filter (m.takes n))

/-- Each of the four classes has the four statuses in its `switch`. -/
theorem onStatus_isSome (m : AgpsStateMachine) (s : Subscriber) (status : AgpsRsrcStatus) :
    (m.onStatus s status).isSome = status.isDelivered := by
  cases s <;> cases status <;> rfl

/-- Of a status that is not in the `switch` nothing comes. -/
theorem notifyRsrcStatus_of_not_delivered (m : AgpsStateMachine) (addr : Option Nat)
    (s : Subscriber) (n : Notification) (hn : n.rsrcStatus.isDelivered = false) :
    m.notifyRsrcStatus addr s n = (m, false) := by
  have hnone : (m.emit (.notified addr s n.rsrcStatus)).onStatus s n.rsrcStatus = none := by
    rw [← Option.not_isSome_iff_eq_none, onStatus_isSome, hn]
    exact Bool.false_ne_true
  unfold notifyRsrcStatus
  rw [hnone]
  split <;> rfl

/-- Whoever takes a notification is notified, and it is only then that the
    predicate of the search is true. -/
theorem notifySubscriber_spec (m : AgpsStateMachine) (n : Notification) (nd : Node) :
    notifySubscriber n m nd =
      (if m.takes n nd then (m.notifyRsrcStatus (some nd.addr) nd.subscriber n).1 else m,
        m.takes n nd && n.postNotifyDelete) := by
  unfold takes
  rw [onStatus_isSome]
  cases hn : n.rsrcStatus.isDelivered with
  | true =>
      rw [Bool.and_true]
      exact notifySubscriber_eq m.peek n hn m nd rfl
  | false =>
      rw [Bool.and_false, Bool.false_and, if_neg Bool.false_ne_true]
      unfold notifySubscriber
      rw [notifyRsrcStatus_of_not_delivered m _ _ n hn]
      rfl

/-- Who takes it does not depend on what was sent so far. -/
theorem takes_congr {m m' : AgpsStateMachine} (hpeek : m'.peek = m.peek) (n : Notification) :
    m'.takes n = m.takes n := by
  funext nd
  unfold takes
  rw [onStatus_isSome, onStatus_isSome, hpeek]

theorem takes_delivered {m : AgpsStateMachine} {n : Notification} {nd : Node}
    (h : m.takes n nd = true) :
    n.rsrcStatus.isDelivered = true ∧ nd.subscriber.forMe m.peek n = true := by
  unfold takes at h
  rw [onStatus_isSome, Bool.and_eq_true] at h
  exact h.symm

/-- Notifying those who take it, one after the other. -/
theorem foldl_takes_emits (n : Notification) (m : AgpsStateMachine) :
    Emits m ((m.mSubscribers.filter (m.takes n)).foldl
        (fun m nd => (m.notifyRsrcStatus (some nd.addr) nd.subscriber n).1) m)
      (m.toldEach n (m.mSubscribers.filter (m.takes n))) := by
  cases hn : n.rsrcStatus.isDelivered with
  | true =>
      exact foldl_notify_emits n hn _ m fun nd hnd => (takes_delivered (List.mem_filter.mp hnd).2).2
  | false =>
      have hempty : m.mSubscribers.filter (m.takes n) = [] := by
        refine List.filter_eq_nil_iff.mpr fun nd _ htakes => ?_
        rw [(takes_delivered htakes).1] at hn
        cases hn
      rw [hempty]
      exact Emits.refl m

theorem takes_keeps {m m₁ : AgpsStateMachine} (n : Notification) (nd : Node)
    (hm₁ : m₁.peek = m.peek) (htakes : m.takes n nd = true) :
    (m₁.notifyRsrcStatus (some nd.addr) nd.subscriber n).1.peek = m.peek := by
  rcases takes_delivered htakes with ⟨hn, hme⟩
  exact notifySubscriber_keeps m.peek n hn m₁ nd hm₁ hme

/-- Both forms, for every list of subscribers and every notification: those who
    are told are those whom the notification is for and who take its status, and
    with the form that deletes they are the ones who go, all of them and nobody
    else, the others staying in their order. -/
theorem notifySubscribers_partition (m : AgpsStateMachine) (n : Notification) :
    ExactPartition m n := by
  have hemits := foldl_takes_emits n m
  refine ⟨fun hdel => ?_, fun hkeep => ?_⟩
  -- Deleting, the predicate is true exactly of who takes it.
  · have hacts : Visit.ActsOn (fun m₁ => m₁.peek = m.peek) (notifySubscriber n) (m.takes n)
        (fun m₁ nd => (m₁.notifyRsrcStatus (some nd.addr) nd.subscriber n).1) := by
      refine ⟨fun m₁ nd hm₁ => ?_, fun m₁ nd hm₁ => takes_keeps n nd hm₁⟩
      rw [notifySubscriber_spec, takes_congr hm₁, hdel, Bool.and_true]
      cases m.takes n nd <;> rfl
    have heq : m.notifySubscribers n =
        { (m.mSubscribers.filter (m.takes n)).foldl
            (fun m nd => (m.notifyRsrcStatus (some nd.addr) nd.subscriber n).1) m with
          mSubscribers := m.mSubscribers.filter fun nd => !m.takes n nd } := by
      rw [notifySubscribers, if_pos hdel]
      simp only [Visit.drain_of_actsOn hacts _ m rfl _ (Nat.lt_succ_self _)]
    refine ⟨⟨_, Visit.drains_of_actsOn hacts m rfl _, heq⟩, ?_⟩
    rw [heq]
    exact hemits.out
  -- Otherwise it is never true, and the search goes through all of them.
  · have hstop (m₁ : AgpsStateMachine) (nd : Node) : (notifySubscriber n m₁ nd).2 = false := by
      rw [notifySubscriber_spec, hkeep, Bool.and_false]
    have heq : m.notifySubscribers n = (m.mSubscribers.filter (m.takes n)).foldl
        (fun m nd => (m.notifyRsrcStatus (some nd.addr) nd.subscriber n).1) m := by
      rw [notifySubscribers, hkeep, if_neg Bool.false_ne_true,
        linkedListSearch_never (I := fun m₁ => m₁.peek = m.peek) (p := m.takes n)
          (g := fun m₁ nd => (m₁.notifyRsrcStatus (some nd.addr) nd.subscriber n).1)
          (fun m₁ nd hm₁ => ?_) (fun m₁ nd hm₁ => takes_keeps n nd hm₁) m rfl]
      rw [notifySubscriber_spec, takes_congr hm₁, hkeep, Bool.and_false]
    refine ⟨Visit.handed_of_never hstop m _, ?_, ?_⟩
    · rw [heq, hemits.sends.mSubscribers]
    · rw [heq, hemits.out]

end Agps

end Victara
