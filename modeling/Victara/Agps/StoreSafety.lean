import Victara.Agps.Notify
import Victara.Agps.Store
import Victara.Lib.StepSystem

/-!
# Reading a Subscriber That Has Been Deleted

The loop in `notifySubscribers` deletes a subscriber and searches again with
the same notification. When that is addressed to a subscriber on the list, as
by `unsubscribeRsrc` in any state but Released, the search after its deletion
still follows the pointer to it, with the first subscriber that is left. Only
when nobody is left is there no one to ask, and nothing is read.

Everything else reads only what is on the list, and the list only has objects
that are there. So the machine over the store does what the machine with its
subscribers by value does, for as long as nothing deleted is read.

The proof goes up through the code: a search over the store finds what it finds
by value, the loop of searches leaves what it leaves by value, a handler does
what it does by value, and so does a call. At each of these levels there is a
second statement, for a receiver that has been deleted: whoever is asked next
looks at it, and there is no result. So a call reads something deleted just if
the loop deletes its receiver and somebody is left, and that can be told from
the list before the call.

## Main definitions

* `LastOfEquals`: Nobody is left when this subscriber is deleted.
* `Refines`: A machine over a store, and the same by value.
* `AgpsStateMachine.RsrcEvent.ptr`: The event with the address of the listed
  subscriber it is about.
* `EventLeavesNobody`: The event is about somebody listed.
* `LeavesNobody`: The calls that read nothing deleted.
* `ReadsNothingDeleted`: The calls that read nothing deleted, with the list read
  through the store.

## Theorems

* `objects_delete`: Deleting one object leaves the others.
* `visitM_notifySubscriberAt`: A search finds through the store what it finds by
  value.
* `drainAt_broadcast`, `drainAt_addressed`: The loop over the store.
* `lastOfEquals_middle`: Who is last with everybody before it equal stays so
  when one of those is gone.
* `lastOfEquals_first`: The one that is found first is last with everybody
  before it equal just if it is alone.
* `visitM_deleted`: A search over somebody, for a receiver that is not there.
* `read_deleted`: Nothing can be read through the pointer to a deleted receiver.
* `of_list`: Nothing but the list is compared with the store.
* `of_drain`: The loop leaves some of the list, and its objects in the store.
* `notifySubscribers_addressed`: The UNSUBSCRIBE of somebody listed.
* `markInactive`: The object is written to where it is.
* `dispatch_of_state`: What a handler makes of the machine, the dispatcher keeps
  with its state.
* `dispatch_refines`: An event.
* `dispatch_reads_deleted`: Somebody is left on the list, who asks whether the
  notification is for it by looking at the one who is gone.
* `step_refines`, `step_reads_deleted`: A call.
* `exec_refines`: A run that reads nothing deleted is the run by value.
* `reads_nothing_deleted_iff`: The runs in which nothing deleted is read.
-/

namespace Victara

namespace Agps

open AgpsStateMachine StepSystem

/-! ## The loop -/

theorem nodes_addrs {σ : Store} {l : List Node}
    (h : ∀ nd ∈ l, σ nd.addr = some nd.subscriber) : nodes σ (addrs l) = some l := by
  induction l with
  | nil => rfl
  | cons nd l ih =>
      have hrest := ih fun e he => h e (List.mem_cons_of_mem nd he)
      rw [addrs, List.map_cons, nodes, h nd List.mem_cons_self, Option.bind_some]
      rw [addrs] at hrest
      rw [hrest, Option.map_some]

/-- Deleting one object leaves the others. -/
theorem objects_delete {σ : Store} {e : Node} {pre post : List Node}
    (hnodup : (addrs (pre ++ e :: post)).Nodup)
    (h : ∀ nd ∈ pre ++ e :: post, σ nd.addr = some nd.subscriber) :
    ∀ nd ∈ pre ++ post, (σ.delete e.addr) nd.addr = some nd.subscriber := by
  intro nd hnd
  have hin : nd ∈ pre ++ e :: post :=
    ((List.Sublist.refl pre).append (List.sublist_cons_self e post)).subset hnd
  have hne : nd.addr ≠ e.addr := by
    rw [addrs, List.map_append, List.map_cons] at hnodup
    have hnot := (List.nodup_cons.mp (List.perm_middle.nodup_iff.mp hnodup)).1
    rw [← List.map_append] at hnot
    intro heq
    exact hnot (heq ▸ List.mem_map_of_mem hnd)
  rw [Store.delete, Function.update_of_ne hne]
  exact h nd hin

/-- A search finds through the store what it finds by value. -/
theorem visitM_notifySubscriberAt {σ : Store} {n : PtrNotification} {n' : Notification}
    {l : List Node} (hread : n.read σ = some n') (h : ∀ nd ∈ l, σ nd.addr = some nd.subscriber)
    (m : AgpsStateMachine) :
    Visit.visitM (notifySubscriberAt σ n) m (addrs l) =
      some ((Visit.visit (notifySubscriber n') m l).1,
        (Visit.visit (notifySubscriber n') m l).2.1.map Node.addr,
        addrs (Visit.visit (notifySubscriber n') m l).2.2) := by
  refine Visit.visitM_map (fun nd hnd m => ?_) m
  rw [notifySubscriberAt, h nd hnd, Option.bind_some, hread, Option.map_some]

/-- With a broadcast, the loop does through the store what it does by value. -/
theorem drainAt_broadcast {n : PtrNotification} {n' : Notification}
    (hread : ∀ σ, n.read σ = some n') (k : Nat) (m : AgpsStateMachine) (σ : Store) (l : List Node)
    (hnodup : (addrs l).Nodup) (h : ∀ nd ∈ l, σ nd.addr = some nd.subscriber) :
    ∃ σ', drainAt n k m σ (addrs l) = some ((Visit.drain (notifySubscriber n') k m l).1, σ',
        addrs (Visit.drain (notifySubscriber n') k m l).2) ∧
      ∀ nd ∈ (Visit.drain (notifySubscriber n') k m l).2, σ' nd.addr = some nd.subscriber := by
  induction k generalizing m σ l with
  | zero => exact ⟨σ, rfl, h⟩
  | succ k ih =>
      rw [drainAt, visitM_notifySubscriberAt (hread σ) h, Option.bind_some]
      rcases hvisit : Visit.visit (notifySubscriber n') m l with ⟨m', found, l'⟩
      cases found with
      | some e =>
          -- What is found is deleted, and the objects of the others are left.
          rcases Visit.visit_found hvisit with ⟨pre, post, rfl, rfl⟩
          simp only [Visit.drain, hvisit, Option.map_some]
          refine ih m' (σ.delete e.addr) (pre ++ post) ?_ (objects_delete hnodup h)
          exact hnodup.sublist
            (((List.Sublist.refl pre).append (List.sublist_cons_self e post)).map Node.addr)
      | none =>
          cases Visit.visit_none hvisit
          simp only [Visit.drain, hvisit, Option.map_none]
          exact ⟨σ, rfl, h⟩

/-- The subscriber is the last on the list, and those before it equal it, so
    that they are deleted first. -/
def LastOfEquals (peek : Subscriber → IPv6Addr) (l : List Node) (nd : Node) : Prop :=
  l.getLast? = some nd ∧ ∀ e ∈ l, e.subscriber.equals peek nd.subscriber = true

instance (peek : Subscriber → IPv6Addr) (l : List Node) (nd : Node) :
    Decidable (LastOfEquals peek l nd) :=
  inferInstanceAs (Decidable (_ ∧ ∀ e ∈ l, _))

/-- Who is last with everybody before it equal stays so when one of those is
    gone. -/
theorem lastOfEquals_middle {peek : Subscriber → IPv6Addr} {pre post : List Node} {e nd : Node}
    (he : e.subscriber.equals peek nd.subscriber = true) (hpost : post ≠ []) :
    LastOfEquals peek (pre ++ e :: post) nd ↔ LastOfEquals peek (pre ++ post) nd := by
  have hlast : (pre ++ e :: post).getLast? = (pre ++ post).getLast? := by
    rw [List.getLast?_append, List.getLast?_append, List.getLast?_cons]
    cases post with
    | nil => exact absurd rfl hpost
    | cons x post => simp only [List.getLast?_cons, Option.getD_some]
  have hall : (∀ x ∈ pre ++ e :: post, x.subscriber.equals peek nd.subscriber = true) ↔
      ∀ x ∈ pre ++ post, x.subscriber.equals peek nd.subscriber = true := by
    simp only [List.forall_mem_append, List.forall_mem_cons, he, true_and]
  rw [LastOfEquals, LastOfEquals, hlast, hall]

/-- The one that is found first is last with everybody before it equal just if
    it is alone. -/
theorem lastOfEquals_first {peek : Subscriber → IPv6Addr} {pre post : List Node} {nd : Node}
    (hnodup : (addrs (pre ++ nd :: post)).Nodup)
    (hpre : ∀ x ∈ pre, ¬ x.subscriber.equals peek nd.subscriber = true) :
    LastOfEquals peek (pre ++ nd :: post) nd ↔ pre ++ post = [] := by
  constructor
  · intro h
    have hnil : pre = [] := by
      refine List.eq_nil_iff_forall_not_mem.mpr fun x hx => ?_
      exact hpre x hx (h.2 x (List.mem_append_left _ hx))
    subst hnil
    cases post with
    | nil => rfl
    | cons x post =>
        -- The last of the others would be this one, whose address is not among theirs.
        have hlast := h.1
        rw [List.nil_append, List.getLast?_cons_cons] at hlast
        have hmem := List.mem_map_of_mem (f := Node.addr) (List.mem_of_getLast? hlast)
        exact absurd hmem (List.nodup_cons.mp hnodup).1
  · intro h
    rcases List.append_eq_nil_iff.mp h with ⟨rfl, rfl⟩
    refine ⟨rfl, fun x hx => ?_⟩
    rw [List.mem_singleton.mp hx]
    exact Subscriber.equals_self peek nd.subscriber

/-- A search over somebody, for a receiver that is not there. -/
theorem visitM_deleted {σ : Store} {n : PtrNotification} (hread : n.read σ = none)
    (m : AgpsStateMachine) (a : Nat) (l : List Nat) :
    Visit.visitM (notifySubscriberAt σ n) m (a :: l) = none := by
  have hask : notifySubscriberAt σ n m a = none := by
    rw [notifySubscriberAt, hread]
    cases σ a <;> rfl
  rw [Visit.visitM, hask, Option.bind_none]

/-- Nothing can be read through the pointer to a deleted receiver. -/
theorem read_deleted (σ : Store) (a : Nat) :
    PtrNotification.read (σ.delete a) (.addressed a .rsrcUnsubscribe true) = none := by
  simp only [PtrNotification.read, PtrNotification.addressed, Store.delete, Function.update_self,
    Option.map_none]

theorem drainAt_nil (n : PtrNotification) (k : Nat) (m : AgpsStateMachine) (σ : Store) :
    drainAt n k m σ [] = some (m, σ, []) := by
  cases k <;> rfl

theorem drain_nil (n : Notification) (k : Nat) (m : AgpsStateMachine) :
    Visit.drain (notifySubscriber n) k m [] = (m, []) := by
  cases k <;> rfl

/-- The UNSUBSCRIBE of a subscriber on the list. The loop does through the
    store what it does by value if nobody is left when that one is deleted, and
    otherwise reads it once more. -/
theorem drainAt_addressed {peek : Subscriber → IPv6Addr} (nd : Node) {n : Notification}
    (hn : n = .addressed nd.subscriber .rsrcUnsubscribe true) (k : Nat) (m : AgpsStateMachine)
    (hm : m.peek = peek) (σ : Store) (l : List Node) (hk : l.length < k) (hnd : nd ∈ l)
    (hnodup : (addrs l).Nodup) (h : ∀ e ∈ l, σ e.addr = some e.subscriber) :
    (LastOfEquals peek l nd →
      (Visit.drain (notifySubscriber n) k m l).2 = [] ∧
      ∃ σ', drainAt (.addressed nd.addr .rsrcUnsubscribe true) k m σ (addrs l) =
        some ((Visit.drain (notifySubscriber n) k m l).1, σ', [])) ∧
    (¬ LastOfEquals peek l nd →
      drainAt (.addressed nd.addr .rsrcUnsubscribe true) k m σ (addrs l) = none) := by
  induction k generalizing m σ l with
  | zero => omega
  | succ k ih =>
      have hread : PtrNotification.read σ (.addressed nd.addr .rsrcUnsubscribe true) = some n := by
        rw [hn]
        exact congrArg (Option.map _) (h nd hnd)
      have hacts := notifySubscriber_actsOn peek n (by rw [hn]; rfl) (by rw [hn]; rfl)
      have hme (e : Node) : e.subscriber.forMe peek n = e.subscriber.equals peek nd.subscriber := by
        rw [hn]
        rfl
      have hself : nd.subscriber.forMe peek n = true := by
        rw [hme]
        exact Subscriber.equals_self peek nd.subscriber
      -- The subscriber itself is somebody to find.
      rcases Visit.visit_stops_at hacts hm hnd hself with ⟨pre, e, post, rfl, he, hpass, hvisit⟩
      have hm' := hacts.keeps m e hm he
      generalize (m.notifyRsrcStatus (some e.addr) e.subscriber n).1 = m' at hvisit hm'
      rw [drainAt, visitM_notifySubscriberAt hread h, Option.bind_some, Visit.drain, hvisit]
      dsimp only [Option.map_some]
      rw [List.length_append, List.length_cons] at hk
      have hrest := objects_delete hnodup h
      by_cases hsame : e = nd
      · subst hsame
        rw [lastOfEquals_first hnodup fun x hx => by rw [← hme]; exact hpass x hx]
        cases hleft : pre ++ post with
        | nil =>
            rw [drain_nil]
            exact ⟨fun _ => ⟨rfl, _, drainAt_nil _ k m' _⟩, fun hno => absurd rfl hno⟩
        | cons x rest =>
            refine ⟨fun hnil => absurd hnil (List.cons_ne_nil x rest), fun _ => ?_⟩
            have hlen := congrArg List.length hleft
            rw [List.length_append, List.length_cons] at hlen
            rcases Nat.exists_eq_succ_of_ne_zero (n := k) (by omega) with ⟨j, rfl⟩
            -- The search goes on, and asks for whom the notification is.
            rw [drainAt, addrs, List.map_cons, visitM_deleted (read_deleted σ e.addr),
              Option.bind_none]
      · rw [hme] at he
        have hpost : nd ∈ post := by
          rcases List.mem_append.mp hnd with hin | hin
          · exact absurd hself (hpass nd hin)
          · exact (List.mem_cons.mp hin).resolve_left (Ne.symm hsame)
        rw [lastOfEquals_middle he (List.ne_nil_of_mem hpost)]
        refine ih m' hm' (σ.delete e.addr) (pre ++ post) ?_ (List.mem_append_right _ hpost) ?_ hrest
        · rw [List.length_append]
          omega
        · exact hnodup.sublist
            (((List.Sublist.refl pre).append (List.sublist_cons_self e post)).map Node.addr)

/-! ## By value and in the store -/

/-- `m` is the machine `s` with its list by value. Every address on the list has
    its object in the store, and no two entries have the same one, so that what
    is written to an object changes one entry. `rest` is everything that does
    not concern the list. -/
structure Refines (s : StoreMachine) (m : AgpsStateMachine) : Prop where
  rest : { s.rest with mSubscribers := [] } = { m with mSubscribers := [] }
  list : s.mSubscribers = addrs m.mSubscribers
  objects : ∀ nd ∈ m.mSubscribers, s.store nd.addr = some nd.subscriber
  addressed : Addressed m.mSubscribers m.nextAddr

namespace Refines

variable {s : StoreMachine} {m : AgpsStateMachine}

/-- Nothing but the list is compared with the store. -/
theorem of_list {m' : AgpsStateMachine} (h : Refines s m)
    (hlist : m'.mSubscribers = m.mSubscribers) (hnext : m'.nextAddr = m.nextAddr) :
    Refines { s with rest := m' } m' := by
  refine ⟨rfl, h.list.trans ?_, ?_, ?_⟩
  · rw [hlist]
  · rw [hlist]
    exact h.objects
  · rw [hlist, hnext]
    exact h.addressed

theorem mStatePtr (h : Refines s m) : s.rest.mStatePtr = m.mStatePtr := by
  have hfield := congrArg AgpsStateMachine.mStatePtr h.rest
  exact hfield

theorem isDS (h : Refines s m) : s.rest.isDS = m.isDS := by
  have hfield := congrArg AgpsStateMachine.isDS h.rest
  exact hfield

theorem mEnforceSingleSubscriber (h : Refines s m) :
    s.rest.mEnforceSingleSubscriber = m.mEnforceSingleSubscriber := by
  have hfield := congrArg AgpsStateMachine.mEnforceSingleSubscriber h.rest
  exact hfield

theorem nextAddr (h : Refines s m) : s.rest.nextAddr = m.nextAddr := by
  have hfield := congrArg AgpsStateMachine.nextAddr h.rest
  exact hfield

theorem load (h : Refines s m) : s.load = some m := by
  have hrest := congrArg (fun r => { r with mSubscribers := m.mSubscribers }) h.rest
  rw [StoreMachine.load, h.list, nodes_addrs h.objects, Option.map_some]
  exact congrArg some hrest

theorem hasSubscribers (h : Refines s m) : s.hasSubscribers = m.hasSubscribers := by
  rw [StoreMachine.hasSubscribers, AgpsStateMachine.hasSubscribers, h.list]
  cases m.mSubscribers <;> rfl

theorem hasActiveSubscribers (h : Refines s m) :
    s.hasActiveSubscribers = some m.hasActiveSubscribers := by
  rw [StoreMachine.hasActiveSubscribers, h.load, Option.map_some]

theorem withState (h : Refines s m) (state : AgpsState) :
    Refines (s.withState state) { m with mStatePtr := state } := by
  have hrest := congrArg (fun r : AgpsStateMachine => { r with mStatePtr := state }) h.rest
  exact ⟨hrest, h.list, h.objects, h.addressed⟩

theorem reading {α : Type} (h : Refines s m) (f : AgpsStateMachine → AgpsStateMachine × α)
    (hlist : (f m).1.mSubscribers = m.mSubscribers) (hnext : (f m).1.nextAddr = m.nextAddr) :
    ∃ t, s.reading f = some (t, (f m).2) ∧ Refines t (f m).1 := by
  refine ⟨_, ?_, h.of_list hlist hnext⟩
  rw [StoreMachine.reading, h.load, Option.map_some]

theorem sendRsrcRequest (h : Refines s m) (env : Env) (action : AGpsStatusValue) :
    ∃ t, s.sendRsrcRequest env action = some (t, (m.sendRsrcRequest env action).2) ∧
      Refines t (m.sendRsrcRequest env action).1 := by
  rcases sendRsrcRequest_sends env m action with ⟨rs, hsends⟩
  exact h.reading _ hsends.mSubscribers hsends.nextAddr

theorem notifyRsrcStatus (h : Refines s m) (addr : Option Nat) (x : Subscriber)
    (n : Notification) (hn : n.rsrcStatus.isDelivered = true) :
    ∃ t, s.notifyRsrcStatus addr x n = some t ∧ Refines t (m.notifyRsrcStatus addr x n).1 := by
  have hsame : (m.notifyRsrcStatus addr x n).1.mSubscribers = m.mSubscribers ∧
      (m.notifyRsrcStatus addr x n).1.nextAddr = m.nextAddr := by
    cases hme : x.forMe m.peek n with
    | true =>
        have hsends := (notifyRsrcStatus_sends m addr x n hn hme).2
        exact ⟨hsends.mSubscribers, hsends.nextAddr⟩
    | false =>
        rw [notifyRsrcStatus_not_forMe m addr x n hme]
        exact ⟨rfl, rfl⟩
  rcases h.reading (fun m => m.notifyRsrcStatus addr x n) hsame.1 hsame.2 with ⟨t, ht, hm⟩
  exact ⟨t, by rw [StoreMachine.notifyRsrcStatus, ht, Option.map_some], hm⟩

theorem notifySubscribers_nextAddr (m : AgpsStateMachine) (n : Notification)
    (hn : n.rsrcStatus.isDelivered = true) : (m.notifySubscribers n).nextAddr = m.nextAddr := by
  cases hdel : n.postNotifyDelete with
  | true => exact (notifySubscribers_delete m n hdel hn).nextAddr
  | false => exact (notifySubscribers_keep m n hdel hn).nextAddr

/-- The loop leaves some of the list, and its objects in the store. -/
theorem of_drain {n : Notification} (σ : Store) (h : Refines s m)
    (hdel : n.postNotifyDelete = true) (hn : n.rsrcStatus.isDelivered = true)
    (hσ : ∀ nd ∈ (m.notifySubscribers n).mSubscribers, σ nd.addr = some nd.subscriber) :
    Refines
      { rest := (Visit.drain (notifySubscriber n) (m.mSubscribers.length + 1) m m.mSubscribers).1
        mSubscribers := addrs (m.notifySubscribers n).mSubscribers, store := σ }
      (m.notifySubscribers n) := by
  have hsub : (m.notifySubscribers n).mSubscribers.Sublist m.mSubscribers := by
    rw [notifySubscribers, if_pos hdel]
    exact Visit.drain_sublist _ _ m m.mSubscribers
  refine ⟨?_, rfl, hσ, ?_⟩
  · rw [notifySubscribers, if_pos hdel]
  · rw [notifySubscribers_nextAddr m n hn]
    exact ⟨h.addressed.nodup.sublist (hsub.map Node.addr),
      fun nd hnd => h.addressed.lt nd (hsub.subset hnd)⟩

theorem notifySubscribers_broadcast (h : Refines s m) (group : GroupID) (status : AgpsRsrcStatus)
    (delete : Bool) (hn : status.isDelivered = true) :
    ∃ t, s.notifySubscribers (.broadcast group status delete) = some t ∧
      Refines t (m.notifySubscribers (.broadcast group status delete)) := by
  have hread (σ : Store) : PtrNotification.read σ (.broadcast group status delete) =
      some (.broadcast group status delete) := rfl
  unfold StoreMachine.notifySubscribers
  rw [h.load, Option.bind_some, h.list]
  cases delete with
  | true =>
      rcases drainAt_broadcast hread (m.mSubscribers.length + 1) m s.store m.mSubscribers
        h.addressed.nodup h.objects with ⟨σ, hdrain, hσ⟩
      have hlen : (addrs m.mSubscribers).length = m.mSubscribers.length := List.length_map _
      refine ⟨_, ?_, h.of_drain σ rfl hn hσ⟩
      rw [hlen]
      exact congrArg (Option.map _) hdrain
  | false =>
      have hsends := notifySubscribers_keep m (.broadcast group status false) rfl hn
      refine ⟨_, ?_, h.of_list hsends.mSubscribers hsends.nextAddr⟩
      rw [visitM_notifySubscriberAt (hread s.store) h.objects, h.list]
      rfl

/-- The UNSUBSCRIBE of somebody listed. -/
theorem notifySubscribers_addressed (h : Refines s m) {nd : Node} (hnd : nd ∈ m.mSubscribers) :
    (LastOfEquals m.peek m.mSubscribers nd →
      ∃ t, s.notifySubscribers (.addressed nd.addr .rsrcUnsubscribe true) = some t ∧
        Refines t (m.notifySubscribers (.addressed nd.subscriber .rsrcUnsubscribe true))) ∧
    (¬ LastOfEquals m.peek m.mSubscribers nd →
      s.notifySubscribers (.addressed nd.addr .rsrcUnsubscribe true) = none) := by
  have hdrain := drainAt_addressed nd rfl (m.mSubscribers.length + 1) m rfl s.store
    m.mSubscribers (Nat.lt_succ_self _) hnd h.addressed.nodup h.objects
  -- Both machines run the loop from the same list.
  have hcall : s.notifySubscribers (.addressed nd.addr .rsrcUnsubscribe true) =
      (drainAt (.addressed nd.addr .rsrcUnsubscribe true) (m.mSubscribers.length + 1) m s.store
        (addrs m.mSubscribers)).map fun r =>
          { rest := r.1, mSubscribers := r.2.2, store := r.2.1 } := by
    have hlen : (addrs m.mSubscribers).length = m.mSubscribers.length := List.length_map _
    unfold StoreMachine.notifySubscribers
    rw [h.load, Option.bind_some, h.list, hlen]
    rfl
  rw [hcall]
  constructor
  · intro hlast
    rcases hdrain.1 hlast with ⟨hnil, σ, hσ⟩
    rw [hσ, Option.map_some]
    have hempty : (m.notifySubscribers
        (.addressed nd.subscriber .rsrcUnsubscribe true)).mSubscribers = [] := hnil
    refine ⟨_, rfl, ?_⟩
    have hdone := h.of_drain (n := .addressed nd.subscriber .rsrcUnsubscribe true) σ rfl rfl
      (by rw [hempty]; exact fun e he => absurd he List.not_mem_nil)
    rwa [hempty] at hdone
  · intro hno
    rw [hdrain.2 hno, Option.map_none]

theorem addSubscriber (h : Refines s m) (x : Subscriber) :
    ∃ t, s.addSubscriber x = some t ∧ Refines t (m.addSubscriber x) := by
  have haddr := addSubscriber_addressed x h.addressed
  unfold StoreMachine.addSubscriber
  unfold AgpsStateMachine.addSubscriber at haddr ⊢
  rw [h.load, Option.map_some]
  cases hsearch : m.search (.addressed x .rsrcStatusMax false) with
  -- Whoever is listed already is not cloned again.
  | some nd => exact ⟨s, rfl, h⟩
  | none =>
      rw [hsearch] at haddr
      refine ⟨_, rfl, ?_, ?_, ?_, haddr⟩
      · have hrest := congrArg (fun r : AgpsStateMachine =>
          { r with nextAddr := r.nextAddr + 1 }) h.rest
        exact hrest
      · show linkedListAdd s.mSubscribers s.rest.nextAddr = _
        rw [h.list, h.nextAddr]
        rfl
      · -- The new address is nobody else's.
        intro nd hnd
        show (s.store.write s.rest.nextAddr x.clone) nd.addr = _
        rw [h.nextAddr, Store.write]
        rcases List.mem_cons.mp hnd with rfl | hin
        · exact Function.update_self _ _ _
        · rw [Function.update_of_ne (Nat.ne_of_lt (h.addressed.lt nd hin))]
          exact h.objects nd hin

/-- The object is written to where it is. -/
theorem markInactive (h : Refines s m) {nd : Node} (hnd : nd ∈ m.mSubscribers) :
    Refines { s with store := s.store.write nd.addr nd.subscriber.markInactive }
      { m with mSubscribers := m.mSubscribers.map fun e =>
          if e.addr = nd.addr then { e with subscriber := e.subscriber.markInactive } else e } := by
  refine ⟨h.rest, ?_, fun e he => ?_, ?_, fun e he => ?_⟩
  · exact h.list.trans (addrs_markInactive m.mSubscribers nd.addr).symm
  · show (s.store.write nd.addr nd.subscriber.markInactive) e.addr = _
    rcases List.mem_map.mp he with ⟨e', he', rfl⟩
    have hobj := h.objects e' he'
    split
    case isTrue heq =>
        -- There is one object at each address.
        rw [heq, h.objects nd hnd, Option.some.injEq] at hobj
        rw [Store.write, heq, Function.update_self, hobj]
    case isFalse hne => rwa [Store.write, Function.update_of_ne hne]
  · exact (addrs_markInactive m.mSubscribers nd.addr).symm ▸ h.addressed.nodup
  · rcases List.mem_map.mp he with ⟨e', he', rfl⟩
    have hlt := h.addressed.lt e' he'
    split <;> exact hlt

theorem setInactive (h : Refines s m) {nd : Node} (hnd : nd ∈ m.mSubscribers) :
    ∃ t, s.setInactive nd.addr = some t ∧ Refines t (m.setInactive nd) := by
  have hmark := h.markInactive hnd
  unfold StoreMachine.setInactive AgpsStateMachine.setInactive
  rw [h.objects nd hnd, Option.map_some]
  refine ⟨_, rfl, ?_⟩
  cases hsub : nd.subscriber with
  | ds id inactive =>
      rw [hsub] at hmark
      have hrest := congrArg (fun r : AgpsStateMachine => r.emit (.atlCloseStatus id true))
        hmark.rest
      exact ⟨hrest, hmark.list, hmark.objects, hmark.addressed⟩
  | _ =>
      rw [hsub] at hmark
      exact hmark

theorem dismiss (h : Refines s m) {nd : Node} (hnd : nd ∈ m.mSubscribers)
    (hsafe : nd.subscriber.waitForCloseComplete = false →
      LastOfEquals m.peek m.mSubscribers nd) :
    ∃ t, s.dismiss nd.addr = some t ∧ Refines t (m.dismiss nd) := by
  unfold StoreMachine.dismiss AgpsStateMachine.dismiss
  rw [h.objects nd hnd, Option.bind_some]
  cases hwait : nd.subscriber.waitForCloseComplete with
  | true => exact h.setInactive hnd
  | false => exact (h.notifySubscribers_addressed hnd).1 (hsafe hwait)

theorem dismiss_reads_deleted (h : Refines s m) {nd : Node} (hnd : nd ∈ m.mSubscribers)
    (hwait : nd.subscriber.waitForCloseComplete = false)
    (hno : ¬ LastOfEquals m.peek m.mSubscribers nd) : s.dismiss nd.addr = none := by
  unfold StoreMachine.dismiss
  rw [h.objects nd hnd, Option.bind_some, hwait]
  exact (h.notifySubscribers_addressed hnd).2 hno

theorem afterUnsubscribe (h : Refines s m) (env : Env) (self : AgpsState) :
    ∃ t, s.afterUnsubscribe env self = some (t, (AgpsState.afterUnsubscribe env m self).2) ∧
      Refines t (AgpsState.afterUnsubscribe env m self).1 := by
  unfold StoreMachine.afterUnsubscribe AgpsState.afterUnsubscribe
  rw [h.hasSubscribers, h.hasActiveSubscribers]
  rcases h.sendRsrcRequest env .releaseAgpsDataConn with ⟨t, ht, hm⟩
  cases m.hasSubscribers with
  | false =>
      refine ⟨t, ?_, hm⟩
      rw [ht]
      rfl
  | true =>
      cases m.hasActiveSubscribers with
      | false =>
          refine ⟨t, ?_, hm⟩
          rw [ht]
          rfl
      | true => exact ⟨s, rfl, h⟩

theorem onReleased (h : Refines s m) (env : Env) (event : AgpsRsrcStatus)
    (hn : event.isDelivered = true) :
    ∃ t, s.onReleased env event = some (t, (AgpsReleasingState.onReleased env m event).2) ∧
      Refines t (AgpsReleasingState.onReleased env m event).1 := by
  rcases h.notifySubscribers_broadcast .broadcastInactive event true hn with ⟨t, ht, hm⟩
  -- A broadcast reads nobody but those on the list.
  unfold StoreMachine.onReleased AgpsReleasingState.onReleased
  rw [ht, Option.bind_some, hm.hasActiveSubscribers, Option.bind_some]
  dsimp only
  generalize m.notifySubscribers (.broadcast .broadcastInactive event true) = m' at hm
  cases m'.hasActiveSubscribers with
  | false => exact ⟨t, rfl, hm⟩
  | true =>
      rcases hm.sendRsrcRequest env .requestAgpsDataConn with ⟨u, hu, hm'⟩
      refine ⟨u, ?_, hm'⟩
      rw [if_pos rfl, hu]
      rfl

end Refines

/-! ## An event -/

/-- The event with the address of the listed subscriber it is about. -/
def AgpsStateMachine.RsrcEvent.ptr : AgpsStateMachine.RsrcEvent → StoreMachine.RsrcEvent
  | .subscribe x => .subscribe x
  | .unsubscribe nd => .unsubscribe nd.addr
  | .granted => .granted
  | .released => .released
  | .denied => .denied

/-- The event is about somebody listed. An UNSUBSCRIBE that is told to the
    subscribers leaves nobody on the list. -/
def EventLeavesNobody (m : AgpsStateMachine) : AgpsStateMachine.RsrcEvent → Prop
  | .unsubscribe nd => nd ∈ m.mSubscribers ∧ (m.mStatePtr ≠ .released →
      nd.subscriber.waitForCloseComplete = false → LastOfEquals m.peek m.mSubscribers nd)
  | _ => True

section

variable {s : StoreMachine} {m : AgpsStateMachine} (h : Refines s m) (env : Env)

include h

omit h in
/-- What a handler makes of the machine, the dispatcher keeps with its state. -/
theorem dispatch_of_state {ptr : StoreMachine.RsrcEvent} {r : AgpsStateMachine × AgpsState}
    {m' : AgpsStateMachine} (hm' : m' = { r.1 with mStatePtr := r.2 })
    (hstate : ∃ t, s.stateOnRsrcEvent env ptr = some (t, r.2) ∧ Refines t r.1) :
    ∃ t, s.dispatch env ptr = some t ∧ Refines t m' := by
  rcases hstate with ⟨t, ht, hr⟩
  refine ⟨t.withState r.2, ?_, hm' ▸ hr.withState r.2⟩
  rw [StoreMachine.dispatch, ht, Option.map_some]

theorem released_refines (event : AgpsStateMachine.RsrcEvent)
    (hsafe : EventLeavesNobody m event) :
    ∃ t, s.releasedOnRsrcEvent env event.ptr =
        some (t, (AgpsReleasedState.onRsrcEvent env m event).2) ∧
      Refines t (AgpsReleasedState.onRsrcEvent env m event).1 := by
  cases event with
  | subscribe x =>
      rcases h.addSubscriber x with ⟨t, ht, hm⟩
      rcases hm.sendRsrcRequest env .requestAgpsDataConn with ⟨u, hu, hm'⟩
      refine ⟨u, ?_, hm'⟩
      simp only [AgpsStateMachine.RsrcEvent.ptr, StoreMachine.releasedOnRsrcEvent, ht,
        Option.bind_some, hu, Option.map_some]
      rfl
  | unsubscribe nd =>
      -- Nobody is deleted here, so the one that is told is there.
      rcases h.notifyRsrcStatus (some nd.addr) nd.subscriber
        (.addressed nd.subscriber .rsrcUnsubscribe false) rfl with ⟨t, ht, hm⟩
      refine ⟨t, ?_, hm⟩
      simp only [AgpsStateMachine.RsrcEvent.ptr, StoreMachine.releasedOnRsrcEvent,
        h.objects nd hsafe.1, Option.bind_some, ht, Option.map_some]
      rfl
  | _ => exact ⟨s, rfl, h⟩

theorem pending_refines (event : AgpsStateMachine.RsrcEvent) (hsafe : EventLeavesNobody m event)
    (hst : m.mStatePtr ≠ .released) :
    ∃ t, s.pendingOnRsrcEvent env event.ptr =
        some (t, (AgpsPendingState.onRsrcEvent env m event).2) ∧
      Refines t (AgpsPendingState.onRsrcEvent env m event).1 := by
  cases event with
  | subscribe x =>
      rcases h.addSubscriber x with ⟨t, ht, hm⟩
      exact ⟨t, congrArg (Option.map _) ht, hm⟩
  | unsubscribe nd =>
      rcases h.dismiss hsafe.1 (hsafe.2 hst) with ⟨t, ht, hm⟩
      rcases hm.afterUnsubscribe env .pending with ⟨u, hu, hm'⟩
      refine ⟨u, ?_, hm'⟩
      simp only [AgpsStateMachine.RsrcEvent.ptr, StoreMachine.pendingOnRsrcEvent, ht,
        Option.bind_some, hu]
      rfl
  | granted =>
      rcases h.notifySubscribers_broadcast .broadcastActive .rsrcGranted false rfl
        with ⟨t, ht, hm⟩
      exact ⟨t, congrArg (Option.map _) ht, hm⟩
  | released => exact ⟨s, rfl, h⟩
  | denied =>
      rcases h.notifySubscribers_broadcast .broadcastAll .rsrcDenied true rfl with ⟨t, ht, hm⟩
      exact ⟨t, congrArg (Option.map _) ht, hm⟩

theorem acquired_refines (event : AgpsStateMachine.RsrcEvent) (hsafe : EventLeavesNobody m event)
    (hst : m.mStatePtr ≠ .released) :
    ∃ t, s.acquiredOnRsrcEvent env event.ptr =
        some (t, (AgpsAcquiredState.onRsrcEvent env m event).2) ∧
      Refines t (AgpsAcquiredState.onRsrcEvent env m event).1 := by
  cases event with
  | subscribe x =>
      -- The caller's own object is told, which is not in the store.
      rcases h.notifyRsrcStatus none x (.addressed x .rsrcGranted false) rfl with ⟨t, ht, hm⟩
      rcases hm.addSubscriber x with ⟨u, hu, hm'⟩
      refine ⟨u, ?_, hm'⟩
      simp only [AgpsStateMachine.RsrcEvent.ptr, StoreMachine.acquiredOnRsrcEvent, ht,
        Option.bind_some, hu, Option.map_some]
      rfl
  | unsubscribe nd =>
      rcases h.dismiss hsafe.1 (hsafe.2 hst) with ⟨t, ht, hm⟩
      rcases hm.afterUnsubscribe env .acquired with ⟨u, hu, hm'⟩
      refine ⟨u, ?_, hm'⟩
      simp only [AgpsStateMachine.RsrcEvent.ptr, StoreMachine.acquiredOnRsrcEvent, ht,
        Option.bind_some, hu]
      rfl
  | released =>
      rcases h.notifySubscribers_broadcast .broadcastAll .rsrcReleased true rfl with ⟨t, ht, hm⟩
      exact ⟨t, congrArg (Option.map _) ht, hm⟩
  | _ => exact ⟨s, rfl, h⟩

theorem releasing_refines (event : AgpsStateMachine.RsrcEvent) (hsafe : EventLeavesNobody m event)
    (hst : m.mStatePtr ≠ .released) :
    ∃ t, s.releasingOnRsrcEvent env event.ptr =
        some (t, (AgpsReleasingState.onRsrcEvent env m event).2) ∧
      Refines t (AgpsReleasingState.onRsrcEvent env m event).1 := by
  cases event with
  | subscribe x =>
      rcases h.addSubscriber x with ⟨t, ht, hm⟩
      exact ⟨t, congrArg (Option.map _) ht, hm⟩
  | unsubscribe nd =>
      rcases h.dismiss hsafe.1 (hsafe.2 hst) with ⟨t, ht, hm⟩
      refine ⟨t, ?_, hm⟩
      simp only [AgpsStateMachine.RsrcEvent.ptr, StoreMachine.releasingOnRsrcEvent, ht,
        Option.map_some, hm.hasSubscribers]
      rfl
  | granted => exact ⟨s, rfl, h⟩
  | released => exact h.onReleased env .rsrcReleased rfl
  | denied => exact h.onReleased env .rsrcDenied rfl

theorem dispatch_refines (event : AgpsStateMachine.RsrcEvent)
    (hsafe : EventLeavesNobody m event) :
    ∃ t, s.dispatch env event.ptr = some t ∧ Refines t (m.dispatch env event) := by
  refine dispatch_of_state env rfl ?_
  unfold StoreMachine.stateOnRsrcEvent
  rw [h.mStatePtr]
  cases hst : m.mStatePtr with
  | released => exact released_refines h env event hsafe
  | pending => exact pending_refines h env event hsafe (by rw [hst]; decide)
  | acquired => exact acquired_refines h env event hsafe (by rw [hst]; decide)
  | releasing => exact releasing_refines h env event hsafe (by rw [hst]; decide)

/-- Somebody is left on the list, who asks whether the notification is for it
    by looking at the one who is gone. -/
theorem dispatch_reads_deleted {nd : Node} (hnd : nd ∈ m.mSubscribers)
    (hst : m.mStatePtr ≠ .released) (hwait : nd.subscriber.waitForCloseComplete = false)
    (hno : ¬ LastOfEquals m.peek m.mSubscribers nd) :
    s.dispatch env (.unsubscribe nd.addr) = none := by
  have hgone := h.dismiss_reads_deleted hnd hwait hno
  unfold StoreMachine.dispatch StoreMachine.stateOnRsrcEvent
  rw [h.mStatePtr]
  cases hs : m.mStatePtr with
  | released => exact absurd hs hst
  | pending => simp only [StoreMachine.pendingOnRsrcEvent, hgone, Option.bind_none, Option.map_none]
  | acquired =>
      simp only [StoreMachine.acquiredOnRsrcEvent, hgone, Option.bind_none, Option.map_none]
  | releasing => simp only [StoreMachine.releasingOnRsrcEvent, hgone, Option.map_none]

end

/-! ## A call -/

/-- Who is unsubscribed, and is to be told, leaves nobody on the list. Then the
    search after the deletion has nobody to ask, and the pointer that the
    notification still has is not followed. In Released nobody is taken off the
    list. And who waits for its close is not deleted by the notification, but
    set inactive. -/
def LeavesNobody (m : AgpsStateMachine) : Call → Prop
  | .unsubscribeRsrc x _ => ∀ nd ∈ m.search (.addressed x .rsrcStatusMax false),
      m.mStatePtr ≠ .released → nd.subscriber.waitForCloseComplete = false →
        LastOfEquals m.peek m.mSubscribers nd
  | _ => True

section

variable {s : StoreMachine} {m : AgpsStateMachine}

theorem Refines.fresh (h : Refines s m) :
    Refines { s with rest := { s.rest with out := [] } } m.fresh := by
  have hrest := congrArg (fun r : AgpsStateMachine => { r with out := [] }) h.rest
  exact ⟨hrest, h.list, h.objects, h.addressed⟩

theorem onRsrcEvent_refines (h : Refines s m) (env : Env) (event : AgpsRsrcStatus) :
    ∃ t, s.onRsrcEvent env event = some t ∧ Refines t (m.onRsrcEvent env event) := by
  have hgranted := dispatch_refines h env .granted trivial
  have hreleased := dispatch_refines h env .released trivial
  have hdenied := dispatch_refines h env .denied trivial
  unfold StoreMachine.onRsrcEvent AgpsStateMachine.onRsrcEvent
  rw [h.isDS]
  split
  · cases event with
    | rsrcGranted => exact hgranted
    | rsrcDenied => exact hdenied
    | rsrcReleased =>
        -- A RELEASED without a change of state is a DENIED to the same machine.
        rcases hreleased with ⟨t, ht, hm⟩
        have hcall : s.onRsrcEventDS env .rsrcReleased =
            if t.rest.mStatePtr ≠ s.rest.mStatePtr then some t else t.dispatch env .denied := by
          rw [StoreMachine.onRsrcEventDS, show s.dispatch env .released = some t from ht,
            Option.bind_some]
        rw [hcall, hm.mStatePtr, h.mStatePtr]
        unfold onRsrcEventDS
        dsimp only
        split
        · exact ⟨t, rfl, hm⟩
        · exact dispatch_refines hm env .denied trivial
    | _ => exact ⟨s, rfl, h⟩
  · cases event with
    | rsrcGranted => exact hgranted
    | rsrcReleased => exact hreleased
    | rsrcDenied => exact hdenied
    | _ => exact ⟨s, rfl, h⟩

theorem subscribeRsrc_refines (h : Refines s m) (env : Env) (x : Subscriber) :
    ∃ t, s.subscribeRsrc env x = some t ∧ Refines t (m.subscribeRsrc env x) := by
  unfold StoreMachine.subscribeRsrc AgpsStateMachine.subscribeRsrc
  rw [h.mEnforceSingleSubscriber, h.hasSubscribers]
  split
  · exact h.notifyRsrcStatus none x (.broadcast .broadcastAll .rsrcDenied true) rfl
  · exact dispatch_refines h env (.subscribe x) trivial

theorem unsubscribeRsrc_refines (h : Refines s m) (env : Env) (x : Subscriber)
    (hsafe : LeavesNobody m (.unsubscribeRsrc x env)) :
    ∃ t, s.unsubscribeRsrc env x = some t ∧ Refines t (m.unsubscribeRsrc env x).1 := by
  unfold StoreMachine.unsubscribeRsrc AgpsStateMachine.unsubscribeRsrc
  rw [h.load, Option.bind_some]
  cases hsearch : m.search (.addressed x .rsrcStatusMax false) with
  | none => exact ⟨s, rfl, h⟩
  | some nd =>
      have hnd : nd ∈ m.mSubscribers := by
        rw [search_eq] at hsearch
        exact List.mem_of_find?_eq_some hsearch
      exact dispatch_refines h env (.unsubscribe nd) ⟨hnd, hsafe nd hsearch⟩

/-- A call that leaves nobody, or deletes nobody, reads what is there. -/
theorem step_refines (h : Refines s m) (c : Call) (hsafe : LeavesNobody m c) :
    ∃ t, s.step c = some t ∧ Refines t (step m c) := by
  have hfresh := h.fresh
  cases c with
  | subscribeRsrc x env => exact subscribeRsrc_refines hfresh env x
  | unsubscribeRsrc x env => exact unsubscribeRsrc_refines hfresh env x hsafe
  | onRsrcEvent event env => exact onRsrcEvent_refines hfresh env event
  | setAPN apn len =>
      have hrest := congrArg (fun r : AgpsStateMachine => r.setAPN apn len) hfresh.rest
      exact ⟨_, rfl, hrest, h.list, h.objects, h.addressed⟩
  | setBearer bearer =>
      have hrest := congrArg (fun r : AgpsStateMachine => r.setBearer bearer) hfresh.rest
      exact ⟨_, rfl, hrest, h.list, h.objects, h.addressed⟩

/-- Any other call reads the one that it has deleted. -/
theorem step_reads_deleted (h : Refines s m) (c : Call) (hno : ¬ LeavesNobody m c) :
    s.step c = none := by
  cases c with
  | unsubscribeRsrc x env =>
      simp only [LeavesNobody, Classical.not_forall] at hno
      rcases hno with ⟨nd, hsearch, hst, hwait, hlast⟩
      have hfresh := h.fresh
      -- The search itself reads what is there.
      have hfound : m.fresh.search (.addressed x .rsrcStatusMax false) = some nd := hsearch
      have hnd : nd ∈ m.mSubscribers := by
        rw [search_eq] at hfound
        exact List.mem_of_find?_eq_some hfound
      have hgone := dispatch_reads_deleted hfresh env hnd hst hwait hlast
      show StoreMachine.unsubscribeRsrc env _ x = none
      rw [StoreMachine.unsubscribeRsrc, hfresh.load, Option.bind_some, hfound]
      exact hgone
  | _ => exact absurd trivial hno

end

/-! ## Whole runs -/

/-- The calls that read nothing deleted, with the list read through the store.
    It is about the machine with its subscribers by value, which is what the
    store stands for before the call. -/
def ReadsNothingDeleted (s : StoreMachine) (c : Call) : Prop :=
  ∀ m ∈ s.load, LeavesNobody m c

theorem readsNothingDeleted_iff {s : StoreMachine} {m : AgpsStateMachine} (h : Refines s m)
    (c : Call) : ReadsNothingDeleted s c ↔ LeavesNobody m c := by
  rw [ReadsNothingDeleted, h.load]
  simp only [Option.mem_some, forall_eq']

theorem refines_new (m : AgpsStateMachine) (hm : m.mSubscribers = []) :
    Refines (.new m) m := by
  refine ⟨rfl, ?_, ?_, ?_⟩ <;> rw [hm]
  · rfl
  · exact fun nd hnd => absurd hnd List.not_mem_nil
  · exact ⟨List.nodup_nil, fun nd hnd => absurd hnd List.not_mem_nil⟩

/-- A run that reads nothing deleted is the run by value. -/
theorem exec_refines {s t : StoreMachine} {m : AgpsStateMachine} (h : Refines s m)
    {cs : List Call} (hrun : exec StoreMachine.step s cs = some t) : Refines t (run m cs) := by
  induction cs generalizing s m with
  | nil =>
      cases hrun
      exact h
  | cons c cs ih =>
      rcases exec_cons hrun with ⟨u, hu, hrest⟩
      by_cases hsafe : LeavesNobody m c
      · rcases step_refines h c hsafe with ⟨u', hu', hm⟩
        rw [hu, Option.some.injEq] at hu'
        subst hu'
        exact ih hm hrest
      · rw [step_reads_deleted h c hsafe] at hu
        cases hu

/-- No call of a run reads a deleted subscriber, if and only if each UNSUBSCRIBE
    of somebody who is told leaves nobody on the list. A call that reads one has
    no result, so that a run with a result is one in which none has. -/
theorem reads_nothing_deleted_iff (peek : Subscriber → IPv6Addr) (type : AGpsExtType)
    (enforceSingleSubscriber isDS : Bool) (cs : List Call) :
    (exec StoreMachine.step
        (.new { new peek type enforceSingleSubscriber with isDS := isDS }) cs).isSome = true ↔
      Meets StoreMachine.step ReadsNothingDeleted
        (.new { new peek type enforceSingleSubscriber with isDS := isDS }) cs := by
  refine exec_isSome_iff_meets (I := fun s => ∃ m, Refines s m) ?_ ?_ ⟨_, refines_new _ rfl⟩
  · rintro s c ⟨m, hm⟩ hsafe
    rcases step_refines hm c ((readsNothingDeleted_iff hm c).mp hsafe) with ⟨t, ht, hm'⟩
    exact ⟨t, ht, _, hm'⟩
  · rintro s c ⟨m, hm⟩ hno
    exact step_reads_deleted hm c fun hsafe => hno ((readsNothingDeleted_iff hm c).mpr hsafe)

/-- Of two ATL clients that wait for their connection, one is unsubscribed. -/
theorem unsubscribe_reads_deleted :
    ¬ (exec StoreMachine.step (.new (new (fun _ => Vector.replicate 16 0) AGPS_TYPE_SUPL false))
      [.subscribeRsrc (.atl 1 false) ⟨0, true⟩, .subscribeRsrc (.atl 2 false) ⟨0, true⟩,
       .unsubscribeRsrc (.atl 1 false) ⟨0, true⟩]).isSome = true := by
  decide

end Agps

end Victara
