import Mathlib.Data.List.Induction
import Victara.Agps.Invariant

/-!
# What a Subscriber Is Told

The notifications from the side of one subscriber object, which is known by
its address. Grants come by two routes: the broadcast on GRANTED, and the
immediate answer to a subscribe in Acquired, which goes to the caller's object
just before its clone is listed. Removals come by four: an unsubscribe, the
denial in Pending, the loss in Acquired and the end of a release.

An address is listed at most once and is not given out again, so a
notification to it can only be the one that removes the object, or an earlier
one.

The first part is an induction over the run with the list as the invariant: who
is active in Acquired has been granted, because the call that led there told
everybody, and because a subscription in Acquired is told before it is listed.
The second is about one call: `effect_removed` goes through the outcomes, and
the four that take somebody off the list tell those they take once each. That
nothing is told later follows from the addresses, as a note is only made for
somebody listed.

## Main definitions

* `addrs`: The addresses on a list.
* `Addressed`: No address is listed twice, none is beyond the counter.
* `Shrinks`: A list that lost entries, or had some made inactive.
* `notesFor`: The notifications accepted at an address.
* `AgpsRsrcStatus.isFarewell`: The statuses that go with a removal.
* `GrantedIn`: A call in which an object was granted the connection.
* `GrantedDuring`: Some call of the run granted the connection to the object at
  `a`.

## Theorems

* `addrs_markInactive`: Marking an object inactive moves no address.
* `Dismissed.shrinks`: A dismissal marks the subscriber or removes it.
* `effect_list`: A call adds one object or shrinks the list.
* `addSubscriber_mem`: Who is listed after adding was listed before, or has the
  next address.
* `notesFor_notesTo`: Telling some of the listed objects tells each of them
  once.
* `effect_removed`: A removed object got exactly one notification.
* `effect_notes_listed`: Only listed objects are notified.
* `step_granted`: A call that ends in Acquired leaves nobody active without a
  grant: who was active in Acquired had one before, the others get it now.
* `run_granted`: In Acquired, whoever is active was granted the connection.
* `step_unlisted`: An address that is given out and not listed stays unlisted.
* `run_silent`: Nothing is ever told to an unlisted address that was given out.
* `notification_protocol`: The protocol of the servicer machine.
-/

namespace Victara

namespace Agps

open AgpsStateMachine

def addrs (l : List Node) : List Nat := l.map Node.addr

/-- No address is listed twice, and all were given out. With the second part a
    new entry keeps the first. -/
structure Addressed (l : List Node) (next : Nat) : Prop where
  nodup : (addrs l).Nodup
  lt : ∀ nd ∈ l, nd.addr < next

/-- Entries went, and those that stayed became active in no way. That is what is
    left of the list by everything but a subscription. -/
structure Shrinks (l l' : List Node) : Prop where
  addrs : (addrs l').Sublist (addrs l)
  active : ∀ e ∈ l', e.subscriber.isInactive = false →
    ∃ e' ∈ l, e'.addr = e.addr ∧ e'.subscriber.isInactive = false

theorem Shrinks.refl (l : List Node) : Shrinks l l :=
  ⟨List.Sublist.refl _, fun e he hact => ⟨e, he, rfl, hact⟩⟩

theorem Shrinks.filter (l : List Node) (p : Node → Bool) : Shrinks l (l.filter p) :=
  ⟨(List.filter_sublist (p := p)).map Node.addr,
    fun e he hact => ⟨e, (List.mem_filter.mp he).1, rfl, hact⟩⟩

theorem Shrinks.nil (l : List Node) : Shrinks l [] :=
  ⟨List.nil_sublist _, fun _ he => absurd he List.not_mem_nil⟩

theorem Shrinks.addressed {l l' : List Node} {next : Nat} (h : Shrinks l l')
    (hl : Addressed l next) : Addressed l' next := by
  refine ⟨h.addrs.nodup hl.nodup, fun nd hnd => ?_⟩
  have hmem : nd.addr ∈ Agps.addrs l := h.addrs.subset (List.mem_map_of_mem hnd)
  rcases List.mem_map.mp hmem with ⟨e, he, haddr⟩
  rw [← haddr]
  exact hl.lt e he

/-- Marking an object inactive moves no address. -/
theorem addrs_markInactive (l : List Node) (a : Nat) :
    addrs (l.map fun e => if e.addr = a then
      { e with subscriber := e.subscriber.markInactive } else e) = addrs l := by
  rw [addrs, List.map_map]
  refine List.map_congr_left fun e _ => ?_
  simp only [Function.comp]
  split <;> rfl

/-- A dismissal marks the subscriber or removes it. -/
theorem Dismissed.shrinks {m : AgpsStateMachine} {nd : Node} {l : List Node} {ns : List Note}
    (h : Dismissed m nd l ns) : Shrinks m.mSubscribers l := by
  cases h with
  | waits _ =>
      constructor
      · rw [addrs_markInactive]
      · intro e he hact
        rcases List.mem_map.mp he with ⟨e', he', rfl⟩
        refine ⟨e', he', ?_, ?_⟩
        · split <;> rfl
        · rw [← Bool.not_eq_true]
          intro hin
          split at hact
          · rw [markInactive_of_isInactive _ hin] at hact
            cases hact
          · rw [hin] at hact
            cases hact
  | removed _ => exact Shrinks.filter _ _

/-- A call lists one new object or shrinks the list. -/
theorem effect_list {m : AgpsStateMachine} {c : Call} {o : Outcome} (h : Effect m c o) :
    (∃ x env, c = .subscribeRsrc x env ∧ o.subscribers = (m.addSubscriber x).mSubscribers ∧
      o.nextAddr = (m.addSubscriber x).nextAddr) ∨
    Shrinks m.mSubscribers o.subscribers ∧ o.nextAddr = m.nextAddr := by
  cases h with
  | requested x env _ _ => exact Or.inl ⟨x, env, rfl, rfl, rfl⟩
  | requestedNothing x env _ _ => exact Or.inl ⟨x, env, rfl, rfl, rfl⟩
  | queued x env _ _ => exact Or.inl ⟨x, env, rfl, rfl, rfl⟩
  | grantedAtOnce x env _ _ => exact Or.inl ⟨x, env, rfl, rfl, rfl⟩
  | dismissed x env nd l ns s rs hnd hx hs hd hnext => exact Or.inr ⟨hd.shrinks, rfl⟩
  | closed _ _ _ => exact Or.inr ⟨Shrinks.nil _, rfl⟩
  | completed _ _ _ _ _ => exact Or.inr ⟨Shrinks.nil _, rfl⟩
  | renewed _ _ _ _ _ => exact Or.inr ⟨Shrinks.filter _ _, rfl⟩
  | _ => exact Or.inr ⟨Shrinks.refl _, rfl⟩

theorem addSubscriber_addressed {m : AgpsStateMachine} (x : Subscriber)
    (hm : Addressed m.mSubscribers m.nextAddr) :
    Addressed (m.addSubscriber x).mSubscribers (m.addSubscriber x).nextAddr := by
  rcases addSubscriber_eq m x with ⟨heq, _⟩ | ⟨heq, _⟩
  · rw [heq]
    exact hm
  · rw [heq]
    refine ⟨List.nodup_cons.mpr ⟨?_, hm.nodup⟩, ?_⟩
    · intro hmem
      rcases List.mem_map.mp hmem with ⟨e, he, haddr⟩
      have := hm.lt e he
      simp only at haddr
      omega
    · intro nd hnd
      rcases List.mem_cons.mp hnd with rfl | hnd
      · exact Nat.lt_succ_self _
      · exact Nat.lt_succ_of_lt (hm.lt nd hnd)

theorem addSubscriber_nextAddr (m : AgpsStateMachine) (x : Subscriber) :
    m.nextAddr ≤ (m.addSubscriber x).nextAddr := by
  rcases addSubscriber_eq m x with ⟨heq, _⟩ | ⟨heq, _⟩
  · exact Nat.le_of_eq (congrArg AgpsStateMachine.nextAddr heq).symm
  · rw [heq]
    exact Nat.le_succ _

/-- Who is listed after adding was listed before, or has the next address. -/
theorem addSubscriber_mem {m : AgpsStateMachine} {x : Subscriber} {nd : Node}
    (h : nd ∈ (m.addSubscriber x).mSubscribers) :
    nd ∈ m.mSubscribers ∨ nd.addr = m.nextAddr := by
  rcases addSubscriber_eq m x with ⟨heq, _⟩ | ⟨heq, _⟩
  · rw [heq] at h
    exact Or.inl h
  · rw [heq] at h
    rcases List.mem_cons.mp h with rfl | h
    · exact Or.inr rfl
    · exact Or.inl h

theorem step_addressed {m : AgpsStateMachine} (hds : m.isDS = false)
    (hm : Addressed m.mSubscribers m.nextAddr) (c : Call) :
    Addressed (step m c).mSubscribers (step m c).nextAddr ∧ m.nextAddr ≤ (step m c).nextAddr := by
  rcases effect_list (step_effect m c hds) with ⟨x, env, _, hlist, hnext⟩ | ⟨hlist, hnext⟩
  · rw [show (step m c).mSubscribers = _ from hlist, show (step m c).nextAddr = _ from hnext]
    exact ⟨addSubscriber_addressed x hm, addSubscriber_nextAddr m.fresh x⟩
  · rw [show (step m c).nextAddr = m.nextAddr from hnext]
    exact ⟨hlist.addressed hm, Nat.le_refl _⟩

theorem run_addressed {m : AgpsStateMachine} (hds : m.isDS = false)
    (hm : Addressed m.mSubscribers m.nextAddr) (cs : List Call) :
    Addressed (run m cs).mSubscribers (run m cs).nextAddr ∧ m.nextAddr ≤ (run m cs).nextAddr := by
  induction cs generalizing m with
  | nil => exact ⟨hm, Nat.le_refl _⟩
  | cons c cs ih =>
      have hstep := step_addressed hds hm c
      have hrun := ih ((step_config m c).isDS.trans hds) hstep.1
      exact ⟨hrun.1, Nat.le_trans hstep.2 hrun.2⟩

/-- The notifications accepted at an address. -/
def notesFor (a : Nat) (ns : List Note) : List Note := ns.filter fun n => n.1 = some a

/-- Telling some of the listed objects tells each of them once. -/
theorem notesFor_notesTo {l : List Node} (hl : (addrs l).Nodup) {nd : Node} (hnd : nd ∈ l)
    (status : AgpsRsrcStatus) :
    notesFor nd.addr (notesTo l status) = [(some nd.addr, nd.subscriber, status)] := by
  induction l with
  | nil => exact absurd hnd List.not_mem_nil
  | cons e l ih =>
      rw [addrs, List.map_cons, List.nodup_cons] at hl
      rw [notesTo, List.map_cons, notesFor]
      rcases List.mem_cons.mp hnd with rfl | hmem
      · rw [List.filter_cons_of_pos (by exact decide_eq_true rfl), List.cons.injEq]
        refine ⟨rfl, List.filter_eq_nil_iff.mpr fun n hn => ?_⟩
        -- The rest of the list is at other addresses.
        rcases List.mem_map.mp hn with ⟨e, he, rfl⟩
        simp only [Option.some.injEq, decide_eq_true_eq]
        exact fun haddr => hl.1 (haddr ▸ List.mem_map_of_mem he)
      · have hne : e.addr ≠ nd.addr := fun haddr =>
          hl.1 (haddr ▸ List.mem_map_of_mem hmem)
        rw [List.filter_cons_of_neg (by simpa only [Option.some.injEq, decide_eq_true_eq])]
        exact ih hl.2 hmem

/-- The statuses that go with a removal. -/
def AgpsRsrcStatus.isFarewell : AgpsRsrcStatus → Prop
  | .rsrcUnsubscribe | .rsrcReleased | .rsrcDenied => True
  | _ => False

/-- An object that a call takes off the list is told so, once. -/
theorem effect_removed {m : AgpsStateMachine} {c : Call} {o : Outcome} (h : Effect m c o)
    (hm : Addressed m.mSubscribers m.nextAddr) {nd : Node} (hnd : nd ∈ m.mSubscribers)
    (hgone : nd.addr ∉ addrs o.subscribers) :
    ∃ status : AgpsRsrcStatus, status.isFarewell ∧
      notesFor nd.addr o.notes = [(some nd.addr, nd.subscriber, status)] := by
  have hkept : nd.addr ∈ addrs m.mSubscribers := List.mem_map_of_mem hnd
  have hadded : ∀ x, nd.addr ∈ addrs (m.addSubscriber x).mSubscribers :=
    fun x => List.mem_map_of_mem (mem_addSubscriber m x nd hnd)
  -- What is told to a part of the list is told once to who is in it.
  have hpart : ∀ (p : Node → Bool) (status : AgpsRsrcStatus), p nd = true →
      notesFor nd.addr (notesTo (m.mSubscribers.filter p) status) =
        [(some nd.addr, nd.subscriber, status)] := by
    intro p status hp
    exact notesFor_notesTo ((Shrinks.filter _ p).addressed hm).nodup
      (List.mem_filter.mpr ⟨hnd, hp⟩) status
  cases h with
  | requested x env _ _ => exact absurd (hadded x) hgone
  | requestedNothing x env _ _ => exact absurd (hadded x) hgone
  | queued x env _ _ => exact absurd (hadded x) hgone
  | grantedAtOnce x env _ _ => exact absurd (hadded x) hgone
  | dismissed x env nd' l ns s rs _ _ _ hd _ =>
      cases hd with
      -- Marking a subscriber takes no address off the list.
      | waits _ =>
          rw [addrs_markInactive] at hgone
          exact absurd hkept hgone
      | removed _ =>
          refine ⟨.rsrcUnsubscribe, trivial, hpart _ _ ?_⟩
          rw [← Bool.not_eq_false]
          intro hne
          refine hgone (List.mem_map_of_mem (List.mem_filter.mpr ⟨hnd, ?_⟩))
          rw [hne]
          rfl
  | closed event env hs =>
      -- Everybody listed is told.
      refine ⟨event, ?_, notesFor_notesTo hm.nodup hnd event⟩
      rcases hs with ⟨_, rfl⟩ | ⟨_, rfl⟩ <;> trivial
  | renewed event env hs hev ha =>
      refine ⟨event, by rcases hev with rfl | rfl <;> trivial, hpart _ _ ?_⟩
      -- Had it been active, it would have stayed.
      rw [← Bool.not_eq_false]
      intro hact
      refine hgone (List.mem_map_of_mem (List.mem_filter.mpr ⟨hnd, ?_⟩))
      rw [hact]
      rfl
  | completed event env hs hev ha =>
      refine ⟨event, by rcases hev with rfl | rfl <;> trivial, hpart _ _ ?_⟩
      -- Nobody is active, so it is among those that are told.
      exact allInactive_of_not_hasActive ha nd hnd
  | _ => exact absurd hkept hgone

/-- Only listed objects are notified. -/
theorem effect_notes_listed {m : AgpsStateMachine} {c : Call} {o : Outcome} (h : Effect m c o)
    {a : Nat} {s : Subscriber} {status : AgpsRsrcStatus} (hn : (some a, s, status) ∈ o.notes) :
    a ∈ addrs m.mSubscribers := by
  have hto : ∀ {l : List Node} {st : AgpsRsrcStatus}, l.Sublist m.mSubscribers →
      (some a, s, status) ∈ notesTo l st → a ∈ addrs m.mSubscribers := by
    intro l st hl hmem
    rcases List.mem_map.mp hmem with ⟨e, he, heq⟩
    cases heq
    exact List.mem_map_of_mem (hl.subset he)
  cases h with
  | refused x env _ _ => cases List.mem_singleton.mp hn
  | grantedAtOnce x env _ _ => cases List.mem_singleton.mp hn
  | tolerated x env nd hnd hs =>
      cases List.mem_singleton.mp hn
      exact List.mem_map_of_mem hnd
  | dismissed x env nd l ns s' rs _ _ _ hd _ =>
      cases hd with
      | waits _ => exact absurd hn List.not_mem_nil
      | removed _ => exact hto List.filter_sublist hn
  | granted env hs => exact hto List.filter_sublist hn
  | closed event env hs => exact hto (List.Sublist.refl _) hn
  | renewed event env _ _ _ => exact hto List.filter_sublist hn
  | completed event env _ _ _ => exact hto List.filter_sublist hn
  | _ => exact absurd hn List.not_mem_nil

/-- In this call the object at `a` is granted the connection: it accepts the
    broadcast, or it is listed for a caller that is granted it at once. A caller
    that subscribes again is granted the connection too, but no object is listed
    for it, and the next address is not the one of a subscriber by that. -/
def GrantedIn (m : AgpsStateMachine) (c : Call) (a : Nat) : Prop :=
  (∃ s, (some a, s, .rsrcGranted) ∈ notes (step m c).out) ∨
  (a = m.nextAddr ∧ a ∈ addrs (step m c).mSubscribers ∧ ∃ x env, c = .subscribeRsrc x env ∧
    (none, x, .rsrcGranted) ∈ notes (step m c).out)

/-- A call that ends in Acquired leaves nobody active without a grant: who was
    active in Acquired had one before, the others get it now. -/
theorem step_granted {m : AgpsStateMachine} (hds : m.isDS = false) (c : Call)
    (granted : Nat → Prop)
    (hm : m.mStatePtr = .acquired →
      ∀ nd ∈ m.mSubscribers, nd.subscriber.isInactive = false → granted nd.addr)
    (hacq : (step m c).mStatePtr = .acquired) {nd : Node} (hnd : nd ∈ (step m c).mSubscribers)
    (hact : nd.subscriber.isInactive = false) : granted nd.addr ∨ GrantedIn m c nd.addr := by
  have heff := step_effect m c hds
  generalize ho : (step m c).outcome = o at heff
  have hnotes : notes (step m c).out = o.notes := by rw [← ho]; rfl
  have hlisted : nd.addr ∈ addrs (step m c).mSubscribers := List.mem_map_of_mem hnd
  replace hacq : o.state = .acquired := by rw [← ho]; exact hacq
  replace hnd : nd ∈ o.subscribers := by rw [← ho]; exact hnd
  cases heff with
  | refused x env he hl => exact Or.inl (hm hacq nd hnd hact)
  | requested x env _ _ => cases hacq
  | requestedNothing x env _ _ => cases hacq
  | queued x env he hs =>
      -- Only Pending and Releasing queue.
      rw [show m.fresh.mStatePtr = .acquired from hacq] at hs
      rcases hs with hs | hs <;> cases hs
  | grantedAtOnce x env he hs =>
      rcases addSubscriber_mem hnd with hold | hnew
      · exact Or.inl (hm hs nd hold hact)
      · refine Or.inr (Or.inr ⟨hnew, hlisted, x, env, rfl, ?_⟩)
        rw [hnotes]
        exact List.mem_cons_self
  | unknown x env hx => exact Or.inl (hm hacq nd hnd hact)
  | tolerated x env nd' _ _ => cases hacq
  | dismissed x env nd' l ns s rs _ _ hs hd hnext =>
      -- An unsubscribe that ends in Acquired began there, and made nobody active.
      have hold : m.mStatePtr = .acquired := by
        cases hnext with
        | stays _ _ => exact hacq
        | _ => cases hacq
      rcases hd.shrinks.active nd hnd hact with ⟨e, he, haddr, heact⟩
      rw [← haddr]
      exact Or.inl (hm hold e he heact)
  | granted env hs =>
      -- It is active, so the broadcast reached it.
      refine Or.inr (Or.inl ⟨nd.subscriber, ?_⟩)
      rw [hnotes]
      refine List.mem_map.mpr ⟨nd, List.mem_filter.mpr ⟨hnd, ?_⟩, rfl⟩
      rw [hact]
      rfl
  | closed event env _ => cases hacq
  | renewed event env _ _ _ => cases hacq
  | completed event env _ _ _ => cases hacq
  | ignored event env hr => exact Or.inl (hm hacq nd hnd hact)
  | setAPN apn len => exact Or.inl (hm hacq nd hnd hact)
  | setBearer bearer => exact Or.inl (hm hacq nd hnd hact)

/-- Some call of the run granted the connection to the object at `a`. -/
def GrantedDuring (m : AgpsStateMachine) (cs : List Call) (a : Nat) : Prop :=
  ∃ cs₁ c cs₂, cs = cs₁ ++ c :: cs₂ ∧ GrantedIn (run m cs₁) c a

theorem run_append (m : AgpsStateMachine) (cs cs' : List Call) :
    run m (cs ++ cs') = run (run m cs) cs' :=
  List.foldl_append

/-- In Acquired, everybody active has been granted the connection. -/
theorem run_granted {m : AgpsStateMachine} (hds : m.isDS = false) (hs : m.mStatePtr ≠ .acquired)
    (cs : List Call) (hacq : (run m cs).mStatePtr = .acquired) :
    ∀ nd ∈ (run m cs).mSubscribers, nd.subscriber.isInactive = false →
      GrantedDuring m cs nd.addr := by
  induction cs using List.reverseRecOn with
  | nil => exact absurd hacq hs
  | append_singleton cs c ih =>
      intro nd hnd hact
      rw [run_append] at hacq hnd
      have hdsrun : (run m cs).isDS = false := (run_config m cs).isDS.trans hds
      rcases step_granted hdsrun c (GrantedDuring m cs) ih hacq hnd hact with hold | hnow
      · rcases hold with ⟨cs₁, c', cs₂, rfl, hg⟩
        -- The grant of the shorter run is one of the longer run too.
        refine ⟨cs₁, c', cs₂ ++ [c], ?_, hg⟩
        rw [List.append_assoc, List.cons_append]
      · exact ⟨cs, c, [], rfl, hnow⟩

/-- An address that is given out and not listed stays unlisted. -/
theorem step_unlisted {m : AgpsStateMachine} (hds : m.isDS = false) (c : Call) {a : Nat}
    (hlt : a < m.nextAddr) (ha : a ∉ addrs m.mSubscribers) :
    a ∉ addrs (step m c).mSubscribers := by
  rcases effect_list (step_effect m c hds) with ⟨x, env, _, hlist, _⟩ | ⟨hlist, _⟩
  · rw [show (step m c).mSubscribers = _ from hlist]
    intro hmem
    rcases List.mem_map.mp hmem with ⟨nd, hnd, rfl⟩
    rcases addSubscriber_mem hnd with hold | hnew
    · exact ha (List.mem_map_of_mem hold)
    · rw [hnew] at hlt
      exact absurd hlt (Nat.lt_irrefl _)
  · exact fun hmem => ha (hlist.addrs.subset hmem)

/-- Nothing is ever told to an unlisted address that was given out. -/
theorem run_silent {m : AgpsStateMachine} (hds : m.isDS = false)
    (hm : Addressed m.mSubscribers m.nextAddr) {a : Nat} (hlt : a < m.nextAddr)
    (ha : a ∉ addrs m.mSubscribers) (cs : List Call) (c : Call) :
    notesFor a (notes (step (run m cs) c).out) = [] := by
  induction cs generalizing m with
  | nil =>
      refine List.filter_eq_nil_iff.mpr fun n hn hat => ?_
      rcases n with ⟨addr, s, status⟩
      rw [decide_eq_true_eq] at hat
      simp only at hat
      subst hat
      exact ha (effect_notes_listed (step_effect m c hds) hn)
  | cons c' cs ih =>
      have hstep := step_addressed hds hm c'
      exact ih ((step_config m c').isDS.trans hds) hstep.1 (Nat.lt_of_lt_of_le hlt hstep.2)
        (step_unlisted hds c' hlt ha)

/-- In every run of a servicer machine: while it is in Acquired, every active
    subscriber has been granted the connection; and a subscriber that a call
    takes off the list is told exactly one of UNSUBSCRIBE, RELEASED and DENIED
    in that call, and nothing later. Subscribers are known by the addresses of
    their objects here, so that one who comes back is another one. -/
theorem notification_protocol (peek : Subscriber → IPv6Addr) (type : AGpsExtType)
    (enforce : Bool) (cs : List Call) :
    let m := run (new peek type enforce) cs
    (m.mStatePtr = .acquired → ∀ nd ∈ m.mSubscribers, nd.subscriber.isInactive = false →
      GrantedDuring (new peek type enforce) cs nd.addr) ∧
    (∀ c, ∀ nd ∈ m.mSubscribers, nd.addr ∉ addrs (step m c).mSubscribers →
      (∃ status : AgpsRsrcStatus, status.isFarewell ∧
        notesFor nd.addr (notes (step m c).out) = [(some nd.addr, nd.subscriber, status)]) ∧
      ∀ cs' c', notesFor nd.addr (notes (step (run (step m c) cs') c').out) = []) := by
  intro m
  have hds : m.isDS = false := (run_config (new peek type enforce) cs).isDS
  have hnew : Addressed (new peek type enforce).mSubscribers (new peek type enforce).nextAddr :=
    ⟨List.nodup_nil, fun _ h => absurd h List.not_mem_nil⟩
  have haddr : Addressed m.mSubscribers m.nextAddr := (run_addressed rfl hnew cs).1
  refine ⟨run_granted rfl (fun h => by cases h) cs, fun c nd hnd hgone => ⟨?_, ?_⟩⟩
  · exact effect_removed (step_effect m c hds) haddr hnd hgone
  · have hstep := step_addressed hds haddr c
    exact run_silent ((step_config m c).isDS.trans hds) hstep.1
      (Nat.lt_of_lt_of_le (haddr.lt nd hnd) hstep.2) hgone

end Agps

end Victara
