import Mathlib.Data.List.Infix
import Victara.LocApi.LocApiBase

/-!
# The Client Follows the Adapters

Once all messages are processed, and the modem refused nothing, the client
should be open exactly when there is an adapter, and have the mask that the
adapters want together.

It has at least that mask. But a message can only add to the mask, also the one
that is sent to remove a bit, so it may have more; and the client is closed by
the last `removeAdapter` itself, so a message that is still waiting then opens
it again. The mask that the client will have once it has processed what is
waiting is the invariant: it is what the adapters want, up to what the call
that is going on has still to ask for.

What the client will have is computed from the queue, message by message, and it
is this mask that the steps keep to what is wanted. A message that waits can
only add to it, unless one that builds it up anew is behind. An adapter that
comes makes both masks grow. One that goes makes the wanted one smaller and
leaves the other, so that its events have to be wanted by somebody else, or go
when the mask is built up anew.

## Main definitions

* `wanted`: What the adapters want together.
* `Follows`: What should hold once all messages are processed.
* `askedBy`: The events that a message asks for by itself.
* `afterQueue`: The mask of the client after the messages that wait.
* `Resyncs`: The mask is built up anew, and nothing else is asked for after
  that.
* `stillAsks`: What the call that is going on has still to ask for.
* `willHave`: The mask of the client once it has processed what waits.
* `KeepsUp`: A step leaves nothing behind.
* `FollowsInv`: The invariant.
* `sharedEvents`: One adapter more and one less, with the same events, and a
  restart.
* `secondRemoved`: The second of two adapters goes, with an event that the first
  one does not want.

## Theorems

* `afterQueue_append`, `afterQueue_mono`, `afterQueue_grow`,
  `afterQueue_of_resyncs`: What the waiting messages come to.
* `willHave_of_idle`: Between two calls the client is going to have what the
  adapters want.
* `wanted_within_iff`, `wanted_mono`, `wanted_within_or`, `wanted_of_covered`:
  What is wanted, and how it changes.
* `followsInv_removeAdapter`: Whoever keeps up leaves the client with no event
  that nobody wants.
* `afterQueue_openMsg`: The client has what the message asks for, and what it
  had.
* `openClient_true`: The mask after `open`, when the modem does not refuse.
* `getEvtMask_eq`: While no slot is empty, a restart of the modem asks for what
  is wanted.
* `followsInv_step`: What every step keeps.
* `follows_of_keepsUp`: The client follows in every run that keeps up.
-/

namespace Victara

namespace LocApi

open Mask StepSystem

namespace LocApiBase

variable (evtMask : AdapterId → EventMask)

/-- The events of the adapters, without those that are excluded. -/
def wanted (s : LocApiBase) : EventMask :=
  union (s.mLocAdapters.map evtMask) &&& ~~~s.client.mExcludedMask

def Follows (s : LocApiBase) : Prop :=
  s.allOk = true → s.queue = [] → s.call = .idle →
    (s.client.clientHandle = true ↔ s.mLocAdapters ≠ []) ∧
    (s.mLocAdapters ≠ [] → s.client.mMask = s.wanted evtMask)

instance : DecidablePred (Follows evtMask) := fun _ =>
  inferInstanceAs (Decidable (_ → _ → _ → (_ ↔ _) ∧ (_ → _)))

/-! ## Messages that wait -/

/-- The events that a message asks for by itself. -/
def askedBy : LocApiMsg → EventMask
  | .openMsg mMask => mMask
  | .ssrMsg => 0#32

/-- The mask of the client after some messages. `u` is what the adapters want,
    and is asked for after a restart of the modem. -/
def afterQueue (excluded u : EventMask) : List LocApiMsg → EventMask → EventMask
  | [], mask => mask
  | .openMsg mMask :: rest, mask => afterQueue excluded u rest (mask ||| (mMask &&& ~~~excluded))
  | .ssrMsg :: rest, _ => afterQueue excluded u rest u

/-- The mask is built up anew, and nothing else is asked for after that. -/
def Resyncs (excluded u : EventMask) (queue : List LocApiMsg) : Prop :=
  ∃ rest ∈ queue.tails, rest.head? = some .ssrMsg ∧
    ∀ msg ∈ rest, Within (askedBy msg &&& ~~~excluded) u

instance (excluded u : EventMask) : DecidablePred (Resyncs excluded u) := fun queue =>
  inferInstanceAs (Decidable (∃ rest ∈ queue.tails, _ ∧ ∀ msg ∈ rest, Within _ _))

variable {excluded u u' : EventMask}

theorem afterQueue_append (queue queue' : List LocApiMsg) (mask : EventMask) :
    afterQueue excluded u (queue ++ queue') mask =
      afterQueue excluded u queue' (afterQueue excluded u queue mask) := by
  induction queue generalizing mask with
  | nil => rfl
  | cons msg queue ih =>
      cases msg with
      | openMsg mMask => exact ih (mask ||| (mMask &&& ~~~excluded))
      | ssrMsg => exact ih u

/-- More to begin with is more at the end. -/
theorem afterQueue_mono (queue : List LocApiMsg) {m m' : EventMask} (hu : Within u u')
    (hm : Within m m') : Within (afterQueue excluded u queue m) (afterQueue excluded u' queue m') := by
  induction queue generalizing m m' with
  | nil => exact hm
  | cons msg queue ih =>
      cases msg with
      | openMsg mMask => exact ih (or_within_or hm (within_refl _))
      | ssrMsg => exact ih hu

/-- What the adapters want may grow, and the mask then grows by no more. -/
theorem afterQueue_grow (queue : List LocApiMsg) {m m' : EventMask} (hm : Within m' (m ||| u')) :
    Within (afterQueue excluded u' queue m') (afterQueue excluded u queue m ||| u') := by
  induction queue generalizing m m' with
  | nil => exact hm
  | cons msg queue ih =>
      cases msg with
      | openMsg mMask =>
          apply ih
          refine or_within_iff.mpr ⟨within_trans hm ?_, ?_⟩
          · exact or_within_or (within_or_left _ _) (within_refl _)
          · exact within_trans (within_or_right m _) (within_or_left _ u')
      | ssrMsg => exact ih (within_or_right _ _)

theorem afterQueue_within (queue : List LocApiMsg) {m : EventMask} (hm : Within m u)
    (hqueue : ∀ msg ∈ queue, Within (askedBy msg &&& ~~~excluded) u) :
    Within (afterQueue excluded u queue m) u := by
  induction queue generalizing m with
  | nil => exact hm
  | cons msg queue ih =>
      have hrest : ∀ msg ∈ queue, Within (askedBy msg &&& ~~~excluded) u :=
        fun msg' h => hqueue msg' (List.mem_cons_of_mem msg h)
      cases msg with
      | openMsg mMask =>
          have hhead : Within (mMask &&& ~~~excluded) u := hqueue _ List.mem_cons_self
          exact ih (or_within_iff.mpr ⟨hm, hhead⟩) hrest
      | ssrMsg => exact ih (within_refl u) hrest

/-- A mask that is built up anew does not depend on the one before. -/
theorem afterQueue_of_resyncs {queue : List LocApiMsg} (h : Resyncs excluded u queue)
    (mask : EventMask) : Within (afterQueue excluded u queue mask) u := by
  rcases h with ⟨rest, hrest, hhead, hasked⟩
  rcases (List.mem_tails rest queue).mp hrest with ⟨front, hqueue⟩
  rw [← hqueue, afterQueue_append]
  cases rest with
  | nil => cases hhead
  | cons msg rest =>
      cases Option.some.inj hhead
      exact afterQueue_within rest (within_refl u) fun msg h => hasked msg (List.mem_cons_of_mem _ h)

/-! ## What keeps up -/

/-- What the call that is going on has still to ask for. -/
def stillAsks (s : LocApiBase) : EventMask :=
  match s.call with
  | .idle => 0#32
  | .adding adapter => evtMask adapter &&& ~~~s.client.mExcludedMask
  | .shifting _ | .shifted => s.wanted evtMask

/-- The mask of the client once it has processed what waits. -/
def willHave (s : LocApiBase) : EventMask :=
  afterQueue s.client.mExcludedMask (s.wanted evtMask) s.queue s.client.mMask

/-- Every event of an adapter that goes is wanted by one that stays, or the mask
    is going to be built up anew. No message waits when the last adapter closes
    the client, and none is sent by the modem when there is no adapter. `open`
    of the client only adds events, so that one which nobody wants any more
    stays registered. It goes only when the client is closed and opened again,
    which the messages in the queue do if one of them is about a restart of the
    modem: that is `Resyncs`. A message that is processed after the last adapter
    has gone opens the client again for nobody. -/
def KeepsUp (s : LocApiBase) : LocApiLabel → Prop
  | .removeAdapter adapter =>
      let left := s.removeAdapter adapter
      adapter ∈ s.mLocAdapters → left.mLocAdapters ≠ [] →
        Within (evtMask adapter &&& ~~~s.client.mExcludedMask) (left.wanted evtMask) ∨
          Resyncs s.client.mExcludedMask (left.wanted evtMask) s.queue
  | .call => s.call = .shifted → s.mLocAdapters = [] → s.queue = []
  | .engineUp => s.mLocAdapters = [] → s.call ≠ .idle
  | .addAdapter _ | .proc _ => True

instance (s : LocApiBase) : DecidablePred (KeepsUp evtMask s)
  | .removeAdapter _ => inferInstanceAs (Decidable (_ → _ → Within _ _ ∨ Resyncs _ _ _))
  | .call => inferInstanceAs (Decidable (_ → _ → _))
  | .engineUp => inferInstanceAs (Decidable (_ → ¬ _))
  | .addAdapter _ => isTrue trivial
  | .proc _ => isTrue trivial

/-- The mask that the client will have once it has processed what is waiting,
    between two bounds: it is no more than what the adapters want, and with what
    the call that is going on has still to ask for no less. With nothing waiting
    and no call the two bounds meet. -/
structure FollowsInv (s : LocApiBase) : Prop where
  gone : s.mLocAdapters = [] → s.call = .idle →
    s.queue = [] ∧ s.client.clientHandle = false ∧ s.client.mMask = 0#32
  listed : ∀ adapter, s.call = .adding adapter → adapter ∈ s.mLocAdapters
  opened : s.mLocAdapters ≠ [] → s.client.clientHandle = true ∨ s.queue ≠ [] ∨ s.call ≠ .idle
  noMore : s.mLocAdapters ≠ [] → Within (s.willHave evtMask) (s.wanted evtMask)
  noLess : s.mLocAdapters ≠ [] →
    Within (s.wanted evtMask) (s.willHave evtMask ||| s.stillAsks evtMask)

variable {evtMask}

theorem follows_of_followsInv {s : LocApiBase} (h : s.allOk = true → FollowsInv evtMask s) :
    Follows evtMask s := by
  intro hok hqueue hidle
  have hinv := h hok
  have hhave : s.willHave evtMask = s.client.mMask := by rw [willHave, hqueue, afterQueue]
  have hasks : s.stillAsks evtMask = 0#32 := by rw [stillAsks, hidle]
  refine ⟨⟨fun hopen hnil => ?_, fun hne => ?_⟩, fun hne => ?_⟩
  · rw [(hinv.gone hnil hidle).2.1] at hopen
    cases hopen
  · rcases hinv.opened hne with hopen | hq | hcall
    · exact hopen
    · exact absurd hqueue hq
    · exact absurd hidle hcall
  · have hmore := hinv.noMore hne
    have hless := hinv.noLess hne
    rw [hhave] at hmore hless
    rw [hasks, BitVec.or_zero] at hless
    exact within_antisymm hmore hless

/-- Between two calls the client is going to have what the adapters want. -/
theorem willHave_of_idle {s : LocApiBase} (h : FollowsInv evtMask s) (hidle : s.call = .idle) :
    s.willHave evtMask = s.wanted evtMask := by
  by_cases hnil : s.mLocAdapters = []
  · have hgone := h.gone hnil hidle
    rw [willHave, wanted, hgone.1, hgone.2.2, hnil]
    simp [afterQueue, union]
  · have hless := h.noLess hnil
    rw [stillAsks, hidle, BitVec.or_zero] at hless
    exact within_antisymm (h.noMore hnil) hless

/-! ## Adapters that come and go -/

theorem wanted_within_iff {s : LocApiBase} {m : EventMask} :
    Within (s.wanted evtMask) m ↔
      ∀ adapter ∈ s.mLocAdapters, Within (evtMask adapter &&& ~~~s.client.mExcludedMask) m := by
  unfold wanted
  rw [← within_diff_or, union_within_iff, List.forall_mem_map]
  simp only [within_diff_or]

theorem within_wanted {s : LocApiBase} {adapter : AdapterId} (h : adapter ∈ s.mLocAdapters) :
    Within (evtMask adapter &&& ~~~s.client.mExcludedMask) (s.wanted evtMask) :=
  wanted_within_iff.mp (within_refl _) adapter h

/-- What a state with fewer adapters wants is less. -/
theorem wanted_mono {s t : LocApiBase} (hclient : t.client.mExcludedMask = s.client.mExcludedMask)
    (hsub : ∀ adapter ∈ s.mLocAdapters, adapter ∈ t.mLocAdapters) :
    Within (s.wanted evtMask) (t.wanted evtMask) := by
  refine wanted_within_iff.mpr fun adapter h => ?_
  rw [← hclient]
  exact within_wanted (hsub adapter h)

/-- One adapter is all that two states differ by. -/
theorem wanted_within_or {s t : LocApiBase} {a : AdapterId}
    (hclient : t.client.mExcludedMask = s.client.mExcludedMask)
    (hsub : ∀ adapter ∈ s.mLocAdapters, adapter = a ∨ adapter ∈ t.mLocAdapters) :
    Within (s.wanted evtMask)
      (t.wanted evtMask ||| (evtMask a &&& ~~~s.client.mExcludedMask)) := by
  refine wanted_within_iff.mpr fun adapter h => ?_
  rcases hsub adapter h with heq | ht
  · rw [heq]
    exact within_or_right _ _
  · rw [← hclient]
    exact within_trans (within_wanted ht) (within_or_left _ _)

/-- Without an adapter whose events the others want too, no less is wanted. -/
theorem wanted_of_covered {s t : LocApiBase} {a : AdapterId} (hin : a ∈ s.mLocAdapters)
    (hlist : t.mLocAdapters = shiftUp s.mLocAdapters (s.mLocAdapters.idxOf a))
    (hclient : t.client.mExcludedMask = s.client.mExcludedMask)
    (hcovered : Within (evtMask a &&& ~~~s.client.mExcludedMask) (t.wanted evtMask)) :
    t.wanted evtMask = s.wanted evtMask := by
  have hless : Within (t.wanted evtMask) (s.wanted evtMask) :=
    wanted_mono hclient.symm fun x hx => mem_of_mem_shiftUp (hlist ▸ hx)
  refine within_antisymm hless (within_trans ?_ (or_within_iff.mpr ⟨within_refl _, hcovered⟩))
  refine wanted_within_or hclient fun x hx => ?_
  by_cases hxa : x = a
  · exact .inl hxa
  · -- Only the slot of `a` is given away.
    rw [hlist]
    refine .inr (mem_shiftUp hx (fun hno => hxa ?_) (List.idxOf_lt_length_of_mem hin))
    rw [List.getElem?_idxOf hin] at hno
    exact (Option.some.inj hno).symm

theorem followsInv_addAdapter {s : LocApiBase} (h : FollowsInv evtMask s) (hidle : s.call = .idle)
    (a : AdapterId) : FollowsInv evtMask (s.addAdapter a) := by
  unfold addAdapter
  split
  · exact h
  · have hhave := willHave_of_idle h hidle
    generalize ht : ({ s with mLocAdapters := s.mLocAdapters ++ [a], call := .adding a } :
      LocApiBase) = t
    have hlist : t.mLocAdapters = s.mLocAdapters ++ [a] := by rw [← ht]
    have hcall : t.call = .adding a := by rw [← ht]
    have hclient : t.client = s.client := by rw [← ht]
    have hqueue : t.queue = s.queue := by rw [← ht]
    have hin : a ∈ t.mLocAdapters := by simp [hlist]
    have hgrow : Within (s.wanted evtMask) (t.wanted evtMask) :=
      wanted_mono (by rw [hclient]) fun x hx => by simp [hlist, hx]
    refine { gone := fun hnil => ?_, listed := fun x hx => ?_, opened := fun _ => ?_,
             noMore := fun _ => ?_, noLess := fun _ => ?_ }
    · rw [hnil] at hin
      cases hin
    · rw [hcall] at hx
      cases hx
      exact hin
    · exact .inr (.inr (by simp [hcall]))
    -- What is asked for after a restart has grown, and that is wanted now.
    · have hmask : Within s.client.mMask (s.client.mMask ||| t.wanted evtMask) :=
        within_or_left _ _
      have hmore := @afterQueue_grow s.client.mExcludedMask (s.wanted evtMask) _ s.queue _ _ hmask
      rw [willHave, hclient, hqueue]
      have hold : Within (s.willHave evtMask) (t.wanted evtMask) := by rw [hhave]; exact hgrow
      exact within_trans hmore (or_within_iff.mpr ⟨hold, within_refl _⟩)
    · have hold : Within (s.wanted evtMask) (t.willHave evtMask) := by
        rw [← hhave, willHave, willHave, hclient, hqueue]
        exact afterQueue_mono s.queue hgrow (within_refl _)
      have hnew : Within (t.wanted evtMask)
          (s.wanted evtMask ||| (evtMask a &&& ~~~t.client.mExcludedMask)) := by
        refine wanted_within_or (by rw [hclient]) fun x hx => ?_
        simpa [hlist, or_comm] using hx
      rw [stillAsks, hcall]
      exact within_trans hnew (or_within_or hold (within_refl _))

/-- Whoever keeps up leaves the client with no event that nobody wants. -/
theorem followsInv_removeAdapter {s : LocApiBase} (h : FollowsInv evtMask s)
    (hidle : s.call = .idle) {a : AdapterId} (hkeeps : KeepsUp evtMask s (.removeAdapter a)) :
    FollowsInv evtMask (s.removeAdapter a) := by
  by_cases hin : a ∈ s.mLocAdapters
  · have hhave := willHave_of_idle h hidle
    have hleft := hkeeps hin
    generalize ht : s.removeAdapter a = t at hleft ⊢
    rw [removeAdapter, if_pos hin] at ht
    have hlist : t.mLocAdapters = shiftUp s.mLocAdapters (s.mLocAdapters.idxOf a) := by rw [← ht]
    have hcall : t.call = .shifting (s.mLocAdapters.idxOf a) := by rw [← ht]
    have hclient : t.client = s.client := by rw [← ht]
    have hqueue : t.queue = s.queue := by rw [← ht]
    refine { gone := fun _ hno => ?_, listed := fun x hx => ?_, opened := fun _ => ?_,
             noMore := fun hne => ?_, noLess := fun _ => ?_ }
    · rw [hcall] at hno
      cases hno
    · rw [hcall] at hx
      cases hx
    · exact .inr (.inr (by simp [hcall]))
    -- The others want as much as before, or one of them asks for the mask again.
    · rw [willHave, hclient, hqueue]
      rcases hleft hne with hcovered | hresyncs
      · have hsame : t.wanted evtMask = s.wanted evtMask :=
          wanted_of_covered hin hlist (by rw [hclient]) hcovered
        have hold : Within (s.willHave evtMask) (s.wanted evtMask) := by
          rw [hhave]
          exact within_refl _
        rw [hsame]
        exact hold
      · exact afterQueue_of_resyncs hresyncs _
    · rw [stillAsks, hcall]
      exact within_or_right _ _
  · rw [removeAdapter, if_neg hin]
    exact h

/-! ## The rest of a call, and messages -/

theorem followsInv_sendMsg {s : LocApiBase} (msg : LocApiMsg) (call : CallPc)
    (hcall : ∀ adapter, call ≠ .adding adapter)
    (hgone : s.mLocAdapters = [] → call ≠ .idle)
    (hmore : s.mLocAdapters ≠ [] →
      Within (afterQueue s.client.mExcludedMask (s.wanted evtMask) [msg] (s.willHave evtMask))
        (s.wanted evtMask))
    (hless : s.mLocAdapters ≠ [] →
      Within (s.wanted evtMask)
        (afterQueue s.client.mExcludedMask (s.wanted evtMask) [msg] (s.willHave evtMask))) :
    FollowsInv evtMask { s.sendMsg msg with call := call } := by
  have hhave : ({ s.sendMsg msg with call := call } : LocApiBase).willHave evtMask =
      afterQueue s.client.mExcludedMask (s.wanted evtMask) [msg] (s.willHave evtMask) :=
    afterQueue_append s.queue [msg] s.client.mMask
  refine { gone := fun hnil hidle => absurd hidle (hgone hnil),
           listed := fun a ha => absurd ha (hcall a), opened := fun _ => .inr (.inl ?_),
           noMore := fun hne => ?_, noLess := fun hne => ?_ }
  · simp [sendMsg]
  · rw [hhave]
    exact hmore hne
  · rw [hhave]
    exact within_trans (hless hne) (within_or_left _ _)

/-- The client has what the message asks for, and what it had. -/
theorem afterQueue_openMsg (mMask m : EventMask) :
    afterQueue excluded u [.openMsg mMask] m = m ||| (mMask &&& ~~~excluded) := rfl

theorem followsInv_finish {s t : LocApiBase} (h : FollowsInv evtMask s)
    (hkeeps : KeepsUp evtMask s .call) (ht : s.finish evtMask = some t) :
    FollowsInv evtMask t := by
  unfold finish at ht
  cases hcall : s.call with
  | idle =>
      rw [hcall] at ht
      cases ht
  | adding a =>
      rw [hcall] at ht
      cases ht
      -- The message asks for what this adapter wants, and the adapter is listed.
      have hin := h.listed a hcall
      refine followsInv_sendMsg _ _ (fun a' => by simp) (fun hnil => ?_) (fun hne => ?_)
        (fun hne => ?_)
      · rw [hnil] at hin
        cases hin
      · rw [afterQueue_openMsg]
        exact or_within_iff.mpr ⟨h.noMore hne, within_wanted hin⟩
      · have hless := h.noLess hne
        rw [stillAsks, hcall] at hless
        rw [afterQueue_openMsg]
        exact hless
  | shifting i =>
      rw [hcall] at ht
      cases ht
      -- The message is still to come, and the call under way asks for it.
      refine { gone := fun _ hno => ?_, listed := fun a ha => ?_, opened := fun _ => ?_,
               noMore := h.noMore, noLess := fun hne => ?_ }
      · cases hno
      · cases ha
      · exact .inr (.inr (by simp))
      · exact within_or_right _ _
  | shifted =>
      rw [hcall] at ht
      by_cases hnil : s.mLocAdapters = []
      · -- Without adapters the client is closed at once, past the queue.
        rw [if_pos hnil] at ht
        cases ht
        refine { gone := fun _ _ => ⟨hkeeps hcall hnil, rfl, rfl⟩, listed := fun a ha => ?_,
                 opened := fun hne => absurd hnil hne, noMore := fun hne => absurd hnil hne,
                 noLess := fun hne => absurd hnil hne }
        cases ha
      · rw [if_neg hnil] at ht
        cases ht
        have hmask : s.getEvtMask evtMask &&& ~~~s.client.mExcludedMask = s.wanted evtMask := by
          rw [getEvtMask, visible, hcall, BitVec.and_assoc, BitVec.and_self]
          rfl
        refine followsInv_sendMsg _ _ (fun a' => by simp) (fun hno => absurd hno hnil)
          (fun hne => ?_) (fun _ => ?_)
        · rw [afterQueue_openMsg, hmask]
          exact or_within_iff.mpr ⟨h.noMore hne, within_refl _⟩
        · rw [afterQueue_openMsg, hmask]
          exact within_or_right _ _

theorem followsInv_engineUp {s : LocApiBase} (h : FollowsInv evtMask s)
    (hkeeps : KeepsUp evtMask s .engineUp) : FollowsInv evtMask (s.sendMsg .ssrMsg) := by
  refine { gone := fun hnil hidle => absurd hidle (hkeeps hnil), listed := h.listed,
           opened := fun _ => .inr (.inl (by simp [sendMsg])), noMore := fun _ => ?_,
           noLess := fun _ => ?_ }
  all_goals
    have hhave : (s.sendMsg .ssrMsg).willHave evtMask = s.wanted evtMask :=
      afterQueue_append s.queue [.ssrMsg] s.client.mMask
    rw [hhave]
  · exact within_refl _
  · exact within_or_left _ _

/-- The mask after `open`, when the modem does not refuse. -/
theorem openClient_true (api : LocApiV02) (mask : EventMask) :
    (api.openClient mask true).mMask = api.newMask mask ∧
      (api.openClient mask true).clientHandle = true ∧
      (api.openClient mask true).mExcludedMask = api.mExcludedMask := by
  cases hopen : api.clientHandle with
  | false => simp [LocApiV02.openClient_of_closed hopen]
  | true =>
      rw [LocApiV02.openClient_of_open hopen]
      by_cases hnew : api.newMask mask = api.mMask
      · simp [hnew, hopen]
      · simp [hnew, hopen]

theorem getEvtMask_within (s : LocApiBase) : Within (s.getEvtMask evtMask) (s.wanted evtMask) := by
  have hsub : ∀ x ∈ s.visible, x ∈ s.mLocAdapters := by
    intro x hx
    unfold visible at hx
    split at hx
    · exact List.mem_of_mem_take hx
    · exact hx
  exact @wanted_mono evtMask { s with mLocAdapters := s.visible } s rfl hsub

/-- While no slot is empty, a restart of the modem asks for what is wanted. -/
theorem getEvtMask_eq {s : LocApiBase} (h : ∀ i, s.call ≠ .shifting i) :
    s.getEvtMask evtMask = s.wanted evtMask := by
  unfold getEvtMask visible
  split
  · next i hi => exact absurd hi (h i)
  · rfl

theorem followsInv_opened {s t : LocApiBase} (h : FollowsInv evtMask s)
    (hlist : t.mLocAdapters = s.mLocAdapters) (hcall : t.call = s.call) (hwaits : s.queue ≠ [])
    (hopen : t.client.clientHandle = true)
    (hclient : t.client.mExcludedMask = s.client.mExcludedMask)
    (hmore : Within (t.willHave evtMask) (s.willHave evtMask))
    (hless : Within (s.willHave evtMask) (t.willHave evtMask) ∨ ∃ i, s.call = .shifting i) :
    FollowsInv evtMask t := by
  have hwanted : t.wanted evtMask = s.wanted evtMask := by rw [wanted, wanted, hlist, hclient]
  have hasks : t.stillAsks evtMask = s.stillAsks evtMask := by
    rw [stillAsks, stillAsks, hcall, hclient, hwanted]
  refine { gone := fun hnil hidle => ?_, listed := ?_, opened := fun _ => .inl hopen,
           noMore := fun hne => ?_, noLess := fun hne => ?_ }
  · rw [hlist] at hnil
    rw [hcall] at hidle
    exact absurd (h.gone hnil hidle).1 hwaits
  · rw [hlist, hcall]
    exact h.listed
  · rw [hlist] at hne
    rw [hwanted]
    exact within_trans hmore (h.noMore hne)
  · rw [hlist] at hne
    rw [hwanted, hasks]
    rcases hless with hless | ⟨i, hi⟩
    · exact within_trans (h.noLess hne) (or_within_or hless (within_refl _))
    · -- Whoever has emptied a slot asks for all of it in the end.
      rw [stillAsks, hi]
      exact within_or_right _ _

theorem followsInv_process {s : LocApiBase} {msg : LocApiMsg} {rest : List LocApiMsg}
    (h : FollowsInv evtMask s) (hqueue : s.queue = msg :: rest) :
    FollowsInv evtMask ({ s with queue := rest }.process evtMask msg true) := by
  have hwaits : s.queue ≠ [] := by simp [hqueue]
  cases msg with
  | openMsg mMask =>
      have hopen := openClient_true s.client mMask
      have hhave : ({ s with queue := rest }.process evtMask (.openMsg mMask) true).willHave evtMask =
          s.willHave evtMask := by
        simp only [willHave, wanted, process, hopen, hqueue, afterQueue, LocApiV02.newMask]
      refine followsInv_opened h rfl rfl hwaits hopen.2.1 hopen.2.2 ?_ (.inl ?_)
      · rw [hhave]
        exact within_refl _
      · rw [hhave]
        exact within_refl _
  | ssrMsg =>
      have hopen := openClient_true s.client.closeClient
        ({ s with queue := rest }.getEvtMask evtMask)
      -- A client that is opened anew has no events but those that are asked for.
      have hmask : s.client.closeClient.newMask ({ s with queue := rest }.getEvtMask evtMask) =
          s.getEvtMask evtMask := by
        rw [LocApiV02.newMask, getEvtMask, BitVec.and_assoc]
        simp [LocApiV02.closeClient, getEvtMask, visible]
      have hhave : ({ s with queue := rest }.process evtMask .ssrMsg true).willHave evtMask =
          afterQueue s.client.mExcludedMask (s.wanted evtMask) rest (s.getEvtMask evtMask) := by
        simp only [willHave, wanted, process, hopen, hmask]
        rfl
      have hold : s.willHave evtMask =
          afterQueue s.client.mExcludedMask (s.wanted evtMask) rest (s.wanted evtMask) := by
        rw [willHave, hqueue, afterQueue]
      refine followsInv_opened h rfl rfl hwaits hopen.2.1 hopen.2.2 ?_ ?_
      · rw [hhave, hold]
        exact afterQueue_mono rest (within_refl _) (getEvtMask_within s)
      · by_cases hslot : ∃ i, s.call = .shifting i
        · exact .inr hslot
        · rw [hhave, hold, getEvtMask_eq fun i hi => hslot ⟨i, hi⟩]
          exact .inl (within_refl _)

/-! ## Runs -/

theorem followsInv_step {s t : LocApiBase} {l : LocApiLabel}
    (h : s.allOk = true → FollowsInv evtMask s) (hkeeps : KeepsUp evtMask s l)
    (ht : step evtMask s l = some t) : t.allOk = true → FollowsInv evtMask t := by
  intro hok
  cases l with
  | addAdapter a =>
      rw [step, Option.ite_none_right_eq_some] at ht
      rcases ht with ⟨hidle, ht⟩
      cases ht
      have hsame : (s.addAdapter a).allOk = s.allOk := by
        unfold addAdapter
        split <;> rfl
      exact followsInv_addAdapter (h (hsame ▸ hok)) hidle a
  | removeAdapter a =>
      rw [step, Option.ite_none_right_eq_some] at ht
      rcases ht with ⟨hidle, ht⟩
      cases ht
      have hsame : (s.removeAdapter a).allOk = s.allOk := by
        unfold removeAdapter
        split <;> rfl
      exact followsInv_removeAdapter (h (hsame ▸ hok)) hidle hkeeps
  -- A callback of the list registers nothing, so what was acknowledged stays.
  | call =>
      have hsame : t.allOk = s.allOk := by
        rw [step, finish] at ht
        split at ht
        · cases ht
        · cases ht; rfl
        · cases ht; rfl
        · split at ht <;> cases ht <;> rfl
      exact followsInv_finish (h (hsame ▸ hok)) hkeeps ht
  | engineUp =>
      cases ht
      exact followsInv_engineUp (h hok) hkeeps
  | proc ok =>
      cases hqueue : s.queue with
      | nil => simp [step, hqueue] at ht
      | cons msg rest =>
          simp only [step, hqueue, Option.some.injEq] at ht
          -- The flag goes down for good with the first registration that fails.
          have hboth : s.allOk = true ∧ ok = true := by
            rw [← ht] at hok
            cases msg <;> simpa [process] using hok
          rw [← ht, hboth.2]
          exact followsInv_process (h hboth.1) hqueue

theorem followsInv_init (batchedBreachReport mExcludedMask : EventMask) :
    FollowsInv evtMask (.init batchedBreachReport mExcludedMask) :=
  { gone := fun _ _ => ⟨rfl, rfl, rfl⟩, listed := (fun _ h => by cases h),
    opened := fun hne => absurd rfl hne, noMore := fun hne => absurd rfl hne,
    noLess := fun hne => absurd rfl hne }

/-- The client follows the adapters in every run that leaves nothing behind:
    when no message waits and no call is under way, and all that was asked of
    the modem has worked, it is open iff there is an adapter, and registered for
    just what the adapters want. -/
theorem follows_of_keepsUp (evtMask : AdapterId → EventMask)
    (batchedBreachReport mExcludedMask : EventMask) (run : List LocApiLabel)
    (h : Meets (step evtMask) (KeepsUp evtMask) (init batchedBreachReport mExcludedMask) run) :
    Throughout (step evtMask) (Follows evtMask) (init batchedBreachReport mExcludedMask) run :=
  throughout_of_meets (fun _ hinv => follows_of_followsInv hinv)
    (fun _ _ _ hinv hkeeps ht => followsInv_step hinv hkeeps ht)
    (fun _ => followsInv_init batchedBreachReport mExcludedMask) h

/-- One adapter more and one less, with the same events, and a restart. -/
def sharedEvents : List LocApiLabel :=
  [.addAdapter 0, .call, .proc true, .addAdapter 1, .call, .engineUp, .proc true, .proc true,
    .removeAdapter 0, .call, .call, .proc true, .removeAdapter 1, .call, .call]

theorem sharedEvents_follow :
    Throughout (step fun _ => 0x3#32) (Follows fun _ => 0x3#32) (init 0#32 0#32) sharedEvents :=
  follows_of_keepsUp (fun _ => 0x3#32) 0#32 0#32 sharedEvents (by decide +kernel)

/-- The second of two adapters goes, with an event that the first one does not
    want. -/
def secondRemoved : List LocApiLabel :=
  [.addAdapter 0, .call, .proc true, .addAdapter 1, .call, .proc true, .removeAdapter 1, .call,
    .call, .proc true]

/-- The events of an adapter that is gone stay in the mask. -/
theorem removed_events_stay :
    ¬ Throughout (step fun adapter => if adapter = 0 then 0x1#32 else 0x2#32)
      (Follows fun adapter => if adapter = 0 then 0x1#32 else 0x2#32) (init 0#32 0#32)
      secondRemoved := by
  decide +kernel

end LocApiBase

end LocApi

end Victara
