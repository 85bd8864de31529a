import Mathlib.Data.Finset.Card
import Victara.Sync.Answered

/-!
# One Indication for Each Waiting Request

How the indications of one id are shared out among the calls that wait for
it. The loop of `loc_sync_process_ind` is meant to stop at the first slot that
takes the indication, and `ind_has_arrived` is meant to keep a slot from being
handed a second one. Both have a gap. The loop stops only when the payload was
copied, so an indication that cannot be copied goes to every slot that asks
for it. And the flag is set only when nobody waits: between the signal to a
waiting caller and its `loc_free_slot` the slot looks unanswered, and takes
the next indication as well.

Away from the two gaps each indication is handed to one call, no call is
handed two, and as many indications as there are calls serve them all.

## Main definitions

* `VisitSafe`, `Untroubled`: The visits that fall into neither gap.
* `CallOnce`, `IndOnce`, `Once`: Who was handed what.
* `Selecting`: The calls of a key that hold their slots.
* `Served`: How many of them have been handed something.
* `Progress`: How far the serving is, from a count of `base` on.
* `twoSent`: Two calls have sent the same request and are about to wait.

## Theorems

* `callOnce_of_local`: Only the call that moved has to be looked at.
* `once_of_handed`: The part of `Once` that is about who was handed what, where
  nothing was handed.
* `handed_of_local`: What a step of a call does to its history: nothing.
* `IndOnce.of_handed`: The indication being processed does not care for what the
  calls do as long as they keep their slots.
* `once_of_held`: A step of a call that keeps its slot and its history.
* `once_of_flag`: A call that goes on, with the flag of its slot as it was.
* `CallOnce.of_same`: Neither the signal nor the flag of a call changes.
* `fresh_of_matches`: A slot that was handed an indication is the slot of a call
  that had none, and that asks for it.
* `handTo_callOnce`: The call that takes the indication has been handed that one
  and no other, and the signal or the flag says so.
* `handTo_indOnce`: Where the loop goes on after a slot that took the
  indication, the payload was not copied, and no later slot asks for it.
* `handTo_once`: The slot that takes the indication: nobody else was handed it,
  because no slot left to visit asked for it.
* `indOnce_of_none`: With no indication being processed there is nothing to say
  about one.
* `take_once`: A slot that is taken was cleared, so nothing has arrived in it.
* `full_once`: A call that finds no slot holds none, and has been handed
  nothing.
* `selectInd_once`: Writing a slot clears its flag, and before that nobody is
  handed anything.
* `freeSlot_once`: A call that frees its slot keeps what it was handed.
* `move_once`: An untroubled move keeps `Once`.
* `progress_of_handed`: A step that hands out nothing and leaves the indication
  thread alone.
* `matches_of_fresh`: A call that has been handed nothing and has written its
  slot matches an indication it asks for.
* `served_handTo_subset`: Handing an indication out serves nobody less.
* `served_handTo_lt`: Handing an indication to one who had nothing serves one
  more.
* `selecting_empty`: With no slot in use there is nobody to serve.
* `ahead_of_passed`: Whoever has nothing is still to be visited, and the slot
  just passed did not match.
* `served_of_ahead`: After the last slot nobody is left to be visited.
* `handTo_served`: A call that is handed an indication for the key had nothing,
  so one more is served.
* `processIndEnd_served`: An indication for the key that ends counts as
  processed, and has served somebody, or found everybody served.
* `move_served`: It serves one more with each indication.
* `all_served`: A stretch of a schedule in which the calls of `C` hold their
  slots and at least as many indications are processed: it serves them all.
* `one_indication_each`: The sharing out over untroubled schedules.
* `indications_shared`: What happens in the two gaps.
-/

namespace Victara

namespace Sync

variable {P : Type*} {g : Setup} {s t : State P}

/-- The caller of the slot was not signalled before, and an indication that
    cannot be copied is asked for by no later slot. Each half closes one of the
    two gaps. Between its signal and its `loc_free_slot` a caller has a slot
    that looks as if nothing had come for it, since the flag is set only when
    nobody waits. And the loop goes on behind a slot that it has signalled if
    there was nothing to copy. Both are about the state that the visit finds. -/
def VisitSafe (g : Setup) (s : State P) (ind : Ind P) (i : SelectId) : Prop :=
  (∀ c ∈ s.owner i, (s.calls c).signalled = false) ∧
  (s.copied g ind i = none → ∀ j, i < j → ∀ d ∈ s.owner j, (g.args d).key ≠ ind.key)

instance (g : Setup) (s : State P) (ind : Ind P) (i : SelectId) :
    Decidable (s.copied g ind i = none) :=
  decidable_of_iff ((s.copied g ind i).isNone = true) Option.isNone_iff_eq_none

instance (g : Setup) (s : State P) (ind : Ind P) (i : SelectId) :
    Decidable (VisitSafe g s ind i) :=
  inferInstanceAs (Decidable (_ ∧ _))

/-- Indications come for a valid client, and the slots they match are safe when
    they are visited. A free slot has the invalid handle, so that an indication
    for that would match all of them. What a safe slot is can only be said where
    the indication thread is, between two visits, since a caller may leave or go
    to wait in the meantime. -/
def Untroubled (g : Setup) (s : State P) : Label P → Prop
  | .indBegin key _ => key.client_handle ≠ LOC_CLIENT_INVALID_HANDLE_VALUE
  | .indVisit => ∀ ind ∈ s.ind, ∀ i : SelectId, i.val = ind.i → s.Matches ind i →
      VisitSafe g s ind i
  | _ => True

instance (g : Setup) (s : State P) : (l : Label P) → Decidable (Untroubled g s l)
  | .indBegin key _ =>
      inferInstanceAs (Decidable (key.client_handle ≠ LOC_CLIENT_INVALID_HANDLE_VALUE))
  | .indVisit => inferInstanceAs (Decidable (∀ ind ∈ s.ind, ∀ i : SelectId, i.val = ind.i →
      s.Matches ind i → VisitSafe g s ind i))
  | .alloc _ | .select _ | .send _ _ | .wait _ | .wake _ _ | .free _ | .indEnd => isTrue trivial

/-- A call has been handed nothing, and nothing says otherwise; or it has been
    handed one indication, and as long as it holds its slot the signal or the
    flag says so. -/
inductive CallOnce (s : State P) (c : CallId) : Prop
  | fresh (hnone : (s.calls c).handed = []) (hsig : (s.calls c).signalled = false)
      (harr : ∀ i, s.owner i = some c → (s.slots i).ind_has_arrived = false)
  | got (e : Handed) (hone : (s.calls c).handed = [e]) (hpc : (s.calls c).pc ≠ .idle)
      (hset : ∀ i, s.owner i = some c → (s.calls c).pc ≠ .selecting i ∧
        ((s.calls c).signalled = true ∨ (s.slots i).ind_has_arrived = true))

/-- The indication being processed has a valid client, and if it was handed to
    somebody and the loop goes on, no slot that is left asks for it. So whoever
    it is handed to next is the first. -/
structure IndOnce (g : Setup) (s : State P) (ind : Ind P) : Prop where
  lt : ind.seq < s.seq
  valid : ind.key.client_handle ≠ LOC_CLIENT_INVALID_HANDLE_VALUE
  rest : ind.consumed = false → ∀ c, ∀ e ∈ (s.calls c).handed, e.seq = ind.seq →
    ∀ j d, ind.i ≤ j.val → s.owner j = some d → (g.args d).key ≠ ind.key

/-- No call was handed two indications, and no indication went to two calls. An
    indication is known by its number, and the numbers that were given out are
    below the next one. -/
structure Once (g : Setup) (s : State P) : Prop where
  call : ∀ c, CallOnce s c
  ind : ∀ ind, s.ind = some ind → IndOnce g s ind
  lt : ∀ c, ∀ e ∈ (s.calls c).handed, e.seq < s.seq
  uniq : ∀ c d, ∀ e ∈ (s.calls c).handed, ∀ e' ∈ (s.calls d).handed, e.seq = e'.seq → c = d

theorem init_once : Once g (State.init : State P) := by
  refine ⟨fun c => .fresh rfl rfl (fun i h => by cases h), (fun ind h => by cases h), ?_, ?_⟩
  · exact fun c e h => absurd h List.not_mem_nil
  · exact fun c d e h => absurd h List.not_mem_nil

/-- Only the call that moved has to be looked at. -/
theorem callOnce_of_local {c : CallId} (hl : Local s t c) (hs : ∀ d, CallOnce s d)
    (hc : CallOnce t c) (d : CallId) : CallOnce t d := by
  by_cases hd : d = c
  · rw [hd]
    exact hc
  · have hcall := hl.calls d hd
    cases hs d with
    | fresh hnone hsig harr =>
        refine .fresh (by rw [hcall, hnone]) (by rw [hcall, hsig]) fun i hi => ?_
        have hold := (hl.owner d hd i).mp hi
        rw [hl.slots d hd i hold]
        exact harr i hold
    | got e hone hpc hset =>
        refine .got e (by rw [hcall, hone]) (by rw [hcall]; exact hpc) fun i hi => ?_
        have hold := (hl.owner d hd i).mp hi
        rw [hcall, hl.slots d hd i hold]
        exact hset i hold

/-- The part of `Once` that is about who was handed what, where nothing was
    handed. -/
theorem once_of_handed (h : Once g s) (hhanded : ∀ c, (t.calls c).handed = (s.calls c).handed)
    (hseq : s.seq ≤ t.seq) (hcall : ∀ c, CallOnce t c)
    (hind : ∀ ind, t.ind = some ind → IndOnce g t ind) : Once g t := by
  refine ⟨hcall, hind, fun c e he => ?_, fun c d e he e' he' => ?_⟩
  · rw [hhanded] at he
    exact Nat.lt_of_lt_of_le (h.lt c e he) hseq
  · rw [hhanded] at he he'
    exact h.uniq c d e he e' he'

/-- What a step of a call does to its history: nothing. -/
theorem handed_of_local {c : CallId} (hl : Local s t c)
    (hc : (t.calls c).handed = (s.calls c).handed) (d : CallId) :
    (t.calls d).handed = (s.calls d).handed := by
  by_cases hd : d = c
  · rw [hd, hc]
  · rw [hl.calls d hd]

/-- The indication being processed does not care for what the calls do as
    long as they keep their slots. -/
theorem IndOnce.of_handed {ind : Ind P} (h : IndOnce g s ind)
    (hhanded : ∀ c, (t.calls c).handed = (s.calls c).handed) (hseq : t.seq = s.seq)
    (howner : t.owner = s.owner) : IndOnce g t ind := by
  refine ⟨by rw [hseq]; exact h.lt, h.valid, fun hc c e he heq j d hj hd => ?_⟩
  rw [hhanded] at he
  rw [howner] at hd
  exact h.rest hc c e he heq j d hj hd

/-- A step of a call that keeps its slot and its history. -/
theorem once_of_held {c : CallId} {i : SelectId} (hs : Wf g s) (h : Once g s)
    (hpc : (s.calls c).pc.slot = some i) (howner : t.owner = s.owner)
    (hslots : ∀ j, j ≠ i → t.slots j = s.slots j)
    (hcalls : ∀ d, d ≠ c → t.calls d = s.calls d)
    (hhanded : (t.calls c).handed = (s.calls c).handed) (hseq : t.seq = s.seq)
    (hind : t.ind = s.ind) (hc : CallOnce t c) : Once g t := by
  have hl := local_of_held hs hpc howner hslots hcalls
  have hall := handed_of_local hl hhanded
  refine once_of_handed h hall (Nat.le_of_eq hseq.symm) (callOnce_of_local hl h.call hc)
    fun ind hi => ?_
  rw [hind] at hi
  exact (h.ind ind hi).of_handed hall hseq howner

/-- A call that goes on, with the flag of its slot as it was. -/
theorem once_of_flag {c : CallId} {i : SelectId} {k : Call P} {slot : Slot} (hs : Wf g s)
    (h : Once g s) (hpc : (s.calls c).pc.slot = some i) (howner : t.owner = s.owner)
    (hslots : t.slots = Function.update s.slots i slot)
    (hflag : slot.ind_has_arrived = (s.slots i).ind_has_arrived)
    (hcalls : t.calls = Function.update s.calls c k) (hhanded : k.handed = (s.calls c).handed)
    (hsig : k.signalled = (s.calls c).signalled) (hgo : k.pc ≠ .idle ∧ k.pc ≠ .selecting i)
    (hseq : t.seq = s.seq) (hind : t.ind = s.ind) : Once g t := by
  have hc := hs.owner c i hpc
  have hi : ∀ j, t.owner j = some c → j = i := fun j hj => hs.owner_inj (howner ▸ hj) hc
  have hcall : t.calls c = k := by rw [hcalls, Function.update_self]
  have hslot : t.slots i = slot := by rw [hslots, Function.update_self]
  refine once_of_held hs h hpc howner (fun j hj => by rw [hslots, Function.update_of_ne hj])
    (fun d hd => by rw [hcalls, Function.update_of_ne hd]) (by rw [hcall, hhanded]) hseq hind ?_
  cases h.call c with
  | fresh hnone hno harr =>
      refine .fresh (by rw [hcall, hhanded, hnone]) (by rw [hcall, hsig, hno]) fun j hj => ?_
      rw [hi j hj, hslot, hflag]
      exact harr i hc
  | got e hone _ hset =>
      refine .got e (by rw [hcall, hhanded, hone]) (by rw [hcall]; exact hgo.1) fun j hj => ?_
      rw [hi j hj, hcall, hslot, hflag, hsig]
      exact ⟨hgo.2, (hset i hc).2⟩

/-- Neither the signal nor the flag of a call changes. -/
theorem CallOnce.of_same {c : CallId} (h : CallOnce s c) (hcalls : t.calls = s.calls)
    (hslots : t.slots = s.slots) (howner : t.owner = s.owner) : CallOnce t c := by
  cases h with
  | fresh hnone hno harr =>
      refine .fresh (by rw [hcalls, hnone]) (by rw [hcalls, hno]) fun i hi => ?_
      rw [hslots]
      exact harr i (howner ▸ hi)
  | got e hone hpc hset =>
      refine .got e (by rw [hcalls, hone]) (by rw [hcalls]; exact hpc) fun i hi => ?_
      rw [hcalls, hslots]
      exact hset i (howner ▸ hi)

/-- A slot that was handed an indication is the slot of a call that had none,
    and that asks for it. -/
theorem fresh_of_matches (hs : Wf g s) (h : Once g s) {ind : Ind P} {i : SelectId} {c : CallId}
    (hind : s.ind = some ind) (hm : s.Matches ind i) (howner : s.owner i = some c)
    (hsig : (s.calls c).signalled = false) :
    (s.calls c).handed = [] ∧ (s.calls c).pc ≠ .selecting i ∧ (g.args c).key = ind.key := by
  have hnosel : (s.calls c).pc ≠ .selecting i := by
    -- A slot that is not written yet is for no valid client.
    intro hpc
    rcases hs.held (hs.pc_of_owner howner) with ⟨arrived, _, heq, _⟩
    rw [hpc] at heq
    have hhandle := hm.2.1
    rw [heq] at hhandle
    exact (h.ind ind hind).valid hhandle.symm
  refine ⟨?_, hnosel, (key_of_matches hs howner hnosel hm).symm⟩
  cases h.call c with
  | fresh hnone _ _ => exact hnone
  | got e _ _ hset =>
      -- It was handed one: its caller is signalled, or its flag is up.
      rcases (hset i howner).2 with hyes | hyes
      · rw [hsig] at hyes
        cases hyes
      · rw [hm.2.2.2] at hyes
        cases hyes

/-- The call that takes the indication has been handed that one and no
    other, and the signal or the flag says so. -/
theorem handTo_callOnce (hs : Wf g s) {ind : Ind P} {i : SelectId} {c : CallId}
    (howner : s.owner i = some c) (hnone : (s.calls c).handed = [])
    (hsel : (s.calls c).pc ≠ .selecting i) : CallOnce (s.handTo g ind i c) c := by
  have hslot : (s.handTo g ind i c).slots i = (s.slots i).arrive ind.key.ind_id :=
    Function.update_self i _ _
  refine .got ⟨ind.seq, ind.key⟩ ?_ ?_ fun j hj => ?_
  · rw [handTo_self]
    show (s.calls c).handed ++ _ = _
    rw [hnone, List.nil_append]
  · rw [handTo_self]
    intro hidle
    have hpc := hs.pc_of_owner howner
    rw [show (s.calls c).pc = .idle from hidle] at hpc
    cases hpc
  · rw [hs.owner_inj hj howner, handTo_self, hslot]
    refine ⟨hsel, ?_⟩
    cases hw : (s.slots i).ind_is_waiting with
    | true => exact Or.inl (Bool.or_true _)
    | false =>
        refine Or.inr ?_
        simp only [Slot.arrive, hw, Bool.false_eq_true, if_false]

/-- Where the loop goes on after a slot that took the indication, the payload
    was not copied, and no later slot asks for it. -/
theorem handTo_indOnce {ind : Ind P} {i : SelectId} {c : CallId} (hok : IndOnce g s ind)
    (hi : i.val = ind.i) (hsafe : VisitSafe g s ind i) :
    IndOnce g (s.handTo g ind i c) (ind.next true (s.copied g ind i).isSome) := by
  refine ⟨hok.lt, hok.valid, fun hgo _ _ _ _ j d hj hd => ?_⟩
  have hnone : s.copied g ind i = none := by
    simpa only [Ind.next, Option.isSome_eq_false_iff, Option.isNone_iff_eq_none] using hgo
  refine hsafe.2 hnone j ?_ d hd
  rw [Fin.lt_def, hi]
  exact Nat.lt_of_succ_le hj

/-- The slot that takes the indication: nobody else was handed it, because no
    slot left to visit asked for it. -/
theorem handTo_once (hs : Wf g s) (h : Once g s) {ind : Ind P} {i : SelectId} {c : CallId}
    (hind : s.ind = some ind) (hi : i.val = ind.i) (hc : ind.consumed = false)
    (hm : s.Matches ind i) (howner : s.owner i = some c) (hsafe : VisitSafe g s ind i) :
    Once g (s.handTo g ind i c) := by
  rcases fresh_of_matches hs h hind hm howner (hsafe.1 c howner) with ⟨hnone, hsel, hkey⟩
  have hok := h.ind ind hind
  have hlocal : Local s (s.handTo g ind i c) c := local_of_held hs (hs.pc_of_owner howner) rfl
    (fun j hj => Function.update_of_ne hj _ _) fun d hd => handTo_other hd
  have hone : ((s.handTo g ind i c).calls c).handed = [⟨ind.seq, ind.key⟩] := by
    rw [handTo_self]
    show (s.calls c).handed ++ _ = _
    rw [hnone, List.nil_append]
  -- Who else was handed it would have left no slot that asks for it.
  have hnobody : ∀ d, ∀ e ∈ (s.calls d).handed, e.seq ≠ ind.seq := fun d e he heq =>
    hok.rest hc d e he heq i c (Nat.le_of_eq hi.symm) howner hkey
  refine ⟨callOnce_of_local hlocal h.call (handTo_callOnce hs howner hnone hsel),
    fun ind' hind' => ?_, fun d e he => ?_, fun d d' e he e' he' heq => ?_⟩
  · cases hind'
    exact handTo_indOnce hok hi hsafe
  · by_cases hd : d = c
    · rw [hd, hone] at he
      rw [List.mem_singleton.mp he]
      exact hok.lt
    · rw [handTo_other hd] at he
      exact h.lt d e he
  -- At most one of two different calls has just been handed it.
  · by_cases hd : d = c
    · by_cases hd' : d' = c
      · rw [hd, hd']
      · rw [hd, hone] at he
        rw [handTo_other hd'] at he'
        rw [List.mem_singleton.mp he] at heq
        exact absurd heq.symm (hnobody d' e' he')
    · by_cases hd' : d' = c
      · rw [hd', hone] at he'
        rw [handTo_other hd] at he
        rw [List.mem_singleton.mp he'] at heq
        exact absurd heq (hnobody d e he)
      · rw [handTo_other hd] at he
        rw [handTo_other hd'] at he'
        exact h.uniq d d' e he e' he' heq

/-- With no indication being processed there is nothing to say about one. -/
theorem indOnce_of_none (h : t.ind = none) (ind : Ind P) (hi : t.ind = some ind) :
    IndOnce g t ind := by
  rw [h] at hi
  cases hi

/-- A slot that is taken was cleared, so nothing has arrived in it. -/
theorem take_once {c : CallId} {i : SelectId} (hs : Wf g s) (h : Once g s)
    (hpc : (s.calls c).pc = .idle) (hind : s.ind = none) (hfree : s.slot_in_use i = false) :
    Once g (s.take c i) := by
  have hcall : (s.take c i).calls c = { s.calls c with pc := .selecting i } := goto_self _ c _
  have hl := take_local (c := c) hs hfree
  refine once_of_handed h (handed_of_local hl (by rw [hcall])) (Nat.le_refl _)
    (callOnce_of_local hl h.call ?_) (indOnce_of_none hind)
  cases h.call c with
  | fresh hnone hno _ =>
      refine .fresh (by rw [hcall, hnone]) (by rw [hcall, hno]) fun j hj => ?_
      by_cases hji : j = i
      · rw [hji, show (s.take c i).slots i = _ from (hs.owner_of_not_use hfree).2]
        rfl
      · -- The call was idle and held no other slot.
        rw [take_owner_other hji] at hj
        have hslot := hs.pc_of_owner hj
        rw [hpc] at hslot
        cases hslot
  | got e _ hpc' _ => exact absurd hpc hpc'

/-- A call that finds no slot holds none, and has been handed nothing. -/
theorem full_once {c : CallId} (h : Once g s) (hpc : (s.calls c).pc = .idle) (hind : s.ind = none) :
    Once g (s.goto c (.returned .success)) := by
  have hcall := goto_self s c (.returned .success)
  have hl := goto_local s c (.returned .success)
  refine once_of_handed h (handed_of_local hl (by rw [hcall])) (Nat.le_refl _)
    (callOnce_of_local hl h.call ?_) (indOnce_of_none hind)
  cases h.call c with
  | fresh hnone hno harr => exact .fresh (by rw [hcall, hnone]) (by rw [hcall, hno]) harr
  | got e _ hpc' _ => exact absurd hpc hpc'

/-- Writing a slot clears its flag, and before that nobody is handed
    anything. -/
theorem selectInd_once {c : CallId} {i : SelectId} (hs : Wf g s) (h : Once g s)
    (hpc : (s.calls c).pc = .selecting i) : Once g (s.selectInd g c i) := by
  have hslot := (hs.slot_at hpc rfl).1
  have howner := hs.owner c i hslot
  have hcall : (s.selectInd g c i).calls c = { s.calls c with pc := .sending i } := goto_self _ c _
  refine once_of_held hs h hslot rfl (fun j hj => Function.update_of_ne hj _ _)
    (fun d hd => goto_other hd) (by rw [hcall]) rfl rfl ?_
  cases h.call c with
  | fresh hnone hno _ =>
      refine .fresh (by rw [hcall, hnone]) (by rw [hcall, hno]) fun j hj => ?_
      have hnew : (s.selectInd g c i).slots i = _ := Function.update_self i _ _
      rw [hs.owner_inj hj howner, hnew]
  | got e _ _ hset => exact absurd hpc (hset i howner).1

/-- A call that frees its slot keeps what it was handed. -/
theorem freeSlot_once {c : CallId} {i : SelectId} {status : LocClientStatus} (hs : Wf g s)
    (h : Once g s) (hpc : (s.calls c).pc = .freeing i status) (hind : s.ind = none) :
    Once g (s.freeSlot c i status) := by
  have hslot := (hs.slot_at hpc rfl).1
  have hcall : (s.freeSlot c i status).calls c = { s.calls c with pc := .returned status } :=
    goto_self _ c _
  have hl := freeSlot_local status hs hslot
  -- It holds no slot any more.
  have hnone : ∀ j, (s.freeSlot c i status).owner j ≠ some c := by
    intro j hj
    by_cases hji : j = i
    · rw [hji, freeSlot_owner_self] at hj
      cases hj
    · rw [freeSlot_owner_other hji] at hj
      exact hji (hs.owner_inj hj (hs.owner c i hslot))
  refine once_of_handed h (handed_of_local hl (by rw [hcall])) (Nat.le_refl _)
    (callOnce_of_local hl h.call ?_) (indOnce_of_none hind)
  cases h.call c with
  | fresh hno hsig _ =>
      exact .fresh (by rw [hcall, hno]) (by rw [hcall, hsig]) fun j hj => absurd hj (hnone j)
  | got e hone _ _ =>
      refine .got e (by rw [hcall, hone]) ?_ fun j hj => absurd hj (hnone j)
      rw [hcall]
      exact fun h => by cases h

theorem move_once (hs : Wf g s) {l : Label P} (hm : Move g s l t) (hu : Untroubled g s l)
    (h : Once g s) : Once g t := by
  cases hm with
  | allocated c i hpc hind hfree => exact take_once hs h hpc hind hfree
  | full c hpc hind hfull => exact full_once h hpc hind
  | selected c i hpc => exact selectInd_once hs h hpc
  | sent c i status hpc =>
      have hgo : ∀ pc, pc = (if status ≠ .success then Pc.freeing i status else .entering i) →
          pc ≠ .idle ∧ pc ≠ .selecting i := by
        rintro _ rfl
        split
        · exact ⟨(fun h => by cases h), fun h => by cases h⟩
        · exact ⟨(fun h => by cases h), fun h => by cases h⟩
      exact once_of_flag hs h (hs.slot_at hpc rfl).1 rfl (Function.update_eq_self i _).symm rfl rfl
        rfl rfl (hgo _ rfl) rfl rfl
  | arrived c i hpc ha =>
      exact once_of_flag hs h (hs.slot_at hpc rfl).1 rfl (Function.update_eq_self i _).symm rfl rfl
        rfl rfl ⟨(fun h => by cases h), fun h => by cases h⟩ rfl rfl
  | began c i hpc ha =>
      exact once_of_flag hs h (hs.slot_at hpc rfl).1 rfl rfl rfl rfl rfl rfl
        ⟨(fun h => by cases h), fun h => by cases h⟩ rfl rfl
  | woke c i timedOut hpc =>
      exact once_of_flag hs h (hs.slot_at hpc rfl).1 rfl rfl rfl rfl rfl rfl
        ⟨(fun h => by cases h), fun h => by cases h⟩ rfl rfl
  | freed c i status hpc hind => exact freeSlot_once hs h hpc hind
  | dropped key payload hind huse =>
      exact once_of_handed h (fun _ => rfl) (Nat.le_succ _)
        (fun c => (h.call c).of_same rfl rfl rfl) (indOnce_of_none hind)
  | begun key payload hind huse =>
      refine once_of_handed h (fun _ => rfl) (Nat.le_succ _)
        (fun c => (h.call c).of_same rfl rfl rfl) fun ind hi => ?_
      cases hi
      -- Its number is new, so nobody was handed it yet.
      refine ⟨Nat.lt_succ_self _, hu, fun _ c e he heq => ?_⟩
      exact absurd heq (Nat.ne_of_lt (h.lt c e he))
  | passed ind i hind hi hc hm =>
      refine once_of_handed h (fun _ => rfl) (Nat.le_refl _)
        (fun c => (h.call c).of_same rfl rfl rfl) fun ind' hi' => ?_
      cases hi'
      have hok := h.ind ind hind
      exact ⟨hok.lt, hok.valid, fun _ c e he heq j d hj hd =>
        hok.rest hc c e he heq j d (Nat.le_of_succ_le hj) hd⟩
  | handed ind i c hind hi hc hm howner =>
      exact handTo_once hs h hind hi hc hm howner (hu ind hind i hi hm)
  | finished ind hind hend =>
      exact once_of_handed h (fun _ => rfl) (Nat.le_refl _)
        (fun c => (h.call c).of_same rfl rfl rfl) (indOnce_of_none rfl)

/-- The calls of `C` ask for `key` and have written their slots, and no other
    call that asks for `key` holds one. -/
structure Selecting (g : Setup) (s : State P) (key : Key) (C : Finset CallId) : Prop where
  selected : ∀ c ∈ C, (g.args c).key = key ∧
    ∃ i, s.owner i = some c ∧ (s.calls c).pc ≠ .selecting i
  only : ∀ i, ∀ c ∈ s.owner i, (g.args c).key = key → c ∈ C

instance (g : Setup) (s : State P) (key : Key) (C : Finset CallId) :
    Decidable (Selecting g s key C) :=
  decidable_of_iff ((∀ c ∈ C, (g.args c).key = key ∧
      ∃ i, s.owner i = some c ∧ (s.calls c).pc ≠ .selecting i) ∧
    ∀ i, ∀ c ∈ s.owner i, (g.args c).key = key → c ∈ C)
    ⟨fun h => ⟨h.1, h.2⟩, fun h => ⟨h.selected, h.only⟩⟩

/-- The calls of `C` that have been handed something. -/
def Served (s : State P) (C : Finset CallId) : Finset CallId :=
  C.filter fun c => (s.calls c).handed ≠ []

theorem served_eq (C : Finset CallId) (h : ∀ c, (t.calls c).handed = (s.calls c).handed) :
    Served t C = Served s C := by
  simp only [Served, h]

/-- How far the serving is, from a count of `base` on. With an indication for
    `key` under way, either it counts already, or nobody has been handed it
    and whoever has nothing is still to be visited. -/
inductive Progress (s : State P) (key : Key) (C : Finset CallId) (base : Nat) : Prop
  | between (hind : ∀ ind, s.ind = some ind → ind.key ≠ key)
      (hserved : min C.card (s.processed.count key - base) ≤ (Served s C).card)
  | counted (ind : Ind P) (hind : s.ind = some ind) (hkey : ind.key = key)
      (hserved : min C.card (s.processed.count key - base + 1) ≤ (Served s C).card)
  | ahead (ind : Ind P) (hind : s.ind = some ind) (hkey : ind.key = key)
      (hc : ind.consumed = false)
      (hserved : min C.card (s.processed.count key - base) ≤ (Served s C).card)
      (hahead : ∀ c ∈ C, (s.calls c).handed = [] → ∀ i, s.owner i = some c → ind.i ≤ i.val)

/-- A step that hands out nothing and leaves the indication thread alone. -/
theorem progress_of_handed {key : Key} {C : Finset CallId} {base : Nat}
    (h : Progress s key C base) (hhanded : ∀ c, (t.calls c).handed = (s.calls c).handed)
    (hind : t.ind = s.ind) (hdone : t.processed = s.processed)
    (howner : s.ind ≠ none → t.owner = s.owner) : Progress t key C base := by
  cases h with
  | between hno hserved =>
      refine .between (by rw [hind]; exact hno) ?_
      rw [hdone, served_eq C hhanded]
      exact hserved
  | counted ind hi hkey hserved =>
      refine .counted ind (hind.trans hi) hkey ?_
      rw [hdone, served_eq C hhanded]
      exact hserved
  | ahead ind hi hkey hc hserved hahead =>
      refine .ahead ind (hind.trans hi) hkey hc ?_ ?_
      · rw [hdone, served_eq C hhanded]
        exact hserved
      · rw [howner (by rw [hi]; exact fun h => by cases h)]
        exact fun c hC hnone => hahead c hC (hhanded c ▸ hnone)

/-- A call that has been handed nothing and has written its slot matches an
    indication it asks for. -/
theorem matches_of_fresh (hs : Wf g s) (h : Once g s) {ind : Ind P} {i : SelectId} {c : CallId}
    (howner : s.owner i = some c) (hsel : (s.calls c).pc ≠ .selecting i)
    (hkey : (g.args c).key = ind.key) (hnone : (s.calls c).handed = []) : s.Matches ind i := by
  have hpc := hs.pc_of_owner howner
  rcases hs.held hpc with ⟨arrived, huse, heq, _⟩
  have hflag : (s.slots i).ind_has_arrived = false := by
    cases h.call c with
    | fresh _ _ harr => exact harr i howner
    | got e hone _ _ =>
        rw [hone] at hnone
        cases hnone
  refine ⟨huse, ?_, ?_, hflag⟩ <;> rw [heq, ← hkey] <;> cases hcase : (s.calls c).pc with
  | selecting j =>
      rw [hcase] at hpc hsel
      cases hpc
      exact absurd rfl hsel
  | _ => rfl

/-- Handing an indication out serves nobody less. -/
theorem served_handTo_subset (C : Finset CallId) (ind : Ind P) (i : SelectId) (c : CallId) :
    Served s C ⊆ Served (s.handTo g ind i c) C := by
  intro d hd
  rcases Finset.mem_filter.mp hd with ⟨hC, hne⟩
  refine Finset.mem_filter.mpr ⟨hC, ?_⟩
  by_cases hdc : d = c
  · rw [hdc, handTo_self]
    exact List.append_ne_nil_of_right_ne_nil _ (List.cons_ne_nil _ _)
  · rw [handTo_other hdc]
    exact hne

/-- Handing it to one who had nothing serves one more. -/
theorem served_handTo_lt {C : Finset CallId} (ind : Ind P) (i : SelectId) {c : CallId}
    (hC : c ∈ C) (hnone : (s.calls c).handed = []) :
    (Served s C).card < (Served (s.handTo g ind i c) C).card := by
  refine Finset.card_lt_card ⟨served_handTo_subset C ind i c, fun hsub => ?_⟩
  have hnew : c ∈ Served (s.handTo g ind i c) C := by
    refine Finset.mem_filter.mpr ⟨hC, ?_⟩
    rw [handTo_self]
    exact List.append_ne_nil_of_right_ne_nil _ (List.cons_ne_nil _ _)
  exact (Finset.mem_filter.mp (hsub hnew)).2 hnone

/-- With no slot in use there is nobody to serve. -/
theorem selecting_empty (hs : Wf g s) {key : Key} {C : Finset CallId}
    (hsel : Selecting g s key C) (huse : s.in_use = false) : C = ∅ := by
  refine Finset.eq_empty_of_forall_notMem fun c hc => ?_
  rcases (hsel.selected c hc).2 with ⟨i, hi, _⟩
  rcases hs.held (hs.pc_of_owner hi) with ⟨_, hyes, _, _⟩
  have := hs.in_use.mpr ⟨i, hyes⟩
  rw [huse] at this
  cases this

/-- Whoever has nothing is still to be visited, and the slot just passed did
    not match. -/
theorem ahead_of_passed (hs : Wf g s) (ho : Once g s) {key : Key} {C : Finset CallId}
    (hsel : Selecting g s key C) {ind : Ind P} {i : SelectId} (hkey : ind.key = key)
    (hi : i.val = ind.i) (hm : ¬ s.Matches ind i)
    (hahead : ∀ c ∈ C, (s.calls c).handed = [] → ∀ j, s.owner j = some c → ind.i ≤ j.val) :
    ∀ c ∈ C, (s.calls c).handed = [] → ∀ j, s.owner j = some c → ind.i + 1 ≤ j.val := by
  intro c hC hnone j hj
  have hle := hahead c hC hnone j hj
  rcases hsel.selected c hC with ⟨hckey, j', hj', hpc⟩
  rw [hs.owner_inj hj' hj] at hpc
  have hne : j ≠ i := fun hji =>
    hm (hji ▸ matches_of_fresh hs ho hj hpc (hckey.trans hkey.symm) hnone)
  have hne' : j.val ≠ i.val := fun h => hne (Fin.ext h)
  omega

/-- After the last slot nobody is left to be visited. -/
theorem served_of_ahead {key : Key} {C : Finset CallId} (hsel : Selecting g s key C) {n : Nat}
    (hlast : n = LOC_SYNC_REQ_BUFFER_SIZE)
    (hahead : ∀ c ∈ C, (s.calls c).handed = [] → ∀ j, s.owner j = some c → n ≤ j.val) :
    Served s C = C := by
  refine Finset.filter_true_of_mem fun c hC hnone => ?_
  rcases (hsel.selected c hC).2 with ⟨j, hj, _⟩
  have hle := hahead c hC hnone j hj
  have := j.isLt
  omega

/-- A call that is handed an indication for the key had nothing, so one more
    is served. -/
theorem handTo_served (hs : Wf g s) (ho : Once g s) {ind : Ind P} {i : SelectId} {c : CallId}
    (hind : s.ind = some ind) (hm : s.Matches ind i) (howner : s.owner i = some c)
    (hsafe : VisitSafe g s ind i) {key : Key} {C : Finset CallId} {base : Nat}
    (hsel : Selecting g s key C) (h : Progress s key C base) :
    Progress (s.handTo g ind i c) key C base := by
  have hfresh := fresh_of_matches hs ho hind hm howner (hsafe.1 c howner)
  have hmono := Finset.card_le_card (served_handTo_subset (s := s) (g := g) C ind i c)
  cases h with
  | between hno hserved =>
      refine .between (fun ind' hi' => ?_) (Nat.le_trans hserved hmono)
      cases hi'
      exact hno ind hind
  | counted ind' hi' hkey hserved =>
      rw [hind] at hi'
      cases hi'
      exact .counted _ rfl hkey (Nat.le_trans hserved hmono)
  | ahead ind' hi' hkey _ hserved _ =>
      -- Who holds a slot that asks for the key is one of `C`.
      rw [hind] at hi'
      cases hi'
      have hC := hsel.only i c howner (hfresh.2.2.trans hkey)
      have hlt := served_handTo_lt (g := g) ind i hC hfresh.1
      refine .counted _ rfl hkey ?_
      show min C.card (s.processed.count key - base + 1) ≤ _
      omega

/-- An indication for the key that ends counts as processed, and has served
    somebody, or found everybody served. -/
theorem processIndEnd_served {ind : Ind P} (hind : s.ind = some ind)
    (hend : ind.i = LOC_SYNC_REQ_BUFFER_SIZE ∨ ind.consumed = true) {key : Key}
    {C : Finset CallId} {base : Nat} (hsel : Selecting g s key C) (h : Progress s key C base) :
    Progress (s.processIndEnd ind) key C base := by
  refine .between (fun ind' hi' => by cases hi') ?_
  show min C.card ((s.processed ++ [ind.key]).count key - base) ≤ (Served s C).card
  cases h with
  | between hno hserved =>
      rw [List.count_append, List.count_singleton, if_neg]
      · exact hserved
      · simpa only [beq_iff_eq] using hno ind hind
  | counted ind' hi' hkey hserved =>
      rw [hind] at hi'
      cases hi'
      rw [List.count_append, hkey, List.count_singleton_self]
      omega
  | ahead ind' hi' hkey hno hserved hahead =>
      rw [hind] at hi'
      cases hi'
      -- Nobody took the payload, so the loop went to the end.
      have hall : Served s C = C := by
        rcases hend with hlast | hconsumed
        · exact served_of_ahead hsel hlast hahead
        · rw [hno] at hconsumed
          cases hconsumed
      rw [hall]
      exact Nat.min_le_left _ _

/-- Each indication for the key, by the time it is processed, has served one
    more of the calls, or all of them. -/
theorem move_served (hs : Wf g s) (ho : Once g s) {l : Label P} (hm : Move g s l t)
    (hu : Untroubled g s l) {key : Key} {C : Finset CallId} {base : Nat}
    (hsel : Selecting g s key C) (h : Progress s key C base) : Progress t key C base := by
  by_cases hl : l.isInd = false
  · rcases caller_quiet hm hl with ⟨hkept, hind, hdone, howner⟩
    exact progress_of_handed h (fun c => (hkept c).1) hind hdone howner
  cases hm with
  | dropped key' payload hind huse =>
      refine .between (fun ind hi => ?_) ?_
      · rw [show s.ind = some ind from hi] at hind
        cases hind
      · rw [selecting_empty hs hsel huse, Finset.card_empty, Nat.zero_min]
        exact Nat.zero_le _
  | begun key' payload hind huse =>
      -- Between two indications the count is all there is.
      cases h with
      | between hno hserved =>
          by_cases hkey : key' = key
          · exact .ahead _ rfl hkey rfl hserved fun _ _ _ _ _ => Nat.zero_le _
          · exact .between (fun ind hi => by cases hi; exact hkey) hserved
      | counted ind hi _ _ =>
          rw [hind] at hi
          cases hi
      | ahead ind hi _ _ _ _ =>
          rw [hind] at hi
          cases hi
  | passed ind i hind hi hc hm =>
      -- Nothing was handed out, so the count stays.
      cases h with
      | between hno hserved =>
          exact .between (fun ind' hi' => by cases hi'; exact hno ind hind) hserved
      | counted ind' hi' hkey hserved =>
          rw [hind] at hi'
          cases hi'
          exact .counted _ rfl hkey hserved
      | ahead ind' hi' hkey _ hserved hahead =>
          rw [hind] at hi'
          cases hi'
          exact .ahead _ rfl hkey rfl hserved (ahead_of_passed hs ho hsel hkey hi hm hahead)
  | handed ind i c hind hi hc hm howner =>
      exact handTo_served hs ho hind hm howner (hu ind hind i hi hm) hsel h
  | finished ind hind hend => exact processIndEnd_served hind hend hsel h
  | _ => exact absurd rfl hl

theorem step_once {l : Label P} (h : Wf g s ∧ Once g s) (hu : Untroubled g s l)
    (hstep : step g s l = some t) : Wf g t ∧ Once g t := by
  have hm := step_move h.1 hstep
  exact ⟨move_wf h.1 hm, move_once h.1 hm hu h.2⟩

/-- A stretch of a schedule in which the calls of `C` hold their slots and at
    least as many indications are processed: it serves them all. -/
theorem all_served {key : Key} {C : Finset CallId} {ls : List (Label P)} (hs : Wf g s)
    (ho : Once g s) (hbetween : s.ind = none)
    (hmeets : StepSystem.Meets (step g) (fun s l => Untroubled g s l ∧ Selecting g s key C) s ls)
    (hrun : StepSystem.exec (step g) s ls = some t)
    (hcount : C.card ≤ t.processed.count key - s.processed.count key) :
    ∀ c ∈ C, (t.calls c).handed ≠ [] := by
  have hstart : Progress s key C (s.processed.count key) := by
    refine .between (fun ind hi => ?_) ?_
    · rw [hbetween] at hi
      cases hi
    · rw [Nat.sub_self, Nat.min_zero]
      exact Nat.zero_le _
  have hend := (StepSystem.invariant_of_meets
    (I := fun s' => (Wf g s' ∧ Once g s') ∧ Progress s' key C (s.processed.count key))
    (fun s' l t' h hg hstep => ⟨step_once h.1 hg.1 hstep,
      move_served h.1.1 h.1.2 (step_move h.1.1 hstep) hg.1 hg.2 h.2⟩)
    ⟨⟨hs, ho⟩, hstart⟩ hmeets hrun).2
  -- Whatever is under way, as many are served as were processed.
  have hserved : C.card ≤ (Served t C).card := by
    cases hend with
    | between _ h => omega
    | counted _ _ _ h => omega
    | ahead _ _ _ _ h _ => omega
  have hall : Served t C = C := Finset.eq_of_subset_of_card_le (Finset.filter_subset _ C) hserved
  intro c hc
  rw [← hall] at hc
  exact (Finset.mem_filter.mp hc).2

/-- Over every untroubled schedule: an indication is handed to at most one call,
    a call is handed at most one indication, and when at least as many
    indications for a key are processed as there are calls that hold their slots
    for it meanwhile, each of the calls is handed one. The first two parts are
    about indications by their number, as two of them may have the same content;
    the third is about any part of the run, and the calls `C` are those that
    have selected throughout. -/
theorem one_indication_each (g : Setup) (ls : List (Label P)) (s : State P)
    (hu : StepSystem.Meets (step g) (Untroubled g) State.init ls)
    (hrun : StepSystem.exec (step g) State.init ls = some s) :
    (∀ c d, ∀ e ∈ (s.calls c).handed, ∀ e' ∈ (s.calls d).handed, e.seq = e'.seq → c = d) ∧
    (∀ c, (s.calls c).handed.length ≤ 1) ∧
    (∀ (key : Key) (C : Finset CallId) (ls' : List (Label P)) (t : State P), s.ind = none →
      StepSystem.Meets (step g) (fun s l => Untroubled g s l ∧ Selecting g s key C) s ls' →
      StepSystem.exec (step g) s ls' = some t →
      C.card ≤ t.processed.count key - s.processed.count key →
      ∀ c ∈ C, (t.calls c).handed ≠ []) := by
  have h : Wf g s ∧ Once g s := StepSystem.invariant_of_meets
    (I := fun s => Wf g s ∧ Once g s) (fun _ _ _ => step_once) ⟨init_wf, init_once⟩ hu hrun
  refine ⟨h.2.uniq, fun c => ?_, fun key C ls' t hbetween hmeets hrun' => ?_⟩
  · cases h.2.call c with
    | fresh hnone _ _ => rw [hnone]; exact Nat.zero_le _
    | got e hone _ _ => rw [hone]; exact Nat.le_refl _
  · exact all_served h.1 h.2 hbetween hmeets hrun'

/-- Two calls have sent the same request and are about to wait. -/
def twoSent : List (Label Nat) :=
  [.alloc 0, .alloc 1, .select 0, .select 1, .send 0 .success, .send 1 .success]

/-- Two indications come before either call waits, and each gets one. -/
theorem one_indication_each_twoSent :
    ∃ s t, StepSystem.exec (step .uniform) State.init twoSent = some s ∧
      StepSystem.exec (step .uniform) s [.indBegin ⟨1, 2⟩ (some 7), .indVisit, .indEnd,
        .indBegin ⟨1, 2⟩ (some 8), .indVisit, .indVisit, .indEnd] = some t ∧
      ∀ c ∈ ({0, 1} : Finset CallId), (t.calls c).handed ≠ [] :=
  ⟨_, _, rfl, rfl, (one_indication_each .uniform twoSent _ (by decide +kernel) rfl).2.2 ⟨1, 2⟩
    {0, 1} [.indBegin ⟨1, 2⟩ (some 7), .indVisit, .indEnd, .indBegin ⟨1, 2⟩ (some 8), .indVisit,
      .indVisit, .indEnd] _ rfl (by decide +kernel) rfl (by decide +kernel)⟩

/-- Both calls wait. An indication without a payload is handed to both. And of
    two indications the first call, signalled and not yet awake, is handed
    both and the second call none. -/
theorem indications_shared :
    (∃ s, StepSystem.exec (step .uniform) State.init (twoSent ++ [.wait 0, .wait 1,
        .indBegin ⟨1, 2⟩ none, .indVisit, .indVisit, .indVisit, .indVisit, .indVisit, .indVisit,
        .indVisit, .indVisit, .indEnd]) = some s ∧
      (s.calls 0).handed = [⟨0, 1, 2⟩] ∧ (s.calls 1).handed = [⟨0, 1, 2⟩]) ∧
    (∃ s, StepSystem.exec (step .uniform) State.init (twoSent ++ [.wait 0, .wait 1,
        .indBegin ⟨1, 2⟩ (some 7), .indVisit, .indEnd,
        .indBegin ⟨1, 2⟩ (some 8), .indVisit, .indEnd]) = some s ∧
      (s.calls 0).handed = [⟨0, 1, 2⟩, ⟨1, 1, 2⟩] ∧ (s.calls 1).handed = []) :=
  ⟨⟨_, rfl, rfl, rfl⟩, ⟨_, rfl, rfl, rfl⟩⟩

end Sync

end Victara
