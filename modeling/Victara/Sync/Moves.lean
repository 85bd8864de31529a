import Victara.Sync.Model

/-!
# What a Step of the Synchronous Requests Can Do

The shape of the slot table, and every step in one relation over it.

Each slot is free and cleared, or held by one call, and then its content is
what the call has written into it so far, the arrival flag apart. That is
`Wf`. With it the checks in the code that can never fail disappear, and
`Move` lists what is left; the results about single calls are case analyses
of `Move`.

`Frame` says of most moves all that is needed: one slot and one call change, and
the table and the other calls are as they were. `wf_of_frame` is then about that
slot alone. The indication thread is the exception, as it visits slots that are
not its own, and `IndOk` is what it has learned from those that it has passed.

## Main definitions

* `Pc.isWaiting`: The call is in its condition wait.
* `Slot.of`: The content of a slot, from where its call is.
* `SlotOk`, `Wf`: The shape of the table.
* `IndOk`: What the indication thread has seen of the table.
* `Frame`: Two states that differ at one slot and one call.
* `Call.hand`: A call after its slot was handed an indication.
* `Ind.next`: The indication after a round of the loop.
* `State.handTo`: A matching slot, held by `c`.
* `Move`: The steps.
* `Local`: Two states between which only one call moved.
* `Label.isInd`: The steps of the indication thread.

## Theorems

* `held`: A call that is somewhere in the middle of its slot.
* `slot_at`: The content of the slot, where the call has reached `pc`.
* `owner_inj`: A call holds one slot.
* `SlotOk.of_same`: A slot is the same to a state with the same table and calls.
* `wf_of_frame`: A change at one slot and the call that holds it, before or
  after, is all there is to look at.
* `copied_owner`: The buffer a slot points to is the one of its call.
* `waitForInd_move`: The slot is in use by the call itself, and nobody else
  waits in it.
* `processIndEnd_move`: The loop ends after the last slot or after the one that
  took the payload.
* `step_move`: A step is one of the moves.
* `wf_of_held`: A step of a call that keeps its slot and may write to it.
* `IndOk.of_use`: The indication thread has seen as much of a table with the
  same slots in use.
* `IndOk.next`: One more slot has been looked at.
* `take_wf`: A free slot is taken by a call that had none.
* `freeSlot_wf`: The slot of a call that is done is cleared.
* `processIndEnd_wf`: The loop saw every slot, or one that is in use.
* `Slot.of_arrive`: A matching slot takes the arrival flag in place of the
  signal.
* `full_wf`: A call that finds no slot holds none.
* `sendReq_wf`: The call keeps its slot as it is, and goes on to the wait or to
  the end.
* `handTo_wf`: A matching slot gets its flag set, or its caller a signal.
* `move_wf`: A move keeps the shape.
* `local_of_held`: A step of a call that keeps its slot.
* `kept_of_update`: A call whose record changes keeps its history and its
  buffer.
* `caller_quiet`: What the steps of the calls leave alone.
-/

namespace Victara

namespace Sync

variable {P : Type*} {g : Setup} {s t : State P}

/-- The call is in its condition wait. -/
def Pc.isWaiting : Pc → Bool
  | .waiting _ => true
  | _ => false

/-- What a slot holds that call `c` has reached `pc` with: nothing yet before
    the slot is written, and the request from then on. -/
def Slot.of (a : Args) (c : CallId) (pc : Pc) (arrived : Bool) : Slot :=
  match pc with
  | .selecting _ => { Slot.cleared with ind_has_arrived := arrived }
  | pc =>
    { client_handle := a.client_handle
      ind_is_selected := true
      ind_is_waiting := pc.isWaiting
      ind_has_arrived := arrived
      req_id := a.req_id
      recv_ind_payload_ptr := a.payloadPtr c
      recv_ind_id := a.ind_id }

/-- A slot is free, or held by one call and as that call left it. A held slot
    has what its call has written so far, by where the call is; only the arrival
    flag is written by somebody else, and not while the call waits. -/
inductive SlotOk (g : Setup) (s : State P) (i : SelectId) : Prop
  | free (howner : s.owner i = none) (huse : s.slot_in_use i = false)
      (hslot : s.slots i = Slot.cleared)
  | held (c : CallId) (arrived : Bool) (howner : s.owner i = some c)
      (huse : s.slot_in_use i = true) (hpc : (s.calls c).pc.slot = some i)
      (hslot : s.slots i = Slot.of (g.args c) c (s.calls c).pc arrived)
      (hwait : (s.calls c).pc.isWaiting = true → arrived = false)

/-- What the indication thread has seen of the table. It holds the mutex of the
    table throughout, so that no slot is allocated or freed behind its back, and
    at the end its count is the mark of the whole table. -/
structure IndOk (s : State P) (ind : Ind P) : Prop where
  le : ind.i ≤ LOC_SYNC_REQ_BUFFER_SIZE
  in_use : ind.in_use = true ↔ ∃ j : SelectId, j.val < ind.i ∧ s.slot_in_use j = true
  consumed : ind.consumed = true → ind.in_use = true

/-- The table and the calls agree on who has which slot, and each slot is as its
    holder left it. Nothing in it depends on what the indications are. -/
structure Wf (g : Setup) (s : State P) : Prop where
  slot : ∀ i, SlotOk g s i
  owner : ∀ c i, (s.calls c).pc.slot = some i → s.owner i = some c
  in_use : s.in_use = true ↔ ∃ i, s.slot_in_use i = true
  ind : ∀ ind, s.ind = some ind → IndOk s ind

theorem init_wf : Wf g (State.init : State P) := by
  refine ⟨fun i => .free rfl rfl rfl, (fun c i h => by cases h), ⟨(fun h => by cases h), ?_⟩,
    (fun ind h => by cases h)⟩
  rintro ⟨i, hi⟩
  cases hi

namespace Wf

variable (hs : Wf g s)

include hs

/-- A call that is somewhere in the middle of its slot. -/
theorem held {c : CallId} {i : SelectId} (hc : (s.calls c).pc.slot = some i) :
    ∃ arrived, s.slot_in_use i = true ∧
      s.slots i = Slot.of (g.args c) c (s.calls c).pc arrived ∧
      ((s.calls c).pc.isWaiting = true → arrived = false) := by
  have howner := hs.owner c i hc
  cases hs.slot i with
  | free hnone _ _ =>
      rw [howner] at hnone
      cases hnone
  | held d arrived hd huse _ hslot hwait =>
      rw [howner] at hd
      cases hd
      exact ⟨arrived, huse, hslot, hwait⟩

/-- The content of the slot, where the call has reached `pc`. -/
theorem slot_at {c : CallId} {i : SelectId} {pc : Pc} (hpc : (s.calls c).pc = pc)
    (hi : pc.slot = some i) : (s.calls c).pc.slot = some i ∧
      ∃ arrived, s.slots i = Slot.of (g.args c) c pc arrived := by
  have hslot : (s.calls c).pc.slot = some i := by
    rw [hpc]
    exact hi
  rcases hs.held hslot with ⟨arrived, _, heq, _⟩
  rw [hpc] at heq
  exact ⟨hslot, arrived, heq⟩

theorem pc_of_owner {c : CallId} {i : SelectId} (hc : s.owner i = some c) :
    (s.calls c).pc.slot = some i := by
  cases hs.slot i with
  | free hnone _ _ =>
      rw [hc] at hnone
      cases hnone
  | held d _ hd _ hpc _ _ =>
      rw [hc] at hd
      cases hd
      exact hpc

theorem owner_of_use {i : SelectId} (huse : s.slot_in_use i = true) :
    ∃ c, s.owner i = some c := by
  cases hs.slot i with
  | free _ hno _ =>
      rw [huse] at hno
      cases hno
  | held c _ hc _ _ _ _ => exact ⟨c, hc⟩

theorem owner_of_not_use {i : SelectId} (huse : s.slot_in_use i = false) :
    s.owner i = none ∧ s.slots i = Slot.cleared := by
  cases hs.slot i with
  | free hc _ hslot => exact ⟨hc, hslot⟩
  | held _ _ _ hyes _ _ _ =>
      rw [huse] at hyes
      cases hyes

/-- A call holds one slot. -/
theorem owner_inj {c : CallId} {i j : SelectId} (hi : s.owner i = some c)
    (hj : s.owner j = some c) : i = j := by
  have h := (hs.pc_of_owner hi).symm.trans (hs.pc_of_owner hj)
  exact Option.some.inj h

end Wf

/-- A slot is the same to a state with the same table and calls. -/
theorem SlotOk.of_same {i : SelectId} (h : SlotOk g s i) (howner : t.owner = s.owner)
    (huse : t.slot_in_use = s.slot_in_use) (hslots : t.slots = s.slots)
    (hcalls : t.calls = s.calls) : SlotOk g t i := by
  cases h with
  | free h₁ h₂ h₃ =>
      refine .free ?_ ?_ ?_
      · rw [howner, h₁]
      · rw [huse, h₂]
      · rw [hslots, h₃]
  | held c arrived h₁ h₂ h₃ h₄ h₅ =>
      refine .held c arrived ?_ ?_ ?_ ?_ ?_
      · rw [howner, h₁]
      · rw [huse, h₂]
      · rw [hcalls, h₃]
      · rw [hslots, hcalls, h₄]
      · rw [hcalls]
        exact h₅

/-- Two states that differ at slot `i` and call `c`. -/
structure Frame (s t : State P) (i : SelectId) (c : CallId) : Prop where
  owner : ∀ j, j ≠ i → t.owner j = s.owner j
  slot_in_use : ∀ j, j ≠ i → t.slot_in_use j = s.slot_in_use j
  slots : ∀ j, j ≠ i → t.slots j = s.slots j
  calls : ∀ d, d ≠ c → t.calls d = s.calls d

/-- A change at one slot and the call that holds it, before or after, is all
    there is to look at. -/
theorem wf_of_frame {i : SelectId} {c : CallId} (hf : Frame s t i c) (hs : Wf g s)
    (hbefore : ∀ d, s.owner i = some d → d = c) (honly : ∀ j, s.owner j = some c → j = i)
    (hslot : SlotOk g t i) (hcall : ∀ j, (t.calls c).pc.slot = some j → t.owner j = some c)
    (huse : t.in_use = true ↔ ∃ i, t.slot_in_use i = true)
    (hind : ∀ ind, t.ind = some ind → IndOk t ind) : Wf g t := by
  refine ⟨fun j => ?_, fun d j hd => ?_, huse, hind⟩
  · by_cases hj : j = i
    · rw [hj]
      exact hslot
    · cases hs.slot j with
      | free howner hno hclear =>
          refine .free ?_ ?_ ?_
          · rw [hf.owner j hj, howner]
          · rw [hf.slot_in_use j hj, hno]
          · rw [hf.slots j hj, hclear]
      | held d arrived howner hyes hpc heq hwait =>
          -- Another slot is held by another call, which did not move.
          have hd : d ≠ c := fun hdc => hj (honly j (hdc ▸ howner))
          refine .held d arrived ?_ ?_ ?_ ?_ ?_
          · rw [hf.owner j hj, howner]
          · rw [hf.slot_in_use j hj, hyes]
          · rw [hf.calls d hd, hpc]
          · rw [hf.slots j hj, hf.calls d hd, heq]
          · rw [hf.calls d hd]
            exact hwait
  · by_cases hdc : d = c
    · rw [hdc] at hd ⊢
      exact hcall j hd
    · rw [hf.calls d hdc] at hd
      have howner := hs.owner d j hd
      -- Another call holds another slot, which did not change.
      have hj : j ≠ i := fun hji => hdc (hbefore d (hji ▸ howner))
      rw [hf.owner j hj, howner]

/-- A call after its slot was handed an indication. -/
def Call.hand (k : Call P) (ind : Ind P) (waiting : Bool) (payload : Option P) : Call P :=
  { k with
    handed := k.handed ++ [⟨ind.seq, ind.key⟩]
    signalled := k.signalled || waiting
    buffer := payload.or k.buffer }

/-- The indication after a round of the loop. -/
def Ind.next (ind : Ind P) (in_use consumed : Bool) : Ind P :=
  { ind with i := ind.i + 1, in_use := ind.in_use || in_use, consumed := consumed }

/-- A matching slot, held by `c`. -/
def State.handTo (g : Setup) (s : State P) (ind : Ind P) (i : SelectId) (c : CallId) : State P :=
  { (s.setCall c ((s.calls c).hand ind (s.slots i).ind_is_waiting
      ((s.copied g ind i).map Prod.snd))).setSlot i ((s.slots i).arrive ind.key.ind_id) with
    ind := some (ind.next true (s.copied g ind i).isSome) }

inductive Move (g : Setup) (s : State P) : Label P → State P → Prop
  | allocated (c : CallId) (i : SelectId) (hpc : (s.calls c).pc = .idle) (hind : s.ind = none)
      (hfree : s.slot_in_use i = false) : Move g s (.alloc c) (s.take c i)
  | full (c : CallId) (hpc : (s.calls c).pc = .idle) (hind : s.ind = none)
      (hfull : ∀ i, s.slot_in_use i = true) :
      Move g s (.alloc c) (s.goto c (.returned .success))
  | selected (c : CallId) (i : SelectId) (hpc : (s.calls c).pc = .selecting i) :
      Move g s (.select c) (s.selectInd g c i)
  | sent (c : CallId) (i : SelectId) (status : LocClientStatus)
      (hpc : (s.calls c).pc = .sending i) : Move g s (.send c status) (s.sendReq c i status)
  /-- The indication was there before the wait. -/
  | arrived (c : CallId) (i : SelectId) (hpc : (s.calls c).pc = .entering i)
      (ha : (s.slots i).ind_has_arrived = true) :
      Move g s (.wait c) (s.goto c (.freeing i .success))
  | began (c : CallId) (i : SelectId) (hpc : (s.calls c).pc = .entering i)
      (ha : (s.slots i).ind_has_arrived = false) :
      Move g s (.wait c) ((s.setSlot i { s.slots i with ind_is_waiting := true }).goto c
        (.waiting i))
  | woke (c : CallId) (i : SelectId) (timedOut : Bool) (hpc : (s.calls c).pc = .waiting i) :
      Move g s (.wake c timedOut) (s.wake c i timedOut)
  | freed (c : CallId) (i : SelectId) (status : LocClientStatus)
      (hpc : (s.calls c).pc = .freeing i status) (hind : s.ind = none) :
      Move g s (.free c) (s.freeSlot c i status)
  /-- No slot is in use. -/
  | dropped (key : Key) (payload : Option P) (hind : s.ind = none) (huse : s.in_use = false) :
      Move g s (.indBegin key payload)
        { s with seq := s.seq + 1, processed := s.processed ++ [key] }
  | begun (key : Key) (payload : Option P) (hind : s.ind = none) (huse : s.in_use = true) :
      Move g s (.indBegin key payload)
        { s with seq := s.seq + 1, ind := some ⟨key, payload, 0, false, false, s.seq⟩ }
  | passed (ind : Ind P) (i : SelectId) (hind : s.ind = some ind) (hi : i.val = ind.i)
      (hc : ind.consumed = false) (hm : ¬ s.Matches ind i) :
      Move g s .indVisit { s with ind := some (ind.next (s.slot_in_use i) false) }
  | handed (ind : Ind P) (i : SelectId) (c : CallId) (hind : s.ind = some ind)
      (hi : i.val = ind.i) (hc : ind.consumed = false) (hm : s.Matches ind i)
      (howner : s.owner i = some c) : Move g s .indVisit (s.handTo g ind i c)
  | finished (ind : Ind P) (hind : s.ind = some ind)
      (hend : ind.i = LOC_SYNC_REQ_BUFFER_SIZE ∨ ind.consumed = true) :
      Move g s .indEnd (s.processIndEnd ind)

/-- The buffer a slot points to is the one of its call. -/
theorem copied_owner (hs : Wf g s) {ind : Ind P} {i : SelectId} {c b : CallId} {p : P}
    (howner : s.owner i = some c) (hcopy : s.copied g ind i = some (b, p)) : b = c := by
  rcases hs.held (hs.pc_of_owner howner) with ⟨arrived, _, hslot, _⟩
  rw [State.copied, hslot] at hcopy
  split at hcopy
  · rename_i hptr _
    cases hcopy
    -- A slot that is not written points to no buffer.
    cases hpc : (s.calls c).pc with
    | selecting j =>
        rw [hpc] at hptr
        cases hptr
    | _ =>
        rw [hpc] at hptr
        simp only [Slot.of, Args.payloadPtr] at hptr
        split at hptr
        · exact (Option.some.inj hptr).symm
        · cases hptr
  · cases hcopy

theorem visitSlot_eq (hs : Wf g s) {ind : Ind P} {i : SelectId} {c : CallId}
    (hm : s.Matches ind i) (howner : s.owner i = some c) :
    s.visitSlot g ind i = s.handTo g ind i c := by
  rw [State.visitSlot, if_pos hm, State.handTo, Ind.next, hm.1]
  cases hcopy : s.copied g ind i with
  | none =>
      simp only [State.copyPayload, hcopy, State.note, howner, Option.map_none, Call.hand,
        Option.none_or]
  | some bp =>
      rcases bp with ⟨b, p⟩
      have hb : b = c := copied_owner hs howner hcopy
      subst hb
      simp only [State.copyPayload, hcopy, State.note, State.setCall, howner,
        Function.update_self, Function.update_idem, Option.map_some, Call.hand, Option.some_or]

theorem firstFree_some {i : SelectId} (h : s.firstFree = some i) : s.slot_in_use i = false := by
  have := List.find?_some h
  simpa only [Bool.not_eq_true'] using this

theorem firstFree_none (h : s.firstFree = none) (i : SelectId) : s.slot_in_use i = true := by
  have := List.find?_eq_none.mp h i (List.mem_finRange i)
  simpa only [Bool.not_eq_true', Bool.not_eq_false] using this

theorem allocSlot_move {c : CallId} (hpc : (s.calls c).pc = .idle) (hind : s.ind = none) :
    Move g s (.alloc c) (s.allocSlot c) := by
  rw [State.allocSlot]
  cases hfree : s.firstFree with
  | some i => exact .allocated c i hpc hind (firstFree_some hfree)
  | none => exact .full c hpc hind (firstFree_none hfree)

/-- The slot is in use by the call itself, and nobody else waits in it. -/
theorem waitForInd_move (hs : Wf g s) {c : CallId} {i : SelectId}
    (hpc : (s.calls c).pc = .entering i) : Move g s (.wait c) (s.waitForInd c i) := by
  have hslot : (s.calls c).pc.slot = some i := by
    rw [hpc]
    rfl
  rcases hs.held hslot with ⟨arrived, huse, heq, _⟩
  have hnot : (s.slots i).ind_is_waiting = false := by
    rw [heq, hpc]
    rfl
  simp only [State.waitForInd, huse, Bool.not_true, Bool.false_eq_true, if_false, hnot]
  by_cases ha : (s.slots i).ind_has_arrived = true
  · rw [if_pos ha]
    exact .arrived c i hpc ha
  · rw [if_neg ha]
    exact .began c i hpc (Bool.not_eq_true _ ▸ ha)

theorem processInd_move {key : Key} {payload : Option P} (hind : s.ind = none) :
    Move g s (.indBegin key payload) (s.processInd key payload) := by
  by_cases huse : s.in_use = true
  · rw [State.processInd, if_neg (by rw [huse]; exact Bool.false_ne_true)]
    exact .begun key payload hind huse
  · rw [Bool.not_eq_true] at huse
    rw [State.processInd, if_pos (by rw [huse]; rfl)]
    exact .dropped key payload hind huse

theorem visitSlot_move (hs : Wf g s) {ind : Ind P} {i : SelectId} (hind : s.ind = some ind)
    (hi : i.val = ind.i) (hc : ind.consumed = false) :
    Move g s .indVisit (s.visitSlot g ind i) := by
  by_cases hm : s.Matches ind i
  · rcases hs.owner_of_use hm.1 with ⟨c, howner⟩
    rw [visitSlot_eq hs hm howner]
    exact .handed ind i c hind hi hc hm howner
  · have hmove := Move.passed (g := g) ind i hind hi hc hm
    rw [State.visitSlot, if_neg hm]
    rwa [Ind.next, ← hc] at hmove

/-- The loop ends after the last slot or after the one that took the
    payload. -/
theorem processIndEnd_move (hs : Wf g s) {ind : Ind P} (hind : s.ind = some ind)
    (hend : ¬ (ind.i < LOC_SYNC_REQ_BUFFER_SIZE ∧ ind.consumed = false)) :
    Move g s .indEnd (s.processIndEnd ind) := by
  refine .finished ind hind ?_
  have hle := (hs.ind ind hind).le
  by_cases hlt : ind.i < LOC_SYNC_REQ_BUFFER_SIZE
  · refine Or.inr ?_
    rw [← Bool.not_eq_false]
    exact fun hc => hend ⟨hlt, hc⟩
  · exact Or.inl (by omega)

/-- Every step is a move: the code's own checks on the slot never fail. -/
theorem step_move (hs : Wf g s) {l : Label P} (h : step g s l = some t) : Move g s l t := by
  cases l with
  | alloc c =>
      simp only [step] at h
      split at h
      · rename_i hpc hind
        cases h
        exact allocSlot_move hpc hind
      · cases h
  | select c =>
      simp only [step] at h
      split at h
      · rename_i i hpc
        cases h
        exact .selected c i hpc
      · cases h
  | send c status =>
      simp only [step] at h
      split at h
      · rename_i i hpc
        cases h
        exact .sent c i status hpc
      · cases h
  | wait c =>
      simp only [step] at h
      split at h
      · rename_i i hpc
        cases h
        exact waitForInd_move hs hpc
      · cases h
  | wake c timedOut =>
      simp only [step] at h
      split at h
      · rename_i i hpc
        cases h
        exact .woke c i timedOut hpc
      · cases h
  | free c =>
      simp only [step] at h
      split at h
      · rename_i i status hpc hind
        cases h
        exact .freed c i status hpc hind
      · cases h
  | indBegin key payload =>
      simp only [step] at h
      split at h
      · rename_i hind
        cases h
        exact processInd_move hind
      · cases h
  | indVisit =>
      simp only [step] at h
      split at h
      · rename_i ind hind
        split at h
        · split at h
          · cases h
          · rename_i hc
            cases h
            exact visitSlot_move hs hind rfl (Bool.not_eq_true _ ▸ hc)
        · cases h
      · cases h
  | indEnd =>
      simp only [step] at h
      split at h
      · rename_i ind hind
        split at h
        · cases h
        · rename_i hend
          cases h
          exact processIndEnd_move hs hind hend
      · cases h

theorem goto_self (s : State P) (c : CallId) (pc : Pc) :
    (s.goto c pc).calls c = { s.calls c with pc := pc } :=
  Function.update_self c _ _

theorem goto_other {c d : CallId} {pc : Pc} (hd : d ≠ c) : (s.goto c pc).calls d = s.calls d :=
  Function.update_of_ne hd _ _

theorem take_owner_self (s : State P) (c : CallId) (i : SelectId) :
    (s.take c i).owner i = some c :=
  Function.update_self i _ _

theorem take_owner_other {c : CallId} {i j : SelectId} (hj : j ≠ i) :
    (s.take c i).owner j = s.owner j :=
  Function.update_of_ne hj _ _

theorem freeSlot_owner_self (s : State P) (c : CallId) (i : SelectId) (status : LocClientStatus) :
    (s.freeSlot c i status).owner i = none :=
  Function.update_self i _ _

theorem freeSlot_owner_other {c : CallId} {i j : SelectId} {status : LocClientStatus}
    (hj : j ≠ i) : (s.freeSlot c i status).owner j = s.owner j :=
  Function.update_of_ne hj _ _

theorem handTo_self (g : Setup) (s : State P) (ind : Ind P) (i : SelectId) (c : CallId) :
    (s.handTo g ind i c).calls c =
      (s.calls c).hand ind (s.slots i).ind_is_waiting ((s.copied g ind i).map Prod.snd) :=
  Function.update_self c _ _

theorem handTo_other {ind : Ind P} {i : SelectId} {c d : CallId} (hd : d ≠ c) :
    (s.handTo g ind i c).calls d = s.calls d :=
  Function.update_of_ne hd _ _

/-- A step of a call that keeps its slot and may write to it. -/
theorem wf_of_held {c : CallId} {i : SelectId} {k : Call P} (arrived : Bool) (hs : Wf g s)
    (hpc : (s.calls c).pc.slot = some i) (hcalls : t.calls = Function.update s.calls c k)
    (hslots : t.slots = Function.update s.slots i (Slot.of (g.args c) c k.pc arrived))
    (howner : t.owner = s.owner) (huse : t.slot_in_use = s.slot_in_use)
    (hin : t.in_use = s.in_use) (hk : k.pc.slot = some i)
    (hwait : k.pc.isWaiting = true → arrived = false)
    (hind : ∀ ind, t.ind = some ind → IndOk t ind) : Wf g t := by
  have hc := hs.owner c i hpc
  rcases hs.held hpc with ⟨_, hyes, _, _⟩
  have hf : Frame s t i c := by
    refine ⟨fun j _ => by rw [howner], fun j _ => by rw [huse], fun j hj => ?_, fun d hd => ?_⟩
    · rw [hslots, Function.update_of_ne hj]
    · rw [hcalls, Function.update_of_ne hd]
  refine wf_of_frame hf hs (fun d hd => ?_) (fun j hj => hs.owner_inj hj hc) ?_ (fun j hj => ?_) ?_
    hind
  · rw [hc] at hd
    exact (Option.some.inj hd).symm
  · refine .held c arrived ?_ ?_ ?_ ?_ ?_
    · rw [howner, hc]
    · rw [huse, hyes]
    · rw [hcalls, Function.update_self, hk]
    · rw [hslots, hcalls, Function.update_self, Function.update_self]
    · rw [hcalls, Function.update_self]
      exact hwait
  · rw [hcalls, Function.update_self, hk] at hj
    rw [howner, ← Option.some.inj hj, hc]
  · rw [hin, huse]
    exact hs.in_use

/-- The indication thread has seen as much of a table with the same slots in
    use. -/
theorem IndOk.of_use {ind : Ind P} (h : IndOk s ind) (huse : t.slot_in_use = s.slot_in_use) :
    IndOk t ind :=
  ⟨h.le, by rw [huse]; exact h.in_use, h.consumed⟩

/-- One more slot has been looked at. -/
theorem IndOk.next {ind : Ind P} {i : SelectId} (h : IndOk s ind) (consumed : Bool)
    (hi : i.val = ind.i) (hc : consumed = true → s.slot_in_use i = true) :
    IndOk s (ind.next (s.slot_in_use i) consumed) := by
  refine ⟨?_, ?_, ?_⟩
  · have := i.isLt
    simp only [Ind.next]
    omega
  · simp only [Ind.next, Bool.or_eq_true, h.in_use]
    -- The slots before the next are those before this one, and this one.
    constructor
    · rintro (⟨j, hj, hju⟩ | hiu)
      · exact ⟨j, by omega, hju⟩
      · exact ⟨i, by omega, hiu⟩
    · rintro ⟨j, hj, hju⟩
      by_cases heq : j = i
      · exact Or.inr (heq ▸ hju)
      · have hne : j.val ≠ i.val := fun h => heq (Fin.ext h)
        exact Or.inl ⟨j, by omega, hju⟩
  · intro hyes
    simp only [Ind.next, hc hyes, Bool.or_true]

/-- A free slot is taken by a call that had none. -/
theorem take_wf {c : CallId} {i : SelectId} (hs : Wf g s) (hpc : (s.calls c).pc = .idle)
    (hind : s.ind = none) (hfree : s.slot_in_use i = false) : Wf g (s.take c i) := by
  rcases hs.owner_of_not_use hfree with ⟨hnone, hclear⟩
  -- One slot and one call change.
  have hf : Frame s (s.take c i) i c :=
    ⟨fun j hj => Function.update_of_ne hj _ _, fun j hj => Function.update_of_ne hj _ _,
      fun j _ => rfl, fun d hd => Function.update_of_ne hd _ _⟩
  have hcall : (s.take c i).calls c = { s.calls c with pc := .selecting i } :=
    Function.update_self c _ _
  refine wf_of_frame hf hs (fun d hd => ?_) (fun j hj => ?_) ?_ (fun j hj => ?_) ?_
    (fun ind h => ?_)
  · rw [hnone] at hd
    cases hd
  · have hslot := hs.pc_of_owner hj
    rw [hpc] at hslot
    cases hslot
  · refine .held c false (Function.update_self i _ _) (Function.update_self i _ _) ?_ ?_ ?_
    · rw [hcall]
      rfl
    · rw [hcall]
      exact hclear
    · rw [hcall]
      exact fun h => by cases h
  · rw [hcall] at hj
    cases hj
    exact Function.update_self i _ _
  · exact ⟨fun _ => ⟨i, Function.update_self i _ _⟩, fun _ => rfl⟩
  · rw [show (s.take c i).ind = none from hind] at h
    cases h

/-- The slot of a call that is done is cleared. -/
theorem freeSlot_wf {c : CallId} {i : SelectId} {status : LocClientStatus} (hs : Wf g s)
    (hpc : (s.calls c).pc = .freeing i status) (hind : s.ind = none) :
    Wf g (s.freeSlot c i status) := by
  have hc : s.owner i = some c := hs.owner c i (by rw [hpc]; rfl)
  have hf : Frame s (s.freeSlot c i status) i c :=
    ⟨fun j hj => Function.update_of_ne hj _ _, fun j hj => Function.update_of_ne hj _ _,
      fun j hj => Function.update_of_ne hj _ _, fun d hd => Function.update_of_ne hd _ _⟩
  have hcall : (s.freeSlot c i status).calls c = { s.calls c with pc := .returned status } :=
    Function.update_self c _ _
  refine wf_of_frame hf hs (fun d hd => ?_) (fun j hj => hs.owner_inj hj hc) ?_ (fun j hj => ?_)
    ?_ (fun ind h => ?_)
  · rw [hc] at hd
    exact (Option.some.inj hd).symm
  -- The slot has neither owner nor flag now, as a fresh one.
  · exact .free (Function.update_self i _ _) (Function.update_self i _ _)
      (Function.update_self i _ _)
  · rw [hcall] at hj
    cases hj
  · -- The flag was right before, and stays only if some slot is left.
    have hany : (s.freeSlot c i status).in_use = true ↔ s.in_use = true ∧
        ∃ j, (s.freeSlot c i status).slot_in_use j = true := by
      simp only [State.freeSlot, State.goto, State.setCall, State.setSlot, Bool.and_eq_true,
        List.any_eq_true, List.mem_finRange, true_and]
    rw [hany, hs.in_use]
    constructor
    · exact fun h => h.2
    · rintro ⟨j, hj⟩
      refine ⟨⟨j, ?_⟩, ⟨j, hj⟩⟩
      by_cases hji : j = i
      · rw [hji] at hj
        rw [show (s.freeSlot c i status).slot_in_use i = false from
          Function.update_self i _ _] at hj
        cases hj
      · rw [← hf.slot_in_use j hji]
        exact hj
  · rw [show (s.freeSlot c i status).ind = none from hind] at h
    cases h

/-- The loop saw every slot, or one that is in use. -/
theorem processIndEnd_wf {ind : Ind P} (hs : Wf g s) (hind : s.ind = some ind)
    (hend : ind.i = LOC_SYNC_REQ_BUFFER_SIZE ∨ ind.consumed = true) :
    Wf g (s.processIndEnd ind) := by
  have hok := hs.ind ind hind
  have hsame : (s.in_use && ind.in_use) = s.in_use := by
    cases huse : s.in_use with
    | false => rfl
    | true =>
        rw [Bool.true_and]
        rcases hend with hall | hconsumed
        -- Some slot is in use, and the loop went past it.
        · rcases hs.in_use.mp huse with ⟨j, hj⟩
          refine hok.in_use.mpr ⟨j, ?_, hj⟩
          rw [hall]
          exact j.isLt
        · exact hok.consumed hconsumed
  refine ⟨fun j => (hs.slot j).of_same rfl rfl rfl rfl, hs.owner, ?_, fun ind' h => by cases h⟩
  · show (s.in_use && ind.in_use) = true ↔ _
    rw [hsame]
    exact hs.in_use

/-- A matching slot takes the arrival flag in place of the signal. -/
theorem Slot.of_arrive {a : Args} {c : CallId} {pc : Pc} {arrived : Bool} {ind_id : UInt32}
    (hid : ind_id = (Slot.of a c pc arrived).recv_ind_id)
    (hno : (Slot.of a c pc arrived).ind_has_arrived = false) :
    (Slot.of a c pc arrived).arrive ind_id =
      Slot.of a c pc (!(Slot.of a c pc arrived).ind_is_waiting) := by
  subst hid
  have harrived : arrived = false := by
    cases pc <;> exact hno
  subst harrived
  cases pc <;> rfl

/-- A call that finds no slot holds none. -/
theorem full_wf {c : CallId} (hs : Wf g s) (hpc : (s.calls c).pc = .idle) :
    Wf g (s.goto c (.returned .success)) := by
  have hcalls : ∀ d, ((s.goto c (.returned .success)).calls d).pc.slot = (s.calls d).pc.slot := by
    intro d
    by_cases hd : d = c
    · rw [hd, goto_self, hpc]
      rfl
    · rw [goto_other hd]
  refine ⟨fun i => ?_, fun d i hd => hs.owner d i (hcalls d ▸ hd), hs.in_use,
    fun ind hi => (hs.ind ind hi).of_use rfl⟩
  cases hs.slot i with
  | free h₁ h₂ h₃ => exact .free h₁ h₂ h₃
  | held d a h₁ h₂ h₃ h₄ h₅ =>
      have hd : d ≠ c := fun hdc => by
        rw [hdc, hpc] at h₃
        cases h₃
      have hsame : (s.goto c (.returned .success)).calls d = s.calls d := goto_other hd
      exact .held d a h₁ h₂ (hsame ▸ h₃) (hsame ▸ h₄) (hsame ▸ h₅)

/-- The call keeps its slot as it is, and goes on to the wait or to the end. -/
theorem sendReq_wf {c : CallId} {i : SelectId} (status : LocClientStatus) (hs : Wf g s)
    (hpc : (s.calls c).pc = .sending i) : Wf g (s.sendReq c i status) := by
  rcases hs.slot_at hpc rfl with ⟨hslot, arrived, heq⟩
  refine wf_of_held arrived hs hslot rfl ?_ rfl rfl rfl ?_ ?_
    fun ind hi => (hs.ind ind hi).of_use rfl
  · show s.slots = _
    rw [eq_comm, Function.update_eq_self_iff, heq]
    split <;> rfl
  · show Pc.slot (if status ≠ .success then .freeing i status else .entering i) = some i
    split <;> rfl
  · show Pc.isWaiting (if status ≠ .success then .freeing i status else .entering i) = true → _
    split <;> exact fun h => by cases h

/-- A matching slot gets its flag set, or its caller a signal. -/
theorem handTo_wf {ind : Ind P} {i : SelectId} {c : CallId} (hs : Wf g s)
    (hind : s.ind = some ind) (hi : i.val = ind.i) (hm : s.Matches ind i)
    (howner : s.owner i = some c) : Wf g (s.handTo g ind i c) := by
  have hslot := hs.pc_of_owner howner
  rcases hs.held hslot with ⟨arrived, huse, heq, hwait⟩
  refine wf_of_held (!(s.slots i).ind_is_waiting) hs hslot rfl ?_ rfl rfl rfl
    hslot ?_ fun ind' hind' => ?_
  · -- The flag is set in place of the signal.
    show Function.update s.slots i _ = _
    have hid : ind.key.ind_id = (s.slots i).recv_ind_id := hm.2.2.1
    have hno : (s.slots i).ind_has_arrived = false := hm.2.2.2
    rw [heq] at hid hno ⊢
    rw [Slot.of_arrive hid hno]
    rfl
  · show (s.calls c).pc.isWaiting = true → _
    intro hyes
    rw [heq]
    cases hpc : (s.calls c).pc with
    | waiting j => rfl
    | _ =>
        rw [hpc] at hyes
        cases hyes
  · cases hind'
    have hnext := (hs.ind ind hind).next (s.copied g ind i).isSome hi fun _ => huse
    rw [huse] at hnext
    exact hnext.of_use rfl

/-- Every move keeps the shape of the table. -/
theorem move_wf (hs : Wf g s) {l : Label P} (h : Move g s l t) : Wf g t := by
  cases h with
  | allocated c i hpc hind hfree => exact take_wf hs hpc hind hfree
  | full c hpc hind hfull => exact full_wf hs hpc
  | selected c i hpc =>
      exact wf_of_held false hs (by rw [hpc]; rfl) rfl rfl rfl rfl rfl rfl
        (fun _ => rfl) fun ind hi => (hs.ind ind hi).of_use rfl
  | sent c i status hpc => exact sendReq_wf status hs hpc
  | arrived c i hpc ha =>
      rcases hs.slot_at hpc rfl with ⟨hslot, arrived, heq⟩
      refine wf_of_held arrived hs hslot rfl ?_ rfl rfl rfl rfl
        (fun h => by cases h) fun ind hi => (hs.ind ind hi).of_use rfl
      show s.slots = _
      rw [eq_comm, Function.update_eq_self_iff, heq]
      rfl
  | began c i hpc ha =>
      rcases hs.slot_at hpc rfl with ⟨hslot, arrived, heq⟩
      refine wf_of_held false hs hslot rfl ?_ rfl rfl rfl rfl (fun _ => rfl)
        fun ind hi => (hs.ind ind hi).of_use rfl
      show Function.update s.slots i _ = _
      rw [heq] at ha ⊢
      rw [show arrived = false from ha]
      rfl
  | woke c i timedOut hpc =>
      rcases hs.slot_at hpc rfl with ⟨hslot, arrived, heq⟩
      refine wf_of_held arrived hs hslot rfl ?_ rfl rfl rfl rfl
        (fun h => by cases h) fun ind hi => (hs.ind ind hi).of_use rfl
      show Function.update s.slots i _ = _
      rw [heq]
      rfl
  | freed c i status hpc hind => exact freeSlot_wf hs hpc hind
  | dropped key payload hind huse =>
      exact ⟨fun j => (hs.slot j).of_same rfl rfl rfl rfl, hs.owner, hs.in_use,
        fun ind hi => (hs.ind ind hi).of_use rfl⟩
  | begun key payload hind huse =>
      refine ⟨fun j => (hs.slot j).of_same rfl rfl rfl rfl, hs.owner, hs.in_use, fun ind hi => ?_⟩
      cases hi
      -- The loop has seen no slot yet.
      refine ⟨Nat.zero_le _, ⟨(fun h => by cases h), ?_⟩, (fun h => by cases h)⟩
      rintro ⟨j, hj, _⟩
      exact absurd hj (Nat.not_lt_zero _)
  | passed ind i hind hi hc hm =>
      refine ⟨fun j => (hs.slot j).of_same rfl rfl rfl rfl, hs.owner, hs.in_use,
        fun ind' hind' => ?_⟩
      cases hind'
      exact ((hs.ind ind hind).next false hi fun h => by cases h).of_use rfl
  | handed ind i c hind hi hc hm howner => exact handTo_wf hs hind hi hm howner
  | finished ind hind hend => exact processIndEnd_wf hs hind hend

/-- Two states between which only call `c` moved: the others are where they
    were, with their slots as they were. -/
structure Local (s t : State P) (c : CallId) : Prop where
  calls : ∀ d, d ≠ c → t.calls d = s.calls d
  owner : ∀ d, d ≠ c → ∀ j, t.owner j = some d ↔ s.owner j = some d
  slots : ∀ d, d ≠ c → ∀ j, s.owner j = some d → t.slots j = s.slots j

theorem goto_local (s : State P) (c : CallId) (pc : Pc) : Local s (s.goto c pc) c :=
  ⟨fun _ hd => goto_other hd, fun _ _ _ => Iff.rfl, fun _ _ _ _ => rfl⟩

theorem take_local {c : CallId} {i : SelectId} (hs : Wf g s) (hfree : s.slot_in_use i = false) :
    Local s (s.take c i) c := by
  refine ⟨fun d hd => goto_other hd, fun d hd j => ?_, fun _ _ _ _ => rfl⟩
  by_cases hji : j = i
  · -- Slot `i` was nobody's, and is `c`'s.
    rw [hji, (hs.owner_of_not_use hfree).1, take_owner_self]
    exact ⟨fun h => absurd (Option.some.inj h).symm hd, fun h => by cases h⟩
  · rw [take_owner_other hji]

theorem freeSlot_local {c : CallId} {i : SelectId} (status : LocClientStatus) (hs : Wf g s)
    (hpc : (s.calls c).pc.slot = some i) : Local s (s.freeSlot c i status) c := by
  have hc := hs.owner c i hpc
  refine ⟨fun d hd => goto_other hd, fun d hd j => ?_, fun d hd j hj => ?_⟩
  · by_cases hji : j = i
    · rw [hji, hc, freeSlot_owner_self]
      exact ⟨(fun h => by cases h), fun h => absurd (Option.some.inj h).symm hd⟩
    · rw [freeSlot_owner_other hji]
  · have hji : j ≠ i := fun hji => by
      rw [hji, hc] at hj
      exact hd (Option.some.inj hj).symm
    exact Function.update_of_ne hji _ _

/-- A step of a call that keeps its slot. -/
theorem local_of_held {c : CallId} {i : SelectId} (hs : Wf g s)
    (hpc : (s.calls c).pc.slot = some i) (howner : t.owner = s.owner)
    (hslots : ∀ j, j ≠ i → t.slots j = s.slots j)
    (hcalls : ∀ d, d ≠ c → t.calls d = s.calls d) : Local s t c := by
  have hc := hs.owner c i hpc
  refine ⟨hcalls, fun d _ j => by rw [howner], fun d hd j hj => hslots j fun hji => ?_⟩
  rw [hji, hc] at hj
  exact hd (Option.some.inj hj).symm

/-- The steps of the indication thread. -/
def Label.isInd : Label P → Bool
  | .indBegin _ _ | .indVisit | .indEnd => true
  | _ => false

/-- A call whose record changes keeps its history and its buffer. -/
theorem kept_of_update {c : CallId} {k : Call P} (hcalls : t.calls = Function.update s.calls c k)
    (hh : k.handed = (s.calls c).handed) (hb : k.buffer = (s.calls c).buffer) (d : CallId) :
    (t.calls d).handed = (s.calls d).handed ∧ (t.calls d).buffer = (s.calls d).buffer := by
  rw [hcalls]
  by_cases hd : d = c
  · rw [hd, Function.update_self]
    exact ⟨hh, hb⟩
  · rw [Function.update_of_ne hd]
    exact ⟨rfl, rfl⟩

/-- The calls hand out nothing, leave the indication thread alone, and take
    and free slots only between two indications. -/
theorem caller_quiet {l : Label P} (hm : Move g s l t) (hl : l.isInd = false) :
    (∀ c, (t.calls c).handed = (s.calls c).handed ∧ (t.calls c).buffer = (s.calls c).buffer) ∧
      t.ind = s.ind ∧ t.processed = s.processed ∧ (s.ind ≠ none → t.owner = s.owner) := by
  cases hm with
  | allocated c i hpc hind hfree =>
      exact ⟨kept_of_update rfl rfl rfl, rfl, rfl, fun h => absurd hind h⟩
  | full c hpc hind hfull => exact ⟨kept_of_update rfl rfl rfl, rfl, rfl, fun _ => rfl⟩
  | selected c i hpc => exact ⟨kept_of_update rfl rfl rfl, rfl, rfl, fun _ => rfl⟩
  | sent c i status hpc => exact ⟨kept_of_update rfl rfl rfl, rfl, rfl, fun _ => rfl⟩
  | arrived c i hpc ha => exact ⟨kept_of_update rfl rfl rfl, rfl, rfl, fun _ => rfl⟩
  | began c i hpc ha => exact ⟨kept_of_update rfl rfl rfl, rfl, rfl, fun _ => rfl⟩
  | woke c i timedOut hpc => exact ⟨kept_of_update rfl rfl rfl, rfl, rfl, fun _ => rfl⟩
  | freed c i status hpc hind =>
      exact ⟨kept_of_update rfl rfl rfl, rfl, rfl, fun h => absurd hind h⟩
  | _ => cases hl

end Sync

end Victara
