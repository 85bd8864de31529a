import Victara.Sync.Moves

/-!
# A Successful Request Was Answered

What a caller may conclude from `eLOC_CLIENT_SUCCESS`: that its request was
sent, and that an indication for it was processed while it held its slot.
The status is set to success before anything is done, and by two paths it
gets out as it is. `loc_sync_send_req` has nothing to say when
`loc_sync_select_ind` found the table full; and the wait is not repeated when
it ends with neither a signal nor a timeout, which a condition wait may. On
every other path success means what it says.

## Main definitions

* `Call.WasHanded`: An indication was processed for the slot of a call.
* `ProperFor`: Call `c` finds a free slot when it asks for one, and its wait, if
  it is not timed out, was signalled.
* `Proper`: A slot is free when one is asked for, and a wait ends by a signal or
  a timeout.
* `Call.IsSent`: The request of the call is sent.
* `Evidence`: Something that a call has once it was handed an indication.
* `CallHonest`: Flag, signal and success come with the evidence.
* `Gives`: What an indication gives to the call whose written slot it matches.
* `HandedKey`: An indication with the key of the call.
* `Setup.uniform`: All calls ask for the same indication, which is 4 bytes long,
  and bring a buffer.
* `answeredSchedule`: A call that waits, is signalled and returns.

## Theorems

* `honest_of_local`: A call is as honest as before where it did not move.
* `key_of_matches`: The slot a call has written is matched by what the call
  asked for.
* `waiting_of_owner`: A slot somebody waits in is the slot of a call in its
  wait.
* `handTo_honest`: The call that gets an indication: before its slot is written
  nothing of this counts, and from then on it gets the evidence.
* `honest_of_pc`: Where a call neither waits, nor is about to, nor has
  succeeded, signal and arrival are all there is to it.
* `sendReq_honest`: `locClientSendReq` returned: the call goes on to its wait,
  or to free its slot with the status it got.
* `honest_of_cases`: What moved is the call, or some other.
* `take_honest`: A free slot is taken by a call that has nothing to show yet.
* `selectInd_honest`: The slot is written, with the flag down.
* `wake_honest`: The wait is over: in time by a signal, or too late.
* `freeSlot_honest`: The slot is given back, and it was the only one.
* `waitForInd_honest`: `loc_sync_wait_for_ind` finds the indication there, or
  begins to wait.
* `move_honest`: A move that is proper for a call keeps it honest.
* `gives_handedKey`: The indication that matches a written slot has the key of
  its call.
* `success_answered`: Over proper schedules success means an answer.
* `success_unanswered`: It does not when the table is full, or after a wake-up
  without a signal.
-/

namespace Victara

namespace Sync

variable {P : Type*} {g : Setup} {s t : State P}

/-- An indication for `key` was processed for the slot of the call. -/
def Call.WasHanded (k : Call P) (key : Key) : Prop := ∃ e ∈ k.handed, e.key = key

instance (k : Call P) (key : Key) : Decidable (k.WasHanded key) :=
  inferInstanceAs (Decidable (∃ e ∈ k.handed, e.key = key))

/-- Call `c` finds a free slot when it asks for one, and its wait, if it is
    not timed out, was signalled. -/
def ProperFor (s : State P) (c : CallId) : Label P → Prop
  | .alloc d => d = c → ∃ i, s.slot_in_use i = false
  | .wake d false => d = c → (s.calls c).signalled = true
  | _ => True

instance (s : State P) (c : CallId) : (l : Label P) → Decidable (ProperFor s c l)
  | .alloc d => inferInstanceAs (Decidable (d = c → ∃ i, s.slot_in_use i = false))
  | .wake d false => inferInstanceAs (Decidable (d = c → (s.calls c).signalled = true))
  | .wake _ true | .select _ | .send _ _ | .wait _ | .free _ | .indBegin _ _ | .indVisit
  | .indEnd => isTrue trivial

/-- There is a free slot for who asks, and a wait that is not timed out was
    signalled. The two cases are the two ways out of `loc_sync_send_req` on
    which nobody sets the status: it is initialised to success, and neither a
    full table nor a wake-up without a signal changes that. -/
def Proper (s : State P) : Label P → Prop
  | .alloc _ => ∃ i, s.slot_in_use i = false
  | .wake c false => (s.calls c).signalled = true
  | _ => True

instance (s : State P) : (l : Label P) → Decidable (Proper s l)
  | .alloc _ => inferInstanceAs (Decidable (∃ i, s.slot_in_use i = false))
  | .wake c false => inferInstanceAs (Decidable ((s.calls c).signalled = true))
  | .wake _ true | .select _ | .send _ _ | .wait _ | .free _ | .indBegin _ _ | .indVisit
  | .indEnd => isTrue trivial

theorem Proper.proper_for {l : Label P} (h : Proper s l) (c : CallId) : ProperFor s c l := by
  cases l with
  | alloc d => exact fun _ => h
  | wake d timedOut =>
      cases timedOut with
      | true => exact trivial
      | false => exact fun hd => hd ▸ h
  | _ => exact trivial

/-- The request of the call is sent. -/
def Call.IsSent (k : Call P) : Prop := k.sent = some .success

/-- Something that shows in the history and the buffer of a call. -/
abbrev Evidence (P : Type*) := List Handed → Option P → Prop

/-- A signal, an arrival in a slot that was written, and success all come with
    the evidence; nobody waits before the request is sent. The evidence is a
    parameter, so that one induction serves both what was handed over and what
    is in the buffer. -/
structure CallHonest (Q : Evidence P) (s : State P) (c : CallId) : Prop where
  signalled : (s.calls c).signalled = true → Q (s.calls c).handed (s.calls c).buffer
  arrived : ∀ i, s.owner i = some c → (s.calls c).pc ≠ .selecting i →
    (s.slots i).ind_has_arrived = true → Q (s.calls c).handed (s.calls c).buffer
  sent : ∀ i, (s.calls c).pc = .entering i ∨ (s.calls c).pc = .waiting i → (s.calls c).IsSent
  success : (∃ i, (s.calls c).pc = .freeing i .success) ∨ (s.calls c).pc = .returned .success →
    (s.calls c).IsSent ∧ Q (s.calls c).handed (s.calls c).buffer

variable {Q : Evidence P}

theorem init_honest (c : CallId) : CallHonest Q (State.init : State P) c := by
  refine ⟨(fun h => by cases h), (fun i h => by cases h), fun i h => ?_, fun h => ?_⟩
  · rcases h with h | h <;> cases h
  · rcases h with ⟨i, h⟩ | h <;> cases h

/-- A call that did not move, or did nothing of this. -/
theorem honest_of_local {c d : CallId} (hl : Local s t c) (hd : d ≠ c) (h : CallHonest Q s d) :
    CallHonest Q t d := by
  have hcall := hl.calls d hd
  refine ⟨?_, fun j hj => ?_, ?_, ?_⟩
  · rw [hcall]
    exact h.signalled
  · have hold := (hl.owner d hd j).mp hj
    rw [hcall, hl.slots d hd j hold]
    exact h.arrived j hold
  · rw [hcall]
    exact h.sent
  · rw [hcall]
    exact h.success

/-- The slot a call has written is matched by what the call asked for. -/
theorem key_of_matches (hs : Wf g s) {ind : Ind P} {i : SelectId} {c : CallId}
    (howner : s.owner i = some c) (hsel : (s.calls c).pc ≠ .selecting i)
    (hm : s.Matches ind i) : ind.key = (g.args c).key := by
  have hpc := hs.pc_of_owner howner
  rcases hs.held hpc with ⟨arrived, _, heq, _⟩
  rcases hm with ⟨_, hhandle, hid, _⟩
  rw [heq] at hhandle hid
  -- From when it is written, a slot holds what its call asked for.
  have hkey : ind.key = ⟨ind.key.client_handle, ind.key.ind_id⟩ := rfl
  rw [hkey, ← hhandle, hid]
  cases hcase : (s.calls c).pc with
  | idle =>
      rw [hcase] at hpc
      cases hpc
  | returned status =>
      rw [hcase] at hpc
      cases hpc
  | selecting j =>
      rw [hcase] at hpc hsel
      cases hpc
      exact absurd rfl hsel
  | _ => rfl

/-- A slot somebody waits in is the slot of a call in its wait. -/
theorem waiting_of_owner (hs : Wf g s) {i : SelectId} {c : CallId} (howner : s.owner i = some c)
    (hw : (s.slots i).ind_is_waiting = true) : (s.calls c).pc = .waiting i := by
  have hpc := hs.pc_of_owner howner
  rcases hs.held hpc with ⟨arrived, _, heq, _⟩
  rw [heq] at hw
  cases hcase : (s.calls c).pc with
  | waiting j =>
      rw [hcase] at hpc
      cases hpc
      rfl
  | _ =>
      rw [hcase] at hw
      cases hw

/-- What an indication gives to the call whose written slot it matches. -/
structure Gives (Q : Evidence P) (g : Setup) (s : State P) (c : CallId) : Prop where
  keeps : ∀ hs b e p, Q hs b → Q (hs ++ [e]) (Option.or p b)
  gets : ∀ ind i, s.ind = some ind → s.owner i = some c → (s.calls c).pc ≠ .selecting i →
    s.Matches ind i → Q ((s.calls c).handed ++ [⟨ind.seq, ind.key⟩])
      (((s.copied g ind i).map Prod.snd).or (s.calls c).buffer)

/-- The call that gets an indication: before its slot is written nothing of
    this counts, and from then on it gets the evidence. -/
theorem handTo_honest (hs : Wf g s) {ind : Ind P} {i : SelectId} {c : CallId}
    (hgives : Gives Q g s c) (hind : s.ind = some ind) (hm : s.Matches ind i)
    (howner : s.owner i = some c) (h : CallHonest Q s c) :
    CallHonest Q (s.handTo g ind i c) c := by
  refine ⟨fun hsig => ?_, fun j hj hsel _ => ?_, fun j hj => ?_, fun hsucc => ?_⟩
  · rw [handTo_self] at hsig ⊢
    rcases Bool.or_eq_true_iff.mp hsig with hold | hnew
    · exact hgives.keeps _ _ _ _ (h.signalled hold)
    -- Whoever is signalled waits, and has written its slot long before.
    · have hpc := waiting_of_owner hs howner hnew
      exact hgives.gets ind i hind howner (by rw [hpc]; exact fun h => by cases h) hm
  · rw [handTo_self] at hsel ⊢
    rw [← hs.owner_inj howner hj] at hsel
    exact hgives.gets ind i hind howner hsel hm
  · rw [handTo_self] at hj ⊢
    exact h.sent j hj
  · rw [handTo_self] at hsucc ⊢
    have hbefore := h.success hsucc
    exact ⟨hbefore.1, hgives.keeps _ _ _ _ hbefore.2⟩

/-- Where a call neither waits, nor is about to, nor has succeeded, signal and
    arrival are all there is to it. -/
theorem honest_of_pc {c : CallId} (pc : Pc) (hpc : (t.calls c).pc = pc)
    (hquiet : ∀ i, pc ≠ .entering i ∧ pc ≠ .waiting i ∧ pc ≠ .freeing i .success)
    (hret : pc ≠ .returned .success)
    (hsig : (t.calls c).signalled = true → Q (t.calls c).handed (t.calls c).buffer)
    (harr : ∀ i, t.owner i = some c → (t.calls c).pc ≠ .selecting i →
      (t.slots i).ind_has_arrived = true → Q (t.calls c).handed (t.calls c).buffer) :
    CallHonest Q t c := by
  refine ⟨hsig, harr, fun i hi => ?_, fun hsucc => ?_⟩
  · rw [hpc] at hi
    rcases hi with hi | hi
    · exact absurd hi (hquiet i).1
    · exact absurd hi (hquiet i).2.1
  · rw [hpc] at hsucc
    rcases hsucc with ⟨i, hi⟩ | hret'
    · exact absurd hi (hquiet i).2.2
    · exact absurd hret' hret

/-- `locClientSendReq` returned: the call goes on to its wait, or to free its
    slot with the status it got. -/
theorem sendReq_honest {c : CallId} {i : SelectId} {status : LocClientStatus}
    (hpc : (s.calls c).pc = .sending i) (h : CallHonest Q s c) :
    CallHonest Q (s.sendReq c i status) c := by
  have hcall : (s.sendReq c i status).calls c = { s.calls c with
      sent := some status
      pc := if status ≠ .success then .freeing i status else .entering i } :=
    Function.update_self c _ _
  have hnosel : ∀ j, (s.calls c).pc ≠ .selecting j := fun j => by
    rw [hpc]
    exact fun h => by cases h
  have harr : ∀ j, (s.sendReq c i status).owner j = some c →
      ((s.sendReq c i status).calls c).pc ≠ .selecting j →
      ((s.sendReq c i status).slots j).ind_has_arrived = true →
      Q ((s.sendReq c i status).calls c).handed ((s.sendReq c i status).calls c).buffer := by
    rw [hcall]
    exact fun j hj _ => h.arrived j hj (hnosel j)
  have hsig : ((s.sendReq c i status).calls c).signalled = true →
      Q ((s.sendReq c i status).calls c).handed ((s.sendReq c i status).calls c).buffer := by
    rw [hcall]
    exact h.signalled
  by_cases hst : status = .success
  -- The request was sent, and the call goes on to its wait.
  · have hgo : ((s.sendReq c i status).calls c).pc = .entering i := by
      rw [hcall, hst]
      rfl
    have hsent : ((s.sendReq c i status).calls c).IsSent := by
      rw [hcall, hst]
      rfl
    refine ⟨hsig, harr, fun _ _ => hsent, fun hsucc => ?_⟩
    rw [hgo] at hsucc
    rcases hsucc with ⟨j, hj⟩ | hj <;> cases hj
  -- It was not, and the status says so.
  · have hgo : ((s.sendReq c i status).calls c).pc = .freeing i status := by
      rw [hcall]
      exact if_pos hst
    refine honest_of_pc _ hgo (fun j => ⟨?_, ?_, ?_⟩) (fun h => by cases h) hsig harr
    · exact fun h => by cases h
    · exact fun h => by cases h
    · intro hj
      cases hj
      exact hst rfl

/-- What moved is the call, or some other. -/
theorem honest_of_cases {c d : CallId} (hl : Local s t c) (h : CallHonest Q s d)
    (hc : d = c → CallHonest Q t c) : CallHonest Q t d := by
  by_cases hd : d = c
  · rw [hd]
    exact hc hd
  · exact honest_of_local hl hd h

/-- A free slot is taken by a call that has nothing to show yet. -/
theorem take_honest {c : CallId} {i : SelectId} (hs : Wf g s) (hpc : (s.calls c).pc = .idle)
    (h : CallHonest Q s c) : CallHonest Q (s.take c i) c := by
  have hcall : (s.take c i).calls c = { s.calls c with pc := .selecting i } := goto_self _ c _
  refine honest_of_pc (.selecting i) (by rw [hcall]) (fun j => ⟨?_, ?_, ?_⟩) ?_ ?_
    fun j hj hsel _ => ?_
  · exact fun h => by cases h
  · exact fun h => by cases h
  · exact fun h => by cases h
  · exact fun h => by cases h
  · rw [hcall]
    exact h.signalled
  · -- The slot it takes is not written yet, and it has no other.
    rw [hcall] at hsel
    by_cases hji : j = i
    · rw [hji] at hsel
      exact absurd rfl hsel
    · rw [take_owner_other hji] at hj
      have hslot := hs.pc_of_owner hj
      rw [hpc] at hslot
      cases hslot

/-- The slot is written, with the flag down. -/
theorem selectInd_honest {c : CallId} {i : SelectId} (hs : Wf g s)
    (hpc : (s.calls c).pc = .selecting i) (h : CallHonest Q s c) :
    CallHonest Q (s.selectInd g c i) c := by
  have hcall : (s.selectInd g c i).calls c = { s.calls c with pc := .sending i } :=
    goto_self _ c _
  refine honest_of_pc (.sending i) (by rw [hcall]) (fun j => ⟨?_, ?_, ?_⟩) ?_ ?_
    fun j hj _ harr => ?_
  · exact fun h => by cases h
  · exact fun h => by cases h
  · exact fun h => by cases h
  · exact fun h => by cases h
  · rw [hcall]
    exact h.signalled
  -- What arrived before the slot was written is forgotten.
  · have hfresh : (s.selectInd g c i).slots i = _ := Function.update_self i _ _
    rw [← hs.owner_inj (hs.owner c i (by rw [hpc]; rfl)) hj, hfresh] at harr
    cases harr

/-- The wait is over: in time by a signal, or too late. -/
theorem wake_honest {c : CallId} {i : SelectId} {timedOut : Bool} (hs : Wf g s)
    (hpc : (s.calls c).pc = .waiting i) (hp : timedOut = false → (s.calls c).signalled = true)
    (h : CallHonest Q s c) : CallHonest Q (s.wake c i timedOut) c := by
  have hcall : (s.wake c i timedOut).calls c = { s.calls c with
      pc := .freeing i (if timedOut then .failureTimeout else .success) } := goto_self _ c _
  have howner := hs.owner c i (by rw [hpc]; rfl)
  refine ⟨?_, fun j hj _ harr => ?_, fun j hj => ?_, fun hsucc => ?_⟩
  · rw [hcall]
    exact h.signalled
  · have hsame : (s.wake c i timedOut).slots i = _ := Function.update_self i _ _
    rw [← hs.owner_inj howner hj, hsame] at harr
    rw [hcall]
    exact h.arrived i howner (by rw [hpc]; exact fun h => by cases h) harr
  · rw [hcall] at hj
    rcases hj with hj | hj <;> cases hj
  · rw [hcall] at hsucc ⊢
    cases timedOut with
    -- A timeout is no success.
    | true => rcases hsucc with ⟨j, hj⟩ | hj <;> cases hj
    | false => exact ⟨h.sent i (Or.inr hpc), h.signalled (hp rfl)⟩

/-- The slot is given back, and it was the only one. -/
theorem freeSlot_honest {c : CallId} {i : SelectId} {status : LocClientStatus} (hs : Wf g s)
    (hpc : (s.calls c).pc = .freeing i status) (h : CallHonest Q s c) :
    CallHonest Q (s.freeSlot c i status) c := by
  have hcall : (s.freeSlot c i status).calls c = { s.calls c with pc := .returned status } :=
    goto_self _ c _
  refine ⟨?_, fun j hj _ _ => ?_, fun j hj => ?_, fun hsucc => ?_⟩
  · rw [hcall]
    exact h.signalled
  · by_cases hji : j = i
    · rw [hji, freeSlot_owner_self] at hj
      cases hj
    · rw [freeSlot_owner_other hji] at hj
      exact absurd (hs.owner_inj hj (hs.owner c i (by rw [hpc]; rfl))) hji
  · rw [hcall] at hj
    rcases hj with hj | hj <;> cases hj
  · rw [hcall] at hsucc ⊢
    rcases hsucc with ⟨j, hj⟩ | hj
    · cases hj
    · cases hj
      exact h.success (Or.inl ⟨i, hpc⟩)

/-- `loc_sync_wait_for_ind` finds the indication there, or begins to wait. -/
theorem waitForInd_honest {c : CallId} {i : SelectId} (hs : Wf g s)
    (hpc : (s.calls c).pc = .entering i) (h : CallHonest Q s c) :
    ((s.slots i).ind_has_arrived = true → CallHonest Q (s.goto c (.freeing i .success)) c) ∧
    ((s.slots i).ind_has_arrived = false →
      CallHonest Q ((s.setSlot i { s.slots i with ind_is_waiting := true }).goto c
        (.waiting i)) c) := by
  have howner := hs.owner c i (by rw [hpc]; rfl)
  have hnosel : (s.calls c).pc ≠ .selecting i := by
    rw [hpc]
    exact fun h => by cases h
  refine ⟨fun ha => ?_, fun ha => ?_⟩
  · have hcall := goto_self s c (.freeing i .success)
    refine ⟨?_, ?_, fun j hj => ?_, fun _ => ?_⟩
    · rw [hcall]
      exact h.signalled
    · rw [hcall]
      exact fun _ _ _ _ => h.arrived i howner hnosel ha
    · rw [hcall] at hj
      rcases hj with hj | hj <;> cases hj
    · rw [hcall]
      exact ⟨h.sent i (Or.inl hpc), h.arrived i howner hnosel ha⟩
  · have hcall := goto_self (s.setSlot i { s.slots i with ind_is_waiting := true }) c (.waiting i)
    refine ⟨?_, fun j hj _ harr => ?_, fun _ _ => ?_, fun hsucc => ?_⟩
    · rw [hcall]
      exact h.signalled
    -- The slot of the call is the one in which nothing has arrived.
    · have hsame : ((s.setSlot i { s.slots i with ind_is_waiting := true }).goto c
          (.waiting i)).slots i = _ := Function.update_self i _ _
      rw [← hs.owner_inj howner hj, hsame] at harr
      simp only [ha, Bool.false_eq_true] at harr
    · rw [hcall]
      exact h.sent i (Or.inl hpc)
    · rw [hcall] at hsucc
      rcases hsucc with ⟨j, hj⟩ | hj <;> cases hj

/-- A move that is proper for a call keeps it honest, if an indication gives
    the evidence. -/
theorem move_honest (hs : Wf g s) {l : Label P} (hm : Move g s l t) {d : CallId}
    (hp : ProperFor s d l) (hgives : Gives Q g s d) (h : CallHonest Q s d) :
    CallHonest Q t d := by
  cases hm with
  | allocated c i hpc hind hfree =>
      exact honest_of_cases (take_local hs hfree) h fun hd => take_honest hs hpc (hd ▸ h)
  | full c hpc hind hfull =>
      -- The table is full, which is not proper for the call that asks.
      refine honest_of_cases (goto_local s c _) h fun hd => ?_
      rcases hp hd.symm with ⟨i, hi⟩
      rw [hfull i] at hi
      cases hi
  | selected c i hpc =>
      exact honest_of_cases (local_of_held hs (hs.slot_at hpc rfl).1 rfl
        (fun j hj => Function.update_of_ne hj _ _) fun d hd => goto_other hd) h
        fun hd => selectInd_honest hs hpc (hd ▸ h)
  | sent c i status hpc =>
      exact honest_of_cases (local_of_held hs (hs.slot_at hpc rfl).1 rfl (fun _ _ => rfl)
        fun d hd => Function.update_of_ne hd _ _) h fun hd => sendReq_honest hpc (hd ▸ h)
  | arrived c i hpc ha =>
      exact honest_of_cases (goto_local s c _) h
        fun hd => (waitForInd_honest hs hpc (hd ▸ h)).1 ha
  | began c i hpc ha =>
      exact honest_of_cases (local_of_held hs (hs.slot_at hpc rfl).1 rfl
        (fun j hj => Function.update_of_ne hj _ _) fun d hd => goto_other hd) h
        fun hd => (waitForInd_honest hs hpc (hd ▸ h)).2 ha
  | woke c i timedOut hpc =>
      refine honest_of_cases (local_of_held hs (hs.slot_at hpc rfl).1 rfl
        (fun j hj => Function.update_of_ne hj _ _) fun d hd => goto_other hd) h
        fun hd => wake_honest hs hpc (fun ht => ?_) (hd ▸ h)
      subst ht
      exact hd ▸ hp hd.symm
  | freed c i status hpc hind =>
      exact honest_of_cases (freeSlot_local status hs (hs.slot_at hpc rfl).1) h
        fun hd => freeSlot_honest hs hpc (hd ▸ h)
  | handed ind i c hind hi hc hm howner =>
      exact honest_of_cases (local_of_held hs (hs.pc_of_owner howner) rfl
        (fun j hj => Function.update_of_ne hj _ _) fun d hd => handTo_other hd) h
        fun hd => handTo_honest hs (hd ▸ hgives) hind hm howner (hd ▸ h)
  | dropped key payload hind huse => exact ⟨h.signalled, h.arrived, h.sent, h.success⟩
  | begun key payload hind huse => exact ⟨h.signalled, h.arrived, h.sent, h.success⟩
  | passed ind i hind hi hc hm => exact ⟨h.signalled, h.arrived, h.sent, h.success⟩
  | finished ind hind hend => exact ⟨h.signalled, h.arrived, h.sent, h.success⟩

/-- An indication with the key of the call. -/
def HandedKey (g : Setup) (c : CallId) : Evidence P := fun hs _ => ∃ e ∈ hs, e.key = (g.args c).key

/-- The indication that matches a written slot has the key of its call. -/
theorem gives_handedKey (hs : Wf g s) (c : CallId) : Gives (HandedKey g c) g s c := by
  refine ⟨fun hs b e p h => ?_, fun ind i _ howner hsel hm => ?_⟩
  · rcases h with ⟨e', he', hkey⟩
    exact ⟨e', List.mem_append_left _ he', hkey⟩
  · exact ⟨⟨ind.seq, ind.key⟩, List.mem_append_right _ List.mem_cons_self,
      key_of_matches hs howner hsel hm⟩

theorem step_honest {l : Label P} (hs : Wf g s ∧ ∀ c, CallHonest (HandedKey g c) s c)
    (hp : Proper s l) (h : step g s l = some t) :
    Wf g t ∧ ∀ c, CallHonest (HandedKey g c) t c := by
  have hm := step_move hs.1 h
  exact ⟨move_wf hs.1 hm, fun c =>
    move_honest hs.1 hm (hp.proper_for c) (gives_handedKey hs.1 c) (hs.2 c)⟩

/-- Over every schedule in which a slot is free when one is asked for and a wait
    ends by a signal or a timeout: a call that returned success had its request
    sent with success, and its slot was handed an indication with its client
    handle and indication id. Nothing is asked of the indications, nor of the
    other calls that are under way. -/
theorem success_answered (g : Setup) (ls : List (Label P)) (s : State P)
    (hproper : StepSystem.Meets (step g) Proper State.init ls)
    (hrun : StepSystem.exec (step g) State.init ls = some s) (c : CallId)
    (hc : (s.calls c).pc = .returned .success) :
    (s.calls c).sent = some .success ∧ (s.calls c).WasHanded (g.args c).key := by
  have hstart : Wf g (State.init : State P) ∧
      ∀ d, CallHonest (HandedKey g d) (State.init : State P) d := ⟨init_wf, fun d => init_honest d⟩
  have hend := StepSystem.invariant_of_meets
    (I := fun s => Wf g s ∧ ∀ d, CallHonest (HandedKey g d) s d)
    (fun _ _ _ => step_honest) hstart hproper hrun
  exact (hend.2 c).success (Or.inr hc)

/-- All calls ask for the same indication, which is 4 bytes long, and bring a
    buffer. -/
def Setup.uniform : Setup where
  args := fun _ => { client_handle := 1, req_id := 2, ind_id := 2, ind_payload_ptr := true }
  locClientGetSizeByRespIndId := fun _ => some 4

/-- A call that waits, is signalled and returns. -/
def answeredSchedule : List (Label Nat) :=
  [.alloc 0, .select 0, .send 0 .success, .wait 0, .indBegin ⟨1, 2⟩ (some 7), .indVisit, .indEnd,
    .wake 0 false, .free 0]

theorem success_answered_schedule :
    ∃ s, StepSystem.exec (step .uniform) State.init answeredSchedule = some s ∧
      (s.calls 0).sent = some .success ∧ (s.calls 0).WasHanded ⟨1, 2⟩ :=
  ⟨_, rfl, success_answered .uniform answeredSchedule _ (by decide +kernel) rfl 0 rfl⟩

/-- Eight calls hold the slots, and the ninth returns success without its
    request being sent. And a call that waits is woken without a signal, and
    returns success without any indication. -/
theorem success_unanswered :
    (∃ s, StepSystem.exec (step (P := Nat) .uniform) State.init
        ((List.range 9).map Label.alloc) = some s ∧
      (s.calls 8).pc = .returned .success ∧ (s.calls 8).sent = none) ∧
    (∃ s, StepSystem.exec (step (P := Nat) .uniform) State.init
        [.alloc 0, .select 0, .send 0 .success, .wait 0, .wake 0 false, .free 0] = some s ∧
      (s.calls 0).pc = .returned .success ∧ (s.calls 0).handed = []) :=
  ⟨⟨_, rfl, rfl, rfl⟩, ⟨_, rfl, rfl, rfl⟩⟩

end Sync

end Victara
