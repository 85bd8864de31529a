import Victara.Sync.Moves

/-!
# Who Has a Slot

The table of the eight slots: whether any is in use is recomputed in three
places, and a slot is freed in two, one for a request that was not sent and one
after the wait.

What `loc_alloc_slot` and `loc_free_slot` do in a run is listed in order. Nobody
in the program reads that.

The table is a reading of `Wf`. For the list of what was allocated and freed,
the place of a call says what has to be on it: nothing before it has a slot, the
allocation while it has one, and both once it has returned. Each step either
leaves a call where it is, or moves it on with its slot, or is the allocation or
the freeing itself.

## Main definitions

* `SlotEvent`: `loc_alloc_slot` returned a slot, or `loc_free_slot` was called
  with one.
* `slotEvents`: The slots that are allocated and freed in a step.
* `SlotTable`: What holds of the table at any time.
* `CallSlots`: What a call has allocated and freed so far.
* `oneUnsent`: One call is not sent, and frees its slot while another waits for
  its indication.
* `sameArgs`: All calls ask for the same.

## Theorems

* `slotTable_of_wf`: The table is as it is to be.
* `CallSlots.of_same`: A step of another call, or one in which the call keeps
  what it has.
* `callSlots_quiet`: A step that allocates and frees nothing.
* `pc_of_update`: The calls that are not `c` stay where they are.
* `kept_of_held`: A call that goes on with its slot.
* `callSlots_step`: What every step keeps of the calls.
* `slots_kept`: Both hold in every run.
-/

namespace Victara

namespace Sync

open StepSystem

variable {P : Type*} {g : Setup} {s t : State P}

/-- `loc_alloc_slot` returned a slot, or `loc_free_slot` was called with one. -/
inductive SlotEvent
  | got (c : CallId) (select_id : SelectId)
  | freed (c : CallId) (select_id : SelectId)
  deriving DecidableEq, Repr

def SlotEvent.call : SlotEvent → CallId
  | .got c _ | .freed c _ => c

@[simp] theorem SlotEvent.call_got (c : CallId) (i : SelectId) : (got c i).call = c := rfl

@[simp] theorem SlotEvent.call_freed (c : CallId) (i : SelectId) : (freed c i).call = c := rfl

/-- The slots that are allocated and freed in a step. -/
def slotEvents (s : State P) : Label P → List SlotEvent
  | .alloc c => (s.firstFree.map (SlotEvent.got c)).toList
  | .free c => ((s.calls c).pc.slot.map (SlotEvent.freed c)).toList
  | .select _ | .send _ _ | .wait _ | .wake _ _ | .indBegin _ _ | .indVisit | .indEnd => []

/-- The array is marked as in use if a slot is; no two calls have the same slot;
    and a slot that is free or not yet written is for no indication of a client.
    The mark is only right while no indication is processed, as it is brought up
    to date at the end of that. -/
structure SlotTable (s : State P) : Prop where
  in_use : s.ind = none → (s.in_use = true ↔ ∃ i, s.slot_in_use i = true)
  exclusive : ∀ c d i, (s.calls c).pc.slot = some i → (s.calls d).pc.slot = some i → c = d
  unmatched : ∀ i, (s.slot_in_use i = false ∨ ∃ c, (s.calls c).pc = .selecting i) →
    ∀ ind : Ind P, ind.key.client_handle ≠ LOC_CLIENT_INVALID_HANDLE_VALUE → ¬ s.Matches ind i

/-- A call that has a slot has allocated it; one that has returned has freed the
    slot it got, and nothing else. -/
structure CallSlots (s : State P) (es : List SlotEvent) (c : CallId) : Prop where
  idle : (s.calls c).pc = .idle → es.filter (fun e => e.call = c) = []
  held : ∀ i, (s.calls c).pc.slot = some i → es.filter (fun e => e.call = c) = [.got c i]
  returned : ∀ status, (s.calls c).pc = .returned status →
    es.filter (fun e => e.call = c) = [] ∨
      ∃ i, es.filter (fun e => e.call = c) = [.got c i, .freed c i]

theorem slotTable_of_wf (hs : Wf g s) : SlotTable s where
  in_use := fun _ => hs.in_use
  exclusive := by
    intro c d i hc hd
    have howner := (hs.owner c i hc).symm.trans (hs.owner d i hd)
    exact Option.some.inj howner
  unmatched := by
    intro i hi ind hvalid hmatches
    rcases hi with hfree | ⟨c, hpc⟩
    · have huse := hmatches.1
      rw [hfree] at huse
      cases huse
    · -- The slot still has what `loc_free_slot` left in it.
      rcases hs.slot_at hpc rfl with ⟨-, arrived, hslot⟩
      have hhandle := hmatches.2.1
      rw [hslot] at hhandle
      exact hvalid hhandle.symm

/-! ## The calls -/

variable {es : List SlotEvent}

/-- A step of another call, or one in which the call keeps what it has. -/
theorem CallSlots.of_same {c : CallId} (h : CallSlots s es c) {es' : List SlotEvent}
    (hes : ∀ e ∈ es', e.call ≠ c)
    (hpc : (t.calls c).pc = (s.calls c).pc ∨
      ∃ i, (s.calls c).pc.slot = some i ∧ (t.calls c).pc.slot = some i) :
    CallSlots t (es ++ es') c := by
  have hnone : es'.filter (fun e => e.call = c) = [] :=
    List.filter_eq_nil_iff.mpr fun e he => by simpa using hes e he
  have hsame : (es ++ es').filter (fun e => e.call = c) = es.filter (fun e => e.call = c) := by
    rw [List.filter_append, hnone, List.append_nil]
  rcases hpc with hpc | ⟨i, hbefore, hafter⟩
  · refine ⟨fun h' => ?_, fun i h' => ?_, fun status h' => ?_⟩
    · rw [hsame]
      exact h.idle (hpc ▸ h')
    · rw [hsame]
      exact h.held i (hpc ▸ h')
    · rw [hsame]
      exact h.returned status (hpc ▸ h')
  · refine ⟨fun h' => ?_, fun j h' => ?_, fun status h' => ?_⟩
    · rw [h'] at hafter
      cases hafter
    · rw [hafter] at h'
      cases h'
      rw [hsame]
      exact h.held i hbefore
    · rw [h'] at hafter
      cases hafter

/-- A step that allocates and frees nothing. -/
theorem callSlots_quiet (hs : ∀ c, CallSlots s es c)
    (hpc : ∀ c, (t.calls c).pc = (s.calls c).pc ∨
      ∃ i, (s.calls c).pc.slot = some i ∧ (t.calls c).pc.slot = some i) (c : CallId) :
    CallSlots t (es ++ []) c :=
  (hs c).of_same (fun _ h => absurd h List.not_mem_nil) (hpc c)

/-- The calls that are not `c` stay where they are. -/
theorem pc_of_update {c : CallId} {k : Call P} (hcalls : t.calls = Function.update s.calls c k)
    {d : CallId} (hd : d ≠ c) : (t.calls d).pc = (s.calls d).pc := by
  rw [hcalls, Function.update_of_ne hd]

/-- A call that goes on with its slot. -/
theorem kept_of_held {c : CallId} {i : SelectId} {k : Call P}
    (hcalls : t.calls = Function.update s.calls c k) (hbefore : (s.calls c).pc.slot = some i)
    (hafter : k.pc.slot = some i) (d : CallId) :
    (t.calls d).pc = (s.calls d).pc ∨
      ∃ i, (s.calls d).pc.slot = some i ∧ (t.calls d).pc.slot = some i := by
  by_cases hd : d = c
  · refine Or.inr ⟨i, by rw [hd, hbefore], ?_⟩
    rw [hd, hcalls, Function.update_self, hafter]
  · exact Or.inl (pc_of_update hcalls hd)

theorem alloc_callSlots (hs : ∀ c, CallSlots s es c) {c : CallId} (hpc : (s.calls c).pc = .idle)
    (d : CallId) : CallSlots (s.allocSlot c) (es ++ slotEvents s (.alloc c)) d := by
  have hidle := (hs c).idle hpc
  unfold State.allocSlot slotEvents
  cases hfree : s.firstFree with
  | none =>
      by_cases hd : d = c
      · subst hd
        have hgoto : (((s.goto d (.returned .success))).calls d).pc = .returned .success := by
          simp [State.goto, State.setCall]
        refine ⟨fun h => ?_, fun i h => ?_, fun status h => ?_⟩
        · rw [hgoto] at h
          cases h
        · rw [hgoto] at h
          cases h
        · exact Or.inl (by simpa using hidle)
      · exact (hs d).of_same (fun _ h => absurd h List.not_mem_nil) (Or.inl (pc_of_update rfl hd))
  | some i =>
      by_cases hd : d = c
      · subst hd
        have htake : ((s.take d i).calls d).pc = .selecting i := by
          simp [State.take, State.goto, State.setCall]
        refine ⟨fun h => ?_, fun j h => ?_, fun status h => ?_⟩
        · rw [htake] at h
          cases h
        · rw [htake] at h
          cases h
          simp [hidle]
        · rw [htake] at h
          cases h
      -- The slot is another call's, and of no concern to this one.
      · refine (hs d).of_same (fun e he => ?_) (Or.inl (pc_of_update rfl hd))
        have heq : e = .got c i := by simpa using he
        rw [heq]
        exact Ne.symm hd

theorem free_callSlots (hs : ∀ c, CallSlots s es c) {c : CallId} {i : SelectId}
    {status : LocClientStatus} (hpc : (s.calls c).pc = .freeing i status) (d : CallId) :
    CallSlots (s.freeSlot c i status) (es ++ slotEvents s (.free c)) d := by
  have hslot : (s.calls c).pc.slot = some i := by rw [hpc]; rfl
  have hheld := (hs c).held i hslot
  have hevents : slotEvents s (.free c) = [.freed c i] := by simp [slotEvents, hslot]
  rw [hevents]
  by_cases hd : d = c
  · subst hd
    have hfree : ((s.freeSlot d i status).calls d).pc = .returned status := by
      simp [State.freeSlot, State.goto, State.setCall]
    refine ⟨fun h => ?_, fun j h => ?_, fun status' h => ?_⟩
    · rw [hfree] at h
      cases h
    · rw [hfree] at h
      cases h
    · exact Or.inr ⟨i, by simp [hheld]⟩
  · refine (hs d).of_same (fun e he => ?_) (Or.inl (pc_of_update rfl hd))
    rw [List.mem_singleton.mp he]
    exact Ne.symm hd

/-- What every step keeps of the calls. -/
theorem callSlots_step {l : Label P} (hwf : Wf g s) (hs : ∀ c, CallSlots s es c)
    (h : step g s l = some t) : ∀ c, CallSlots t (es ++ slotEvents s l) c := by
  cases l with
  | alloc c =>
      simp only [step] at h
      split at h
      · rename_i hpc _
        cases h
        exact alloc_callSlots hs hpc
      · cases h
  | free c =>
      simp only [step] at h
      split at h
      · rename_i i status hpc _
        cases h
        exact free_callSlots hs hpc
      · cases h
  -- Only the two above touch a slot; what follows keeps the slot the call has.
  | select c =>
      cases step_move hwf h with
      | selected _ i hpc => exact callSlots_quiet hs (kept_of_held rfl (by rw [hpc]; rfl) rfl)
  | send c status =>
      cases step_move hwf h with
      | sent _ i _ hpc =>
          refine callSlots_quiet hs (kept_of_held rfl (by rw [hpc]; rfl) ?_)
          cases status <;> rfl
  | wait c =>
      cases step_move hwf h with
      | arrived _ i hpc _ => exact callSlots_quiet hs (kept_of_held rfl (by rw [hpc]; rfl) rfl)
      | began _ i hpc _ => exact callSlots_quiet hs (kept_of_held rfl (by rw [hpc]; rfl) rfl)
  | wake c timedOut =>
      cases step_move hwf h with
      | woke _ i _ hpc => exact callSlots_quiet hs (kept_of_held rfl (by rw [hpc]; rfl) rfl)
  | indBegin key payload =>
      cases step_move hwf h with
      | dropped _ _ _ _ => exact callSlots_quiet hs fun _ => Or.inl rfl
      | begun _ _ _ _ => exact callSlots_quiet hs fun _ => Or.inl rfl
  | indVisit =>
      cases step_move hwf h with
      | passed _ _ _ _ _ _ => exact callSlots_quiet hs fun _ => Or.inl rfl
      | handed ind i c _ _ _ _ _ =>
          refine callSlots_quiet hs fun d => Or.inl ?_
          by_cases hd : d = c
          · rw [hd, handTo_self]
            rfl
          · rw [handTo_other hd]
  | indEnd =>
      cases step_move hwf h with
      | finished _ _ _ => exact callSlots_quiet hs fun _ => Or.inl rfl

/-- Over every schedule: the table is marked as in use while a slot is, slots
    are not shared, and one that is not written yet is for nobody; and a call
    frees the slot it got exactly once before it returns. The last part is read
    off the list of what was allocated and freed, so that a slot which is freed
    for another call would show. -/
theorem slots_kept (g : Setup) (ls : List (Label P)) (s : State P)
    (hrun : exec (step g) State.init ls = some s) :
    SlotTable s ∧ ∀ c, CallSlots s (trace (step g) slotEvents State.init ls) c := by
  have hend : Wf g s ∧ ∀ c, CallSlots s ([] ++ trace (step g) slotEvents State.init ls) c := by
    refine trace_of_step (R := fun s es => Wf g s ∧ ∀ c, CallSlots s es c)
      (fun s l t es hs h => ⟨move_wf hs.1 (step_move hs.1 h), callSlots_step hs.1 hs.2 h⟩)
      ⟨init_wf, fun c => ⟨fun _ => rfl, fun i h => ?_, fun _ _ => Or.inl rfl⟩⟩ hrun
    cases h
  exact ⟨slotTable_of_wf hend.1, hend.2⟩

/-- One call is not sent, and frees its slot while another waits for its
    indication. -/
def oneUnsent : List (Label Nat) :=
  [.alloc 0, .alloc 1, .select 0, .send 0 .failureInternal, .select 1, .send 1 .success, .free 0,
    .wait 1, .indBegin ⟨1, 2⟩ none, .indVisit]

/-- All calls ask for the same. -/
def sameArgs : Setup := ⟨fun _ => ⟨1, 2, 2, true⟩, fun _ => some 4⟩

theorem oneUnsent_kept :
    ∃ s, exec (step sameArgs) State.init oneUnsent = some s ∧ SlotTable s ∧
      ∀ c, CallSlots s (trace (step sameArgs) slotEvents State.init oneUnsent) c :=
  ⟨_, rfl, slots_kept sameArgs oneUnsent _ rfl⟩

end Sync

end Victara
