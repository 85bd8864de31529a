import Victara.Sync.Answered

/-!
# Whose Answer It Is

The synchronous requests with a modem that answers every request it was sent
once, in the order they were sent, whenever it likes. An indication carries
the id of the request's answer and nothing that tells two requests for the
same id apart, and a slot that is freed after a timeout takes with it all that
was known of the request. So an answer goes to whoever asks for its id when it
comes.

What a successful call has in its buffer is therefore the answer to some
request of its client for its id. It is the answer to its own when the call
is alone with it: nothing for the id was on its way when it wrote its slot,
and nobody else asked for the id before it was done.

An answer goes from the queue of the modem to the indication that is processed,
and from there to the buffer of the call whose slot it matches. The first result
follows it on this way. The second needs that nobody else is on it: from when
the call has written its slot, all that is queued, under way or waiting for the
key is its own. That is kept by every step but one of a call with the same key.

## Main definitions

* `Linked`: The callers, the indication thread, and the modem's queue.
* `Label.sends`: The request a step sends.
* `Linked.step`: A step of theirs, or the next answer.
* `Steps`: The two kinds of steps.
* `AnswerFor`: `p` is the answer to a request that was sent for the key.
* `Sourced`, `Own`: Where indications and buffers come from.
* `Pc.hasSelected`: The slot of the call is written, and the call holds it
  still.
* `Alone`: The steps that keep a call alone with its id.
* `ProperCall`: The call finds a free slot, and its wait ends by a signal or a
  timeout.
* `Filled`: Something is in the buffer.
* `inTurn`: Two requests of one client for one indication, one after the other.

## Theorems

* `handTo_buffer`: A buffer that changes is that of the call whose written slot
  matched, and gets the payload.
* `move_sources`: What the steps other than a new indication do to the
  indication under way and to the buffers.
* `move_begin`: The next answer is an indication of its own, or none when no
  slot is in use.
* `AnswerFor.mono`: What was sent stays sent.
* `step_sourced`: Everything in a buffer is an answer for its id.
* `hasSelected_of_update`: A call whose record changed, or any other.
* `hasSelected_of_move`: A call has selected once it has written its slot.
* `owner_of_move`: A call gets a slot by asking for one.
* `owner_of_sends`: What is sent is sent by a call that holds its slot.
* `step_own`: Alone, it is the call's own.
* `gives_filled`: With a buffer and an indication of known size the answer is
  copied.
* `success_carries_answer`: What success says about the buffer.
* `success_carries_other_answer`: It may be the answer to another request.
-/

namespace Victara

namespace Sync

variable {P : Type*} {g : Setup}

/-- The state of the callers and the indication thread, all requests that
    were sent, and those that are not answered yet. -/
structure Linked (P : Type*) where
  sync : State P
  sent : List CallId
  unanswered : List CallId

inductive LinkLabel (P : Type*)
  | thread (l : Label P)
  | answer
  deriving DecidableEq, Repr

/-- The request a step sends. -/
def Label.sends : Label P → List CallId
  | .send c .success => [c]
  | _ => []

namespace Linked

def init : Linked P := { sync := State.init, sent := [], unanswered := [] }

/-- A step of the callers or inside the indication thread, or the next answer
    of the modem. Nothing else makes an indication. -/
def step (g : Setup) (answer : CallId → P) (m : Linked P) : LinkLabel P → Option (Linked P)
  | .thread (.indBegin _ _) => none
  | .thread l => (Sync.step g m.sync l).map fun s =>
      { sync := s, sent := m.sent ++ l.sends, unanswered := m.unanswered ++ l.sends }
  | .answer => match m.unanswered with
    | [] => none
    | d :: rest => (Sync.step g m.sync (.indBegin (g.args d).key (some (answer d)))).map fun s =>
        { m with sync := s, unanswered := rest }

/-- The two kinds of steps. -/
inductive Steps (g : Setup) (answer : CallId → P) (m : Linked P) : LinkLabel P → Linked P → Prop
  | thread (l : Label P) (s : State P) (hl : ∀ key payload, l ≠ .indBegin key payload)
      (hstep : Sync.step g m.sync l = some s) :
      Steps g answer m (.thread l) ⟨s, m.sent ++ l.sends, m.unanswered ++ l.sends⟩
  | answer (d : CallId) (rest : List CallId) (s : State P) (hd : m.unanswered = d :: rest)
      (hstep : Sync.step g m.sync (.indBegin (g.args d).key (some (answer d))) = some s) :
      Steps g answer m .answer ⟨s, m.sent, rest⟩

theorem step_steps {answer : CallId → P} {m m' : Linked P} {l : LinkLabel P}
    (h : m.step g answer l = some m') : Steps g answer m l m' := by
  cases l with
  | thread l =>
      cases l with
      | indBegin key payload => cases h
      | _ =>
          rcases Option.map_eq_some_iff.mp h with ⟨s, hs, rfl⟩
          exact .thread _ s (fun _ _ h => by cases h) hs
  | answer =>
      simp only [step] at h
      split at h
      · cases h
      · rename_i d rest hd
        rcases Option.map_eq_some_iff.mp h with ⟨s, hs, rfl⟩
        exact .answer d rest s hd hs

end Linked

section

variable {s t : State P}

/-- A buffer that changes is that of the call whose written slot matched, and
    gets the payload. -/
theorem handTo_buffer (hs : Wf g s) {ind : Ind P} {i : SelectId} {c d : CallId} {p : P}
    (hm : s.Matches ind i) (howner : s.owner i = some c)
    (hp : ((s.handTo g ind i c).calls d).buffer = some p) :
    (s.calls d).buffer = some p ∨
      d = c ∧ (s.calls c).pc ≠ .selecting i ∧ ind.ind_payload_ptr = some p ∧
        ind.key = (g.args c).key := by
  by_cases hd : d = c
  · subst hd
    rw [handTo_self] at hp
    simp only [Call.hand] at hp
    cases hcopy : s.copied g ind i with
    | none =>
        rw [hcopy] at hp
        exact Or.inl hp
    | some bp =>
        rcases bp with ⟨b, p'⟩
        rw [hcopy] at hp
        cases hp
        -- A slot that is not written has no buffer to copy to.
        have hsel : (s.calls d).pc ≠ .selecting i := by
          intro hpc
          rcases hs.held (hs.pc_of_owner howner) with ⟨arrived, _, heq, _⟩
          rw [hpc] at heq
          rw [State.copied, heq] at hcopy
          split at hcopy
          · rename_i hptr _
            cases hptr
          · cases hcopy
        refine Or.inr ⟨rfl, hsel, ?_, key_of_matches hs howner hsel hm⟩
        rw [State.copied] at hcopy
        split at hcopy
        · rename_i hpay
          cases hcopy
          exact hpay
        · cases hcopy
  · rw [handTo_other hd] at hp
    exact Or.inl hp

/-- What the steps other than a new indication do to the indication under way
    and to the buffers. -/
theorem move_sources (hs : Wf g s) {l : Label P} (hm : Move g s l t)
    (hl : ∀ key payload, l ≠ .indBegin key payload) :
    (∀ ind', t.ind = some ind' → ∃ ind, s.ind = some ind ∧ ind'.key = ind.key ∧
      ind'.ind_payload_ptr = ind.ind_payload_ptr) ∧
    (∀ d p, (t.calls d).buffer = some p → (s.calls d).buffer = some p ∨
      ∃ ind i, s.ind = some ind ∧ s.owner i = some d ∧ (s.calls d).pc ≠ .selecting i ∧
        ind.ind_payload_ptr = some p ∧ ind.key = (g.args d).key) := by
  -- A step of a caller leaves the indication and every buffer alone.
  by_cases hcaller : l.isInd = false
  · rcases caller_quiet hm hcaller with ⟨hkept, hind, _, _⟩
    refine ⟨fun ind' hi => ⟨ind', hind ▸ hi, rfl, rfl⟩, fun d p hp => Or.inl ?_⟩
    rw [← (hkept d).2]
    exact hp
  cases hm with
  | dropped key payload hind huse => exact absurd rfl (hl key payload)
  | begun key payload hind huse => exact absurd rfl (hl key payload)
  | passed ind i hind hi hc hm =>
      refine ⟨fun ind' hi' => ?_, fun d p hp => Or.inl hp⟩
      cases hi'
      exact ⟨ind, hind, rfl, rfl⟩
  -- The one move that fills a buffer, and it is that of the slot the indication is at.
  | handed ind i c hind hi hc hm howner =>
      refine ⟨fun ind' hi' => ?_, fun d p hp => ?_⟩
      · cases hi'
        exact ⟨ind, hind, rfl, rfl⟩
      · rcases handTo_buffer hs hm howner hp with hold | ⟨rfl, hsel, hpay, hkey⟩
        · exact Or.inl hold
        · exact Or.inr ⟨ind, i, hind, howner, hsel, hpay, hkey⟩
  | finished ind hind hend =>
      exact ⟨(fun ind' hi' => by cases hi'), fun d p hp => Or.inl hp⟩
  | _ => exact absurd rfl hcaller

/-- The next answer is an indication of its own, or none when no slot is in
    use. -/
theorem move_begin {key : Key} {payload : Option P} (hm : Move g s (.indBegin key payload) t) :
    (∀ ind, t.ind = some ind → ind.key = key ∧ ind.ind_payload_ptr = payload) ∧
      t.calls = s.calls ∧ t.owner = s.owner := by
  cases hm with
  | dropped _ _ hind _ =>
      refine ⟨fun ind hi => ?_, rfl, rfl⟩
      rw [show s.ind = some ind from hi] at hind
      cases hind
  | begun _ _ hind _ =>
      refine ⟨fun ind hi => ?_, rfl, rfl⟩
      cases hi
      exact ⟨rfl, rfl⟩

end

namespace Linked

variable {answer : CallId → P} {m m' : Linked P}

/-- `p` is the answer to a request that was sent for the key. -/
def AnswerFor (g : Setup) (answer : CallId → P) (m : Linked P) (key : Key) (p : P) : Prop :=
  ∃ d ∈ m.sent, (g.args d).key = key ∧ p = answer d

/-- Everything on its way or in a buffer is an answer for its key. The way is
    that of an answer: from the queue of the modem to the indication and from
    there to the buffer. -/
structure Sourced (g : Setup) (answer : CallId → P) (m : Linked P) : Prop where
  wf : Wf g m.sync
  queue : ∀ d ∈ m.unanswered, d ∈ m.sent
  ind : ∀ ind, m.sync.ind = some ind →
    ∃ p, ind.ind_payload_ptr = some p ∧ AnswerFor g answer m ind.key p
  buffer : ∀ c p, (m.sync.calls c).buffer = some p → AnswerFor g answer m (g.args c).key p

theorem init_sourced : Sourced g answer (init : Linked P) := by
  refine ⟨init_wf, fun d hd => absurd hd List.not_mem_nil, (fun ind hi => by cases hi), ?_⟩
  exact fun c p hp => by cases hp

/-- What was sent stays sent. -/
theorem AnswerFor.mono {key : Key} {p : P} (h : AnswerFor g answer m key p)
    (hsub : m.sent ⊆ m'.sent) : AnswerFor g answer m' key p := by
  rcases h with ⟨d, hd, hkey, hp⟩
  exact ⟨d, hsub hd, hkey, hp⟩

theorem step_sourced {l : LinkLabel P} (h : Sourced g answer m)
    (hstep : m.step g answer l = some m') : Sourced g answer m' := by
  cases step_steps hstep with
  | thread l s hl hsync =>
      have hm := step_move h.wf hsync
      rcases move_sources h.wf hm hl with ⟨hind, hbuf⟩
      have hsub : m.sent ⊆ m.sent ++ l.sends := List.subset_append_left _ _
      -- What is sent is unanswered from then on, and stays sent.
      refine ⟨move_wf h.wf hm, fun d hd => ?_, fun ind' hi => ?_, fun c p hp => ?_⟩
      · rcases List.mem_append.mp hd with hold | hnew
        · exact List.mem_append_left _ (h.queue d hold)
        · exact List.mem_append_right _ hnew
      · rcases hind ind' hi with ⟨ind, hi', hkey, hpay⟩
        rcases h.ind ind hi' with ⟨p, hp, hans⟩
        refine ⟨p, hpay.trans hp, ?_⟩
        rw [hkey]
        exact hans.mono hsub
      · rcases hbuf c p hp with hold | ⟨ind, i, hi, _, _, hpay, hkey⟩
        · exact (h.buffer c p hold).mono hsub
        -- It was copied from the indication under way, which is an answer.
        · rcases h.ind ind hi with ⟨p', hp', hans⟩
          rw [hpay] at hp'
          cases hp'
          rw [← hkey]
          exact hans.mono hsub
  | answer d rest s hd hsync =>
      have hm := step_move h.wf hsync
      rcases move_begin hm with ⟨hind, hcalls, _⟩
      refine ⟨move_wf h.wf hm, fun e he => h.queue e (hd ▸ List.mem_cons_of_mem d he),
        fun ind hi => ?_, fun c p hp => ?_⟩
      · rcases hind ind hi with ⟨hkey, hpay⟩
        exact ⟨answer d, hpay, d, h.queue d (hd ▸ List.mem_cons_self), hkey.symm, rfl⟩
      · simp only [hcalls] at hp
        exact h.buffer c p hp

end Linked

/-- The slot of the call is written, and the call holds it still. -/
def Pc.hasSelected : Pc → Bool
  | .sending _ | .entering _ | .waiting _ | .freeing _ _ => true
  | .idle | .selecting _ | .returned _ => false

section

variable {s t : State P}

theorem hasSelected_of_slot {pc : Pc} {i : SelectId} (h : pc.slot = some i)
    (hsel : pc ≠ .selecting i) : pc.hasSelected = true := by
  cases pc with
  | selecting j =>
      cases h
      exact absurd rfl hsel
  | idle => cases h
  | returned status => cases h
  | _ => rfl

/-- A call whose record changed, or any other. -/
theorem hasSelected_of_update {c d : CallId} {k : Call P}
    (hcalls : t.calls = Function.update s.calls d k)
    (hk : k.pc.hasSelected = true → (s.calls d).pc.hasSelected = true)
    (h : (t.calls c).pc.hasSelected = true) : (s.calls c).pc.hasSelected = true := by
  rw [hcalls] at h
  by_cases hd : c = d
  · rw [hd, Function.update_self] at h
    rw [hd]
    exact hk h
  · rwa [Function.update_of_ne hd] at h

/-- A call gets there by writing its slot. -/
theorem hasSelected_of_move {l : Label P} (hm : Move g s l t) {c : CallId}
    (h : (t.calls c).pc.hasSelected = true) :
    (s.calls c).pc.hasSelected = true ∨ l = .select c := by
  cases hm with
  | selected d i hpc =>
      -- The other calls are where they were.
      by_cases hd : d = c
      · exact Or.inr (hd ▸ rfl)
      · refine Or.inl ?_
        rwa [show (s.selectInd g d i).calls c = s.calls c from
          Function.update_of_ne (Ne.symm hd) _ _] at h
  | allocated d i hpc hind hfree =>
      exact Or.inl (hasSelected_of_update rfl (fun h => by cases h) h)
  | full d hpc hind hfull => exact Or.inl (hasSelected_of_update rfl (fun h => by cases h) h)
  | sent d i status hpc =>
      exact Or.inl (hasSelected_of_update rfl (fun _ => by rw [hpc]; rfl) h)
  | arrived d i hpc ha => exact Or.inl (hasSelected_of_update rfl (fun _ => by rw [hpc]; rfl) h)
  | began d i hpc ha => exact Or.inl (hasSelected_of_update rfl (fun _ => by rw [hpc]; rfl) h)
  | woke d i timedOut hpc =>
      exact Or.inl (hasSelected_of_update rfl (fun _ => by rw [hpc]; rfl) h)
  | freed d i status hpc hind =>
      exact Or.inl (hasSelected_of_update rfl (fun h => by cases h) h)
  | handed ind i d hind hi hc hm howner =>
      have hcalls : (s.handTo g ind i d).calls = Function.update s.calls d _ := rfl
      exact Or.inl (hasSelected_of_update hcalls id h)
  | dropped key payload hind huse => exact Or.inl h
  | begun key payload hind huse => exact Or.inl h
  | passed ind i hind hi hc hm => exact Or.inl h
  | finished ind hind hend => exact Or.inl h

/-- A call gets a slot by asking for one. -/
theorem owner_of_move {l : Label P} (hm : Move g s l t) {i : SelectId} {e : CallId}
    (h : t.owner i = some e) : s.owner i = some e ∨ l = .alloc e := by
  cases hm with
  | allocated d j hpc hind hfree =>
      by_cases hij : i = j
      · rw [hij, take_owner_self] at h
        exact Or.inr (Option.some.inj h ▸ rfl)
      · rw [take_owner_other hij] at h
        exact Or.inl h
  | freed d j status hpc hind =>
      by_cases hij : i = j
      · rw [hij, freeSlot_owner_self] at h
        cases h
      · rw [freeSlot_owner_other hij] at h
        exact Or.inl h
  | _ => exact Or.inl h

/-- What is sent is sent by a call that holds its slot. -/
theorem owner_of_sends (hs : Wf g s) {l : Label P} (hm : Move g s l t) {d : CallId}
    (hd : d ∈ l.sends) : ∃ i, s.owner i = some d := by
  cases hm with
  | sent c i status hpc =>
      cases status with
      | success =>
          rw [List.mem_singleton.mp hd]
          exact ⟨i, hs.owner c i (by rw [hpc]; rfl)⟩
      | _ => cases hd
  | _ => cases hd

end

namespace Linked

variable {answer : CallId → P} {m m' : Linked P}

/-- When call `c` writes its slot, no request for its key is unanswered or being
    answered, and no other call for its key holds a slot; and none takes one
    until it is done. The answer of a request that has timed out may still come,
    so it is not enough that no other call is under way: nothing may be on its
    way either. -/
def Alone (g : Setup) (c : CallId) (m : Linked P) : LinkLabel P → Prop
  | .thread (.select d) => d = c →
      (∀ e ∈ m.unanswered, (g.args e).key ≠ (g.args c).key) ∧
      (∀ i, ∀ e ∈ m.sync.owner i, e ≠ c → (g.args e).key ≠ (g.args c).key) ∧
      (∀ ind ∈ m.sync.ind, ind.key ≠ (g.args c).key)
  | .thread (.alloc d) => d ≠ c → (g.args d).key = (g.args c).key →
      (m.sync.calls c).pc.hasSelected = false
  | _ => True

instance (c : CallId) (m : Linked P) : (l : LinkLabel P) → Decidable (Alone g c m l)
  | .thread (.select d) => inferInstanceAs (Decidable (d = c →
      (∀ e ∈ m.unanswered, (g.args e).key ≠ (g.args c).key) ∧
      (∀ i, ∀ e ∈ m.sync.owner i, e ≠ c → (g.args e).key ≠ (g.args c).key) ∧
      (∀ ind ∈ m.sync.ind, ind.key ≠ (g.args c).key)))
  | .thread (.alloc d) => inferInstanceAs (Decidable (d ≠ c → (g.args d).key = (g.args c).key →
      (m.sync.calls c).pc.hasSelected = false))
  | .thread (.send _ _) | .thread (.wait _) | .thread (.wake _ _) | .thread (.free _)
  | .thread (.indBegin _ _) | .thread .indVisit | .thread .indEnd | .answer => isTrue trivial

/-- The call finds a free slot, and its wait ends by a signal or a timeout. -/
def ProperCall (c : CallId) (m : Linked P) : LinkLabel P → Prop
  | .thread l => ProperFor m.sync c l
  | .answer => True

instance (c : CallId) (m : Linked P) : (l : LinkLabel P) → Decidable (ProperCall c m l)
  | .thread l => inferInstanceAs (Decidable (ProperFor m.sync c l))
  | .answer => isTrue trivial

/-- From when its slot is written, an answer for its key can only be the one to
    call `c` itself. The fields follow an answer on its way, as in `Sourced`,
    with the slots of the other calls as the place where it could be turned
    aside. -/
structure Own (g : Setup) (answer : CallId → P) (c : CallId) (m : Linked P) : Prop where
  queue : (m.sync.calls c).pc.hasSelected = true →
    ∀ e ∈ m.unanswered, (g.args e).key = (g.args c).key → e = c
  owner : (m.sync.calls c).pc.hasSelected = true →
    ∀ i e, m.sync.owner i = some e → (g.args e).key = (g.args c).key → e = c
  ind : (m.sync.calls c).pc.hasSelected = true →
    ∀ ind, m.sync.ind = some ind → ind.key = (g.args c).key →
      ind.ind_payload_ptr = some (answer c)
  buffer : ∀ p, (m.sync.calls c).buffer = some p → p = answer c

theorem init_own (c : CallId) : Own g answer c (init : Linked P) :=
  ⟨(fun h => by cases h), (fun h => by cases h), (fun h => by cases h), fun _ h => by cases h⟩

theorem step_own {c : CallId} {l : LinkLabel P} (hs : Wf g m.sync) (h : Own g answer c m)
    (halone : Alone g c m l) (hstep : m.step g answer l = some m') : Own g answer c m' := by
  cases step_steps hstep with
  | thread l s hl hsync =>
      have hm := step_move hs hsync
      rcases move_sources hs hm hl with ⟨hind, hbuf⟩
      refine ⟨fun hsel e he hkey => ?_, fun hsel i e he hkey => ?_,
        fun hsel ind' hi hkey => ?_, fun p hp => ?_⟩
      · -- A request is unanswered from before, or being sent by who has a slot.
        rcases hasSelected_of_move hm hsel with hold | rfl
        · rcases List.mem_append.mp he with hq | hnew
          · exact h.queue hold e hq hkey
          · rcases owner_of_sends hs hm hnew with ⟨i, hi⟩
            exact h.owner hold i e hi hkey
        · rcases List.mem_append.mp he with hq | hnew
          · exact absurd hkey ((halone rfl).1 e hq)
          · cases hnew
      -- Nobody for the key held a slot before, and nobody takes one.
      · rcases owner_of_move hm he with hi | rfl
        · rcases hasSelected_of_move hm hsel with hold | rfl
          · exact h.owner hold i e hi hkey
          · by_contra hne
            exact (halone rfl).2.1 i e hi hne hkey
        · by_contra hne
          rcases hasSelected_of_move hm hsel with hold | hl'
          · have hnot := halone hne hkey
            rw [hold] at hnot
            cases hnot
          · cases hl'
      -- The indication under way is the one from before.
      · rcases hind ind' hi with ⟨ind, hi', hkey', hpay⟩
        rw [hkey'] at hkey
        rw [hpay]
        rcases hasSelected_of_move hm hsel with hold | rfl
        · exact h.ind hold ind hi' hkey
        · exact absurd hkey ((halone rfl).2.2 ind hi')
      · rcases hbuf c p hp with hold | ⟨ind, i, hi, howner, hsel, hpay, hkey⟩
        · exact h.buffer p hold
        · have hown := h.ind (hasSelected_of_slot (hs.pc_of_owner howner) hsel) ind hi hkey
          rw [hpay] at hown
          exact Option.some.inj hown
  | answer d rest s hd hsync =>
      rcases move_begin (step_move hs hsync) with ⟨hind, hcalls, howner⟩
      refine ⟨fun hsel e he hkey => ?_, fun hsel i e he hkey => ?_,
        fun hsel ind hi hkey => ?_, fun p hp => ?_⟩
      · rw [hcalls] at hsel
        exact h.queue hsel e (hd ▸ List.mem_cons_of_mem d he) hkey
      · rw [hcalls] at hsel
        rw [howner] at he
        exact h.owner hsel i e he hkey
      · -- The answer for the key is the call's own.
        rw [hcalls] at hsel
        rcases hind ind hi with ⟨hk, hpay⟩
        rw [hk] at hkey
        rw [hpay, h.queue hsel d (hd ▸ List.mem_cons_self) hkey]
      · rw [hcalls] at hp
        exact h.buffer p hp

/-- Something is in the buffer. -/
def Filled : Evidence P := fun _ b => b.isSome = true

/-- With a buffer and an indication of known size the answer is copied. -/
theorem gives_filled (h : Sourced g answer m) {c : CallId}
    (hbuf : (g.args c).ind_payload_ptr = true)
    (hsize : (g.locClientGetSizeByRespIndId (g.args c).ind_id).isSome = true) :
    Gives Filled g m.sync c := by
  refine ⟨fun hs b e p hb => ?_, fun ind i hind howner hsel hm => ?_⟩
  · cases p with
    | none => exact hb
    | some p => rfl
  -- The slot is written, so it points to the buffer of its call.
  · have hkey := key_of_matches h.wf howner hsel hm
    rcases h.wf.held (h.wf.pc_of_owner howner) with ⟨arrived, _, heq, _⟩
    have hptr : (m.sync.slots i).recv_ind_payload_ptr = some c := by
      rw [heq]
      have hpc := h.wf.pc_of_owner howner
      cases hcase : (m.sync.calls c).pc with
      | selecting j =>
          rw [hcase] at hpc hsel
          cases hpc
          exact absurd rfl hsel
      | _ => exact if_pos hbuf
    rcases h.ind ind hind with ⟨p, hp, _⟩
    rcases Option.isSome_iff_exists.mp hsize with ⟨n, hn⟩
    have hid : ind.key.ind_id = (g.args c).ind_id := by
      rw [hkey]
      rfl
    simp only [Filled, State.copied, hid, hn, hptr, hp, Option.map_some, Option.some_or,
      Option.isSome_some]

theorem step_honest {c : CallId} {l : LinkLabel P} (hbuf : (g.args c).ind_payload_ptr = true)
    (hsize : (g.locClientGetSizeByRespIndId (g.args c).ind_id).isSome = true)
    (h : Sourced g answer m) (hc : CallHonest Filled m.sync c) (hp : ProperCall c m l)
    (hstep : m.step g answer l = some m') : CallHonest Filled m'.sync c := by
  have hgives := gives_filled h hbuf hsize
  cases step_steps hstep with
  | thread l s hl hsync => exact move_honest h.wf (step_move h.wf hsync) hp hgives hc
  | answer d rest s hd hsync => exact move_honest h.wf (step_move h.wf hsync) trivial hgives hc

/-- A call with a buffer, for an indication of known size, that found a slot and
    did not stop waiting for nothing: when it returns success its buffer has the
    answer to a request of the same client for the same indication; and the
    answer to its own request, if the call was alone with its key. That is all
    there can be: an indication does not say which request it answers. -/
theorem success_carries_answer (g : Setup) (answer : CallId → P) (c : CallId)
    (hbuf : (g.args c).ind_payload_ptr = true)
    (hsize : (g.locClientGetSizeByRespIndId (g.args c).ind_id).isSome = true)
    (ls : List (LinkLabel P)) (m : Linked P)
    (hproper : StepSystem.Meets (step g answer) (ProperCall c) init ls)
    (hrun : StepSystem.exec (step g answer) init ls = some m)
    (hc : (m.sync.calls c).pc = .returned .success) :
    (∃ d ∈ m.sent, (g.args d).key = (g.args c).key ∧
      (m.sync.calls c).buffer = some (answer d)) ∧
    (StepSystem.Meets (step g answer) (Alone g c) init ls →
      (m.sync.calls c).buffer = some (answer c)) := by
  have hend := StepSystem.invariant_of_meets
    (I := fun m => Sourced g answer m ∧ CallHonest Filled m.sync c)
    (fun _ _ _ h hp hstep => ⟨step_sourced h.1 hstep, step_honest hbuf hsize h.1 h.2 hp hstep⟩)
    ⟨init_sourced, init_honest c⟩ hproper hrun
  rcases Option.isSome_iff_exists.mp (hend.2.success (Or.inr hc)).2 with ⟨p, hp⟩
  refine ⟨?_, fun halone => ?_⟩
  · rcases hend.1.buffer c p hp with ⟨d, hd, hkey, rfl⟩
    exact ⟨d, hd, hkey, hp⟩
  · have hown := (StepSystem.invariant_of_meets
      (I := fun m => Sourced g answer m ∧ Own g answer c m)
      (fun _ _ _ h hp hstep => ⟨step_sourced h.1 hstep, step_own h.1.wf h.2 hp hstep⟩)
      ⟨init_sourced, init_own c⟩ halone hrun).2
    rw [hp, hown.buffer p hp]

/-- Two requests of one client for one indication, one after the other. -/
def inTurn : List (LinkLabel Nat) :=
  [.thread (.alloc 0), .thread (.select 0), .thread (.send 0 .success), .thread (.wait 0), .answer,
    .thread .indVisit, .thread .indEnd, .thread (.wake 0 false), .thread (.free 0),
    .thread (.alloc 1), .thread (.select 1), .thread (.send 1 .success), .answer,
    .thread .indVisit, .thread .indEnd, .thread (.wait 1), .thread (.free 1)]

theorem success_carries_answer_inTurn :
    ∃ m, StepSystem.exec (step .uniform id) init inTurn = some m ∧
      (m.sync.calls 1).buffer = some 1 :=
  ⟨_, rfl, (success_carries_answer .uniform id 1 rfl rfl inTurn _ (by decide +kernel) rfl rfl).2
    (by decide +kernel)⟩

/-- A request times out, the next one for the same indication is given the
    late answer. Of two requests at once, sent in the order that is not that
    of their slots, each is given the answer to the other. And an answer of
    unknown size wakes the caller and is not copied. -/
theorem success_carries_other_answer :
    (∃ m, StepSystem.exec (step .uniform id) init
        [.thread (.alloc 0), .thread (.select 0), .thread (.send 0 .success), .thread (.wait 0),
          .thread (.wake 0 true), .thread (.free 0), .thread (.alloc 1), .thread (.select 1),
          .thread (.send 1 .success), .thread (.wait 1), .answer, .thread .indVisit,
          .thread .indEnd, .thread (.wake 1 false), .thread (.free 1)] = some m ∧
      (m.sync.calls 0).pc = .returned .failureTimeout ∧
      (m.sync.calls 1).pc = .returned .success ∧ (m.sync.calls 1).signalled = true ∧
      (m.sync.calls 1).buffer = some 0) ∧
    (∃ m, StepSystem.exec (step .uniform id) init
        [.thread (.alloc 0), .thread (.alloc 1), .thread (.select 0), .thread (.select 1),
          .thread (.send 1 .success), .thread (.send 0 .success), .answer, .thread .indVisit,
          .thread .indEnd, .answer, .thread .indVisit, .thread .indVisit, .thread .indEnd,
          .thread (.wait 0), .thread (.wait 1), .thread (.free 0), .thread (.free 1)] = some m ∧
      (m.sync.calls 0).pc = .returned .success ∧ (m.sync.calls 0).buffer = some 1 ∧
      (m.sync.calls 1).pc = .returned .success ∧ (m.sync.calls 1).buffer = some 0) ∧
    (∃ m, StepSystem.exec (step ⟨Setup.uniform.args, fun _ => none⟩ id) init
        [.thread (.alloc 0), .thread (.select 0), .thread (.send 0 .success), .thread (.wait 0),
          .answer, .thread .indVisit, .thread .indVisit, .thread .indVisit, .thread .indVisit,
          .thread .indVisit, .thread .indVisit, .thread .indVisit, .thread .indVisit,
          .thread .indEnd, .thread (.wake 0 false), .thread (.free 0)] = some m ∧
      (m.sync.calls 0).pc = .returned .success ∧ (m.sync.calls 0).signalled = true ∧
      (m.sync.calls 0).buffer = none) :=
  ⟨⟨_, rfl, rfl, rfl, rfl, rfl⟩, ⟨_, rfl, rfl, rfl, rfl, rfl⟩, ⟨_, rfl, rfl, rfl, rfl⟩⟩

end Linked

end Sync

end Victara
