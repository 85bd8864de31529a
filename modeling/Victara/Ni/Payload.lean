import Victara.Lib.Ledger
import Victara.Ni.Moves

/-!
# Who Frees a Payload

The payload of a request is allocated by whoever brings it and freed here, by
one of four: the handler when it is busy, the reset, the destructor of the
message that answers, or nobody. It is handed on from the handler to
`rawRequest`, from there to a message, and with that to the queue, and is to
be freed once at the end of that way.

`rawRequest` is the weak place. A thread that has built a message and not yet
cleared it shares its payload with it for two steps, and the reset has freed
what is in it for one step before it clears it. So `rawRequest` holds a payload
only outside of these. A thread or a reset that meets the other one there frees
the payload twice; a thread that ignores the request drops it, and so does the
handler before `loc_eng_ni_init`.

A payload is a resource in the sense of `Ledger`. It has a place for each of
those who may hold it, and `Linear` says that it is in one place, or was freed,
once. Every step moves at most one payload from one place to another, and there
is a lemma for each such way. The weak place is `rawRequest`, which is a place
only while nothing that was taken from it is under way; what the condition rules
out is a thread and the reset looking into it at the same time.

## Main definitions

* `Place`, `holds`: Where payloads are.
* `Task.saves`: The handler has the payload until it is saved.
* `ThreadPc.carries`: The message a thread has built has the payload.
* `HandedOver`: A thread has built its message and not cleared `rawRequest`.
* `State.keeps`: What is in `rawRequest` and has not been freed nor handed over.
* `Given`: The handler was called with a payload.
* `Unfinished`: Somebody has still to do with the payload.
* `FreedOnce`: Every payload is freed once when its request is finished.
* `Careful`: A thread builds no message with what the reset has freed, and
  ignores no request but one that the reset has freed.
* `FreesOnce`: What a step must not meet.
* `ThreadPc.answers`: The thread found a request to answer, and has not cleared
  it.
* `Exclusive`: Who holds `tLock` is in the locked part of its thread, and nobody
  else.
* `PayloadInv`: What holds besides.
* `Task.busy`: The message task has a payload, or has freed the one in
  `rawRequest`.
* `Setup.responding`: Every request has a payload, and the first is given a
  response.
* `waitingThread`: The handler takes a request, and its thread waits.
* `ignoredOnce`: The first request is ignored, up to where its thread clears it.
* `restartedLate`: The engine restarts while the thread of the first request has
  its message built.

## Theorems

* `exclusive_of_move`: One thread at a time holds `tLock`.
* `ThreadPc.locked_of_answers`: The thread that answers holds `tLock`, alone.
* `answers_of_move`: The request a thread answers stays in session, but for the
  reset.
* `not_handedOver`: Nobody who does not answer has handed anything over.
* `not_handedOver_of_owner`: Only who holds `tLock` can have handed anything
  over.
* `linear_stay`: A step after which everything is in the same place.
* `request_of_update`: One request is changed, but not as to `f`.
* `handedOver_of_unlocked`: Who does not hold `tLock` has no part in it.
* `linear_same`, `linear_frame`: Payloads that stay where they are.
* `linear_accepted`: The handler takes a request.
* `linear_busy`: A busy handler frees what it was called with.
* `linear_saved`: The payload of the handler goes into session.
* `linear_freed`: The reset frees what is in session.
* `linear_built`: A thread hands over what is in session to its message.
* `linear_queued`: A message takes its payload to the queue.
* `linear_informed`: The destructor of a message frees its payload.
* `linear_unlocked`: A thread clears what it has handed over, or ignores.
* `resp_of_built`: A message is built when the response is not to be ignored.
* `Tidy.msg_none`: Before its thread is created, a request carries no message.
* `linear_update`: A step that changes one request, but not its message, and
  nothing else that has to do with payloads.
* `not_handedOver_of_taken`: Whoever takes the lock has nothing handed over, nor
  had anybody.
* `linear_of_request`: `loc_eng_ni_request_handler` is called.
* `linear_of_task`: The handler or the reset goes on.
* `linear_of_thread`: A thread takes the lock, builds its message, and sends it.
* `linear_of_wake`: A thread that waits is woken.
* `linear_of_step`: Payloads that are given, handed on, or freed.
* `saving_of_move`: The handler starts with a request it has just accepted.
* `freedOnce_of_payloadInv`: What is in no other place has been freed.
* `freedOnce_of_freesOnce`: Every payload is freed once, over whole runs.
* `lost_of_ignored`: A thread that ignores a request loses its payload.
-/

namespace Victara

namespace Ni

open StepSystem Ledger

variable {g : Setup} {s t : State}

/-! ## Places -/

inductive Place
  | handler
  | rawRequest
  | thread (r : RequestId)
  | queue
  | freed
  deriving DecidableEq

/-- The handler has the payload until it is saved. -/
def Task.saves (g : Setup) : Task → Option RequestId
  | .saving r => g.passThrough r
  | .naming _ | .timing _ | .creating _ | .notifying _ | .idle | .freeing | .clearing | .waking =>
      none

/-- The message a thread has built has the payload. -/
def ThreadPc.carries (pc : ThreadPc) : Option RequestId := pc.msg.bind fun msg => msg.mPayload

/-- A thread has built its message and not cleared `rawRequest`. -/
def HandedOver (s : State) : Prop := ∃ r ∈ s.tLock, (s.requests r).thread.msg ≠ none

instance : DecidablePred HandedOver := fun s =>
  inferInstanceAs (Decidable (∃ r ∈ s.tLock, (s.requests r).thread.msg ≠ none))

/-- What is in `rawRequest` and has not been freed nor handed over. -/
def State.keeps (s : State) : Option RequestId :=
  if s.task = .clearing ∨ HandedOver s then none else s.ni_data.rawRequest

def holds (g : Setup) (s : State) : Place → List RequestId
  | .handler => (s.task.saves g).toList
  | .rawRequest => s.keeps.toList
  | .thread r => (s.requests r).thread.carries.toList
  | .queue => s.queue.filterMap fun msg => msg.mPayload
  | .freed => s.freed

/-- The handler was called with a payload. -/
def Given (g : Setup) (s : State) (p : RequestId) : Prop :=
  (s.requests p).called = true ∧ (g.notif p).passThrough = true

/-- Somebody has still to do with the payload. -/
def Unfinished (s : State) (p : RequestId) : Prop :=
  s.task = .saving p ∨ s.ni_data.rawRequest = some p ∨
    (∃ r, (s.requests r).thread.carries = some p) ∨ ∃ msg ∈ s.queue, msg.mPayload = some p

/-- No payload is freed twice, and one that was given to the engine and is done
    with has been freed. -/
def FreedOnce (g : Setup) (s : State) : Prop :=
  ∀ p, s.freed.count p ≤ 1 ∧ (Given g s p → ¬ Unfinished s p → s.freed.count p = 1)

/-- A thread builds no message with what the reset has freed, and ignores no
    request but one that the reset has freed. -/
def Careful (s : State) : ThreadPc → Prop
  | .building => s.ni_data.resp ≠ GPS_NI_RESPONSE_IGNORE → s.task = .clearing →
      s.ni_data.rawRequest = none
  | .clearing none => s.task ≠ .clearing → s.ni_data.rawRequest = none
  | .clearing (some _) | .absent | .starting | .waiting | .testing | .finishing _ | .counting _
  | .sending _ | .exited => True

instance : DecidablePred (Careful s)
  | .building => inferInstanceAs (Decidable (_ → _ → _))
  | .clearing none => inferInstanceAs (Decidable (_ → _))
  | .clearing (some _) | .absent | .starting | .waiting | .testing | .finishing _ | .counting _
  | .sending _ | .exited => isTrue trivial

/-- No payload comes before `loc_eng_ni_init`, and the reset frees nothing that
    was handed over to a message. The handler drops what comes before the
    callback is set. The reset finds in `rawRequest` what the thread has put
    into a message already, for as long as the thread has not cleared it; and
    the thread finds there what the reset has freed. The two meetings are
    `HandedOver` and `Careful`, which are about where the thread is when the
    step is taken. -/
def FreesOnce (g : Setup) (s : State) : Label → Prop
  | .request r => (g.notif r).passThrough = true → s.ni_notify_cb = true
  | .task => s.task = .freeing → s.ni_data.rawRequest ≠ none → ¬ HandedOver s
  | .thread r => Careful s (s.requests r).thread
  | .init | .reset | .inform | .create _ | .wake _ _ | .respond _ => True

instance : DecidablePred (FreesOnce g s)
  | .request _ => inferInstanceAs (Decidable (_ → _))
  | .task => inferInstanceAs (Decidable (_ → _ → _))
  | .thread _ => inferInstanceAs (Decidable (Careful s _))
  | .init | .reset | .inform | .create _ | .wake _ _ | .respond _ => isTrue trivial

/-! ## What holds besides -/

/-- The thread found a request to answer, and has not cleared it. -/
def ThreadPc.answers : ThreadPc → Bool
  | .building | .clearing _ => true
  | .absent | .starting | .waiting | .testing | .finishing _ | .counting _ | .sending _ | .exited =>
      false

/-- Who holds `tLock` is in the locked part of its thread, and nobody else. -/
def Exclusive (s : State) : Prop :=
  ∀ r, s.tLock = some r ↔ (s.requests r).thread.locked = true

/-- Who has a payload, as a count: each that was given is held once or was freed
    once. The other fields are what a thread or the task may assume about
    `rawRequest` where it stands, by which two holders of one payload are told
    apart. -/
structure PayloadInv (g : Setup) (s : State) : Prop where
  tidy : Tidy s
  uninited : s.ni_notify_cb = false → s.ni_data.rawRequest = none
  saving : ∀ r, s.task = .saving r → s.ni_data.rawRequest = none
  lock : Exclusive s
  answers : ∀ r, (s.requests r).thread.answers = true →
    s.ni_data.rawRequest ≠ none ∨ s.task = .waking
  linear : Linear (Given g s) (holds g s)

section

variable (hlock : Exclusive s) {r' : RequestId} {k : Request}
  (hreq : t.requests = Function.update s.requests r' k)

include hlock hreq

theorem exclusive_same (htl : t.tLock = s.tLock)
    (hk : k.thread.locked = (s.requests r').thread.locked) : Exclusive t := by
  intro r
  rw [htl, hlock r, hreq]
  by_cases hr : r = r'
  · rw [hr, Function.update_self, hk]
  · rw [Function.update_of_ne hr]

theorem exclusive_taken (hfree : s.tLock = none) (htl : t.tLock = some r')
    (hk : k.thread.locked = true) : Exclusive t := by
  intro r
  rw [htl, hreq]
  by_cases hr : r = r'
  · rw [hr, Function.update_self, hk]
    simp
  · rw [Function.update_of_ne hr, ← hlock r, hfree]
    simp [Ne.symm hr]

theorem exclusive_left (hheld : (s.requests r').thread.locked = true) (htl : t.tLock = none)
    (hk : k.thread.locked = false) : Exclusive t := by
  have howner := (hlock r').mpr hheld
  intro r
  rw [htl, hreq]
  by_cases hr : r = r'
  · rw [hr, Function.update_self, hk]
    simp
  · rw [Function.update_of_ne hr, ← hlock r, howner]
    simp [Ne.symm hr]

end

theorem exclusive_of_move (hs : Tidy s) (hlock : Exclusive s) {l : Label} (hm : Move g s l t) :
    Exclusive t := by
  cases hm with
  | notInited r htask hnew hcb => exact exclusive_same hlock rfl rfl rfl
  | busy r p htask hnew hcb hraw => exact exclusive_same hlock rfl rfl rfl
  | accepted r htask hnew hcb hraw => exact exclusive_same hlock rfl rfl rfl
  | named r htask => exact exclusive_same hlock rfl rfl rfl
  | created r htask =>
      refine exclusive_same hlock rfl rfl ?_
      rw [(hs.handling r (htask ▸ rfl)).2]
      rfl
  | began r hpc hfree => exact exclusive_same hlock rfl rfl (by rw [hpc]; rfl)
  | again r hpc => exact exclusive_same hlock rfl rfl (by rw [hpc])
  | found r hpc hfree hrecvd => exact exclusive_taken hlock rfl hfree rfl rfl
  | answered r hpc hfree hrecvd => exact exclusive_taken hlock rfl hfree rfl rfl
  | expired r hpc hfree => exact exclusive_taken hlock rfl hfree rfl rfl
  | gone r hpc => exact exclusive_left hlock rfl (by rw [hpc]; rfl) rfl rfl
  | unlocked r msg hpc => exact exclusive_left hlock rfl (by rw [hpc]; rfl) rfl rfl
  | present r p hpc hraw => exact exclusive_same hlock rfl rfl (by rw [hpc]; rfl)
  | built r hpc => exact exclusive_same hlock rfl rfl (by rw [hpc]; rfl)
  | ignored r hpc => exact exclusive_same hlock rfl rfl (by rw [hpc]; rfl)
  | timeCleared r msg hpc => exact exclusive_same hlock rfl rfl (by rw [hpc]; rfl)
  | counted r msg hpc => exact exclusive_same hlock rfl rfl (by rw [hpc]; rfl)
  | queued r msg hpc => exact exclusive_same hlock rfl rfl (by rw [hpc]; rfl)
  | _ => exact hlock

/-- The thread that answers holds `tLock`, alone. -/
theorem ThreadPc.locked_of_answers {pc : ThreadPc} (h : pc.answers = true) : pc.locked = true := by
  cases pc <;> first | rfl | cases h

theorem answers_of_update {r r' : RequestId} {k : Request}
    (h : (t.requests r).thread.answers = true)
    (hreq : t.requests = Function.update s.requests r' k)
    (hk : k.thread.answers = true → (s.requests r').thread.answers = true) :
    (s.requests r).thread.answers = true := by
  rw [hreq] at h
  by_cases hr : r = r'
  · rw [hr, Function.update_self] at h
    rw [hr]
    exact hk h
  · rw [Function.update_of_ne hr] at h
    exact h

/-- The request a thread answers stays in session, but for the reset. -/
theorem answers_of_move (hs : PayloadInv g s) {l : Label} (hm : Move g s l t) {r : RequestId}
    (h : (t.requests r).thread.answers = true) :
    t.ni_data.rawRequest ≠ none ∨ t.task = .waking := by
  have hheld : (s.requests r).thread.answers = true → s.tLock = some r := fun hr =>
    (hs.lock r).mpr (ThreadPc.locked_of_answers hr)
  have hidle : s.task ≠ .waking → (s.requests r).thread.answers = true →
      s.ni_data.rawRequest ≠ none := fun hno hr => (hs.answers r hr).resolve_right hno
  cases hm with
  | inited hcb =>
      have hcontra : (s.requests r).thread.answers = true := h
      rw [(hs.tidy.uninited hcb).2.1 r] at hcontra
      cases hcontra
  | saved r' htask => exact absurd (hs.saving r' htask) (hidle (by simp [htask]) h)
  | cleared htask => exact Or.inr rfl
  | woken htask hfree =>
      rw [hheld h] at hfree
      cases hfree
  | unlocked r' msg hpc =>
      have howner := (hs.lock r').mpr (by rw [hpc]; rfl)
      -- No other thread holds the lock, so no other one is about to answer.
      by_cases hr : r = r'
      · rw [hr, State.clearAndUnlock_requests, State.setThread_requests, Function.update_self] at h
        cases h
      · rw [State.clearAndUnlock_requests, State.setThread_requests, Function.update_of_ne hr] at h
        rw [hheld h] at howner
        exact absurd (Option.some.inj howner) hr
  | present r' p hpc hraw => exact Or.inl (by simp [hraw])
  | accepted r' htask hnew hcb hraw =>
      exact Or.inl (hidle (by simp [htask]) (answers_of_update h rfl id))
  | named r' htask => exact Or.inl (hidle (by simp [htask]) (answers_of_update h rfl id))
  | timed r' htask => exact Or.inl (hidle (by simp [htask]) h)
  | created r' htask =>
      exact Or.inl (hidle (by simp [htask]) (answers_of_update h rfl (fun hno => by cases hno)))
  | failed r' htask => exact Or.inl (hidle (by simp [htask]) h)
  | notified r' htask => exact Or.inl (hidle (by simp [htask]) h)
  | resetting p htask hcb hraw => exact Or.inl (hidle (by simp [htask]) h)
  | freed htask => exact Or.inl (hidle (by simp [htask]) h)
  | notInited r' htask hnew hcb => exact hs.answers r (answers_of_update h rfl id)
  | busy r' p htask hnew hcb hraw => exact hs.answers r (answers_of_update h rfl id)
  | began r' hpc hfree => exact hs.answers r (answers_of_update h rfl (fun hno => by cases hno))
  | found r' hpc hfree hrecvd =>
      exact hs.answers r (answers_of_update h rfl (fun hno => by cases hno))
  | again r' hpc => exact hs.answers r (answers_of_update h rfl (fun hno => by cases hno))
  | answered r' hpc hfree hrecvd =>
      exact hs.answers r (answers_of_update h rfl (fun hno => by cases hno))
  | expired r' hpc hfree => exact hs.answers r (answers_of_update h rfl (fun hno => by cases hno))
  | gone r' hpc => exact hs.answers r (answers_of_update h rfl (fun hno => by cases hno))
  | built r' hpc => exact hs.answers r (answers_of_update h rfl (fun _ => by rw [hpc]; rfl))
  | ignored r' hpc => exact hs.answers r (answers_of_update h rfl (fun _ => by rw [hpc]; rfl))
  | timeCleared r' msg hpc =>
      exact hs.answers r (answers_of_update h rfl (fun hno => by cases hno))
  | counted r' msg hpc => exact hs.answers r (answers_of_update h rfl (fun hno => by cases hno))
  | queued r' msg hpc => exact hs.answers r (answers_of_update h rfl (fun hno => by cases hno))
  | _ => exact hs.answers r h

/-! ## Payloads that stay where they are -/

theorem keeps_of_handedOver (h : HandedOver s) : s.keeps = none := by
  rw [State.keeps, if_pos (Or.inr h)]

theorem keeps_of_clearing (h : s.task = .clearing) : s.keeps = none := by
  rw [State.keeps, if_pos (Or.inl h)]

theorem keeps_of_not (htask : s.task ≠ .clearing) (hover : ¬ HandedOver s) :
    s.keeps = s.ni_data.rawRequest := by
  rw [State.keeps, if_neg (by simp [htask, hover])]

theorem keeps_of_none (h : s.ni_data.rawRequest = none) : s.keeps = none := by
  rw [State.keeps, h, ite_self]

/-- Nobody who does not answer has handed anything over. -/
theorem not_handedOver (hlock : Exclusive s) (h : ∀ r, (s.requests r).thread.answers = false) :
    ¬ HandedOver s := by
  rintro ⟨r, hr, hmsg⟩
  have hlocked := (hlock r).mp hr
  have hanswers := h r
  generalize (s.requests r).thread = pc at hlocked hmsg hanswers
  cases pc with
  | testing => exact hmsg rfl
  | building => cases hanswers
  | clearing msg => cases hanswers
  | _ => cases hlocked

/-- Only who holds `tLock` can have handed anything over. -/
theorem not_handedOver_of_owner (hlock : Exclusive s) {r : RequestId}
    (hlocked : (s.requests r).thread.locked = true) (hmsg : (s.requests r).thread.msg = none) :
    ¬ HandedOver s := by
  have howner := (hlock r).mpr hlocked
  rintro ⟨r', hr', hno⟩
  rw [howner] at hr'
  cases hr'
  exact hno hmsg

theorem not_handedOver_of_unlocked (hfree : s.tLock = none) : ¬ HandedOver s := by
  rintro ⟨r, hr, -⟩
  rw [hfree] at hr
  cases hr

theorem given_iff (hcalled : ∀ r, (t.requests r).called = (s.requests r).called) (p : RequestId) :
    Given g t p ↔ Given g s p := by
  rw [Given, Given, hcalled p]

/-- A step after which everything is in the same place. -/
theorem linear_stay (h : Linear (Given g s) (holds g s))
    (hgiven : ∀ p, Given g t p ↔ Given g s p) (htask : t.task.saves g = s.task.saves g)
    (hkeeps : t.keeps = s.keeps)
    (hcarries : ∀ r, (t.requests r).thread.carries = (s.requests r).thread.carries)
    (hqueue : holds g t .queue = holds g s .queue) (hfreed : t.freed = s.freed) :
    Linear (Given g t) (holds g t) := by
  refine linear_same h hgiven fun place => ?_
  cases place with
  | handler => simp only [holds, htask]
  | rawRequest => simp only [holds, hkeeps]
  | thread r => simp only [holds, hcarries]
  | queue => exact hqueue
  | freed => exact hfreed

/-- One request is changed, but not as to `f`. -/
theorem request_of_update {α : Type} (f : Request → α) {r' : RequestId} {k : Request}
    (hreq : t.requests = Function.update s.requests r' k) (hk : f k = f (s.requests r'))
    (r : RequestId) : f (t.requests r) = f (s.requests r) := by
  rw [hreq]
  by_cases hr : r = r'
  · rw [hr, Function.update_self, hk]
  · rw [Function.update_of_ne hr]

/-- Who does not hold `tLock` has no part in it. -/
theorem handedOver_of_unlocked (hlock : Exclusive s) {r : RequestId}
    (hpc : (s.requests r).thread.locked = false) (htl : t.tLock = s.tLock)
    (hother : ∀ r', r' ≠ r → t.requests r' = s.requests r') : HandedOver t ↔ HandedOver s := by
  have hne : ∀ r' ∈ s.tLock, r' ≠ r := by
    rintro r' hr' rfl
    rw [(hlock r').mp hr'] at hpc
    cases hpc
  rw [HandedOver, HandedOver, htl]
  constructor
  · rintro ⟨r', hr', hmsg⟩
    exact ⟨r', hr', hother r' (hne r' hr') ▸ hmsg⟩
  · rintro ⟨r', hr', hmsg⟩
    exact ⟨r', hr', (hother r' (hne r' hr')).symm ▸ hmsg⟩

theorem handedOver_iff (hlock : t.tLock = s.tLock)
    (hmsg : ∀ r, (t.requests r).thread.msg = (s.requests r).thread.msg) :
    HandedOver t ↔ HandedOver s := by
  simp only [HandedOver, hlock, hmsg]

/-- The message task has a payload, or has freed the one in `rawRequest`. -/
def Task.busy : Task → Bool
  | .saving _ | .clearing => true
  | .naming _ | .timing _ | .creating _ | .notifying _ | .idle | .freeing | .waking => false

/-- A step that has nothing to do with payloads. -/
theorem linear_frame (h : Linear (Given g s) (holds g s))
    (hcalled : ∀ r, (t.requests r).called = (s.requests r).called)
    (hmsg : ∀ r, (t.requests r).thread.msg = (s.requests r).thread.msg)
    (htask : t.task = s.task ∨ (t.task.busy = false ∧ s.task.busy = false))
    (hlock : t.tLock = s.tLock ∨ (¬ HandedOver t ∧ ¬ HandedOver s))
    (hraw : t.ni_data.rawRequest = s.ni_data.rawRequest)
    (hqueue : t.queue = s.queue) (hfreed : t.freed = s.freed) :
    Linear (Given g t) (holds g t) := by
  have hover : HandedOver t ↔ HandedOver s := by
    rcases hlock with hsame | hnone
    · exact handedOver_iff hsame hmsg
    · simp [hnone]
  refine linear_stay h (given_iff hcalled) ?_ ?_ (fun r => ?_) (by simp only [holds, hqueue]) hfreed
  · rcases htask with hsame | ⟨ht, hs⟩
    · rw [hsame]
    · cases hts : t.task <;> cases hss : s.task <;> simp_all [Task.busy, Task.saves]
  · have hclear : t.task = .clearing ↔ s.task = .clearing := by
      rcases htask with hsame | ⟨ht, hs⟩
      · rw [hsame]
      · constructor <;> intro hyes <;> simp_all [Task.busy]
    simp only [State.keeps, hclear, hover, hraw]
  · rw [ThreadPc.carries, ThreadPc.carries, hmsg r]

/-! ## Payloads that are given, handed on, and freed -/

theorem given_of_called {r' : RequestId} {k : Request}
    (hreq : t.requests = Function.update s.requests r' k) (hcalled : k.called = true)
    (hpass : (g.notif r').passThrough = true) (p : RequestId) :
    Given g t p ↔ p = r' ∨ Given g s p := by
  rw [Given, hreq]
  by_cases hp : p = r'
  · rw [hp, Function.update_self]
    simp [hcalled, hpass]
  · rw [Function.update_of_ne hp, Given]
    simp [hp]

theorem given_of_noPayload {r' : RequestId} {k : Request}
    (hreq : t.requests = Function.update s.requests r' k)
    (hpass : (g.notif r').passThrough = false) (p : RequestId) : Given g t p ↔ Given g s p := by
  rw [Given, Given, hreq]
  by_cases hp : p = r'
  · simp [hp, hpass]
  · rw [Function.update_of_ne hp]

/-- The handler takes a request. -/
theorem linear_accepted (h : Linear (Given g s) (holds g s)) {r : RequestId}
    (htask : s.task = .idle) (hnew : (s.requests r).called = false)
    (hraw : s.ni_data.rawRequest = none)
    (ht : t = { s.setRequest r { s.requests r with called := true } with task := .saving r }) :
    Linear (Given g t) (holds g t) := by
  have hreq : t.requests =
      Function.update s.requests r { s.requests r with called := true } := by rw [ht]; rfl
  have hkeeps : t.keeps = s.keeps := by
    rw [keeps_of_none hraw, keeps_of_none (by rw [ht]; exact hraw)]
  have hcarries := request_of_update (fun k => k.thread.carries) hreq rfl
  have hold : s.task.saves g = none := by rw [htask]; rfl
  have hnow : t.task.saves g = g.passThrough r := by rw [ht]; rfl
  -- A request without a payload gives nothing away.
  cases hpass : (g.notif r).passThrough with
  | true =>
      refine linear_give h .handler (fun hgiven => ?_) (given_of_called hreq rfl hpass) ?_
        fun place hplace => ?_
      · rw [Given, hnew] at hgiven
        cases hgiven.1
      · simp [holds, hold, hnow, Setup.passThrough, hpass]
      · cases place with
        | handler => exact absurd rfl hplace
        | rawRequest => simp only [holds, hkeeps]
        | thread r' => simp only [holds, hcarries]
        | queue => rw [ht]; rfl
        | freed => rw [ht]; rfl
  | false =>
      refine linear_stay h (given_of_noPayload hreq hpass) ?_ hkeeps hcarries (by rw [ht]; rfl)
        (by rw [ht]; rfl)
      rw [hold, hnow, Setup.passThrough, hpass]
      rfl

/-- A busy handler frees what it was called with. -/
theorem linear_busy (h : Linear (Given g s) (holds g s)) {r : RequestId}
    (hnew : (s.requests r).called = false)
    (ht : t = (s.setRequest r { s.requests r with called := true }).free (g.passThrough r)) :
    Linear (Given g t) (holds g t) := by
  have hreq : t.requests =
      Function.update s.requests r { s.requests r with called := true } := by rw [ht]; rfl
  have hcarries := request_of_update (fun k => k.thread.carries) hreq rfl
  -- What the request in progress keeps is the same, as it is not this one.
  have hkeeps : t.keeps = s.keeps := by
    have hover : HandedOver t ↔ HandedOver s :=
      handedOver_iff (by rw [ht]; rfl) (request_of_update (fun k => k.thread.msg) hreq rfl)
    simp only [State.keeps, hover]
    rw [ht]
    rfl
  have hfreed : t.freed = s.freed ++ (g.passThrough r).toList := by rw [ht]; rfl
  cases hpass : (g.notif r).passThrough with
  | true =>
      refine linear_give h .freed (fun hgiven => ?_) (given_of_called hreq rfl hpass) ?_
        fun place hplace => ?_
      · rw [Given, hnew] at hgiven
        cases hgiven.1
      · simp only [holds, hfreed, Setup.passThrough, hpass]
        exact List.perm_append_singleton r s.freed
      · cases place with
        | handler => rw [ht]; rfl
        | rawRequest => simp only [holds, hkeeps]
        | thread r' => simp only [holds, hcarries]
        | queue => rw [ht]; rfl
        | freed => exact absurd rfl hplace
  | false =>
      refine linear_stay h (given_of_noPayload hreq hpass) (by rw [ht]; rfl) hkeeps hcarries
        (by rw [ht]; rfl) ?_
      simp [hfreed, Setup.passThrough, hpass]

/-- The payload of the handler goes into session. -/
theorem linear_saved (hs : PayloadInv g s) {r : RequestId} (htask : s.task = .saving r) :
    Linear (Given g (s.saveRequest g r)) (holds g (s.saveRequest g r)) := by
  have hraw := hs.saving r htask
  -- While nothing is saved no thread is answering.
  have hquiet : ∀ r', (s.requests r').thread.answers = false := by
    intro r'
    by_contra hno
    rcases hs.answers r' (by simpa using hno) with hsome | hwaking
    · exact hsome hraw
    · rw [htask] at hwaking
      cases hwaking
  have hover : ¬ HandedOver (s.saveRequest g r) := not_handedOver hs.lock hquiet
  have hkeeps : (s.saveRequest g r).keeps = g.passThrough r := keeps_of_not (by simp) hover
  have hsaves : s.task.saves g = g.passThrough r := by rw [htask]; rfl
  have hnow : (s.saveRequest g r).task.saves g = none := rfl
  cases hpass : g.passThrough r with
  | some p =>
      refine linear_move hs.linear .handler .rawRequest (x := p) (fun _ => Iff.rfl) (by simp) ?_ ?_
        fun place hne hne' => ?_
      · simp only [holds, hsaves, hnow, hpass]
        exact List.Perm.refl _
      · simp [holds, hkeeps, hpass, keeps_of_none hraw]
      · cases place with
        | handler => exact absurd rfl hne
        | rawRequest => exact absurd rfl hne'
        | thread r' => rfl
        | queue => rfl
        | freed => rfl
  | none =>
      refine linear_stay hs.linear (fun _ => Iff.rfl) ?_ ?_ (fun _ => rfl) rfl rfl
      · rw [hsaves, hnow, hpass]
      · rw [hkeeps, hpass, keeps_of_none hraw]

/-- The reset frees what is in session. -/
theorem linear_freed (h : Linear (Given g s) (holds g s)) (htask : s.task = .freeing)
    (hfree : s.ni_data.rawRequest ≠ none → ¬ HandedOver s) :
    Linear (Given g s.freeRequest) (holds g s.freeRequest) := by
  have hnow : s.freeRequest.keeps = none := keeps_of_clearing rfl
  cases hraw : s.ni_data.rawRequest with
  | some p =>
      have hkeeps : s.keeps = some p := by
        rw [keeps_of_not (by simp [htask]) (hfree (by simp [hraw])), hraw]
      refine linear_move h .rawRequest .freed (x := p) (fun _ => Iff.rfl) (by simp) ?_ ?_
        fun place hne hne' => ?_
      · simp [holds, hkeeps, hnow]
      · simp only [holds, State.freeRequest_freed, hraw]
        exact List.perm_append_singleton p s.freed
      · cases place with
        | handler => simp [holds, htask, Task.saves]
        | rawRequest => exact absurd rfl hne
        | thread r' => rfl
        | queue => rfl
        | freed => exact absurd rfl hne'
  | none =>
      refine linear_stay h (fun _ => Iff.rfl) ?_ ?_ (fun _ => rfl) rfl ?_
      · rw [htask]
        rfl
      · rw [hnow, keeps_of_none hraw]
      · simp [hraw]

/-- A thread hands over what is in session to its message. -/
theorem linear_built (hs : PayloadInv g s) {r : RequestId}
    (hpc : (s.requests r).thread = .building)
    (hclear : s.task = .clearing → s.ni_data.rawRequest = none) {msg : LocEngInformNiResponse}
    (hmsg : msg.mPayload = s.ni_data.rawRequest) :
    Linear (Given g (s.setThread r (.clearing (some msg))))
      (holds g (s.setThread r (.clearing (some msg)))) := by
  have howner : s.tLock = some r := (hs.lock r).mpr (by rw [hpc]; rfl)
  -- Before the message is built `ni_data` keeps the payload, and after that the message has it.
  have hover : ¬ HandedOver s :=
    not_handedOver_of_owner hs.lock (r := r) (by rw [hpc]; rfl) (by rw [hpc]; rfl)
  have hnow : (s.setThread r (.clearing (some msg))).keeps = none := by
    refine keeps_of_handedOver ⟨r, howner, ?_⟩
    rw [State.setThread_requests, Function.update_self]
    simp [ThreadPc.msg]
  have hother : ∀ r', r' ≠ r → (s.setThread r (.clearing (some msg))).requests r' = s.requests r' :=
    fun r' hr' => Function.update_of_ne hr' _ _
  have hgiven : ∀ p, Given g (s.setThread r (.clearing (some msg))) p ↔ Given g s p :=
    given_iff (request_of_update (fun k => k.called) rfl rfl)
  have hold : (s.requests r).thread.carries = none := by rw [hpc]; rfl
  have hcarries : ((s.setThread r (.clearing (some msg))).requests r).thread.carries =
      s.ni_data.rawRequest := by
    rw [State.setThread_requests, Function.update_self]
    exact hmsg
  cases hraw : s.ni_data.rawRequest with
  | some p =>
      have hkeeps : s.keeps = some p := by
        refine (keeps_of_not (fun hno => ?_) hover).trans hraw
        rw [hclear hno] at hraw
        cases hraw
      refine linear_move hs.linear .rawRequest (.thread r) (x := p) hgiven (by simp) ?_ ?_
        fun place hne hne' => ?_
      · simp [holds, hkeeps, hnow]
      · simp only [holds, hcarries, hold, hraw]
        exact List.Perm.refl _
      · cases place with
        | handler => rfl
        | rawRequest => exact absurd rfl hne
        | thread r' => simp only [holds, hother r' fun heq => hne' (by rw [heq])]
        | queue => rfl
        | freed => rfl
  | none =>
      refine linear_stay hs.linear hgiven rfl ?_ (fun r' => ?_) rfl rfl
      · rw [hnow, keeps_of_none hraw]
      · by_cases hr : r' = r
        · rw [hr, hcarries, hold, hraw]
        · rw [hother r' hr]

/-- A message takes its payload to the queue. -/
theorem linear_queued (h : Linear (Given g s) (holds g s)) {r : RequestId}
    {msg : Option LocEngInformNiResponse} (hpc : (s.requests r).thread = .sending msg)
    (hlock : Exclusive s) : Linear (Given g (s.sendMsg r msg)) (holds g (s.sendMsg r msg)) := by
  have hother : ∀ r', r' ≠ r → (s.sendMsg r msg).requests r' = s.requests r' := fun r' hr' =>
    Function.update_of_ne hr' _ _
  have hgiven : ∀ p, Given g (s.sendMsg r msg) p ↔ Given g s p :=
    given_iff (request_of_update (fun k => k.called) rfl rfl)
  have hold : (s.requests r).thread.carries = msg.bind fun msg => msg.mPayload := by rw [hpc]; rfl
  have hnow : ((s.sendMsg r msg).requests r).thread.carries = none := by
    rw [State.sendMsg_requests, State.setThread_requests, Function.update_self]
    rfl
  have hover : HandedOver (s.sendMsg r msg) ↔ HandedOver s :=
    handedOver_of_unlocked hlock (by rw [hpc]; rfl) rfl hother
  have hkeeps : (s.sendMsg r msg).keeps = s.keeps := by
    simp only [State.keeps, hover]
    rfl
  cases hcarries : msg.bind fun msg => msg.mPayload with
  | some p =>
      -- A message with a payload takes it along; one without changes nothing.
      rcases Option.bind_eq_some_iff.mp hcarries with ⟨m, rfl, hpayload⟩
      refine linear_move h (.thread r) .queue (x := p) hgiven (by simp) ?_ ?_
        fun place hne hne' => ?_
      · simp only [holds, hold, hnow, hcarries]
        exact List.Perm.refl _
      · simp only [holds, State.sendMsg_queue, List.filterMap_append]
        simp [hpayload]
      · cases place with
        | handler => rfl
        | rawRequest => simp only [holds, hkeeps]
        | thread r' => simp only [holds, hother r' fun heq => hne (by rw [heq])]
        | queue => exact absurd rfl hne'
        | freed => rfl
  | none =>
      refine linear_stay h hgiven rfl hkeeps (fun r' => ?_) ?_ rfl
      · by_cases hr : r' = r
        · rw [hr, hnow, hold, hcarries]
        · rw [hother r' hr]
      · cases msg with
        | none => simp [holds]
        | some m => simpa [holds] using hcarries

/-- The destructor of a message frees its payload. -/
theorem linear_informed (h : Linear (Given g s) (holds g s)) {msg : LocEngInformNiResponse}
    {rest : List LocEngInformNiResponse} (hqueue : s.queue = msg :: rest) :
    Linear (Given g (s.informNiResponse msg rest)) (holds g (s.informNiResponse msg rest)) := by
  cases hpayload : msg.mPayload with
  | some p =>
      refine linear_move h .queue .freed (x := p) (fun _ => Iff.rfl) (by simp) ?_ ?_
        fun place hne hne' => ?_
      · simp [holds, hqueue, hpayload]
      · simp only [holds, State.informNiResponse_freed, hpayload]
        exact List.perm_append_singleton p s.freed
      · cases place with
        | handler => rfl
        | rawRequest => rfl
        | thread r' => rfl
        | queue => exact absurd rfl hne
        | freed => exact absurd rfl hne'
  | none =>
      refine linear_stay h (fun _ => Iff.rfl) rfl rfl (fun _ => rfl) ?_ ?_
      · simp [holds, hqueue, hpayload]
      · simp [hpayload]

/-- A thread clears what it has handed over, or ignores. -/
theorem linear_unlocked (hs : PayloadInv g s) {r : RequestId}
    {msg : Option LocEngInformNiResponse} (hpc : (s.requests r).thread = .clearing msg)
    (hcareful : Careful s (.clearing msg)) :
    Linear (Given g (s.clearAndUnlock r msg)) (holds g (s.clearAndUnlock r msg)) := by
  have hkeeps : s.keeps = none := by
    cases msg with
    | some m =>
        refine keeps_of_handedOver ⟨r, (hs.lock r).mpr (by rw [hpc]; rfl), ?_⟩
        rw [hpc]
        simp [ThreadPc.msg]
    | none =>
        by_cases hclear : s.task = .clearing
        · exact keeps_of_clearing hclear
        · exact keeps_of_none (hcareful hclear)
  refine linear_stay hs.linear (given_iff (request_of_update (fun k => k.called) rfl rfl)) rfl ?_
    (request_of_update (fun k => k.thread.carries) rfl (by rw [hpc]; rfl)) rfl rfl
  rw [hkeeps]
  exact keeps_of_none rfl

/-- A message is built when the response is not to be ignored. -/
theorem resp_of_built {r : RequestId} (hpc : (s.requests r).thread = .building)
    (h : step g s (.thread r) = some t) (hmsg : (t.requests r).thread ≠ .clearing none) :
    s.ni_data.resp ≠ GPS_NI_RESPONSE_IGNORE := by
  intro hignore
  simp only [step, hpc, State.buildMessage, hignore, ne_eq, not_true_eq_false, if_false,
    Option.some.injEq] at h
  rw [← h, State.setThread_requests, Function.update_self] at hmsg
  exact hmsg rfl

/-- Before its thread is created, the request the handler has carries no
    message. -/
theorem Tidy.msg_none (hs : Tidy s) {r : RequestId} (h : s.task.handling = some r) :
    (s.requests r).thread.msg = none := by
  rw [(hs.handling r h).2]
  rfl

/-- A step that changes one request, but not its message, and nothing else that
    has to do with payloads. -/
theorem linear_update (h : Linear (Given g s) (holds g s)) {r : RequestId} {k : Request}
    (hreq : t.requests = Function.update s.requests r k)
    (hcalled : k.called = (s.requests r).called) (hmsg : k.thread.msg = (s.requests r).thread.msg)
    (htask : t.task = s.task ∨ (t.task.busy = false ∧ s.task.busy = false))
    (hlock : t.tLock = s.tLock ∨ (¬ HandedOver t ∧ ¬ HandedOver s))
    (hraw : t.ni_data.rawRequest = s.ni_data.rawRequest)
    (hqueue : t.queue = s.queue) (hfreed : t.freed = s.freed) :
    Linear (Given g t) (holds g t) :=
  linear_frame h (request_of_update (fun k => k.called) hreq hcalled)
    (request_of_update (fun k => k.thread.msg) hreq hmsg) htask hlock hraw hqueue hfreed

/-- Whoever takes the lock has nothing handed over, nor had anybody. -/
theorem not_handedOver_of_taken {r : RequestId} {k : Request} (hfree : s.tLock = none)
    (htl : t.tLock = some r) (hreq : t.requests = Function.update s.requests r k)
    (hmsg : k.thread.msg = none) : ¬ HandedOver t ∧ ¬ HandedOver s := by
  refine ⟨?_, not_handedOver_of_unlocked hfree⟩
  rintro ⟨r', hr', hno⟩
  rw [htl] at hr'
  cases hr'
  rw [hreq, Function.update_self] at hno
  exact hno hmsg

/-- `loc_eng_ni_request_handler` is called. -/
theorem linear_of_request (hs : PayloadInv g s) {r : RequestId} (hfree : FreesOnce g s (.request r))
    (hm : Move g s (.request r) t) : Linear (Given g t) (holds g t) := by
  cases hm with
  | notInited r htask hnew hcb =>
      have hpass : (g.notif r).passThrough = false := by
        by_contra hyes
        have hno := hfree (by simpa using hyes)
        rw [hcb] at hno
        cases hno
      have hover := handedOver_iff (s := s) (t := s.setRequest r { s.requests r with called := true })
        rfl (request_of_update (fun k => k.thread.msg) rfl rfl)
      refine linear_stay hs.linear (given_of_noPayload rfl hpass) rfl ?_
        (request_of_update (fun k => k.thread.carries) rfl rfl) rfl rfl
      simp only [State.keeps, hover]
      rfl
  | busy r p htask hnew hcb hraw => exact linear_busy hs.linear hnew rfl
  | accepted r htask hnew hcb hraw => exact linear_accepted hs.linear htask hnew hraw rfl

/-- The handler or the reset goes on. -/
theorem linear_of_task (hs : PayloadInv g s) (hfree : FreesOnce g s .task) (hm : Move g s .task t) :
    Linear (Given g t) (holds g t) := by
  cases hm with
  | saved r htask => exact linear_saved hs htask
  | freed htask => exact linear_freed hs.linear htask (hfree htask)
  | cleared htask =>
      refine linear_stay hs.linear (fun _ => Iff.rfl) ?_ ?_ (fun _ => rfl) rfl rfl
      · rw [htask]
        rfl
      · rw [keeps_of_clearing htask]
        exact keeps_of_none rfl
  | named r htask =>
      exact linear_update hs.linear rfl rfl rfl (Or.inr ⟨rfl, by rw [htask]; rfl⟩) (Or.inl rfl) rfl
        rfl rfl
  | timed r htask =>
      exact linear_frame hs.linear (fun _ => rfl) (fun _ => rfl)
        (Or.inr ⟨rfl, by rw [htask]; rfl⟩) (Or.inl rfl) rfl rfl rfl
  | notified r htask =>
      exact linear_frame hs.linear (fun _ => rfl) (fun _ => rfl)
        (Or.inr ⟨rfl, by rw [htask]; rfl⟩) (Or.inl rfl) rfl rfl rfl
  | woken htask hlock =>
      exact linear_frame hs.linear (fun _ => rfl) (fun _ => rfl)
        (Or.inr ⟨rfl, by rw [htask]; rfl⟩) (Or.inl rfl) rfl rfl rfl

/-- A thread takes the lock, builds its message, and sends it. -/
theorem linear_of_thread (hs : PayloadInv g s) {r : RequestId} (hfree : FreesOnce g s (.thread r))
    (h : step g s (.thread r) = some t) : Linear (Given g t) (holds g t) := by
  have hcareful : Careful s (s.requests r).thread := hfree
  cases step_move h with
  -- The payload goes from `rawRequest` into the message here, and into the queue below.
  | built r hpc =>
      rw [hpc] at hcareful
      have hresp := resp_of_built hpc h (by simp [State.setThread])
      exact linear_built hs hpc (hcareful hresp) rfl
  | unlocked r msg hpc =>
      rw [hpc] at hcareful
      exact linear_unlocked hs hpc hcareful
  | queued r msg hpc => exact linear_queued hs.linear hpc hs.lock
  -- What follows changes the lock or the loop, and no payload.
  | found r hpc hlock hrecvd =>
      exact linear_update hs.linear rfl rfl (by rw [hpc]; rfl) (Or.inl rfl)
        (Or.inr (not_handedOver_of_taken hlock rfl rfl rfl)) rfl rfl rfl
  | gone r hpc =>
      have hover : ¬ HandedOver s :=
        not_handedOver_of_owner hs.lock (r := r) (by rw [hpc]; rfl) (by rw [hpc]; rfl)
      exact linear_update hs.linear rfl rfl (by rw [hpc]; rfl) (Or.inl rfl)
        (Or.inr ⟨not_handedOver_of_unlocked rfl, hover⟩) rfl rfl rfl
  | began r hpc hlock =>
      exact linear_update hs.linear rfl rfl (by rw [hpc]; rfl) (Or.inl rfl) (Or.inl rfl) rfl rfl rfl
  | present r p hpc hraw =>
      exact linear_update hs.linear rfl rfl (by rw [hpc]; rfl) (Or.inl rfl) (Or.inl rfl) rfl rfl rfl
  | ignored r hpc =>
      exact linear_update hs.linear rfl rfl (by rw [hpc]; rfl) (Or.inl rfl) (Or.inl rfl) rfl rfl rfl
  | timeCleared r msg hpc =>
      exact linear_update hs.linear rfl rfl (by rw [hpc]; rfl) (Or.inl rfl) (Or.inl rfl) rfl rfl rfl
  | counted r msg hpc =>
      exact linear_update hs.linear rfl rfl (by rw [hpc]; rfl) (Or.inl rfl) (Or.inl rfl) rfl rfl rfl

/-- A thread that waits is woken. -/
theorem linear_of_wake (h : Linear (Given g s) (holds g s)) {r : RequestId} {expires : Bool}
    (hm : Move g s (.wake r expires) t) : Linear (Given g t) (holds g t) := by
  cases hm with
  | again r hpc =>
      exact linear_update h rfl rfl (by rw [hpc]) (Or.inl rfl) (Or.inl rfl) rfl rfl rfl
  | answered r hpc hlock hrecvd =>
      exact linear_update h rfl rfl (by rw [hpc]; rfl) (Or.inl rfl)
        (Or.inr (not_handedOver_of_taken hlock rfl rfl rfl)) rfl rfl rfl
  | expired r hpc hlock =>
      exact linear_update h rfl rfl (by rw [hpc]; rfl) (Or.inl rfl)
        (Or.inr (not_handedOver_of_taken hlock rfl rfl rfl)) rfl rfl rfl

theorem linear_of_step (hs : PayloadInv g s) {l : Label} (hfree : FreesOnce g s l)
    (h : step g s l = some t) : Linear (Given g t) (holds g t) := by
  cases l with
  | request r => exact linear_of_request hs hfree (step_move h)
  | task => exact linear_of_task hs hfree (step_move h)
  | thread r => exact linear_of_thread hs hfree h
  | wake r expires => exact linear_of_wake hs.linear (step_move h)
  | init =>
      cases step_move h with
      | inited hcb =>
          refine linear_stay hs.linear (fun _ => Iff.rfl) rfl ?_ (fun _ => rfl) rfl rfl
          rw [keeps_of_none (hs.uninited hcb)]
          exact keeps_of_none rfl
      | initedBefore hcb => exact hs.linear
  -- A thread that could not be created leaves the payload where it is.
  | create created =>
      cases step_move h with
      | created r htask =>
          exact linear_update hs.linear rfl rfl (hs.tidy.msg_none (htask ▸ rfl)).symm
            (Or.inr ⟨rfl, by rw [htask]; rfl⟩) (Or.inl rfl) rfl rfl rfl
      | failed r htask =>
          exact linear_frame hs.linear (fun _ => rfl) (fun _ => rfl)
            (Or.inr ⟨rfl, by rw [htask]; rfl⟩) (Or.inl rfl) rfl rfl rfl
  | reset =>
      cases step_move h with
      | noReset htask => exact hs.linear
      | resetting p htask hcb hraw =>
          exact linear_frame hs.linear (fun _ => rfl) (fun _ => rfl)
            (Or.inr ⟨rfl, by rw [htask]; rfl⟩) (Or.inl rfl) rfl rfl rfl
  | inform =>
      cases step_move h with
      | informed msg rest htask hqueue => exact linear_informed hs.linear hqueue
  | respond q =>
      cases step_move h with
      | stored q p hpc hlock =>
          exact linear_frame hs.linear (fun _ => rfl) (fun _ => rfl) (Or.inl rfl) (Or.inl rfl) rfl
            rfl rfl
      | _ => exact hs.linear

/-! ## Runs -/

/-- The handler starts with a request it has just accepted. -/
theorem saving_of_move {l : Label} (hm : Move g s l t) {r : RequestId} (h : t.task = .saving r) :
    s.task = .saving r ∨ Accepts s l r := by
  cases hm with
  | accepted r' htask hnew hcb hraw =>
      cases h
      exact Or.inr ⟨rfl, htask, hcb, hraw⟩
  | saved r' htask => cases h
  | named r' htask => cases h
  | timed r' htask => cases h
  | created r' htask => cases h
  | failed r' htask => cases h
  | notified r' htask => cases h
  | resetting p htask hcb hraw => cases h
  | freed htask => cases h
  | cleared htask => cases h
  | woken htask hlock => cases h
  | _ => exact Or.inl h

theorem saving_none_of_move (hs : PayloadInv g s) {l : Label} (hm : Move g s l t) {r : RequestId}
    (h : t.task = .saving r) : t.ni_data.rawRequest = none := by
  rcases saving_of_move hm h with hold | hnew
  · cases hraw : t.ni_data.rawRequest with
    | none => rfl
    | some p =>
        rcases raw_of_move hm hraw with hbefore | ⟨_, hnaming⟩
        · rw [hs.saving r hold] at hbefore
          cases hbefore
        · rw [h] at hnaming
          cases hnaming
  · rw [(of_accepts hs.tidy hm hnew).2.1]
    exact hnew.free

theorem payloadInv_step {l : Label} (hs : PayloadInv g s) (hfree : FreesOnce g s l)
    (h : step g s l = some t) : PayloadInv g t := by
  have hm := step_move h
  exact ⟨move_tidy hs.tidy hm, raw_uninited hs.tidy hm hs.uninited,
    fun _ => saving_none_of_move hs hm, exclusive_of_move hs.tidy hs.lock hm,
    fun _ => answers_of_move hs hm, linear_of_step hs hfree h⟩

theorem zeroed_payloadInv : PayloadInv g State.zeroed := by
  refine ⟨zeroed_tidy, fun _ => rfl, (fun r h => by cases h), fun r => ?_, (fun r h => by cases h),
    ?_⟩
  · constructor <;> intro h <;> cases h
  · refine linear_empty (fun p h => ?_) fun place => ?_
    · cases h.1
    · cases place <;> rfl

/-- What is in no other place has been freed. -/
theorem freedOnce_of_payloadInv (hs : PayloadInv g s) : FreedOnce g s := by
  intro p
  refine ⟨count_le_one hs.linear .freed p, fun hgiven hdone => ?_⟩
  rcases exists_place hs.linear hgiven with ⟨place, hplace⟩
  have hmem : p ∈ holds g s place := List.count_pos_iff.mp (by omega)
  cases place with
  | handler =>
      refine absurd (Or.inl ?_) hdone
      have hsaves : s.task.saves g = some p := Option.mem_toList.mp hmem
      cases htask : s.task with
      | saving r =>
          rw [htask, Task.saves, Setup.passThrough] at hsaves
          split at hsaves
          · rw [Option.some.inj hsaves]
          · cases hsaves
      | _ => rw [htask] at hsaves; cases hsaves
  | rawRequest =>
      refine absurd (Or.inr (Or.inl ?_)) hdone
      have hkeeps : s.keeps = some p := Option.mem_toList.mp hmem
      unfold State.keeps at hkeeps
      split at hkeeps
      · cases hkeeps
      · exact hkeeps
  | thread r => exact absurd (Or.inr (Or.inr (Or.inl ⟨r, Option.mem_toList.mp hmem⟩))) hdone
  | queue => exact absurd (Or.inr (Or.inr (Or.inr (List.mem_filterMap.mp hmem)))) hdone
  | freed => exact hplace

/-- Over every schedule from before `loc_eng_ni_init` on in which no step meets
    what it must not: every payload is freed once. Any number of requests,
    responses and resets may be under way, and the handler and the destructor of
    the message free what is theirs. -/
theorem freedOnce_of_freesOnce (g : Setup) (ls : List Label)
    (h : Meets (step g) (FreesOnce g) State.zeroed ls) :
    Throughout (step g) (FreedOnce g) State.zeroed ls :=
  throughout_of_meets (fun _ => freedOnce_of_payloadInv) (fun _ _ _ => payloadInv_step)
    zeroed_payloadInv h

/-- Every request has a payload, and the first is given a response. -/
def Setup.responding (user_response : GpsUserResponseType) : Setup where
  notif := fun _ => { timeout := 0, passThrough := true }
  response := fun _ => { notif_id := 0, user_response := user_response }

/-- The handler takes a request, and its thread waits. -/
def waitingThread : List Label :=
  [.init, .request 0, .task, .task, .task, .create true, .task, .thread 0]

/-- It is accepted, while another one is refused. -/
def acceptedOnce : List Label :=
  waitingThread ++ [.request 1, .respond 0, .respond 0, .respond 0, .wake 0 false, .thread 0,
    .thread 0, .thread 0, .thread 0, .thread 0, .thread 0, .inform]

theorem acceptedOnce_freed :
    Throughout (step (.responding GPS_NI_RESPONSE_ACCEPT))
      (FreedOnce (.responding GPS_NI_RESPONSE_ACCEPT)) State.zeroed acceptedOnce :=
  freedOnce_of_freesOnce _ acceptedOnce (by decide +kernel)

/-- A thread that ignores a request loses its payload. -/
theorem lost_of_ignored (hs : PayloadInv g s) {r p : RequestId}
    (hpc : (s.requests r).thread = .clearing none) (hraw : s.ni_data.rawRequest = some p)
    (htask : s.task ≠ .clearing) : ¬ FreedOnce g (s.clearAndUnlock r none) := by
  have hover : ¬ HandedOver s :=
    not_handedOver_of_owner hs.lock (r := r) (by rw [hpc]; rfl) (by rw [hpc]; rfl)
  have hmem : p ∈ holds g s .rawRequest := by
    rw [holds, keeps_of_not htask hover, hraw]
    exact List.mem_singleton_self p
  -- A payload is at one place, and this one is in `rawRequest`.
  have helse : ∀ place, place ≠ .rawRequest → p ∉ holds g s place := fun place hne hin =>
    hne (place_unique hs.linear hin hmem)
  have hgiven : Given g (s.clearAndUnlock r none) p := by
    refine (given_iff ?_ p).mpr (given_of_mem hs.linear hmem)
    exact request_of_update (fun k => k.called) rfl rfl
  have hcarries : ∀ r', ((s.clearAndUnlock r none).requests r').thread.carries =
      (s.requests r').thread.carries :=
    request_of_update (fun k => k.thread.carries) rfl (by rw [hpc]; rfl)
  intro h
  -- Neither freed nor held by anyone once `rawRequest` is cleared.
  have honce := (h p).2 hgiven ?_
  · have honce : s.freed.count p = 1 := honce
    exact helse .freed (by simp) (List.count_pos_iff.mp (by simp [holds, honce]))
  · rintro (hsaving | hsome | ⟨r', hr'⟩ | ⟨msg, hmsg, hpayload⟩)
    · refine helse .handler (by simp) ?_
      have hsaving : s.task = .saving p := hsaving
      simp [holds, hsaving, Task.saves, Setup.passThrough, hgiven.2]
    · cases hsome
    · rw [hcarries] at hr'
      exact helse (.thread r') (by simp) (by simp [holds, hr'])
    · exact helse .queue (by simp) (List.mem_filterMap.mpr ⟨msg, hmsg, hpayload⟩)

/-- The first request is ignored, up to where its thread clears it. -/
def ignoredOnce : List Label :=
  waitingThread ++ [.respond 0, .respond 0, .respond 0, .wake 0 false, .thread 0, .thread 0]

/-- The engine restarts while the thread of the first request has its message
    built. -/
def restartedLate : List Label :=
  waitingThread ++ [.wake 0 true, .thread 0, .thread 0, .reset, .task, .thread 0, .thread 0,
    .thread 0, .thread 0, .task, .task, .inform]

/-- The one payload is lost, and the other is freed twice. -/
theorem lost_and_freed_twice :
    ¬ Throughout (step (.responding GPS_NI_RESPONSE_IGNORE))
      (FreedOnce (.responding GPS_NI_RESPONSE_IGNORE)) State.zeroed (ignoredOnce ++ [.thread 0]) ∧
    ¬ Throughout (step (.responding GPS_NI_RESPONSE_ACCEPT))
      (FreedOnce (.responding GPS_NI_RESPONSE_ACCEPT)) State.zeroed restartedLate := by
  constructor
  · intro h
    have hend : ∃ s, exec (step (.responding GPS_NI_RESPONSE_IGNORE)) State.zeroed ignoredOnce =
        some s ∧ (s.requests 0).thread = .clearing none ∧ s.ni_data.rawRequest = some 0 ∧
          s.task ≠ .clearing := ⟨_, rfl, by decide +kernel⟩
    rcases hend with ⟨s, hrun, hpc, hraw, htask⟩
    have hs : PayloadInv (.responding GPS_NI_RESPONSE_IGNORE) s :=
      invariant_of_meets (fun _ _ _ => payloadInv_step) zeroed_payloadInv (by decide +kernel) hrun
    refine lost_of_ignored hs hpc hraw htask (throughout_exec h ?_)
    rw [exec_append hrun]
    simp [exec, step, hpc]
  · intro h
    have hend : ∃ s, exec (step (.responding GPS_NI_RESPONSE_ACCEPT)) State.zeroed restartedLate =
        some s ∧ s.freed.count 0 = 2 := ⟨_, rfl, by decide +kernel⟩
    rcases hend with ⟨s, hrun, htwice⟩
    have honce := (throughout_exec h hrun 0).1
    omega

end Ni

end Victara
