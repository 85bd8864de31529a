import Victara.Ni.Moves

/-!
# Whether a Response Is Heard

The user answers with the id of the notification, and `loc_eng_ni_respond`
compares that with `reqID`. So while a request is outstanding its id should be
the one in `reqID`, and what the handler has set in `respTimeLeft` should still
be there when its thread reads it.

A thread that is done with its request clears `respTimeLeft` and counts
`reqID` up after it has given the request away and the lock. By then the next
request may have its id and its time. That is all that can go wrong.

## Main definitions

* `ThreadPc.waits`: The thread is not out of its wait loop.
* `ThreadPc.unread`: The thread has not read its time.
* `Outstanding`: The payload waits for an answer.
* `Timed`: The handler has set the time for request `r`, and its thread is to
  read it.
* `Heard`: A response to a request gets through.
* `FinishesFirst`: A thread is done before the next request relies on it.
* `HeardInv`: What holds besides.
* `Setup.unanswered`: Every request has a payload and the usual time, and nobody
  responds.
* `lateThread`: The thread of the first request has given it away when the
  second one gets its id and its time, and then takes both back.

## Theorems

* `early_of_move`: What is true of a thread up to some point of its wait loop
  was true of it before.
* `waits_of_move`, `name_of_move`, `reqID_of_move`, `time_of_move`: What a move
  makes of the shared data.
* `wakes`: A response with the right id wakes the thread.
* `inited_of_outstanding`: Before `loc_eng_ni_init` no request is outstanding.
* `unnamed_of_saved`: A request that is saved has no id yet.
* `heardInv_step`, `not_hears_of_late`: What each step keeps, and breaks.
* `Outstanding.ne_of_past`: A thread that has left its wait loop is not that of
  an outstanding request.
* `hears_iff`: The exact condition, over whole runs.
-/

namespace Victara

namespace Ni

open StepSystem

variable {g : Setup} {s t : State}

/-- The thread is not out of its wait loop. -/
def ThreadPc.waits : ThreadPc → Bool
  | .absent | .starting | .waiting => true
  | .testing | .building | .clearing _ | .finishing _ | .counting _ | .sending _ | .exited => false

/-- The thread has not read its time. -/
def ThreadPc.unread : ThreadPc → Bool
  | .absent | .starting => true
  | .waiting | .testing | .building | .clearing _ | .finishing _ | .counting _ | .sending _
  | .exited => false

/-- The payload of request `r` is in session, and its thread has not left its
    wait loop. -/
def Outstanding (s : State) (r : RequestId) : Prop :=
  s.ni_data.rawRequest = some r ∧ (s.requests r).thread.waits = true

instance (r : RequestId) : Decidable (Outstanding s r) := inferInstanceAs (Decidable (_ ∧ _))

/-- The handler has set the time for request `r`, and its thread is to read
    it. -/
def Timed (s : State) (r : RequestId) : Prop :=
  (s.requests r).notification_id ≠ none ∧ s.task ≠ .timing r ∧
    (s.requests r).thread.unread = true

/-- Request `r` has the id that responses are compared with, so that one with
    that id wakes its thread; and its time is there to be read. -/
structure Heard (g : Setup) (s : State) (r : RequestId) : Prop where
  named : ∀ n ∈ (s.requests r).notification_id, n = s.ni_data.reqID
  wakes : ∀ q, s.responds q = .idle → (s.requests r).notification_id = some (g.response q).notif_id →
    (s.requests r).thread = .waiting → s.tLock = none →
    ∃ t, exec (step g) s [.respond q, .respond q, .respond q, .wake r false] = some t ∧
      (t.requests r).thread = .testing ∧ t.ni_data.resp = (g.response q).user_response
  time : Timed s r → s.ni_data.respTimeLeft = g.respTime r

def Hears (g : Setup) (s : State) : Prop := ∀ r, Outstanding s r → Heard g s r

/-- A thread clears the time and counts before the next request has its time and
    its id, unless that is not outstanding any more. A time of zero is cleared
    without harm. `ni_thread_proc` has these two lines behind its unlock, when
    `rawRequest` has been cleared and the handler may take the next request. So
    the condition is about these two steps only. -/
def FinishesFirst (g : Setup) (s : State) : Label → Prop
  | .thread r' =>
      match (s.requests r').thread with
      | .finishing _ => ∀ r, Outstanding s r → Timed s r → g.respTime r = 0
      | .counting _ => ∀ r, Outstanding s r → (s.requests r).notification_id = none
      | _ => True
  | _ => True

/-! ## What a move makes of the shared data -/

theorem Next.not_waits {pc pc' : ThreadPc} (h : Next s pc pc') : pc'.waits = false := by
  cases h <;> rfl

/-- What is true of a thread up to some point of its wait loop was true of it
    before. -/
theorem early_of_move (hs : Tidy s) {l : Label} (hm : Move g s l t) {early : ThreadPc → Bool}
    (habsent : early .absent = true) (hstarting : early .starting = true)
    (hearly : ∀ pc, early pc = true → pc.waits = true) {r : RequestId}
    (h : early (t.requests r).thread = true) : early (s.requests r).thread = true := by
  have hr := requestMove_of_move hm r
  generalize t.requests r = k at hr h
  cases hr with
  | started pc hpc hnext => rw [hpc, hstarting]
  | woke pc hpc hnext =>
      rcases hnext with rfl | rfl
      · rw [hpc]
        exact h
      · cases hearly _ h
  | expired hpc => cases hearly _ h
  | went pc hnext =>
      have hlate := hnext.not_waits
      rw [hearly pc h] at hlate
      cases hlate
  | created htask hgo => rw [(hs.handling r (htask ▸ rfl)).2, habsent]
  | _ => exact h

/-- A thread does not come back to its wait loop. -/
theorem waits_of_move (hs : Tidy s) {l : Label} (hm : Move g s l t) {r : RequestId}
    (h : (t.requests r).thread.waits = true) : (s.requests r).thread.waits = true :=
  early_of_move hs hm rfl rfl (fun _ hwaits => hwaits) h

theorem unread_of_move (hs : Tidy s) {l : Label} (hm : Move g s l t) {r : RequestId}
    (h : (t.requests r).thread.unread = true) : (s.requests r).thread.unread = true := by
  refine early_of_move hs hm rfl rfl (fun pc hunread => ?_) h
  cases pc <;> first | rfl | cases hunread

theorem name_of_move {l : Label} (hm : Move g s l t) {r : RequestId} {n : Int32}
    (h : (t.requests r).notification_id = some n) :
    (s.requests r).notification_id = some n ∨
      (s.task = .naming r ∧ t.task = .timing r ∧ n = s.ni_data.reqID) := by
  have hr := requestMove_of_move hm r
  generalize t.requests r = k at hr h
  cases hr with
  | named htask hgo => exact Or.inr ⟨htask, hgo, (Option.some.inj h).symm⟩
  | _ => exact Or.inl h

/-- Who changes `reqID` is `loc_eng_ni_init`, or a thread that counts. -/
theorem reqID_of_move {l : Label} (hm : Move g s l t) :
    t.ni_data.reqID = s.ni_data.reqID ∨ s.ni_notify_cb = false ∨
      ∃ r msg, l = .thread r ∧ (s.requests r).thread = .counting msg ∧ t.task = s.task := by
  cases hm with
  | inited hcb => exact Or.inr (Or.inl hcb)
  | counted r msg hpc => exact Or.inr (Or.inr ⟨r, msg, rfl, hpc, rfl⟩)
  | _ => exact Or.inl rfl

/-- And `respTimeLeft`, besides, the handler. -/
theorem time_of_move {l : Label} (hm : Move g s l t) :
    (t.ni_data.respTimeLeft = s.ni_data.respTimeLeft ∧
        ∀ r, s.task = .timing r → t.task = .timing r) ∨
      s.ni_notify_cb = false ∨
      (∃ r, s.task = .timing r ∧ t.ni_data.respTimeLeft = g.respTime r) ∨
      ∃ r msg, l = .thread r ∧ (s.requests r).thread = .finishing msg ∧
        t.ni_data.respTimeLeft = 0 ∧ t.task = s.task := by
  cases hm with
  | inited hcb => exact Or.inr (Or.inl hcb)
  | timed r htask => exact Or.inr (Or.inr (Or.inl ⟨r, htask, rfl⟩))
  | timeCleared r msg hpc => exact Or.inr (Or.inr (Or.inr ⟨r, msg, rfl, hpc, rfl, rfl⟩))
  | _ => refine Or.inl ⟨rfl, fun r h => ?_⟩; simp_all

/-! ## A response -/

/-- A response with the right id wakes the thread that waits. -/
theorem wakes {q : RespondId} {r : RequestId} (hcb : s.ni_notify_cb = true)
    (hraw : s.ni_data.rawRequest = some r) (hidle : s.responds q = .idle)
    (hid : (g.response q).notif_id = s.ni_data.reqID)
    (hwait : (s.requests r).thread = .waiting) (hlock : s.tLock = none) :
    ∃ t, exec (step g) s [.respond q, .respond q, .respond q, .wake r false] = some t ∧
      (t.requests r).thread = .testing ∧ t.ni_data.resp = (g.response q).user_response := by
  have hmatched : step g s (.respond q) = some (s.setRespond q .matched) := by
    simp [step, hidle, State.respond, hcb, hid]
  have hstoring : step g (s.setRespond q .matched) (.respond q) =
      some ((s.setRespond q .matched).setRespond q (.storing r)) := by
    simp [step, State.testOutstanding, hraw]
  have hstored : step g ((s.setRespond q .matched).setRespond q (.storing r)) (.respond q) =
      some (((s.setRespond q .matched).setRespond q (.storing r)).storeResponse g q r) := by
    simp [step, hlock]
  rw [exec, hmatched, Option.bind_some, exec, hstoring, Option.bind_some, exec, hstored,
    Option.bind_some, exec]
  simp [step, hwait, hlock, State.wakeUp, State.testLoop, exec]

/-! ## What is left alone -/

/-- The request in session is the one the handler has, or the only one that is
    outstanding. The last two fields are the property, and the others say who
    could take it back. -/
structure HeardInv (g : Setup) (s : State) : Prop where
  tidy : Tidy s
  uninited : s.ni_notify_cb = false → s.ni_data.rawRequest = none
  handled : ∀ r p, s.task.handling = some r → s.ni_data.rawRequest = some p → p = r
  named : ∀ r, Outstanding s r → ∀ n ∈ (s.requests r).notification_id, n = s.ni_data.reqID
  time : ∀ r, Outstanding s r → Timed s r → s.ni_data.respTimeLeft = g.respTime r

theorem zeroed_heardInv : HeardInv g State.zeroed := by
  refine ⟨zeroed_tidy, fun _ => rfl, (fun r p h => by cases h), fun r h => ?_, fun r h => ?_⟩
  · cases h.1
  · cases h.1

theorem hears_of_heardInv (hs : HeardInv g s) : Hears g s := by
  intro r hr
  refine ⟨hs.named r hr, fun q hidle hname hwait hlock => ?_, hs.time r hr⟩
  have hcb : s.ni_notify_cb = true := by
    by_contra hno
    have hnone := hs.uninited (by simpa using hno)
    rw [hr.1] at hnone
    cases hnone
  exact wakes hcb hr.1 hidle (hs.named r hr _ hname) hwait hlock

theorem outstanding_of_move (hs : Tidy s) {l : Label} (hm : Move g s l t) {r : RequestId}
    (h : Outstanding t r) : Outstanding s r ∨ (s.task = .saving r ∧ t.task = .naming r) := by
  rcases raw_of_move hm h.1 with hraw | hnew
  · exact Or.inl ⟨hraw, waits_of_move hs hm h.2⟩
  · exact Or.inr hnew

section

variable (hs : HeardInv g s) {l : Label} (hm : Move g s l t)

include hs

/-- Before `loc_eng_ni_init` no request is outstanding. -/
theorem inited_of_outstanding {r : RequestId} (h : Outstanding s r) : s.ni_notify_cb ≠ false := by
  intro hcb
  have hnone := hs.uninited hcb
  rw [h.1] at hnone
  cases hnone

include hm

theorem handled_of_move {r p : RequestId} (htask : t.task.handling = some r)
    (hraw : t.ni_data.rawRequest = some p) : p = r := by
  rcases handling_of_move hm htask with hold | hnew
  · rcases raw_of_move hm hraw with hsame | ⟨hsaving, _⟩
    · exact hs.handled r p hold hsame
    · rw [hsaving] at hold
      exact Option.some.inj hold
  · rw [(of_accepts hs.tidy hm hnew).2.1, hnew.free] at hraw
    cases hraw

/-- A request that is saved has no id yet. -/
theorem unnamed_of_saved {r : RequestId} (hsaving : s.task = .saving r) :
    (t.requests r).notification_id = none := by
  cases hname : (t.requests r).notification_id with
  | none => rfl
  | some n =>
      rcases name_of_move hm hname with hold | ⟨hnaming, _⟩
      · rw [hs.tidy.unnamed r (Or.inl hsaving)] at hold
        cases hold
      · rw [hsaving] at hnaming
        cases hnaming

theorem named_of_move (hfirst : FinishesFirst g s l) {r : RequestId} (h : Outstanding t r)
    {n : Int32} (hn : (t.requests r).notification_id = some n) : n = t.ni_data.reqID := by
  rcases outstanding_of_move hs.tidy hm h with hold | ⟨hsaving, _⟩
  · have hbefore : n = s.ni_data.reqID := by
      rcases name_of_move hm hn with hname | ⟨_, _, hnew⟩
      · exact hs.named r hold n hname
      · exact hnew
    rcases reqID_of_move hm with hsame | hcb | ⟨r', msg, rfl, hpc, htask⟩
    · rw [hbefore, hsame]
    · exact absurd hcb (inited_of_outstanding hs hold)
    · -- The thread counts before the request has its id.
      rw [FinishesFirst, hpc] at hfirst
      rcases name_of_move hm hn with hname | ⟨hnaming, htiming, _⟩
      · rw [hfirst r hold] at hname
        cases hname
      · rw [htiming, hnaming] at htask
        cases htask
  · rw [unnamed_of_saved hs hm hsaving] at hn
    cases hn

theorem timed_of_move (hfirst : FinishesFirst g s l) {r : RequestId} (h : Outstanding t r)
    (htimed : Timed t r) : t.ni_data.respTimeLeft = g.respTime r := by
  rcases htimed with ⟨hname, htiming, hunread⟩
  rcases outstanding_of_move hs.tidy hm h with hold | ⟨hsaving, _⟩
  · have hunread := unread_of_move hs.tidy hm hunread
    have hname : (s.requests r).notification_id ≠ none := by
      rcases Option.ne_none_iff_exists'.mp hname with ⟨n, hn⟩
      rcases name_of_move hm hn with hbefore | ⟨_, hnow, _⟩
      · simp [hbefore]
      · exact absurd hnow htiming
    rcases time_of_move hm with ⟨hsame, hstays⟩ | hcb | ⟨r', htask, hset⟩ |
      ⟨r', msg, rfl, hpc, hzero, htask⟩
    · rw [hsame]
      exact hs.time r hold ⟨hname, fun hno => htiming (hstays r hno), hunread⟩
    · exact absurd hcb (inited_of_outstanding hs hold)
    · -- The time that is set is the one of the request in session.
      rw [hset, hs.handled r' r (htask ▸ rfl) hold.1]
    · rw [FinishesFirst, hpc] at hfirst
      rw [hzero, hfirst r hold ⟨hname, htask ▸ htiming, hunread⟩]
  · exact absurd (unnamed_of_saved hs hm hsaving) hname

end

/-! ## Runs -/

theorem heardInv_step {l : Label} (hs : HeardInv g s) (hfirst : FinishesFirst g s l)
    (h : step g s l = some t) : HeardInv g t := by
  have hm := step_move h
  exact ⟨move_tidy hs.tidy hm, raw_uninited hs.tidy hm hs.uninited,
    fun _ _ => handled_of_move hs hm, fun _ hr _ hn => named_of_move hs hm hfirst hr hn,
    fun _ => timed_of_move hs hm hfirst⟩

/-- A thread that has left its wait loop is not that of an outstanding
    request. -/
theorem Outstanding.ne_of_past {r r' : RequestId} (h : Outstanding s r)
    (hpast : (s.requests r').thread.waits = false) : r ≠ r' := by
  rintro rfl
  rw [h.2] at hpast
  cases hpast

/-- A thread that is late takes the id or the time of another request. -/
theorem not_hears_of_late {l : Label} (hs : HeardInv g s) (hlate : ¬ FinishesFirst g s l) :
    ∃ t, step g s l = some t ∧ ¬ Hears g t := by
  cases l with
  | thread r' =>
      cases hpc : (s.requests r').thread with
      | finishing msg =>
          simp only [FinishesFirst, hpc, not_forall] at hlate
          rcases hlate with ⟨r, hr, htimed, hne⟩
          -- The late thread clears the time, which is another request's by now.
          have hother : r ≠ r' := hr.ne_of_past (by rw [hpc]; rfl)
          have hsame : (s.clearTime r' msg).requests r = s.requests r :=
            Function.update_of_ne hother _ _
          refine ⟨s.clearTime r' msg, by simp [step, hpc], fun h => hne ?_⟩
          refine ((h r ⟨hr.1, ?_⟩).time ⟨?_, htimed.2.1, ?_⟩).symm
          · rw [hsame]
            exact hr.2
          · rw [hsame]
            exact htimed.1
          · rw [hsame]
            exact htimed.2.2
      | counting msg =>
          simp only [FinishesFirst, hpc, not_forall] at hlate
          rcases hlate with ⟨r, hr, hname⟩
          rcases Option.ne_none_iff_exists'.mp hname with ⟨n, hn⟩
          -- It counts the id up, though another request has been given it.
          have hother : r ≠ r' := hr.ne_of_past (by rw [hpc]; rfl)
          have hsame : (s.count r' msg).requests r = s.requests r :=
            Function.update_of_ne hother _ _
          refine ⟨s.count r' msg, by simp [step, hpc], fun h => ?_⟩
          have hnow : n = s.ni_data.reqID + 1 := by
            refine (h r ⟨hr.1, ?_⟩).named n ?_
            · rw [hsame]
              exact hr.2
            · rw [hsame]
              exact hn
          rw [hs.named r hr n hn] at hnow
          simp at hnow
      | _ => simp [FinishesFirst, hpc] at hlate
  | _ => exact absurd trivial hlate

/-- Over every schedule from before `loc_eng_ni_init` on: every request that is
    outstanding can be answered, and has its time, just when every thread
    finishes before the next request relies on what it takes back. -/
theorem hears_iff (g : Setup) (ls : List Label) :
    Throughout (step g) (Hears g) State.zeroed ls ↔
      Meets (step g) (FinishesFirst g) State.zeroed ls :=
  throughout_iff_meets (fun _ => hears_of_heardInv) (fun _ _ _ => heardInv_step)
    (fun _ _ => not_hears_of_late) zeroed_heardInv

/-- Every request has a payload and the usual time, and nobody responds. -/
def Setup.unanswered : Setup where
  notif := fun _ => { timeout := 0, passThrough := true }
  response := fun _ => { notif_id := 0, user_response := GPS_NI_RESPONSE_ACCEPT }

/-- The thread of the first request has given it away when the second one gets
    its id and its time, and then takes both back. -/
def lateThread : List Label :=
  [.init, .request 0, .task, .task, .task, .create true, .task, .thread 0, .wake 0 true, .thread 0,
    .thread 0, .thread 0, .request 1, .task, .task, .task, .create true, .task, .thread 0,
    .thread 0]

/-- Nobody can answer the second request any more, and its thread does not
    wait for it. -/
theorem late_thread_unhears :
    Label.reset ∉ lateThread ∧
      ¬ Throughout (step .unanswered) (Hears .unanswered) State.zeroed lateThread := by
  refine ⟨by decide, fun hears => ?_⟩
  have hend : ∃ t, exec (step .unanswered) State.zeroed lateThread = some t ∧ Outstanding t 1 ∧
      (t.requests 1).notification_id = some 0 ∧ t.ni_data.reqID = 1 := ⟨_, rfl, by decide +kernel⟩
  rcases hend with ⟨t, hrun, hout, hname, hid⟩
  have hsame := (throughout_exec hears hrun 1 hout).named 0 hname
  rw [hid] at hsame
  cases hsame

end Ni

end Victara
