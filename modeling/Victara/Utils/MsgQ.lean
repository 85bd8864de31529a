import Victara.Utils.ListRefines

/-!
# The Message Queue

`msg_q.c`: any number of callers in `msg_q_snd` and `msg_q_rcv`, and
`msg_q_unblock`. A step is what happens under one acquisition of `list_mutex`.
A receiver that waits on `list_cond` may go on at any time, whether it was
signalled or not, and with it several receivers that one message has woken; the
signals themselves need no part in the state.

The messages are in the list of `linked_list.c`, on its cells. `msg_q_snd` adds
at the head and `msg_q_rcv` removes at the tail, so what is in the list from
its tail on is what has been accepted and not been received yet.

The queue keeps the returns of all calls in the order in which they left the
mutex. Nobody in the program reads that.

## Main definitions

* `MsgQErr`: `msq_q_err_type`.
* `convertLinkedListErrType`: `convert_linked_list_err_type`.
* `RcvId`: A call of `msg_q_rcv`.
* `MsgQEvent`: The return of a call, with the message it brought or received.
* `MsgQ`: The queue, and where its receivers are.
* `init`: `msg_q_init`.
* `MsgQ.msgQSnd`, `MsgQ.msgQRcv`, `MsgQ.receive`, `MsgQ.msgQUnblock`: The steps.
* `rcvReturns`: Receiver `c` returns.
* `Label`: The calls, and the end of a wait.
* `Mallocs`: `malloc` returns no address that is in use.
* `accepted`: The message of a send that was accepted.
* `received`: The message of a receive that succeeded.
* `Closed`: Nothing is accepted after the queue was unblocked.
* `LossFree`: The queue is a loss-free FIFO.
* `MsgQInv`: What is in the list.
* `Enabled`: The receiver of a label is where the label begins.
* `twoReceivers`: Two receivers wait, both are woken by one message, and one of
  them waits on until the queue is unblocked.

## Theorems

* `msgQInv_note`: A call that fails leaves everything as it is.
* `msgQInv_rcvs`: Where a receiver is does not matter.
* `msgQSnd_spec`: A message that is accepted goes to the head of the list.
* `receive_spec`: A message that is received comes from the tail of the list.
* `step_runs`: No call is stuck, or touches a cell that is not there.
* `msgQInv_step`: What every step keeps.
* `msgQ_lossFree`: The queue is loss-free in every run.
-/

namespace Victara

open StepSystem

/-- `msq_q_err_type`. -/
inductive MsgQErr
  | success | failureGeneral | invalidParameter | invalidHandle | unavailableResource
  | insufficientBuffer
  deriving DecidableEq, Repr

/-- `convert_linked_list_err_type`. -/
def convertLinkedListErrType : LinkedListErr → MsgQErr
  | .success => .success
  | .invalidParameter => .invalidParameter
  | .invalidHandle => .invalidHandle
  | .unavailableResource => .unavailableResource
  | .insufficientBuffer => .insufficientBuffer
  | .failureGeneral => .failureGeneral

/-- A call of `msg_q_rcv`. -/
abbrev RcvId := Nat

inductive RcvPc
  | idle | waiting | returned
  deriving DecidableEq, Repr

/-- The return of a call, with the message it brought or received. -/
inductive MsgQEvent (V : Type)
  | snd (msg_obj : Option V) (rv : MsgQErr)
  | rcv (rv : MsgQErr) (msg_obj : Option V)
  | unblock (rv : MsgQErr)
  deriving DecidableEq, Repr

/-- `msg_q`. -/
structure MsgQ (F V : Type) where
  msg_list : Mem Unit F V
  unblocked : Bool
  rcvs : RcvId → RcvPc
  log : List (MsgQEvent V)

variable {F V : Type}

namespace MsgQ

/-- `msg_q_init`. -/
def init : MsgQ F V where
  msg_list := Mem.init ()
  unblocked := false
  rcvs := fun _ => .idle
  log := []

def note (q : MsgQ F V) (e : MsgQEvent V) : MsgQ F V := { q with log := q.log ++ [e] }

/-- `msg_q_snd`; `malloc` in `linked_list_add` returns `addr`. -/
def msgQSnd (q : MsgQ F V) (addr : Option Addr) (msg_obj : Option V) (dealloc : Option F) :
    Option (MsgQ F V) :=
  if msg_obj.isNone then some (q.note (.snd msg_obj .invalidParameter))
  else if q.unblocked then some (q.note (.snd msg_obj .unavailableResource))
  else (q.msg_list.linkedListAdd addr msg_obj dealloc).map fun r =>
    { q with msg_list := r.1 }.note (.snd msg_obj (convertLinkedListErrType r.2))

/-- Receiver `c` returns. -/
def rcvReturns (q : MsgQ F V) (c : RcvId) (rv : MsgQErr) (msg_obj : Option V) : MsgQ F V :=
  { q with rcvs := Function.update q.rcvs c .returned }.note (.rcv rv msg_obj)

/-- The test of the wait loop in `msg_q_rcv`, and what comes after the loop. -/
def receive (q : MsgQ F V) (c : RcvId) : Option (MsgQ F V) :=
  if q.msg_list.linkedListEmpty && !q.unblocked then
    some { q with rcvs := Function.update q.rcvs c .waiting }
  else (q.msg_list.linkedListRemove true).map fun r =>
    { q with msg_list := r.1 }.rcvReturns c (convertLinkedListErrType r.2.1) r.2.2

/-- `msg_q_rcv` up to the wait; `msg_obj` says whether there is a place for the
    message. -/
def msgQRcv (q : MsgQ F V) (c : RcvId) (msg_obj : Bool) : Option (MsgQ F V) :=
  if !msg_obj then some (q.rcvReturns c .invalidParameter none)
  else if q.unblocked then some (q.rcvReturns c .unavailableResource none)
  else q.receive c

def msgQUnblock (q : MsgQ F V) : MsgQ F V :=
  if q.unblocked then q.note (.unblock .unavailableResource)
  else { q with unblocked := true }.note (.unblock .success)

/-- The calls, and the end of a wait. -/
inductive Label (F V : Type)
  | snd (addr : Option Addr) (msg_obj : Option V) (dealloc : Option F)
  | rcv (c : RcvId) (msg_obj : Bool)
  | wake (c : RcvId)
  | unblock

def step (q : MsgQ F V) : Label F V → Option (MsgQ F V)
  | .snd addr msg_obj dealloc => q.msgQSnd addr msg_obj dealloc
  | .rcv c msg_obj => if q.rcvs c = .idle then q.msgQRcv c msg_obj else none
  | .wake c => if q.rcvs c = .waiting then q.receive c else none
  | .unblock => some q.msgQUnblock

/-- `malloc` returns no address that is in use. -/
def Mallocs (q : MsgQ F V) : Label F V → Prop
  | .snd (some addr) _ _ => (q.msg_list.heap addr).isNone = true
  | .snd none _ _ | .rcv _ _ | .wake _ | .unblock => True

instance (q : MsgQ F V) : DecidablePred (Mallocs q)
  | .snd (some addr) _ _ => inferInstanceAs (Decidable ((q.msg_list.heap addr).isNone = true))
  | .snd none _ _ | .rcv _ _ | .wake _ | .unblock => isTrue trivial

/-! ## What the calls have returned -/

def rv : MsgQEvent V → MsgQErr
  | .snd _ rv | .rcv rv _ | .unblock rv => rv

/-- The message of a send that was accepted. -/
def accepted : MsgQEvent V → Option V
  | .snd msg_obj .success => msg_obj
  | _ => none

/-- The message of a receive that succeeded. -/
def received : MsgQEvent V → Option V
  | .rcv .success msg_obj => msg_obj
  | _ => none

/-- Nothing is accepted after the queue was unblocked. -/
def Closed (log : List (MsgQEvent V)) : Prop :=
  ∀ before after, log = before ++ .unblock .success :: after →
    ∀ msg_obj, .snd msg_obj .success ∉ after

/-- What was received is what was accepted first, in the same order; a receive
    succeeds only with a message that was accepted; and nothing is accepted
    after the queue was unblocked. -/
structure LossFree (q : MsgQ F V) : Prop where
  fifo : q.log.filterMap received <+: q.log.filterMap accepted
  sent : ∀ msg_obj, .rcv .success msg_obj ∈ q.log →
    ∃ msg ∈ q.log.filterMap accepted, msg_obj = some msg
  closed : Closed q.log

/-- The list has, from its tail on, what was accepted and is not received. All
    else is about the log: a success has a message with it, nothing is accepted
    after an unblock, and before one there is none in the log. -/
structure MsgQInv (q : MsgQ F V) : Prop where
  repr : ∃ xs a, Represents q.msg_list xs a ∧ q.log.filterMap accepted =
    q.log.filterMap received ++ (a.elems.map Prod.fst).reverse
  sent : ∀ msg_obj, .rcv .success msg_obj ∈ q.log →
    ∃ msg ∈ q.log.filterMap accepted, msg_obj = some msg
  closed : Closed q.log
  unblocked : q.unblocked = false → .unblock .success ∉ q.log

theorem init_msgQInv : MsgQInv (init : MsgQ F V) := by
  refine ⟨⟨[], ListSpec.init (), init_represents (), rfl⟩, fun _ h => absurd h List.not_mem_nil,
    fun before after h => ?_, fun _ => List.not_mem_nil⟩
  exact absurd h.symm (List.append_ne_nil_of_right_ne_nil _ (List.cons_ne_nil _ _))

theorem lossFree_of_msgQInv {q : MsgQ F V} (hq : MsgQInv q) : LossFree q := by
  rcases hq.repr with ⟨xs, a, _, haccepted⟩
  exact ⟨⟨_, haccepted.symm⟩, hq.sent, hq.closed⟩

theorem closed_append {log : List (MsgQEvent V)} {e : MsgQEvent V} (h : Closed log)
    (he : ∀ msg_obj, e = .snd msg_obj .success → .unblock .success ∉ log) :
    Closed (log ++ [e]) := by
  intro before after heq msg_obj hmem
  rcases List.eq_nil_or_concat after with rfl | ⟨middle, last, rfl⟩
  · cases hmem
  · rw [List.concat_eq_append, ← List.cons_append, ← List.append_assoc] at heq
    rw [List.concat_eq_append, List.mem_append, List.mem_singleton] at hmem
    rcases List.append_inj' heq rfl with ⟨hlog, hlast⟩
    cases hlast
    rcases hmem with hmem | hmem
    · exact h before middle hlog msg_obj hmem
    · exact he msg_obj hmem.symm (by rw [hlog]; simp)

/-! ## Steps -/

variable {q : MsgQ F V}

theorem accepted_of_rv {e : MsgQEvent V} (h : rv e ≠ .success) : accepted e = none := by
  cases e with
  | snd msg_obj rv => cases rv <;> first | rfl | exact absurd rfl h
  | _ => rfl

theorem received_of_rv {e : MsgQEvent V} (h : rv e ≠ .success) : received e = none := by
  cases e with
  | rcv rv msg_obj => cases rv <;> first | rfl | exact absurd rfl h
  | _ => rfl

/-- A call that fails leaves everything as it is. -/
theorem msgQInv_note (hq : MsgQInv q) {e : MsgQEvent V} (he : rv e ≠ .success) :
    MsgQInv (q.note e) := by
  have hacc : (q.note e).log.filterMap accepted = q.log.filterMap accepted := by
    simp [note, accepted_of_rv he]
  rcases hq.repr with ⟨xs, a, hrepr, hlist⟩
  refine ⟨⟨xs, a, hrepr, ?_⟩, fun msg_obj hmem => ?_,
    closed_append hq.closed fun msg_obj heq => absurd (congrArg rv heq) he, fun hno hmem => ?_⟩
  · rw [hacc, hlist]
    simp [note, received_of_rv he]
  · rw [hacc]
    rcases List.mem_append.mp hmem with hold | hnew
    · exact hq.sent msg_obj hold
    · exact absurd (congrArg rv (List.mem_singleton.mp hnew).symm) he
  · rcases List.mem_append.mp hmem with hold | hnew
    · exact hq.unblocked hno hold
    · exact absurd (congrArg rv (List.mem_singleton.mp hnew).symm) he

/-- Where a receiver is does not matter. -/
theorem msgQInv_rcvs (hq : MsgQInv q) (rcvs : RcvId → RcvPc) :
    MsgQInv { q with rcvs := rcvs } := ⟨hq.repr, hq.sent, hq.closed, hq.unblocked⟩

/-- A message that is accepted goes to the head of the list. -/
theorem msgQSnd_spec (hq : MsgQInv q) {addr : Option Addr} {msg_obj : Option V}
    {dealloc : Option F} (hmalloc : Mallocs q (.snd addr msg_obj dealloc)) :
    ∃ t, q.msgQSnd addr msg_obj dealloc = some t ∧ MsgQInv t := by
  cases msg_obj with
  | none => exact ⟨_, rfl, msgQInv_note hq (by simp [rv])⟩
  | some msg =>
      -- A queue that is unblocked takes nothing, and without memory nothing is added.
      cases hopen : q.unblocked with
      | true =>
          refine ⟨q.note (.snd (some msg) .unavailableResource), ?_, msgQInv_note hq (by simp [rv])⟩
          simp [msgQSnd, hopen]
      | false =>
          cases addr with
          | none =>
              refine ⟨q.note (.snd (some msg) .failureGeneral), ?_, msgQInv_note hq (by simp [rv])⟩
              simp [msgQSnd, hopen, Mem.linkedListAdd, convertLinkedListErrType, note]
          | some addr =>
              -- The list stands for what was accepted and not received, and gets one more at its
              -- end.
              rcases hq.repr with ⟨xs, a, hrepr, hlist⟩
              rcases add_spec hrepr (Option.isNone_iff_eq_none.mp hmalloc) msg dealloc with
                ⟨m', hrun, hadded⟩
              refine ⟨{ q with msg_list := m' }.note (.snd (some msg) .success), ?_,
                ⟨⟨_, _, hadded, ?_⟩, fun msg_obj hmem => ?_,
                  closed_append hq.closed fun _ _ => hq.unblocked hopen, fun hno hmem => ?_⟩⟩
              · simp [msgQSnd, hopen, hrun, convertLinkedListErrType]
              · simp [note, hlist, accepted, received, linkedListAdd]
              · rcases List.mem_append.mp hmem with hold | hnew
                · rcases hq.sent msg_obj hold with ⟨msg', hmem', heq⟩
                  exact ⟨msg', by simp [note, hmem'], heq⟩
                · cases List.mem_singleton.mp hnew
              · rcases List.mem_append.mp hmem with hold | hnew
                · exact hq.unblocked hno hold
                · cases List.mem_singleton.mp hnew

theorem linkedListEmpty_of_represents {m : Mem Unit F V} {xs : List (Addr × V × Option F)}
    {a : ListSpec Unit F V} (h : Represents m xs a) : m.linkedListEmpty = xs.isEmpty := by
  cases hhead : m.list.p_head with
  | none =>
      have hpiece := h.piece
      rw [hhead] at hpiece
      simp [Mem.linkedListEmpty, hhead, Linked.seg_first_none hpiece]
  | some b =>
      have hpiece := h.piece
      rw [hhead] at hpiece
      rcases Linked.seg_first hpiece with ⟨ys, d, rfl⟩
      simp [Mem.linkedListEmpty, hhead]

/-- A message that is received comes from the tail of the list. -/
theorem receive_spec (hq : MsgQInv q) (c : RcvId) : ∃ t, q.receive c = some t ∧ MsgQInv t := by
  rcases hq.repr with ⟨xs, a, hrepr, hlist⟩
  have hempty := linkedListEmpty_of_represents hrepr
  rcases List.eq_nil_or_concat xs with rfl | ⟨ys, ⟨b, d⟩, rfl⟩
  · cases hopen : q.unblocked with
    | false =>
        refine ⟨{ q with rcvs := Function.update q.rcvs c .waiting }, ?_, msgQInv_rcvs hq _⟩
        simp [receive, hempty, hopen]
    | true =>
        have htail : q.msg_list.list.p_tail = none := hrepr.empty_iff.mpr hrepr.elems.symm
        refine ⟨q.rcvReturns c .unavailableResource none, ?_,
          msgQInv_note (msgQInv_rcvs hq _) (by simp [rv])⟩
        simp [receive, hopen, Mem.linkedListRemove, htail, convertLinkedListErrType, rcvReturns]
  · rw [List.concat_eq_append] at hrepr hempty
    rcases remove_spec hrepr with ⟨m', hrun, hremoved⟩
    -- The tail is the oldest message, as they are added at the head.
    have hlast : (a.elems.map Prod.fst).reverse =
        d.1 :: (a.elems.dropLast.map Prod.fst).reverse := by
      simp [← hrepr.elems]
    have hacc : (({ q with msg_list := m' } : MsgQ F V).rcvReturns c .success (some d.1)).log.filterMap
        accepted = q.log.filterMap accepted := by
      simp [rcvReturns, note, accepted]
    refine ⟨{ q with msg_list := m' }.rcvReturns c .success (some d.1), ?_,
      ⟨⟨_, _, hremoved, ?_⟩, fun msg_obj hmem => ?_, closed_append hq.closed (fun _ h => by cases h),
        fun hno hmem => ?_⟩⟩
    · simp [receive, hempty, hrun, convertLinkedListErrType]
    · rw [hacc, hlist, hlast]
      simp [rcvReturns, note, received]
    · rw [hacc]
      rcases List.mem_append.mp hmem with hold | hnew
      · exact hq.sent msg_obj hold
      · cases List.mem_singleton.mp hnew
        exact ⟨d.1, by rw [hlist, hlast]; simp, rfl⟩
    · rcases List.mem_append.mp hmem with hold | hnew
      · exact hq.unblocked hno hold
      · cases List.mem_singleton.mp hnew

theorem msgQUnblock_spec (hq : MsgQInv q) : MsgQInv q.msgQUnblock := by
  unfold msgQUnblock
  split
  · exact msgQInv_note hq (by simp [rv])
  · have hacc : ({ q with unblocked := true }.note (.unblock .success)).log.filterMap accepted =
        q.log.filterMap accepted := by
      simp [note, accepted]
    rcases hq.repr with ⟨xs, a, hrepr, hlist⟩
    refine ⟨⟨xs, a, hrepr, ?_⟩, fun msg_obj hmem => ?_, closed_append hq.closed (fun _ h => by cases h),
      fun hno => by cases hno⟩
    · rw [hacc, hlist]
      simp [note, received]
    · rw [hacc]
      rcases List.mem_append.mp hmem with hold | hnew
      · exact hq.sent msg_obj hold
      · cases List.mem_singleton.mp hnew

/-- The receiver of a label is where the label begins. -/
def Enabled (q : MsgQ F V) : Label F V → Prop
  | .rcv c _ => q.rcvs c = .idle
  | .wake c => q.rcvs c = .waiting
  | .snd _ _ _ | .unblock => True

/-- No call is stuck, nor touches a cell that is not there. -/
theorem step_runs (hq : MsgQInv q) {l : Label F V} (hmalloc : Mallocs q l) (henabled : Enabled q l) :
    ∃ t, q.step l = some t ∧ MsgQInv t := by
  cases l with
  | snd addr msg_obj dealloc => exact msgQSnd_spec hq hmalloc
  | unblock => exact ⟨_, rfl, msgQUnblock_spec hq⟩
  | wake c =>
      have hwaiting : q.rcvs c = .waiting := henabled
      rw [step, if_pos hwaiting]
      exact receive_spec hq c
  | rcv c msg_obj =>
      have hidle : q.rcvs c = .idle := henabled
      rw [step, if_pos hidle]
      have hreturned (e : MsgQErr) (he : e ≠ .success) : MsgQInv (q.rcvReturns c e none) :=
        msgQInv_note (msgQInv_rcvs hq _) he
      cases msg_obj with
      | false => exact ⟨_, rfl, hreturned .invalidParameter (by decide)⟩
      | true =>
          cases hopen : q.unblocked with
          | true =>
              refine ⟨_, ?_, hreturned .unavailableResource (by decide)⟩
              simp [msgQRcv, hopen]
          | false =>
              rcases receive_spec hq c with ⟨t, hrun, ht⟩
              refine ⟨t, ?_, ht⟩
              simpa [msgQRcv, hopen] using hrun

theorem msgQInv_step {t : MsgQ F V} {l : Label F V} (hq : MsgQInv q) (hmalloc : Mallocs q l)
    (h : q.step l = some t) : MsgQInv t := by
  have henabled : Enabled q l := by
    cases l with
    | rcv c msg_obj =>
        by_contra hno
        have hidle : ¬ q.rcvs c = .idle := hno
        rw [step, if_neg hidle] at h
        cases h
    | wake c =>
        by_contra hno
        have hwaiting : ¬ q.rcvs c = .waiting := hno
        rw [step, if_neg hwaiting] at h
        cases h
    | _ => trivial
  rcases step_runs hq hmalloc henabled with ⟨u, hu, hinv⟩
  rw [hu] at h
  cases h
  exact hinv

/-- Over every interleaving of any number of calls, with wake-ups at any time:
    what is received was accepted, in the same order and without gaps, and
    nothing is accepted once the queue is unblocked. That `malloc` returns no
    address in use is the only assumption, and it is that of the list below. -/
theorem msgQ_lossFree (ls : List (Label F V)) (hls : Meets step Mallocs init ls) :
    Throughout step LossFree (init : MsgQ F V) ls :=
  throughout_of_meets (fun _ => lossFree_of_msgQInv) (fun _ _ _ => msgQInv_step) init_msgQInv hls

/-- Two receivers wait, both are woken by one message, and one of them waits
    on until the queue is unblocked. -/
def twoReceivers : List (Label Nat Nat) :=
  [.rcv 0 true, .rcv 1 true, .wake 0, .snd (some 1) (some 10) none, .snd (some 2) (some 20) none,
    .wake 1, .wake 0, .rcv 2 true, .unblock, .wake 2, .snd (some 1) (some 30) none]

theorem twoReceivers_lossFree : Throughout step LossFree (init : MsgQ Nat Nat) twoReceivers :=
  msgQ_lossFree twoReceivers (by decide)

end MsgQ

end Victara
