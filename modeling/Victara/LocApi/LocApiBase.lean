import Mathlib.Data.List.Basic
import Victara.LocApi.LocApiV02
import Victara.Lib.StepSystem

/-!
# The Adapters of a Location Client

`LocApiBase.cpp`: the client of the modem is shared by up to ten adapters, each
of which has a mask of events it wants. Adapters come and go on their own
threads. The client is opened, and given more events, by messages to the
message thread; it is closed by `removeAdapter` itself when the last adapter
goes.

A call is several steps. `addAdapter` writes a slot and then sends a message.
`removeAdapter` empties a slot, moves the last adapter there, and then closes
the client or sends a message. While a slot is empty, whoever walks the slots
stops there. Calls come one after another, the message thread processes its
messages in between, and after a restart of the modem there is a message that
opens the client anew at any time.

## Main definitions

* `LocApiMsg`: The messages.
* `CallPc`, `LocApiBase`: The state.
* `LocApiLabel`: `ok` says whether the modem does what a message asks it for.
* `shiftUp`: The last adapter goes into slot `i`.
* `visible`: The adapters that come before an empty slot.
* `addAdapter`, `removeAdapter`, `finish`, `proc`: What happens.
* `process`: `proc` of a message, in the message thread.
* `step`: The steps.

## Theorems

* `mem_of_mem_shiftUp`, `mem_shiftUp`: Who is left when a slot is emptied.
-/

namespace Victara

namespace LocApi

open Mask

abbrev AdapterId := Nat

def MAX_ADAPTERS : Nat := 10

/-- `LocOpenMsg`, and `LocSsrMsg` after a restart of the modem. -/
inductive LocApiMsg
  | openMsg (mMask : EventMask)
  | ssrMsg
  deriving DecidableEq

/-- Between two calls; a slot is written and the message to be sent; the slot
    `i` is empty; and the slots are in order again. -/
inductive CallPc
  | idle
  | adding (adapter : AdapterId)
  | shifting (i : Nat)
  | shifted
  deriving DecidableEq, Repr

/-- `mLocAdapters` has the adapters in the slots, without the one that is being
    removed. `allOk` says that no request to the modem failed. -/
structure LocApiBase where
  mLocAdapters : List AdapterId
  call : CallPc
  queue : List LocApiMsg
  client : LocApiV02
  allOk : Bool

/-- `ok` says whether the modem does what a message asks it for. -/
inductive LocApiLabel
  | addAdapter (adapter : AdapterId)
  | removeAdapter (adapter : AdapterId)
  | call
  | engineUp
  | proc (ok : Bool)
  deriving DecidableEq, Repr

/-- The last adapter goes into slot `i`. -/
def shiftUp (mLocAdapters : List AdapterId) (i : Nat) : List AdapterId :=
  match mLocAdapters.getLast? with
  | some last => (mLocAdapters.set i last).dropLast
  | none => []

namespace LocApiBase

def init (batchedBreachReport mExcludedMask : EventMask) : LocApiBase where
  mLocAdapters := []
  call := .idle
  queue := []
  client := .new batchedBreachReport mExcludedMask
  allOk := true

variable (evtMask : AdapterId → EventMask)

/-- The adapters that come before an empty slot. -/
def visible (s : LocApiBase) : List AdapterId :=
  match s.call with
  | .shifting i => s.mLocAdapters.take i
  | _ => s.mLocAdapters

def getEvtMask (s : LocApiBase) : EventMask :=
  union (s.visible.map evtMask) &&& ~~~s.client.mExcludedMask

def sendMsg (s : LocApiBase) (msg : LocApiMsg) : LocApiBase := { s with queue := s.queue ++ [msg] }

/-- An adapter that is there already, or has no slot left, is not added. -/
def addAdapter (s : LocApiBase) (adapter : AdapterId) : LocApiBase :=
  if adapter ∈ s.mLocAdapters ∨ MAX_ADAPTERS ≤ s.mLocAdapters.length then s
  else { s with mLocAdapters := s.mLocAdapters ++ [adapter], call := .adding adapter }

def removeAdapter (s : LocApiBase) (adapter : AdapterId) : LocApiBase :=
  if adapter ∈ s.mLocAdapters then
    { s with mLocAdapters := shiftUp s.mLocAdapters (s.mLocAdapters.idxOf adapter),
             call := .shifting (s.mLocAdapters.idxOf adapter) }
  else s

/-- The rest of a call. -/
def finish (s : LocApiBase) : Option LocApiBase :=
  match s.call with
  | .idle => none
  | .adding adapter => some { s.sendMsg (.openMsg (evtMask adapter)) with call := .idle }
  | .shifting _ => some { s with call := .shifted }
  | .shifted =>
      if s.mLocAdapters = [] then some { s with client := s.client.closeClient, call := .idle }
      -- The bits of the one that is gone are to be removed.
      else some { s.sendMsg (.openMsg (s.getEvtMask evtMask)) with call := .idle }

/-- `proc` of a message, in the message thread. -/
def process (s : LocApiBase) (msg : LocApiMsg) (ok : Bool) : LocApiBase :=
  match msg with
  | .openMsg mMask => { s with client := s.client.openClient mMask ok, allOk := s.allOk && ok }
  | .ssrMsg =>
      { s with client := s.client.closeClient.openClient (s.getEvtMask evtMask) ok,
               allOk := s.allOk && ok }

def step (s : LocApiBase) : LocApiLabel → Option LocApiBase
  | .addAdapter adapter => if s.call = .idle then some (s.addAdapter adapter) else none
  | .removeAdapter adapter => if s.call = .idle then some (s.removeAdapter adapter) else none
  | .call => s.finish evtMask
  | .engineUp => some (s.sendMsg .ssrMsg)
  | .proc ok =>
      match s.queue with
      | msg :: rest => some ({ s with queue := rest }.process evtMask msg ok)
      | [] => none

end LocApiBase

/-! ## Emptied slots -/

theorem mem_of_mem_shiftUp {l : List AdapterId} {i : Nat} {x : AdapterId} (h : x ∈ shiftUp l i) :
    x ∈ l := by
  unfold shiftUp at h
  cases hlast : l.getLast? with
  | none =>
      rw [hlast] at h
      cases h
  | some last =>
      rw [hlast] at h
      rcases List.mem_or_eq_of_mem_set ((List.dropLast_sublist _).mem h) with hx | hx
      · exact hx
      · exact hx ▸ List.mem_of_getLast? hlast

/-- All but the one in the slot are left. -/
theorem mem_shiftUp {l : List AdapterId} {i : Nat} {x : AdapterId} (hx : x ∈ l)
    (hne : l[i]? ≠ some x) (hi : i < l.length) : x ∈ shiftUp l i := by
  rcases List.mem_iff_getElem?.mp hx with ⟨j, hj⟩
  have hjlt : j < l.length := (List.getElem?_eq_some_iff.mp hj).1
  have hlast : l.getLast? = l[l.length - 1]? := List.getLast?_eq_getElem?
  have hji : j ≠ i := fun h => hne (h ▸ hj)
  unfold shiftUp
  cases hl : l.getLast? with
  | none =>
      rw [List.getLast?_eq_none_iff.mp hl] at hx
      cases hx
  | some last =>
      apply List.mem_iff_getElem?.mpr
      by_cases hend : j = l.length - 1
      · -- The last one is in the slot now.
        refine ⟨i, ?_⟩
        have heq : last = x := by
          rw [hl, ← hend, hj] at hlast
          exact Option.some.inj hlast
        simp only [List.getElem?_dropLast, List.length_set, List.getElem?_set, heq]
        simp [hi]
        omega
      · refine ⟨j, ?_⟩
        simp only [List.getElem?_dropLast, List.length_set, List.getElem?_set]
        rw [if_pos (by omega), if_neg (fun h => hji h.symm), hj]

end LocApi

end Victara
