import Mathlib.Logic.Function.Basic
import Victara.Lib.StepSystem

/-!
# The Cells of the Linked List

`linked_list.c` on a heap of `list_element`s. `malloc` is told which address it
returns, and a step that reads or frees a cell that is not there has no
result. So has a walk that does not end; the number of elements that are
allocated is counted, which nobody in the program does, and a walk takes no
more rounds than that.

All operations are called with a list that exists: a `NULL` handle they turn
away before they do anything. A search may change a state of its caller through
its predicate, and what is passed to a `dealloc_func` is kept in the order of
the calls.

## Main definitions

* `LinkedListErr`: `linked_list_err_type`.
* `ListElement`, `ListState`, `Mem`: The cells, the two ends, and all of it.
* `init`: `linked_list_init`.
* `alloc`: `malloc` has returned this address.
* `write`: A store to an element that is there.
* `dealloc`: `dealloc_func(data_ptr)`, if there is one.
* `Mem.linkNext`, `Mem.linkPrev`: What follows, and precedes, an element.
* `Mem.linkedListAdd`, `Mem.linkedListRemove`, `Mem.linkedListSearch`,
  `Mem.linkedListFlush`, `Mem.linkedListEmpty`: The operations.
* `flushFrom`: The loop of `linked_list_flush`.
* `unlink`: What `rm_if_found` does with the element that is found.
* `searchFrom`: The loop of `linked_list_search`.
* `ListOp`, `ListRun.step`: Calls one after the other, with what they return.
* `ListOut`: What a call returns, and hands out.
* `ListRun`: The list after some calls, and what they returned.
* `Mallocs`: `malloc` returns no address that is in use.
-/

namespace Victara

/-- `linked_list_err_type`. -/
inductive LinkedListErr
  | success | failureGeneral | invalidParameter | invalidHandle | unavailableResource
  | insufficientBuffer
  deriving DecidableEq, Repr

universe u

abbrev Addr := Nat

/-- `list_element`. The data pointer is not `NULL`, since nothing else is
    added. -/
structure ListElement (F V : Type u) where
  next : Option Addr
  prev : Option Addr
  data_ptr : V
  dealloc_func : Option F
  deriving DecidableEq, Repr

/-- `list_state`. -/
structure ListState where
  p_head : Option Addr
  p_tail : Option Addr
  deriving DecidableEq, Repr

/-- The elements that are allocated, the list, the state that predicates act
    on, and what was deallocated. -/
structure Mem (σ F V : Type u) where
  heap : Addr → Option (ListElement F V)
  list : ListState
  live : Nat
  env : σ
  dealloced : List (F × V)

variable {σ F V : Type u}

namespace Mem

/-- `linked_list_init`. -/
def init (env : σ) : Mem σ F V where
  heap := fun _ => none
  list := ⟨none, none⟩
  live := 0
  env := env
  dealloced := []

def setHead (m : Mem σ F V) (p : Option Addr) : Mem σ F V :=
  { m with list := { m.list with p_head := p } }

def setTail (m : Mem σ F V) (p : Option Addr) : Mem σ F V :=
  { m with list := { m.list with p_tail := p } }

/-- `malloc` has returned this address. -/
def alloc (m : Mem σ F V) (a : Addr) (elem : ListElement F V) : Mem σ F V :=
  { m with heap := Function.update m.heap a (some elem), live := m.live + 1 }

/-- A store to an element that is there. -/
def write (m : Mem σ F V) (a : Addr) (f : ListElement F V → ListElement F V) :
    Option (Mem σ F V) :=
  (m.heap a).map fun elem => { m with heap := Function.update m.heap a (some (f elem)) }

def free (m : Mem σ F V) (a : Addr) : Option (Mem σ F V) :=
  (m.heap a).map fun _ => { m with heap := Function.update m.heap a none, live := m.live - 1 }

/-- `dealloc_func(data_ptr)`, if there is one. -/
def dealloc (m : Mem σ F V) (elem : ListElement F V) : Mem σ F V :=
  match elem.dealloc_func with
  | some f => { m with dealloced := m.dealloced ++ [(f, elem.data_ptr)] }
  | none => m

/-- What follows the element at `mid`, or the start of the list, is `q`. -/
def linkNext (m : Mem σ F V) (mid q : Option Addr) : Option (Mem σ F V) :=
  match mid with
  | none => some (m.setHead q)
  | some a => m.write a fun e => { e with next := q }

/-- What precedes the element at `q`, or the end of the list, is `mid`. -/
def linkPrev (m : Mem σ F V) (q mid : Option Addr) : Option (Mem σ F V) :=
  match q with
  | none => some (m.setTail mid)
  | some a => m.write a fun e => { e with prev := mid }

/-- `malloc` returns `addr`. -/
def linkedListAdd (m : Mem σ F V) (addr : Option Addr) (data_obj : Option V)
    (dealloc : Option F) : Option (Mem σ F V × LinkedListErr) :=
  match data_obj, addr with
  | none, _ => some (m, .invalidParameter)
  | some _, none => some (m, .failureGeneral)
  | some data, some elem => do
    let m := m.alloc elem ⟨none, none, data, dealloc⟩
    let tmp := m.list.p_head
    let m ← (m.setHead (some elem)).write elem fun e => { e with next := tmp }
    return (← m.linkPrev tmp (some elem), .success)

/-- `data_obj` says whether there is a place for the result. -/
def linkedListRemove (m : Mem σ F V) (data_obj : Bool) :
    Option (Mem σ F V × LinkedListErr × Option V) :=
  if !data_obj then some (m, .invalidParameter, none)
  else match m.list.p_tail with
    | none => some (m, .unavailableResource, none)
    | some tmp => do
      let m := m.setTail (← m.heap tmp).prev
      let m ← m.linkNext m.list.p_tail none
      let data := (← m.heap tmp).data_ptr
      return (← m.free tmp, .success, some data)

def linkedListEmpty (m : Mem σ F V) : Bool := m.list.p_head.isNone

/-- The loop of `linked_list_flush`. -/
def flushFrom : Nat → Mem σ F V → Option (Mem σ F V)
  | fuel, m => match m.list.p_head with
    | none => some m
    | some a => match fuel with
      | 0 => none
      | fuel + 1 => do
        let elem ← m.heap a
        let m ← (m.dealloc elem).free a
        flushFrom fuel (m.setHead elem.next)

def linkedListFlush (m : Mem σ F V) : Option (Mem σ F V × LinkedListErr) := do
  return ((← flushFrom m.live m).setTail none, .success)

/-- What `rm_if_found` does with the element that is found. Its data is
    deallocated if it is not handed out. -/
def unlink (m : Mem σ F V) (data_p : Bool) (tmp : Addr) : Option (Mem σ F V) := do
  let elem ← m.heap tmp
  let m ← m.linkNext elem.prev elem.next
  let elem ← m.heap tmp
  let m ← m.linkPrev elem.next elem.prev
  let m ← m.write tmp fun e => { e with prev := none, next := none }
  (if data_p then m else m.dealloc elem).free tmp

/-- The loop of `linked_list_search`. -/
def searchFrom (equal : σ → V → σ × Bool) (data_p rm_if_found : Bool) :
    Nat → Mem σ F V → Option Addr → Option (Mem σ F V × Option V)
  | _, m, none => some (m, none)
  | 0, _, some _ => none
  | fuel + 1, m, some tmp => do
    let elem ← m.heap tmp
    let r := equal m.env elem.data_ptr
    let m := { m with env := r.1 }
    if r.2 then
      let m ← if rm_if_found then m.unlink data_p tmp else some m
      return (m, some elem.data_ptr)
    else searchFrom equal data_p rm_if_found fuel m elem.next

/-- What is found is handed out if there is a `data_p`. An empty list leaves
    that alone. -/
def linkedListSearch (m : Mem σ F V) (equal : Option (σ → V → σ × Bool))
    (data_p rm_if_found : Bool) : Option (Mem σ F V × LinkedListErr × Option V) :=
  match equal with
  | none => some (m, .invalidHandle, none)
  | some equal =>
    if m.list.p_tail = none then some (m, .unavailableResource, none)
    else do
      let (m, data) ← searchFrom equal data_p rm_if_found m.live m m.list.p_head
      return (m, .success, if data_p then data else none)

end Mem

/-- A call of one of the operations. -/
inductive ListOp (σ F V : Type u)
  | add (addr : Option Addr) (data_obj : Option V) (dealloc : Option F)
  | remove (data_obj : Bool)
  | search (equal : Option (σ → V → σ × Bool)) (data_p rm_if_found : Bool)
  | flush

/-- What a call returns, and hands out. -/
structure ListOut (V : Type u) where
  err : LinkedListErr
  data : Option V
  deriving DecidableEq, Repr

def Mem.call (m : Mem σ F V) : ListOp σ F V → Option (Mem σ F V × ListOut V)
  | .add addr data_obj dealloc =>
      (m.linkedListAdd addr data_obj dealloc).map fun r => (r.1, ⟨r.2, none⟩)
  | .remove data_obj => (m.linkedListRemove data_obj).map fun r => (r.1, ⟨r.2.1, r.2.2⟩)
  | .search equal data_p rm_if_found =>
      (m.linkedListSearch equal data_p rm_if_found).map fun r => (r.1, ⟨r.2.1, r.2.2⟩)
  | .flush => m.linkedListFlush.map fun r => (r.1, ⟨r.2, none⟩)

/-- The list after some calls, and what they returned. -/
structure ListRun (σ F V : Type u) where
  mem : Mem σ F V
  outs : List (ListOut V)

def ListRun.init (env : σ) : ListRun σ F V := ⟨Mem.init env, []⟩

def ListRun.step (s : ListRun σ F V) (op : ListOp σ F V) : Option (ListRun σ F V) :=
  (s.mem.call op).map fun r => ⟨r.1, s.outs ++ [r.2]⟩

/-- `malloc` returns no address that is in use. -/
def Mallocs (s : ListRun σ F V) : ListOp σ F V → Prop
  | .add (some a) _ _ => (s.mem.heap a).isNone = true
  | .add none _ _ | .remove _ | .search _ _ _ | .flush => True

instance (s : ListRun σ F V) : DecidablePred (Mallocs s)
  | .add (some a) _ _ => inferInstanceAs (Decidable ((s.mem.heap a).isNone = true))
  | .add none _ _ | .remove _ | .search _ _ _ | .flush => isTrue trivial

end Victara
