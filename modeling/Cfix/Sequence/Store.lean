import Mathlib.Algebra.BigOperators.Group.Finset.Basic
import Mathlib.Logic.Function.Basic
import Cfix.Base.Hresult
import Cfix.Lib.Transition

/-!
# `Sequence.Store` — sequence actions as counted objects (`sequenceaction.c`)

Actions are counted objects, and a sequence action holds a reference on each of its entries. A run of a
sequence calls other actions, whose test code may add entries, run sequences and give back references in
turn; a dereference may delete a sequence, which dereferences its entries. So the activations of these
functions form a stack, and a step ends where control passes from one of them to another.
-/

namespace Cfix.Sequence

open Transition

/-! ## State -/

abbrev ActionId := Nat

/-- `SEQUENCE_ACTION`, or another action, whose Run method is test code. `Entries.Count` is a `LONG`, which `count` is
    for sequences of fewer than 2^31 entries. -/
structure Action where
  isSequence     : Bool
  referenceCount : Nat
  entries        : List ActionId
  count          : Nat
  deriving DecidableEq, Repr

/-- The variables of `CfixsRunSequenceAction`. `start` is the number of entries that had been added when it
    was called, `executed` the actions that have returned to it, with their results, and `released` those
    that it has dereferenced. -/
structure Activation where
  this         : ActionId
  start        : Nat
  actionsArray : List ActionId
  actionsCount : Nat
  index        : Nat
  hr           : HRESULT
  executed     : List (ActionId × HRESULT)
  released     : List ActionId
  deriving DecidableEq, Repr

inductive Frame where
  /-- The Run method of an action that is not a sequence. -/
  | test (this : ActionId)
  /-- `CfixsRunSequenceAction` in the loop that runs the actions. -/
  | running (a : Activation)
  /-- `CfixsRunSequenceAction` in the loop that releases the references. -/
  | releasing (a : Activation)
  /-- `CfixsDeleteSequenceAction`: the entries still to be dereferenced, and those that have been. -/
  | deleting (this : ActionId) (rest : List ActionId) (dereferenced : List ActionId)
  deriving DecidableEq, Repr

/-- A finished run of a sequence: when it started, with which entries, and whether with a valid context and with
    memory for an array; the actions that it executed with their results, what it returned and what it released. -/
structure RunRecord where
  this           : ActionId
  start          : Nat
  entries        : List ActionId
  isValidContext : Bool
  malloc         : Bool
  executed       : List (ActionId × HRESULT)
  hr             : HRESULT
  released       : List ActionId
  deriving DecidableEq, Repr

/-- A finished deletion of a sequence. -/
structure Deletion where
  this         : ActionId
  dereferenced : List ActionId
  deriving DecidableEq, Repr

/-- `external` counts the references that test code and the runner hold; `added` lists the entries that
    were added, with their sequences. -/
structure State where
  heap      : ActionId → Option Action
  next      : ActionId
  external  : ActionId → Nat
  stack     : List Frame
  added     : List (ActionId × ActionId)
  runs      : List RunRecord
  deletions : List Deletion

/-- No action has been created. -/
def State.initial : State where
  heap _     := none
  next       := 0
  external _ := 0
  stack      := []
  added      := []
  runs       := []
  deletions  := []

/-! ## Operations -/

namespace State

variable (s : State)

/-- `CfixCreateSequenceAction`, or the creation of another action; the creator holds the reference. -/
def create (isSequence : Bool) : State :=
  { s with
    heap     := Function.update s.heap s.next (some ⟨isSequence, 1, [], 0⟩)
    next     := s.next + 1
    external := Function.update s.external s.next 1 }

/-- `CfixsReferenceSequenceAction`. -/
def reference (x : ActionId) : State :=
  { s with
    heap := Function.update s.heap x
      ((s.heap x).map fun o => { o with referenceCount := o.referenceCount + 1 }) }

/-- The last reference is gone. A sequence dereferences its entries before its memory is freed; nothing
    refers to it any more. -/
def delete (x : ActionId) (o : Action) : State :=
  { s with
    heap  := Function.update s.heap x none
    stack := if o.isSequence then .deleting x o.entries [] :: s.stack else s.stack }

/-- `CfixsDereferenceSequenceAction`. -/
def dereference (x : ActionId) : State :=
  match s.heap x with
  | none   => s
  | some o =>
    if o.referenceCount - 1 = 0 then s.delete x o
    else { s with heap := Function.update s.heap x (some { o with referenceCount := o.referenceCount - 1 }) }

/-- The Run method of an action returns to its caller. -/
def returned (x : ActionId) (hr : HRESULT) : State :=
  match s.stack with
  | .running a :: rest =>
    let a := { a with index := a.index + 1, hr := hr, executed := a.executed ++ [(x, hr)] }
    { s with stack := .running a :: rest }
  | _                  => s

/-- A run of a sequence ends. -/
def ended (r : RunRecord) : State :=
  let s := { s with runs := s.runs ++ [r] }
  s.returned r.this r.hr

/-- `Action->Run( Action, Context )`: the start of `CfixsRunSequenceAction`, up to the loop over the collected
    actions, or of a Run method that is test code. -/
def call (x : ActionId) (o : Action) (isValidContext malloc : Bool) : State :=
  if !o.isSequence then { s with stack := .test x :: s.stack }
  else if !isValidContext then s.ended ⟨x, s.added.length, o.entries, isValidContext, malloc, [], eInvalidarg, []⟩
  else if o.count == 0 then s.ended ⟨x, s.added.length, o.entries, isValidContext, malloc, [], sOk, []⟩
  else if !malloc then s.ended ⟨x, s.added.length, o.entries, isValidContext, malloc, [], eOutofmemory, []⟩
  else
    let s := o.entries.foldl reference s
    { s with stack := .running ⟨x, s.added.length, o.entries, o.count, 0, sOk, [], []⟩ :: s.stack }

/-- `CfixAddEntrySequenceAction`, with its result. -/
def addEntry (sequenceAction actionToAdd : ActionId) (o : Action) (malloc : Bool) : HRESULT × State :=
  if actionToAdd == sequenceAction || !o.isSequence then (eInvalidarg, s)
  else if !malloc then (eOutofmemory, s)
  else
    let s := s.reference actionToAdd
    (sOk, { s with
      heap  := Function.update s.heap sequenceAction
        (some { o with entries := o.entries ++ [actionToAdd], count := o.count + 1 })
      added := s.added ++ [(sequenceAction, actionToAdd)] })

/-- Test code, or the runner, is in control. -/
def inControl : Bool :=
  match s.stack with
  | [] | .test _ :: _ => true
  | _                 => false

/-- The activation on top of the stack goes on; `malloc` is for a run that it starts, which gets the same
    valid context. -/
def resume (malloc : Bool) : Option State :=
  match s.stack with
  | .running a :: rest =>
    if failed a.hr || a.actionsCount ≤ a.index then
      some { s with stack := .releasing { a with index := 0 } :: rest }
    else
      match a.actionsArray[a.index]? with
      | some y => (s.heap y).map fun o => s.call y o true malloc
      | none   => none
  | .releasing a :: rest =>
    if a.actionsCount ≤ a.index then
      let s := { s with stack := rest }
      -- it got here with a valid context and an array
      some (s.ended ⟨a.this, a.start, a.actionsArray, true, true, a.executed, a.hr, a.released⟩)
    else
      match a.actionsArray[a.index]? with
      | some y =>
        let s := { s with
          stack := .releasing { a with index := a.index + 1, released := a.released ++ [y] } :: rest }
        some (s.dereference y)
      | none   => none
  | .deleting this (y :: ys) done :: rest =>
    let s := { s with stack := .deleting this ys (done ++ [y]) :: rest }
    some (s.dereference y)
  | .deleting this [] done :: rest =>
    some { s with stack := rest, deletions := s.deletions ++ [⟨this, done⟩] }
  | .test _ :: _ | [] => none

end State

/-! ## Steps -/

/-- `resume` is a step of the functions above, `finish` the return of a test action. The others are calls of
    test code or the runner. -/
inductive Step where
  | create (isSequence : Bool)
  | reference (x : ActionId)
  | dereference (x : ActionId)
  | add (sequenceAction actionToAdd : ActionId) (malloc : Bool)
  | invoke (x : ActionId) (isValidContext malloc : Bool)
  | finish (hr : HRESULT)
  | resume (malloc : Bool)
  deriving DecidableEq, Repr

/-- The transitions. Test code passes valid pointers and gives back only references that it holds. -/
def next (s : State) : Step → Option State
  | .create isSequence => if s.inControl then some (s.create isSequence) else none
  | .reference x =>
    if s.inControl && (s.heap x).isSome then
      let s := s.reference x
      some { s with external := Function.update s.external x (s.external x + 1) }
    else none
  | .dereference x =>
    if s.inControl && 0 < s.external x then
      let s := { s with external := Function.update s.external x (s.external x - 1) }
      some (s.dereference x)
    else none
  | .add sequenceAction actionToAdd malloc =>
    if s.inControl && (s.heap actionToAdd).isSome then
      (s.heap sequenceAction).map fun o => (s.addEntry sequenceAction actionToAdd o malloc).2
    else none
  | .invoke x isValidContext malloc =>
    if s.inControl then (s.heap x).map fun o => s.call x o isValidContext malloc else none
  | .finish hr =>
    match s.stack with
    | .test x :: rest =>
      let s := { s with stack := rest }
      some (s.returned x hr)
    | _               => none
  | .resume malloc => s.resume malloc

end Cfix.Sequence
