import Stencil.Template.Failure
import Stencil.Value.Heap

/-!
# Dialogs

An evaluation works on a memory of its own and reaches the engine only by asking. It is therefore
a tree: either it is done, or it asks for something and goes on with the answer. Whoever answers
decides what an answer does; all that holds of every answer holds of every evaluation.
-/

namespace Stencil

open Template (Failure)

inductive Request where
  | capture (instance_ : Nat) (v : Value)
  /-- The text that refers to an index in the table of an instance. -/
  | reference (instance_ : Nat) (index : Int)
  | scope (instance_ : Nat)
  /-- The markup of a template with arguments. -/
  | render (name : Text) (args : List (Value × Value))
  /-- The markup of a template whose captured values go to an owner. -/
  | renderInclude (name : Text) (args : List (Value × Value)) (owner : Option Nat)
  | source (name : Text)
  /-- That an instance is no longer registered. -/
  | dispose (instance_ : Nat)
  /-- That no instance is registered any more. -/
  | clear

structure Memory where
  heap : Heap
  names : Names
deriving Inhabited

inductive Dialog (α : Type) where
  | done (result : Except Failure α) (memory : Memory)
  | ask (request : Request) (memory : Memory)
      (resume : Except Failure Value → Heap → Dialog α)

instance {α : Type} : Inhabited (Dialog α) := ⟨.done (.error .exhausted) default⟩

def Dialog.andThen {α β : Type} (next : Except Failure α → Memory → Dialog β) :
    Dialog α → Dialog β
  | done result memory => next result memory
  | ask request memory resume => ask request memory fun answer heap =>
    (resume answer heap).andThen next

/-- An evaluation: a dialog that starts from a memory. -/
def Eval (α : Type) : Type := Memory → Dialog α

namespace Eval

variable {α β : Type}

@[inline] protected def pure (a : α) : Eval α := fun memory => .done (.ok a) memory

@[inline] protected def bind (x : Eval α) (f : α → Eval β) : Eval β := fun memory =>
  match x memory with
  | .done (.ok a) memory => f a memory
  | .done (.error e) memory => .done (.error e) memory
  | .ask request memory resume => .ask request memory fun answer heap =>
    (resume answer heap).andThen fun result memory =>
      match result with
      | .ok a => f a memory
      | .error e => .done (.error e) memory

instance : Monad Eval where
  pure := Eval.pure
  bind := Eval.bind

instance {α : Type} : Inhabited (Eval α) := ⟨fun memory => .done (.error .exhausted) memory⟩

def fail (e : Failure) : Eval α := fun memory => .done (.error e) memory

def fault (f : Fault) : Eval α := fail (.fault f)

def exhausted : Eval α := fail .exhausted

def beyond (what : Text) : Eval α := fail (.escape (.beyond what))

def attempt (x : Eval α) : Eval (Except Failure α) := fun memory =>
  (x memory).andThen fun result memory => .done (.ok result) memory

def ofExcept : Except Fault α → Eval α
  | .ok a => pure a
  | .error f => fault f

def ask (request : Request) : Eval Value := fun memory =>
  .ask request memory fun answer heap => .done answer { memory with heap }

/-! ## Memory -/

@[inline] def heap : Eval Heap := fun memory => .done (.ok memory.heap) memory

@[inline] def names : Eval Names := fun memory => .done (.ok memory.names) memory

def setHeap (h : Heap) : Eval Unit := fun memory => .done (.ok ()) { memory with heap := h }

@[inline] def change (f : Heap → α × Heap) : Eval α := fun memory =>
  let (a, h) := f memory.heap
  .done (.ok a) { memory with heap := h }

@[inline] def modifyHeap (f : Heap → Heap) : Eval Unit := change fun h => ((), f h)

def putName (n : Text) (v : Value) : Eval Unit := fun memory =>
  .done (.ok ()) { memory with names := memory.names.put n v }

def removeName (n : Text) : Eval Unit := fun memory =>
  .done (.ok ()) { memory with names := memory.names.remove n }

/-! ## New values -/

def serial : Eval Nat := change Heap.newSerial

def newInt (n : Int) : Eval Value :=
  if Value.isSharedInt n then pure (.int n .shared)
  else do return .int n (.made (← serial))

def newFloat (x : Float) : Eval Value := do return .float x (.made (← serial))

def newText (t : Text) : Eval Value :=
  if Value.isSharedText t then pure (.str t .shared)
  else do return .str t (.made (← serial))

def newTuple (items : List Value) : Eval Value :=
  if items.isEmpty then pure (.tuple [] .shared)
  else do return .tuple items (.made (← serial))

def newList (items : List Value) : Eval Value := change fun h => h.newList items.toArray

def newIterator (i : Iteration) : Eval Nat := change fun h => h.newIterator i

/-- Looks at a value in the heap, where all is but the registry of the engine. -/
def look (f : Heap → Value → α) (v : Value) : Eval α := do
  match v with
  | .registry => beyond "instances"
  | v => return f (← heap) v

def typeName (v : Value) : Eval Text := look Heap.typeName v

def datum (v : Value) : Eval Datum := look Heap.datum v

def write (form : Datum → Text) (v : Value) : Eval Text := do
  ofExcept ((← datum v).write form)

end Eval

end Stencil
