import Stencil.Eval.Compare

/-!
# Items and slices

An index counts from the front, a negative one from the end. A slice takes every so many items
between two bounds, which are moved to the ends of the sequence if they lie outside.
-/

namespace Stencil

def position? (length : Nat) (index : Int) : Option Nat :=
  if 0 ≤ index then if index < length then some index.toNat else none
  else if -index ≤ length then some (length - index.natAbs) else none

structure SliceBounds where
  start : Option Int
  stop : Option Int
  step : Int

namespace SliceBounds

def clamp (length : Nat) (forward : Bool) (bound : Int) : Int :=
  let bound := if bound < 0 then bound + length else bound
  if forward then max 0 (min bound length) else max (-1) (min bound (length - 1))

def positions (b : SliceBounds) (length : Nat) : List Nat :=
  let forward := 0 < b.step
  let first : Int := if forward then 0 else length - 1
  let last : Int := if forward then length else -1
  let start := (b.start.map (clamp length forward)).getD first
  let stop := (b.stop.map (clamp length forward)).getD last
  let count := if forward then ((stop - start + b.step - 1) / b.step).toNat
    else ((start - stop - b.step - 1) / -b.step).toNat
  (List.range count).map fun (i : Nat) => (start + i * b.step).toNat

def isWhole (b : SliceBounds) (length : Nat) : Bool :=
  b.step == 1 && (b.positions length).length == length

def take {α : Type} (b : SliceBounds) (items : Array α) : List α :=
  (b.positions items.size).filterMap fun i => items[i]?

end SliceBounds

namespace Eval

def itemAt {α : Type} (k : SequenceKind) (items : Array α) (index : Int) : Eval α :=
  if Number.wordBound ≤ index.natAbs then fault .indexTooLarge
  else match (position? items.size index).bind (items[·]?) with
    | some a => pure a
    | none => fault (.outOfRange k)

def sliceBound (v : Value) : Eval (Option Int) :=
  match v, v.int? with
  | .none, _ => pure none
  | _, some n => pure (some n)
  | _, none => fault .badSliceIndex

def sliceBounds (start stop step : Value) : Eval SliceBounds := do
  let step ← sliceBound step
  if step = some 0 then fault .zeroStep
  else return ⟨← sliceBound start, ← sliceBound stop, step.getD 1⟩

def notSubscriptable (v : Value) : Eval Value := do
  match v with
  | .builtin b =>
    if b.isType then fault ⟨.type, Text.say ["type '", b.name, "' is not subscriptable"]⟩
    else fault (.notSubscriptable (← typeName v))
  | _ => fault (.notSubscriptable (← typeName v))

def getKey (a : Nat) (key : Value) : Eval Value := do
  checkKey key
  let m := (← heap).mapping a
  match m.get? key, m.isScope with
  | some v, _ => return v
  | none, true => return .none
  | none, false => fault (.missingKey (← datum key).quoted)

def getItem (v index : Value) : Eval Value := do
  match v, index.int? with
  | .mapping a, _ => getKey a index
  | .list a, some n => itemAt .list ((← heap).list a) n
  | .tuple items _, some n => itemAt .tuple items.toArray n
  | .str t _, some n => do newText [← itemAt .str t.toArray n]
  | .range start stop step _, some n =>
    let length := Value.rangeLength start stop step
    match position? length n with
    | some i => newInt (start + i * step)
    | none => fault (.outOfRange .range)
  | .list _, none => do fault (.badIndex .list (← typeName index))
  | .tuple .., none => do fault (.badIndex .tuple (← typeName index))
  | .range .., none => do fault (.badIndex .range (← typeName index))
  | .str .., none => do fault (.badStringIndex (← typeName index))
  | _, _ => notSubscriptable v

def getSlice (v start stop step : Value) : Eval Value := do
  match v with
  | .list a =>
    let b ← sliceBounds start stop step
    newList (b.take ((← heap).list a))
  | .tuple items _ =>
    let b ← sliceBounds start stop step
    if b.isWhole items.length then return v else newTuple (b.take items.toArray)
  | .str t _ =>
    let b ← sliceBounds start stop step
    if b.isWhole t.length then return v else newText (b.take t.toArray)
  | .range first last by_ _ =>
    let b ← sliceBounds start stop step
    let length := Value.rangeLength first last by_
    let taken := b.positions length
    let i : Int := match taken with
      | i :: _ => i
      | [] => (b.start.map (SliceBounds.clamp length (0 < b.step))).getD 0
    return .range (first + i * by_) (first + (i + taken.length * b.step) * by_) (by_ * b.step)
      (.made (← serial))
  | .mapping _ => fault (.unhashable "slice")
  | _ => notSubscriptable v

/-! ## Changes -/

def setItem (v index new : Value) : Eval Unit := do
  match v, index.int? with
  | .mapping a, _ =>
    checkKey index
    modifyHeap fun h => h.setMapping a ((h.mapping a).put index new)
  | .list a, some n =>
    let items := (← heap).list a
    match position? items.size n with
    | some i => modifyHeap fun h => h.setList a (items.setIfInBounds i new)
    | none => fault .assignOutOfRange
  | .list _, none => do fault (.badIndex .list (← typeName index))
  | _, _ => do fault (.noItemAssignment (← typeName v))

/-- Puts items in the place of a slice. With a step the numbers of items must agree. -/
def setSlice (v start stop step : Value) (new : List Value) : Eval Unit := do
  match v with
  | .list a =>
    let b ← sliceBounds start stop step
    let items := (← heap).list a
    let taken := b.positions items.size
    if b.step = 1 then
      let first := match taken with
        | i :: _ => i
        | [] => ((b.start.map (SliceBounds.clamp items.size true)).getD 0).toNat
      let replaced := items.toList.take first ++ new ++ items.toList.drop (first + taken.length)
      modifyHeap fun h => h.setList a replaced.toArray
    else if taken.length ≠ new.length then fault (.sliceSize new.length taken.length)
    else
      let replaced := (taken.zip new).foldl (fun acc p => acc.setIfInBounds p.1 p.2) items
      modifyHeap fun h => h.setList a replaced
  | _ => do fault (.noItemAssignment (← typeName v))

def removeItem (v index : Value) : Eval Unit := do
  match v, index.int? with
  | .mapping a, _ =>
    checkKey index
    let m := (← heap).mapping a
    if (m.get? index).isSome then modifyHeap fun h => h.setMapping a (m.remove index)
    else fault (.missingKey (← datum index).quoted)
  | .list a, some n =>
    let items := (← heap).list a
    match position? items.size n with
    | some i => modifyHeap fun h => h.setList a (items.eraseIdxIfInBounds i)
    | none => fault .assignOutOfRange
  | .list _, none => do fault (.badIndex .list (← typeName index))
  | _, _ => do fault (.noItemDeletion (← typeName v))

def removeSlice (v start stop step : Value) : Eval Unit := do
  match v with
  | .list a =>
    let b ← sliceBounds start stop step
    let items := (← heap).list a
    let taken := b.positions items.size
    let kept := (items.toList.zipIdx).filterMap fun (v, i) =>
      if taken.contains i then none else some v
    modifyHeap fun h => h.setList a kept.toArray
  | _ => do fault (.noItemDeletion (← typeName v))

end Eval

end Stencil
