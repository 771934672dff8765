import Stencil.Eval.Iterate

/-!
# Sorting

A run at the start that is already in order, or in reverse order, is taken as it is; every further
item is put behind the items that are not greater, which binary search finds. Items keep their
order among equals, and a later item is always asked whether it is less than an earlier one.
-/

namespace Stencil.Eval

structure Keyed where
  key : Value
  item : Value
deriving Inhabited

def Keyed.less (a b : Keyed) : Eval Bool := order .less a.key b.key

def searchPosition (sorted : Array Keyed) (pivot : Keyed) :
    (fuel : Nat) → (low high : Nat) → Eval Nat
  | 0, low, _ => pure low
  | fuel + 1, low, high =>
    if high ≤ low then pure low
    else do
      let middle := low + (high - low) / 2
      match sorted[middle]? with
      | none => return low
      | some m =>
        if ← pivot.less m then searchPosition sorted pivot fuel low middle
        else searchPosition sorted pivot fuel (middle + 1) high

def insertAll (sorted : Array Keyed) : List Keyed → Eval (Array Keyed)
  | [] => pure sorted
  | pivot :: more => do
    let i ← searchPosition sorted pivot (sorted.size + 1) 0 sorted.size
    insertAll (sorted.insertIdxIfInBounds i pivot) more

/-- Extends a run, given in reverse, as long as the next item stands to the last one as asked. -/
def extendRun (descending : Bool) (run : List Keyed) :
    List Keyed → Eval (List Keyed × List Keyed)
  | [] => pure (run, [])
  | next :: more => do
    match run with
    | last :: _ =>
      if (← next.less last) = descending then extendRun descending (next :: run) more
      else return (run, next :: more)
    | [] => return (run, next :: more)

def sortKeyed (items : List Keyed) : Eval (List Keyed) := do
  match items with
  | first :: second :: more =>
    let descending ← second.less first
    let (run, rest) ← extendRun descending [second, first] more
    let run := if descending then run else run.reverse
    return (← insertAll run.toArray rest).toList
  | _ => return items

def sortItems (reach : Reach) (key : Option Value) (backwards : Bool) (items : List Value) :
    Eval (List Value) := do
  let keyed ← items.mapM fun v => do
    match key with
    | some f => return Keyed.mk (← reach.call f ⟨[v], []⟩) v
    | none => return ⟨v, v⟩
  let sorted ← sortKeyed (if backwards then keyed.reverse else keyed)
  let items := sorted.map (·.item)
  return if backwards then items.reverse else items

def sortArguments (function : Text) (named : List (Text × Value)) : Eval (Option Value × Bool) := do
  match ← takeNamed function ["key", "reverse"] ⟨[], named⟩ with
  | [key, backwards] =>
    let key := match key with
      | some .none => none
      | other => other
    let backwards ← match backwards with
      | some v => truth v
      | none => pure false
    return (key, backwards)
  | _ => return (none, false)

def extreme (reach : Reach) (op : OrderOp) (key : Option Value) (items : List Value) :
    Eval (Option Value) := do
  let keyOf (v : Value) : Eval Value := match key with
    | some f => reach.call f ⟨[v], []⟩
    | none => pure v
  match items with
  | [] => return none
  | first :: more =>
    let best ← more.foldlM (fun (best : Keyed) v => do
      let k ← keyOf v
      return if ← order op k best.key then ⟨k, v⟩ else best) ⟨← keyOf first, first⟩
    return some best.item

end Stencil.Eval
