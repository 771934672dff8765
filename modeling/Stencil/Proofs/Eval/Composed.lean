import Stencil.Eval.Sort
import Stencil.Eval.Subscript
import Stencil.Proofs.Eval.Dialog
import Stencil.Proofs.Value.Onward

/-!
# What evaluations are composed of

An evaluation acts on its memory, asks the engine for something, or fails for reasons of its own;
all else is done by going on from one of these to the next. In particular no failure is made up that
belongs to the work on a template: an evaluation has such a failure only from an answer. Nor does an
evaluation set back an iterator that goes through a collection, unless an answer does.

The lemmas about single functions are tagged, so that the cases of larger functions fall to those of
what they call.
-/

namespace Stencil

open Template (Escape Failure)

variable {α β : Type} {P : Nat → Prop}

variable (P) in
/-- The dialog goes onward from a heap, if what it asks for does. A failure that is not an answer is
an evaluation's own, and a failed answer ends the dialog. -/
inductive Dialog.Goes : Heap → Dialog α → Prop
  | ok {h : Heap} (a : α) {m : Memory} (honward : h.Onward P m.heap) : Goes h (.done (.ok a) m)
  | fault {h : Heap} (f : Fault) {m : Memory} (honward : h.Onward P m.heap) :
      Goes h (.done (.error (.fault f)) m)
  | escape {h : Heap} (e : Escape) {m : Memory} (honward : h.Onward P m.heap) :
      Goes h (.done (.error (.escape e)) m)
  | exhausted {h : Heap} {m : Memory} (honward : h.Onward P m.heap) :
      Goes h (.done (.error .exhausted) m)
  | ask {h : Heap} {request : Request} {m : Memory}
      {resume : Except Failure Value → Heap → Dialog α}
      (honward : h.Onward P m.heap)
      (hok : ∀ v h', m.heap.Onward P h' → Goes h' (resume (.ok v) h'))
      (herror : ∀ e h', ∃ m', resume (.error e) h' = .done (.error e) m' ∧ m'.heap = h') :
      Goes h (.ask request m resume)

namespace Dialog.Goes

variable {h h' : Heap} {d : Dialog α}

theorem of_onward (honward : h.Onward P h') (hd : d.Goes P h') : d.Goes P h := by
  cases hd with
  | ok a hrest => exact .ok a (honward.trans hrest)
  | fault f hrest => exact .fault f (honward.trans hrest)
  | escape e hrest => exact .escape e (honward.trans hrest)
  | exhausted hrest => exact .exhausted (honward.trans hrest)
  | ask hrest hok herror => exact .ask (honward.trans hrest) hok herror

theorem andThen {f : α → Memory → Dialog β} (hd : d.Goes P h) (hplain : h.Plain P)
    (hf : ∀ a m, m.heap.Plain P → (f a m).Goes P m.heap) :
    (d.andThen fun result m => match result with
      | .ok a => f a m
      | .error e => .done (.error e) m).Goes P h := by
  induction hd with
  | ok a honward => exact (hf a _ (honward.plain hplain)).of_onward honward
  | fault f honward => exact .fault f honward
  | escape e honward => exact .escape e honward
  | exhausted honward => exact .exhausted honward
  | ask honward hok herror ih =>
    refine .ask honward
      (fun v h' hanswer => ih v h' hanswer (hanswer.plain (honward.plain hplain))) fun e h' => ?_
    obtain ⟨m', hfails, hheap⟩ := herror e h'
    exact ⟨m', by rw [hfails]; rfl, hheap⟩

end Dialog.Goes

namespace Eval

variable (P) in
/-- Where the given iterators go through collections, the evaluation goes onward. -/
structure Composed (x : Eval α) : Prop where
  goes : ∀ m : Memory, m.heap.Plain P → (x m).Goes P m.heap

theorem Composed.act {x : Eval α}
    (h : ∀ m, ∃ a m', x m = .done (.ok a) m' ∧ m.heap.Onward P m'.heap) : x.Composed P := by
  refine ⟨fun m _ => ?_⟩
  obtain ⟨a, m', hx, honward⟩ := h m
  rw [hx]
  exact .ok a honward

@[grind ←] theorem Composed.ask (request : Request) : (Eval.ask request).Composed P :=
  ⟨fun m _ => .ask (.refl m.heap) (fun v h' _ => .ok v (.refl h')) fun _ _ => ⟨_, rfl, rfl⟩⟩

@[grind ←] theorem Composed.fault (f : Fault) : (Eval.fault f : Eval α).Composed P :=
  ⟨fun m _ => .fault f (.refl m.heap)⟩

@[grind ←] theorem Composed.escape (e : Escape) : (fail (.escape e) : Eval α).Composed P :=
  ⟨fun m _ => .escape e (.refl m.heap)⟩

@[grind ←] theorem Composed.beyond (what : Text) : (beyond what : Eval α).Composed P :=
  .escape _

@[grind ←] theorem Composed.exhausted : (Eval.exhausted : Eval α).Composed P :=
  ⟨fun m _ => .exhausted (.refl m.heap)⟩

@[grind ←] theorem Composed.bind {x : Eval α} {f : α → Eval β} (hx : x.Composed P)
    (hf : ∀ a, (f a).Composed P) : (x >>= f).Composed P := by
  refine ⟨fun m hplain => ?_⟩
  rw [bind_apply]
  exact (hx.goes m hplain).andThen hplain fun a => (hf a).goes

@[grind ←] theorem composed_pure (a : α) : (pure a : Eval α).Composed P :=
  .act fun m => ⟨a, m, rfl, .refl _⟩

@[grind ←] theorem composed_heap : heap.Composed P := .act fun m => ⟨_, m, rfl, .refl _⟩

@[grind ←] theorem composed_names : names.Composed P := .act fun m => ⟨_, m, rfl, .refl _⟩

@[grind ←] theorem composed_change {f : Heap → α × Heap}
    (hf : ∀ h, (f h).2.iterations = h.iterations) : (change f).Composed P :=
  .act fun m => ⟨_, _, rfl, .of_iterations (hf m.heap)⟩

@[grind ←] theorem composed_modifyHeap {f : Heap → Heap}
    (hf : ∀ h, (f h).iterations = h.iterations) : (modifyHeap f).Composed P :=
  composed_change hf

@[grind ←] theorem composed_putName (n : Text) (v : Value) : (putName n v).Composed P :=
  .act fun _ => ⟨_, _, rfl, .refl _⟩

@[grind ←] theorem composed_removeName (n : Text) : (removeName n).Composed P :=
  .act fun _ => ⟨_, _, rfl, .refl _⟩

@[grind ←] theorem composed_ofExcept (result : Except Fault α) : (ofExcept result).Composed P := by
  cases result with
  | ok a => exact composed_pure a
  | error f => exact .fault f

/-! ## Lists -/

@[grind ←] theorem composed_mapM {f : α → Eval β} (hf : ∀ a, (f a).Composed P) (as : List α) :
    (as.mapM f).Composed P := by
  induction as with
  | nil => exact composed_pure []
  | cons a as ih =>
    rw [List.mapM_cons]
    exact (hf a).bind fun _ => ih.bind fun _ => composed_pure _

@[grind ←] theorem composed_foldlM {f : β → α → Eval β} (hf : ∀ b a, (f b a).Composed P)
    (as : List α) (b : β) : (as.foldlM f b).Composed P := by
  induction as generalizing b with
  | nil => exact composed_pure b
  | cons a as ih => exact (hf b a).bind ih

@[grind ←] theorem composed_forM {f : α → Eval PUnit} (hf : ∀ a, (f a).Composed P) (as : List α) :
    (as.forM f).Composed P := by
  induction as with
  | nil => exact composed_pure _
  | cons a as ih => exact (hf a).bind fun _ => ih

/-! ## Values -/

@[grind ←] theorem composed_serial : serial.Composed P :=
  composed_change fun _ => rfl

@[grind ←] theorem composed_newInt (n : Int) : (newInt n).Composed P := by
  unfold newInt
  grind

@[grind ←] theorem composed_newFloat (x : Float) : (newFloat x).Composed P :=
  composed_serial.bind fun _ => composed_pure _

@[grind ←] theorem composed_newText (t : Text) : (newText t).Composed P := by
  unfold newText
  grind

@[grind ←] theorem composed_newTuple (items : List Value) : (newTuple items).Composed P := by
  unfold newTuple
  grind

@[grind ←] theorem composed_newList (items : List Value) : (newList items).Composed P :=
  composed_change fun _ => rfl

@[grind ←] theorem composed_newIterator (i : Iteration) : (newIterator i).Composed P :=
  .act fun _ => ⟨_, _, rfl, Heap.onward_newIterator i⟩

@[grind ←] theorem composed_look (f : Heap → Value → α) (v : Value) : (look f v).Composed P := by
  unfold look
  split
  · exact .beyond _
  · exact composed_heap.bind fun _ => composed_pure _

@[grind ←] theorem composed_typeName (v : Value) : (typeName v).Composed P := composed_look _ v

@[grind ←] theorem composed_datum (v : Value) : (datum v).Composed P := composed_look _ v

@[grind ←] theorem composed_write (form : Datum → Text) (v : Value) : (write form v).Composed P :=
  (composed_datum v).bind fun _ => composed_ofExcept _

@[grind ←] theorem composed_truth (v : Value) : (truth v).Composed P := composed_look _ v

@[grind ←] theorem composed_checkKey (v : Value) : (checkKey v).Composed P := by
  unfold checkKey
  grind

@[grind ←] theorem composed_order (op : OrderOp) (v w : Value) : (order op v w).Composed P :=
  composed_heap.bind fun _ => composed_ofExcept _

@[grind ←] theorem composed_equal (v w : Value) : (equal v w).Composed P :=
  composed_heap.bind fun _ => composed_pure _

/-! ## Iterators -/

@[grind ←] theorem composed_characters (t : Text) : (characters t).Composed P := by
  induction t with
  | nil => exact composed_pure []
  | cons c rest ih => exact (composed_newText [c]).bind fun _ => ih.bind fun _ => composed_pure _

@[grind ←] theorem composed_rangeItems (start step : Int) (n : Nat) :
    (rangeItems start step n).Composed P := by
  induction n generalizing start with
  | zero => exact composed_pure []
  | succ n ih =>
    exact (composed_newInt start).bind fun _ => (ih _).bind fun _ => composed_pure _

@[grind ←] theorem composed_pairItems (entries : List (Value × Value)) :
    (pairItems entries).Composed P := by
  induction entries with
  | nil => exact composed_pure []
  | cons entry more ih => exact (composed_newTuple _).bind fun _ => ih.bind fun _ => composed_pure _

@[grind ←] theorem composed_viewed (kind : ViewKind) (entries : List (Value × Value)) :
    (viewed kind entries).Composed P := by
  cases kind with
  | keys => exact composed_pure _
  | values => exact composed_pure _
  | items => exact composed_pairItems entries

@[grind ←] theorem composed_iterator? (v : Value) : (iterator? v).Composed P := by
  unfold iterator?
  grind

@[grind ←] theorem composed_iterator (v : Value) : (iterator v).Composed P := by
  unfold iterator
  grind

end Eval

variable (P) in
structure Reach.Composed (reach : Reach) : Prop where
  call : ∀ g args, (reach.call g args).Composed P
  next : ∀ a, (reach.next a).Composed P

attribute [grind ←] Reach.Composed.call Reach.Composed.next

namespace Eval

section

variable {reach : Reach} (h : reach.Composed P)
include h

@[grind ←] theorem composed_drain (fuel a : Nat) (taken : Array Value) :
    (drain reach fuel a taken).Composed P := by
  induction fuel generalizing taken with
  | zero => exact .exhausted
  | succ fuel ih =>
    unfold drain
    grind

@[grind ←] theorem composed_items? (v : Value) : (items? reach v).Composed P := by
  unfold items?
  grind

@[grind ←] theorem composed_items (v : Value) : (items reach v).Composed P := by
  unfold items
  grind

end

/-! ## Arguments -/

section

variable (function : Text) (args : Arguments)

@[grind ←] theorem composed_noKeywords : (noKeywords function args).Composed P := by
  unfold noKeywords
  grind

@[grind ←] theorem composed_takeNone : (takeNone function args).Composed P := by
  unfold takeNone
  grind

@[grind ←] theorem composed_takeOne : (takeOne function args).Composed P := by
  unfold takeOne
  grind

@[grind ←] theorem composed_takeBetween (least most : Nat) :
    (takeBetween function least most args).Composed P := by
  unfold takeBetween
  grind

@[grind ←] theorem composed_takeNamed (params : List Text) :
    (takeNamed function params args).Composed P := by
  unfold takeNamed
  grind

@[grind ←] theorem composed_takeParameters (params : List Text) (required : Nat) :
    (takeParameters function params required args).Composed P := by
  unfold takeParameters
  grind

end

@[grind ←] theorem composed_toIndex (v : Value) : (toIndex v).Composed P := by
  unfold toIndex
  grind

/-! ## Sorting -/

@[grind ←] theorem composed_less (a b : Keyed) : (a.less b).Composed P := composed_order _ _ _

@[grind ←] theorem composed_searchPosition (sorted : Array Keyed) (pivot : Keyed)
    (fuel low high : Nat) : (searchPosition sorted pivot fuel low high).Composed P := by
  induction fuel generalizing low high with
  | zero => exact composed_pure low
  | succ fuel ih =>
    unfold searchPosition
    grind

@[grind ←] theorem composed_insertAll (sorted : Array Keyed) (items : List Keyed) :
    (insertAll sorted items).Composed P := by
  induction items generalizing sorted with
  | nil => exact composed_pure sorted
  | cons pivot more ih => exact (composed_searchPosition ..).bind fun _ => ih _

@[grind ←] theorem composed_extendRun (descending : Bool) (run items : List Keyed) :
    (extendRun descending run items).Composed P := by
  induction items generalizing run with
  | nil => exact composed_pure _
  | cons next more ih =>
    unfold extendRun
    grind

@[grind ←] theorem composed_sortKeyed (items : List Keyed) : (sortKeyed items).Composed P := by
  unfold sortKeyed
  grind

@[grind ←] theorem composed_sortArguments (function : Text) (named : List (Text × Value)) :
    (sortArguments function named).Composed P := by
  unfold sortArguments
  grind

section

variable {reach : Reach} (h : reach.Composed P) (key : Option Value)
include h

@[grind ←] theorem composed_sortItems (backwards : Bool) (items : List Value) :
    (sortItems reach key backwards items).Composed P := by
  unfold sortItems
  grind

@[grind ←] theorem composed_extreme (op : OrderOp) (items : List Value) :
    (extreme reach op key items).Composed P := by
  unfold extreme
  extract_lets keyOf
  have hkey (v : Value) : (keyOf v).Composed P := by
    cases key with
    | some f => exact h.call f _
    | none => exact composed_pure v
  cases items with
  | nil => exact composed_pure none
  | cons first more =>
    refine (hkey first).bind fun k => (composed_foldlM (fun best v => ?_) more _).bind fun _ =>
      composed_pure _
    exact (hkey v).bind fun _ => (composed_order ..).bind fun _ => composed_pure _

end

/-! ## Items -/

@[grind ←] theorem composed_itemAt (k : SequenceKind) (items : Array α) (index : Int) :
    (itemAt k items index).Composed P := by
  unfold itemAt
  grind

@[grind ←] theorem composed_sliceBound (v : Value) : (sliceBound v).Composed P := by
  unfold sliceBound
  grind

@[grind ←] theorem composed_sliceBounds (start stop step : Value) :
    (sliceBounds start stop step).Composed P := by
  unfold sliceBounds
  grind

theorem composed_complaint (v : Value) (f : Text → Fault) :
    (do fault (f (← typeName v)) : Eval α).Composed P :=
  (composed_typeName v).bind fun _ => .fault _

@[grind ←] theorem composed_notSubscriptable (v : Value) : (notSubscriptable v).Composed P := by
  unfold notSubscriptable
  split
  · split
    · exact .fault _
    · exact composed_complaint ..
  · exact composed_complaint ..

@[grind ←] theorem composed_getKey (a : Nat) (key : Value) : (getKey a key).Composed P := by
  unfold getKey
  grind

@[grind ←] theorem composed_getItem (v index : Value) : (getItem v index).Composed P := by
  unfold getItem
  grind

@[grind ←] theorem composed_getSlice (v start stop step : Value) :
    (getSlice v start stop step).Composed P := by
  unfold getSlice
  grind

@[grind ←] theorem composed_setItem (v index new : Value) : (setItem v index new).Composed P := by
  unfold setItem
  grind

@[grind ←] theorem composed_setSlice (v start stop step : Value) (new : List Value) :
    (setSlice v start stop step new).Composed P := by
  unfold setSlice
  grind

@[grind ←] theorem composed_removeItem (v index : Value) : (removeItem v index).Composed P := by
  unfold removeItem
  grind

@[grind ←] theorem composed_removeSlice (v start stop step : Value) :
    (removeSlice v start stop step).Composed P := by
  unfold removeSlice
  grind

end Eval

end Stencil
