import Stencil.Proofs.Template.Grammar
import Stencil.Proofs.Template.Simulation

/-!
# Runs are runs of trees

Related forms of output stay related when a tree is run. The pieces and marks that the machine keeps
are related to plain texts where no content block lies inside another one of its wrapper, so that
running a linked program is running its tree.
-/

namespace Stencil.Template

/-! ## Related forms of output -/

/-- Outputs are related in a way that what is done with them keeps. The mark says whether the output
is written inside a content block of its wrapper. -/
structure Output.Related {ω ω' : Type} [Output ω] [Output ω'] (R : Bool → ω → ω' → Prop) :
    Prop where
  empty : ∀ i, R i Output.empty Output.empty
  text : ∀ i t, R i (Output.text t) (Output.text t)
  append : ∀ {i a a' b b'}, R i a a' → R i b b' → R i (Output.append a b) (Output.append a' b')
  content : ∀ {a a'}, R true a a' → R false (Output.content a) (Output.content a')
  hasContent : ∀ {i a a'}, R false a a' → R i (Output.hasContent a) (Output.hasContent a')

section

variable {ω ω' : Type} [Output ω] [Output ω'] {R : Bool → ω → ω' → Prop}
  {ev : Evaluator} {s : Setting} {p : Compiled} {i : Bool}

theorem approximates_restoring {α β : Type} {S : α → β → Prop} (frame : LoopFrame) {x : Eval α}
    {y : Eval β} (h : x.Approximates S y) :
    (restoring s frame x).Approximates S (restoring s frame y) := by
  have hexhausts : (do restore s frame; Eval.fail .exhausted : Eval α).Exhausts := fun m =>
    ⟨frame.undo s m, by rw [Eval.bind_eq_handle, Eval.handle, restore_apply]; rfl⟩
  exact h.handle (fun _ _ hab => .bind_of_eq _ fun _ => .pure hab)
    (fun e => .bind_of_eq _ fun _ => .fail e) hexhausts

theorem approximates_located {α β : Type} {S : α → β → Prop} (directive : Text) {x : Eval α}
    {y : Eval β} (h : x.Approximates S y) :
    (located p directive x).Approximates S (located p directive y) :=
  h.handle (fun _ _ => .pure) (fun _ => .fail _) Eval.exhausts_exhausted

theorem approximates_append (hR : Output.Related R) {x y : Eval ω} {x' y' : Eval ω'}
    (hx : x.Approximates (R i) x') (hy : y.Approximates (R i) y') :
    (do let written ← x; return Output.append written (← y)).Approximates (R i)
      (do let written ← x'; return Output.append written (← y')) :=
  hx.bind fun _ _ ha => hy.bind fun _ _ hb => .pure (hR.append ha hb)

theorem Leaf.approximates_exec (hR : Output.Related R) (first : Leaf) (pc : Nat) :
    (first.exec ev s p pc : Eval ω).Approximates (R i) (first.exec ev s p pc : Eval ω') := by
  cases first with
  | literal t => exact .pure (hR.text i t)
  | output expr escape source =>
      exact .bind_of_eq _ fun code => .bind_of_eq _ fun v => .bind_of_eq _ fun t =>
        .pure (hR.text i t)
  | assign name expr source =>
      exact .bind_of_eq _ fun code => .bind_of_eq _ fun v => .bind_of_eq _ fun _ =>
        .pure (hR.empty i)
  | capture expr source =>
      exact .bind_of_eq _ fun code => .bind_of_eq _ fun t => .pure (hR.text i t)

theorem approximates_repeatTurns (hR : Output.Related R) {body : Eval ω} {body' : Eval ω'}
    (hbody : body.Approximates (R i) body') (next : Eval Bool) (turns : Nat) :
    (repeatTurns body next turns).Approximates (R i) (repeatTurns body' next turns) := by
  induction turns with
  | zero => exact Eval.exhausts_exhausted.approximates _
  | succ turns ih =>
      refine hbody.bind fun first first' hfirst => .bind_of_eq next fun proceed => ?_
      cases proceed with
      | true => exact ih.bind fun more more' hmore => .pure (hR.append hfirst hmore)
      | false => exact .pure hfirst

theorem approximates_execLoop (hR : Output.Related R) {body : Eval ω} {body' : Eval ω'}
    (hbody : body.Approximates (R i) body') (turns pc : Nat) (name : Text) (head : LoopHead)
    (source : Text) :
    (execLoop ev s p turns pc name head source body).Approximates (R i)
      (execLoop ev s p turns pc name head source body') := by
  refine .bind_of_eq _ fun (frame, proceed) => ?_
  cases proceed with
  | true => exact approximates_restoring frame (approximates_repeatTurns hR hbody _ turns)
  | false => exact .bind_of_eq _ fun _ => .pure (hR.empty i)

mutual

theorem Body.approximates_exec (hR : Output.Related R) (b : Body) (i : Bool) (turns pc : Nat)
    (hb : b.Separate i) :
    (b.exec ev s p turns pc : Eval ω).Approximates (R i) (b.exec ev s p turns pc : Eval ω') := by
  match b with
  | .empty => exact .pure (hR.empty i)
  | .leaf first rest =>
      exact approximates_append hR (approximates_located _ (first.approximates_exec hR pc))
        (rest.approximates_exec hR i turns (pc + 1) hb)
  | .loop name head source body rest =>
      have hbody := body.approximates_exec hR i turns (pc + 1) hb.1
      exact approximates_append hR (approximates_execLoop hR hbody turns pc name head source)
        (rest.approximates_exec hR i turns _ hb.2)
  | .branch cond source body others rest =>
      refine .bind_of_eq _ fun first => ?_
      refine approximates_append hR ?_ (rest.approximates_exec hR i turns _ hb.2.2)
      cases first with
      | true => exact body.approximates_exec hR i turns (pc + 1) hb.1
      | false => exact others.approximates_exec hR i turns source _ hb.2.1
  | .hasContent body rest =>
      refine (body.approximates_exec hR false turns (pc + 1) hb.1).bind fun a a' ha => ?_
      refine (rest.approximates_exec hR i turns _ hb.2).bind fun more more' hmore => ?_
      exact .pure (hR.append (hR.hasContent ha) hmore)
  | .content body rest =>
      obtain ⟨rfl, hbody, hrest⟩ := hb
      refine (body.approximates_exec hR true turns (pc + 1) hbody).bind fun a a' ha => ?_
      refine (rest.approximates_exec hR false turns _ hrest).bind fun more more' hmore => ?_
      exact .pure (hR.append (hR.content ha) hmore)

theorem Branches.approximates_exec (hR : Output.Related R) (bs : Branches) (i : Bool)
    (turns : Nat) (source : Text) (pc : Nat) (hb : bs.Separate i) :
    (bs.exec ev s p turns source pc : Eval ω).Approximates (R i)
      (bs.exec ev s p turns source pc : Eval ω') := by
  match bs with
  | .close => exact .pure (hR.empty i)
  | .otherwise body => exact body.approximates_exec hR i turns (pc + 1) hb
  | .elseIf cond _ body others =>
      refine .bind_of_eq _ fun first => ?_
      cases first with
      | true => exact body.approximates_exec hR i turns (pc + 1) hb.1
      | false => exact others.approximates_exec hR i turns source _ hb.2

end

end

/-! ## Pieces and texts -/

/-- The pieces make up the text. Inside a content block nothing else starts one, so that what is
written there is all that is written since its mark. -/
def Marked.Tells (inContent : Bool) (a : Marked) (b : Written) : Prop :=
  a.pieces.flatten = b.text ∧ a.found = b.hasContent ∧ (inContent = true → a.mark = none)

theorem any_not_isEmpty (pieces : List Text) :
    pieces.any (!·.isEmpty) = !pieces.flatten.isEmpty := by
  induction pieces with
  | nil => rfl
  | cons first more ih => cases first <;> simp [ih]

theorem Marked.related_tells : Output.Related Marked.Tells where
  empty i := ⟨rfl, rfl, fun _ => rfl⟩
  text i t := ⟨List.append_nil t, rfl, fun _ => rfl⟩
  append := by
    rintro i a a' b b' ⟨htext, hfound, hmark⟩ ⟨htext', hfound', hmark'⟩
    refine ⟨?_, by simp [Output.append, hfound, hfound'], fun hi => ?_⟩
    · simp [Output.append, htext, htext']
    · simp [Output.append, hmark hi, hmark' hi]
  content := by
    rintro a a' ⟨htext, hfound, hmark⟩
    refine ⟨htext, ?_, nofun⟩
    simp [Output.content, hmark rfl, hfound, any_not_isEmpty, htext]
  hasContent := by
    rintro i a a' ⟨htext, hfound, -⟩
    refine ⟨?_, rfl, fun _ => rfl⟩
    cases hf : a.found <;> simp [Output.hasContent, ← hfound, hf, htext]

theorem Output.Related.flip {ω ω' : Type} [Output ω] [Output ω'] {R : Bool → ω → ω' → Prop}
    (h : Output.Related R) : Output.Related fun i a b => R i b a where
  empty := h.empty
  text := h.text
  append := h.append
  content := h.content
  hasContent := h.hasContent

/-! ## Whole runs -/

/-- The machine and the tree write the same pieces, and with some more steps than turns the machine
goes as far as the tree. -/
theorem Body.approximates_runFrom {ev : Evaluator} {s : Setting} {p : Compiled} {b : Body}
    (hb : b.instructions = p.program) (hplaced : b.Placed p.program p.jumps 0)
    (hadmitted : b.Admitted false false) (turns : Nat) :
    (runFrom ev s p turns .initial).Approximates Eq
        (b.exec ev s p turns 0 >>= fun o : Marked => pure o.pieces.toArray) ∧
      (b.exec ev s p turns 0 >>= fun o : Marked => pure o.pieces.toArray).Approximates Eq
        (runFrom ev s p (1 + b.cost turns) .initial) := by
  have hruns : Runs ev s p turns (b.cost turns) .initial [] (b.exec ev s p turns 0)
      fun o => Config.initial.after b.length o := b.runs turns .initial hplaced hadmitted nofun
  have hend (n : Nat) (o : Marked) :
      runFrom ev s p (n + 1) (Config.initial.after b.length o) = pure o.pieces.toArray := by
    rw [runFrom_end ev s p n (by simp [Config.initial, Body.length, hb])]
    simp [Config.after, Config.initial]
  rw [Eval.bind_eq_handle]
  refine ⟨(hruns.upper turns (Nat.le_refl turns)).trans ?_, ?_⟩
  · refine (Eval.Approximates.refl _).handle ?_ (fun e => .refl _) (exhausts_unwind s [])
    rintro o _ rfl
    rw [← hend turns o]
    exact growing_runFrom _ turns
  · have hlower := hruns.lower 1
    simp only [hend] at hlower
    exact hlower

/-- Where no content block lies inside another one of the same wrapper, a linked program has a tree,
and running it is running the tree: both ask for the same, give the same text or fail in the same
way, and leave the same memory. -/
theorem run_refines_tree {p : Compiled} (hlink : link p.program = .ok p.jumps) :
    (∃ b : Body, b.instructions = p.program) ∧
      ∀ b : Body, b.instructions = p.program → b.Separate false →
        ∀ (ev : Evaluator) (globals : Names) (s : Setting) (h : Heap),
          Dialog.SameLimit (fun fuel => run ev fuel globals s p h)
            (fun turns => b.run ev s p turns globals h) := by
  refine ⟨exists_body_of_link hlink, fun b hb hseparate ev globals s h => ?_⟩
  obtain ⟨hadmitted, hplaced⟩ := placed_of_link hlink hb
  let flatten (out : Array Text) : Eval Text := pure out.toList.flatten
  let machine (turns : Nat) : Eval (Array Text) :=
    b.exec ev s p turns 0 >>= fun o : Marked => pure o.pieces.toArray
  let tree (turns : Nat) : Eval Text :=
    b.exec ev s p turns 0 >>= fun o : Written => pure o.text
  have hmachine (turns : Nat) :
      (runFrom ev s p turns .initial).Approximates Eq (machine turns) ∧
        (machine turns).Approximates Eq (runFrom ev s p (1 + b.cost turns) .initial) :=
    Body.approximates_runFrom hb hplaced hadmitted turns
  -- Only here it matters that content blocks are separate: marks then tell what is written inside.
  have htext (turns : Nat) : (machine turns >>= flatten).Approximates Eq (tree turns) := by
    simp only [machine, flatten, bind_assoc, pure_bind]
    exact (b.approximates_exec Marked.related_tells false turns 0 hseparate).bind
      fun o w h => .pure h.1
  have hpieces (turns : Nat) : (tree turns).Approximates Eq (machine turns >>= flatten) := by
    simp only [machine, flatten, bind_assoc, pure_bind]
    exact (b.approximates_exec Marked.related_tells.flip false turns 0 hseparate).bind
      fun w o h => .pure h.1.symm
  refine ⟨fun turns => ⟨turns, ?_⟩, fun turns => ⟨1 + b.cost turns, ?_⟩⟩
  · exact ((hmachine turns).1.bind_right flatten).trans (htext turns) _
  · exact (hpieces turns).trans ((hmachine turns).2.bind_right flatten) _

def wrappedLoop : Compiled where
  template := "list".toList
  program := [.openHasContent, .openLoop "item".toList (.each .values "items".toList) [],
    .openContent, .output "item".toList false [], .closeContent, .closeLoop, .closeHasContent]
  jumps := ⟨[(1, 5)], [(5, 1)], [], []⟩
  codes := [(1, .value ⟨0, .name "items".toList⟩), (3, .value ⟨1, .name "item".toList⟩)]

theorem run_refines_tree_wrappedLoop :
    ∃ b : Body, b.instructions = wrappedLoop.program ∧ b.Separate false ∧
      Dialog.SameLimit
        (fun fuel => run (.standard 9) fuel [("items".toList, .list 0)] ⟨.none, 0⟩ wrappedLoop
          { lists := #[#[.none, .bool true]], mappings := #[⟨true, []⟩] })
        (fun turns => b.run (.standard 9) ⟨.none, 0⟩ wrappedLoop turns [("items".toList, .list 0)]
          { lists := #[#[.none, .bool true]], mappings := #[⟨true, []⟩] }) := by
  let tree : Body := .hasContent
    (.loop "item".toList (.each .values "items".toList) []
      (.content (.leaf (.output "item".toList false []) .empty) .empty) .empty) .empty
  have hseparate : tree.Separate false := by simp [tree, Body.Separate]
  have hlink : link wrappedLoop.program = .ok wrappedLoop.jumps := rfl
  exact ⟨tree, rfl, hseparate, (run_refines_tree hlink).2 tree rfl hseparate _ _ _ _⟩

end Stencil.Template
