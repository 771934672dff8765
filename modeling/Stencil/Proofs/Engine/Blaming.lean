import Mathlib.Data.List.Perm.Subperm
import Mathlib.Logic.Relation
import Stencil.Proofs.Engine.History
import Stencil.Proofs.Engine.Raising

/-!
# Which template is at fault

When a template is rendered, others are rendered with it: those that it includes, and those that its
expressions ask for. If that fails, the failure is how one of these templates fails by itself, and
it is passed on as it is. Without cycles of includes every failure has such an origin, unless a run
does not end within its limits.
-/

namespace Stencil

open Template (Compiled Config Failure)

variable {m : Machine} {sources : Sources} {settings : Settings}

/-! ## From template to template -/

namespace Activity

/-- In an activity one template leads to another: it includes it, or its program asks for it. -/
inductive Refers (m : Machine) (sources : Sources) (settings : Settings) (A : Activity)
    (e : Engine) : Text → Text → Prop
  | includes {template included : Text} (h : sources.Includes settings template included) :
      Refers m sources settings A e template included
  | asks {j : Job} {request : Request} {name : Text} {memory : Memory}
      {resume : Except Failure Value → Heap → Dialog Config} {e' : Engine}
      (hname : request.template? = some name)
      (hleads : Leads m false A e (.dialog j (.ask request memory resume)) e') :
      Refers m sources settings A e j.program.template name

/-- A failure of an activity arises in a template that this one leads to, or in this one. -/
def Blames (m : Machine) (sources : Sources) (settings : Settings) (A : Activity) (e : Engine)
    (name : Text) (failure : Failure) : Prop :=
  ∃ A' e' template, Leads m false A e A' e' ∧ A'.Raises m sources settings e' template failure ∧
    Relation.ReflTransGen (A.Refers m sources settings e) name template

variable {A A' : Activity} {e e' : Engine} {name included template : Text} {failure : Failure}

theorem Raises.locate (h : A.Raises m sources settings e template failure) (p : Compiled)
    (pc : Nat) : Template.locate p pc failure = failure := by
  cases h <;> rfl

theorem Raises.blames (h : A'.Raises m sources settings e' name failure)
    (hleads : Leads m false A e A' e') : A.Blames m sources settings e name failure :=
  ⟨A', e', name, hleads, h, .refl⟩

theorem Blames.head (hrefers : A.Refers m sources settings e name included)
    (h : A.Blames m sources settings e included failure) :
    A.Blames m sources settings e name failure :=
  let ⟨A', e', template, hleads, hraises, hreached⟩ := h
  ⟨A', e', template, hleads, hraises, .head hrefers hreached⟩

theorem Blames.locate (h : A.Blames m sources settings e name failure) (p : Compiled) (pc : Nat) :
    Template.locate p pc failure = failure :=
  let ⟨_, _, _, _, hraises, _⟩ := h
  hraises.locate p pc

end Activity

open Activity in
theorem Job.Stops.blames {j : Job} {memory : Memory} {fuel : Nat} {c : Config} {A : Activity}
    {start e : Engine} {failure : Failure} (h : j.Stops m memory e fuel c failure)
    (hcomposed : m.evaluator.Composed fun _ => False) (hreadable : sources.Readable settings)
    (hmade : j.program.Made m sources settings) (he : e.Serves sources settings)
    (hleads : Leads m false A start (.job j fuel c memory) e)
    (hrender : ∀ {id args name owner failure e'},
      Leads m false A start (.render j.depth id args) e' →
      e'.CannotRender m sources settings j.depth id args name owner failure →
      A.Blames m sources settings start name failure ∨ failure = .exhausted ∨
        ∃ f, failure = .fault f) :
    A.Blames m sources settings start j.program.template failure ∨ failure = .exhausted := by
  cases h with
  | spent => exact .inr rfl
  | @failed fuel _ cause t hlt hstep =>
    -- What is not one template's own failure yet is that of this one now.
    have hfault (f : Fault) (hf : cause = .fault f) :
        A.Blames m sources settings start j.program.template
          (Template.locate j.program c.pc cause) := by
      subst hf
      exact (Raises.failed hmade hlt hstep).blames hleads
    rcases Job.step_error hcomposed he hstep with hown |
      ⟨request, memory', resume, e₁, hasks, he₁, hanswer⟩
    · cases hown with
      | fault f => exact .inl (hfault f rfl)
      | escape x => exact .inl ((Raises.left hmade hlt hstep).blames hleads)
      | exhausted => exact .inr rfl
    · have hasked := hleads.trans (.head (.step hlt) hasks)
      rcases Job.answer_error resume he₁ hreadable hanswer with ⟨f, hf⟩ |
        ⟨name, hname, hraises | ⟨temporary, args, owner, e₂, hinside, hfails⟩⟩
      · exact .inl (hfault f hf)
      · rw [hraises.locate]
        exact .inl (.head (.asks hname hasked) (hraises.blames hasked))
      · rcases hrender (hasked.trans hinside) hfails with hblames | rfl | ⟨f, hf⟩
        · rw [hblames.locate]
          exact .inl (.head (.asks hname hasked) hblames)
        · exact .inr rfl
        · exact .inl (hfault f hf)

namespace Engine.CannotRender

open Activity

variable {e : Engine} {depth id owner : Nat} {args : Entries} {name : Text} {failure : Failure}

/-- An instance that cannot be rendered has a template at fault, or the limits are too low, or there
is nobody that its program could run for. -/
theorem blames (hcomposed : m.evaluator.Composed fun _ => False)
    (hreadable : sources.Readable settings) {A : Activity} {start : Engine}
    (h : e.CannotRender m sources settings depth id args name owner failure)
    (hleads : Leads m false A start (.render depth id args) e) :
    A.Blames m sources settings start name failure ∨ failure = .exhausted ∨
      (∃ f, failure = .fault f) ∧ e.instance? owner = none := by
  induction depth generalizing e id args name owner failure with
  | zero =>
    cases h.fails
    exact .inr (.inl rfl)
  | succ depth ih =>
    cases h.cause hreadable with
    | compiling hcompile hraises => exact .inl (hraises.blames (hleads.trans hcompile))
    | @including _ _ _ _ e' hincludes hinside hfails =>
      refine (ih hfails (hleads.trans hinside)).imp (.head (.includes hincludes))
        (Or.imp_right (And.imp_right fun hnone => ?_))
      refine Option.eq_none_iff_forall_ne_some.mpr fun host hsome => ?_
      obtain ⟨host', hhost', -⟩ := (hinside.inside h.serves.sound).follows.instance? hsome
      cases hnone.symm.trans hhost'
    | hostless hnone => exact .inr (.inr ⟨⟨_, rfl⟩, hnone⟩)
    | running hdepth hname hmade hserves hrun hfails =>
      subst hdepth hname
      obtain ⟨fuel, c, memory, e₁, hto, hserves₁, hstops⟩ := Job.stops_of_error hserves hfails
      exact (hstops.blames hcomposed hreadable hmade hserves₁ (hleads.trans (hrun.trans hto))
        fun hinside hfails' =>
          (ih hfails' hinside).imp_right (Or.imp_right And.left)).imp_right .inl

/-- Without cycles of includes there are fewer levels of them than templates, and then it is a run
that comes to its limits. Those that are being compiled are all different. -/
theorem stops_of_exhausted {entries : List (Text × Text)} {above : List Text}
    (hreadable : (Sources.table entries).Readable settings)
    (hacyclic : ∀ t, ¬ Relation.TransGen ((Sources.table entries).Includes settings) t t)
    (h : e.CannotRender m (.table entries) settings depth id args name owner .exhausted)
    (hnodup : above.Nodup) (hkeys : above ⊆ entries.map Prod.fst)
    (habove : ∀ t ∈ above,
      Relation.TransGen ((Sources.table entries).Includes settings) t name)
    (hdepth : entries.length < depth + above.length) :
    ∃ j fuel c memory e', Leads m false (.render depth id args) e (.job j fuel c memory) e' ∧
      j.Stops m memory e' fuel c .exhausted := by
  induction depth generalizing e id args name owner above with
  | zero =>
    have hle := (List.subperm_of_subset hnodup hkeys).length_le
    rw [List.length_map] at hle
    omega
  | succ depth ih =>
    cases h.cause hreadable with
    | compiling hcompile hraises => cases hraises
    | @including included _ _ _ _ hincludes hinside hfails =>
      have hkey : name ∈ entries.map Prod.fst := by
        obtain ⟨source, _, hfound, -, -⟩ := hincludes
        exact List.mem_map_of_mem (Sources.mem_of_find? hfound)
      have hnew : name ∉ above := fun hmem => hacyclic name (habove name hmem)
      obtain ⟨j, fuel, c, memory, e', hleads, hstops⟩ :=
        ih hfails (List.nodup_cons.mpr ⟨hnew, hnodup⟩ : (name :: above).Nodup)
          (List.cons_subset.mpr ⟨hkey, hkeys⟩)
          (List.forall_mem_cons.mpr
            ⟨.single hincludes, fun t hmem => (habove t hmem).tail hincludes⟩)
          (by rw [List.length_cons]; omega)
      exact ⟨j, fuel, c, memory, e', hinside.trans hleads, hstops⟩
    | running hdepth hname hmade hserves hrun hfails =>
      obtain ⟨fuel, c, memory, e', hto, -, hstops⟩ := Job.stops_of_error hserves hfails
      exact ⟨_, fuel, c, memory, e', hrun.trans hto, hstops⟩

end Engine.CannotRender

/-! ## Rendering once -/

def partDivides : Engine :=
  { sources := .table [("main".toList, "\x7binclude part\x7d".toList),
      ("part".toList, "\x7b1//0\x7d".toList)] }

theorem includes_partDivides {template included : Text}
    (h : partDivides.sources.Includes partDivides.settings template included) :
    template = "main".toList ∧ included = "part".toList := by
  obtain ⟨entry, hentry, rfl, segment, hsegment, hincluded⟩ := Sources.exists_of_includes h
  have hall : ∀ entry ∈ [("main".toList, "\x7binclude part\x7d".toList),
      ("part".toList, "\x7b1//0\x7d".toList)],
      ∀ segment ∈ (Template.extract partDivides.settings.trimLines entry.2).segments,
        ∀ u ∈ segment.included?, entry.1 = "main".toList ∧ u = "part".toList := by
    decide +kernel
  exact hall entry hentry segment hsegment included hincluded

def asksForNone : Engine :=
  { sources := .table [("main".toList, "\x7btpl.engine.render('part')\x7d".toList)] }

theorem not_includes_asksForNone (template included : Text) :
    ¬ asksForNone.sources.Includes asksForNone.settings template included := by
  intro h
  obtain ⟨entry, hentry, rfl, segment, hsegment, hincluded⟩ := Sources.exists_of_includes h
  have hall : ∀ entry ∈ [("main".toList, "\x7btpl.engine.render('part')\x7d".toList)],
      ∀ segment ∈ (Template.extract asksForNone.settings.trimLines entry.2).segments,
        segment.included? = none := by
    decide +kernel
  rw [hall entry hentry segment hsegment] at hincluded
  cases hincluded

def leaving : Engine := { sources := .table [("main".toList, "\x7bexit()\x7d".toList)] }

end Stencil
