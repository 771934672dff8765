import Stencil.Proofs.Engine.Quiet
import Stencil.Proofs.Engine.Sparing
import Stencil.Proofs.Engine.Unregistering
import Stencil.Proofs.Markup.Replacing
import Stencil.Proofs.Template.Restoring

/-!
# What a reload changes

A reload changes nothing but the tree of its instance, and that only when all else has gone well.
Then one element is replaced, and a hook hears of the new one.
-/

namespace Stencil

open Markup (Element Path)
open Template (Failure)

variable {m : Machine}

def Instance.withRoot (root : Element) (i : Instance) : Instance := { i with root := some root }

theorem Engine.quiet_withScope (e : Engine) (entries : Entries) :
    e.Quiet none (e.withScope entries) := .of_instances rfl rfl rfl (Nat.le_refl _)

namespace Action

open Engine

variable {depth id : Nat} {selector : Text} {args : Entries} {e e' : Engine} {i : Instance}

/-! ## Finding -/

/-- A selector finds an element of a tree. -/
structure Finds (selector : Text) (tree : Element) (path : Path) (element : Element) : Prop where
  find : tree.find? selector = .ok (some path)
  at? : tree.at? path = some element

theorem on_findElement_some {tree : Element} {path : Path} {element : Element}
    (h : (findElement tree selector).on e = (.ok (some (path, element)), e')) :
    e' = e ∧ Finds selector tree path element := by
  rw [findElement, on_bind] at h
  cases hfind : tree.find? selector with
  | error f =>
      rw [hfind] at h
      cases h
  | ok found =>
      rw [hfind] at h
      obtain ⟨hfound, rfl⟩ : found.bind (fun path => (tree.at? path).map (path, ·)) =
          some (path, element) ∧ e = e' := by simpa using h
      obtain ⟨path', rfl, hat⟩ := Option.bind_eq_some_iff.mp hfound
      obtain ⟨element', hat, hpair⟩ := Option.map_eq_some_iff.mp hat
      cases hpair
      exact ⟨rfl, hfind, hat⟩

theorem on_findBoth_some {found : Found} (h : (findBoth i selector).on e = (.ok (some found), e')) :
    e' = e ∧ i.root = some found.root ∧
      (∃ snapshot path, i.snapshotTree = some snapshot ∧
        Finds selector snapshot path found.element) ∧
      ∃ old, Finds selector found.root found.path old := by
  rw [findBoth] at h
  have hmissed {why : List Text} {e₁ : Engine}
      (h : (missed i why : Action (Option Found)).on e₁ = (.ok (some found), e')) : False := by
    rw [missed, on_bind_of_ok (on_note _ e₁)] at h
    cases h
  split at h
  · next snapshot root hsnapshot hroot =>
      obtain ⟨first, e₁, hfirst, hrest⟩ := on_bind_ok_iff.mp h
      cases first with
      | none => exact (hmissed hrest).elim
      | some first =>
          obtain ⟨path, element⟩ := first
          obtain ⟨second, e₂, hsecond, hlast⟩ := on_bind_ok_iff.mp hrest
          obtain ⟨rfl, hfinds⟩ := on_findElement_some hfirst
          cases second with
          | none => exact (hmissed hlast).elim
          | some second =>
              obtain ⟨path', old⟩ := second
              obtain ⟨rfl, hfinds'⟩ := on_findElement_some hsecond
              cases hlast
              exact ⟨rfl, hroot, ⟨snapshot, path, hsnapshot, hfinds⟩, old, hfinds'⟩
  · exact (hmissed h).elim

/-! ## Rendering and replacing -/

/-- The entries of a scope, overlaid by arguments. -/
def overlay (entries args : Entries) : Entries :=
  args.foldl (fun es (k, v) => Mapping.putEntry k v es) entries

theorem on_overlaidScope (hi : e.instance? id = some i) (args : Entries) :
    (overlaidScope id args).on e = (.ok e.heap.mappings.size,
      e.withScope (overlay (e.heap.mapping i.scope).entries args)) := by
  rw [overlaidScope, on_bind_of_ok (on_instance_of_some hi)]
  rfl

/-- The calls of a hook for the element that a reload has put in. -/
def hookCallsFor (hook : Option Text) (new : Option Element) : List HookCall :=
  match hook, new with
  | some hook, some new => [⟨hook, none, new⟩]
  | _, _ => []

theorem on_replace {found : Found} {markup : Text} {result : Except Failure Unit}
    (h : (replace i selector found markup).on e = (result, e')) :
    (∃ failure, result = .error failure ∧ e' = e) ∨
      ∃ root new, result = .ok () ∧
        Markup.Reader.replace { parser := e.settings.markupParser } found.root found.path markup =
          .ok (root, new) ∧
        e'.instances = (e.update i.id (Instance.withRoot root)).instances ∧
        e'.hookCalls = e.hookCalls ++ hookCallsFor i.hook new := by
  rw [replace, on_bind_of_ok (on_reader e)] at h
  cases hreplace : Markup.Reader.replace { parser := e.settings.markupParser } found.root found.path
      markup with
  | error f =>
      rw [hreplace] at h
      cases h
      exact .inl ⟨_, rfl, rfl⟩
  | ok replaced =>
      obtain ⟨root, new⟩ := replaced
      rw [hreplace, on_bind_of_ok (on_ofExcept_ok _ e), on_bind_of_ok (on_update _ _ _),
        on_bind_of_ok (on_note _ _)] at h
      cases new with
      | none =>
          cases h
          exact .inr ⟨root, none, rfl, rfl, rfl,
            by cases i.hook <;> exact (List.append_nil _).symm⟩
      | some new =>
          cases hhook : i.hook with
          | none =>
              simp only [callHook, hhook, on_pure, Prod.mk.injEq] at h
              obtain ⟨rfl, rfl⟩ := h
              exact .inr ⟨root, some new, rfl, rfl, rfl, (List.append_nil _).symm⟩
          | some hook =>
              simp only [callHook, hhook] at h
              cases h
              exact .inr ⟨root, some new, rfl, rfl, rfl, rfl⟩

variable (m depth) in
theorem on_rerender (he : e.Sound) (hi : e.instance? id = some i) {found : Found} {old : Element}
    (hold : Finds selector found.root found.path old) {scope : Nat} {result : Except Failure Unit}
    (h : (do replace i selector found (← renderFragment m (render m depth) i scope found.element) :
      Action Unit).on e = (result, e')) :
    (∃ failure, result = .error failure ∧ e.Quiet none e') ∨
      ∃ markup e₁ new root, result = .ok () ∧
        (renderFragment m (render m depth) i scope found.element).on e = (.ok markup, e₁) ∧
        Markup.Reader.firstElement? { parser := e.settings.markupParser } markup = .ok new ∧
        Element.Replaced old (new.map Element.node).toList found.path found.root root ∧
        e.Work m none e₁ ∧ e.Quiet none e₁ ∧
        e'.instances = (e₁.update id (Instance.withRoot root)).instances ∧
        e'.hookCalls = e.hookCalls ++ hookCallsFor i.hook new := by
  have hcalm := (secluded_render m depth).renderFragment (proper_render m depth) i scope
    found.element
  have hwork := hcalm.works e he
  have hquiet := hcalm.quiet e he
  rw [on_bind] at h
  cases hrender : (renderFragment m (render m depth) i scope found.element).on e with
  | mk markup e₁ =>
      rw [hrender] at h hwork hquiet
      cases markup with
      | error failure =>
          cases h
          exact .inl ⟨failure, rfl, hquiet⟩
      | ok markup =>
          rcases on_replace h with ⟨failure, rfl, rfl⟩ |
            ⟨root, new, rfl, hreplace, hinstances, hcalls⟩
          · exact .inl ⟨failure, rfl, hquiet⟩
          · rw [he.id_of_instance? hi] at hinstances
            rw [hwork.settings] at hreplace
            obtain ⟨hnew, hreplaced⟩ :=
              Markup.Reader.replaced_of_replace hold.find hold.at? hreplace
            exact .inr ⟨markup, e₁, new, root, rfl, rfl, hnew, hreplaced, hwork, hquiet,
              hinstances, hquiet.hookCalls ▸ hcalls⟩

variable (m depth selector args) in
/-- A reload has gone well. The element that the selector finds first in the snapshot has been
rendered in a new scope, which is that of the instance overlaid by the arguments; the element that
it finds first in the tree has been replaced by the first element of the markup, or removed if there
is none, and a hook was called with the new element if there is one. -/
def Reloads (e : Engine) (i : Instance) (e' : Engine) : Prop :=
  ∃ snapshot path element root path' old markup e₁ new root' i',
    i.snapshotTree = some snapshot ∧ Finds selector snapshot path element ∧
    i.root = some root ∧ Finds selector root path' old ∧
    (renderFragment m (render m depth) i e.heap.mappings.size element).on
      (e.withScope (overlay (e.heap.mapping i.scope).entries args)) = (.ok markup, e₁) ∧
    Markup.Reader.firstElement? { parser := e.settings.markupParser } markup = .ok new ∧
    Element.Replaced old (new.map Element.node).toList path' root root' ∧
    e'.instance? i.id = some i' ∧ i'.root = some root' ∧
    e'.hookCalls = e.hookCalls ++ hookCallsFor i.hook new

variable (m depth id selector args) in
/-- What a reload can come to: nothing is different about trees and hooks, or it has gone well. -/
theorem on_reload (he : e.Sound) (hi : e.instance? id = some i) {result : Except Failure Bool}
    (h : (reload m depth id selector args).on e = (result, e')) :
    result ≠ .ok true ∧ e.Quiet none e' ∨
      result = .ok true ∧ Reloads m depth selector args e i e' ∧
        ∃ e₁ root, e.Work m none e₁ ∧ e.Quiet none e₁ ∧
          e'.instances = (e₁.update id (Instance.withRoot root)).instances := by
  rw [reload, on_bind_of_ok (on_instance_of_some hi), on_bind] at h
  have hcalm : (findBoth i selector).Calm m none none := .findBoth i selector
  have hquiet := hcalm.quiet e he
  cases hfind : (findBoth i selector).on e with
  | mk found e₀ =>
      rw [hfind] at h hquiet
      cases found with
      | error failure =>
          cases h
          exact .inl ⟨by rintro ⟨⟩, hquiet⟩
      | ok found =>
          cases found with
          | none =>
              cases h
              exact .inl ⟨by rintro ⟨⟩, hquiet⟩
          | some found =>
              obtain ⟨rfl, hroot, ⟨snapshot, path, hsnapshot, helement⟩, old, hold⟩ :=
                on_findBoth_some hfind
              simp only at h
              rw [on_bind_of_ok (on_overlaidScope hi args), ← bind_assoc, on_bind] at h
              generalize hentries : overlay (e₀.heap.mapping i.scope).entries args = entries at h
              have hopened := e₀.alike_withScope entries
              cases hrerender : (renderFragment m (render m depth) i e₀.heap.mappings.size
                  found.element >>= fun markup => replace i selector found markup).on
                    (e₀.withScope entries) with
              | mk outcome e₁ =>
                  rw [hrerender] at h
                  have hframe {e₂ : Engine} (h : (e₀.withScope entries).Quiet none e₂) :=
                    (e₀.quiet_withScope entries).trans h hopened.follows
                  rcases on_rerender m depth (he.of_alike hopened) (hopened.instance?.trans hi) hold
                    hrerender with ⟨failure, rfl, hquiet'⟩ | ⟨markup, e₂, new, root, rfl, hrender,
                      hnew, hreplaced, hwork, hquiet', hinstances, hcalls⟩
                  · cases h
                    exact .inl ⟨by rintro ⟨⟩, hframe hquiet'⟩
                  · cases h
                    obtain ⟨i₂, hi₂, -⟩ := (hframe hquiet').instance? hi
                    have hi' : e'.instance? id = some (i₂.withRoot root) := by
                      rw [← hwork.sound.instance?_update (f := Instance.withRoot root) hi₂,
                        Engine.instance?, hinstances]
                      rfl
                    rw [← he.id_of_instance? hi] at hi'
                    subst hentries
                    exact .inr ⟨rfl, ⟨snapshot, path, found.element, found.root, found.path, old,
                      markup, e₂, new, root, _, hsnapshot, helement, hroot, hold, hrender, hnew,
                      hreplaced, hi', rfl, hcalls⟩, e₂, root,
                      (Work.of_alike he hopened).trans hwork, hframe hquiet', hinstances⟩

/-! ## The retained scope -/

section

variable {address : Nat}

theorem spares_findBoth (i : Instance) (selector : Text) :
    (findBoth i selector).Spares address := by
  have hfind (tree : Element) : (findElement tree selector).Spares address :=
    .bind (.ofExcept _) fun _ => .pure _
  have hmissed (why : List Text) : (missed i why : Action (Option Found)).Spares address :=
    .bind (.note _) fun _ => .pure _
  rw [findBoth]
  split
  · refine .bind (hfind _) fun first => ?_
    cases first with
    | none => exact hmissed _
    | some first =>
        refine .bind (hfind _) fun second => ?_
        cases second with
        | none => exact hmissed _
        | some second => exact .pure _
  · exact hmissed _

theorem spares_replace (i : Instance) (selector : Text) (found : Found) (markup : Text) :
    (replace i selector found markup).Spares address := by
  refine .bind .reader fun _ => .bind (.ofExcept _) fun replaced => .bind (.update _ _) fun _ =>
    .bind (.note _) fun _ => ?_
  cases replaced.2 with
  | none => exact .pure ()
  | some new =>
      simp only [callHook]
      cases i.hook with
      | none => exact .pure ()
      | some hook => exact .of_heap fun _ => rfl

theorem spares_reload (depth id : Nat) (selector : Text) (args : Entries) :
    (reload (m.guarding address) depth id selector args).Spares address := by
  have hn (id : Nat) (args : Entries) :
      (render (m.guarding address) depth id args).Spares address := spares_render depth id args
  refine .bind (.instance id) fun i => .bind (spares_findBoth i selector) fun found => ?_
  cases found with
  | none => exact .pure false
  | some found =>
      simp only [overlaidScope, bind_assoc]
      refine .bind (.instance id) fun _ => .bind (.mapping _) fun _ =>
        Spares.bind_of (.newScope _) fun e scope e' he hnew => ?_
      have hother := Spares.ne_of_on_newScope he hnew
      have hrender : (renderFragment (m.guarding address) (render (m.guarding address) depth) i
          scope found.element).Spares address :=
        .bind (.ofExcept _) fun _ => .bind (.generate (moves_includeMarkup hn _ _) _) fun _ =>
          .bind (.build _ _) fun _ => spares_runProgram _ hother _
      exact .bind hrender fun _ => .bind (spares_replace _ _ _ _) fun _ => .pure _

end

/-! ## Reloads in histories -/

variable (m depth id selector args) in
/-- No expression that the reload evaluates writes to the scope of the instance: a machine that
would get no further then does the same. -/
def ScopeUntouched (e : Engine) (i : Instance) : Prop :=
  i.scope < e.heap.mappings.size ∧
    (reload (m.guarding i.scope) depth id selector args).on e =
      (reload m depth id selector args).on e

end Action

/-- All of an instance but its tree is the same, and its table has at most grown. -/
structure Instance.Retained (i i' : Instance) : Prop where
  parts : i.SameParts i'
  scope : i'.scope = i.scope
  hook : i'.hook = i.hook
  owner : i'.owner = i.owner
  captured : i.captured <+: i'.captured

/-- A reload leaves all of every instance but the tree of its own one, and that too unless it goes
well. -/
theorem Action.retained_reload {e e' : Engine} (he : e.Sound) {depth id : Nat} {selector : Text}
    {args : Entries} {i : Instance} {result : Except Failure Bool} (hi : e.instance? id = some i)
    (hreload : (reload m depth id selector args).on e = (result, e')) {k : Nat} {j : Instance}
    (hj : e.instance? k = some j) :
    ∃ j', e'.instance? k = some j' ∧ j.Retained j' ∧
      (k ≠ id ∨ result ≠ .ok true → j'.root = j.root) := by
  have hwork := works_reload (m := m) depth id selector args e he
  rw [hreload] at hwork
  have hretained {j' : Instance} (hj' : e'.instance? k = some j') (hhook : j'.hook = j.hook)
      (hscope : j'.scope = j.scope) : j.Retained j' := by
    obtain ⟨j₁, hj₁, hlater, hsame⟩ := hwork.instance? hj
    cases hj'.symm.trans hj₁
    exact ⟨hsame, hscope, hhook, hlater.owner, hlater.captured⟩
  rcases on_reload m depth id selector args he hi hreload with
    ⟨hresult, hquiet⟩ | ⟨hresult, -, e₁, root, -, hquiet, hinstances⟩
  · obtain ⟨j', hj', hhook, hroot, hscope⟩ := hquiet.instance? hj
    exact ⟨j', hj', hretained hj' hhook (hscope nofun), fun _ => hroot⟩
  · obtain ⟨j₁, hj₁, hhook, hroot, hscope⟩ := hquiet.instance? hj
    have hj' : e'.instance? k = some (if j₁.id = id then j₁.withRoot root else j₁) := by
      rw [Engine.instance?_congr hinstances, Engine.instance?_update, hj₁]
      rfl
    have hid := hwork.sound.id_of_instance? hj'
    refine ⟨_, hj', hretained hj' ?_ ?_, fun hother => ?_⟩
    · split <;> exact hhook
    · split <;> exact hscope nofun
    · have hk := hother.resolve_right fun hnot => hnot hresult
      have hid₁ : j₁.id ≠ id := fun heq => hk (by simpa [heq, Instance.withRoot] using hid.symm)
      rw [if_neg hid₁]
      exact hroot

/-- Whatever comes of a reload, it leaves all of every instance but the tree of its own one, and the
bindings of the scope unless an expression writes to them. It registers nobody, and whoever is
registered stays so unless an expression asks for something else. If it does not go well, no tree
changes and no hook is called; otherwise one element of the tree is replaced. -/
theorem reload_frame {start e e' : Engine} {log : List Entry} (hstart : start.Fresh)
    (h : History m start log e) {depth id : Nat} {selector : Text} {args : Entries} {i : Instance}
    {result : Except Failure Bool} (hi : e.instance? id = some i)
    (hreload : (Action.reload m depth id selector args).on e = (result, e')) :
    e'.registry.Sublist e.registry ∧
    (∀ k ∈ e.registry, k ∈ e'.registry ↔
      ¬ (Activity.perform depth (.reload id selector args)).Unregisters m e k) ∧
    (∀ k j, e.instance? k = some j → ∃ j', e'.instance? k = some j' ∧ j.Retained j' ∧
      (k ≠ id ∨ result ≠ .ok true → j'.root = j.root)) ∧
    (Action.ScopeUntouched m depth id selector args e i →
      e'.heap.mappings[i.scope]? = e.heap.mappings[i.scope]?) ∧
    (result ≠ .ok true → e'.hookCalls = e.hookCalls) ∧
    (result = .ok true → Action.Reloads m depth selector args e i e') := by
  have he := h.sound hstart.sound
  have hwork := Action.works_reload (m := m) depth id selector args e he
  rw [hreload] at hwork
  have hperform : ((Operation.reload id selector args).perform m depth).on e =
      (result.map fun _ => none, e') := by
    rw [Operation.perform, Action.on_bind_none, hreload]
  refine ⟨hwork.registry,
    fun k hk => Activity.mem_registry_perform_iff he hk Operation.noConfusion hperform,
    fun k j hj => Action.retained_reload he hi hreload hj, ?_, ?_⟩
  · rintro ⟨hlt, huntouched⟩
    have hspares := Action.spares_reload (m := m) depth id selector args e hlt
    rw [huntouched, hreload] at hspares
    exact hspares
  · rcases Action.on_reload m depth id selector args he hi hreload with
      ⟨hresult, hquiet⟩ | ⟨hresult, hreloads, -⟩
    · exact ⟨fun _ => hquiet.hookCalls, fun hok => absurd hok hresult⟩
    · exact ⟨fun hnot => absurd hresult hnot, fun _ => hreloads⟩

/-! ## Two reloads -/

def naming : Engine :=
  { sources := .table [("page".toList, "<p>{x}</p>".toList)]
    globals := [("x".toList, .bool true)] }

def namesOnly : Machine := ⟨.plain, 9⟩

theorem guarding_namesOnly (address : Nat) : namesOnly.guarding address = namesOnly := by
  rw [Machine.guarding, namesOnly, Template.Evaluator.guarding_plain]

/-- An instance is run and its only element is rendered anew. -/
theorem reload_frame_naming :
    naming.Fresh ∧ ∃ log e i e', History namesOnly naming log e ∧ e.instance? 1 = some i ∧
      Action.ScopeUntouched namesOnly 3 1 "p".toList [] e i ∧
      (Action.reload namesOnly 3 1 "p".toList []).on e = (.ok true, e') ∧
      e'.heap.mappings[i.scope]? = e.heap.mappings[i.scope]? ∧
      Action.Reloads namesOnly 3 "p".toList [] e i e' := by
  have hfresh : naming.Fresh := ⟨rfl, rfl⟩
  have hstart : History namesOnly naming [] naming := .start
  obtain ⟨log, e, h, hrun, hreload⟩ : ∃ log e, History namesOnly naming log e ∧
      (e.instance? 1).map (fun i => decide (i.scope < e.heap.mappings.size)) = some true ∧
        ((Action.reload namesOnly 3 1 "p".toList []).on e).1.toOption = some true :=
    ⟨_, _, (hstart.next 3 (.create "page".toList none)).next 3 (.run 1 []),
      by decide +kernel, by decide +kernel⟩
  obtain ⟨i, hi, hscope⟩ := Option.map_eq_some_iff.mp hrun
  have huntouched : Action.ScopeUntouched namesOnly 3 1 "p".toList [] e i :=
    ⟨of_decide_eq_true hscope, by rw [guarding_namesOnly]⟩
  cases hend : (Action.reload namesOnly 3 1 "p".toList []).on e with
  | mk result e' =>
      rw [hend] at hreload
      cases result with
      | error failure => cases hreload
      | ok found =>
          cases hreload
          obtain ⟨-, -, -, hkept, -, hreloads⟩ := reload_frame hfresh h hi hend
          exact ⟨hfresh, log, e, i, e', h, hi, huntouched, hend, hkept huntouched, hreloads rfl⟩

/-- The template takes an entry out of the scope of its instance, and disposes of the instance if it
is told to. -/
def popping : Engine :=
  { sources := .table [("page".toList,
      "<p>\x7btpl.scope.pop($k)\x7d\x7btpl.dispose() if $d else 1\x7d</p>".toList)] }

/-- The only element of an instance is rendered anew with other arguments. -/
def poppingReload : Action Bool :=
  Action.reload fewSteps 3 1 "p".toList
    [named "k" (.str "b".toList .shared), named "d" (.bool true)]

theorem reload_changes_scope_and_registry :
    ∃ log e i e', History fewSteps popping log e ∧ e.instance? 1 = some i ∧
      poppingReload.on e = (.ok true, e') ∧
      (e.heap.mapping i.scope).entries.length = 3 ∧
      (e'.heap.mapping i.scope).entries.length = 2 ∧ e.registry = [1] ∧ e'.registry = [] := by
  have hstart : History fewSteps popping [] popping := .start
  obtain ⟨log, e, h, hreload, hbefore, hafter⟩ : ∃ log e, History fewSteps popping log e ∧
      (e.instance? 1).map (fun i =>
        ((poppingReload.on e).1.toOption, (e.heap.mapping i.scope).entries.length,
          ((poppingReload.on e).2.heap.mapping i.scope).entries.length)) = some (some true, 3, 2) ∧
        e.registry = [1] ∧ (poppingReload.on e).2.registry = [] :=
    ⟨_, _, (hstart.next 3 (.create "page".toList none)).next 3 (.run 1
      [named "k" (.str "a".toList .shared), named "a" .none, named "b" .none,
        named "d" (.bool false)]), by decide +kernel, by decide +kernel, by decide +kernel⟩
  obtain ⟨i, hi, hend⟩ := Option.map_eq_some_iff.mp hreload
  cases hrun : poppingReload.on e with
  | mk result e' =>
      rw [hrun] at hend hafter
      cases result with
      | error failure => simp [Except.toOption] at hend
      | ok found =>
          simp only [Except.toOption, Prod.mk.injEq, Option.some.injEq] at hend
          obtain ⟨rfl, hthree, htwo⟩ := hend
          exact ⟨log, e, i, e', h, hi, hrun, hthree, htwo, hbefore, hafter⟩

end Stencil
