import Stencil.Proofs.Template.Restoring
import Stencil.Proofs.Template.Verbatim

/-!
# What conditions of loops see

The variable of a loop with a condition has two copies, one among the names of expressions and one
in the scope. They agree when a turn starts. The condition is evaluated between turns, when the name
has its next value already and the scope still has the one of the last turn, or, before the first
turn, what was there in front of the loop.
-/

namespace Stencil.Template

variable {W : Answers} {ev : Evaluator} {s : Setting} {p : Compiled}

/-- The scope and the names of expressions have the same value for a name. -/
def Setting.CopiesAgree (s : Setting) (m : Memory) (name : Text) : Prop :=
  s.entry m name = m.names.get? name

/-! ## Starts of turns -/

section

variable {m m' : Memory} {name : Text} {pc : Nat} {frame : LoopFrame}

theorem copiesAgree_of_publish (hm : s.Bound m)
    (h : (publish s name).Ends W m (.ok ()) m') : s.CopiesAgree m' name := by
  have hread : Eval.names m = .done (.ok m.names) m := rfl
  rw [publish, Eval.ends_bind_of_apply hread] at h
  cases hn : m.names.get? name with
  | some v =>
      rw [hn] at h
      obtain ⟨-, rfl⟩ := Dialog.ends_done_iff.mp h
      rw [Setting.CopiesAgree, hn, Setting.entry, Heap.mapping_setMapping hm]
      exact Mapping.get?_put_self
  | none =>
      rw [hn] at h
      cases (Eval.ends_fail_iff.mp h).1

theorem copiesAgree_of_enterLoop {head : LoopHead} (hev : ev.Respects W p s.scope) (hm : s.Bound m)
    (h : (enterLoop ev s p pc name head).Ends W m (.ok (frame, true)) m') :
    s.CopiesAgree m' name := by
  rw [enterLoop, Eval.ends_bind_of_apply (saveFrame_apply s name m)] at h
  simp only [Eval.ends_bind_ok_iff, Eval.ends_pure_iff] at h
  obtain ⟨⟨frame', proceed⟩, m₁, hstart, u, m₂, hpublish, hresult, rfl⟩ := h
  cases hresult
  exact copiesAgree_of_publish (hm.of_sameMapping (hev.startTurns pc name head _ _ _ _ hstart))
    hpublish

theorem copiesAgree_of_nextTurn (hev : ev.Respects W p s.scope) (hm : s.Bound m)
    (h : (nextTurn ev s p pc frame).Ends W m (.ok true) m') : s.CopiesAgree m' frame.name := by
  simp only [nextTurn, Eval.ends_bind_ok_iff, Eval.ends_pure_iff] at h
  obtain ⟨proceed, m₁, hgoOn, u, m₂, hpublish, hresult, rfl⟩ := h
  cases hresult
  exact copiesAgree_of_publish (hm.of_sameMapping (hev.goOn pc frame _ _ _ hgoOn)) hpublish

end

/-! ## Turns -/

def Compiled.assigns (p : Compiled) (pc : Nat) (name : Text) : Bool :=
  match p.program[pc]? with
  | some (.assign n _ _) => n == name
  | _ => false

variable (W ev s p) in
/-- A turn of an open loop that started with the memory `first` gets here, and whether an assignment
in it has given the variable of the loop another value in the scope. -/
inductive Turn (start : Memory) (frame : LoopFrame) (outer : List LoopFrame) (first : Memory) :
    (rebound : Bool) → Config → Memory → Prop
  | entered {c c' : Config} {m : Memory} (hc : Reachable W ev s p start c m)
      (hlt : c.pc < p.program.length) (h : (step ev s p c).Ends W m (.ok c') first)
      (houter : c.loops = outer) (hloops : c'.loops = frame :: outer) :
      Turn start frame outer first false c' first
  | repeated {c c' : Config} {m : Memory} (hc : Reachable W ev s p start c m)
      (hi : p.program[c.pc]? = some .closeLoop) (h : (step ev s p c).Ends W m (.ok c') first)
      (hopen : c.loops = frame :: outer) (hloops : c'.loops = frame :: outer) :
      Turn start frame outer first false c' first
  | step {rebound : Bool} {c c' : Config} {m m' : Memory} {inner : List LoopFrame}
      (hturn : Turn start frame outer first rebound c m) (hlt : c.pc < p.program.length)
      (h : (Template.step ev s p c).Ends W m (.ok c') m')
      (hinside : p.program[c.pc]? = some .closeLoop → c.loops ≠ frame :: outer)
      (hloops : c'.loops = inner ++ frame :: outer) :
      Turn start frame outer first (rebound || p.assigns c.pc frame.name) c' m'

section

variable {start first m m' : Memory} {c c' : Config} {frame : LoopFrame}
  {inner outer : List LoopFrame} {rebound : Bool}

theorem Turn.reachable (h : Turn W ev s p start frame outer first rebound c m) :
    Reachable W ev s p start c m := by
  induction h with
  | entered hc hlt h => exact hc.step hlt h
  | repeated hc hi h => exact hc.step (List.getElem?_eq_some_iff.mp hi).1 h
  | step _ hlt h _ _ ih => exact ih.step hlt h

theorem Turn.loops (h : Turn W ev s p start frame outer first rebound c m) :
    ∃ inner, c.loops = inner ++ frame :: outer := by
  cases h with
  | entered _ _ _ _ hloops | repeated _ _ _ _ hloops => exact ⟨[], hloops⟩
  | step _ _ _ _ hloops => exact ⟨_, hloops⟩

theorem Effect.turn {result : Except Failure Config} (h : Effect s p c m result m')
    (hresult : result = .ok c') (hloops : c'.loops = inner ++ frame :: outer) :
    (c.loops = outer ∧ inner = []) ∨ ∃ inner', c.loops = inner' ++ frame :: outer ∧
      (p.program[c.pc]? = some .closeLoop → inner' = [] → inner = []) := by
  cases h with
  | failed => cases hresult
  | kept _ hsame | skipped _ hsame | assigned _ hsame =>
      cases hresult
      exact .inr ⟨inner, hsame ▸ hloops, fun _ => id⟩
  | repeated _ _ hsame =>
      cases hresult
      exact .inr ⟨inner, hsame ▸ hloops, fun _ => id⟩
  | @entered _ _ opened _ _ hi hsame =>
      cases hresult
      rw [hsame] at hloops
      cases inner with
      | nil => exact .inl ⟨(List.cons.inj hloops).2, rfl⟩
      | cons other more =>
          refine .inr ⟨more, (List.cons.inj hloops).2, fun hclose => ?_⟩
          rw [hi] at hclose
          cases hclose
  | @left _ _ closed _ hframe =>
      cases hresult
      refine .inr ⟨closed :: inner, by rw [hframe, hloops]; rfl, fun _ => nofun⟩

theorem Reachable.exists_turn (hc : Reachable W ev s p start c m)
    (hlink : link p.program = .ok p.jumps) (huntouched : ScopeUntouched W ev s p start)
    (hW : CapturesRespect W s.scope) (hloops : c.loops = inner ++ frame :: outer) :
    ∃ first rebound, Turn W ev s p start frame outer first rebound c m := by
  induction hc generalizing inner with
  | initial => simp [Config.initial] at hloops
  | @step c c' m m' hc hlt h ih =>
      have heffect := hc.effect hlink huntouched hW hlt h
      rcases heffect.turn rfl hloops with ⟨houter, rfl⟩ | ⟨inner', hinner', hclosed⟩
      · exact ⟨m', false, .entered hc hlt h houter hloops⟩
      · obtain ⟨first, rebound, hturn⟩ := ih hinner'
        by_cases hlast : p.program[c.pc]? = some .closeLoop ∧ c.loops = frame :: outer
        · obtain rfl : inner' = [] := List.append_left_eq_self.mp (hinner'.symm.trans hlast.2)
          obtain rfl := hclosed hlast.1 rfl
          exact ⟨m', false, .repeated hc hlast.1 h hlast.2 hloops⟩
        · exact ⟨first, _, hturn.step hlt h (fun hi hopen => hlast ⟨hi, hopen⟩) hloops⟩

theorem Turn.copiesAgree (h : Turn W ev s p start frame outer first rebound c m)
    (hlink : link p.program = .ok p.jumps) (huntouched : ScopeUntouched W ev s p start)
    (hW : CapturesRespect W s.scope) (hstart : s.Bound start) :
    s.CopiesAgree first frame.name := by
  have hev := ev.respects_guarding W p s.scope
  induction h with
  | @entered c c' m hc hlt h houter hloops =>
      have hm := hc.bound hlink huntouched hW hstart
      have hlonger : c'.loops ≠ c.loops := by simp [houter, hloops]
      have hguarded := huntouched c m hc _ _ h
      cases hc.effect hlink huntouched hW hlt h with
      | kept _ hsame | assigned _ hsame | skipped _ hsame | repeated _ _ hsame =>
          exact absurd hsame hlonger
      | left _ hframe =>
          have hlength := congrArg List.length hframe
          simp only [houter, hloops, List.length_cons] at hlength
          omega
      | entered hi hsame =>
          obtain ⟨last, hlast, -⟩ := (coherent_of_link hlink).2 hi
          rw [houter, hloops] at hsame
          obtain ⟨rfl, -⟩ := List.cons.inj hsame
          rcases ends_openLoop hi hlast hguarded with
            ⟨frame', henter, hc'⟩ | ⟨frame', m₁, -, -, hc'⟩ | ⟨e, -, hc'⟩
          · exact copiesAgree_of_enterLoop hev hm henter
          · cases hc'
            exact absurd rfl hlonger
          · cases hc'
  | @repeated c c' m hc hi h hopen hloops =>
      have hm := hc.bound hlink huntouched hW hstart
      have hguarded := huntouched c m hc _ _ h
      obtain ⟨start, -, -, -, -, hopens, -⟩ := (coherent_of_link hlink).2 hi
      rcases ends_closeLoop hi hopen hopens hguarded with
        ⟨hnext, -⟩ | ⟨m₁, -, -, hc'⟩ | ⟨e, -, hc'⟩
      · exact copiesAgree_of_nextTurn hev hm hnext
      · cases hc'
        simp at hloops
      · cases hc'
  | step _ _ _ _ _ ih => exact ih

theorem Compiled.ne_assign_of_assigns {pc : Nat} {name : Text} (h : p.assigns pc name = false)
    (expr source : Text) : p.program[pc]? ≠ some (.assign name expr source) := by
  intro hi
  simp [assigns, hi] at h

theorem Turn.entry_undoAll (h : Turn W ev s p start frame outer first rebound c m)
    (hlink : link p.program = .ok p.jumps) (huntouched : ScopeUntouched W ev s p start)
    (hW : CapturesRespect W s.scope) (hstart : s.Bound start) (hrebound : rebound = false)
    (hloops : c.loops = inner ++ frame :: outer) :
    s.entry (undoAll s inner m) frame.name = s.entry first frame.name := by
  induction h generalizing inner with
  | entered _ _ _ _ hopened | repeated _ _ _ _ hopened =>
      obtain rfl : inner = [] := List.append_left_eq_self.mp (hloops.symm.trans hopened)
      rfl
  | step hturn hlt h hinside _ ih =>
      obtain ⟨hrebound, hassigns⟩ := Bool.or_eq_false_iff.mp hrebound
      obtain ⟨inner₁, hloops₁⟩ := hturn.loops
      have heffect := hturn.reachable.effect hlink huntouched hW hlt h
      have hm := hturn.reachable.bound hlink huntouched hW hstart
      rw [heffect.entry_undoInner hm (Compiled.ne_assign_of_assigns hassigns) hloops₁ hloops,
        ih hrebound hloops₁]
      rintro top more hi - rfl
      exact hinside hi hloops₁

end

/-! ## Conditions -/

variable (W ev p) in
/-- The step of a configuration comes to the condition of a range loop, with some memory. -/
inductive Tests (c : Config) (m : Memory) : (name : Text) → (test : Code) → Memory → Prop
  /-- Behind the first expression of the loop, whose value is the first one of the name. -/
  | first {name source first cond next : Text} {init test : Code} {change : StepCode} {v : Value}
      {m₁ : Memory} (hi : p.program[c.pc]? = some (.openLoop name (.range first cond next) source))
      (hcode : p.codes.lookup c.pc = some (.range init test change))
      (hinit : (ev.value init).Ends W m (.ok v) m₁) :
      Tests c m name test { m₁ with names := m₁.names.put name v }
  /-- Behind the step of the loop, at the end of a turn. -/
  | later {name : Text} {frame : LoopFrame} {outer : List LoopFrame} {start : Nat}
      {init test : Code} {change : StepCode} {m₁ : Memory}
      (hi : p.program[c.pc]? = some .closeLoop) (hloops : c.loops = frame :: outer)
      (hname : frame.name = name) (hrange : frame.iterator = none)
      (hstart : p.jumps.loopOpen.lookup c.pc = some start)
      (hcode : p.codes.lookup start = some (.range init test change))
      (hchange : (ev.effect change).Ends W m (.ok ()) m₁) : Tests c m name test m₁

/-- Let no expression of a linked program write to the scope while it runs. When the condition of a
range loop is evaluated for the first time, the copies of its variable agree exactly if the name has
been given the value that the scope had for it in front of the loop, and later exactly if the step
has left the name the value with which the last turn started. They agree at the start of each turn.
Assignments to the variable inside the loop are left aside. -/
theorem copiesAgree_at_condition_iff (nested : Nested) (hlink : link p.program = .ok p.jumps)
    (globals : Names) (h : Heap) (hscope : s.scope < h.mappings.size)
    (huntouched : ScopeUntouched (Action.Answering nested) ev s p ⟨h, startNames globals s⟩)
    {c : Config} {m m₁ : Memory} {name : Text} {test : Code}
    (hc : Reachable (Action.Answering nested) ev s p ⟨h, startNames globals s⟩ c m)
    (htests : Tests (Action.Answering nested) ev p c m name test m₁)
    (hsame : SameMapping s.scope m m₁) :
    (∀ head source, p.program[c.pc]? = some (.openLoop name head source) →
      (s.CopiesAgree m₁ name ↔ m₁.names.get? name = s.entry m name)) ∧
    ∀ frame outer, p.program[c.pc]? = some .closeLoop → c.loops = frame :: outer →
      let TurnFrom := Turn (Action.Answering nested) ev s p ⟨h, startNames globals s⟩ frame outer
      (∃ first rebound, TurnFrom first rebound c m) ∧
      ∀ first rebound, TurnFrom first rebound c m → s.CopiesAgree first name ∧
        (rebound = false →
          (s.CopiesAgree m₁ name ↔ m₁.names.get? name = first.names.get? name)) := by
  have hW := Action.capturesRespect nested s.scope
  have hentry : s.entry m₁ name = s.entry m name := entry_of_sameMapping hsame name
  refine ⟨fun head source _ => by rw [Setting.CopiesAgree, hentry, eq_comm],
    fun frame outer hi hloops => ⟨?_, fun first rebound hturn => ?_⟩⟩
  · have hopen : c.loops = [] ++ frame :: outer := hloops
    exact hc.exists_turn hlink huntouched hW hopen
  · have hagree := hturn.copiesAgree hlink huntouched hW hscope
    obtain rfl : frame.name = name := by
      cases htests with
      | first hi' => cases hi.symm.trans hi'
      | later _ hloops' hname => rw [(List.cons.inj (hloops.symm.trans hloops')).1, hname]
    refine ⟨hagree, fun hrebound => ?_⟩
    have hopen : c.loops = [] ++ frame :: outer := hloops
    have hlast : s.entry m frame.name = s.entry first frame.name :=
      hturn.entry_undoAll hlink huntouched hW hscope hrebound hopen
    rw [Setting.CopiesAgree, hentry, hlast, hagree, eq_comm]

def Evaluator.settling : Evaluator :=
  { Evaluator.plain with effect := fun _ => Eval.putName "i".toList (.bool false) }

theorem Evaluator.guarding_settling (address : Nat) :
    Evaluator.settling.guarding address = .settling := by
  have hplain := Evaluator.guarding_plain address
  have hvalue (code : Code) : guarded address (plain.value code) = plain.value code :=
    congrFun (congrArg Evaluator.value hplain) code
  have hadvance (a : Nat) : guarded address (plain.advance a) = plain.advance a :=
    congrFun (congrArg Evaluator.advance hplain) a
  have heffect : guarded address (Eval.putName "i".toList (.bool false)) =
      Eval.putName "i".toList (.bool false) :=
    guarded_of_apply fun m => ⟨_, _, rfl, rfl⟩
  simp only [guarding, settling, hvalue, hadvance, heffect]

def settlingLoop : Compiled where
  template := "settling".toList
  program := [.openLoop "i".toList (.range "yes".toList "i".toList "i = no".toList) [],
    .literal "x".toList, .closeLoop]
  jumps := ⟨[(0, 2)], [(2, 0)], [], []⟩
  codes := [(0, .range ⟨0, .name "yes".toList⟩ ⟨1, .name "i".toList⟩ ⟨2, []⟩)]

def settlingHeap : Heap := { mappings := #[⟨true, []⟩] }

/-- Behind the step of the loop the copies do not agree any more. -/
theorem copiesAgree_at_condition_iff_settlingLoop :
    ∃ c m m₁,
      Reachable (Action.Answering fun _ _ => throw .exhausted) .settling ⟨.none, 0⟩ settlingLoop
        ⟨settlingHeap, startNames [("yes".toList, .bool true)] ⟨.none, 0⟩⟩ c m ∧
      m₁ = { m with names := m.names.put "i".toList (.bool false) } ∧
      Tests (Action.Answering fun _ _ => throw .exhausted) .settling settlingLoop c m "i".toList
        ⟨1, .name "i".toList⟩ m₁ ∧
      SameMapping 0 m m₁ ∧ ¬ Setting.CopiesAgree ⟨.none, 0⟩ m₁ "i".toList := by
  have hlink : link settlingLoop.program = .ok settlingLoop.jumps := rfl
  have huntouched : ScopeUntouched (Action.Answering fun _ _ => throw .exhausted) .settling
      ⟨.none, 0⟩ settlingLoop
      ⟨settlingHeap, startNames [("yes".toList, .bool true)] ⟨.none, 0⟩⟩ := by
    intro c m _ result m' h
    rwa [Evaluator.guarding_settling]
  have hinitial : Reachable (Action.Answering fun _ _ => throw .exhausted) .settling ⟨.none, 0⟩
      settlingLoop ⟨settlingHeap, startNames [("yes".toList, .bool true)] ⟨.none, 0⟩⟩ .initial _ :=
    .initial
  have hfirst := Turn.entered hinitial (by decide) (.done _ _) rfl rfl
  have hturn := hfirst.step (by decide) (.done _ _) nofun (List.nil_append _).symm
  obtain ⟨-, hlater⟩ := copiesAgree_at_condition_iff _ hlink _ settlingHeap (by decide) huntouched
    hturn.reachable (.later rfl rfl rfl rfl rfl rfl (.done _ _)) rfl
  obtain ⟨-, hiff⟩ := (hlater _ _ rfl rfl).2 _ _ hturn
  refine ⟨_, _, _, hturn.reachable, rfl, .later rfl rfl rfl rfl rfl rfl (.done _ _), rfl,
    fun hagree => ?_⟩
  cases (hiff rfl).mp hagree

def renderedAlone (source : Text) : Except Failure Text :=
  match compile [] 0 (programOf source) with
  | .error e => .error e
  | .ok (compiled, _) =>
    match run (.standard 30) 30 [] ⟨.none, 0⟩ compiled { mappings := #[⟨true, []⟩] } with
    | .done result _ => result
    | .ask .. => .error .exhausted

/-- With the scope's copy in the condition the first test finds nothing to compare. -/
theorem renderedAlone_scopeCondition :
    renderedAlone "\x7bfor i=0;i<3;i++\x7d\x7b$i\x7d\x7b/for\x7d".toList = .ok "012".toList ∧
      renderedAlone "\x7bfor i=0;$i<3;i++\x7d\x7b$i\x7d\x7b/for\x7d".toList =
        .error (.render [] "\x7bfor i=0;$i<3;i++\x7d".toList
          (.notOrdered "<".toList "NoneType".toList "int".toList)) := by
  decide +kernel

end Stencil.Template
