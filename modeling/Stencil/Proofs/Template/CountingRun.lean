import Stencil.Proofs.Template.Counting
import Stencil.Proofs.Template.Lagging

/-!
# Running loops that count

A turn writes the number that it starts with. The next one starts with the number behind it, as long
as that is before the bound; then the variable gets back what it had in front of the loop.
-/

namespace Stencil.Template.Counting

variable {c : Counting} {s : Setting} {start m : Memory} {v : Int}

/-! ## Numbers -/

def value (c : Counting) (turn : Nat) : Int := c.direction.advance c.first (turn * c.size)

theorem value_zero (c : Counting) : c.value 0 = c.first := by
  unfold value Direction.advance
  cases c.direction <;> simp

theorem value_succ (turn : Nat) :
    c.direction.advance (c.value turn) c.size = c.value (turn + 1) := by
  have hmul : ((turn + 1 : Nat) : Int) * c.size = turn * c.size + c.size := by
    rw [Int.natCast_succ, Int.add_mul, Int.one_mul]
  unfold value Direction.advance
  rw [hmul]
  cases c.direction <;> simp only <;> omega

def distance (c : Counting) : Nat :=
  match c.direction with
  | .up => (c.bound - c.first).toNat
  | .down => (c.first - c.bound).toNat

def turns (c : Counting) : Nat := (c.distance + c.size - 1) / c.size

theorem before_value_iff (hsize : 0 < c.size) (turn : Nat) :
    c.direction.before (c.value turn) c.bound = true ↔ turn < c.turns := by
  have hturns : turn < c.turns ↔ turn * c.size < c.distance := by
    rw [turns, Nat.lt_iff_add_one_le, Nat.le_div_iff_mul_le hsize, Nat.succ_mul]
    omega
  have hcast : ((turn * c.size : Nat) : Int) = turn * c.size := Int.natCast_mul ..
  rw [hturns]
  unfold value distance Direction.before Direction.advance
  cases c.direction <;> simp only [decide_eq_true_eq] <;> omega

theorem Written.value (h : c.Written) {turn : Nat}
    (hbefore : c.direction.before (c.value turn) c.bound = true) :
    Token.Writable (c.value turn) := by
  have hbetween : (c.value turn).natAbs ≤ max c.first.natAbs c.bound.natAbs := by
    have hmul : (0 : Int) ≤ turn * c.size := Int.mul_nonneg (by omega) (by omega)
    unfold Counting.value Direction.advance Direction.before at *
    cases hdirection : c.direction <;> simp only [hdirection, decide_eq_true_eq] at hbefore ⊢ <;>
      omega
  refine Nat.le_trans (Text.length_ofNat_mono hbetween) ?_
  rcases Nat.le_total c.first.natAbs c.bound.natAbs with hle | hle
  · rw [Nat.max_eq_right hle]
    exact h.bound
  · rw [Nat.max_eq_left hle]
    exact h.first

/-! ## Memory -/

/-- What the scope held in front of the loop is still there but for the variable of the loop, which
is a number among the names. -/
structure Counted (s : Setting) (start m : Memory) (v : Int) : Prop where
  scope : m.names.get? scopeVariable = some (.mapping s.scope)
  bound : s.Bound m
  others : ∀ x, "i".toList ≠ x → s.entry m x = s.entry start x
  number : ∃ id, m.names.get? "i".toList = some (.int v id)

theorem Counted.of_alike (h : Counted s start m v) {m' : Memory} (hsame : m.Alike m') :
    Counted s start m' v := by
  have hmapping : SameMapping s.scope m m' := by rw [SameMapping, hsame.mappings]
  exact ⟨hsame.names ▸ h.scope, h.bound.of_sameMapping hmapping,
    fun x hx => (entry_of_sameMapping hmapping x).trans (h.others x hx), hsame.names ▸ h.number⟩

def frame (s : Setting) (start : Memory) : LoopFrame :=
  ⟨"i".toList, s.entry start "i".toList, start.names.get? "i".toList, none⟩

theorem Counted.entry_undo (h : Counted s start m v) (x : Text) :
    s.entry ((frame s start).undo s m) x = s.entry start x :=
  LoopFrame.entry_undo_saved h.bound rfl h.others x

structure Turning (s : Setting) (start m : Memory) (v : Int) : Prop extends
  Counted s start m v where
  published : s.CopiesAgree m "i".toList

theorem Counted.publish (h : Counted s start m v) :
    ∃ m', publish s "i".toList m = .done (.ok ()) m' ∧ Turning s start m' v := by
  obtain ⟨id, hid⟩ := h.number
  have hread : Eval.names m = .done (.ok m.names) m := rfl
  have hpublish : Template.publish s "i".toList m =
      scopePut s.scope "i".toList (.int v id) m := by
    rw [Template.publish]
    refine (Eval.bind_of_apply hread).trans ?_
    rw [hid]
  refine ⟨_, hpublish.trans rfl, ⟨h.scope, ?_, fun x hx => ?_, id, hid⟩, ?_⟩
  · simpa [Setting.Bound, Heap.setMapping] using h.bound
  · rw [← h.others x hx]
    simp only [Setting.entry, Heap.mapping_setMapping h.bound, Mapping.get?_put_of_ne hx]
  · simp only [Setting.CopiesAgree, Setting.entry, Heap.mapping_setMapping h.bound,
      Mapping.get?_put_self, hid]

/-! ## Steps -/

/-- A turn starts with a number, or the loop is over and the scope is as it was. -/
def Proceeds (c : Counting) (s : Setting) (start : Memory) (v : Int) (out : Array Text)
    (d : Dialog Config) : Prop :=
  ∃ m', if c.direction.before v c.bound then
      Turning s start m' v ∧ d = .done (.ok ⟨1, out, [frame s start], []⟩) m'
    else (∀ x, s.entry m' x = s.entry start x) ∧ d = .done (.ok ⟨3, out, [], []⟩) m'

def goesOn (c : Counting) (s : Setting) (frame : LoopFrame) (ev : Evaluator) (number : Nat)
    (out : Array Text) : Eval Config := do
  let proceed ← holds ev ⟨number, .compare (.name "i".toList)
    [(c.direction.compareOp, .integer c.bound)]⟩
  publishIf s "i".toList proceed
  if proceed then return ⟨1, out, [frame], []⟩
  else
    restore s frame
    return ⟨3, out, [], []⟩

section

variable {template step : Text} {f number : Nat} {out : Array Text}

theorem Counted.goesOn (h : Counted s start m v) :
    Proceeds c s start v out (c.goesOn s (frame s start) (.standard (f + 5)) number out m) := by
  obtain ⟨id, hid⟩ := h.number
  obtain ⟨m₁, hcondition, hsame⟩ := Eval.eval_comparison c.direction f number c.bound hid
  have hholds : holds (.standard (f + 5)) ⟨number, .compare (.name "i".toList)
      [(c.direction.compareOp, .integer c.bound)]⟩ m =
        .done (.ok (c.direction.before v c.bound)) m₁ :=
    Eval.bind_of_apply hcondition
  have hcounted := h.of_alike hsame
  unfold Proceeds
  cases hbefore : c.direction.before v c.bound with
  | false =>
      rw [hbefore] at hholds
      refine ⟨(frame s start).undo s m₁, hcounted.entry_undo, ?_⟩
      exact (Eval.bind_of_apply hholds).trans (Eval.bind_of_apply (restore_apply s _ m₁))
  | true =>
      rw [hbefore] at hholds
      obtain ⟨m₂, hpublish, hturning⟩ := hcounted.publish
      refine ⟨m₂, hturning, ?_⟩
      exact (Eval.bind_of_apply hholds).trans (Eval.bind_of_apply hpublish)

theorem step_open (hscope : start.names.get? scopeVariable = some (.mapping s.scope))
    (hbound : s.Bound start) :
    Proceeds c s start c.first #[]
      (Template.step (.standard (f + 5)) s (c.compiled template number step) .initial start) := by
  obtain ⟨id, m₁, hfirst, hsame⟩ := Eval.eval_integer (f + 2) number start c.first
  have hmapping : SameMapping s.scope start m₁ := by rw [SameMapping, hsame.mappings]
  have hne : "i".toList ≠ scopeVariable := by decide
  have hcounted : Counted s start { m₁ with names := m₁.names.put "i".toList (.int c.first id) }
      c.first :=
    ⟨by rw [Names.get?_put_of_ne hne, hsame.names, hscope], hbound.of_sameMapping hmapping,
      fun x _ => entry_of_sameMapping hmapping x, id, Names.get?_put_self⟩
  have hput : Eval.putName "i".toList (.int c.first id) m₁ =
      .done (.ok ()) { m₁ with names := m₁.names.put "i".toList (.int c.first id) } := rfl
  have hstep : Template.step (.standard (f + 5)) s (c.compiled template number step) .initial =
      saveFrame s "i".toList >>= fun saved =>
        Eval.eval (f + 5) ⟨number, []⟩ (.integer c.first) >>= fun v =>
          Eval.putName "i".toList v >>= fun _ =>
            c.goesOn s saved (.standard (f + 5)) (number + 1) #[] := by
    have hclose : (c.compiled template number step).jumps.loopClose.lookup 0 = some 2 := rfl
    rw [step_openLoop _ s _ rfl, openLoop_eq _ s _ hclose, enterLoop, bind_assoc]
    refine bind_congr fun saved => ?_
    simp only [startTurns, bind_assoc, pure_bind]
    rfl
  rw [hstep, Eval.bind_of_apply (saveFrame_apply s _ start), Eval.bind_of_apply hfirst,
    Eval.bind_of_apply hput]
  exact hcounted.goesOn

theorem escape_eq_self {t : Text} (h : ∀ ch ∈ t, entity? ch = none ∧ ch ≠ ' ') : escape t = t := by
  unfold escape
  induction t with
  | nil => rfl
  | cons ch t ih =>
      obtain ⟨⟨hentity, hspace⟩, ht⟩ := List.forall_mem_cons.1 h
      rw [List.flatMap_cons, hentity, Option.getD_none, List.singleton_append, escapeSpaces,
        if_neg fun h => hspace h.1, ih ht]

theorem escape_ofInt (n : Int) : escape (Text.ofInt n) = Text.ofInt n := by
  refine escape_eq_self fun ch hch => ?_
  have hother (d : Char) (hd : d.isDigit = false) (hne : d ≠ '-') : ch ≠ d := fun heq =>
    Text.notMem_ofInt hd hne n (heq ▸ hch)
  refine ⟨?_, hother ' ' rfl (by decide)⟩
  unfold entity?
  split <;> first | rfl | exact absurd rfl (hother _ rfl (by decide))

theorem step_output (h : Turning s start m v) (hv : Token.Writable v) :
    Template.step (.standard (f + 5)) s (c.compiled template number step)
        ⟨1, out, [frame s start], []⟩ m =
      .done (.ok ⟨2, out.push (Text.ofInt v), [frame s start], []⟩) m := by
  obtain ⟨id, hid⟩ := h.number
  have hentry : s.entry m "i".toList = some (.int v id) := h.published.trans hid
  have hscope : Eval.eval (f + 4) ⟨number + 3, []⟩ (.name scopeVariable) m =
      .done (.ok (.mapping s.scope)) m := Eval.lookupName_apply (number + 3) h.scope
  have hkey : Eval.eval (f + 4) ⟨number + 3, []⟩ (.constant (.str "i".toList)) m =
      .done (.ok (.str "i".toList .shared)) m := rfl
  have hitem : Eval.getKey s.scope (.str "i".toList .shared) m = .done (.ok (.int v id)) m := by
    have hcheck : Eval.checkKey (.str "i".toList .shared) m = .done (.ok ()) m := rfl
    have hheap : Eval.heap m = .done (.ok m.heap) m := rfl
    refine (Eval.bind_of_apply hcheck).trans ((Eval.bind_of_apply hheap).trans ?_)
    rw [Setting.entry] at hentry
    rw [hentry]
    rfl
  have hlookup : Eval.eval (f + 5) ⟨number + 3, []⟩ lookup m = .done (.ok (.int v id)) m := by
    rw [lookup, Eval.eval]
    · exact (Eval.bind_of_apply hscope).trans ((Eval.bind_of_apply hkey).trans hitem)
    · intro start stop step h
      cases h
  have htext : outputText (.int v id) true m = .done (.ok (Text.ofInt v)) m := by
    have hdatum : Eval.datum (.int v id) m = .done (.ok (.int v)) m := rfl
    have hwritable : (Datum.int v).isWritable = true := decide_eq_true hv
    have hwrite : Eval.write Datum.written (.int v id) m = .done (.ok (Text.ofInt v)) m := by
      refine (Eval.bind_of_apply hdatum).trans ?_
      rw [Datum.write, if_pos hwritable]
      rfl
    refine (Eval.bind_of_apply hwrite).trans ?_
    change Dialog.done (.ok (escape (Text.ofInt v))) m = _
    rw [escape_ofInt]
  exact (Eval.bind_of_apply hlookup).trans (Eval.bind_of_apply htext)

theorem step_close (h : Turning s start m v) :
    Proceeds c s start (c.direction.advance v c.size) out
      (Template.step (.standard (f + 5)) s (c.compiled template number step)
        ⟨2, out, [frame s start], []⟩ m) := by
  obtain ⟨id, hid⟩ := h.number
  obtain ⟨id', m₁, hupdate, hnames, hmappings⟩ :=
    Eval.execute_update c.direction (f + 3) (number + 2) c.size hid
  have hmapping : SameMapping s.scope m m₁ := by rw [SameMapping, hmappings]
  have hne : "i".toList ≠ scopeVariable := by decide
  have hcounted : Counted s start m₁ (c.direction.advance v c.size) :=
    ⟨by rw [hnames, Names.get?_put_of_ne hne, h.scope], h.bound.of_sameMapping hmapping,
      fun x hx => (entry_of_sameMapping hmapping x).trans (h.others x hx), id',
      by rw [hnames, Names.get?_put_self]⟩
  let update : StepCode :=
    ⟨number + 2, [.update (.name "i".toList) c.direction.binaryOp (.constant (.int c.size))]⟩
  have heffect : (Evaluator.standard (f + 5)).effect update m = .done (.ok ()) m₁ :=
    Eval.bind_of_apply hupdate
  have hstep : Template.step (.standard (f + 5)) s (c.compiled template number step)
      ⟨2, out, [frame s start], []⟩ = (Evaluator.standard (f + 5)).effect update >>= fun _ =>
        c.goesOn s (frame s start) (.standard (f + 5)) (number + 1) out := by
    have hopen : (c.compiled template number step).jumps.loopOpen.lookup 2 = some 0 := rfl
    rw [step_closeLoop _ s _ rfl, closeLoop_eq _ s _ rfl hopen, nextTurn, goOn]
    simp only [frame, bind_assoc]
    rfl
  rw [hstep, Eval.bind_of_apply heffect]
  exact hcounted.goesOn

end

/-! ## Runs -/

theorem runFrom_of_step {ev : Evaluator} {p : Compiled} {i : Instruction} {b b' : Config}
    {m m' : Memory} (hi : p.program[b.pc]? = some i)
    (h : Template.step ev s p b m = .done (.ok b') m') (n : Nat) :
    runFrom ev s p (n + 1) b m = runFrom ev s p n b' m' := by
  rw [runFrom_succ ev s p n hi, located_handle, Eval.handle, h]
  rfl

def texts (c : Counting) (first turns : Nat) : List Text :=
  (List.range' first turns).map fun turn => Text.ofInt (c.value turn)

theorem runFrom_of_proceeds (template step : Text) (f number : Nat) (hsize : 0 < c.size)
    (hwritten : c.Written) (remaining : Nat) {turn : Nat}
    (hturns : turn + remaining = c.turns) {out : Array Text} {d : Dialog Config}
    (h : c.Proceeds s start (c.value turn) out d) : ∃ b m₁ m',
      d = .done (.ok b) m₁ ∧ (∀ x, s.entry m' x = s.entry start x) ∧ ∀ n,
        runFrom (.standard (f + 5)) s (c.compiled template number step) (n + 2 * remaining + 1) b
          m₁ = .done (.ok (out ++ (c.texts turn remaining).toArray)) m' := by
  induction remaining generalizing turn out d with
  | zero =>
      have hafter : ¬ c.direction.before (c.value turn) c.bound = true := by
        rw [before_value_iff hsize]
        omega
      obtain ⟨m', hproceeds⟩ := h
      rw [if_neg hafter] at hproceeds
      obtain ⟨hentries, rfl⟩ := hproceeds
      refine ⟨_, _, m', rfl, hentries, fun n => ?_⟩
      have hlast : (c.compiled template number step).program.length ≤ 3 := Nat.le_refl 3
      rw [runFrom_end _ s _ n hlast]
      exact congrArg (fun written => Dialog.done (.ok written) m') Array.append_empty.symm
  | succ remaining ih =>
      have hbefore : c.direction.before (c.value turn) c.bound = true := by
        rw [before_value_iff hsize]
        omega
      obtain ⟨m₁, hproceeds⟩ := h
      rw [if_pos hbefore] at hproceeds
      obtain ⟨hturning, rfl⟩ := hproceeds
      have hclose : c.Proceeds s start (c.value (turn + 1)) (out.push (Text.ofInt (c.value turn)))
          (Template.step (.standard (f + 5)) s (c.compiled template number step)
            ⟨2, out.push (Text.ofInt (c.value turn)), [frame s start], []⟩ m₁) := by
        rw [← value_succ]
        exact step_close hturning
      obtain ⟨b, m₂, m', hstep, hentries, hrun⟩ := ih (by omega) hclose
      refine ⟨_, m₁, m', rfl, hentries, fun n => ?_⟩
      have hfuel : n + 2 * (remaining + 1) + 1 = n + 2 * remaining + 1 + 1 + 1 := by omega
      rw [hfuel, runFrom_of_step rfl (step_output hturning (hwritten.value hbefore)),
        runFrom_of_step rfl hstep, hrun]
      simp [texts, List.range'_succ]

/-- Let the numbers of a counting loop be such that an expression can hold them, and let its steps
go somewhere. However the step is written, its template becomes a program that runs to its end. It
writes, one after the other, the numbers that come before the bound, the scope is what it was
before, and nothing is asked of the engine. -/
theorem counting_rendered (c : Counting) (hsize : 0 < c.size) (hwritten : c.Written) {step : Text}
    (hstep : step ∈ c.steps) :
    ∃ program : Program,
      (∀ (trim : Bool) (m : Type → Type) [Monad m] [LawfulMonad m] (handler : IncludeHandler m),
        generate handler (extract trim (c.source step)).segments = pure program) ∧
      ∀ (template : Text) (number : Nat), ∃ compiled,
        compile template number program = .ok (compiled, number + 4) ∧
        ∃ turns enough, (∀ turn, c.direction.before (c.value turn) c.bound = true ↔ turn < turns) ∧
          ∀ (fuel steps : Nat) (globals : Names) (s : Setting) (h : Heap), enough ≤ fuel →
            enough ≤ steps → s.scope < h.mappings.size → ∃ m',
              run (.standard fuel) steps globals s compiled h =
                .done (.ok ((List.range turns).flatMap fun turn => Text.ofInt (c.value turn))) m' ∧
              ∀ x, s.entry m' x = s.entry ⟨h, startNames globals s⟩ x := by
  refine ⟨c.program step, fun trim m _ _ handler => generate_source hstep trim handler,
    fun template number => ⟨_, compile_program hwritten hstep template number, c.turns,
      2 * c.turns + 5, before_value_iff hsize,
      fun fuel steps globals s h hfuel hsteps hscope => ?_⟩⟩
  obtain ⟨f, rfl⟩ : ∃ f, fuel = f + 5 := ⟨fuel - 5, by omega⟩
  obtain ⟨n, rfl⟩ : ∃ n, steps = n + 2 * c.turns + 1 + 1 := ⟨steps - 2 * c.turns - 2, by omega⟩
  have hvariable : (startNames globals s).get? scopeVariable = some (.mapping s.scope) := by
    rw [startNames, Names.get?_put_of_ne (by decide), Names.get?_put_self]
  have hopen : c.Proceeds s ⟨h, startNames globals s⟩ (c.value 0) #[]
      (Template.step (.standard (f + 5)) s (c.compiled template number step) .initial
        ⟨h, startNames globals s⟩) := by
    rw [value_zero]
    exact step_open hvariable hscope
  obtain ⟨b, m₁, m', hfirst, hentries, hrun⟩ :=
    runFrom_of_proceeds template step f number hsize hwritten c.turns (Nat.zero_add _) hopen
  refine ⟨m', ?_, hentries⟩
  have hfrom := (runFrom_of_step rfl hfirst _).trans (hrun n)
  refine (Eval.bind_of_apply hfrom).trans ?_
  have htexts : (#[] ++ (c.texts 0 c.turns).toArray).toList.flatten =
      (List.range c.turns).flatMap fun turn => Text.ofInt (c.value turn) := by
    rw [Array.empty_append, List.toList_toArray, texts, ← List.range_eq_range', List.flatMap_def]
  exact congrArg (fun written => Dialog.done (.ok written) m') htexts

def countdown : Counting := ⟨.down, 2, -2, 1⟩

theorem counting_rendered_countdown :
    0 < countdown.size ∧ countdown.Written ∧ "--i".toList ∈ countdown.steps ∧
      countdown.source "--i".toList = "\x7bfor i=2;i>-2;--i\x7d\x7b$i\x7d\x7b/for\x7d".toList ∧
      ∃ compiled enough m',
        compile [] 0 (programOf (countdown.source "--i".toList)) = .ok (compiled, 4) ∧
        run (.standard enough) enough [] ⟨.none, 0⟩ compiled
          { mappings := #[⟨true, [(.str "i".toList .shared, .bool true)]⟩] } =
            .done (.ok "210-1".toList) m' ∧
        Setting.entry ⟨.none, 0⟩ m' "i".toList = some (.bool true) := by
  have hsize : 0 < countdown.size := by decide
  have hwritten : countdown.Written := by constructor <;> decide
  have hstep : "--i".toList ∈ countdown.steps := by decide
  obtain ⟨program, hprogram, hcompile⟩ := counting_rendered countdown hsize hwritten hstep
  obtain ⟨compiled, hcompiled, turns, enough, hturns, hrun⟩ := hcompile [] 0
  have hfour : turns = 4 := by
    have hlast : 3 < turns := (hturns 3).1 (by decide)
    have hover : ¬ 4 < turns := mt (hturns 4).2 (by decide)
    omega
  obtain ⟨m', hresult, hentries⟩ := hrun enough enough [] ⟨.none, 0⟩
    { mappings := #[⟨true, [(.str "i".toList .shared, .bool true)]⟩] } le_rfl le_rfl (by decide)
  have hsource : programOf (countdown.source "--i".toList) = program := hprogram false Id none
  rw [hfour] at hresult
  exact ⟨hsize, hwritten, hstep, by decide, compiled, enough, m', by rw [hsource, hcompiled],
    hresult, hentries _⟩

end Stencil.Template.Counting
