import Stencil.Eval.TextMethod
import Stencil.Proofs.Eval.Mirroring.Items
import Stencil.Proofs.Eval.Mirroring.Iterate

/-!
# Methods of texts in step
-/

namespace Stencil.Eval

variable {μ : Matching}

/-! ## Arguments -/

theorem mirrors_textOr (complain : Text → Fault) {v v' : Value} (hv : v.Matches μ v') :
    Mirrors μ Eq (textOr complain v) (textOr complain v') := by
  have hcomplaint := mirrors_complaint (R := Eq (α := Text)) hv complain
  unfold textOr
  cases hv with
  | str => exact .pure rfl
  | _ => exact hcomplaint

section

variable {vs ws : List Value} (h : List.Forall₂ (Value.Matches μ) vs ws)
include h

theorem mirrors_windowArguments : Mirrors μ Eq (windowArguments vs) (windowArguments ws) := by
  unfold windowArguments
  rcases h with _ | ⟨ha, _ | ⟨hb, -⟩⟩
  · exact .pure rfl
  · exact (mirrors_sliceBound ha).bind_eq fun _ => .pure rfl
  · exact (mirrors_sliceBound ha).bind_eq fun _ => (mirrors_sliceBound hb).bind_eq fun _ =>
      .pure rfl

theorem mirrors_findIn (search : Text → Text → Option Nat) (t : Text) :
    Mirrors μ Eq (findIn search t vs) (findIn search t ws) := by
  unfold findIn
  cases h with
  | nil => exact .pure rfl
  | cons hv hrest =>
    refine (mirrors_textOr _ hv).bind_eq fun needle =>
      (mirrors_windowArguments hrest).bind_eq fun (start, stop) => ?_
    dsimp only
    cases Text.window t start stop with
    | some _ => exact .pure rfl
    | none => exact .pure rfl

theorem mirrors_indexOfText (search : Text → Text → Option Nat) (t : Text) :
    Mirrors μ (Value.Matches μ) (indexOfText search t vs) (indexOfText search t ws) := by
  refine (mirrors_findIn h search t).bind_eq fun found => ?_
  cases found with
  | some i => exact mirrors_newInt _
  | none => exact .fault _

theorem mirrors_countIn (t : Text) : Mirrors μ Eq (countIn t vs) (countIn t ws) := by
  unfold countIn
  cases h with
  | nil => exact .pure rfl
  | cons hv hrest =>
    refine (mirrors_textOr _ hv).bind_eq fun needle =>
      (mirrors_windowArguments hrest).bind_eq fun (start, stop) => ?_
    dsimp only
    cases Text.window t start stop with
    | some _ => exact .pure rfl
    | none => exact .pure rfl

theorem mirrors_endIn (function : Text) (test : Text → Text → Bool) (t : Text) :
    Mirrors μ Eq (endIn function test t vs) (endIn function test t ws) := by
  unfold endIn
  cases h with
  | nil => exact .pure rfl
  | cons hv hrest =>
    refine (mirrors_windowArguments hrest).bind_eq fun (start, stop) => ?_
    have hcomplaint := mirrors_complaint (R := Eq (α := Bool)) hv (.headNeedsText function)
    cases hv with
    | str => exact .pure rfl
    | tuple hvs =>
      refine (Mirrors.mapM (S := Eq) hvs fun _ _ hv => mirrors_textOr _ hv).bind
        fun needles needles' hneedles => ?_
      rw [List.forall₂_eq_eq_eq] at hneedles
      exact .pure (by rw [hneedles])
    | _ => exact hcomplaint

theorem mirrors_stripArgument (function : Text) :
    Mirrors μ Eq (stripArgument function vs) (stripArgument function ws) := by
  unfold stripArgument
  rcases h with _ | ⟨hv, hrest⟩
  · exact .pure rfl
  · cases hv with
    | str => exact .pure rfl
    | none =>
      cases hrest with
      | nil => exact .pure rfl
      | cons => exact .fault _
    | _ => exact .fault _

end

theorem mirrors_separator? {x y : Option Value} (h : Option.Rel (Value.Matches μ) x y) :
    Mirrors μ Eq (separator? x) (separator? y) := by
  unfold separator?
  rcases h with hv | _
  · have hcomplaint := mirrors_complaint (R := Eq (α := Option Text)) hv .separatorNeedsText
    cases hv with
    | str t =>
      cases t with
      | nil => exact .fault _
      | cons => exact .pure rfl
    | none => exact .pure rfl
    | _ => exact hcomplaint
  · exact .pure rfl

section

variable {args args' : Arguments} (hargs : args.Matches μ args') (function : Text)
include hargs

theorem mirrors_splitArguments :
    Mirrors μ Eq (splitArguments function args) (splitArguments function args') := by
  unfold splitArguments
  refine (mirrors_takeNamed hargs function _).bind fun given given' hgiven => ?_
  have hseparator := mirrors_separator? (hgiven.headD .none)
  have hend (times : Int) : Mirrors μ Eq
      (do return (← separator? (given.headD none), if times < 0 then none else some times.toNat))
      (do return (← separator? (given'.headD none),
        if times < 0 then none else some times.toNat)) :=
    hseparator.bind_eq fun _ => .pure rfl
  rcases hgiven with _ | ⟨_, _ | ⟨hv | _, _ | _⟩⟩
  · exact hend (-1)
  · exact hend (-1)
  · exact (mirrors_toIndex hv).bind_eq hend
  · exact hend (-1)
  · exact hend (-1)
  · exact hend (-1)

theorem mirrors_fillArguments :
    Mirrors μ Eq (fillArguments function args) (fillArguments function args') := by
  unfold fillArguments
  refine (mirrors_takeBetween hargs function 1 2).bind fun given given' hgiven => ?_
  rcases hgiven with _ | ⟨hw, _ | ⟨hc, _ | _⟩⟩
  · exact .pure rfl
  · exact (mirrors_toIndex hw).bind_eq fun _ => .pure rfl
  · have hcomplaint := mirrors_complaint (R := Eq (α := Nat × Char)) hc .fillNeedsText
    cases hc with
    | str t =>
      rcases t with _ | ⟨c, _ | _⟩
      · exact .fault _
      · exact (mirrors_toIndex hw).bind_eq fun _ => .pure rfl
      · exact .fault _
    | _ => exact hcomplaint
  · cases hc with
    | str t => rcases t with _ | ⟨c, _ | _⟩ <;> exact .pure rfl
    | _ => exact .pure rfl

end

theorem mirrors_newTexts (ts : List Text) :
    Mirrors μ (Value.Matches μ) (newTexts ts) (newTexts ts) :=
  (Mirrors.mapM (List.forall₂_same.mpr fun _ _ => rfl) fun t _ h => h ▸ mirrors_newText t).bind
    fun _ _ h => mirrors_newList h

theorem mirrors_partition (found : Option (Text × Text)) {v w : Value} (hv : v.Matches μ w)
    (missing : Text × Text × Text) :
    Mirrors μ (Value.Matches μ) (partition found v missing) (partition found w missing) := by
  unfold partition
  cases found with
  | some parts =>
    exact (mirrors_newText _).bind fun _ _ hb => (mirrors_newText _).bind fun _ _ hc =>
      mirrors_newTuple (.cons hb (.cons hv (.cons hc .nil)))
  | none =>
    exact (mirrors_newText _).bind fun _ _ ha => (mirrors_newText _).bind fun _ _ hb =>
      (mirrors_newText _).bind fun _ _ hc => mirrors_newTuple (.cons ha (.cons hb (.cons hc .nil)))

theorem mirrors_joinTexts (separator : Text) {vs ws : List Value}
    (h : List.Forall₂ (Value.Matches μ) vs ws) :
    Mirrors μ (Value.Matches μ) (joinTexts separator vs) (joinTexts separator ws) := by
  refine (Mirrors.mapM (S := Eq) (h.zipIdx 0) fun p q hpq => ?_).bind fun parts parts' hparts => ?_
  · simp only [hpq.2]
    exact mirrors_textOr _ hpq.1
  · rw [List.forall₂_eq_eq_eq] at hparts
    rw [hparts]
    exact mirrors_newText _

/-! ## Formats -/

theorem mirrors_fieldStep {v w : Value} (hv : v.Matches μ w) (s : Format.Step) :
    Mirrors μ (Value.Matches μ) (fieldStep v s) (fieldStep w s) := by
  cases s with
  | member n => exact mirrors_getMember hv n
  | item i => exact mirrors_getItem hv (Value.matches_ofInt _ .shared)
  | key n => exact mirrors_getItem hv (Value.matches_ofText _ .shared)

section

variable {vs ws : List Value} (h : List.Forall₂ (Value.Matches μ) vs ws)
  {named named' : Text → Eval Value}
  (hnamed : ∀ n, Mirrors μ (Value.Matches μ) (named n) (named' n))
include h hnamed

theorem mirrors_fetchField (path : Format.Path) :
    Mirrors μ Eq (fetchField vs named path) (fetchField ws named' path) := by
  have hsource : Mirrors μ (Value.Matches μ) (fieldSource vs named path.source)
      (fieldSource ws named' path.source) := by
    unfold fieldSource
    cases path.source with
    | named n => exact hnamed n
    | position i =>
      have hi := h.getElem? i
      dsimp only
      generalize vs[i]? = x at hi ⊢
      generalize ws[i]? = y at hi ⊢
      cases hi with
      | some hv => exact .pure hv
      | none => exact .fault _
  refine hsource.bind fun v w hv => (Mirrors.foldlM (List.forall₂_same.mpr fun _ _ => rfl)
    (fun _ _ _ _ hv hs => hs ▸ mirrors_fieldStep hv _) hv).bind fun v w hv => ?_
  cases path.mistake with
  | some f => exact .fault f
  | none => exact mirrors_datum hv

end

section

variable {present : Datum → Text → Except Fault Text} {fetch fetch' : Format.Path → Eval Datum}
  (hfetch : ∀ path, Mirrors μ Eq (fetch path) (fetch' path))
include hfetch

theorem mirrors_fillField {fill fill' : Format.Numbering → Text → Eval (Text × Format.Numbering)}
    (hfill : ∀ numbering t, Mirrors μ Eq (fill numbering t) (fill' numbering t))
    (numbering : Format.Numbering) (field : Format.Field) :
    Mirrors μ Eq (Format.fillField fault present fetch fill numbering field)
      (Format.fillField fault present fetch' fill' numbering field) := by
  unfold Format.fillField
  cases Format.pathOf numbering field.name with
  | error f => exact .fault f
  | ok found =>
    refine (hfetch found.1).bind_eq fun d => ?_
    cases Format.convert field.conversion d with
    | error f => exact .fault f
    | ok d =>
      dsimp only
      split_ifs
      · refine (hfill _ _).bind_eq fun filled => ?_
        cases present d filled.1 with
        | error f => exact .fault f
        | ok shown => exact .pure rfl
      · refine (Mirrors.pure rfl).bind_eq fun filled => ?_
        cases present d filled.1 with
        | error f => exact .fault f
        | ok shown => exact .pure rfl

theorem mirrors_fillPieces {fill fill' : Format.Numbering → Text → Eval (Text × Format.Numbering)}
    (hfill : ∀ numbering t, Mirrors μ Eq (fill numbering t) (fill' numbering t))
    (numbering : Format.Numbering) (t : Text) :
    Mirrors μ Eq (Format.fillPieces fault present fetch fill numbering t)
      (Format.fillPieces fault present fetch' fill' numbering t) := by
  have hrest {x y : Eval (Text × Format.Numbering)} {literal rest : Text}
      (hxy : Mirrors μ Eq x y) (ih : ∀ numbering, Mirrors μ Eq
        (Format.fillPieces fault present fetch fill numbering rest)
        (Format.fillPieces fault present fetch' fill' numbering rest)) : Mirrors μ Eq
      (do
        let shown ← x
        let more ← Format.fillPieces fault present fetch fill shown.2 rest
        pure (literal ++ shown.1 ++ more.1, more.2))
      (do
        let shown ← y
        let more ← Format.fillPieces fault present fetch' fill' shown.2 rest
        pure (literal ++ shown.1 ++ more.1, more.2)) :=
    hxy.bind_eq fun _ => (ih _).bind_eq fun _ => .pure rfl
  induction numbering, t using Format.fillPieces.induct (m := Eval) fault present fetch fill with
  | case1 numbering t f hpiece =>
    rw [Format.fillPieces, Format.fillPieces, hpiece]
    exact .fault f
  | case2 numbering t hpiece =>
    rw [Format.fillPieces, Format.fillPieces, hpiece]
    exact .pure rfl
  | case3 numbering t piece rest hpiece hlength hfield ih =>
    rw [Format.fillPieces, Format.fillPieces, hpiece]
    simp only [dif_pos hlength, hfield]
    exact hrest (.pure rfl) ih
  | case4 numbering t piece rest hpiece hlength field hfield ih =>
    rw [Format.fillPieces, Format.fillPieces, hpiece]
    simp only [dif_pos hlength, hfield]
    exact hrest (mirrors_fillField hfetch hfill numbering field) ih
  | case5 numbering t piece rest hpiece hlength =>
    rw [Format.fillPieces, Format.fillPieces, hpiece]
    simp only [dif_neg hlength]
    exact .pure rfl

theorem mirrors_fill (depth : Nat) (numbering : Format.Numbering) (t : Text) :
    Mirrors μ Eq (Format.fill fault present fetch depth numbering t)
      (Format.fill fault present fetch' depth numbering t) := by
  induction depth generalizing numbering t with
  | zero => exact .fault _
  | succ deeper ih => exact mirrors_fillPieces hfetch ih numbering t

end

theorem mirrors_formatText (t : Text) {vs ws : List Value}
    (h : List.Forall₂ (Value.Matches μ) vs ws) {named named' : Text → Eval Value}
    (hnamed : ∀ n, Mirrors μ (Value.Matches μ) (named n) (named' n)) :
    Mirrors μ (Value.Matches μ) (formatText t vs named) (formatText t ws named') :=
  (mirrors_fill (mirrors_fetchField h hnamed) _ _ _).bind_eq fun _ => mirrors_newText _

theorem mirrors_namedArgument (n : Text) {named named' : List (Text × Value)}
    (h : List.Forall₂ (NamedMatches μ) named named') :
    Mirrors μ (Value.Matches μ) (namedArgument named n) (namedArgument named' n) := by
  have hn := lookup_matches n h
  unfold namedArgument
  generalize named.lookup n = x at hn ⊢
  generalize named'.lookup n = y at hn ⊢
  cases hn with
  | some hv => exact .pure hv
  | none => exact .fault _

/-! ## Methods -/

theorem mirrors_plainTextMethod {n : String} {t : Text} {x : Eval Value}
    (h : plainTextMethod? n t = some x) : Mirrors μ (Value.Matches μ) x x := by
  unfold plainTextMethod? at h
  dsimp only at h
  split at h <;> cases h <;> first | exact mirrors_newText _ | exact .pure (.bool _)

theorem mirrors_textMethod {reach reach' : Reach} (hreach : reach.Mirrors μ reach') (name : Text)
    {v v' : Value} (hv : v.Matches μ v') (t : Text) {args args' : Arguments}
    (hargs : args.Matches μ args') :
    Mirrors μ (Value.Matches μ) (textMethod reach name v t args)
      (textMethod reach' name v' t args') := by
  unfold textMethod
  dsimp only
  generalize String.ofList name = n
  cases hplain : plainTextMethod? n t with
  | some x =>
    exact (mirrors_takeNone hargs _).bind_eq fun _ => mirrors_plainTextMethod hplain
  | none =>
    have hbetween (least most : Nat) := mirrors_takeBetween hargs name least most
    have hone := mirrors_takeOne hargs (methodName "str" name)
    have hfilled (pad : Char → Nat → Text → Text) : Mirrors μ (Value.Matches μ)
        (do
          let filling ← fillArguments name args
          newText (pad filling.2 filling.1 t))
        (do
          let filling ← fillArguments name args'
          newText (pad filling.2 filling.1 t)) :=
      (mirrors_fillArguments hargs name).bind_eq fun _ => mirrors_newText _
    dsimp only
    split
    · exact (hbetween 1 3).bind fun _ _ h => (mirrors_findIn h _ t).bind_eq fun _ =>
        mirrors_newInt _
    · exact (hbetween 1 3).bind fun _ _ h => (mirrors_findIn h _ t).bind_eq fun _ =>
        mirrors_newInt _
    · exact (hbetween 1 3).bind fun _ _ h => mirrors_indexOfText h _ t
    · exact (hbetween 1 3).bind fun _ _ h => mirrors_indexOfText h _ t
    · exact (hbetween 1 3).bind fun _ _ h => (mirrors_countIn h t).bind_eq fun _ =>
        mirrors_newInt _
    · exact (hbetween 1 3).bind fun _ _ h => (mirrors_endIn h name _ t).bind_eq fun _ =>
        .pure (.bool _)
    · exact (hbetween 1 3).bind fun _ _ h => (mirrors_endIn h name _ t).bind_eq fun _ =>
        .pure (.bool _)
    · exact (hbetween 0 1).bind fun _ _ h => (mirrors_stripArgument h name).bind_eq fun _ =>
        mirrors_newText _
    · exact (hbetween 0 1).bind fun _ _ h => (mirrors_stripArgument h name).bind_eq fun _ =>
        mirrors_newText _
    · exact (hbetween 0 1).bind fun _ _ h => (mirrors_stripArgument h name).bind_eq fun _ =>
        mirrors_newText _
    · refine (mirrors_splitArguments hargs name).bind_eq fun splitting => ?_
      rcases splitting with ⟨_ | separator, times⟩ <;> exact mirrors_newTexts _
    · refine (mirrors_splitArguments hargs name).bind_eq fun splitting => ?_
      rcases splitting with ⟨_ | separator, times⟩ <;> exact mirrors_newTexts _
    · refine (mirrors_takeNamed hargs name _).bind fun given given' hgiven => ?_
      rcases hgiven with _ | ⟨hv | _, _ | _⟩
      · exact mirrors_newTexts _
      · exact (mirrors_truth hv).bind_eq fun _ => mirrors_newTexts _
      · exact mirrors_newTexts _
      · exact mirrors_newTexts _
      · exact mirrors_newTexts _
    · refine hone.bind fun w w' hw => (mirrors_textOr _ hw).bind_eq fun s => ?_
      cases s with
      | nil => exact .fault _
      | cons => exact mirrors_partition _ hw _
    · refine hone.bind fun w w' hw => (mirrors_textOr _ hw).bind_eq fun s => ?_
      cases s with
      | nil => exact .fault _
      | cons => exact mirrors_partition _ hw _
    · refine (hbetween 2 3).bind fun given given' hgiven => ?_
      rcases hgiven with _ | ⟨hold, _ | ⟨hnew, hrest⟩⟩
      · exact .pure hv
      · exact .pure hv
      · refine (mirrors_textOr _ hold).bind_eq fun old => (mirrors_textOr _ hnew).bind_eq
          fun new => ?_
        cases hrest with
        | nil => exact mirrors_newText _
        | cons hcount => exact (mirrors_toIndex hcount).bind_eq fun _ => mirrors_newText _
    · refine hone.bind fun w w' hw => (mirrors_items? hreach hw).bind fun x y hxy => ?_
      cases hxy with
      | some hitems => exact mirrors_joinTexts t hitems
      | none => exact .fault _
    · exact hfilled Text.padRight
    · exact hfilled Text.padLeft
    · exact hfilled Text.center
    · exact hone.bind fun _ _ hw => (mirrors_toIndex hw).bind_eq fun _ => mirrors_newText _
    · refine (mirrors_takeNamed hargs name _).bind fun given given' hgiven => ?_
      rcases hgiven with _ | ⟨hv | _, _ | _⟩
      · exact mirrors_newText _
      · exact (mirrors_toIndex hv).bind_eq fun _ => mirrors_newText _
      · exact mirrors_newText _
      · exact mirrors_newText _
      · exact mirrors_newText _
    · exact hone.bind fun _ _ hw => (mirrors_textOr _ hw).bind_eq fun _ => mirrors_newText _
    · exact hone.bind fun _ _ hw => (mirrors_textOr _ hw).bind_eq fun _ => mirrors_newText _
    · exact mirrors_formatText t hargs.positional fun n => mirrors_namedArgument n hargs.named
    · exact hone.bind fun _ _ hw => mirrors_formatText t .nil fun n =>
        (mirrors_newText n).bind fun _ _ hn => mirrors_getItem hw hn
    · exact mirrors_noMember hv name

end Stencil.Eval
