import Stencil.Engine.Sources
import Stencil.Proofs.Fallible
import Stencil.Proofs.Files.Searching

/-!
# Listed templates

A library lists what ends in its suffix, and finds templates by putting the suffix behind a name.
For a plain suffix the listed names are those of which something stands at the place of the
template. So the two agree unless a folder stands there.
-/

namespace Stencil

open Files

/-! ## Names and suffixes -/

/-- A relative path each part of which is the name of an entry. -/
def IsTemplateName (name : Text) : Prop := ∀ part ∈ List.splitOn '/' name, IsEntryName part

instance (name : Text) : Decidable (IsTemplateName name) :=
  inferInstanceAs (Decidable (∀ part ∈ List.splitOn '/' name, IsEntryName part))

/-- A suffix that is the same in a path and in a pattern: there is one, nothing in it has another
meaning in a pattern, and paths keep all parts behind its first slash. -/
structure IsPlainSuffix (suffix : Text) : Prop where
  ne_nil : suffix ≠ []
  literal : ∀ part ∈ List.splitOn '/' suffix, Glob.IsLiteral part
  kept : ∀ part ∈ (List.splitOn '/' suffix).tail, part ≠ [] ∧ part ≠ ['.']

instance (suffix : Text) : Decidable (IsPlainSuffix suffix) :=
  decidable_of_iff (suffix ≠ [] ∧ (∀ part ∈ List.splitOn '/' suffix, Glob.IsLiteral part) ∧
      ∀ part ∈ (List.splitOn '/' suffix).tail, part ≠ [] ∧ part ≠ ['.'])
    ⟨fun h => ⟨h.1, h.2.1, h.2.2⟩, fun h => ⟨h.ne_nil, h.literal, h.kept⟩⟩

structure Parts (suffix first : Text) (parts : List Text) : Prop where
  join_eq : Text.join ['/'] (first :: parts) = suffix
  ne_nil : suffix ≠ []
  notMem : ∀ part ∈ first :: parts, '/' ∉ part
  literal : ∀ part ∈ first :: parts, Glob.IsLiteral part
  kept : ∀ part ∈ parts, part ≠ [] ∧ part ≠ ['.']

theorem IsPlainSuffix.exists_parts {suffix : Text} (h : IsPlainSuffix suffix) :
    ∃ first parts, Parts suffix first parts := by
  obtain ⟨hne, hliteral, hkept⟩ := h
  cases hsplit : List.splitOn '/' suffix with
  | nil => exact absurd hsplit (List.splitOn_ne_nil '/' suffix)
  | cons first parts =>
      rw [hsplit] at hliteral hkept
      refine ⟨first, parts, ?_, hne, fun part hpart => ?_, hliteral, hkept⟩
      · rw [← hsplit]
        exact List.intercalate_splitOn '/'
      · exact Text.notMem_of_mem_splitOn (hsplit ▸ hpart)

section

variable {suffix first last : Text} {parts front : List Text}

theorem isEntryName_append (hlast : IsEntryName last) (hfirst : '/' ∉ first) :
    IsEntryName (last ++ first) := by
  obtain ⟨hnil, hslash, hdot, hdots⟩ := hlast
  refine ⟨by simp [hnil], by simp [hslash, hfirst], ?_, ?_⟩
  · intro heq
    rcases List.append_eq_singleton_iff.1 heq with ⟨h, -⟩ | ⟨h, -⟩
    · exact hnil h
    · exact hdot h
  · intro heq
    rcases List.append_eq_cons_iff.1 heq with ⟨h, -⟩ | ⟨more, h, hmore⟩
    · exact hnil h
    · rcases List.append_eq_singleton_iff.1 hmore.symm with ⟨rfl, -⟩ | ⟨rfl, -⟩
      · exact hdot h
      · exact hdots h

theorem Parts.splitOn_eq (h : Parts suffix first parts) :
    List.splitOn '/' suffix = first :: parts := by
  rw [← h.join_eq]
  exact List.splitOn_intercalate '/' h.notMem (by simp)

theorem IsTemplateName.exists_parts {name : Text} (h : IsTemplateName name) :
    ∃ front last, name = Text.join ['/'] (front ++ [last]) ∧
      (∀ part ∈ front, IsEntryName part) ∧ IsEntryName last := by
  obtain ⟨front, last, hsplit⟩ :=
    (List.eq_nil_or_concat (List.splitOn '/' name)).resolve_left (List.splitOn_ne_nil '/' name)
  rw [List.concat_eq_append] at hsplit
  unfold IsTemplateName at h
  rw [hsplit, List.forall_mem_append, List.forall_mem_singleton] at h
  refine ⟨front, last, ?_, h⟩
  rw [← hsplit]
  exact (List.intercalate_splitOn '/').symm

theorem splitOn_join_append (h : Parts suffix first parts) (hfront : ∀ part ∈ front, '/' ∉ part)
    (hlast : '/' ∉ last) : List.splitOn '/' (Text.join ['/'] (front ++ [last]) ++ suffix) =
      front ++ (last ++ first) :: parts := by
  obtain ⟨hfirst, hparts⟩ := List.forall_mem_cons.1 h.notMem
  rw [← h.join_eq, Text.join_append_join]
  refine List.splitOn_intercalate '/' ?_ (by simp)
  refine List.forall_mem_append.2 ⟨hfront, List.forall_mem_cons.2 ⟨?_, hparts⟩⟩
  exact fun hmem => (List.mem_append.1 hmem).elim hlast hfirst

theorem partsOf_join_append (h : Parts suffix first parts)
    (hfront : ∀ part ∈ front, IsEntryName part) (hlast : IsEntryName last) :
    Path.partsOf (Text.join ['/'] (front ++ [last]) ++ suffix) =
      front ++ (last ++ first) :: parts := by
  have hgrown := isEntryName_append hlast (h.notMem first (.head _))
  rw [Path.partsOf, Text.splitOn_eq,
    splitOn_join_append h (fun part hpart => (hfront part hpart).notMem) hlast.notMem,
    List.filter_eq_self]
  intro part hpart
  rw [decide_eq_true_iff]
  rcases List.mem_append.1 hpart with hpart | hpart
  · exact ⟨(hfront part hpart).ne_nil, (hfront part hpart).ne_dot⟩
  · rcases List.mem_cons.1 hpart with rfl | hpart
    · exact ⟨hgrown.ne_nil, hgrown.ne_dot⟩
    · exact h.kept part hpart

theorem pattern_ofText (h : Parts suffix first parts) :
    Pattern.ofText ('*' :: suffix) = .ok (.ending first parts) := by
  obtain ⟨hfirst, hparts⟩ := List.forall_mem_cons.1 h.literal
  have hsplit : Path.partsOf ('*' :: suffix) = ('*' :: first) :: parts := by
    have hjoin : '*' :: suffix = Text.join ['/'] ([] ++ [['*']]) ++ suffix := rfl
    have hfront : ∀ part ∈ ([] : List Text), IsEntryName part := nofun
    have hstar : IsEntryName ['*'] := by decide
    rw [hjoin, partsOf_join_append h hfront hstar]
    rfl
  have hmapM : parts.mapM Part.ofText = .ok (parts.map .literal) := by
    clear hsplit h
    induction parts with
    | nil => rfl
    | cons part parts ih =>
        obtain ⟨hpart, hparts⟩ := List.forall_mem_cons.1 hparts
        rw [List.mapM_cons, Part.ofText_of_isLiteral hpart, ih hparts]
        rfl
  have hlast : ¬ ('*' :: suffix).getLast? = some '/' := by
    rw [List.getLast?_eq_some_iff]
    rintro ⟨before, heq⟩
    cases before with
    | nil => exact h.ne_nil (List.cons.inj heq).2
    | cons star before =>
        -- A slash at the end would leave an empty part behind it.
        have hsuffix := h.splitOn_eq
        rw [List.cons_append] at heq
        rw [(List.cons.inj heq).2, List.splitOn_append_cons_self, List.splitOn_nil] at hsuffix
        cases hbefore : List.splitOn '/' before with
        | nil => exact List.splitOn_ne_nil '/' before hbefore
        | cons first' more =>
            rw [hbefore, List.cons_append] at hsuffix
            exact (h.kept [] ((List.cons.inj hsuffix).2 ▸ by simp)).1 rfl
  rw [Pattern.ofText, hsplit, List.mapM_cons, Part.ofText_star hfirst, hmapM,
    decide_eq_false hlast]
  rfl

end

namespace Library

section

variable {l : Library} {first last name : Text} {parts front q : List Text}

theorem takeWhile_slash_eq_nil (hfront : ∀ part ∈ front, IsEntryName part)
    (hlast : IsEntryName last) (t : Text) :
    (Text.join ['/'] (front ++ [last]) ++ t).takeWhile (· == '/') = [] := by
  have hstart {part : Text} (hpart : IsEntryName part) (t : Text) :
      (part ++ t).takeWhile (· == '/') = [] := by
    cases part with
    | nil => exact absurd rfl hpart.ne_nil
    | cons c part =>
        have hc : ¬ (c == '/') = true := fun heq =>
          hpart.notMem (by rw [beq_iff_eq.1 heq]; exact .head _)
        rw [List.cons_append, List.takeWhile_cons, if_neg hc]
  cases front with
  | nil =>
      rw [List.nil_append, Text.join_eq_intercalate, List.intercalate_singleton]
      exact hstart hlast t
  | cons part front =>
      rw [List.cons_append, Text.join_eq_intercalate, List.intercalate_cons_of_ne_nil (by simp),
        List.append_assoc, List.append_assoc]
      exact hstart (hfront part (.head _)) _

theorem pathFor_join (h : Parts l.suffix first parts) (hfront : ∀ part ∈ front, IsEntryName part)
    (hlast : IsEntryName last) : l.pathFor (Text.join ['/'] (front ++ [last])) =
      ⟨l.root.anchor, l.root.parts ++ (front ++ (last ++ first) :: parts)⟩ := by
  have hofText : Path.ofText (Text.join ['/'] (front ++ [last]) ++ l.suffix) =
      ⟨.relative, front ++ (last ++ first) :: parts⟩ := by
    simp only [Path.ofText, takeWhile_slash_eq_nil hfront hlast, partsOf_join_append h hfront hlast]
    rfl
  rw [pathFor, hofText]
  rfl

theorem nameOf_eq (h : Parts l.suffix first parts) :
    l.nameOf (front ++ (last ++ first) :: parts) = Text.join ['/'] (front ++ [last]) := by
  have hpath : Text.join ['/'] (front ++ (last ++ first) :: parts) =
      Text.join ['/'] (front ++ [last]) ++ l.suffix := by
    rw [← Text.join_append_join, h.join_eq]
  have hempty : l.suffix.isEmpty = false := by
    rw [List.isEmpty_eq_false_iff]
    exact h.ne_nil
  simp [nameOf, hpath, hempty]

/-! ## Listing -/

theorem at?_pathFor_join (h : Parts l.suffix first parts)
    (hfront : ∀ part ∈ front, IsEntryName part) (hlast : IsEntryName last) :
    l.files.at? (l.pathFor (Text.join ['/'] (front ++ [last]))) =
      ((l.files.place? l.root).bind fun found =>
        Tree.follow? found.1 found.2 (front ++ (last ++ first) :: parts)).map (·.2) := by
  rw [pathFor_join h hfront hlast, Tree.at?]
  unfold Tree.place?
  cases l.root.anchor with
  | root slashes => rfl
  | _ => rw [Tree.follow?_append]

theorem wellFormed_of_place? (hfiles : l.files.WellFormed) {around : List Tree} {t : Tree}
    (hplace : l.files.place? l.root = some (around, t)) : ∀ o ∈ t :: around, o.WellFormed := by
  unfold Tree.place? at hplace
  split at hplace
  · cases hplace
  · exact Tree.wellFormed_of_follow? (List.forall_mem_singleton.2 hfiles) hplace

theorem eq_of_join_eq {front' : List Text} {last' : Text} (hfront : ∀ part ∈ front, '/' ∉ part)
    (hlast : '/' ∉ last) (hfront' : ∀ part ∈ front', '/' ∉ part) (hlast' : '/' ∉ last')
    (heq : Text.join ['/'] (front ++ [last]) = Text.join ['/'] (front' ++ [last'])) :
    front = front' ∧ last = last' := by
  have hparts := congrArg (List.splitOn '/') heq
  simp only [Text.join_eq_intercalate] at hparts
  rw [List.splitOn_intercalate '/' (List.forall_mem_append.2
      ⟨hfront, List.forall_mem_singleton.2 hlast⟩) (by simp),
    List.splitOn_intercalate '/' (List.forall_mem_append.2
      ⟨hfront', List.forall_mem_singleton.2 hlast'⟩) (by simp)] at hparts
  obtain ⟨hfronts, hlasts⟩ := List.append_inj' hparts rfl
  exact ⟨hfronts, List.singleton_inj.1 hlasts⟩

theorem mem_search_iff (h : Parts l.suffix first parts) {around : List Tree} {t : Tree}
    (hplaced : ∀ o ∈ t :: around, o.WellFormed) :
    q ∈ t.search (.ending first parts) around ↔
      ∃ front stem, q = front ++ (stem ++ first) :: parts ∧
        l.nameOf q = Text.join ['/'] (front ++ [stem]) ∧
        ((∀ part ∈ front, '/' ∉ part) ∧ '/' ∉ stem) ∧
        (∀ part ∈ front, IsEntryName part) ∧ IsEntryName (stem ++ first) ∧
        (Tree.follow? around t q).isSome = true := by
  rw [Tree.mem_search_iff hplaced]
  refine exists₂_congr fun front stem => ?_
  constructor
  · rintro ⟨rfl, hfront, hname, hfollow⟩
    exact ⟨rfl, nameOf_eq h, ⟨fun part hpart => (hfront part hpart).notMem,
      fun hmem => hname.notMem (List.mem_append_left _ hmem)⟩, hfront, hname, hfollow⟩
  · rintro ⟨hq, -, -, hfront, hname, hfollow⟩
    exact ⟨hq, hfront, hname, hfollow⟩

theorem nodup_map_nameOf (h : Parts l.suffix first parts) {around : List Tree} {t : Tree}
    (hplaced : ∀ o ∈ t :: around, o.WellFormed) :
    ((t.search (.ending first parts) around).map l.nameOf).Nodup := by
  refine (Tree.nodup_eraseDups _).map_on fun q hq q' hq' heq => ?_
  obtain ⟨front, stem, rfl, hname, ⟨hfront, hstem⟩, -⟩ := (mem_search_iff h hplaced).1 hq
  obtain ⟨front', stem', rfl, hname', ⟨hfront', hstem'⟩, -⟩ := (mem_search_iff h hplaced).1 hq'
  rw [hname, hname'] at heq
  obtain ⟨rfl, rfl⟩ := eq_of_join_eq hfront hstem hfront' hstem' heq
  rfl

theorem names_eq (h : Parts l.suffix first parts) (hfiles : l.files.WellFormed) :
    ∃ ns, l.names = .ok ns ∧ ns.Nodup ∧ ∀ front last, (∀ part ∈ front, IsEntryName part) →
      IsEntryName last → (Text.join ['/'] (front ++ [last]) ∈ ns ↔
        l.files.exists? (l.pathFor (Text.join ['/'] (front ++ [last]))) = true) := by
  unfold names
  cases hplace : l.files.place? l.root with
  | none =>
      refine ⟨[], rfl, .nil, fun front last hfront hlast => iff_of_false List.not_mem_nil ?_⟩
      rw [Tree.exists?, at?_pathFor_join h hfront hlast, hplace]
      simp
  | some found =>
      obtain ⟨around, t⟩ := found
      cases t with
      | file bytes =>
          refine ⟨[], rfl, .nil, fun front last hfront hlast => iff_of_false List.not_mem_nil ?_⟩
          have hgrown := isEntryName_append hlast (h.notMem first (.head _))
          rw [Tree.exists?, at?_pathFor_join h hfront hlast, hplace, Option.bind_some,
            List.append_cons, Tree.follow?_file (List.forall_mem_append.2
              ⟨hfront, List.forall_mem_singleton.2 hgrown⟩) (by simp)]
          simp
      | folder entries =>
          have hplaced := wellFormed_of_place? hfiles hplace
          refine ⟨_, by simp only [pattern_ofText h]; rfl, ?_, fun front last hfront hlast => ?_⟩
          · exact (List.mergeSort_perm _ _).nodup_iff.2 (nodup_map_nameOf h hplaced)
          · rw [List.mem_mergeSort, List.mem_map, Tree.exists?, at?_pathFor_join h hfront hlast,
              hplace, Option.isSome_map, Option.bind_some]
            constructor
            · rintro ⟨q, hq, heq⟩
              obtain ⟨front', stem, rfl, hname, ⟨hfront', hstem⟩, -, -, hfollow⟩ :=
                (mem_search_iff h hplaced).1 hq
              rw [hname] at heq
              obtain ⟨rfl, rfl⟩ := eq_of_join_eq hfront' hstem
                (fun part hpart => (hfront part hpart).notMem) hlast.notMem heq
              exact hfollow
            · intro hfollow
              refine ⟨_, (mem_search_iff h hplaced).2 ⟨front, last, rfl, nameOf_eq h, ?_, hfront,
                isEntryName_append hlast (h.notMem first (.head _)), hfollow⟩, nameOf_eq h⟩
              exact ⟨fun part hpart => (hfront part hpart).notMem, hlast.notMem⟩

/-! ## Listing and lookup -/

/-- The names that are listed are those of template files, each once, and their lookup gives a text
unless the file cannot be decoded. -/
structure AgreesOn (l : Library) (ns : List Text) : Prop where
  names : l.names = .ok ns
  nodup : ns.Nodup
  mem_iff : ∀ name, IsTemplateName name → (name ∈ ns ↔ l.files.isFile (l.pathFor name) = true)
  found : ∀ name ∈ ns, IsTemplateName name →
    (∃ t, l.find? name = .ok (some t)) ∨ ∃ m, l.find? name = .error (.undecodable m)

def Agrees (l : Library) : Prop := ∃ ns, l.AgreesOn ns

theorem mem_names_iff_of_isPlainSuffix (hsuffix : IsPlainSuffix l.suffix)
    (hfiles : l.files.WellFormed) : ∃ ns, l.names = .ok ns ∧ ns.Nodup ∧
      ∀ name, IsTemplateName name → (name ∈ ns ↔ l.files.exists? (l.pathFor name) = true) := by
  obtain ⟨first, parts, h⟩ := hsuffix.exists_parts
  obtain ⟨ns, hnames, hnodup, hmem⟩ := names_eq h hfiles
  refine ⟨ns, hnames, hnodup, fun name hname => ?_⟩
  obtain ⟨front, last, rfl, hfront, hlast⟩ := hname.exists_parts
  exact hmem front last hfront hlast

theorem find?_of_isFile (h : l.files.isFile (l.pathFor name) = true) :
    (∃ t, l.find? name = .ok (some t)) ∨ ∃ m, l.find? name = .error (.undecodable m) := by
  have hfile : ∃ bytes, l.files.at? (l.pathFor name) = some (.file bytes) := by
    unfold Tree.isFile at h
    cases hat : l.files.at? (l.pathFor name) with
    | none => simp [hat] at h
    | some t =>
        cases t with
        | file bytes => exact ⟨bytes, rfl⟩
        | folder entries => simp [hat, Tree.isFolder] at h
  obtain ⟨bytes, hat⟩ := hfile
  rw [find?, if_pos h, Tree.read, hat]
  dsimp only
  cases Text.ofBytes bytes with
  | ok t => exact .inl ⟨_, rfl⟩
  | error e => exact .inr ⟨_, rfl⟩

/-- With a plain suffix listing and lookup agree exactly if no folder stands at the place of a
template. -/
theorem agrees_iff (hfiles : l.files.WellFormed) (hsuffix : IsPlainSuffix l.suffix) :
    l.Agrees ↔ ∀ name, IsTemplateName name → ∀ t, l.files.at? (l.pathFor name) = some t →
      t.isFolder = false := by
  obtain ⟨ns, hnames, hnodup, hmem⟩ := mem_names_iff_of_isPlainSuffix hsuffix hfiles
  constructor
  · rintro ⟨ns', hagrees⟩ name hname t hat
    obtain rfl : ns = ns' := Except.ok.inj (hnames.symm.trans hagrees.names)
    have hexists : l.files.exists? (l.pathFor name) = true := by rw [Tree.exists?, hat]; rfl
    have hfile := (hagrees.mem_iff name hname).1 ((hmem name hname).2 hexists)
    rw [Tree.isFile, hat] at hfile
    simpa using hfile
  · intro hfolder
    have hiff (name : Text) (hname : IsTemplateName name) :
        name ∈ ns ↔ l.files.isFile (l.pathFor name) = true := by
      rw [hmem name hname, Tree.exists?, Tree.isFile]
      cases hat : l.files.at? (l.pathFor name) with
      | none => simp
      | some t => simp [hfolder name hname t hat]
    exact ⟨ns, hnames, hnodup, hiff, fun name hlisted hname =>
      find?_of_isFile ((hiff name hname).1 hlisted)⟩

/-! ### Without a suffix -/

theorem eq_nil_of_mem_names {ns : List Text} (hsuffix : l.suffix = []) (hnames : l.names = .ok ns)
    (hname : name ∈ ns) : name = [] := by
  unfold names at hnames
  split at hnames
  · obtain ⟨pattern, -, heq⟩ := bind_eq_ok_iff.1 hnames
    cases heq
    rw [List.mem_mergeSort, List.mem_map] at hname
    obtain ⟨q, -, rfl⟩ := hname
    simp [nameOf, hsuffix]
  · cases hnames
    cases hname

theorem exists_names_of_empty_suffix (hsuffix : l.suffix = []) : ∃ ns, l.names = .ok ns := by
  have hparts : Path.partsOf ['*'] = [['*']] := by decide +kernel
  have hpattern : Pattern.ofText ['*'] = .ok ⟨[.entry [.star]], false⟩ := by
    rw [Pattern.ofText, hparts]
    rfl
  unfold names
  rw [hsuffix, hpattern]
  split
  · exact ⟨_, rfl⟩
  · exact ⟨_, rfl⟩

/-- Without a suffix everything is listed under the empty name, so that no template file may be
there and nothing else more than once. -/
theorem agrees_iff_of_empty_suffix (hsuffix : l.suffix = []) :
    l.Agrees ↔ (∀ name, IsTemplateName name → l.files.isFile (l.pathFor name) = false) ∧
      ∀ ns, l.names = .ok ns → ns.length ≤ 1 := by
  obtain ⟨ns, hnames⟩ := exists_names_of_empty_suffix hsuffix
  have hnot (name : Text) (hname : IsTemplateName name) : name ∉ ns := fun hlisted => by
    rw [eq_nil_of_mem_names hsuffix hnames hlisted] at hname
    exact absurd hname (by decide)
  have hnodup : ns.Nodup ↔ ns.length ≤ 1 := by
    rw [List.eq_replicate_of_mem fun name hname => eq_nil_of_mem_names hsuffix hnames hname,
      List.nodup_replicate, List.length_replicate]
  constructor
  · rintro ⟨ns', hagrees⟩
    obtain rfl : ns = ns' := Except.ok.inj (hnames.symm.trans hagrees.names)
    refine ⟨fun name hname => ?_, fun ns' hns' => ?_⟩
    · rw [Bool.eq_false_iff]
      exact fun hfile => hnot name hname ((hagrees.mem_iff name hname).2 hfile)
    · obtain rfl : ns = ns' := Except.ok.inj (hnames.symm.trans hns')
      exact hnodup.1 hagrees.nodup
  · rintro ⟨hfile, hlength⟩
    refine ⟨ns, hnames, hnodup.2 (hlength ns hnames), fun name hname => ?_,
      fun name hlisted hname => absurd hlisted (hnot name hname)⟩
    exact iff_of_false (hnot name hname) (Bool.eq_false_iff.1 (hfile name hname))

end

/-! ### Folders like templates -/

def ofEntries (entries : List (Text × Tree)) (suffix : String) : Library :=
  ⟨.folder entries, .ofText ['.'], suffix.toList, []⟩

/-- A template in a folder, beside a folder that is named like one. -/
def confusing : Library :=
  ofEntries [("sub".toList, .folder [("b.tpl.html".toList, .file [])]),
    ("d.tpl.html".toList, .folder [])] ".tpl.html"

theorem wellFormed_confusing : confusing.files.WellFormed := by
  have hsub : (Tree.folder [("b.tpl.html".toList, .file [])]).WellFormed :=
    .folder (by decide) (by decide) (List.forall_mem_singleton.2 .file)
  refine .folder (by decide) (by decide) ?_
  exact List.forall_mem_cons.2 ⟨hsub, List.forall_mem_singleton.2 .empty⟩

theorem agrees_iff_confusing : confusing.files.WellFormed ∧ IsPlainSuffix confusing.suffix ∧
    (confusing.Agrees ↔ ∀ name, IsTemplateName name →
      ∀ t, confusing.files.at? (confusing.pathFor name) = some t → t.isFolder = false) :=
  ⟨wellFormed_confusing, by decide, agrees_iff wellFormed_confusing (by decide)⟩

theorem not_agrees_confusing : ¬ confusing.Agrees := by
  rintro ⟨ns, hagrees⟩
  have hname : IsTemplateName "d".toList := by decide
  obtain ⟨ns', hnames, -, hmem⟩ :=
    mem_names_iff_of_isPlainSuffix (l := confusing) (by decide) wellFormed_confusing
  obtain rfl : ns = ns' := Except.ok.inj (hagrees.names.symm.trans hnames)
  have hlisted : "d".toList ∈ ns := (hmem _ hname).2 (by decide +kernel)
  exact absurd ((hagrees.mem_iff _ hname).1 hlisted) (by decide +kernel)

end Library

end Stencil
