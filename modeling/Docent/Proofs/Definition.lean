import Docent.Proofs.Recorded

/-!
# Where definitions begin and end

In an indentation-structured source a definition begins with the mark of its first decorator, or
with its keyword if it has no decorators, and it ends with its suite. The first line that is told of
it is that of the expression after the mark, without the brackets around it. Main statement: it is
the line of the mark unless a line feed stands between the two, and the last line is that of the
suite.
-/

namespace Docent

open Docent.Tree (Address Site)

namespace Indented

/-! ### What stands before an expression in brackets -/

mutual

/-- What stands in an expression before the expression in its brackets. -/
def opening : Tree → List Char
  | .node (.form .group) kids => openingIn kids
  | _ => []

/-- The same with what stands before the first expression among neighbouring trees. -/
def openingIn : List Tree → List Char
  | [] => []
  | t :: ts => if isForm t then opening t else t.text ++ openingIn ts

end

mutual

theorem core_line (line : Nat) : (t : Tree) → (core line t).2 = line + (opening t).count '\n'
  | .leaf k cs => by rw [core.eq_def, opening.eq_def]; rfl
  | .node k kids => by
    cases k with
    | form f =>
      cases f with
      | group => exact coreIn_line line _ kids
      | _ => rfl
    | _ => rfl

theorem coreIn_line (line : Nat) (whole : Tree) : (ts : List Tree) →
    (coreIn line whole ts).2 = line + (openingIn ts).count '\n'
  | [] => by rw [coreIn, openingIn]; rfl
  | t :: ts => by
    rw [coreIn, openingIn]
    split
    · exact core_line line t
    · rw [coreIn_line _ whole ts, Tree.newlines_eq, List.count_append, Nat.add_assoc]

end

mutual

theorem opening_isPrefix : (t : Tree) → opening t <+: t.text
  | .leaf k cs => by rw [opening.eq_def]; exact List.nil_prefix
  | .node k kids => by
    rw [opening.eq_def]
    split
    · rename_i h
      cases h
      exact openingIn_isPrefix kids
    · exact List.nil_prefix

theorem openingIn_isPrefix : (ts : List Tree) → openingIn ts <+: Tree.textOfList ts
  | [] => List.nil_prefix
  | t :: ts => by
    rw [openingIn, Tree.textOfList]
    split
    · exact (opening_isPrefix t).trans (List.prefix_append _ _)
    · exact (List.prefix_append_right_inj _).2 (openingIn_isPrefix ts)

end

/-! ### The first line of a definition -/

/-- The parts of the first decorator of a definition. -/
def firstDecorator? (t : Tree) : Option Forest :=
  match t.kids with
  | .node .decorator ts :: _ => some ts
  | _ => none

/-- What stands in a definition before the expression of its first decorator: the mark of the
decorator and the brackets that are opened, with what is between them. -/
def decoratorLead (t : Tree) : List Char := (firstDecorator? t).elim [] openingIn

/-- The line of the expression after the mark of a decorator. -/
def decoratorLine? (d : Site) : Option Nat :=
  (d.parts.find? (isForm ·.tree)).map fun e => (core e.line e.tree).2

theorem decoratorLine?_eq {d : Site} (h : ∃ t ∈ d.tree.kids, isForm t = true) :
    decoratorLine? d = some (d.line + (openingIn d.tree.kids).count '\n') := by
  have hgo (line : Nat) (before ts : List Tree) (hts : ∃ t ∈ ts, isForm t = true) :
      (((Site.parts.go d line before ts).find? (isForm ·.tree)).map
        fun e => (core e.line e.tree).2) = some (line + (openingIn ts).count '\n') := by
    induction ts generalizing line before with
    | nil =>
      obtain ⟨_, hmem, -⟩ := hts
      cases hmem
    | cons t ts ih =>
      rw [Site.parts.go, List.find?_cons, openingIn]
      cases ht : isForm t with
      | true => exact congrArg some (core_line line t)
      | false =>
        obtain ⟨u, hu, hform⟩ := hts
        have hmem : u ∈ ts := (List.mem_cons.1 hu).resolve_left fun h => by
          rw [h, ht] at hform
          cases hform
        rw [if_neg Bool.false_ne_true, List.count_append, ← Tree.newlines_eq, ← Nat.add_assoc]
        exact ih _ _ ⟨u, hmem, hform⟩
  exact hgo d.line [] d.tree.kids h

theorem le_line_of_mem_go {s p : Site} {line : Nat} {before ts : List Tree}
    (h : p ∈ Site.parts.go s line before ts) : line ≤ p.line := by
  obtain ⟨i, hi⟩ := List.mem_iff_getElem?.1 h
  obtain ⟨us, vs, -, -, hline⟩ := Site.getElem?_go hi
  omega

theorem le_decoratorLine? {d : Site} {n : Nat} (h : decoratorLine? d = some n) : d.line ≤ n := by
  obtain ⟨e, he, rfl⟩ := Option.map_eq_some_iff.1 h
  exact Nat.le_trans (Site.le_line_of_mem_parts (List.mem_of_find?_eq_some he)) (le_core e.line e.tree)

theorem foldl_min_eq {n m : Nat} {ns : List Nat} (hmem : m ∈ n :: ns) (hle : ∀ k ∈ n :: ns, m ≤ k) :
    ns.foldl min n = m :=
  Nat.le_antisymm ((Grammar.foldl_min_least n ns).2 m hmem)
    (hle _ (Grammar.foldl_min_least n ns).1)

variable {names : List Char → Option Char} {words : List String} {s : Site}

theorem startLine_of_keyword {w : String} {hs : List Tree}
    (hkids : s.tree.kids = .leaf .token w.toList :: hs) : (convention names).startLine s = s.line := by
  have hkeyword : keywordLine s = s.line := by
    rw [keywordLine, Site.parts, hkids]
    rfl
  refine foldl_min_eq (List.mem_cons.2 (.inl hkeyword.symm)) (List.forall_mem_cons.2 ?_)
  exact ⟨Nat.le_of_eq hkeyword.symm, fun _ => le_decoratorLines⟩

theorem startLine_of_decorator {ts ds hs : List Tree} {w : String}
    (hkids : s.tree.kids = .node .decorator ts :: (ds ++ .leaf .token w.toList :: hs))
    (hform : ∃ t ∈ ts, isForm t = true) :
    (convention names).startLine s = s.line + (openingIn ts).count '\n' := by
  -- the decorator is the first part, and no other part begins before its expression
  let first : Site := ⟨.node .decorator ts, s.line, [], some (s.tree.kind, s.before)⟩
  obtain ⟨rest, hparts, hrest⟩ : ∃ rest, s.parts = first :: rest ∧
      ∀ p ∈ rest, s.line + (openingIn ts).count '\n' ≤ p.line := by
    refine ⟨_, by rw [Site.parts, hkids, Site.parts.go], fun p hp => ?_⟩
    have hline := le_line_of_mem_go hp
    have hcount := (openingIn_isPrefix ts).sublist.count_le '\n'
    rw [Tree.newlines_eq, Tree.text] at hline
    omega
  have hfirst : decoratorLine? first = some (s.line + (openingIn ts).count '\n') :=
    decoratorLine?_eq (d := first) hform
  have hkeyword : s.line + (openingIn ts).count '\n' ≤ keywordLine s := by
    have hmark : ∃ u ∈ s.parts.map Site.tree, u.kind = .token := by
      rw [s.map_tree_parts, hkids]
      exact ⟨.leaf .token w.toList, by simp, rfl⟩
    obtain ⟨_, hu, hkind⟩ := hmark
    obtain ⟨q, hq, rfl⟩ := List.mem_map.1 hu
    have hfound : (s.parts.find? (·.tree.kind = .token)).isSome :=
      List.find?_isSome.2 ⟨q, hq, decide_eq_true hkind⟩
    obtain ⟨p, hp⟩ := Option.isSome_iff_exists.1 hfound
    rw [keywordLine, hp]
    rw [hparts, List.find?_cons_of_neg (by simp [first, Tree.kind])] at hp
    exact hrest p (List.mem_of_find?_eq_some hp)
  have hlines : decoratorLines s = (s.line + (openingIn ts).count '\n') ::
      (rest.filter (·.tree.kind = .decorator)).filterMap decoratorLine? := by
    change (s.parts.filter (·.tree.kind = .decorator)).filterMap decoratorLine? = _
    rw [hparts, List.filter_cons_of_pos (by simp [first, Tree.kind]),
      List.filterMap_cons_some hfirst]
  refine foldl_min_eq (List.mem_cons_of_mem _ (hlines ▸ List.mem_cons_self))
    (List.forall_mem_cons.2 ⟨hkeyword, fun n hn => ?_⟩)
  rw [hlines, List.mem_cons, List.mem_filterMap] at hn
  rcases hn with rfl | ⟨d, hd, hn⟩
  · exact Nat.le_refl _
  · exact Nat.le_trans (hrest d (List.mem_of_mem_filter hd)) (le_decoratorLine? hn)

/-! ### The span of a definition -/

/-- The lines of a definition in a source text: its text begins with the mark of its first decorator
or with its keyword. It starts on the line of what follows that mark and the brackets after it, and
ends on the last line of its suite. -/
structure Spans (cs : List Char) (s : Site) (first last : Nat) : Prop where
  mark : if (firstDecorator? s.tree).isSome then ['@'] <+: s.tree.text
    else ∃ w ∈ definitionWords s.tree.kind, w.toList <+: s.tree.text
  suite : ∃ b suite text, s.tree.kids.getLast? = some b ∧ b.kind = .body ∧
    b.solidText? = some suite ∧ s.tree.solidText? = some text ∧ suite <:+ text
  lines : ∃ before text after, unifyLines cs = before ++ text ++ after ∧
    s.tree.solidText? = some text ∧ s.line = 1 + before.count '\n' ∧
    decoratorLead s.tree <+: text ∧ first = 1 + (before ++ decoratorLead s.tree).count '\n' ∧
    last = 1 + (before ++ text).count '\n'

theorem startLine_eq (h : IsDefinition words s.tree.kids) :
    (convention names).startLine s = s.line + (decoratorLead s.tree).count '\n' := by
  obtain ⟨ds, w, hs, b, hkids, hds, -⟩ := h
  cases ds with
  | nil =>
    rw [startLine_of_keyword hkids, decoratorLead, firstDecorator?, hkids]
    rfl
  | cons d ds =>
    obtain ⟨ts, rfl, t, ht, hform⟩ := hds.head d rfl
    rw [startLine_of_decorator hkids ⟨t, List.mem_cons_of_mem _ ht, hform⟩, decoratorLead,
      firstDecorator?, hkids]
    rfl

theorem mark_of_isDefinition (h : IsDefinition (definitionWords s.tree.kind) s.tree.kids)
    (htext : s.tree.text = Tree.textOfList s.tree.kids) :
    if (firstDecorator? s.tree).isSome then ['@'] <+: s.tree.text
    else ∃ w ∈ definitionWords s.tree.kind, w.toList <+: s.tree.text := by
  obtain ⟨ds, w, hs, b, hkids, hds, hw, -⟩ := h
  rw [firstDecorator?, htext, hkids]
  cases ds with
  | nil => exact ⟨w, hw, List.prefix_append _ _⟩
  | cons d ds =>
    obtain ⟨ts, rfl, -⟩ := hds.head d rfl
    exact ⟨_, rfl⟩

/-- The text of a definition begins with the lead of its first decorator and ends with its suite. -/
theorem solidText?_of_isDefinition (h : IsDefinition words s.tree.kids) :
    ∃ b suite text, s.tree.kids.getLast? = some b ∧ b.kind = .body ∧ b.solidText? = some suite ∧
      s.tree.solidText? = some text ∧ suite <:+ text ∧ decoratorLead s.tree <+: text := by
  obtain ⟨ds, w, hs, b, hkids, hds, -, hbody, cs, hcs⟩ := h
  have hsuite : Tree.solidTextOfList? [b] = some cs := hcs
  have hsplit : s.tree.kids = (ds ++ .leaf .token w.toList :: hs) ++ [b] := by
    rw [hkids, List.append_assoc, List.cons_append]
  refine ⟨b, cs, Tree.textOfList (ds ++ .leaf .token w.toList :: hs) ++ cs,
    by rw [hsplit, List.getLast?_concat], hbody, hcs, ?_, List.suffix_append _ _, ?_⟩
  · rw [Tree.solidText?_eq_kids (u := b) (by rw [hkids]; simp), hsplit,
      Tree.solidTextOfList?_append hsuite]
  · rw [decoratorLead, firstDecorator?, hkids]
    cases ds with
    | nil => exact List.nil_prefix
    | cons d ds =>
      obtain ⟨ts, rfl, -⟩ := hds.head d rfl
      exact ((openingIn_isPrefix _).trans (List.prefix_append _ _)).trans (List.prefix_append _ cs)

/-- A definition in an accepted source spans the lines that are told of it. -/
theorem spans_at? {cs : List Char} {t : Tree} {a : Address} (h : parse names cs = .ok t)
    (hs : (Site.ofRoot t).at? a = some s) (hkind : s.tree.kind = .classDecl ∨ s.tree.kind = .method)
    (hname : (s.tree.part? .name).isSome) :
    Spans cs s ((convention names).startLine s) s.endLine := by
  obtain ⟨u, hu⟩ := Option.isSome_iff_exists.1 hname
  have hnode := Tree.eq_node_of_mem_kids (List.mem_of_find?_eq_some hu)
  have hdef : IsDefinition (definitionWords s.tree.kind) s.tree.kids :=
    isDefined_of_parse h _ (Site.tree_mem_preorder hs) _ _ hnode hkind
  have htext : s.tree.text = Tree.textOfList s.tree.kids := by
    rw [hnode]
    rfl
  obtain ⟨b, suite, text, hb, hbody, hsuite, hsolid, hends, hlead⟩ := solidText?_of_isDefinition hdef
  obtain ⟨before, after, hroot, hline, hend⟩ := solidText_at? hs
  obtain ⟨hread, htidy⟩ := text_of_parse h
  obtain ⟨hne, hlast⟩ := Tree.getLast?_solidText? _ (Site.tidy_at? htidy hs) hsolid
  rw [hread, hsolid, Option.getD_some] at hroot
  rw [hsolid, Option.getD_some] at hend
  obtain ⟨after', hunified⟩ := unifyLines_eq_of_readable hroot hne hlast
  refine ⟨mark_of_isDefinition hdef htext, ⟨b, suite, text, hb, hbody, hsuite, hsolid, hends⟩,
    before, text, after', hunified, hsolid, hline, hlead, ?_, hend⟩
  rw [startLine_eq hdef, hline, List.count_append, Nat.add_assoc]

/-- The span starts on the line of the mark unless there is a line feed after it. -/
theorem Spans.first_eq_line_iff {cs : List Char} {first last : Nat} (h : Spans cs s first last) :
    first = s.line ↔ '\n' ∉ decoratorLead s.tree := by
  obtain ⟨before, text, after, -, -, hline, -, hfirst, -⟩ := h.lines
  rw [List.count_append] at hfirst
  rw [← List.count_eq_zero]
  omega

/-- The lines of a definition, read with a line feed at the end of each, begin with the complete
line of its mark if the span starts there and lines are counted alike. -/
theorem Spans.body_eq {cs : List Char} {first last : Nat} (h : Spans cs s first last)
    (hlead : '\n' ∉ decoratorLead s.tree) (hagree : LinesAgree (first - 1) cs)
    (hagree' : LinesAgree last cs) :
    ∃ start text more, s.tree.solidText? = some text ∧ '\n' ∉ start ∧
      unifyLines (passage (sourceLines cs) first last).2 = start ++ text ++ more := by
  obtain ⟨before, text, after, hread, hsolid, hline, -, hfirst, hlast⟩ := h.lines
  rw [← h.first_eq_line_iff.2 hlead] at hline
  have hle : first ≤ last := by
    rw [hlast, List.count_append]
    omega
  obtain ⟨start, more, hstart, hpassage⟩ := passage_of_first_line after hline hlast
  refine ⟨start, text, more, hsolid, hstart, ?_⟩
  rw [(passage_eq_iff cs (by omega) hle).2 ⟨hagree, hagree'⟩, unifyLines_passage, hread, hpassage]

end Indented

/-! ### The spans in records -/

open Indented

/-- The class records of an accepted indentation-structured source span the lines of the classes in
it, and their method records those of the methods in the bodies. A span starts on the line of the
mark of the first decorator, or of the keyword if there is none, exactly when there is no line feed
between that mark and the expression after it, brackets left out; it ends on the last line of the
suite. A body begins with the complete line of the mark if the span starts there, unless a carriage
return alone ends one of the lines up to its end. -/
theorem extractSource_spans {path : String} {cs : List Char} {classes : List ClassRecord}
    (h : extractSource .indented path cs = .ok classes) :
    ∃ t, Grammar.indented.parse cs = .ok t ∧ List.Forall₂ (fun a c =>
      (∃ s first last, (Site.ofRoot t).at? a = some s ∧ s.tree.kind = .classDecl ∧
        c.startLine = .int (first : Nat) ∧ c.endLine = .int (last : Nat) ∧ Spans cs s first last ∧
        (first = s.line ↔ '\n' ∉ decoratorLead s.tree)) ∧
      List.Forall₂ (fun b m => ∃ s first last, (Site.ofRoot t).at? b = some s ∧
        s.tree.kind = .method ∧ m.startLine = .int (first : Nat) ∧ m.endLine = .int (last : Nat) ∧
        Spans cs s first last ∧ (first = s.line ↔ '\n' ∉ decoratorLead s.tree) ∧
        ∃ body, m.body = .text (String.ofList body) ∧
          ('\n' ∉ decoratorLead s.tree → LinesAgree (first - 1) cs → LinesAgree last cs →
            ∃ start text more, s.tree.solidText? = some text ∧ '\n' ∉ start ∧
              unifyLines body = start ++ text ++ more))
        (methodAddresses t a) c.methods)
      (Grammar.indented.convention.classAddresses t) classes := by
  obtain ⟨t, ht, hall⟩ := tells_of_extractSource h
  have hparse := ok_of_mapError ht
  have hnamed {s : Site} {name doc first last : Value}
      (htells : Grammar.indented.Tells s name doc first last) : (s.tree.part? .name).isSome := by
    have hname := congrArg Option.isSome htells.name
    rwa [Option.isSome_map, Convention.nameOf?, Option.isSome_map] at hname
  refine ⟨t, ht, hall.imp ?_⟩
  rintro a c ⟨⟨s, hs, hclass, htells⟩, hmethods⟩
  have hkind : s.tree.kind = .classDecl := hclass.resolve_right (by rintro ⟨⟨⟩, -⟩)
  have hspans := spans_at? hparse hs (.inl hkind) (hnamed htells)
  refine ⟨⟨s, _, _, hs, hkind, htells.first, htells.last, hspans, hspans.first_eq_line_iff⟩,
    hmethods.imp ?_⟩
  rintro b m ⟨s, hs, hkind, htells, hbody⟩
  have hspans := spans_at? hparse hs (.inr hkind) (hnamed htells)
  refine ⟨s, _, _, hs, hkind, htells.first, htells.last, hspans, hspans.first_eq_line_iff, _, hbody,
    fun hlead hagree hagree' => ?_⟩
  obtain ⟨hfirst, hlast⟩ := Grammar.first_le_last ht hs (hnamed htells)
  rw [lineSpan_eq cs hfirst hlast]
  exact hspans.body_eq hlead hagree hagree'

/-- A class with a decorator whose expression begins on the line after its mark, and a method with a
decorator on one line. -/
def bracketedDecorator : List Char :=
  "@(\n    d\n)\nclass A:\n    @e\n    def f(self): pass\n".toList

/-- The class is told to begin after its mark, the method with its mark. -/
theorem extractSource_spans_bracketedDecorator :
    ∃ t c m, Grammar.indented.parse bracketedDecorator = .ok t ∧
      extractSource .indented "a.py" bracketedDecorator = .ok [c] ∧ c.methods = [m] ∧
      (∃ s ∈ t.sites, s.tree.kind = .classDecl ∧ Spans bracketedDecorator s 2 6 ∧ s.line ≠ 2) ∧
      ∃ s ∈ t.sites, s.tree.kind = .method ∧ Spans bracketedDecorator s 5 6 ∧ s.line = 5 := by
  have hout : (Grammar.indented.parse bracketedDecorator).toOption.map
      Grammar.indented.convention.classOutlines =
        some [⟨"A", "", [⟨"f", "", 5, 6⟩], none, 2, 6⟩] := by decide +kernel
  -- what stands before the expressions of the two decorators
  have hleads : (Grammar.indented.parse bracketedDecorator).toOption.map (fun t =>
      (Grammar.indented.convention.classAddresses t).map fun a =>
        (((Site.ofRoot t).at? a).map (decoratorLead ·.tree),
          (methodAddresses t a).map fun b => ((Site.ofRoot t).at? b).map (decoratorLead ·.tree))) =
      some [(some "@(\n    ".toList, [some "@".toList])] := by decide +kernel
  have h := extractSource_of_outlines hout "a.py"
  obtain ⟨t, ht, hall⟩ := extractSource_spans h
  rw [ht] at hleads
  have hplaces : (Grammar.indented.convention.classAddresses t).map (fun a => (_, _)) = _ :=
    Option.some.inj hleads
  refine ⟨t, _, _, ht, h, rfl, ?_⟩
  generalize Grammar.indented.convention.classAddresses t = addresses at hplaces hall
  match addresses, hplaces with
  | [a], hplaces =>
    obtain ⟨hlead, hmethods⟩ := Prod.mk.inj (List.cons.inj hplaces).1
    obtain ⟨⟨⟨s, first, last, hs, hkind, hfirst, hlast, hspans, hline⟩, hall⟩, -⟩ :=
      List.forall₂_cons.1 hall
    generalize methodAddresses t a = places at hmethods hall
    match places, hmethods with
    | [b], hmethods =>
      have hlead' : ((Site.ofRoot t).at? b).map (decoratorLead ·.tree) = _ :=
        (List.cons.inj hmethods).1
      obtain ⟨⟨s', first', last', hs', hkind', hfirst', hlast', hspans', hline', -⟩, -⟩ :=
        List.forall₂_cons.1 hall
      rw [hs, Option.map_some] at hlead
      rw [hs', Option.map_some] at hlead'
      obtain rfl : first = 2 := (Int.ofNat.inj (Value.int.inj hfirst)).symm
      obtain rfl : last = 6 := (Int.ofNat.inj (Value.int.inj hlast)).symm
      obtain rfl : first' = 5 := (Int.ofNat.inj (Value.int.inj hfirst')).symm
      obtain rfl : last' = 6 := (Int.ofNat.inj (Value.int.inj hlast')).symm
      refine ⟨⟨s, Tree.mem_sites_iff.2 ⟨a, hs⟩, hkind, hspans, fun heq => ?_⟩,
        s', Tree.mem_sites_iff.2 ⟨b, hs'⟩, hkind', hspans', (hline'.2 ?_).symm⟩
      · have hlead : decoratorLead s.tree = _ := Option.some.inj hlead
        have hno := hline.1 heq.symm
        rw [hlead] at hno
        exact absurd hno (by decide)
      · have hlead : decoratorLead s'.tree = _ := Option.some.inj hlead'
        rw [hlead]
        decide

end Docent
