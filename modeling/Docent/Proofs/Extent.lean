import Docent.Proofs.Except
import Docent.Proofs.Indented.Parse
import Docent.Proofs.Lines
import Docent.Proofs.Outline
import Docent.Proofs.Page.Rules
import Docent.Proofs.Place
import Docent.Proofs.Script.Rules

/-!
# The lines of a declaration

The record of a method has the first and the last line of its declaration, as the parser counts
lines, and a body that is cut out of the source text by these numbers. Main statement: the body is
what stands on the lines of the declaration unless a carriage return alone ends a line of an
indentation-structured source before its end.
-/

namespace Docent

open Docent.Tree (Address Site)

/-! ### What is read of a source text -/

namespace Grammar

/-- The text that a grammar reads; only line feeds end its lines. -/
def reading (g : Grammar) (cs : List Char) : List Char :=
  match g with
  | indented => Indented.unifyLines cs
  | page | script _ => cs

/-- The lines of a source text as they are counted in a grammar. -/
def lines (g : Grammar) (cs : List Char) : List (List Char) :=
  match g with
  | indented => universalLines cs
  | page | script _ => sourceLines cs

/-- The parts of a declaration from its keyword on, without its decorators. -/
def declarationTrees (g : Grammar) (t : Tree) : List Tree :=
  match g with
  | indented =>
    if t.kids.any (·.kind = .token) then t.kids.dropWhile (·.kind ≠ .token) else [t]
  | page | script _ => [t]

/-- The text of a declaration, without what is blank after it. -/
def declaration (g : Grammar) (t : Tree) : List Char :=
  (Tree.solidTextOfList? (g.declarationTrees t)).getD []

def decoratorLines (g : Grammar) (s : Site) : List Nat :=
  match g with
  | indented => Indented.decoratorLines s
  | page | script _ => []

/-- A declaration stands in the text that is read on some lines: its decorators or itself begin on
the first one, and it ends on the last one. -/
def StandsOn (g : Grammar) (cs : List Char) (s : Site) (first last : Nat) : Prop :=
  ∃ before after, g.reading cs = before ++ g.declaration s.tree ++ after ∧
    first = (g.decoratorLines s).foldl min (1 + before.count '\n') ∧
    last = 1 + (before ++ g.declaration s.tree).count '\n'

end Grammar

/-! ### Where a declaration begins -/

namespace Indented

mutual

theorem le_core (line : Nat) : (t : Tree) → line ≤ (core line t).2
  | .leaf k cs => Nat.le_refl line
  | .node k kids => by
    rw [core.eq_def]
    split
    · rename_i h
      cases h
      exact le_coreIn line _ kids
    · exact Nat.le_refl line

theorem le_coreIn (line : Nat) (whole : Tree) : (ts : List Tree) → line ≤ (coreIn line whole ts).2
  | [] => by rw [coreIn]
  | t :: ts => by
    rw [coreIn]
    split
    · exact le_core line t
    · exact Nat.le_trans (Nat.le_add_right _ _) (le_coreIn _ whole ts)

end

theorem le_decoratorLines {s : Site} {n : Nat} (h : n ∈ decoratorLines s) : s.line ≤ n := by
  rw [decoratorLines, List.mem_filterMap] at h
  obtain ⟨d, hd, hn⟩ := h
  obtain ⟨e, he, rfl⟩ := Option.map_eq_some_iff.1 hn
  calc s.line ≤ d.line := Site.le_line_of_mem_parts (List.mem_of_mem_filter hd)
    _ ≤ e.line := Site.le_line_of_mem_parts (List.mem_of_find?_eq_some he)
    _ ≤ _ := le_core e.line e.tree

end Indented

namespace Grammar

variable {g : Grammar} {cs : List Char}

theorem le_decoratorLines {s : Site} {n : Nat} (h : n ∈ g.decoratorLines s) : s.line ≤ n := by
  cases g with
  | indented => exact Indented.le_decoratorLines h
  | page => cases h
  | script d => cases h

theorem foldl_min_least (n : Nat) (ns : List Nat) :
    ns.foldl min n ∈ n :: ns ∧ ∀ k ∈ n :: ns, ns.foldl min n ≤ k :=
  List.min?_eq_some_iff.1 List.min?_cons'

theorem StandsOn.first_le {s : Site} {first last : Nat} (hline : 1 ≤ s.line)
    (h : g.StandsOn cs s first last) : 1 ≤ first ∧ first ≤ last := by
  obtain ⟨before, after, -, hfirst, hlast⟩ := h
  obtain ⟨hmem, hle⟩ := foldl_min_least (1 + before.count '\n') (g.decoratorLines s)
  rw [← hfirst] at hmem hle
  rw [List.count_append] at hlast
  have hkeyword := hle _ List.mem_cons_self
  rcases List.mem_cons.1 hmem with heq | hmem
  · omega
  · have hdecorator := le_decoratorLines hmem
    omega

end Grammar

/-! ### Where a declaration stands -/

theorem solidText_at? {t : Tree} {a : Address} {s : Site} (hs : (Site.ofRoot t).at? a = some s) :
    ∃ before after, t.text = before ++ s.tree.solidText?.getD [] ++ after ∧
      s.line = 1 + before.count '\n' ∧
      s.endLine = 1 + (before ++ s.tree.solidText?.getD []).count '\n' := by
  obtain ⟨before, after, htext, hline⟩ := Site.text_at? hs
  obtain ⟨blank, hblank⟩ := s.tree.prefix_of_solidText?_getD
  have hroot : t.text = before ++ s.tree.text ++ after := htext
  have hstart : s.line = 1 + before.count '\n' := hline
  refine ⟨before, blank ++ after, ?_, hstart, ?_⟩
  · rw [hroot, ← hblank]
    simp only [List.append_assoc]
  · rw [s.endLine_eq, hstart, List.count_append, Nat.add_assoc]

namespace Indented

theorem declarationTrees_of_no_token {s : Site}
    (h : s.parts.find? (·.tree.kind = .token) = none) :
    Grammar.indented.declarationTrees s.tree = [s.tree] := by
  have hany : s.tree.kids.any (·.kind = .token) = false := by
    rw [← s.map_tree_parts, List.any_map, List.any_eq_false]
    exact List.find?_eq_none.1 h
  rw [Grammar.declarationTrees, hany]
  rfl

theorem declarationTrees_of_token {s : Site} {us vs : List Tree} {t : Tree}
    (hkids : s.tree.kids = us ++ t :: vs) (hus : ∀ u ∈ us, decide (u.kind = .token) = false)
    (ht : t.kind = .token) : Grammar.indented.declarationTrees s.tree = t :: vs := by
  have hany : s.tree.kids.any (·.kind = .token) = true := by
    rw [hkids, List.any_append, List.any_cons, decide_eq_true ht, Bool.true_or, Bool.or_true]
  have hskip : ∀ u ∈ us, decide (u.kind ≠ .token) = true := fun u hu =>
    decide_eq_true (of_decide_eq_false (hus u hu))
  rw [Grammar.declarationTrees, if_pos hany, hkids, List.dropWhile_append_of_pos hskip,
    List.dropWhile_cons_of_neg (by simp [ht])]

theorem solidText?_eq_declaration {s : Site} (hs : s.tree.Tidy)
    (hname : (s.tree.part? .name).isSome) :
    ∃ us ds, s.tree.solidText? = some (Tree.textOfList us ++ ds) ∧
      Grammar.indented.declaration s.tree = ds ∧ ds ≠ [] ∧ ds.getLast? ≠ some '\n' ∧
      keywordLine s = s.line + Tree.newlinesOfList us := by
  obtain ⟨u, hu⟩ := Option.isSome_iff_exists.1 hname
  obtain ⟨cs, hcs⟩ := Tree.solidText?_of_name hs hu
  cases htoken : s.parts.find? (·.tree.kind = .token) with
  | none =>
    -- no declaration that is parsed lacks its keyword, but no rule has to say so
    obtain ⟨hne, hlast⟩ := Tree.getLast?_solidText? _ hs hcs
    refine ⟨[], cs, hcs, ?_, hne, hlast, ?_⟩
    · rw [Grammar.declaration, declarationTrees_of_no_token htoken, Tree.solidTextOfList?,
        Tree.solidTextOfList?, hcs]
      rfl
    · rw [keywordLine, htoken]
      rfl
  | some p =>
    -- decorators stand before the keyword, the declaration begins with it
    obtain ⟨us, vs, hkids, hus, hp, hline⟩ :=
      Site.find?_parts (c := fun t => decide (t.kind = .token)) htoken
    have htidy : Tree.TidyAll (p.tree :: vs) := by
      have hall := Tree.tidyAll_kids hs
      rw [hkids, Tree.tidyAll_append] at hall
      exact hall.2
    have hkind : p.tree.kind = .token := of_decide_eq_true hp
    obtain ⟨ts, hts⟩ := Tree.solidText?_of_leaf htidy.1 (.inl hkind)
    obtain ⟨ds, hds⟩ := Tree.solidTextOfList?_of_mem List.mem_cons_self hts
    obtain ⟨hne, hlast⟩ := Tree.getLast?_solidTextOfList? _ htidy hds
    refine ⟨us, ds, ?_, ?_, hne, hlast, ?_⟩
    · rw [Tree.solidText?_eq_kids (List.mem_of_find?_eq_some hu), hkids,
        Tree.solidTextOfList?_append hds]
    · rw [Grammar.declaration, declarationTrees_of_token hkids hus hkind, hds, Option.getD_some]
    · rw [keywordLine, htoken, Option.map_some, Option.getD_some, hline]

theorem readable_eq (cs : List Char) :
    readable cs = unifyLines cs ∨ readable cs = unifyLines cs ++ ['\n'] := by
  rw [readable]
  split
  · exact .inr rfl
  · split
    · exact .inl rfl
    · exact .inr rfl

/-- The line feed that is put at the end of a source text is no part of a declaration. -/
theorem unifyLines_eq_of_readable {cs before text after : List Char}
    (h : readable cs = before ++ text ++ after) (hne : text ≠ [])
    (hlast : text.getLast? ≠ some '\n') : ∃ after', unifyLines cs = before ++ text ++ after' := by
  rcases readable_eq cs with hread | hread
  · exact ⟨after, by rw [← hread, h]⟩
  · rcases List.eq_nil_or_concat after with rfl | ⟨after, c, rfl⟩
    · have hend := congrArg List.getLast? h
      rw [hread, List.getLast?_concat, List.append_nil, List.getLast?_append,
        List.getLast?_eq_some_getLast hne, Option.some_or] at hend
      rw [List.getLast?_eq_some_getLast hne] at hlast
      exact absurd hend.symm hlast
    · rw [hread, List.concat_eq_append, ← List.append_assoc] at h
      exact ⟨after, (List.append_inj' h rfl).1⟩

end Indented

namespace Grammar

variable {g : Grammar} {path : String} {cs : List Char}

/-- A declaration with a name stands on the lines that are told of it. -/
theorem standsOn {t : Tree} {a : Address} {s : Site} (h : g.parse cs = .ok t)
    (hs : (Site.ofRoot t).at? a = some s) (hname : (s.tree.part? .name).isSome) :
    g.StandsOn cs s (g.convention.startLine s) s.endLine := by
  obtain ⟨before, after, htext, hline, hend⟩ := solidText_at? hs
  -- pages and scripts are read as they are, indented sources with line feeds made alike
  cases g with
  | page =>
    rw [Page.text_of_parse (ok_of_mapError h)] at htext
    exact ⟨before, after, htext, hline, hend⟩
  | script d =>
    rw [Script.text_of_parse (ok_of_mapError h)] at htext
    exact ⟨before, after, htext, hline, hend⟩
  | indented =>
    obtain ⟨hread, htidy⟩ := Indented.text_of_parse (ok_of_mapError h)
    obtain ⟨us, ds, hsolid, hdecl, hne, hlast, hkeyword⟩ :=
      Indented.solidText?_eq_declaration (Site.tidy_at? htidy hs) hname
    rw [hread, hsolid, Option.getD_some, ← List.append_assoc] at htext
    rw [hsolid, Option.getD_some, ← List.append_assoc] at hend
    -- the tree has the readable text, which may have one line feed more than what is read
    obtain ⟨after, htext⟩ := Indented.unifyLines_eq_of_readable htext hne hlast
    refine ⟨before ++ Tree.textOfList us, after, ?_, ?_, ?_⟩
    · rw [hdecl]
      exact htext
    · rw [List.count_append, ← Tree.newlinesOfList_eq, ← Nat.add_assoc, ← hline, ← hkeyword]
      rfl
    · rw [hdecl]
      exact hend

/-- The lines of the text that is read are the lines of the source text, each as it is read. -/
theorem sourceLines_reading (cs : List Char) :
    sourceLines (g.reading cs) = (g.lines cs).map g.reading := by
  cases g with
  | indented => exact Indented.sourceLines_unifyLines cs
  | page => exact (List.map_id _).symm
  | script d => exact (List.map_id _).symm

theorem reading_passage (cs : List Char) (first last : Nat) :
    g.reading (passage (g.lines cs) first last).2 =
      (passage (sourceLines (g.reading cs)) first last).2 := by
  cases g with
  | indented => exact unifyLines_passage cs first last
  | page => rfl
  | script d => rfl

theorem StandsOn.infix_reading {s : Site} {first last : Nat} (h : g.StandsOn cs s first last)
    (hfirst : 1 ≤ first) :
    g.declaration s.tree <:+: g.reading (passage (g.lines cs) first last).2 := by
  obtain ⟨before, after, hread, hmin, hlast⟩ := h
  have hle : first ≤ 1 + before.count '\n' := by
    rw [hmin]
    exact (foldl_min_least _ _).2 _ List.mem_cons_self
  rw [reading_passage, hread]
  exact infix_passage hfirst hle hlast

theorem passage_lines_eq_iff {first last : Nat} (hfirst : 1 ≤ first) (hlast : first ≤ last) :
    passage (sourceLines cs) first last = passage (g.lines cs) first last ↔
      (g.language = .python → LinesAgree (first - 1) cs ∧ LinesAgree last cs) := by
  cases g with
  | indented =>
    rw [lines, passage_eq_iff cs hfirst hlast]
    exact ⟨fun h _ => h, fun h => h rfl⟩
  | page => exact ⟨nofun, fun _ => rfl⟩
  | script d =>
    refine ⟨fun _ h => ?_, fun _ => rfl⟩
    cases hd : d.types <;> simp [language, hd] at h

end Grammar

/-! ### The bodies of method records -/

open Grammar

/-- A method record has the name of a method in the tree and the lines on which its declaration
stands. These lines as they are counted in the grammar contain the declaration; the body is cut out
by the same numbers, but of the lines that end with a line feed. The two are the same text at the
same place exactly when the source is not indentation-structured or neither a line before the
declaration nor one of its own ends with a carriage return alone, the last line of the source set
aside. -/
theorem extractSource_bodies {g : Grammar} {path : String} {cs : List Char}
    {classes : List ClassRecord} (h : extractSource g path cs = .ok classes) :
    ∃ t, g.parse cs = .ok t ∧ sourceLines (g.reading cs) = (g.lines cs).map g.reading ∧
      ∀ c ∈ classes, ∀ m ∈ c.methods, ∃ a s first last,
        (Site.ofRoot t).at? a = some s ∧ s.tree.kind = .method ∧
        (g.convention.nameOf? s).map Value.text = some m.name ∧
        first = g.convention.startLine s ∧ last = s.endLine ∧
        g.StandsOn cs s first last ∧ 1 ≤ first ∧ first ≤ last ∧
        m.startLine = .int first ∧ m.endLine = .int last ∧
        m.body = .text (String.ofList (passage (sourceLines cs) first last).2) ∧
        g.declaration s.tree <:+: g.reading (passage (g.lines cs) first last).2 ∧
        (passage (sourceLines cs) first last = passage (g.lines cs) first last ↔
          (g.language = .python → LinesAgree (first - 1) cs ∧ LinesAgree last cs)) := by
  obtain ⟨t, ht, rfl⟩ := ok_of_map h
  refine ⟨t, ht, sourceLines_reading cs, fun c hc m hm => ?_⟩
  obtain ⟨o, ho, rfl⟩ := List.mem_map.1 hc
  obtain ⟨mo, hmo, rfl⟩ := List.mem_map.1 hm
  obtain ⟨a, s, hs, hkind, hname, hout⟩ := g.methodOutline_at? ho hmo
  obtain ⟨name, hnamed, rfl⟩ := Option.map_eq_some_iff.1 hout
  have hstands := standsOn ht hs hname
  obtain ⟨hfirst, hlast⟩ := hstands.first_le (Site.one_le_line_at? hs)
  refine ⟨a, s, _, _, hs, hkind, congrArg (Option.map Value.text) hnamed, rfl, rfl, hstands,
    hfirst, hlast, rfl, rfl, ?_, hstands.infix_reading hfirst, passage_lines_eq_iff hfirst hlast⟩
  exact congrArg (fun body => Value.text (String.ofList body)) (lineSpan_eq cs hfirst hlast)

/-- An indentation-structured source with a carriage return alone before a class. -/
def loneReturn : List Char := "x = 1\rclass A:\n    def f(self):\n        pass\n".toList

theorem outlines_loneReturn :
    (indented.parse loneReturn).map indented.convention.classOutlines =
      .ok [⟨"A", "", [⟨"f", "", 3, 4⟩], none, 2, 4⟩] := by
  have h : ((indented.parse loneReturn).map indented.convention.classOutlines).toOption =
      some [⟨"A", "", [⟨"f", "", 3, 4⟩], none, 2, 4⟩] := by decide +kernel
  revert h
  cases (indented.parse loneReturn).map indented.convention.classOutlines with
  | error e => exact nofun
  | ok os => exact fun h => congrArg Except.ok (Option.some.inj h)

/-- The carriage return alone makes the body begin one line too late. -/
theorem extractSource_bodies_loneReturn :
    ∃ classes, extractSource indented "a.py" loneReturn = .ok classes ∧
      ∃ c ∈ classes, ∃ m ∈ c.methods, m.startLine = .int 3 ∧ m.endLine = .int 4 ∧
        m.body = .text "        pass\n" ∧
        passage (sourceLines loneReturn) 3 4 ≠ passage (indented.lines loneReturn) 3 4 := by
  obtain ⟨t, ht, hout⟩ := ok_of_map outlines_loneReturn
  have h : extractSource indented "a.py" loneReturn =
      .ok [.ofOutline "a.py" .python loneReturn ⟨"A", "", [⟨"f", "", 3, 4⟩], none, 2, 4⟩] := by
    rw [extractSource, ht]
    exact congrArg Except.ok (congrArg (List.map _) hout)
  refine ⟨_, h, _, List.mem_cons_self, _, List.mem_cons_self, rfl, rfl, ?_, ?_⟩
  · exact congrArg Value.text (by decide)
  · obtain ⟨_, -, -, hall⟩ := extractSource_bodies h
    obtain ⟨a, s, first, last, -, -, -, -, -, -, -, -, hstart, hend, -, -, hagree⟩ :=
      hall _ List.mem_cons_self _ List.mem_cons_self
    obtain rfl : first = 3 := Int.ofNat.inj (Value.int.inj hstart).symm
    obtain rfl : last = 4 := Int.ofNat.inj (Value.int.inj hend).symm
    intro hsame
    rcases (hagree.1 hsame rfl).1 with hlen | hno
    · exact absurd hlen (by decide)
    · exact hno _ List.mem_cons_self rfl

end Docent
