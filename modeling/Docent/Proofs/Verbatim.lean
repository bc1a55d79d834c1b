import Docent.Proofs.Origin
import Docent.Proofs.Span

/-!
# Texts of records as passages of the source

Of pages and scripts the name and the documentation of a class or a method are recorded as they
stand in the source text: the documentation first, and then, on the lines of the declaration, the
name. Main statement: `extractSource_verbatim`.
-/

namespace Docent

open Docent.Tree (Address Site textOfList)

/-! ### What stands before a node -/

namespace Tree.Site

/-- A node stands between two parts of a text. What stands before it beside it, and before the
construct that it is a part of, are passages of the first one. -/
structure Stands (cs : List Char) (s : Site) (before after : List Char) : Prop where
  text : cs = before ++ s.tree.text ++ after
  line : s.line = 1 + before.count '\n'
  siblings : ∀ u ∈ s.before, u.text <:+: before
  outer : ∀ k us, s.outer = some (k, us) → ∀ u ∈ us, u.text <:+: before

theorem stands_ofRoot (t : Tree) : Stands t.text (ofRoot t) [] [] where
  text := (List.append_nil _).symm
  line := rfl
  siblings := List.forall_mem_nil _
  outer _ _ h := nomatch h

theorem stands_of_mem_go {cs before after : List Char} {s p : Site} {line : Nat}
    {passed ts : List Tree} (htext : cs = before ++ textOfList ts ++ after)
    (hline : line = 1 + before.count '\n') (hpassed : ∀ u ∈ passed, u.text <:+: before)
    (houter : ∀ u ∈ s.before, u.text <:+: before) (hp : p ∈ parts.go s line passed ts) :
    ∃ before' after', p.Stands cs before' after' := by
  induction ts generalizing before line passed with
  | nil => cases hp
  | cons t ts ih =>
    rcases List.mem_cons.1 hp with rfl | hp
    · refine ⟨before, textOfList ts ++ after, ?_, hline, hpassed, ?_⟩
      · rw [htext, textOfList, List.append_assoc, List.append_assoc, List.append_assoc]
      · rintro k us ⟨⟩
        exact houter
    · have hgrows : ∀ {v : List Char}, v <:+: before → v <:+: before ++ t.text :=
        fun hv => hv.trans (List.prefix_append _ _).isInfix
      have htext' : cs = before ++ t.text ++ textOfList ts ++ after := by
        rw [htext, textOfList, ← List.append_assoc before]
      have hline' : line + t.newlines = 1 + (before ++ t.text).count '\n' := by
        rw [hline, newlines_eq, List.count_append, Nat.add_assoc]
      have hpassed' : ∀ u ∈ t :: passed, u.text <:+: before ++ t.text :=
        List.forall_mem_cons.2
          ⟨(List.suffix_append _ _).isInfix, fun u hu => hgrows (hpassed u hu)⟩
      exact ih htext' hline' hpassed' (fun u hu => hgrows (houter u hu)) hp

theorem Stands.part {cs before after : List Char} {s p : Site} (h : s.Stands cs before after)
    (hp : p ∈ s.parts) : ∃ before' after', p.Stands cs before' after' := by
  have htext : s.tree.text = textOfList s.tree.kids := by
    obtain ⟨i, hi⟩ := List.mem_iff_getElem?.1 hp
    exact text_eq_kids hi
  have hwhole := h.text
  rw [htext] at hwhole
  exact stands_of_mem_go hwhole h.line (List.forall_mem_nil _) h.siblings hp

theorem Stands.at? {cs before after : List Char} {s x : Site} {a : Address}
    (h : s.Stands cs before after) (hx : s.at? a = some x) :
    ∃ before' after', x.Stands cs before' after' := by
  induction a generalizing s before after with
  | nil => exact ⟨before, after, Option.some.inj hx ▸ h⟩
  | cons i a ih =>
    rw [at?_cons] at hx
    obtain ⟨p, hp, hx⟩ := Option.bind_eq_some_iff.1 hx
    obtain ⟨before', after', hp⟩ := h.part (List.mem_of_getElem? hp)
    exact ih hp hx

theorem Stands.context {cs before after : List Char} {s : Site} (h : s.Stands cs before after) :
    ∀ u ∈ declarationContext s, u.text <:+: before := by
  unfold declarationContext
  split
  · rename_i us houter
    exact h.outer _ us houter
  · exact h.siblings

end Tree.Site

/-! ### Where the documentation and the name stand -/

/-- A text stands in a longer one after a part of it; its bytes are those that follow the bytes of
that part. -/
structure Occurs (cs before text : List Char) : Prop where
  characters : before ++ text <+: cs
  bytes : (cs.utf8Encode.extract before.utf8Encode.size
    (before.utf8Encode.size + text.utf8Encode.size)).utf8Decode? = some text.toArray

theorem utf8Encode_extract (before text after : List Char) :
    (before ++ text ++ after).utf8Encode.extract before.utf8Encode.size
      (before.utf8Encode.size + text.utf8Encode.size) = text.utf8Encode := by
  have hbefore : before.utf8Encode.extract before.utf8Encode.size
      (before.utf8Encode.size + text.utf8Encode.size) = ByteArray.empty := by
    rw [ByteArray.extract_eq_empty_iff]
    omega
  rw [List.append_assoc, List.utf8Encode_append, List.utf8Encode_append, ByteArray.extract_append,
    Nat.sub_self, Nat.add_sub_cancel_left, ByteArray.extract_append_eq_left rfl, hbefore,
    ByteArray.empty_append]

theorem occurs_append (before text after : List Char) :
    Occurs (before ++ text ++ after) before text where
  characters := List.prefix_append _ _
  bytes := by rw [utf8Encode_extract, List.utf8Decode?_utf8Encode]

/-- A documentation and a name are passages of a text, the one before the other, and the name stands
on some of its lines. -/
def InOrder (cs doc name : List Char) (first last : Nat) : Prop :=
  ∃ before between, Occurs cs before doc ∧ Occurs cs (before ++ doc ++ between) name ∧
    first ≤ 1 + (before ++ doc ++ between).count '\n' ∧
    1 + (before ++ doc ++ between ++ name).count '\n' ≤ last

theorem inOrder_of_eq {cs doc name : List Char} {first last : Nat}
    (before between after : List Char) (h : cs = before ++ doc ++ between ++ name ++ after)
    (hfirst : first ≤ 1 + (before ++ doc ++ between).count '\n')
    (hlast : 1 + (before ++ doc ++ between ++ name).count '\n' ≤ last) :
    InOrder cs doc name first last := by
  refine ⟨before, between, ?_, ?_, hfirst, hlast⟩
  · rw [h, List.append_assoc _ name, List.append_assoc _ between]
    exact occurs_append before doc _
  · rw [h]
    exact occurs_append _ name after

namespace Tree.Site

variable {cs before after : List Char} {s : Site}

theorem Stands.doc (h : s.Stands cs before after) :
    ∃ lead between,
      before = lead ++ (nearestDocBlock (declarationContext s)).getD [] ++ between := by
  cases hdoc : nearestDocBlock (declarationContext s) with
  | none => exact ⟨[], before, rfl⟩
  | some doc =>
    obtain ⟨u, hu, -, rfl, -⟩ := comment_of_nearestDocBlock hdoc
    obtain ⟨lead, between, hbefore⟩ := h.context u hu
    exact ⟨lead, between, hbefore.symm⟩

theorem Stands.inOrder (h : s.Stands cs before after) {u : Tree}
    (hu : s.tree.part? .name = some u) (hfull : u.solidText?.getD [] = u.text) :
    InOrder cs ((nearestDocBlock (declarationContext s)).getD []) u.text s.line s.endLine := by
  obtain ⟨lead, between, hbefore⟩ := h.doc
  cases hsolid : u.solidText? with
  | none =>
    -- an empty name stands anywhere, so also where the declaration begins
    rw [hsolid] at hfull
    refine inOrder_of_eq lead between (s.tree.text ++ after) ?_ ?_ ?_
    · rw [← hfull, ← hbefore, h.text]
      simp
    · rw [← hbefore, h.line]
    · rw [← hfull, Option.getD_none, List.append_nil, ← hbefore, ← h.line, endLine_eq]
      exact Nat.le_add_right _ _
  | some name =>
    rw [hsolid, Option.getD_some] at hfull
    subst hfull
    -- the name is one of the parts, and what stands before that part is in order with it
    have hmem : u ∈ s.parts.map Site.tree := by
      rw [s.map_tree_parts]
      exact List.mem_of_find?_eq_some hu
    obtain ⟨p, hp, rfl⟩ := List.mem_map.1 hmem
    obtain ⟨i, hi⟩ := List.mem_iff_getElem?.1 hp
    obtain ⟨us, vs, hkids, -, hline⟩ := getElem?_parts hi
    obtain ⟨hend, -⟩ := endLine_le_of_mem_parts hp hsolid
    have hfront : before ++ textOfList us =
        lead ++ (nearestDocBlock (declarationContext s)).getD [] ++ (between ++ textOfList us) := by
      rw [hbefore, List.append_assoc _ between]
    have hcount : 1 + (before ++ textOfList us).count '\n' = p.line := by
      rw [hline, h.line, newlinesOfList_eq, List.count_append, Nat.add_assoc]
    refine inOrder_of_eq lead (between ++ textOfList us) (textOfList vs ++ after) ?_ ?_ ?_
    · rw [← hfront, h.text, text_eq_kids hi, hkids, textOfList_append, textOfList]
      simp only [List.append_assoc]
    · rw [← hfront, hcount]
      exact le_line_of_mem_parts hp
    · rw [← hfront, List.count_append, ← Nat.add_assoc, hcount]
      rw [endLine_eq, hsolid, Option.getD_some] at hend
      exact hend

end Tree.Site

/-! ### Records -/

namespace Grammar

variable {g : Grammar} {cs : List Char} {t : Tree}

/-- Nothing blank ends the name of a class or a method of a page or a script. -/
theorem solidText?_of_name (hg : g.language ≠ .python) (h : g.parse cs = .ok t) {a : Address}
    {s : Site} (hs : (Site.ofRoot t).at? a = some s)
    (hdecl : g.Declares s ∨ s.tree.kind = .method) {u : Tree}
    (hu : s.tree.part? .name = some u) : u.solidText?.getD [] = u.text := by
  have hmem := Site.tree_mem_preorder hs
  cases g with
  | indented => exact absurd rfl hg
  | page =>
    have hkind : s.tree.kind = .classDecl ∨ s.tree.kind = .method := by
      refine hdecl.imp_left fun hclass => hclass.resolve_right fun h => ?_
      cases h.1
    obtain ⟨name, hname, -⟩ := (Page.isBuilt_of_parse (ok_of_mapError h) _ hmem).called hkind
    obtain rfl := Option.some.inj (hname.symm.trans hu)
    exact Tree.solidText?_leaf_getD .name name rfl
  | script d =>
    have hpart : u ∈ t.preorder :=
      Tree.mem_preorder_trans _ hmem (Site.mem_of_part? hu)
    have hname : u.kind = .name := by simpa using List.find?_some hu
    exact ((Script.isBuilt_of_parse (ok_of_mapError h) _ hpart).name hname).full

theorem text_of_parse (hg : g.language ≠ .python) (h : g.parse cs = .ok t) : t.text = cs := by
  cases g with
  | indented => exact absurd rfl hg
  | page => exact Page.text_of_parse (ok_of_mapError h)
  | script d => exact Script.text_of_parse (ok_of_mapError h)

theorem convention_eq (hg : g.language ≠ .python) : ∃ ks, g.convention = .blockComments ks := by
  cases g with
  | indented => exact absurd rfl hg
  | page => exact ⟨_, rfl⟩
  | script d => exact ⟨_, rfl⟩

/-- The documentation and the name of a class or a method are passages of the source text, in this
order, the name on the lines of the declaration. -/
theorem inOrder_at? (hg : g.language ≠ .python) (h : g.parse cs = .ok t) {a : Address} {s : Site}
    (hs : (Site.ofRoot t).at? a = some s) (hdecl : g.Declares s ∨ s.tree.kind = .method)
    {name : String} (hname : g.convention.nameOf? s = some name) :
    ∃ doc cs', g.convention.doc s = String.ofList doc ∧ name = String.ofList cs' ∧
      InOrder cs doc cs' (g.convention.startLine s) s.endLine := by
  obtain ⟨u, hu, rfl⟩ := Option.map_eq_some_iff.1 hname
  have hfull := solidText?_of_name hg h hs hdecl hu
  obtain ⟨before, after, hstands⟩ := (Site.stands_ofRoot t).at? hs
  rw [text_of_parse hg h] at hstands
  obtain ⟨ks, hconv⟩ := convention_eq hg
  rw [hconv]
  exact ⟨_, _, rfl, rfl, hstands.inOrder hu hfull⟩

end Grammar

/-- A name and a documentation that are recorded with lines of a source text are passages of it, the
documentation before the name, and the name on these lines. -/
def Verbatim (cs : List Char) (name doc first last : Value) : Prop :=
  ∃ (name' doc' : List Char) (m n : Nat),
    name = .text (String.ofList name') ∧ doc = .text (String.ofList doc') ∧
    first = .int m ∧ last = .int n ∧ InOrder cs doc' name' m n

/-- Of every page and every script that is accepted, whatever its characters, the names and the
documentations of all classes and methods are recorded as they stand in the text. -/
theorem extractSource_verbatim {g : Grammar} {path : String} {cs : List Char}
    {classes : List ClassRecord} (hg : g.language ≠ .python)
    (h : extractSource g path cs = .ok classes) :
    ∀ c ∈ classes, Verbatim cs c.name c.doc c.startLine c.endLine ∧
      ∀ m ∈ c.methods, Verbatim cs m.name m.doc m.startLine m.endLine := by
  obtain ⟨t, ht, rfl⟩ := ok_of_map h
  intro c hc
  obtain ⟨o, ho, rfl⟩ := List.mem_map.1 hc
  constructor
  · obtain ⟨i, hi, rfl⟩ := List.mem_iff_getElem.1 ho
    have hall := Grammar.classOutlines_eq g t
    obtain ⟨⟨s, hs, hdecl, -⟩, s', e, hs', hout⟩ := hall.get (hall.length_eq ▸ hi) hi
    obtain rfl := Option.some.inj (hs.symm.trans hs')
    obtain ⟨name, hname, hout⟩ := Option.map_eq_some_iff.1 hout
    obtain ⟨doc, name', hdoc, rfl, horder⟩ := Grammar.inOrder_at? hg ht hs (.inl hdecl) hname
    rw [List.get_eq_getElem] at hout
    rw [← hout]
    exact ⟨name', doc, _, _, rfl, congrArg Value.text hdoc, rfl, rfl, horder⟩
  · intro m hm
    obtain ⟨mo, hmo, rfl⟩ := List.mem_map.1 hm
    obtain ⟨a, s, hs, hkind, -, hout⟩ := g.methodOutline_at? ho hmo
    obtain ⟨name, hname, rfl⟩ := Option.map_eq_some_iff.1 hout
    obtain ⟨doc, name', hdoc, rfl, horder⟩ := Grammar.inOrder_at? hg ht hs (.inr hkind) hname
    exact ⟨name', doc, _, _, rfl, congrArg Value.text hdoc, rfl, rfl, horder⟩

/-- A script with characters of two, three and four bytes before, in and after a documented method
whose name is put together. -/
def wideScript : List Char :=
  "// ß\nclass Ä \x7b\n  /** € */\n  ['𝄞' +\n  x]() \x7b\x7d\n\x7d\n".toList

/-- The name of the method stands on the two lines of the method. -/
theorem extractSource_verbatim_wideScript :
    ∃ c m, extractSource (.script ⟨false, true⟩) "a.js" wideScript = .ok [c] ∧ c.methods = [m] ∧
      Verbatim wideScript c.name c.doc c.startLine c.endLine ∧
      Verbatim wideScript m.name m.doc m.startLine m.endLine ∧
      m.doc = .text "/** € */" ∧ m.startLine = .int 4 := by
  have hout : ((Grammar.script ⟨false, true⟩).parse wideScript).toOption.map
      (Grammar.script ⟨false, true⟩).convention.classOutlines =
        some [⟨"Ä", "", [⟨"['𝄞' +\n  x]", "/** € */", 4, 5⟩], none, 2, 6⟩] := by decide +kernel
  have h := extractSource_of_outlines hout "a.js"
  obtain ⟨hclass, hmethods⟩ := extractSource_verbatim (by decide) h _ List.mem_cons_self
  exact ⟨_, _, h, rfl, hclass, hmethods _ List.mem_cons_self, rfl, rfl⟩

end Docent
