import Docent.Proofs.Extent
import Docent.Proofs.Page.Rules
import Docent.Proofs.Script.Rules

/-!
# How the lines of declarations nest

The text of a node spans the lines from its own to the last one that it reaches. A node below
another one spans lines of it, and nodes that follow each other span lines that do. Main statement:
the lines in the records of a source text are nested and ordered as the declarations are.
-/

namespace Docent

open Docent.Tree (Address Site)

/-! ### Spans of nodes -/

namespace Tree.Site

/-- The line that the text of a node reaches. -/
def reach (s : Site) : Nat := s.line + s.tree.newlines

theorem line_le_reach (s : Site) : s.line ≤ s.reach := Nat.le_add_right _ _

theorem endLine_le_reach (s : Site) : s.endLine ≤ s.reach := by
  have hfront := (prefix_of_solidText?_getD s.tree).sublist.count_le '\n'
  rw [endLine_eq, reach, newlines_eq]
  omega

/-- A node below another one spans lines of it. -/
theorem span_at? {s x : Site} {a : Address} (h : s.at? a = some x) :
    s.line ≤ x.line ∧ x.reach ≤ s.reach := by
  obtain ⟨before, after, htext, hline⟩ := text_at? h
  rw [reach, reach, newlines_eq, newlines_eq, htext, List.count_append, List.count_append]
  omega

theorem newlinesOfList_append (ts us : List Tree) :
    newlinesOfList (ts ++ us) = newlinesOfList ts + newlinesOfList us := by
  rw [newlinesOfList_eq, newlinesOfList_eq, newlinesOfList_eq, textOfList_append, List.count_append]

theorem reach_le_line_of_lt {s p q : Site} {i j : Nat} (hp : s.parts[i]? = some p)
    (hq : s.parts[j]? = some q) (hij : i < j) : p.reach ≤ q.line := by
  obtain ⟨us, vs, hkids, hlen, hline⟩ := getElem?_parts hp
  obtain ⟨ws, zs, hkids', hlen', hline'⟩ := getElem?_parts hq
  have hfront : us ++ [p.tree] <+: ws := by
    have hleft : us ++ [p.tree] <+: s.tree.kids := ⟨vs, by rw [hkids, List.append_assoc]; rfl⟩
    have hright : ws <+: s.tree.kids := ⟨q.tree :: zs, hkids'.symm⟩
    refine List.prefix_of_prefix_length_le hleft hright ?_
    rw [List.length_append, List.length_singleton]
    omega
  obtain ⟨rest, rfl⟩ := hfront
  rw [newlinesOfList_append, newlinesOfList_append] at hline'
  have hone : newlinesOfList [p.tree] = p.tree.newlines := Nat.add_zero _
  rw [reach]
  omega

theorem line_le_of_le {s p q : Site} {i j : Nat} (hp : s.parts[i]? = some p)
    (hq : s.parts[j]? = some q) (hij : i ≤ j) : p.line ≤ q.line := by
  rcases Nat.lt_or_eq_of_le hij with hlt | rfl
  · have hreach := reach_le_line_of_lt hp hq hlt
    have hline := p.line_le_reach
    omega
  · obtain rfl := Option.some.inj (hp.symm.trans hq)
    exact Nat.le_refl _

theorem exists_part {s : Site} {us vs : List Tree} {u : Tree} (h : s.tree.kids = us ++ u :: vs) :
    ∃ p, s.parts[us.length]? = some p ∧ p.tree = u := by
  have hget : (s.parts.map Site.tree)[us.length]? = some u := by
    rw [s.map_tree_parts, h]
    simp
  rw [List.getElem?_map] at hget
  exact Option.map_eq_some_iff.1 hget

theorem pairwise_parts (s : Site) : s.parts.Pairwise fun p q => p.reach ≤ q.line := by
  rw [List.pairwise_iff_getElem]
  intro i j hi hj hij
  exact reach_le_line_of_lt (List.getElem?_eq_getElem hi) (List.getElem?_eq_getElem hj) hij

/-- A node at a later address lies below the one at the earlier address, or follows it. -/
theorem below_or_after {s x y : Site} {a b : Address} (hab : a < b) (hx : s.at? a = some x)
    (hy : s.at? b = some y) : (∃ i c, b = a ++ i :: c) ∨ x.reach ≤ y.line := by
  induction a generalizing s b with
  | nil =>
    cases b with
    | nil => exact absurd hab (List.lt_irrefl _)
    | cons i c => exact .inl ⟨i, c, rfl⟩
  | cons i a ih =>
    cases b with
    | nil => exact absurd hab (List.not_lt_nil _)
    | cons j b =>
      rw [at?_cons] at hx hy
      obtain ⟨p, hp, hx⟩ := Option.bind_eq_some_iff.1 hx
      obtain ⟨q, hq, hy⟩ := Option.bind_eq_some_iff.1 hy
      rcases List.cons_lt_cons_iff.1 hab with hij | ⟨rfl, hrest⟩
      · have hafter := reach_le_line_of_lt hp hq hij
        have hbelow := (span_at? hx).2
        have hbelow' := (span_at? hy).1
        exact .inr (by omega)
      · obtain rfl := Option.some.inj (hp.symm.trans hq)
        rcases ih hrest hx hy with ⟨k, c, rfl⟩ | hafter
        · exact .inl ⟨k, c, rfl⟩
        · exact .inr hafter

/-- A part with something solid ends no later than what it is a part of, which is solid then. -/
theorem endLine_le_of_mem_parts {s p : Site} (hp : p ∈ s.parts) {cs : List Char}
    (hcs : p.tree.solidText? = some cs) :
    p.endLine ≤ s.endLine ∧ ∃ ds, s.tree.solidText? = some ds := by
  obtain ⟨i, hi⟩ := List.mem_iff_getElem?.1 hp
  obtain ⟨us, vs, hkids, -, hline⟩ := getElem?_parts hi
  have hrest : ∃ es, solidTextOfList? (p.tree :: vs) = some es ∧ cs.count '\n' ≤ es.count '\n' := by
    rw [solidTextOfList?]
    cases hvs : solidTextOfList? vs with
    | none => exact ⟨cs, hcs, Nat.le_refl _⟩
    | some es =>
      have hfront := (prefix_of_solidText? p.tree hcs).sublist.count_le '\n'
      exact ⟨_, rfl, by rw [List.count_append]; omega⟩
  obtain ⟨es, hes, hle⟩ := hrest
  have hmem : p.tree ∈ s.tree.kids := by rw [hkids]; simp
  have hsolid : s.tree.solidText? = some (textOfList us ++ es) := by
    rw [solidText?_eq_kids hmem, hkids, solidTextOfList?_append hes]
  refine ⟨?_, _, hsolid⟩
  rw [endLine_eq, endLine_eq, hcs, hsolid, Option.getD_some, Option.getD_some, hline,
    newlinesOfList_eq, List.count_append]
  omega

theorem tree_mem_preorder {s x : Site} {a : Address} (h : s.at? a = some x) :
    x.tree ∈ s.tree.preorder := by
  induction a generalizing s with
  | nil =>
    cases h
    exact self_mem_preorder _
  | cons i a ih =>
    rw [at?_cons] at h
    obtain ⟨p, hp, hx⟩ := Option.bind_eq_some_iff.1 h
    have hmem : p.tree ∈ s.tree.kids := by
      rw [← s.map_tree_parts]
      exact List.mem_map_of_mem (List.mem_of_getElem? hp)
    have hpart : p.tree ∈ s.tree.preorder := by
      cases hs : s.tree with
      | leaf k cs =>
        rw [hs] at hmem
        cases hmem
      | node k ts =>
        rw [hs] at hmem
        exact List.mem_cons_of_mem _ (mem_preorderOfList.2 ⟨_, hmem, self_mem_preorder _⟩)
    exact mem_preorder_trans _ hpart (ih hx)

end Tree.Site

/-! ### Where declarations begin and end -/

namespace Grammar

variable {g : Grammar} {cs : List Char} {t : Tree}

theorem line_le_startLine (g : Grammar) (s : Site) : s.line ≤ g.convention.startLine s := by
  cases g with
  | page => exact Nat.le_refl _
  | script d => exact Nat.le_refl _
  | indented =>
    have hkeyword : s.line ≤ Indented.keywordLine s := by
      rw [Indented.keywordLine]
      cases hfound : s.parts.find? (·.tree.kind = .token) with
      | none => exact Nat.le_refl _
      | some p => exact Site.le_line_of_mem_parts (List.mem_of_find?_eq_some hfound)
    change s.line ≤ (Indented.decoratorLines s).foldl min (Indented.keywordLine s)
    rcases List.mem_cons.1 (foldl_min_least (Indented.keywordLine s)
      (Indented.decoratorLines s)).1 with heq | hmem
    · omega
    · exact Indented.le_decoratorLines hmem

end Grammar

namespace Indented

theorem keywordLine_le {s p : Site} {i : Nat} (hp : s.parts[i]? = some p)
    (hkind : p.tree.kind = .token) : keywordLine s ≤ p.line := by
  have hfound : (s.parts.find? (·.tree.kind = .token)).isSome :=
    List.find?_isSome.2 ⟨p, List.mem_of_getElem? hp, decide_eq_true hkind⟩
  obtain ⟨q, hq⟩ := Option.isSome_iff_exists.1 hfound
  obtain ⟨-, j, hj, rfl, hfirst⟩ := List.find?_eq_some_iff_getElem.1 hq
  have hji : j ≤ i := by
    by_contra hlt
    obtain ⟨hi, rfl⟩ := List.getElem?_eq_some_iff.1 hp
    have hno := hfirst i (by omega)
    rw [decide_eq_true hkind] at hno
    cases hno
  rw [keywordLine, hq]
  exact Site.line_le_of_le (List.getElem?_eq_getElem hj) hp hji

/-- A class begins no later than a class or a suite in it: these come after its keyword. -/
theorem keywordLine_le_of_below {x y : Site} {i : Nat} {c : Address} (hx : IsKeyed x.tree)
    (hclass : x.tree.kind = .classDecl) (hy : x.at? (i :: c) = some y)
    (hquiet : isQuiet y.tree = false) : keywordLine x ≤ y.line := by
  rw [Site.at?_cons] at hy
  obtain ⟨p, hp, hy⟩ := Option.bind_eq_some_iff.1 hy
  have hbelow := (Site.span_at? hy).1
  obtain ⟨ws, zs, hkids, hlen, -⟩ := Site.getElem?_parts hp
  have hnode := Tree.eq_node_of_mem_kids (t := x.tree) (u := p.tree) (by rw [hkids]; simp)
  rw [hclass] at hnode
  obtain ⟨us, mark, vs, hparts, hus, hmark⟩ := hx _ hnode
  obtain ⟨m, hm, rfl⟩ := Site.exists_part hparts
  have hkeyword := keywordLine_le hm hmark
  by_cases hi : i < us.length
  · -- before the keyword nothing but decorators can stand
    have hmem : p.tree ∈ us := by
      have hget : x.tree.kids[i]? = some p.tree := by rw [hkids, ← hlen]; simp
      rw [hparts, List.getElem?_append_left hi] at hget
      exact List.mem_of_getElem? hget
    have hyes := hus _ hmem _ (Site.tree_mem_preorder hy)
    rw [hquiet] at hyes
    cases hyes
  · have hline := Site.line_le_of_le hm hp (by omega)
    omega

end Indented

namespace Grammar

variable {g : Grammar} {cs : List Char} {t : Tree}

theorem startLine_le_of_below (h : g.parse cs = .ok t) {a c : Address} {i : Nat} {x y : Site}
    (hx : (Site.ofRoot t).at? a = some x) (hclass : g.Declares x)
    (hy : (Site.ofRoot t).at? (a ++ i :: c) = some y)
    (hquiet : g = indented → Indented.isQuiet y.tree = false) :
    g.convention.startLine x ≤ y.line := by
  rw [Site.at?_append, hx, Option.bind_some] at hy
  cases g with
  | page => exact (Site.span_at? hy).1
  | script d => exact (Site.span_at? hy).1
  | indented =>
    have hkeyed := Indented.isKeyed_of_parse (ok_of_mapError h) _ (Site.tree_mem_preorder hx)
    have hkind : x.tree.kind = .classDecl := hclass.resolve_right fun h => nomatch h.1
    have hkeyword := Indented.keywordLine_le_of_below hkeyed hkind hy (hquiet rfl)
    have hmin := (foldl_min_least (Indented.keywordLine x) (Indented.decoratorLines x)).2 _
      List.mem_cons_self
    exact Nat.le_trans hmin hkeyword

theorem solid_of_method (h : g.parse cs = .ok t) {a : Address} {x : Site}
    (hx : (Site.ofRoot t).at? a = some x) (hkind : x.tree.kind = .method)
    (hname : (x.tree.part? .name).isSome) : ∃ ds, x.tree.solidText? = some ds := by
  have hmem := Site.tree_mem_preorder hx
  obtain ⟨u, hu⟩ := Option.isSome_iff_exists.1 hname
  have hpart : u ∈ x.tree.kids := List.mem_of_find?_eq_some hu
  cases g with
  | indented =>
    obtain ⟨-, htidy⟩ := Indented.text_of_parse (ok_of_mapError h)
    exact Tree.solidText?_of_name (Site.tidy_at? htidy hx) hu
  | script d =>
    obtain ⟨ds, hds⟩ := (Script.isBuilt_of_parse (ok_of_mapError h) _ hmem).solid hkind
    exact ⟨ds, by rw [Tree.solidText?_eq_kids hpart, hds]⟩
  | page =>
    obtain ⟨ds, hds, hword⟩ :=
      (Page.isBuilt_of_parse (ok_of_mapError h) _ hmem).called (.inr hkind)
    have hne : ds ≠ [] := Shape.ne_nil_of_takes_one hword.1
    obtain rfl : Tree.leaf .name ds = u := Option.some.inj (hds.symm.trans hu)
    have hsolid : (Tree.leaf .name ds).solidText? = some ds := if_neg (by simp [hne])
    rw [Tree.solidText?_eq_kids hpart]
    exact Tree.solidTextOfList?_of_mem hpart hsolid

/-! ### The lines of outlines -/

/-- The lines of a class and of its methods lie within each other, and the methods follow each
other. -/
structure Nested (c : ClassOutline) : Prop where
  first : 1 ≤ c.startLine
  last : c.startLine ≤ c.endLine
  methods : ∀ m ∈ c.methods,
    c.startLine ≤ m.startLine ∧ m.startLine ≤ m.endLine ∧ m.endLine ≤ c.endLine
  apart : c.methods.Pairwise fun m n => m.endLine ≤ n.startLine

theorem first_le_last (h : g.parse cs = .ok t) {a : Address} {s : Site}
    (hs : (Site.ofRoot t).at? a = some s) (hname : (s.tree.part? .name).isSome) :
    1 ≤ g.convention.startLine s ∧ g.convention.startLine s ≤ s.endLine :=
  (standsOn h hs hname).first_le (Site.one_le_line_at? hs)

theorem method_within (h : g.parse cs = .ok t) {a : Address} {s body p : Site}
    (hs : (Site.ofRoot t).at? a = some s) (hclass : g.Declares s)
    (hbody : s.part? .body = some body) (hp : p ∈ body.parts) (hkind : p.tree.kind = .method)
    (hname : (p.tree.part? .name).isSome) :
    g.convention.startLine s ≤ g.convention.startLine p ∧
      g.convention.startLine p ≤ p.endLine ∧ p.endLine ≤ s.endLine := by
  have hpart : body ∈ s.parts := List.mem_of_find?_eq_some hbody
  have hbodyKind : body.tree.kind = .body := by simpa using List.find?_some hbody
  obtain ⟨i, hi⟩ := List.mem_iff_getElem?.1 hpart
  obtain ⟨j, hj⟩ := List.mem_iff_getElem?.1 hp
  have hat : (Site.ofRoot t).at? (a ++ [i]) = some body := by
    rw [Site.at?_concat, hs, Option.bind_some, hi]
  have hat' : (Site.ofRoot t).at? (a ++ [i, j]) = some p := by
    rw [Site.at?_concat_concat, hat, Option.bind_some, hj]
  have hkids : p.tree ∈ body.tree.kids := by
    rw [← body.map_tree_parts]
    exact List.mem_map_of_mem hp
  have hquiet : Indented.isQuiet body.tree = false := Indented.isQuiet_eq_false (.inr hbodyKind) hkids
  obtain ⟨ds, hds⟩ := solid_of_method h hat' hkind hname
  obtain ⟨hend, es, hes⟩ := Site.endLine_le_of_mem_parts hp hds
  obtain ⟨hend', -⟩ := Site.endLine_le_of_mem_parts hpart hes
  have hstart := startLine_le_of_below h hs hclass hat fun _ => hquiet
  have hline := Site.le_line_of_mem_parts hp
  have hown := line_le_startLine g p
  exact ⟨by omega, (first_le_last h hat' hname).2, by omega⟩

theorem pairwise_methodOutlines (g : Grammar) (s : Site) :
    (g.convention.methodOutlines s).Pairwise fun m n => m.endLine ≤ n.startLine := by
  rw [Convention.methodOutlines]
  split
  · exact List.Pairwise.nil
  · rename_i body _
    refine (body.pairwise_parts.filter _).filterMap _ fun p q hpq m hm n hn => ?_
    obtain ⟨_, -, rfl⟩ := Option.map_eq_some_iff.1 hm
    obtain ⟨_, -, rfl⟩ := Option.map_eq_some_iff.1 hn
    have hend := p.endLine_le_reach
    have hstart := line_le_startLine g q
    exact Nat.le_trans hend (Nat.le_trans hpq hstart)

theorem nested_outline (h : g.parse cs = .ok t) {a : Address} {s : Site} {e : Option String}
    {o : ClassOutline} (hs : (Site.ofRoot t).at? a = some s) (hclass : g.Declares s)
    (ho : g.convention.classOutline? e s = some o) : Nested o := by
  have hname : (s.tree.part? .name).isSome := by
    rw [← g.convention.classOutline?_isSome e, ho]
    rfl
  obtain ⟨hfirst, hlast⟩ := first_le_last h hs hname
  obtain ⟨name, -, rfl⟩ := Option.map_eq_some_iff.1 ho
  refine ⟨hfirst, hlast, fun m hm => ?_, pairwise_methodOutlines g s⟩
  have hm' : m ∈ g.convention.methodOutlines s := hm
  rw [Convention.methodOutlines] at hm'
  split at hm'
  · cases hm'
  · rename_i body hbody
    obtain ⟨p, hp, hout⟩ := List.mem_filterMap.1 hm'
    obtain ⟨hp, hkind⟩ := List.mem_filter.1 hp
    have hpname : (p.tree.part? .name).isSome := by
      rw [← g.convention.methodOutline?_isSome, hout]
      rfl
    obtain ⟨_, -, rfl⟩ := Option.map_eq_some_iff.1 hout
    exact method_within h hs hclass hbody hp (of_decide_eq_true hkind) hpname

/-- A class does not begin before one that comes before it in pre-order. -/
theorem startLine_le_of_lt (h : g.parse cs = .ok t) {a b : Address} (hab : a < b) {x y : Site}
    (hx : (Site.ofRoot t).at? a = some x) (hxclass : g.IsClassAt t a)
    (hy : (Site.ofRoot t).at? b = some y) (hyclass : g.IsClassAt t b) :
    g.convention.startLine x ≤ g.convention.startLine y := by
  obtain ⟨x', hx', hxdecl, hxname⟩ := hxclass
  obtain ⟨y', hy', hydecl, hyname⟩ := hyclass
  obtain rfl := Option.some.inj (hx.symm.trans hx')
  obtain rfl := Option.some.inj (hy.symm.trans hy')
  have hown := line_le_startLine g y
  rcases Site.below_or_after hab hx hy with ⟨i, c, rfl⟩ | hafter
  · have hquiet (hg : g = indented) : Indented.isQuiet y.tree = false := by
      subst hg
      have hkind : y.tree.kind = .classDecl := hydecl.resolve_right fun h => nomatch h.1
      obtain ⟨u, hu⟩ := Option.isSome_iff_exists.1 hyname
      exact Indented.isQuiet_eq_false (.inl hkind) (List.mem_of_find?_eq_some hu)
    have hbelow := startLine_le_of_below h hx hxdecl hy hquiet
    omega
  · have hend := x.endLine_le_reach
    have hlast := (first_le_last h hx hxname).2
    omega

/-- Each outline is that of a class with a name at some address, and they are in the order of the
addresses. -/
theorem classOutlines_eq (g : Grammar) (t : Tree) :
    List.Forall₂ (fun a o => g.IsClassAt t a ∧ ∃ s e, (Site.ofRoot t).at? a = some s ∧
        g.convention.classOutline? e s = some o)
      (g.convention.classAddresses t) (g.convention.classOutlines t) :=
  List.forall₂_and_left _ _ |>.2 ⟨fun _ ha => g.mem_classAddresses_iff.1 ha,
    g.convention.classOutlines_eq g.namespaceDecl_notMem_classKinds t⟩

theorem nested_of_mem (h : g.parse cs = .ok t) {o : ClassOutline}
    (ho : o ∈ g.convention.classOutlines t) : Nested o := by
  obtain ⟨i, hi, rfl⟩ := List.mem_iff_getElem.1 ho
  have hall := classOutlines_eq g t
  obtain ⟨⟨s, hs, hdecl, -⟩, s', e, hs', hout⟩ := hall.get (hall.length_eq ▸ hi) hi
  obtain rfl := Option.some.inj (hs.symm.trans hs')
  exact nested_outline h hs hdecl hout

theorem pairwise_startLine (h : g.parse cs = .ok t) :
    (g.convention.classOutlines t).Pairwise fun c d => c.startLine ≤ d.startLine := by
  rw [List.pairwise_iff_getElem]
  intro i j hi hj hij
  have hall := classOutlines_eq g t
  have hlen := hall.length_eq
  obtain ⟨hx, x, e, hxat, hxo⟩ := hall.get (hlen ▸ hi) hi
  obtain ⟨hy, y, e', hyat, hyo⟩ := hall.get (hlen ▸ hj) hj
  have hlt := List.pairwise_iff_getElem.1 (g.convention.pairwise_classAddresses t) i j
    (hlen ▸ hi) (hlen ▸ hj) hij
  have hle := startLine_le_of_lt h hlt hxat hx hyat hy
  obtain ⟨_, -, hxo⟩ := Option.map_eq_some_iff.1 hxo
  obtain ⟨_, -, hyo⟩ := Option.map_eq_some_iff.1 hyo
  rw [List.get_eq_getElem] at hxo hyo
  rw [← hxo, ← hyo]
  exact hle

end Grammar

/-! ### The lines in records -/

/-- A number of a line that is no later than another one. -/
def LineLe (v w : Value) : Prop :=
  ∃ m n : Nat, v = .int m ∧ w = .int n ∧ m ≤ n

/-- The classes that are recorded of an accepted source text are in the order in which they begin.
Each of them begins on a line of the text and does not end before it begins, its methods span lines
of it, and each method ends no later than the next ones begin. -/
theorem extractSource_lines {g : Grammar} {path : String} {cs : List Char}
    {classes : List ClassRecord} (h : extractSource g path cs = .ok classes) :
    (∀ c ∈ classes, LineLe (.int 1) c.startLine ∧ LineLe c.startLine c.endLine ∧
      (∀ m ∈ c.methods, LineLe c.startLine m.startLine ∧ LineLe m.startLine m.endLine ∧
        LineLe m.endLine c.endLine) ∧
      c.methods.Pairwise fun m n => LineLe m.endLine n.startLine) ∧
    classes.Pairwise fun c d => LineLe c.startLine d.startLine := by
  obtain ⟨t, ht, rfl⟩ := ok_of_map h
  have hle {m n : Nat} (hmn : m ≤ n) : LineLe (.int m) (.int n) := ⟨m, n, rfl, rfl, hmn⟩
  refine ⟨fun c hc => ?_, ?_⟩
  · obtain ⟨o, ho, rfl⟩ := List.mem_map.1 hc
    have hnested := Grammar.nested_of_mem ht ho
    refine ⟨hle hnested.first, hle hnested.last, fun m hm => ?_, ?_⟩
    · obtain ⟨mo, hmo, rfl⟩ := List.mem_map.1 hm
      obtain ⟨hfirst, hspan, hlast⟩ := hnested.methods mo hmo
      exact ⟨hle hfirst, hle hspan, hle hlast⟩
    · exact List.pairwise_map.2 (hnested.apart.imp hle)
  · exact List.pairwise_map.2 ((Grammar.pairwise_startLine ht).imp hle)

/-- A class with a decorator, another class in it and methods after that. -/
def decoratedNest : List Char :=
  "@d\nclass A:\n    class B:\n        def g(self): pass\n    def f(self): pass\n    def h(self): pass\n".toList

/-- The decorator is the first line of the class, and the lines of its methods come after it. -/
theorem extractSource_lines_decoratedNest :
    ∃ c d, extractSource .indented "a.py" decoratedNest = .ok [c, d] ∧
      c.startLine = .int 1 ∧ LineLe c.startLine d.startLine ∧
      (∀ m ∈ c.methods, LineLe c.startLine m.startLine ∧ LineLe m.endLine c.endLine) ∧
      c.methods.length = 2 ∧ c.methods.Pairwise fun m n => LineLe m.endLine n.startLine := by
  have hout : (Grammar.indented.parse decoratedNest).toOption.map
      Grammar.indented.convention.classOutlines =
        some [⟨"A", "", [⟨"f", "", 5, 5⟩, ⟨"h", "", 6, 6⟩], none, 1, 6⟩,
          ⟨"B", "", [⟨"g", "", 4, 4⟩], none, 3, 4⟩] := by decide +kernel
  have h := extractSource_of_outlines hout "a.py"
  obtain ⟨hclasses, horder⟩ := extractSource_lines h
  obtain ⟨-, -, hmethods, hapart⟩ := hclasses _ List.mem_cons_self
  exact ⟨_, _, h, rfl, List.rel_of_pairwise_cons horder List.mem_cons_self,
    fun m hm => ⟨(hmethods m hm).1, (hmethods m hm).2.2⟩, rfl, hapart⟩

end Docent
