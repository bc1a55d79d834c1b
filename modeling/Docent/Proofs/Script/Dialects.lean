import Docent.Extraction
import Docent.Proofs.Address
import Docent.Proofs.Except
import Docent.Proofs.Script.Decorated
import Docent.Proofs.Script.Rules
import Docent.Proofs.Script.Skeleton

/-!
# One script read with and without types

A script that both dialects accept is read twice. Without types the decorators of a method are parts
of it, with types they stand beside it. Main statement: where the two trees differ in nothing else,
the records are the same apart from the language and from decorated methods; with types the record
of a decorated method begins after its decorators, and the comments before them do not document it.
The skeleton of a class is read as the same tree. The trees of other texts can differ in more, as
where a comment ends the line of a closing brace, or `<` and `>` compare or enclose types.
-/

namespace Docent

open Docent.Tree (Site newlinesOfList decorators)

/-! ### Decorators before a method -/

theorem Tree.Site.withDecorators_of_nil {s : Site} (h : decorators s.before = []) :
    s.withDecorators = s := by
  rw [Site.withDecorators, h]
  rfl

theorem nearestDocBlock_decorators {before : List Tree} (h : decorators before ≠ []) :
    nearestDocBlock before = nearestDocBlock (decorators before) := by
  induction before with
  | nil => exact absurd rfl h
  | cons t before ih =>
    rw [decorators] at h ⊢
    split at h
    · rename_i hgoes
      rw [if_pos hgoes]
      by_cases hkind : t.kind = .decorator
      · rw [nearestDocBlock_cons, nearestDocBlock_cons, hkind]
        rfl
      · have hrun : decorators before ≠ [] := by
          rintro hnil
          rw [Tree.decoratorsGoOn, hnil] at hgoes
          simp [hkind] at hgoes
        exact nearestDocBlock_congr rfl rfl (ih hrun)
    · exact absurd rfl h

/-- The outline of a method with a name, if it is taken to begin where a node begins. -/
def MethodOutline.beginningAt (first s : Site) (name : String) : MethodOutline :=
  ⟨name, String.ofList ((nearestDocBlock first.before).getD []), first.line, s.endLine⟩

/-- The outlines of a method that begins with its decorators and of one that begins after them. -/
def MethodOutline.DecoratedIn (t : Tree) (m m' : MethodOutline) : Prop :=
  ∃ s ∈ t.sites, s.tree.kind = .method ∧ ∃ name,
    m = .beginningAt s.withDecorators s name ∧ m' = .beginningAt s s name

/-- The outlines of a class whose methods begin with their decorators, or after them. -/
structure ClassOutline.DecoratedIn (t : Tree) (c c' : ClassOutline) : Prop where
  fields : c' = { c with methods := c'.methods }
  methods : List.Forall₂ (MethodOutline.DecoratedIn t) c.methods c'.methods

theorem Tree.outer_of_mem_go {s p : Site} {line : Nat} {before ts : List Tree}
    (h : p ∈ Site.parts.go s line before ts) : p.outer = some (s.tree.kind, s.before) := by
  induction ts generalizing line before with
  | nil => cases h
  | cons t ts ih =>
    rw [Site.parts.go] at h
    rcases List.mem_cons.1 h with rfl | h
    · rfl
    · exact ih h

namespace Convention

variable {ks : List Kind} {t : Tree}

theorem methodOutline?_decorated (ks : List Kind) {s : Site} (hmethod : s.tree.kind = .method)
    (houter : ∃ before, s.outer = some (.body, before)) :
    (decorated ks).methodOutline? s =
        ((blockComments ks).nameOf? s).map (MethodOutline.beginningAt s.withDecorators s) ∧
      (blockComments ks).methodOutline? s =
        ((blockComments ks).nameOf? s).map (MethodOutline.beginningAt s s) := by
  obtain ⟨before, houter⟩ := houter
  have hdoc : (blockComments ks).doc s = _ := doc_blockComments (k := .body) (by rintro ⟨⟩) houter
  have hfirst : (blockComments ks).doc s.withDecorators = _ :=
    doc_blockComments (k := .body) (by rintro ⟨⟩) houter
  constructor
  · rw [methodOutline?, doc_decorated_method hmethod, startLine_decorated_method hmethod, hfirst]
    rfl
  · rw [methodOutline?, hdoc]
    rfl

theorem outlinesAmong_decoratedIn {ss : List Site}
    (h : ∀ s ∈ ss, s ∈ t.sites ∧ ∃ before, s.outer = some (.body, before)) :
    List.Forall₂ (MethodOutline.DecoratedIn t) ((decorated ks).outlinesAmong ss)
      ((blockComments ks).outlinesAmong ss) := by
  induction ss with
  | nil => exact .nil
  | cons s ss ih =>
    have hrest := ih fun s hs => h s (List.mem_cons_of_mem _ hs)
    by_cases hmethod : s.tree.kind = .method
    · obtain ⟨hsite, houter⟩ := h s List.mem_cons_self
      obtain ⟨hplain, htyped⟩ := methodOutline?_decorated ks hmethod houter
      rw [outlinesAmong_cons _ hmethod, outlinesAmong_cons _ hmethod, hplain, htyped]
      cases (blockComments ks).nameOf? s with
      | none => exact hrest
      | some name => exact .cons ⟨s, hsite, hmethod, name, rfl, rfl⟩ hrest
    · rwa [outlinesAmong_cons_of_ne _ hmethod, outlinesAmong_cons_of_ne _ hmethod]

theorem methodOutlines_decoratedIn {s : Site} (hs : s ∈ t.sites) :
    List.Forall₂ (MethodOutline.DecoratedIn t) ((decorated ks).methodOutlines s)
      ((blockComments ks).methodOutlines s) := by
  rw [methodOutlines, methodOutlines]
  cases hbody : s.part? .body with
  | none => exact .nil
  | some body =>
    have hkind : body.tree.kind = .body := by simpa using List.find?_some hbody
    have hsite := Tree.mem_sites_of_mem_parts hs (List.mem_of_find?_eq_some hbody)
    refine outlinesAmong_decoratedIn fun p hp =>
      ⟨Tree.mem_sites_of_mem_parts hsite hp, body.before, ?_⟩
    rw [← hkind]
    exact Tree.outer_of_mem_go hp

theorem outlinesFrom_decoratedIn (hks : .method ∉ ks) (e : Option String) {ss : List Site}
    (h : ∀ s ∈ ss, s ∈ t.sites) :
    List.Forall₂ (ClassOutline.DecoratedIn t) ((decorated ks).outlinesFrom e ss)
      ((blockComments ks).outlinesFrom e ss) := by
  induction ss generalizing e with
  | nil => exact .nil
  | cons s ss ih =>
    have hrest (e : Option String) := ih e fun s hs => h s (List.mem_cons_of_mem _ hs)
    rw [outlinesFrom, outlinesFrom]
    by_cases hspace : s.tree.kind = .namespaceDecl
    · rw [if_pos hspace, if_pos hspace]
      exact hrest _
    · rw [if_neg hspace, if_neg hspace]
      by_cases hclass : s.tree.kind ∈ ks
      · have hmethod : s.tree.kind ≠ .method := fun heq => hks (heq ▸ hclass)
        -- a class is no method, so its own decorators make no difference to its outline
        have houtline : (decorated ks).classOutline? e s = ((blockComments ks).nameOf? s).map
            fun name => ⟨name, (blockComments ks).doc s, (decorated ks).methodOutlines s, e, s.line,
              s.endLine⟩ := by
          rw [classOutline?, doc_decorated hmethod, startLine_decorated hmethod]
          rfl
        rw [if_pos (show _ ∈ (decorated ks).classKinds from hclass),
          if_pos (show _ ∈ (blockComments ks).classKinds from hclass), houtline, classOutline?]
        cases (blockComments ks).nameOf? s with
        | none => exact hrest e
        | some name =>
          exact .cons ⟨rfl, methodOutlines_decoratedIn (h s List.mem_cons_self)⟩ (hrest e)
      · rw [if_neg (show _ ∉ (decorated ks).classKinds from hclass),
          if_neg (show _ ∉ (blockComments ks).classKinds from hclass)]
        exact hrest e

/-- The same declarations are outlined, whether methods begin with their decorators or not. -/
theorem classOutlines_decoratedIn (ks : List Kind) (hks : .method ∉ ks) (t : Tree) :
    List.Forall₂ (ClassOutline.DecoratedIn t) ((decorated ks).classOutlines t)
      ((blockComments ks).classOutlines t) :=
  outlinesFrom_decoratedIn hks none fun _ h => h

theorem outlinesFrom_of_no_abstract (e : Option String) {ss : List Site}
    (h : ∀ s ∈ ss, s.tree.kind ≠ .abstractClassDecl) :
    (blockComments [.classDecl]).outlinesFrom e ss =
      (blockComments [.classDecl, .abstractClassDecl]).outlinesFrom e ss := by
  induction ss generalizing e with
  | nil => rfl
  | cons s ss ih =>
    have hrest (e : Option String) := ih e fun s hs => h s (List.mem_cons_of_mem _ hs)
    have hkind : s.tree.kind ∈ (blockComments [.classDecl]).classKinds ↔
        s.tree.kind ∈ (blockComments [.classDecl, .abstractClassDecl]).classKinds := by
      simp [blockComments, h s List.mem_cons_self]
    rw [outlinesFrom, outlinesFrom, hrest, hrest]
    simp only [hkind]
    rfl

theorem classOutlines_of_no_abstract {t : Tree}
    (h : ∀ u ∈ t.preorder, u.kind ≠ .abstractClassDecl) :
    (blockComments [.classDecl]).classOutlines t =
      (blockComments [.classDecl, .abstractClassDecl]).classOutlines t := by
  refine outlinesFrom_of_no_abstract none fun s hs => h s.tree ?_
  rw [← Tree.map_tree_sitesFrom 1 [] none t, ← Tree.sites_eq]
  exact List.mem_map_of_mem hs

end Convention

/-! ### Records -/

theorem MethodOutline.DecoratedIn.eq {t : Tree} {m m' : MethodOutline} (h : m.DecoratedIn t m')
    (hnone : ∀ s ∈ t.sites, s.tree.kind = .method → decorators s.before = []) : m = m' := by
  obtain ⟨s, hs, hmethod, name, rfl, rfl⟩ := h
  rw [Site.withDecorators_of_nil (hnone s hs hmethod)]

theorem ClassOutline.DecoratedIn.eq {t : Tree} {c c' : ClassOutline} (h : c.DecoratedIn t c')
    (hnone : ∀ s ∈ t.sites, s.tree.kind = .method → decorators s.before = []) : c = c' := by
  have hmethods : c.methods = c'.methods :=
    List.forall₂_eq_eq_eq ▸ h.methods.imp fun _ _ hm => hm.eq hnone
  rw [h.fields, ← hmethods]

theorem extractSource_of_parse {g : Grammar} {cs : List Char} {t : Tree} (h : g.parse cs = .ok t)
    (path : String) : extractSource g path cs = .ok ((g.convention.classOutlines t).map
      (ClassRecord.ofOutline path g.language cs)) := by
  rw [extractSource, h]
  rfl

/-- A script that is read without types and with them. Without types no decorator stands beside the
members of a class, so a method begins with its decorators; with types no decorator is a part of a
method. If the trees differ in nothing else, the records are made from the same outlines, apart from
decorated methods: with types a method is taken to begin after its decorators, and only what stands
after the last of them documents it. -/
theorem extractSource_dialects {markup markup' : Bool} {cs : List Char} {plain typed : Tree}
    (hplain : (Grammar.script ⟨false, markup⟩).parse cs = .ok plain)
    (htyped : (Grammar.script ⟨true, markup'⟩).parse cs = .ok typed) :
    (∀ u ∈ plain.preorder, u.kind = .body → ∀ v ∈ u.kids, v.kind ≠ .decorator) ∧
    (∀ u ∈ typed.preorder, u.kind = .method → ∀ v ∈ u.kids, v.kind ≠ .decorator) ∧
    (∀ s ∈ typed.sites, decorators s.before ≠ [] →
      nearestDocBlock s.before = nearestDocBlock (decorators s.before)) ∧
    (typed.gathered = plain → ∃ outlines outlines' : List ClassOutline,
      (∀ path,
        extractSource (.script ⟨false, markup⟩) path cs =
          .ok (outlines.map (.ofOutline path .javascript cs)) ∧
        extractSource (.script ⟨true, markup'⟩) path cs =
          .ok (outlines'.map (.ofOutline path .typescript cs))) ∧
      List.Forall₂ (ClassOutline.DecoratedIn typed) outlines outlines' ∧
      ((∀ s ∈ typed.sites, s.tree.kind = .method → decorators s.before = []) →
        outlines = outlines')) := by
  have hbuilt := Script.isBuilt_of_parse (ok_of_mapError hplain)
  have hbuilt' := Script.isBuilt_of_parse (ok_of_mapError htyped)
  refine ⟨fun u hu hbody => (hbuilt u hu).body hbody rfl,
    fun u hu hmethod => (hbuilt' u hu).method hmethod rfl,
    fun s _ => nearestDocBlock_decorators, ?_⟩
  rintro rfl
  let kinds : List Kind := [.classDecl, .abstractClassDecl]
  -- without types there is no abstract class, so it makes no difference to look for one
  have habstract : ∀ u ∈ typed.gathered.preorder, u.kind ≠ .abstractClassDecl :=
    fun u hu hkind => Bool.noConfusion ((hbuilt u hu).abstract hkind)
  have hplainOutlines : (Convention.blockComments [.classDecl]).classOutlines typed.gathered =
      (Convention.decorated kinds).classOutlines typed := by
    rw [Convention.classOutlines_of_no_abstract habstract]
    exact Convention.classOutlines_gathered (by decide) (Script.allBuilt_singleton.2 hbuilt')
  have halike := Convention.classOutlines_decoratedIn kinds (by decide) typed
  refine ⟨_, _, fun path => ⟨?_, extractSource_of_parse htyped path⟩, halike, fun hnone => ?_⟩
  · rw [extractSource_of_parse hplain path, ← hplainOutlines]
    rfl
  · exact List.forall₂_eq_eq_eq ▸ halike.imp fun _ _ hc => hc.eq hnone

/-- The skeleton of a class, with or without documentation, is read alike by both dialects, and
there are no decorators to be moved. -/
theorem Script.parse_classText_dialects {markup markup' : Bool} {doc name : List Char}
    (hdoc : doc = [] ∨ IsBlock doc) (hword : wordShape.Takes name)
    (hname : oneOf reservedWords name = false) (hgoesOn : oneOf classGoesOn name = false)
    (hnull : Char.ofNat 0 ∉ classText doc name) :
    ∃ t, (Grammar.script ⟨false, markup⟩).parse (classText doc name) = .ok t ∧
      (Grammar.script ⟨true, markup'⟩).parse (classText doc name) = .ok t ∧ t.gathered = t := by
  have hplain := parse_classText (d := ⟨false, markup⟩) hdoc rfl
    (takes_wordWhere hword (by simp [Dialect.isName, hname])) hnull
  have htyped := parse_classText (d := ⟨true, markup'⟩) hdoc rfl
    (takes_wordWhere hword (by simp [hgoesOn])) hnull
  refine ⟨_, congrArg (Except.mapError Grammar.syntaxError) hplain,
    congrArg (Except.mapError Grammar.syntaxError) htyped, ?_⟩
  unfold docGap
  split <;> rfl

/-- A script in which a method has a decorator, after a comment that documents it. -/
def decoratedScript : List Char :=
  "class A \x7b\n  /** doc */\n  @dec\n  m() \x7b\x7d\n\x7d\n".toList

/-- Without types the comment documents the method, which begins with the decorator; with types it
is documented by nothing and begins after the decorator. -/
theorem extractSource_decoratedScript :
    ∃ plain typed, (Grammar.script ⟨false, true⟩).parse decoratedScript = .ok plain ∧
      (Grammar.script ⟨true, false⟩).parse decoratedScript = .ok typed ∧ typed.gathered = plain ∧
      ∃ outlines outlines' : List ClassOutline,
        (∀ path,
          extractSource (.script ⟨false, true⟩) path decoratedScript =
            .ok (outlines.map (.ofOutline path .javascript decoratedScript)) ∧
          extractSource (.script ⟨true, false⟩) path decoratedScript =
            .ok (outlines'.map (.ofOutline path .typescript decoratedScript))) ∧
        List.Forall₂ (ClassOutline.DecoratedIn typed) outlines outlines' ∧
        (Convention.blockComments [.classDecl]).classOutlines plain =
          [⟨"A", "", [⟨"m", "/** doc */", 3, 4⟩], none, 1, 5⟩] ∧
        (Convention.blockComments [.classDecl, .abstractClassDecl]).classOutlines typed =
          [⟨"A", "", [⟨"m", "", 4, 4⟩], none, 1, 5⟩] := by
  have houtlines : ((Grammar.script ⟨false, true⟩).parse decoratedScript).toOption.map
      (Convention.blockComments [.classDecl]).classOutlines =
        some [⟨"A", "", [⟨"m", "/** doc */", 3, 4⟩], none, 1, 5⟩] := by decide +kernel
  have houtlines' : ((Grammar.script ⟨true, false⟩).parse decoratedScript).toOption.map
      (Convention.blockComments [.classDecl, .abstractClassDecl]).classOutlines =
        some [⟨"A", "", [⟨"m", "", 4, 4⟩], none, 1, 5⟩] := by decide +kernel
  have hgathered : ((Grammar.script ⟨true, false⟩).parse decoratedScript).toOption.map
      Tree.gathered = ((Grammar.script ⟨false, true⟩).parse decoratedScript).toOption := by
    decide +kernel
  obtain ⟨plain, hplain, houtlines⟩ := ok_of_toOption_map houtlines
  obtain ⟨typed, htyped, houtlines'⟩ := ok_of_toOption_map houtlines'
  rw [hplain, htyped] at hgathered
  have hgathered : typed.gathered = plain := Option.some.inj hgathered
  obtain ⟨-, -, -, hrecords⟩ := extractSource_dialects hplain htyped
  obtain ⟨outlines, outlines', hextract, halike, -⟩ := hrecords hgathered
  exact ⟨plain, typed, hplain, htyped, hgathered, outlines, outlines', hextract, halike,
    houtlines, houtlines'⟩

end Docent
