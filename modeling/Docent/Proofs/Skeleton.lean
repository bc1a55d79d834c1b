import Docent.Proofs.Origin
import Docent.Proofs.Page.Skeleton
import Docent.Proofs.Script.Dialects
import Docent.Skeleton

/-!
# Skeletons of classes that are read again

The skeleton of a class in a page or a script is a source text of its own. Main statement: it is
read as one class without methods, with the name, the documentation and the namespace of the class
that it shows, if the word that names the class is not one that goes on with a class in a script
with types.
-/

namespace Docent

open Docent.Tree (Site sitesFrom sitesOfList sites_eq map_tree_sitesOfList preorderOfList textOfList
  sitesOfList_append newlinesOfList Everywhere everywhere_append)

/-! ### Outlines of known trees -/

/-- Nothing is declared in neighbouring trees. -/
abbrev Quiet (f : Forest) : Prop := Everywhere (fun u => u.kind.declares = false) f

theorem declared_of_quiet {f : Forest} (hf : Quiet f) (line : Nat) (before : List Tree)
    (outer : Option (Kind × List Tree)) : declared (sitesOfList line before outer f) = [] := by
  refine List.filter_eq_nil_iff.2 fun s hs => ?_
  have hmem : s.tree ∈ preorderOfList f :=
    map_tree_sitesOfList line before outer f ▸ List.mem_map_of_mem hs
  simp [hf _ hmem]

/-- What comes last is all that is declared, if nothing is declared before it or in it. -/
theorem declared_last {k : Kind} {f parts : Forest} (hk : k.declares = true) (hf : Quiet f)
    (hparts : Quiet parts) (line : Nat) (before : List Tree) (outer : Option (Kind × List Tree)) :
    declared (sitesOfList line before outer (f ++ [.node k parts])) =
      [⟨.node k parts, line + newlinesOfList f, f.reverse ++ before, outer⟩] := by
  rw [sitesOfList_append, declared_append, declared_of_quiet hf, List.nil_append, sitesOfList,
    sitesOfList, List.append_nil, sitesFrom, ← List.singleton_append, declared_append,
    declared_of_quiet hparts, List.append_nil]
  exact List.filter_eq_self.2 fun s hs => List.mem_singleton.1 hs ▸ hk

theorem quiet_cons_leaf {k : Kind} (hk : k.declares = false) (cs : List Char) {f : Forest}
    (hf : Quiet f) : Quiet (.leaf k cs :: f) :=
  List.forall_mem_cons.2 ⟨hk, hf⟩

/-- An outline of a class without methods. -/
structure ClassOutline.Shows (o : ClassOutline) (name doc : List Char) (enclosing : Option String) :
    Prop where
  name : o.name = String.ofList name
  doc : o.doc = String.ofList doc
  methods : o.methods = []
  enclosing : o.enclosing = enclosing

/-- A class that stands last, with nothing else declared before it or in it, is outlined alone. -/
theorem Convention.outlinesFrom_last {ks : List Kind} (hks : ∀ k ∈ ks, k.declares = true)
    (hclass : .classDecl ∈ ks) (e : Option String) (line : Nat) (before : Forest) {f parts : Forest}
    {name : List Char} (hf : Quiet f) (hparts : Quiet parts)
    (hname : parts.find? (·.kind = .name) = some (.leaf .name name))
    (hmethods : ∀ s : Site, s.tree = .node .classDecl parts →
      (blockComments ks).methodOutlines s = []) :
    ∃ o : ClassOutline, o.Shows name ((nearestDocBlock (f.reverse ++ before)).getD []) e ∧
      (blockComments ks).outlinesFrom e
        (sitesOfList line before (some (.item, [])) (f ++ [.node .classDecl parts])) = [o] := by
  let s : Site := ⟨.node .classDecl parts, line + newlinesOfList f, f.reverse ++ before,
    some (.item, [])⟩
  have hnameOf : (blockComments ks).nameOf? s = some (String.ofList name) := by
    rw [nameOf?, show s.tree.part? .name = _ from hname]
    rfl
  let o : ClassOutline := ⟨String.ofList name, (blockComments ks).doc s,
    (blockComments ks).methodOutlines s, e, s.line, s.endLine⟩
  have houtline : (blockComments ks).classOutline? e s = some o := by rw [classOutline?, hnameOf]; rfl
  refine ⟨o, ⟨rfl, rfl, hmethods s rfl, rfl⟩, ?_⟩
  rw [outlinesFrom_declared _ hks, declared_last rfl hf hparts, outlinesFrom, if_neg (by rintro ⟨⟩),
    if_pos (show s.tree.kind ∈ (blockComments ks).classKinds from hclass), houtline]
  rfl

theorem Convention.classOutlines_node (conv : Convention) (h : .item ∉ conv.classKinds) (f : Forest) :
    conv.classOutlines (.node .item f) =
      conv.outlinesFrom none (sitesOfList 1 [] (some (.item, [])) f) := by
  rw [classOutlines, sites_eq, sitesFrom, outlinesFrom, if_neg (by rintro ⟨⟩)]
  exact if_neg h

/-! ### Pages -/

namespace Page

theorem quiet_gap {f : Forest} (h : ∀ t ∈ f, IsGapLeaf t) : Quiet f := by
  intro t ht
  obtain ⟨u, hu, ht⟩ := Tree.mem_preorderOfList.1 ht
  match u, h u hu with
  | .leaf .blank cs, _ => exact List.mem_singleton.1 ht ▸ rfl
  | .leaf .passage cs, _ => exact List.mem_singleton.1 ht ▸ rfl
  | .leaf .comment cs, _ => exact List.mem_singleton.1 ht ▸ rfl

theorem quiet_gaps {raw rest : List Char} {f : Forest} (h : gaps raw = (f, rest)) : Quiet f :=
  quiet_gap fun t ht => isGapLeaf_gaps raw t (by rw [h]; exact ht)

theorem quiet_pathRest {raw : List Char} {f : Forest} (h : PathRest raw f) : Quiet f := by
  induction h with
  | nil => exact Tree.everywhere_nil _
  | @cons mark word raw rest rest' cs f hmark hword _ _ ih =>
    have hname : Quiet (word ++ .leaf .item cs :: f) :=
      everywhere_append.2 ⟨quiet_gaps hword, quiet_cons_leaf rfl cs ih⟩
    exact everywhere_append.2 ⟨quiet_gaps hmark, quiet_cons_leaf rfl _ hname⟩

theorem quiet_path {f : Forest} (h : IsPath f) : Quiet f := by
  obtain ⟨cs, raw, r, rfl, -, -, hr⟩ := h
  exact quiet_cons_leaf rfl cs (quiet_pathRest hr)

theorem quiet_docGap (blank doc : List Char) : Quiet (docGap blank doc) := by
  unfold docGap
  split <;> simp [Everywhere, preorderOfList, Tree.preorder, Tree.kind, Kind.declares]

/-- The documentation in a gap is found before a class if none is found before the gap. -/
theorem nearestDocBlock_docGap {doc : List Char} (hdoc : doc = [] ∨ IsBlock doc) (blank : List Char)
    {before : Forest} (hbefore : nearestDocBlock before = none) :
    (nearestDocBlock ((docGap blank doc).reverse ++ before)).getD [] = doc := by
  rcases hdoc with rfl | hdoc
  · exact congrArg (Option.getD · []) hbefore
  · obtain ⟨r, rfl, -, hblock⟩ := hdoc
    rw [docGap, if_neg (by rintro ⟨⟩)]
    simp [nearestDocBlock_cons, Tree.kind, Kind.isNamed, Tree.text, hblock]

theorem quiet_classNode (name : List Char) : Quiet (classNode name).kids := by
  simp [classNode, Tree.kids, Everywhere, preorderOfList, Tree.preorder, Tree.kind, Kind.declares]

theorem declares_classKinds : ∀ k ∈ [Kind.classDecl], k.declares = true := by decide

theorem methodOutlines_classNode {s : Site} {name : List Char} (hs : s.tree = classNode name) :
    Grammar.page.convention.methodOutlines s = [] := by
  obtain ⟨tree, line, before, outer⟩ := s
  obtain rfl : tree = _ := hs
  rfl

theorem classOutlines_classPage {doc : List Char} (hdoc : doc = [] ∨ IsBlock doc)
    (name : List Char) :
    ∃ o : ClassOutline, o.Shows name doc none ∧ Grammar.page.convention.classOutlines (.node .item
      (.leaf .passage "<?php".toList :: (docGap ['\n'] doc ++ [classNode name]))) = [o] := by
  have hquiet := quiet_cons_leaf (k := .passage) rfl "<?php".toList (quiet_docGap ['\n'] doc)
  obtain ⟨o, ho, houtlines⟩ := Convention.outlinesFrom_last declares_classKinds List.mem_cons_self none
    1 [] hquiet (quiet_classNode name) rfl fun s hs => methodOutlines_classNode hs
  rw [List.reverse_cons, List.append_nil, nearestDocBlock_docGap hdoc _ rfl] at ho
  exact ⟨o, ho, (Convention.classOutlines_node _ (by decide) _).trans houtlines⟩

theorem classOutlines_spacedPage {doc : List Char} {f : Forest} (hf : IsPath f)
    (hdoc : doc = [] ∨ IsBlock doc) (name : List Char) :
    ∃ o : ClassOutline, o.Shows name doc (some (String.ofList (textOfList f))) ∧
      Grammar.page.convention.classOutlines (.node .item
        (.leaf .passage "<?php".toList :: .leaf .blank ['\n'] :: spaceNode f ::
          (docGap ['\n', '\n'] doc ++ [classNode name]))) = [o] := by
  have hparts : Quiet [.leaf .token "namespace".toList, .leaf .blank [' '], .node .name f,
      .leaf .token [';']] := by
    refine quiet_cons_leaf rfl _ (quiet_cons_leaf rfl _ (everywhere_append (f := [_]).2 ⟨?_, ?_⟩))
    · exact Tree.everywhere_node.2 ⟨rfl, quiet_path hf⟩
    · exact quiet_cons_leaf rfl _ (Tree.everywhere_nil _)
  let before : Forest := [.leaf .passage "<?php".toList, .leaf .blank ['\n']]
  have hbefore : Quiet before := quiet_cons_leaf rfl _ (quiet_cons_leaf rfl _ (Tree.everywhere_nil _))
  let opened := before ++ [spaceNode f]
  obtain ⟨o, ho, houtlines⟩ := Convention.outlinesFrom_last declares_classKinds List.mem_cons_self
    (some (String.ofList (textOfList f))) (1 + newlinesOfList opened) (opened.reverse ++ [])
    (quiet_docGap ['\n', '\n'] doc) (quiet_classNode name) rfl
    fun s hs => methodOutlines_classNode hs
  rw [nearestDocBlock_docGap hdoc _ rfl] at ho
  refine ⟨o, ho, (Convention.classOutlines_node _ (by decide) _).trans ?_⟩
  have hspace : declared (sitesOfList 1 [] (some (.item, [])) opened) =
      [⟨spaceNode f, 1 + newlinesOfList before, before.reverse ++ [], some (.item, [])⟩] :=
    declared_last rfl hbefore hparts 1 [] _
  show Grammar.page.convention.outlinesFrom none (sitesOfList 1 [] _
    (opened ++ (docGap ['\n', '\n'] doc ++ [classNode name]))) = _
  rw [Convention.outlinesFrom_declared _ declares_classKinds, sitesOfList_append, declared_append, hspace,
    List.singleton_append, Convention.outlinesFrom, ← houtlines,
    Convention.outlinesFrom_declared _ declares_classKinds (some _)]
  exact if_pos rfl

end Page

/-! ### Scripts -/

namespace Script

theorem quiet_docGap (doc : List Char) : Quiet (docGap doc) := by
  unfold docGap
  split <;> simp [Everywhere, preorderOfList, Tree.preorder, Tree.kind, Kind.declares]

theorem quiet_classNode (name : List Char) : Quiet (classNode name).kids := by
  simp [classNode, bodyNode, Tree.kids, Everywhere, preorderOfList, Tree.preorder, Tree.kind,
    Kind.declares]

theorem methodOutlines_classNode {ks : List Kind} {s : Site} {name : List Char}
    (hs : s.tree = classNode name) : (Convention.blockComments ks).methodOutlines s = [] := by
  obtain ⟨tree, line, before, outer⟩ := s
  obtain rfl : tree = _ := hs
  rfl

theorem nearestDocBlock_docGap {doc : List Char} (hdoc : doc = [] ∨ IsBlock doc) :
    (nearestDocBlock ((docGap doc).reverse ++ [])).getD [] = doc := by
  rcases hdoc with rfl | hdoc
  · rfl
  · obtain ⟨r, rfl, -, hblock⟩ := hdoc
    rw [docGap, if_neg (by rintro ⟨⟩)]
    simp [nearestDocBlock_cons, Tree.kind, Kind.isNamed, Tree.text, hblock]

theorem classOutlines_classText {d : Dialect} {doc : List Char} (hdoc : doc = [] ∨ IsBlock doc)
    (name : List Char) :
    ∃ o : ClassOutline, o.Shows name doc none ∧ (Grammar.script d).convention.classOutlines
      (.node .item (docGap doc ++ [classNode name])) = [o] := by
  have hclass : .classDecl ∈ (Grammar.script d).convention.classKinds :=
    (Grammar.script d).mem_classKinds.2 (.inl rfl)
  have hdeclares : ∀ k ∈ (Grammar.script d).convention.classKinds, k.declares = true := by
    intro k hk
    rcases (Grammar.script d).mem_classKinds.1 hk with rfl | ⟨-, rfl⟩ <;> rfl
  obtain ⟨o, ho, houtlines⟩ := Convention.outlinesFrom_last hdeclares hclass none 1 []
    (quiet_docGap doc) (quiet_classNode name) rfl fun s hs => methodOutlines_classNode hs
  rw [nearestDocBlock_docGap hdoc] at ho
  have hitem : .item ∉ (Grammar.script d).convention.classKinds := fun hmem =>
    Bool.noConfusion (hdeclares _ hmem)
  exact ⟨o, ho, (Convention.classOutlines_node _ hitem _).trans houtlines⟩

end Script

/-! ### Skeletons -/

/-- What a record tells of a class without methods. -/
structure ClassRecord.Tells (c : ClassRecord) (name doc : String) (enclosing : Option String) :
    Prop where
  name : c.name = .text name
  doc : c.doc = .text doc
  enclosing : c.enclosing = spaceValue enclosing

theorem extractSource_of_shows {g : Grammar} {cs name doc : List Char} {t : Tree}
    {enclosing : Option String} (h : g.parse cs = .ok t)
    (ho : ∃ o : ClassOutline, o.Shows name doc enclosing ∧ g.convention.classOutlines t = [o])
    (path : String) : ∃ c, extractSource g path cs = .ok [c] ∧ c.methods = [] ∧
      c.Tells (String.ofList name) (String.ofList doc) enclosing := by
  obtain ⟨o, hshows, houtlines⟩ := ho
  refine ⟨.ofOutline path g.language cs o, ?_, ?_, ?_, ?_, ?_⟩
  · rw [extractSource_of_parse h, houtlines]
    rfl
  · rw [ClassRecord.ofOutline, hshows.methods]
    rfl
  · exact congrArg Value.text hshows.name
  · exact congrArg Value.text hshows.doc
  · exact congrArg spaceValue hshows.enclosing

theorem Page.toList_classSkeleton {c : ClassRecord} {name doc : List Char} {e : Option String}
    (hlanguage : c.language = .php) (hc : c.Tells (String.ofList name) (String.ofList doc) e) :
    (classSkeleton c .null).toList = "<?php".toList ++ '\n' ::
      ((namespaceLines ((spaceValue e).orElse .null)).toList ++ classText doc name) := by
  have hopen : "<?php\n".toList = "<?php".toList ++ ['\n'] := by decide
  have hclass : "\nclass ".toList = '\n' :: ("class".toList ++ [' ']) := by decide
  have hbody : " \x7b\n // ... \n\x7d".toList = emptyBody := by decide
  rw [classSkeleton, hlanguage, hc.name, hc.doc, hc.enclosing, classText]
  simp only [String.toList_append, Value.display, String.toList_ofList, hopen, hclass, hbody,
    List.append_assoc, List.cons_append, List.nil_append]

theorem Page.toList_namespaceLines {cs : List Char} (h : cs ≠ []) :
    (namespaceLines ((spaceValue (some (String.ofList cs))).orElse .null)).toList =
      "namespace".toList ++ ' ' :: (cs ++ [';', '\n', '\n']) := by
  have hopen : "namespace ".toList = "namespace".toList ++ [' '] := by decide
  have hclose : ";\n\n".toList = [';', '\n', '\n'] := by decide
  have htrue : (Value.text (String.ofList cs)).isTrue = true := by
    simpa [Value.isTrue] using h
  rw [spaceValue, Option.map_some, Option.getD_some, Value.orElse, if_pos htrue, namespaceLines,
    if_pos htrue]
  simp only [String.toList_append, Value.display, String.toList_ofList, hopen, hclose,
    List.append_assoc, List.cons_append, List.nil_append]

theorem Script.toList_classSkeleton {c : ClassRecord} {name doc : List Char} {e : Option String}
    (hlanguage : c.language = .javascript ∨ c.language = .typescript)
    (hc : c.Tells (String.ofList name) (String.ofList doc) e) :
    (classSkeleton c .null).toList = classText doc name := by
  have hclass : "class ".toList = "class".toList ++ [' '] := by decide
  have hbody : " \x7b\n  // ...\n\x7d".toList = emptyBody := by decide
  have hdoc : (docLines (.text (String.ofList doc))).toList = docText doc := by
    unfold docLines docText
    cases doc <;> simp [Value.isTrue, Value.display]
  have htext : (classSkeleton c .null).toList = (docLines (.text (String.ofList doc)) ++ "class " ++
      String.ofList name ++ " \x7b\n  // ...\n\x7d").toList := by
    rw [classSkeleton, hc.name, hc.doc]
    rcases hlanguage with hlanguage | hlanguage <;> rw [hlanguage] <;> rfl
  rw [htext, classText]
  simp only [String.toList_append, String.toList_ofList, hdoc, hclass, hbody, List.append_assoc,
    List.cons_append, List.nil_append]

/-! ### Reading skeletons again -/

theorem Grammar.eq_page {g : Grammar} (h : g.language = .php) : g = .page := by
  cases g with
  | page => rfl
  | indented => cases h
  | script d =>
    rw [language] at h
    split at h <;> cases h

theorem Grammar.eq_script {g : Grammar} {d : Script.Dialect}
    (h : g.language = (script d).language) : ∃ d', g = .script d' ∧ d'.types = d.types := by
  have hscript : (script d).language = if d.types then .typescript else .javascript := rfl
  rw [hscript] at h
  cases g with
  | page => split at h <;> cases h
  | indented => split at h <;> cases h
  | script d' =>
    refine ⟨d', rfl, ?_⟩
    rw [language] at h
    cases htypes : d.types <;> cases htypes' : d'.types <;> simp_all

theorem notMem_of_isInfix {α : Type} {x : α} {xs ys : List α} (h : xs <:+: ys) (hx : x ∉ ys) :
    x ∉ xs :=
  fun hmem => hx (h.subset hmem)

/-- The skeleton of a class of a page is a page with this class alone. -/
theorem Page.reads_classSkeleton {cs : List Char} {t : Tree}
    (h : Grammar.page.parse cs = .ok t) {o : ClassOutline}
    (ho : o ∈ Grammar.page.convention.classOutlines t) {c : ClassRecord}
    (hlanguage : c.language = .php) (hc : c.Tells o.name o.doc o.enclosing) (path : String) :
    ∃ c', extractSource .page path (classSkeleton c .null).toList = .ok [c'] ∧ c'.methods = [] ∧
      c'.Tells o.name o.doc o.enclosing := by
  have hparse := ok_of_mapError h
  have hnull := Scan.Reader.null_notMem_of_whole hparse
  obtain ⟨name, doc, hname, hdoc, hword, hblock, hinName, hinDoc, henclosing⟩ :=
    outline_texts hparse ho
  -- no part of the skeleton has a null character, as the source has none
  have hnullClass : Char.ofNat 0 ∉ classText doc name := by
    have hbody : Char.ofNat 0 ∉ emptyBody := by decide
    have hword : Char.ofNat 0 ∉ '\n' :: ("class".toList ++ [' ']) := by decide
    simp_all [classText, notMem_of_isInfix hinName hnull, notMem_of_isInfix hinDoc hnull]
  rw [hname, hdoc] at hc ⊢
  rw [toList_classSkeleton hlanguage hc]
  -- a class without a namespace, or with one whose path stands in the source
  rcases henclosing with hnone | ⟨f, hf, hpath, hinPath⟩
  · rw [hnone]
    have hpage : Grammar.page.parse ("<?php".toList ++ '\n' :: classText doc name) = .ok _ :=
      congrArg (Except.mapError Grammar.syntaxError) (parse_classPage hblock hword hnullClass)
    exact extractSource_of_shows hpage (classOutlines_classPage hblock name) path
  · have hne : Tree.textOfList f ≠ [] := by
      obtain ⟨cs', raw, r, rfl, hfirst, -⟩ := hpath
      intro hnil
      rw [Tree.textOfList, List.append_eq_nil_iff] at hnil
      exact Shape.ne_nil_of_takes_one hfirst.1 hnil.1
    have hnullText : Char.ofNat 0 ∉ spacedText f doc name := by
      have hkeyword : Char.ofNat 0 ∉ "namespace".toList := by decide
      have hmarks : Char.ofNat 0 ∉ [' ', ';', '\n', '\n'] := by decide
      unfold spacedText
      generalize "namespace".toList = word at hkeyword
      simp_all [notMem_of_isInfix hinPath hnull]
    have htext : "namespace".toList ++ ' ' :: (Tree.textOfList f ++ [';', '\n', '\n']) ++
        classText doc name = spacedText f doc name := by
      unfold spacedText
      generalize "namespace".toList = word
      simp only [List.append_assoc, List.cons_append, List.nil_append]
    have hpage : Grammar.page.parse ("<?php".toList ++ '\n' :: spacedText f doc name) = .ok _ :=
      congrArg (Except.mapError Grammar.syntaxError)
        (parse_spacedPage hpath hblock hword hnullText)
    rw [hf, toList_namespaceLines hne, htext]
    exact extractSource_of_shows hpage (classOutlines_spacedPage hpath hblock name) path

/-- The skeleton of a class of a script is a script with this class alone, if a class may be called
so. -/
theorem Script.reads_classSkeleton {d d' : Dialect} (hd : d'.types = d.types)
    {cs : List Char} {t : Tree} (h : (Grammar.script d).parse cs = .ok t) {o : ClassOutline}
    (ho : o ∈ (Grammar.script d).convention.classOutlines t)
    (hallowed : d.types = true → oneOf classGoesOn o.name.toList = false) {c : ClassRecord}
    (hlanguage : c.language = .javascript ∨ c.language = .typescript)
    (hc : c.Tells o.name o.doc o.enclosing) (path : String) :
    ∃ c', extractSource (.script d') path (classSkeleton c .null).toList = .ok [c'] ∧
      c'.methods = [] ∧ c'.Tells o.name o.doc o.enclosing := by
  have hparse := ok_of_mapError h
  have hnull := Scan.Reader.null_notMem_of_whole hparse
  obtain ⟨name, doc, hname, hdoc, hword, hisName, hblock, hinName, hinDoc, hnone⟩ :=
    outline_texts hparse ho
  have hnullText : Char.ofNat 0 ∉ classText doc name := by
    have hbody : Char.ofNat 0 ∉ emptyBody := by decide
    have hclass : Char.ofNat 0 ∉ '\n' :: ("class".toList ++ [' ']) := by decide
    unfold classText docText
    split <;> simp_all [notMem_of_isInfix hinName hnull, notMem_of_isInfix hinDoc hnull]
  -- the name was accepted where a class may go on after it, so it is here
  have htakes : (wordWhere (if d'.types then fun cs => !oneOf classGoesOn cs else d'.isName)).Takes
      name := by
    refine takes_wordWhere hword ?_
    rw [hd]
    cases htypes : d.types with
    | true =>
      have hno := hallowed htypes
      rw [hname, String.toList_ofList] at hno
      simp [hno]
    | false =>
      have hname' := hisName htypes
      rw [Dialect.isName, htypes] at hname'
      simp_all [Dialect.isName]
  rw [hname, hdoc, hnone] at hc ⊢
  rw [toList_classSkeleton hlanguage hc]
  have hscript : (Grammar.script d').parse (classText doc name) = .ok _ :=
    congrArg (Except.mapError Grammar.syntaxError) (parse_classText hblock rfl htakes hnullText)
  exact extractSource_of_shows hscript (classOutlines_classText hblock name) path

/-- The skeleton of a class that was found in a page or a script is accepted, in whichever grammar of
the same language. It shows one class, without methods, that has the same name, the same
documentation and the same namespace, unless the class is called by a word that goes on with a class
in a script with types. -/
theorem extractSource_classSkeleton {g g' : Grammar} {path : String} {cs : List Char}
    {classes : List ClassRecord} (h : extractSource g path cs = .ok classes) {c : ClassRecord}
    (hc : c ∈ classes) (hlanguage : c.language ≠ .python) (hg' : g'.language = c.language)
    (hallowed : c.language = .typescript → c.name ≠ .text "extends" ∧ c.name ≠ .text "implements")
    (path' : String) :
    ∃ c', extractSource g' path' (classSkeleton c .null).toList = .ok [c'] ∧ c'.methods = [] ∧
      c'.name = c.name ∧ c'.doc = c.doc ∧ c'.enclosing = c.enclosing := by
  obtain ⟨t, ht, rfl⟩ := ok_of_map h
  obtain ⟨o, ho, rfl⟩ := List.mem_map.1 hc
  have htells : (ClassRecord.ofOutline path g.language cs o).Tells o.name o.doc o.enclosing :=
    ⟨rfl, rfl, rfl⟩
  suffices hread : ∃ c', extractSource g' path'
      (classSkeleton (.ofOutline path g.language cs o) .null).toList = .ok [c'] ∧ c'.methods = [] ∧
        c'.Tells o.name o.doc o.enclosing by
    obtain ⟨c', hextract, hmethods, hc'⟩ := hread
    exact ⟨c', hextract, hmethods, hc'.name, hc'.doc, hc'.enclosing⟩
  cases g with
  | indented => exact absurd rfl hlanguage
  | page =>
    obtain rfl := Grammar.eq_page hg'
    exact Page.reads_classSkeleton ht ho rfl htells path'
  | script d =>
    obtain ⟨d', rfl, hd⟩ := Grammar.eq_script hg'
    have hlanguage : (Grammar.script d).language = .javascript ∨
        (Grammar.script d).language = .typescript := by
      unfold Grammar.language
      cases d.types <;> simp
    refine Script.reads_classSkeleton hd ht ho (fun htypes => ?_) hlanguage htells path'
    obtain ⟨hextends, himplements⟩ := hallowed (if_pos htypes)
    refine List.any_eq_false.2 fun s hs heq => ?_
    have hname : Value.text o.name = .text s :=
      congrArg Value.text (String.toList_inj.1 (of_decide_eq_true heq).symm)
    rcases List.mem_pair.1 hs with rfl | rfl
    · exact hextends hname
    · exact himplements hname

/-- A page with a class in a namespace whose name has a comment in it, documented by a block. -/
def spacedClass : List Char :=
  "<?php\nnamespace A\\ /* b */ B;\n/** doc */\n#[C]\nfinal class D extends E \x7b\n  function f() \x7b\x7d\n\x7d\n".toList

/-- Its skeleton is read as the class again. -/
theorem extractSource_classSkeleton_spacedClass :
    ∃ c c', extractSource .page "a.php" spacedClass = .ok [c] ∧ c.methods.length = 1 ∧
      c.enclosing = .text "A\\ /* b */ B" ∧
      extractSource .page "b.php" (classSkeleton c .null).toList = .ok [c'] ∧ c'.methods = [] ∧
      c'.name = .text "D" ∧ c'.doc = .text "/** doc */" ∧ c'.enclosing = .text "A\\ /* b */ B" := by
  have hout : (Grammar.page.parse spacedClass).toOption.map Grammar.page.convention.classOutlines =
      some [⟨"D", "/** doc */", [⟨"f", "", 6, 6⟩], some "A\\ /* b */ B", 4, 7⟩] := by
    decide +kernel
  have h := extractSource_of_outlines hout "a.php"
  have hpage : Grammar.page.language = .php := rfl
  obtain ⟨c', hread, hmethods, hname, hdoc, henclosing⟩ :=
    extractSource_classSkeleton h List.mem_cons_self nofun hpage nofun "b.php"
  exact ⟨_, c', h, rfl, rfl, hread, hmethods, hname, hdoc, henclosing⟩

/-- An abstract class that is called by a word which goes on with a class. -/
def abstractExtends : List Char := "abstract class extends \x7b\x7d\n".toList

/-- It is recorded, and its skeleton, which is no longer abstract, is refused. -/
theorem extractSource_abstractExtends :
    ∃ c, extractSource (.script ⟨true, false⟩) "a.ts" abstractExtends = .ok [c] ∧
      c.name = .text "extends" ∧
      ∀ classes, extractSource (.script ⟨true, false⟩) "a.ts" (classSkeleton c .null).toList ≠
        .ok classes := by
  have hout : ((Grammar.script ⟨true, false⟩).parse abstractExtends).toOption.map
      (Grammar.script ⟨true, false⟩).convention.classOutlines =
        some [⟨"extends", "", [], none, 1, 1⟩] := by decide +kernel
  have hrefused : ((Grammar.script ⟨true, false⟩).parse
      "class extends \x7b\n  // ...\n\x7d".toList).toOption.isNone = true := by decide +kernel
  have h := extractSource_of_outlines hout "a.ts"
  refine ⟨_, h, rfl, fun classes hclasses => ?_⟩
  obtain ⟨t, ht, -⟩ := ok_of_map hclasses
  have hskeleton : (Grammar.script ⟨true, false⟩).parse
      "class extends \x7b\n  // ...\n\x7d".toList = .ok t := ht
  rw [hskeleton] at hrefused
  cases hrefused

end Docent
