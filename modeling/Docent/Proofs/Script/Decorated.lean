import Docent.Proofs.Script.Gathered

/-!
# Methods that begin with their decorators

A convention by which a method begins with the decorators before it and is documented by what stands
before them. Main statement: the outlines that it gives of a tree are those of the gathered tree, in
which the decorators are parts of their methods.
-/

namespace Docent

open Docent.Tree (Site newlinesOfList decorators)

/-! ### Methods in a gathered tree -/

/-- A declaration where it begins with the decorators before it. -/
def Tree.Site.withDecorators (s : Site) : Site :=
  { s with
    line := s.line - newlinesOfList (decorators s.before)
    before := s.before.drop (decorators s.before).length }

namespace Convention

/-- Declarations are documented by block comments; a method begins with the decorators before it
and is documented by what stands before them. -/
def decorated (classKinds : List Kind) : Convention where
  classKinds
  doc s := (blockComments classKinds).doc (if s.tree.kind = .method then s.withDecorators else s)
  startLine s := (if s.tree.kind = .method then s.withDecorators else s).line
  name cs := cs

variable {ks : List Kind} {s : Site}

theorem doc_decorated_method (h : s.tree.kind = .method) :
    (decorated ks).doc s = (blockComments ks).doc s.withDecorators :=
  congrArg (blockComments ks).doc (if_pos h)

theorem startLine_decorated_method (h : s.tree.kind = .method) :
    (decorated ks).startLine s = s.withDecorators.line :=
  congrArg Site.line (if_pos h)

theorem doc_decorated (h : s.tree.kind ≠ .method) :
    (decorated ks).doc s = (blockComments ks).doc s :=
  congrArg (blockComments ks).doc (if_neg h)

theorem startLine_decorated (h : s.tree.kind ≠ .method) : (decorated ks).startLine s = s.line :=
  congrArg Site.line (if_neg h)

def outlinesAmong (conv : Convention) (ss : List Site) : List MethodOutline :=
  (ss.filter (·.tree.kind = .method)).filterMap conv.methodOutline?

variable (conv : Convention)

theorem outlinesAmong_append (ss ss' : List Site) :
    conv.outlinesAmong (ss ++ ss') = conv.outlinesAmong ss ++ conv.outlinesAmong ss' := by
  rw [outlinesAmong, List.filter_append, List.filterMap_append]
  rfl

theorem outlinesAmong_cons_of_ne {s : Site} (h : s.tree.kind ≠ .method) (ss : List Site) :
    conv.outlinesAmong (s :: ss) = conv.outlinesAmong ss := by
  rw [outlinesAmong, List.filter_cons, if_neg (by simpa using h)]
  rfl

theorem outlinesAmong_cons {s : Site} (h : s.tree.kind = .method) (ss : List Site) :
    conv.outlinesAmong (s :: ss) = (conv.methodOutline? s).toList ++ conv.outlinesAmong ss := by
  rw [outlinesAmong, List.filter_cons, if_pos (by simpa using h), List.filterMap_cons]
  cases conv.methodOutline? s <;> rfl

theorem outlinesAmong_eq_nil {ss : List Site} (h : ∀ s ∈ ss, s.tree.kind ≠ .method) :
    conv.outlinesAmong ss = [] := by
  rw [outlinesAmong, List.filter_eq_nil_iff.2 (by simpa using h), List.filterMap_nil]

end Convention

namespace Tree

theorem go_append (s : Site) (line : Nat) (before us vs : List Tree) :
    Site.parts.go s line before (us ++ vs) = Site.parts.go s line before us ++
      Site.parts.go s (line + newlinesOfList us) (us.reverse ++ before) vs := by
  induction us generalizing line before with
  | nil => rfl
  | cons u us ih =>
    rw [List.cons_append, Site.parts.go, Site.parts.go, ih, newlinesOfList, List.cons_append,
      List.reverse_cons, List.append_assoc, List.singleton_append, Nat.add_assoc]

theorem tree_mem_of_mem_go {s p : Site} {line : Nat} {before ts : List Tree}
    (h : p ∈ Site.parts.go s line before ts) : p.tree ∈ ts := by
  have hmap := List.mem_map_of_mem (f := Site.tree) h
  rwa [Site.map_tree_go] at hmap

theorem kind_of_mem_decorators {t : Tree} {before : List Tree} (h : t ∈ decorators before) :
    t.kind = .decorator ∨ t.kind.isGap = true := by
  induction before with
  | nil => cases h
  | cons u before ih =>
    rw [decorators] at h
    split at h
    · rename_i hgoes
      rcases List.mem_cons.1 h with rfl | h
      · rw [decoratorsGoOn, Bool.or_eq_true, decide_eq_true_eq, Bool.and_eq_true] at hgoes
        exact hgoes.imp_right And.left
      · exact ih h
    · cases h

theorem ne_of_mem_decorators {t : Tree} {before : List Tree} (h : t ∈ decorators before) :
    t.kind ≠ .method ∧ t.kind ≠ .name := by
  rcases kind_of_mem_decorators h with hkind | hkind
  · rw [hkind]
    exact ⟨by decide, by decide⟩
  · constructor <;> (intro heq; rw [heq] at hkind; cases hkind)

theorem find?_gatheredAll (k : Kind) (ts : List Tree) :
    (gatheredAll ts).find? (·.kind = k) = (ts.find? (·.kind = k)).map gathered := by
  rw [gatheredAll_eq, List.find?_map]
  congr 2
  funext t
  rw [Function.comp_apply, kind_gathered]

/-- The name of a method is told by its own parts, not by the decorators before it. -/
theorem find?_name_append {run before : List Tree} (h : decorators before = run) (ts : List Tree) :
    ((run.map gathered).reverse ++ gatheredAll ts).find? (·.kind = .name) =
      (ts.find? (·.kind = .name)).map gathered := by
  have hrun : (run.map gathered).reverse.find? (fun t => t.kind = .name) = none := by
    rw [List.find?_eq_none]
    intro t ht
    rw [List.mem_reverse, List.mem_map] at ht
    obtain ⟨u, hu, rfl⟩ := ht
    rw [← h] at hu
    simpa using (ne_of_mem_decorators hu).2
  rw [List.find?_append, hrun, Option.none_or, find?_gatheredAll]

end Tree

namespace Convention

open Docent.Tree Docent.Script

variable {d : Dialect} {ks : List Kind}

theorem doc_blockComments {s : Site} {k : Kind} {l : List Tree} (hk : k ≠ .exportDecl)
    (h : s.outer = some (k, l)) :
    (blockComments ks).doc s = String.ofList ((nearestDocBlock s.before).getD []) := by
  show String.ofList ((nearestDocBlock (declarationContext s)).getD []) = _
  rw [nearestDocBlock_declarationContext, h, exportDocBlock_of_ne hk, Option.getD_none]

/-- A method with the decorators before it is outlined as the method that they were moved into. -/
theorem methodOutline?_gathered {before₀ before' run parts l l' : List Tree} {k k' : Kind}
    (hk : k ≠ .exportDecl) (hk' : k' ≠ .exportDecl) (line : Nat)
    (hrun : decorators (run ++ before₀) = run)
    (hdoc : nearestDocBlock before' = nearestDocBlock before₀)
    (hsolid : ∃ cs, solidTextOfList? parts = some cs) :
    (decorated ks).methodOutline?
        ⟨node .method parts, line + newlinesOfList run, run ++ before₀, some (k, l)⟩ =
      (blockComments ks).methodOutline?
        ⟨node .method ((run.map gathered).reverse ++ gatheredAll parts), line, before',
          some (k', l')⟩ := by
  let s : Site := ⟨node .method parts, line + newlinesOfList run, run ++ before₀, some (k, l)⟩
  let s' : Site := ⟨node .method ((run.map gathered).reverse ++ gatheredAll parts), line, before',
    some (k', l')⟩
  have hfirst : s.withDecorators = ⟨node .method parts, line, before₀, some (k, l)⟩ := by
    simp only [s, Site.withDecorators, hrun, Nat.add_sub_cancel, List.drop_left]
  have hname : (decorated ks).nameOf? s = (blockComments ks).nameOf? s' := by
    show ((parts.find? _).map _ : Option String) =
      (((run.map gathered).reverse ++ gatheredAll parts).find? _).map _
    rw [find?_name_append hrun, Option.map_map]
    congr 1
    funext t
    rw [Function.comp_apply, text_gathered]
    rfl
  have hdocs : (decorated ks).doc s = (blockComments ks).doc s' := by
    rw [doc_decorated_method rfl, hfirst, doc_blockComments hk rfl, doc_blockComments hk' rfl, hdoc]
  have hstart : (decorated ks).startLine s = (blockComments ks).startLine s' := by
    rw [startLine_decorated_method rfl, hfirst]
    rfl
  -- the last solid text of the method is its own, so the lines of the decorators come on top
  have hend : s.endLine = s'.endLine := by
    obtain ⟨cs, hcs⟩ := hsolid
    have hsolid' : s'.tree.solidText? = some (textOfList (run.map gathered).reverse ++ cs) :=
      solidTextOfList?_append (solidTextOfList?_gatheredAll parts ▸ hcs)
    have hlines : (textOfList (run.map gathered).reverse).count '\n' = newlinesOfList run := by
      rw [← newlinesOfList_eq, newlinesOfList_reverse_map_gathered]
    rw [Site.endLine_eq, Site.endLine_eq, hsolid', show s.tree.solidText? = some cs from hcs,
      Option.getD_some, Option.getD_some, List.count_append, hlines, Nat.add_assoc]
  show ((decorated ks).nameOf? s).map _ = ((blockComments ks).nameOf? s').map _
  rw [hname, hdocs, hstart, hend]

theorem outlinesAmong_run {run before₀ : List Tree} (hrun : decorators (run ++ before₀) = run)
    (conv : Convention) (s : Site) (line : Nat) (before : List Tree) :
    conv.outlinesAmong (Site.parts.go s line before (run.map gathered).reverse) = [] := by
  refine conv.outlinesAmong_eq_nil fun p hp => ?_
  have hmem := tree_mem_of_mem_go hp
  rw [List.mem_reverse, List.mem_map] at hmem
  obtain ⟨t, ht, heq⟩ := hmem
  rw [← hrun] at ht
  rw [← heq, kind_gathered]
  exact (ne_of_mem_decorators ht).1

/-- The methods among the parts of a body, with the decorators before them, are the methods into
which the decorators were moved. -/
theorem outlinesAmong_gather {s s' : Site} (hs : s.tree.kind ≠ .exportDecl)
    (hs' : s'.tree.kind ≠ .exportDecl) {ts : List Tree} (hbuilt : AllBuilt d ts) :
    ∀ (run before₀ before' : List Tree) (line : Nat), decorators (run ++ before₀) = run →
      nearestDocBlock before' = nearestDocBlock before₀ →
      (decorated ks).outlinesAmong
          (Site.parts.go s (line + newlinesOfList run) (run ++ before₀) ts) =
        (blockComments ks).outlinesAmong
          (Site.parts.go s' line before' (gather (run.map gathered) (gatheredAll ts))) := by
  -- the run was passed on the one side and is held back on the other
  induction ts with
  | nil =>
    intro run before₀ before' line hrun _
    exact (outlinesAmong_run hrun _ s' line before').symm
  | cons t ts ih =>
    intro run before₀ before' line hrun hdoc
    obtain ⟨ht, hts⟩ := allBuilt_cons.1 hbuilt
    rw [gatheredAll, Site.parts.go]
    by_cases hmethod : t.kind = .method
    · -- a method: the run comes to stand in it, and a new run begins
      obtain ⟨parts, rfl, hnode, -⟩ := parts_of_method ht hmethod
      have hsolid : ∃ cs, solidTextOfList? parts = some cs := hnode.solid rfl
      have hafter : nearestDocBlock (node .method ((run.map gathered).reverse ++
          gatheredAll parts) :: before') =
            nearestDocBlock (node .method parts :: (run ++ before₀)) := by
        rw [nearestDocBlock_cons, nearestDocBlock_cons]
        rfl
      rw [gathered, if_neg (by decide), gather_method, Site.parts.go, outlinesAmong_cons _ rfl,
        outlinesAmong_cons _ rfl, methodOutline?_gathered hs hs' line hrun hdoc hsolid,
        newlines_method_gathered, ← Nat.add_assoc]
      congr 1
      exact ih hts [] _ _ _ rfl hafter
    · rw [gather_cons (by rwa [kind_gathered]), decoratorsGoOn_gathered,
        outlinesAmong_cons_of_ne _ hmethod]
      split
      · -- a decorator or a gap after one: the run gets longer
        rename_i hgoes
        have hlines : line + newlinesOfList run + t.newlines =
            line + newlinesOfList (t :: run) := by
          rw [newlinesOfList]
          omega
        have hmore : decorators (t :: run ++ before₀) = t :: run := by
          rw [List.cons_append, decorators, hrun, if_pos hgoes]
        rw [hlines]
        exact ih hts (t :: run) before₀ before' line hmore hdoc
      · -- anything else: the run stays where it is, and a new one begins
        rename_i hends
        have hnone : decorators (t :: (run ++ before₀)) = [] := by
          rw [decorators, hrun, if_neg hends]
        have hafter : nearestDocBlock (t.gathered :: (run.map gathered ++ before')) =
            nearestDocBlock (t :: (run ++ before₀)) :=
          nearestDocBlock_congr (kind_gathered t) (text_gathered t)
            (nearestDocBlock_append_gathered hdoc run)
        rw [go_append, outlinesAmong_append, outlinesAmong_run hrun, List.nil_append,
          Site.parts.go, outlinesAmong_cons_of_ne _ (by rwa [kind_gathered]),
          newlinesOfList_reverse_map_gathered, newlines_gathered, List.reverse_reverse]
        exact ih hts [] _ _ _ hnone hafter

/-! ### The outlines of a gathered tree -/

theorem kids_gathered {t : Tree} (h : t.kind ≠ .body) : t.gathered.kids = gatheredAll t.kids := by
  cases t with
  | leaf k cs => rfl
  | node k ts =>
    rw [gathered, if_neg (show ¬k = .body from h)]
    rfl

theorem kids_gathered_body {t : Tree} (h : t.kind = .body) :
    t.gathered.kids = gather [] (gatheredAll t.kids) := by
  cases t with
  | leaf k cs => rfl
  | node k ts =>
    rw [gathered, if_pos (show k = .body from h)]
    rfl

theorem nameOf?_gathered {s s' : Site} (h : s'.tree = s.tree.gathered) (hs : s.tree.kind ≠ .body) :
    (decorated ks).nameOf? s = (blockComments ks).nameOf? s' := by
  rw [nameOf?, nameOf?, part?, part?, h, kids_gathered hs, find?_gatheredAll, Option.map_map]
  congr 1
  funext t
  rw [Function.comp_apply, text_gathered]
  rfl

theorem find?_go_gatheredAll (k : Kind) (s s' : Site) (line : Nat) (before before' ts : List Tree) :
    ((Site.parts.go s line before ts).find? (·.tree.kind = k) = none ∧
        (Site.parts.go s' line before' (gatheredAll ts)).find? (·.tree.kind = k) = none) ∨
      ∃ p p', (Site.parts.go s line before ts).find? (·.tree.kind = k) = some p ∧
        (Site.parts.go s' line before' (gatheredAll ts)).find? (·.tree.kind = k) = some p' ∧
        p'.tree = p.tree.gathered ∧ p'.line = p.line := by
  induction ts generalizing line before before' with
  | nil => exact .inl ⟨rfl, rfl⟩
  | cons t ts ih =>
    rw [gatheredAll, Site.parts.go, Site.parts.go, newlines_gathered]
    by_cases hk : t.kind = k
    · refine .inr ⟨_, _, List.find?_cons_of_pos (by simpa using hk),
        List.find?_cons_of_pos (by simpa using hk), rfl, rfl⟩
    · rw [List.find?_cons_of_neg (by simpa using hk), List.find?_cons_of_neg (by simpa using hk)]
      exact ih ..

theorem methodOutlines_gathered {s s' : Site} (h : Gathers s s') (hs : s.tree.kind ≠ .body)
    (hbuilt : AllBuilt d [s.tree]) :
    (decorated ks).methodOutlines s = (blockComments ks).methodOutlines s' := by
  have hparts : s'.parts = Site.parts.go s' s.line [] (gatheredAll s.tree.kids) := by
    rw [Site.parts, h.line, h.tree, kids_gathered hs]
  rw [methodOutlines, methodOutlines, Site.part?, Site.part?, hparts, Site.parts]
  rcases find?_go_gatheredAll .body s s' s.line [] [] s.tree.kids with
    ⟨hnone, hnone'⟩ | ⟨p, p', hp, hp', htree, hline⟩
  · rw [hnone, hnone']
  · have hbody : p.tree.kind = .body := by simpa using List.find?_some hp
    have hbody' : p'.tree.kind = .body := by rw [htree, kind_gathered, hbody]
    have hmem : p.tree ∈ s.tree.kids := tree_mem_of_mem_go (List.mem_of_find?_eq_some hp)
    have hkids : AllBuilt d p.tree.kids :=
      allBuilt_kids (allBuilt_of_mem hmem (allBuilt_kids hbuilt))
    rw [hp, hp']
    show (decorated ks).outlinesAmong p.parts = (blockComments ks).outlinesAmong p'.parts
    rw [Site.parts, Site.parts, htree, kids_gathered_body hbody, hline]
    exact outlinesAmong_gather (by rw [hbody]; decide) (by rw [hbody']; decide) hkids [] [] [] p.line
      rfl rfl

theorem solidNewlines_gathered (t : Tree) : t.gathered.solidNewlines = t.solidNewlines := by
  rw [solidNewlines_eq, solidNewlines_eq, solidText?_gathered]

/-- A class is outlined with the decorators before its methods as the class in the gathered tree. -/
theorem classOutline?_gathered {s s' : Site} (h : Gathers s s') (hs : s.tree.kind.declares = true)
    (hbuilt : AllBuilt d [s.tree]) (e : Option String) :
    (decorated ks).classOutline? e s = (blockComments ks).classOutline? e s' := by
  have hmethod : s.tree.kind ≠ .method := Kind.ne_of_declares hs rfl
  have hbody : s.tree.kind ≠ .body := Kind.ne_of_declares hs rfl
  have hdoc : (decorated ks).doc s = (blockComments ks).doc s' := by
    show _ = String.ofList _
    rw [doc_decorated hmethod, h.doc]
    rfl
  have hstart : (decorated ks).startLine s = (blockComments ks).startLine s' := by
    show _ = s'.line
    rw [startLine_decorated hmethod, h.line]
  have hend : s.endLine = s'.endLine := by
    rw [Site.endLine, Site.endLine, h.line, h.tree, solidNewlines_gathered]
  rw [classOutline?, classOutline?, nameOf?_gathered h.tree hbody,
    methodOutlines_gathered h hbody hbuilt, hdoc, hstart, hend]

theorem outlinesFrom_declared (conv : Convention) (h : ∀ k ∈ conv.classKinds, k.declares = true)
    (e : Option String) (ss : List Site) :
    conv.outlinesFrom e ss = conv.outlinesFrom e (declared ss) := by
  induction ss generalizing e with
  | nil => rfl
  | cons s ss ih =>
    cases hs : s.tree.kind.declares with
    | true =>
      rw [declared, List.filter_cons, if_pos hs, outlinesFrom, outlinesFrom]
      simp only [ih]
      rfl
    | false =>
      have hspace : s.tree.kind ≠ .namespaceDecl := (Kind.ne_of_declares rfl hs).symm
      have hclass : s.tree.kind ∉ conv.classKinds := fun hmem =>
        Kind.ne_of_declares (h _ hmem) hs rfl
      rw [declared_cons_of_not hs, outlinesFrom, if_neg hspace, if_neg hclass, ih]

theorem outlinesFrom_gathered {ss ss' : List Site} (h : List.Forall₂ Gathers ss ss')
    (hdeclares : ∀ s ∈ ss, s.tree.kind.declares = true) (hbuilt : ∀ s ∈ ss, AllBuilt d [s.tree])
    (e : Option String) :
    (decorated ks).outlinesFrom e ss = (blockComments ks).outlinesFrom e ss' := by
  induction h generalizing e with
  | nil => rfl
  | @cons s s' ss ss' hs _ ih =>
    have hdecl := hdeclares s List.mem_cons_self
    have hbody : s.tree.kind ≠ .body := Kind.ne_of_declares hdecl rfl
    have hrest (e : Option String) := ih (fun s hs => hdeclares s (List.mem_cons_of_mem _ hs))
      (fun s hs => hbuilt s (List.mem_cons_of_mem _ hs)) e
    rw [outlinesFrom, outlinesFrom, hs.tree, kind_gathered, hrest, hrest,
      nameOf?_gathered hs.tree hbody,
      classOutline?_gathered hs hdecl (hbuilt s List.mem_cons_self)]
    rfl

/-- The outlines of a gathered tree are those that the tree itself has if a method begins with the
decorators before it and is documented by what stands before them. -/
theorem classOutlines_gathered (hks : ∀ k ∈ ks, k.declares = true) {t : Tree}
    (hbuilt : AllBuilt d [t]) :
    (blockComments ks).classOutlines t.gathered = (decorated ks).classOutlines t := by
  have hsites := gathers_sitesFrom 1 t hbuilt fun _ => (⟨rfl, rfl⟩ : SameDoc [] [] none none)
  rw [classOutlines, classOutlines, sites_eq, sites_eq, outlinesFrom_declared _ hks,
    outlinesFrom_declared (decorated ks) hks]
  refine (outlinesFrom_gathered (d := d) hsites (fun s hs => (List.mem_filter.1 hs).2)
    (fun s hs => ?_) none).symm
  have hmem : s.tree ∈ t.preorder := by
    rw [← map_tree_sitesFrom 1 [] none]
    exact List.mem_map_of_mem (List.mem_of_mem_filter hs)
  exact allBuilt_of_mem_preorder hmem hbuilt

end Convention

end Docent
