import Docent.Proofs.Place
import Docent.Proofs.Script.Built
import Mathlib.Data.List.Forall2

/-!
# Decorators moved into their methods

`Tree.gathered` moves the decorators that stand before a method among the parts of a body into the
method, with the gaps between them. Main statement: the outlines of the gathered tree are those that
the tree itself has under a convention by which a method begins with the decorators before it and is
documented by what stands before them.
-/

namespace Docent

open Docent.Tree (Site)

namespace Tree

/-! ### Runs of decorators -/

/-- Whether a tree goes on with the decorators before it: it is one more, or a gap after one. -/
def decoratorsGoOn (run : List Tree) (t : Tree) : Bool :=
  t.kind = .decorator || (t.kind.isGap && !run.isEmpty)

/-- The decorators at the end of a reversed list of siblings, with the gaps between and after
them. -/
def decorators : List Tree → List Tree
  | [] => []
  | t :: before => if decoratorsGoOn (decorators before) t then t :: decorators before else []

/-- Moves decorators into the methods that they stand before; `run` are those that were passed,
nearest first. -/
def gather (run : List Tree) : List Tree → List Tree
  | [] => run.reverse
  | node .method parts :: ts => node .method (run.reverse ++ parts) :: gather [] ts
  | t :: ts =>
    if decoratorsGoOn run t then gather (t :: run) ts else run.reverse ++ t :: gather [] ts

mutual

/-- A tree with the decorators in all bodies moved into the methods that they stand before. -/
def gathered : Tree → Tree
  | leaf k cs => leaf k cs
  | node k ts => node k (if k = .body then gather [] (gatheredAll ts) else gatheredAll ts)

def gatheredAll : List Tree → List Tree
  | [] => []
  | t :: ts => gathered t :: gatheredAll ts

end

mutual

def decEq : (t u : Tree) → Decidable (t = u)
  | leaf k cs, leaf k' cs' => decidable_of_iff (k = k' ∧ cs = cs') (by rw [leaf.injEq])
  | leaf _ _, node _ _ => isFalse nofun
  | node _ _, leaf _ _ => isFalse nofun
  | node k ts, node k' ts' =>
    have := decEqAll ts ts'
    decidable_of_iff (k = k' ∧ ts = ts') (by rw [node.injEq])

def decEqAll : (ts us : List Tree) → Decidable (ts = us)
  | [], [] => isTrue rfl
  | [], _ :: _ => isFalse nofun
  | _ :: _, [] => isFalse nofun
  | t :: ts, u :: us =>
    have := decEq t u
    have := decEqAll ts us
    decidable_of_iff (t = u ∧ ts = us) (by rw [List.cons.injEq])

end

instance : DecidableEq Tree := decEq

/-! ### What stays as it is -/

theorem gatheredAll_eq (ts : List Tree) : gatheredAll ts = ts.map gathered := by
  induction ts with
  | nil => rfl
  | cons t ts ih => rw [gatheredAll, ih, List.map_cons]

@[simp] theorem kind_gathered (t : Tree) : t.gathered.kind = t.kind := by
  cases t <;> rfl

theorem gather_method (run parts ts : List Tree) : gather run (node .method parts :: ts) =
    node .method (run.reverse ++ parts) :: gather [] ts := rfl

theorem gather_cons {t : Tree} (h : t.kind ≠ .method) (run ts : List Tree) : gather run (t :: ts) =
    if decoratorsGoOn run t then gather (t :: run) ts else run.reverse ++ t :: gather [] ts := by
  rw [gather]
  rintro parts rfl
  exact h rfl

theorem textOfList_gather (run ts : List Tree) :
    textOfList (gather run ts) = textOfList (run.reverse ++ ts) := by
  fun_induction gather run ts with
  | case1 run => rw [List.append_nil]
  | case2 run parts ts ih => simp [textOfList, textOfList_append, text, ih]
  | case3 run t ts _ _ ih => rw [ih, List.reverse_cons, List.append_assoc, List.singleton_append]
  | case4 run t ts _ _ ih => simp [textOfList, textOfList_append, ih]

theorem solidTextOfList?_append_of_none {us vs : List Tree} (h : solidTextOfList? vs = none) :
    solidTextOfList? (us ++ vs) = solidTextOfList? us := by
  induction us with
  | nil => exact h
  | cons t us ih => rw [List.cons_append, solidTextOfList?, ih, solidTextOfList?]

theorem solidTextOfList?_append_congr {us us' vs vs' : List Tree}
    (htext : textOfList us = textOfList us') (hus : solidTextOfList? us = solidTextOfList? us')
    (hvs : solidTextOfList? vs = solidTextOfList? vs') :
    solidTextOfList? (us ++ vs) = solidTextOfList? (us' ++ vs') := by
  cases h : solidTextOfList? vs with
  | none =>
    rw [solidTextOfList?_append_of_none h, solidTextOfList?_append_of_none (hvs ▸ h), hus]
  | some cs => rw [solidTextOfList?_append h, solidTextOfList?_append (hvs ▸ h), htext]

theorem solidTextOfList?_gather (run ts : List Tree) :
    solidTextOfList? (gather run ts) = solidTextOfList? (run.reverse ++ ts) := by
  fun_induction gather run ts with
  | case1 run => rw [List.append_nil]
  | case2 run parts ts ih =>
    -- the solid end is in the trees after the method, or in the method, whose parts come last
    have hmethod : solidTextOfList? [node .method (run.reverse ++ parts)] =
        solidTextOfList? (run.reverse ++ [node .method parts]) :=
      solidTextOfList?_append_congr rfl rfl rfl
    have htext : textOfList [node .method (run.reverse ++ parts)] =
        textOfList (run.reverse ++ [node .method parts]) := by
      simp [textOfList, textOfList_append, text]
    have hall := solidTextOfList?_append_congr htext hmethod ih
    rwa [List.append_assoc] at hall
  | case3 run t ts _ _ ih => rw [ih, List.reverse_cons, List.append_assoc, List.singleton_append]
  | case4 run t ts _ _ ih =>
    have hrun : textOfList (run.reverse ++ [t]) = textOfList (run.reverse ++ [t]) := rfl
    have hall := solidTextOfList?_append_congr hrun rfl ih
    rwa [List.append_assoc, List.append_assoc] at hall

mutual

theorem text_gathered : (t : Tree) → t.gathered.text = t.text
  | leaf k cs => rfl
  | node k ts => by
    rw [gathered, text, text]
    split
    · rw [textOfList_gather]
      exact textOfList_gatheredAll ts
    · exact textOfList_gatheredAll ts

theorem textOfList_gatheredAll : (ts : List Tree) → textOfList (gatheredAll ts) = textOfList ts
  | [] => rfl
  | t :: ts => by
    rw [gatheredAll, textOfList, textOfList, text_gathered t, textOfList_gatheredAll ts]

end

mutual

theorem solidText?_gathered : (t : Tree) → t.gathered.solidText? = t.solidText?
  | leaf k cs => rfl
  | node k ts => by
    rw [gathered, solidText?, solidText?]
    split
    · rw [solidTextOfList?_gather]
      exact solidTextOfList?_gatheredAll ts
    · exact solidTextOfList?_gatheredAll ts

theorem solidTextOfList?_gatheredAll : (ts : List Tree) →
    solidTextOfList? (gatheredAll ts) = solidTextOfList? ts
  | [] => rfl
  | t :: ts => by
    rw [gatheredAll, solidTextOfList?, solidTextOfList?, text_gathered t, solidText?_gathered t,
      solidTextOfList?_gatheredAll ts]

end

theorem newlines_gathered (t : Tree) : t.gathered.newlines = t.newlines := by
  rw [newlines_eq, newlines_eq, text_gathered]

theorem newlinesOfList_gatheredAll (ts : List Tree) :
    newlinesOfList (gatheredAll ts) = newlinesOfList ts := by
  rw [newlinesOfList_eq, newlinesOfList_eq, textOfList_gatheredAll]

end Tree

/-! ### What documents a declaration -/

theorem nearestDocBlock_cons (t : Tree) (before : List Tree) : nearestDocBlock (t :: before) =
    if t.kind.isNamed then
      if t.kind = .comment then
        if isDocBlock t.text then some t.text else nearestDocBlock before
      else none
    else nearestDocBlock before := by
  rw [nearestDocBlock]
  by_cases hnamed : t.kind.isNamed = true
  · rw [List.filter_cons, if_pos hnamed, if_pos hnamed, List.takeWhile_cons]
    by_cases hcomment : t.kind = .comment
    · by_cases hdoc : isDocBlock t.text = true
      · simp [hcomment, hdoc]
      · simp [hcomment, hdoc, nearestDocBlock]
    · simp [hcomment]
  · rw [List.filter_cons, if_neg hnamed, if_neg hnamed, nearestDocBlock]

theorem nearestDocBlock_congr {t t' : Tree} {before before' : List Tree} (hkind : t'.kind = t.kind)
    (htext : t'.text = t.text) (h : nearestDocBlock before' = nearestDocBlock before) :
    nearestDocBlock (t' :: before') = nearestDocBlock (t :: before) := by
  rw [nearestDocBlock_cons, nearestDocBlock_cons, hkind, htext, h]

/-- What documents a declaration directly under an export. -/
def exportDocBlock : Option (Kind × List Tree) → Option (Option (List Char))
  | some (.exportDecl, before) => some (nearestDocBlock before)
  | _ => none

theorem exportDocBlock_of_ne {k : Kind} (h : k ≠ .exportDecl) (before : List Tree) :
    exportDocBlock (some (k, before)) = none := by
  unfold exportDocBlock
  split
  · rename_i heq
    cases heq
    exact absurd rfl h
  · rfl

theorem nearestDocBlock_declarationContext (s : Site) :
    nearestDocBlock (declarationContext s) =
      (exportDocBlock s.outer).getD (nearestDocBlock s.before) := by
  obtain ⟨t, line, before, outer⟩ := s
  unfold declarationContext
  dsimp only
  split
  · rfl
  · rename_i hnot
    unfold exportDocBlock
    split
    · exact absurd rfl (hnot _)
    · rfl

/-- Two places in which a declaration has the same documentation. -/
structure SameDoc (before before' : List Tree) (outer outer' : Option (Kind × List Tree)) :
    Prop where
  before : nearestDocBlock before' = nearestDocBlock before
  outer : exportDocBlock outer' = exportDocBlock outer

variable {before before' : List Tree} {outer outer' : Option (Kind × List Tree)}

theorem SameDoc.cons (h : SameDoc before before' outer outer') {t t' : Tree}
    (hkind : t'.kind = t.kind) (htext : t'.text = t.text) :
    SameDoc (t :: before) (t' :: before') outer outer' :=
  ⟨nearestDocBlock_congr hkind htext h.before, h.outer⟩

theorem SameDoc.after {t t' : Tree} (ht : t.kind.isNamed = true) (hcomment : t.kind ≠ .comment)
    (hkind : t'.kind = t.kind) (h : exportDocBlock outer' = exportDocBlock outer) :
    SameDoc (t :: before) (t' :: before') outer outer' := by
  refine ⟨?_, h⟩
  rw [nearestDocBlock_cons, nearestDocBlock_cons, hkind, if_pos ht, if_pos ht, if_neg hcomment,
    if_neg hcomment]

theorem nearestDocBlock_append_gathered (h : nearestDocBlock before' = nearestDocBlock before)
    (run : List Tree) :
    nearestDocBlock (run.map Tree.gathered ++ before') = nearestDocBlock (run ++ before) := by
  induction run with
  | nil => exact h
  | cons t run ih => exact nearestDocBlock_congr (Tree.kind_gathered t) (Tree.text_gathered t) ih

theorem SameDoc.append (h : SameDoc before before' outer outer') (run : List Tree) :
    SameDoc (run ++ before) (run.map Tree.gathered ++ before') outer outer' :=
  ⟨nearestDocBlock_append_gathered h.before run, h.outer⟩

theorem SameDoc.inner {k : Kind}
    (h : k.declares = true → SameDoc before before' outer outer') :
    SameDoc [] [] (some (k, before)) (some (k, before')) := by
  refine ⟨rfl, ?_⟩
  -- what stands before a node is looked at from within only if the node is an export
  by_cases hk : k = .exportDecl
  · subst hk
    show some _ = some _
    rw [(h rfl).before]
  · rw [exportDocBlock_of_ne hk, exportDocBlock_of_ne hk]

/-! ### Declarations in a gathered tree -/

/-- A node of a tree and the same node in the gathered tree. -/
structure Gathers (s s' : Site) : Prop where
  tree : s'.tree = s.tree.gathered
  line : s'.line = s.line
  doc : nearestDocBlock (declarationContext s') = nearestDocBlock (declarationContext s)

theorem SameDoc.gathers (h : SameDoc before before' outer outer') (line : Nat) (t : Tree) :
    Gathers ⟨t, line, before, outer⟩ ⟨t.gathered, line, before', outer'⟩ := by
  refine ⟨rfl, rfl, ?_⟩
  rw [nearestDocBlock_declarationContext, nearestDocBlock_declarationContext, h.before, h.outer]

def declared (ss : List Site) : List Site := ss.filter (·.tree.kind.declares)

theorem declared_append (ss ss' : List Site) : declared (ss ++ ss') = declared ss ++ declared ss' :=
  List.filter_append ..

namespace Tree

theorem sitesOfList_append (line : Nat) (before : List Tree) (outer : Option (Kind × List Tree))
    (us vs : List Tree) : sitesOfList line before outer (us ++ vs) =
      sitesOfList line before outer us ++
        sitesOfList (line + newlinesOfList us) (us.reverse ++ before) outer vs := by
  induction us generalizing line before with
  | nil => rfl
  | cons u us ih =>
    rw [List.cons_append, sitesOfList, sitesOfList, ih, newlinesOfList, List.append_assoc,
      List.reverse_cons, List.append_assoc, List.singleton_append, Nat.add_assoc]

end Tree

theorem declared_cons_of_not {s : Site} (h : s.tree.kind.declares = false) (ss : List Site) :
    declared (s :: ss) = declared ss :=
  List.filter_cons_of_neg (by simp [h])

theorem forall₂_declared_cons {s s' : Site} {ss ss' : List Site}
    (hkind : s'.tree.kind = s.tree.kind) (h : s.tree.kind.declares = true → Gathers s s')
    (hrest : List.Forall₂ Gathers (declared ss) (declared ss')) :
    List.Forall₂ Gathers (declared (s :: ss)) (declared (s' :: ss')) := by
  cases hs : s.tree.kind.declares with
  | true =>
    have hs' : s'.tree.kind.declares = true := hkind ▸ hs
    rw [declared, declared, List.filter_cons, List.filter_cons, if_pos hs, if_pos hs']
    exact .cons (h hs) hrest
  | false => rwa [declared_cons_of_not hs, declared_cons_of_not (hkind ▸ hs)]

theorem forall₂_declared_append {ss ss' tt tt' : List Site}
    (h : List.Forall₂ Gathers (declared ss) (declared ss'))
    (hrest : List.Forall₂ Gathers (declared tt) (declared tt')) :
    List.Forall₂ Gathers (declared (ss ++ tt)) (declared (ss' ++ tt')) := by
  rw [declared_append, declared_append]
  exact List.rel_append h hrest

namespace Tree

open Script (AllBuilt IsBuilt)

theorem allBuilt_cons {d : Script.Dialect} {t : Tree} {ts : List Tree} :
    AllBuilt d (t :: ts) ↔ AllBuilt d [t] ∧ AllBuilt d ts :=
  Tree.everywhere_append (f := [t])

theorem newlinesOfList_append (us vs : List Tree) :
    newlinesOfList (us ++ vs) = newlinesOfList us + newlinesOfList vs := by
  rw [newlinesOfList_eq, newlinesOfList_eq, newlinesOfList_eq, textOfList_append,
    List.count_append]

theorem newlinesOfList_reverse (ts : List Tree) :
    newlinesOfList ts.reverse = newlinesOfList ts := by
  induction ts with
  | nil => rfl
  | cons t ts ih =>
    rw [List.reverse_cons, newlinesOfList_append, ih, newlinesOfList, newlinesOfList,
      newlinesOfList, Nat.add_zero, Nat.add_comm]

theorem newlinesOfList_reverse_map_gathered (run : List Tree) :
    newlinesOfList (run.map gathered).reverse = newlinesOfList run := by
  rw [newlinesOfList_reverse, ← gatheredAll_eq, newlinesOfList_gatheredAll]

theorem newlines_method_gathered (run parts : List Tree) :
    (node .method ((run.map gathered).reverse ++ gatheredAll parts)).newlines =
      newlinesOfList run + (node .method parts).newlines := by
  rw [newlines, newlines, newlinesOfList_append, newlinesOfList_reverse_map_gathered,
    newlinesOfList_gatheredAll]

theorem parts_of_method {d : Script.Dialect} {t : Tree} (hbuilt : AllBuilt d [t])
    (h : t.kind = .method) : ∃ parts, t = node .method parts ∧ IsBuilt d (node .method parts) ∧
      AllBuilt d parts := by
  cases t with
  | leaf k cs =>
    obtain ⟨ds, hds⟩ := (Tree.everywhere_leaf.1 hbuilt).solid h
    cases hds
  | node k parts =>
    obtain rfl : k = .method := h
    exact ⟨parts, rfl, Tree.everywhere_node.1 hbuilt⟩

theorem decoratorsGoOn_gathered (run : List Tree) (t : Tree) :
    decoratorsGoOn (run.map gathered) t.gathered = decoratorsGoOn run t := by
  rw [decoratorsGoOn, decoratorsGoOn, kind_gathered, List.isEmpty_map]

theorem declares_of_decoratorsGoOn {run : List Tree} {t : Tree}
    (h : decoratorsGoOn run t = true) : t.kind.declares = false := by
  rw [decoratorsGoOn, Bool.or_eq_true, decide_eq_true_eq, Bool.and_eq_true] at h
  rcases h with h | ⟨h, -⟩
  · rw [h]
    rfl
  · revert h
    cases t.kind <;> simp [Kind.isGap, Kind.declares]

theorem declared_sitesFrom_method (line : Nat) (before : List Tree)
    (outer : Option (Kind × List Tree)) (parts : List Tree) :
    declared (sitesFrom line before outer (node .method parts)) =
      declared (sitesOfList line [] (some (.method, before)) parts) :=
  declared_cons_of_not rfl _

/-- The declarations in a run that was passed are the same wherever the run comes to stand. -/
def RunGathers (run : List Tree) : Prop :=
  ∀ (line : Nat) (before before' : List Tree) (outer outer' : Option (Kind × List Tree)),
    List.Forall₂ Gathers (declared (sitesOfList line before outer run.reverse))
      (declared (sitesOfList line before' outer' (run.map gathered).reverse))

theorem runGathers_nil : RunGathers [] := fun _ _ _ _ _ => .nil

theorem RunGathers.cons {run : List Tree} (h : RunGathers run) {t : Tree}
    (ht : ∀ (line : Nat) (before before' : List Tree) (outer outer' : Option (Kind × List Tree)),
      List.Forall₂ Gathers (declared (sitesFrom line before outer t))
        (declared (sitesFrom line before' outer' t.gathered))) : RunGathers (t :: run) := by
  intro line before before' outer outer'
  rw [List.map_cons, List.reverse_cons, List.reverse_cons, sitesOfList_append, sitesOfList_append,
    newlinesOfList_reverse_map_gathered, newlinesOfList_reverse]
  exact forall₂_declared_append (h ..) (forall₂_declared_append (ht ..) .nil)

mutual

theorem gathers_sitesFrom {d : Script.Dialect} (line : Nat) : (t : Tree) → AllBuilt d [t] →
    ∀ {before before' : List Tree} {outer outer' : Option (Kind × List Tree)},
    (t.kind.declares = true → SameDoc before before' outer outer') →
    List.Forall₂ Gathers (declared (sitesFrom line before outer t))
      (declared (sitesFrom line before' outer' t.gathered))
  | leaf k cs, _, _, _, _, _, h =>
    forall₂_declared_cons rfl (fun hk => (h hk).gathers line (leaf k cs)) .nil
  | node k ts, hbuilt, before, before', outer, outer', h => by
    have hinner := SameDoc.inner (k := k) h
    have hparts := (Tree.everywhere_node.1 hbuilt).2
    rw [sitesFrom, gathered, sitesFrom]
    refine forall₂_declared_cons rfl (fun hk => (h hk).gathers line (node k ts)) ?_
    split
    · have hgather := gathers_gather line ts hparts runGathers_nil hinner
      exact hgather
    · exact gathers_sitesOfList line ts hparts (.inr hinner)

theorem gathers_sitesOfList {d : Script.Dialect} (line : Nat) : (ts : List Tree) → AllBuilt d ts →
    ∀ {before before' : List Tree} {outer outer' : Option (Kind × List Tree)},
    (∀ t ∈ ts, t.kind.declares = false) ∨ SameDoc before before' outer outer' →
    List.Forall₂ Gathers (declared (sitesOfList line before outer ts))
      (declared (sitesOfList line before' outer' (gatheredAll ts)))
  | [], _, _, _, _, _, _ => .nil
  | t :: ts, hbuilt, before, before', outer, outer', h => by
    obtain ⟨ht, hts⟩ := allBuilt_cons.1 hbuilt
    rw [gatheredAll, sitesOfList, sitesOfList, newlines_gathered]
    refine forall₂_declared_append (gathers_sitesFrom line t ht ?_)
      (gathers_sitesOfList (line + t.newlines) ts hts ?_)
    · intro hk
      rcases h with h | h
      · rw [h t List.mem_cons_self] at hk
        cases hk
      · exact h
    · exact h.imp (fun h u hu => h u (List.mem_cons_of_mem _ hu))
        fun h => h.cons (kind_gathered t) (text_gathered t)

/-- The declarations of neighbouring trees after a run that was passed, and of the trees into which
decorators were moved. -/
theorem gathers_gather {d : Script.Dialect} (line : Nat) : (ts : List Tree) → AllBuilt d ts →
    ∀ {run before before' : List Tree} {outer outer' : Option (Kind × List Tree)},
    RunGathers run → SameDoc before before' outer outer' →
    List.Forall₂ Gathers (declared (sitesOfList line before outer (run.reverse ++ ts)))
      (declared (sitesOfList line before' outer' (gather (run.map gathered) (gatheredAll ts))))
  | [], _, run, _, _, _, _, hrun, _ => by
    rw [List.append_nil]
    exact hrun ..
  | t :: ts, hbuilt, run, before, before', outer, outer', hrun, h => by
    obtain ⟨ht, hts⟩ := allBuilt_cons.1 hbuilt
    rw [gatheredAll]
    by_cases hmethod : t.kind = .method
    -- the run comes to stand in the method; after the method nothing tells the two places apart
    · obtain ⟨parts, rfl, hnode, hparts⟩ := parts_of_method ht hmethod
      have hbare : ∀ u ∈ parts, u.kind.declares = false := hnode.inner rfl
      have hrest : SameDoc (node .method parts :: (run ++ before))
          (node .method ((run.map gathered).reverse ++ gatheredAll parts) :: before')
          outer outer' := .after rfl nofun rfl h.outer
      have hmoved := gathers_gather (line + newlinesOfList run + (node .method parts).newlines) ts
        hts runGathers_nil hrest
      rw [gathered, if_neg nofun, gather_method, sitesOfList_append, sitesOfList, sitesOfList,
        declared_append, declared_append, declared_append, declared_sitesFrom_method,
        declared_sitesFrom_method, sitesOfList_append, declared_append, List.append_assoc,
        newlinesOfList_reverse_map_gathered, newlines_method_gathered, ← Nat.add_assoc,
        newlinesOfList_reverse, List.reverse_reverse]
      exact List.rel_append (hrun ..)
        (List.rel_append (gathers_sitesOfList _ parts hparts (.inl hbare)) hmoved)
    · rw [gather_cons (by rwa [kind_gathered]), decoratorsGoOn_gathered]
      split
      -- the run gets longer, and is no matter as long as nothing is declared in it
      · rename_i hgoes
        have hcons : RunGathers (t :: run) := hrun.cons fun _ _ _ _ _ =>
          gathers_sitesFrom _ t ht fun hk => by
            rw [declares_of_decoratorsGoOn hgoes] at hk
            cases hk
        have hrest := gathers_gather line ts hts hcons h
        rwa [List.reverse_cons, List.append_assoc] at hrest
      -- there is no method after the run, which stays where it is
      · rw [sitesOfList_append, sitesOfList_append, newlinesOfList_reverse_map_gathered,
          newlinesOfList_reverse, List.reverse_reverse, List.reverse_reverse, sitesOfList,
          sitesOfList, newlines_gathered]
        have hdoc := h.append run
        exact forall₂_declared_append (hrun ..) (forall₂_declared_append
          (gathers_sitesFrom _ t ht fun _ => hdoc)
          (gathers_gather _ ts hts runGathers_nil (hdoc.cons (kind_gathered t) (text_gathered t))))

end

end Tree

end Docent
