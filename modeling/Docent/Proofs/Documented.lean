import Docent.Proofs.Origin
import Docent.Proofs.Recorded
import Mathlib.Data.List.DropRight

/-!
# Comments before declarations

On pages and in scripts a declaration is documented by the comments before it. Main statements: of
the run of comments that ends what stands before a declaration, the last one that begins like a
block documents it, and nothing before the run does; such a comment is a documentation block, or it
is the empty comment, which hides the blocks before it.
-/

namespace Docent

open Docent.Tree (Address Site)

/-! ### What stands before a node -/

/-- The siblings before the node at an address, in order. -/
def siblingsBefore (t : Tree) (a : Address) : List Tree :=
  match a.getLast? with
  | none => []
  | some i => (((Site.ofRoot t).at? a.dropLast).elim [] fun p => p.tree.kids).take i

namespace Tree.Site

theorem before_of_getElem?_go {s p : Site} {line i : Nat} {before ts : List Tree}
    (h : (parts.go s line before ts)[i]? = some p) :
    p.before = (ts.take i).reverse ++ before ∧ p.outer = some (s.tree.kind, s.before) := by
  induction ts generalizing line before i with
  | nil => cases h
  | cons t ts ih =>
    rw [parts.go] at h
    cases i with
    | zero =>
      cases h
      exact ⟨rfl, rfl⟩
    | succ i =>
      obtain ⟨hbefore, houter⟩ := ih h
      refine ⟨?_, houter⟩
      rw [hbefore, List.take_succ_cons, List.reverse_cons, List.append_assoc, List.singleton_append]

theorem before_of_getElem?_parts {s p : Site} {i : Nat} (h : s.parts[i]? = some p) :
    p.before = (s.tree.kids.take i).reverse ∧ p.outer = some (s.tree.kind, s.before) := by
  obtain ⟨hbefore, houter⟩ := before_of_getElem?_go h
  exact ⟨by rw [hbefore, List.append_nil], houter⟩

/-- A node is told of its siblings in reverse, and of those of the node around it. -/
theorem before_at? {t : Tree} {a : Address} {s : Site} (h : (ofRoot t).at? a = some s) :
    s.before = (siblingsBefore t a).reverse ∧
      s.outer = if a = [] then none else
        ((ofRoot t).at? a.dropLast).map fun p => (p.tree.kind, p.before) := by
  rcases List.eq_nil_or_concat a with rfl | ⟨b, i, rfl⟩
  · obtain rfl := Option.some.inj h
    exact ⟨rfl, rfl⟩
  · rw [List.concat_eq_append] at h ⊢
    rw [at?_concat] at h
    obtain ⟨p, hp, hpart⟩ := Option.bind_eq_some_iff.1 h
    obtain ⟨hbefore, houter⟩ := before_of_getElem?_parts hpart
    rw [siblingsBefore, List.getLast?_concat, List.dropLast_concat, hp, if_neg (by simp)]
    exact ⟨hbefore, houter⟩

end Tree.Site

def isExportAt (t : Tree) (a : Address) : Bool :=
  ((Site.ofRoot t).at? a).any (·.tree.kind = .exportDecl)

namespace Grammar

/-- The address before which the comments on the node at an address stand: that of the export which
the node is directly in, if there is one, and its own otherwise. Pages have no exports. -/
def anchor (g : Grammar) (t : Tree) (a : Address) : Address :=
  match g with
  | script _ => if isExportAt t a.dropLast then a.dropLast else a
  | page | indented => a

/-- Whether a tree can be that of a source text: nothing is exported on a page. -/
def Admits (g : Grammar) (t : Tree) : Prop :=
  g = page → ∀ u ∈ t.preorder, u.kind ≠ .exportDecl

theorem admits_of_parse {g : Grammar} {cs : List Char} {t : Tree} (h : g.parse cs = .ok t) :
    g.Admits t := by
  rintro rfl u hu
  exact (Page.isBuilt_of_parse (ok_of_mapError h) u hu).unexported

theorem declarationContext_eq {g : Grammar} {t : Tree} (ht : g.Admits t)
    (hg : g.language ≠ .python) {a : Address} {s : Site} (hs : (Site.ofRoot t).at? a = some s) :
    declarationContext s = (siblingsBefore t (g.anchor t a)).reverse := by
  obtain ⟨hbefore, houter⟩ := Site.before_at? hs
  rcases List.eq_nil_or_concat a with rfl | ⟨b, i, rfl⟩
  · have hanchor : g.anchor t [] = [] := by cases g <;> simp [anchor]
    rw [declarationContext, houter, if_pos rfl, hanchor]
    exact hbefore
  · rw [List.concat_eq_append] at hs hbefore houter ⊢
    rw [Site.at?_concat] at hs
    obtain ⟨p, hp, hpart⟩ := Option.bind_eq_some_iff.1 hs
    rw [List.dropLast_concat, hp, if_neg (by simp)] at houter
    have hexport : isExportAt t b = decide (p.tree.kind = .exportDecl) := by
      rw [isExportAt, hp, Option.any_some]
    -- only in an export is it the outer node that comments stand before
    by_cases hkind : p.tree.kind = .exportDecl
    · have hcontext : declarationContext s = p.before := by
        rw [declarationContext, houter, Option.map_some, hkind]
      have hanchor : g.anchor t (b ++ [i]) = b := by
        cases g with
        | page => exact absurd hkind (ht rfl _ (Site.tree_mem_preorder hp))
        | indented => exact absurd rfl hg
        | script d => rw [anchor, List.dropLast_concat, hexport, if_pos (decide_eq_true hkind)]
      rw [hcontext, hanchor, (Site.before_at? hp).1]
    · have hcontext : declarationContext s = s.before := by
        rw [declarationContext, houter, Option.map_some]
        split
        · rename_i heq
          exact absurd (Prod.mk.inj (Option.some.inj heq)).1 hkind
        · rfl
      have hanchor : g.anchor t (b ++ [i]) = b ++ [i] := by
        cases g with
        | page => rfl
        | indented => rfl
        | script d =>
          rw [anchor, List.dropLast_concat, hexport, decide_eq_false hkind]
          rfl
      rw [hcontext, hanchor, hbefore]

end Grammar

/-! ### The run of comments -/

/-- The trees that end a list and are comments. -/
def commentRun (ts : List Tree) : List Tree := ts.rtakeWhile (·.kind = .comment)

/-- The texts of the comments directly before a declaration: those of the run of comments that ends
the named siblings before its anchor. -/
def Grammar.commentsBefore (g : Grammar) (t : Tree) (a : Address) : List (List Char) :=
  (commentRun ((siblingsBefore t (g.anchor t a)).filter (·.kind.isNamed))).map Tree.text

/-- The last one of some comments that begins like a block, or nothing. -/
def lastDocBlock (comments : List (List Char)) : List Char :=
  (comments.filter isDocBlock).getLast?.getD []

theorem nearestDocBlock_reverse (ts : List Tree) :
    nearestDocBlock ts.reverse =
      (((commentRun (ts.filter (·.kind.isNamed))).map Tree.text).filter isDocBlock).getLast? := by
  rw [nearestDocBlock, ← List.head?_filter, commentRun, List.rtakeWhile, List.filter_reverse,
    List.map_reverse, List.filter_reverse, List.getLast?_reverse]

theorem commentRun_spec (ts : List Tree) : ∃ rest, ts = rest ++ commentRun ts ∧
    (∀ u ∈ commentRun ts, u.kind = .comment) ∧ ∀ u, rest.getLast? = some u → u.kind ≠ .comment := by
  let p (u : Tree) : Bool := u.kind = .comment
  refine ⟨ts.rdropWhile p, List.rdropWhile_append_rtakeWhile.symm, fun u hu => ?_, fun u hu => ?_⟩
  · have hyes : p u = true := List.mem_rtakeWhile_imp hu
    exact of_decide_eq_true hyes
  · have hne : ts.rdropWhile p ≠ [] := by
      intro hnil
      rw [hnil] at hu
      cases hu
    have hno := List.rdropWhile_last_not p ts hne
    rw [List.getLast?_eq_some_getLast hne] at hu
    rw [Option.some.inj hu] at hno
    exact of_decide_eq_false (Bool.eq_false_iff.2 hno)

namespace Grammar

variable {g : Grammar} {t : Tree} {a : Address} {s : Site}

theorem doc_eq (hg : g.language ≠ .python) (s : Site) :
    g.convention.doc s = String.ofList ((nearestDocBlock (declarationContext s)).getD []) := by
  cases g with
  | page => rfl
  | script d => rfl
  | indented => exact absurd rfl hg

theorem doc_eq_lastDocBlock (hg : g.language ≠ .python) (ht : g.Admits t)
    (hs : (Site.ofRoot t).at? a = some s) :
    g.convention.doc s = String.ofList (lastDocBlock (g.commentsBefore t a)) := by
  rw [doc_eq hg, declarationContext_eq ht hg hs, nearestDocBlock_reverse]
  rfl

end Grammar

/-- In the tree of a page or of a script, what stands before the anchor of a node ends with a run of
comments among its named siblings. The node is documented by the last one of the run that begins
like a block, whatever other comments there are in the run, and by nothing if there is none. -/
theorem documented_by_comment_run {g : Grammar} (hg : g.language ≠ .python) :
    (∀ cs t, g.parse cs = .ok t → g.Admits t) ∧
    ∀ t, g.Admits t → ∀ a s, (Site.ofRoot t).at? a = some s →
      ∃ rest run, (siblingsBefore t (g.anchor t a)).filter (·.kind.isNamed) = rest ++ run ∧
        (∀ u ∈ run, u.kind = .comment) ∧ (∀ u, rest.getLast? = some u → u.kind ≠ .comment) ∧
        g.convention.doc s =
          String.ofList (((run.map Tree.text).filter isDocBlock).getLast?.getD []) := by
  refine ⟨fun cs t h => Grammar.admits_of_parse h, fun t ht a s hs => ?_⟩
  obtain ⟨rest, hsplit, hrun, hrest⟩ :=
    commentRun_spec ((siblingsBefore t (g.anchor t a)).filter (·.kind.isNamed))
  exact ⟨rest, _, hsplit, hrun, hrest, Grammar.doc_eq_lastDocBlock hg ht hs⟩

/-- A script with an exported class after two blocks and a plain comment. -/
def exportedClass : List Char :=
  "/** far */\nlet x;\n/** first */\n/** near */\n// plain\nexport class A \x7b\x7d\n".toList

/-- The comments stand before the export, and the second block is the last one among them. -/
theorem documented_by_comment_run_exportedClass :
    ∃ t s, (Grammar.script ⟨true, false⟩).parse exportedClass = .ok t ∧
      (Site.ofRoot t).at? [10, 2] = some s ∧ s.tree.kind = .classDecl ∧
      (Grammar.script ⟨true, false⟩).anchor t [10, 2] = [10] ∧
      ∃ rest run, (siblingsBefore t [10]).filter (·.kind.isNamed) = rest ++ run ∧
        (∀ u ∈ run, u.kind = .comment) ∧ (∀ u, rest.getLast? = some u → u.kind ≠ .comment) ∧
        "/** near */" = String.ofList (((run.map Tree.text).filter isDocBlock).getLast?.getD []) := by
  have hparsed : ((Grammar.script ⟨true, false⟩).parse exportedClass).toOption.map (fun t =>
      ((Grammar.script ⟨true, false⟩).anchor t [10, 2], ((Site.ofRoot t).at? [10, 2]).map fun s =>
        (s.tree.kind, (Grammar.script ⟨true, false⟩).convention.doc s))) =
      some ([10], some (.classDecl, "/** near */")) := by decide +kernel
  obtain ⟨t, ht, hfacts⟩ := ok_of_toOption_map hparsed
  obtain ⟨hanchor, hsite⟩ := Prod.mk.inj hfacts
  obtain ⟨s, hs, hfacts⟩ := Option.map_eq_some_iff.1 hsite
  obtain ⟨hkind, hdoc⟩ := Prod.mk.inj hfacts
  obtain ⟨hadmits, hall⟩ := documented_by_comment_run (g := .script ⟨true, false⟩) nofun
  obtain ⟨rest, run, hsplit, hrun, hrest, heq⟩ := hall t (hadmits _ t ht) _ s hs
  rw [hanchor] at hsplit
  exact ⟨t, s, ht, hs, hkind, hanchor, rest, run, hsplit, hrun, hrest, hdoc.symm.trans heq⟩

/-! ### Blocks and the empty comment -/

/-- Whether a comment is a documentation block whose marks do not overlap. -/
def isRealBlock (comment : List Char) : Bool :=
  isDocBlock comment && ['*', '/'].isSuffixOf (comment.drop 3)

/-- The comment that begins like a block and ends with the same mark. -/
def emptyComment : List Char := "/**/".toList

theorem Shape.suffix_take_of_go {mark cs : List Char} {k n : Nat} (hmark : mark ≠ [])
    (h : through.go mark cs k = some n) : k ≤ n ∧ mark <:+ cs.take (n - k) := by
  induction cs generalizing k with
  | nil =>
    rw [through.go, if_neg (by simpa using hmark)] at h
    cases h
  | cons c cs ih =>
    rw [through.go] at h
    split at h
    · rename_i hfront
      obtain ⟨rest, hrest⟩ := List.isPrefixOf_iff_prefix.1 hfront
      obtain rfl := Option.some.inj h
      rw [Nat.add_sub_cancel_left, ← hrest, List.take_left]
      exact ⟨Nat.le_add_right _ _, List.suffix_rfl⟩
    · obtain ⟨hle, hsuffix⟩ := ih h
      have hnext : n - k = (n - (k + 1)) + 1 := by omega
      rw [hnext, List.take_succ_cons]
      exact ⟨by omega, hsuffix.trans (List.suffix_cons _ _)⟩

theorem Shape.suffix_of_through {s : String} {cs : List Char} (hs : s.toList ≠ [])
    (h : (through s).Takes cs) : s.toList <:+ cs := by
  obtain ⟨rest, hrest⟩ := h
  have hsuffix := (suffix_take_of_go hs hrest).2
  rwa [Nat.sub_zero, List.take_left] at hsuffix

/-- A block as it is written has marks that do not overlap, or it is the empty comment. -/
theorem isRealBlock_or_eq_emptyComment {cs : List Char} (h : IsBlock cs) :
    isRealBlock cs = true ∨ cs = emptyComment := by
  obtain ⟨r, rfl, htakes, hdoc⟩ := h
  obtain ⟨r, hr⟩ := List.isPrefixOf_iff_prefix.1 hdoc
  obtain rfl := (List.cons.inj (List.cons.inj hr).2).2.symm
  have hsuffix : ['*', '/'] <:+ '*' :: r := Shape.suffix_of_through (by decide) htakes
  rcases List.suffix_cons_iff.1 hsuffix with heq | hrest
  · obtain rfl := (List.cons.inj heq).2
    exact .inr rfl
  · exact .inl (Bool.and_eq_true_iff.2 ⟨hdoc, List.isSuffixOf_iff_suffix.2 hrest⟩)

/-- The last one of some comments that is a real block, or nothing. -/
def lastRealBlock (comments : List (List Char)) : List Char :=
  (comments.filter isRealBlock).getLast?.getD []

theorem lastDocBlock_cases (comments : List (List Char)) :
    lastDocBlock comments = [] ∨
      lastDocBlock comments ∈ comments ∧ isDocBlock (lastDocBlock comments) = true := by
  rw [lastDocBlock]
  cases hlast : (comments.filter isDocBlock).getLast? with
  | none => exact .inl rfl
  | some d => exact .inr (List.mem_filter.1 (List.mem_of_getLast? hlast))

/-- The last comment that begins like a block is the last real block unless it is the empty
comment. -/
theorem lastDocBlock_eq_lastRealBlock_iff {comments : List (List Char)}
    (h : ∀ d ∈ comments, isDocBlock d = true → isRealBlock d = true ∨ d = emptyComment) :
    lastDocBlock comments = lastRealBlock comments ↔ lastDocBlock comments ≠ emptyComment := by
  -- from the last comment on, as the last one decides
  induction comments using List.reverseRecOn with
  | nil => exact ⟨fun _ => nofun, fun _ => rfl⟩
  | append_singleton ds d ih =>
    obtain ⟨hds, hd⟩ := List.forall_mem_append.1 h
    have hd := hd d (List.mem_singleton_self d)
    rw [lastDocBlock, lastRealBlock, List.filter_append, List.filter_append, List.filter_singleton,
      List.filter_singleton]
    cases hdoc : isDocBlock d with
    | false =>
      have hreal : isRealBlock d = false := by rw [isRealBlock, hdoc, Bool.false_and]
      rw [hreal]
      simp only [cond_false, List.append_nil]
      exact ih hds
    | true =>
      rcases hd hdoc with hreal | rfl
      · rw [hreal]
        simp only [cond_true, List.getLast?_concat, Option.getD_some, true_iff]
        rintro rfl
        exact absurd hreal (by decide)
      · have hreal : isRealBlock emptyComment = false := by decide
        rw [hreal]
        simp only [cond_true, cond_false, List.append_nil, List.getLast?_concat, Option.getD_some,
          ne_eq, not_true_eq_false, iff_false]
        -- then no real block is the last one, since the empty comment is none
        intro heq
        cases hlast : (ds.filter isRealBlock).getLast? with
        | none =>
          rw [hlast] at heq
          exact absurd heq (by decide)
        | some r =>
          rw [hlast] at heq
          obtain rfl : emptyComment = r := heq
          have hyes := (List.mem_filter.1 (List.mem_of_getLast? hlast)).2
          exact absurd hyes (by decide)

theorem isRealBlock_iff {cs : List Char} :
    isRealBlock cs = true ↔ ∃ inner, cs = "/**".toList ++ inner ++ "*/".toList := by
  rw [isRealBlock, Bool.and_eq_true_iff]
  constructor
  · rintro ⟨hdoc, hend⟩
    obtain ⟨rest, rfl⟩ := List.isPrefixOf_iff_prefix.1 hdoc
    obtain ⟨inner, rfl⟩ := List.isSuffixOf_iff_suffix.1 hend
    exact ⟨inner, rfl⟩
  · rintro ⟨inner, rfl⟩
    refine ⟨rfl, List.isSuffixOf_iff_suffix.2 ⟨inner, rfl⟩⟩

namespace Grammar

variable {g : Grammar} {cs : List Char} {t : Tree} {a : Address} {s : Site}

theorem isBlock_of_parse (hg : g.language ≠ .python) (h : g.parse cs = .ok t) {u : Tree}
    (hu : u ∈ t.preorder) (hcomment : u.kind = .comment) (hdoc : isDocBlock u.text = true) :
    IsBlock u.text := by
  cases g with
  | page => exact Page.isBlock_of_parse (ok_of_mapError h) hu hcomment hdoc
  | script d => exact Script.isBlock_of_parse (ok_of_mapError h) hu hcomment hdoc
  | indented => exact absurd rfl hg

theorem comment_of_mem_commentsBefore (hg : g.language ≠ .python) (ht : g.Admits t)
    (hs : (Site.ofRoot t).at? a = some s) {d : List Char} (hd : d ∈ g.commentsBefore t a) :
    ∃ u ∈ t.preorder, u.kind = .comment ∧ u.text = d := by
  obtain ⟨u, hu, rfl⟩ := List.mem_map.1 hd
  obtain ⟨rest, hsplit, hrun, -⟩ :=
    commentRun_spec ((siblingsBefore t (g.anchor t a)).filter (·.kind.isNamed))
  have hnamed : u ∈ (siblingsBefore t (g.anchor t a)).filter (·.kind.isNamed) := by
    rw [hsplit]
    exact List.mem_append_right rest hu
  have hcontext : u ∈ declarationContext s := by
    rw [declarationContext_eq ht hg hs, List.mem_reverse]
    exact (List.mem_filter.1 hnamed).1
  have hwithin := Site.within_of_mem_sites (Tree.mem_sites_iff.2 ⟨a, hs⟩)
  exact ⟨u, hwithin.context u hcontext, hrun u hu, rfl⟩

/-- What documents the declaration at an address is the last comment before it that begins like a
block: nothing, a real block, or the empty comment, and nothing but that keeps it from being the
last real block. -/
structure BlockDocuments (g : Grammar) (t : Tree) (a : Address) (doc : Value) : Prop where
  last : doc = .text (String.ofList (lastDocBlock (g.commentsBefore t a)))
  real : doc = .text "" ∨ doc = .text "/**/" ∨
    ∃ inner, doc = .text (String.ofList ("/**".toList ++ inner ++ "*/".toList))
  hides : doc = .text (String.ofList (lastRealBlock (g.commentsBefore t a))) ↔ doc ≠ .text "/**/"

theorem blockDocuments (hg : g.language ≠ .python) (h : g.parse cs = .ok t)
    (hs : (Site.ofRoot t).at? a = some s) : g.BlockDocuments t a (.text (g.convention.doc s)) := by
  have ht := admits_of_parse h
  have hblock (d : List Char) (hd : d ∈ g.commentsBefore t a) (hdoc : isDocBlock d = true) :
      isRealBlock d = true ∨ d = emptyComment := by
    obtain ⟨u, hu, hcomment, rfl⟩ := comment_of_mem_commentsBefore hg ht hs hd
    exact isRealBlock_or_eq_emptyComment (isBlock_of_parse hg h hu hcomment hdoc)
  have htext (ds es : List Char) :
      Value.text (String.ofList ds) = .text (String.ofList es) ↔ ds = es := by
    rw [Value.text.injEq, String.ofList_inj]
  rw [doc_eq_lastDocBlock hg ht hs]
  refine ⟨rfl, ?_, ?_⟩
  · rcases lastDocBlock_cases (g.commentsBefore t a) with hnone | ⟨hmem, hdoc⟩
    · exact .inl (by rw [hnone])
    · rcases hblock _ hmem hdoc with hreal | hempty
      · obtain ⟨inner, heq⟩ := isRealBlock_iff.1 hreal
        exact .inr (.inr ⟨inner, by rw [heq]⟩)
      · exact .inr (.inl (by rw [hempty]; rfl))
  · rw [show ("/**/" : String) = String.ofList emptyComment from rfl, Ne, htext, htext]
    exact lastDocBlock_eq_lastRealBlock_iff hblock

end Grammar

/-- The documentation of the classes and methods that are recorded of a page or a script is nothing,
a real block or the empty comment, and it is the last real block of the comments before the
declaration unless it is the empty comment. -/
theorem extractSource_docBlocks {g : Grammar} (hg : g.language ≠ .python) {path : String}
    {cs : List Char} {classes : List ClassRecord} (h : extractSource g path cs = .ok classes) :
    ∃ t, g.parse cs = .ok t ∧ List.Forall₂ (fun a c => g.BlockDocuments t a c.doc ∧
      List.Forall₂ (fun m r => g.BlockDocuments t m r.doc) (methodAddresses t a) c.methods)
      (g.convention.classAddresses t) classes := by
  obtain ⟨t, ht, hall⟩ := tells_of_extractSource h
  refine ⟨t, ht, hall.imp ?_⟩
  rintro a c ⟨⟨s, hs, -, htells⟩, hmethods⟩
  refine ⟨htells.doc ▸ Grammar.blockDocuments hg ht hs, hmethods.imp ?_⟩
  rintro m r ⟨x, hx, -, htells, -⟩
  exact htells.doc ▸ Grammar.blockDocuments hg ht hx

/-- A page with a block and an empty comment before a class, and a block before its method. -/
def hiddenBlock : List Char :=
  "<?php\n/** real */\n/**/\nclass A \x7b\n/** m */\nfunction f() \x7b\x7d\n\x7d\n".toList

/-- The empty comment hides the block before it. -/
theorem extractSource_docBlocks_hiddenBlock :
    ∃ t c, Grammar.page.parse hiddenBlock = .ok t ∧
      extractSource .page "a.php" hiddenBlock = .ok [c] ∧ c.doc = .text "/**/" ∧
      ∃ a, Grammar.page.convention.classAddresses t = [a] ∧
        Grammar.page.commentsBefore t a = ["/** real */".toList, "/**/".toList] ∧
        c.doc ≠ .text (String.ofList (lastRealBlock (Grammar.page.commentsBefore t a))) ∧
        ∃ m r, methodAddresses t a = [m] ∧ c.methods = [r] ∧
          r.doc = .text (String.ofList (lastRealBlock (Grammar.page.commentsBefore t m))) := by
  have hout : (Grammar.page.parse hiddenBlock).toOption.map Grammar.page.convention.classOutlines =
      some [⟨"A", "/**/", [⟨"f", "/** m */", 6, 6⟩], none, 4, 7⟩] := by decide +kernel
  have hplaces : (Grammar.page.parse hiddenBlock).toOption.map (fun t =>
      (Grammar.page.convention.classAddresses t).map fun a =>
        (Grammar.page.commentsBefore t a, (methodAddresses t a).length)) =
      some [(["/** real */".toList, "/**/".toList], 1)] := by decide +kernel
  have h := extractSource_of_outlines hout "a.php"
  obtain ⟨t, ht, hall⟩ := extractSource_docBlocks (g := .page) (by decide) h
  rw [ht] at hplaces
  have hcomments : (Grammar.page.convention.classAddresses t).map (fun a =>
      (Grammar.page.commentsBefore t a, (methodAddresses t a).length)) = _ := Option.some.inj hplaces
  refine ⟨t, _, ht, h, rfl, ?_⟩
  generalize Grammar.page.convention.classAddresses t = addresses at hcomments hall ⊢
  match addresses, hcomments with
  | [a], hcomments =>
    obtain ⟨hcomments, hlength⟩ := Prod.mk.inj (List.cons.inj hcomments).1
    obtain ⟨⟨hclass, hmethods⟩, -⟩ := List.forall₂_cons.1 hall
    obtain ⟨m, hm⟩ := List.length_eq_one_iff.1 hlength
    rw [hm] at hmethods
    obtain ⟨hmethod, -⟩ := List.forall₂_cons.1 hmethods
    have hhides := mt hclass.hides.1 (not_not.2 rfl)
    have hother : Value.text "/** m */" ≠ .text "/**/" := by simp
    exact ⟨a, rfl, hcomments, hhides, m, _, hm, rfl, hmethod.hides.2 hother⟩

end Docent
