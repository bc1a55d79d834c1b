import Docent.Proofs.Enclosing
import Docent.Proofs.Page.Rules
import Docent.Proofs.Script.Rules
import Docent.Proofs.Script.Skeleton
import Mathlib.Data.List.Infix
import Mathlib.Data.List.TakeWhile

/-!
# Where the texts of outlines come from

The name of a class, its documentation and its namespace are passages of the source text. Main
statements: for pages and for scripts, how each of them is written.
-/

namespace Docent

open Docent.Tree (Address Site preorderOfList mem_sites_iff)

/-! ### Nodes and what stands around them -/

namespace Tree

mutual

theorem infix_text {u : Tree} : (t : Tree) → u ∈ t.preorder → u.text <:+: t.text
  | .leaf k cs, hu => by
    obtain rfl := List.mem_singleton.1 hu
    exact List.infix_rfl
  | .node k ts, hu => by
    rcases List.mem_cons.1 hu with rfl | hu
    · exact List.infix_rfl
    · exact infix_textOfList ts hu

theorem infix_textOfList {u : Tree} : (ts : Forest) → u ∈ preorderOfList ts →
    u.text <:+: textOfList ts
  | [], hu => by cases hu
  | t :: ts, hu => by
    rw [preorderOfList, List.mem_append] at hu
    rcases hu with hu | hu
    · exact (infix_text t hu).trans (List.prefix_append _ _).isInfix
    · exact (infix_textOfList ts hu).trans (List.suffix_append _ _).isInfix

end

/-- A node and what stands before it, all of which has a property. -/
structure Site.Within (P : Tree → Prop) (s : Site) : Prop where
  tree : ∀ u ∈ s.tree.preorder, P u
  before : ∀ u ∈ s.before, P u
  outer : ∀ k before, s.outer = some (k, before) → ∀ u ∈ before, P u

namespace Site

variable {P : Tree → Prop}

theorem Within.of_mem_go {s p : Site} {line : Nat} {before ts : List Tree}
    (hs : ∀ u ∈ s.before, P u) (hbefore : ∀ u ∈ before, P u)
    (hts : ∀ u ∈ preorderOfList ts, P u) (hp : p ∈ parts.go s line before ts) : p.Within P := by
  induction ts generalizing line before with
  | nil => cases hp
  | cons t ts ih =>
    obtain ⟨ht, hrest⟩ := List.forall_mem_append.1 hts
    rcases List.mem_cons.1 hp with rfl | hp
    · refine ⟨ht, hbefore, fun k before' houter => ?_⟩
      cases houter
      exact hs
    · exact ih (List.forall_mem_cons.2 ⟨ht t (self_mem_preorder t), hbefore⟩) hrest hp

theorem Within.part {s p : Site} (h : s.Within P) (hp : p ∈ s.parts) : p.Within P := by
  refine .of_mem_go h.before (List.forall_mem_nil _) (fun u hu => h.tree u ?_) hp
  cases htree : s.tree with
  | leaf k cs => rw [htree] at hu; cases hu
  | node k ts => rw [htree] at hu; exact List.mem_cons_of_mem _ hu

theorem Within.at? {s x : Site} (h : s.Within P) {a : Address} (hx : s.at? a = some x) :
    x.Within P := by
  induction a generalizing s with
  | nil => exact Option.some.inj hx ▸ h
  | cons i a ih =>
    rw [at?_cons] at hx
    obtain ⟨p, hp, hx⟩ := Option.bind_eq_some_iff.1 hx
    exact ih (h.part (List.mem_of_getElem? hp)) hx

theorem within_of_mem_sites {t : Tree} {s : Site} (hs : s ∈ t.sites) :
    s.Within (· ∈ t.preorder) := by
  obtain ⟨a, ha⟩ := mem_sites_iff.1 hs
  have hroot : (ofRoot t).Within (· ∈ t.preorder) :=
    ⟨fun u hu => hu, List.forall_mem_nil _, fun k before houter => nomatch houter⟩
  exact hroot.at? ha

theorem Within.context {s : Site} (h : s.Within P) : ∀ u ∈ declarationContext s, P u := by
  unfold declarationContext
  split
  · rename_i before houter
    exact h.outer _ before houter
  · exact h.before

theorem mem_of_part? {s : Site} {k : Kind} {u : Tree} (h : s.tree.part? k = some u) :
    u ∈ s.tree.preorder := by
  have hu := List.mem_of_find?_eq_some h
  rw [eq_node_of_mem_kids hu]
  exact List.mem_cons_of_mem _ (mem_preorderOfList.2 ⟨u, hu, self_mem_preorder u⟩)

end Site

end Tree

/-! ### Outlines -/

theorem comment_of_nearestDocBlock {before : List Tree} {cs : List Char}
    (h : nearestDocBlock before = some cs) :
    ∃ u ∈ before, u.kind = .comment ∧ u.text = cs ∧ isDocBlock cs = true := by
  have hmem := List.mem_of_find?_eq_some h
  obtain ⟨u, hu, htext⟩ := List.mem_map.1 hmem
  have hkind : u.kind = .comment := by simpa using List.mem_takeWhile_imp hu
  have hbefore := (List.mem_filter.1 ((List.takeWhile_prefix _).subset hu)).1
  exact ⟨u, hbefore, hkind, htext, List.find?_some h⟩

/-- Each outline is that of a class declaration, with the name of a namespace or without one. -/
theorem Convention.site_of_mem_classOutlines {conv : Convention}
    (h : .namespaceDecl ∉ conv.classKinds) {t : Tree} {o : ClassOutline}
    (ho : o ∈ conv.classOutlines t) :
    ∃ s ∈ t.sites, s.tree.kind ∈ conv.classKinds ∧ conv.nameOf? s = some o.name ∧
      o.doc = conv.doc s ∧
      (o.enclosing = none ∨ ∃ n ∈ t.sites, n.tree.kind = .namespaceDecl ∧
        o.enclosing = conv.nameOf? n) := by
  have hall := (List.forall₂_and_left _ _).2
    ⟨fun a ha => conv.mem_classAddresses.1 ha, conv.classOutlines_openedLast h t⟩
  obtain ⟨i, hi, heq⟩ := List.mem_iff_getElem.1 ho
  have hget := hall.get (hall.length_eq ▸ hi) hi
  have hlast : (conv.classOutlines t).get ⟨i, hi⟩ = o := heq
  rw [hlast] at hget
  obtain ⟨⟨x, hx, hrecords⟩, s, hs, hout⟩ := hget
  generalize (conv.classAddresses t).get ⟨i, hall.length_eq ▸ hi⟩ = a at hx hs hout
  obtain rfl := Option.some.inj (hs.symm.trans hx)
  obtain ⟨name, hname, rfl⟩ := Option.map_eq_some_iff.1 hout
  refine ⟨s, mem_sites_iff.2 ⟨_, hs⟩, of_decide_eq_true (Bool.and_eq_true_iff.1 hrecords).1, hname,
    rfl, ?_⟩
  cases hlast : openedLast? t a with
  | none => exact .inl rfl
  | some n =>
    have hspace := (mem_spacesBefore.1 (List.mem_of_getLast? hlast)).2.2
    obtain ⟨n', hn, hkind⟩ := (Option.any_eq_true _ _).1 hspace
    refine .inr ⟨n', mem_sites_iff.2 ⟨n, hn⟩, of_decide_eq_true hkind, ?_⟩
    rw [spaceName, Option.bind_some, hn, Option.bind_some]

/-- The name of a node, as it is written in it. -/
def Tree.Calls (t u : Tree) (name : String) : Prop :=
  t.part? .name = some u ∧ name = String.ofList u.text

theorem Convention.calls_of_nameOf? {ks : List Kind} {s : Site} {name : String}
    (h : (blockComments ks).nameOf? s = some name) : ∃ u, s.tree.Calls u name := by
  obtain ⟨u, hu, rfl⟩ := Option.map_eq_some_iff.1 h
  exact ⟨u, hu, rfl⟩

theorem Tree.Calls.infix_text {t u : Tree} {s : Site} {name : String} (h : s.tree.Calls u name)
    (hs : s ∈ t.sites) : u.text <:+: t.text :=
  Tree.infix_text t ((Site.within_of_mem_sites hs).tree u (Site.mem_of_part? h.1))

/-- Where declarations are documented by block comments, an outline has the name of a class, a block
or nothing as its documentation, and the name of a namespace or none. -/
theorem Convention.texts_of_mem_classOutlines {ks : List Kind} (hks : .namespaceDecl ∉ ks) {t : Tree}
    (hblock : ∀ u ∈ t.preorder, u.kind = .comment → isDocBlock u.text = true → IsBlock u.text)
    {o : ClassOutline} (ho : o ∈ (blockComments ks).classOutlines t) :
    ∃ s ∈ t.sites, s.tree.kind ∈ ks ∧ (∃ u, s.tree.Calls u o.name) ∧
      (∃ doc, o.doc = String.ofList doc ∧ (doc = [] ∨ IsBlock doc) ∧ doc <:+: t.text) ∧
      (o.enclosing = none ∨ ∃ n ∈ t.sites, n.tree.kind = .namespaceDecl ∧
        ∃ u name, n.tree.Calls u name ∧ o.enclosing = some name) := by
  obtain ⟨s, hs, hkind, hname, hdoc, henclosing⟩ := site_of_mem_classOutlines hks ho
  refine ⟨s, hs, hkind, calls_of_nameOf? hname, ⟨_, hdoc, ?_⟩, ?_⟩
  · cases hnearest : nearestDocBlock (declarationContext s) with
    | none => exact ⟨.inl rfl, List.nil_infix⟩
    | some cs =>
      obtain ⟨u, hu, hcomment, rfl, hcs⟩ := comment_of_nearestDocBlock hnearest
      have hmem := (Site.within_of_mem_sites hs).context u hu
      exact ⟨.inr (hblock u hmem hcomment hcs), Tree.infix_text t hmem⟩
  · rcases henclosing with hnone | ⟨n, hn, hspace, hcalled⟩
    · exact .inl hnone
    · cases hnone : (blockComments ks).nameOf? n with
      | none => exact .inl (hcalled.trans hnone)
      | some name =>
        obtain ⟨u, hu⟩ := calls_of_nameOf? hnone
        exact .inr ⟨n, hn, hspace, u, name, hu, hcalled.trans hnone⟩

theorem Tree.mem_preorder_of_mem_sites {t : Tree} {s : Site} (hs : s ∈ t.sites) :
    s.tree ∈ t.preorder :=
  (Site.within_of_mem_sites hs).tree _ (self_mem_preorder s.tree)

/-- The null character is in no text that is accepted. -/
theorem Scan.Reader.null_notMem_of_whole {ρ : Type} [BEq ρ] {gaps : Gaps} {r : Reader ρ Forest}
    {cs : List Char} {t : Tree} (h : whole gaps r cs = .ok t) : Char.ofNat 0 ∉ cs := by
  unfold whole at h
  split at h
  · cases h
  · rename_i hnull
    simpa using hnull

/-! ### Pages -/

theorem Page.isBlock_of_parse {cs : List Char} {t u : Tree} (h : parse cs = .ok t)
    (hu : u ∈ t.preorder) (hcomment : u.kind = .comment) (hdoc : isDocBlock u.text = true) :
    IsBlock u.text := by
  obtain ⟨cs', rfl, htakes⟩ := (isBuilt_of_parse h u hu).comment hcomment
  exact isBlock_of_comment htakes hdoc

/-- On a page a class is called by a word and documented by a block, and a namespace is called by a
path. -/
theorem Page.outline_texts {cs : List Char} {t : Tree} (h : parse cs = .ok t) {o : ClassOutline}
    (ho : o ∈ Grammar.page.convention.classOutlines t) :
    ∃ name doc, o.name = String.ofList name ∧ o.doc = String.ofList doc ∧
      IsWord name ∧ (doc = [] ∨ IsBlock doc) ∧ name <:+: cs ∧ doc <:+: cs ∧
      (o.enclosing = none ∨ ∃ f, o.enclosing = some (String.ofList (Tree.textOfList f)) ∧
        IsPath f ∧ Tree.textOfList f <:+: cs) := by
  have hbuilt := isBuilt_of_parse h
  obtain ⟨s, hs, hkind, ⟨u, hname⟩, ⟨doc, hdoc, hisDoc, hinfix⟩, henclosing⟩ :=
    Convention.texts_of_mem_classOutlines Grammar.page.namespaceDecl_notMem_classKinds
      (fun u => isBlock_of_parse h) ho
  obtain ⟨name, hpart, hword⟩ := (hbuilt _ (Tree.mem_preorder_of_mem_sites hs)).called
    (.inl (List.mem_singleton.1 hkind))
  obtain rfl := Option.some.inj (hpart.symm.trans hname.1)
  rw [← text_of_parse h]
  refine ⟨name, doc, hname.2, hdoc, hword, hisDoc, hname.infix_text hs, hinfix,
    henclosing.imp_right ?_⟩
  rintro ⟨n, hn, hspace, u, _, hcalls, henclosing⟩
  obtain ⟨f, rfl, hpath⟩ := (hbuilt _ (Tree.mem_preorder_of_mem_sites hn)).space hspace u hcalls.1
  obtain rfl := hcalls.2
  exact ⟨f, henclosing, hpath, hcalls.infix_text hn⟩

/-! ### Scripts -/

theorem Script.isBlock_of_parse {d : Dialect} {cs : List Char} {t u : Tree} (h : parse d cs = .ok t)
    (hu : u ∈ t.preorder) (hcomment : u.kind = .comment) (hdoc : isDocBlock u.text = true) :
    IsBlock u.text := by
  obtain ⟨cs', rfl, htakes⟩ := (isBuilt_of_parse h u hu).comment hcomment
  exact isBlock_of_comment htakes hdoc

/-- In a script a class is called by a word, one that may be a name if there are no types, and
documented by a block; there are no namespaces. -/
theorem Script.outline_texts {d : Dialect} {cs : List Char} {t : Tree} (h : parse d cs = .ok t)
    {o : ClassOutline} (ho : o ∈ (Grammar.script d).convention.classOutlines t) :
    ∃ name doc, o.name = String.ofList name ∧ o.doc = String.ofList doc ∧
      wordShape.Takes name ∧ (d.types = false → d.isName name = true) ∧
      (doc = [] ∨ IsBlock doc) ∧ name <:+: cs ∧ doc <:+: cs ∧ o.enclosing = none := by
  have hbuilt := isBuilt_of_parse h
  have hspace := (Grammar.script d).namespaceDecl_notMem_classKinds
  obtain ⟨s, hs, hkind, ⟨u, hname⟩, ⟨doc, hdoc, hisDoc, hinfix⟩, henclosing⟩ :=
    Convention.texts_of_mem_classOutlines hspace (fun u => isBlock_of_parse h) ho
  have hnone : o.enclosing = none := henclosing.elim id fun ⟨n, hn, hspace, _⟩ =>
    absurd hspace (hbuilt _ (Tree.mem_preorder_of_mem_sites hn)).space
  have hnode := hbuilt _ (Tree.mem_preorder_of_mem_sites hs)
  rw [← text_of_parse h]
  rcases (Grammar.script d).mem_classKinds.1 hkind with hclass | ⟨-, hclass⟩
  · obtain ⟨name, hpart, htakes⟩ := hnode.called _ (by rw [hclass]; rfl)
    obtain rfl := Option.some.inj (hpart.symm.trans hname.1)
    obtain ⟨hword, hname'⟩ := takes_of_wordWhere htakes
    refine ⟨name, doc, hname.2, hdoc, hword, fun htypes => ?_, hisDoc, hname.infix_text hs, hinfix,
      hnone⟩
    rwa [htypes] at hname'
  · obtain ⟨name, hpart, htakes⟩ := hnode.called wordShape (by rw [hclass]; rfl)
    obtain rfl := Option.some.inj (hpart.symm.trans hname.1)
    refine ⟨name, doc, hname.2, hdoc, htakes, fun htypes => ?_, hisDoc, hname.infix_text hs, hinfix,
      hnone⟩
    rw [hnode.abstract hclass] at htypes
    cases htypes

end Docent
