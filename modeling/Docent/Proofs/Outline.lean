import Docent.Extraction
import Docent.Proofs.Address
import Docent.Proofs.Except
import Mathlib.Data.List.Forall2
import Mathlib.Data.List.Nodup

/-!
# Which classes and methods are outlined

Main statement: the outlines of a tree are those of its named class declarations, each once and in
pre-order, however they are nested, and the methods of an outline are the named methods directly in
the body of that class.
-/

namespace Docent

open Docent.Tree (Address Site)

/-! ### Declarations at addresses -/

/-- Whether a node declares a class in a grammar: there are abstract classes with types only. -/
def Grammar.Declares (g : Grammar) (s : Site) : Prop :=
  s.tree.kind = .classDecl ∨ (g.language = .typescript ∧ s.tree.kind = .abstractClassDecl)

/-- A class declaration with a name stands at an address of a tree. -/
def Grammar.IsClassAt (g : Grammar) (t : Tree) (a : Address) : Prop :=
  ∃ s, (Site.ofRoot t).at? a = some s ∧ g.Declares s ∧ (s.tree.part? .name).isSome

/-- The body of the node at an address is its part with a number, the first one that is a body. -/
def IsBodyAt (t : Tree) (a : Address) (b : Nat) : Prop :=
  (∃ s, (Site.ofRoot t).at? (a ++ [b]) = some s ∧ s.tree.kind = .body) ∧
    ∀ j < b, ∀ s, (Site.ofRoot t).at? (a ++ [j]) = some s → s.tree.kind ≠ .body

/-- A method with a name stands directly in the body of the node at an address. -/
def IsMethodAt (t : Tree) (a m : Address) : Prop :=
  ∃ b i s, IsBodyAt t a b ∧ m = a ++ [b, i] ∧ (Site.ofRoot t).at? m = some s ∧
    s.tree.kind = .method ∧ (s.tree.part? .name).isSome

/-! ### The classes of a tree -/

namespace Convention

variable (conv : Convention)

theorem nameOf?_isSome (s : Site) : (conv.nameOf? s).isSome = (s.tree.part? .name).isSome := by
  rw [nameOf?, Option.isSome_map]

theorem classOutline?_isSome (enclosing : Option String) (s : Site) :
    (conv.classOutline? enclosing s).isSome = (s.tree.part? .name).isSome := by
  rw [classOutline?, Option.isSome_map, nameOf?_isSome]

theorem methodOutline?_isSome (s : Site) :
    (conv.methodOutline? s).isSome = (s.tree.part? .name).isSome := by
  rw [methodOutline?, Option.isSome_map, nameOf?_isSome]

/-- Whether a node is a class declaration with a name. -/
def recordsClass (s : Site) : Bool :=
  decide (s.tree.kind ∈ conv.classKinds) && (s.tree.part? .name).isSome

theorem outlinesFrom_eq (h : .namespaceDecl ∉ conv.classKinds) (enclosing : Option String)
    (ss : List Site) :
    List.Forall₂ (fun s o => ∃ e, conv.classOutline? e s = some o) (ss.filter conv.recordsClass)
      (conv.outlinesFrom enclosing ss) := by
  induction ss generalizing enclosing with
  | nil => exact List.Forall₂.nil
  | cons s ss ih =>
    rw [outlinesFrom]
    -- namespaces are recorded by no convention, and what they are called does not matter here
    by_cases hspace : s.tree.kind = .namespaceDecl
    · have hnot : conv.recordsClass s = false := by simp [recordsClass, hspace, h]
      rw [if_pos hspace, List.filter_cons_of_neg (by simp [hnot])]
      exact ih _
    · rw [if_neg hspace]
      by_cases hclass : s.tree.kind ∈ conv.classKinds
      · rw [if_pos hclass]
        cases ho : conv.classOutline? enclosing s with
        | none =>
          have hnot : conv.recordsClass s = false := by
            rw [recordsClass, ← conv.classOutline?_isSome enclosing, ho, Option.isSome_none,
              Bool.and_false]
          rw [List.filter_cons_of_neg (by simp [hnot])]
          exact ih _
        | some o =>
          have hyes : conv.recordsClass s = true := by
            rw [recordsClass, ← conv.classOutline?_isSome enclosing, ho, Option.isSome_some,
              Bool.and_true, decide_eq_true hclass]
          rw [List.filter_cons_of_pos hyes]
          exact List.Forall₂.cons ⟨enclosing, ho⟩ (ih _)
      · have hnot : conv.recordsClass s = false := by simp [recordsClass, hclass]
        rw [if_neg hclass, List.filter_cons_of_neg (by simp [hnot])]
        exact ih _

/-- The addresses of the named class declarations of a tree. -/
def classAddresses (t : Tree) : List Address :=
  (Tree.addresses t).filter fun a => ((Site.ofRoot t).at? a).any conv.recordsClass

theorem map_at?_classAddresses (t : Tree) :
    (conv.classAddresses t).map (Site.ofRoot t).at? =
      (t.sites.filter conv.recordsClass).map some := by
  have hmap := congrArg (List.filter fun o => o.any conv.recordsClass) (Tree.map_some_sites t)
  rw [List.filter_map, List.filter_map] at hmap
  exact hmap.symm

/-- Each named class declaration has one outline, in the order of the addresses. -/
theorem classOutlines_eq (h : .namespaceDecl ∉ conv.classKinds) (t : Tree) :
    List.Forall₂
      (fun a o => ∃ s e, (Site.ofRoot t).at? a = some s ∧ conv.classOutline? e s = some o)
      (conv.classAddresses t) (conv.classOutlines t) := by
  let R := fun (x : Option Site) o => ∃ s e, x = some s ∧ conv.classOutline? e s = some o
  have hsites : List.Forall₂ R ((t.sites.filter conv.recordsClass).map some)
      (conv.classOutlines t) :=
    List.forall₂_map_left_iff.2 ((conv.outlinesFrom_eq h none t.sites).imp
      fun s o ⟨e, ho⟩ => ⟨s, e, rfl, ho⟩)
  rw [← map_at?_classAddresses] at hsites
  exact List.forall₂_map_left_iff.1 hsites

theorem mem_classAddresses {t : Tree} {a : Address} :
    a ∈ conv.classAddresses t ↔
      ∃ s, (Site.ofRoot t).at? a = some s ∧ conv.recordsClass s = true := by
  rw [classAddresses, List.mem_filter, Option.any_eq_true]
  constructor
  · rintro ⟨-, s, hs, hrec⟩
    exact ⟨s, hs, hrec⟩
  · rintro ⟨s, hs, hrec⟩
    exact ⟨Tree.mem_addresses (s := .ofRoot t).2 (by rw [hs]; rfl), s, hs, hrec⟩

theorem pairwise_classAddresses (t : Tree) : (conv.classAddresses t).Pairwise (· < ·) :=
  (Tree.pairwise_addresses t).filter _

end Convention

/-! ### The methods of a class -/

theorem map_getElem?_findIdxs {α : Type} (p : α → Bool) (before xs : List α) :
    (xs.findIdxs p before.length).map ((before ++ xs)[·]?) = (xs.filter p).map some := by
  induction xs generalizing before with
  | nil => rfl
  | cons x xs ih =>
    have hrest := ih (before ++ [x])
    rw [List.length_append, List.length_singleton, List.append_assoc, List.singleton_append]
      at hrest
    by_cases hx : p x = true
    · rw [List.findIdxs_cons, if_pos hx, List.filter_cons_of_pos hx, List.map_cons, hrest]
      simp
    · rw [List.findIdxs_cons, if_neg hx, List.filter_cons_of_neg hx, hrest]

theorem map_some_filterMap {α β : Type} (p : α → Bool) (f : α → Option β) (xs : List α) :
    ((xs.filter p).filterMap f).map some =
      (xs.filter fun x => p x && (f x).isSome).map f := by
  induction xs with
  | nil => rfl
  | cons x xs ih =>
    cases hp : p x <;> cases hf : f x <;> simp [hp, hf, ih]

/-- Whether a node is a method with a name. -/
def recordsMethod (s : Site) : Bool :=
  decide (s.tree.kind = .method) && (s.tree.part? .name).isSome

/-- The numbers of the named methods among the parts of a body. -/
def methodNumbers (body : Site) : List Nat := body.parts.findIdxs recordsMethod

theorem mem_methodNumbers {body : Site} {i : Nat} :
    i ∈ methodNumbers body ↔ ∃ s, body.parts[i]? = some s ∧ recordsMethod s = true := by
  rw [methodNumbers, List.mem_findIdxs_iff_exists_getElem_pos]
  constructor
  · rintro ⟨hi, hrec⟩
    exact ⟨_, List.getElem?_eq_getElem hi, hrec⟩
  · rintro ⟨s, hs, hrec⟩
    obtain ⟨hi, rfl⟩ := List.getElem?_eq_some_iff.1 hs
    exact ⟨hi, hrec⟩

theorem Convention.methodOutlines_of_body (conv : Convention) {s body : Site}
    (h : s.part? .body = some body) :
    (conv.methodOutlines s).map some =
      (methodNumbers body).map fun i => (body.parts[i]?).bind conv.methodOutline? := by
  have hrec : (fun x : Site => decide (x.tree.kind = .method) && (conv.methodOutline? x).isSome) =
      recordsMethod := by
    funext x
    rw [conv.methodOutline?_isSome, recordsMethod]
  have hnumbers := congrArg (List.map fun o => Option.bind o conv.methodOutline?)
    (map_getElem?_findIdxs recordsMethod [] body.parts)
  rw [List.map_map, List.map_map] at hnumbers
  rw [methodOutlines, h]
  exact (map_some_filterMap _ _ _).trans (by rw [hrec]; exact hnumbers.symm)

/-- The number of the body among the parts of a node. -/
def bodyNumber? (s : Site) : Option Nat := s.parts.findIdx? (·.tree.kind = .body)

theorem part?_body_eq (s : Site) : s.part? .body = (bodyNumber? s).bind (s.parts[·]?) :=
  List.find?_eq_bind_findIdx?_getElem?

theorem isBodyAt_iff {t : Tree} {a : Address} {s : Site} (hs : (Site.ofRoot t).at? a = some s)
    (b : Nat) : IsBodyAt t a b ↔ bodyNumber? s = some b := by
  have hat (j : Nat) : (Site.ofRoot t).at? (a ++ [j]) = s.parts[j]? := by
    rw [Site.at?_concat, hs, Option.bind_some]
  rw [IsBodyAt, bodyNumber?, List.findIdx?_eq_some_iff_getElem]
  simp only [hat, decide_eq_true_eq]
  constructor
  · rintro ⟨⟨body, hbody, hkind⟩, hfirst⟩
    obtain ⟨hb, rfl⟩ := List.getElem?_eq_some_iff.1 hbody
    exact ⟨hb, hkind, fun j hj => hfirst j hj _ (List.getElem?_eq_getElem (Nat.lt_trans hj hb))⟩
  · rintro ⟨hb, hkind, hfirst⟩
    refine ⟨⟨_, List.getElem?_eq_getElem hb, hkind⟩, fun j hj x hx => ?_⟩
    obtain ⟨_, rfl⟩ := List.getElem?_eq_some_iff.1 hx
    exact hfirst j hj

/-- The addresses of the named methods directly in the body of the node at an address. -/
def methodAddresses (t : Tree) (a : Address) : List Address :=
  match ((Site.ofRoot t).at? a).bind bodyNumber? with
  | none => []
  | some b =>
    (((Site.ofRoot t).at? (a ++ [b])).elim [] methodNumbers).map fun i => a ++ [b, i]

/-- Each method directly in the body of a class has one outline, in the order of the addresses. -/
theorem Convention.methodOutlines_eq (conv : Convention) {t : Tree} {a : Address} {s : Site}
    (hs : (Site.ofRoot t).at? a = some s) :
    (conv.methodOutlines s).map some =
      (methodAddresses t a).map fun m => ((Site.ofRoot t).at? m).bind conv.methodOutline? := by
  rw [methodAddresses, hs, Option.bind_some]
  cases hb : bodyNumber? s with
  | none =>
    have hnone : s.part? .body = none := by rw [part?_body_eq, hb, Option.bind_none]
    rw [methodOutlines, hnone]
    rfl
  | some b =>
    have hpart : s.part? .body = s.parts[b]? := by rw [part?_body_eq, hb, Option.bind_some]
    have hlt : b < s.parts.length := (List.findIdx?_eq_some_iff_getElem.1 hb).1
    rw [List.getElem?_eq_getElem hlt] at hpart
    have hbody : (Site.ofRoot t).at? (a ++ [b]) = some s.parts[b] := by
      rw [Site.at?_concat, hs, Option.bind_some, List.getElem?_eq_getElem hlt]
    simp only [hbody, Option.elim_some, List.map_map]
    rw [conv.methodOutlines_of_body hpart]
    apply List.map_congr_left
    intro i _
    rw [Function.comp_apply, Site.at?_concat_concat, hbody, Option.bind_some]

theorem mem_methodAddresses {t : Tree} {a m : Address} :
    m ∈ methodAddresses t a ↔ IsMethodAt t a m := by
  rw [methodAddresses, IsMethodAt]
  cases hs : (Site.ofRoot t).at? a with
  | none =>
    have hno (b : Nat) : ¬ IsBodyAt t a b := by
      rintro ⟨⟨x, hx, -⟩, -⟩
      rw [Site.at?_concat, hs] at hx
      cases hx
    simp [hno]
  | some s =>
    simp only [Option.bind_some, isBodyAt_iff hs]
    -- a class has at most one body, and only what stands in it is looked at
    cases hb : bodyNumber? s with
    | none => simp
    | some b =>
      obtain ⟨⟨body, hbody, -⟩, -⟩ := (isBodyAt_iff hs b).2 hb
      simp only [hbody, Option.elim_some, List.mem_map, mem_methodNumbers, recordsMethod,
        Bool.and_eq_true, decide_eq_true_eq]
      constructor
      · rintro ⟨i, ⟨x, hx, hrec⟩, rfl⟩
        refine ⟨b, i, x, rfl, rfl, ?_, hrec⟩
        rw [Site.at?_concat_concat, hbody, Option.bind_some, hx]
      · rintro ⟨b', i, x, hb', rfl, hx, hrec⟩
        obtain rfl : b = b' := Option.some.inj hb'
        rw [Site.at?_concat_concat, hbody, Option.bind_some] at hx
        exact ⟨i, ⟨x, hx, hrec⟩, rfl⟩

theorem pairwise_methodAddresses (t : Tree) (a : Address) :
    (methodAddresses t a).Pairwise (· < ·) := by
  rw [methodAddresses]
  split
  · exact List.Pairwise.nil
  · rename_i b _
    rw [List.pairwise_map]
    cases (Site.ofRoot t).at? (a ++ [b]) with
    | none => exact List.Pairwise.nil
    | some body =>
      have hnumbers : (methodNumbers body).Pairwise (· < ·) := List.pairwise_findIdxs
      refine hnumbers.imp fun h => ?_
      exact List.append_left_lt (List.cons_lt_cons_iff.2
        (Or.inr ⟨rfl, List.cons_lt_cons_iff.2 (Or.inl h)⟩))

theorem IsMethodAt.unique {t : Tree} {a b m : Address} (ha : IsMethodAt t a m)
    (hb : IsMethodAt t b m) : a = b := by
  obtain ⟨i, j, -, -, rfl, -⟩ := ha
  obtain ⟨k, l, -, -, heq, -⟩ := hb
  exact (List.append_inj' heq rfl).1

/-- No class stands between a method and the class it is a method of: a class around the method
is that class or one around it. -/
theorem IsMethodAt.prefix_of_isClassAt {g : Grammar} {t : Tree} {a m c : Address}
    (hm : IsMethodAt t a m) (hc : g.IsClassAt t c) (hcm : c <+: m) : c <+: a := by
  obtain ⟨b, i, x, ⟨⟨body, hbody, hkind⟩, -⟩, rfl, hx, hmethod, -⟩ := hm
  obtain ⟨s, hs, hdecl, -⟩ := hc
  -- below the class there are only its body and the method, and neither declares a class
  rw [show a ++ [b, i] = a ++ [b] ++ [i] by rw [List.append_assoc]; rfl] at hcm hx
  rcases List.prefix_concat_iff.1 hcm with rfl | hcm
  · rw [hx] at hs
    obtain rfl := Option.some.inj hs
    rw [Grammar.Declares, hmethod] at hdecl
    rcases hdecl with h | ⟨-, h⟩ <;> cases h
  · rcases List.prefix_concat_iff.1 hcm with rfl | hcm
    · rw [hbody] at hs
      obtain rfl := Option.some.inj hs
      rw [Grammar.Declares, hkind] at hdecl
      rcases hdecl with h | ⟨-, h⟩ <;> cases h
    · exact hcm

/-! ### The classes of each language -/

namespace Grammar

variable (g : Grammar)

theorem mem_classKinds {k : Kind} :
    k ∈ g.convention.classKinds ↔
      k = .classDecl ∨ (g.language = .typescript ∧ k = .abstractClassDecl) := by
  cases g with
  | page => simp [convention, Convention.blockComments, language]
  | indented => simp [convention, Indented.convention, language]
  | script d => cases h : d.types <;> simp [convention, Convention.blockComments, language, h]

theorem namespaceDecl_notMem_classKinds : .namespaceDecl ∉ g.convention.classKinds := by
  rw [mem_classKinds]
  rintro (h | ⟨-, h⟩) <;> cases h

theorem recordsClass_iff (s : Site) :
    g.convention.recordsClass s = true ↔ g.Declares s ∧ (s.tree.part? .name).isSome := by
  rw [Convention.recordsClass, Bool.and_eq_true, decide_eq_true_eq, mem_classKinds, Declares]

theorem mem_classAddresses_iff {t : Tree} {a : Address} :
    a ∈ g.convention.classAddresses t ↔ g.IsClassAt t a := by
  simp only [Convention.mem_classAddresses, recordsClass_iff, IsClassAt]

/-- Each outlined method is the outline of a method with a name at some address. -/
theorem methodOutline_at? {t : Tree} {o : ClassOutline} {m : MethodOutline}
    (ho : o ∈ g.convention.classOutlines t) (hm : m ∈ o.methods) :
    ∃ a s, (Site.ofRoot t).at? a = some s ∧ s.tree.kind = .method ∧
      (s.tree.part? .name).isSome ∧ g.convention.methodOutline? s = some m := by
  have hall := g.convention.classOutlines_eq g.namespaceDecl_notMem_classKinds t
  obtain ⟨i, hi, rfl⟩ := List.mem_iff_getElem.1 ho
  obtain ⟨s, e, hs, hout⟩ := hall.get (hall.length_eq ▸ hi) hi
  rw [List.get_eq_getElem, Convention.classOutline?, Option.map_eq_some_iff] at hout
  obtain ⟨name, -, hout⟩ := hout
  rw [← hout] at hm
  have hmem : some m ∈ (g.convention.methodOutlines s).map some := List.mem_map_of_mem hm
  rw [g.convention.methodOutlines_eq hs, List.mem_map] at hmem
  obtain ⟨a, ha, houtline⟩ := hmem
  obtain ⟨b, i, x, -, -, hx, hkind, hname⟩ := mem_methodAddresses.1 ha
  rw [hx, Option.bind_some] at houtline
  exact ⟨a, x, hx, hkind, hname, houtline⟩

/-- The walk through a tree ends after as many steps as there are nodes. The outlines are those of
the named class declarations, each once and in pre-order, wherever they stand. The methods of an
outline are the named methods directly in the body of its class, in order; a method belongs to one
class at most, the innermost one around it. -/
theorem classOutlines_at_addresses (t : Tree) :
    t.sites.length = t.size ∧
    ∃ (classes : List Address) (methods : Address → List Address),
      (classes.Pairwise (· < ·) ∧ ∀ a, a ∈ classes ↔ g.IsClassAt t a) ∧
      (∀ a ∈ classes, (methods a).Pairwise (· < ·) ∧ ∀ m, m ∈ methods a ↔ IsMethodAt t a m) ∧
      List.Forall₂
        (fun a o => ∃ s e, (Site.ofRoot t).at? a = some s ∧
          g.convention.classOutline? e s = some o ∧
          o.methods.map some =
            (methods a).map fun m => ((Site.ofRoot t).at? m).bind g.convention.methodOutline?)
        classes (g.convention.classOutlines t) ∧
      (classes.flatMap methods).Nodup ∧
      ∀ a ∈ classes, ∀ m ∈ methods a, ∀ c ∈ classes, c <+: m → c <+: a := by
  refine ⟨t.length_sites, g.convention.classAddresses t, methodAddresses t,
    ⟨g.convention.pairwise_classAddresses t, fun a => g.mem_classAddresses_iff⟩,
    fun a _ => ⟨pairwise_methodAddresses t a, fun m => mem_methodAddresses⟩, ?_, ?_, ?_⟩
  · refine (g.convention.classOutlines_eq g.namespaceDecl_notMem_classKinds t).imp fun a o => ?_
    rintro ⟨s, e, hs, ho⟩
    have hmethods : o.methods = g.convention.methodOutlines s := by
      rw [Convention.classOutline?, Option.map_eq_some_iff] at ho
      obtain ⟨name, -, rfl⟩ := ho
      rfl
    exact ⟨s, e, hs, ho, by rw [hmethods]; exact g.convention.methodOutlines_eq hs⟩
  · -- a method belongs to one class only, since its address tells that of the class
    rw [List.nodup_flatMap]
    refine ⟨fun a _ => (pairwise_methodAddresses t a).imp fun h => ?_,
      (g.convention.pairwise_classAddresses t).imp fun {a b} hab => ?_⟩
    · exact fun heq => List.lt_irrefl _ (heq ▸ h)
    · intro m ha hb
      have heq := (mem_methodAddresses.1 ha).unique (mem_methodAddresses.1 hb)
      exact List.lt_irrefl _ (heq ▸ hab)
  · intro a _ m hm c hc
    exact (mem_methodAddresses.1 hm).prefix_of_isClassAt (g.mem_classAddresses_iff.1 hc)

end Grammar

theorem extractSource_of_outlines {g : Grammar} {cs : List Char} {os : List ClassOutline}
    (h : (g.parse cs).toOption.map g.convention.classOutlines = some os) (path : String) :
    extractSource g path cs = .ok (os.map (ClassRecord.ofOutline path g.language cs)) := by
  obtain ⟨t, ht, rfl⟩ := ok_of_toOption_map h
  rw [extractSource, ht]
  rfl

end Docent
