import Docent.Proofs.Outline

/-!
# The namespace of a class

The outlines of a tree are made with the namespace that was opened last before each class. What is
in effect at a class is the innermost namespace with braces around it, and without one the last
namespace without braces before it. Main statement: the two are the same unless the namespace that
was opened last has braces that are closed before the class, or has none and stands inside braces.
-/

namespace Docent

open Docent.Tree (Address Site)

/-! ### Namespaces before a place -/

def isSpaceAt (t : Tree) (n : Address) : Bool :=
  ((Site.ofRoot t).at? n).any (·.tree.kind = .namespaceDecl)

/-- Whether the declaration at an address ends with a closing brace. -/
def hasBracesAt (t : Tree) (n : Address) : Bool :=
  ((Site.ofRoot t).at? n).any (·.tree.text.getLast? = some '\x7d')

/-- The namespaces that are declared before an address, in pre-order. -/
def spacesBefore (t : Tree) (a : Address) : List Address :=
  t.addresses.filter fun n => decide (n < a) && isSpaceAt t n

/-- The namespace that was declared last before an address. -/
def openedLast? (t : Tree) (a : Address) : Option Address := (spacesBefore t a).getLast?

/-- The namespace in effect at an address: the innermost one with braces around it, or else the last
one without braces before it. -/
def inEffect? (t : Tree) (a : Address) : Option Address :=
  ((spacesBefore t a).filter fun n => hasBracesAt t n && n.isPrefixOf a).getLast?.or
    ((spacesBefore t a).filter fun n => !hasBracesAt t n).getLast?

/-- The name of the namespace at an address, if there is one and it has a name. -/
def Convention.spaceName (conv : Convention) (t : Tree) (n : Option Address) : Option String :=
  (n.bind (Site.ofRoot t).at?).bind conv.nameOf?

theorem mem_spacesBefore {t : Tree} {a n : Address} :
    n ∈ spacesBefore t a ↔ n ∈ t.addresses ∧ n < a ∧ isSpaceAt t n = true := by
  rw [spacesBefore, List.mem_filter, Bool.and_eq_true, decide_eq_true_eq]

theorem spacesBefore_eq {t : Tree} {a : Address} {before after : List Address}
    (h : t.addresses = before ++ a :: after) : spacesBefore t a = before.filter (isSpaceAt t) := by
  have hsorted := Tree.pairwise_addresses t
  rw [h, List.pairwise_append, List.pairwise_cons] at hsorted
  obtain ⟨-, ⟨hafter, -⟩, hbefore⟩ := hsorted
  have hless (n : Address) (hn : n ∈ before) : decide (n < a) = true :=
    decide_eq_true (hbefore n hn a List.mem_cons_self)
  have hgreater (n : Address) (hn : n ∈ a :: after) : decide (n < a) = false := by
    rcases List.mem_cons.1 hn with rfl | hn
    · exact decide_eq_false (List.lt_irrefl _)
    · exact decide_eq_false (List.lt_asymm (hafter n hn))
  have hfirst : before.filter (fun n => decide (n < a) && isSpaceAt t n) =
      before.filter (isSpaceAt t) :=
    List.filter_congr fun n hn => by rw [hless n hn, Bool.true_and]
  have hrest : (a :: after).filter (fun n => decide (n < a) && isSpaceAt t n) = [] :=
    List.filter_eq_nil_iff.2 fun n hn => by rw [hgreater n hn, Bool.false_and]; exact Bool.noConfusion
  rw [spacesBefore, h, List.filter_append, hfirst, hrest, List.append_nil]

/-! ### What outlines are made with -/

namespace Convention

variable (conv : Convention)

/-- A class is outlined with the namespace that was opened last before it. -/
def OutlinedAt (t : Tree) (a : Address) (o : ClassOutline) : Prop :=
  ∃ s, (Site.ofRoot t).at? a = some s ∧
    conv.classOutline? (conv.spaceName t (openedLast? t a)) s = some o

theorem outlinesFrom_openedLast (h : .namespaceDecl ∉ conv.classKinds) {t : Tree}
    {ss : List Site} {before after : List Address} (haddresses : t.addresses = before ++ after)
    (hss : ss.map some = after.map (Site.ofRoot t).at?) :
    List.Forall₂ (conv.OutlinedAt t)
      (after.filter fun a => ((Site.ofRoot t).at? a).any conv.recordsClass)
      (conv.outlinesFrom (conv.spaceName t (before.filter (isSpaceAt t)).getLast?) ss) := by
  -- on the sites left, with the namespaces among the addresses that were passed
  induction ss generalizing before after with
  | nil =>
    obtain rfl := List.map_eq_nil_iff.1 hss.symm
    exact List.Forall₂.nil
  | cons s ss ih =>
    cases after with
    | nil => cases hss
    | cons a after =>
      obtain ⟨hs, hrest⟩ := List.cons.inj hss
      have hnext : t.addresses = before ++ [a] ++ after := by
        rw [haddresses, List.append_assoc, List.singleton_append]
      have hih := ih hnext hrest
      rw [List.filter_append] at hih
      have hlast : openedLast? t a = (before.filter (isSpaceAt t)).getLast? := by
        rw [openedLast?, spacesBefore_eq haddresses]
      rw [outlinesFrom]
      -- only a namespace changes what later classes are outlined with
      by_cases hspace : s.tree.kind = .namespaceDecl
      · have hyes : isSpaceAt t a = true := by
          rw [isSpaceAt, ← hs]
          exact decide_eq_true hspace
        have hno : conv.recordsClass s = false := by simp [recordsClass, hspace, h]
        rw [if_pos hspace, List.filter_cons_of_neg (by rw [← hs]; simp [hno])]
        rw [List.filter_cons_of_pos hyes, List.filter_nil, List.getLast?_concat] at hih
        rwa [spaceName, Option.bind_some, ← hs, Option.bind_some] at hih
      · have hnot : isSpaceAt t a = false := by
          rw [isSpaceAt, ← hs]
          exact decide_eq_false hspace
        rw [List.filter_cons_of_neg (by simp [hnot]), List.filter_nil, List.append_nil] at hih
        rw [if_neg hspace]
        cases hrecords : conv.recordsClass s with
        | true =>
          obtain ⟨hkind, hname⟩ := Bool.and_eq_true_iff.1 hrecords
          obtain ⟨o, ho⟩ := Option.isSome_iff_exists.1 ((conv.classOutline?_isSome
            (conv.spaceName t (before.filter (isSpaceAt t)).getLast?) s).trans hname)
          rw [if_pos (of_decide_eq_true hkind), ho,
            List.filter_cons_of_pos (by rw [← hs]; exact hrecords)]
          exact .cons ⟨s, hs.symm, by rw [hlast]; exact ho⟩ hih
        | false =>
          rw [List.filter_cons_of_neg (by rw [← hs]; simp [hrecords])]
          split
          · -- a class without a name is in neither list
            rename_i hkind
            have hname : (s.tree.part? .name).isSome = false := by
              rwa [recordsClass, decide_eq_true hkind, Bool.true_and] at hrecords
            have hnone : conv.classOutline?
                (conv.spaceName t (before.filter (isSpaceAt t)).getLast?) s = none := by
              rw [← Option.not_isSome_iff_eq_none, conv.classOutline?_isSome, hname]
              exact Bool.noConfusion
            rw [hnone]
            exact hih
          · exact hih

/-- Each class is outlined with the namespace that was opened last before it. -/
theorem classOutlines_openedLast (h : .namespaceDecl ∉ conv.classKinds) (t : Tree) :
    List.Forall₂ (conv.OutlinedAt t) (conv.classAddresses t) (conv.classOutlines t) :=
  conv.outlinesFrom_openedLast h (List.nil_append t.addresses).symm (Tree.map_some_sites t)

end Convention

/-! ### What is in effect -/

theorem getLast?_filter_ne {α : Type} {p : α → Bool} {xs : List α} {x : α} (h : x ∉ xs) :
    (xs.filter p).getLast? ≠ some x :=
  fun hlast => h (List.mem_filter.1 (List.mem_of_getLast? hlast)).1

/-- The namespace that was opened last is the one in effect if it has braces around the place, or if
it has none and there are no braces of a namespace around the place. -/
theorem inEffect?_eq_openedLast?_iff {t : Tree} {a : Address} :
    inEffect? t a = openedLast? t a ↔ ∀ n, openedLast? t a = some n →
      if hasBracesAt t n then n <+: a
      else ∀ m ∈ spacesBefore t a, hasBracesAt t m = true → ¬ m <+: a := by
  have hsorted : (spacesBefore t a).Pairwise (· < ·) := (Tree.pairwise_addresses t).filter _
  rw [inEffect?, openedLast?]
  rcases List.eq_nil_or_concat (spacesBefore t a) with hnil | ⟨before, n, hspaces⟩
  · simp [hnil]
  · rw [List.concat_eq_append] at hspaces
    -- the last one is at one place only, so that no other can stand for it
    have hnew : n ∉ before := fun hn => by
      rw [hspaces, List.pairwise_append] at hsorted
      exact List.lt_irrefl _ (hsorted.2.2 n hn n (List.mem_singleton_self n))
    rw [hspaces, List.getLast?_concat, List.filter_append, List.filter_append]
    simp only [Option.some.injEq, forall_eq']
    by_cases hbraces : hasBracesAt t n = true
    · rw [if_pos hbraces]
      -- with braces it is in effect where they are around the place
      by_cases hfront : n <+: a
      · have haround : [n].filter (fun n => hasBracesAt t n && n.isPrefixOf a) = [n] := by
          simp [hbraces, hfront]
        rw [haround, List.getLast?_concat, Option.some_or]
        exact ⟨fun _ => hfront, fun _ => rfl⟩
      · have haround : [n].filter (fun n => hasBracesAt t n && n.isPrefixOf a) = [] := by
          simp [hfront]
        have hwithout : [n].filter (fun n => !hasBracesAt t n) = [] := by simp [hbraces]
        rw [haround, hwithout, List.append_nil, List.append_nil]
        refine ⟨fun heq => ?_, fun h => absurd h hfront⟩
        rcases Option.or_eq_some_iff.1 heq with hlast | ⟨-, hlast⟩
        · exact absurd hlast (getLast?_filter_ne hnew)
        · exact absurd hlast (getLast?_filter_ne hnew)
    · -- without braces it is in effect unless the braces of an earlier one are around the place
      rw [if_neg hbraces]
      have haround : [n].filter (fun n => hasBracesAt t n && n.isPrefixOf a) = [] := by
        simp [hbraces]
      have hwithout : [n].filter (fun n => !hasBracesAt t n) = [n] := by simp [hbraces]
      rw [haround, hwithout, List.append_nil, List.getLast?_concat]
      constructor
      · intro heq m hm hm' hfront
        have hmem : m ∈ before.filter fun n => hasBracesAt t n && n.isPrefixOf a := by
          rcases List.mem_append.1 hm with hm | hm
          · exact List.mem_filter.2
              ⟨hm, Bool.and_eq_true_iff.2 ⟨hm', List.isPrefixOf_iff_prefix.2 hfront⟩⟩
          · obtain rfl := List.mem_singleton.1 hm
            exact absurd hm' hbraces
        rcases Option.or_eq_some_iff.1 heq with hlast | ⟨hnone, -⟩
        · exact getLast?_filter_ne hnew hlast
        · rw [List.getLast?_eq_none_iff.1 hnone] at hmem
          cases hmem
      · intro hno
        have hnil : before.filter (fun n => hasBracesAt t n && n.isPrefixOf a) = [] := by
          refine List.filter_eq_nil_iff.2 fun m hm h => ?_
          obtain ⟨hm', hfront⟩ := Bool.and_eq_true_iff.1 h
          exact hno m (List.mem_append_left _ hm) hm' (List.isPrefixOf_iff_prefix.1 hfront)
        rw [hnil]
        rfl

/-! ### The namespaces in records -/

def spaceValue (name : Option String) : Value := (name.map Value.text).getD .null

/-- The record of a class has the name of the namespace that was opened last before the class. That
is the namespace in effect at the class unless its braces are closed before the class, or it has no
braces and stands with the class inside the braces of another one. -/
theorem extractSource_enclosing {path : String} {cs : List Char} {classes : List ClassRecord}
    (h : extractSource .page path cs = .ok classes) :
    ∃ t, Grammar.page.parse cs = .ok t ∧
      List.Forall₂ (fun a c =>
          c.enclosing = spaceValue (Grammar.page.convention.spaceName t (openedLast? t a)) ∧
          (inEffect? t a = openedLast? t a ↔ ∀ n, openedLast? t a = some n →
            if hasBracesAt t n then n <+: a
            else ∀ m ∈ spacesBefore t a, hasBracesAt t m = true → ¬ m <+: a))
        (Grammar.page.convention.classAddresses t) classes := by
  obtain ⟨t, ht, rfl⟩ := ok_of_map h
  have hall := Grammar.page.convention.classOutlines_openedLast
    Grammar.page.namespaceDecl_notMem_classKinds t
  refine ⟨t, ht, List.forall₂_map_right_iff.2 (hall.imp fun a o ⟨s, hs, ho⟩ => ?_)⟩
  obtain ⟨_, -, rfl⟩ := Option.map_eq_some_iff.1 ho
  exact ⟨rfl, inEffect?_eq_openedLast?_iff⟩

/-- A page with a namespace in braces, a class in it and a class after it. -/
def closedSpace : List Char :=
  "<?php\nnamespace A \x7b\nclass X \x7b\x7d\n\x7d\nclass Y \x7b\x7d\n".toList

/-- The class after the closing brace is recorded with the namespace, and it has none in effect. -/
theorem extractSource_enclosing_closedSpace :
    ∃ t c d, Grammar.page.parse closedSpace = .ok t ∧
      extractSource .page "a.php" closedSpace = .ok [c, d] ∧ d.name = .text "Y" ∧
      c.enclosing = .text "A" ∧ d.enclosing = .text "A" ∧
      Grammar.page.convention.classAddresses t = [[2, 4, 2], [4]] ∧
      inEffect? t [2, 4, 2] = some [2] ∧ inEffect? t [4] = none ∧ openedLast? t [4] = some [2] ∧
      hasBracesAt t [2] = true := by
  have hout : (Grammar.page.parse closedSpace).toOption.map Grammar.page.convention.classOutlines =
      some [⟨"X", "", [], some "A", 3, 3⟩, ⟨"Y", "", [], some "A", 5, 5⟩] := by decide +kernel
  have hplaces : (Grammar.page.parse closedSpace).toOption.map (fun t =>
      (Grammar.page.convention.classAddresses t).map fun a => (a, openedLast? t a, inEffect? t a)) =
      some [([2, 4, 2], some [2], some [2]), ([4], some [2], none)] := by decide +kernel
  have hspace : (Grammar.page.parse closedSpace).toOption.map (fun t =>
      (Grammar.page.convention.spaceName t (some [2]), hasBracesAt t [2])) =
      some (some "A", true) := by decide +kernel
  have h := extractSource_of_outlines hout "a.php"
  obtain ⟨t, ht, hall⟩ := extractSource_enclosing h
  rw [ht] at hplaces hspace
  have hpaths : (Grammar.page.convention.classAddresses t).map (fun a =>
      (a, openedLast? t a, inEffect? t a)) = _ := Option.some.inj hplaces
  obtain ⟨hname, hbraces⟩ := Prod.mk.inj (Option.some.inj hspace)
  refine ⟨t, _, _, ht, h, rfl, ?_⟩
  generalize Grammar.page.convention.classAddresses t = addresses at hpaths hall ⊢
  match addresses, hpaths with
  | [a, b], hpaths =>
    simp only [List.map_cons, List.map_nil, List.cons.injEq, Prod.mk.injEq, and_true] at hpaths
    obtain ⟨⟨rfl, hfirst, hinside⟩, rfl, hlast, hafter⟩ := hpaths
    obtain ⟨⟨hc, -⟩, hall⟩ := List.forall₂_cons.1 hall
    obtain ⟨⟨hd, -⟩, -⟩ := List.forall₂_cons.1 hall
    rw [hfirst, hname] at hc
    rw [hlast, hname] at hd
    exact ⟨hc, hd, rfl, hinside, hafter, hlast, hbraces⟩

end Docent
