import Docent.Proofs.Documented

/-!
# Statements that declare classes

In a script a class can be declared in an export, after the word `declare`, or both. Main statement:
only decorators and certain words stand before a class in the statement that declares it; the class
is documented by the comments before the statement, unless the word `declare` stands before it, and
then by the comments after that word.
-/

namespace Docent

open Docent.Tree (Address Site wordLeaf)

/-! ### Where a statement begins -/

/-- Whether something that is defined elsewhere is declared at an address. -/
def isAmbientAt (t : Tree) (a : Address) : Bool :=
  ((Site.ofRoot t).at? a).any (·.tree.isAmbient)

/-- The address of the export around a node, if the node is directly in one, or else its own. -/
def exportedAt (t : Tree) (a : Address) : Address :=
  if isExportAt t a.dropLast then a.dropLast else a

/-- The address of the statement that declares the class at an address. -/
def statementAt (t : Tree) (a : Address) : Address :=
  exportedAt t (if isAmbientAt t a.dropLast then a.dropLast else a)

/-- What stands before the second of two nodes in the first one, apart from gaps. -/
def leadIn (t : Tree) (b a : Address) : Forest :=
  (a.inits.drop (b.length + 1)).flatMap fun e => solidParts (siblingsBefore t e)

/-- The texts of the comments directly before a node. -/
def commentsAt (t : Tree) (a : Address) : List (List Char) :=
  (commentRun ((siblingsBefore t a).filter (·.kind.isNamed))).map Tree.text

/-- The words that can stand before a class in the statement that declares it. -/
def leadWords : List (List String) :=
  [[], ["export"], ["export", "default"], ["declare"], ["export", "declare"],
    ["export", "default", "declare"]]

/-- A statement that declares a class: it is not itself in an export or after the word `declare`,
and nothing but decorators and certain words stands in it before the class. -/
structure States (t : Tree) (b a : Address) (ws : List String) : Prop where
  around : b <+: a
  outermost : isExportAt t b.dropLast = false ∧ isAmbientAt t b.dropLast = false
  lead : ws ∈ leadWords ∧ ∃ ds, leadIn t b a = ds ++ ws.map wordLeaf ∧ ∀ u ∈ ds, u.kind = .decorator

theorem leadIn_self (t : Tree) (a : Address) : leadIn t a a = [] := by
  rw [leadIn, List.drop_eq_nil_of_le (by rw [List.length_inits]), List.flatMap_nil]

theorem leadIn_concat {t : Tree} {b a : Address} (h : b <+: a) (i : Nat) :
    leadIn t b (a ++ [i]) = leadIn t b a ++ solidParts (siblingsBefore t (a ++ [i])) := by
  have hle : b.length + 1 ≤ a.inits.length := by
    rw [List.length_inits]
    exact Nat.succ_le_succ h.length_le
  have hinits : (a ++ [i]).inits = a.inits ++ [a ++ [i]] := by simp [List.inits_append]
  rw [leadIn, hinits, List.drop_append_of_le_length hle, List.flatMap_append, List.flatMap_singleton]
  rfl

/-! ### Nodes around declarations -/

/-- A tree whose nodes are built as in scripts, and whose root stands around no declaration. -/
structure Script.IsScript (d : Script.Dialect) (t : Tree) : Prop where
  built : ∀ u ∈ t.preorder, Script.IsBuilt d u
  root : t.kind = .item ∧ t.isAmbient = false

theorem Script.isScript_of_parse {d : Script.Dialect} {cs : List Char} {t : Tree}
    (h : Script.parse d cs = .ok t) : Script.IsScript d t := by
  refine ⟨isBuilt_of_parse h, ?_⟩
  obtain ⟨f, rfl, -, htokenless⟩ := forest_of_parse h
  exact ⟨rfl, isAmbient_of_tokenless htokenless⟩

namespace Script.IsScript

variable {d : Script.Dialect} {t : Tree} {a b : Address} {i : Nat} {s : Site}

theorem kids_around (hs : (Site.ofRoot t).at? (b ++ [i]) = some s) :
    ∃ p, (Site.ofRoot t).at? b = some p ∧
      ∃ vs, p.tree.kids = siblingsBefore t (b ++ [i]) ++ s.tree :: vs := by
  rw [Site.at?_concat] at hs
  obtain ⟨p, hp, hpart⟩ := Option.bind_eq_some_iff.1 hs
  have hkid : p.tree.kids[i]? = some s.tree := by
    rw [← Site.map_tree_parts, List.getElem?_map, hpart, Option.map_some]
  obtain ⟨hi, hget⟩ := List.getElem?_eq_some_iff.1 hkid
  refine ⟨p, hp, p.tree.kids.drop (i + 1), ?_⟩
  rw [siblingsBefore, List.getLast?_concat, List.dropLast_concat, hp, ← hget,
    ← List.drop_eq_getElem_cons hi]
  exact (List.take_append_drop i _).symm

theorem leads_at (ht : IsScript d t) (hs : (Site.ofRoot t).at? (b ++ [i]) = some s)
    (hdeclares : s.tree.declares = true) :
    (isExportAt t b = true → Exports (solidParts (siblingsBefore t (b ++ [i]))) s.tree) ∧
      (isAmbientAt t b = true → Announces (solidParts (siblingsBefore t (b ++ [i]))) s.tree) := by
  obtain ⟨p, hp, vs, hkids⟩ := kids_around hs
  have hbuilt := ht.built _ (Site.tree_mem_preorder hp)
  rw [isExportAt, isAmbientAt, hp, Option.any_some, Option.any_some, decide_eq_true_iff]
  exact ⟨fun hkind => hbuilt.exports hkind _ _ vs hkids hdeclares,
    fun hambient => hbuilt.announces hambient _ _ vs hkids hdeclares⟩

theorem ne_nil (ht : IsScript d t) (h : isExportAt t a = true ∨ isAmbientAt t a = true) :
    a ≠ [] := by
  rintro rfl
  have hat : (Site.ofRoot t).at? [] = some (Site.ofRoot t) := rfl
  rw [isExportAt, isAmbientAt, hat, Option.any_some, Option.any_some, decide_eq_true_iff] at h
  rcases h with hkind | hambient
  · exact absurd (hkind.symm.trans ht.root.1) (by rintro ⟨⟩)
  · rw [show (Site.ofRoot t).tree.isAmbient = false from ht.root.2] at hambient
    cases hambient

theorem outermost_of_isExportAt (ht : IsScript d t) (h : isExportAt t b = true) :
    isExportAt t b.dropLast = false ∧ isAmbientAt t b.dropLast = false := by
  obtain ⟨c, j, rfl⟩ := (List.eq_nil_or_concat b).resolve_left (ht.ne_nil (.inl h))
  rw [List.concat_eq_append] at h ⊢
  obtain ⟨s, hs, hkind⟩ := (Option.any_eq_true _ _).1 h
  have hkind : s.tree.kind = .exportDecl := of_decide_eq_true hkind
  have hdeclares : s.tree.declares = true := by rw [Tree.declares, hkind]; rfl
  obtain ⟨hexport, hambient⟩ := ht.leads_at hs hdeclares
  rw [List.dropLast_concat]
  refine ⟨Bool.eq_false_iff.2 fun hc => (hexport hc).1 hkind, Bool.eq_false_iff.2 fun hc => ?_⟩
  have hclass := (hambient hc).1
  rw [hkind] at hclass
  cases hclass

theorem isAmbientAt_dropLast (ht : IsScript d t) (h : isAmbientAt t b = true) :
    isAmbientAt t b.dropLast = false := by
  obtain ⟨c, j, rfl⟩ := (List.eq_nil_or_concat b).resolve_left (ht.ne_nil (.inr h))
  rw [List.concat_eq_append] at h ⊢
  obtain ⟨s, hs, hambient⟩ := (Option.any_eq_true _ _).1 h
  have hdeclares : s.tree.declares = true := by rw [Tree.declares, hambient, Bool.or_true]
  rw [List.dropLast_concat]
  refine Bool.eq_false_iff.2 fun hc => ?_
  have hclass := ((ht.leads_at hs hdeclares).2 hc).1
  rw [Tree.kind_of_isAmbient hambient] at hclass
  cases hclass

/-- What stands before a node in the export that is directly around it, if one is, is decorators
and the words of the export. -/
theorem states_exportedAt (ht : IsScript d t) (hs : (Site.ofRoot t).at? a = some s)
    (hdeclares : s.tree.declares = true) (hinner : isAmbientAt t a.dropLast = false) :
    ∃ ws ∈ [[], ["export"], ["export", "default"]], States t (exportedAt t a) a ws := by
  by_cases hexport : isExportAt t a.dropLast = true
  · rcases List.eq_nil_or_concat a with rfl | ⟨b, i, rfl⟩
    · exact absurd rfl (ht.ne_nil (.inl hexport))
    rw [exportedAt, if_pos hexport]
    rw [List.concat_eq_append] at hs hexport ⊢
    rw [List.dropLast_concat] at hexport ⊢
    obtain ⟨-, ds, ws, hwords, hds, hws⟩ := (ht.leads_at hs hdeclares).1 hexport
    have houter := ht.outermost_of_isExportAt hexport
    have hlead : leadIn t b (b ++ [i]) = ds ++ ws := by
      rw [leadIn_concat List.prefix_rfl, leadIn_self, List.nil_append, hwords]
    have haround : b <+: b ++ [i] := List.prefix_append b [i]
    rcases hws with rfl | rfl
    · exact ⟨["export"], by simp, haround, houter, by simp [leadWords], ds, hlead, hds⟩
    · exact ⟨["export", "default"], by simp, haround, houter, by simp [leadWords], ds, hlead, hds⟩
  · rw [exportedAt, if_neg hexport]
    have houter := Bool.eq_false_iff.2 hexport
    exact ⟨[], by simp, List.prefix_rfl, ⟨houter, hinner⟩, by simp [leadWords], [],
      leadIn_self t a, nofun⟩

/-- A class declaration is in the statement that declares it, after the word `declare` if it is
defined elsewhere. -/
theorem states (ht : IsScript d t) (hs : (Site.ofRoot t).at? a = some s)
    (hclass : s.tree.kind.isClass = true) : ∃ ws, States t (statementAt t a) a ws ∧
      ("declare" ∈ ws ↔ isAmbientAt t a.dropLast = true) := by
  have hdeclares : s.tree.declares = true := by
    rw [Tree.declares, Bool.or_eq_true]
    left
    revert hclass
    cases s.tree.kind <;> simp [Kind.isClass, Kind.declares]
  by_cases hambient : isAmbientAt t a.dropLast = true
  · rcases List.eq_nil_or_concat a with rfl | ⟨b, i, rfl⟩
    · exact absurd rfl (ht.ne_nil (.inr hambient))
    rw [statementAt, if_pos hambient]
    rw [List.concat_eq_append] at hs hambient ⊢
    rw [List.dropLast_concat] at hambient ⊢
    -- the class stands in what is declared elsewhere, which may stand in an export
    obtain ⟨p, hp, hpambient⟩ := (Option.any_eq_true _ _).1 hambient
    have hpdeclares : p.tree.declares = true := by rw [Tree.declares, hpambient, Bool.or_true]
    obtain ⟨ws, hws, hstates⟩ := ht.states_exportedAt hp hpdeclares (ht.isAmbientAt_dropLast hambient)
    obtain ⟨haround, houter, -, ds, hlead, hds⟩ := hstates
    have hdeclare := ((ht.leads_at hs hdeclares).2 hambient).2
    refine ⟨ws ++ ["declare"], ⟨haround.trans (List.prefix_append b [i]), houter, ?_, ds, ?_, hds⟩,
      by simp [hambient]⟩
    · simp only [List.mem_cons, List.not_mem_nil, or_false] at hws
      rcases hws with rfl | rfl | rfl <;> simp [leadWords]
    · rw [leadIn_concat haround, hlead, hdeclare, List.map_append, List.append_assoc]
      rfl
  · rw [statementAt, if_neg hambient]
    obtain ⟨ws, hws, hstates⟩ := ht.states_exportedAt hs hdeclares (Bool.eq_false_iff.2 hambient)
    refine ⟨ws, hstates, iff_of_false (fun hmem => ?_) hambient⟩
    simp only [List.mem_cons, List.not_mem_nil, or_false] at hws
    rcases hws with rfl | rfl | rfl <;> simp at hmem

end Script.IsScript

/-! ### What documents a class -/

theorem States.mem_of_mem {t : Tree} {b a : Address} {ws : List String} (h : States t b a ws)
    {w : String} (hw : w ∈ ws) : w.toList ∈ (leadIn t b a).map Tree.text := by
  obtain ⟨-, ds, hlead, -⟩ := h.lead
  rw [hlead]
  exact List.mem_map.2 ⟨wordLeaf w, List.mem_append_right ds (List.mem_map_of_mem hw), rfl⟩

theorem commentsBefore_eq_commentsAt (g : Grammar) (t : Tree) (a : Address) :
    g.commentsBefore t a = commentsAt t (g.anchor t a) := rfl

/-- Only decorators and certain words stand before a recorded class in the statement that declares
it. The last block of the run of comments before the statement documents the class, unless one of
those words is `declare`: then the last block of the comments after that word does. -/
theorem class_documented_before_statement {d : Script.Dialect} {path : String} {cs : List Char}
    {classes : List ClassRecord} (h : extractSource (.script d) path cs = .ok classes) :
    ∃ t, (Grammar.script d).parse cs = .ok t ∧ List.Forall₂ (fun a c =>
        ∃ ws, States t (statementAt t a) a ws ∧
          ("declare" ∉ ws →
            c.doc = .text (String.ofList (lastDocBlock (commentsAt t (statementAt t a))))) ∧
          ("declare" ∈ ws → c.doc = .text (String.ofList (lastDocBlock (commentsAt t a)))))
      ((Grammar.script d).convention.classAddresses t) classes := by
  obtain ⟨t, hparse, hall⟩ := tells_of_extractSource h
  have ht := Script.isScript_of_parse (ok_of_mapError hparse)
  have hg : (Grammar.script d).language ≠ .python := by
    rw [Grammar.language]
    split <;> rintro ⟨⟩
  refine ⟨t, hparse, hall.imp ?_⟩
  rintro a c ⟨⟨s, hs, hdeclares, htells⟩, -⟩
  have hclass : s.tree.kind.isClass = true := by
    rcases hdeclares with hkind | ⟨-, hkind⟩ <;> rw [hkind] <;> rfl
  obtain ⟨ws, hstates, hdeclare⟩ := ht.states hs hclass
  have hdoc := htells.doc
  rw [Grammar.doc_eq_lastDocBlock hg (Grammar.admits_of_parse hparse) hs,
    commentsBefore_eq_commentsAt] at hdoc
  refine ⟨ws, hstates, fun hno => ?_, fun hyes => ?_⟩
  · rw [hdoc, statementAt, if_neg (mt hdeclare.2 hno)]
    rfl
  · have hambient := hdeclare.1 hyes
    -- what is declared elsewhere is no export, so comments count from the class on
    have hexport : isExportAt t a.dropLast = false := by
      obtain ⟨p, hp, hpambient⟩ := (Option.any_eq_true _ _).1 hambient
      rw [isExportAt, hp, Option.any_some, Tree.kind_of_isAmbient hpambient]
      rfl
    rw [hdoc, Grammar.anchor, if_neg (by rw [hexport]; exact Bool.false_ne_true)]

/-- A script with an exported class and one that is exported and defined elsewhere, each after a
block. -/
def ambientClass : List Char :=
  "/** a */\n@d export default abstract class A \x7b\x7d\n/** b */\nexport declare class B \x7b\x7d\n".toList

/-- The first class has its block; the second one has none, although one stands before its
statement. -/
theorem class_documented_before_statement_ambientClass :
    ∃ t b c, (Grammar.script ⟨true, false⟩).parse ambientClass = .ok t ∧
      extractSource (.script ⟨true, false⟩) "a.ts" ambientClass = .ok [b, c] ∧
      ∃ a₁ a₂, (Grammar.script ⟨true, false⟩).convention.classAddresses t = [a₁, a₂] ∧
        (∃ ws, States t (statementAt t a₁) a₁ ws ∧ "declare" ∉ ws) ∧ b.doc = .text "/** a */" ∧
        lastDocBlock (commentsAt t (statementAt t a₁)) = "/** a */".toList ∧
        (∃ ws, States t (statementAt t a₂) a₂ ws ∧ "declare" ∈ ws) ∧ c.doc = .text "" ∧
        lastDocBlock (commentsAt t (statementAt t a₂)) = "/** b */".toList := by
  have hout : ((Grammar.script ⟨true, false⟩).parse ambientClass).toOption.map
      (Grammar.script ⟨true, false⟩).convention.classOutlines =
      some [⟨"A", "/** a */", [], none, 2, 2⟩, ⟨"B", "", [], none, 4, 4⟩] := by decide +kernel
  have hplaces : ((Grammar.script ⟨true, false⟩).parse ambientClass).toOption.map (fun t =>
      ((Grammar.script ⟨true, false⟩).convention.classAddresses t).map fun a =>
        (lastDocBlock (commentsAt t (statementAt t a)),
          (leadIn t (statementAt t a) a).map Tree.text)) =
      some [("/** a */".toList, ["@d".toList, "export".toList, "default".toList]),
        ("/** b */".toList, ["export".toList, "declare".toList])] := by decide +kernel
  have h := extractSource_of_outlines hout "a.ts"
  obtain ⟨t, ht, hall⟩ := class_documented_before_statement h
  rw [ht] at hplaces
  have hfacts : ((Grammar.script ⟨true, false⟩).convention.classAddresses t).map (fun a =>
    (lastDocBlock (commentsAt t (statementAt t a)),
      (leadIn t (statementAt t a) a).map Tree.text)) = _ := Option.some.inj hplaces
  refine ⟨t, _, _, ht, h, ?_⟩
  generalize (Grammar.script ⟨true, false⟩).convention.classAddresses t = addresses at hfacts hall ⊢
  match addresses, hfacts with
  | [a₁, a₂], hfacts =>
    obtain ⟨hfirst, hrest⟩ := List.cons.inj hfacts
    obtain ⟨hblock, hwords⟩ := Prod.mk.inj hfirst
    obtain ⟨hblock', -⟩ := Prod.mk.inj (List.cons.inj hrest).1
    obtain ⟨⟨ws, hstates, -⟩, hall⟩ := List.forall₂_cons.1 hall
    obtain ⟨⟨ws', hstates', hplain, -⟩, -⟩ := List.forall₂_cons.1 hall
    have hno : "declare" ∉ ws := fun hmem => by
      have hin := hstates.mem_of_mem hmem
      rw [hwords] at hin
      exact absurd hin (by decide)
    -- the block before the statement is not what documents the second class
    have hyes : "declare" ∈ ws' := by
      by_contra hnot
      have hdoc := hplain hnot
      rw [hblock'] at hdoc
      have hother : Value.text "" ≠ .text "/** b */" := by simp
      exact hother hdoc
    exact ⟨a₁, a₂, rfl, ⟨ws, hstates, hno⟩, rfl, hblock, ⟨ws', hstates', hyes⟩, rfl, hblock'⟩

end Docent
