import Docent.Proofs.Page.Running

/-!
# Reading the skeletons of pages

A page that shows a class with an empty body, perhaps with documentation before it and in a
namespace, is read as a tree that is known.
-/

namespace Docent.Page

open Scan Scan.Reader Scan.Setting

/-! ### Gaps -/

/-- Blanks, documentation and a line feed; the blanks go on if there is no documentation. -/
def docGap (blank doc : List Char) : Forest :=
  if doc = [] then [.leaf .blank (blank ++ ['\n'])]
  else [.leaf .blank blank, .leaf .comment doc, .leaf .blank ['\n']]

theorem isLoose_docGap (blank doc : List Char) : ∀ t ∈ docGap blank doc, t.isLoose = true := by
  unfold docGap
  split
  · simp [Tree.isLoose, Kind.isOutside]
  · simp [Tree.isLoose, Kind.isOutside]

theorem gaps_docGap {c : Char} {x doc rest : List Char} (hc : isSpace c = true)
    (hx : ∀ d ∈ x, isSpace d = true) (hdoc : doc = [] ∨ IsBlock doc)
    (hrest : gapLeaf? rest = none) :
    gaps (c :: x ++ doc ++ '\n' :: rest) = (docGap (c :: x) doc, rest) := by
  rcases hdoc with rfl | hdoc
  · have hall : ∀ d ∈ x ++ ['\n'], isSpace d = true := by
      intro d hd
      rcases List.mem_append.1 hd with hd | hd
      · exact hx d hd
      · exact List.mem_singleton.1 hd ▸ rfl
    have hgap := gaps_blank hc hall hrest
    rw [← List.cons_append, List.append_assoc] at hgap
    rw [List.append_nil]
    exact hgap
  · obtain ⟨r, hr, -⟩ := id hdoc
    have hfeed := gaps_blank (c := '\n') (x := []) rfl nofun hrest
    have hstop : Shape.one isSpace (doc ++ '\n' :: rest) = none := by rw [hr]; rfl
    rw [List.append_assoc, gaps_of_some (gapLeaf?_blank hc hx hstop),
      gaps_of_some (gapLeaf?_block hdoc _), show '\n' :: rest = ['\n'] ++ rest from rfl, hfeed, docGap,
      if_neg (by rw [hr]; nofun)]

theorem gaps_word {cs : List Char} (h : IsWord cs) (rest : List Char) :
    gaps (' ' :: (cs ++ rest)) = ([.leaf .blank [' ']], cs ++ rest) :=
  gaps_blank (x := []) rfl nofun (h.2 rest)

/-! ### Paths -/

variable {n : Nat}

/-- A word goes on before what follows it in a path as little as it did before. -/
theorem wordPart_pathRest {raw : List Char} {f : Forest} (h : PathRest raw f)
    (hraw : wordPart raw = none) (after : List Char) :
    wordPart (Tree.textOfList f ++ ';' :: after) = none := by
  cases h with
  | nil => rfl
  | @cons mark _ _ rest _ _ f hmark _ _ _ =>
    have htext := text_of_gaps hmark
    rw [Tree.textOfList_append, List.append_assoc]
    generalize Tree.textOfList mark = cs at htext ⊢
    cases cs with
    | nil => rfl
    | cons c cs =>
      rw [← htext] at hraw
      exact hraw

theorem repeats_pathRest {raw : List Char} {f : Forest} (h : PathRest raw f) (after : List Char) :
    Repeats (setting n) (sym "\\" ++ named .item) (Tree.textOfList f ++ ';' :: after) f
      (';' :: after) := by
  induction h with
  | nil raw =>
    have hgap : gaps (';' :: after) = ([], ';' :: after) :=
      gaps_of_none (gapLeaf?_of_ne rfl (by decide) (by decide) (by decide) after)
    exact .stop (misses_append (misses_mark hgap rfl))
  | @cons mark word raw rest rest' cs f hmark hword hshape hf ih =>
    have hstop := wordPart_pathRest hf (wordPart_after hshape) after
    have htakes : wordShape.Takes cs := ⟨rest', hshape⟩
    have hgap := gaps_alike hword (alike_word htakes (wordPart_after hshape) hstop)
      ((isWord_of_gaps hword hshape).2 _)
    have hgap' := gaps_alike hmark
      (alike_cons (by decide) (by decide) (by decide) (by decide) rest
        (Tree.textOfList word ++ (cs ++ (Tree.textOfList f ++ ';' :: after))))
      (gapLeaf?_of_ne rfl (by decide) (by decide) (by decide) _)
    have hgoes := (goes_mark (n := n) "\\" hgap').append
      (goes_named (k := .item) hgap (wordShape_before htakes hstop))
    have hturn := Repeats.turn hgoes (by simp; omega) ih
    simpa [Tree.textOfList_append, Tree.textOfList, Tree.text] using hturn

theorem goes_path {f : Forest} (h : IsPath f) (after : List Char) :
    (setting n).Goes path (' ' :: (Tree.textOfList f ++ ';' :: after)) (.leaf .blank [' '] :: f)
      (';' :: after) := by
  obtain ⟨cs, raw, r, rfl, hword, hshape, hr⟩ := h
  have hstop := wordPart_pathRest hr (wordPart_after hshape) after
  have hgap := gaps_word hword (Tree.textOfList r ++ ';' :: after)
  have hgoes := (goes_named (n := n) (k := .item) hgap (wordShape_before hword.1 hstop)).append
    (repeats_pathRest hr after).goes_many
  rw [Tree.textOfList, Tree.text, List.append_assoc]
  exact hgoes

/-! ### Before keywords and marks -/

theorem misses_run {raw : List Char} {fuel : Nat} {rule : Rule}
    (h : (setting n).Misses (step (run fuel) rule) raw)
    (hrule : rule ≠ .statement ∧ rule ≠ .classBody) : (setting n).Misses (run (fuel + 1) rule) raw :=
  misses_remembered h (.inr fun hsure => hsure.elim hrule.1 hrule.2)

section

variable {raw cs : List Char} {gap : Forest} (hgap : gaps raw = (gap, cs))
include hgap

theorem misses_attributes (h : Shape.exactly "#[" cs = none) (fuel : Nat) :
    (setting n).Misses (run fuel .attributes) raw := by
  cases fuel with
  | zero => exact misses_fail
  | succ fuel =>
    have hopen := misses_mark (n := n) hgap h
    exact misses_run (misses_many1 (misses_node (misses_append (misses_append hopen)))) ⟨nofun, nofun⟩

theorem misses_block (h : Shape.exactly "\x7b" cs = none) (fuel : Nat) :
    (setting n).Misses (run fuel .block) raw := by
  cases fuel with
  | zero => exact misses_fail
  | succ fuel =>
    have hopen := misses_mark (n := n) hgap h
    exact misses_run (misses_node (misses_append (misses_append hopen))) ⟨nofun, nofun⟩

end

theorem wordWhere_of_not {p : List Char → Bool} {cs rest : List Char}
    (h : wordShape (cs ++ rest) = some cs.length) (hp : p cs = false) :
    wordWhere p (cs ++ rest) = none := by
  rw [wordWhere, h]
  simp [hp]

theorem wordWhere_of {p : List Char → Bool} {cs rest : List Char}
    (h : wordShape (cs ++ rest) = some cs.length) (hp : p cs = true) :
    wordWhere p (cs ++ rest) = some cs.length := by
  rw [wordWhere, h]
  simp [hp]

/-! ### Classes -/

def emptyBody : List Char := [' ', '\x7b', '\n', ' '] ++ ("// ... ".toList ++ ['\n', '\x7d'])

/-- The class in a skeleton, as it is read. -/
def classNode (name : List Char) : Tree :=
  .node .classDecl [.leaf .token "class".toList, .leaf .blank [' '], .leaf .name name,
    .leaf .blank [' '], .node .body [.leaf .token ['\x7b'], .leaf .blank ['\n', ' '],
      .leaf .comment "// ... ".toList, .leaf .blank ['\n'], .leaf .token ['\x7d']]]

theorem goes_classBody (fuel : Nat) : (setting n).Goes (run (fuel + 1) .classBody) emptyBody
    [.leaf .blank [' '], .node .body [.leaf .token ['\x7b'], .leaf .blank ['\n', ' '],
      .leaf .comment "// ... ".toList, .leaf .blank ['\n'], .leaf .token ['\x7d']]] [] := by
  have hopen : gaps emptyBody = ([.leaf .blank [' ']], "\x7b".toList ++ "\n // ... \n\x7d".toList) :=
    rfl
  have hclose : gaps "\n // ... \n\x7d".toList = ([.leaf .blank ['\n', ' '],
      .leaf .comment "// ... ".toList, .leaf .blank ['\n']], "\x7d".toList ++ []) := rfl
  have hmember := misses_classMember (n := n) (misses_attributes hclose rfl fuel)
    (fun s => misses_word hclose rfl) fun ss => misses_anyWord hclose rfl
  have hbody := (((goes_mark (n := n) "\x7b" hopen).append (goes_many hmember)).append
    (goes_mark "\x7d" hclose)).node (k := .body)
  exact goes_remembered hbody (.inr rfl) (by decide)

theorem goes_classDeclaration {raw name : List Char} {gap : Forest} (hname : IsWord name)
    (hgap : gaps raw = (gap, "class".toList ++ ' ' :: (name ++ emptyBody)))
    (hloose : ∀ t ∈ gap, t.isLoose = true) (fuel : Nat) :
    (setting n).Goes (classDeclaration (run (fuel + 1))) raw (gap ++ [classNode name]) [] := by
  have hclass : wordShape ("class".toList ++ ' ' :: (name ++ emptyBody)) = some 5 :=
    wordShape_before ⟨[], rfl⟩ rfl
  -- nothing that may stand before the keyword does
  have hattributes := misses_attributes (n := n) hgap rfl (fuel + 1)
  have hwords : (setting n).Misses (anyWord classWords) raw :=
    misses_anyWord hgap (wordWhere_of_not hclass (by decide))
  have hhead := ((goes_opt hattributes).append (goes_many hwords)).append
    (goes_word (s := "class") hgap (wordWhere_of hclass (by decide)))
  have hnamed := goes_named (n := n) (k := .name) (gaps_word hname emptyBody)
    (wordShape_before hname.1 rfl)
  have hbody : gaps emptyBody = ([.leaf .blank [' ']], '\x7b' :: "\n // ... \n\x7d".toList) := rfl
  -- nor anything between the name and the body
  have hextends := misses_word (n := n) (s := "extends") hbody rfl
  have himplements := misses_word (n := n) (s := "implements") hbody rfl
  have hancestry : (setting n).Goes ancestry emptyBody [] emptyBody :=
    (goes_opt (misses_node (misses_append hextends))).append
      (goes_opt (misses_node (misses_append himplements)))
  have hall := (((hhead.append hnamed).append hancestry).append
    (goes_classBody fuel)).node (k := .classDecl)
  rw [List.nil_append, List.append_nil, List.nil_append, List.append_assoc, List.append_assoc,
    List.singleton_append, Tree.close_append hloose rfl] at hall
  exact hall

theorem goes_class {raw name : List Char} {gap : Forest} (hname : IsWord name)
    (hgap : gaps raw = (gap, "class".toList ++ ' ' :: (name ++ emptyBody)))
    (hloose : ∀ t ∈ gap, t.isLoose = true) (fuel : Nat) :
    (setting n).Goes (run (fuel + 2) .statement) raw (gap ++ [classNode name]) [] := by
  have hclass : wordShape ("class".toList ++ ' ' :: (name ++ emptyBody)) = some 5 :=
    wordShape_before ⟨[], rfl⟩ rfl
  -- the rules that come before the declaration miss
  have hblock := misses_block (n := n) hgap rfl (fuel + 1)
  have hmark := misses_mark (n := n) (s := ";") hgap rfl
  have hkeyword : (setting n).Misses (keywordStatement (run (fuel + 1))) raw := by
    refine misses_keywordStatement fun s hs => misses_word hgap (wordWhere_of_not hclass ?_)
    revert s
    decide
  have hdeclaration := goes_classDeclaration (n := n) hname hgap hloose fuel
  have hstatement : (setting n).Goes (statementRule (run (fuel + 1))) raw (gap ++ [classNode name]) [] :=
    hblock.orElse ((misses_node hmark).orElse ((misses_node hkeyword).orElse hdeclaration.orElse))
  have hraw : raw ≠ [] := by
    rw [← text_of_gaps hgap]
    simp
  exact goes_remembered hstatement (.inl rfl) (List.length_pos_of_ne_nil hraw)

/-! ### Namespaces -/

/-- A namespace in a skeleton, as it is read. -/
def spaceNode (f : Forest) : Tree :=
  .node .namespaceDecl [.leaf .token "namespace".toList, .leaf .blank [' '], .node .name f,
    .leaf .token [';']]

theorem goes_space {f : Forest} (hf : IsPath f) (after : List Char) (fuel : Nat) :
    (setting n).Goes (run (fuel + 2) .statement)
      ('\n' :: ("namespace".toList ++ ' ' :: (Tree.textOfList f ++ ';' :: after)))
      [.leaf .blank ['\n'], spaceNode f] after := by
  have hword : wordShape ("namespace".toList ++ ' ' :: (Tree.textOfList f ++ ';' :: after)) = some 9 :=
    wordShape_before ⟨[], rfl⟩ rfl
  have hgap : gaps ('\n' :: ("namespace".toList ++ ' ' :: (Tree.textOfList f ++ ';' :: after))) =
      ([.leaf .blank ['\n']], "namespace".toList ++ ' ' :: (Tree.textOfList f ++ ';' :: after)) :=
    gaps_blank (x := []) rfl nofun (gapLeaf?_of_ne rfl (by decide) (by decide) (by decide) _)
  -- the rules that come before the namespace miss
  have hblock := misses_block (n := n) hgap rfl (fuel + 1)
  have hmark := misses_mark (n := n) (s := ";") hgap rfl
  have hwordOf (s : String) (h : oneOf [s] "namespace".toList = false) :=
    misses_word (n := n) (s := s) hgap (wordWhere_of_not hword h)
  have hkeyword : (setting n).Misses (keywordStatement (run (fuel + 1))) _ :=
    misses_keywordStatement fun s hs => hwordOf s (by revert s; decide)
  have hattributes := misses_attributes (n := n) hgap rfl (fuel + 1)
  have hclass := misses_classDeclaration hattributes
    (misses_anyWord hgap (wordWhere_of_not hword (by decide))) (hwordOf "class" (by decide))
  have hother := misses_otherDeclaration hattributes
    (misses_anyWord hgap (wordWhere_of_not hword (by decide))) (hwordOf "enum" (by decide))
  have hfunction := misses_functionDeclaration hattributes (hwordOf "function" (by decide))
  have hend : gaps (';' :: after) = ([], ";".toList ++ after) :=
    gaps_of_none (gapLeaf?_of_ne rfl (by decide) (by decide) (by decide) after)
  -- after the path there is a semicolon, neither a block nor the end of the code
  have hbefore : (setting n).Misses beforePassage (';' :: after) := by
    refine fun m hm => ⟨m, ?_, hm⟩
    rw [beforePassage, left, Place.of, show (setting n).gaps (';' :: after) = _ from hend]
    rfl
  have hclose : Tree.close .name (.leaf .blank [' '] :: f) = [.leaf .blank [' '], .node .name f] := by
    obtain ⟨cs, -, r, rfl, -⟩ := hf
    rfl
  have hname := (goes_path (n := n) hf after).node (k := .name)
  rw [hclose] at hname
  have hsemicolon := (misses_block (n := n) hend rfl (fuel + 1)).orElse
    (hbefore.orElse (goes_mark ";" hend))
  have hall : (setting n).Goes (namespaceDeclaration (run (fuel + 1))) _ _ after :=
    ((goes_word (s := "namespace") hgap (wordWhere_of hword (by decide))).append
      (hname.append hsemicolon).orElse).node
  have hstatement : (setting n).Goes (statementRule (run (fuel + 1))) _ _ after :=
    hblock.orElse ((misses_node hmark).orElse ((misses_node hkeyword).orElse (hclass.orElse
      (hother.orElse (hfunction.orElse hall.orElse)))))
  exact goes_remembered hstatement (.inl rfl) (by simp; omega)

/-! ### Whole pages -/

theorem parse_of_repeats {rest : List Char} {f : Forest}
    (h : ∀ n fuel, Repeats (setting n) (run (fuel + 2) .statement) ('\n' :: rest) f [])
    (hnull : Char.ofNat 0 ∉ rest) :
    parse ("<?php".toList ++ '\n' :: rest) = .ok (.node .item (.leaf .passage "<?php".toList :: f)) := by
  have hopen : passage ("<?php".toList ++ '\n' :: rest) = some "<?php".toList.length := rfl
  generalize hcs : "<?php".toList ++ '\n' :: rest = cs at hopen
  obtain ⟨fuel, hfuel⟩ : ∃ fuel, depthBound cs.length = fuel + 2 :=
    ⟨12 * cs.length + 58, by rw [depthBound]; omega⟩
  have hpassage : (setting cs.length).Goes (rawTokenOf passage .passage)
      ("<?php".toList ++ '\n' :: rest) [.leaf .passage "<?php".toList] ('\n' :: rest) :=
    goes_rawTokenOf (hcs ▸ hopen)
  have hpage := (hpassage.append (h cs.length fuel).goes_many).append
    (goes_finish (show gaps [] = ([], []) from rfl))
  rw [List.append_nil, hcs] at hpage
  have hno : Char.ofNat 0 ∉ cs := by
    rw [← hcs]
    simp [hnull]
  rw [parse, hfuel]
  exact hpage.whole rfl hno

/-- The class in a skeleton, with what stands before it. -/
def classText (doc name : List Char) : List Char :=
  doc ++ '\n' :: ("class".toList ++ ' ' :: (name ++ emptyBody))

theorem gaps_classText {doc : List Char} (hdoc : doc = [] ∨ IsBlock doc) (name : List Char)
    {blank : List Char} (hblank : blank = ['\n'] ∨ blank = ['\n', '\n']) :
    gaps (blank ++ classText doc name) =
      (docGap blank doc, "class".toList ++ ' ' :: (name ++ emptyBody)) := by
  have hstop : gapLeaf? ("class".toList ++ ' ' :: (name ++ emptyBody)) = none :=
    gapLeaf?_of_ne rfl (by decide) (by decide) (by decide) _
  rw [classText, ← List.append_assoc]
  rcases hblank with rfl | rfl
  · exact gaps_docGap (x := []) rfl nofun hdoc hstop
  · exact gaps_docGap (x := ['\n']) rfl (List.forall_mem_singleton.2 rfl) hdoc hstop

/-- A page that shows a class alone is read as the class after its documentation. -/
theorem parse_classPage {doc name : List Char} (hdoc : doc = [] ∨ IsBlock doc) (hname : IsWord name)
    (hnull : Char.ofNat 0 ∉ classText doc name) :
    parse ("<?php".toList ++ '\n' :: classText doc name) = .ok (.node .item
      (.leaf .passage "<?php".toList :: (docGap ['\n'] doc ++ [classNode name]))) := by
  refine parse_of_repeats (fun n fuel => ?_) hnull
  have hclass := goes_class (n := n) hname (gaps_classText hdoc name (.inl rfl)) (isLoose_docGap _ _)
    fuel
  have hturn := Repeats.turn hclass (Nat.zero_lt_succ _) (.stop (end_run _ _))
  rwa [List.append_nil] at hturn

/-- The class in a skeleton, with its namespace before it. -/
def spacedText (f : Forest) (doc name : List Char) : List Char :=
  "namespace".toList ++ ' ' :: (Tree.textOfList f ++ ';' :: (['\n', '\n'] ++ classText doc name))

/-- A page that shows a class in a namespace is read as the namespace and the class after its
documentation. -/
theorem parse_spacedPage {doc name : List Char} {f : Forest} (hf : IsPath f)
    (hdoc : doc = [] ∨ IsBlock doc) (hname : IsWord name)
    (hnull : Char.ofNat 0 ∉ spacedText f doc name) :
    parse ("<?php".toList ++ '\n' :: spacedText f doc name) = .ok (.node .item
      (.leaf .passage "<?php".toList :: .leaf .blank ['\n'] :: spaceNode f ::
        (docGap ['\n', '\n'] doc ++ [classNode name]))) := by
  refine parse_of_repeats (fun n fuel => ?_) hnull
  have hclass := goes_class (n := n) hname (gaps_classText hdoc name (.inr rfl)) (isLoose_docGap _ _)
    fuel
  have hturn := Repeats.turn hclass (Nat.zero_lt_succ _) (.stop (end_run _ _))
  rw [List.append_nil] at hturn
  exact .turn (goes_space hf _ fuel) (by simp; omega) hturn

end Docent.Page
