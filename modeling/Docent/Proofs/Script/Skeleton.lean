import Docent.Proofs.Parts
import Docent.Proofs.Script.Built
import Docent.Proofs.Script.Running
import Mathlib.Data.List.Infix

/-!
# Reading the skeletons of scripts

A script that shows a class with an empty body, perhaps with documentation before it, is read as a
tree that is known.
-/

namespace Docent.Script

open Scan Scan.Reader Scan.Setting

variable {d : Dialect} {n : Nat}

/-! ### Gaps -/

/-- Documentation and a line feed, if there is any. -/
def docGap (doc : List Char) : Forest :=
  if doc = [] then [] else [.leaf .comment doc, .leaf .blank ['\n']]

/-- Documentation on lines of its own, if there is any. -/
def docText (doc : List Char) : List Char := if doc = [] then [] else doc ++ ['\n']

theorem isLoose_docGap (doc : List Char) : ∀ t ∈ docGap doc, t.isLoose = true := by
  unfold docGap
  split
  · nofun
  · simp [Tree.isLoose, Kind.isOutside]

theorem gaps_docText {doc rest : List Char} (hdoc : doc = [] ∨ IsBlock doc)
    (hrest : gapLeaf? rest = none) : gaps (docText doc ++ rest) = (docGap doc, rest) := by
  rcases hdoc with rfl | hdoc
  · exact gaps_of_none hrest
  · have hne : doc ≠ [] := by
      obtain ⟨r, rfl, -⟩ := hdoc
      nofun
    rw [docText, docGap, if_neg hne, if_neg hne, List.append_assoc,
      gaps_of_some (gapLeaf?_block hdoc _), List.singleton_append, gaps_blank rfl hrest]

/-! ### Classes -/

theorem misses_run {raw : List Char} {fuel : Nat} {rule : Rule}
    (h : (setting n).Misses (step d (run d fuel) rule) raw)
    (hrule : rule ≠ .statement ∧ rule ≠ .classBody) :
    (setting n).Misses (run d (fuel + 1) rule) raw :=
  misses_remembered h (.inr fun hsure => hsure.elim hrule.1 hrule.2)

def emptyBody : List Char := [' ', '\x7b', '\n', ' ', ' '] ++ ("// ...".toList ++ ['\n', '\x7d'])

/-- The body of a class in a skeleton, as it is read. -/
def bodyNode : Tree :=
  .node .body [.leaf .token ['\x7b'], .leaf .blank ['\n', ' ', ' '], .leaf .comment "// ...".toList,
    .leaf .blank ['\n'], .leaf .token ['\x7d']]

/-- The class in a skeleton, as it is read. -/
def classNode (name : List Char) : Tree :=
  .node .classDecl [.leaf .token "class".toList, .leaf .blank [' '], .leaf .name name,
    .leaf .blank [' '], bodyNode]

/-- What stands between the braces of an empty body, and the closing brace. -/
def bodyRest : List Char := ['\n', ' ', ' '] ++ ("// ...".toList ++ ['\n', '\x7d'])

theorem gaps_emptyBody : gaps emptyBody = ([.leaf .blank [' ']], "\x7b".toList ++ bodyRest) := rfl

theorem gaps_bodyRest : gaps bodyRest = ([.leaf .blank ['\n', ' ', ' '],
    .leaf .comment "// ...".toList, .leaf .blank ['\n']], "\x7d".toList ++ []) := rfl

theorem noMember (fuel : Nat) : NoMember n (run d fuel) bodyRest where
  word s hs := by
    refine misses_word gaps_bodyRest ?_
    revert s
    decide
  mark s hs := by
    refine misses_mark gaps_bodyRest ?_
    revert s
    decide
  getter := misses_tokenOf gaps_bodyRest rfl
  name := by
    cases fuel with
    | zero => exact misses_fail
    | succ fuel =>
      refine misses_run (misses_orElse (misses_tokenOf gaps_bodyRest rfl) ?_) ⟨by rintro ⟨⟩, by rintro ⟨⟩⟩
      refine misses_orElse (misses_tokenOf gaps_bodyRest rfl) ?_
      refine misses_orElse (misses_tokenOf gaps_bodyRest rfl) ?_
      refine misses_orElse (misses_tokenOf gaps_bodyRest rfl) (misses_node ?_)
      exact misses_append (misses_append (misses_mark gaps_bodyRest rfl))

theorem goes_classBody (fuel : Nat) : (setting n).Goes (run d (fuel + 1) .classBody) emptyBody
    [.leaf .blank [' '], bodyNode] [] := by
  have hmember := (noMember (d := d) (n := n) fuel).misses_classMember (d := d)
  have hbody := (((goes_mark (n := n) "\x7b" gaps_emptyBody).append (goes_many hmember)).append
    (goes_mark "\x7d" gaps_bodyRest)).node (k := .body)
  exact goes_remembered hbody (.inr rfl) (by decide)

theorem goes_classRest (fuel : Nat) : (setting n).Goes (classRest d (run d (fuel + 1))) emptyBody
    [.leaf .blank [' '], bodyNode] [] := by
  have hparameters : (setting n).Misses (run d (fuel + 1) .typeParameters) emptyBody := by
    refine misses_run (misses_node (misses_append (misses_append ?_))) ⟨by rintro ⟨⟩, by rintro ⟨⟩⟩
    exact misses_mark gaps_emptyBody rfl
  have hextends := misses_word (n := n) (s := "extends") gaps_emptyBody rfl
  have himplements := misses_word (n := n) (s := "implements") gaps_emptyBody rfl
  have hbody := goes_classBody (d := d) (n := n) fuel
  unfold classRest
  dsimp only
  split
  · exact (((goes_opt hparameters).append (goes_opt (misses_node (misses_append
      (misses_append hextends))))).append (goes_opt (misses_node (misses_append himplements)))).append
      hbody
  · exact (goes_opt (misses_node (misses_append (misses_append hextends)))).append hbody

theorem takes_of_wordWhere {p : List Char → Bool} {cs : List Char} (h : (wordWhere p).Takes cs) :
    wordShape.Takes cs ∧ p cs = true := by
  obtain ⟨rest, h⟩ := h
  rw [wordWhere] at h
  split at h
  · cases h
  · rename_i k hk
    split at h
    · rename_i hp
      obtain rfl := Option.some.inj h
      rw [List.take_left] at hp
      exact ⟨⟨rest, hk⟩, hp⟩
    · cases h

theorem takes_wordWhere {p : List Char → Bool} {cs : List Char} (h : wordShape.Takes cs)
    (hp : p cs = true) : (wordWhere p).Takes cs := by
  obtain ⟨rest, h⟩ := h
  refine ⟨rest, ?_⟩
  rw [wordWhere, h]
  dsimp only
  rw [List.take_left, if_pos hp]

theorem wordWhere_before {p : List Char → Bool} {cs rest : List Char} (h : (wordWhere p).Takes cs)
    (hrest : wordPart rest = none) : wordWhere p (cs ++ rest) = some cs.length := by
  obtain ⟨hword, hp⟩ := takes_of_wordWhere h
  rw [wordWhere, wordShape_before hword hrest]
  dsimp only
  rw [List.take_left, if_pos hp]

theorem goes_className {shape : Shape} {name : List Char}
    (hshape : className? d .classDecl = some shape) (hname : shape.Takes name) :
    (setting n).Goes (className d) (' ' :: (name ++ emptyBody))
      [.leaf .blank [' '], .leaf .name name] emptyBody := by
  obtain rfl := Option.some.inj hshape
  obtain ⟨hword, -⟩ := takes_of_wordWhere hname
  have hgap : gaps (' ' :: (name ++ emptyBody)) = ([.leaf .blank [' ']], name ++ emptyBody) :=
    gaps_blank rfl (gapLeaf?_word hword emptyBody)
  have hbefore := wordWhere_before hname (show wordPart emptyBody = none from rfl)
  unfold className Dialect.name
  cases htypes : d.types with
  | true =>
    rw [htypes] at hbefore
    exact goes_token hgap hbefore
  | false =>
    rw [htypes] at hbefore
    exact goes_token hgap hbefore

theorem goes_leftOut (e : StatementEnd) : (setting n).Goes (leftOut d e) [] [] [] := by
  refine fun m hm => ⟨m, ?_, hm⟩
  have hend : inserted? d e [] = some 0 := by
    cases htypes : d.types with
    | true => simp [inserted?, insertedOver, Dialect.endsStatement, htypes, endsTyped]
    | false => simp [inserted?, insertedOver, Dialect.endsStatement, htypes, endsPlainly]
  rw [leftOut, show (left (setting n) []).raw = [] from rfl, hend]
  rfl

/-- The class in a skeleton is not begun by a word that is looked for before its keyword. -/
theorem exactly_leading {s : String} (hs : s ∈ leading) (rest : List Char) :
    Shape.exactly s ("class".toList ++ ' ' :: rest) = none := by
  refine if_neg fun hfront => ?_
  have htake := List.IsPrefix.take (List.isPrefixOf_iff_prefix.1 hfront) 6
  have hno : ∀ s ∈ leading, (s.toList.take 6).isPrefixOf "class ".toList = false := by decide
  rw [show ("class".toList ++ ' ' :: rest).take 6 = "class ".toList from rfl,
    ← List.isPrefixOf_iff_prefix, hno s hs] at htake
  cases htake

theorem goes_classDeclaration {raw : List Char} {gap : Forest} {shape : Shape} {name : List Char}
    (hshape : className? d .classDecl = some shape) (hname : shape.Takes name)
    (hgap : gaps raw = (gap, "class".toList ++ ' ' :: (name ++ emptyBody)))
    (hloose : ∀ t ∈ gap, t.isLoose = true) (fuel : Nat) :
    (setting n).Goes (classDeclaration d (run d (fuel + 1))) raw (gap ++ [classNode name]) [] := by
  have hat : (setting n).Misses (sym "@") raw := misses_mark hgap rfl
  have hdecorator : (setting n).Misses (decorator d (run d (fuel + 1))) raw := misses_decorator hat
  have hkeyword : (setting n).Goes (word "class") raw (gap ++ [.leaf .token "class".toList])
      (' ' :: (name ++ emptyBody)) :=
    goes_token hgap rfl
  have hparts := (((goes_many hdecorator).append hkeyword).append
    (goes_className hshape hname)).append (goes_classRest (d := d) fuel)
  have hall : (setting n).Goes (classDeclaration d (run d (fuel + 1))) raw _ [] :=
    (hparts.append (goes_leftOut ⟨false, false⟩).orElse).node
  rw [List.append_nil, List.nil_append, List.append_assoc, List.append_assoc, List.singleton_append,
    Tree.close_append hloose rfl] at hall
  exact hall

theorem goes_class {raw : List Char} {gap : Forest} {shape : Shape} {name : List Char}
    (hshape : className? d .classDecl = some shape) (hname : shape.Takes name)
    (hgap : gaps raw = (gap, "class".toList ++ ' ' :: (name ++ emptyBody)))
    (hloose : ∀ t ∈ gap, t.isLoose = true) (fuel : Nat) :
    (setting n).Goes (run d (fuel + 2) .statement) raw (gap ++ [classNode name]) [] := by
  have hword : ∀ s ∈ leading, (setting n).Misses (word s) raw := by
    intro s hs
    refine misses_word hgap ?_
    rw [Shape.append_apply, exactly_leading hs]
    rfl
  have hat : (setting n).Misses (sym "@") raw := misses_mark hgap rfl
  have hbrace : (setting n).Misses (sym "\x7b") raw := misses_mark hgap rfl
  have hclass := goes_classDeclaration (n := n) hshape hname hgap hloose fuel
  have hdeclaration : (setting n).Goes (declaration d (run d (fuel + 1))) raw (gap ++ [classNode name]) [] :=
    ((misses_ite (misses_typedDeclaration hword hat) misses_fail).orElse
      ((misses_functionDeclaration hword).orElse hclass.orElse)).orElse
  have hstatement : (setting n).Goes (statementRule d (run d (fuel + 1))) raw (gap ++ [classNode name]) [] :=
    (misses_append (misses_ahead hbrace)).orElse ((misses_exportStatement hword hat).orElse
      ((misses_importStatement hword).orElse ((misses_keywordStatement hword).orElse
        hdeclaration.orElse)))
  have hraw : raw ≠ [] := by
    rw [← text_of_gaps hgap]
    simp
  exact goes_remembered hstatement (.inl rfl) (List.length_pos_of_ne_nil hraw)

/-! ### Whole scripts -/

/-- The class in a skeleton, with its documentation before it. -/
def classText (doc name : List Char) : List Char :=
  docText doc ++ ("class".toList ++ ' ' :: (name ++ emptyBody))

/-- A script that shows a class alone is read as the class after its documentation. -/
theorem parse_classText {shape : Shape} {doc name : List Char} (hdoc : doc = [] ∨ IsBlock doc)
    (hshape : className? d .classDecl = some shape) (hname : shape.Takes name)
    (hnull : Char.ofNat 0 ∉ classText doc name) :
    parse d (classText doc name) = .ok (.node .item (docGap doc ++ [classNode name])) := by
  have hgap : gaps (classText doc name) =
      (docGap doc, "class".toList ++ ' ' :: (name ++ emptyBody)) :=
    gaps_docText hdoc (gapLeaf?_of_ne rfl (by decide) _)
  generalize classText doc name = cs at hgap hnull
  obtain ⟨fuel, hfuel⟩ : ∃ fuel, depthBound cs.length = fuel + 2 :=
    ⟨12 * cs.length + 58, by rw [depthBound]; omega⟩
  have hclass := goes_class (n := cs.length) hshape hname hgap (isLoose_docGap doc) fuel
  have hcs : cs ≠ [] := by
    rw [← text_of_gaps hgap]
    simp
  have hlength : ([] : List Char).length < cs.length := List.length_pos_of_ne_nil hcs
  have hturn := Repeats.turn hclass hlength (.stop (end_run _ .statement))
  have hmark : (setting cs.length).Misses
      (tokenOf (.exactly "#!" ++ .many (.one (· != '\n'))) .item) cs := misses_tokenOf hgap rfl
  have hall : (setting cs.length).Goes (wholeScript (run d (fuel + 2))) cs _ [] :=
    ((goes_opt hmark).append hturn.goes_many).append (goes_finish (show gaps [] = ([], []) from rfl))
  rw [List.append_nil, List.append_nil, List.nil_append] at hall
  rw [parse, hfuel]
  exact hall.whole rfl hnull

end Docent.Script
