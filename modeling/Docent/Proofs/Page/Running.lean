import Docent.Proofs.Page.Built
import Docent.Proofs.Scan.Running

/-!
# What rules do before a known page

At the end of a page every rule misses. Where a class begins, the rules that are tried before the
one for classes miss, and in an empty body no member is read.
-/

namespace Docent.Page

open Scan Scan.Reader Scan.Setting

/-- Pages of a size, where statements and the bodies of classes are asked for where there are some. -/
def setting (size : Nat) : Setting Rule where
  gaps
  text := text_gaps
  size
  Sure rule := rule = .statement ∨ rule = .classBody

variable {n : Nat} {raw : List Char} {self : Rule → Part}

/-! ### Words -/

theorem misses_word {gap : Forest} {cs : List Char} (hgap : gaps raw = (gap, cs)) {s : String}
    (h : wordWhere (oneOf [s]) cs = none) : (setting n).Misses (word s) raw :=
  misses_tokenOf hgap h

theorem misses_anyWord {gap : Forest} {cs : List Char} (hgap : gaps raw = (gap, cs))
    {ss : List String} (h : wordWhere (oneOf ss) cs = none) :
    (setting n).Misses (anyWord ss) raw :=
  misses_tokenOf hgap h

theorem misses_mark {gap : Forest} {cs : List Char} (hgap : gaps raw = (gap, cs)) {s : String}
    (h : Shape.exactly s cs = none) : (setting n).Misses (sym s) raw :=
  misses_tokenOf hgap h

theorem goes_mark {gap : Forest} {rest : List Char} (s : String)
    (hgap : gaps raw = (gap, s.toList ++ rest)) :
    (setting n).Goes (sym s) raw (gap ++ [.leaf .token s.toList]) rest :=
  goes_sym s hgap

theorem goes_word {gap : Forest} {cs rest : List Char} (hgap : gaps raw = (gap, cs ++ rest))
    {s : String} (h : wordWhere (oneOf [s]) (cs ++ rest) = some cs.length) :
    (setting n).Goes (word s) raw (gap ++ [.leaf .token cs]) rest :=
  goes_tokenOf (by exact hgap) h

theorem goes_named {gap : Forest} {cs rest : List Char} (hgap : gaps raw = (gap, cs ++ rest))
    {k : Kind} (h : wordShape (cs ++ rest) = some cs.length) :
    (setting n).Goes (named k) raw (gap ++ [.leaf k cs]) rest :=
  goes_tokenOf (by exact hgap) h

/-- The words that begin the statements that begin with a keyword. -/
def keywords : List String :=
  ["if", "while", "do", "for", "foreach", "switch", "try", "declare", "return", "break", "continue",
    "echo", "unset", "global", "static", "const", "goto"]

theorem misses_keywordStatement (h : ∀ s ∈ keywords, (setting n).Misses (word s) raw) :
    (setting n).Misses (keywordStatement self) raw := by
  unfold keywordStatement ifStatement loopStatement switchStatement tryStatement declareStatement
  repeat' first
    | with_reducible apply misses_orElse
    | with_reducible apply misses_append
    | with_reducible apply h
  all_goals decide

/-! ### Declarations -/

section

variable (hattributes : (setting n).Misses (self .attributes) raw)
include hattributes

theorem misses_classDeclaration (hwords : (setting n).Misses (anyWord classWords) raw)
    (hclass : (setting n).Misses (word "class") raw) :
    (setting n).Misses (classDeclaration self) raw := by
  unfold classDeclaration
  with_reducible apply_rules [misses_node, misses_assoc, misses_opt_append, misses_many_append,
    misses_append]

theorem misses_otherDeclaration (hwords : (setting n).Misses (anyWord ["interface", "trait"]) raw)
    (henum : (setting n).Misses (word "enum") raw) :
    (setting n).Misses (otherDeclaration self) raw := by
  unfold otherDeclaration
  with_reducible apply_rules [misses_orElse, misses_node, misses_assoc, misses_opt_append,
    misses_append]

theorem misses_functionDeclaration (hfunction : (setting n).Misses (word "function") raw) :
    (setting n).Misses (functionDeclaration self) raw := by
  unfold functionDeclaration functionHead
  with_reducible apply_rules [misses_node, misses_assoc, misses_opt_append, misses_append]

theorem misses_classMember (hword : ∀ s, (setting n).Misses (word s) raw)
    (hany : ∀ ss, (setting n).Misses (anyWord ss) raw) :
    (setting n).Misses (classMember self) raw := by
  have hmember : (setting n).Misses memberWord raw :=
    misses_orElse (misses_append (hany _)) (hany _)
  have hmethod : (setting n).Misses (method self) raw := by
    unfold method functionHead
    with_reducible apply_rules [misses_node, misses_assoc, misses_opt_append, misses_many_append,
      misses_append]
  have hconstant : (setting n).Misses (constantMember self) raw := by
    unfold constantMember
    with_reducible apply_rules [misses_node, misses_assoc, misses_opt_append, misses_many_append,
      misses_append]
  have hproperty : (setting n).Misses (property self) raw := by
    unfold property
    with_reducible apply_rules [misses_node, misses_assoc, misses_opt_append, misses_many1,
      misses_append]
  have hused : (setting n).Misses usedMembers raw := by
    unfold usedMembers
    with_reducible apply_rules [misses_node, misses_append]
  exact misses_orElse hmethod (misses_orElse hconstant (misses_orElse hproperty hused))

end

/-! ### The end of a page -/

section

variable (hself : ∀ rule, (setting n).Misses (self rule) [])

theorem end_word (s : String) : (setting n).Misses (word s) [] := misses_tokenOf rfl rfl

theorem end_anyWord (ss : List String) : (setting n).Misses (anyWord ss) [] := misses_tokenOf rfl rfl

theorem end_named (k : Kind) : (setting n).Misses (named k) [] := misses_tokenOf rfl rfl

theorem end_sym {s : String} (h : Shape.exactly s [] = none) : (setting n).Misses (sym s) [] :=
  misses_mark (show gaps [] = ([], []) from rfl) h

theorem end_anySym {ss : List String} (h : ∀ s ∈ ss, Shape.exactly s [] = none) :
    (setting n).Misses (anySym ss) [] :=
  misses_anySym fun s hs => end_sym (h s hs)

theorem end_tokenOf {shape : Shape} {k : Kind} (h : shape [] = none) :
    (setting n).Misses (tokenOf shape k) [] :=
  misses_tokenOf rfl h

theorem end_variable : (setting n).Misses (variable' self) [] :=
  misses_append (misses_many1 (end_sym rfl))

theorem end_literalRule : (setting n).Misses (literalRule self) [] := by
  unfold literalRule replacedString
  with_reducible apply_rules [misses_node, misses_orElse, misses_append, end_sym, end_tokenOf,
    end_anyWord]

theorem end_typeRule : (setting n).Misses (typeRule self) [] := by
  unfold typeRule qualified path
  with_reducible apply_rules [misses_node, misses_orElse, misses_opt_append, misses_append, end_sym,
    end_named]

include hself

theorem end_closure : (setting n).Misses (closure self) [] := by
  unfold closure
  with_reducible apply_rules [misses_node, misses_orElse, misses_assoc, misses_opt_append,
    misses_append, end_word, hself]

theorem end_primary : (setting n).Misses (primary self) [] := by
  have hclosure := end_closure hself
  unfold primary
  with_reducible apply_rules [misses_node, misses_orElse, misses_append, end_variable, end_word,
    end_sym, end_tokenOf, hself]

theorem end_operandRule : (setting n).Misses (operandRule self) [] := by
  have hassignment : (setting n).Misses (assignment self) [] := misses_bind (hself _)
  unfold operandRule
  with_reducible apply_rules [misses_orElse, misses_append, end_word, end_anyWord, end_sym,
    end_anySym]

theorem end_statementRule : (setting n).Misses (statementRule self) [] := by
  have hkeyword : (setting n).Misses (keywordStatement self) [] :=
    misses_keywordStatement fun s _ => end_word s
  have hclass := misses_classDeclaration (hself .attributes) (end_anyWord _) (end_word _)
  have hother := misses_otherDeclaration (hself .attributes) (end_anyWord _) (end_word _)
  have hfunction := misses_functionDeclaration (hself .attributes) (end_word _)
  unfold statementRule namespaceDeclaration importDeclaration
  with_reducible apply_rules [misses_orElse, misses_node, misses_absent_append, misses_append,
    end_word, end_anyWord, end_sym, end_tokenOf, hself]

theorem end_step (rule : Rule) : (setting n).Misses (step self rule) [] := by
  have hopen {k : Kind} {s : String} {q r : Part} (hs : Shape.exactly s [] = none) :
      (setting n).Misses (node k (sym s ++ q ++ r)) [] :=
    misses_node (misses_append (misses_append (end_sym hs)))
  cases rule with
  | statement => exact end_statementRule hself
  | block => exact hopen rfl
  | expression => exact misses_node (misses_append (hself _))
  | operand => exact end_operandRule hself
  | chain => exact misses_extend (end_primary hself)
  | literal => exact end_literalRule
  | classBody => exact hopen rfl
  | parameters => exact hopen rfl
  | arguments => exact hopen rfl
  | attributes => exact misses_many1 (hopen rfl)
  | type => exact end_typeRule

end

theorem end_run (fuel : Nat) (rule : Rule) : (setting n).Misses (run fuel rule) [] := by
  induction fuel generalizing rule with
  | zero => exact misses_fail
  | succ fuel ih => exact misses_remembered (end_step ih rule) (.inl (Nat.le_refl _))

end Docent.Page
