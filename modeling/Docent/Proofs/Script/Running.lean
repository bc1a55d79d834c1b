import Docent.Grammar.Script.Parse
import Docent.Proofs.Scan.Running
import Docent.Proofs.Script.Gaps

/-!
# What rules do before a known script

At the end of a script every rule misses. Where a class begins, the rules that are tried before the
one for classes miss, and in an empty body no member is read.
-/

namespace Docent.Script

open Scan Scan.Reader Scan.Setting

/-- Scripts of a size, where statements and the bodies of classes are asked for where there are
some. -/
def setting (size : Nat) : Setting Rule where
  gaps
  text := text_gaps
  size
  Sure rule := rule = .statement ∨ rule = .classBody

variable {d : Dialect} {n : Nat} {raw : List Char} {self : Rule → Part}

/-! ### Words and marks -/

theorem misses_mark {gap : Forest} {cs : List Char} (hgap : gaps raw = (gap, cs)) {s : String}
    (h : Shape.exactly s cs = none) : (setting n).Misses (sym s) raw :=
  misses_tokenOf hgap h

theorem goes_mark {gap : Forest} {rest : List Char} (s : String)
    (hgap : gaps raw = (gap, s.toList ++ rest)) :
    (setting n).Goes (sym s) raw (gap ++ [.leaf .token s.toList]) rest :=
  goes_sym s hgap

theorem goes_token {gap : Forest} {cs rest : List Char} (hgap : gaps raw = (gap, cs ++ rest))
    {shape : Shape} {k : Kind} (h : shape (cs ++ rest) = some cs.length) :
    (setting n).Goes (tokenOf shape k) raw (gap ++ [.leaf k cs]) rest :=
  goes_tokenOf (by exact hgap) h

theorem misses_word {gap : Forest} {cs : List Char} (hgap : gaps raw = (gap, cs)) {s : String}
    (h : (Shape.exactly s ++ .absent wordPart) cs = none) : (setting n).Misses (word s) raw :=
  misses_tokenOf hgap h

theorem misses_anyWord {ss : List String} (h : ∀ s ∈ ss, (setting n).Misses (word s) raw) :
    (setting n).Misses (anyWord ss) raw := by
  induction ss with
  | nil => exact misses_fail
  | cons s ss ih =>
    obtain ⟨hs, hss⟩ := List.forall_mem_cons.1 h
    exact misses_orElse hs (ih hss)

/-! ### What is tried before a class -/

/-- The words that are looked for before the one that begins a class. -/
def leading : List String :=
  ["export", "import", "if", "for", "while", "do", "switch", "try", "with", "return", "throw",
    "break", "continue", "debugger", "abstract", "module", "namespace", "type", "const", "enum",
    "interface", "async", "function"]

section

variable (hword : ∀ s ∈ leading, (setting n).Misses (word s) raw)
include hword

theorem misses_leadWord {b : Bool} {s : String} (hs : s ∈ leading) :
    (setting n).Misses (leadWord d b s) raw :=
  misses_append (hword s hs)

theorem misses_importStatement : (setting n).Misses (importStatement d self) raw :=
  misses_node (misses_append (misses_append (hword _ (by decide))))

theorem misses_keywordStatement : (setting n).Misses (keywordStatement d self) raw := by
  unfold keywordStatement tryStatement leave
  repeat' first
    | with_reducible apply misses_orElse
    | with_reducible apply misses_node
    | with_reducible apply misses_append
    | with_reducible apply hword
  all_goals decide

theorem misses_functionDeclaration : (setting n).Misses (functionDeclaration d self) raw := by
  have hasync : (setting n).Misses (leadWord d true "async") raw :=
    misses_leadWord hword (by decide)
  exact misses_node (misses_append (misses_opt_append hasync (hword _ (by decide))))

variable (hat : (setting n).Misses (sym "@") raw)
include hat

omit hword in
theorem misses_decorator : (setting n).Misses (decorator d self) raw :=
  misses_node (misses_append hat)

theorem misses_exportStatement : (setting n).Misses (exportStatement d self) raw := by
  have hexport := hword "export" (by decide)
  have hdecorator : (setting n).Misses (decorator d self) raw := misses_decorator hat
  exact misses_node (misses_orElse (misses_append hexport)
    (misses_append (misses_many_append hdecorator hexport)))

theorem misses_typedDeclaration : (setting n).Misses (typedDeclaration d self) raw := by
  have hdecorator : (setting n).Misses (decorator d self) raw := misses_decorator hat
  unfold typedDeclaration abstractClassDeclaration aliasDeclaration enumDeclaration
    interfaceDeclaration importAlias leadWord
  repeat' first
    | with_reducible exact hdecorator
    | with_reducible apply misses_orElse
    | with_reducible apply misses_node
    | with_reducible apply misses_many_append
    | with_reducible apply misses_opt_append
    | with_reducible apply misses_append
    | with_reducible apply hword
  all_goals decide

end

/-! ### Empty bodies -/

/-- The words that can modify a member of a class. -/
def memberWords : List String :=
  ["public", "private", "protected", "declare", "static", "abstract", "readonly", "override",
    "accessor", "async", "get", "set"]

/-- Where no member of a class begins: there is no word, decorator or mark that begins one, and no
name of a member. -/
structure NoMember (n : Nat) (rules : Rule → Part) (raw : List Char) : Prop where
  word : ∀ s ∈ memberWords, (setting n).Misses (word s) raw
  mark : ∀ s ∈ ["@", "*", "[", ";", "-", "+"], (setting n).Misses (sym s) raw
  getter : (setting n).Misses brokenGetter raw
  name : (setting n).Misses (rules .propertyName) raw

namespace NoMember

variable (h : NoMember n self raw)
include h

theorem misses_modifier {b : Bool} {s : String} (hs : s ∈ memberWords) :
    (setting n).Misses (modifier d b s) raw :=
  misses_append (misses_append (h.word s hs))

theorem misses_starModifier {b : Bool} {s : String} (hs : s ∈ memberWords) :
    (setting n).Misses (starModifier d b s) raw :=
  misses_append (misses_append (h.word s hs))

theorem misses_anyModifier {b : Bool} {ss : List String} (hss : ∀ s ∈ ss, s ∈ memberWords) :
    (setting n).Misses (anyModifier d b ss) raw := by
  induction ss with
  | nil => exact misses_fail
  | cons s ss ih =>
    obtain ⟨hs, hss⟩ := List.forall_mem_cons.1 hss
    exact misses_orElse (h.misses_modifier hs) (ih hss)

theorem misses_anyStarModifier {b : Bool} {ss : List String} (hss : ∀ s ∈ ss, s ∈ memberWords) :
    (setting n).Misses (anyStarModifier d b ss) raw := by
  induction ss with
  | nil => exact misses_fail
  | cons s ss ih =>
    obtain ⟨hs, hss⟩ := List.forall_mem_cons.1 hss
    exact misses_orElse (h.misses_starModifier hs) (ih hss)

theorem misses_accessor : (setting n).Misses
    (modifier d true "get" <|> modifier d true "set" <|> sym "*") raw :=
  misses_orElse (h.misses_modifier (by decide))
    (misses_orElse (h.misses_modifier (by decide)) (h.mark "*" (by decide)))

theorem misses_methodPart : (setting n).Misses (methodPart d self true) raw := by
  have hmodifiers : ∃ f, (setting n).Goes
      (if d.types then
        opt (anyStarModifier d true accessWords) ++ opt (starModifier d true "static") ++
          opt (starModifier d true "override") ++ opt (starModifier d true "readonly")
      else opt (starModifier d true "static")) raw f raw := by
    split
    · exact ⟨_, (((goes_opt (h.misses_anyStarModifier (by decide))).append
        (goes_opt (h.misses_starModifier (by decide)))).append
        (goes_opt (h.misses_starModifier (by decide)))).append
        (goes_opt (h.misses_starModifier (by decide)))⟩
    · exact ⟨_, goes_opt (h.misses_starModifier (by decide))⟩
  obtain ⟨f, hmodifiers⟩ := hmodifiers
  have hhead := (goes_opt (h.misses_starModifier (d := d) (b := true) (s := "async") (by decide))).append
    (goes_opt (h.misses_accessor (d := d)))
  exact misses_append (misses_append (misses_append ((hmodifiers.append hhead).misses_append h.name)))

theorem misses_methodMember : (setting n).Misses (methodMember d self) raw := by
  have hdecorator : (setting n).Misses (decorator d self) raw :=
    misses_decorator (h.mark "@" (by decide))
  have hbroken : (setting n).Misses (brokenGetter ++ self .propertyName ++
      self (.signature true true) ++ self (.block false)) raw :=
    misses_append (misses_append (misses_append h.getter))
  have hmethod := misses_orElse hbroken (h.misses_methodPart (d := d))
  exact misses_ite (misses_many_append hdecorator (misses_node hmethod))
    (misses_node (misses_many_append hdecorator hmethod))

theorem goes_fieldWords : ∃ f, (setting n).Goes (fieldWords d) raw f raw := by
  have hone {s : String} (hs : s ∈ memberWords) : (setting n).Misses (modifier d true s) raw :=
    h.misses_modifier hs
  have haccess : (setting n).Misses (anyModifier d true accessWords) raw :=
    h.misses_anyModifier (by decide)
  unfold fieldWords
  dsimp only
  split
  · have hfirst := misses_orElse (misses_append (s := opt (anyModifier d true accessWords))
      (hone (s := "declare") (by decide))) (misses_append (s := opt (modifier d true "declare")) haccess)
    refine ⟨_, (goes_opt hfirst).append (Misses.orElse ?_ (Misses.orElse ?_ (Misses.orElse ?_
      (Misses.orElse ?_ (Misses.orElse ?_ (Misses.orElse ?_ (goes_pure [] raw)))))))⟩
    · exact misses_append (misses_append (hone (by decide)))
    · exact misses_append (hone (by decide))
    · exact misses_append (hone (by decide))
    · exact misses_append (hone (by decide))
    · exact hone (by decide)
    · exact hone (by decide)
  · exact ⟨_, goes_opt (hone (by decide))⟩

theorem misses_field (value : Part) : (setting n).Misses (field d self value) raw := by
  obtain ⟨f, hwords⟩ := h.goes_fieldWords (d := d)
  have hdecorator : (setting n).Misses (decorator d self) raw :=
    misses_decorator (h.mark "@" (by decide))
  exact misses_node (misses_append (misses_append
    (((goes_many hdecorator).append (h.getter.orElse hwords)).misses_append h.name)))

theorem misses_methodSignature : (setting n).Misses (methodSignature d self) raw := by
  have hwords : ∀ s ∈ accessWords, s ∈ memberWords := by decide
  have hmodifiers := ((((goes_opt (h.misses_anyStarModifier (d := d) (b := true) hwords)).append
    (goes_opt (h.misses_starModifier (d := d) (b := true) (s := "static") (by decide)))).append
    (goes_opt (h.misses_starModifier (d := d) (b := true) (s := "override") (by decide)))).append
    (goes_opt (h.misses_starModifier (d := d) (b := true) (s := "readonly") (by decide)))).append
    (goes_opt (h.misses_starModifier (d := d) (b := true) (s := "async") (by decide)))
  exact misses_node (misses_append (misses_append
    ((hmodifiers.append (goes_opt (h.misses_accessor (d := d)))).misses_append h.name)))

theorem misses_abstractSignature : (setting n).Misses (abstractSignature d self) raw := by
  have hwords : ∀ s ∈ accessWords, s ∈ memberWords := by decide
  have hword := misses_opt_append (h.misses_anyModifier (d := d) (b := true) hwords)
    (h.misses_modifier (d := d) (b := true) (s := "abstract") (by decide))
  exact misses_node (misses_append (misses_append (misses_append (misses_append (misses_append hword)))))

theorem misses_indexSignature : (setting n).Misses (indexSignature self) raw := by
  have hsign : (setting n).Misses (anySym ["-", "+"]) raw :=
    misses_anySym fun s hs => h.mark s (by revert s; decide)
  have hreadonly := misses_opt_append hsign (h.word "readonly" (by decide))
  have hopen := misses_opt_append hreadonly (h.mark "[" (by decide))
  exact misses_node (misses_append (misses_append (misses_append (misses_append hopen))))

theorem misses_classMember : (setting n).Misses (classMember d self) raw := by
  have hstatic : (setting n).Misses (node .item (Script.word "static" ++ self (.block false))) raw :=
    misses_node (misses_append (h.word "static" (by decide)))
  refine misses_orElse (misses_append h.misses_methodMember) (misses_orElse hstatic
    (misses_orElse (h.mark ";" (by decide)) (misses_orElse (misses_ite ?_ misses_fail)
      (misses_orElse (misses_append (h.misses_field _)) (misses_append (h.misses_field _))))))
  exact misses_orElse (misses_append (misses_orElse h.misses_abstractSignature
    h.misses_indexSignature)) (misses_append h.misses_methodSignature)

end NoMember

/-! ### The end of a script -/

theorem end_mark {s : String} (h : Shape.exactly s [] = none) : (setting n).Misses (sym s) [] :=
  misses_mark rfl h

theorem end_marks {ss : List String} (h : ∀ s ∈ ss, Shape.exactly s [] = none) :
    (setting n).Misses (anySym ss) [] :=
  misses_anySym fun s hs => end_mark (h s hs)

theorem end_word {s : String} (h : (Shape.exactly s ++ .absent wordPart) [] = none) :
    (setting n).Misses (word s) [] :=
  misses_word rfl h

theorem end_words {ss : List String} (h : ∀ s ∈ ss, (Shape.exactly s ++ .absent wordPart) [] = none) :
    (setting n).Misses (anyWord ss) [] :=
  misses_anyWord fun s hs => end_word (h s hs)

theorem end_named (k : Kind) : (setting n).Misses (named k) [] := misses_tokenOf rfl rfl

theorem end_tokenOf {shape : Shape} {k : Kind} (h : shape [] = none) :
    (setting n).Misses (tokenOf shape k) [] :=
  misses_tokenOf rfl h

theorem end_leading : ∀ s ∈ leading, (setting n).Misses (word s) [] := by
  intro s hs
  refine end_word ?_
  revert s
  decide

theorem end_declaration : (setting n).Misses (declaration d self) [] := by
  have hat : (setting n).Misses (sym "@") [] := end_mark rfl
  have htyped : (setting n).Misses (typedDeclaration d self) [] := misses_typedDeclaration end_leading hat
  have hfunction : (setting n).Misses (functionDeclaration d self) [] :=
    misses_functionDeclaration end_leading
  have hclass : (setting n).Misses (classDeclaration d self) [] := by
    refine misses_node (misses_append (misses_append (misses_append ?_)))
    exact misses_many_append (misses_decorator hat) (end_word rfl)
  have hvariable : (setting n).Misses (variableDeclaration d self) [] := by
    refine misses_orElse (misses_node (misses_append (end_words (by decide)))) (misses_node ?_)
    exact misses_append (misses_opt_append (misses_append (end_word rfl)) (misses_append (end_word rfl)))
  have hambient : (setting n).Misses (ambientDeclaration d self) [] :=
    misses_node (misses_append (misses_append (end_word rfl)))
  exact misses_orElse (misses_orElse (misses_ite htyped misses_fail) (misses_orElse hfunction
    (misses_orElse hclass hvariable))) (misses_ite hambient misses_fail)

section

variable (hself : ∀ rule, (setting n).Misses (self rule) [])
include hself

theorem end_typeOperand (b : Bool) : (setting n).Misses (typeOperand d self b) [] := by
  unfold typeOperand templateType stringPart dottedNames
  repeat' first
    | with_reducible apply misses_orElse
    | with_reducible apply misses_opt_append
    | with_reducible apply misses_append
    | with_reducible apply hself
    | with_reducible apply misses_sepBy
    | with_reducible apply end_named
    | with_reducible apply end_mark
    | with_reducible apply end_marks
    | with_reducible apply end_word
    | with_reducible apply end_tokenOf
  all_goals first | rfl | decide

theorem end_primary (c : Context) : (setting n).Misses (primary d self c) [] := by
  have hasync : (setting n).Misses (asyncWord d c) [] := misses_append (end_word rfl)
  have hdecorator : (setting n).Misses (decorator d self) [] := misses_decorator (end_mark rfl)
  unfold primary arrowFunction functionExpression classExpression bracketed stringPart
  repeat' first
    | with_reducible exact hasync
    | with_reducible exact hdecorator
    | with_reducible apply misses_orElse
    | with_reducible apply misses_node
    | with_reducible apply misses_opt_append
    | with_reducible apply misses_many_append
    | with_reducible apply misses_append
    | with_reducible apply hself
    | with_reducible apply end_mark
    | with_reducible apply end_word
    | with_reducible apply end_words
    | with_reducible apply end_tokenOf
  all_goals first | rfl | decide

theorem end_operandRule (c : Context) : (setting n).Misses (operandRule d self c) [] := by
  have hassignment : (setting n).Misses (assignment self c) [] := misses_bind (hself _)
  unfold operandRule
  repeat' first
    | with_reducible exact hassignment
    | with_reducible exact misses_fail
    | with_reducible apply misses_orElse
    | with_reducible apply misses_ite
    | with_reducible apply misses_append
    | with_reducible apply hself
    | with_reducible apply end_mark
    | with_reducible apply end_marks
    | with_reducible apply end_word
    | with_reducible apply end_words
    | with_reducible apply end_tokenOf
  all_goals first | rfl | decide

theorem end_statementRule : (setting n).Misses (statementRule d self) [] := by
  have hat : (setting n).Misses (sym "@") [] := end_mark rfl
  have hlabel : (setting n).Misses (label d) [] := end_tokenOf rfl
  have hwords : ∀ s ∈ d.statementWords, (Shape.exactly s ++ wordPart.absent) [] = none := by
    rw [Dialect.statementWords]
    cases d.types <;> decide
  have hexpression : (setting n).Misses (expressionStatement d self) [] :=
    misses_absent_append (end_words hwords) (misses_node (misses_append (hself _)))
  exact misses_orElse (misses_append (misses_ahead (end_mark rfl)))
    (misses_orElse (misses_exportStatement end_leading hat) (misses_orElse (misses_importStatement end_leading)
      (misses_orElse (misses_keywordStatement end_leading) (misses_orElse end_declaration
        (misses_orElse (misses_node (end_mark rfl))
          (misses_orElse (misses_node (misses_append (misses_append hlabel))) hexpression))))))

theorem end_step (rule : Rule) : (setting n).Misses (step d self rule) [] := by
  have hopen {k : Kind} {s : String} {q r : Part} (hs : Shape.exactly s [] = none) :
      (setting n).Misses (node k (sym s ++ q ++ r)) [] :=
    misses_node (misses_append (misses_append (end_mark hs)))
  -- every rule begins with a token or with another rule, and no token is at the end
  cases rule with
  | statement => exact end_statementRule hself
  | block b => exact misses_node (misses_append (misses_append (misses_append (end_mark rfl))))
  | classBody => exact hopen rfl
  | sequence c => exact misses_node (misses_append (hself _))
  | expression c => exact misses_node (misses_append (hself _))
  | operand c => exact end_operandRule hself c
  | leftSide c => exact misses_extend (end_primary hself c)
  | destructuring =>
    exact misses_node (misses_orElse (misses_append (misses_append (end_mark rfl)))
      (misses_append (misses_append (end_mark rfl))))
  | target => exact misses_orElse (misses_append (hself _)) (misses_bind (hself _))
  | parameters => exact hopen rfl
  | signature b r =>
    exact misses_ite (misses_append (misses_opt_append (hself _) (hself _))) (hself _)
  | type b =>
    exact misses_node (misses_append (misses_opt_append (end_marks (by decide)) (end_typeOperand hself b)))
  | typeArguments => exact hopen rfl
  | typeParameters => exact hopen rfl
  | objectType =>
    exact misses_node (misses_orElse (misses_append (misses_append (end_mark rfl)))
      (misses_append (misses_append (end_mark rfl))))
  | propertyName =>
    exact misses_orElse (end_named _) (misses_orElse (end_tokenOf rfl) (misses_orElse (end_tokenOf rfl)
      (misses_orElse (end_tokenOf rfl) (hopen rfl))))
  | template => exact misses_node (misses_append (misses_append (end_tokenOf rfl)))
  | markup =>
    exact misses_node (misses_orElse (misses_append (misses_append (end_mark rfl)))
      (misses_append (misses_append (end_mark rfl))))

end

theorem end_run (fuel : Nat) (rule : Rule) : (setting n).Misses (run d fuel rule) [] := by
  induction fuel generalizing rule with
  | zero => exact misses_fail
  | succ fuel ih => exact misses_remembered (end_step ih rule) (.inl (Nat.le_refl _))

end Docent.Script
