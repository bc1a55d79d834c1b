import Docent.Grammar.Indented.Parse
import Docent.Outline
import Docent.Text.Margin
import Docent.Text.Normal

/-!
# Documentation strings

In an indentation-structured source a declaration is documented by a string literal that is the
first statement of its suite, and begins on the line of its first decorator, if it has one.
-/

namespace Docent.Indented

open Docent.Tree (Site)

mutual

def literalTexts : Tree → List (List Char)
  | .leaf .token cs => [cs]
  | .leaf _ _ => []
  | .node _ kids => literalTextsOf kids

def literalTextsOf : List Tree → List (List Char)
  | [] => []
  | t :: ts => literalTexts t ++ literalTextsOf ts

end

def stringValue (names : List Char → Option Char) (t : Tree) : List Char :=
  (literalTexts t).flatMap fun cs =>
    match (Literal.ofText cs).value names with
    | .ok v => v
    | .error _ => []

/-- The documentation string of a suite, as it is written. -/
def docstring? (names : List Char → Option Char) (suite : Tree) : Option (List Char) :=
  match solid suite.kids with
  | t :: _ =>
    let (t, _) := core 1 t
    if t.kind = .form .string then some (stringValue names t) else none
  | [] => none

def decoratorLines (s : Site) : List Nat :=
  (s.parts.filter (·.tree.kind = .decorator)).filterMap fun d =>
    (d.parts.find? (isForm ·.tree)).map fun e => (core e.line e.tree).2

def keywordLine (s : Site) : Nat :=
  ((s.parts.find? (·.tree.kind = .token)).map Site.line).getD s.line

def convention (names : List Char → Option Char) : Convention where
  classKinds := [.classDecl]
  doc s :=
    match s.tree.part? .body with
    | none => ""
    | some suite => String.ofList (Text.dedent ((docstring? names suite).getD []))
  startLine s := (decoratorLines s).foldl min (keywordLine s)
  name := Text.normalForm

end Docent.Indented
