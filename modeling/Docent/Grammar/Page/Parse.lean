import Docent.Grammar.Page.Statement
import Docent.Outline

/-!
# Parsing pages

`parse` reads a page into a tree whose text is the page, or gives the line on which no rule could
go on.
-/

namespace Docent.Page

open Scan Scan.Reader

def step (self : Rule → Part) : Rule → Part
  | .statement => statementRule self
  | .block => blockRule self
  | .expression => expressionRule self
  | .operand => operandRule self
  | .chain => chainRule self
  | .literal => literalRule self
  | .classBody => classBodyRule self
  | .parameters => parametersRule self
  | .arguments => argumentsRule self
  | .attributes => attributesRule self
  | .type => typeRule self

def run : Nat → Rule → Part
  | 0, _ => fail
  | fuel + 1, rule => fun gaps p m => remembered rule (step (run fuel) rule) gaps p m

/-- A whole page: a passage, and the statements of the code after it. -/
def wholePage (self : Rule → Part) : Part :=
  rawTokenOf passage .passage ++ many (self .statement) ++ finish

def depthBound (size : Nat) : Nat := 12 * (size + 5)

/-- Parses a page: its tree, or the line on which no rule could go on. -/
def parse (cs : List Char) : Except Nat Tree :=
  whole gaps (wholePage (run (depthBound cs.length))) cs

end Docent.Page
