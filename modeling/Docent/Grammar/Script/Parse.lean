import Docent.Grammar.Script.Statement
import Docent.Outline

/-!
# Parsing scripts

`parse` reads a script into a tree whose text is the script, or gives the line on which no rule
could go on.
-/

namespace Docent.Script

open Scan Scan.Reader

def step (d : Dialect) (self : Rule → Part) : Rule → Part
  | .statement => statementRule d self
  | .block operand => blockRule d self operand
  | .classBody => classBodyRule d self
  | .sequence c => sequenceRule d self c
  | .expression c => expressionRule d self c
  | .operand c => operandRule d self c
  | .leftSide c => leftSideRule d self c
  | .destructuring => destructuringRule d self
  | .target => targetRule self
  | .parameters => parametersRule d self
  | .signature breaks result => signatureRule d self breaks result
  | .type breaks => typeRule d self breaks
  | .typeArguments => typeArgumentsRule self
  | .typeParameters => typeParametersRule self
  | .objectType => objectTypeRule d self
  | .propertyName => propertyNameRule self
  | .template => templateRule self
  | .markup => markupRule d self

def run (d : Dialect) : Nat → Rule → Part
  | 0, _ => fail
  | fuel + 1, rule => fun gaps p m => remembered rule (step d (run d fuel) rule) gaps p m

/-- A whole script, which may begin with the line that tells what runs it. -/
def wholeScript (self : Rule → Part) : Part :=
  opt (tokenOf (.exactly "#!" ++ .many (.one (· != '\n'))) .item) ++ many (self .statement) ++ finish

def depthBound (size : Nat) : Nat := 12 * (size + 5)

/-- Parses a script: its tree, or the line on which no rule could go on. -/
def parse (d : Dialect) (cs : List Char) : Except Nat Tree :=
  whole gaps (wholeScript (run d (depthBound cs.length))) cs

end Docent.Script
