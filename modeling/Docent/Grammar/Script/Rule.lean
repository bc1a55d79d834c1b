import Docent.Grammar.Script.Semicolon

/-!
# Rules of scripts

The rules of the grammar that are reached from more than one place, and the readers of words and
semicolons.
-/

namespace Docent.Script

open Scan Scan.Reader

/-- Where an expression stands: whether a line break can end the statement after it, and whether
arrow functions in it are written without a result type. -/
structure Context where
  breaks : Bool
  bare : Bool
deriving DecidableEq, Repr

def Context.inner : Context := ⟨false, false⟩

def Context.outer : Context := ⟨true, false⟩

inductive Rule
  | statement
  | block (operand : Bool)
  | classBody
  | sequence (c : Context) | expression (c : Context) | operand (c : Context)
  | leftSide (c : Context)
  | destructuring | target | parameters
  | signature (breaks result : Bool)
  | type (breaks : Bool) | typeArguments | typeParameters | objectType
  | propertyName | template | markup
deriving DecidableEq, Repr

abbrev Part := Reader Rule Forest

/-! ### Words -/

def word (s : String) : Part := tokenOf (.exactly s ++ .absent wordPart) .token

def anyWord : List String → Part
  | [] => fail
  | s :: ss => word s <|> anyWord ss

def named (kind : Kind) : Part := tokenOf wordShape kind

/-- A word that can be declared, as a leaf of a kind. -/
def Dialect.name (d : Dialect) (kind : Kind) : Part := tokenOf (wordWhere d.isName) kind

def stringPart : Part := tokenOf string .item

/-! ### Ends of statements -/

def leftOut (d : Dialect) (e : StatementEnd) : Part := fun gaps p m =>
  match inserted? d e p.raw with
  | none => .miss m
  | some 0 => .done [] p m
  | some n => .done (gaps (p.raw.take n)).1 (.of gaps (p.raw.drop n) (p.start + n)) m

/-- A semicolon, written or left out, after which an operator could have stood or not. -/
def semicolon (d : Dialect) (operand : Bool) : Part :=
  leftOut d ⟨operand, false⟩ <|> sym ";"

def goesOn (d : Dialect) (breaks operand : Bool) : Part :=
  if breaks then absent (leftOut d ⟨operand, false⟩) else pure []

/-- A word that begins a construct if the statement does not end after it. -/
def leadWord (d : Dialect) (breaks : Bool) (s : String) : Part := word s ++ goesOn d breaks false

def looseList (p : Part) : Part := opt p ++ many (sym "," ++ opt p)

def commaList (p : Part) : Part := sepBy p (sym ",") ++ opt (sym ",")

def lastForm? (f : Forest) : Option Form :=
  match f.getLast? with
  | some t =>
    match t.kind with
    | .form k => some k
    | _ => none
  | none => none

end Docent.Script
