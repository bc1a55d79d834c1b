import Docent.Grammar.Page.Lexical

/-!
# Rules of pages

The rules of the grammar that are reached from more than one place, and the readers of words, names
and semicolons.
-/

namespace Docent.Page

open Scan Scan.Reader

inductive Rule
  | statement | block | expression | operand | chain | literal
  | classBody | parameters | arguments | attributes | type
deriving DecidableEq, Repr

abbrev Part := Reader Rule Forest

/-! ### Words and names -/

def word (s : String) : Part := tokenOf (wordWhere (oneOf [s])) .token

def anyWord (ss : List String) : Part := tokenOf (wordWhere (oneOf ss)) .token

def named (kind : Kind) : Part := tokenOf wordShape kind

def path : Part := named .item ++ many (sym "\\" ++ named .item)

def qualified : Part := node .item (opt (sym "\\") ++ path)

/-! ### Ends of statements -/

/-- Where the code ends, a semicolon can be left out. -/
def beforePassage : Part := fun _ p m =>
  if p.gap.any (·.kind = .passage) then .done [] p m else .miss m

def semicolon : Part := beforePassage <|> sym ";"

def colon : Part := symBut ":" [':']

def looseList (p : Part) : Part := opt p ++ many (sym "," ++ opt p)

def commaList (p : Part) : Part := sepBy p (sym ",") ++ opt (sym ",")

def lastForm? (f : Forest) : Option Form :=
  match f.getLast? with
  | some t =>
    match t.kind with
    | .form k => some k
    | _ => none
  | none => none

end Docent.Page
