import Docent.Grammar.Page.Expression

/-!
# Statements of pages

The rules for statements and declarations. A class is a `classDecl` with its attributes, its members
stand in a `body`, and a namespace is a `namespaceDecl`.
-/

namespace Docent.Page

open Scan Scan.Reader

variable (self : Rule → Part)

/-! ### Members -/

def memberWord : Part :=
  accessWord <|> anyWord ["static", "final", "abstract", "readonly", "var"]

def constants : Part := sepBy (node .item (named .item ++ initial self)) (sym ",") ++ semicolon

def functionHead (kind : Kind) : Part :=
  word "function" ++ opt (sym "&") ++ named kind ++ self .parameters ++ opt (resultType self)

def method : Part :=
  node .method (opt (self .attributes) ++ many memberWord ++ functionHead self .name ++
    (self .block <|> semicolon))

def property : Part :=
  let elements := sepBy (node .item (variableName ++ opt (initial self))) (sym ",")
  node .item (opt (self .attributes) ++ many1 memberWord ++
    ((self .type ++ elements) <|> elements) ++ (hooks self <|> semicolon))

def constantMember : Part :=
  node .item (opt (self .attributes) ++ many memberWord ++ word "const" ++
    ((self .type ++ constants self) <|> constants self))

def usedMembers : Part :=
  let member := qualified ++ opt (sym "::" ++ named .item)
  let rule := member ++ ((word "insteadof" ++ sepBy qualified (sym ",")) <|>
    (word "as" ++ ((accessWord ++ opt (named .item)) <|> named .item))) ++ semicolon
  node .item (word "use" ++ sepBy qualified (sym ",") ++
    ((sym "\x7b" ++ many rule ++ sym "\x7d") <|> semicolon))

def enumCase : Part :=
  node .item (opt (self .attributes) ++ word "case" ++ named .item ++ opt (initial self) ++ semicolon)

def classMember : Part :=
  method self <|> constantMember self <|> property self <|> usedMembers

def classBodyRule : Part :=
  node .body (sym "\x7b" ++ many (classMember self) ++ sym "\x7d")

/-! ### Declarations -/

def classDeclaration : Part :=
  node .classDecl (opt (self .attributes) ++ many (anyWord classWords) ++ word "class" ++
    named .name ++ ancestry ++ self .classBody)

def otherDeclaration : Part :=
  let body := node .item (sym "\x7b" ++ many (enumCase self <|> classMember self) ++ sym "\x7d")
  node .item (opt (self .attributes) ++ anyWord ["interface", "trait"] ++ named .item ++ ancestry ++
      self .classBody) <|>
    node .item (opt (self .attributes) ++ word "enum" ++ named .item ++ opt (resultType self) ++
      ancestry ++ body)

def functionDeclaration : Part :=
  node .item (opt (self .attributes) ++ functionHead self .item ++ self .block)

def namespaceDeclaration : Part :=
  node .namespaceDecl (word "namespace" ++
    ((node .name path ++ (self .block <|> semicolon)) <|> self .block))

def importDeclaration : Part :=
  let sort := opt (anyWord ["function", "const"] ++ ahead (named .item <|> sym "\\"))
  let clause := sort ++ qualified ++ opt (word "as" ++ named .item)
  let group := sort ++ opt (sym "\\") ++ path ++ sym "\\" ++ sym "\x7b" ++ commaList clause ++
    sym "\x7d"
  node .item (word "use" ++ (group <|> (sort ++ sepBy clause (sym ","))) ++ semicolon)

/-! ### Statements -/

def condition : Part := node .item (sym "(" ++ self .expression ++ sym ")")

def expressions : Part := sepBy (self .expression) (sym ",")

def untilWord (s : String) : Part := colon ++ many (self .statement) ++ word s ++ semicolon

def ifStatement : Part :=
  let otherwise := (word "elseif" <|> (word "else" ++ word "if")) ++ condition self
  let plain := self .statement ++ many (node .item (otherwise ++ self .statement)) ++
    opt (node .item (word "else" ++ self .statement))
  let statements := colon ++ many (self .statement)
  let long := statements ++ many (node .item (otherwise ++ statements)) ++
    opt (node .item (word "else" ++ statements)) ++ word "endif" ++ semicolon
  word "if" ++ condition self ++ (long <|> plain)

def loopStatement : Part :=
  let value := opt (sym "&") ++ self .expression
  (word "while" ++ condition self ++ (untilWord self "endwhile" <|> self .statement)) <|>
    (word "do" ++ self .statement ++ word "while" ++ condition self ++ semicolon) <|>
    (word "for" ++ sym "(" ++ opt (expressions self) ++ sym ";" ++ opt (expressions self) ++ sym ";" ++
      opt (expressions self) ++ sym ")" ++ (untilWord self "endfor" <|> self .statement)) <|>
    (word "foreach" ++ sym "(" ++ self .expression ++ word "as" ++
      ((self .expression ++ sym "=>" ++ value) <|> value) ++ sym ")" ++
      (untilWord self "endforeach" <|> self .statement))

def switchStatement : Part :=
  let label := (word "case" ++ self .expression) <|> word "default"
  let cases := many (node .item (label ++ (colon <|> sym ";") ++ many (self .statement)))
  word "switch" ++ condition self ++
    node .item ((sym "\x7b" ++ cases ++ sym "\x7d") <|>
      (colon ++ cases ++ word "endswitch" ++ semicolon))

def tryStatement : Part :=
  let caught := word "catch" ++ sym "(" ++ sepBy qualified (sym "|") ++ opt variableName ++ sym ")" ++
    self .block
  word "try" ++ self .block ++ many1 (node .item (caught <|> (word "finally" ++ self .block)))

def declareStatement : Part :=
  word "declare" ++ sym "(" ++ sepBy (named .item ++ initial self) (sym ",") ++ sym ")" ++
    (untilWord self "enddeclare" <|> semicolon <|> self .statement)

def keywordStatement : Part :=
  let leave (s : String) := word s ++ opt (self .expression) ++ semicolon
  ifStatement self <|> loopStatement self <|> switchStatement self <|> tryStatement self <|>
    declareStatement self <|> leave "return" <|> leave "break" <|> leave "continue" <|>
    (word "echo" ++ expressions self ++ semicolon) <|>
    (word "unset" ++ sym "(" ++ commaList (self .expression) ++ sym ")" ++ semicolon) <|>
    (word "global" ++ sepBy (variable' self) (sym ",") ++ semicolon) <|>
    (word "static" ++ sepBy (variableName ++ opt (initial self)) (sym ",") ++ semicolon) <|>
    (word "const" ++ constants self) <|> (word "goto" ++ named .item ++ semicolon)

def blockRule : Part := node .item (sym "\x7b" ++ many (self .statement) ++ sym "\x7d")

def statementRule : Part :=
  let label := tokenOf (wordWhere (!oneOf statementWords ·)) .item ++ colon
  self .block <|> node .item (sym ";") <|> node .item (keywordStatement self) <|>
    classDeclaration self <|> otherDeclaration self <|> functionDeclaration self <|>
    namespaceDeclaration self <|> importDeclaration <|> node .item label <|>
    (absent (anyWord statementWords) ++ node .item (self .expression ++ semicolon))

end Docent.Page
