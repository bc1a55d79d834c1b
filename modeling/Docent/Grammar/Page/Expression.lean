import Docent.Grammar.Page.Rule

/-!
# Expressions of pages

The rules for expressions. The strength of operators plays no part: an expression is a run of
operands with operators between.
-/

namespace Docent.Page

open Scan Scan.Reader

variable (self : Rule → Part)

/-! ### Types, attributes and parameters -/

def typeRule : Part :=
  let atom := (opt (sym "?") ++ qualified) <|> (sym "(" ++ self .type ++ sym ")")
  node .item (atom ++ many (anySym ["|", "&"] ++ atom))

def attributesRule : Part :=
  let item := qualified ++ opt (self .arguments)
  many1 (node .item (sym "#[" ++ commaList item ++ sym "]"))

def variableName : Part := sym "$" ++ named .item

def initial : Part := symBut "=" ['=', '>'] ++ self .expression

def accessWord : Part :=
  anyWord ["public", "protected", "private"] ++ opt (sym "(" ++ word "set" ++ sym ")")

def hooks : Part :=
  let body := (sym "=>" ++ self .expression ++ semicolon) <|> self .block <|> sym ";"
  node .item (sym "\x7b" ++
    many (opt (self .attributes) ++ opt (word "final") ++ opt (sym "&") ++ named .item ++
      opt (self .parameters) ++ body) ++ sym "\x7d")

def parameter : Part :=
  let start := ahead (named .item <|> anySym ["$", "&", "?", "("])
  let promoted := many ((accessWord <|> word "readonly") ++ start)
  node .item (opt (self .attributes) ++ promoted ++
    ((self .type ++ opt (sym "&") ++ opt (sym "...") ++ variableName) <|>
      (opt (sym "&") ++ opt (sym "...") ++ variableName)) ++
    opt (initial self) ++ opt (hooks self))

def parametersRule : Part :=
  node .item (sym "(" ++ opt (commaList (parameter self)) ++ sym ")")

def resultType : Part := colon ++ self .type

def argumentsRule : Part :=
  let value := opt (sym "...") ++ opt (sym "&") ++ self .expression
  let argument := node .item ((named .item ++ colon ++ value) <|> value)
  node .item (sym "(" ++ ((sym "..." ++ ahead (sym ")")) <|> opt (commaList argument)) ++ sym ")")

/-! ### Literals -/

def replacedString (q : Char) (start : Shape) : Part :=
  let hole := (rawTokenOf (.char '\x7b') .token ++ self .expression ++ sym "\x7d") <|>
    (rawTokenOf (.exactly "$\x7b") .token ++ self .expression ++ sym "\x7d")
  tokenOf start .token ++ many (rawTokenOf (stringText q) .token <|> node .item hole) ++
    rawTokenOf (.char q) .token

def element : Part :=
  let value := opt (sym "&") ++ self .expression
  (sym "..." ++ self .expression) <|> (self .expression ++ sym "=>" ++ value) <|> value

def literalRule : Part :=
  node (.form .string) (replacedString self '"' (.opt (.one fun c => c = 'b' || c = 'B') ++ .char '"') <|>
      tokenOf plainString .token <|> tokenOf labelledText .token <|>
      replacedString self '`' (.char '`')) <|>
    node (.form .list)
      ((sym "[" ++ looseList (element self) ++ sym "]") <|>
        (anyWord ["array", "list"] ++ sym "(" ++ looseList (element self) ++ sym ")"))

/-! ### Functions and classes inside expressions -/

def closure : Part :=
  let used := word "use" ++ sym "(" ++ commaList (opt (sym "&") ++ variableName) ++ sym ")"
  let head := opt (self .attributes) ++ opt (word "static")
  node .item (head ++
    ((word "function" ++ opt (sym "&") ++ self .parameters ++ opt (node .item used) ++
        opt (resultType self) ++ self .block) <|>
      (word "fn" ++ opt (sym "&") ++ self .parameters ++ opt (resultType self) ++ sym "=>" ++
        self .expression)))

def ancestry : Part :=
  opt (node .item (word "extends" ++ sepBy qualified (sym ","))) ++
    opt (node .item (word "implements" ++ sepBy qualified (sym ",")))

def classWords : List String := ["final", "abstract", "readonly"]

def namelessClass : Part :=
  opt (self .attributes) ++ many (anyWord classWords) ++ word "class" ++ opt (self .arguments) ++
    ancestry ++ self .classBody

/-! ### Chains -/

def memberName : Part :=
  named .item <|> (many1 (sym "$") ++ (named .item <|> (sym "\x7b" ++ self .expression ++ sym "\x7d"))) <|>
    (sym "\x7b" ++ self .expression ++ sym "\x7d")

def variable' : Part :=
  many1 (sym "$") ++ (named .item <|> (sym "\x7b" ++ self .expression ++ sym "\x7d"))

def created : Part :=
  let step := (anySym ["->", "?->"] ++ memberName self) <|> (sym "::" ++ variable' self) <|>
    (sym "[" ++ opt (self .expression) ++ sym "]")
  node .item (namelessClass self <|>
    ((qualified <|> (variable' self ++ many step) <|> (sym "(" ++ self .expression ++ sym ")")) ++
      opt (self .arguments)))

def primary : Part :=
  let arms := commaList (node .item
    (((word "default" ++ opt (sym ",")) <|> commaList (self .expression)) ++ sym "=>" ++
      self .expression))
  closure self <|>
    node .item (word "new" ++ created self) <|>
    node .item (word "match" ++ sym "(" ++ self .expression ++ sym ")" ++
      node .item (sym "\x7b" ++ opt arms ++ sym "\x7d")) <|>
    node (.form .group) (sym "(" ++ self .expression ++ sym ")") <|>
    node (.form .variable) (variable' self) <|>
    self .literal <|> node (.form .number) (tokenOf number .token) <|>
    node .item ((sym "\\" ++ path) <|>
      (tokenOf (wordWhere (!oneOf operandWords ·)) .item ++ many (sym "\\" ++ named .item)))

def chainStep (f : Forest) : Part :=
  let as (k : Form) (p : Part) : Part := do return Tree.close (.form k) (f ++ (← p))
  if lastForm? f = some .number then fail
  else
    as .attribute (anySym ["->", "?->"] ++ memberName self) <|>
      as .attribute (sym "::" ++ variable' self) <|>
      as .call (sym "::" ++ memberName self) <|>
      as .subscript (sym "[" ++ opt (self .expression) ++ sym "]") <|>
      as .call (self .arguments) <|> as .operation (anySym ["++", "--"])

def chainRule : Part := extend (primary self) (chainStep self)

/-! ### Operands -/

def compoundMarks : List String :=
  ["**=", "*=", "/=", "%=", "+=", "-=", ".=", "<<=", ">>=", "&=", "^=", "|=", "??="]

def assignment : Part := do
  let f ← self .chain
  let assigned := (symBut "=" ['=', '>'] ++ opt (sym "&") ++ self .expression)
  match lastForm? f with
  | some .variable | some .attribute | some .subscript =>
    (f ++ ·) <$> opt (assigned <|> (anySym compoundMarks ++ self .expression))
  | some .list => (f ++ ·) <$> opt assigned
  | _ => return f

def castWords : List String :=
  ["array", "binary", "bool", "boolean", "double", "int", "integer", "float", "object", "real",
    "string", "unset", "null"]

def operandRule : Part :=
  let operand := self .operand
  let unary := anySym ["++", "--", "!", "~", "+", "-", "@"] ++ operand
  let cast := sym "(" ++ anyWord castWords ++ sym ")" ++ operand
  let worded := anyWord ["clone", "print", "include", "include_once", "require", "require_once",
    "throw"] ++ self .expression
  let yielded := word "yield" ++ ((word "from" ++ self .expression) <|> element self <|> pure [])
  unary <|> cast <|> worded <|> yielded <|> assignment self

/-! ### Expressions -/

/-- The marks between two operands, longer ones first. -/
def binaryMarks : List String :=
  ["**", "*", "/", "%", "+", "-", ".", "<<", ">>", "<=>", "<=", ">=", "<>", "<", ">", "===", "!==",
    "==", "!=", "&&", "||", "??", "&", "|>", "|", "^"]

def expressionRule : Part :=
  let choice := sym "?" ++ opt (self .expression) ++ colon ++ self .expression
  let tail := (anySym binaryMarks ++ self .operand) <|>
    (anyWord ["instanceof", "and", "or", "xor"] ++ self .operand) <|> choice
  node .item (self .operand ++ many tail)

end Docent.Page
