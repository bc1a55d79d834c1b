import Docent.Grammar.Script.Markup
import Docent.Grammar.Script.Types

/-!
# Expressions of scripts

The rules for expressions and for the patterns that take values apart. The strength of operators
plays no part: an expression is a run of operands with operators between.
-/

namespace Docent.Script

open Scan Scan.Reader

variable (d : Dialect) (self : Rule → Part)

/-! ### Names of members -/

def propertyNameRule : Part :=
  named .name <|> tokenOf privateName .name <|> tokenOf string .name <|> tokenOf number .name <|>
    node .name (sym "[" ++ self (.expression .inner) ++ sym "]")

/-! ### Parameters and patterns -/

def initial (c : Context) : Part := symBut "=" ['=', '>'] ++ self (.expression c)

def restTarget : Part := sym "..." ++ self .target

def destructuringRule : Part :=
  let value := self .target ++ opt (initial self .inner)
  let pair := self .propertyName ++ sym ":" ++ value
  let short := tokenOf (wordWhere d.isOperand) .item ++ opt (initial self .inner)
  let nested := self .destructuring ++ initial self .inner
  node .item
    ((sym "[" ++ looseList (restTarget self <|> value) ++ sym "]") <|>
      (sym "\x7b" ++ looseList (restTarget self <|> pair <|> short <|> nested) ++ sym "\x7d"))

def isAssignable (f : Forest) : Bool :=
  match lastForm? f with
  | some .variable | some .attribute | some .subscript => true
  | _ => false

def continuation : Part := anySym [".", "?.", "[", "(", "`"]

def targetRule : Part :=
  (self .destructuring ++ absent continuation) <|> do
    let f ← self (.leftSide .inner)
    if isAssignable f then return f else fail

/-- A member that is written like a method: words before the name, the name, the signature and the
body. -/
def methodPart (breaks : Bool) : Part :=
  let modifiers :=
    if d.types then
      opt (anyStarModifier d breaks accessWords) ++ opt (starModifier d breaks "static") ++
        opt (starModifier d breaks "override") ++ opt (starModifier d breaks "readonly")
    else opt (starModifier d breaks "static")
  let head := opt (starModifier d breaks "async") ++
    opt (modifier d breaks "get" <|> modifier d breaks "set" <|> sym "*")
  let mark := if d.types then opt (sym "?") else pure []
  modifiers ++ head ++ self .propertyName ++ mark ++ self (.signature breaks true) ++
    self (.block false)

def decorator : Part :=
  let plain := d.name .item ++ many (sym "." ++ (named .item <|> tokenOf privateName .item))
  let arguments := sym "(" ++ looseList
    ((sym "..." ++ self (.expression .inner)) <|> self (.expression .inner)) ++ sym ")"
  let call := plain ++ opt ((if d.types then opt (self .typeArguments) else pure []) ++ arguments)
  node .decorator
    (sym "@" ++ (call <|> (if d.types then sym "(" ++ call ++ sym ")" else fail)))

def parameter : Part :=
  let start := ahead (named .item <|> sym "\x7b" <|> sym "[" <|> sym "...")
  let modifiers := many (decorator d self) ++ opt (anyWord accessWords ++ start) ++
    opt (word "override" ++ start) ++ opt (word "readonly" ++ start)
  let pattern := restTarget self <|> self .target
  if d.types then
    node .item (modifiers ++ (pattern <|> word "this") ++ opt (sym "?") ++
      opt (typeMark self false) ++ opt (initial self .inner))
  else node .item (pattern ++ opt (initial self .inner))

def parametersRule : Part :=
  node .item (sym "(" ++ opt (commaList (parameter d self)) ++ sym ")")

/-! ### Functions -/

def asyncWord (c : Context) : Part := leadWord d c.breaks "async"

def arrowFunction (c : Context) : Part :=
  let result := !c.bare
  let heads := (tokenOf (wordWhere d.isOperand) .item <|> self (.signature false result)) ++ sym "=>"
  let start := ahead (named .item <|> sym "(" <|> sym "<")
  node .item (((asyncWord d c ++ start ++ heads) <|> heads) ++
    (self (.block true) <|> self (.expression c)))

def functionExpression (c : Context) : Part :=
  node .item (opt (asyncWord d c) ++ word "function" ++ opt (sym "*") ++ opt (d.name .item) ++
    self (.signature false true) ++ self (.block true))

/-! ### Classes -/

def classRest : Part :=
  let extended := node .item (word "extends" ++ self (.expression .inner) ++
    (if d.types then many (sym "," ++ self (.expression .inner)) else pure []))
  let implemented := node .item (word "implements" ++ sepBy (self (.type false)) (sym ","))
  if d.types then
    opt (self .typeParameters) ++ opt extended ++ opt implemented ++ self .classBody
  else opt extended ++ self .classBody

def classGoesOn : List String := ["extends", "implements"]

def className : Part :=
  if d.types then tokenOf (wordWhere fun cs => !oneOf classGoesOn cs) .name else d.name .name

def classExpression : Part :=
  node .item (many (decorator d self) ++ word "class" ++ opt (className d) ++ classRest d self)

/-! ### Operands -/

def arguments : Part :=
  node .item (sym "(" ++ looseList
    ((sym "..." ++ self (.expression .inner)) <|> self (.expression .inner)) ++ sym ")")

def templateRule : Part :=
  let hole := node .item
    (rawTokenOf (.exactly "$\x7b") .token ++ self (.sequence .inner) ++ sym "\x7d")
  node (.form .string) (tokenOf (.char '`') .token ++
    many (rawTokenOf (templateText <|> escape) .token <|> hole) ++ rawTokenOf (.char '`') .token)

def objectMember : Part :=
  (sym "..." ++ self (.expression .inner)) <|>
    node .item (self .propertyName ++ sym ":" ++ self (.expression .inner)) <|>
    node .method (methodPart d self false) <|>
    tokenOf (wordWhere d.isOperand) .item

def bracketed : Part :=
  node (.form .group) (sym "(" ++ self (.sequence .inner) ++
    (if d.types then opt (typeMark self false) else pure []) ++ sym ")")

def operandAhead : Part :=
  let follows := ["as", "satisfies", "in", "instanceof", "implements", "extends", "is", "of"]
  ahead (tokenOf (wordWhere (!oneOf follows ·)) .item <|> tokenOf number .item <|>
    tokenOf string .item <|> tokenOf privateName .item <|> symBut "!" ['='] <|> anySym ["~", "@"])

def primary (c : Context) : Part :=
  arrowFunction d self c <|> functionExpression d self c <|> classExpression d self <|>
    node .item (word "new" ++ ((sym "." ++ word "target") <|>
      (self (.leftSide c) ++ (if d.types then opt (self .typeArguments) else pure [])))) <|>
    node .item (word "import" ++ ahead (anySym [".", "("])) <|>
    bracketed d self <|>
    node (.form .list) (sym "[" ++ looseList
      ((sym "..." ++ self (.expression .inner)) <|> self (.expression .inner)) ++ sym "]") <|>
    node (.form .dict) (sym "\x7b" ++ looseList (objectMember d self) ++ sym "\x7d") <|>
    node (.form .string) stringPart <|> node (.form .number) (tokenOf number .token) <|>
    self .template <|> node .item (tokenOf regex .token) <|>
    node .item (anyWord ["this", "super", "null", "true", "false"]) <|>
    node (.form .variable) (tokenOf (wordWhere d.isOperand) .token)

def leftStep (c : Context) (f : Forest) : Part :=
  let property := named .item <|> tokenOf privateName .item
  let index := sym "[" ++ self (.sequence .inner) ++ sym "]"
  let optional := symBut "?." ['0', '1', '2', '3', '4', '5', '6', '7', '8', '9']
  let as (k : Form) (p : Part) : Part := do return Tree.close (.form k) (f ++ (← p))
  let typed :=
    if d.types then
      as .attribute (symBut "!" ['=']) <|>
        as .call (self .typeArguments ++
          (arguments self <|> self .template <|>
            (if c.breaks then leftOut d ⟨false, false⟩ else fail) <|> absent operandAhead)) <|>
        as .call (optional ++ self .typeArguments ++ arguments self)
    else fail
  goesOn d c.breaks true ++
    (as .attribute (sym "." ++ property) <|> as .attribute (optional ++ property) <|>
      as .subscript (opt optional ++ index) <|> as .call (opt optional ++ arguments self) <|>
      as .call (self .template) <|> typed <|> as .operation (anySym ["++", "--"]))

def leftSideRule (c : Context) : Part := extend (primary d self c) (leftStep d self c)

def compoundMarks : List String :=
  ["+=", "-=", "*=", "/=", "%=", "^=", "&=", "|=", ">>=", ">>>=", "<<=", "**=", "&&=", "||=",
    "??="]

def assignment (c : Context) : Part := do
  let f ← self (.leftSide c)
  if isAssignable f || lastForm? f = some .group then
    (f ++ ·) <$> opt (initial self c <|> (anySym compoundMarks ++ self (.expression c)))
  else return f

def operandRule (c : Context) : Part :=
  let operand := self (.operand c)
  let unary := anySym ["++", "--", "!", "~", "-", "+"] ++ operand
  let worded := anyWord ["typeof", "void", "delete"] ++ operand
  let awaiting := word "await" ++ operand
  let yielding := word "yield" ++ ((sym "*" ++ self (.expression c)) <|>
    (goesOn d c.breaks false ++ self (.expression c)) <|> pure [])
  let asserted := sym "<" ++ self (.type false) ++ sym ">" ++ operand
  let taken := self .destructuring ++ initial self c
  let contained := tokenOf privateName .item ++ ahead (word "in")
  unary <|> worded <|> awaiting <|> yielding <|> taken <|> contained <|> assignment self c <|>
    (if d.markup then self .markup else fail) <|>
    (if d.types && !d.markup then asserted else fail)

/-! ### Expressions -/

/-- The marks between two operands, longer ones first. -/
def binaryMarks : List String :=
  ["**", "*", "/", "%", "+", "-", "<<", ">>>", ">>", "<=", ">=", "<", ">", "===", "!==", "==",
    "!=", "&&", "||", "??", "&", "|", "^"]

def questionMark : Part :=
  tokenOf (.char '?' ++ .absent (.char '?') ++ .absent (.char '.' ++ .absent (.one isDigit))) .token

def expressionTail (c : Context) : Part :=
  let choice (middle : Context) : Part :=
    self (.expression middle) ++ sym ":" ++ self (.expression c)
  let typed :=
    if d.types then
      (word "as" ++ (word "const" <|> self (.type c.breaks))) <|>
        (word "satisfies" ++ self (.type c.breaks))
    else fail
  goesOn d c.breaks true ++
    ((anySym binaryMarks ++ self (.operand c)) <|>
      (anyWord ["instanceof", "in"] ++ self (.operand c)) <|> typed <|>
      (questionMark ++
        (choice .inner <|> (if d.types then choice ⟨false, true⟩ else fail))))

def expressionRule (c : Context) : Part :=
  node .item (self (.operand c) ++ many (expressionTail d self c))

def sequenceRule (c : Context) : Part :=
  node .item (self (.expression c) ++
    many (goesOn d c.breaks true ++ sym "," ++ self (.expression c)))

end Docent.Script
