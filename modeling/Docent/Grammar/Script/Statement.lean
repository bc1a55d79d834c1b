import Docent.Grammar.Script.Expression

/-!
# Statements of scripts

The rules for statements, declarations and the bodies of classes. A class is a `classDecl` with its
decorators, its members stand in a `body`, and an export is an `exportDecl` around what it exports.
-/

namespace Docent.Script

open Scan Scan.Reader

variable (d : Dialect) (self : Rule → Part)

/-! ### Blocks and class bodies -/

/-- Statements between braces; a semicolon may be left out after them. -/
def blockRule (operand : Bool) : Part :=
  node .item (sym "\x7b" ++ many (self .statement) ++ sym "\x7d" ++
    opt (leftOut d ⟨operand, false⟩))

/-- The words that modify a field, where the line goes on after them. -/
def fieldWords : Part :=
  let m := modifier d true
  if d.types then
    opt ((m "declare" ++ opt (anyModifier d true accessWords)) <|>
        (anyModifier d true accessWords ++ opt (m "declare"))) ++
      ((m "static" ++ opt (m "override") ++ opt (m "readonly")) <|>
        (m "abstract" ++ opt (m "readonly")) <|> (m "readonly" ++ m "abstract") <|>
        (m "override" ++ opt (m "readonly")) <|> m "readonly" <|> m "accessor" <|> pure [])
  else opt (m "static")

/-- The words `static` and `get` with a line break after them, which modify what comes next. -/
def brokenGetter : Part :=
  let space : Shape := .many1 (.one isSpace)
  let sameLine : Shape := .many (.one fun c => isSpace c && c != '\n')
  tokenOf (.exactly "static" ++ space ++ .exactly "get" ++ sameLine ++ .char '\n') .token

def field (value : Part) : Part :=
  let mark := if d.types then opt (anySym ["?", "!"]) ++ opt (typeMark self true) else pure []
  node .item (many (decorator d self) ++ (brokenGetter <|> fieldWords d) ++ self .propertyName ++
    mark ++ value)

def methodMember : Part :=
  let broken := brokenGetter ++ self .propertyName ++ self (.signature true true) ++
    self (.block false)
  if d.types then many (decorator d self) ++ node .method (broken <|> methodPart d self true)
  else node .method (many (decorator d self) ++ (broken <|> methodPart d self true))

def methodSignature : Part :=
  let modifiers := opt (anyStarModifier d true accessWords) ++ opt (starModifier d true "static") ++
    opt (starModifier d true "override") ++ opt (starModifier d true "readonly") ++
    opt (starModifier d true "async")
  let accessor := opt (modifier d true "get" <|> modifier d true "set" <|> sym "*")
  node .item (modifiers ++ accessor ++ self .propertyName ++ opt (sym "?") ++
    self (.signature true true))

def abstractSignature : Part :=
  let accessor := opt (modifier d true "get" <|> modifier d true "set" <|> sym "*")
  node .item (opt (anyModifier d true accessWords) ++ modifier d true "abstract" ++
    opt (modifier d true "override") ++ accessor ++ self .propertyName ++ opt (sym "?") ++
    self (.signature true true))

def indexSignature : Part :=
  let mapped := named .item ++ word "in" ++ self (.type false) ++
    opt (word "as" ++ self (.type false))
  node .item (opt (opt (anySym ["-", "+"]) ++ word "readonly") ++ sym "[" ++
    ((named .item ++ sym ":" ++ self (.type false)) <|> mapped) ++ sym "]" ++
    anySym ["?:", "-?:", "+?:", ":"] ++ self (.type true))

def classMember : Part :=
  let staticBlock := node .item (word "static" ++ self (.block false))
  let initialized := field d self (initial self .outer) ++ (if d.types then
    semicolon d true <|> sym "," else semicolon d true)
  let plain := field d self (pure []) ++ (if d.types then
    semicolon d false <|> sym "," else semicolon d false)
  let signature := methodSignature d self ++ (leftOut d ⟨false, true⟩ <|> anySym [",", ";"])
  let typed :=
    ((abstractSignature d self <|> indexSignature self) ++ (semicolon d false <|> sym ",")) <|>
      signature
  (methodMember d self ++ opt (if d.types then semicolon d false else sym ";")) <|>
    staticBlock <|> sym ";" <|> (if d.types then typed else fail) <|> initialized <|> plain

def classBodyRule : Part :=
  node .body (sym "\x7b" ++ many (classMember d self) ++ sym "\x7d")

/-! ### Declarations -/

def classDeclaration : Part :=
  node .classDecl (many (decorator d self) ++ word "class" ++ className d ++ classRest d self ++
    opt (leftOut d ⟨false, false⟩))

def abstractClassDeclaration : Part :=
  node .abstractClassDecl (many (decorator d self) ++ word "abstract" ++ word "class" ++
    named .name ++ classRest d self)

def functionDeclaration : Part :=
  let head := opt (leadWord d true "async") ++ word "function"
  let whole := opt (sym "*") ++ d.name .item ++ self (.signature true true) ++ self (.block false)
  let signature := d.name .item ++ self (.signature true true) ++
    (leftOut d ⟨false, true⟩ <|> sym ";")
  node .item (head ++ (whole <|> (if d.types then signature else fail)))

def isInitialized (f : Forest) : Bool :=
  match f.getLast? with
  | some t => t.kids.any fun k => k.kind = .token && k.text = ['=']
  | none => false

def variable' : Part :=
  let target := d.name .item <|> self .destructuring
  let annotated := opt (typeMark self true)
  if d.types then
    node .item ((d.name .item ++ sym "!" ++ typeMark self true) <|>
      (target ++ annotated ++ opt (initial self .outer)))
  else node .item (target ++ opt (initial self .outer))

def variableNames : Part := do
  let f ← sepBy (variable' d self) (sym ",")
  (f ++ ·) <$> semicolon d (isInitialized f)

def variableDeclaration : Part :=
  node .item (anyWord ["let", "const", "var"] ++ variableNames d self) <|>
    node .item (opt (leadWord d true "await") ++ leadWord d true "using" ++ variableNames d self)

def moduleRest : Part := (dottedNames <|> stringPart) ++ opt (self (.block false))

def enumDeclaration : Part :=
  let member := node .item (self .propertyName ++ opt (initial self .inner))
  node .item (opt (word "const") ++ word "enum" ++ named .item ++
    node .item (sym "\x7b" ++ opt (commaList member) ++ sym "\x7d"))

def interfaceDeclaration : Part :=
  let extended := word "extends" ++ sepBy (self (.type false)) (sym ",")
  node .item (word "interface" ++ named .item ++ opt (self .typeParameters) ++
    opt (node .item extended) ++ self .objectType)

def aliasDeclaration : Part :=
  node .item (leadWord d true "type" ++ named .item ++ opt (self .typeParameters) ++ sym "=" ++
    self (.type true) ++ semicolon d false)

def importAlias : Part :=
  node .item (word "import" ++ named .item ++ sym "=" ++ dottedNames ++ semicolon d false)

def typedDeclaration : Part :=
  abstractClassDeclaration d self <|>
    node .item (leadWord d true "module" ++ moduleRest self) <|>
    node .item (leadWord d true "namespace" ++ moduleRest self) <|>
    aliasDeclaration d self <|> enumDeclaration self <|> interfaceDeclaration self <|>
    importAlias d

def plainDeclaration : Part :=
  (if d.types then typedDeclaration d self else fail) <|> functionDeclaration d self <|>
    classDeclaration d self <|> variableDeclaration d self

def ambientDeclaration : Part :=
  let property := word "module" ++ sym "." ++ named .item ++ sym ":" ++ self (.type true) ++
    semicolon d false
  node .item (leadWord d true "declare" ++
    (plainDeclaration d self <|> (word "global" ++ self (.block false)) <|> property))

def declaration : Part :=
  plainDeclaration d self <|> (if d.types then ambientDeclaration d self else fail)

/-! ### Imports and exports -/

def exchangedName : Part := d.name .item <|> word "default" <|> stringPart

def typeOnly : Part := if d.types then anyWord ["type", "typeof"] else fail

def exchangedNames : Part :=
  let plain := exchangedName d ++ opt (word "as" ++ exchangedName d)
  let item := node .item ((typeOnly d ++ plain) <|> plain)
  node .item (sym "\x7b" ++ opt (commaList item) ++ sym "\x7d")

def origin : Part :=
  stringPart ++
    opt (goesOn d true false ++ anyWord ["with", "assert"] ++ self (.expression .inner))

def fromOrigin : Part := goesOn d true false ++ word "from" ++ origin d self

def importStatement : Part :=
  let all := sym "*" ++ word "as" ++ d.name .item
  let clause := all <|> exchangedNames d <|>
    (d.name .item ++ opt (sym "," ++ (all <|> exchangedNames d)))
  let required := d.name .item ++ sym "=" ++ word "require" ++ sym "(" ++ stringPart ++ sym ")"
  let rest := (clause ++ fromOrigin d self) <|> (if d.types then required else fail) <|>
    origin d self
  node .item (word "import" ++ ((typeOnly d ++ rest) <|> rest) ++ semicolon d false)

def exportStatement : Part :=
  let source := fromOrigin d self
  let exchanged :=
    ((sym "*" ++ source) <|> (sym "*" ++ word "as" ++ exchangedName d ++ source) <|>
      (exchangedNames d ++ opt source)) ++ semicolon d false
  let standard := word "default" ++
    (declaration d self <|> (self (.expression .outer) ++ semicolon d true))
  let typed :=
    (word "type" ++ exchangedNames d ++ opt source ++ semicolon d false) <|>
      (sym "=" ++ self (.expression .outer) ++ semicolon d true) <|>
      (word "as" ++ word "namespace" ++ named .item ++ semicolon d false)
  node .exportDecl
    ((word "export" ++ (exchanged <|> (if d.types then typed else fail))) <|>
      (many (decorator d self) ++ word "export" ++ (standard <|> declaration d self)))

/-! ### Statements -/

def condition : Part := bracketed d self

def forHeader : Part :=
  let target := d.name .item <|> self .destructuring
  let declared := (word "var" ++ target ++ opt (initial self .inner)) <|>
    (anyWord ["let", "const", "using"] ++ target ++ opt (leftOut d ⟨false, false⟩)) <|>
    (word "await" ++ word "using" ++ target)
  let left := declared <|> self .target <|> bracketed d self
  let walk := left ++ anyWord ["in", "of"] ++ self (.sequence .inner)
  let start := variableDeclaration d self <|> (self (.sequence .inner) ++ sym ";") <|> sym ";"
  let test := (self (.sequence .inner) ++ sym ";") <|> sym ";"
  node .item (sym "(" ++ (walk <|> (start ++ test ++ opt (self (.sequence .inner)))) ++ sym ")")

def switchBody : Part :=
  let label := (word "case" ++ self (.sequence .inner)) <|> word "default"
  node .item (sym "\x7b" ++ many (node .item (label ++ sym ":" ++ many (self .statement))) ++
    sym "\x7d")

def tryStatement : Part :=
  let caught := sym "(" ++ (d.name .item <|> self .destructuring) ++
    (if d.types then opt (typeMark self false) else pure []) ++ sym ")"
  word "try" ++ self (.block false) ++
    opt (node .item (word "catch" ++ opt caught ++ self (.block false))) ++
    opt (node .item (word "finally" ++ self (.block false)))

def leave (s : String) : Part :=
  word s ++ (semicolon d false <|> (d.name .item ++ semicolon d false))

def keywordStatement : Part :=
  let body := self .statement
  node .item (word "if" ++ condition d self ++ body ++ opt (node .item (word "else" ++ body))) <|>
    node .item (word "for" ++ opt (word "await") ++ forHeader d self ++ body) <|>
    node .item (word "while" ++ condition d self ++ body) <|>
    node .item (word "do" ++ body ++ word "while" ++ condition d self ++
      opt (semicolon d false)) <|>
    node .item (word "switch" ++ condition d self ++ switchBody self) <|>
    node .item (tryStatement d self) <|>
    node .item (word "with" ++ condition d self ++ body) <|>
    node .item (word "return" ++
      (semicolon d false <|> (self (.sequence .outer) ++ semicolon d true))) <|>
    node .item (word "throw" ++ self (.sequence .outer) ++ semicolon d true) <|>
    node .item (leave d "break") <|> node .item (leave d "continue") <|>
    node .item (word "debugger" ++ semicolon d false)

def label : Part :=
  tokenOf (wordWhere fun cs => d.isOperand cs && !oneOf d.statementWords cs) .item

def expressionStatement : Part :=
  absent (anyWord d.statementWords) ++
    node .item (self (.sequence .outer) ++ semicolon d true)

def statementRule : Part :=
  (ahead (sym "\x7b") ++ ((ahead (self .destructuring ++ initial self .outer) ++
      expressionStatement d self) <|> self (.block false) <|> expressionStatement d self)) <|>
    exportStatement d self <|> importStatement d self <|> keywordStatement d self <|>
    declaration d self <|> node .item (sym ";") <|>
    node .item (label d ++ sym ":" ++ self .statement) <|> expressionStatement d self

end Docent.Script
