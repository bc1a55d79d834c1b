import Docent.Grammar.Indented.Pattern

/-!
# Statements of indentation-structured sources

The rules for simple and compound statements. A suite is a `body` whose parts are its statements; a
class is a `classDecl` and a function a `method`, decorators included.
-/

namespace Docent.Indented

open Reader

variable (self : Rule → Reader Forest)

/-! ### Simple statements -/

def annotatedValue : Reader Forest := yieldExpression self <|> self .starExpressions

def augmentedMark : Reader Forest :=
  anySym ["+=", "-=", "*=", "@=", "/=", "%=", "&=", "|=", "^=", "<<=", ">>=", "**=", "//="]

def explainAssignment : Reader Forest :=
  explaining (do
      let l ← line
      let a ← self .annotatedTarget
      let _ ← sym ":" ++ self .expression
      refuseForm (fun f => .annotated (formLabel f)) l a) <|>
    explaining (do
      let l ← line
      let a ← starNamedExpression self
      let _ ← sym "," ++ many (starNamedExpressions self) ++ sym ":" ++ self .expression
      refuseAt (.annotated "tuple") l a) <|>
    explaining (do
      let l ← line
      let a ← self .expression
      let _ ← sym ":" ++ self .expression
      refuseAt .annotationTarget l a) <|>
    explaining (commit
      (do
        let _ ← many (self .starTargets ++ sym "=")
        let l ← line
        let a ← self .starExpressions
        let _ ← sym "="
        return (l, a))
      (fun (l, a) => refuseTarget .assignment l a)
      ((do
          let _ ← many (self .starTargets ++ sym "=")
          let l ← line
          let a ← yieldExpression self
          let _ ← sym "="
          refuseAt .assignYield l a) <|>
        (do
          let l ← line
          let a ← self .starExpressions
          let _ ← augmentedMark ++ (yieldExpression self <|> self .starExpressions)
          refuseForm .augmented l a)))

def assignment : Reader Forest :=
  let value := yieldExpression self <|> self .starExpressions
  node .item (name (.form .variable) ++ sym ":" ++ self .expression ++
      opt (sym "=" ++ annotatedValue self)) <|>
    node .item (((sym "(" ++ self .singleTarget ++ sym ")") <|> subscriptAttributeTarget self) ++
      sym ":" ++ self .expression ++ opt (sym "=" ++ annotatedValue self)) <|>
    node .item (many1 (self .starTargets ++ sym "=") ++ value ++ absent (sym "=")) <|>
    commit (self .singleTarget ++ augmentedMark)
      (fun a => do return Tree.close .item (a ++ (← value)))
      (explainAssignment self)

def dottedName : Reader Forest := name .token ++ many (sym "." ++ name .token)

def importName : Reader Forest :=
  sym "import" ++ sepBy (dottedName ++ opt (sym "as" ++ name .token)) (sym ",")

def importedNames : Reader Forest := sepBy (name .token ++ opt (sym "as" ++ name .token)) (sym ",")

def importTargets : Reader Forest :=
  (sym "(" ++ importedNames ++ opt (sym ",") ++ sym ")") <|>
    (importedNames ++ absent (sym ",")) <|> sym "*" <|>
    explaining (do
      let _ ← importedNames ++ sym "," ++ newline
      refuseHere .trailingImportComma)

def importFrom : Reader Forest :=
  let dots := anySym [".", "..."]
  (sym "from" ++ many dots ++ dottedName ++ sym "import" ++ importTargets) <|>
    (sym "from" ++ many1 dots ++ sym "import" ++ importTargets)

def delStatement : Reader Forest :=
  (sym "del" ++ delTargets self ++ ahead (sym ";" <|> newline)) <|>
    explaining (do
      let _ ← sym "del"
      let l ← line
      let a ← self .starExpressions
      refuseTarget .deletion l a)

def raiseStatement : Reader Forest :=
  (sym "raise" ++ self .expression ++ opt (sym "from" ++ self .expression)) <|> sym "raise"

def keyed (k : String) (p : Reader Forest) : Reader Forest := ahead (sym k) ++ node .item p

def simpleStatementRule : Reader Forest :=
  assignment self <|> self .starExpressions <|>
    keyed "return" (sym "return" ++ opt (self .starExpressions)) <|>
    (ahead (anySym ["import", "from"]) ++ node .item (importName <|> importFrom)) <|>
    keyed "raise" (raiseStatement self) <|>
    node .item (sym "pass") <|>
    keyed "del" (delStatement self) <|>
    (ahead (sym "yield") ++ yieldExpression self) <|>
    keyed "assert" (sym "assert" ++ self .expression ++ opt (sym "," ++ self .expression)) <|>
    node .item (sym "break") <|> node .item (sym "continue") <|>
    keyed "global" (sym "global" ++ sepBy (name .token) (sym ",")) <|>
    keyed "nonlocal" (sym "nonlocal" ++ sepBy (name .token) (sym ","))

def simpleStatements : Reader Forest :=
  (self .simpleStatement ++ absent (sym ";") ++ newline) <|>
    (sepBy (self .simpleStatement) (sym ";") ++ opt (sym ";") ++ newline)

/-! ### Suites -/

def blockRule : Reader Forest :=
  node .body (newline ++ indent ++ self .statements ++ dedent) <|>
    node .body (simpleStatements self) <|>
    explaining (do
      let _ ← newline ++ absent indent
      refuseHere .noSuite)

/-- The refusal of a header, begun on a line, after which the suite is missing. -/
def explainSuite (owner : SuiteOwner) (header : Reader Forest) : Reader Forest :=
  explaining do
    let l ← line
    let _ ← header ++ sym ":" ++ newline ++ absent indent
    refuseHere (.noSuiteFor owner l)

def explainColon (header : Reader Forest) : Reader Forest :=
  explaining do
    let _ ← header ++ newline
    refuseHere (.expected ":")

/-! ### Definitions -/

def decorators : Reader Forest :=
  many1 (node .decorator (sym "@" ++ self .namedExpression ++ newline))

def baseClasses : Reader Forest := opt (sym "(" ++ opt (self .arguments) ++ sym ")")

def rawClass : Reader Forest :=
  let header (k : Kind) := sym "class" ++ name k ++ baseClasses self
  explainColon (header .token) <|>
    explainSuite .classDefinition (header .token) <|>
    (header .name ++ sym ":" ++ self .block)

def classDefinition : Reader Forest :=
  node .classDecl (decorators self ++ rawClass self) <|> node .classDecl (rawClass self)

def rawFunction : Reader Forest :=
  let returned := opt (sym "->" ++ self .expression)
  let params := opt (parameters self functionStyle)
  let tail := sym "def" ++ name .name ++ need "(" ++ params ++ sym ")" ++ returned ++ need ":" ++
    self .block
  explaining (do
      let _ ← opt (sym "async")
      let l ← line
      let _ ← sym "def" ++ name .token ++ sym "(" ++ params ++ sym ")" ++ returned ++ sym ":" ++
        newline ++ absent indent
      refuseHere (.noSuiteFor .functionDefinition l)) <|>
    tail <|> (sym "async" ++ tail)

def functionDefinition : Reader Forest :=
  node .method (decorators self ++ rawFunction self) <|> node .method (rawFunction self)

/-! ### Compound statements -/

/-- A header with an optional keyword `async`, whose line is that of the keyword after it. -/
def explainAsyncSuite (owner : SuiteOwner) (header : Reader Forest) : Reader Forest :=
  explaining do
    let _ ← opt (sym "async")
    let l ← line
    let _ ← header ++ sym ":" ++ newline ++ absent indent
    refuseHere (.noSuiteFor owner l)

def elseBlock : Reader Forest :=
  explainSuite (.statement "else") (sym "else") <|> (sym "else" ++ need ":" ++ self .block)

def conditionBlock (k : String) : Reader Forest :=
  let header := sym k ++ self .namedExpression
  explainColon header <|> explainSuite (.statement k) header <|>
    (header ++ sym ":" ++ self .block ++ self .elifStatement) <|>
    (header ++ sym ":" ++ self .block ++ opt (elseBlock self))

def whileStatement : Reader Forest :=
  let header := sym "while" ++ self .namedExpression
  explainColon header <|> explainSuite (.statement "while") header <|>
    (header ++ sym ":" ++ self .block ++ opt (elseBlock self))

def forStatement : Reader Forest :=
  let header := sym "for" ++ self .starTargets ++ sym "in" ++ self .starExpressions
  let tail (a : Forest) : Reader Forest := do
    return a ++ (← self .starExpressions ++ sym ":" ++ self .block ++ opt (elseBlock self))
  explainColon (opt (sym "async") ++ header) <|>
    explainAsyncSuite (.statement "for") header <|>
    commit (sym "for" ++ self .starTargets ++ sym "in") tail
      (commit (sym "async" ++ sym "for" ++ self .starTargets ++ sym "in") tail
        (explainForTarget self))

def withItem : Reader Forest :=
  (self .expression ++ sym "as" ++ self .starTarget ++ ahead (anySym [",", ")", ":"])) <|>
    explaining (do
      let _ ← self .expression ++ sym "as"
      let l ← line
      let a ← self .expression
      let _ ← ahead (anySym [",", ")", ":"])
      refuseTarget .assignment l a) <|>
    self .expression

def withStatement : Reader Forest :=
  let loose := sym "with" ++
    sepBy (self .expression ++ opt (sym "as" ++ self .starTarget)) (sym ",")
  let tight := sym "with" ++ sym "(" ++
    sepBy (expressions self ++ opt (sym "as" ++ self .starTarget)) (sym ",") ++ opt (sym ",") ++
    sym ")"
  let bracketed := sym "with" ++ sym "(" ++ sepBy (withItem self) (sym ",") ++ opt (sym ",") ++
    sym ")" ++ sym ":" ++ self .block
  let plain := sym "with" ++ sepBy (withItem self) (sym ",") ++ sym ":" ++ self .block
  explainAsyncSuite (.statement "with") loose <|>
    explainAsyncSuite (.statement "with") tight <|>
    bracketed <|> plain <|> (sym "async" ++ bracketed) <|> (sym "async" ++ plain) <|>
    explainColon (opt (sym "async") ++ loose) <|> explainColon (opt (sym "async") ++ tight)

def finallyBlock : Reader Forest :=
  explainSuite (.statement "finally") (sym "finally") <|>
    (sym "finally" ++ need ":" ++ self .block)

/-- The refusal of an `except` that names its types in a wrong way or lacks its colon. -/
def explainHandler : Reader Forest :=
  let asName := opt (sym "as" ++ name .token)
  explaining (do
      let _ ← sym "except" ++ opt (sym "*")
      let l ← line
      let a ← self .expression
      let _ ← sym "," ++ expressions self ++ asName ++ sym ":"
      refuseAt .looseHandlerTypes l a) <|>
    explainColon (sym "except" ++ opt (sym "*") ++ self .expression ++ asName) <|>
    explainColon (sym "except") <|>
    explaining (do
      let _ ← sym "except" ++ sym "*" ++ (newline <|> sym ":")
      refuseHere .noHandlerType)

def exceptBlock : Reader Forest :=
  let typed := sym "except" ++ self .expression ++ opt (sym "as" ++ name .token)
  explainSuite (.statement "except") typed <|>
    explainSuite (.statement "except") (sym "except") <|>
    (typed ++ sym ":" ++ self .block) <|> (sym "except" ++ sym ":" ++ self .block) <|>
    explainHandler self

def exceptStarBlock : Reader Forest :=
  let typed := sym "except" ++ sym "*" ++ self .expression ++ opt (sym "as" ++ name .token)
  explainSuite .exceptStarStatement typed <|> (typed ++ sym ":" ++ self .block) <|>
    explainHandler self

def tryStatement : Reader Forest :=
  let plain := many1 (exceptBlock self)
  let starred := many1 (exceptStarBlock self)
  explainSuite (.statement "try") (sym "try") <|>
    explaining (do
      let _ ← sym "try" ++ sym ":" ++ self .block ++ absent (anySym ["except", "finally"])
      refuseHere .noHandler) <|>
    explaining (do
      let _ ← sym "try" ++ sym ":" ++ many (self .block) ++
        ((plain ++ exceptStarBlock self) <|> (starred ++ exceptBlock self)) ++ many (self .block)
      refuseHere .mixedHandlers) <|>
    (sym "try" ++ need ":" ++ self .block ++ finallyBlock self) <|>
    (sym "try" ++ need ":" ++ self .block ++ plain ++ opt (elseBlock self) ++
      opt (finallyBlock self)) <|>
    (sym "try" ++ need ":" ++ self .block ++ starred ++ opt (elseBlock self) ++
      opt (finallyBlock self))

def caseBlock : Reader Forest :=
  let header := word "case" ++ patterns self ++ opt (sym "if" ++ self .namedExpression)
  explainColon header <|> explainSuite (.statement "case") header <|>
    node .item (header ++ sym ":" ++ self .block)

def matchStatement : Reader Forest :=
  let subject :=
    (starNamedExpression self ++ sym "," ++ opt (starNamedExpressions self)) <|>
      self .namedExpression
  (word "match" ++ subject ++ sym ":" ++ newline ++ indent ++ many1 (caseBlock self) ++ dedent) <|>
    explainColon (word "match" ++ subject) <|>
    explainSuite (.statement "match") (word "match" ++ subject)

def compoundStatement : Reader Forest :=
  (ahead (anySym ["def", "@", "async"]) ++ functionDefinition self) <|>
    keyed "if" (conditionBlock self "if") <|>
    (ahead (anySym ["class", "@"]) ++ classDefinition self) <|>
    (ahead (anySym ["with", "async"]) ++ node .item (withStatement self)) <|>
    (ahead (anySym ["for", "async"]) ++ node .item (forStatement self)) <|>
    keyed "try" (tryStatement self) <|>
    keyed "while" (whileStatement self) <|>
    node .item (matchStatement self)

def statementsRule : Reader Forest := many1 (compoundStatement self <|> simpleStatements self)

/-! ### All rules -/

/-- The reader of each rule over the readers of the rules it is built from. -/
def step : Rule → Reader Forest
  | .statements => statementsRule self
  | .simpleStatement => simpleStatementRule self
  | .block => blockRule self
  | .elifStatement => conditionBlock self "elif"
  | .expression => expressionRule self
  | .plainExpression => plainExpressionRule self
  | .starExpression => starExpressionRule self
  | .starExpressions => listed (self .starExpression)
  | .namedExpression => namedExpressionRule self
  | .disjunction => joined self "or" .conjunction
  | .conjunction => joined self "and" .inversion
  | .inversion => inversionRule self
  | .bitwiseOr => chain self ["|"] .bitwiseXor
  | .bitwiseXor => chain self ["^"] .bitwiseAnd
  | .bitwiseAnd => chain self ["&"] .shift
  | .shift => chain self ["<<", ">>"] .sum
  | .sum => chain self ["+", "-"] .term
  | .term => chain self ["*", "/", "//", "%", "@"] .factor
  | .factor => factorRule self
  | .awaitPrimary => awaitPrimaryRule self
  | .primary => primaryRule self
  | .atom => atom self
  | .strings => stringLiterals
  | .arguments => argumentsRule self
  | .slices => slicesRule self
  | .generator => generatorExpression self
  | .starTarget => starTargetRule self
  | .starTargets => starTargetsRule self
  | .targetWithStarAtom => targetWithStarAtomRule self
  | .singleTarget => singleTargetRule self
  | .targetPrimary => targetPrimaryRule self
  | .delTarget => delTargetRule self
  | .annotatedTarget => annotatedTargetRule self
  | .pattern => patternRule self
  | .openSequencePattern => openSequencePatternRule self
  | .closedPattern => closedPatternRule self
  | .starPattern => starPatternRule

end Docent.Indented
