import Docent.Grammar.Indented.Reader

/-!
# Expressions of indentation-structured sources

The rules for expressions, arguments, comprehensions, parameters and targets. Each rule is given
`self`, the reader of rules, for whatever it is built from. The rules whose names begin with
`explain` accept nothing: they recognise common mistakes and refuse them with a fault of their own.
-/

namespace Docent.Indented

open Reader

variable (self : Rule → Reader Forest)

/-! ### Comprehensions -/

/-- The refusal of what stands between `for` and `in` and is no target. -/
def explainForTarget : Reader Forest := explaining do
  let _ ← opt (sym "async") ++ sym "for"
  let l ← line
  let a ← self .starExpressions
  refuseTarget .loop l a

def forIfClause : Reader Forest :=
  let tail : Reader Forest := self .disjunction ++ many (sym "if" ++ self .disjunction)
  commit (sym "async" ++ sym "for" ++ self .starTargets ++ sym "in")
    (fun a => do return a ++ (← tail))
    (commit (sym "for" ++ self .starTargets ++ sym "in")
      (fun a => do return a ++ (← tail))
      (explainForTarget self))

def forIfClauses : Reader Forest := many1 (forIfClause self)

def starredExpression : Reader Forest := form .starred (sym "*" ++ self .expression)

def assignmentExpression : Reader Forest :=
  form .assigned (name (.form .variable) ++ sym ":=" ++ self .expression)

/-- An expression that is not the start of `name := …`. -/
def unassigned : Reader Forest := self .expression ++ absent (sym ":=")

def starNamedExpression : Reader Forest :=
  form .starred (sym "*" ++ self .bitwiseOr) <|> self .namedExpression

def starNamedExpressions : Reader Forest :=
  sepBy (starNamedExpression self) (sym ",") ++ opt (sym ",")

def explainComprehension : Reader Forest :=
  explaining (do
      let _ ← anySym ["[", "(", "\x7b"]
      let l ← line
      let _ ← starredExpression self ++ forIfClauses self
      refuse .unpackingInComprehension l) <|>
    explaining (do
      let _ ← anySym ["[", "\x7b"]
      let l ← line
      let a ← starNamedExpression self
      let _ ← sym "," ++ starNamedExpressions self ++ forIfClauses self
      refuseAt .forgottenTargetParentheses l a) <|>
    explaining (do
      let _ ← anySym ["[", "\x7b"]
      let l ← line
      let a ← starNamedExpression self
      let _ ← sym "," ++ forIfClauses self
      refuseAt .forgottenTargetParentheses l a)

def generatorExpression : Reader Forest :=
  form .generator
      (sym "(" ++ (assignmentExpression self <|> unassigned self) ++ forIfClauses self ++ sym ")") <|>
    explainComprehension self

/-! ### Atoms -/

def tuple : Reader Forest :=
  form .tuple (sym "(" ++
    opt (starNamedExpression self ++ sym "," ++ opt (starNamedExpressions self)) ++ sym ")")

def yieldExpression : Reader Forest :=
  form .yielding (sym "yield" ++ sym "from" ++ self .expression) <|>
    form .yielding (sym "yield" ++ opt (self .starExpressions))

def group : Reader Forest :=
  form .group (sym "(" ++ (yieldExpression self <|> self .namedExpression) ++ sym ")") <|>
    explaining (do
      let _ ← sym "("
      let l ← line
      let _ ← starredExpression self ++ sym ")"
      refuse .starredHere l) <|>
    explaining (do
      let _ ← sym "("
      let l ← line
      let _ ← sym "**" ++ self .expression ++ sym ")"
      refuse .doubleStarredHere l)

def list : Reader Forest :=
  form .list (sym "[" ++ opt (starNamedExpressions self) ++ sym "]")

def listComprehension : Reader Forest :=
  form .listComp (sym "[" ++ self .namedExpression ++ forIfClauses self ++ sym "]") <|>
    explainComprehension self

def keyValue : Reader Forest := self .expression ++ sym ":" ++ self .expression

def doubleStarredKeyValue : Reader Forest :=
  node .item (sym "**" ++ self .bitwiseOr) <|> node .item (keyValue self)

/-- The refusal of a key without a value or of a value with a star. -/
def explainKeyValue : Reader Forest :=
  (do
    let l ← line
    let a ← self .expression
    let _ ← absent (sym ":")
    refuseAt .noDictColon l a) <|>
  (do
    let _ ← self .expression ++ sym ":"
    let l ← line
    let _ ← sym "*" ++ self .bitwiseOr
    refuse .starredDictValue l) <|>
  (do
    let _ ← self .expression
    let l ← line
    let _ ← sym ":" ++ ahead (anySym ["\x7d", ","])
    refuse .noDictValue l)

def explainKeyValues : Reader Forest :=
  (sepBy (doubleStarredKeyValue self) (sym ",") ++ sym "," ++ explainKeyValue self) <|>
  (do
    let _ ← self .expression ++ sym ":"
    let l ← line
    let _ ← sym "*" ++ self .bitwiseOr
    refuse .starredDictValue l) <|>
  (do
    let _ ← self .expression
    let l ← line
    let _ ← sym ":" ++ ahead (anySym ["\x7d", ","])
    refuse .noDictValue l)

def dict : Reader Forest :=
  form .dict (sym "\x7b" ++
      opt (sepBy (doubleStarredKeyValue self) (sym ",") ++ opt (sym ",")) ++ sym "\x7d") <|>
    (sym "\x7b" ++ explainKeyValues self ++ sym "\x7d")

def set : Reader Forest := form .set (sym "\x7b" ++ starNamedExpressions self ++ sym "\x7d")

def dictComprehension : Reader Forest :=
  form .dictComp (sym "\x7b" ++ keyValue self ++ forIfClauses self ++ sym "\x7d") <|>
    explaining (do
      let _ ← sym "\x7b"
      let l ← line
      let _ ← sym "**" ++ self .bitwiseOr ++ forIfClauses self ++ sym "\x7d"
      refuse .dictUnpackingInComprehension l)

def setComprehension : Reader Forest :=
  form .setComp (sym "\x7b" ++ self .namedExpression ++ forIfClauses self ++ sym "\x7d") <|>
    explainComprehension self

/-- The number of digits beyond which a decimal integer is refused. -/
def digitLimit : Nat := 4300

def isPlainInteger (cs : List Char) : Bool :=
  cs.all (fun c => c.isDigit || c = '_') && cs.head? != some '0'

def numberLiteral : Reader Forest := do
  let t ← peek
  if t.isNumber then
    let count := (t.text.filter Char.isDigit).length
    if isPlainInteger t.text ∧ count > digitLimit then refuse (.tooManyDigits count) t.line
    else
      advance
      return leaves (.form .number) t
  else fail

def raiseIssue : StringIssue → Reader Forest
  | .here f => refuseHere f
  | .embedded r => fun _ _ m => .halt r m

/-- Checks one string token; `kind` tells of the token before whether it is a byte string. -/
def checkString (names : List Char → Option Char) (check : Nat → List Char → Option Refusal)
    (kind : Option Bool) (t : Token) : Option (StringIssue ⊕ Refusal) :=
  let l := Literal.ofText t.text
  let mixed : Option (StringIssue ⊕ Refusal) :=
    if kind = some (!l.isBytes) then some (.inl (.here .mixedLiterals)) else none
  if l.isFormatted then
    match mixed with
    | some i => some i
    | none =>
      (checkFormatted names (fun n expr => check (t.line + n) expr) l).map .inl
  else if l.isBytes ∧ l.body.any (·.toNat ≥ 0x80) then
    some (.inr ⟨.nonAsciiBytes, some t.line⟩)
  else
    match l.value names with
    | .error f => some (.inl (.here f))
    | .ok _ => mixed

def checkStrings (names : List Char → Option Char) (check : Nat → List Char → Option Refusal) :
    Option Bool → List Token → Option (StringIssue ⊕ Refusal)
  | _, [] => none
  | kind, t :: ts =>
    match checkString names check kind t with
    | some i => some i
    | none => checkStrings names check (some (Literal.ofText t.text).isBytes) ts

def stringTokens (src : Source) : Nat → Nat → List Token
  | 0, _ => []
  | fuel + 1, pos =>
    match src.tokens[pos]? with
    | some t => if t.isString then t :: stringTokens src fuel (pos + 1) else []
    | none => []

def stringLiterals : Reader Forest := do
  let parts ← many1 (tokenOf Token.isString .token)
  fun src pos m =>
    let count := (parts.filter (·.kind = .token)).length
    let toks := stringTokens src count (pos - count)
    match checkStrings src.names src.checkEmbedded none toks with
    | some (.inl issue) => raiseIssue issue src pos m
    | some (.inr r) => .halt ⟨src.report r.fault, r.line⟩ m
    | none =>
      let ls := toks.map fun t => Literal.ofText t.text
      let f : Form :=
        if ls.any Literal.isFormatted then .formatted
        else if ls.any Literal.isBytes then .bytes else .string
      .done (Tree.close (.form f) parts) pos m

def atom : Reader Forest :=
  name (.form .variable) <|>
    tokenOf (Token.isSymbol "True") (.form .trueLit) <|>
    tokenOf (Token.isSymbol "False") (.form .falseLit) <|>
    tokenOf (Token.isSymbol "None") (.form .noneLit) <|>
    (ahead (tokenOf Token.isString .token) ++ self .strings) <|>
    numberLiteral <|>
    (ahead (sym "(") ++ (tuple self <|> group self <|> self .generator)) <|>
    (ahead (sym "[") ++ (list self <|> listComprehension self)) <|>
    (ahead (sym "\x7b") ++
      (dict self <|> set self <|> dictComprehension self <|> setComprehension self)) <|>
    tokenOf (Token.isSymbol "...") (.form .ellipsis)

/-! ### Subscripts and calls -/

def slice : Reader Forest :=
  form .slice (opt (self .expression) ++ sym ":" ++ opt (self .expression) ++
      opt (sym ":" ++ opt (self .expression))) <|>
    self .namedExpression

def slicesRule : Reader Forest :=
  (slice self ++ absent (sym ",")) <|>
    form .tuple (sepBy (slice self <|> starredExpression self) (sym ",") ++ opt (sym ","))

def explainKeywordArgument : Reader Forest :=
  explaining (do
      let t ← peek
      let _ ← anySym ["True", "False", "None"] ++ sym "="
      refuse (.assignTo t.symbol) t.line) <|>
    explaining (do
      let l ← line
      let _ ← name .token ++ sym "=" ++ self .expression ++ forIfClauses self
      refuse .maybeCompareOrName l) <|>
    explaining (do
      let _ ← absent (name .token ++ sym "=")
      let l ← line
      let a ← self .expression
      let _ ← sym "="
      refuseAt .argumentAssignment l a)

def keywordArgument : Reader Forest := node .item (name .token ++ sym "=" ++ self .expression)

def keywordOrStarred : Reader Forest :=
  explainKeywordArgument self <|> keywordArgument self <|> starredExpression self

def keywordOrDoubleStarred : Reader Forest :=
  explainKeywordArgument self <|> keywordArgument self <|>
    node .item (sym "**" ++ self .expression)

def keywordArguments : Reader Forest :=
  (sepBy (keywordOrStarred self) (sym ",") ++ sym "," ++
      sepBy (keywordOrDoubleStarred self) (sym ",")) <|>
    sepBy (keywordOrStarred self) (sym ",") <|>
    sepBy (keywordOrDoubleStarred self) (sym ",")

def positionalArgument : Reader Forest :=
  starredExpression self <|>
    ((assignmentExpression self <|> unassigned self) ++ absent (sym "="))

def args : Reader Forest :=
  (sepBy (positionalArgument self) (sym ",") ++ opt (sym "," ++ keywordArguments self)) <|>
    keywordArguments self

def positionals (f : Forest) : Forest := f.filter isForm

def unpacksMapping (f : Forest) : Bool :=
  f.any fun t => t.kind = .item ∧ ((solid t.kids).head?.map Tree.text) = some ['*', '*']

/-- The line on which the last of some arguments begins, if they begin on a line. -/
def lastPositionalLine (l : Nat) (f : Forest) : Nat :=
  let rec go (l last : Nat) : Forest → Nat
    | [] => last
    | t :: ts => go (l + t.newlines) (if isForm t then (core l t).2 else last) ts
  go l l (solid f)

def explainArguments : Reader Forest :=
  explaining (do
      let l ← line
      let _ ← args self ++ sym "," ++ sym "*"
      refuse .unpackingAfterUnpacking l) <|>
    explaining (do
      let l ← line
      let a ← self .expression
      let _ ← forIfClauses self ++ sym "," ++
        opt (args self <|> (self .expression ++ forIfClauses self))
      refuseAt .bareGenerator l a) <|>
    explaining (do
      let l ← line
      let _ ← name .token ++ sym "=" ++ self .expression ++ forIfClauses self
      refuse .maybeCompareOrName l) <|>
    explaining (commit
      (do
        let l ← line
        let a ← args self
        let _ ← forIfClauses self
        return (l, a))
      (fun (l, a) =>
        if (positionals a).length ≤ 1 then fail
        else refuse .bareGenerator (lastPositionalLine l a))
      ((do
          let _ ← args self ++ sym ","
          let l ← line
          let a ← self .expression
          let _ ← forIfClauses self
          refuseAt .bareGenerator l a) <|>
        (do
          let a ← args self
          let _ ← sym "," ++ args self
          refuseHere
            (if unpacksMapping a then .positionalAfterUnpacking else .positionalAfterKeyword))))

def argumentsRule : Reader Forest :=
  (args self ++ opt (sym ",") ++ ahead (sym ")")) <|> explainArguments self

def primaryRule : Reader Forest :=
  extend (self .atom) fun a =>
    form .attribute (pure a ++ sym "." ++ name .token) <|>
      form .call (pure a ++ self .generator) <|>
      form .call (pure a ++ sym "(" ++ opt (self .arguments) ++ sym ")") <|>
      form .subscript (pure a ++ sym "[" ++ self .slices ++ sym "]")

/-! ### Operators -/

def awaitPrimaryRule : Reader Forest :=
  form .awaiting (sym "await" ++ self .primary) <|> self .primary

def power : Reader Forest :=
  form .operation (self .awaitPrimary ++ sym "**" ++ self .factor) <|> self .awaitPrimary

def factorRule : Reader Forest :=
  form .operation (anySym ["+", "-", "~"] ++ self .factor) <|> power self

def chain (ops : List String) (operand : Rule) : Reader Forest :=
  extend (self operand) fun a => form .operation (pure a ++ anySym ops ++ self operand)

def comparison : Reader Forest := do
  let a ← self .bitwiseOr
  let pair : Reader Forest :=
    (anySym ["==", "!=", "<=", "<", ">=", ">"] <|> (sym "not" ++ sym "in") <|> sym "in" <|>
      (sym "is" ++ sym "not") <|> sym "is") ++ self .bitwiseOr
  let pairs ← many pair
  return if pairs.isEmpty then a else Tree.close (.form .comparison) (a ++ pairs)

def inversionRule : Reader Forest :=
  form .operation (sym "not" ++ self .inversion) <|> comparison self

def joined (op : String) (operand : Rule) : Reader Forest := do
  let a ← self operand
  let more ← many (sym op ++ self operand)
  return if more.isEmpty then a else Tree.close (.form .operation) (a ++ more)

/-! ### Parameters -/

/-- How parameters are written: the mark after them, and whether they have annotations. -/
structure ParameterStyle where
  close : String
  annotated : Bool

variable (style : ParameterStyle)

def param : Reader Forest :=
  name .token ++ (if style.annotated then opt (sym ":" ++ self .expression) else pure [])

/-- The end of a parameter: a comma, or the mark after the parameters ahead. -/
def paramEnd : Reader Forest := sym "," <|> ahead (sym style.close)

def default : Reader Forest :=
  (sym "=" ++ self .expression) <|>
    explaining (do
      let l ← line
      let _ ← sym "=" ++ ahead (anySym [")", ","])
      refuse .noDefault l)

def paramNoDefault : Reader Forest := param self style ++ paramEnd style
def paramWithDefault : Reader Forest := param self style ++ default self ++ paramEnd style
def paramMaybeDefault : Reader Forest := param self style ++ opt (default self) ++ paramEnd style

def paramStarAnnotated : Reader Forest :=
  if style.annotated then
    name .token ++ sym ":" ++ self .starExpression ++ paramEnd style
  else fail

def slash : Reader Forest := (sym "/" ++ sym ",") <|> (sym "/" ++ ahead (sym style.close))

def slashNoDefault : Reader Forest := many1 (paramNoDefault self style) ++ slash style

def slashWithDefault : Reader Forest :=
  many (paramNoDefault self style) ++ many1 (paramWithDefault self style) ++ slash style

def explainDoubleStar : Reader Forest :=
  explaining (do
      let _ ← sym "**" ++ param self style
      let l ← line
      let _ ← sym "="
      refuse .doubleStarDefault l) <|>
    explaining (do
      let _ ← sym "**" ++ param self style ++ sym ","
      let l ← line
      let _ ← param self style
      refuse .afterDoubleStar l) <|>
    explaining (do
      let _ ← sym "**" ++ param self style ++ sym ","
      let l ← line
      let _ ← anySym ["*", "**", "/"]
      refuse .afterDoubleStar l)

def doubleStar : Reader Forest :=
  explainDoubleStar self style <|> (sym "**" ++ paramNoDefault self style)

def explainStar : Reader Forest :=
  explaining (do
      let l ← line
      let _ ← sym "*" ++
        (sym style.close <|> (sym "," ++ (sym style.close <|> sym "**")))
      if style.annotated then refuse .bareStar l else refuseHere .bareStar) <|>
    explaining (do
      let _ ← sym "*" ++ param self style
      let l ← line
      let _ ← sym "="
      refuse .starDefault l) <|>
    explaining (do
      let _ ← sym "*" ++ (paramNoDefault self style <|> sym ",") ++
        many (paramMaybeDefault self style)
      let l ← line
      let _ ← sym "*" ++ (paramNoDefault self style <|> sym ",")
      refuse .starTwice l)

def starEtc : Reader Forest :=
  explainStar self style <|>
    (sym "*" ++ paramNoDefault self style ++ many (paramMaybeDefault self style) ++
      opt (doubleStar self style)) <|>
    (sym "*" ++ paramStarAnnotated self style ++ many (paramMaybeDefault self style) ++
      opt (doubleStar self style)) <|>
    (sym "*" ++ sym "," ++ many1 (paramMaybeDefault self style) ++ opt (doubleStar self style)) <|>
    doubleStar self style

def explainParameters : Reader Forest :=
  explaining (do
      let _ ← many (paramNoDefault self style) ++
        (slashWithDefault self style <|> many1 (paramWithDefault self style))
      let l ← line
      let _ ← paramNoDefault self style
      refuse .defaultOrder l) <|>
    explaining (do
      let _ ← many (paramNoDefault self style)
      let l ← line
      let inner : Reader Forest :=
        if style.annotated then many1 (paramNoDefault self style)
        else sepBy (param self style) (sym ",")
      let _ ← sym "(" ++ inner ++ opt (sym ",") ++ sym ")"
      refuse (.parenthesizedParameters (!style.annotated)) l) <|>
    explaining (do
      let l ← line
      let _ ← sym "/" ++ sym ","
      refuse .slashFirst l) <|>
    explaining (do
      let _ ← (slashNoDefault self style <|> slashWithDefault self style) ++
        many (paramMaybeDefault self style)
      let l ← line
      let _ ← sym "/"
      refuse .slashTwice l) <|>
    explaining (do
      let _ ← opt (slashNoDefault self style <|> slashWithDefault self style) ++
        many (paramMaybeDefault self style) ++ sym "*" ++
        (sym "," <|> paramNoDefault self style) ++ many (paramMaybeDefault self style)
      let l ← line
      let _ ← sym "/"
      refuse .slashAfterStar l) <|>
    explaining (do
      let _ ← many1 (paramMaybeDefault self style) ++ sym "/"
      let l ← line
      let _ ← sym "*"
      refuse .commaBetweenSlashAndStar l)

def parameters : Reader Forest :=
  explainParameters self style <|>
    (slashNoDefault self style ++ many (paramNoDefault self style) ++
      many (paramWithDefault self style) ++ opt (starEtc self style)) <|>
    (slashWithDefault self style ++ many (paramWithDefault self style) ++
      opt (starEtc self style)) <|>
    (many1 (paramNoDefault self style) ++ many (paramWithDefault self style) ++
      opt (starEtc self style)) <|>
    (many1 (paramWithDefault self style) ++ opt (starEtc self style)) <|>
    starEtc self style

omit style

def functionStyle : ParameterStyle := ⟨")", true⟩

def lambdaStyle : ParameterStyle := ⟨":", false⟩

def lambda : Reader Forest :=
  form .lambda (sym "lambda" ++ opt (parameters self lambdaStyle) ++ sym ":" ++ self .expression)

/-! ### Expressions -/

/-- Whether an expression is one of the names that used to be statements. -/
def isOldStatement (t : Tree) : Bool :=
  t.kind = .form .variable &&
    (t.text = "print".toList || t.text = "exec".toList)

def conditional : Reader Forest :=
  form .conditional
    (self .disjunction ++ sym "if" ++ self .disjunction ++ sym "else" ++ self .expression)

/-- The refusal of two expressions side by side, or of a condition without an alternative. -/
def explainExpression : Reader Forest :=
  explaining (commit
    (do
      let _ ← absent
        ((name .token ++ tokenOf Token.isString .token) <|> word "_" <|> word "case" <|>
          word "match")
      let l ← line
      let a ← self .disjunction
      let _ ← self .plainExpression
      return (l, a))
    (fun (l, a) => do
      let (t, l) := expressionOf l a
      if isOldStatement t then fail
      else if (← depth) = 0 then fail
      else refuse .forgottenComma l)
    (do
      let l ← line
      let a ← self .disjunction
      let _ ← sym "if" ++ self .disjunction ++ absent (anySym ["else", ":"])
      refuseAt .forgottenElse l a))

def explainOldStatement : Reader Forest :=
  explaining do
    let t ← peek
    let _ ← name .token ++ absent (sym "(") ++ self .starExpressions
    if t.symbol = "print" ∨ t.symbol = "exec" then refuse (.forgottenCall t.symbol) t.line
    else fail

def expressionRule : Reader Forest :=
  explainExpression self <|> explainOldStatement self <|> conditional self <|>
    self .disjunction <|> lambda self

def plainExpressionRule : Reader Forest :=
  plainly (conditional self <|> self .disjunction <|> lambda self)

def explainNamedExpression : Reader Forest :=
  explaining (do
      let l ← line
      let a ← self .expression
      let _ ← sym ":=" ++ self .expression
      refuseForm .namedTarget l a) <|>
    explaining (do
      let l ← line
      let _ ← name .token ++ sym "=" ++ self .bitwiseOr ++ absent (anySym ["=", ":="])
      refuse .maybeCompareOrName l) <|>
    explaining (do
      let _ ← absent (list self <|> tuple self <|> self .generator <|>
        anySym ["True", "None", "False"])
      let l ← line
      let a ← self .bitwiseOr
      let _ ← sym "=" ++ self .bitwiseOr ++ absent (anySym ["=", ":="])
      refuseForm (fun f => .assignMaybeCompare (formLabel f)) l a)

def namedExpressionRule : Reader Forest :=
  assignmentExpression self <|> explainNamedExpression self <|> unassigned self

def starExpressionRule : Reader Forest :=
  form .starred (sym "*" ++ self .bitwiseOr) <|> self .expression

/-- Expressions separated by commas: one alone is itself, several are a tuple. -/
def listed (item : Reader Forest) : Reader Forest :=
  form .tuple (item ++ many1 (sym "," ++ item) ++ opt (sym ",")) <|>
    form .tuple (item ++ sym ",") <|> item

def expressions : Reader Forest := listed (self .expression)

/-! ### Targets -/

/-- What may follow a part of a target that is not its end. -/
def targetGoesOn : Reader Forest := ahead (anySym ["(", "[", "."])

def targetPrimaryRule : Reader Forest :=
  extend (self .atom ++ targetGoesOn) fun a =>
    (form .attribute (pure a ++ sym "." ++ name .token) ++ targetGoesOn) <|>
      (form .subscript (pure a ++ sym "[" ++ self .slices ++ sym "]") ++ targetGoesOn) <|>
      (form .call (pure a ++ self .generator) ++ targetGoesOn) <|>
      (form .call (pure a ++ sym "(" ++ opt (self .arguments) ++ sym ")") ++ targetGoesOn)

def subscriptAttributeTarget : Reader Forest :=
  (form .attribute (self .targetPrimary ++ sym "." ++ name .token) ++ absent targetGoesOn) <|>
    (form .subscript (self .targetPrimary ++ sym "[" ++ self .slices ++ sym "]") ++
      absent targetGoesOn)

def starTargetsTuple : Reader Forest :=
  (self .starTarget ++ many1 (sym "," ++ self .starTarget) ++ opt (sym ",")) <|>
    (self .starTarget ++ sym ",")

def starAtom : Reader Forest :=
  name (.form .variable) <|>
    form .group (sym "(" ++ self .targetWithStarAtom ++ sym ")") <|>
    form .tuple (sym "(" ++ opt (starTargetsTuple self) ++ sym ")") <|>
    form .list (sym "[" ++ opt (sepBy (self .starTarget) (sym ",") ++ opt (sym ",")) ++ sym "]")

def targetWithStarAtomRule : Reader Forest :=
  subscriptAttributeTarget self <|> starAtom self

def starTargetRule : Reader Forest :=
  form .starred (sym "*" ++ absent (sym "*") ++ self .starTarget) <|> self .targetWithStarAtom

def starTargetsRule : Reader Forest :=
  (self .starTarget ++ absent (sym ",")) <|>
    form .tuple (self .starTarget ++ many (sym "," ++ self .starTarget) ++ opt (sym ","))

def singleTargetRule : Reader Forest :=
  subscriptAttributeTarget self <|> name (.form .variable) <|>
    form .group (sym "(" ++ self .singleTarget ++ sym ")")

def delTargets : Reader Forest := sepBy (self .delTarget) (sym ",") ++ opt (sym ",")

def delTargetRule : Reader Forest :=
  subscriptAttributeTarget self <|>
    name (.form .variable) <|>
    form .group (sym "(" ++ self .delTarget ++ sym ")") <|>
    form .tuple (sym "(" ++ opt (delTargets self) ++ sym ")") <|>
    form .list (sym "[" ++ opt (delTargets self) ++ sym "]")

def annotatedTargetRule : Reader Forest :=
  list self <|> tuple self <|> form .group (sym "(" ++ self .annotatedTarget ++ sym ")")

end Docent.Indented
