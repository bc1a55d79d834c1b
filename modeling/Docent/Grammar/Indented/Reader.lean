import Docent.Grammar.Indented.StringLiteral
import Docent.Grammar.Indented.Token

/-!
# Readers of tokens

The grammar of indentation-structured sources is written with readers: a reader looks at tokens
from a position on and is done, misses, or halts with a refusal. The memory remembers how far
tokens have been looked at, which decides where a plain syntax error is reported, and the results
of rules at positions, which keeps backtracking cheap.
-/

namespace Docent.Indented

/-- The rules of the grammar that are reached from more than one place. -/
inductive Rule
  | statements | simpleStatement | block | elifStatement
  | expression | plainExpression | starExpression | starExpressions | namedExpression
  | disjunction | conjunction | inversion
  | bitwiseOr | bitwiseXor | bitwiseAnd | shift | sum | term | factor
  | awaitPrimary | primary | atom | strings
  | arguments | slices | generator
  | starTarget | starTargets | targetWithStarAtom | singleTarget | targetPrimary | delTarget
  | annotatedTarget
  | pattern | openSequencePattern | closedPattern | starPattern
deriving DecidableEq, Repr

def Rule.isRemembered : Rule → Bool
  | .simpleStatement | .block | .expression | .starExpression
  | .disjunction | .conjunction | .inversion
  | .bitwiseOr | .bitwiseXor | .bitwiseAnd | .shift | .sum | .term | .factor
  | .awaitPrimary | .primary | .strings | .arguments
  | .starTarget | .targetWithStarAtom | .targetPrimary | .delTarget
  | .closedPattern | .starPattern => true
  | _ => false

/-- What readers remember: how many tokens have been looked at, whether the rules that only
explain errors are tried, and the results of rules by position. -/
structure Memory where
  seen : Nat
  explain : Bool
  results : Array (List (Rule × Option (Forest × Nat)))

/-- The tokens, whether they are those of an expression inside a string, and the checker of
expressions inside strings, which is given the line of an expression and its text. -/
structure Source where
  tokens : Array Token
  embedded : Bool
  checkEmbedded : Nat → List Char → Option Refusal
  names : List Char → Option Char

inductive Outcome (α : Type)
  | done (a : α) (pos : Nat) (m : Memory)
  | miss (m : Memory)
  | halt (r : Refusal) (m : Memory)

def Reader (α : Type) : Type := Source → Nat → Memory → Outcome α

/-- A fault as it is reported: inside a string it is marked as such. -/
def Source.report (src : Source) (fault : Fault) : Fault :=
  if src.embedded then .withinFormatted fault else fault

/-- The refusal of a broken token; a fault that belongs to the token alone is not marked. -/
def Source.refusal? (src : Source) (t : Token) : Option Refusal :=
  match t.kind with
  | .broken _ true _ => t.refusal?
  | _ => t.refusal?.map fun r => ⟨src.report r.fault, r.line⟩

namespace Reader

variable {α β : Type}

instance : Monad Reader where
  pure a := fun _ pos m => .done a pos m
  bind p f := fun src pos m =>
    match p src pos m with
    | .done a pos' m' => f a src pos' m'
    | .miss m' => .miss m'
    | .halt r m' => .halt r m'

def orElse (p : Reader α) (q : Unit → Reader α) : Reader α := fun src pos m =>
  match p src pos m with
  | .done a pos' m' => .done a pos' m'
  | .miss m' => q () src pos m'
  | .halt r m' => .halt r m'

instance : OrElse (Reader α) := ⟨orElse⟩

instance : Append (Reader Forest) := ⟨fun p q => do return (← p) ++ (← q)⟩

def fail : Reader α := fun _ _ m => .miss m

/-- Where the first reader is done, goes on with its result and with nothing else; where it misses,
tries the last. -/
def commit (p : Reader α) (f : α → Reader β) (q : Reader β) : Reader β := fun src pos m =>
  match p src pos m with
  | .done a pos' m' => f a src pos' m'
  | .miss m' => q src pos m'
  | .halt r m' => .halt r m'

def ahead (p : Reader α) : Reader Forest := fun src pos m =>
  match p src pos m with
  | .done _ _ m' => .done [] pos m'
  | .miss m' => .miss m'
  | .halt r m' => .halt r m'

def absent (p : Reader α) : Reader Forest := fun src pos m =>
  match p src pos m with
  | .done _ _ m' => .miss m'
  | .miss m' => .done [] pos m'
  | .halt r m' => .halt r m'

def opt (p : Reader Forest) : Reader Forest := p <|> pure []

def repeatFor : Nat → Reader Forest → Reader (List Forest)
  | 0, _ => pure []
  | fuel + 1, p => fun src pos m =>
    match p src pos m with
    | .done a pos' m' =>
      if pos' ≤ pos then .done [a] pos' m'
      else ((a :: ·) <$> repeatFor fuel p) src pos' m'
    | .miss m' => .done [] pos m'
    | .halt r m' => .halt r m'

/-- Repeats a reader as often as it is done, each result by itself. -/
def manyList (p : Reader Forest) : Reader (List Forest) := fun src pos m =>
  repeatFor (src.tokens.size - pos + 1) p src pos m

def many (p : Reader Forest) : Reader Forest := List.flatten <$> manyList p

def many1 (p : Reader Forest) : Reader Forest := p ++ many p

def sepBy (p sep : Reader Forest) : Reader Forest := p ++ many (sep ++ p)

def extendFor : Nat → Forest → (Forest → Reader Forest) → Reader Forest
  | 0, a, _ => pure a
  | fuel + 1, a, step => fun src pos m =>
    match step a src pos m with
    | .done a' pos' m' => extendFor fuel a' step src pos' m'
    | .miss m' => .done a pos m'
    | .halt r m' => .halt r m'

def extend (p : Reader Forest) (step : Forest → Reader Forest) : Reader Forest := do
  let a ← p
  fun src pos m => extendFor (src.tokens.size - pos + 1) a step src pos m

def explaining (p : Reader α) : Reader α := fun src pos m =>
  if m.explain then p src pos m else .miss m

def plainly (p : Reader α) : Reader α := fun src pos m =>
  let explain := m.explain
  let back (m' : Memory) : Memory := { m' with explain := explain }
  match p src pos { m with explain := false } with
  | .done a pos' m' => .done a pos' (back m')
  | .miss m' => .miss (back m')
  | .halt r m' => .halt r (back m')

/-! ### Refusals -/

def refuse (fault : Fault) (line : Nat) : Reader α := fun src _ m =>
  .halt ⟨src.report fault, some line⟩ m

def lastLine (src : Source) (m : Memory) : Nat :=
  ((src.tokens[m.seen - 1]?).map Token.line).getD 1

/-- Refuses the source on the line of the last token that has been looked at. -/
def refuseHere (fault : Fault) : Reader α := fun src _ m =>
  .halt ⟨src.report fault, some (lastLine src m)⟩ m

/-! ### Tokens -/

/-- The next token; a broken one halts the reader. -/
def peek : Reader Token := fun src pos m =>
  let m := { m with seen := max m.seen (pos + 1) }
  match src.tokens[pos]? with
  | none => .miss m
  | some t =>
    match src.refusal? t with
    | some r => .halt r m
    | none => .done t pos m

def advance : Reader Unit := fun _ pos m => .done () (pos + 1) m

def line : Reader Nat := Token.line <$> peek

/-- The number of brackets open after the token before this position. -/
def depth : Reader Nat := fun src pos m =>
  .done (((src.tokens[pos - 1]?).map Token.depth).getD 0) pos m

def leaves (kind : Kind) (t : Token) : Forest :=
  (if t.lead.isEmpty then [] else [.leaf .blank t.lead]) ++
    (if t.text.isEmpty then [] else [.leaf kind t.text])

/-- A token of a class, as a leaf of a kind. -/
def tokenOf (p : Token → Bool) (kind : Kind) : Reader Forest := do
  let t ← peek
  if p t then
    advance
    return leaves kind t
  else fail

def sym (s : String) : Reader Forest := tokenOf (Token.isSymbol s) .token

/-- A given word that is otherwise a name. -/
def word (s : String) : Reader Forest := tokenOf (Token.isWord s) .token

def anySym (ss : List String) : Reader Forest :=
  tokenOf (fun t => ss.any (Token.isSymbol · t)) .token

def need (s : String) : Reader Forest := do
  let t ← peek
  if t.isSymbol s then
    advance
    return leaves .token t
  else refuse (.expected s) t.line

def name (kind : Kind) : Reader Forest := tokenOf Token.isName kind

def newline : Reader Forest := tokenOf Token.isNewline .blank
def indent : Reader Forest := tokenOf Token.isIndent .blank
def dedent : Reader Forest := tokenOf Token.isDedent .blank
def finish : Reader Forest := tokenOf Token.isFinish .blank

def node (k : Kind) (p : Reader Forest) : Reader Forest := Tree.close k <$> p

def form (f : Form) (p : Reader Forest) : Reader Forest := node (.form f) p

end Reader

/-! ### Looking at what was read -/

def isForm (t : Tree) : Bool := t.kind matches .form _

mutual

/-- An expression without the brackets around it, and its line if the tree begins on `line`. -/
def core (line : Nat) : Tree → Tree × Nat
  | .node (.form .group) kids => coreIn line (.node (.form .group) kids) kids
  | t => (t, line)

def coreIn (line : Nat) (whole : Tree) : List Tree → Tree × Nat
  | [] => (whole, line)
  | t :: ts =>
    if isForm t then core line t else coreIn (line + t.newlines) whole ts

end

def solid (f : Forest) : Forest := f.dropWhile (·.kind = .blank)

/-- The expression that a forest consists of, which begins on the given line. -/
def expressionOf (line : Nat) (f : Forest) : Tree × Nat :=
  match solid f with
  | t :: _ => core line t
  | [] => (.leaf .blank [], line)

def formOf (t : Tree) : Form :=
  match t.kind with
  | .form f => f
  | _ => .operation

inductive TargetPlace
  | assignment | deletion | loop
deriving DecidableEq

mutual

/-- The first part of an expression that cannot be a target, and its line. -/
def badTarget? (place : TargetPlace) (line : Nat) : Tree → Option (Tree × Nat)
  | .leaf k cs =>
    match k with
    | .form .variable => none
    | _ => some (.leaf k cs, line)
  | .node k kids =>
    match k with
    | .form .list | .form .tuple => badTargetAmong? place line kids
    | .form .group => badTargetAmong? place line kids
    | .form .starred =>
      if place = .deletion then some (.node k kids, line) else badTargetAmong? place line kids
    | .form .comparison =>
      if place = .loop then
        if comparesByIn kids then badTargetFirst? place line kids else none
      else some (.node k kids, line)
    | .form .variable | .form .subscript | .form .attribute => none
    | _ => some (.node k kids, line)

def badTargetAmong? (place : TargetPlace) (line : Nat) : List Tree → Option (Tree × Nat)
  | [] => none
  | t :: ts =>
    let first := if isForm t then badTarget? place line t else none
    match first with
    | some r => some r
    | none => badTargetAmong? place (line + t.newlines) ts

def badTargetFirst? (place : TargetPlace) (line : Nat) : List Tree → Option (Tree × Nat)
  | [] => none
  | t :: ts =>
    if isForm t then badTarget? place line t
    else badTargetFirst? place (line + t.newlines) ts

/-- Whether the first comparison among the parts of a chain is by `in`. -/
def comparesByIn : List Tree → Bool
  | [] => false
  | .leaf .token cs :: _ => cs = ['i', 'n']
  | _ :: ts => comparesByIn ts

end

namespace Reader

/-- Refuses an expression, read from a line on, that cannot be a target; misses if it can. -/
def refuseTarget {α : Type} (place : TargetPlace) (line : Nat) (f : Forest) : Reader α :=
  match (solid f).head?.bind (badTarget? place line) with
  | none => fail
  | some (t, l) =>
    refuse (if place = .deletion then .delete (formOf t) else .assignTo (formLabel (formOf t))) l

/-- Refuses the source with a fault about the form of an expression, on the line of that
expression. -/
def refuseForm {α : Type} (fault : Form → Fault) (line : Nat) (f : Forest) : Reader α :=
  let (t, l) := expressionOf line f
  refuse (fault (formOf t)) l

def refuseAt {α : Type} (fault : Fault) (line : Nat) (f : Forest) : Reader α :=
  refuse fault (expressionOf line f).2

end Reader

end Docent.Indented
