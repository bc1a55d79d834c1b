import Docent.Grammar.Script.Lexical

/-!
# Semicolons that are left out

Where a statement may end, a semicolon can be left out before the end of the text, before a closing
brace, and before a line break after which the text cannot go on with the statement. `inserted?`
decides that for a text that begins where the semicolon could stand. Comments that the decision
does not look beyond come before the semicolon, and are counted.
-/

namespace Docent.Script

/-- What could stand in place of the semicolon: an operator after an operand, or the body of a
function after its signature. -/
structure StatementEnd where
  operand : Bool
  signature : Bool
deriving DecidableEq, Repr

def isBreakSpace (c : Char) : Bool :=
  let n := c.toNat
  (9 ≤ n && n ≤ 13) || n = 32 || n = 0x1680 || (0x2000 ≤ n && n ≤ 0x200A && n != 0x2007) ||
    n = 0x2028 || n = 0x2029 || n = 0x205F || n = 0x3000

def Dialect.isBreak (d : Dialect) (c : Char) : Bool :=
  c = '\n' || (!d.types && (c = '\u2028' || c = '\u2029'))

/-- Passes over the rest of a block comment and tells whether it broke a line. -/
def afterBlock (d : Dialect) (broke : Bool) : List Char → Bool × List Char
  | [] => (broke, [])
  | '*' :: '/' :: cs => (broke, cs)
  | c :: cs => afterBlock d (broke || d.isBreak c) cs

/-- What lies in a gap: a mark that is no comment, comments that stop on the same line, or
comments after which the line is broken. -/
inductive GapEnd
  | mark | sameLine | passed
deriving DecidableEq, Repr

/-- Passes over blanks and comments; `through` goes on after a block comment. The first list bounds
the number of steps. -/
def afterGap (d : Dialect) (through : Bool) : List Char → List Char → GapEnd × List Char
  | [], cs => (.passed, cs)
  | _ :: bound, cs =>
    match cs.dropWhile isBreakSpace with
    | '/' :: '/' :: cs => afterGap d through bound (cs.dropWhile (!d.isBreak ·))
    | '/' :: '*' :: cs =>
      let (broke, cs) := afterBlock d false cs
      match cs with
      | '/' :: _ => afterGap d through bound cs
      | _ =>
        if through then afterGap d through bound cs
        else (if broke then .passed else .sameLine, cs)
    | '/' :: cs => (.mark, '/' :: cs)
    | cs => (.passed, cs)

def beginsWithOperatorWord (cs : List Char) : Bool :=
  let ends (cs : List Char) : Bool := !(cs.head?.any fun c => c.isAlpha || 128 ≤ c.toNat)
  (['i', 'n'].isPrefixOf cs && ends (cs.drop 2)) ||
    ("instanceof".toList.isPrefixOf cs && ends (cs.drop 10))

def beginsStatement (d : Dialect) (e : StatementEnd) : List Char → Bool
  | [] => true
  | c :: cs =>
    if "`,:;*%><=?^|&/".toList.contains c then false
    else if c = '[' || c = '(' then d.types && !e.operand
    else if c = '{' then !(d.types && e.signature)
    else if c = '.' then !d.types && cs.head?.any isDigit
    else if c = '+' || c = '-' then cs.head? = some c
    else if c = '!' then cs.head? != some '='
    else !beginsWithOperatorWord (c :: cs)

/-- Whether a text after a line break ends the statement before it. -/
def endsAfterBreak (d : Dialect) (e : StatementEnd) (cs : List Char) : Bool :=
  match afterGap d true cs cs with
  | (.mark, _) => false
  | (_, rest) => beginsStatement d e rest

/-- Decides at a character that begins no comment; `goOn` decides after a blank. -/
def endsAt (d : Dialect) (e : StatementEnd) (goOn : List Char → Bool) (c : Char)
    (cs : List Char) : Bool :=
  if c = '}' then true
  else if d.isBreak c then endsAfterBreak d e cs
  else if isBreakSpace c then goOn cs
  else false

/-- Decides at the beginning of a text in a script without types. The first list bounds the number
of steps. -/
def endsPlainly (d : Dialect) (e : StatementEnd) : List Char → List Char → Bool
  | [], _ => true
  | _ :: _, [] => true
  | _ :: bound, c :: cs =>
    if c = '/' then
      match afterGap d false (c :: cs) (c :: cs) with
      | (.mark, _) => false
      | (g, rest) =>
        if g = .passed && !e.operand && !(rest.head? = some ',' || rest.head? = some '=') then true
        else
          match rest with
          | [] => false
          | c :: cs => endsAt d e (endsPlainly d e bound) c cs
    else endsAt d e (endsPlainly d e bound) c cs

def endsTyped (d : Dialect) (e : StatementEnd) : List Char → Bool
  | [] => true
  | c :: cs =>
    if c = '}' then
      if (cs.dropWhile isBreakSpace).head? = some ':' then e.operand else true
    else if d.isBreak c then endsAfterBreak d e cs
    else if isBreakSpace c then endsTyped d e cs
    else false

def Dialect.endsStatement (d : Dialect) (e : StatementEnd) (cs : List Char) : Bool :=
  if d.types then endsTyped d e cs else endsPlainly d e cs cs

/-- The number of characters of a text that stand before a semicolon that was left out, if one
was. The first list bounds the number of comments. -/
def insertedOver (d : Dialect) (e : StatementEnd) : List Char → List Char → Option Nat
  | [], _ => none
  | _ :: bound, cs =>
    if d.endsStatement e cs then some 0
    else
      let blank := cs.takeWhile isSpace
      let rest := cs.drop blank.length
      match comment rest with
      | none => none
      | some n => (insertedOver d e bound (rest.drop n)).map (blank.length + n + ·)

/-- The number of characters of a text that stand before a semicolon that was left out, if one
was. -/
def inserted? (d : Dialect) (e : StatementEnd) (cs : List Char) : Option Nat :=
  insertedOver d e (' ' :: cs) cs

end Docent.Script
