import Docent.Grammar.Scan

/-!
# Words and literals of scripts

The gaps between the tokens of a script, and the shapes of its words, numbers, strings and regular
expressions.
-/

namespace Docent.Script

open Scan

/-- What a kind of script admits: annotations with types, and markup between expressions. -/
structure Dialect where
  types : Bool
  markup : Bool
deriving DecidableEq, Repr

/-! ### Gaps -/

def isSpace (c : Char) : Bool :=
  let n := c.toNat
  (9 ≤ n && n ≤ 13) || n = 32 || n = 0x85 || n = 0xA0 || n = 0x1680 ||
    (0x2000 ≤ n && n ≤ 0x200B) || n = 0x2028 || n = 0x2029 || n = 0x202F || n = 0x205F ||
    n = 0x2060 || n = 0x3000 || n = 0xFEFF

def isLineEnd (c : Char) : Bool :=
  c = '\n' || c = '\r' || c = '\u2028' || c = '\u2029'

def comment : Shape :=
  (.exactly "//" ++ .many (.one (!isLineEnd ·))) <|> (.exactly "/*" ++ .through "*/")

/-- The first leaf of a gap, and the text after it. -/
def gapLeaf? (cs : List Char) : Option (Tree × List Char) :=
  match (Shape.many1 (.one isSpace)).split? cs with
  | some (blank, rest) => some (.leaf .blank blank, rest)
  | none => (comment.split? cs).map fun (text, rest) => (.leaf .comment text, rest)

/-- Reads the leaves of a gap; the first list bounds their number. -/
def gapsOver : List Char → List Char → Forest × List Char
  | [], cs => ([], cs)
  | _ :: bound, cs =>
    match gapLeaf? cs with
    | none => ([], cs)
    | some (t, rest) =>
      let (f, rest) := gapsOver bound rest
      (t :: f, rest)

def gaps : Gaps := fun cs => gapsOver cs cs

/-! ### Words -/

/-- The marks of ASCII that no word contains. -/
def isMark (c : Char) : Bool :=
  ":;`\"'@#.,|^&<=>+-*/\\%?!~()[]\x7b\x7d".toList.contains c

def isWordStart (c : Char) : Bool :=
  !(c.toNat < 0x20 || isSpace c || isDigit c || isMark c)

def wordEscape : Shape :=
  (.exactly "\\u\x7b" ++ .many1 (.one isHexDigit) ++ .char '\x7d') <|>
    (.exactly "\\u" ++ .times 4 (.one isHexDigit))

def wordStart : Shape := .one isWordStart <|> wordEscape

def wordPart : Shape := .one (fun c => isWordStart c || isDigit c) <|> wordEscape

def wordShape : Shape := wordStart ++ .many wordPart

def wordWhere (p : List Char → Bool) : Shape := fun cs =>
  match wordShape cs with
  | none => none
  | some n => if p (cs.take n) then some n else none

def privateName : Shape := .char '#' ++ wordShape

def oneOf (words : List String) (cs : List Char) : Bool := words.any (·.toList = cs)

/-- The words that a script without types never uses as names. -/
def reservedWords : List String :=
  ["break", "case", "catch", "class", "const", "continue", "debugger", "default", "delete", "do",
    "else", "export", "extends", "false", "finally", "for", "function", "if", "import", "in",
    "instanceof", "new", "null", "return", "super", "switch", "this", "throw", "true", "try",
    "typeof", "var", "void", "while", "with"]

def operandWords : List String :=
  ["function", "class", "typeof", "void", "delete", "await", "yield", "super", "this", "null",
    "true", "false", "import"]

def statementWords : List String :=
  ["if", "for", "while", "do", "switch", "try", "with", "break", "continue", "return", "throw",
    "debugger", "var", "const", "case", "default", "else", "catch", "finally", "export"]

namespace Dialect

/-- The words that begin statements which are no expressions. -/
def statementWords (d : Dialect) : List String :=
  Script.statementWords ++ if d.types then ["enum", "interface", "abstract"] else []

def isName (d : Dialect) (cs : List Char) : Bool := d.types || !oneOf reservedWords cs

def isOperand (d : Dialect) (cs : List Char) : Bool :=
  if d.types then !oneOf operandWords cs
  else !oneOf reservedWords cs && cs != "yield".toList

end Dialect

/-! ### Literals -/

def decimalInteger : Shape :=
  (.opt (.char '0') ++ .one (fun c => isDigit c && c != '0') ++
    .opt (.opt (.char '_') ++ groupedDigits isDigit)) <|> .char '0'

def exponent : Shape :=
  .one (fun c => c = 'e' || c = 'E') ++ .opt (.one fun c => c = '+' || c = '-') ++
    groupedDigits isDigit

def basedNumber (mark : Char) (p : Char → Bool) : Shape :=
  .char '0' ++ .one (fun c => c = mark || c = mark.toUpper) ++ groupedDigits p

def number : Shape :=
  let digits := groupedDigits isDigit
  let based := basedNumber 'x' isHexDigit <|> basedNumber 'o' (fun c => '0' ≤ c && c ≤ '7') <|>
    basedNumber 'b' fun c => c = '0' || c = '1'
  .longer (based ++ .opt (.char 'n'))
    (.longer (digits ++ .opt (.char 'n'))
      (.longer (decimalInteger ++ .char '.' ++ .opt digits ++ .opt exponent)
        (.longer (.char '.' ++ digits ++ .opt exponent) (decimalInteger ++ exponent))))

/-- A character after a backslash, or characters that stand for one. -/
def escape : Shape :=
  let octal (c : Char) : Bool := '0' ≤ c && c ≤ '7'
  .char '\\' ++
    ((.char '\r' ++ .one fun c => c = '\n' || c = '\u2028' || c = '\u2029') <|>
      .one (fun c => !(c = 'x' || c = 'u' || octal c)) <|>
      (.one octal ++ .upTo 2 (.one octal)) <|>
      (.char 'x' ++ .times 2 (.one isHexDigit)) <|>
      (.exactly "u\x7b" ++ .many1 (.one isHexDigit) ++ .char '\x7d') <|>
      (.char 'u' ++ .times 4 (.one isHexDigit)))

def quotedBy (q : Char) : Shape :=
  let plain (c : Char) : Bool := !(c = q || c = '\\' || c = '\n' || c = '\r')
  .char q ++ .many (.many1 (.one plain) <|> escape) ++ .char q

def string : Shape := quotedBy '"' <|> quotedBy '\''

def regex : Shape :=
  let escaped : Shape := .char '\\' ++ .one (· != '\n')
  let among : Shape :=
    .char '[' ++ .many (escaped <|> .one (fun c => !(c = ']' || c = '\n' || c = '\\'))) ++ .char ']'
  .char '/' ++
    .many1 (among <|> escaped <|> .one fun c => !(c = '/' || c = '\\' || c = '[' || c = '\n')) ++
    .char '/' ++ .many (.one fun c => 'a' ≤ c && c ≤ 'z')

def templateText : Shape :=
  .many1 (.one (fun c => !(c = '`' || c = '\\' || c = '$')) <|>
    (.char '$' ++ .absent (.char '\x7b')))

end Docent.Script
