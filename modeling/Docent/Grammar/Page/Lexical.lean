import Docent.Grammar.Scan

/-!
# Words and literals of pages

A page is text with stretches of code between tags. The passages outside the code, the gaps between
the tokens of the code, and the shapes of words, numbers and strings.
-/

namespace Docent.Page

open Scan

/-! ### Gaps -/

def isSpace (c : Char) : Bool :=
  let n := c.toNat
  (9 ≤ n && n ≤ 13) || n = 32 || n = 0x85 || n = 0xA0 || n = 0x1680 ||
    (0x2000 ≤ n && n ≤ 0x200B) || n = 0x2028 || n = 0x2029 || n = 0x202F || n = 0x205F ||
    n = 0x2060 || n = 0x3000 || n = 0xFEFF

/-- The rest of a comment that ends with the line or before the tag that ends the code. -/
def lineComment : Shape :=
  let isEnd (c : Char) : Bool := c = '\n' || c = '\r'
  .many (.one (fun c => !(c = '?' || isEnd c)) <|>
      (.char '?' ++ .one fun c => !(c = '>' || isEnd c))) ++
    .opt (.char '?' ++ .opt (.char '\r') ++ .char '\n')

def comment : Shape :=
  let afterHash (c : Char) : Bool := !(c = '?' || c = '[' || c = '\r' || c = '\n')
  (.exactly "//" ++ lineComment) <|> (.char '#' ++ .one afterHash ++ lineComment) <|>
    (.exactly "/*" ++ .through "*/") <|> (.char '#' ++ .absent (.char '['))

def openTag : Shape :=
  .exactly "<?" ++
    .opt ((.one (fun c => c = 'p' || c = 'P') ++ .one (fun c => c = 'h' || c = 'H') ++
        .one fun c => c = 'p' || c = 'P') <|> .char '=')

/-- Text up to the code that follows it, with the tag that begins the code, or to the end. -/
def passage : Shape := fun cs =>
  match Shape.through "<?" cs with
  | none => some cs.length
  | some n => (openTag (cs.drop (n - 2))).map (n - 2 + ·)

def interlude : Shape := .exactly "?>" ++ passage

/-- The first leaf of a gap, and the text after it. -/
def gapLeaf? (cs : List Char) : Option (Tree × List Char) :=
  match (Shape.many1 (.one isSpace)).split? cs with
  | some (blank, rest) => some (.leaf .blank blank, rest)
  | none =>
    match comment.split? cs with
    | some (text, rest) => some (.leaf .comment text, rest)
    | none => (interlude.split? cs).map fun (text, rest) => (.leaf .passage text, rest)

/-- Reads the leaves of a gap; the first list bounds their number. -/
def gapsOver : List Char → List Char → Forest × List Char
  | [], cs => ([], cs)
  | _ :: bound, cs =>
    match gapLeaf? cs with
    | none => ([], cs)
    | some (t, rest) =>
      let (f, rest) := gapsOver bound rest
      (t :: f, rest)

def gaps : Gaps := fun cs => gapsOver cs cs

/-! ### Words -/

def isWordStart (c : Char) : Bool :=
  let n := c.toNat
  c = '_' || ('a' ≤ c && c ≤ 'z') || ('A' ≤ c && c ≤ 'Z') || (0x80 ≤ n && n ≤ 0x9F) ||
    (0xA1 ≤ n && n ≤ 0x200A) || (0x200C ≤ n && n ≤ 0x205F) || (0x2061 ≤ n && n ≤ 0xFEFE) ||
    (0xFF00 ≤ n && n ≤ 0xFFFF)

def wordPart : Shape := .one fun c => isWordStart c || isDigit c

def wordShape : Shape := .one isWordStart ++ .many wordPart

/-- Whether a list of words contains a word, in upper or lower case. -/
def oneOf (words : List String) (cs : List Char) : Bool :=
  let lower := cs.map Char.toLower
  words.any (·.toList = lower)

def wordWhere (p : List Char → Bool) : Shape := fun cs =>
  match wordShape cs with
  | none => none
  | some n => if p (cs.take n) then some n else none

def operandWords : List String :=
  ["clone", "new", "print", "include", "include_once", "require", "require_once", "function", "fn",
    "throw", "match", "list", "array", "yield"]

/-- The words with which a statement begins that is no expression, and those that end one. -/
def statementWords : List String :=
  ["abstract", "break", "case", "catch", "class", "const", "continue", "declare", "default", "do",
    "echo", "else", "elseif", "enddeclare", "endfor", "endforeach", "endif", "endswitch", "endwhile",
    "final", "finally", "for", "foreach", "global", "goto", "if", "interface", "return", "switch",
    "trait", "try", "unset", "use", "while"]

/-! ### Literals -/

def number : Shape :=
  let digits := groupedDigits isDigit
  let power : Shape := .one (fun c => c = 'e' || c = 'E') ++ .opt (.one fun c => c = '+' || c = '-') ++
    digits
  let based (mark : Char) (p : Char → Bool) : Shape :=
    .char '0' ++ .one (fun c => c = mark || c = mark.toUpper) ++ groupedDigits p
  based 'x' isHexDigit <|> (based 'b' fun c => c = '0' || c = '1') <|>
    (based 'o' fun c => '0' ≤ c && c ≤ '7') <|>
    (digits ++ .opt (.char '.' ++ .opt digits) ++ .opt power) <|>
    (.char '.' ++ digits ++ .opt power)

def plainString : Shape :=
  .opt (.one fun c => c = 'b' || c = 'B') ++ .char '\'' ++
    .many (.one (fun c => !(c = '\'' || c = '\\')) <|> (.char '\\' ++ .one fun _ => true)) ++
    .char '\''

/-- Text inside a string in which expressions are replaced, up to one of them. -/
def stringText (q : Char) : Shape :=
  .many1 (.one (fun c => !(c = q || c = '\\' || c = '\x7b' || c = '$')) <|>
    (.char '\\' ++ .one fun _ => true) <|>
    (.char '\x7b' ++ .absent (.char '$')) <|> (.char '$' ++ .absent (.char '\x7b')))

/-- The number of characters up to the end of a line that begins with a word after blanks; the
first list bounds the number of lines. -/
def throughLabel (label : List Char) : List Char → List Char → Option Nat
  | [], _ => none
  | _ :: bound, cs =>
    let indent := (cs.takeWhile fun c => c = ' ' || c = '\t').length
    let rest := cs.drop indent
    if label.isPrefixOf rest && (wordPart (rest.drop label.length)).isNone then
      some (indent + label.length)
    else
      match Shape.through "\n" cs with
      | none => none
      | some n => (throughLabel label bound (cs.drop n)).map (n + ·)

/-- A text of whole lines up to a label that is given before it. -/
def labelledText : Shape := fun cs =>
  let blank : Shape := .many (.one fun c => c = ' ' || c = '\t')
  let quote (s : List Char) : List Char := s.takeWhile fun c => c = '"' || c = '\''
  match (Shape.exactly "<<<" ++ blank) cs with
  | none => none
  | some start =>
    let rest := cs.drop start
    let q := (quote rest).take 1
    match wordShape.split? (rest.drop q.length) with
    | none => none
    | some (label, rest) =>
      if !q.isPrefixOf rest then none
      else
        match (Shape.opt (.char '\r') ++ .char '\n') (rest.drop q.length) with
        | none => none
        | some n =>
          let body := rest.drop (q.length + n)
          (throughLabel label cs body).map (start + q.length + label.length + q.length + n + ·)

end Docent.Page
