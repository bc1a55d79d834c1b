import Docent.Grammar.Indented.Fault
import Docent.Text.Identifier
import Docent.Text.Printable

/-!
# Tokens of an indentation-structured source

`tokens` cuts a source into tokens: names, literals, marks, line ends, and the changes of
indentation. Each token carries what stands before it (blanks, comments, continued line ends), its
line and the number of brackets open after it. The list ends with the end of the source or with a
`broken` token, which is a fault only for a reader that gets as far as that token.
-/

namespace Docent.Indented

/-! ### Line ends -/

/-- A text with every line end written as a line feed: a carriage return, alone or before a line
feed, becomes one. -/
def unifyLines : List Char → List Char
  | [] => []
  | '\r' :: '\n' :: cs => '\n' :: unifyLines cs
  | '\r' :: cs => '\n' :: unifyLines cs
  | c :: cs => c :: unifyLines cs

def endsInPair : List Char → Bool
  | [] => false
  | ['\r', '\n'] => true
  | _ :: cs => endsInPair cs

/-- The text that is read: unified lines, and a line feed at the end unless one closes the last
line; a final carriage return and line feed count as one mark, which gets a line feed too. -/
def readable (cs : List Char) : List Char :=
  let unified := unifyLines cs
  if endsInPair cs then unified ++ ['\n']
  else if unified.getLast? = some '\n' then unified
  else unified ++ ['\n']

/-! ### Tokens -/

/-- The kinds of tokens; a broken one tells its fault, whether that fault is reported wherever it
is met, and the innermost open bracket with its line. -/
inductive TokenKind
  | name | keyword | number | string | mark
  | newline | indent | dedent | finish
  | broken (fault : Fault) (definite : Bool) (unclosed : Option (Char × Nat))
deriving Repr

/-- A token with the text before it, its own text, the line it begins on, and the number of
brackets open after it. -/
structure Token where
  kind : TokenKind
  lead : List Char
  text : List Char
  symbol : String
  line : Nat
  depth : Nat
deriving Repr

namespace Token

def refusal? (t : Token) : Option Refusal :=
  match t.kind with
  | .broken .unexpectedEnd _ (some (c, line)) => some ⟨.neverClosed c, some line⟩
  | .broken fault _ _ => some ⟨fault, some t.line⟩
  | _ => none

def isName (t : Token) : Bool := t.kind matches .name
def isNumber (t : Token) : Bool := t.kind matches .number
def isString (t : Token) : Bool := t.kind matches .string
def isNewline (t : Token) : Bool := t.kind matches .newline
def isIndent (t : Token) : Bool := t.kind matches .indent
def isDedent (t : Token) : Bool := t.kind matches .dedent
def isFinish (t : Token) : Bool := t.kind matches .finish

def isSymbol (s : String) (t : Token) : Bool :=
  match t.kind with
  | .keyword | .mark => t.symbol == s
  | _ => false

def isWord (s : String) (t : Token) : Bool :=
  t.isName && t.symbol == s

end Token

def keywords : List String :=
  ["False", "None", "True", "and", "as", "assert", "async", "await", "break", "class", "continue",
    "def", "del", "elif", "else", "except", "finally", "for", "from", "global", "if", "import",
    "in", "is", "lambda", "nonlocal", "not", "or", "pass", "raise", "return", "try", "while",
    "with", "yield"]

/-! ### Numbers -/

/-- What a scanner returns: the characters taken and the rest, or a fault. -/
abbrev Scan := Except Fault (List Char × List Char)

def Scan.cons (c : Char) : Scan → Scan
  | .ok (taken, rest) => .ok (c :: taken, rest)
  | .error f => .error f

def isWordChar (c : Char) : Bool :=
  c.isAlphanum || c = '_' || c.toNat ≥ 128

def isWordStart (c : Char) : Bool :=
  c.isAlpha || c = '_' || c.toNat ≥ 128

/-- The keywords that may follow a number without a blank. -/
def mayFollowNumber (rest : List Char) : Bool :=
  ["and", "else", "for", "if", "in", "is", "or"].any fun k => k.toList.isPrefixOf rest

def endNumber (radix : Radix) (rest : List Char) : Scan :=
  match rest with
  | c :: _ =>
    if isWordChar c && !mayFollowNumber rest then .error (.badNumber radix) else .ok ([], rest)
  | [] => .ok ([], rest)

/-- Decimal digits with single underscores between them, after a first digit; `next` reads on. -/
def decimalTail (next : List Char → Scan) : List Char → Scan
  | '_' :: d :: cs =>
    if d.isDigit then Scan.cons '_' (Scan.cons d (decimalTail next cs))
    else .error (.badNumber .decimal)
  | ['_'] => .error (.badNumber .decimal)
  | c :: cs => if c.isDigit then Scan.cons c (decimalTail next cs) else next (c :: cs)
  | [] => next []

/-- The mark of an imaginary number, or the end of a decimal one. -/
def imaginaryMark : List Char → Scan
  | 'j' :: cs => Scan.cons 'j' (endNumber .imaginary cs)
  | 'J' :: cs => Scan.cons 'J' (endNumber .imaginary cs)
  | cs => endNumber .decimal cs

/-- An exponent, if there is one; a letter `e` that begins a following keyword is none. -/
def exponent (cs : List Char) : Scan :=
  match cs with
  | e :: s :: d :: cs' =>
    if e = 'e' ∨ e = 'E' then
      if s = '+' ∨ s = '-' then
        if d.isDigit then
          Scan.cons e (Scan.cons s (Scan.cons d (decimalTail imaginaryMark cs')))
        else .error (.badNumber .decimal)
      else if s.isDigit then Scan.cons e (Scan.cons s (decimalTail imaginaryMark (d :: cs')))
      else endNumber .decimal cs
    else imaginaryMark cs
  | e :: rest =>
    if e = 'e' ∨ e = 'E' then
      match rest with
      | s :: _ =>
        if s = '+' ∨ s = '-' then .error (.badNumber .decimal)
        else if s.isDigit then Scan.cons e (Scan.cons s (.ok ([], [])))
        else endNumber .decimal cs
      | [] => endNumber .decimal cs
    else imaginaryMark cs
  | [] => imaginaryMark cs

def fraction : List Char → Scan
  | d :: cs => if d.isDigit then Scan.cons d (decimalTail exponent cs) else exponent (d :: cs)
  | [] => .ok ([], [])

/-- A point with a fraction, or an exponent, or the end of a number. -/
def afterInteger : List Char → Scan
  | '.' :: cs => Scan.cons '.' (fraction cs)
  | cs => exponent cs

def isDigitOf : Radix → Char → Bool
  | .binary, c => c = '0' || c = '1'
  | .octal, c => '0' ≤ c && c < '8'
  | .hexadecimal, c => (Text.hexDigit? c).isSome
  | _, c => c.isDigit

/-- The digits after the letter of a number system: `need` says that a digit must come, `gap` that
an underscore may come before it. -/
def radixDigits (radix : Radix) (need gap : Bool) : List Char → Scan
  | [] => if need then .error (.badNumber radix) else .ok ([], [])
  | c :: cs =>
    if isDigitOf radix c then Scan.cons c (radixDigits radix false true cs)
    else if c = '_' ∧ gap then Scan.cons c (radixDigits radix true false cs)
    else if c.isDigit then .error (.badDigit c radix)
    else if need then .error (.badNumber radix)
    else endNumber radix (c :: cs)

/-- What follows a leading zero and further zeros: `nonzero` digits make a number that only a
point, an exponent or an imaginary mark excuses. -/
def afterZeros (cs : List Char) : Scan :=
  match cs with
  | d :: cs' =>
    if d.isDigit then Scan.cons d (decimalTail excused cs') else afterZero (d :: cs')
  | [] => endNumber .decimal []
where
  /-- The end of a number with a nonzero digit after its leading zero. -/
  excused (rest : List Char) : Scan :=
    match rest with
    | c :: _ =>
      if c = '.' ∨ c = 'e' ∨ c = 'E' ∨ c = 'j' ∨ c = 'J' then afterInteger rest
      else .error .leadingZeros
    | [] => .error .leadingZeros
  /-- The end of a number that is zeros only. -/
  afterZero (rest : List Char) : Scan :=
    afterInteger rest

/-- Zeros with single underscores, then the rest of a number that began with a zero. -/
def zeros : List Char → Scan
  | '_' :: d :: cs =>
    if d = '0' then Scan.cons '_' (Scan.cons '0' (zeros cs))
    else if d.isDigit then Scan.cons '_' (afterZeros (d :: cs))
    else .error (.badNumber .decimal)
  | ['_'] => .error (.badNumber .decimal)
  | '0' :: cs => Scan.cons '0' (zeros cs)
  | cs => afterZeros cs

def number : List Char → Scan
  | '0' :: c :: cs =>
    if c = 'x' ∨ c = 'X' then Scan.cons '0' (Scan.cons c (radixDigits .hexadecimal true true cs))
    else if c = 'o' ∨ c = 'O' then Scan.cons '0' (Scan.cons c (radixDigits .octal true true cs))
    else if c = 'b' ∨ c = 'B' then Scan.cons '0' (Scan.cons c (radixDigits .binary true true cs))
    else Scan.cons '0' (zeros (c :: cs))
  | ['0'] => .ok (['0'], [])
  | d :: cs => Scan.cons d (decimalTail afterInteger cs)
  | [] => .ok ([], [])

/-! ### Strings -/

def closingQuotes (quote : Char) (triple : Bool) : List Char :=
  if triple then [quote, quote, quote] else [quote]

/-- The body of a string up to its closing quotes; `none` if they do not come. -/
def stringBody (quote : Char) (triple : Bool) : List Char → Option (List Char × List Char)
  | [] => none
  | '\\' :: c :: cs => (stringBody quote triple cs).map fun r => ('\\' :: c :: r.1, r.2)
  | c :: cs =>
    let closing := closingQuotes quote triple
    if closing.isPrefixOf (c :: cs) then some (closing, (c :: cs).drop closing.length)
    else if c = '\n' ∧ !triple then none
    else (stringBody quote triple cs).map fun r => (c :: r.1, r.2)

/-- Whether letters may stand before the opening quote of a string. -/
def isStringMark (letters : List Char) : Bool :=
  [[], ['b'], ['r'], ['u'], ['f'], ['b', 'r'], ['r', 'b'], ['f', 'r'], ['r', 'f']].contains
    (letters.map Char.toLower)

/-- The length of the letters of a string literal at the head of a text, if one stands there. -/
def stringMark? (cs : List Char) : Option Nat :=
  let letters := (cs.take 2).takeWhile Char.isAlpha
  match cs.drop letters.length with
  | c :: _ => if (c = '\'' ∨ c = '"') ∧ isStringMark letters then some letters.length else none
  | [] => none

/-- The lines from the start of an unterminated string to the place where that shows. -/
def unterminatedLines (triple : Bool) : List Char → Nat
  | [] => 0
  | '\\' :: '\n' :: cs => 1 + unterminatedLines triple cs
  | '\\' :: _ :: cs => unterminatedLines triple cs
  | '\n' :: cs => if triple then 1 + unterminatedLines triple cs else 0
  | _ :: cs => unterminatedLines triple cs

/-! ### Marks -/

def markLength (cs : List Char) : Nat :=
  let three := String.ofList (cs.take 3)
  let two := String.ofList (cs.take 2)
  if ["...", "**=", "//=", "<<=", ">>="].contains three then 3
  else if ["!=", "%=", "&=", "**", "*=", "+=", "-=", "->", "//", "/=", ":=", "<<", "<=", "<>",
      "==", ">=", ">>", "@=", "^=", "|="].contains two then 2
  else 1

def opening? : Char → Option Char
  | ')' => some '('
  | ']' => some '['
  | '}' => some '{'
  | _ => none

/-! ### The scanner -/

/-- Where the scanner stands: the rest of the source, its line, the characters since the last
token in reverse, whether a line begins here and whether it is blank, the columns of indentation
(counted with tabs of eight and of one), the changes of indentation still to report, the open
brackets, and the number of lines of the source. -/
structure Cursor where
  rest : List Char
  line : Nat
  lead : List Char
  atStart : Bool
  blankLine : Bool
  indents : List (Nat × Nat)
  pending : Int
  brackets : List (Char × Nat)
  lastLine : Nat

namespace Cursor

/-- The line of the next character, or of the last one. -/
def here (s : Cursor) : Nat := min s.line s.lastLine

def token (s : Cursor) (kind : TokenKind) (text : List Char) : Token :=
  ⟨kind, s.lead.reverse, text, String.ofList text, s.here, s.brackets.length⟩

def brokenAt (s : Cursor) (line : Nat) (fault : Fault) (definite : Bool) : Token :=
  ⟨.broken fault definite s.brackets.head?, s.lead.reverse, [], "", line, s.brackets.length⟩

def broken (s : Cursor) (fault : Fault) (definite : Bool) : Token :=
  s.brokenAt s.here fault definite

def skip (s : Cursor) (c : Char) (rest : List Char) : Cursor :=
  { s with
    rest := rest, lead := c :: s.lead, line := if c = '\n' then s.line + 1 else s.line }

def past (s : Cursor) (text rest : List Char) : Cursor :=
  { s with rest := rest, lead := [], line := s.line + text.count '\n' }

/-- Measures the indentation of a line: the column with tabs of eight, the column with tabs of one,
and the first column at which a continued line end stood. -/
def measure : Nat → Cursor → Nat → Nat → Nat → Except Token (Cursor × Nat × Nat)
  | 0, s, col, alt, _ => .ok (s, col, alt)
  | fuel + 1, s, col, alt, cont =>
    match s.rest with
    | ' ' :: cs => measure fuel (s.skip ' ' cs) (col + 1) (alt + 1) cont
    | '\t' :: cs => measure fuel (s.skip '\t' cs) ((col / 8 + 1) * 8) (alt + 1) cont
    -- a form feed starts the columns anew
    | '\x0c' :: cs => measure fuel (s.skip '\x0c' cs) 0 0 cont
    | '\\' :: cs =>
      match cs with
      | '\n' :: cs' =>
        let s' := (s.skip '\\' cs).skip '\n' cs'
        if cs'.isEmpty then .error (s'.broken .unexpectedEnd false)
        else measure fuel s' col alt (if cont = 0 then col else cont)
      | _ => .error (s.broken .afterContinuation false)
    | _ => .ok (s, if cont = 0 then col else cont, if cont = 0 then alt else cont)

def indentTo (s : Cursor) (col alt : Nat) : Except Token Cursor :=
  match s.indents with
  | [] => .ok s
  | (c, a) :: _ =>
    if col = c then
      if alt = a then .ok s else .error (s.broken .inconsistentTabs false)
    else if col > c then
      if s.indents.length ≥ 100 then .error (s.broken .indentedTooDeeply false)
      -- both measures have to grow, or tabs decide
      else if alt ≤ a then .error (s.broken .inconsistentTabs false)
      else .ok { s with indents := (col, alt) :: s.indents, pending := 1 }
    else
      -- as many blocks end as were opened at greater columns
      let kept := s.indents.dropWhile fun i => col < i.1
      match kept with
      | [] => .ok s
      | (c', a') :: _ =>
        if col ≠ c' then .error (s.broken .inconsistentDedent false)
        else if alt ≠ a' then .error (s.broken .inconsistentTabs false)
        else .ok { s with indents := kept, pending := -(s.indents.length - kept.length : Nat) }

def startLine (s : Cursor) : Except Token Cursor := do
  let (s', col, alt) ← measure (s.rest.length + 1) s 0 0 0
  let s' := { s' with atStart := false }
  match s'.rest with
  -- a line without code does not change the indentation, nor does one inside brackets
  | '#' :: _ | '\n' :: _ => .ok { s' with blankLine := true }
  | _ =>
    let s' := { s' with blankLine := false }
    if s'.brackets.isEmpty then s'.indentTo col alt else .ok s'

def skipBlanks : List Char → List Char → List Char × List Char
  | lead, c :: cs =>
    if c = ' ' ∨ c = '\t' ∨ c = '\x0c' then skipBlanks (c :: lead) cs
    else if c = '#' then
      ((c :: cs).takeWhile (· ≠ '\n') |>.foldl (fun l x => x :: l) lead,
        (c :: cs).dropWhile (· ≠ '\n'))
    else (lead, c :: cs)
  | lead, [] => (lead, [])

/-- The token at the head of the rest, which is neither blank nor a line end, and the cursor after
it; or the token of a fault. -/
def nextToken (s : Cursor) : Except Token (Token × Cursor) :=
  match s.rest with
  | [] => .error (s.broken .unexpectedEnd false)
  | c :: cs =>
    let scanned (kind : TokenKind) (r : Scan) : Except Token (Token × Cursor) :=
      match r with
      | .ok (text, rest) => .ok (s.token kind text, s.past text rest)
      | .error f => .error (s.broken f true)
    match stringMark? s.rest with
    | some n =>
      match s.rest.drop n with
      | quote :: body =>
        let triple := body.take 2 = [quote, quote]
        let opened := s.rest.take (if triple then n + 3 else n + 1)
        let inner := if triple then body.drop 2 else body
        match stringBody quote triple inner with
        | some (text, rest) => scanned .string (.ok (opened ++ text, rest))
        | none =>
          -- the end of the source shows where a string is unterminated, at its last line at most
          let line := min (s.line + unterminatedLines triple inner) s.lastLine
          let fault : Fault :=
            if triple then .unterminatedBlockString line else .unterminatedString line
          .error (s.broken fault true)
      | [] => .error (s.broken .invalid true)
    | none =>
      if isWordStart c then
        let text := s.rest.takeWhile isWordChar
        let rest := s.rest.dropWhile isWordChar
        -- words of ASCII characters have no flaw and are not looked up
        match if text.all (·.toNat < 128) then none else Text.identifierFlaw? text with
        | some flaw =>
          .error (s.broken (if Text.isPrintable flaw then .badCharacter flaw
            else .unprintable flaw) true)
        | none =>
          let word := String.ofList text
          scanned (if keywords.contains word then .keyword else .name) (.ok (text, rest))
      else if c.isDigit then scanned .number (number s.rest)
      else if c = '.' ∧ (cs.head?.map Char.isDigit).getD false then
        scanned .number (Scan.cons '.' (fraction cs))
      else if c = '(' ∨ c = '[' ∨ c = '{' then
        if s.brackets.length ≥ 200 then .error (s.broken .nestedTooDeeply true)
        else
          let s' := { s with brackets := (c, s.here) :: s.brackets }
          .ok (s'.token .mark [c], s'.past [c] cs)
      else
        match opening? c with
        | some opening =>
          match s.brackets with
          | [] => .error (s.broken (.unmatched c) true)
          | (b, line) :: outer =>
            let s' := { s with brackets := outer }
            if b = opening then .ok (s'.token .mark [c], s'.past [c] cs)
            else
              .error (s'.broken
                (.mismatched c b (if line = s.here then none else some line)) true)
        | none =>
          if !Text.isPrintable c then .error (s.broken (.unprintable c) true)
          else
            let n := markLength s.rest
            scanned .mark (.ok (s.rest.take n, s.rest.drop n))

end Cursor

def tokensFrom : Nat → Cursor → List Token
  | 0, _ => []
  | fuel + 1, s =>
    if s.atStart then
      match s.startLine with
      | .ok s' => tokensFrom fuel s'
      | .error t => [t]
    else if s.pending < 0 then
      -- what stands before the end of a block is left to the token after it
      { s with lead := [] }.token .dedent [] :: tokensFrom fuel { s with pending := s.pending + 1 }
    else if s.pending > 0 then
      s.token .indent [] :: tokensFrom fuel { s with lead := [], pending := s.pending - 1 }
    else
      let (lead, rest) := Cursor.skipBlanks s.lead s.rest
      let s := { s with lead := lead, rest := rest }
      match rest with
      | [] =>
        if s.brackets.isEmpty then [s.token .finish []] else [s.broken .unexpectedEnd false]
      | '\n' :: cs =>
        if s.blankLine || !s.brackets.isEmpty then
          tokensFrom fuel { s.skip '\n' cs with atStart := true, blankLine := false }
        else
          s.token .newline ['\n'] :: tokensFrom fuel { s.past ['\n'] cs with atStart := true }
      | '\\' :: cs =>
        match cs with
        | '\n' :: cs' =>
          let s' := (s.skip '\\' cs).skip '\n' cs'
          if cs'.isEmpty then [s'.broken .unexpectedEnd false] else tokensFrom fuel s'
        | _ => [s.broken .afterContinuation false]
      | _ =>
        match s.nextToken with
        | .ok (t, s') => t :: tokensFrom fuel s'
        | .error t => [t]

def tokensAt (line : Nat) (cs : List Char) : List Token :=
  tokensFrom (4 * cs.length + 8)
    { rest := cs, line := line, lead := [], atStart := true, blankLine := false,
      indents := [(0, 0)], pending := 0, brackets := [],
      lastLine := line + (cs.count '\n' - 1) }

def tokens (cs : List Char) : List Token :=
  tokensAt 1 cs

end Docent.Indented
