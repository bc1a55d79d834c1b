import Docent.Grammar.Indented.Fault

/-!
# String literals

The value of a string token: its letters and quotes are removed and its escapes are read. A
formatted string has no value of its own; `checkFormatted` walks through it, hands every embedded
expression to a checker and reports the first thing that is wrong.
-/

namespace Docent.Indented

structure Literal where
  isBytes : Bool
  isRaw : Bool
  isFormatted : Bool
  body : List Char

/-- Takes a string token apart: the letters before the quotes, and the text between them. -/
def Literal.ofText (text : List Char) : Literal :=
  let letters := (text.takeWhile Char.isAlpha).map Char.toLower
  let quotedPart := text.dropWhile Char.isAlpha
  let quotes :=
    match quotedPart with
    | a :: b :: c :: _ => if a = b ∧ b = c ∧ 6 ≤ quotedPart.length then 3 else 1
    | _ => 1
  { isBytes := letters.contains 'b', isRaw := letters.contains 'r'
    isFormatted := letters.contains 'f'
    body := (quotedPart.drop quotes).take (quotedPart.length - 2 * quotes) }

/-- What can be wrong with a string: a fault of its own, reported where the reader stands, or a
refusal of an embedded expression. -/
inductive StringIssue
  | here (fault : Fault)
  | embedded (r : Refusal)

/-! ### Escapes -/

/-- The text as the escape reader counts it: every character beyond ASCII is an escape of ten
characters, and a backslash before such a one or at the end is an escape of six. -/
def spelled : List Char → List Char
  | [] => []
  | '\\' :: cs =>
    match cs with
    | [] => '\\' :: "u005c".toList
    | c :: cs' =>
      if c.toNat < 0x80 then '\\' :: c :: spelled cs'
      else '\\' :: "u005c".toList ++ ('\\' :: 'U' :: Text.hexDigits 8 c.toNat) ++ spelled cs'
  | c :: cs =>
    if c.toNat < 0x80 then c :: spelled cs
    else ('\\' :: 'U' :: Text.hexDigits 8 c.toNat) ++ spelled cs

def hexRun (n : Nat) (cs : List Char) : List Char :=
  (cs.take n).takeWhile fun c => (Text.hexDigit? c).isSome

def octalValue (digits : List Char) : Nat :=
  digits.foldl (fun n c => 8 * n + (c.toNat - 48)) 0

def letterEscape? : Char → Option Char
  | '\\' => some '\\'
  | '\'' => some '\''
  | '"' => some '"'
  | 'a' => some '\x07'
  | 'b' => some '\x08'
  | 'f' => some '\x0c'
  | 'n' => some '\n'
  | 'r' => some '\r'
  | 't' => some '\t'
  | 'v' => some '\x0b'
  | _ => none

def escapeWidth? : Char → Option Nat
  | 'x' => some 2
  | 'u' => some 4
  | 'U' => some 8
  | _ => none

/-- The fault of an escape that covers `width` characters from position `start`. -/
def escapeFault (start width : Nat) (what : String) : Fault :=
  .badEscape s!"position {start}-{start + width - 1}: {what}"

def truncated (start : Nat) (c : Char) (width found : Nat) : Fault :=
  escapeFault start (2 + found)
    ("truncated \\" ++ String.ofList (c :: List.replicate width 'X') ++ " escape")

/-- Reads the escapes of a spelled text; `names` looks up the name of a character. -/
def unescape (names : List Char → Option Char) : Nat → Nat → List Char → Except Fault (List Char)
  | 0, _, _ => .ok []
  | _ + 1, _, [] => .ok []
  | fuel + 1, pos, '\\' :: cs =>
    match cs with
    | [] => .ok ['\\']
    -- a line end after a backslash is no part of the text
    | '\n' :: rest => unescape names fuel (pos + 2) rest
    | 'N' :: rest =>
      match rest with
      | '{' :: name =>
        let word := name.takeWhile (· ≠ '}')
        let after := name.dropWhile (· ≠ '}')
        if after.isEmpty then
          .error (escapeFault pos (3 + word.length) "malformed \\N character escape")
        else if word.isEmpty then
          .error (escapeFault pos 3 "malformed \\N character escape")
        else
          match names word with
          | some c =>
            (unescape names fuel (pos + 4 + word.length) (after.drop 1)).map (c :: ·)
          | none =>
            .error (escapeFault pos (4 + word.length) "unknown Unicode character name")
      | _ => .error (escapeFault pos 2 "malformed \\N character escape")
    | c :: rest =>
      match letterEscape? c with
      | some e => (unescape names fuel (pos + 2) rest).map (e :: ·)
      | none =>
        match escapeWidth? c with
        | some width =>
          let digits := hexRun width rest
          if digits.length < width then .error (truncated pos c width digits.length)
          else
            let n := Text.hexValue digits
            if n > 0x10FFFF then
              .error (escapeFault pos (2 + width) "illegal Unicode character")
            else
              (unescape names fuel (pos + 2 + width) (rest.drop width)).map (Char.ofNat n :: ·)
        | none =>
          -- up to three octal digits; before anything else the backslash stands for itself
          if '0' ≤ c ∧ c ≤ '7' then
            let digits := c :: (rest.take 2).takeWhile fun d => '0' ≤ d && d ≤ '7'
            (unescape names fuel (pos + 1 + digits.length) (rest.drop (digits.length - 1))).map
              (Char.ofNat (octalValue digits) :: ·)
          else (unescape names fuel (pos + 2) rest).map fun r => '\\' :: c :: r
  | fuel + 1, pos, c :: cs => (unescape names fuel (pos + 1) cs).map (c :: ·)

def readEscapes (names : List Char → Option Char) (cs : List Char) : Except Fault (List Char) :=
  let text := spelled cs
  unescape names (text.length + 1) 0 text

def checkByteEscapes : Nat → List Char → Except Fault Unit
  | _, [] => .ok ()
  | pos, '\\' :: 'x' :: a :: b :: cs =>
    if (Text.hexDigit? a).isSome && (Text.hexDigit? b).isSome then checkByteEscapes (pos + 4) cs
    else .error (.badByteEscape pos)
  | pos, '\\' :: 'x' :: _ => .error (.badByteEscape pos)
  | pos, '\\' :: _ :: cs => checkByteEscapes (pos + 2) cs
  | pos, _ :: cs => checkByteEscapes (pos + 1) cs

/-! ### Formatted strings -/

/-- The literal stretch at the head of a formatted string, what follows it, and whether it ends
with a doubled brace; only the outermost level knows doubled braces. -/
def literalStretch (raw outermost : Bool) :
    Nat → List Char → Except Fault (List Char × List Char × Bool)
  | 0, cs => .ok ([], cs, false)
  | _ + 1, [] => .ok ([], [], false)
  | fuel + 1, c :: cs =>
    let continued (taken rest : List Char) : Except Fault (List Char × List Char × Bool) :=
      (literalStretch raw outermost fuel rest).map fun r => (taken ++ r.1, r.2)
    let brace (pre : List Char) (b : Char) (rest : List Char) :
        Except Fault (List Char × List Char × Bool) :=
      if outermost && rest.head? = some b then .ok (pre ++ [b], rest.drop 1, true)
      else if outermost && b = '}' then .error .formattedBrace
      else .ok (pre, b :: rest, false)
    if c = '\\' ∧ !raw then
      match cs with
      | [] => .ok ([c], [], false)
      -- the braces around the name of a character are no braces of the string
      | 'N' :: rest =>
        match rest with
        | '{' :: name =>
          let word := name.takeWhile (· ≠ '}')
          let close := (name.drop word.length).take 1
          continued (c :: 'N' :: '{' :: word ++ close) (name.drop (word.length + 1))
        | d :: rest' => continued [c, 'N', d] rest'
        | [] => continued [c, 'N'] []
      | e :: rest => if e = '{' ∨ e = '}' then brace [c] e rest else continued [c, e] rest
    else if c = '{' ∨ c = '}' then brace [] c cs
    else continued [c] cs

/-- The end of an embedded expression: the open quote (and whether it is tripled) and the open
brackets tell where a closing brace counts. Returns the expression and what follows. -/
def expressionStretch :
    Nat → Option (Char × Bool) → List Char → List Char → Except Fault (List Char × List Char)
  | 0, _, _, cs => .ok ([], cs)
  | _ + 1, some _, _, [] => .error .formattedUnterminated
  | _ + 1, none, b :: _, [] => .error (.formattedUnmatched b)
  | _ + 1, none, [], [] => .ok ([], [])
  | fuel + 1, quote, brackets, c :: cs =>
    let continued (q : Option (Char × Bool)) (bs taken rest : List Char) :
        Except Fault (List Char × List Char) :=
      (expressionStretch fuel q bs rest).map fun r => (taken ++ r.1, r.2)
    -- no backslash may stand in an expression, not even in a string inside it
    if c = '\\' then .error .formattedBackslash
    else
      match quote with
      | some (q, triple) =>
        if c = q then
          if triple then
            if cs.take 2 = [q, q] then continued none brackets [c, q, q] (cs.drop 2)
            else continued quote brackets [c] cs
          else continued none brackets [c] cs
        else continued quote brackets [c] cs
      | none =>
        if c = '\'' ∨ c = '"' then
          if cs.take 2 = [c, c] then continued (some (c, true)) brackets [c, c, c] (cs.drop 2)
          else continued (some (c, false)) brackets [c] cs
        else if c = '(' ∨ c = '[' ∨ c = '{' then
          if brackets.length ≥ 200 then .error .formattedTooManyBrackets
          else continued none (c :: brackets) [c] cs
        else if c = '#' then .error .formattedComment
        else if brackets.isEmpty ∧ ['!', ':', '}', '=', '<', '>'].contains c then
          -- the first sign of a comparison does not end the expression
          if (c = '!' ∨ c = '=' ∨ c = '<' ∨ c = '>') ∧ cs.head? = some '=' then
            continued none brackets [c, '='] (cs.drop 1)
          else if c = '<' ∨ c = '>' then continued none brackets [c] cs
          else .ok ([], c :: cs)
        else if c = ']' ∨ c = '}' ∨ c = ')' then
          match brackets with
          | [] => .error (.formattedUnmatched c)
          | b :: bs =>
            if (b = '(' ∧ c = ')') ∨ (b = '[' ∧ c = ']') ∨ (b = '{' ∧ c = '}') then
              continued none bs [c] cs
            else .error (.formattedMismatched c b)
        else continued none brackets [c] cs

def isBlankExpression (cs : List Char) : Bool :=
  cs.all fun c => c = ' ' || c = '\t' || c = '\n' || c = '\x0c'

def atHere {α : Type} (r : Except Fault α) : Except StringIssue α :=
  r.mapError StringIssue.here

/-- Walks through a formatted string, or through a format inside it (`level` above zero): `check`
is given the number of line feeds before an expression and the expression. Returns what follows
and the number of line feeds passed. -/
def walkFormatted (names : List Char → Option Char) (check : Nat → List Char → Option Refusal)
    (raw : Bool) : Nat → Nat → Nat → List Char → Except StringIssue (List Char × Nat)
  | 0, _, lines, cs => .ok (cs, lines)
  | fuel + 1, level, lines, cs => do
    let (literal, rest, doubled) ← atHere (literalStretch raw (level = 0) (cs.length + 1) cs)
    unless raw do
      let _ ← atHere (readEscapes names literal)
    let lines := lines + literal.count '\n'
    if doubled then walkFormatted names check raw fuel level lines rest
    else
      match rest with
      | '{' :: inner => do
        if level ≥ 2 then throw (.here .formattedTooDeep)
        let (expr, rest) ← atHere (expressionStretch (inner.length + 1) none [] inner)
        let exprLines := lines
        let lines := lines + expr.count '\n'
        match rest with
        | [] => throw (.here .formattedExpectingBrace)
        | stop :: _ =>
          if isBlankExpression expr then
            throw (.here (if stop = '}' then .formattedEmpty else .formattedEmptyBefore stop))
          match check exprLines expr with
          | some r => throw (.embedded r)
          | none =>
            -- after an equals sign blanks belong to what is shown
            let shown := if stop = '=' then (rest.drop 1).takeWhile fun c =>
              c = ' ' || ('\t' ≤ c && c ≤ '\r') else []
            let rest := if stop = '=' then rest.drop (1 + shown.length) else rest
            let lines := lines + shown.count '\n'
            let rest ←
              match rest with
              | '!' :: conv :: rest' =>
                if conv = 's' ∨ conv = 'r' ∨ conv = 'a' then pure rest'
                else throw (.here .formattedConversion)
              | ['!'] => throw (.here .formattedExpectingBrace)
              | _ => pure rest
            let (rest, lines) ←
              match rest with
              | ':' :: [] => throw (.here .formattedExpectingBrace)
              | ':' :: spec => walkFormatted names check raw fuel (level + 1) lines spec
              | _ => pure (rest, lines)
            match rest with
            | '}' :: rest => walkFormatted names check raw fuel level lines rest
            | _ => throw (.here .formattedExpectingBrace)
      | '}' :: _ => return (rest, lines)
      | _ => if level = 0 then return (rest, lines) else throw (.here .formattedExpectingBrace)

/-- The first thing wrong with a formatted string whose letters and quotes are given by `lead`. -/
def checkFormatted (names : List Char → Option Char) (check : Nat → List Char → Option Refusal)
    (l : Literal) : Option StringIssue :=
  match walkFormatted names check l.isRaw (2 * l.body.length + 4) 0 0 l.body with
  | .ok _ => none
  | .error issue => some issue

/-! ### Values -/

/-- The text of a plain string literal; a byte string has none. -/
def Literal.value (names : List Char → Option Char) (l : Literal) : Except Fault (List Char) :=
  if l.isBytes then
    if l.isRaw then .ok [] else (checkByteEscapes 0 l.body).map fun _ => []
  else if l.isRaw then .ok l.body
  else readEscapes names l.body

end Docent.Indented
