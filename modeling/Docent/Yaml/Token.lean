import Docent.Text.Utf8
import Docent.Yaml.Scalar

/-!
# Tokens of a document

The tokens that a document is cut into, and how directives, anchors and tags are read.
-/

namespace Docent.Yaml

/-- What a directive says: the version of the language, or what a handle of tags stands for. -/
inductive Directive
  | version (major minor : Nat)
  | handle (name stem : String)
  | other
deriving DecidableEq, Repr

/-- The kind of a token, with what it holds. -/
inductive TokenKind
  | streamEnd
  | directive (d : Directive)
  | documentStart
  | documentEnd
  | sequenceStart
  | mappingStart
  | blockEnd
  | openBracket
  | openBrace
  | closeBracket
  | closeBrace
  | key
  | value
  | entry
  | comma
  | reference (name : String)
  | anchor (name : String)
  | tag (handle : Option String) (suffix : String)
  | scalar (text : String) (plain : Bool)
deriving DecidableEq, Repr

def TokenKind.name : TokenKind → String
  | streamEnd => "<stream end>"
  | directive _ => "<directive>"
  | documentStart => "<document start>"
  | documentEnd => "<document end>"
  | sequenceStart => "<block sequence start>"
  | mappingStart => "<block mapping start>"
  | blockEnd => "<block end>"
  | openBracket => "["
  | openBrace => "\x7b"
  | closeBracket => "]"
  | closeBrace => "\x7d"
  | key => "?"
  | value => ":"
  | entry => "-"
  | comma => ","
  | reference _ => "<alias>"
  | anchor _ => "<anchor>"
  | tag .. => "<tag>"
  | scalar .. => "<scalar>"

/-- A token: its kind, where it begins and where it ends. -/
structure Token where
  kind : TokenKind
  start : Mark
  stop : Mark
deriving Repr

/-! ### Names -/

def endsDirectiveWord (c : Char) : Bool := c = ' ' || endsLine c

def nameFrom (doing : String) (start : Mark) (c : Cursor) : Except Complaint (String × Cursor) :=
  let (name, after) := c.takeAll isNameChar
  if name.isEmpty then
    .error (c.complain doing start
      ("expected alphabetic or numeric character, but found " ++ quotedChar c.peek))
  else .ok (String.ofList name, after)

def afterName (doing : String) (start : Mark) (c : Cursor) : Complaint :=
  c.complain doing start
    ("expected alphabetic or numeric character, but found " ++ quotedChar c.peek)

def anchorName (what : String) (c : Cursor) : Except Complaint (String × Cursor) := do
  let doing := "while scanning an " ++ what
  let (name, after) ← nameFrom doing c.mark c.step
  let x := after.peek
  if endsWord x || ['?', ':', ',', ']', '\x7d', '%', '@', Char.ofNat 96].contains x then
    return (name, after)
  else .error (afterName doing c.mark after)

/-! ### Tags -/

def tagBytes (doing : String) (start : Mark) :
    Nat → Cursor → Except Complaint (List UInt8 × Cursor)
  | 0, c => .ok ([], c)
  | fuel + 1, c => do
    if c.peek != '%' then return ([], c)
    let c := c.step
    match missingDigit? c 2 0 with
    | some x =>
      .error (c.complain doing start
        ("expected URI escape sequence of 2 hexadecimal numbers, but found " ++ quotedChar x))
    | none =>
      let (bs, after) ← tagBytes doing start fuel (c.forward 2)
      return (UInt8.ofNat (Text.hexValue (c.rest.take 2)) :: bs, after)

def isTagChar (c : Char) : Bool :=
  isNameChar c || ";/?:@&=+$,_.!~*'()[]%".toList.contains c

def tagText (doing : String) (start : Mark) :
    Nat → Cursor → Except Complaint (List Char × Cursor)
  | 0, c => .ok ([], c)
  | fuel + 1, c => do
    let (run, after) := c.takeAll fun x => isTagChar x && x != '%'
    if after.peek = '%' then
      let (bs, last) ← tagBytes doing start (after.rest.length + 1) after
      match Utf8.strict bs with
      | .error flaw =>
        .error (after.complain doing start flaw.message)
      | .ok cs =>
        let (more, last) ← tagText doing start fuel last
        return (run ++ cs ++ more, last)
    else return (run, after)

def tagSuffix (what : String) (start : Mark) (c : Cursor) : Except Complaint (String × Cursor) := do
  let (text, after) ← tagText ("while scanning a " ++ what) start (c.rest.length + 1) c
  if after.mark.index = c.mark.index then
    .error (c.complain ("while parsing a " ++ what) start
      ("expected URI, but found " ++ quotedChar c.peek))
  else return (String.ofList text, after)

def tagHandle (what : String) (start : Mark) (c : Cursor) : Except Complaint (String × Cursor) :=
  let complain (c : Cursor) : Complaint :=
    c.complain ("while scanning a " ++ what) start ("expected '!', but found " ++ quotedChar c.peek)
  if c.peek != '!' then .error (complain c)
  else if c.peekAt 1 = ' ' then .ok ("!", c.step)
  else
    let (name, after) := c.step.takeAll isNameChar
    if after.peek = '!' then .ok (String.ofList ('!' :: name ++ ['!']), after.step)
    else .error (complain after)

def hasHandle (c : Cursor) : Bool :=
  ((c.step.rest.takeWhile fun x => !endsDirectiveWord x)).contains '!'

def tagFrom (c : Cursor) : Except Complaint (TokenKind × Cursor) := do
  let start := c.mark
  let x := c.peekAt 1
  let (kind, after) ←
    if x = '<' then do
      let (suffix, after) ← tagSuffix "tag" start (c.forward 2)
      if after.peek = '>' then pure (TokenKind.tag none suffix, after.step)
      else
        .error (after.complain "while parsing a tag" start
          ("expected '>', but found " ++ quotedChar after.peek))
    else if endsWord x then pure (TokenKind.tag none "!", c.step)
    else if hasHandle c then do
      let (handle, after) ← tagHandle "tag" start c
      let (suffix, after) ← tagSuffix "tag" start after
      pure (TokenKind.tag (some handle) suffix, after)
    else do
      let (suffix, after) ← tagSuffix "tag" start c.step
      pure (TokenKind.tag (some "!") suffix, after)
  if endsDirectiveWord after.peek then return (kind, after)
  else
    .error (after.complain "while scanning a tag" start
      ("expected ' ', but found " ++ quotedChar after.peek))

/-! ### Directives -/

def directiveDoing : String := "while scanning a directive"

def versionNumber (start : Mark) (c : Cursor) : Except Complaint (Nat × Cursor) :=
  let (digits, after) := c.takeAll Char.isDigit
  if digits.isEmpty then
    .error (c.complain directiveDoing start ("expected a digit, but found " ++ quotedChar c.peek))
  else .ok (digits.foldl (fun n d => n * 10 + (d.toNat - 48)) 0, after)

def versionFrom (start : Mark) (c : Cursor) : Except Complaint (Directive × Cursor) := do
  let (major, c) ← versionNumber start c.skipBlanks
  if c.peek != '.' then
    .error (c.complain directiveDoing start
      ("expected a digit or '.', but found " ++ quotedChar c.peek))
  let (minor, c) ← versionNumber start c.step
  if endsDirectiveWord c.peek then return (.version major minor, c)
  else
    .error (c.complain directiveDoing start
      ("expected a digit or ' ', but found " ++ quotedChar c.peek))

def handleFrom (start : Mark) (c : Cursor) : Except Complaint (Directive × Cursor) := do
  let expectBlank (c : Cursor) : Complaint :=
    c.complain directiveDoing start ("expected ' ', but found " ++ quotedChar c.peek)
  let (handle, c) ← tagHandle "directive" start c.skipBlanks
  if c.peek != ' ' then .error (expectBlank c)
  let (stem, c) ← tagSuffix "directive" start c.skipBlanks
  if endsDirectiveWord c.peek then return (.handle handle stem, c)
  else .error (expectBlank c)

/-- The directive that begins here, with the rest of its line: what it says, where it ends, and
where the next line begins. -/
def directiveFrom (c : Cursor) : Except Complaint (Directive × Cursor × Cursor) := do
  let start := c.mark
  let (name, c) ← nameFrom directiveDoing start c.step
  if !endsDirectiveWord c.peek then .error (afterName directiveDoing start c)
  let (directive, stop) ←
    if name = "YAML" then versionFrom start c
    else if name = "TAG" then handleFrom start c
    else pure (Directive.other, c)
  let c := if directive = .other then stop.skipAll fun x => !isBreak x else stop
  let c ← idleLine directiveDoing start c
  return (directive, stop, c)

end Docent.Yaml
