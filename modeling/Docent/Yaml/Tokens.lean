import Docent.Yaml.Token

/-!
# Cutting a document into tokens

Whether a word is the key of a mapping is known only when the colon after it is met; until then it is
a possible key. When its colon comes, the token of a key is put before it, and before that the
beginning of a mapping, if the key lies deeper than what is around it. A fault is met only after
all tokens before the first possible key have been given out.
-/

namespace Docent.Yaml

/-- A word that may turn out to be a key: the number of its token, whether it has to be one, and
where it stands. -/
structure PossibleKey where
  number : Nat
  required : Bool
  mark : Mark

/-- The state of cutting: the tokens so far in reverse order with their number, how deeply brackets
nest, the depths of the blocks around, whether a key may come next, and the possible keys by the
nesting of brackets. -/
structure Scanner where
  cursor : Cursor
  tokens : List Token := []
  count : Nat := 0
  flow : Nat := 0
  indent : Int := -1
  indents : List Int := []
  keyAllowed : Bool := true
  keys : List (Nat × PossibleKey) := []

namespace Scanner

def inFlow (s : Scanner) : Bool := s.flow != 0

def column (s : Scanner) : Int := s.cursor.mark.column

def push (s : Scanner) (kind : TokenKind) (start stop : Mark) : Scanner :=
  { s with tokens := ⟨kind, start, stop⟩ :: s.tokens, count := s.count + 1 }

def pushHere (s : Scanner) (kind : TokenKind) : Scanner :=
  s.push kind s.cursor.mark s.cursor.mark

def insert (s : Scanner) (number : Nat) (kind : TokenKind) (mark : Mark) : Scanner :=
  let after := s.count - number
  { s with
    tokens := s.tokens.take after ++ ⟨kind, mark, mark⟩ :: s.tokens.drop after
    count := s.count + 1 }

/-- Adds the token that some characters make up, and moves over them. -/
def pushSign (s : Scanner) (kind : TokenKind) (length : Nat) : Scanner :=
  let after := s.cursor.forward length
  { s.push kind s.cursor.mark after.mark with cursor := after }

/-! ### Possible keys -/

/-- The number of the first possible key; that of the next token if there is none. -/
def firstPending (s : Scanner) : Nat :=
  s.keys.foldl (fun n k => min n k.2.number) s.count

def missingColon (s : Scanner) (k : PossibleKey) : Complaint :=
  s.cursor.complain "while scanning a simple key" k.mark "could not find expected ':'"

/-- Whether a key can no longer be one: it has to end on its line and within 1024 characters. -/
def isStale (s : Scanner) (k : PossibleKey) : Bool :=
  k.mark.line != s.cursor.mark.line || k.mark.index + 1024 < s.cursor.mark.index

def dropStale (s : Scanner) : Except Complaint Scanner :=
  match s.keys.find? fun k => s.isStale k.2 && k.2.required with
  | some k => .error (s.missingColon k.2)
  | none => .ok { s with keys := s.keys.filter fun k => !s.isStale k.2 }

def dropKey (s : Scanner) : Except Complaint Scanner :=
  match s.keys.lookup s.flow with
  | some k =>
    if k.required then .error (s.missingColon k)
    else .ok { s with keys := s.keys.filter fun k => k.1 != s.flow }
  | none => .ok s

/-- Takes what begins here for a possible key, if a key may come. -/
def saveKey (s : Scanner) : Except Complaint Scanner :=
  if s.keyAllowed then do
    let required := !s.inFlow && s.indent = s.column
    let s ← s.dropKey
    return { s with keys := s.keys ++ [(s.flow, ⟨s.count, required, s.cursor.mark⟩)] }
  else .ok s

def allowKey (s : Scanner) (allowed : Bool) : Scanner := { s with keyAllowed := allowed }

/-! ### Depths -/

def unwindFrom (s : Scanner) (column : Int) : List Int → Scanner
  | [] => s
  | outer :: more =>
    if column < s.indent then
      unwindFrom { s.pushHere .blockEnd with indent := outer, indents := more } column more
    else s

/-- Closes the blocks that lie deeper than a column; brackets close none. -/
def unwind (s : Scanner) (column : Int) : Scanner :=
  if s.inFlow then s else s.unwindFrom column s.indents

/-- Opens a block at a column, if that is deeper than what is around. -/
def deepen? (s : Scanner) (column : Int) : Option Scanner :=
  if s.indent < column then
    some { s with indents := s.indent :: s.indents, indent := column }
  else none

/-- Opens a block of a kind here, if this place is deeper than what is around. -/
def openBlock (s : Scanner) (kind : TokenKind) : Scanner :=
  match s.deepen? s.column with
  | some s => s.pushHere kind
  | none => s

/-! ### The next token -/

def advance : Nat → Scanner → Scanner
  | 0, s => s
  | fuel + 1, s =>
    let c := s.cursor.skipBlanks.skipComment
    if isBreak c.peek then
      advance fuel { s with cursor := c.takeBreak.2, keyAllowed := s.keyAllowed || !s.inFlow }
    else { s with cursor := c }

/-- Moves to the next token; a mark may stand before the document. -/
def toNextToken (s : Scanner) : Scanner :=
  let c := s.cursor
  let s :=
    if c.mark.index = 0 ∧ c.peek.toNat = 0xFEFF then { s with cursor := c.step } else s
  s.advance (s.cursor.rest.length + 1)

/-- Ends all blocks and gives up the possible key, before a directive or the mark of a
document. -/
def settle (s : Scanner) : Except Complaint Scanner := do
  let s ← (s.unwind (-1)).dropKey
  return s.allowKey false

def openFlow (s : Scanner) (kind : TokenKind) : Except Complaint Scanner := do
  let s ← s.saveKey
  return ({ s with flow := s.flow + 1, keyAllowed := true }).pushSign kind 1

def closeFlow (s : Scanner) (kind : TokenKind) : Except Complaint Scanner := do
  let s ← s.dropKey
  return ({ s with flow := s.flow - 1, keyAllowed := false }).pushSign kind 1

def comma (s : Scanner) : Except Complaint Scanner := do
  let s ← (s.allowKey true).dropKey
  return s.pushSign .comma 1

/-- A block of a kind that is opened here, unless this is inside of brackets; refused where no key
may come. -/
def openBlockFor (s : Scanner) (kind : TokenKind) (refusal : String) :
    Except Complaint Scanner :=
  if s.inFlow then .ok s
  else if s.keyAllowed then .ok (s.openBlock kind)
  else .error (s.cursor.object refusal)

def entry (s : Scanner) : Except Complaint Scanner := do
  let s ← s.openBlockFor .sequenceStart "sequence entries are not allowed here"
  let s ← (s.allowKey true).dropKey
  return s.pushSign .entry 1

def explicitKey (s : Scanner) : Except Complaint Scanner := do
  let s ← s.openBlockFor .mappingStart "mapping keys are not allowed here"
  let s ← (s.allowKey (!s.inFlow)).dropKey
  return s.pushSign .key 1

/-- Puts the tokens of a key, and of a mapping that begins with it, before a possible key. -/
def makeKey (s : Scanner) (k : PossibleKey) : Scanner :=
  let s := { s with keys := s.keys.filter fun k => k.1 != s.flow }
  let s := s.insert k.number .key k.mark
  let s :=
    if s.inFlow then s
    else
      match s.deepen? k.mark.column with
      | some s => s.insert k.number .mappingStart k.mark
      | none => s
  s.allowKey false

def value (s : Scanner) : Except Complaint Scanner := do
  match s.keys.lookup s.flow with
  | some k => return (s.makeKey k).pushSign .value 1
  | none =>
    let s ← s.openBlockFor .mappingStart "mapping values are not allowed here"
    let s ← (s.allowKey (!s.inFlow)).dropKey
    return s.pushSign .value 1

/-- Adds a token that ends at a cursor, from where this place goes on. -/
def pushTo (s : Scanner) (kind : TokenKind) (c : Cursor) : Scanner :=
  { s.push kind s.cursor.mark c.mark with cursor := c }

def pushWord (s : Scanner) (word : Cursor → Except ScalarFault (TokenKind × Cursor)) :
    Except ScalarFault Scanner := do
  let s ← s.saveKey.mapError .complaint
  let (kind, c) ← word s.cursor
  return (s.allowKey false).pushTo kind c

def plain (s : Scanner) : Except Complaint Scanner := do
  let s ← s.saveKey
  let (text, c, broken) := plainScalar s.inFlow s.indent s.cursor
  return (s.allowKey broken).pushTo (.scalar (String.ofList text) true) c

def block (s : Scanner) (folded : Bool) : Except Complaint Scanner := do
  let s ← (s.allowKey true).dropKey
  let (text, c) ← blockScalar folded s.indent s.cursor
  return s.pushTo (.scalar (String.ofList text) false) c

def directive (s : Scanner) : Except Complaint Scanner := do
  let s ← s.settle
  let (d, stop, next) ← directiveFrom s.cursor
  return { s.push (.directive d) s.cursor.mark stop.mark with cursor := next }

def documentMark (s : Scanner) (kind : TokenKind) : Except Complaint Scanner := do
  let s ← s.settle
  return s.pushSign kind 3

def streamEnd (s : Scanner) : Except Complaint Scanner := do
  let s ← s.settle
  return ({ s with keys := [] }).pushHere .streamEnd

def name (s : Scanner) (what : String) (kind : String → TokenKind) :
    Except ScalarFault Scanner :=
  s.pushWord fun c =>
    ((anchorName what c).map fun (n, after) => (kind n, after)).mapError .complaint

def quoted (s : Scanner) (double : Bool) : Except ScalarFault Scanner :=
  s.pushWord fun c =>
    (quotedScalar double c).map fun (text, after) => (.scalar (String.ofList text) false, after)

def beginsPlain (s : Scanner) : Bool :=
  let x := s.cursor.peek
  let signs := ['-', '?', ':', ',', '[', ']', '\x7b', '\x7d', '#', '&', '*', '!', '|', '>', '\'',
    '"', '%', '@', Char.ofNat 96]
  (!endsWord x && !signs.contains x) ||
    (!endsWord (s.cursor.peekAt 1) && (x = '-' || (!s.inFlow && (x = '?' || x = ':'))))

def tokenHere (s : Scanner) : Except ScalarFault Scanner :=
  let c := s.cursor
  let x := c.peek
  let lone := endsWord (c.peekAt 1)
  let plainly (r : Except Complaint Scanner) : Except ScalarFault Scanner :=
    r.mapError .complaint
  if x = endChar then plainly s.streamEnd
  else if x = '%' ∧ c.mark.column = 0 then plainly s.directive
  else if c.mark.column = 0 ∧ c.hasMark "---" then plainly (s.documentMark .documentStart)
  else if c.mark.column = 0 ∧ c.hasMark "..." then plainly (s.documentMark .documentEnd)
  else if x = '[' then plainly (s.openFlow .openBracket)
  else if x = '\x7b' then plainly (s.openFlow .openBrace)
  else if x = ']' then plainly (s.closeFlow .closeBracket)
  else if x = '\x7d' then plainly (s.closeFlow .closeBrace)
  else if x = ',' then plainly s.comma
  -- these marks count before a blank only, or anywhere in a flow
  else if x = '-' ∧ lone then plainly s.entry
  else if x = '?' ∧ (s.inFlow ∨ lone) then plainly s.explicitKey
  else if x = ':' ∧ (s.inFlow ∨ lone) then plainly s.value
  else if x = '*' then s.name "alias" .reference
  else if x = '&' then s.name "anchor" .anchor
  else if x = '!' then s.pushWord fun c => (tagFrom c).mapError .complaint
  else if x = '|' ∧ !s.inFlow then plainly (s.block false)
  else if x = '>' ∧ !s.inFlow then plainly (s.block true)
  else if x = '\'' then s.quoted false
  else if x = '"' then s.quoted true
  -- all signs that stand for something else were tried before
  else if s.beginsPlain then plainly s.plain
  else
    .error (.complaint ⟨.scanning, some "while scanning for the next token", none,
      "found character " ++ quotedChar x ++ " that cannot start any token", c.mark⟩)

/-- Moves to the next token and adds it, with what it closes. -/
def next (s : Scanner) : Except ScalarFault Scanner := do
  let s ← s.toNextToken.dropStale.mapError .complaint
  let s ← (s.unwind s.column).tokenHere
  s.dropStale.mapError .complaint

def isDone (s : Scanner) : Bool :=
  match s.tokens with
  | ⟨.streamEnd, _, _⟩ :: _ => true
  | _ => false

/-- Adds tokens up to the end or to a fault, before which only the tokens before the first
possible key are given out. -/
def run : Nat → Scanner → List Token × Option ScalarFault
  | 0, s => (s.tokens.reverse, none)
  | fuel + 1, s =>
    match s.next with
    | .error e => (s.tokens.reverse.take s.firstPending, some e)
    | .ok s => if s.isDone then (s.tokens.reverse, none) else run fuel s

end Scanner

/-- The tokens of a document, and the fault after them, if there is one. -/
def tokensOf (cs : List Char) : List Token × Option ScalarFault :=
  Scanner.run (cs.length + 2) { cursor := ⟨cs, {}⟩ }

end Docent.Yaml
