import Docent.Text.CodeSet
import Docent.Yaml.Mark

/-!
# Scalars in a document

The three ways to write a scalar: plain, in quotes, and as a block of lines. Lines that are broken
only for layout are joined by a blank.
-/

namespace Docent.Yaml

/-! ### Plain scalars -/

/-- The break between two lines of a scalar and the breaks after it, as text: a single line feed is
a blank. -/
def foldedBreaks (first : List Char) (more : List Char) : List Char :=
  if first != ['\n'] then first ++ more
  else if more.isEmpty then [' ']
  else more

/-- The characters of a plain scalar up to where it stops. -/
def plainRun (flow : Bool) : List Char → List Char
  | [] => []
  | c :: r =>
    let next := r.headD endChar
    let stops :=
      endsWord c ||
        (c = ':' && (endsWord next || (flow && [',', '[', ']', '\x7b', '\x7d'].contains next))) ||
        (flow && [',', '?', '[', ']', '\x7b', '\x7d'].contains c)
    if stops then [] else c :: plainRun flow r

/-- Moves over blanks and breaks: the breaks, unless the mark of a document follows one. -/
def blankBreaks : Nat → Cursor → Option (List Char) × Cursor
  | 0, c => (some [], c)
  | fuel + 1, c =>
    if c.peek = ' ' then blankBreaks fuel c.step
    else if isBreak c.peek then
      let (b, c) := c.takeBreak
      if c.atDocumentMark then (none, c)
      else
        match blankBreaks fuel c with
        | (some bs, c) => (some (b ++ bs), c)
        | (none, c) => (none, c)
    else (some [], c)

/-- What lies between two stretches of a plain scalar: its text, where it ends, and whether it
breaks a line. It is nothing where the mark of a document follows. -/
def plainGap (c : Cursor) : List Char × Cursor × Bool :=
  let (blanks, c) := c.takeAll (· = ' ')
  if isBreak c.peek then
    let (first, c) := c.takeBreak
    if c.atDocumentMark then ([], c, true)
    else
      match blankBreaks c.rest.length c with
      | (some more, c) => (foldedBreaks first more, c, true)
      | (none, c) => ([], c, true)
  else (blanks, c, false)

/-- A plain scalar, where it ends, and whether a line ends before that place. -/
def plainFrom (flow : Bool) (indent : Int) : Nat → List Char → Cursor → List Char × Cursor × Bool
  | 0, _, c => ([], c, false)
  | fuel + 1, gap, c =>
    if c.peek = '#' then ([], c, false)
    else
      let run := plainRun flow c.rest
      if run.isEmpty then ([], c, false)
      else
        let (next, after, broken) := plainGap (c.forward run.length)
        let stops :=
          next.isEmpty || after.peek = '#' || (!flow && (after.mark.column : Int) < indent)
        if stops then (gap ++ run, after, broken)
        else
          match plainFrom flow indent fuel next after with
          | ([], _, _) => (gap ++ run, after, broken)
          | (more, last, broken) => (gap ++ run ++ more, last, broken)

/-- The plain scalar that begins here; its lines lie deeper than `indent`. -/
def plainScalar (flow : Bool) (indent : Int) (c : Cursor) : List Char × Cursor × Bool :=
  plainFrom flow (indent + 1) c.rest.length [] c

/-! ### Quoted scalars -/

def shortEscape? (c : Char) : Option Char :=
  [('0', 0), ('a', 7), ('b', 8), ('t', 9), ('\t', 9), ('n', 10), ('v', 11), ('f', 12), ('r', 13),
    ('e', 27), (' ', 32), ('"', 34), ('\\', 92), ('/', 47), ('N', 0x85), ('_', 0xA0),
    ('L', 0x2028), ('P', 0x2029)].lookup c |>.map Char.ofNat

def escapeWidth? (c : Char) : Option Nat :=
  if c = 'x' then some 2 else if c = 'u' then some 4 else if c = 'U' then some 8 else none

/-- What can be wrong with a scalar: a fault of the document, or a code that is no character. -/
inductive ScalarFault
  | complaint (c : Complaint)
  | noCharacter
  | codeTooLarge
deriving Repr

def codeFault (n : Nat) : ScalarFault := if n < 0x80000000 then .noCharacter else .codeTooLarge

def missingDigit? (c : Cursor) : Nat → Nat → Option Char
  | 0, _ => none
  | k + 1, n =>
    let x := c.peekAt n
    if (Text.hexDigit? x).isSome then missingDigit? c k (n + 1) else some x

def separatorInside (start : Mark) (c : Cursor) : ScalarFault :=
  .complaint (c.complain "while scanning a quoted scalar" start "found unexpected document separator")

def quotedBreaks (start : Mark) : Nat → Cursor → Except ScalarFault (List Char × Cursor)
  | 0, c => .ok ([], c)
  | fuel + 1, c =>
    if c.atDocumentMark then .error (separatorInside start c)
    else
      let c := c.skipAll fun x => x = ' ' || x = '\t'
      if isBreak c.peek then
        let (b, c) := c.takeBreak
        (quotedBreaks start fuel c).map fun (more, c) => (b ++ more, c)
      else .ok ([], c)

def quotedGap (start : Mark) (c : Cursor) : Except ScalarFault (List Char × Cursor) := do
  let (blanks, c) := c.takeAll fun x => x = ' ' || x = '\t'
  if c.peek = endChar then
    .error (.complaint
      (c.complain "while scanning a quoted scalar" start "found unexpected end of stream"))
  else if isBreak c.peek then
    let (first, c) := c.takeBreak
    let (more, c) ← quotedBreaks start (c.rest.length + 1) c
    return (foldedBreaks first more, c)
  else return (blanks, c)

/-- The character that an escape stands for, after its backslash; none for a line that goes on. -/
def escape (start : Mark) (c : Cursor) : Except ScalarFault (List Char × Cursor) :=
  let x := c.peek
  match shortEscape? x, escapeWidth? x with
  | some y, _ => .ok ([y], c.step)
  | none, some width =>
    let c := c.step
    match missingDigit? c width 0 with
    | some y =>
      .error (.complaint (c.complain "while scanning a double-quoted scalar" start
        (s!"expected escape sequence of {width} hexadecimal numbers, but found " ++ quotedChar y)))
    | none =>
      let n := Text.hexValue (c.rest.take width)
      if n < 0x110000 then .ok ([Char.ofNat n], c.forward width) else .error (codeFault n)
  | none, none =>
    if isBreak x then quotedBreaks start (c.rest.length + 1) c.takeBreak.2
    else
      .error (.complaint (c.complain "while scanning a double-quoted scalar" start
        ("found unknown escape character " ++ quotedChar x)))

def breaksStretch (c : Char) : Bool := c = '\'' || c = '"' || c = '\\' || endsWord c

def quotedStretch (double : Bool) (start : Mark) :
    Nat → Cursor → Except ScalarFault (List Char × Cursor)
  | 0, c => .ok ([], c)
  | fuel + 1, c => do
    let (run, c) := c.takeAll fun x => !breaksStretch x
    let x := c.peek
    if !double && x = '\'' && c.peekAt 1 = '\'' then
      let (more, c) ← quotedStretch double start fuel (c.forward 2)
      return (run ++ '\'' :: more, c)
    else if (double && x = '\'') || (!double && (x = '"' || x = '\\')) then
      let (more, c) ← quotedStretch double start fuel c.step
      return (run ++ x :: more, c)
    else if double && x = '\\' then
      let (y, c) ← escape start c.step
      let (more, c) ← quotedStretch double start fuel c
      return (run ++ y ++ more, c)
    else return (run, c)

/-- The rest of a quoted scalar after a stretch, up to the quote that closes it. -/
def quotedRest (double : Bool) (start : Mark) :
    Nat → Cursor → Except ScalarFault (List Char × Cursor)
  | 0, c => .ok ([], c)
  | fuel + 1, c => do
    if c.peek = (if double then '"' else '\'') then return ([], c.step)
    let (gap, c) ← quotedGap start c
    let (run, c) ← quotedStretch double start (c.rest.length + 1) c
    let (more, c) ← quotedRest double start fuel c
    return (gap ++ run ++ more, c)

def quotedScalar (double : Bool) (c : Cursor) : Except ScalarFault (List Char × Cursor) := do
  let start := c.mark
  let c := c.step
  let (run, c) ← quotedStretch double start (c.rest.length + 1) c
  let (more, c) ← quotedRest double start (c.rest.length + 1) c
  return (run ++ more, c)

/-! ### Block scalars -/

/-- What becomes of the line ends after a block: all are removed, the first is kept, or all are. -/
inductive Chomping
  | strip
  | clip
  | keep
deriving DecidableEq, Repr

def blockComplaint (start : Mark) (c : Cursor) (problem : String) : Complaint :=
  c.complain "while scanning a block scalar" start problem

def chompingOf? (c : Char) : Option Chomping :=
  if c = '+' then some .keep else if c = '-' then some .strip else none

/-- The depth that a digit stands for, which is not zero. -/
def depthOf? (start : Mark) (c : Cursor) : Except Complaint (Option Nat × Cursor) :=
  let x := c.peek
  if x = '0' then
    .error (blockComplaint start c "expected indentation indicator in the range 1-9, but found 0")
  else if x.isDigit then .ok (some (x.toNat - 48), c.step)
  else .ok (none, c)

/-- The signs after the mark of a block: how its end is chomped, and how deep it lies. -/
def blockSigns (start : Mark) (c : Cursor) :
    Except Complaint (Chomping × Option Nat × Cursor) := do
  let (chomping, depth, c) ←
    match chompingOf? c.peek with
    | some chomping => do
      let (depth, c) ← depthOf? start c.step
      pure (chomping, depth, c)
    | none => do
      let (depth, c) ← depthOf? start c
      match depth, chompingOf? c.peek with
      | some _, some chomping => pure (chomping, depth, c.step)
      | _, _ => pure (Chomping.clip, depth, c)
  let x := c.peek
  if x = ' ' || endsLine x then return (chomping, depth, c)
  else
    .error (blockComplaint start c
      ("expected chomping or indentation indicators, but found " ++ quotedChar x))

/-- The rest of a line that holds nothing but a comment. -/
def idleLine (doing : String) (start : Mark) (c : Cursor) : Except Complaint Cursor :=
  let c := c.skipBlanks.skipComment
  if endsLine c.peek then .ok c.takeBreak.2
  else
    .error (c.complain doing start
      ("expected a comment or a line break, but found " ++ quotedChar c.peek))

/-- The breaks before a block whose depth its first line tells, and the greatest column among
them. -/
def blockDepth : Nat → Nat → Cursor → List Char × Nat × Cursor
  | 0, deepest, c => ([], deepest, c)
  | fuel + 1, deepest, c =>
    if c.peek = ' ' then
      let c := c.step
      blockDepth fuel (max deepest c.mark.column) c
    else if isBreak c.peek then
      let (b, c) := c.takeBreak
      let (bs, deepest, c) := blockDepth fuel deepest c
      (b ++ bs, deepest, c)
    else ([], deepest, c)

def skipTo (column : Nat) (c : Cursor) : Cursor :=
  c.forward (min (c.rest.takeWhile (· = ' ')).length (column - c.mark.column))

/-- The breaks before a line of a block of known depth. -/
def blockBreaks (depth : Nat) : Nat → Cursor → List Char × Cursor
  | 0, c => ([], c)
  | fuel + 1, c =>
    let c := skipTo depth c
    if isBreak c.peek then
      let (b, c) := c.takeBreak
      let (bs, c) := blockBreaks depth fuel c
      (b ++ bs, c)
    else ([], c)

def beginsBlank (c : Cursor) : Bool := c.peek = ' ' || c.peek = '\t'

def betweenLines (folded : Bool) (lead next : Bool) (first breaks : List Char) : List Char :=
  if folded && first = ['\n'] && !lead && !next then (if breaks.isEmpty then [' '] else [])
  else first

/-- The lines of a block: their text, the line end after the last one, the breaks after that, and
where it ends. -/
def blockLines (folded : Bool) (depth : Nat) :
    Nat → List Char → Cursor → List Char × List Char × List Char × Cursor
  | 0, breaks, c => ([], [], breaks, c)
  | fuel + 1, breaks, c =>
    if c.mark.column = depth ∧ c.peek ≠ endChar then
      let lead := beginsBlank c
      let (line, c) := c.takeAll fun x => !isBreak x
      let (first, c) := c.takeBreak
      let (after, c) := blockBreaks depth (c.rest.length + 1) c
      if c.mark.column = depth ∧ c.peek ≠ endChar then
        let between := betweenLines folded lead (beginsBlank c) first after
        let (more, last, rest, c) := blockLines folded depth fuel after c
        (breaks ++ line ++ between ++ more, last, rest, c)
      else (breaks ++ line, first, after, c)
    else ([], [], breaks, c)

/-- The block scalar that begins here, inside of what lies at `indent`. -/
def blockScalar (folded : Bool) (indent : Int) (c : Cursor) :
    Except Complaint (List Char × Cursor) := do
  let start := c.mark
  let (chomping, depth, c) ← blockSigns start c.step
  let c ← idleLine "while scanning a block scalar" start c
  let least := (max (indent + 1) 1).toNat
  let (breaks, depth, c) :=
    match depth with
    | none =>
      let (breaks, deepest, c) := blockDepth (c.rest.length + 1) 0 c
      (breaks, max least deepest, c)
    | some n =>
      let depth := least + n - 1
      let (breaks, c) := blockBreaks depth (c.rest.length + 1) c
      (breaks, depth, c)
  let (text, last, rest, c) := blockLines folded depth (c.rest.length + 1) breaks c
  let ending :=
    match chomping with
    | .strip => []
    | .clip => last
    | .keep => last ++ rest
  return (text ++ ending, c)

end Docent.Yaml
