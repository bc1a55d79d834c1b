import Docent.Text.Quoted

/-!
# Places in a document, and complaints

A cursor is a place in a document with the text that is left. A complaint tells what was being done
when a fault was met, since which place, what the fault is, and at which place.
-/

namespace Docent.Yaml

/-- A place in a document: the number of characters before it, its line and its column, all from
zero. -/
structure Mark where
  index : Nat := 0
  line : Nat := 0
  column : Nat := 0
deriving DecidableEq, Repr, Inhabited

/-- The stages at which a document can be found faulty. -/
inductive Stage
  | scanning
  | parsing
  | composing
  | constructing
deriving DecidableEq, Repr

structure Complaint where
  stage : Stage
  context : Option String := none
  since : Option Mark := none
  problem : String
  mark : Mark
deriving DecidableEq, Repr

/-- The text of a place in a named document, counted from one. -/
def Mark.text (m : Mark) (name : String) : String :=
  s!"  in \"" ++ name ++ s!"\", line {m.line + 1}, column {m.column + 1}"

def Mark.looksLike (m n : Mark) : Bool := m.line = n.line && m.column = n.column

/-- The text of a complaint about a named document; a place is not given twice. -/
def Complaint.message (c : Complaint) (name : String) : String :=
  let context := c.context.toList
  let since := (c.since.filter fun m => !m.looksLike c.mark).toList.map fun m => m.text name
  String.intercalate "\n" (context ++ since ++ [c.problem, c.mark.text name])

/-! ### Characters -/

/-- The character that stands for the end of the document. -/
def endChar : Char := Char.ofNat 0

def isBreak (c : Char) : Bool :=
  c = '\n' || c.toNat = 0x85 || c.toNat = 0x2028 || c.toNat = 0x2029

def endsLine (c : Char) : Bool := c = endChar || isBreak c

def endsWord (c : Char) : Bool := c = ' ' || c = '\t' || endsLine c

def isAcceptable (c : Char) : Bool :=
  let n := c.toNat
  n = 9 || n = 10 || n = 13 || (0x20 ≤ n && n ≤ 0x7E) || n = 0x85 || (0xA0 ≤ n && n ≤ 0xFFFD) ||
    0x10000 ≤ n

/-- Whether a character may stand in the name of an anchor or a handle. -/
def isNameChar (c : Char) : Bool := c.isAlphanum || c = '-' || c = '_'

def quotedChar (c : Char) : String := Text.quoted (String.singleton c)

/-! ### Cursors -/

/-- A place in a document with the text that is left. -/
structure Cursor where
  rest : List Char
  mark : Mark := {}

/-- The place after a character. The byte order mark takes no column. -/
def Mark.after (m : Mark) (c : Char) : Mark :=
  if isBreak c then ⟨m.index + 1, m.line + 1, 0⟩
  else if c.toNat = 0xFEFF then { m with index := m.index + 1 }
  else { m with index := m.index + 1, column := m.column + 1 }

namespace Cursor

def peek (c : Cursor) : Char := c.rest.headD endChar

def peekAt (c : Cursor) (n : Nat) : Char := (c.rest[n]?).getD endChar

def step (c : Cursor) : Cursor :=
  match c.rest with
  | [] => c
  | x :: r => ⟨r, c.mark.after x⟩

def forward : Nat → Cursor → Cursor
  | 0, c => c
  | n + 1, c => forward n c.step

/-- Moves over the characters of a class: those, and where it stops. -/
def takeAll (p : Char → Bool) (c : Cursor) : List Char × Cursor :=
  let taken := c.rest.takeWhile p
  (taken, c.forward taken.length)

def skipAll (p : Char → Bool) (c : Cursor) : Cursor := (c.takeAll p).2

def skipBlanks (c : Cursor) : Cursor := c.skipAll (· = ' ')

def skipComment (c : Cursor) : Cursor :=
  if c.peek = '#' then c.skipAll fun x => !isBreak x else c

/-- Moves over the end of a line, if it is here: the text it stands for. -/
def takeBreak (c : Cursor) : List Char × Cursor :=
  let x := c.peek
  if x = '\n' ∨ x.toNat = 0x85 then (['\n'], c.step)
  else if isBreak x then ([x], c.step)
  else ([], c)

def hasMark (s : String) (c : Cursor) : Bool :=
  s.toList.isPrefixOf c.rest && endsWord (c.peekAt s.length)

/-- Whether the mark of the beginning or the end of a document comes next. -/
def atDocumentMark (c : Cursor) : Bool := c.hasMark "---" || c.hasMark "..."

def complain (c : Cursor) (doing : String) (since : Mark) (problem : String) : Complaint :=
  ⟨.scanning, some doing, some since, problem, c.mark⟩

/-- A complaint of scanning about what is here, without what was being done. -/
def object (c : Cursor) (problem : String) : Complaint :=
  ⟨.scanning, none, none, problem, c.mark⟩

end Cursor

end Docent.Yaml
