import Docent.CommandLine.Switch

/-!
# Pages of help

A page tells how a command is used: its usage, what it is about, its switches, and the commands
below it. The rows of a list have two columns, of which the first is as wide as its widest entry.
-/

namespace Docent.CommandLine

/-- A row of a list: an entry and the lines that explain it. -/
structure Row where
  entry : String
  lines : List String

/-- What a page tells of a command. -/
structure Page where
  command : String
  operands : String
  about : List String
  switches : List Row
  commands : List Row := []

/-- The lines of a text, each ended by a line feed. -/
def unlines (ls : List String) : String := String.join (ls.map (· ++ "\n"))

def padded (width : Nat) (s : String) : String :=
  s ++ String.ofList (List.replicate (width - s.length) ' ')

def widest (ss : List String) : Nat := (ss.map String.length).foldl max 0

def Row.shown (width : Nat) (r : Row) : List String :=
  match r.lines with
  | [] => ["  " ++ r.entry]
  | l :: ls =>
    ("  " ++ padded width r.entry ++ "  " ++ l) :: ls.map (padded (width + 4) "" ++ ·)

/-- The lines of a list under a title; nothing if it has no rows. -/
def listShown (title : String) (rows : List Row) : List String :=
  if rows.isEmpty then []
  else "" :: title :: rows.flatMap (Row.shown (widest (rows.map Row.entry)))

namespace Page

def usage (p : Page) : String := s!"Usage: {p.command} [OPTIONS] {p.operands}"

def aboutShown (line : String) : String := if line = "" then "" else "  " ++ line

def text (p : Page) : String :=
  unlines (p.usage :: "" :: p.about.map aboutShown ++ listShown "Options:" p.switches ++
    listShown "Commands:" p.commands)

/-- The lines before a complaint about how a command was used. -/
def reminder (p : Page) : String :=
  unlines [p.usage, s!"Try '{p.command} --help' for help.", ""]

end Page

end Docent.CommandLine
