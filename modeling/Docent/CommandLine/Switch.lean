/-!
# Switches

What may be given on a command line besides plain words. A switch has a long name, and some have a
letter too; it either takes a value or stands for itself.
-/

namespace Docent.CommandLine

inductive Switch
  | version
  | config
  | output
  | model
  | dryRun
  | method
  | help
deriving DecidableEq, Repr

namespace Switch

def long : Switch → String
  | version => "--version"
  | config => "--config"
  | output => "--output"
  | model => "--model"
  | dryRun => "--dry-run"
  | method => "--method"
  | help => "--help"

def letter? : Switch → Option Char
  | output => some 'o'
  | _ => none

/-- What the value of a switch is called, if it takes one. -/
def valueName? : Switch → Option String
  | config => some "FILE"
  | output => some "PATH"
  | model | method => some "TEXT"
  | version | dryRun | help => none

def takesValue (s : Switch) : Bool := s.valueName?.isSome

/-- Whether a switch comes before all others, wherever it was given. -/
def comesFirst (s : Switch) : Bool := s = version || s = help

/-- How a switch is written on a page: its letter and its name, and what its value is called. -/
def label (s : Switch) : String :=
  let letter :=
    match s.letter? with
    | some c => String.ofList ['-', c, ',', ' ']
    | none => ""
  let value :=
    match s.valueName? with
    | some name => " " ++ name
    | none => ""
  letter ++ s.long ++ value

end Switch

end Docent.CommandLine
