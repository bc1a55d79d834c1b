import Docent.CommandLine.Request
import Docent.Pipeline
import Docent.Settings.Load
import Docent.Text.Terminal

/-!
# Sessions

A session is a run of the program: it prints, complains, changes files, and ends with a status or
with a fault that it does not handle. It does not run on a terminal: what it prints and complains
about goes without the sequences that would steer one.
-/

namespace Docent.CommandLine

/-- A fault that ends the program without a status. -/
inductive Fault
  | settings (e : SettingsFault)
  | logging (e : Log.SetupError)
  | run (e : RunError)
  | nullInPath

def Fault.message : Fault → String
  | settings e => e.message
  | logging e => e.message
  | run e => e.message
  | nullInPath => "embedded null byte"

abbrev Ending := Except Fault Nat

/-- What a session has printed so far, and the place it works at. -/
structure Session where
  printed : String := ""
  place : Workplace

namespace Session

def say (s : Session) (lines : List String) : Session :=
  { s with printed := s.printed ++ Text.unsteered (unlines lines) }

def display (s : Session) (text : String) : Session :=
  { s with place.journal.screen := s.place.journal.screen ++ Text.unsteered text }

def complain (s : Session) (message : String) : Session := s.display (unlines [s!"Error: {message}"])

def noteAll (s : Session) (rs : List LogRecord) : Session :=
  { s with place := s.place.noteAll rs }

end Session

/-- What a session comes to: how it ended, what it leaves, and the state of the client. -/
structure Outcome (σ : Type) where
  ending : Ending
  session : Session
  state : σ

/-! ### Without a request -/

def NoRequest.close (s : Session) : NoRequest → Ending × Session
  | version => (.ok 0, s.say [versionLine])
  | page p => (.ok 0, { s with printed := s.printed ++ p.text })
  | unguided p => (.ok 2, s.display p.text)
  | misuse p m => (.ok 2, (s.display (if m.reminds then p.reminder else "")).complain m.message)
  | nullInPath => (.error .nullInPath, s)

end Docent.CommandLine
