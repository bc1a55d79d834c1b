/-!
# Log records

What is noted while the program works: how grave it is, under which name, and the text.
-/

namespace Docent

/-- A note: its level, the name it is noted under, and its text. -/
structure LogRecord where
  level : Nat
  name : String
  message : String
deriving DecidableEq, Repr

namespace LogRecord

def debug (name message : String) : LogRecord := ⟨10, name, message⟩

def info (name message : String) : LogRecord := ⟨20, name, message⟩

def warning (name message : String) : LogRecord := ⟨30, name, message⟩

def error (name message : String) : LogRecord := ⟨40, name, message⟩

def levelName (level : Nat) : String :=
  if level = 0 then "NOTSET"
  else if level = 10 then "DEBUG"
  else if level = 20 then "INFO"
  else if level = 30 then "WARNING"
  else if level = 40 then "ERROR"
  else if level = 50 then "CRITICAL"
  else s!"Level {level}"

end LogRecord

end Docent
