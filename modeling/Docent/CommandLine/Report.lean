import Docent.CommandLine.Session

/-!
# Reports

What a session tells of a run: what was found, what was done, and which sections failed. A run with
failed sections ends with a status of its own.
-/

namespace Docent.CommandLine

def foundLine (r : RunReport) : String :=
  s!"Found {r.files.length} source files, {r.classes.length} classes"

def classLines (c : ClassRecord) : List String :=
  s!"  {c.filePath.display}: class {c.name.display}" ::
    c.methods.map fun m => s!"    {m.name.display}()"

def reportLines (r : RunReport) : List String :=
  match r.assembly with
  | none =>
    foundLine r :: r.classes.flatMap classLines ++ ["Dry run complete. No backend calls made."]
  | some a =>
    [foundLine r, s!"Documented {a.classCount} classes and {a.methodCount} methods",
      s!"Documentation written to {r.output.getD default}"]

def reportFailures (r : RunReport) : List SectionFailure :=
  match r.assembly with
  | none => []
  | some a => a.failures

def failureLines (failures : List SectionFailure) : List String :=
  if failures.isEmpty then []
  else
    s!"{failures.length} sections failed:" :: failures.map fun f => s!"  {f.heading}: {f.reason}"

def closeWithReport (s : Session) (r : RunReport) : Ending × Session :=
  let failures := reportFailures r
  (.ok (if failures.isEmpty then 0 else 1),
    (s.say (reportLines r)).display (unlines (failureLines failures)))

end Docent.CommandLine
