import Docent.CommandLine.Page

/-!
# The commands

There are three commands: one writes the document, one shows what was extracted from sources, and
one shows what is asked of the backend. Each has switches and operands of its own. Main statement:
a command is found by its name and by no other.
-/

namespace Docent.CommandLine

inductive Command
  | extract
  | generate
  | prompt
deriving DecidableEq, Repr

def programName : String := "classdoc"

def programVersion : String := "0.1.0"

namespace Command

def all : List Command := [extract, generate, prompt]

def name : Command → String
  | extract => "extract"
  | generate => "generate"
  | prompt => "prompt"

def ofName? (s : String) : Option Command := all.find? (·.name = s)

def switches : Command → List Switch
  | extract => [.output, .help]
  | generate => [.output, .model, .dryRun, .help]
  | prompt => [.method, .help]

def operands : Command → String
  | extract | generate => "[SOURCE_DIR]"
  | prompt => "FILE_PATH CLASS_NAME"

def summary : Command → String
  | extract => "Print the extracted classes and methods as JSON."
  | generate => "Generate Markdown documentation for every class and method."
  | prompt => "Show the prompt that would be sent for a class or one of its methods."

def brief : Command → String
  | prompt => "Show the prompt that would be sent for a class or one of its..."
  | c => c.summary

def explanation : Command → Switch → List String
  | extract, .output => ["Write JSON to a file."]
  | _, .output => ["Output file."]
  | _, .model => ["Model name passed to the backend."]
  | _, .dryRun => ["List files and extracted classes without calling the", "backend."]
  | _, .method => ["Method to preview."]
  | _, .help => ["Show this message and exit."]
  | _, _ => []

def about : Command → List String
  | generate =>
    [generate.summary, "",
      "Scans SOURCE_DIR (default from config) for source files, asks the backend to",
      "document each class and method, and writes one file."]
  | c => [c.summary]

def page (c : Command) : Page where
  command := programName ++ " " ++ c.name
  operands := c.operands
  about := c.about
  switches := c.switches.map fun s => ⟨s.label, c.explanation s⟩

theorem ofName?_eq_some_iff {s : String} {c : Command} : ofName? s = some c ↔ c.name = s := by
  constructor
  · intro h
    simpa using List.find?_some h
  · rintro rfl
    cases c <;> decide

end Command

def programSwitches : List Switch := [.version, .config, .help]

def programExplanation : Switch → List String
  | .version => ["Show the version and exit."]
  | .config => ["Path to a YAML config file."]
  | .help => ["Show this message and exit."]
  | _ => []

def programPage : Page where
  command := programName
  operands := "COMMAND [ARGS]..."
  about := ["Class Documentation Generator: document classes and methods with an LLM."]
  switches := programSwitches.map fun s => ⟨s.label, programExplanation s⟩
  commands := Command.all.map fun c => ⟨c.name, [c.brief]⟩

def versionLine : String := s!"{programName}, version {programVersion}"

end Docent.CommandLine
