import Docent.FileTree
import Docent.Log
import Docent.Settings.Basic
import Docent.Yaml.Load

/-!
# Loading settings

Settings are read from a document of sections. What a section does not give is as in a run that is
told nothing; sections and fields that are not known say nothing.
-/

namespace Docent

inductive SettingsFault
  | file (e : FileError)
  | encoding (flaw : Utf8.Flaw)
  | document (e : Yaml.Fault) (name : String)
  | notASection (kind : String)
  | unsupportedBackend (provider : Value)
  | number (e : NumberFault)

def SettingsFault.message : SettingsFault → String
  | file e => e.message
  | encoding flaw => flaw.message
  | document e name => e.message name
  | notASection kind => s!"'{kind}' object has no attribute 'get'"
  | unsupportedBackend v =>
    s!"Unsupported backend provider {v.quoted}; expected one of ollama, anthropic"
  | number e => e.message

/-! ### Classes of faults -/

/-- The classes of faults: a document that is not well formed, a value that is not an expected one,
a value of the wrong kind, a number beyond bounds, a part that a value does not have, a key that is
not there, a place outside of a text, and a file that cannot be read. -/
inductive FaultClass
  | malformed
  | badValue
  | wrongKind
  | tooLarge
  | missingPart
  | missingKey
  | outsideText
  | file
deriving DecidableEq, Repr

def NumberFault.class : NumberFault → FaultClass
  | notReal _ | notWhole .. | tooManyDigits _ | undefinedWhole => .badValue
  | noReal _ | noWhole _ => .wrongKind
  | infiniteWhole | tooLarge => .tooLarge

def Yaml.Fault.class : Yaml.Fault → FaultClass
  | .document .noCharacter => .badValue
  | .document .codeTooLarge => .tooLarge
  | .document _ | .complaint _ | .unacceptable .. => .malformed
  | .text (.number e) => e.class
  | .text (.notATruthWord _) => .missingKey
  | .text .emptyNumber => .outsideText
  | .text .notAStamp => .missingPart
  | .text .stampOfMapping => .wrongKind
  | .text _ => .badValue

def SettingsFault.class : SettingsFault → FaultClass
  | file _ => .file
  | encoding _ | unsupportedBackend _ => .badValue
  | document e _ => e.class
  | notASection _ => .missingPart
  | number e => e.class

/-- Whether a fault is one that users are told of as a fault of the settings. -/
def SettingsFault.isOrdinary (e : SettingsFault) : Bool :=
  e.class = .malformed || e.class = .badValue

namespace Settings

/-! ### Sections -/

abbrev Section := List (Value × Value)

/-- The entries of what has to be a section; what counts as false has none. -/
def sectionOf (v : Value) : Except SettingsFault Section :=
  if v.isTrue then
    match v with
    | .dict entries => .ok entries
    | v => .error (.notASection v.kindName)
  else .ok []

def sectionNamed (document : Section) (name : String) : Except SettingsFault Section :=
  sectionOf ((Value.get? document name).getD .null)

/-- The value of a field, or what it is when left out. -/
def fieldOr (s : Section) (key : String) (default : Value) : Value :=
  (Value.get? s key).getD default

structure Sections where
  project : Section
  source : Section
  output : Section
  log : Section
  backend : Section

def sectionsOf (v : Value) : Except SettingsFault Sections := do
  let document ← sectionOf v
  let project ← sectionNamed document "project"
  let source ← sectionNamed document "source"
  let output ← sectionNamed document "output"
  let log ← sectionNamed document "logging"
  let backend ← sectionNamed document "backend"
  return { project, source, output, log, backend }

def projectOf (s : Section) : ProjectSettings :=
  let usual : ProjectSettings := {}
  { name := fieldOr s "name" usual.name
    description := fieldOr s "description" usual.description
    installCommand := fieldOr s "install_command" usual.installCommand
    space := fieldOr s "namespace" usual.space }

/-- The settings of the sources in a section; excluded names that count as false are none. -/
def sourceOf (s : Section) : SourceSettings :=
  let usual : SourceSettings := {}
  { root := fieldOr s "root_dir" usual.root
    extensions := fieldOr s "extensions" usual.extensions
    excluded := (fieldOr s "exclude_dirs" .null).orElse usual.excluded }

def outputOf (s : Section) : OutputSettings := ⟨fieldOr s "path" ({} : OutputSettings).path⟩

def logOf (s : Section) : LogSettings :=
  let usual : LogSettings := {}
  { level := fieldOr s "level" usual.level
    format := fieldOr s "format" usual.format
    file := fieldOr s "file" usual.file }

/-! ### The backend -/

def providers : List String := ["ollama", "anthropic"]

/-- The backend that a section names, which has to be a known one. -/
def providerOf (s : Section) : Except SettingsFault String :=
  match fieldOr s "provider" ({} : BackendSettings).provider with
  | .text name =>
    if providers.contains name then .ok name else .error (.unsupportedBackend (.text name))
  | v => .error (.unsupportedBackend v)

/-- The settings of a backend with a name in a section. At least one attempt is made. -/
def backendOf (provider : String) (s : Section) : Except SettingsFault BackendSettings := do
  let usual : BackendSettings := {}
  let timeout ← (fieldOr s "timeout_seconds" usual.timeout.toValue).toReal.mapError .number
  let attempts ← (fieldOr s "retry_max_attempts" (.int usual.attempts)).toWhole.mapError .number
  let delay ← (fieldOr s "retry_base_delay" usual.delay.toValue).toReal.mapError .number
  return {
    provider := .text provider
    command := fieldOr s "command" usual.command
    model := fieldOr s "model" usual.model
    timeout := .real timeout
    attempts := max 1 attempts
    delay := .real delay
    failFast := (fieldOr s "fail_fast" (.bool usual.failFast)).isTrue
    maxTokens := fieldOr s "max_tokens" usual.maxTokens
    temperature := fieldOr s "temperature" usual.temperature }

def ofSections (s : Sections) : Except SettingsFault Settings := do
  let provider ← providerOf s.backend
  let backend ← backendOf provider s.backend
  return {
    project := projectOf s.project
    source := sourceOf s.source
    backend
    output := outputOf s.output
    log := logOf s.log }

def ofValue (v : Value) : Except SettingsFault Settings := do ofSections (← sectionsOf v)

/-! ### Files -/

def logName : String := "src.utils.config"

/-- Whether a document names the service, but there is no key to it. -/
def lacksKey (v : Value) (key : String) : Bool :=
  match (sectionsOf v).bind fun s => providerOf s.backend with
  | .ok provider => provider = "anthropic" && key = ""
  | .error _ => false

def loadedLogs (path : String) (v : Value) (key : String) : List LogRecord :=
  .info logName s!"Loaded configuration from {path}" ::
    if lacksKey v key then [.warning logName "ANTHROPIC_API_KEY not set in environment"] else []

/-- The characters of a document, whose lines end in line feeds however they were written. -/
def lineFeeds : List Char → List Char
  | [] => []
  | '\r' :: '\n' :: cs => '\n' :: lineFeeds cs
  | '\r' :: cs => '\n' :: lineFeeds cs
  | c :: cs => c :: lineFeeds cs

/-- A flaw as it is met in reading: bytes that the end cuts short are looked at by themselves. -/
def metInReading (flaw : Utf8.Flaw) : Utf8.Flaw :=
  if flaw.fault = .cutShort then { flaw with position := 0 } else flaw

def readDocument (t : FileTree) (path : String) : Except SettingsFault Value := do
  let bytes ← (t.read path).mapError .file
  let cs ← (Utf8.strict bytes).mapError fun flaw => .encoding (metInReading flaw)
  (Yaml.valueOf (lineFeeds cs)).mapError (.document · path)

/-- What comes of loading: the settings and what is logged. -/
structure Loading where
  result : Except SettingsFault Settings
  logs : List LogRecord

/-- Loads settings from a file, with the key to the service, which may be empty. Without a file
they are those of a run that is told nothing. -/
def load (t : FileTree) (path : String) (key : String) : Loading :=
  if path = "" then ⟨.ok {}, []⟩
  else
    let path := (Route.ofText path).text
    if t.exists? path then
      match readDocument t path with
      | .ok v => ⟨ofValue v, loadedLogs path v key⟩
      | .error e => ⟨.error e, []⟩
    else
      ⟨.ok {}, [.warning logName s!"Config file not found at {path}, using defaults"]⟩

end Settings

end Docent
