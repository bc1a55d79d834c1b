import Docent.Assembly
import Docent.Completion.Backend
import Docent.Discovery
import Docent.Extraction
import Docent.Workplace

/-!
# A run from sources to document

A run looks for source files, extracts the records of their classes, assembles the document, and
writes it. The document is written once, after its last section; a dry run ends with extraction.
-/

namespace Docent

inductive RunError
  | notIterable (kind : String)
  | unhashable (kind : String)
  | notAPath (e : NotAPath)
  | extraction (e : ExtractionError)
  | unknownBackend (provider : String)
  | completion (f : CompletionFailure)
  | nullInPath
  | file (e : FileError)

def RunError.message : RunError → String
  | notIterable kind => s!"'{kind}' object is not iterable"
  | unhashable kind => s!"unhashable type: '{kind}'"
  | notAPath e => e.message
  | extraction e => e.message
  | unknownBackend provider => unknownBackendMessage provider
  | completion f => f.message
  | nullInPath => "embedded null byte"
  | file e => e.message

/-- What comes of a run: the source files, the classes in them, and unless it was a dry run, the
assembled document and the path it was written to. -/
structure RunReport where
  files : List String
  classes : List ClassRecord
  assembly : Option Assembly := none
  output : Option String := none

namespace Pipeline

def logName : String := "src.pipeline"

/-! ### Discovery -/

/-- The texts among the values of a set. A value that cannot be in a set is an error. -/
def textsOf : List Value → Except RunError (List String)
  | [] => .ok []
  | .text s :: vs => (textsOf vs).map (s :: ·)
  | .list _ :: _ => .error (.unhashable "list")
  | .dict _ :: _ => .error (.unhashable "dict")
  | _ :: vs => textsOf vs

/-- The texts in the set of what a value yields. -/
def textSet (v : Value) : Except RunError (List String) :=
  match v.items? with
  | some items => textsOf items
  | none => .error (.notIterable v.kindName)

/-- The source files that settings speak of, with what is logged about them. -/
def discover (s : SourceSettings) (t : FileTree) :
    Except RunError (List String × List LogRecord) := do
  let suffixes ← textSet s.extensions
  let excluded ← textSet s.excluded
  let root ← s.root.path.mapError .notAPath
  return Search.files ⟨suffixes, excluded⟩ t root

/-! ### Extraction -/

def readingLog (path : String) : LogRecord :=
  .info extractionLogName s!"Processing file: {path}"

def extract (reg : Registry) (w : Workplace) :
    List String → Except RunError (List ClassRecord) × Workplace
  | [] => (.ok [], w)
  | path :: paths =>
    let w := w.note (readingLog path)
    match reg.extractFile w.tree path with
    | .error e => (.error (.extraction e), w)
    | .ok (classes, logs) =>
      let (rest, w) := extract reg (w.noteAll logs) paths
      (rest.map (classes ++ ·), w)

/-! ### Writing -/

/-- Whether a path holds the null character, which no system takes in a path. -/
def hasNull (path : String) : Bool := path.toList.contains (Char.ofNat 0)

/-- Writes a text to a file, with the directories that lead to it. -/
def writeText (t : FileTree) (path content : String) : FileTree × Option RunError :=
  let route := Route.ofText path
  if hasNull route.parent.text then (t, some .nullInPath)
  else
    match t.makeDirs route.parent route.names.length with
    | (t, some e) => (t, some (.file e))
    | (t, none) =>
      if hasNull route.text then (t, some .nullInPath)
      else
        match t.write route.text (Utf8.encode content) with
        | .ok t => (t, none)
        | .error e => (t, some (.file e))

def writtenLog (path content : String) : LogRecord :=
  .info "src.output.markdown" s!"Wrote documentation: {path} ({content.length} chars)"

def writeDocument (w : Workplace) (path content : String) :
    Except RunError String × Workplace :=
  let shown := (Route.ofText path).text
  match writeText w.tree path content with
  | (t, some e) => (.error e, { w with tree := t })
  | (t, none) => (.ok shown, { w with tree := t }.note (writtenLog shown content))

/-! ### Runs -/

def foundLog (files : List String) (root : Value) : LogRecord :=
  .info logName s!"Found {files.length} source files under {root.display}"

def failedLogs (failures : List SectionFailure) : List LogRecord :=
  if failures.isEmpty then []
  else [.warning logName s!"{failures.length} sections could not be generated"]

/-- How a client comes about: the settings may name none. -/
abbrev Connector (σ : Type) := BackendSettings → Except RunError (Client σ)

def Connector.fixed {σ : Type} (client : Client σ) : Connector σ := fun _ => .ok client

/-- The connector to the backends, for a key to the service. -/
def Connector.toBackend (peer : Peer) (key : String) : Connector Exchange := fun b =>
  match Backend.ofSettings b with
  | .ok backend => .ok (backend.client b peer key)
  | .error provider => .error (.unknownBackend provider)

/-- What a run comes to: its report or what ended it, and what it leaves. -/
structure Outcome (σ : Type) where
  report : Except RunError RunReport
  place : Workplace
  state : σ

def document {σ : Type} (connect : Connector σ) (s : Settings) (files : List String)
    (classes : List ClassRecord) (w : Workplace) (x : σ) : Outcome σ :=
  match s.output.path.path with
  | .error e => ⟨.error (.notAPath e), w, x⟩
  | .ok path =>
    let w := w.noteAll (TemplateSource.openingLogs none w.tree)
    match connect s.backend with
    | .error e => ⟨.error e, w, x⟩
    | .ok client =>
      let (run, x) := assemble client s.project s.project.space s.backend.failFast classes x
      let w := w.noteAll run.logs
      match run.outcome with
      | .error f => ⟨.error (.completion f), w, x⟩
      | .ok assembly =>
        match writeDocument w path assembly.content with
        | (.error e, w) => ⟨.error e, w, x⟩
        | (.ok shown, w) =>
          ⟨.ok ⟨files, classes, some assembly, some shown⟩, w.noteAll (failedLogs assembly.failures),
            x⟩

/-- Runs from sources to document; a dry run ends with extraction. -/
def run {σ : Type} (connect : Connector σ) (s : Settings) (dry : Bool) (w : Workplace) (x : σ) :
    Outcome σ :=
  match discover s.source w.tree with
  | .error e => ⟨.error e, w, x⟩
  | .ok (files, logs) =>
    let w := (w.noteAll logs).note (foundLog files s.source.root)
    match extract Grammar.registry w files with
    | (.error e, w) => ⟨.error e, w, x⟩
    | (.ok classes, w) =>
      if dry then ⟨.ok ⟨files, classes, none, none⟩, w, x⟩
      else document connect s files classes w x

end Pipeline

end Docent
