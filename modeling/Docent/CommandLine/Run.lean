import Docent.CommandLine.Report
import Docent.Json.Print

/-!
# Running the program

The program loads settings, sets up logging, and does what is requested: it writes the document,
shows what was extracted, or shows a prompt. Each step starts from what the one before it left.
-/

namespace Docent.CommandLine

/-! ### Writing the document -/

def generate {σ : Type} (connect : Pipeline.Connector σ) (settings : Settings) (dry : Bool)
    (s : Session) (x : σ) : Outcome σ :=
  let o := Pipeline.run connect settings dry s.place x
  let s := { s with place := o.place }
  match o.report with
  | .error (.completion (.backend e)) => ⟨.ok 1, s.complain e.message, o.state⟩
  | .error e => ⟨.error (.run e), s, o.state⟩
  | .ok r =>
    let (ending, s) := closeWithReport s r
    ⟨ending, s, o.state⟩

/-! ### Showing what was extracted -/

def extractSources (settings : Settings) (w : Workplace) :
    Except RunError (List ClassRecord) × Workplace :=
  match Pipeline.discover settings.source w.tree with
  | .error e => (.error e, w)
  | .ok (files, logs) => Pipeline.extract Grammar.registry (w.noteAll logs) files

def recordsText (classes : List ClassRecord) : String :=
  Json.pretty (.list (classes.map ClassRecord.toValue))

/-- Writes a text to a file, in a directory that has to be there. -/
def writeLine (s : Session) (path text : String) : Except FileError Session :=
  (s.place.tree.write (Route.ofText path).text (Utf8.encode (text ++ "\n"))).map fun tree =>
    { s with place.tree := tree }

/-- Prints records, or writes them to a file if a path is given. -/
def deliver (s : Session) (output : String) (classes : List ClassRecord) : Ending × Session :=
  let text := recordsText classes
  if output = "" then (.ok 0, s.say [text])
  else
    match writeLine s output text with
    | .error e => (.error (.run (.file e)), s)
    | .ok s => (.ok 0, s.say [s!"Wrote {classes.length} classes to {output}"])

def extract (settings : Settings) (output : String) (s : Session) : Ending × Session :=
  match extractSources settings s.place with
  | (.error e, w) => (.error (.run e), { s with place := w })
  | (.ok classes, w) => deliver { s with place := w } output classes

/-! ### Showing a prompt -/

def isText (s : String) : Value → Bool
  | .text t => t = s
  | _ => false

def noClass (className path : String) : String :=
  s!"Class {Text.quoted className} not found in {path}"

def noMethod (method className : String) : String :=
  s!"Method {Text.quoted method} not found in class {Text.quoted className}"

/-- The segment of a class, or of a method of it. -/
def segmentOf (settings : Settings) (c : ClassRecord) (className : String) :
    Option String → Except String Segment
  | none => .ok (Segment.ofClass settings.project.space c)
  | some method =>
    match c.methods.find? fun m => isText method m.name with
    | some m => .ok (Segment.ofMethod c.language m)
    | none => .error (noMethod method className)

/-- Prints the prompt for a class among others, or for a method of it. -/
def showPrompt (settings : Settings) (classes : List ClassRecord) (path className : String)
    (method : Option String) (s : Session) : Ending × Session :=
  match classes.find? fun c => isText className c.name with
  | none => (.ok 1, s.complain (noClass className path))
  | some c =>
    let s := s.noteAll (TemplateSource.openingLogs none s.place.tree)
    match segmentOf settings c className method with
    | .error message => (.ok 1, s.complain message)
    | .ok segment =>
      (.ok 0, (s.noteAll [promptLog segment.kind segment.prompt]).say [segment.prompt])

/-- Shows the prompt for a class in a file, or for a method of it. -/
def prompt (settings : Settings) (path className : String) (method : Option String)
    (s : Session) : Ending × Session :=
  match Registry.extractFile Grammar.registry s.place.tree path with
  | .error e => (.error (.run (.extraction e)), s)
  | .ok (classes, logs) => showPrompt settings classes path className method (s.noteAll logs)

/-! ### Sessions -/

/-- A value, unless a text that is not empty was given in its place. -/
def instead (given : String) (v : Value) : Value := if given = "" then v else .text given

def overridden (source output model : String) (s : Settings) : Settings :=
  { s with
    source.root := instead source s.source.root
    output.path := instead output s.output.path
    backend.model := instead model s.backend.model }

def perform {σ : Type} (connect : Pipeline.Connector σ) (settings : Settings) (s : Session)
    (x : σ) : Request → Outcome σ
  | .generate source output model dry =>
    generate connect (overridden source output model settings) dry s x
  | .extract source output =>
    let (ending, s) := extract (overridden source "" "" settings) output s
    ⟨ending, s, x⟩
  | .prompt path className method =>
    let (ending, s) := prompt settings path className method s
    ⟨ending, s, x⟩

/-- Where a program runs: the path of its working directory, and its key to the service, which may
be empty. -/
structure Surroundings where
  home : String
  key : String

def setUpLogging (settings : Settings) (home : String) (s : Session) :
    Option Log.SetupError × Session :=
  let log := settings.log
  let made := s.place.journal.setUp s.place.tree home log.level log.format log.file
  (made.error, { s with place := ⟨made.tree, made.journal⟩ })

/-- Goes on to a command with its arguments, once settings are loaded. -/
def enter {σ : Type} (connect : Pipeline.Connector σ) (home : String) (settings : Settings)
    (o : Opening) (s : Session) (x : σ) : Outcome σ :=
  match setUpLogging settings home s with
  | (some e, s) => ⟨.error (.logging e), s, x⟩
  | (none, s) =>
    match readRequest s.place.tree o.command o.rest with
    | .error n =>
      let (ending, s) := n.close s
      ⟨ending, s, x⟩
    | .ok request => perform connect settings s x request

def start {σ : Type} (connect : Pipeline.Connector σ) (around : Surroundings) (o : Opening)
    (s : Session) (x : σ) : Outcome σ :=
  let loading := Settings.load s.place.tree o.settings around.key
  let s := s.noteAll loading.logs
  match loading.result with
  | .error e =>
    if e.isOrdinary then ⟨.ok 1, s.complain s!"Invalid config: {e.message}", x⟩
    else ⟨.error (.settings e), s, x⟩
  | .ok settings => enter connect around.home settings o s x

def run {σ : Type} (connect : Pipeline.Connector σ) (around : Surroundings) (args : List String)
    (t : FileTree) (x : σ) : Outcome σ :=
  let s : Session := { place := ⟨t, {}⟩ }
  match readOpening t args with
  | .error n =>
    let (ending, s) := n.close s
    ⟨ending, s, x⟩
  | .ok o => start connect around o s x

end Docent.CommandLine
