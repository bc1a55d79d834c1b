import Docent.FileTree
import Docent.Grammar.Indented.Docstring
import Docent.Grammar.Page.Parse
import Docent.Grammar.Script.Parse
import Docent.Log
import Docent.Record
import Docent.Text.CharacterName

/-!
# Extraction of records

From source texts to the records of their classes. A file is read by the grammar that goes with its
suffix. A file that cannot be read, or that is not in its grammar, yields nothing and a warning.
-/

namespace Docent

/-- Why a source text was not read: a message, and the line of the error if it is known. -/
structure ParseError where
  message : String
  line : Option Int
deriving DecidableEq, Repr

/-- The text of an error; there is no line zero. -/
def ParseError.text (e : ParseError) : String :=
  match e.line with
  | some n => if n = 0 then e.message else s!"{e.message} on line {n}"
  | none => e.message

/-- A grammar that source files are written in. -/
inductive Grammar
  | page
  | indented
  | script (d : Script.Dialect)

namespace Grammar

def language : Grammar → Language
  | page => .php
  | indented => .python
  | script d => if d.types then .typescript else .javascript

/-- What is a class in a grammar, and how declarations are documented. -/
def convention : Grammar → Convention
  | page => .blockComments [.classDecl]
  | indented => Indented.convention Text.characterNamed?
  | script d => .blockComments (if d.types then [.classDecl, .abstractClassDecl] else [.classDecl])

def syntaxError (line : Nat) : ParseError := ⟨"Syntax error", some line⟩

def parse (g : Grammar) (cs : List Char) : Except ParseError Tree :=
  match g with
  | page => (Page.parse cs).mapError syntaxError
  | script d => (Script.parse d cs).mapError syntaxError
  | indented =>
    (Indented.parse Text.characterNamed? cs).mapError fun r =>
      ⟨r.fault.message, r.line.map Int.ofNat⟩

def parsedLog (g : Grammar) (path : String) (cs : List Char) : LogRecord :=
  match g with
  | indented => .debug "src.parsers.python_parser" s!"Parsed {path}"
  | _ =>
    .debug "src.parsers.tree_sitter_base" s!"Parsed {path} ({(String.ofList cs).utf8ByteSize} bytes)"

def registry : List (String × Grammar) :=
  [(".php", page), (".py", indented), (".js", script ⟨false, true⟩), (".jsx", script ⟨false, true⟩),
    (".mjs", script ⟨false, true⟩), (".ts", script ⟨true, false⟩), (".tsx", script ⟨true, true⟩)]

end Grammar

/-- The grammars that files are read by, each with its suffix. -/
abbrev Registry := List (String × Grammar)

def Registry.grammarFor? (reg : Registry) (path : String) : Option Grammar :=
  List.lookup (Route.ofText path).suffix reg

def extractionLogName : String := "src.parsers.extractor"

def extractSource (g : Grammar) (path : String) (cs : List Char) :
    Except ParseError (List ClassRecord) :=
  (g.parse cs).map fun t =>
    (g.convention.classOutlines t).map (ClassRecord.ofOutline path g.language cs)

def extractionLogs (g : Grammar) (path : String) (cs : List Char) (classes : List ClassRecord) :
    List LogRecord :=
  [g.parsedLog path cs,
    .debug extractionLogName s!"Extracted {classes.length} classes from {path}"]

/-- Why nothing can be extracted from a file at all. -/
inductive ExtractionError
  | nullInPath

def ExtractionError.message : ExtractionError → String
  | nullInPath => "embedded null byte"

/-- The records of the classes in a file, with what is logged. -/
def Registry.extractFile (reg : Registry) (t : FileTree) (path : String) :
    Except ExtractionError (List ClassRecord × List LogRecord) :=
  match reg.grammarFor? path with
  | none =>
    .ok ([], [.warning extractionLogName s!"No parser registered for {path}, skipping"])
  | some g =>
    if path.toList.contains (Char.ofNat 0) then .error .nullInPath
    else
      match t.read path with
      | .error e =>
        .ok ([], [.warning extractionLogName s!"Cannot read {path}: {e.message}"])
      | .ok bytes =>
        let cs := Utf8.sourceText bytes
        match extractSource g path cs with
        | .ok classes => .ok (classes, extractionLogs g path cs classes)
        | .error e =>
          .ok ([], [.warning extractionLogName s!"Parse error in file {path}: {e.text}"])

end Docent
