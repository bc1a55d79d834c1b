import Docent.FileTree
import Docent.Log.Format
import Docent.Value

/-!
# The journal

Where records go: to the console and to a file, once logging has been set up, and before that only
as bare warnings to the console. Each set-up starts without handlers. Main statement: there are
never more than two handlers.
-/

namespace Docent.Log

inductive Target
  | console
  | file (path : String)
deriving DecidableEq, Repr

def Target.kindName : Target → String
  | .console => "StreamHandler"
  | .file _ => "FileHandler"

/-- A handler: what it writes to, from which level on, and in which format. -/
structure Handler where
  target : Target
  level : Nat
  format : List Char
deriving DecidableEq, Repr

/-- The name that all records of the program are noted under, or below. -/
def packageName : String := "src"

def fallbackLevel : Nat := 30

/-- The state of logging: the level and the handlers of the package, what was written to the
console, and all records that were noted. -/
structure Journal where
  level : Nat := 0
  handlers : List Handler := []
  screen : String := ""
  records : List LogRecord := []

/-- Whether a name is that of the package or below it. -/
def isBelowPackage (name : String) : Bool :=
  name = packageName || (packageName.toList ++ ['.']).isPrefixOf name.toList

def Journal.levelFor (j : Journal) (name : String) : Nat :=
  if isBelowPackage name ∧ j.level ≠ 0 then j.level else fallbackLevel

/-- What writing changes: the text on the console and the files. -/
abbrev Pages := String × FileTree

/-- Writes a record by a handler; a record that does not fit the format is not written. -/
def Handler.write (h : Handler) (r : LogRecord) (pages : Pages) : Pages :=
  if r.level < h.level then pages
  else
    match line? h.format r with
    | none => pages
    | some cs =>
      let line := String.ofList cs ++ "\n"
      match h.target with
      | .console => (pages.1 ++ line, pages.2)
      | .file path =>
        match pages.2.append path (Utf8.encode line) with
        | .ok t => (pages.1, t)
        | .error _ => pages

def Journal.write (j : Journal) (r : LogRecord) (pages : Pages) : Pages :=
  if r.level < j.levelFor r.name then pages
  else
    match isBelowPackage r.name, j.handlers with
    | true, h :: hs => (h :: hs).foldl (fun p h => h.write r p) pages
    | _, _ => if r.level < fallbackLevel then pages else (pages.1 ++ r.message ++ "\n", pages.2)

def Journal.note (j : Journal) (t : FileTree) (r : LogRecord) : Journal × FileTree :=
  let (screen, t) := j.write r (j.screen, t)
  ({ j with screen, records := j.records ++ [r] }, t)

/-! ### Setting up -/

inductive SetupError
  | levelWithoutCase (kind : String)
  | levelNotAText
  | levelIsStyles
  | unknownLevel (text : String)
  | formatNotAText (kind : String)
  | badFormat (format : String)
  | fileNotAPath (kind : String)
  | nullInPath
  | file (e : FileError)
  | fileByBytes (e : FileError)

def stylesText : String :=
  "\x7b'%': (<class 'logging.PercentStyle'>, '%(levelname)s:%(name)s:%(message)s'), " ++
    "'\x7b': (<class 'logging.StrFormatStyle'>, '\x7blevelname\x7d:\x7bname\x7d:\x7bmessage\x7d'), " ++
    "'$': (<class 'logging.StringTemplateStyle'>, '$\x7blevelname\x7d:$\x7bname\x7d:$\x7bmessage\x7d')\x7d"

def SetupError.message : SetupError → String
  | levelWithoutCase kind => s!"'{kind}' object has no attribute 'upper'"
  | levelNotAText => "attribute name must be string, not 'bytes'"
  | levelIsStyles => "Level not an integer or a valid string: " ++ stylesText
  | unknownLevel text => s!"Unknown level: {Text.quoted text}"
  | formatNotAText kind =>
    if kind = "bytes" then "cannot use a string pattern on a bytes-like object"
    else s!"expected string or bytes-like object, got '{kind}'"
  | badFormat format => s!"Invalid format '{format}' for '%' style"
  | fileNotAPath kind => s!"expected str, bytes or os.PathLike object, not {kind}"
  | nullInPath => "embedded null byte"
  | file e => e.message
  | fileByBytes e =>
    s!"[Errno {e.fault.number}] {e.fault.text}: {Value.quotedBytes (Utf8.encode e.path)}"

/-- A character in upper case, as far as names of levels are concerned. -/
def upperOf (c : Char) : List Char :=
  if c.toNat = 0x131 then ['I']
  else if c.toNat = 0x17F then ['S']
  else if c.toNat = 0xFB05 ∨ c.toNat = 0xFB06 then ['S', 'T']
  else [c.toUpper]

/-- The level that a text names in any case; the normal course if it names none. -/
def levelOf (s : String) : Except SetupError Nat :=
  let name := String.ofList (s.toList.flatMap upperOf)
  if name = "CRITICAL" ∨ name = "FATAL" then .ok 50
  else if name = "ERROR" then .ok 40
  else if name = "WARNING" ∨ name = "WARN" then .ok 30
  else if name = "INFO" then .ok 20
  else if name = "DEBUG" then .ok 10
  else if name = "NOTSET" then .ok 0
  else if name = "BASIC_FORMAT" then .error (.unknownLevel "%(levelname)s:%(name)s:%(message)s")
  else if name = "_STYLES" then .error .levelIsStyles
  else .ok 20

def levelOfValue (v : Value) : Except SetupError Nat :=
  match v with
  | .text s => levelOf s
  | .bytes _ => .error .levelNotAText
  | v => .error (.levelWithoutCase v.kindName)

def shortKindName (v : Value) : String := lastName v.kindName

/-- The format that a value gives; nothing and what is empty give the plain one. -/
def formatOf (v : Value) : Except SetupError (List Char) :=
  if v.isTrue then
    match v with
    | .text s => if isFormat s.toList then .ok s.toList else .error (.badFormat s)
    | v => .error (.formatNotAText (shortKindName v))
  else .ok plainFormat.toList

/-- The names of a route without pairs of dots and the names before them. -/
def settled (names : List String) : List String :=
  (names.foldl (fun back n => if n = ".." then back.drop 1 else n :: back) []).reverse

/-- The path of the file that a text names: from the working directory, and as it is shown. -/
def filePath (home s : String) : Except SetupError (String × String) :=
  if s.toList.contains (Char.ofNat 0) then .error .nullInPath
  else
    let route := Route.ofText s
    let path := String.intercalate "/" (settled route.names)
    if route.root = "" then .ok (if path = "" then "." else path, home ++ "/" ++ path)
    else .ok ("/" ++ path, "/" ++ path)

/-- The path of the file that a value names: from the working directory, and as it is shown. -/
def filePathOf (home : String) (v : Value) : Except SetupError (String × String) :=
  match v with
  | .text s => filePath home s
  | .bytes bs => filePath home (String.ofList (Utf8.lenient bs))
  | v => .error (.fileNotAPath (shortKindName v))

def fileErrorOf (v : Value) (e : FileError) : SetupError :=
  match v with
  | .bytes _ => .fileByBytes e
  | _ => .file e

/-- What a set-up leaves: the journal, the files, and the error that ended it. -/
structure Setup where
  journal : Journal
  tree : FileTree
  error : Option SetupError

/-- Sets up logging: a level, a format, and a file if one is named. What was done before an error
stays done. -/
def Journal.setUp (j : Journal) (t : FileTree) (home : String) (level format file : Value) :
    Setup :=
  let j := { j with handlers := [] }
  match levelOfValue level with
  | .error e => ⟨j, t, some e⟩
  | .ok n =>
    let j := { j with level := n }
    match formatOf format with
    | .error e => ⟨j, t, some e⟩
    | .ok f =>
      let j := { j with handlers := [⟨.console, n, f⟩] }
      let started := LogRecord.debug packageName s!"Logging initialized at level {level.display}"
      if file.isTrue then
        match filePathOf home file with
        | .error e => ⟨j, t, some e⟩
        | .ok (path, shown) =>
          match t.append path [] with
          | .error e => ⟨j, t, some (fileErrorOf file { e with path := shown })⟩
          | .ok t =>
            let j := { j with handlers := [⟨.console, n, f⟩, ⟨.file path, n, f⟩] }
            let (j, t) := j.note t started
            ⟨j, t, none⟩
      else
        let (j, t) := j.note t started
        ⟨j, t, none⟩

end Docent.Log
