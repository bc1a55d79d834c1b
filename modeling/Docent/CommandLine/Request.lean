import Docent.CommandLine.Command
import Docent.CommandLine.Given
import Docent.FileTree
import Docent.Text.Quoted

/-!
# What is requested

The arguments of the program name a command, and before it the settings to load. The arguments of
the command make up the request. Paths among them are looked at right away. What cannot be a
request is a page that was asked for, or a misuse of the program or of one of its commands.
-/

namespace Docent.CommandLine

/-- What is wrong with a path: it leads to nothing, to a directory, or to a file. -/
inductive PathMisfit
  | missing
  | isDirectory
  | isFile
deriving DecidableEq, Repr

inductive Misuse
  | given (e : GivenFault)
  | noSuchCommand (name : String) (near : List String)
  | commandMissing
  | operandMissing (name : String)
  | badPath (name path : String) (misfit : PathMisfit)
  | extraWords (words : List String)
deriving DecidableEq, Repr

def suggestion (near : List String) : String :=
  let names := String.intercalate ", " ((near.mergeSort (· ≤ ·)).map Text.quoted)
  match near with
  | [] => ""
  | [_] => s!" Did you mean {names}?"
  | _ => s!" (Did you mean one of: {names}?)"

def GivenFault.message : GivenFault → String
  | unknown name near => s!"No such option {Text.quoted name}." ++ suggestion near
  | valueMissing name => s!"Option {Text.quoted name} requires an argument."
  | valueUnwanted name => s!"Option {Text.quoted name} does not take a value."

def PathMisfit.text (path : String) : PathMisfit → String
  | missing => s!"File {Text.quoted path} does not exist."
  | isDirectory => s!"File {Text.quoted path} is a directory."
  | isFile => s!"Directory {Text.quoted path} is a file."

namespace Misuse

def message : Misuse → String
  | given e => e.message
  | noSuchCommand name near => s!"No such command {Text.quoted name}." ++ suggestion near
  | commandMissing => "Missing command."
  | operandMissing name => s!"Missing argument '{name}'."
  | badPath name path misfit => s!"Invalid value for '{name}': {misfit.text path}"
  | extraWords [word] => s!"Got unexpected extra argument ({word})"
  | extraWords words =>
    let shown := String.intercalate " " words
    s!"Got unexpected extra arguments ({shown})"

/-- Whether users are reminded of the usage: not where the value of a switch is at fault. -/
def reminds : Misuse → Bool
  | given (.valueMissing _) | given (.valueUnwanted _) => false
  | _ => true

end Misuse

inductive NoRequest
  | version
  | page (p : Page)
  | unguided (p : Page)
  | misuse (p : Page) (m : Misuse)
  | nullInPath

/-! ### Paths -/

/-- What a path leads to, as far as anything does. A path with a null character is none. -/
def look (t : FileTree) (path : String) : Except NoRequest (Option FileTree.Goal) :=
  if path.toList.contains (Char.ofNat 0) then .error .nullInPath
  else
    match t.goal path with
    | .ok (.free ..) | .error _ => .ok none
    | .ok goal => .ok (some goal)

def checkNoDirectory (t : FileTree) (p : Page) (name path : String) : Except NoRequest Unit := do
  match ← look t path with
  | some (.directory _) => throw (.misuse p (.badPath name path .isDirectory))
  | _ => return ()

def checkNoFile (t : FileTree) (p : Page) (name path : String) : Except NoRequest Unit := do
  match ← look t path with
  | some (.file ..) => throw (.misuse p (.badPath name path .isFile))
  | _ => return ()

def checkFile (t : FileTree) (p : Page) (name path : String) : Except NoRequest Unit := do
  match ← look t path with
  | none => throw (.misuse p (.badPath name path .missing))
  | some (.directory _) => throw (.misuse p (.badPath name path .isDirectory))
  | some _ => return ()

/-! ### Switches -/

/-- What is given to the user of a page, unless that is a page or the version. -/
def readFor (p : Page) (known : List Switch) (mixed : Bool) (args : List String) :
    Except NoRequest Given := do
  let g ← (Given.ofArguments known mixed args).mapError fun e => .misuse p (.given e)
  match (g.switches.map Prod.fst).find? Switch.comesFirst with
  | some .version => throw .version
  | some _ => throw (.page p)
  | none => return g

/-! ### The program -/

/-- What the arguments of the program give: the path to the settings, the command, and the
arguments of the command. -/
structure Opening where
  settings : String
  command : Command
  rest : List String

def readProgram (t : FileTree) (args : List String) : Except NoRequest Given := do
  let g ← readFor programPage programSwitches false args
  match g.value? .config with
  | some path => checkNoDirectory t programPage Switch.config.long path
  | none => pure ()
  return g

/-- Reads the arguments of the program. A word that is no command is read as a switch before it is
complained about. -/
def readOpening (t : FileTree) (args : List String) : Except NoRequest Opening := do
  if args = [] then throw (.unguided programPage)
  let g ← readProgram t args
  match g.words with
  | [] => throw (.misuse programPage .commandMissing)
  | word :: rest =>
    match Command.ofName? word with
    | some command => return { settings := g.value .config, command, rest }
    | none =>
      let _ ← readProgram t g.words
      let near := Text.nearWords (Command.all.map Command.name) word
      throw (.misuse programPage (.noSuchCommand word near))

/-! ### Commands -/

/-- What is requested. An empty text stands for what was not given. -/
inductive Request
  | extract (source output : String)
  | generate (source output model : String) (dry : Bool)
  | prompt (path className : String) (method : Option String)
deriving DecidableEq, Repr

def checkWords (p : Page) (extra : List String) : Except NoRequest Unit :=
  if extra = [] then .ok () else .error (.misuse p (.extraWords extra))

def readSource (t : FileTree) (p : Page) (words : List String) : Except NoRequest String := do
  match words with
  | [] => return ""
  | source :: extra =>
    checkNoFile t p "[SOURCE_DIR]" source
    checkWords p extra
    return source

def readFileAndClass (t : FileTree) (p : Page) (words : List String) :
    Except NoRequest (String × String) := do
  match words with
  | [] => throw (.misuse p (.operandMissing "FILE_PATH"))
  | path :: words =>
    checkFile t p "FILE_PATH" path
    match words with
    | [] => throw (.misuse p (.operandMissing "CLASS_NAME"))
    | className :: extra =>
      checkWords p extra
      return (path, className)

def readRequest (t : FileTree) (c : Command) (args : List String) :
    Except NoRequest Request := do
  let g ← readFor c.page c.switches true args
  let _ ← look t (g.value .output)
  match c with
  | .extract => return .extract (← readSource t c.page g.words) (g.value .output)
  | .generate =>
    let source ← readSource t c.page g.words
    return .generate source (g.value .output) (g.value .model) (g.has .dryRun)
  | .prompt =>
    let (path, className) ← readFileAndClass t c.page g.words
    return .prompt path className (g.value? .method)

end Docent.CommandLine
