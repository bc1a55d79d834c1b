import Docent.Route
import Docent.Text.Quoted
import Docent.Text.Utf8

/-!
# File trees

A tree of directories, files and symbolic links below a working directory, and what can be done
with it: follow a path, read a file, write one, make directories. Links are followed as often as a
system does. The tree is all there is: a step up from its root stays at the root, as in a root of a
system, and an absolute path, or a link to one, leads nowhere.
-/

namespace Docent

inductive FileNode
  | file (content : List UInt8)
  | link (target : String)
  | dir (entries : List (String × FileNode))
deriving Repr, Inhabited

/-- A file tree: the entries of the working directory. -/
abbrev FileTree := List (String × FileNode)

/-- Why something cannot be done with a path. -/
inductive FileFault
  | missing
  | alreadyThere
  | notADirectory
  | isADirectory
  | tooManyLinks
deriving DecidableEq, Repr

namespace FileFault

def number : FileFault → Nat
  | missing => 2
  | alreadyThere => 17
  | notADirectory => 20
  | isADirectory => 21
  | tooManyLinks => 40

def text : FileFault → String
  | missing => "No such file or directory"
  | alreadyThere => "File exists"
  | notADirectory => "Not a directory"
  | isADirectory => "Is a directory"
  | tooManyLinks => "Too many levels of symbolic links"

end FileFault

/-- A fault with the path it was met at. -/
structure FileError where
  fault : FileFault
  path : String
deriving DecidableEq, Repr

def FileError.message (e : FileError) : String :=
  s!"[Errno {e.fault.number}] {e.fault.text}: {Text.quoted e.path}"

namespace FileTree

/-! ### Nodes at places

A place is the list of the names that lead to a node through directories alone. -/

def named? (name : String) : FileTree → Option FileNode
  | [] => none
  | (n, node) :: es => if n = name then some node else named? name es

/-- The entries with a node put under a name: in place of the one that was there, or at the end. -/
def putEntry (name : String) (node : FileNode) : FileTree → FileTree
  | [] => [(name, node)]
  | (n, old) :: es => if n = name then (n, node) :: es else (n, old) :: putEntry name node es

def entriesAt? (t : FileTree) : List String → Option FileTree
  | [] => some t
  | name :: names =>
    match named? name t with
    | some (.dir es) => entriesAt? es names
    | _ => none

def putAt (node : FileNode) (name : String) (t : FileTree) : List String → FileTree
  | [] => putEntry name node t
  | d :: ds =>
    match named? d t with
    | some (.dir es) => putEntry d (.dir (putAt node name es ds)) t
    | _ => t

/-! ### Following paths -/

/-- Where a path leads: to a directory, to a file, or to a free name in a directory. -/
inductive Goal
  | directory (place : List String)
  | file (place : List String) (name : String) (content : List UInt8)
  | free (place : List String) (name : String)

/-- The names of a path as a system follows them: each name that is empty or a dot stays where it
is, but only in a directory. -/
def stepsOf (s : String) : List String := (Text.pieces '/' s.toList).map String.ofList

/-- Whether a path starts from the root of the system and not from the working directory. -/
def isAbsolute (s : String) : Bool := s.toList.head? = some '/'

/-- How many links are followed before a path counts as endless. -/
def mostLinks : Nat := 40

/-- Follows steps from a place up to a link, and from there as `onLink` says. The last name is not
followed if it is a link and `through` is false. -/
def walk (t : FileTree) (through : Bool)
    (onLink : List String → List String → Except FileFault Goal) (place : List String) :
    List String → Except FileFault Goal
  | [] => .ok (.directory place)
  | s :: rest =>
    if s = "" ∨ s = "." then walk t through onLink place rest
    else if s = ".." then walk t through onLink place.dropLast rest
    else
      match (entriesAt? t place).bind (named? s) with
      | none => if rest = [] then .ok (.free place s) else .error .missing
      | some (.dir _) => walk t through onLink (place ++ [s]) rest
      | some (.file content) =>
        if rest = [] then .ok (.file place s content) else .error .notADirectory
      | some (.link target) =>
        if rest = [] ∧ through = false then .ok (.file place s [])
        -- there is nothing outside of the tree for a link to lead to
        else if isAbsolute target then .error .missing
        else onLink place (stepsOf target ++ rest)

/-- Follows steps from a place and, where they meet links, those of their targets; `links` bounds
how many are followed. -/
def follow (t : FileTree) (through : Bool) :
    Nat → List String → List String → Except FileFault Goal
  | 0 => walk t through fun _ _ => .error .tooManyLinks
  | links + 1 => walk t through (follow t through links)

def goal (t : FileTree) (path : String) : Except FileFault Goal :=
  if path = "" ∨ isAbsolute path then .error .missing
  else follow t true mostLinks [] (stepsOf path)

def isDir (t : FileTree) (path : String) : Bool :=
  match goal t path with
  | .ok (.directory _) => true
  | _ => false

def exists? (t : FileTree) (path : String) : Bool :=
  match goal t path with
  | .ok (.free ..) => false
  | .ok _ => true
  | .error _ => false

/-! ### Reading and writing -/

/-- The content of the file that a path leads to. -/
def read (t : FileTree) (path : String) : Except FileError (List UInt8) :=
  match goal t path with
  | .ok (.file _ _ content) => .ok content
  | .ok (.directory _) => .error ⟨.isADirectory, path⟩
  | .ok (.free ..) => .error ⟨.missing, path⟩
  | .error fault => .error ⟨fault, path⟩

/-- The place and the name of the file that a path leads to or would lead to, with what it
holds. -/
def openFile (t : FileTree) (path : String) :
    Except FileError (List String × String × List UInt8) :=
  match goal t path with
  | .ok (.file place name content) => .ok (place, name, content)
  | .ok (.free place name) => .ok (place, name, [])
  | .ok (.directory _) => .error ⟨.isADirectory, path⟩
  | .error fault => .error ⟨fault, path⟩

def write (t : FileTree) (path : String) (content : List UInt8) : Except FileError FileTree :=
  (openFile t path).map fun (place, name, _) => putAt (.file content) name t place

def append (t : FileTree) (path : String) (content : List UInt8) : Except FileError FileTree :=
  (openFile t path).map fun (place, name, old) => putAt (.file (old ++ content)) name t place

/-! ### Making directories -/

def makeDir (t : FileTree) (route : Route) : Except FileError FileTree :=
  let path := route.text
  let found :=
    if isAbsolute path then .error .missing else follow t false mostLinks [] (stepsOf path)
  match found with
  | .ok (.free place name) => .ok (putAt (.dir []) name t place)
  | .ok _ => .error ⟨.alreadyThere, path⟩
  | .error fault => .error ⟨fault, path⟩

def ensureDir (t : FileTree) (route : Route) : FileTree × Option FileError :=
  match makeDir t route with
  | .ok t => (t, none)
  | .error e => (t, if isDir t route.text ∧ e.fault ≠ .missing then none else some e)

/-- Makes a directory and those that lead to it, from the shortest route on that needs it; `depth`
bounds the names on the route. What was made stays, also if a later one cannot be made. -/
def makeDirs (t : FileTree) (route : Route) : Nat → FileTree × Option FileError
  | 0 => ensureDir t route
  | depth + 1 =>
    match makeDir t route with
    | .ok t => (t, none)
    | .error e =>
      if e.fault = .missing then
        if route.names = [] then (t, some e)
        else
          match makeDirs t route.parent depth with
          | (t, some e) => (t, some e)
          | (t, none) => ensureDir t route
      else (t, if isDir t route.text then none else some e)

/-! ### Filling a tree -/

/-- Puts a node at a route, with the directories that lead to it. -/
def plant (node : FileNode) : List String → FileTree → FileTree
  | [], t => t
  | [name], t => putEntry name node t
  | d :: ds, t =>
    let inside :=
      match named? d t with
      | some (.dir es) => es
      | _ => []
    putEntry d (.dir (plant node ds inside)) t

def plantDir : List String → FileTree → FileTree
  | [], t => t
  | d :: ds, t =>
    let inside :=
      match named? d t with
      | some (.dir es) => es
      | _ => []
    putEntry d (.dir (plantDir ds inside)) t

mutual

def filesOf (path : String) : FileNode → List (String × List UInt8)
  | .file content => [(path, content)]
  | .link _ => []
  | .dir entries => filesBelow path entries

def filesBelow (path : String) : FileTree → List (String × List UInt8)
  | [] => []
  | (name, node) :: es =>
    filesOf (if path = "" then name else path ++ "/" ++ name) node ++ filesBelow path es

end

def files (t : FileTree) : List (String × List UInt8) := filesBelow "" t

end FileTree

end Docent
