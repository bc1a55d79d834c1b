import Docent.FileTree
import Docent.Log

/-!
# Discovery of source files

The files below a directory whose names have one of some suffixes. Directories with an excluded
name are left out with all they hold; links to directories are not followed. The paths come in the
order of their characters.
-/

namespace Docent

/-- What to look for: suffixes of files and names of directories to leave out. -/
structure Search where
  suffixes : List String
  excluded : List String

def joinPath (dir name : String) : String :=
  if dir = "" ∨ dir.toList.getLast? = some '/' then dir ++ name else dir ++ "/" ++ name

namespace Search

def accepts (s : Search) (name : String) : Bool :=
  s.suffixes.contains (Route.ofText name).suffix

mutual

def visit (s : Search) (t : FileTree) (path name : String) : FileNode → List String
  | .file _ => if s.accepts name then [path] else []
  | .link _ => if t.isDir path then [] else if s.accepts name then [path] else []
  | .dir entries => if s.excluded.contains name then [] else visitAll s t path entries

def visitAll (s : Search) (t : FileTree) (dir : String) : FileTree → List String
  | [] => []
  | (name, node) :: es => visit s t (joinPath dir name) name node ++ visitAll s t dir es

end

def below (s : Search) (t : FileTree) (root : String) : List String :=
  match FileTree.goal t root with
  | .ok (.directory place) =>
    match FileTree.entriesAt? t place with
    | some entries => visitAll s t root entries
    | none => []
  | _ => []

def logName : String := "src.parsers.discovery"

/-- The files found below a root, in order, with what is logged about it. -/
def files (s : Search) (t : FileTree) (root : String) : List String × List LogRecord :=
  if FileTree.isDir t (Route.ofText root).text then
    let found := (s.below t root).mergeSort (fun a b => a ≤ b)
    (found, [.debug logName s!"Discovered {found.length} source files under {root}"])
  else ([], [.warning logName s!"Source directory not found: {root}"])

end Search

end Docent
