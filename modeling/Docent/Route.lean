import Docent.Text.CodeSet

/-!
# Routes through a file tree

A route is written as names between slashes. Empty names and single dots say nothing and are left
out; a pair of dots is kept, since what it leads to depends on the tree.
-/

namespace Docent

/-- A route: what it starts from, empty for the working directory, and the names on it. -/
structure Route where
  root : String
  names : List String
deriving DecidableEq, Repr

namespace Route

/-- The slashes that a route starts from: two count apart from one, three and more do not. -/
def rootOf : List Char → String
  | '/' :: '/' :: '/' :: _ => "/"
  | '/' :: '/' :: _ => "//"
  | '/' :: _ => "/"
  | _ => ""

def namesOf (cs : List Char) : List String :=
  ((Text.pieces '/' cs).map String.ofList).filter fun n => n != "" && n != "."

def ofText (s : String) : Route := ⟨rootOf s.toList, namesOf s.toList⟩

/-- The text of a route; the empty one is a dot. -/
def text (r : Route) : String :=
  let joined := r.root ++ String.intercalate "/" r.names
  if joined = "" then "." else joined

def name (r : Route) : String := (r.names.getLast?).getD ""

def parent (r : Route) : Route := { r with names := r.names.dropLast }

/-- The suffix of a file name: from its last dot on, if something stands before and after it. -/
def suffixOf (name : List Char) : List Char :=
  let back := name.reverse
  let after := back.takeWhile (· != '.')
  match back.drop after.length with
  | [] => []
  | _ :: before => if before.isEmpty || after.isEmpty then [] else '.' :: after.reverse

def suffix (r : Route) : String := String.ofList (suffixOf r.name.toList)

end Route

end Docent
