import Docent.CommandLine.Run
import Docent.Json.Parse

/-!
# Snapshots of a directory

A snapshot describes what a session starts from: the files and the links of the working directory,
the key to the service, and what the backend replies. It is written as an object with the fields
`files`, `links`, `key` and `replies`, each of which may be left out.
-/

namespace Docent.CommandLine

structure Snapshot where
  tree : FileTree := []
  key : String := ""
  replies : List String := []

namespace Snapshot

def textEntries : Value → List (String × String)
  | .dict es => es.filterMap fun (k, v) =>
    match k, v with
    | .text k, .text v => some (k, v)
    | _, _ => none
  | _ => []

def textItems : Value → List String
  | .list vs => vs.filterMap fun v =>
    match v with
    | .text s => some s
    | _ => none
  | _ => []

def plantAll (node : String → FileNode) (es : List (String × String)) (t : FileTree) : FileTree :=
  es.foldl (fun t (path, s) => FileTree.plant (node s) (Route.ofText path).names t) t

def ofFields (fields : List (Value × Value)) : Snapshot :=
  let field (name : String) : Value := (Value.get? fields name).getD .null
  let files := plantAll (fun s => .file (Utf8.encode s)) (textEntries (field "files")) []
  { tree := plantAll .link (textEntries (field "links")) files
    key :=
      match field "key" with
      | .text s => s
      | _ => ""
    replies := textItems (field "replies") }

def ofText? (s : String) : Option Snapshot :=
  if Text.strip s = "" then some {}
  else
    match Json.parse? s.toList with
    | some (.dict fields) => some (ofFields fields)
    | _ => none

/-- The other side of a backend that gives the replies, and is not there when they are used up. -/
def peer (s : Snapshot) : Peer where
  process n _ :=
    match s.replies[n]? with
    | some reply => .finished 0 (some reply) none
    | none => .notFound
  request n _ :=
    match s.replies[n]? with
    | some reply => .answered [some reply] 0 reply.length
    | none => .refused "Connection error."

/-- Runs the program on a snapshot, in a directory with some path. -/
def run (s : Snapshot) (home : String) (args : List String) : Outcome Exchange :=
  CommandLine.run (.toBackend s.peer s.key) ⟨home, s.key⟩ args s.tree {}

/-- The files of a tree that another tree does not have with the same content, as an object. -/
def changes (before after : FileTree) : Value :=
  let old := before.files
  .dict ((after.files.filter fun f => !old.contains f).map fun (path, bytes) =>
    (.text path, .text (String.ofList (Utf8.lenient bytes))))

end Snapshot

end Docent.CommandLine
