import Docent.Yaml.Node
import Docent.Yaml.ScalarValue

/-!
# The value of a document

A document is checked from the outside in: first the parts of the root, then the parts of those, and
so on; the first fault that is met counts. A document without faults has a value. The entries of
mappings under merge keys come before the own entries of a mapping, which replace them.
-/

namespace Docent.Yaml

inductive Fault
  | document (e : DocumentFault)
  | text (e : TextFault)
  | complaint (c : Complaint)
  | unacceptable (c : Char) (position : Nat)

namespace Node

def tag : Node → String
  | scalar t _ _ => t
  | sequence t _ _ => t
  | mapping t _ _ => t
  | loop .sequence _ => standardTag "seq"
  | loop .mapping _ => standardTag "map"
  | loop .scalar _ => standardTag "str"

def complain (n : Node) (problem : String) : Complaint :=
  ⟨.constructing, none, none, problem, n.start⟩

def complainIn (n outer : Node) (doing problem : String) : Complaint :=
  ⟨.constructing, some doing, some outer.start, problem, n.start⟩

/-- The text of a node that has to be a scalar. A mapping stands for the value under its value
key. -/
def scalarText : Nat → Node → Except Complaint String
  | _, .scalar _ text _ => .ok text
  | fuel + 1, n@(.mapping _ entries _) =>
    match entries.find? fun e => e.1.tag = standardTag "value" with
    | some e => scalarText fuel e.2
    | none => .error (n.complain "expected a scalar node, but found mapping")
  | _, n => .error (n.complain s!"expected a scalar node, but found {n.kind.name}")

/-! ### Entries -/

def mappingDoing : String := "while constructing a mapping"

/-- The entries of a node; a node that is no mapping has none. -/
def ownEntries : Node → List (Node × Node)
  | .mapping _ entries _ => entries
  | _ => []

/-- The text that a value key stands for. -/
def asTextKey (key : Node) : Node :=
  match key with
  | .scalar t text start =>
    .scalar (if t = standardTag "value" then standardTag "str" else t) text start
  | key => key

/-- The entries of a mapping with those of the mappings that it merges; the bound is on how deeply
mappings are merged. -/
def entriesOf (fuel : Nat) (n : Node) : Except Complaint (List (Node × Node)) :=
  match fuel with
  | 0 => .ok n.ownEntries
  | fuel + 1 =>
    let mergedFrom (source : Node) : Except Complaint (List (Node × Node)) :=
      match source.kind with
      | .mapping => entriesOf fuel source
      | .sequence =>
        let sources :=
          match source with
          | .sequence _ items _ => items
          | _ => []
        (sources.mapM fun (s : Node) =>
          if s.kind = .mapping then entriesOf fuel s
          else
            .error (s.complainIn n mappingDoing
              s!"expected a mapping for merging, but found {s.kind.name}")).map fun found =>
          found.reverse.flatten
      | .scalar =>
        .error (source.complainIn n mappingDoing
          "expected a mapping or list of mappings for merging, but found scalar")
    let isMerge (e : Node × Node) : Bool := e.1.tag = standardTag "merge"
    (((n.ownEntries.filter isMerge).mapM fun e => mergedFrom e.2)).map fun merged =>
      merged.flatten ++
        (n.ownEntries.filter fun e => !isMerge e).map fun (k, v) => (k.asTextKey, v)

/-! ### Checking -/

/-- The value of a scalar under its tag; nothing for the tag of a collection. A date is read off the
node itself, so that a mapping cannot stand for it. -/
def scalarValue? (fuel : Nat) (n : Node) : Except Fault (Option Value) :=
  match scalarReaders.find? fun r => standardTag r.1 = n.tag with
  | some (_, read) => do
    let text ← (n.scalarText fuel).mapError .complaint
    if n.kind = .mapping ∧ n.tag = standardTag "timestamp" then .error (.text .stampOfMapping)
    else
      match read text.toList with
      | .ok v => return some v
      | .error (.notAscii problem) =>
        .error (.complaint (n.complain ("failed to convert base64 data into ascii: " ++ problem)))
      | .error (.notBase64 e) =>
        .error (.complaint (n.complain ("failed to decode base64 data: " ++ e.message)))
      | .error e => .error (.text e)
  | none =>
    if ["seq", "map", "set", "omap", "pairs"].any fun t => standardTag t = n.tag then .ok none
    else
      .error (.complaint
        (n.complain ("could not determine a constructor for the tag " ++ Text.quoted n.tag)))

/-- The nodes of which a checked node leaves the parts to be checked later. -/
def later (fuel : Nat) (n : Node) : Except Fault (List Node) :=
  (n.scalarValue? fuel).map fun v => if v.isSome then [] else [n]

def checkEntry (fuel : Nat) (outer : Node) (e : Node × Node) : Except Fault (List Node) := do
  let key ← later fuel e.1
  if !key.isEmpty then
    .error (.complaint (e.1.complainIn outer mappingDoing "found unhashable key"))
  let value ← later fuel e.2
  return key ++ value

/-- Checks an item of a list of pairs: a mapping with a single entry. -/
def checkPair (fuel : Nat) (outer : Node) (doing : String) (item : Node) :
    Except Fault (List Node) :=
  let complain (problem : String) : Except Fault (List Node) :=
    .error (.complaint (item.complainIn outer doing problem))
  match item.kind, item.ownEntries with
  | .mapping, [(k, v)] => do
    let key ← later fuel k
    let value ← later fuel v
    return key ++ value
  | .mapping, es => complain s!"expected a single mapping item, but found {es.length} items"
  | kind, _ => complain s!"expected a mapping of length 1, but found {kind.name}"

def checkPairs (fuel : Nat) (n : Node) (doing : String) : Except Fault (List Node) :=
  match n with
  | .sequence _ items _ => (items.mapM (checkPair fuel n doing)).map List.flatten
  | .loop .sequence _ => .ok []
  | n =>
    .error (.complaint
      (n.complainIn n doing s!"expected a sequence, but found {n.kind.name}"))

/-- Checks the parts of a collection: the collections among them, whose parts come later. -/
def checkParts (fuel : Nat) (n : Node) : Except Fault (List Node) :=
  if n.tag = standardTag "seq" then
    match n with
    | .sequence _ items _ => (items.mapM (later fuel)).map List.flatten
    | .loop .sequence _ => .ok []
    | n => .error (.complaint (n.complain s!"expected a sequence node, but found {n.kind.name}"))
  else if n.tag = standardTag "omap" then checkPairs fuel n "while constructing an ordered map"
  else if n.tag = standardTag "pairs" then checkPairs fuel n "while constructing pairs"
  else
    match n with
    | .mapping .. => do
      let es ← (n.entriesOf fuel).mapError .complaint
      (es.mapM (checkEntry fuel n)).map List.flatten
    | .loop .mapping _ => .ok []
    | n => .error (.complaint (n.complain s!"expected a mapping node, but found {n.kind.name}"))

/-- Checks the parts of collections, then the parts of those. -/
def checkAll (depth : Nat) : Nat → List Node → Except Fault Unit
  | 0, _ => .ok ()
  | _, [] => .ok ()
  | fuel + 1, ns => do
    let inner ← ns.mapM (checkParts depth)
    checkAll depth fuel inner.flatten

/-! ### Values -/

/-- The value of a checked node; the bound is on how deeply nodes nest. -/
def value (depth : Nat) : Nat → Node → Value
  | 0, _ => .null
  | fuel + 1, n =>
    match n.scalarValue? depth with
    | .ok (some v) => v
    | _ =>
      let entries := (n.entriesOf depth).toOption.getD []
      let made : List (Value × Value) :=
        entries.foldl (fun es e => Value.put (value depth fuel e.1) (value depth fuel e.2) es) []
      let pair (item : Node) : Value :=
        match item.ownEntries with
        | (k, v) :: _ => .list [value depth fuel k, value depth fuel v]
        | [] => .null
      let items : List Node :=
        match n with
        | .sequence _ items _ => items
        | _ => []
      if n.tag = standardTag "seq" then .list (items.map (value depth fuel))
      else if n.tag = standardTag "omap" ∨ n.tag = standardTag "pairs" then .list (items.map pair)
      else if n.tag = standardTag "set" then .members (made.map Prod.fst)
      else .dict made

end Node

/-- The first character that no document may hold, with the number of characters before it. -/
def unacceptable? : Nat → List Char → Option (Char × Nat)
  | _, [] => none
  | n, c :: cs => if isAcceptable c then unacceptable? (n + 1) cs else some (c, n)

/-- The value that a document writes; nothing if it is empty. -/
def valueOf (cs : List Char) : Except Fault Value :=
  match unacceptable? 0 cs with
  | some (c, n) => .error (.unacceptable c n)
  | none => do
    match ← (nodeOf? cs).mapError .document with
    | none => return .null
    | some root =>
      let depth := cs.length + 1
      let first ← root.later depth
      Node.checkAll depth depth first
      return root.value depth depth

/-! ### Texts of faults -/

def TextFault.message : TextFault → String
  | number e => e.message
  | notATruthWord word => Text.quoted word
  | emptyNumber => "string index out of range"
  | notAStamp => "'NoneType' object has no attribute 'groupdict'"
  | stampOfMapping => "expected string or bytes-like object, got 'list'"
  | outOfRange problem => problem
  | notAscii problem => problem
  | notBase64 e => e.message

def Fault.message (e : Fault) (name : String) : String :=
  match e with
  | .document (.complaint c) => c.message name
  | .document .noCharacter => "chr() arg not in range(0x110000)"
  | .document .codeTooLarge => "Python int too large to convert to C int"
  | .document .unfinished => ""
  | .text e => e.message
  | .complaint c => c.message name
  | .unacceptable c n =>
    let code := String.ofList (Text.hexDigits 4 c.toNat)
    s!"unacceptable character #x{code}: special characters are not allowed\n  in \"" ++ name ++
      s!"\", position {n}"

end Docent.Yaml
