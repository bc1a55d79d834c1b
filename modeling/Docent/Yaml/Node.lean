import Docent.Yaml.Tag
import Docent.Yaml.Tokens

/-!
# Nodes of a document

The tree that a document writes: scalars, sequences and mappings, each with its tag. An alias
stands for the node with its anchor; inside of that node itself it is a loop.
-/

namespace Docent.Yaml

inductive NodeKind
  | scalar
  | sequence
  | mapping
deriving DecidableEq, Repr

def NodeKind.name : NodeKind → String
  | scalar => "scalar"
  | sequence => "sequence"
  | mapping => "mapping"

/-- A node, with the place where it begins. -/
inductive Node
  | scalar (tag text : String) (start : Mark)
  | sequence (tag : String) (items : List Node) (start : Mark)
  | mapping (tag : String) (entries : List (Node × Node)) (start : Mark)
  | loop (kind : NodeKind) (start : Mark)
deriving Inhabited

namespace Node

def kind : Node → NodeKind
  | scalar .. => .scalar
  | sequence .. => .sequence
  | mapping .. => .mapping
  | loop k _ => k

def start : Node → Mark
  | scalar _ _ m => m
  | sequence _ _ m => m
  | mapping _ _ m => m
  | loop _ m => m

end Node

/-- What can be wrong with a document before its values are made. -/
inductive DocumentFault
  | complaint (c : Complaint)
  | noCharacter
  | codeTooLarge
  | unfinished
deriving Repr

def DocumentFault.ofScalar : ScalarFault → DocumentFault
  | .complaint c => .complaint c
  | .noCharacter => .noCharacter
  | .codeTooLarge => .codeTooLarge

/-! ### Reading tokens -/

/-- The state of composing: the tokens that are left, the fault after them, what handles of tags
stand for, and the nodes with anchors, each with the place of its first occurrence. -/
structure Composer where
  tokens : List Token
  fault : DocumentFault
  handles : List (String × String) := []
  anchors : List (String × Node) := []

abbrev Compose := StateT Composer (Except DocumentFault)

namespace Compose

def peek : Compose Token := do
  let s ← get
  match s.tokens with
  | t :: _ => return t
  | [] => throw s.fault

def take : Compose Token := do
  let t ← peek
  modify fun s => { s with tokens := s.tokens.drop 1 }
  return t

def sees (p : TokenKind → Bool) : Compose Bool := do return p (← peek).kind

def refuse {α : Type} (context : Option String) (since : Option Mark) (problem : String)
    (mark : Mark) : Compose α :=
  throw (.complaint ⟨.parsing, context, since, problem, mark⟩)

def object {α : Type} (context : Option String) (since : Option Mark) (problem : String)
    (mark : Mark) : Compose α :=
  throw (.complaint ⟨.composing, context, since, problem, mark⟩)

/-! ### Properties of nodes -/

/-- The anchor and the tag before a node, and where they begin and end. -/
structure Properties where
  anchor : Option String := none
  tag : Option String := none
  start : Option Mark := none

def anchor? : Compose (Option (String × Token)) := do
  let t ← peek
  match t.kind with
  | .anchor name => return some (name, ← take)
  | _ => return none

def tag? : Compose (Option ((Option String × String) × Token)) := do
  let t ← peek
  match t.kind with
  | .tag handle suffix => return some ((handle, suffix), ← take)
  | _ => return none

def resolve (start : Mark) (tag : (Option String × String) × Token) : Compose String := do
  let ((handle, suffix), token) := tag
  match handle with
  | none => return suffix
  | some h =>
    match (← get).handles.lookup h with
    | some stem => return stem ++ suffix
    | none =>
      refuse (some "while parsing a node") (some start)
        ("found undefined tag handle " ++ Text.quoted h) token.start

/-- Takes the anchor and the tag before a node, in either order. -/
def properties : Compose Properties := do
  match ← anchor? with
  | some (name, a) =>
    match ← tag? with
    | some t => return ⟨some name, some (← resolve a.start t), some a.start⟩
    | none => return ⟨some name, none, some a.start⟩
  | none =>
    match ← tag? with
    | some t =>
      match ← anchor? with
      | some (name, a) => return ⟨some name, some (← resolve t.2.start t), some t.2.start⟩
      | none => return ⟨none, some (← resolve t.2.start t), some t.2.start⟩
    | none => return {}

/-- The tag of a collection: its own, unless it has none, or just a mark. -/
def collectionTag (tag : Option String) (usual : String) : String :=
  match tag with
  | some t => if t = "!" then standardTag usual else t
  | none => standardTag usual

/-- The tag of a scalar: its own, or what its text looks like if it is plain. -/
def scalarTag (tag : Option String) (text : String) (plain : Bool) : String :=
  match tag with
  | some t => if t = "!" then plainTag text else t
  | none => if plain then plainTag text else standardTag "str"

/-! ### Anchors -/

/-- Gives a node an anchor, which must be new. -/
def claim (anchor : Option String) (node : Node) : Compose Unit := do
  match anchor with
  | none => return ()
  | some name =>
    match (← get).anchors.lookup name with
    | some old =>
      object (some ("found duplicate anchor " ++ Text.quoted name ++ "; first occurrence"))
        (some old.start) "second occurrence" node.start
    | none => modify fun s => { s with anchors := (name, node) :: s.anchors }

/-- Puts a finished node in place of the loop under its anchor. -/
def finish (anchor : Option String) (node : Node) : Compose Node := do
  match anchor with
  | none => return node
  | some name =>
    modify fun s => { s with anchors := (name, node) :: s.anchors }
    return node

def referredNode (name : String) (mark : Mark) : Compose Node := do
  match (← get).anchors.lookup name with
  | some node => return node
  | none => object none none ("found undefined alias " ++ Text.quoted name) mark

def emptyScalar (mark : Mark) : Node := .scalar (standardTag "null") "" mark

/-! ### Nodes -/

/-- Where a node stands: as a block, as a block that may be a sequence at the depth of its key, or
inside of brackets. -/
inductive Position
  | block
  | afterKey
  | flow
deriving DecidableEq

def endsBlockEntry : TokenKind → Bool
  | .key | .value | .blockEnd => true
  | _ => false

def endsItem : TokenKind → Bool
  | .entry | .blockEnd => true
  | _ => false

/-- Whether a token ends an item of a sequence at the depth of its key. -/
def endsLevelItem : TokenKind → Bool
  | .entry | .key | .value | .blockEnd => true
  | _ => false

def endsFlowKey : TokenKind → Bool
  | .value | .comma | .closeBracket => true
  | _ => false

def endsFlowEntry : TokenKind → Bool
  | .comma | .closeBracket => true
  | _ => false

def endsBraceKey : TokenKind → Bool
  | .value | .comma | .closeBrace => true
  | _ => false

def endsBraceEntry : TokenKind → Bool
  | .comma | .closeBrace => true
  | _ => false

/-- A node, or the empty scalar where a token ends what holds it. -/
def nodeUnless (ends : TokenKind → Bool) (empty : Mark) (node : Compose Node) : Compose Node := do
  if ← sees ends then return emptyScalar empty else node

/-- The value of an entry: after its colon, or the empty scalar where there is none. -/
def valueOr (ends : TokenKind → Bool) (node : Compose Node) : Compose Node := do
  let t ← peek
  if t.kind = .value then
    let t ← take
    nodeUnless ends t.stop node
  else return emptyScalar t.start

def expectBlockEnd (what : String) (start : Mark) : Compose Unit := do
  let t ← peek
  if t.kind = .blockEnd then
    let _ ← take
  else
    refuse (some ("while parsing a block " ++ what)) (some start)
      ("expected <block end>, but found " ++ Text.quoted t.kind.name) t.start

def expectComma (what close : String) (start : Mark) : Compose Unit := do
  let t ← peek
  if t.kind = .comma then
    let _ ← take
  else
    refuse (some ("while parsing a flow " ++ what)) (some start)
      ("expected ',' or '" ++ close ++ "', but got " ++ Text.quoted t.kind.name) t.start

/-- A node that is a collection: it is known as a loop while its parts are composed. -/
def collection (p : Properties) (start : Mark) (kind : NodeKind) (parts : Compose Node) :
    Compose Node := do
  claim p.anchor (.loop kind start)
  finish p.anchor (← parts)

def scalar (p : Properties) (start : Mark) (text : String) (plain : Bool) : Compose Node := do
  let node := Node.scalar (scalarTag p.tag text plain) text start
  claim p.anchor node
  return node

mutual

/-- The node at a position; the bound is on how deeply nodes nest and how many follow each
other. -/
def node : Nat → Position → Compose Node
  | 0, _ => throw .unfinished
  | fuel + 1, position => do
    let t ← peek
    match t.kind with
    | .reference name => do
      let t ← take
      referredNode name t.start
    | _ => do
      let p ← properties
      let t ← peek
      let start := p.start.getD t.start
      let sequence (parts : Compose (List Node)) : Compose Node :=
        collection p start .sequence do
          return .sequence (collectionTag p.tag "seq") (← parts) start
      let mapping (parts : Compose (List (Node × Node))) : Compose Node :=
        collection p start .mapping do
          return .mapping (collectionTag p.tag "map") (← parts) start
      match t.kind with
      | .scalar text plain => do
        let _ ← take
        scalar p start text plain
      | .openBracket => sequence do
        let t ← take
        bracketItems fuel t.start true
      | .openBrace => mapping do
        let t ← take
        braceEntries fuel t.start true
      | kind =>
        -- entries after a key may stand in the column of the key
        if kind = .entry ∧ position = .afterKey then sequence (levelItems fuel)
        else if kind = .sequenceStart ∧ position ≠ .flow then sequence do
          let t ← take
          blockItems fuel t.start
        else if kind = .mappingStart ∧ position ≠ .flow then mapping do
          let t ← take
          blockEntries fuel t.start
        -- a tag or an anchor with nothing after it stands for an empty text
        else if p.start.isSome then scalar p start "" p.tag.isNone
        else
          let what := if position = .flow then "flow" else "block"
          refuse (some s!"while parsing a {what} node") (some start)
            ("expected the node content, but found " ++ Text.quoted kind.name) t.start

def blockItems : Nat → Mark → Compose (List Node)
  | 0, _ => throw .unfinished
  | fuel + 1, start => do
    let t ← peek
    if t.kind = .entry then
      let t ← take
      let item ← nodeUnless endsItem t.stop (node fuel .block)
      return item :: (← blockItems fuel start)
    else
      expectBlockEnd "collection" start
      return []

def levelItems : Nat → Compose (List Node)
  | 0 => throw .unfinished
  | fuel + 1 => do
    let t ← peek
    if t.kind = .entry then
      let t ← take
      let item ← nodeUnless endsLevelItem t.stop (node fuel .block)
      return item :: (← levelItems fuel)
    else return []

def blockEntries : Nat → Mark → Compose (List (Node × Node))
  | 0, _ => throw .unfinished
  | fuel + 1, start => do
    let t ← peek
    if t.kind = .key then
      let t ← take
      let key ← nodeUnless endsBlockEntry t.stop (node fuel .afterKey)
      let value ← valueOr endsBlockEntry (node fuel .afterKey)
      return (key, value) :: (← blockEntries fuel start)
    else
      expectBlockEnd "mapping" start
      return []

def bracketItems : Nat → Mark → Bool → Compose (List Node)
  | 0, _, _ => throw .unfinished
  | fuel + 1, start, first => do
    if ← sees (· = .closeBracket) then
      let _ ← take
      return []
    if !first then expectComma "sequence" "]" start
    let t ← peek
    if t.kind = .key then
      let t ← take
      let key ← nodeUnless endsFlowKey t.stop (node fuel .flow)
      let value ← valueOr endsFlowEntry (node fuel .flow)
      let item := Node.mapping (standardTag "map") [(key, value)] t.start
      return item :: (← bracketItems fuel start false)
    else if t.kind = .closeBracket then
      let _ ← take
      return []
    else
      let item ← node fuel .flow
      return item :: (← bracketItems fuel start false)

def braceEntries : Nat → Mark → Bool → Compose (List (Node × Node))
  | 0, _, _ => throw .unfinished
  | fuel + 1, start, first => do
    if ← sees (· = .closeBrace) then
      let _ ← take
      return []
    if !first then expectComma "mapping" "\x7d" start
    let t ← peek
    if t.kind = .key then
      let t ← take
      let key ← nodeUnless endsBraceKey t.stop (node fuel .flow)
      let value ← valueOr endsBraceEntry (node fuel .flow)
      return (key, value) :: (← braceEntries fuel start false)
    else if t.kind = .closeBrace then
      let _ ← take
      return []
    else
      let key ← node fuel .flow
      let t ← peek
      return (key, emptyScalar t.start) :: (← braceEntries fuel start false)

end

/-! ### Documents -/

def beforeMark : TokenKind → Bool
  | .directive _ | .documentStart | .streamEnd => true
  | _ => false

def endsDocument : TokenKind → Bool
  | .directive _ | .documentStart | .documentEnd | .streamEnd => true
  | _ => false

def usualHandles : List (String × String) := [("!", "!"), ("!!", tagStem)]

/-- Takes the directives before a document: the handles that they define. -/
def directives : Nat → Bool → List (String × String) → Compose (List (String × String))
  | 0, _, _ => throw .unfinished
  | fuel + 1, versioned, handles => do
    let t ← peek
    match t.kind with
    | .directive d => do
      let _ ← take
      match d with
      | .version major _ =>
        if versioned then refuse none none "found duplicate YAML directive" t.start
        else if major ≠ 1 then
          refuse none none "found incompatible YAML document (version 1.* is required)" t.start
        else directives fuel true handles
      | .handle name stem =>
        if (handles.lookup name).isSome then
          refuse none none ("duplicate tag handle " ++ Text.quoted name) t.start
        else directives fuel versioned (handles ++ [(name, stem)])
      | .other => directives fuel versioned handles
    | _ => return handles ++ usualHandles

def skipEnds : Nat → Compose Unit
  | 0 => throw .unfinished
  | fuel + 1 => do
    let t ← peek
    if t.kind = .documentEnd then
      let _ ← take
      skipEnds fuel

/-- Takes what begins a document with marks, if there is one: where it begins. -/
def documentStart? (fuel : Nat) : Compose (Option Mark) := do
  skipEnds fuel
  let t ← peek
  if t.kind = .streamEnd then return none
  else
    let handles ← directives fuel false []
    modify fun s => { s with handles }
    let d ← peek
    if d.kind = .documentStart then
      let _ ← take
      return some t.start
    else
      refuse none none
        ("expected '<document start>', but found " ++ Text.quoted d.kind.name) d.start

def content (fuel : Nat) : Compose Node := do
  let t ← peek
  if endsDocument t.kind then return emptyScalar t.start else node fuel .block

def document? (fuel : Nat) : Compose (Option Node) := do
  let t ← peek
  let root ←
    if beforeMark t.kind then
      match ← documentStart? fuel with
      | some _ => some <$> content fuel
      | none => pure none
    else
      modify fun s => { s with handles := usualHandles }
      some <$> node fuel .block
  match root with
  | none => return none
  | some root =>
    let t ← peek
    if t.kind = .documentEnd then
      let _ ← take
    match ← documentStart? fuel with
    | none => return some root
    | some mark =>
      object (some "expected a single document in the stream") (some root.start)
        "but found another document" mark

end Compose

def nodeOf? (cs : List Char) : Except DocumentFault (Option Node) :=
  let (tokens, fault) := tokensOf cs
  let start : Composer :=
    { tokens, fault := (fault.map DocumentFault.ofScalar).getD .unfinished }
  ((Compose.document? (2 * tokens.length + 4)).run start).map Prod.fst

end Docent.Yaml
