import Docent.Number.Spelled
import Docent.Text.Quoted
import Docent.Value.Calendar

/-!
# Values

The values that records, settings and data files hold: nothing, truth values, numbers, texts,
bytes, dates, lists, sets and dictionaries. A dictionary keeps its entries in the order in which their
keys were first added.
-/

namespace Docent

/-- A value of a record or a setting. -/
inductive Value
  | null
  | bool (b : Bool)
  | int (i : Int)
  | float (x : Binary64)
  | text (s : String)
  | bytes (bs : List UInt8)
  | day (d : Day)
  | moment (m : Moment)
  | list (items : List Value)
  | members (items : List Value)
  | dict (entries : List (Value × Value))
deriving Repr, Inhabited

namespace Value

/-- Whether a value counts as true: all but nothing, false, zero and what is empty. -/
def isTrue : Value → Bool
  | .null => false
  | .bool b => b
  | .int i => i != 0
  | .float x => !x.isZero
  | .text s => !s.isEmpty
  | .bytes bs => !bs.isEmpty
  | .day _ => true
  | .moment _ => true
  | .list items => !items.isEmpty
  | .members items => !items.isEmpty
  | .dict entries => !entries.isEmpty

/-- The value itself if it counts as true, otherwise another one. -/
def orElse (v other : Value) : Value :=
  if v.isTrue then v else other

def kindName : Value → String
  | .null => "NoneType"
  | .bool _ => "bool"
  | .int _ => "int"
  | .float _ => "float"
  | .text _ => "str"
  | .bytes _ => "bytes"
  | .day _ => "datetime.date"
  | .moment _ => "datetime.datetime"
  | .list _ => "list"
  | .members _ => "set"
  | .dict _ => "dict"

/-! ### Texts -/

def boolText (b : Bool) : String := if b then "True" else "False"

def quoteByte (quote : Char) (b : UInt8) : List Char :=
  let c := Char.ofNat b.toNat
  if c = quote ∨ c = '\\' then ['\\', c]
  else if c = '\t' then ['\\', 't']
  else if c = '\n' then ['\\', 'n']
  else if c = '\r' then ['\\', 'r']
  else if 32 ≤ b.toNat ∧ b.toNat < 127 then [c]
  else '\\' :: 'x' :: Text.hexDigits 2 b.toNat

def quotedBytes (bs : List UInt8) : String :=
  let q := Text.quoteFor (bs.map fun b => Char.ofNat b.toNat)
  String.ofList ('b' :: q :: bs.flatMap (quoteByte q) ++ [q])

def commaList (texts : List String) : String :=
  String.intercalate ", " texts

mutual

/-- The text of a value inside another one and in messages: texts are quoted. -/
def quoted : Value → String
  | .null => "None"
  | .bool b => boolText b
  | .int i => toString i
  | .float x => x.text
  | .text s => Text.quoted s
  | .bytes bs => quotedBytes bs
  | .day d => d.construction
  | .moment m => m.construction
  | .list items => "[" ++ commaList (quotedItems items) ++ "]"
  | .members [] => "set()"
  | .members (v :: vs) => "\x7b" ++ commaList (v.quoted :: quotedItems vs) ++ "\x7d"
  | .dict entries => "\x7b" ++ commaList (quotedEntries entries) ++ "\x7d"

def quotedItems : List Value → List String
  | [] => []
  | v :: vs => v.quoted :: quotedItems vs

def quotedEntries : List (Value × Value) → List String
  | [] => []
  | (k, v) :: es => (k.quoted ++ ": " ++ v.quoted) :: quotedEntries es

end

def display : Value → String
  | .text s => s
  | .day d => d.text
  | .moment m => m.textWith " "
  | v => v.quoted

/-! ### Keys -/

/-- The number that a value is, if it is one; truth values are the numbers zero and one. -/
def asInt? : Value → Option Int
  | .bool b => some (if b then 1 else 0)
  | .int i => some i
  | .float x =>
    match x with
    | .finite s d p =>
      let (num, den) := Binary64.magnitude d p
      if num % den = 0 then
        some (if s then -(Int.ofNat (num / den)) else Int.ofNat (num / den))
      else none
    | _ => none
  | _ => none

/-- Whether two values are one key: numbers by their value, all else by kind and content. -/
def sameKey (a b : Value) : Bool :=
  match a.asInt?, b.asInt? with
  | some i, some j => i = j
  | _, _ =>
    match a, b with
    | .null, .null => true
    | .float x, .float y => x.same y
    | .text s, .text t => s = t
    | .bytes s, .bytes t => s = t
    | .day s, .day t => s = t
    | .moment s, .moment t => s = t
    | _, _ => false

def find? (key : Value) : List (Value × Value) → Option Value
  | [] => none
  | (k, v) :: es => if sameKey k key then some v else find? key es

def get? (entries : List (Value × Value)) (key : String) : Option Value :=
  find? (.text key) entries

/-- The entries with a value put under a key: in place of the one that was there, or at the
end. -/
def put (key value : Value) : List (Value × Value) → List (Value × Value)
  | [] => [(key, value)]
  | (k, v) :: es => if sameKey k key then (k, value) :: es else (k, v) :: put key value es

end Value

end Docent
