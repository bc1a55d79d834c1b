/-!
# Tags of scalars

A tag tells the type of a node. A plain scalar without a tag gets the one that its text looks like:
a truth value, a number, a date, nothing, or else a text.
-/

namespace Docent.Yaml

def tagStem : String := "tag:yaml.org,2002:"

def standardTag (name : String) : String := tagStem ++ name

def truthWords : List String :=
  ["yes", "Yes", "YES", "no", "No", "NO", "true", "True", "TRUE", "false", "False", "FALSE", "on",
    "On", "ON", "off", "Off", "OFF"]

def nullWords : List String := ["", "~", "null", "Null", "NULL"]

def isDigitLike (c : Char) : Bool := c.isDigit || c = '_'

def unsigned (cs : List Char) : List Char :=
  match cs with
  | c :: r => if c = '-' ∨ c = '+' then r else cs
  | [] => []

/-- Whether a text is an exponent with a sign, or empty. -/
def isExponent (cs : List Char) : Bool :=
  match cs with
  | [] => true
  | e :: sign :: ds =>
    (e = 'e' || e = 'E') && (sign = '-' || sign = '+') && !ds.isEmpty && ds.all Char.isDigit
  | _ => false

/-- Whether a text is a part in base sixty after the first: one or two digits below sixty. -/
def isSixtieth (cs : List Char) : Bool :=
  match cs with
  | [a] => a.isDigit
  | [a, b] => '0' ≤ a && a ≤ '5' && b.isDigit
  | _ => false

def colonParts : List Char → List (List Char)
  | [] => [[]]
  | c :: cs =>
    match colonParts cs with
    | [] => [[c]]
    | p :: ps => if c = ':' then [] :: p :: ps else (c :: p) :: ps

/-- Whether a text is digits and underscores that start with a digit of a class. -/
def isNumeral (first : Char → Bool) (cs : List Char) : Bool :=
  match cs with
  | c :: r => first c && r.all isDigitLike
  | [] => false

def isPointed (cs : List Char) : Bool :=
  let front := cs.takeWhile isDigitLike
  match cs.drop front.length with
  | '.' :: back => isNumeral Char.isDigit front && isExponent (back.dropWhile isDigitLike)
  | _ => false

def isPointFirst (cs : List Char) : Bool :=
  match cs with
  | '.' :: d :: r => d.isDigit && isExponent (r.dropWhile isDigitLike)
  | _ => false

/-- Whether an unsigned text looks like a number with a point in base sixty. -/
def isPointedSixty (cs : List Char) : Bool :=
  let front := cs.takeWhile (· != '.')
  match cs.drop front.length, colonParts front with
  | '.' :: back, head :: part :: parts =>
    isNumeral Char.isDigit head && (part :: parts).all isSixtieth && back.all isDigitLike
  | _, _ => false

def looksFloat (cs : List Char) : Bool :=
  let text := String.ofList cs
  isPointed (unsigned cs) || isPointFirst cs || isPointedSixty (unsigned cs) ||
    [".inf", ".Inf", ".INF"].contains (String.ofList (unsigned cs)) ||
    [".nan", ".NaN", ".NAN"].contains text

def isHexDigit (c : Char) : Bool :=
  c.isDigit || ('a' ≤ c && c ≤ 'f') || ('A' ≤ c && c ≤ 'F')

def looksWhole (cs : List Char) : Bool :=
  let nonzero (c : Char) : Bool := c.isDigit && c != '0'
  match cs with
  | ['0'] => true
  | '0' :: 'b' :: d :: ds => (d :: ds).all fun c => c = '0' || c = '1' || c = '_'
  | '0' :: 'x' :: d :: ds => (d :: ds).all fun c => isHexDigit c || c = '_'
  | '0' :: d :: ds => (d :: ds).all fun c => ('0' ≤ c && c ≤ '7') || c = '_'
  | _ =>
    match colonParts cs with
    | head :: parts => isNumeral nonzero head && parts.all isSixtieth
    | [] => false

def oneOrTwo? (cs : List Char) : Option (List Char × List Char) :=
  match cs with
  | a :: b :: r =>
    if a.isDigit then (if b.isDigit then some ([a, b], r) else some ([a], b :: r)) else none
  | [a] => if a.isDigit then some ([a], []) else none
  | [] => none

def two? (cs : List Char) : Option (List Char × List Char) :=
  match cs with
  | a :: b :: r => if a.isDigit && b.isDigit then some ([a, b], r) else none
  | _ => none

def sign? (c : Char) (cs : List Char) : Option (List Char) :=
  match cs with
  | x :: r => if x = c then some r else none
  | [] => none

/-- The digits of a date and, if they are there, of a time. -/
structure Stamp where
  year : List Char
  month : List Char
  day : List Char
  time : Option (List Char × List Char × List Char × List Char) := none
  zone : Option (Option (Bool × List Char × List Char)) := none

def isStampBlank (c : Char) : Bool := c = ' ' || c = '\t'

/-- The distance from universal time at the end of a date: `none` if what is there is none. -/
def zone? (cs : List Char) : Option (Option (Option (Bool × List Char × List Char))) :=
  match cs with
  | [] => some none
  | _ =>
    match cs.dropWhile isStampBlank with
    | ['Z'] => some (some none)
    | c :: r =>
      if c = '-' ∨ c = '+' then do
        let (hour, r) ← oneOrTwo? r
        match r with
        | [] => some (some (some (c = '-', hour, [])))
        | ':' :: r =>
          let (minute, r) ← two? r
          if r.isEmpty then some (some (some (c = '-', hour, minute))) else none
        | _ => none
      else none
    | [] => none

def timeOf? (stamp : Stamp) (cs : List Char) : Option Stamp := do
  let r ←
    match cs with
    | c :: r =>
      if c = 'T' ∨ c = 't' then some r
      else if isStampBlank c then some (r.dropWhile isStampBlank)
      else none
    | [] => none
  let (hour, r) ← oneOrTwo? r
  let (minute, r) ← two? (← sign? ':' r)
  let (second, r) ← two? (← sign? ':' r)
  let (fraction, r) :=
    match r with
    | '.' :: r => (r.takeWhile Char.isDigit, r.dropWhile Char.isDigit)
    | r => ([], r)
  let zone ← zone? r
  return { stamp with time := some (hour, minute, second, fraction), zone }

/-- The digits of a date that a text writes, with or without a time. -/
def stamp? (cs : List Char) : Option Stamp := do
  let (century, r) ← two? cs
  let (year, r) ← two? r
  let (month, r) ← oneOrTwo? (← sign? '-' r)
  let (day, r) ← oneOrTwo? (← sign? '-' r)
  let stamp : Stamp := ⟨century ++ year, month, day, none, none⟩
  if r.isEmpty then return stamp else timeOf? stamp r

/-- Whether a text looks like a date: a date alone has two digits for month and day. -/
def looksStamp (cs : List Char) : Bool :=
  match stamp? cs with
  | some s => s.time.isSome || (s.month.length = 2 && s.day.length = 2)
  | none => false

def plainTag (text : String) : String :=
  let cs := text.toList
  standardTag <|
    if truthWords.contains text then "bool"
    else if looksFloat cs then "float"
    else if looksWhole (unsigned cs) then "int"
    else if text = "<<" then "merge"
    else if nullWords.contains text then "null"
    else if looksStamp cs then "timestamp"
    else if text = "=" then "value"
    else "str"

end Docent.Yaml
