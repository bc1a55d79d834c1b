import Docent.Log
import Docent.Number.Spelled
import Docent.Text.DecimalDigit
import Docent.Text.Identifier
import Docent.Text.Quoted

/-!
# Formats of log lines

A format is a text with fields: a percent sign, the name of the field in parentheses, flags, a
width, a precision and a letter that says how the field is written. A format is accepted if it
holds one field of that shape.
-/

namespace Docent.Log

/-- How a field is written: its flags, width, precision and letter, and whether its width or its
precision is a star or has digits of another script, for which no text is known. -/
structure FieldStyle where
  flags : List Char
  width : Nat
  precision : Option Nat
  letter : Char
  starred : Bool
deriving DecidableEq, Repr

inductive Part
  | literal (cs : List Char)
  | field (name : List Char) (style : FieldStyle)
deriving DecidableEq, Repr

/-! ### Reading formats -/

def isNameChar (c : Char) : Bool := Text.isIdentifierPart c

def isFlag (c : Char) : Bool := c = '#' || c = '0' || c = '+' || c = ' ' || c = '-'

/-- Whether a letter says how a field is written. The dotted capital and the dotless small I and the
long S count as letters, but nothing is written by them. -/
def isStyleLetter (c : Char) : Bool :=
  "diouxefgcrsa%".toList.contains c.toLower || [0x130, 0x131, 0x17F].contains c.toNat

/-- Splits off a width or precision: digits of any script, or a star that is taken from elsewhere. -/
def extent (cs : List Char) : List Char × List Char :=
  match cs with
  | '*' :: r => (['*'], r)
  | cs => cs.span fun c => (Text.decimalDigit? c).isSome

/-- Splits off a precision after its point; `none` if a point has none. -/
def precision? (cs : List Char) : Option (Option (List Char) × List Char) :=
  match cs with
  | '.' :: r =>
    match extent r with
    | ([], _) => none
    | (ds, r) => some (some ds, r)
  | cs => some (none, cs)

def extentValue (ds : List Char) : Nat :=
  ds.foldl (fun n c => n * 10 + (c.toNat - 48)) 0

def field? (cs : List Char) : Option (Part × List Char) :=
  match cs with
  | '(' :: r =>
    match r.span (fun c => c != ')') with
    | (name, ')' :: r) =>
      let (flags, r) := r.span isFlag
      let (width, r) := extent r
      match precision? r with
      | some (precision, letter :: r) =>
        if isStyleLetter letter then
          let starred := !(width ++ precision.getD []).all Char.isDigit
          some (.field name
            ⟨flags, extentValue width, precision.map extentValue, letter, starred⟩, r)
        else none
      | _ => none
    | _ => none
  | _ => none

def startsWithField (cs : List Char) : Bool :=
  match cs with
  | '%' :: r =>
    match field? r with
    | some (.field name _, _) => !name.isEmpty && name.all isNameChar
    | _ => false
  | _ => false

/-- Whether a format is accepted: it holds a field. -/
def isFormat : List Char → Bool
  | [] => false
  | c :: cs => startsWithField (c :: cs) || isFormat cs

/-- The parts of a format; `none` if a percent sign starts neither a field nor a percent sign.
`fuel` is at least the length of the format. -/
def partsOf? : Nat → List Char → Option (List Part)
  | _, [] => some []
  | 0, _ => none
  | fuel + 1, '%' :: '%' :: r => (partsOf? fuel r).map (Part.literal ['%'] :: ·)
  | fuel + 1, '%' :: r =>
    match field? r with
    | some (p, r) => (partsOf? fuel r).map (p :: ·)
    | none => none
  | fuel + 1, c :: r => (partsOf? fuel r).map (Part.literal [c] :: ·)

/-! ### Writing lines -/

/-- What a field holds: a text, or a number. -/
inductive FieldValue
  | text (s : String)
  | number (n : Nat)

def timeText : String := "TIME"

def lastName (name : String) : String :=
  String.ofList ((name.toList.reverse.takeWhile (· != '.')).reverse)

/-- The module that notes under a name; the package itself notes when logging is set up. -/
def moduleName (name : String) : String :=
  if name = "src" then "logging" else lastName name

def fieldValue? (r : LogRecord) (name : String) : Option FieldValue :=
  if name = "message" ∨ name = "msg" then some (.text r.message)
  else if name = "name" then some (.text r.name)
  else if name = "levelname" then some (.text (LogRecord.levelName r.level))
  else if name = "levelno" then some (.number r.level)
  else if name = "asctime" then some (.text timeText)
  else if name = "module" then some (.text (moduleName r.name))
  else if name = "filename" then some (.text (moduleName r.name ++ ".py"))
  else if name = "threadName" then some (.text "MainThread")
  else if name = "processName" then some (.text "MainProcess")
  else if name = "exc_info" ∨ name = "exc_text" ∨ name = "stack_info" then some (.text "None")
  else none

/-- A text with blanks up to the width of its field. -/
def FieldStyle.fill (st : FieldStyle) (cs : List Char) : List Char :=
  let missing := List.replicate (st.width - cs.length) ' '
  if st.flags.contains '-' then cs ++ missing else missing ++ cs

/-- A number with its sign and mark before it; zeros, if asked for, stand between the two. -/
def FieldStyle.fillNumber (st : FieldStyle) (head digits : List Char) : List Char :=
  if st.flags.contains '0' && !st.flags.contains '-' then
    head ++ List.replicate (st.width - (head ++ digits).length) '0' ++ digits
  else st.fill (head ++ digits)

/-- The sign of a number that is not negative, as the flags ask for it. -/
def FieldStyle.sign (st : FieldStyle) : List Char :=
  if st.flags.contains '+' then ['+'] else if st.flags.contains ' ' then [' '] else []

def FieldStyle.writeText (st : FieldStyle) (cs : List Char) : List Char :=
  st.fill (match st.precision with
    | some n => cs.take n
    | none => cs)

/-- A number in a base, with its least number of digits and, if asked for, the mark of the base. -/
def FieldStyle.writeWhole (st : FieldStyle) (base : Nat) (mark : List Char) (n : Nat) : List Char :=
  let digits := Nat.toDigits base n
  st.fillNumber (st.sign ++ if st.flags.contains '#' then mark else [])
    (List.replicate (st.precision.getD 0 - digits.length) '0' ++ digits)

/-- The digits behind a point; with none of them the point is kept only where it is asked for. -/
def behindPoint (keepPoint : Bool) (digits : List Char) : List Char :=
  if digits.isEmpty && !keepPoint then [] else '.' :: digits

def fixedDigits (keepPoint : Bool) (places n : Nat) : List Char :=
  Nat.toDigits 10 n ++ behindPoint keepPoint (List.replicate places '0')

/-- The leading digits of a number, and the power of ten of the first one. -/
def leadingDigits (count n : Nat) : List Char × Int :=
  if n = 0 then (List.replicate count '0', 0)
  else
    let d := Binary64.toPrecision count n 1
    (Nat.toDigits 10 d.digits, d.exponent + count - 1)

/-- A number as one digit, a fixed number of places and an exponent. -/
def exponentDigits (keepPoint : Bool) (places n : Nat) : List Char :=
  let (digits, exponent) := leadingDigits (places + 1) n
  digits.take 1 ++ behindPoint keepPoint (digits.drop 1) ++
    (Binary64.exponentText exponent).toList

/-- A number in general form with a number of digits; zeros at the end of its places are kept only
where they are asked for. -/
def generalDigits (keepZeros : Bool) (count n : Nat) : List Char :=
  let (digits, exponent) := leadingDigits (max count 1) n
  let whole := if exponent < max count 1 then exponent.toNat + 1 else 1
  let back := if keepZeros then digits.drop whole else Binary64.dropZeros (digits.drop whole)
  digits.take whole ++ behindPoint keepZeros back ++
    (if exponent < max count 1 then [] else (Binary64.exponentText exponent).toList)

def asciiQuoted (s : String) : List Char :=
  (Text.quoted s).toList.flatMap fun c => if c.toNat < 0x80 then [c] else Text.codeEscape c

/-- A field value in a style, if the style fits it. -/
def FieldStyle.write? (st : FieldStyle) (v : FieldValue) : Option (List Char) :=
  let places := st.precision.getD 6
  let marked := st.flags.contains '#'
  let real := fun digits => some (st.fillNumber st.sign digits)
  if st.starred then none
  else
    match st.letter, v with
    | 's', .text s => some (st.writeText s.toList)
    | 'r', .text s => some (st.writeText (Text.quoted s).toList)
    | 'a', .text s => some (st.writeText (asciiQuoted s))
    | 'c', .text s => if s.length = 1 then some (st.fill s.toList) else none
    | 's', .number n | 'r', .number n | 'a', .number n =>
      some (st.writeText (Nat.toDigits 10 n))
    | 'c', .number n => some (st.fill [Char.ofNat n])
    | 'd', .number n | 'i', .number n | 'u', .number n => some (st.writeWhole 10 [] n)
    | 'x', .number n => some (st.writeWhole 16 ['0', 'x'] n)
    | 'X', .number n => some ((st.writeWhole 16 ['0', 'X'] n).map Char.toUpper)
    | 'o', .number n => some (st.writeWhole 8 ['0', 'o'] n)
    | 'f', .number n | 'F', .number n => real (fixedDigits marked places n)
    | 'e', .number n => real (exponentDigits marked places n)
    | 'E', .number n => real ((exponentDigits marked places n).map Char.toUpper)
    | 'g', .number n => real (generalDigits marked places n)
    | 'G', .number n => real ((generalDigits marked places n).map Char.toUpper)
    | _, _ => none

def Part.write? (r : LogRecord) : Part → Option (List Char)
  | .literal cs => some cs
  | .field name st => (fieldValue? r (String.ofList name)).bind st.write?

/-- The line of a record in a format; `none` if the format does not fit it. -/
def line? (format : List Char) (r : LogRecord) : Option (List Char) :=
  match partsOf? format.length format with
  | some parts => (parts.mapM (Part.write? r)).map List.flatten
  | none => none

/-- The format that a line has if nothing else is asked for. -/
def plainFormat : String := "%(message)s"

end Docent.Log
