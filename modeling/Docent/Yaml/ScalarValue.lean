import Docent.Text.Base64
import Docent.Value.Number
import Docent.Yaml.Tag

/-!
# Values of scalars

The value that the text of a scalar has under a tag: a truth value, a number, a date, bytes.
-/

namespace Docent.Yaml

/-- Why a text has no value under its tag. -/
inductive TextFault
  | number (e : NumberFault)
  | notATruthWord (word : String)
  | emptyNumber
  | notAStamp
  | stampOfMapping
  | outOfRange (problem : String)
  | notAscii (problem : String)
  | notBase64 (e : Base64.Fault)

/-! ### Truth values and numbers -/

def truthOf (cs : List Char) : Except TextFault Bool :=
  let word := String.ofList (cs.map Char.toLower)
  if ["yes", "true", "on"].contains word then .ok true
  else if ["no", "false", "off"].contains word then .ok false
  else .error (.notATruthWord word)

def wholeIn (base : Nat) (cs : List Char) : Except TextFault Int :=
  (wholeOf base cs (.text (String.ofList cs))).mapError .number

def realIn (cs : List Char) : Except TextFault Binary64 :=
  (realOf cs (.text (String.ofList cs))).mapError .number

/-- A text without underscores, and whether a minus sign was taken off it. -/
def signedText (cs : List Char) : Bool × List Char :=
  let cs := cs.filter (· != '_')
  (cs.head? = some '-', unsigned cs)

/-- The unsigned whole number of a text: in base two, sixteen, eight, sixty or ten. -/
def unsignedWhole (cs : List Char) : Except TextFault Int :=
  match cs with
  | [] => .error .emptyNumber
  | ['0'] => .ok 0
  | '0' :: 'b' :: ds => wholeIn 2 ds
  | '0' :: 'x' :: ds => wholeIn 16 ds
  | '0' :: _ => wholeIn 8 cs
  | _ =>
    if cs.contains ':' then do
      let parts ← (colonParts cs).mapM (wholeIn 10)
      return parts.foldl (fun n part => n * 60 + part) 0
    else wholeIn 10 cs

def wholeNumber (cs : List Char) : Except TextFault Int :=
  let (negative, digits) := signedText cs
  (unsignedWhole digits).map fun n => if negative then -n else n

/-- The sum of parts in base sixty, from the last one on; each product and sum is rounded. -/
def sumOfSixtieths : Nat → Binary64 → List Binary64 → Except TextFault Binary64
  | _, sum, [] => .ok sum
  | k, sum, x :: xs => do
    let base ← (realOfInt (Int.ofNat (Nat.pow 60 k))).mapError .number
    sumOfSixtieths (k + 1) (sum.add (x.mul base)) xs

def unsignedReal (cs : List Char) : Except TextFault Binary64 :=
  if cs = ['.', 'i', 'n', 'f'] then .ok (.infinite false)
  else if cs = ['.', 'n', 'a', 'n'] then .ok .nan
  else if cs.contains ':' then do
    let parts ← (colonParts cs).mapM realIn
    sumOfSixtieths 0 (.zero false) parts.reverse
  else realIn cs

/-- The real number of a text; a sign without digits is a text that writes no number. -/
def realNumber (cs : List Char) : Except TextFault Binary64 :=
  if cs.all (· = '_') then .error .emptyNumber
  else
    let (negative, digits) := signedText (cs.map Char.toLower)
    (unsignedReal digits).map fun x => if negative then x.neg else x

/-! ### Dates -/

def inRange (n low high : Nat) (problem : String) : Except TextFault Unit :=
  if low ≤ n ∧ n ≤ high then .ok () else .error (.outOfRange problem)

def dayOf (year month day : Nat) : Except TextFault Day := do
  inRange year 1 9999 s!"year {year} is out of range"
  inRange month 1 12 "month must be in 1..12"
  inRange day 1 (daysInMonth year month) "day is out of range for month"
  return ⟨year, month, day⟩

def spanText (seconds : Int) : String :=
  let days := seconds / 86400
  let rest := seconds % 86400
  let parts :=
    (if days = 0 then [] else [s!"days={days}"]) ++ (if rest = 0 then [] else [s!"seconds={rest}"])
  "datetime.timedelta(" ++ (if parts.isEmpty then "0" else String.intercalate ", " parts) ++ ")"

/-- A distance from universal time in minutes, which is less than a day. -/
def offsetOf (negative : Bool) (hour minute : Nat) : Except TextFault Int :=
  let n : Int := hour * 60 + minute
  let minutes := if negative then -n else n
  if n < 1440 then .ok minutes
  else
    .error (.outOfRange <|
      "offset must be a timedelta strictly between -timedelta(hours=24) and " ++
        "timedelta(hours=24), not " ++ spanText (minutes * 60) ++ ".")

/-- The millionths of a second that the digits after a point write; further digits are left out. -/
def microseconds (digits : List Char) : Nat :=
  let six := digits.take 6
  Numeral.decimalValue (six ++ List.replicate (6 - six.length) '0')

/-- A text without a line feed at its end. -/
def withoutFinalLineFeed (cs : List Char) : List Char :=
  if cs.getLast? = some '\n' then cs.dropLast else cs

/-- The day or the moment that a text writes, with or without a line feed after it. -/
def dateOf (cs : List Char) : Except TextFault Value :=
  match stamp? (withoutFinalLineFeed cs) with
  | none => .error .notAStamp
  | some s => do
    let year := Numeral.decimalValue s.year
    let month := Numeral.decimalValue s.month
    let day := Numeral.decimalValue s.day
    match s.time with
    | none => return .day (← dayOf year month day)
    | some (h, m, sec, fraction) =>
      let offset ←
        match s.zone with
        | none => pure none
        | some none => pure (some 0)
        | some (some (negative, zh, zm)) =>
          some <$> offsetOf negative (Numeral.decimalValue zh) (Numeral.decimalValue zm)
      let hour := Numeral.decimalValue h
      let minute := Numeral.decimalValue m
      let second := Numeral.decimalValue sec
      let d ← dayOf year month day
      inRange hour 0 23 "hour must be in 0..23"
      inRange minute 0 59 "minute must be in 0..59"
      inRange second 0 59 "second must be in 0..59"
      return .moment ⟨d, hour, minute, second, microseconds fraction, offset⟩

/-! ### Bytes -/

def asciiProblem (cs : List Char) : String :=
  let start := (cs.takeWhile fun c => c.toNat < 128).length
  let stretch := (cs.drop start).takeWhile fun c => 128 ≤ c.toNat
  let place :=
    match stretch with
    | [c] => "character '" ++ String.ofList (Text.codeEscape c) ++ s!"' in position {start}"
    | _ => s!"characters in position {start}-{start + stretch.length - 1}"
  s!"'ascii' codec can't encode {place}: ordinal not in range(128)"

def bytesOf (cs : List Char) : Except TextFault Value :=
  if cs.all fun c => c.toNat < 128 then
    ((Base64.decode cs).map Value.bytes).mapError .notBase64
  else .error (.notAscii (asciiProblem cs))

/-- The standard tags of scalars, each with the way to its values. -/
def scalarReaders : List (String × (List Char → Except TextFault Value)) :=
  [("null", fun _ => .ok .null),
    ("bool", fun cs => (truthOf cs).map .bool),
    ("int", fun cs => (wholeNumber cs).map .int),
    ("float", fun cs => (realNumber cs).map .float),
    ("binary", bytesOf),
    ("timestamp", dateOf),
    ("str", fun cs => .ok (.text (String.ofList cs)))]

end Docent.Yaml
