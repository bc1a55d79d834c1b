import Docent.Value

/-!
# Printing JSON

Values as JSON text in ASCII: on one line, or spread over lines with two blanks a level. Characters
beyond ASCII are written as one or two units of sixteen bits.
-/

namespace Docent.Json

def unitEscape (n : Nat) : List Char := '\\' :: 'u' :: Text.hexDigits 4 n

def printChar (c : Char) : List Char :=
  if c = '"' then ['\\', '"']
  else if c = '\\' then ['\\', '\\']
  else if c = '\n' then ['\\', 'n']
  else if c = '\r' then ['\\', 'r']
  else if c = '\t' then ['\\', 't']
  else if c.toNat = 8 then ['\\', 'b']
  else if c.toNat = 12 then ['\\', 'f']
  else if 32 ≤ c.toNat ∧ c.toNat < 127 then [c]
  else if c.toNat < 0x10000 then unitEscape c.toNat
  else
    unitEscape (0xD800 + (c.toNat - 0x10000) / 0x400) ++
      unitEscape (0xDC00 + (c.toNat - 0x10000) % 0x400)

def printText (s : String) : List Char :=
  '"' :: s.toList.flatMap printChar ++ ['"']

def printFloat (x : Binary64) : String :=
  match x with
  | .nan => "NaN"
  | .infinite false => "Infinity"
  | .infinite true => "-Infinity"
  | x => x.text

def printInt : Int → List Char
  | .ofNat n => Nat.toDigits 10 n
  | .negSucc n => '-' :: Nat.toDigits 10 (n + 1)

def printKey : Value → List Char
  | .text s => printText s
  | .null => printText "null"
  | .bool b => printText (if b then "true" else "false")
  | v => printText v.display

/-- Where the parts of a list or an object stand: `none` on one line, `some n` on lines of their
own, indented by `n` blanks. -/
abbrev Margin := Option Nat

def Margin.deeper : Margin → Margin := Option.map (· + 2)

def Margin.break : Margin → List Char
  | none => []
  | some n => '\n' :: List.replicate n ' '

def Margin.colon : Margin → List Char
  | none => [':']
  | some _ => [':', ' ']

mutual

def printIn (m : Margin) : Value → List Char
  | .null => ['n', 'u', 'l', 'l']
  | .bool true => ['t', 'r', 'u', 'e']
  | .bool false => ['f', 'a', 'l', 's', 'e']
  | .int i => printInt i
  | .float x => (printFloat x).toList
  | .text s => printText s
  | .list [] => ['[', ']']
  | .list (v :: vs) =>
    '[' :: m.deeper.break ++ printIn m.deeper v ++ printItems m.deeper vs ++ m.break ++ [']']
  | .dict [] => ['\x7b', '\x7d']
  | .dict ((k, v) :: es) =>
    '\x7b' :: m.deeper.break ++ printKey k ++ m.colon ++ printIn m.deeper v ++
      printEntries m.deeper es ++ m.break ++ ['\x7d']
  | .bytes bs => printText (Value.quotedBytes bs)
  | .members vs => printText (Value.quoted (.members vs))
  | .day d => printText d.text
  | .moment d => printText (d.textWith "T")

def printItems (m : Margin) : List Value → List Char
  | [] => []
  | v :: vs => ',' :: m.break ++ printIn m v ++ printItems m vs

def printEntries (m : Margin) : List (Value × Value) → List Char
  | [] => []
  | (k, v) :: es => ',' :: m.break ++ printKey k ++ m.colon ++ printIn m v ++ printEntries m es

end

def compact (v : Value) : String := String.ofList (printIn none v)

def pretty (v : Value) : String := String.ofList (printIn (some 0) v)

end Docent.Json
