import Docent.Text.CodeSet
import Docent.Text.NameTable.Aliases
import Docent.Text.NameTable.Letters
import Docent.Text.NameTable.Pictures
import Docent.Text.NameTable.Symbols

/-!
# Names of characters

The characters that have a Unicode name: Hangul syllables and unified ideographs by the rule that
makes their names, and by tables the Latin, Greek, Cyrillic and Hebrew letters, Kana, combining
marks, punctuation, symbols, pictures and control characters. The names of tables are found in
either case of letters. What `findFrom` finds has the name that was asked for
(`findFrom_eq_some`).
-/

namespace Docent.Text

namespace NameTable

/-! ### Tables of names -/

/-- The phrase that a small letter stands for in a table of names. -/
def phrase : Char → List Char
  | 'a' => "LATIN CAPITAL LETTER ".toList
  | 'b' => "LATIN SMALL LETTER ".toList
  | 'c' => "CYRILLIC CAPITAL LETTER ".toList
  | 'd' => "CYRILLIC SMALL LETTER ".toList
  | 'e' => "GREEK CAPITAL LETTER ".toList
  | 'f' => "GREEK SMALL LETTER ".toList
  | 'g' => "KATAKANA LETTER ".toList
  | 'h' => "HIRAGANA LETTER ".toList
  | 'i' => "COMBINING ".toList
  | 'j' => "CIRCLED ".toList
  | 'k' => " SYMBOL".toList
  | 'l' => "BLACK ".toList
  | 'm' => "FULLWIDTH LATIN ".toList
  | 'n' => "WHITE ".toList
  | 'o' => " BELOW".toList
  | 'p' => "PARENTHESIZED ".toList
  | 'q' => "APL FUNCTIONAL SYMBOL ".toList
  | 'r' => " SIGN".toList
  | 's' => " ABOVE".toList
  | 't' => "RIGHT".toList
  | 'u' => "INAL".toList
  | 'v' => "LEFT".toList
  | 'w' => " WITH ".toList
  | 'x' => "BOX DRAWINGS ".toList
  | 'y' => " AND ".toList
  | 'z' => " ARROW".toList
  | c => [c]

def spelledOut (name : List Char) : List Char := name.flatMap phrase

/-- The characters of a run, each with its names. -/
def entries (run : String) : List (List (List Char)) :=
  (pieces ';' run.toList).map fun e =>
    (pieces ',' (e.dropWhile fun c => c = ' ' ∨ c = '\n')).map spelledOut

/-- The code point of the first character with a name, when the first of all has number `n`. -/
def findFrom (name : List Char) (n : Nat) : List (List (List Char)) → Option Nat
  | [] => none
  | names :: rest => if names.contains name then some n else findFrom name (n + 1) rest

theorem findFrom_eq_some {name : List Char} {n m : Nat} {es : List (List (List Char))}
    (h : findFrom name n es = some m) :
    n ≤ m ∧ ∃ names, es[m - n]? = some names ∧ name ∈ names := by
  induction es generalizing n with
  | nil => simp [findFrom] at h
  | cons names rest ih =>
    rw [findFrom] at h
    split at h
    · next hc =>
      obtain rfl := Option.some.inj h
      exact ⟨Nat.le_refl _, names, by simp, by simpa using hc⟩
    · obtain ⟨hle, ns, hget, hmem⟩ := ih h
      refine ⟨by omega, ns, ?_, hmem⟩
      rw [show m - n = (m - (n + 1)) + 1 by omega, List.getElem?_cons_succ]
      exact hget

def find? (name : List Char) : Option Nat :=
  (aliases ++ letters ++ symbols ++ pictures).findSome? fun (first, run) =>
    findFrom name first (entries run)

end NameTable

/-! ### Names made by rule -/

def openings : List String :=
  ["G", "GG", "N", "D", "DD", "R", "M", "B", "BB", "S", "SS", "", "J", "JJ", "C", "K", "T", "P",
    "H"]

def vowels : List String :=
  ["A", "AE", "YA", "YAE", "EO", "E", "YEO", "YE", "O", "WA", "WAE", "OE", "YO", "U", "WEO", "WE",
    "WI", "YU", "EU", "YI", "I"]

def closings : List String :=
  ["", "G", "GG", "GS", "N", "NJ", "NH", "D", "L", "LG", "LM", "LB", "LS", "LT", "LP", "LH", "M",
    "B", "BS", "S", "SS", "NG", "J", "C", "K", "T", "P", "H"]

/-- The longest sound that a name opens with, as its number, and the rest of the name. -/
def sound? (sounds : List String) (name : List Char) : Option (Nat × List Char) :=
  let fitting := sounds.zipIdx.filter fun s => s.1.toList.isPrefixOf name
  let longest := fitting.foldl
    (fun best s => if best.all fun b => b.1.length < s.1.length then some s else best) none
  longest.map fun s => (s.2, name.drop s.1.length)

def syllable? (name : List Char) : Option Nat := do
  let (l, name) ← sound? openings name
  let (v, name) ← sound? vowels name
  let (t, name) ← sound? closings name
  if name.isEmpty then some (0xAC00 + (l * 21 + v) * 28 + t) else none

/-- The first and last code points of the unified ideographs. -/
def ideographs : List (Nat × Nat) :=
  [(0x3400, 0x4DBF), (0x4E00, 0x9FFF), (0x20000, 0x2A6DF), (0x2A700, 0x2B738), (0x2B740, 0x2B81D),
    (0x2B820, 0x2CEA1), (0x2CEB0, 0x2EBE0), (0x30000, 0x3134A)]

/-- The code point of a unified ideograph by the four or five digits of its name. -/
def ideograph? (digits : List Char) : Option Nat :=
  let n := hexValue digits
  if (digits.length = 4 ∨ digits.length = 5) ∧
      digits.all (fun c => '0' ≤ c ∧ c ≤ '9' ∨ 'A' ≤ c ∧ c ≤ 'F') ∧
      ideographs.any (fun r => r.1 ≤ n ∧ n ≤ r.2) then some n
  else none

def after? (phrase : String) (name : List Char) : Option (List Char) :=
  if phrase.toList.isPrefixOf name then some (name.drop phrase.length) else none

def characterNamed? (name : List Char) : Option Char :=
  let code :=
    match after? "HANGUL SYLLABLE " name with
    | some sounds => syllable? sounds
    | none =>
      match after? "CJK UNIFIED IDEOGRAPH-" name with
      | some digits => ideograph? digits
      | none => NameTable.find? (name.map Char.toUpper)
  code.map Char.ofNat

end Docent.Text
