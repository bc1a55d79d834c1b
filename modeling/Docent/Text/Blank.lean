/-!
# Blank characters and line boundaries

The characters that count as white space at the ends of a text, the removal of such ends, and the
larger set of characters at which a text breaks into lines.
-/

namespace Docent.Text

/-- White space: the blanks of ASCII with the four separators below the space, and the space
separators, line and paragraph marks of Unicode. -/
def isBlank (c : Char) : Bool :=
  let n := c.toNat
  (9 ≤ n && n ≤ 13) || (28 ≤ n && n ≤ 32) || n = 0x85 || n = 0xA0 || n = 0x1680 ||
    (0x2000 ≤ n && n ≤ 0x200A) || n = 0x2028 || n = 0x2029 || n = 0x202F || n = 0x205F ||
    n = 0x3000

def trimBy (p : Char → Bool) (cs : List Char) : List Char :=
  ((cs.dropWhile p).reverse.dropWhile p).reverse

def strip (s : String) : String :=
  String.ofList (trimBy isBlank s.toList)

def isLineEnd (c : Char) : Bool :=
  let n := c.toNat
  (10 ≤ n && n ≤ 13) || (28 ≤ n && n ≤ 30) || n = 0x85 || n = 0x2028 || n = 0x2029

/-- Splits displayed text into lines that keep their ends; a carriage return with the line feed
after it is one end. -/
def displayLines : List Char → List (List Char)
  | [] => []
  | '\r' :: '\n' :: cs => ['\r', '\n'] :: displayLines cs
  | c :: cs =>
    if isLineEnd c then [c] :: displayLines cs
    else
      match displayLines cs with
      | [] => [[c]]
      | l :: ls => (c :: l) :: ls

end Docent.Text
