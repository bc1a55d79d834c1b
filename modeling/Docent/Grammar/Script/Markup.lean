import Docent.Grammar.Script.Rule

/-!
# Markup between expressions

Elements with attributes and children, as they stand among the expressions of a script. The text
between tags is taken as it is: nothing in it is a comment or a word.
-/

namespace Docent.Script

open Scan Scan.Reader

variable (d : Dialect) (self : Rule → Part)

def entity : Shape :=
  let isLetter (c : Char) : Bool := ('a' ≤ c && c ≤ 'z') || ('A' ≤ c && c ≤ 'Z')
  .char '&' ++
    ((.char '#' ++ .one (fun c => c = 'x' || c = 'X') ++ .one isHexDigit ++ .upTo 5 (.one isHexDigit)) <|>
      (.char '#' ++ .one isDigit ++ .upTo 4 (.one isDigit)) <|>
      (.one isLetter ++ .upTo 29 (.one isLetter))) ++ .char ';'

def markupText : Shape := .many1 (.one fun c => !"<>&\x7b\x7d".toList.contains c)

def attributeText (q : Char) : Shape :=
  let isSpecial (c : Char) : Bool :=
    c = '#' || ('a' ≤ c && c ≤ 'z') || ('A' ≤ c && c ≤ 'Z')
  let plain : Shape := .many1 (.one (fun c => !(c = q || c = '&')) <|>
    (.char '&' ++ .one (!isSpecial ·)))
  .char q ++ .many (plain <|> entity) ++ .char q

def markupName : Shape :=
  let isStart (c : Char) : Bool :=
    ('a' ≤ c && c ≤ 'z') || ('A' ≤ c && c ≤ 'Z') || c = '_' || c = '$'
  let part : Shape := .many (.one fun c => isStart c || isDigit c)
  .longer (.one isStart ++ part ++ .char '-' ++ .many (.one fun c => isStart c || isDigit c || c = '-'))
    wordShape

def embedded : Part :=
  let spread := sym "..." ++ self (.expression .inner)
  opt (spread <|> self (.sequence .inner)) ++ sym "\x7d"

def elementName : Part :=
  let simple := tokenOf markupName .item
  (simple ++ sym ":" ++ simple) <|> (simple ++ many (sym "." ++ named .item))

def markupAttribute : Part :=
  let simple := tokenOf markupName .item
  let value := tokenOf (attributeText '"' <|> attributeText '\'') .item <|>
    (sym "\x7b" ++ embedded self) <|> self .markup
  (sym "\x7b" ++ embedded self) <|>
    (simple ++ opt (sym ":" ++ simple) ++ opt (sym "=" ++ value))

def child : Part :=
  rawTokenOf (markupText <|> entity) .item <|>
    (rawTokenOf (.char '\x7b') .token ++ embedded self) <|>
    (absent (sym "</") ++ self .markup)

def children : Part := many (child self) ++ sym "</" ++ opt (elementName) ++ sym ">"

def markupRule : Part :=
  let arguments := if d.types then opt (self .typeArguments) else pure []
  let opening := elementName ++ arguments ++ many (markupAttribute self)
  node .item
    ((sym "<" ++ sym ">" ++ children self) <|>
      (sym "<" ++ opening ++ ((sym "/" ++ sym ">") <|> (sym ">" ++ children self))))

end Docent.Script
