import Docent.Grammar.Indented.Expression

/-!
# Patterns of indentation-structured sources

The rules for the patterns of `match` statements.
-/

namespace Docent.Indented

open Reader

variable (self : Rule → Reader Forest)

/-- A number that is, or is not, imaginary; the other kind is refused. -/
def numberOfKind (imaginary : Bool) : Reader Forest := do
  let t ← peek
  let a ← numberLiteral
  let isImaginary := t.text.getLast? = some 'j' ∨ t.text.getLast? = some 'J'
  if isImaginary ↔ imaginary = true then return a
  else refuse (if imaginary then .imaginaryNumberRequired else .realNumberRequired) t.line

def signedNumber : Reader Forest := numberLiteral <|> (sym "-" ++ numberLiteral)

def signedRealNumber : Reader Forest :=
  numberOfKind false <|> (sym "-" ++ numberOfKind false)

def complexNumber : Reader Forest :=
  (signedRealNumber ++ sym "+" ++ numberOfKind true) <|>
    (signedRealNumber ++ sym "-" ++ numberOfKind true)

/-- A literal as a pattern or as a key of a mapping pattern. -/
def literalPattern : Reader Forest :=
  (signedNumber ++ absent (anySym ["+", "-"])) <|> complexNumber <|> self .strings <|>
    anySym ["None", "True", "False"]

def captureTarget : Reader Forest :=
  absent (word "_") ++ name .token ++ absent (anySym [".", "(", "="])

def dottedAttribute : Reader Forest := name .token ++ many1 (sym "." ++ name .token)

def nameOrAttribute : Reader Forest := name .token ++ many (sym "." ++ name .token)

def maybeStarPattern : Reader Forest := self .starPattern <|> self .pattern

def maybeSequencePattern : Reader Forest :=
  sepBy (maybeStarPattern self) (sym ",") ++ opt (sym ",")

def openSequencePatternRule : Reader Forest :=
  maybeStarPattern self ++ sym "," ++ opt (maybeSequencePattern self)

def starPatternRule : Reader Forest := (sym "*" ++ captureTarget) <|> (sym "*" ++ word "_")

def sequencePattern : Reader Forest :=
  (sym "[" ++ opt (maybeSequencePattern self) ++ sym "]") <|>
    (sym "(" ++ opt (self .openSequencePattern) ++ sym ")")

def keyValuePattern : Reader Forest :=
  (literalPattern self <|> dottedAttribute) ++ sym ":" ++ self .pattern

def mappingPattern : Reader Forest :=
  let items := sepBy (keyValuePattern self) (sym ",")
  let rest := sym "**" ++ captureTarget
  (sym "\x7b" ++ sym "\x7d") <|>
    (sym "\x7b" ++ rest ++ opt (sym ",") ++ sym "\x7d") <|>
    (sym "\x7b" ++ items ++ sym "," ++ rest ++ opt (sym ",") ++ sym "\x7d") <|>
    (sym "\x7b" ++ items ++ opt (sym ",") ++ sym "\x7d")

def positionalPatterns : Reader Forest := sepBy (self .pattern) (sym ",")

def keywordPatterns : Reader Forest :=
  sepBy (name .token ++ sym "=" ++ self .pattern) (sym ",")

def classPattern : Reader Forest :=
  (nameOrAttribute ++ sym "(" ++ sym ")") <|>
    (nameOrAttribute ++ sym "(" ++ positionalPatterns self ++ opt (sym ",") ++ sym ")") <|>
    (nameOrAttribute ++ sym "(" ++ keywordPatterns self ++ opt (sym ",") ++ sym ")") <|>
    (nameOrAttribute ++ sym "(" ++ positionalPatterns self ++ sym "," ++ keywordPatterns self ++
      opt (sym ",") ++ sym ")") <|>
    explaining (do
      let _ ← nameOrAttribute ++ sym "(" ++ opt (positionalPatterns self ++ sym ",") ++
        keywordPatterns self ++ sym ","
      let l ← line
      let _ ← positionalPatterns self
      refuse .positionalPatternAfterKeyword l)

def closedPatternRule : Reader Forest :=
  literalPattern self <|> captureTarget <|> word "_" <|>
    (dottedAttribute ++ absent (anySym [".", "(", "="])) <|>
    (sym "(" ++ self .pattern ++ sym ")") <|>
    sequencePattern self <|> mappingPattern self <|> classPattern self

def orPattern : Reader Forest := sepBy (self .closedPattern) (sym "|")

def explainAsPattern : Reader Forest :=
  explaining (do
      let _ ← orPattern self ++ sym "as"
      let l ← line
      let _ ← word "_"
      refuse .wildcardTarget l) <|>
    explaining (do
      let _ ← orPattern self ++ sym "as" ++ absent (name .token)
      let l ← line
      let a ← self .expression
      refuseAt .patternTarget l a)

def patternRule : Reader Forest :=
  (orPattern self ++ sym "as" ++ captureTarget) <|> explainAsPattern self <|> orPattern self

def patterns : Reader Forest := self .openSequencePattern <|> self .pattern

end Docent.Indented
