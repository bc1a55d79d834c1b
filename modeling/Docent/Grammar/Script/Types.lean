import Docent.Grammar.Script.Rule

/-!
# Types in scripts

The rules for the types that annotate scripts: unions, intersections, functions, objects, tuples,
conditional and mapped types, and the parameters and arguments of types.
-/

namespace Docent.Script

open Scan Scan.Reader

variable (d : Dialect) (self : Rule → Part)

def accessWords : List String := ["public", "private", "protected"]

/-- What follows a word that modifies a member: the beginning of a name. -/
def memberAhead : Part :=
  ahead (named .item <|> tokenOf string .item <|> tokenOf number .item <|> tokenOf privateName .item <|>
    sym "[")

/-- A word that modifies a member if the name follows it. -/
def modifier (breaks : Bool) (s : String) : Part := leadWord d breaks s ++ memberAhead

/-- A word that modifies a member if a name or a star follows it. -/
def starModifier (breaks : Bool) (s : String) : Part :=
  leadWord d breaks s ++ (ahead (sym "*") <|> memberAhead)

def anyModifier (breaks : Bool) : List String → Part
  | [] => fail
  | s :: ss => modifier d breaks s <|> anyModifier breaks ss

/-- One of several words that modify a member, before a name or a star. -/
def anyStarModifier (breaks : Bool) : List String → Part
  | [] => fail
  | s :: ss => starModifier d breaks s <|> anyStarModifier breaks ss

def typeMark (breaks : Bool) : Part := node .item (sym ":" ++ self (.type breaks))

def predicate (breaks : Bool) : Part := named .item ++ word "is" ++ self (.type breaks)

/-- The result of a function: a type or a condition on an argument. -/
def resultType (breaks : Bool) : Part :=
  (leadWord d breaks "asserts" ++ (predicate self breaks <|> named .item)) <|>
    predicate self breaks <|> self (.type breaks)

def signatureRule (breaks result : Bool) : Part :=
  if d.types then
    opt (self .typeParameters) ++ self .parameters ++
      (if result then opt (node .item (sym ":" ++ resultType d self breaks)) else pure [])
  else self .parameters

def dottedNames : Part := sepBy (named .item) (sym ".")

def typeArgumentsRule : Part :=
  node .item (sym "<" ++ commaList (self (.type false)) ++ sym ">")

def typeParametersRule : Part :=
  let bound := (word "extends" <|> sym ":") ++ self (.type false)
  let param := opt (word "const" ++ ahead (named .item)) ++ named .item ++ opt bound ++
    opt (sym "=" ++ self (.type false))
  node .item (sym "<" ++ commaList (node .item param) ++ sym ">")

def typeMember : Part :=
  let mapped := named .item ++ word "in" ++ self (.type false) ++
    opt (word "as" ++ self (.type false))
  let index := opt (opt (anySym ["-", "+"]) ++ word "readonly") ++ sym "[" ++
    ((named .item ++ sym ":" ++ self (.type false)) <|> mapped) ++ sym "]" ++
    opt (anySym ["?:", "-?:", "+?:", ":"] ++ self (.type true))
  let construct := opt (word "abstract") ++ word "new" ++ opt (self .typeParameters) ++
    self .parameters ++ opt (typeMark self true)
  let modifiers := opt (anyModifier d true accessWords) ++ opt (modifier d true "static") ++
    opt (modifier d true "override") ++ opt (modifier d true "readonly")
  let head := opt (starModifier d true "async") ++
    opt (modifier d true "get" <|> modifier d true "set" <|> sym "*")
  let method := modifiers ++ head ++ self .propertyName ++ opt (sym "?") ++
    self (.signature true true)
  let property := modifiers ++ self .propertyName ++ opt (sym "?") ++ opt (typeMark self true)
  node .item (index <|> construct <|> self (.signature true true) <|> method <|> property)

def objectTypeRule : Part :=
  let separator := sym "," <|> semicolon d false
  let members := opt (sym "," <|> sym ";") ++ typeMember d self ++
    many (separator ++ typeMember d self) ++ opt separator
  node .item ((sym "\x7b|" ++ opt members ++ sym "|\x7d") <|>
    (sym "\x7b" ++ opt members ++ sym "\x7d"))

def tupleMember : Part :=
  let type := self (.type false)
  (opt (sym "...") ++ named .item ++ opt (sym "?") ++ typeMark self false) <|>
    (sym "..." ++ type) <|> (type ++ opt (sym "?"))

def templateType : Part :=
  let hole := rawTokenOf (.exactly "$\x7b") .token ++ self (.type false) ++ sym "\x7d"
  tokenOf (.char '`') .token ++
    many (rawTokenOf (templateText <|> escape) .token <|> hole) ++ rawTokenOf (.char '`') .token

def queried : Part :=
  let import' := word "import" ++ sym "(" ++ looseList (self (.expression .inner)) ++ sym ")"
  extend (import' <|> named .item) fun f =>
    (f ++ ·) <$> ((sym "." ++ (named .item <|> tokenOf privateName .item)) <|>
      (symBut "?." ['0', '1', '2', '3', '4', '5', '6', '7', '8', '9'] ++ named .item))

def typeOperand (breaks : Bool) : Part :=
  let type := self (.type breaks)
  let function := opt (self .typeParameters) ++ self .parameters ++ sym "=>" ++
    resultType d self breaks
  let constructor := opt (word "abstract") ++ word "new" ++ opt (self .typeParameters) ++
    self .parameters ++ sym "=>" ++ type
  let infer := word "infer" ++ named .item ++ opt (word "extends" ++ type)
  let query := word "typeof" ++ queried self ++ opt (self .typeArguments)
  let imported := word "import" ++ sym "(" ++ looseList (self (.expression .inner)) ++ sym ")" ++
    many (sym "." ++ named .item) ++ opt (self .typeArguments)
  function <|> constructor <|> infer <|>
    (word "readonly" ++ goesOn d breaks false ++ type) <|> query <|>
    (word "keyof" ++ goesOn d breaks false ++ self (.type breaks)) <|>
    (word "unique" ++ word "symbol") <|> imported <|>
    (sym "(" ++ self (.type false) ++ sym ")") <|>
    self .objectType <|>
    (sym "[" ++ opt (commaList (tupleMember self)) ++ sym "]") <|>
    templateType self <|> stringPart <|>
    (opt (anySym ["-", "+"]) ++ tokenOf number .item) <|>
    sym "*" <|> (sym "?" ++ type) <|>
    (dottedNames ++ opt (self .typeArguments))

def typeTail (breaks : Bool) : Part :=
  goesOn d breaks false ++
    ((symBut "|" ['|', '\x7d'] ++ typeOperand d self breaks) <|>
      (symBut "&" ['&'] ++ typeOperand d self breaks) <|>
      (sym "[" ++ opt (self (.type false)) ++ sym "]") <|>
      (word "extends" ++ self (.type breaks) ++ sym "?" ++ self (.type false) ++ sym ":" ++
        self (.type breaks)))

def typeRule (breaks : Bool) : Part :=
  node .item (opt (anySym ["|", "&"]) ++ typeOperand d self breaks ++ many (typeTail d self breaks))

end Docent.Script
