import Docent.Route

/-!
# Source languages

The languages whose classes are documented, told apart by the suffix of a file.
-/

namespace Docent

inductive Language
  | php
  | python
  | javascript
  | typescript
deriving DecidableEq, Repr

namespace Language

/-- The name of a language in records and in fenced code. -/
def name : Language → String
  | php => "php"
  | python => "python"
  | javascript => "javascript"
  | typescript => "typescript"

def label : Language → String
  | php => "PHP"
  | python => "Python"
  | javascript => "JavaScript"
  | typescript => "TypeScript"

def ofName? (s : String) : Option Language :=
  if s = "php" then some php
  else if s = "python" then some python
  else if s = "javascript" then some javascript
  else if s = "typescript" then some typescript
  else none

def suffixes : List (String × Language) :=
  [(".php", php), (".py", python), (".js", javascript), (".jsx", javascript),
    (".mjs", javascript), (".ts", typescript), (".tsx", typescript)]

def ofSuffix? (suffix : String) : Option Language := suffixes.lookup suffix

def ofPath? (path : String) : Option Language := ofSuffix? (Route.ofText path).suffix

end Language

end Docent
