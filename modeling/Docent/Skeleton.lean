import Docent.Record
import Docent.Text.Blank

/-!
# Skeletons

A skeleton shows a declaration with its documentation around an empty body. No source text of a
body enters it.
-/

namespace Docent

def isBlankLine (line : List Char) : Bool := line.all Text.isBlank

/-- Indents by four blanks the lines of a displayed text that are not blank. -/
def indented (cs : List Char) : List Char :=
  (Text.displayLines cs).flatMap fun line =>
    if isBlankLine line then line else ' ' :: ' ' :: ' ' :: ' ' :: line

/-- A block that consists of a documentation string, if there is one, and an ellipsis. -/
def indentedBody (doc : Value) : String :=
  if doc.isTrue then
    String.ofList (indented ("\"\"\"" ++ doc.display ++ "\"\"\"").toList) ++ "\n\n    ..."
  else "    ..."

def docLines (doc : Value) : String :=
  if doc.isTrue then doc.display ++ "\n" else ""

def namespaceLines (space : Value) : String :=
  if space.isTrue then "namespace " ++ space.display ++ ";\n\n" else ""

/-- The skeleton of a class; `default` is the namespace of a class that stands outside of any. -/
def classSkeleton (c : ClassRecord) (default : Value) : String :=
  match c.language with
  | .php =>
    "<?php\n" ++ namespaceLines (c.enclosing.orElse default) ++ c.doc.display ++ "\nclass " ++
      c.name.display ++ " \x7b\n // ... \n\x7d"
  | .python => "class " ++ c.name.display ++ ":\n" ++ indentedBody c.doc
  | .javascript | .typescript =>
    docLines c.doc ++ "class " ++ c.name.display ++ " \x7b\n  // ...\n\x7d"

def methodSkeleton (m : MethodRecord) (language : Language) : String :=
  match language with
  | .php =>
    "<?php\n" ++ m.doc.display ++ "\npublic function " ++ m.name.display ++ "() \x7b\n // ... \n\x7d"
  | .python => "def " ++ m.name.display ++ "(self):\n" ++ indentedBody m.doc
  | .javascript | .typescript => docLines m.doc ++ m.name.display ++ "() \x7b\n  // ...\n\x7d"

end Docent
