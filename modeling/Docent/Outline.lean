import Docent.Tree

/-!
# Outlines of the classes in a source tree

An outline tells of a class or a method what the document needs: its name, its documentation and
its lines. `classOutlines` lists the classes of a tree in pre-order, wherever they are nested; the
methods of a class are those that stand directly in its own body. Which nodes of a language are
classes, how it attaches documentation to a declaration, and on which line a declaration begins, is
a `Convention`.
-/

namespace Docent

structure MethodOutline where
  name : String
  doc : String
  startLine : Nat
  endLine : Nat
deriving DecidableEq, Repr

structure ClassOutline where
  name : String
  doc : String
  methods : List MethodOutline
  enclosing : Option String
  startLine : Nat
  endLine : Nat
deriving DecidableEq, Repr

open Docent.Tree (Site)

/-- Which nodes of a language declare classes, how it documents a declaration and where a
declaration begins. -/
structure Convention where
  classKinds : List Kind
  doc : Site → String
  startLine : Site → Nat
  name : List Char → List Char

namespace Convention

variable (conv : Convention)

def nameOf? (s : Site) : Option String :=
  (s.tree.part? .name).map fun t => String.ofList (conv.name t.text)

def methodOutline? (s : Site) : Option MethodOutline :=
  (conv.nameOf? s).map fun name => ⟨name, conv.doc s, conv.startLine s, s.endLine⟩

def methodOutlines (s : Site) : List MethodOutline :=
  match s.part? .body with
  | none => []
  | some body => (body.parts.filter (·.tree.kind = .method)).filterMap conv.methodOutline?

def classOutline? (enclosing : Option String) (s : Site) : Option ClassOutline :=
  (conv.nameOf? s).map fun name =>
    ⟨name, conv.doc s, conv.methodOutlines s, enclosing, conv.startLine s, s.endLine⟩

/-- The outlines of the classes among nodes in pre-order; `enclosing` is the namespace that was
opened last. -/
def outlinesFrom (enclosing : Option String) : List Site → List ClassOutline
  | [] => []
  | s :: ss =>
    if s.tree.kind = .namespaceDecl then outlinesFrom (conv.nameOf? s) ss
    else if s.tree.kind ∈ conv.classKinds then
      (conv.classOutline? enclosing s).toList ++ outlinesFrom enclosing ss
    else outlinesFrom enclosing ss

/-- The outlines of the classes of a source tree, in pre-order. -/
def classOutlines (t : Tree) : List ClassOutline :=
  conv.outlinesFrom none t.sites

end Convention

/-! ### Documentation by block comments -/

def isDocBlock (comment : List Char) : Bool :=
  ['/', '*', '*'].isPrefixOf comment

/-- The nearest documentation block in the run of comments that ends a reversed list of
siblings; marks and gaps between the comments do not end the run. -/
def nearestDocBlock (before : List Tree) : Option (List Char) :=
  (((before.filter (·.kind.isNamed)).takeWhile (·.kind = .comment)).map Tree.text).find? isDocBlock

/-- What stands before a declaration; for a declaration directly under an export, what stands
before the export. -/
def declarationContext (s : Site) : List Tree :=
  match s.outer with
  | some (.exportDecl, before) => before
  | _ => s.before

/-- Declarations are documented by the block comment before them and begin with their first
mark. -/
def Convention.blockComments (classKinds : List Kind) : Convention where
  classKinds
  doc s := String.ofList ((nearestDocBlock (declarationContext s)).getD [])
  startLine s := s.line
  name cs := cs

end Docent
