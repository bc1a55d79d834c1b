/-!
# Source trees

A parsed source text of any language is a tree whose leaves, read from left to right, are the text:
nothing is dropped, blanks and comments are leaves of their own. `Tree.text` reads the leaves back,
`Tree.sites` walks through all nodes with a stack and tells of each the line on which it begins and
what stands before it. Main statement: the walk meets the nodes in pre-order.
-/

namespace Docent

/-- The forms of an expression that a diagnostic may have to name. -/
inductive Form
  | variable | attribute | subscript | starred | slice
  | list | tuple | set | dict
  | listComp | setComp | dictComp | generator
  | lambda | call | operation | comparison | conditional | assigned
  | yielding | awaiting
  | noneLit | trueLit | falseLit | ellipsis | number | string | bytes | formatted
  | group
deriving DecidableEq, Repr

/-- What a node of a source tree stands for. A `passage` is text between two stretches of code; a
node whose kind matters to nobody is an `item`. -/
inductive Kind
  | blank | comment | passage | token
  | name | classDecl | abstractClassDecl | body | method
  | namespaceDecl | exportDecl | decorator
  | form (f : Form)
  | item
deriving DecidableEq, Repr

namespace Kind

/-- Whether a node of this kind is a construct of the language, not only a mark or a gap. -/
def isNamed : Kind → Bool
  | .blank | .token => false
  | _ => true

end Kind

inductive Tree
  | leaf (kind : Kind) (text : List Char)
  | node (kind : Kind) (kids : List Tree)
deriving Repr

abbrev Forest := List Tree

namespace Tree

def kind : Tree → Kind
  | leaf k _ => k
  | node k _ => k

def kids : Tree → List Tree
  | leaf _ _ => []
  | node _ ts => ts

mutual

def text : Tree → List Char
  | leaf _ cs => cs
  | node _ ts => textOfList ts

def textOfList : List Tree → List Char
  | [] => []
  | t :: ts => text t ++ textOfList ts

end

mutual

def newlines : Tree → Nat
  | leaf _ cs => cs.count '\n'
  | node _ ts => newlinesOfList ts

def newlinesOfList : List Tree → Nat
  | [] => 0
  | t :: ts => newlines t + newlinesOfList ts

end

mutual

/-- The number of line feeds up to the end of the last leaf that is neither blank nor empty, if
there is such a leaf. -/
def solidNewlines : Tree → Option Nat
  | leaf k cs => if k = .blank ∨ cs = [] then none else some (cs.count '\n')
  | node _ ts => solidNewlinesOfList ts

def solidNewlinesOfList : List Tree → Option Nat
  | [] => none
  | t :: ts =>
    match solidNewlinesOfList ts with
    | some n => some (newlines t + n)
    | none => solidNewlines t

end

theorem textOfList_eq (ts : List Tree) : textOfList ts = ts.flatMap text := by
  induction ts with
  | nil => rfl
  | cons t ts ih => simp [textOfList, ih]

theorem textOfList_append (ts us : List Tree) :
    textOfList (ts ++ us) = textOfList ts ++ textOfList us := by
  simp [textOfList_eq]

mutual

theorem newlines_eq : (t : Tree) → newlines t = (text t).count '\n'
  | leaf _ _ => rfl
  | node _ ts => by simp [newlines, text, newlinesOfList_eq ts]

theorem newlinesOfList_eq : (ts : List Tree) → newlinesOfList ts = (textOfList ts).count '\n'
  | [] => rfl
  | t :: ts => by
    simp [newlinesOfList, textOfList, newlines_eq t, newlinesOfList_eq ts]

end

/-- Closes a construct over its parts; blanks, comments and passages before the first part stay
outside. -/
def close (k : Kind) (parts : List Tree) : List Tree :=
  match parts with
  | leaf .blank cs :: rest => leaf .blank cs :: close k rest
  | leaf .comment cs :: rest => leaf .comment cs :: close k rest
  | leaf .passage cs :: rest => leaf .passage cs :: close k rest
  | _ => [node k parts]

theorem textOfList_close (k : Kind) (parts : List Tree) :
    textOfList (close k parts) = textOfList parts := by
  fun_induction close k parts with
  | case1 cs rest ih => simp [textOfList, ih]
  | case2 cs rest ih => simp [textOfList, ih]
  | case3 cs rest ih => simp [textOfList, ih]
  | case4 => simp [textOfList, text]

def part? (k : Kind) (t : Tree) : Option Tree :=
  t.kids.find? (·.kind = k)

/-! ### Where a node stands -/

/-- A node where it stands: the line on which its text begins, the trees before it among its
siblings (nearest first), and for the construct it is a part of, the kind and what stands before
that. -/
structure Site where
  tree : Tree
  line : Nat
  before : List Tree
  outer : Option (Kind × List Tree)

mutual

/-- The nodes of a tree in pre-order, each where it stands. -/
def sitesFrom (line : Nat) (before : List Tree) (outer : Option (Kind × List Tree)) :
    Tree → List Site
  | leaf k cs => [⟨leaf k cs, line, before, outer⟩]
  | node k ts => ⟨node k ts, line, before, outer⟩ :: sitesOfList line [] (some (k, before)) ts

def sitesOfList (line : Nat) (before : List Tree) (outer : Option (Kind × List Tree)) :
    List Tree → List Site
  | [] => []
  | t :: ts =>
    sitesFrom line before outer t ++ sitesOfList (line + newlines t) (t :: before) outer ts

end

mutual

def preorder : Tree → List Tree
  | leaf k cs => [leaf k cs]
  | node k ts => node k ts :: preorderOfList ts

def preorderOfList : List Tree → List Tree
  | [] => []
  | t :: ts => preorder t ++ preorderOfList ts

end

mutual

/-- The sites of a tree show its nodes in pre-order. -/
theorem map_tree_sitesFrom (line : Nat) (before : List Tree)
    (outer : Option (Kind × List Tree)) :
    (t : Tree) → (sitesFrom line before outer t).map Site.tree = preorder t
  | leaf _ _ => rfl
  | node k ts => by simp [sitesFrom, preorder, map_tree_sitesOfList]

theorem map_tree_sitesOfList (line : Nat) (before : List Tree)
    (outer : Option (Kind × List Tree)) :
    (ts : List Tree) → (sitesOfList line before outer ts).map Site.tree = preorderOfList ts
  | [] => rfl
  | t :: ts => by
    simp [sitesOfList, preorderOfList, map_tree_sitesFrom, map_tree_sitesOfList]

end

namespace Site

def parts (s : Site) : List Site :=
  go s.line [] s.tree.kids
where
  /-- Places neighbouring parts. -/
  go (line : Nat) (before : List Tree) : List Tree → List Site
    | [] => []
    | t :: ts =>
      ⟨t, line, before, some (s.tree.kind, s.before)⟩ :: go (line + t.newlines) (t :: before) ts

/-- The line on which the last leaf of a node ends that is not blank. -/
def endLine (s : Site) : Nat :=
  s.line + (s.tree.solidNewlines).getD 0

/-- The first part of a node that has a kind, where it stands. -/
def part? (k : Kind) (s : Site) : Option Site :=
  s.parts.find? (·.tree.kind = k)

end Site

/-! ### Walking through a tree -/

mutual

def size : Tree → Nat
  | leaf _ _ => 1
  | node _ ts => sizeOfList ts + 1

def sizeOfList : List Tree → Nat
  | [] => 0
  | t :: ts => size t + sizeOfList ts

end

theorem size_eq (t : Tree) : t.size = sizeOfList t.kids + 1 := by
  cases t <;> simp [size, kids, sizeOfList]

theorem sizeOfList_append (ts us : List Tree) :
    sizeOfList (ts ++ us) = sizeOfList ts + sizeOfList us := by
  induction ts with
  | nil => simp [sizeOfList]
  | cons t ts ih => simp [sizeOfList, ih, Nat.add_assoc]

namespace Site

theorem map_tree_go (s : Site) (line : Nat) (before ts : List Tree) :
    (parts.go s line before ts).map Site.tree = ts := by
  induction ts generalizing line before with
  | nil => rfl
  | cons t ts ih => simp [parts.go, ih]

theorem map_tree_parts (s : Site) : s.parts.map Site.tree = s.tree.kids :=
  map_tree_go s _ _ _

/-- Puts nodes on a stack one after the other; the last one comes to lie on top. -/
def pushAll (stack nodes : List Site) : List Site :=
  nodes.foldl (fun stack s => s :: stack) stack

theorem pushAll_reverse (stack nodes : List Site) :
    pushAll stack nodes.reverse = nodes ++ stack := by
  simp [pushAll, List.foldl_reverse]

/-- The number of nodes that a walk from a stack will meet. -/
def load (stack : List Site) : Nat := sizeOfList (stack.map Site.tree)

/-- Meeting a node leaves one node less to meet. -/
theorem load_pushAll (s : Site) (stack : List Site) :
    load (pushAll stack s.parts.reverse) + 1 = load (s :: stack) := by
  simp only [load, pushAll_reverse, List.map_append, map_tree_parts, sizeOfList_append,
    List.map_cons, sizeOfList, size_eq]
  omega

/-- Walks on from a stack of nodes: meets the one on top and puts its parts in its place, the last
one first. -/
def walk : List Site → List Site
  | [] => []
  | s :: stack => s :: walk (pushAll stack s.parts.reverse)
termination_by stack => load stack
decreasing_by
  rw [← load_pushAll]
  exact Nat.lt_succ_self _

def nodes (s : Site) : List Site := sitesFrom s.line s.before s.outer s.tree

theorem flatMap_nodes_go (s : Site) (line : Nat) (before ts : List Tree) :
    (parts.go s line before ts).flatMap nodes =
      sitesOfList line before (some (s.tree.kind, s.before)) ts := by
  induction ts generalizing line before with
  | nil => rfl
  | cons t ts ih => simp [parts.go, sitesOfList, nodes, ← ih]

/-- A node comes before its parts with what lies below them. -/
theorem nodes_eq (s : Site) : s.nodes = s :: s.parts.flatMap nodes := by
  rw [parts, flatMap_nodes_go]
  rcases s with ⟨_ | _, line, before, outer⟩ <;> rfl

/-- A walk meets each node on the stack with all that lies below it, one after the other and in
pre-order. -/
theorem walk_eq (stack : List Site) : walk stack = stack.flatMap nodes := by
  fun_induction walk stack with
  | case1 => rfl
  | case2 s stack ih =>
    rw [ih, pushAll_reverse, List.flatMap_append, List.flatMap_cons, nodes_eq s, List.cons_append]

/-- The root of a whole source text, whose first line is line 1. -/
def ofRoot (t : Tree) : Site := ⟨t, 1, [], none⟩

end Site

/-- The nodes of a whole source text, as a walk from its root meets them. -/
def sites (t : Tree) : List Site := Site.walk [.ofRoot t]

/-- The nodes of a source text are met in pre-order. -/
theorem sites_eq (t : Tree) : t.sites = sitesFrom 1 [] none t := by
  rw [sites, Site.walk_eq, List.flatMap_singleton]
  rfl

mutual

theorem length_sitesFrom (line : Nat) (before : List Tree) (outer : Option (Kind × List Tree)) :
    (t : Tree) → (sitesFrom line before outer t).length = t.size
  | leaf _ _ => rfl
  | node _ ts => by simp [sitesFrom, size, length_sitesOfList]

theorem length_sitesOfList (line : Nat) (before : List Tree)
    (outer : Option (Kind × List Tree)) :
    (ts : List Tree) → (sitesOfList line before outer ts).length = sizeOfList ts
  | [] => rfl
  | t :: ts => by simp [sitesOfList, sizeOfList, length_sitesFrom, length_sitesOfList]

end

/-- A walk from the root takes one step for each node. -/
theorem length_sites (t : Tree) : t.sites.length = t.size := by
  rw [sites_eq, length_sitesFrom]

end Tree

end Docent
