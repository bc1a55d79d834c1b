import Docent.Proofs.Stored
import Mathlib.Data.List.Nodup

/-!
# The leaves of a tree

The files and links of a tree, each with the names that lead to it. Main statement: where the names of
a tree are those of a file system, each file and each link is among the leaves once, under the names
of its place.
-/

namespace Docent.FileTree

/-! ### Names that entries can have -/

/-- Whether an entry of a directory can have a name. -/
def isEntryName (name : String) : Bool :=
  name ≠ "" ∧ name ≠ "." ∧ name ≠ ".." ∧ '/' ∉ name.toList ∧ Char.ofNat 0 ∉ name.toList

mutual

/-- Whether entries have names of entries below a node, in each directory different ones. -/
def wellNamedNode : FileNode → Bool
  | .dir entries => wellNamed entries
  | _ => true

def wellNamed : FileTree → Bool
  | [] => true
  | (name, node) :: es =>
    isEntryName name && !(es.map Prod.fst).contains name && wellNamedNode node && wellNamed es

end

theorem wellNamed_cons {name : String} {node : FileNode} {es : FileTree} :
    wellNamed ((name, node) :: es) = true ↔
      isEntryName name = true ∧ name ∉ es.map Prod.fst ∧ wellNamedNode node = true ∧
        wellNamed es = true := by
  rw [wellNamed]
  simp only [Bool.and_eq_true, Bool.not_eq_true', List.contains_eq_mem, decide_eq_false_iff_not,
    and_assoc]

theorem mem_of_named? {name : String} {node : FileNode} {es : FileTree}
    (h : named? name es = some node) : (name, node) ∈ es := by
  induction es with
  | nil => cases h
  | cons e es ih =>
    rw [named?] at h
    split at h
    · rename_i hname
      cases h
      subst hname
      exact List.mem_cons_self
    · exact List.mem_cons_of_mem e (ih h)

theorem wellNamed_of_mem {es : FileTree} (h : wellNamed es = true) {name : String}
    {node : FileNode} (hmem : (name, node) ∈ es) :
    isEntryName name = true ∧ wellNamedNode node = true := by
  induction es with
  | nil => cases hmem
  | cons e es ih =>
    obtain ⟨hname, -, hnode, hes⟩ := wellNamed_cons.1 h
    rcases List.mem_cons.1 hmem with rfl | hmem
    · exact ⟨hname, hnode⟩
    · exact ih hes hmem

theorem wellNamedNode_at? (node : FileNode) {inner : FileNode} (h : wellNamedNode node = true)
    {names : List String} (hinner : node.at? names = some inner) :
    (∀ n ∈ names, isEntryName n = true) ∧ wellNamedNode inner = true := by
  induction names generalizing node with
  | nil =>
    cases hinner
    exact ⟨nofun, h⟩
  | cons n ns ih =>
    cases node with
    | file content => cases hinner
    | link target => cases hinner
    | dir es =>
      rw [FileNode.at?_dir_cons] at hinner
      obtain ⟨next, hnext, hbelow⟩ := Option.bind_eq_some_iff.1 hinner
      obtain ⟨hn, hnode⟩ := wellNamed_of_mem h (mem_of_named? hnext)
      obtain ⟨hns, hin⟩ := ih next hnode hbelow
      refine ⟨?_, hin⟩
      intro m hm
      rcases List.mem_cons.1 hm with rfl | hm
      · exact hn
      · exact hns m hm

theorem wellNamed_of_node? {t es : FileTree} (h : wellNamed t = true) {place : List String}
    (hplace : t.node? place = some (.dir es)) : wellNamed es = true :=
  (wellNamedNode_at? (.dir t) h hplace).2

/-! ### Leaves -/

/-- Whether a node is a file or a link. -/
def isLeaf : FileNode → Bool
  | .dir _ => false
  | _ => true

mutual

/-- The files and links at and below a node, each with the names that lead to it. -/
def leavesOf : FileNode → List (List String × FileNode)
  | .dir entries => leaves entries
  | node => [([], node)]

def leaves : FileTree → List (List String × FileNode)
  | [] => []
  | (name, node) :: es => (leavesOf node).map (fun l => (name :: l.1, l.2)) ++ leaves es

end

theorem leavesOf_of_isLeaf {node : FileNode} (h : isLeaf node = true) :
    leavesOf node = [([], node)] := by
  cases node with
  | dir es => cases h
  | file content => rfl
  | link target => rfl

theorem at?_of_isLeaf {node : FileNode} (h : isLeaf node = true) (names : List String)
    (inner : FileNode) : node.at? names = some inner ↔ names = [] ∧ inner = node := by
  cases names with
  | nil => simp [FileNode.at?, eq_comm]
  | cons n ns =>
    cases node with
    | dir es => cases h
    | file content => simp [FileNode.at?]
    | link target => simp [FileNode.at?]

theorem ne_nil_of_mem_leaves {es : FileTree} {l : List String × FileNode} (h : l ∈ leaves es) :
    l.1 ≠ [] := by
  induction es with
  | nil => cases h
  | cons e es ih =>
    rw [leaves, List.mem_append, List.mem_map] at h
    rcases h with ⟨l', -, rfl⟩ | h
    · exact List.cons_ne_nil _ _
    · exact ih h

theorem at?_dir_of_isLeaf {es : FileTree} {names : List String} {inner : FileNode}
    (hleaf : isLeaf inner = true) (h : (FileNode.dir es).at? names = some inner) :
    ∃ n ns node, names = n :: ns ∧ named? n es = some node ∧ node.at? ns = some inner := by
  cases names with
  | nil =>
    cases h
    cases hleaf
  | cons n ns =>
    rw [FileNode.at?_dir_cons] at h
    obtain ⟨node, hnode, hbelow⟩ := Option.bind_eq_some_iff.1 h
    exact ⟨n, ns, node, rfl, hnode, hbelow⟩

mutual

theorem mem_leavesOf (node : FileNode) (h : wellNamedNode node = true)
    (l : List String × FileNode) :
    l ∈ leavesOf node ↔ node.at? l.1 = some l.2 ∧ isLeaf l.2 = true := by
  cases hleaf : isLeaf node with
  | true =>
    rw [leavesOf_of_isLeaf hleaf, at?_of_isLeaf hleaf, List.mem_singleton, Prod.ext_iff]
    constructor
    · rintro ⟨hnames, rfl⟩
      exact ⟨⟨hnames, rfl⟩, hleaf⟩
    · exact And.left
  | false =>
    cases node with
    | dir es => exact mem_leaves es h l
    | file content => cases hleaf
    | link target => cases hleaf

/-- The leaves are the files and the links, under the names of their places. -/
theorem mem_leaves (es : FileTree) (h : wellNamed es = true) (l : List String × FileNode) :
    l ∈ leaves es ↔ (FileNode.dir es).at? l.1 = some l.2 ∧ isLeaf l.2 = true := by
  cases es with
  | nil =>
    constructor
    · intro hl
      cases hl
    · rintro ⟨hat, hleaf⟩
      obtain ⟨n, ns, node, -, hnode, -⟩ := at?_dir_of_isLeaf hleaf hat
      cases hnode
  | cons e es =>
    obtain ⟨name, node⟩ := e
    obtain ⟨names, inner⟩ := l
    obtain ⟨-, hfresh, hnode, hes⟩ := wellNamed_cons.1 h
    rw [leaves, List.mem_append, List.mem_map]
    constructor
    · -- a leaf is of the first entry or of the others, whose names are different ones
      rintro (⟨l, hl, hcons⟩ | hl)
      · cases hcons
        obtain ⟨hat, hleaf⟩ := (mem_leavesOf node hnode l).1 hl
        refine ⟨?_, hleaf⟩
        rw [FileNode.at?_dir_cons, named?, if_pos rfl]
        exact hat
      · obtain ⟨hat, hleaf⟩ := (mem_leaves es hes (names, inner)).1 hl
        obtain ⟨n, ns, next, rfl, hnext, hbelow⟩ := at?_dir_of_isLeaf hleaf hat
        have hne : ¬ name = n := by
          rintro rfl
          exact hfresh (List.mem_map_of_mem (mem_of_named? hnext))
        refine ⟨?_, hleaf⟩
        rw [FileNode.at?_dir_cons, named?, if_neg hne, hnext]
        exact hbelow
    · rintro ⟨hat, hleaf⟩
      obtain ⟨n, ns, next, rfl, hnext, hbelow⟩ := at?_dir_of_isLeaf hleaf hat
      rw [named?] at hnext
      split at hnext
      · rename_i hname
        cases hnext
        subst hname
        exact .inl ⟨(ns, inner), (mem_leavesOf node hnode _).2 ⟨hbelow, hleaf⟩, rfl⟩
      · refine .inr ((mem_leaves es hes _).2 ⟨?_, hleaf⟩)
        rw [FileNode.at?_dir_cons, hnext]
        exact hbelow

end

theorem isEntryName_of_mem_leaves {es : FileTree} (h : wellNamed es = true)
    {l : List String × FileNode} (hl : l ∈ leaves es) : ∀ n ∈ l.1, isEntryName n = true :=
  (wellNamedNode_at? (.dir es) h ((mem_leaves es h l).1 hl).1).1

mutual

theorem nodup_leavesOf (node : FileNode) (h : wellNamedNode node = true) :
    ((leavesOf node).map Prod.fst).Nodup := by
  cases node with
  | dir es => exact nodup_leaves es h
  | file content => exact List.nodup_singleton _
  | link target => exact List.nodup_singleton _

theorem nodup_leaves (es : FileTree) (h : wellNamed es = true) :
    ((leaves es).map Prod.fst).Nodup := by
  cases es with
  | nil => exact List.nodup_nil
  | cons e es =>
    obtain ⟨name, node⟩ := e
    obtain ⟨-, hfresh, hnode, hes⟩ := wellNamed_cons.1 h
    have hfirst : (((leavesOf node).map Prod.fst).map (name :: ·)).Nodup :=
      (nodup_leavesOf node hnode).map fun a b hab => List.tail_eq_of_cons_eq hab
    rw [List.map_map] at hfirst
    rw [leaves, List.map_append, List.map_map, List.nodup_append]
    refine ⟨hfirst, nodup_leaves es hes, ?_⟩
    rintro a ha b hb rfl
    obtain ⟨l, -, rfl⟩ := List.mem_map.1 ha
    obtain ⟨l', hl', hnames⟩ := List.mem_map.1 hb
    -- the names of a later leaf begin with another one
    obtain ⟨hat, hleaf⟩ := (mem_leaves es hes l').1 hl'
    obtain ⟨n, ns, next, hcons, hnext, -⟩ := at?_dir_of_isLeaf hleaf hat
    rw [hcons] at hnames
    obtain rfl : n = name := List.head_eq_of_cons_eq hnames
    exact hfresh (List.mem_map_of_mem (mem_of_named? hnext))

end

end Docent.FileTree
