import Docent.FileTree
import Mathlib.Data.List.Basic

/-!
# What is stored at a place

A place is looked up name by name; a directory is seen there without what it holds. Main statement: a
node that is put under a name is seen at that place and below it, and nowhere else.
-/

namespace Docent

namespace FileNode

def at? (node : FileNode) : List String → Option FileNode
  | [] => some node
  | name :: names =>
    match node with
    | .dir entries => (FileTree.named? name entries).bind (·.at? names)
    | _ => none

def content? : FileNode → Option (List UInt8)
  | .file content => some content
  | _ => none

/-- What is seen of a node from outside: a directory without its entries. -/
def face : FileNode → FileNode
  | .dir _ => .dir []
  | node => node

theorem at?_dir_cons (entries : FileTree) (name : String) (names : List String) :
    (FileNode.dir entries).at? (name :: names) =
      (FileTree.named? name entries).bind (·.at? names) := rfl

theorem at?_append (node : FileNode) (p q : List String) :
    node.at? (p ++ q) = (node.at? p).bind (·.at? q) := by
  induction p generalizing node with
  | nil => rfl
  | cons name p ih =>
    cases node with
    | dir entries =>
      rw [List.cons_append, at?_dir_cons, at?_dir_cons]
      cases FileTree.named? name entries with
      | none => rfl
      | some node => exact ih node
    | file content => rfl
    | link target => rfl

theorem content?_face (node : FileNode) : node.face.content? = node.content? := by
  cases node <;> rfl

theorem face_eq_dir_iff (node : FileNode) : node.face = .dir [] ↔ ∃ es, node = .dir es := by
  cases node <;> simp [face]

theorem face_eq_link_iff (node : FileNode) (target : String) :
    node.face = .link target ↔ node = .link target := by
  cases node <;> simp [face]

end FileNode

namespace FileTree

def node? (t : FileTree) (place : List String) : Option FileNode := (FileNode.dir t).at? place

def face? (t : FileTree) (place : List String) : Option FileNode := (t.node? place).map FileNode.face

/-- The content of the regular file at a place, if there is one. -/
def content? (t : FileTree) (place : List String) : Option (List UInt8) :=
  (t.node? place).bind FileNode.content?

def HasDir (t : FileTree) (place : List String) : Prop := ∃ es, t.node? place = some (.dir es)

def LinkFree (t : FileTree) : Prop := ∀ place target, t.node? place ≠ some (.link target)

/-! ### What is seen -/

theorem content?_eq_bind_face? (t : FileTree) (place : List String) :
    t.content? place = (t.face? place).bind FileNode.content? := by
  rw [content?, face?]
  cases t.node? place with
  | none => rfl
  | some node => exact node.content?_face.symm

theorem hasDir_iff (t : FileTree) (place : List String) :
    t.HasDir place ↔ t.face? place = some (.dir []) := by
  rw [HasDir, face?, Option.map_eq_some_iff]
  simp only [FileNode.face_eq_dir_iff]
  constructor
  · rintro ⟨es, h⟩
    exact ⟨_, h, es, rfl⟩
  · rintro ⟨_, h, es, rfl⟩
    exact ⟨es, h⟩

theorem linkFree_iff (t : FileTree) :
    t.LinkFree ↔ ∀ place target, t.face? place ≠ some (.link target) := by
  simp only [LinkFree, face?, ne_eq, Option.map_eq_some_iff, FileNode.face_eq_link_iff,
    exists_eq_right]

/-! ### Trees that hold no link -/

mutual

def holdsNoLink : FileNode → Bool
  | .file _ => true
  | .link _ => false
  | .dir entries => holdNoLink entries

def holdNoLink : FileTree → Bool
  | [] => true
  | (_, node) :: es => holdsNoLink node && holdNoLink es

end

theorem holdsNoLink_of_named? {t : FileTree} (h : holdNoLink t = true) {name : String}
    {node : FileNode} (hnode : named? name t = some node) : holdsNoLink node = true := by
  induction t with
  | nil => cases hnode
  | cons e es ih =>
    rw [holdNoLink, Bool.and_eq_true] at h
    rw [named?] at hnode
    split at hnode
    · cases hnode
      exact h.1
    · exact ih h.2 hnode

theorem linkFree_of_holdNoLink {t : FileTree} (h : holdNoLink t = true) : t.LinkFree := by
  intro place target hlink
  induction place generalizing t with
  | nil => cases hlink
  | cons name names ih =>
    rw [node?, FileNode.at?_dir_cons] at hlink
    obtain ⟨node, hnode, hbelow⟩ := Option.bind_eq_some_iff.1 hlink
    have hclean := holdsNoLink_of_named? h hnode
    cases node with
    | dir es => exact ih hclean hbelow
    | file content => cases names <;> cases hbelow
    | link target => cases hclean

/-! ### Directories -/

theorem node?_concat (t : FileTree) (place : List String) (name : String) :
    t.node? (place ++ [name]) = (entriesAt? t place).bind (named? name) := by
  induction place generalizing t with
  | nil =>
    rw [List.nil_append, node?, FileNode.at?_dir_cons, entriesAt?, Option.bind_some]
    cases named? name t <;> rfl
  | cons d ds ih =>
    rw [List.cons_append, node?, FileNode.at?_dir_cons, entriesAt?]
    cases hnode : named? d t with
    | none => rfl
    | some node =>
      cases node with
      | dir es => exact ih es
      | file content => cases ds <;> rfl
      | link target => cases ds <;> rfl

theorem not_hasDir_of_free {t : FileTree} {place : List String} (h : t.node? place = none) :
    ¬ t.HasDir place := by
  rintro ⟨es, hes⟩
  rw [h] at hes
  cases hes

theorem not_hasDir_of_file {t : FileTree} {place : List String} {content : List UInt8}
    (h : t.node? place = some (.file content)) : ¬ t.HasDir place := by
  rintro ⟨es, hes⟩
  rw [h] at hes
  cases hes

theorem hasDir_nil (t : FileTree) : t.HasDir [] := ⟨t, rfl⟩

theorem hasDir_of_node?_append {t : FileTree} {place names : List String} {node : FileNode}
    (h : t.node? (place ++ names) = some node) (hnames : names ≠ []) : t.HasDir place := by
  rw [node?, FileNode.at?_append] at h
  obtain ⟨inner, hinner, hbelow⟩ := Option.bind_eq_some_iff.1 h
  cases inner with
  | dir es => exact ⟨es, hinner⟩
  | file content => cases names with
    | nil => exact absurd rfl hnames
    | cons _ _ => cases hbelow
  | link target => cases names with
    | nil => exact absurd rfl hnames
    | cons _ _ => cases hbelow

theorem HasDir.dropLast {t : FileTree} {place : List String} (h : t.HasDir place) :
    t.HasDir place.dropLast := by
  rcases List.eq_nil_or_concat place with rfl | ⟨front, name, rfl⟩
  · exact hasDir_nil t
  · rw [List.concat_eq_append] at h ⊢
    rw [List.dropLast_concat]
    obtain ⟨es, hes⟩ := h
    exact hasDir_of_node?_append hes (List.cons_ne_nil _ _)

/-! ### Putting a node under a name -/

theorem named?_putEntry (name other : String) (node : FileNode) (t : FileTree) :
    named? other (putEntry name node t) = if other = name then some node else named? other t := by
  induction t with
  | nil =>
    by_cases h : other = name
    · simp [putEntry, named?, h]
    · simp [putEntry, named?, h, Ne.symm h]
  | cons e es ih =>
    obtain ⟨n, old⟩ := e
    by_cases hn : n = name
    · subst hn
      by_cases h : other = n
      · simp [putEntry, named?, h]
      · simp [putEntry, named?, h, Ne.symm h]
    · by_cases h : n = other
      · subst h
        simp [putEntry, named?, hn]
      · simp [putEntry, named?, hn, h, ih]

/-- A node that is put under a name in a directory changes what is seen only at that place and
below. -/
theorem face?_putAt {t : FileTree} {place : List String} (h : t.HasDir place) (node : FileNode)
    (name : String) (p : List String) :
    (putAt node name t place).face? p =
      if place ++ [name] <+: p then (node.at? (p.drop (place.length + 1))).map FileNode.face
      else t.face? p := by
  -- on the place, along which the directories are entered that lead to it
  induction place generalizing t p with
  | nil =>
    cases p with
    | nil => simp [face?, node?, FileNode.at?, FileNode.face]
    | cons n ns =>
      rw [putAt, face?, node?, FileNode.at?_dir_cons, named?_putEntry, face?, node?,
        FileNode.at?_dir_cons]
      -- under the name itself the new node is seen
      by_cases hn : n = name
      · subst hn
        simp
      · have hnot : ¬ [name] <+: n :: ns := by
          rw [List.singleton_prefix_cons_iff]
          exact fun h => hn h.symm
        simp [hn, hnot]
  | cons d ds ih =>
    obtain ⟨entries, hentries⟩ := h
    rw [node?, FileNode.at?_dir_cons] at hentries
    obtain ⟨inner, hinner, hbelow⟩ := Option.bind_eq_some_iff.1 hentries
    cases inner with
    | dir es =>
      cases p with
      | nil => simp [face?, node?, FileNode.at?, FileNode.face]
      | cons n ns =>
        rw [putAt, hinner, face?, node?, FileNode.at?_dir_cons, named?_putEntry, face?, node?,
          FileNode.at?_dir_cons]
        -- below the first directory the induction goes on; beside it nothing changes
        by_cases hn : n = d
        · subst hn
          simp only [if_true, Option.bind_some, hinner, List.cons_append,
            List.cons_prefix_cons, true_and, List.length_cons, List.drop_succ_cons]
          exact ih ⟨entries, hbelow⟩ ns
        · have hnot : ¬ d :: ds ++ [name] <+: n :: ns := by
            rw [List.cons_append, List.cons_prefix_cons]
            exact fun h => hn h.1.symm
          simp only [hn, hnot, if_false]
    | file content => cases ds <;> cases hbelow
    | link target => cases ds <;> cases hbelow

/-! ### Changes at one place -/

/-- The trees look the same but for one place, where the second one has a node. -/
def ChangedAt (t t' : FileTree) (place : List String) (node : FileNode) : Prop :=
  ∀ p, t'.face? p = if p = place then some node.face else t.face? p

/-- A node with nothing below it changes what is seen at one place, unless there is a directory. -/
theorem changedAt_putAt {t : FileTree} {place : List String} {name : String} {node : FileNode}
    (h : t.HasDir place) (hname : ¬ t.HasDir (place ++ [name]))
    (hbare : ∀ n ns, node.at? (n :: ns) = none) :
    t.ChangedAt (putAt node name t place) (place ++ [name]) node := by
  intro p
  rw [face?_putAt h]
  by_cases hp : place ++ [name] <+: p
  · obtain ⟨below, rfl⟩ := hp
    rw [if_pos (List.prefix_append _ _), List.drop_left' (by simp)]
    cases below with
    | nil => simp [FileNode.at?]
    | cons n ns =>
      -- nothing was below the place, and nothing is below the new node
      have hold : t.face? (place ++ [name] ++ n :: ns) = none := by
        rw [face?, Option.map_eq_none_iff, Option.eq_none_iff_forall_ne_some]
        intro node hnode
        exact hname (hasDir_of_node?_append hnode (List.cons_ne_nil n ns))
      rw [hbare, hold]
      simp
  · have hne : p ≠ place ++ [name] := by
      rintro rfl
      exact hp (List.prefix_refl _)
    rw [if_neg hp, if_neg hne]

namespace ChangedAt

variable {t t' : FileTree} {place : List String} {node : FileNode}

theorem linkFree (h : t.ChangedAt t' place node) (ht : t.LinkFree)
    (hnode : ∀ target, node ≠ .link target) : t'.LinkFree := by
  rw [linkFree_iff] at ht ⊢
  intro p target
  rw [h p]
  split
  · rw [ne_eq, Option.some.injEq, FileNode.face_eq_link_iff]
    exact hnode target
  · exact ht p target

theorem hasDir (h : t.ChangedAt t' place node) (hnode : node.face = .dir []) {p : List String}
    (hp : t.HasDir p) : t'.HasDir p := by
  rw [hasDir_iff] at hp ⊢
  rw [h p, hp, hnode]
  split <;> rfl

theorem content?_ne (h : t.ChangedAt t' place node) {p : List String} (hp : p ≠ place) :
    t'.content? p = t.content? p := by
  rw [content?_eq_bind_face?, h p, if_neg hp, content?_eq_bind_face?]

theorem content?_eq (h : t.ChangedAt t' place node) : t'.content? place = node.content? := by
  rw [content?_eq_bind_face?, h place, if_pos rfl, Option.bind_some, FileNode.content?_face]

theorem content?_dir (h : t.ChangedAt t' place (.dir [])) (hfree : t.node? place = none) :
    t'.content? = t.content? := by
  funext p
  by_cases hp : p = place
  · subst hp
    rw [h.content?_eq, content?, hfree]
    rfl
  · exact h.content?_ne hp

end ChangedAt

end FileTree

end Docent
