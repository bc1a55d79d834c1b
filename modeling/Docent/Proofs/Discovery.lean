import Docent.Discovery
import Docent.Proofs.Follow
import Docent.Proofs.Leaves

/-!
# What discovery finds

Discovery walks through directories and looks at the leaves below them. Main statements: the walk finds
the leaves that are sources, each under the path of its names; and what it finds below a directory is
what it finds without any excluded name, less the paths below an excluded one.
-/

namespace Docent

open FileTree

/-! ### Paths of names -/

/-- The path that names lead to from a directory. -/
def pathOf (dir : String) (names : List String) : String := names.foldl joinPath dir

/-- The names of a path below a root that it starts with. -/
def namesBelow (root path : String) : List String :=
  Route.namesOf (path.toList.drop root.toList.length)

theorem isEntryName_iff (name : String) :
    isEntryName name = true ↔ name ≠ "" ∧ name ≠ "." ∧ name ≠ ".." ∧ '/' ∉ name.toList ∧
      Char.ofNat 0 ∉ name.toList := by
  rw [isEntryName, decide_eq_true_iff]

section

variable {name : String} (h : isEntryName name = true)
include h

theorem joinPath_joinPath (dir rest : String) :
    joinPath (joinPath dir name) rest = joinPath dir (name ++ "/" ++ rest) := by
  obtain ⟨hempty, -, -, hslash, -⟩ := (isEntryName_iff name).1 h
  have hcs : name.toList ≠ [] := fun hnil => hempty (String.toList_eq_nil_iff.1 hnil)
  -- a name is not empty and ends without a slash
  have hend (front : List Char) : (front ++ name.toList).getLast? ≠ some '/' := by
    rw [List.getLast?_append_of_ne_nil front hcs]
    intro hlast
    exact hslash (List.mem_of_getLast? hlast)
  have hfull (front : String) : front ++ name ≠ "" := by
    intro hnil
    have hchars := congrArg String.toList hnil
    rw [String.toList_append] at hchars
    exact hcs (List.append_eq_nil_iff.1 hchars).2
  rw [joinPath, joinPath.eq_def dir, joinPath.eq_def dir]
  split
  · rw [if_neg, ← String.append_assoc, ← String.append_assoc]
    rw [not_or, String.toList_append]
    exact ⟨hfull dir, hend dir.toList⟩
  · rw [if_neg]
    · simp only [String.append_assoc]
    · rw [not_or, String.toList_append, String.toList_append]
      exact ⟨hfull _, hend _⟩

end

theorem pathOf_eq_joinPath (dir : String) {names : List String}
    (h : ∀ n ∈ names, isEntryName n = true) (hnames : names ≠ []) :
    pathOf dir names = joinPath dir (String.intercalate "/" names) := by
  induction names generalizing dir with
  | nil => exact absurd rfl hnames
  | cons n ns ih =>
    cases ns with
    | nil => rw [String.intercalate_singleton, pathOf, List.foldl_cons, List.foldl_nil]
    | cons m ms =>
      have hn := h n List.mem_cons_self
      have hrest := ih (joinPath dir n) (fun k hk => h k (List.mem_cons_of_mem n hk))
        (List.cons_ne_nil m ms)
      rw [String.intercalate_cons_cons, ← joinPath_joinPath hn, ← hrest]
      rfl

theorem namesOf_slash (cs : List Char) : Route.namesOf ('/' :: cs) = Route.namesOf cs := by
  rw [Route.namesOf, Route.namesOf, Text.pieces]
  rcases hps : Text.pieces '/' cs with _ | ⟨p, ps⟩
  · exact absurd hps (Text.pieces_ne_nil '/' cs)
  · simp

theorem relative_of_isEntryName {names : List String} (h : ∀ n ∈ names, isEntryName n = true) :
    (Route.mk "" names).Relative :=
  ⟨rfl, fun n hn => ((isEntryName_iff n).1 (h n hn)).1,
    fun n hn => ((isEntryName_iff n).1 (h n hn)).2.2.2.1⟩

theorem namesOf_intercalate {names : List String} (h : ∀ n ∈ names, isEntryName n = true)
    (hnames : names ≠ []) : Route.namesOf (String.intercalate "/" names).toList = names := by
  have hsteps := (relative_of_isEntryName h).steps_joined hnames
  rw [String.empty_append, stepsOf] at hsteps
  rw [Route.namesOf, hsteps, List.filter_eq_self]
  intro n hn
  obtain ⟨hempty, hdot, -⟩ := (isEntryName_iff n).1 (h n hn)
  simp [hempty, hdot]

theorem namesBelow_pathOf (root : String) {names : List String}
    (h : ∀ n ∈ names, isEntryName n = true) (hnames : names ≠ []) :
    namesBelow root (pathOf root names) = names := by
  rw [namesBelow, pathOf_eq_joinPath root h hnames, joinPath]
  split
  · rw [String.toList_append, List.drop_left]
    exact namesOf_intercalate h hnames
  · rw [String.append_assoc, String.toList_append, List.drop_left, String.toList_append]
    exact (namesOf_slash _).trans (namesOf_intercalate h hnames)

theorem FileTree.entriesAt?_eq_some_iff (t : FileTree) (place : List String) (es : FileTree) :
    entriesAt? t place = some es ↔ t.node? place = some (.dir es) := by
  induction place generalizing t with
  | nil =>
    rw [entriesAt?, node?, FileNode.at?]
    simp
  | cons name names ih =>
    rw [entriesAt?, node?, FileNode.at?_dir_cons]
    rcases named? name t with _ | ⟨content | target | inner⟩
    · simp
    · cases names <;> simp [FileNode.at?]
    · cases names <;> simp [FileNode.at?]
    · exact ih inner

namespace Search

/-! ### The walk -/

/-- Whether a leaf with a path is no link to a directory. -/
def isSource (t : FileTree) (path : String) : FileNode → Bool
  | .file _ => true
  | .link _ => !t.isDir path
  | .dir _ => false

/-- Whether no directory on the way to a leaf is excluded. -/
def passes (s : Search) (names : List String) : Bool :=
  names.dropLast.all fun d => !s.excluded.contains d

/-- Whether the walk takes a leaf below a directory. -/
def takes (s : Search) (t : FileTree) (dir : String) (l : List String × FileNode) : Bool :=
  s.passes l.1 && (s.accepts ((l.1.getLast?).getD "") && isSource t (pathOf dir l.1) l.2)

theorem passes_without (s : Search) (names : List String) :
    { s with excluded := [] }.passes names = true := by
  rw [passes, List.all_eq_true]
  intro d _
  rfl

theorem isSource_iff (t : FileTree) (path : String) (node : FileNode) :
    isSource t path node = true ↔
      (∃ content, node = .file content) ∨ ∃ target, node = .link target ∧ t.isDir path = false := by
  cases node <;> simp [isSource]

theorem takes_concat (s : Search) (t : FileTree) (dir : String) (dirs : List String) (name : String)
    (node : FileNode) :
    s.takes t dir (dirs ++ [name], node) = true ↔
      isSource t (pathOf dir (dirs ++ [name])) node = true ∧
        (Route.ofText name).suffix ∈ s.suffixes ∧ ∀ d ∈ dirs, d ∉ s.excluded := by
  simp only [takes, passes, accepts, List.dropLast_concat, List.getLast?_concat, Option.getD_some,
    Bool.and_eq_true, List.all_eq_true, Bool.not_eq_true', List.contains_eq_mem,
    decide_eq_false_iff_not, decide_eq_true_eq]
  constructor
  · rintro ⟨hdirs, hsuffix, hsource⟩
    exact ⟨hsource, hsuffix, hdirs⟩
  · rintro ⟨hsource, hsuffix, hdirs⟩
    exact ⟨hdirs, hsuffix, hsource⟩

theorem takes_cons (s : Search) (t : FileTree) (dir name : String) {l : List String × FileNode}
    (hl : l.1 ≠ []) :
    s.takes t dir (name :: l.1, l.2) =
      (!s.excluded.contains name && s.takes t (joinPath dir name) l) := by
  obtain ⟨n, ns, hcons⟩ := List.exists_cons_of_ne_nil hl
  have hlast : (name :: l.1).getLast? = l.1.getLast? := by
    rw [hcons, List.getLast?_cons_cons]
  have hfront : (name :: l.1).dropLast = name :: l.1.dropLast := by
    rw [hcons, List.dropLast_cons_cons]
  have hpath : pathOf dir (name :: l.1) = pathOf (joinPath dir name) l.1 := rfl
  simp only [takes, passes, hlast, hfront, hpath, List.all_cons, Bool.and_assoc]

theorem takes_singleton (s : Search) (t : FileTree) (dir name : String) (node : FileNode) :
    s.takes t dir ([name], node) = (s.accepts name && isSource t (joinPath dir name) node) := by
  rw [takes, passes]
  rfl

variable (s : Search) (t : FileTree)

mutual

theorem visit_eq (dir name : String) (node : FileNode) :
    s.visit t (joinPath dir name) name node =
      (((leavesOf node).map fun l => (name :: l.1, l.2)).filter (s.takes t dir)).map
        fun l => pathOf dir l.1 := by
  cases node with
  | file content =>
    rw [visit, leavesOf_of_isLeaf rfl, List.map_singleton, List.filter_singleton, takes_singleton,
      isSource, Bool.and_true]
    cases s.accepts name <;> rfl
  | link target =>
    rw [visit, leavesOf_of_isLeaf rfl, List.map_singleton, List.filter_singleton, takes_singleton,
      isSource]
    cases t.isDir (joinPath dir name) <;> cases s.accepts name <;> rfl
  | dir es =>
    rw [visit, leavesOf, List.filter_map, List.map_map]
    have hcons : ∀ l ∈ leaves es, (s.takes t dir ∘ fun l => (name :: l.1, l.2)) l =
        (!s.excluded.contains name && s.takes t (joinPath dir name) l) :=
      fun l hl => s.takes_cons t dir name (ne_nil_of_mem_leaves hl)
    rw [List.filter_congr hcons]
    cases s.excluded.contains name with
    | true => simp
    | false =>
      simp only [Bool.not_false, Bool.true_and, Bool.false_eq_true, if_false]
      exact visitAll_eq (joinPath dir name) es

theorem visitAll_eq (dir : String) (es : FileTree) :
    s.visitAll t dir es =
      ((leaves es).filter (s.takes t dir)).map fun l => pathOf dir l.1 := by
  cases es with
  | nil => rfl
  | cons e es =>
    obtain ⟨name, node⟩ := e
    rw [visitAll, leaves, List.filter_append, List.map_append, visit_eq, visitAll_eq]

end

/-! ### Below a directory -/

/-- The walk below a directory takes leaves of it. -/
theorem below_of_directory {root : String} {place : List String}
    (hroot : t.goal root = .ok (.directory place)) :
    ∃ es, t.node? place = some (.dir es) ∧ s.below t root = s.visitAll t root es := by
  obtain ⟨es, hes⟩ : t.HasDir place := stands_of_goal hroot
  refine ⟨es, hes, ?_⟩
  rw [below, hroot]
  dsimp only
  rw [(entriesAt?_eq_some_iff t place es).2 hes]

theorem below_of_not_directory {root : String}
    (hroot : ¬ ∃ place, t.goal root = .ok (.directory place)) : s.below t root = [] := by
  rw [below]
  split
  · rename_i place hplace
    exact absurd ⟨place, hplace⟩ hroot
  · rfl

theorem files_perm (root : String) : ((s.files t root).1).Perm (s.below t root) := by
  rw [files]
  split
  · exact List.mergeSort_perm _ _
  · rename_i hdir
    rw [below_of_not_directory]
    rintro ⟨place, hplace⟩
    exact hdir (isDir_text hplace)

theorem sorted_files (root : String) : (s.files t root).1.Pairwise (· ≤ ·) := by
  rw [files]
  split
  · have htrans (a b c : String) (hab : decide (a ≤ b) = true) (hbc : decide (b ≤ c) = true) :
        decide (a ≤ c) = true := by
      rw [decide_eq_true_iff] at hab hbc ⊢
      exact String.le_trans hab hbc
    have htotal (a b : String) : (decide (a ≤ b) || decide (b ≤ a)) = true := by
      rw [Bool.or_eq_true, decide_eq_true_iff, decide_eq_true_iff]
      exact String.le_total a b
    have hsorted := List.pairwise_mergeSort htrans htotal (s.below t root)
    simpa only [decide_eq_true_eq] using hsorted
  · exact List.Pairwise.nil

section

variable {t} (ht : wellNamed t = true) {root : String} {place : List String}
  (hroot : t.goal root = .ok (.directory place))
include ht hroot

theorem below_filter : s.below t root =
    ({ s with excluded := [] }.below t root).filter fun path =>
      s.passes (namesBelow root path) := by
  obtain ⟨es, hes, hbelow⟩ := s.below_of_directory t hroot
  obtain ⟨es', hes', hbelow'⟩ := { s with excluded := [] }.below_of_directory t hroot
  rw [hes] at hes'
  cases hes'
  have hnamed := wellNamed_of_node? ht hes
  rw [hbelow, hbelow', visitAll_eq, visitAll_eq, List.filter_map, List.filter_filter]
  congr 1
  refine List.filter_congr fun l hl => ?_
  have hnames := namesBelow_pathOf root (isEntryName_of_mem_leaves hnamed hl)
    (ne_nil_of_mem_leaves hl)
  rw [takes, takes, Function.comp_apply, hnames, s.passes_without, Bool.true_and]
  rfl

theorem nodup_below : (s.below t root).Nodup := by
  obtain ⟨es, hes, hbelow⟩ := s.below_of_directory t hroot
  have hnamed := wellNamed_of_node? ht hes
  have hleaves := nodup_leaves es hnamed
  rw [hbelow, visitAll_eq]
  refine List.Nodup.map_on ?_ (hleaves.of_map.filter _)
  intro l hl l' hl' hpath
  -- the path tells the names, and the names tell the leaf
  have hmem := List.mem_of_mem_filter hl
  have hmem' := List.mem_of_mem_filter hl'
  have hnames := namesBelow_pathOf root (isEntryName_of_mem_leaves hnamed hmem)
    (ne_nil_of_mem_leaves hmem)
  have hnames' := namesBelow_pathOf root (isEntryName_of_mem_leaves hnamed hmem')
    (ne_nil_of_mem_leaves hmem')
  refine List.inj_on_of_nodup_map hleaves hmem hmem' ?_
  rw [← hnames, ← hnames', hpath]

theorem mem_below (path : String) : path ∈ s.below t root ↔
    ∃ dirs name node, path = joinPath root (String.intercalate "/" (dirs ++ [name])) ∧
      t.node? (place ++ dirs ++ [name]) = some node ∧
      ((∃ content, node = .file content) ∨ ∃ target, node = .link target ∧ t.isDir path = false) ∧
      (Route.ofText name).suffix ∈ s.suffixes ∧ ∀ d ∈ dirs, d ∉ s.excluded := by
  obtain ⟨es, hes, hbelow⟩ := s.below_of_directory t hroot
  have hnamed := wellNamed_of_node? ht hes
  rw [hbelow, visitAll_eq, List.mem_map]
  constructor
  · rintro ⟨⟨names, node⟩, hl, rfl⟩
    obtain ⟨hmem, htakes⟩ := List.mem_filter.1 hl
    obtain ⟨hat, hleaf⟩ := (mem_leaves es hnamed _).1 hmem
    have hentry := isEntryName_of_mem_leaves hnamed hmem
    -- the last name of a leaf is its own, the others are directories
    rcases List.eq_nil_or_concat names with rfl | ⟨dirs, name, rfl⟩
    · exact absurd rfl (ne_nil_of_mem_leaves hmem)
    · rw [List.concat_eq_append] at *
      obtain ⟨hsource, hsuffix, hdirs⟩ := (takes_concat s t root dirs name node).1 htakes
      refine ⟨dirs, name, node, pathOf_eq_joinPath root hentry (by simp), ?_,
        (isSource_iff t _ node).1 hsource, hsuffix, hdirs⟩
      rw [List.append_assoc, node?, FileNode.at?_append, ← node?, hes]
      exact hat
  · rintro ⟨dirs, name, node, rfl, hnode, hsource, hsuffix, hdirs⟩
    rw [List.append_assoc, node?, FileNode.at?_append, ← node?, hes] at hnode
    have hleaf : isLeaf node = true := by
      rcases hsource with ⟨content, rfl⟩ | ⟨target, rfl, -⟩
      · rfl
      · rfl
    have hmem := (mem_leaves es hnamed (dirs ++ [name], node)).2 ⟨hnode, hleaf⟩
    have hpath := pathOf_eq_joinPath root (isEntryName_of_mem_leaves hnamed hmem)
      (ne_nil_of_mem_leaves hmem)
    rw [← hpath] at hsource
    exact ⟨_, List.mem_filter.2 ⟨hmem, (takes_concat s t root dirs name node).2
      ⟨(isSource_iff t _ node).2 hsource, hsuffix, hdirs⟩⟩, hpath⟩

end

/-- In a tree whose names are names, discovery below a directory finds each source once: the files and
the links not to a directory that directories lead to, none of them excluded below the root, and that
have one of the suffixes. Leaving out directories leaves out the paths with their names, and nothing
else. Where the root is no directory, or empty, nothing is found. -/
theorem files_sources (ht : wellNamed t = true) (root : String) :
    (∀ place, t.goal root = .ok (.directory place) →
      (s.files t root).1.Nodup ∧
      (∀ path, path ∈ (s.files t root).1 ↔
        ∃ dirs name node, path = joinPath root (String.intercalate "/" (dirs ++ [name])) ∧
          t.node? (place ++ dirs ++ [name]) = some node ∧
          ((∃ content, node = .file content) ∨
            ∃ target, node = .link target ∧ t.isDir path = false) ∧
          (Route.ofText name).suffix ∈ s.suffixes ∧ ∀ d ∈ dirs, d ∉ s.excluded) ∧
      (s.files t root).1 = ({ s with excluded := [] }.files t root).1.filter fun path =>
        s.passes (namesBelow root path)) ∧
    ((root = "" ∨ ¬ ∃ place, t.goal root = .ok (.directory place)) → (s.files t root).1 = []) := by
  have hperm := s.files_perm t root
  refine ⟨?_, ?_⟩
  · intro place hplace
    refine ⟨hperm.nodup_iff.2 (s.nodup_below ht hplace), ?_, ?_⟩
    · intro path
      rw [hperm.mem_iff]
      exact s.mem_below ht hplace path
    · -- both sides are in order, and they have the same elements
      have hall := ({ s with excluded := [] }.files_perm t root).filter fun path =>
        s.passes (namesBelow root path)
      rw [← s.below_filter ht hplace] at hall
      refine (hperm.trans hall.symm).eq_of_pairwise ?_ (s.sorted_files t root)
        (({ s with excluded := [] }.sorted_files t root).filter _)
      intro a b _ _ hab hba
      exact String.le_antisymm hab hba
  · intro hroot
    have hnone : ¬ ∃ place, t.goal root = .ok (.directory place) := by
      rcases hroot with rfl | hroot
      · rintro ⟨place, hplace⟩
        cases hplace
      · exact hroot
    rw [s.below_of_not_directory t hnone] at hperm
    exact hperm.eq_nil

/-- A directory with a file, a link to it, a link to nothing, two links to directories, one of them
endless, and a directory; and a link to the directory itself. -/
def linkedTree : FileTree :=
  [("lib", .link "src"),
    ("src", .dir [("a.php", .file []), ("b.php", .link "a.php"), ("gone.php", .link "nowhere"),
      ("all.php", .link "../lib"), ("again.php", .link "."),
      ("vendor", .dir [("c.php", .file [])])])]

/-- Below the link the link to nothing is found, and what is excluded is left out of the rest. -/
theorem files_linkedTree :
    let s : Search := ⟨[".php"], ["lib", "vendor"]⟩
    (s.files linkedTree "lib").1.Nodup ∧ "lib/gone.php" ∈ (s.files linkedTree "lib").1 ∧
      "lib/vendor/c.php" ∉ (s.files linkedTree "lib").1 := by
  intro s
  have hnamed : wellNamed linkedTree = true := by decide +kernel
  have hplace : linkedTree.goal "lib" = .ok (.directory ["src"]) := rfl
  obtain ⟨hnodup, hmem, hfilter⟩ := (files_sources s linkedTree hnamed "lib").1 ["src"] hplace
  refine ⟨hnodup, ?_, ?_⟩
  · refine (hmem "lib/gone.php").2 ⟨[], "gone.php", .link "nowhere", by decide +kernel, rfl, ?_, ?_,
      nofun⟩
    · exact .inr ⟨"nowhere", rfl, by decide +kernel⟩
    · decide +kernel
  · rw [hfilter, List.mem_filter]
    rintro ⟨-, hpasses⟩
    exact absurd hpasses (by decide +kernel)

end Search

end Docent
