import Docent.Proofs.Overlooked

/-!
# Files that discovery finds

In a tree without links a file that is found can be told from the names on its path. Main
statements: a file below a root is found under the path of its names, whatever the path of the root
looks like; and every path that discovery gives is one of these.
-/

namespace Docent

open FileTree

/-! ### Names in paths -/

theorem Route.names_ofText_name {path n : String} (hn : n ∈ (Route.ofText path).names) :
    (Route.ofText n).names = [n] := by
  obtain ⟨hpiece, hkept⟩ := List.mem_filter.1 hn
  obtain ⟨cs, hcs, rfl⟩ := List.mem_map.1 hpiece
  have hslash := Text.not_mem_of_mem_pieces hcs
  rw [ofText, namesOf, String.toList_ofList, Text.pieces_of_not_mem hslash, List.map_singleton,
    List.filter_singleton, hkept]
  rfl

theorem Route.suffix_ofText_name (path : String) :
    (Route.ofText (Route.ofText path).name).suffix = (Route.ofText path).suffix := by
  have hname : (Route.ofText (Route.ofText path).name).name = (Route.ofText path).name := by
    rcases hlast : (Route.ofText path).names.getLast? with _ | n
    · rw [name.eq_def (Route.ofText path), hlast]
      rfl
    · have hn := names_ofText_name (List.mem_of_getLast? hlast)
      rw [name.eq_def (Route.ofText path), hlast, Option.getD_some, name, hn]
      rfl
  rw [suffix, hname, suffix]

theorem settle_of_isEntryName (place : List String) {names : List String}
    (h : ∀ n ∈ names, isEntryName n = true) : settle place names = place ++ names := by
  induction names generalizing place with
  | nil => exact (List.append_nil place).symm
  | cons n ns ih =>
    obtain ⟨hempty, hdot, hdots, -⟩ := (isEntryName_iff n).1 (h n List.mem_cons_self)
    rw [settle, if_neg (by simp [hempty, hdot]), if_neg hdots,
      ih _ fun m hm => h m (List.mem_cons_of_mem n hm)]
    simp

/-- A path below a root is followed as the root is, but for names that say nothing, and on from
there. -/
theorem stepsOf_joinPath {root : String} (hroot : root ≠ "") (rest : String) :
    ∃ front, stepsOf (joinPath root rest) = front ++ stepsOf rest ∧
      front.filter (fun n => n != "" && n != ".") =
        (stepsOf root).filter fun n => n != "" && n != "." := by
  rw [joinPath]
  by_cases hlast : root.toList.getLast? = some '/'
  · obtain ⟨cs, hcs⟩ := List.getLast?_eq_some_iff.1 hlast
    rw [if_pos (.inr hlast)]
    refine ⟨(Text.pieces '/' cs).map String.ofList, ?_, ?_⟩
    · rw [stepsOf, stepsOf, String.toList_append, hcs, List.append_assoc, List.singleton_append,
        Text.pieces_append, List.map_append]
    · rw [stepsOf, hcs, Text.pieces_append, List.map_append, List.filter_append]
      simp [Text.pieces]
  · rw [if_neg (by simp [hroot, hlast])]
    refine ⟨stepsOf root, ?_, rfl⟩
    rw [stepsOf, stepsOf, stepsOf, String.toList_append, String.toList_append, List.append_assoc,
      show "/".toList = ['/'] from rfl, List.singleton_append, Text.pieces_append, List.map_append]

theorem isPath_joinPath {root : String} (hroot : ¬ (root = "" ∨ isAbsolute root = true))
    (rest : String) : ¬ (joinPath root rest = "" ∨ isAbsolute (joinPath root rest) = true) := by
  have hhead : (joinPath root rest).toList.head? = root.toList.head? := by
    have hcs : root.toList ≠ [] := fun hnil => hroot (.inl (String.toList_eq_nil_iff.1 hnil))
    rw [joinPath]
    split <;> simp [List.head?_append, List.head?_eq_some_head hcs]
  rw [not_or] at hroot ⊢
  rw [isAbsolute, hhead]
  refine ⟨?_, hroot.2⟩
  intro hempty
  rw [hempty] at hhead
  exact hroot.1 (String.toList_eq_nil_iff.1 (List.head?_eq_none_iff.1 hhead.symm))

namespace FileTree

section

variable {t : FileTree} (ht : t.LinkFree)
include ht

theorem node?_of_content? {place : List String} {content : List UInt8}
    (h : t.content? place = some content) : t.node? place = some (.file content) := by
  rw [content?] at h
  rcases ht.cases place with hfree | ⟨es, hdir⟩ | ⟨old, hfile⟩
  · rw [hfree] at h
    cases h
  · rw [hdir] at h
    cases h
  · rw [hfile] at h
    cases h
    exact hfile

theorem goal_joinPath {root : String} {place : List String}
    (hroot : t.goal root = .ok (.directory place)) {dirs : List String} {name : String}
    (hentry : ∀ n ∈ dirs ++ [name], isEntryName n = true) {content : List UInt8}
    (hfile : t.content? (place ++ dirs ++ [name]) = some content) :
    t.goal (joinPath root (String.intercalate "/" (dirs ++ [name]))) =
      .ok (.file (place ++ dirs) name content) := by
  obtain ⟨hpath, hlead⟩ := (goal_eq_directory_iff ht root place).1 hroot
  have hempty : root ≠ "" := fun h => hpath (.inl h)
  obtain ⟨front, hsteps, hfront⟩ :=
    stepsOf_joinPath hempty (String.intercalate "/" (dirs ++ [name]))
  have hrest := (relative_of_isEntryName hentry).steps_joined (by simp)
  rw [String.empty_append] at hrest
  have hnode := node?_of_content? ht hfile
  -- no name below the root leads upwards, so that the path leads along the names
  have hdots : ".." ∉ dirs := by
    intro hmem
    exact absurd (hentry _ (List.mem_append_left _ hmem)) (by decide)
  have hdirs : settle place dirs = place ++ dirs :=
    settle_of_isEntryName place fun n hn => hentry n (List.mem_append_left _ hn)
  have hname : settle (place ++ dirs) [name] = place ++ dirs ++ [name] :=
    settle_of_isEntryName (place ++ dirs) fun n hn => hentry n (List.mem_append_right _ hn)
  have hdir : t.HasDir (place ++ dirs) := hasDir_of_node?_append hnode (List.cons_ne_nil _ _)
  have hleadFront : lead t [] front = .ok (.directory place) := by
    rw [← follow_eq_lead ht true 0, ← follow_filter_eq_directory_iff] at hlead ⊢
    rwa [hfront]
  have hleadDirs : lead t place dirs = .ok (.directory (place ++ dirs)) := by
    rw [← hdirs] at hdir ⊢
    exact lead_of_dotless hdots hdir
  rw [goal, if_neg (isPath_joinPath hpath _), follow_eq_lead ht, hsteps, hrest,
    lead_append ht (hasDir_nil t) hleadFront, lead_append ht (stands_of_goal hroot) hleadDirs,
    lead_of_file hdir (hname ▸ hnode), if_pos rfl]

end

end FileTree

/-! ### What discovery finds -/

namespace Search

variable {s : Search} {t : FileTree}

/-- A file that discovery finds in a tree without links. -/
structure FoundAt (s : Search) (t : FileTree) (root : String) (place : List String) (path : String)
    (dirs : List String) (name : String) (content : List UInt8) : Prop where
  path_eq : path = joinPath root (String.intercalate "/" (dirs ++ [name]))
  entries : ∀ n ∈ dirs ++ [name], isEntryName n = true
  accepted : s.accepts name = true
  content : t.content? (place ++ dirs ++ [name]) = some content

theorem exists_foundAt (ht : t.LinkFree) (hnamed : wellNamed t = true)
    {root path : String} (hpath : path ∈ (s.files t root).1) :
    ∃ place, t.goal root = .ok (.directory place) ∧
      ∃ dirs name content, FoundAt s t root place path dirs name content := by
  by_cases hdir : ∃ place, t.goal root = .ok (.directory place)
  · obtain ⟨place, hplace⟩ := hdir
    rw [(s.files_perm t root).mem_iff, s.mem_below hnamed hplace] at hpath
    obtain ⟨dirs, name, node, hpath, hnode, hsource, hsuffix, -⟩ := hpath
    refine ⟨place, hplace, dirs, name, ?_⟩
    rcases hsource with ⟨content, rfl⟩ | ⟨target, rfl, -⟩
    · have hentries := (wellNamedNode_at? (.dir t) hnamed hnode).1
      refine ⟨content, hpath, ?_, ?_, ?_⟩
      · intro n hn
        refine hentries n ?_
        rw [List.append_assoc]
        exact List.mem_append_right _ hn
      · rw [accepts, List.contains_iff_mem]
        exact hsuffix
      · rw [content?, hnode]
        rfl
    · exact absurd hnode (ht _ target)
  · rw [(s.files_perm t root).mem_iff, s.below_of_not_directory t hdir] at hpath
    cases hpath

end Search

end Docent
