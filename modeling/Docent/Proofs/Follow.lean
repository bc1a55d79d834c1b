import Docent.Proofs.Path
import Docent.Proofs.Except
import Docent.Proofs.Steps

/-!
# Paths in a tree with links

Following a path takes one name after the other; a link is replaced by the names of its target as long
as links may be followed. Main statements: what a path leads to is there; names that say nothing do
not matter where a directory is reached; and where a regular file gets another content, every path
leads to where it led.
-/

namespace Docent.FileTree

/-! ### One name -/

theorem face?_concat (t : FileTree) (place : List String) (name : String) :
    t.face? (place ++ [name]) = ((entriesAt? t place).bind (named? name)).map FileNode.face := by
  rw [face?, node?_concat]

/-- What is done at a link, while some more may be followed. -/
def onLink (t : FileTree) (links : Nat) (place rest : List String) (target : String) :
    Except FileFault Goal :=
  if isAbsolute target then .error .missing
  else
    match links with
    | 0 => .error .tooManyLinks
    | fewer + 1 => follow t true fewer place (stepsOf target ++ rest)

/-- What is done at a name, by what is seen there. -/
def onName (t : FileTree) (links : Nat) (place rest : List String) (s : String) :
    Option FileNode → Except FileFault Goal
  | none => if rest = [] then .ok (.free place s) else .error .missing
  | some (.dir _) => follow t true links (place ++ [s]) rest
  | some (.file content) => if rest = [] then .ok (.file place s content) else .error .notADirectory
  | some (.link target) => onLink t links place rest target

section

variable (t : FileTree) (links : Nat) (place rest : List String)

theorem follow_nil : follow t true links place [] = .ok (.directory place) := by
  cases links <;> rfl

theorem follow_blank {s : String} (hs : s = "" ∨ s = ".") :
    follow t true links place (s :: rest) = follow t true links place rest := by
  cases links with
  | zero => rw [follow, walk, if_pos hs]
  | succ fewer => rw [follow, walk, if_pos hs]

theorem follow_dots :
    follow t true links place (".." :: rest) = follow t true links place.dropLast rest := by
  cases links with
  | zero => rw [follow, walk, if_neg (by decide), if_pos rfl]
  | succ fewer => rw [follow, walk, if_neg (by decide), if_pos rfl]

theorem follow_name {s : String} (hs : ¬ (s = "" ∨ s = ".")) (hdots : s ≠ "..") :
    follow t true links place (s :: rest) =
      onName t links place rest s (t.face? (place ++ [s])) := by
  rw [face?_concat]
  cases links with
  | zero =>
    rw [follow, walk, if_neg hs, if_neg hdots]
    rcases (entriesAt? t place).bind (named? s) with _ | ⟨_ | _ | _⟩ <;>
      simp [onName, onLink, FileNode.face, follow]
  | succ fewer =>
    rw [follow, walk, if_neg hs, if_neg hdots]
    rcases (entriesAt? t place).bind (named? s) with _ | ⟨_ | _ | _⟩ <;>
      simp [onName, onLink, FileNode.face, follow]

end

/-- Induction along a path: on the names that are left and, at a link, on the links that may still be
followed. -/
theorem follow_induction {motive : Nat → List String → List String → Prop}
    (nil : ∀ links place, motive links place [])
    (blank : ∀ links place s rest, s = "" ∨ s = "." → motive links place rest →
      motive links place (s :: rest))
    (dots : ∀ links place rest, motive links place.dropLast rest →
      motive links place (".." :: rest))
    (name : ∀ links place s rest, ¬ (s = "" ∨ s = ".") → s ≠ ".." →
      motive links (place ++ [s]) rest →
      (∀ fewer, links = fewer + 1 → ∀ names, motive fewer place names) →
      motive links place (s :: rest))
    (links : Nat) (place names : List String) : motive links place names := by
  -- a link may lead anywhere, but it leaves fewer links to follow
  induction links using Nat.strongRecOn generalizing place names with
  | ind links ihlinks =>
    induction names generalizing place with
    | nil => exact nil links place
    | cons s rest ih =>
      by_cases hs : s = "" ∨ s = "."
      · exact blank links place s rest hs (ih place)
      · by_cases hdots : s = ".."
        · subst hdots
          exact dots links place rest (ih place.dropLast)
        · refine name links place s rest hs hdots (ih (place ++ [s])) ?_
          rintro fewer rfl
          exact ihlinks fewer (Nat.lt_succ_self fewer) place

/-! ### What a path leads to -/

theorem hasDir_of_face? {t : FileTree} {place : List String} {es : FileTree}
    (h : t.face? place = some (.dir es)) : t.HasDir place := by
  obtain ⟨node, hnode, hface⟩ := Option.map_eq_some_iff.1 h
  cases node with
  | dir inner => exact ⟨inner, hnode⟩
  | file content => cases hface
  | link target => cases hface

theorem node?_of_face?_file {t : FileTree} {place : List String} {content : List UInt8}
    (h : t.face? place = some (.file content)) : t.node? place = some (.file content) := by
  obtain ⟨node, hnode, hface⟩ := Option.map_eq_some_iff.1 h
  cases node with
  | dir inner => cases hface
  | file old =>
    cases hface
    exact hnode
  | link target => cases hface

theorem stands_of_follow {t : FileTree} {links : Nat} {place names : List String}
    (h : t.HasDir place) {g : Goal} (hg : follow t true links place names = .ok g) :
    g.Stands t := by
  induction links, place, names using follow_induction with
  | nil links place =>
    rw [follow_nil] at hg
    cases hg
    exact h
  | blank links place s rest hs ih =>
    rw [follow_blank t links place rest hs] at hg
    exact ih h hg
  | dots links place rest ih =>
    rw [follow_dots] at hg
    exact ih h.dropLast hg
  | name links place s rest hs hdots ih ihlinks =>
    rw [follow_name t links place rest hs hdots] at hg
    -- nothing, a file, a link or a directory has the name
    rcases hface : t.face? (place ++ [s]) with _ | ⟨content | target | es⟩
    · rw [hface, onName] at hg
      split at hg <;> cases hg
      exact ⟨h, Option.map_eq_none_iff.1 hface⟩
    · rw [hface, onName] at hg
      split at hg <;> cases hg
      exact ⟨h, node?_of_face?_file hface⟩
    · rw [hface, onName, onLink.eq_def] at hg
      split at hg
      · cases hg
      · cases links with
        | zero => cases hg
        | succ fewer => exact ihlinks fewer rfl _ h hg
    · rw [hface] at hg
      exact ih (hasDir_of_face? hface) hg

theorem stands_of_goal {t : FileTree} {path : String} {g : Goal} (hg : t.goal path = .ok g) :
    g.Stands t := by
  rw [goal] at hg
  split at hg
  · cases hg
  · exact stands_of_follow (hasDir_nil t) hg

/-! ### Names that say nothing -/

/-- Names that say nothing do not matter where a directory is reached. They do at a file, after which
no name may come. -/
theorem follow_filter_eq_directory_iff (t : FileTree) (links : Nat) (place names d : List String) :
    follow t true links place (names.filter fun n => n != "" && n != ".") = .ok (.directory d) ↔
      follow t true links place names = .ok (.directory d) := by
  induction links, place, names using follow_induction with
  | nil links place => rfl
  | blank links place s rest hs ih =>
    have hdrop : (s != "" && s != ".") = false := by
      rcases hs with rfl | rfl <;> rfl
    rw [List.filter_cons_of_neg (by simp [hdrop]), follow_blank t links place rest hs]
    exact ih
  | dots links place rest ih =>
    rw [List.filter_cons_of_pos (by decide), follow_dots, follow_dots]
    exact ih
  | name links place s rest hs hdots ih ihlinks =>
    have hkeep : (s != "" && s != ".") = true := by simpa [not_or] using hs
    simp only [List.filter_cons, hkeep, if_true]
    rw [follow_name t links place _ hs hdots, follow_name t links place _ hs hdots]
    rcases t.face? (place ++ [s]) with _ | ⟨content | target | es⟩
    · rw [onName, onName]
      constructor <;> intro h <;> split at h <;> cases h
    · rw [onName, onName]
      constructor <;> intro h <;> split at h <;> cases h
    · rw [onName, onName, onLink.eq_def, onLink.eq_def]
      split
      · rfl
      · cases links with
        | zero => rfl
        | succ fewer =>
          have hfewer := ihlinks fewer rfl
          dsimp only
          -- with the target before them both lists have the same names that say something
          rw [← hfewer, ← hfewer (stepsOf target ++ rest), List.filter_append, List.filter_append,
            List.filter_filter]
          simp only [Bool.and_self]
    · exact ih

theorem isDir_text {t : FileTree} {root : String} {place : List String}
    (hroot : t.goal root = .ok (.directory place)) :
    t.isDir (Route.ofText root).text = true := by
  rw [goal] at hroot
  split at hroot
  · cases hroot
  · rename_i hpath
    rw [not_or, Bool.not_eq_true] at hpath
    have hrelative := Route.relative_ofText hpath.2
    have hsteps : follow t true mostLinks [] (stepsOf (Route.ofText root).text) =
        .ok (.directory place) := by
      -- a dot stands for a route without names
      have hnames := (follow_filter_eq_directory_iff t mostLinks [] (stepsOf root) place).2 hroot
      have hblank : follow t true mostLinks [] ["."] = follow t true mostLinks [] [] :=
        follow_blank t mostLinks [] [] (.inr rfl)
      rw [hrelative.steps_text]
      split
      · rename_i hnone
        rw [hblank]
        exact hnone ▸ hnames
      · exact hnames
    rw [isDir, goal, if_neg, hsteps]
    rw [not_or, hrelative.isAbsolute_text]
    exact ⟨hrelative.text_ne_empty, Bool.false_ne_true⟩

/-! ### A file with another content -/

/-- Where the file is that a path leads to, or would be. -/
def Goal.spot? : Goal → Option (List String)
  | .directory _ => none
  | .file place name _ => some (place ++ [name])
  | .free place name => some (place ++ [name])

def spot? (t : FileTree) (path : String) : Option (List String) := (t.goal path).toOption.bind Goal.spot?

/-- The trees look the same, but the second one has a file with some content at a place where the first
one has a file or nothing. -/
structure Refiled (t t' : FileTree) (q : List String) (content : List UInt8) : Prop where
  changed : t.ChangedAt t' q (.file content)
  bare : t.face? q = none ∨ ∃ old, t.face? q = some (.file old)

/-- Where a path leads once the file at a place has some content. -/
def Goal.refile (q : List String) (content : List UInt8) : Goal → Goal
  | .directory place => .directory place
  | .file place name old => .file place name (if place ++ [name] = q then content else old)
  | .free place name => if place ++ [name] = q then .file place name content else .free place name

/-- What is found when a path is followed in both trees. A path that leads nowhere still does, perhaps
for another reason: a file may now be where nothing was. -/
inductive Refiles (q : List String) (content : List UInt8) :
    Except FileFault Goal → Except FileFault Goal → Prop
  | found (g : Goal) : Refiles q content (.ok g) (.ok (g.refile q content))
  | lost (fault fault' : FileFault) : Refiles q content (.error fault) (.error fault')

theorem Goal.spot?_refile (q : List String) (content : List UInt8) (g : Goal) :
    (g.refile q content).spot? = g.spot? := by
  cases g with
  | directory place => rfl
  | file place name old => rfl
  | free place name =>
    rw [Goal.refile]
    split <;> rfl

theorem Refiles.last {q : List String} {content : List UInt8} {g g' : Goal}
    (hg : g' = g.refile q content) {rest : List String} {fault fault' : FileFault} :
    Refiles q content (if rest = [] then .ok g else .error fault)
      (if rest = [] then .ok g' else .error fault') := by
  subst hg
  split
  · exact .found g
  · exact .lost fault fault'

section

variable {t t' : FileTree} {q : List String} {content : List UInt8} (h : t.Refiled t' q content)
include h

theorem follow_refiled (links : Nat) (place names : List String) :
    Refiles q content (follow t true links place names) (follow t' true links place names) := by
  induction links, place, names using follow_induction with
  | nil links place =>
    rw [follow_nil, follow_nil]
    exact .found (.directory place)
  | blank links place s rest hs ih =>
    rw [follow_blank t links place rest hs, follow_blank t' links place rest hs]
    exact ih
  | dots links place rest ih =>
    rw [follow_dots, follow_dots]
    exact ih
  | name links place s rest hs hdots ih ihlinks =>
    rw [follow_name t links place rest hs hdots, follow_name t' links place rest hs hdots,
      h.changed (place ++ [s])]
    -- at the place of the file, which no name may follow; elsewhere nothing changed
    by_cases hq : place ++ [s] = q
    · have hface : (FileNode.file content).face = .file content := rfl
      rw [if_pos hq, hface]
      rcases hq ▸ h.bare with hfree | ⟨old, hfile⟩
      · rw [hfree, onName, onName]
        exact .last (by rw [Goal.refile, if_pos hq])
      · rw [hfile, onName, onName]
        exact .last (by rw [Goal.refile, if_pos hq])
    · rw [if_neg hq]
      rcases t.face? (place ++ [s]) with _ | ⟨old | target | es⟩
      · exact .last (by rw [Goal.refile, if_neg hq])
      · exact .last (by rw [Goal.refile, if_neg hq])
      · rw [onName, onName, onLink.eq_def, onLink.eq_def]
        split
        · exact .lost _ _
        · cases links with
          | zero => exact .lost _ _
          | succ fewer => exact ihlinks fewer rfl _
      · exact ih

theorem goal_refiled (path : String) : Refiles q content (t.goal path) (t'.goal path) := by
  rw [goal, goal]
  split
  · exact .lost _ _
  · exact follow_refiled h mostLinks [] (stepsOf path)

theorem spot?_refiled (path : String) : t'.spot? path = t.spot? path := by
  have hgoal := goal_refiled h path
  rw [spot?, spot?]
  generalize t.goal path = g at hgoal
  generalize t'.goal path = g' at hgoal
  cases hgoal with
  | found g => exact g.spot?_refile q content
  | lost fault fault' => rfl

/-- A file at another place is read as before. -/
theorem read_refiled {path : String} (hpath : t.spot? path ≠ some q) :
    (t'.read path).toOption = (t.read path).toOption := by
  have hgoal := goal_refiled h path
  rw [spot?] at hpath
  rw [read, read]
  generalize t.goal path = g at hgoal hpath
  generalize t'.goal path = g' at hgoal
  cases hgoal with
  | lost fault fault' => rfl
  | found g =>
    cases g with
    | directory place => rfl
    | file place name old =>
      have hne : place ++ [name] ≠ q := fun hq => hpath (congrArg some hq)
      rw [Goal.refile, if_neg hne]
    | free place name =>
      have hne : place ++ [name] ≠ q := fun hq => hpath (congrArg some hq)
      rw [Goal.refile, if_neg hne]

end

theorem refiled_of_stands {t : FileTree} {place : List String} {name : String}
    (hdir : t.HasDir place)
    (hnode : t.node? (place ++ [name]) = none ∨ ∃ old, t.node? (place ++ [name]) = some (.file old))
    (content : List UInt8) :
    t.Refiled (putAt (.file content) name t place) (place ++ [name]) content := by
  rcases hnode with hfree | ⟨old, hfile⟩
  · refine ⟨changedAt_putAt hdir (not_hasDir_of_free hfree) fun _ _ => rfl, .inl ?_⟩
    rw [face?, hfree]
    rfl
  · refine ⟨changedAt_putAt hdir (not_hasDir_of_file hfile) fun _ _ => rfl, .inr ⟨old, ?_⟩⟩
    rw [face?, hfile]
    rfl

theorem stands_of_openFile {t : FileTree} {path name : String} {place : List String}
    {old : List UInt8} (h : openFile t path = .ok (place, name, old)) :
    t.spot? path = some (place ++ [name]) ∧ t.HasDir place ∧
      (t.node? (place ++ [name]) = none ∨
        ∃ old, t.node? (place ++ [name]) = some (.file old)) := by
  rw [openFile] at h
  split at h
  · rename_i hgoal
    cases h
    obtain ⟨hdir, hnode⟩ := stands_of_goal hgoal
    rw [spot?, hgoal]
    exact ⟨rfl, hdir, .inr ⟨old, hnode⟩⟩
  · rename_i hgoal
    cases h
    obtain ⟨hdir, hnode⟩ := stands_of_goal hgoal
    rw [spot?, hgoal]
    exact ⟨rfl, hdir, .inl hnode⟩
  · cases h
  · cases h

theorem goal_of_read {t : FileTree} {path : String} {bytes : List UInt8}
    (h : t.read path = .ok bytes) : ∃ place name, t.goal path = .ok (.file place name bytes) := by
  rw [read] at h
  split at h
  · cases h
    exact ⟨_, _, ‹_›⟩
  all_goals cases h

theorem refiled_of_write {t t' : FileTree} {path : String} {content : List UInt8}
    (h : t.write path content = .ok t') :
    ∃ q, t.spot? path = some q ∧ t.Refiled t' q content := by
  obtain ⟨⟨place, name, old⟩, hopen, rfl⟩ := ok_of_map h
  obtain ⟨hspot, hdir, hnode⟩ := stands_of_openFile hopen
  exact ⟨place ++ [name], hspot, refiled_of_stands hdir hnode content⟩

/-- What was written through a path is read through it. -/
theorem read_of_write {t t' : FileTree} {path : String} {content : List UInt8}
    (h : t.write path content = .ok t') : t'.read path = .ok content := by
  obtain ⟨q, hspot, hrefiled⟩ := refiled_of_write h
  have hgoal := goal_refiled hrefiled path
  rw [spot?] at hspot
  rw [read]
  generalize t.goal path = g at hgoal hspot
  generalize t'.goal path = g' at hgoal
  cases hgoal with
  | lost fault fault' => cases hspot
  | found g =>
    cases g with
    | directory place => cases hspot
    | file place name old =>
      have hq : place ++ [name] = q := Option.some.inj hspot
      rw [Goal.refile, if_pos hq]
    | free place name =>
      have hq : place ++ [name] = q := Option.some.inj hspot
      rw [Goal.refile, if_pos hq]

theorem refiled_of_append {t t' : FileTree} {path : String} {more : List UInt8}
    (h : t.append path more = .ok t') :
    ∃ q content, t.spot? path = some q ∧ t.Refiled t' q content := by
  obtain ⟨⟨place, name, old⟩, hopen, rfl⟩ := ok_of_map h
  obtain ⟨hspot, hdir, hnode⟩ := stands_of_openFile hopen
  exact ⟨place ++ [name], old ++ more, hspot, refiled_of_stands hdir hnode (old ++ more)⟩

end Docent.FileTree
