import Docent.Proofs.Path
import Docent.Proofs.Steps
import Docent.Proofs.Except

/-!
# Directories that are made, files that are written

In a tree without links, making directories touches no regular file, and fails only where a regular
file stands in the way. Main statements: what comes of making a directory with those that lead to it;
what is seen once a file has been written.
-/

namespace Docent.FileTree

/-! ### Routes -/

theorem lead_text {r : Route} (hr : r.Relative) (t : FileTree) :
    lead t [] (stepsOf r.text) = lead t [] r.names := by
  rw [hr.steps_text]
  split
  · rename_i hnames
    rw [hnames]
    rfl
  · rfl

theorem placeOf_text {r : Route} (hr : r.Relative) : placeOf r.text = settle [] r.names := by
  rw [placeOf, hr.steps_text]
  split
  · rename_i hnames
    rw [hnames]
    rfl
  · rfl

theorem placeOf_eq (path : String) : placeOf path = settle [] (Route.ofText path).names :=
  (settle_filter [] (stepsOf path)).symm

/-! ### One directory -/

/-- A tree with more directories and the same regular files. -/
structure Extended (t t' : FileTree) : Prop where
  linkFree : t'.LinkFree
  content : t'.content? = t.content?

def Ready (t : FileTree) (r : Route) : Prop := ∃ place, lead t [] r.names = .ok (.directory place)

/-- What comes of making directories: the route leads to one, or a regular file is in the way. -/
inductive Makes (t : FileTree) (r : Route) : FileTree × Option FileError → Prop
  | made {t' : FileTree} (hext : t.Extended t') (hready : t'.Ready r) : Makes t r (t', none)
  | stopped {t' : FileTree} {e : FileError} (hext : t.Extended t') (hmeets : t.Meets [] r.names) :
      Makes t r (t', some e)

section

variable {t : FileTree} (ht : t.LinkFree) {r : Route}
include ht

theorem makes_of_free {place : List String} {name : String}
    (hfree : lead t [] r.names = .ok (.free place name)) :
    t.Makes r (putAt (.dir []) name t place, none) := by
  obtain ⟨⟨hdir, hnone⟩, -⟩ := lead_stands ht (hasDir_nil t) hfree
  have hchanged : t.ChangedAt (putAt (.dir []) name t place) (place ++ [name]) (.dir []) :=
    changedAt_putAt hdir (not_hasDir_of_free hnone) fun _ _ => rfl
  have hlink := hchanged.linkFree ht fun _ => by simp
  exact .made ⟨hlink, hchanged.content?_dir hnone⟩
    ⟨_, lead_made ht (hasDir_nil t) hfree hchanged⟩

theorem meets_of_file {place : List String} {name : String} {content : List UInt8}
    (hfile : lead t [] r.names = .ok (.file place name content)) : t.Meets [] r.names := by
  obtain ⟨⟨-, hnode⟩, hplace⟩ := lead_stands ht (hasDir_nil t) hfile
  refine ⟨r.names, [], content, (List.append_nil _).symm, ?_⟩
  rw [← hplace, content?, Goal.place, hnode]
  rfl

variable (hr : r.Relative)
include hr

theorem isDir_iff : isDir t r.text = true ↔ t.Ready r := by
  rw [isDir, goal_eq_lead ht hr.text_ne_empty hr.isAbsolute_text, lead_text hr, Ready]
  rcases lead t [] r.names with e | (_ | _ | _) <;> simp

theorem makeDir_eq :
    makeDir t r = match lead t [] r.names with
      | .ok (.free place name) => .ok (putAt (.dir []) name t place)
      | .ok _ => .error ⟨.alreadyThere, r.text⟩
      | .error fault => .error ⟨fault, r.text⟩ := by
  rcases hlead : lead t [] r.names with e | (_ | _ | _) <;>
    simp [makeDir, hr.isAbsolute_text, follow_eq_lead ht, lead_text hr, hlead]

theorem ensureDir_makes (h : lead t [] r.names ≠ .error .missing) :
    t.Makes r (ensureDir t r) := by
  have hsame : t.Extended t := ⟨ht, rfl⟩
  rw [ensureDir.eq_def, makeDir_eq ht hr]
  rcases hlead : lead t [] r.names with fault | (place | ⟨place, name, content⟩ | ⟨place, name⟩)
  · have hdir : ¬ isDir t r.text = true := by
      rw [isDir_iff ht hr, Ready, hlead]
      simp
    dsimp only
    rw [if_neg fun h => hdir h.1]
    rcases lead_error ht (hasDir_nil t) hlead with rfl | hmeets
    · exact absurd hlead h
    · exact .stopped hsame hmeets
  · have hready : t.Ready r := ⟨place, hlead⟩
    have hdir := (isDir_iff ht hr).2 hready
    dsimp only
    rw [if_pos ⟨hdir, by simp⟩]
    exact .made hsame hready
  · have hdir : ¬ isDir t r.text = true := by
      rw [isDir_iff ht hr, Ready, hlead]
      simp
    dsimp only
    rw [if_neg fun h => hdir h.1]
    exact .stopped hsame (meets_of_file ht hlead)
  · exact makes_of_free ht hlead

theorem makeDirs_eq_ensureDir (h : lead t [] r.names ≠ .error .missing) (depth : Nat) :
    makeDirs t r (depth + 1) = ensureDir t r := by
  rw [makeDirs.eq_def, ensureDir.eq_def, makeDir_eq ht hr]
  rcases hlead : lead t [] r.names with fault | (place | ⟨place, name, content⟩ | ⟨place, name⟩)
  · have hfault : fault ≠ .missing := by
      rintro rfl
      exact h hlead
    simp [hfault]
  · simp
  · simp
  · rfl

end

/-! ### Directories on a route -/

theorem exists_lead_of_parent {t : FileTree} (ht : t.LinkFree) {r : Route}
    (hready : t.Ready r.parent) : ∃ g, lead t [] r.names = .ok g := by
  obtain ⟨place, hplace⟩ := hready
  have hstands := (lead_stands ht (hasDir_nil t) hplace).1
  rcases List.eq_nil_or_concat r.names with hnames | ⟨front, name, hnames⟩
  · rw [hnames]
    exact ⟨_, lead_nil t []⟩
  · rw [List.concat_eq_append] at hnames
    rw [Route.parent, hnames, List.dropLast_concat] at hplace
    rw [hnames, lead_append ht (hasDir_nil t) hplace]
    exact exists_lead_single ht hstands name

theorem Meets.of_dropLast {t : FileTree} {names : List String} (h : t.Meets [] names.dropLast) :
    t.Meets [] names := by
  obtain ⟨front, back, content, hnames, hcontent⟩ := h
  rcases List.eq_nil_or_concat names with rfl | ⟨front', name, rfl⟩
  · exact ⟨front, back, content, hnames, hcontent⟩
  · rw [List.concat_eq_append, List.dropLast_concat] at hnames
    exact ⟨front, back ++ [name], content, by rw [List.concat_eq_append, hnames, List.append_assoc],
      hcontent⟩

theorem makeDirs_makes {t : FileTree} (ht : t.LinkFree) {r : Route} (hr : r.Relative) {depth : Nat}
    (hdepth : r.names.length ≤ depth) : t.Makes r (makeDirs t r depth) := by
  -- on the depth: where the last directory lacks its parent, that one is made first
  induction depth generalizing r with
  | zero =>
    have hnames : r.names = [] := List.length_eq_zero_iff.1 (Nat.le_zero.1 hdepth)
    exact ensureDir_makes ht hr (by rw [hnames, lead_nil]; simp)
  | succ depth ih =>
    by_cases hmissing : lead t [] r.names = .error .missing
    · have hnames : r.names ≠ [] := by
        intro hnames
        rw [hnames, lead_nil] at hmissing
        cases hmissing
      have hparent : r.parent.names.length ≤ depth := by
        rw [Route.parent, List.length_dropLast]
        omega
      have hmakes := ih hr.parent hparent
      rw [makeDirs.eq_def, makeDir_eq ht hr, hmissing]
      simp only [if_true, if_neg hnames]
      generalize makeDirs t r.parent depth = result at hmakes
      cases hmakes with
      | stopped hext hmeets => exact .stopped hext hmeets.of_dropLast
      | @made t' hext hready =>
        -- with the directories that lead to it the last one can be made
        obtain ⟨g, hg⟩ := exists_lead_of_parent hext.linkFree hready
        have hlast := ensureDir_makes hext.linkFree hr (by rw [hg]; simp)
        simp only
        generalize ensureDir t' r = result at hlast
        cases hlast with
        | made hext' hready' =>
          exact .made ⟨hext'.linkFree, hext'.content.trans hext.content⟩ hready'
        | stopped hext' hmeets =>
          have hbefore : t.Meets [] r.names := by
            rwa [Meets, hext.content] at hmeets
          exact .stopped ⟨hext'.linkFree, hext'.content.trans hext.content⟩ hbefore
    · rw [makeDirs_eq_ensureDir ht hr hmissing]
      exact ensureDir_makes ht hr hmissing

theorem makeDirs_of_root {t : FileTree} {r : Route} (h : r.root.toList.head? = some '/')
    (depth : Nat) : ∃ e, makeDirs t r depth = (t, some e) := by
  have hmake {r : Route} (h : r.root.toList.head? = some '/') :
      makeDir t r = .error ⟨.missing, r.text⟩ := by
    simp only [makeDir, Route.isAbsolute_text h, if_true]
  induction depth generalizing r with
  | zero =>
    refine ⟨⟨.missing, r.text⟩, ?_⟩
    rw [makeDirs.eq_def, ensureDir.eq_def, hmake h]
    simp
  | succ depth ih =>
    have hparent : r.parent.root.toList.head? = some '/' := h
    obtain ⟨e, he⟩ := ih hparent
    rw [makeDirs.eq_def, hmake h]
    simp only [if_true, he]
    split
    · exact ⟨_, rfl⟩
    · exact ⟨_, rfl⟩

/-! ### Files -/

section

variable {t t' : FileTree} (ht : t.LinkFree) {path : String}
include ht

theorem goal_stands {g : Goal} (hg : goal t path = .ok g) :
    g.Stands t ∧ g.place = placeOf path := by
  rw [goal] at hg
  split at hg
  · cases hg
  · rw [follow_eq_lead ht] at hg
    exact lead_stands ht (hasDir_nil t) hg

theorem opened {place : List String} {name : String} {old : List UInt8}
    (h : openFile t path = .ok (place, name, old)) :
    placeOf path = place ++ [name] ∧ t.HasDir place ∧ ¬ t.HasDir (place ++ [name]) ∧
      ∀ content, t.content? (placeOf path) = some content → content = old := by
  rw [openFile] at h
  split at h
  · rename_i hgoal
    cases h
    obtain ⟨⟨hdir, hnode⟩, hplace⟩ := goal_stands ht hgoal
    rw [← hplace, Goal.place, content?, hnode]
    refine ⟨rfl, hdir, not_hasDir_of_file hnode, ?_⟩
    intro content hcontent
    exact (Option.some.inj hcontent).symm
  · rename_i hgoal
    cases h
    obtain ⟨⟨hdir, hnode⟩, hplace⟩ := goal_stands ht hgoal
    rw [← hplace, Goal.place, content?, hnode]
    refine ⟨rfl, hdir, not_hasDir_of_free hnode, ?_⟩
    intro content hcontent
    cases hcontent
  · cases h
  · cases h

theorem changedAt_write {content : List UInt8} (h : write t path content = .ok t') :
    t.ChangedAt t' (placeOf path) (.file content) := by
  obtain ⟨⟨place, name, old⟩, hopen, rfl⟩ := ok_of_map h
  obtain ⟨hplace, hdir, hnot, -⟩ := opened ht hopen
  rw [hplace]
  exact changedAt_putAt hdir hnot fun _ _ => rfl

theorem changedAt_append {more : List UInt8} (h : append t path more = .ok t') :
    ∃ old, t.ChangedAt t' (placeOf path) (.file (old ++ more)) ∧
      ∀ content, t.content? (placeOf path) = some content → content = old := by
  obtain ⟨⟨place, name, old⟩, hopen, rfl⟩ := ok_of_map h
  obtain ⟨hplace, hdir, hnot, hold⟩ := opened ht hopen
  refine ⟨old, ?_, hold⟩
  rw [hplace]
  exact changedAt_putAt hdir hnot fun _ _ => rfl

theorem write_of_ready {r : Route} (hr : r.Relative) (hready : t.Ready r.parent)
    (content : List UInt8) :
    (∃ t', write t r.text content = .ok t') ∨ t.HasDir (settle [] r.names) := by
  obtain ⟨g, hlead⟩ := exists_lead_of_parent ht hready
  have hgoal : goal t r.text = .ok g := by
    rw [goal_eq_lead ht hr.text_ne_empty hr.isAbsolute_text, lead_text hr, hlead]
  rw [write, openFile, hgoal]
  cases g with
  | file place name old => exact .inl ⟨_, rfl⟩
  | free place name => exact .inl ⟨_, rfl⟩
  | directory place =>
    obtain ⟨hdir, hplace⟩ := lead_stands ht (hasDir_nil t) hlead
    exact .inr (hplace ▸ hdir)

end

end Docent.FileTree
