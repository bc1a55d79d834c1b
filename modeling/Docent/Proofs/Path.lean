import Docent.Proofs.Stored

/-!
# Where paths lead

In a tree without links the place that a path leads to can be told from its names alone. Main
statements: what is found by following a path stands at that place; and following fails only at a
regular file on the way, or at a directory that is not there.
-/

namespace Docent.FileTree

/-! ### Places of paths -/

/-- The place that names lead to from another one, each pair of dots one directory back. -/
def settle (place : List String) : List String → List String
  | [] => place
  | s :: rest =>
    if s = "" ∨ s = "." then settle place rest
    else if s = ".." then settle place.dropLast rest
    else settle (place ++ [s]) rest

def placeOf (path : String) : List String := settle [] (stepsOf path)

theorem settle_append (place names names' : List String) :
    settle place (names ++ names') = settle (settle place names) names' := by
  induction names generalizing place with
  | nil => rfl
  | cons s rest ih =>
    rw [List.cons_append, settle, settle]
    split
    · exact ih place
    · split
      · exact ih place.dropLast
      · exact ih (place ++ [s])

theorem settle_cons (place : List String) (s : String) (rest : List String) :
    settle place (s :: rest) = settle (settle place [s]) rest :=
  settle_append place [s] rest

theorem settle_filter (place names : List String) :
    settle place (names.filter fun n => n != "" && n != ".") = settle place names := by
  induction names generalizing place with
  | nil => rfl
  | cons s rest ih =>
    by_cases hs : s = "" ∨ s = "."
    · have hdrop : (s != "" && s != ".") = false := by
        rcases hs with rfl | rfl <;> simp
      rw [settle, if_pos hs]
      simp only [List.filter_cons, hdrop]
      exact ih place
    · have hkeep : (s != "" && s != ".") = true := by simpa [not_or] using hs
      simp only [List.filter_cons, hkeep, if_true]
      rw [settle_cons, settle_cons place s rest, ih]

/-! ### Following names

Without links it does not matter what would be done at one. -/

/-- Where names lead from a place, up to a link. -/
def lead (t : FileTree) (place names : List String) : Except FileFault Goal :=
  walk t true (fun _ _ => .error .tooManyLinks) place names

theorem lead_nil (t : FileTree) (place : List String) : lead t place [] = .ok (.directory place) :=
  rfl

theorem walk_eq_lead {t : FileTree} (ht : t.LinkFree) (through : Bool)
    (onLink : List String → List String → Except FileFault Goal) (place names : List String) :
    walk t through onLink place names = lead t place names := by
  induction names generalizing place with
  | nil => rfl
  | cons s rest ih =>
    rw [lead, walk, walk]
    split
    · exact ih place
    · split
      · exact ih place.dropLast
      · rw [← node?_concat]
        cases hnode : t.node? (place ++ [s]) with
        | none => rfl
        | some node =>
          cases node with
          | dir es => exact ih (place ++ [s])
          | file content => rfl
          | link target => exact absurd hnode (ht _ target)

theorem follow_eq_lead {t : FileTree} (ht : t.LinkFree) (through : Bool) (links : Nat)
    (place names : List String) : follow t through links place names = lead t place names := by
  cases links with
  | zero => exact walk_eq_lead ht through _ place names
  | succ links => exact walk_eq_lead ht through _ place names

theorem goal_eq_lead {t : FileTree} (ht : t.LinkFree) {path : String} (hempty : path ≠ "")
    (habs : isAbsolute path = false) : goal t path = lead t [] (stepsOf path) := by
  rw [goal, if_neg (by simp [hempty, habs]), follow_eq_lead ht]

/-! ### One name -/

theorem LinkFree.cases {t : FileTree} (ht : t.LinkFree) (place : List String) :
    t.node? place = none ∨ t.HasDir place ∨ ∃ content, t.node? place = some (.file content) := by
  cases hnode : t.node? place with
  | none => exact .inl rfl
  | some node =>
    cases node with
    | dir es => exact .inr (.inl ⟨es, hnode⟩)
    | file content => exact .inr (.inr ⟨content, rfl⟩)
    | link target => exact absurd hnode (ht place target)

section

variable {t : FileTree} {place : List String} {s : String}

theorem lead_of_hasDir (h : t.HasDir (settle place [s])) (rest : List String) :
    lead t place (s :: rest) = lead t (settle place [s]) rest := by
  rw [lead, walk, settle, settle] at *
  split at h
  · rename_i hs
    rw [if_pos hs, if_pos hs]
    rfl
  · rename_i hs
    rw [if_neg hs, if_neg hs]
    split at h
    · rename_i hdots
      rw [if_pos hdots, if_pos hdots]
      rfl
    · rename_i hdots
      obtain ⟨es, hes⟩ := h
      rw [settle, node?_concat] at hes
      rw [if_neg hdots, if_neg hdots, hes]
      rfl

/-- A name that does not lead to a directory is one below the place where it is met. -/
theorem settle_of_not_hasDir (h : t.HasDir place) (hs : ¬ t.HasDir (settle place [s])) :
    settle place [s] = place ++ [s] ∧ ¬ (s = "" ∨ s = ".") ∧ s ≠ ".." := by
  rw [settle] at hs ⊢
  by_cases hsame : s = "" ∨ s = "."
  · rw [if_pos hsame] at hs
    exact absurd h hs
  · by_cases hdots : s = ".."
    · rw [if_neg hsame, if_pos hdots] at hs
      exact absurd h.dropLast hs
    · rw [if_neg hsame, if_neg hdots]
      exact ⟨rfl, hsame, hdots⟩

theorem lead_of_free (h : t.HasDir place) (hs : t.node? (settle place [s]) = none)
    (rest : List String) :
    lead t place (s :: rest) = if rest = [] then .ok (.free place s) else .error .missing := by
  obtain ⟨hplace, hsame, hdots⟩ := settle_of_not_hasDir h (not_hasDir_of_free hs)
  rw [hplace, node?_concat] at hs
  rw [lead, walk, if_neg hsame, if_neg hdots, hs]

theorem lead_of_file {content : List UInt8} (h : t.HasDir place)
    (hs : t.node? (settle place [s]) = some (.file content)) (rest : List String) :
    lead t place (s :: rest) =
      if rest = [] then .ok (.file place s content) else .error .notADirectory := by
  obtain ⟨hplace, hsame, hdots⟩ := settle_of_not_hasDir h (not_hasDir_of_file hs)
  rw [hplace, node?_concat] at hs
  rw [lead, walk, if_neg hsame, if_neg hdots, hs]

end

/-! ### What names lead to -/

def Goal.place : Goal → List String
  | .directory place => place
  | .file place name _ => place ++ [name]
  | .free place name => place ++ [name]

/-- What a path leads to is there, or its name is free in a directory. -/
def Goal.Stands (t : FileTree) : Goal → Prop
  | .directory place => t.HasDir place
  | .file place name content =>
    t.HasDir place ∧ t.node? (place ++ [name]) = some (.file content)
  | .free place name => t.HasDir place ∧ t.node? (place ++ [name]) = none

/-- Names that lead to a regular file, or on from one. -/
def Meets (t : FileTree) (place names : List String) : Prop :=
  ∃ front back content, names = front ++ back ∧ t.content? (settle place front) = some content

section

variable {t : FileTree} (ht : t.LinkFree) {place : List String} (h : t.HasDir place)
include ht h

theorem lead_stands {names : List String} {g : Goal} (hg : lead t place names = .ok g) :
    g.Stands t ∧ g.place = settle place names := by
  induction names generalizing place with
  | nil =>
    cases hg
    exact ⟨h, rfl⟩
  | cons s rest ih =>
    rw [settle_cons]
    rcases ht.cases (settle place [s]) with hfree | hdir | ⟨content, hfile⟩
    · rw [lead_of_free h hfree] at hg
      split at hg
      · rename_i hlast
        cases hg
        subst hlast
        obtain ⟨hplace, -⟩ := settle_of_not_hasDir h (not_hasDir_of_free hfree)
        rw [hplace] at hfree ⊢
        exact ⟨⟨h, hfree⟩, rfl⟩
      · cases hg
    · rw [lead_of_hasDir hdir] at hg
      exact ih hdir hg
    · rw [lead_of_file h hfile] at hg
      split at hg
      · rename_i hlast
        cases hg
        subst hlast
        obtain ⟨hplace, -⟩ := settle_of_not_hasDir h (not_hasDir_of_file hfile)
        rw [hplace] at hfile ⊢
        exact ⟨⟨h, hfile⟩, rfl⟩
      · cases hg

theorem lead_error {names : List String} {fault : FileFault}
    (hfault : lead t place names = .error fault) : fault = .missing ∨ t.Meets place names := by
  induction names generalizing place with
  | nil => cases hfault
  | cons s rest ih =>
    rcases ht.cases (settle place [s]) with hfree | hdir | ⟨content, hfile⟩
    · rw [lead_of_free h hfree] at hfault
      split at hfault
      · cases hfault
      · cases hfault
        exact .inl rfl
    · rw [lead_of_hasDir hdir] at hfault
      rcases ih hdir hfault with hmissing | ⟨front, back, content, rfl, hcontent⟩
      · exact .inl hmissing
      · refine .inr ⟨s :: front, back, content, rfl, ?_⟩
        rw [settle_cons, hcontent]
    · rw [lead_of_file h hfile] at hfault
      refine .inr ⟨[s], rest, content, rfl, ?_⟩
      rw [content?, hfile]
      rfl

theorem lead_append {names : List String} {d : List String}
    (hd : lead t place names = .ok (.directory d)) (names' : List String) :
    lead t place (names ++ names') = lead t d names' := by
  induction names generalizing place with
  | nil =>
    cases hd
    rfl
  | cons s rest ih =>
    rw [List.cons_append]
    rcases ht.cases (settle place [s]) with hfree | hdir | ⟨content, hfile⟩
    · rw [lead_of_free h hfree] at hd
      split at hd <;> cases hd
    · rw [lead_of_hasDir hdir] at hd ⊢
      exact ih hdir hd
    · rw [lead_of_file h hfile] at hd
      split at hd <;> cases hd

theorem exists_lead_single (s : String) : ∃ g, lead t place [s] = .ok g := by
  rcases ht.cases (settle place [s]) with hfree | hdir | ⟨content, hfile⟩
  · exact ⟨_, lead_of_free h hfree []⟩
  · exact ⟨_, lead_of_hasDir hdir []⟩
  · exact ⟨_, lead_of_file h hfile []⟩

theorem lead_made {t' : FileTree} {names d : List String} {n : String}
    (hfree : lead t place names = .ok (.free d n)) (hmade : t.ChangedAt t' (d ++ [n]) (.dir [])) :
    lead t' place names = .ok (.directory (d ++ [n])) := by
  induction names generalizing place with
  | nil => cases hfree
  | cons s rest ih =>
    rcases ht.cases (settle place [s]) with hnone | hdir | ⟨content, hfile⟩
    · rw [lead_of_free h hnone] at hfree
      split at hfree
      · -- the name that was free is the last one
        rename_i hlast
        cases hfree
        subst hlast
        obtain ⟨hplace, -⟩ := settle_of_not_hasDir h (not_hasDir_of_free hnone)
        have hdir : t'.HasDir (settle d [n]) := by
          rw [hplace, hasDir_iff, hmade, if_pos rfl]
          rfl
        rw [lead_of_hasDir hdir, lead_nil, hplace]
      · cases hfree
    · rw [lead_of_hasDir hdir] at hfree
      rw [lead_of_hasDir (hmade.hasDir rfl hdir)]
      exact ih hdir hfree
    · rw [lead_of_file h hfile] at hfree
      split at hfree <;> cases hfree

end

end Docent.FileTree
