import Docent.Proofs.Discovery
import Docent.Proofs.Written

/-!
# Leaves that are overlooked

Discovery looks at the names of leaves only. Main statements: making directories, and writing or
appending to files with names that are not looked for, leaves every directory where it is, with the
same leaves below it as far as they are looked for; and then discovery finds what it found.
-/

namespace Docent

open FileTree

namespace FileTree

variable {p : String → Bool}

/-! ### Leaves with names that are looked for -/

/-- Whether the name of a leaf is looked for. -/
def isSought (p : String → Bool) (l : List String × FileNode) : Bool := p (l.1.getLast?.getD "")

def sought (p : String → Bool) (es : FileTree) : List (List String × FileNode) :=
  (leaves es).filter (isSought p)

/-- The leaves at and below a node that has a name in a directory. -/
def soughtAt (p : String → Bool) (name : String) (node : FileNode) : List (List String × FileNode) :=
  ((leavesOf node).map fun l => (name :: l.1, l.2)).filter (isSought p)

theorem sought_cons (name : String) (node : FileNode) (es : FileTree) :
    sought p ((name, node) :: es) = soughtAt p name node ++ sought p es := by
  rw [sought, leaves, List.filter_append, soughtAt, sought]

theorem soughtAt_of_isLeaf {name : String} (hname : p name = false) {node : FileNode}
    (hnode : isLeaf node = true) : soughtAt p name node = [] := by
  rw [soughtAt, leavesOf_of_isLeaf hnode, List.map_singleton, List.filter_singleton]
  have hsought : isSought p ([name], node) = false := hname
  rw [hsought]
  rfl

theorem soughtAt_dir (name : String) (es : FileTree) :
    soughtAt p name (.dir es) = (sought p es).map fun l => (name :: l.1, l.2) := by
  rw [soughtAt, leavesOf, List.filter_map, sought]
  congr 1
  refine List.filter_congr fun l hl => ?_
  obtain ⟨n, ns, hcons⟩ := List.exists_cons_of_ne_nil (ne_nil_of_mem_leaves hl)
  rw [Function.comp_apply, isSought, isSought, hcons, List.getLast?_cons_cons]

/-- Nothing that is looked for comes or goes with a node that stands in for another one. -/
theorem sought_putEntry {name : String} {node : FileNode} {es : FileTree}
    (h : soughtAt p name node = ((named? name es).map (soughtAt p name)).getD []) :
    sought p (putEntry name node es) = sought p es := by
  induction es with
  | nil =>
    rw [putEntry, sought_cons, h]
    rfl
  | cons e es ih =>
    obtain ⟨n, old⟩ := e
    rw [named?] at h
    rw [putEntry]
    split
    · rename_i hn
      subst hn
      rw [if_pos rfl] at h
      rw [sought_cons, sought_cons, h]
      rfl
    · rename_i hn
      rw [if_neg hn] at h
      rw [sought_cons, sought_cons, ih h]

/-! ### Trees with the same leaves -/

/-- All directories stay where they are, with the same leaves below them as far as they are looked
for. -/
def KeepsSought (p : String → Bool) (t t' : FileTree) : Prop :=
  ∀ place es, entriesAt? t place = some es →
    ∃ es', entriesAt? t' place = some es' ∧ sought p es' = sought p es

theorem KeepsSought.refl (p : String → Bool) (t : FileTree) : KeepsSought p t t :=
  fun _ es hes => ⟨es, hes, rfl⟩

theorem KeepsSought.trans {t t' t'' : FileTree} (h : KeepsSought p t t')
    (h' : KeepsSought p t' t'') : KeepsSought p t t'' := by
  intro place es hes
  obtain ⟨es', hes', hsame⟩ := h place es hes
  obtain ⟨es'', hes'', hsame'⟩ := h' place es' hes'
  exact ⟨es'', hes'', hsame'.trans hsame⟩

theorem KeepsSought.hasDir {t t' : FileTree} (h : KeepsSought p t t') {place : List String}
    (hplace : t.HasDir place) : t'.HasDir place := by
  obtain ⟨es, hes⟩ := hplace
  obtain ⟨es', hes', -⟩ := h place es ((entriesAt?_eq_some_iff t place es).2 hes)
  exact ⟨es', (entriesAt?_eq_some_iff t' place es').1 hes'⟩

theorem KeepsSought.whole {t t' : FileTree} (h : KeepsSought p t t') : sought p t' = sought p t := by
  obtain ⟨es', hes', hsame⟩ := h [] t rfl
  cases hes'
  exact hsame

/-- Putting a node under a name, with the same below it as far as it is looked for. -/
theorem keepsSought_putEntry {t : FileTree} {name : String} {node : FileNode}
    (hwhole : soughtAt p name node = ((named? name t).map (soughtAt p name)).getD [])
    (hbelow : ∀ es, named? name t = some (.dir es) → ∃ es', node = .dir es' ∧ KeepsSought p es es') :
    KeepsSought p t (putEntry name node t) := by
  intro q es hes
  cases q with
  | nil =>
    cases hes
    exact ⟨_, rfl, sought_putEntry hwhole⟩
  | cons d ds =>
    rw [entriesAt?] at hes
    rw [entriesAt?, named?_putEntry]
    by_cases hd : d = name
    · subst hd
      split at hes
      · rename_i inner hinner
        obtain ⟨inner', rfl, hkeeps⟩ := hbelow inner hinner
        rw [if_pos rfl]
        exact hkeeps ds es hes
      · cases hes
    · rw [if_neg hd]
      exact ⟨es, hes, rfl⟩

/-- Putting a node under a name, in place of a leaf or of nothing, where neither holds anything that is
looked for. -/
theorem keepsSought_putAt {t : FileTree} {place : List String} {name : String} {node : FileNode}
    (hdir : t.HasDir place) (hnot : ¬ t.HasDir (place ++ [name]))
    (hnode : soughtAt p name node = [])
    (hold : ∀ old, t.node? (place ++ [name]) = some old → soughtAt p name old = []) :
    KeepsSought p t (putAt node name t place) := by
  induction place generalizing t with
  | nil =>
    -- the directory itself, where the entry is put
    have hat : t.node? ([] ++ [name]) = named? name t := by
      rw [List.nil_append, node?, FileNode.at?_dir_cons]
      cases named? name t <;> rfl
    rw [hat] at hold
    refine keepsSought_putEntry ?_ fun es hes => absurd ⟨es, hat.trans hes⟩ hnot
    rw [hnode]
    cases hnamed : named? name t with
    | none => rfl
    | some old => exact (hold old hnamed).symm
  | cons e rest ih =>
    obtain ⟨entries, hentries⟩ := hdir
    rw [node?, FileNode.at?_dir_cons] at hentries
    obtain ⟨first, hfirst, hbelow⟩ := Option.bind_eq_some_iff.1 hentries
    cases first with
    | file content => cases rest <;> cases hbelow
    | link target => cases rest <;> cases hbelow
    | dir inner =>
      -- a directory on the way, in which it is put below
      have hat (names : List String) : t.node? (e :: names) = node? inner names := by
        rw [node?, FileNode.at?_dir_cons, hfirst]
        rfl
      have hinner : KeepsSought p inner (putAt node name inner rest) := by
        refine ih ⟨entries, hbelow⟩ ?_ ?_
        · rintro ⟨es, hes⟩
          exact hnot ⟨es, by rw [List.cons_append, hat, hes]⟩
        · intro old hnode'
          exact hold old (by rw [List.cons_append, hat, hnode'])
      rw [putAt, hfirst]
      refine keepsSought_putEntry ?_ ?_
      · rw [hfirst, Option.map_some, Option.getD_some, soughtAt_dir, soughtAt_dir, hinner.whole]
      · intro es hes
        rw [hfirst] at hes
        cases hes
        exact ⟨_, rfl, hinner⟩

/-! ### Directories that are made -/

theorem keepsSought_of_free {t : FileTree} {place : List String} {name : String}
    (h : (Goal.free place name).Stands t) :
    KeepsSought p t (putAt (.dir []) name t place) := by
  obtain ⟨hdir, hfree⟩ := h
  refine keepsSought_putAt hdir (not_hasDir_of_free hfree) ?_ ?_
  · rw [soughtAt_dir]
    rfl
  · intro old hold
    rw [hfree] at hold
    cases hold

section

variable {t : FileTree} (ht : t.LinkFree) {r : Route} (hr : r.Relative)
include ht hr

theorem keepsSought_makeDir {t' : FileTree} (h : makeDir t r = .ok t') :
    KeepsSought p t t' ∧ t'.LinkFree := by
  rw [makeDir_eq ht hr] at h
  split at h
  · rename_i place name hfree
    cases h
    obtain ⟨hstands, -⟩ := lead_stands ht (hasDir_nil t) hfree
    have hchanged : t.ChangedAt (putAt (.dir []) name t place) (place ++ [name]) (.dir []) :=
      changedAt_putAt hstands.1 (not_hasDir_of_free hstands.2) fun _ _ => rfl
    exact ⟨keepsSought_of_free hstands, hchanged.linkFree ht fun _ => by simp⟩
  · cases h
  · cases h

theorem keepsSought_ensureDir : KeepsSought p t (ensureDir t r).1 ∧ (ensureDir t r).1.LinkFree := by
  rw [ensureDir]
  split
  · rename_i hmade
    exact keepsSought_makeDir ht hr hmade
  · exact ⟨.refl p t, ht⟩

end

theorem keepsSought_makeDirs {t : FileTree} (ht : t.LinkFree) {r : Route} (hr : r.Relative)
    (depth : Nat) :
    KeepsSought p t (makeDirs t r depth).1 ∧ (makeDirs t r depth).1.LinkFree := by
  induction depth generalizing r with
  | zero => exact keepsSought_ensureDir ht hr
  | succ depth ih =>
    rw [makeDirs]
    split
    · rename_i hmade
      exact keepsSought_makeDir ht hr hmade
    · split
      · split
        · exact ⟨.refl p t, ht⟩
        · have hparent := ih hr.parent
          rcases hmade : makeDirs t r.parent depth with ⟨t', _ | e⟩
          · rw [hmade] at hparent
            obtain ⟨hlast, hlink⟩ := keepsSought_ensureDir (p := p) hparent.2 hr
            exact ⟨hparent.1.trans hlast, hlink⟩
          · rw [hmade] at hparent
            exact hparent
      · exact ⟨.refl p t, ht⟩

/-! ### Files that are written -/

section

variable {t : FileTree} (ht : t.LinkFree) {path : String}
  (hpath : p ((placeOf path).getLast?.getD "") = false)
include ht hpath

theorem keepsSought_of_opened {place : List String} {name : String} {old : List UInt8}
    (h : openFile t path = .ok (place, name, old)) (content : List UInt8) :
    KeepsSought p t (putAt (.file content) name t place) := by
  obtain ⟨hplace, hdir, hnot, -⟩ := opened ht h
  rw [hplace, List.getLast?_concat, Option.getD_some] at hpath
  refine keepsSought_putAt hdir hnot (soughtAt_of_isLeaf hpath rfl) ?_
  intro node hnode
  cases node with
  | file _ => exact soughtAt_of_isLeaf hpath rfl
  | link _ => exact soughtAt_of_isLeaf hpath rfl
  | dir es => exact absurd ⟨es, hnode⟩ hnot

theorem keepsSought_write {t' : FileTree} {content : List UInt8}
    (h : t.write path content = .ok t') : KeepsSought p t t' := by
  obtain ⟨⟨place, name, old⟩, hopen, rfl⟩ := ok_of_map h
  exact keepsSought_of_opened ht hpath hopen content

theorem keepsSought_append {t' : FileTree} {more : List UInt8}
    (h : t.append path more = .ok t') : KeepsSought p t t' := by
  obtain ⟨⟨place, name, old⟩, hopen, rfl⟩ := ok_of_map h
  exact keepsSought_of_opened ht hpath hopen (old ++ more)

end

/-! ### Directories that stay -/

theorem lead_directory_of_stay {t t' : FileTree} (ht : t.LinkFree)
    (hstay : ∀ place, t.HasDir place → t'.HasDir place) {place : List String} (h : t.HasDir place)
    {names d : List String} (hd : lead t place names = .ok (.directory d)) :
    lead t' place names = .ok (.directory d) := by
  induction names generalizing place with
  | nil => exact hd
  | cons s rest ih =>
    rcases ht.cases (settle place [s]) with hfree | hdir | ⟨content, hfile⟩
    · rw [lead_of_free h hfree] at hd
      split at hd <;> cases hd
    · rw [lead_of_hasDir hdir] at hd
      rw [lead_of_hasDir (hstay _ hdir)]
      exact ih hdir hd
    · rw [lead_of_file h hfile] at hd
      split at hd <;> cases hd

theorem goal_eq_directory_iff {t : FileTree} (ht : t.LinkFree) (path : String) (d : List String) :
    t.goal path = .ok (.directory d) ↔
      ¬ (path = "" ∨ isAbsolute path = true) ∧ lead t [] (stepsOf path) = .ok (.directory d) := by
  rw [goal]
  split
  · rename_i hpath
    refine ⟨?_, fun h => absurd hpath h.1⟩
    rintro ⟨⟩
  · rename_i hpath
    rw [follow_eq_lead ht]
    exact ⟨fun h => ⟨hpath, h⟩, fun h => h.2⟩

theorem goal_directory_of_stay {t t' : FileTree} (ht : t.LinkFree) (ht' : t'.LinkFree)
    (hstay : ∀ place, t.HasDir place → t'.HasDir place) {path : String} {d : List String}
    (hd : t.goal path = .ok (.directory d)) : t'.goal path = .ok (.directory d) := by
  obtain ⟨hpath, hlead⟩ := (goal_eq_directory_iff ht path d).1 hd
  exact (goal_eq_directory_iff ht' path d).2
    ⟨hpath, lead_directory_of_stay ht hstay (hasDir_nil t) hlead⟩

theorem exists_settle_eq_append (place : List String) {names : List String} (hdots : ".." ∉ names) :
    ∃ more, settle place names = place ++ more := by
  induction names generalizing place with
  | nil => exact ⟨[], (List.append_nil place).symm⟩
  | cons s rest ih =>
    rw [List.mem_cons, not_or] at hdots
    rw [settle]
    split
    · exact ih place hdots.2
    · obtain ⟨more, hmore⟩ := ih (place ++ [s]) hdots.2
      rw [if_neg (Ne.symm hdots.1), hmore]
      exact ⟨s :: more, by simp⟩

theorem lead_of_dotless {t : FileTree} {place names : List String} (hdots : ".." ∉ names)
    (h : t.HasDir (settle place names)) :
    lead t place names = .ok (.directory (settle place names)) := by
  induction names generalizing place with
  | nil => rfl
  | cons s rest ih =>
    rw [settle_cons] at h ⊢
    rw [List.mem_cons, not_or] at hdots
    -- without pairs of dots the places on the way lead to the last one
    have hdir : t.HasDir (settle place [s]) := by
      obtain ⟨more, hmore⟩ := exists_settle_eq_append (settle place [s]) hdots.2
      rw [hmore] at h
      cases more with
      | nil => rwa [List.append_nil] at h
      | cons m ms =>
        obtain ⟨es, hes⟩ := h
        exact hasDir_of_node?_append hes (List.cons_ne_nil m ms)
    rw [lead_of_hasDir hdir]
    exact ih hdots.2 h

theorem mem_leaves_of_mem {t inner : FileTree} {name : String} (h : (name, .dir inner) ∈ t)
    {l : List String × FileNode} (hl : l ∈ leaves inner) : (name :: l.1, l.2) ∈ leaves t := by
  induction t with
  | nil => cases h
  | cons e es ih =>
    rw [leaves, List.mem_append]
    rcases List.mem_cons.1 h with rfl | h
    · exact .inl (List.mem_map_of_mem hl)
    · exact .inr (ih h)

theorem mem_leaves_of_entriesAt? {t es : FileTree} {place : List String}
    (h : entriesAt? t place = some es) {l : List String × FileNode} (hl : l ∈ leaves es) :
    (place ++ l.1, l.2) ∈ leaves t := by
  induction place generalizing t with
  | nil =>
    cases h
    exact hl
  | cons d ds ih =>
    rw [entriesAt?] at h
    split at h
    · rename_i inner hinner
      exact mem_leaves_of_mem (mem_of_named? hinner) (ih h)
    · cases h

theorem isSought_append (place : List String) {l : List String × FileNode}
    (hl : l.1 ≠ []) : isSought p (place ++ l.1, l.2) = isSought p l := by
  rw [isSought, isSought, List.getLast?_append_of_ne_nil place hl]

end FileTree

/-! ### Files of a log -/

namespace Log

variable {P : FileTree → Prop}

theorem Handler.write_induction {h : Handler} {pages : Pages} (hpages : P pages.2)
    (happend : ∀ path, h.target = .file path →
      ∀ t t' more, P t → t.append path more = .ok t' → P t') (r : LogRecord) :
    P (h.write r pages).2 := by
  rw [Handler.write]
  split
  · exact hpages
  · split
    · exact hpages
    · dsimp only
      split
      · exact hpages
      · rename_i path htarget
        split
        · rename_i t ht
          exact happend path htarget _ t _ hpages ht
        · exact hpages

theorem Journal.write_induction {j : Journal} {pages : Pages} (hpages : P pages.2)
    (happend : ∀ path, placeOf path ∈ j.places →
      ∀ t t' more, P t → t.append path more = .ok t' → P t') (r : LogRecord) :
    P (j.write r pages).2 := by
  have hfold (hs : List Handler) (hsub : hs ⊆ j.handlers) {pages : Pages} (hpages : P pages.2) :
      P (hs.foldl (fun p h => h.write r p) pages).2 := by
    induction hs generalizing pages with
    | nil => exact hpages
    | cons h hs ih =>
      have hh : h ∈ j.handlers := hsub List.mem_cons_self
      refine ih (fun h' hh' => hsub (List.mem_cons_of_mem h hh')) ?_
      exact h.write_induction hpages (fun path htarget =>
        happend path (Journal.mem_places hh htarget)) r
  rw [Journal.write]
  split
  · exact hpages
  · split
    · rename_i h hs _ hhandlers
      exact hfold (h :: hs) (hhandlers ▸ List.Subset.refl _) hpages
    · split
      · exact hpages
      · exact hpages

end Log

theorem Workplace.noteAll_induction {P : FileTree → Prop} {w : Workplace} (hw : P w.tree)
    (happend : ∀ path, placeOf path ∈ w.journal.places →
      ∀ t t' more, P t → t.append path more = .ok t' → P t') (rs : List LogRecord) :
    P (w.noteAll rs).tree := by
  induction rs generalizing w with
  | nil => exact hw
  | cons r rs ih =>
    have hfirst : P (w.note r).tree :=
      @Log.Journal.write_induction P w.journal (w.journal.screen, w.tree) hw happend r
    exact ih hfirst happend

theorem Workplace.keepsSought_noteAll {p : String → Bool} {w : Workplace} (ht : w.tree.LinkFree)
    (hlog : ∀ place ∈ w.journal.places, p (place.getLast?.getD "") = false)
    (rs : List LogRecord) :
    KeepsSought p w.tree (w.noteAll rs).tree ∧ (w.noteAll rs).tree.LinkFree := by
  refine noteAll_induction (P := fun t => KeepsSought p w.tree t ∧ t.LinkFree) ⟨.refl p _, ht⟩ ?_ rs
  rintro path hpath t t' more ⟨hkeeps, hlink⟩ happend
  obtain ⟨old, hchanged, -⟩ := changedAt_append hlink happend
  exact ⟨hkeeps.trans (keepsSought_append hlink (hlog _ hpath) happend),
    hchanged.linkFree hlink fun _ => by simp⟩

/-! ### Discovery -/

namespace Search

variable {s : Search} {t t' : FileTree}

/-- The walk takes the same leaves from entries whose leaves are the same as far as they are looked
for. -/
theorem visitAll_of_sought (ht : t.LinkFree) (hnamed : wellNamed t = true) {place : List String}
    {es es' : FileTree} (hes : entriesAt? t place = some es)
    (h : sought s.accepts es' = sought s.accepts es) (dir : String) :
    s.visitAll t' dir es' = s.visitAll t dir es := by
  have hsame (t'' : FileTree) (entries : FileTree)
      (hentries : sought s.accepts entries = sought s.accepts es) :
      (leaves entries).filter (s.takes t'' dir) =
        (sought s.accepts es).filter fun l => s.passes l.1 := by
    rw [← hentries, sought, List.filter_filter]
    refine List.filter_congr fun l hl => ?_
    rw [takes, isSought]
    cases haccepts : s.accepts ((l.1.getLast?).getD "") with
    | false => rw [Bool.false_and, Bool.and_false]
    | true =>
      -- a leaf that is looked for is a file, for there are no links
      have hsought : l ∈ sought s.accepts es := hentries ▸ List.mem_filter.2 ⟨hl, haccepts⟩
      obtain ⟨hnode, hleaf⟩ := (mem_leaves es (wellNamed_of_node? hnamed
        ((entriesAt?_eq_some_iff t place es).1 hes)) l).1 (List.mem_of_mem_filter hsought)
      have hfile : isSource t'' (pathOf dir l.1) l.2 = true := by
        cases hl2 : l.2 with
        | file content => rfl
        | dir inner =>
          rw [hl2] at hleaf
          cases hleaf
        | link target =>
          refine absurd ?_ (ht (place ++ l.1) target)
          rw [node?, FileNode.at?_append, ← node?, (entriesAt?_eq_some_iff t place es).1 hes,
            Option.bind_some, hnode, hl2]
      rw [hfile]
      simp
  rw [visitAll_eq, visitAll_eq, hsame t' es' h, hsame t es rfl]

section

variable (ht : t.LinkFree) (hnamed : wellNamed t = true) (ht' : t'.LinkFree)
  (h : KeepsSought s.accepts t t') {root : String}
include ht hnamed ht' h

/-- Where a leaf that is looked for is found below the root, the root was a directory before. -/
theorem goal_directory_of_sought (hdots : ".." ∉ stepsOf root) {place : List String}
    (hplace : t'.goal root = .ok (.directory place)) {es : FileTree}
    (hes : t'.node? place = some (.dir es)) {l : List String × FileNode} (hl : l ∈ leaves es)
    (hsought : isSought s.accepts l = true) : t.goal root = .ok (.directory place) := by
  have hentries := (entriesAt?_eq_some_iff t' place es).2 hes
  have hmem : (place ++ l.1, l.2) ∈ sought s.accepts t' :=
    List.mem_filter.2 ⟨mem_leaves_of_entriesAt? hentries hl,
      (isSought_append place (ne_nil_of_mem_leaves hl)).trans hsought⟩
  rw [h.whole] at hmem
  have hnode := ((mem_leaves t hnamed _).1 (List.mem_of_mem_filter hmem)).1
  have hthere : t.HasDir place := hasDir_of_node?_append hnode (ne_nil_of_mem_leaves hl)
  obtain ⟨hpath, hlead⟩ := (goal_eq_directory_iff ht' root place).1 hplace
  obtain ⟨-, rfl⟩ := lead_stands ht' (hasDir_nil t') hlead
  exact (goal_eq_directory_iff ht root _).2 ⟨hpath, lead_of_dotless hdots hthere⟩

theorem below_of_keepsSought
    (hroot : t.isDir root = true ∨ ".." ∉ stepsOf root) :
    s.below t' root = s.below t root := by
  by_cases hdir : ∃ place, t.goal root = .ok (.directory place)
  · obtain ⟨place, hplace⟩ := hdir
    -- a root that was a directory stays one
    have hplace' := goal_directory_of_stay ht ht' (fun _ => h.hasDir) hplace
    obtain ⟨es, hes, hbelow⟩ := s.below_of_directory t hplace
    obtain ⟨es', hes', hbelow'⟩ := s.below_of_directory t' hplace'
    have hentries := (entriesAt?_eq_some_iff t place es).2 hes
    obtain ⟨es'', hes'', hsame⟩ := h place es hentries
    rw [(entriesAt?_eq_some_iff t' place es').2 hes'] at hes''
    cases hes''
    rw [hbelow, hbelow']
    exact visitAll_of_sought ht hnamed hentries hsame root
  · rw [s.below_of_not_directory t hdir]
    -- one that was none may be one now, with nothing in it that is looked for
    have hdots : ".." ∉ stepsOf root := by
      refine hroot.resolve_left fun hisDir => ?_
      rw [isDir] at hisDir
      split at hisDir
      · rename_i d hd
        exact hdir ⟨d, hd⟩
      · cases hisDir
    by_cases hdir' : ∃ place, t'.goal root = .ok (.directory place)
    · obtain ⟨place, hplace'⟩ := hdir'
      obtain ⟨es', hes', hbelow'⟩ := s.below_of_directory t' hplace'
      rw [hbelow', visitAll_eq, List.map_eq_nil_iff, List.filter_eq_nil_iff]
      intro l hl htakes
      rw [takes, Bool.and_eq_true, Bool.and_eq_true] at htakes
      exact hdir ⟨place, goal_directory_of_sought ht hnamed ht' h hdots hplace' hes' hl htakes.2.1⟩
    · exact s.below_of_not_directory t' hdir'

theorem files_of_keepsSought (hroot : t.isDir root = true ∨ ".." ∉ stepsOf root) :
    (s.files t' root).1 = (s.files t root).1 := by
  have hperm := (s.files_perm t' root).trans ((below_of_keepsSought ht hnamed ht' h hroot) ▸
    (s.files_perm t root).symm)
  -- sorted lists of the same paths are the same
  refine hperm.eq_of_pairwise ?_ (s.sorted_files t' root) (s.sorted_files t root)
  intro a b _ _ hab hba
  exact String.le_antisymm hab hba

end

end Search

end Docent
