import Docent.Proofs.Found
import Docent.Proofs.Share

/-!
# Work that is done again

Each part of a run is done a second time after nothing has changed but the log and the document.
Main statements: the same classes are extracted from files that are read alike; a client with steady
replies gives the same document; and where a text was written, one can be written again.
-/

namespace Docent

open FileTree

variable {σ : Type}

/-! ### Extraction once more -/

namespace Registry

/-- A file that reads alike in two trees gives the same classes, or is the same error. -/
theorem extractFile_alike (reg : Registry) {t t' : FileTree} {path : String}
    (h : (t'.read path).toOption = (t.read path).toOption) :
    (∃ e, reg.extractFile t path = .error e ∧ reg.extractFile t' path = .error e) ∨
      ∃ classes logs logs', reg.extractFile t path = .ok (classes, logs) ∧
        reg.extractFile t' path = .ok (classes, logs') := by
  rw [extractFile, extractFile]
  split
  · exact .inr ⟨[], _, _, rfl, rfl⟩
  · split
    · exact .inl ⟨_, rfl, rfl⟩
    · rcases hread : t.read path with e | bytes <;> rcases hread' : t'.read path with e' | bytes' <;>
        rw [hread, hread'] at h
      · exact .inr ⟨[], _, _, rfl, rfl⟩
      · cases h
      · cases h
      · cases h
        dsimp only
        split
        · exact .inr ⟨_, _, _, rfl, rfl⟩
        · exact .inr ⟨[], _, _, rfl, rfl⟩

end Registry

namespace Pipeline

/-- A path that leads to no file of the log is read alike at two places. -/
structure Alike (w w' : Workplace) (path : String) : Prop where
  left : Unlogged w path
  right : Unlogged w' path
  read : (w'.tree.read path).toOption = (w.tree.read path).toOption

theorem Alike.noteAll {w w' : Workplace} {path : String} (h : Alike w w' path)
    (rs rs' : List LogRecord) : Alike (w.noteAll rs) (w'.noteAll rs') path where
  left := h.left.noteAll rs
  right := h.right.noteAll rs'
  read := by
    rw [(w'.kept_noteAll rs').read path h.right, (w.kept_noteAll rs).read path h.left, h.read]

theorem extract_alike (reg : Registry) {w w' : Workplace} {paths : List String}
    (h : ∀ path ∈ paths, Alike w w' path) :
    (extract reg w' paths).1 = (extract reg w paths).1 := by
  induction paths generalizing w w' with
  | nil => rfl
  | cons path paths ih =>
    have hfirst := (h path List.mem_cons_self).noteAll [readingLog path] [readingLog path]
    simp only [extract, Workplace.note_eq_noteAll]
    rcases reg.extractFile_alike hfirst.read with ⟨e, hfile, hfile'⟩ |
      ⟨classes, logs, logs', hfile, hfile'⟩
    · simp only [hfile, hfile']
    · simp only [hfile, hfile', Workplace.noteAll_noteAll]
      rw [ih fun p hp => (h p (List.mem_cons_of_mem path hp)).noteAll _ _]

end Pipeline

namespace Pipeline

theorem mem_places_of_spots {w : Workplace} (ht : w.tree.LinkFree) {q : List String}
    (hq : q ∈ w.spots) : q ∈ w.journal.places := by
  obtain ⟨h, hh, htarget⟩ := List.mem_filterMap.1 hq
  cases hkind : h.target with
  | console =>
    rw [hkind] at htarget
    cases htarget
  | file path =>
    rw [hkind] at htarget
    obtain ⟨g, hg, hspot⟩ := Option.bind_eq_some_iff.1 htarget
    have hgoal : w.tree.goal path = .ok g := by
      cases hgoal : w.tree.goal path with
      | error fault =>
        rw [hgoal] at hg
        cases hg
      | ok g' =>
        rw [hgoal] at hg
        cases hg
        rfl
    have hplace : q = placeOf path := by
      rw [← (goal_stands ht hgoal).2]
      cases g <;> cases hspot <;> rfl
    rw [hplace]
    exact Log.Journal.mem_places hh hkind

theorem unlogged_of_file {p : String → Bool} {w : Workplace} (ht : w.tree.LinkFree)
    (hlog : ∀ place ∈ w.journal.places, p (place.getLast?.getD "") = false)
    {path name : String} {place : List String} {content : List UInt8}
    (hgoal : w.tree.goal path = .ok (.file place name content)) (hname : p name = true) :
    Unlogged w path := by
  intro q hq hspot
  have hplace : place ++ [name] = q := by
    rw [spot?, hgoal] at hspot
    exact Option.some.inj hspot
  have hnot := hlog q (mem_places_of_spots ht hq)
  rw [← hplace, List.getLast?_concat, Option.getD_some, hname] at hnot
  cases hnot

theorem alike_of_found {s : Search} {w w' : Workplace} (ht : w.tree.LinkFree)
    (hnamed : wellNamed w.tree = true) (ht' : w'.tree.LinkFree)
    (hplaces : w'.journal.places = w.journal.places)
    (hlog : ∀ place ∈ w.journal.places, s.accepts (place.getLast?.getD "") = false)
    (hkeeps : KeepsSought s.accepts w.tree w'.tree)
    (hcontent : ∀ place, s.accepts (place.getLast?.getD "") = true →
      w'.tree.content? place = w.tree.content? place)
    {root path : String} (hpath : path ∈ (s.files w.tree root).1) : Alike w w' path := by
  obtain ⟨place, hroot, dirs, name, content, hfound⟩ :=
    Search.exists_foundAt ht hnamed hpath
  have hroot' := goal_directory_of_stay ht ht' (fun _ => hkeeps.hasDir) hroot
  have hgoal := goal_joinPath ht hroot hfound.entries hfound.content
  have hgoal' := goal_joinPath ht' hroot' hfound.entries
    ((hcontent _ (by rw [List.getLast?_concat]; exact hfound.accepted)).trans hfound.content)
  rw [← hfound.path_eq] at hgoal hgoal'
  refine ⟨unlogged_of_file ht hlog hgoal hfound.accepted,
    unlogged_of_file ht' (hplaces ▸ hlog) hgoal' hfound.accepted, ?_⟩
  rw [FileTree.read, FileTree.read, hgoal, hgoal']

end Pipeline

/-! ### Clients with steady replies -/

/-- What the client replies to a prompt depends on nothing else. -/
def Client.Steady (client : Client σ) : Prop :=
  ∀ prompt x y, (client.complete prompt x).1.outcome = (client.complete prompt y).1.outcome

theorem askAbout_steady {client : Client σ} (h : client.Steady) (failFast : Bool)
    (gs : List Segment) (x y : σ) :
    ∃ logs, (askAbout client failFast gs y).1 =
      { (askAbout client failFast gs x).1 with logs := logs } := by
  -- on the segments, from any two states: the answers are the same, the records may not be
  induction gs generalizing x y with
  | nil => exact ⟨[], rfl⟩
  | cons g gs ih =>
    rcases ha : client.complete g.prompt x with ⟨⟨outcome, logs⟩, x'⟩
    rcases hb : client.complete g.prompt y with ⟨⟨outcome', logs'⟩, y'⟩
    have hsame := h g.prompt x y
    rw [ha, hb] at hsame
    obtain rfl : outcome = outcome' := hsame
    obtain ⟨rest, hrest⟩ := ih x' y'
    cases outcome with
    | ok text =>
      simp only [askAbout, ha, hb, hrest]
      exact ⟨_, rfl⟩
    | error f =>
      cases f with
      | broken | delayTooLong | unwaited =>
        simp only [askAbout, ha, hb]
        exact ⟨_, rfl⟩
      | backend e =>
        simp only [askAbout, ha, hb, hrest]
        split
        · exact ⟨_, rfl⟩
        · exact ⟨_, rfl⟩

theorem assemble_steady {client : Client σ} (h : client.Steady) (project : ProjectSettings)
    (space : Value) (failFast : Bool) (classes : List ClassRecord) (x y : σ) :
    (assemble client project space failFast classes y).1.outcome =
      (assemble client project space failFast classes x).1.outcome := by
  obtain ⟨logs, hasked⟩ := askAbout_steady h failFast (segments space classes) x y
  simp only [assemble, hasked]

/-! ### Writing once more -/

namespace Pipeline

/-- A path that a text can be written to: its directory is there, and it is none. -/
structure Open (t : FileTree) (path : String) : Prop where
  relative : isAbsolute path = false
  parentText : hasNull (Route.ofText path).parent.text = false
  text : hasNull (Route.ofText path).text = false
  ready : t.Ready (Route.ofText path).parent
  free : ¬ t.HasDir (placeOf path)

theorem makeDirs_of_ready {t : FileTree} (ht : t.LinkFree) {r : Route} (hr : r.Relative)
    (hready : t.Ready r) (depth : Nat) : makeDirs t r depth = (t, none) := by
  have hdir := (isDir_iff ht hr).2 hready
  obtain ⟨place, hplace⟩ := hready
  cases depth with
  | zero =>
    rw [makeDirs, ensureDir, makeDir_eq ht hr, hplace]
    simp [hdir]
  | succ depth =>
    rw [makeDirs, makeDir_eq ht hr, hplace]
    simp [hdir]

theorem exists_writeText_of_open {t : FileTree} (ht : t.LinkFree) {path : String}
    (h : Open t path) (content : String) : ∃ t', writeText t path content = (t', none) := by
  have hr := Route.relative_ofText h.relative
  rcases write_of_ready ht hr h.ready (Utf8.encode content) with ⟨t', hwrite⟩ | hdir
  · refine ⟨t', ?_⟩
    rw [writeText]
    simp only [h.parentText, h.text, makeDirs_of_ready ht hr.parent h.ready, hwrite]
    rfl
  · rw [← placeOf_eq] at hdir
    exact absurd hdir h.free

theorem Open.getLast?_placeOf {t : FileTree} (ht : t.LinkFree) {path : String} (h : Open t path) :
    (placeOf path).getLast?.getD "" = (Route.ofText path).name := by
  have hfree := h.free
  obtain ⟨place, hplace⟩ := h.ready
  obtain ⟨hdir, hsettle⟩ := lead_stands ht (hasDir_nil t) hplace
  rw [placeOf_eq, Route.name]
  rw [placeOf_eq] at hfree
  rcases List.eq_nil_or_concat (Route.ofText path).names with hnames | ⟨front, name, hnames⟩
  · rw [hnames] at hfree
    exact absurd (hasDir_nil t) hfree
  · rw [List.concat_eq_append] at hnames
    rw [Route.parent, hnames, List.dropLast_concat] at hsettle
    obtain rfl : place = settle [] front := hsettle
    rw [hnames, settle_append] at hfree ⊢
    obtain ⟨hname, -⟩ := settle_of_not_hasDir hdir hfree
    rw [hname, List.getLast?_concat, List.getLast?_concat]

theorem not_hasDir_of_content? {t : FileTree} {place : List String} {content : List UInt8}
    (h : t.content? place = some content) : ¬ t.HasDir place := by
  rintro ⟨es, hes⟩
  rw [content?, hes] at h
  cases h

theorem Open.of_stay {t t' : FileTree} (ht : t.LinkFree) {path : String} (h : Open t path)
    (hstay : ∀ place, t.HasDir place → t'.HasDir place) {content : List UInt8}
    (hcontent : t'.content? (placeOf path) = some content) : Open t' path where
  relative := h.relative
  parentText := h.parentText
  text := h.text
  ready := h.ready.imp fun _ hplace => lead_directory_of_stay ht hstay (hasDir_nil t) hplace
  free := not_hasDir_of_content? hcontent

structure WriteSteps (t t₁ t' : FileTree) (path content : String) : Prop where
  relative : isAbsolute path = false
  parentText : hasNull (Route.ofText path).parent.text = false
  made : makeDirs t (Route.ofText path).parent (Route.ofText path).names.length = (t₁, none)
  ready : t₁.Ready (Route.ofText path).parent
  text : hasNull (Route.ofText path).text = false
  wrote : t₁.write (Route.ofText path).text (Utf8.encode content) = .ok t'

theorem exists_writeSteps {t t' : FileTree} (ht : t.LinkFree) {path content : String}
    (h : writeText t path content = (t', none)) : ∃ t₁, WriteSteps t t₁ t' path content := by
  have hrelative : isAbsolute path = false := by
    rw [Bool.eq_false_iff]
    intro habs
    obtain ⟨e, he⟩ := writeText_of_isAbsolute t habs content
    rw [he] at h
    cases h
  have hdepth : (Route.ofText path).parent.names.length ≤ (Route.ofText path).names.length := by
    rw [Route.parent, List.length_dropLast]
    omega
  have hmakes := makeDirs_makes ht (Route.relative_ofText hrelative).parent hdepth
  simp only [writeText] at h
  -- no step has failed
  split at h
  · cases h
  rename_i hparent
  split at h
  · cases h
  rename_i t₁ hmade
  split at h
  · cases h
  rename_i hnull
  split at h
  · rename_i hwrite
    cases h
    rw [hmade] at hmakes
    cases hmakes with
    | made hext hready =>
      exact ⟨t₁, hrelative, Bool.eq_false_iff.2 hparent, hmade, hready, Bool.eq_false_iff.2 hnull,
        hwrite⟩
  · cases h

/-- Where a text was written, one can be written again; and nothing has changed that is looked for. -/
theorem open_of_writeText {p : String → Bool} {t t' : FileTree} (ht : t.LinkFree)
    {path content : String} (hpath : p (Route.ofText path).name = false)
    (h : writeText t path content = (t', none)) :
    Open t' path ∧ KeepsSought p t t' ∧ t'.LinkFree := by
  obtain ⟨t₁, hsteps⟩ := exists_writeSteps ht h
  have hr := Route.relative_ofText hsteps.relative
  have hplace : placeOf (Route.ofText path).text = placeOf path := by
    rw [placeOf_text hr, placeOf_eq path]
  obtain ⟨hmade, hlink⟩ :=
    keepsSought_makeDirs (p := p) ht hr.parent (Route.ofText path).names.length
  rw [hsteps.made] at hmade hlink
  have hopen : Open t₁ path := by
    obtain ⟨⟨place, name, old⟩, hopen, -⟩ := ok_of_map hsteps.wrote
    obtain ⟨hopened, -, hfree, -⟩ := opened hlink hopen
    rw [← hopened, hplace] at hfree
    exact ⟨hsteps.relative, hsteps.parentText, hsteps.text, hsteps.ready, hfree⟩
  have hwritten : KeepsSought p t₁ t' := by
    refine keepsSought_write hlink ?_ hsteps.wrote
    rw [hplace, hopen.getLast?_placeOf hlink, hpath]
  have hchanged := changedAt_write hlink hsteps.wrote
  rw [hplace] at hchanged
  exact ⟨hopen.of_stay hlink (fun _ => hwritten.hasDir) hchanged.content?_eq,
    hmade.trans hwritten, hchanged.linkFree hlink fun _ => by simp⟩

end Pipeline

end Docent
