import Docent.Proofs.Again
import Docent.Proofs.Series

/-!
# A run that is made again

A run that returned is made a second time at once. Main statement: where the document and the log have
names that are not looked for, the second run comes to the same, and leaves every file as it is.
-/

namespace Docent

open FileTree

variable {σ : Type}

namespace Pipeline

/-! ### Runs that return -/

/-- The steps of a run that returns. -/
inductive Returns (connect : Connector σ) (s : Settings) (w : Workplace) (x : σ) : Outcome σ → Prop
  | intro {files : List String} {found : List LogRecord} {classes : List ClassRecord}
      {path : String} {client : Client σ} {assembly : Assembly} {noted noted' : List LogRecord}
      {t : FileTree} {y : σ} (hfound : discover s.source w.tree = .ok (files, found))
      (hclasses : (extract Grammar.registry
        (w.noteAll (found ++ [foundLog files s.source.root])) files).1 = .ok classes)
      (hpath : s.output.path = .text path) (hclient : connect s.backend = .ok client)
      (hassembly : (assemble client s.project s.project.space s.backend.failFast classes
        x).1.outcome = .ok assembly)
      (hwrite : writeText (w.noteAll noted).tree path assembly.content = (t, none)) :
      Returns connect s w x
        ⟨.ok ⟨files, classes, some assembly, some (Route.ofText path).text⟩,
          Workplace.noteAll { w.noteAll noted with tree := t } noted', y⟩

theorem exists_run_eq_document (connect : Connector σ) (s : Settings) (w : Workplace) (x : σ)
    {files : List String} {found : List LogRecord}
    (hfound : discover s.source w.tree = .ok (files, found)) {classes : List ClassRecord}
    (hclasses : (extract Grammar.registry
      (w.noteAll (found ++ [foundLog files s.source.root])) files).1 = .ok classes) :
    ∃ noted, run connect s false w x = document connect s files classes (w.noteAll noted) x := by
  obtain ⟨read, hplace⟩ := exists_place_extract Grammar.registry
    (w.noteAll (found ++ [foundLog files s.source.root])) files
  rcases hextract : extract Grammar.registry
    (w.noteAll (found ++ [foundLog files s.source.root])) files with ⟨result, w'⟩
  rw [hextract] at hclasses hplace
  obtain rfl : result = .ok classes := hclasses
  obtain rfl : w' = _ := hplace
  refine ⟨found ++ [foundLog files s.source.root] ++ read, ?_⟩
  rw [run, hfound]
  simp only [Workplace.note_eq_noteAll, Workplace.noteAll_noteAll] at hextract ⊢
  simp only [hextract, Bool.false_eq_true, if_false]

theorem exists_found_of_returned {connect : Connector σ} {s : Settings} {w : Workplace} {x : σ}
    {r : RunReport} (h : (run connect s false w x).report = .ok r) :
    ∃ files found classes, discover s.source w.tree = .ok (files, found) ∧
      (extract Grammar.registry (w.noteAll (found ++ [foundLog files s.source.root])) files).1 =
        .ok classes := by
  rcases hfound : discover s.source w.tree with e | ⟨files, found⟩
  · rw [run, hfound] at h
    cases h
  rcases hextract : extract Grammar.registry
    (w.noteAll (found ++ [foundLog files s.source.root])) files with ⟨e | classes, w'⟩
  · rw [run, hfound] at h
    simp only [Workplace.note_eq_noteAll, Workplace.noteAll_noteAll, hextract] at h
    cases h
  · exact ⟨files, found, classes, rfl, by rw [hextract]⟩

theorem returns_of_document {connect : Connector σ} {s : Settings} {w : Workplace} {x : σ}
    {files : List String} {found : List LogRecord} {classes : List ClassRecord}
    (hfound : discover s.source w.tree = .ok (files, found))
    (hclasses : (extract Grammar.registry
      (w.noteAll (found ++ [foundLog files s.source.root])) files).1 = .ok classes)
    {noted : List LogRecord} {r : RunReport}
    (h : (document connect s files classes (w.noteAll noted) x).report = .ok r) :
    Returns connect s w x (document connect s files classes (w.noteAll noted) x) := by
  rw [document] at h ⊢
  -- any step that fails would leave the run without a report
  cases hpath : s.output.path.path with
  | error e =>
    rw [hpath] at h
    cases h
  | ok path =>
    cases hclient : connect s.backend with
    | error e =>
      simp only [hpath, hclient] at h
      cases h
    | ok client =>
      simp only [hpath, hclient, Workplace.noteAll_noteAll] at h ⊢
      rcases hrun : assemble client s.project s.project.space s.backend.failFast classes x with
        ⟨run, y⟩
      simp only [hrun] at h ⊢
      cases hassembly : run.outcome with
      | error f =>
        simp only [hassembly] at h
        cases h
      | ok assembly =>
        simp only [hassembly, writeDocument] at h ⊢
        generalize noted ++ _ ++ run.logs = logs at h ⊢
        rcases hwrite : writeText (w.noteAll logs).tree path assembly.content with ⟨t, _ | e⟩
        · simp only [Workplace.note_eq_noteAll, Workplace.noteAll_noteAll]
          refine .intro hfound hclasses (eq_text_of_path hpath) hclient ?_ hwrite
          rw [hrun]
          exact hassembly
        · simp only [hwrite] at h
          cases h

theorem returns_of_run {connect : Connector σ} {s : Settings} {w : Workplace} {x : σ} {r : RunReport}
    (h : (run connect s false w x).report = .ok r) :
    Returns connect s w x (run connect s false w x) := by
  obtain ⟨files, found, classes, hfound, hclasses⟩ := exists_found_of_returned h
  obtain ⟨noted, hrun⟩ := exists_run_eq_document connect s w x hfound hclasses
  rw [hrun] at h ⊢
  exact returns_of_document hfound hclasses h

/-- A run returns if the document can be written whatever is logged before. -/
theorem report_of_steps {connect : Connector σ} {s : Settings} {w : Workplace} {x : σ}
    {files : List String} {found : List LogRecord}
    (hfound : discover s.source w.tree = .ok (files, found)) {classes : List ClassRecord}
    (hclasses : (extract Grammar.registry
      (w.noteAll (found ++ [foundLog files s.source.root])) files).1 = .ok classes)
    {path : String} (hpath : s.output.path = .text path) {client : Client σ}
    (hclient : connect s.backend = .ok client) {assembly : Assembly}
    (hassembly : (assemble client s.project s.project.space s.backend.failFast classes
      x).1.outcome = .ok assembly)
    (hwrite : ∀ noted, ∃ t, writeText (w.noteAll noted).tree path assembly.content = (t, none)) :
    (run connect s false w x).report =
      .ok ⟨files, classes, some assembly, some (Route.ofText path).text⟩ := by
  obtain ⟨noted, hrun⟩ := exists_run_eq_document connect s w x hfound hclasses
  have hvalue : s.output.path.path = .ok path := by rw [hpath]; rfl
  rw [hrun, document]
  simp only [hvalue, hclient, hassembly, Workplace.noteAll_noteAll, writeDocument]
  generalize noted ++ _ ++ _ = logs
  obtain ⟨t, ht⟩ := hwrite logs
  simp only [ht]

/-! ### The run after -/

theorem search_of_discover {s : SourceSettings} {t : FileTree} {found : List String × List LogRecord}
    (h : discover s t = .ok found) {root : String} (hroot : s.root = .text root)
    {suffixes : List String} (hsuffixes : textSet s.extensions = .ok suffixes) :
    ∃ excluded, ∀ t', discover s t' = .ok (Search.files ⟨suffixes, excluded⟩ t' root) := by
  obtain ⟨suffixes', hsuffixes', hrest⟩ := ok_of_bind h
  obtain ⟨excluded, hexcluded, -⟩ := ok_of_bind hrest
  refine ⟨excluded, fun t' => ?_⟩
  rw [discover, hsuffixes, hexcluded, hroot]
  rfl

section

variable {connect : Connector σ} {s : Settings} {w : Workplace} (ht : w.tree.LinkFree)
  {path : String} (hpath : s.output.path = .text path)
include ht hpath

/-- What a run that returned leaves to a run after it. -/
structure Leaves (p : String → Bool) (w w' : Workplace) (path : String) : Prop where
  linkFree : w'.tree.LinkFree
  places : w'.journal.places = w.journal.places
  keeps : KeepsSought p w.tree w'.tree
  opened : Open w'.tree path
  written : ∃ content, w'.tree.content? (placeOf path) = some content
  others : ∀ place, place ≠ placeOf path → place ∉ w.journal.places →
    w'.tree.content? place = w.tree.content? place

theorem leaves_of_returned {p : String → Bool} (hname : p (Route.ofText path).name = false)
    (hlog : ∀ place ∈ w.journal.places, p (place.getLast?.getD "") = false) {x : σ} {r : RunReport}
    (h : (run connect s false w x).report = .ok r) :
    Leaves p w (run connect s false w x).place path := by
  obtain ⟨path', assembly, more, hpath', -, hcontent, -, hothers⟩ :=
    files_of_returned ht (run_course connect s false w x) h
  rw [hpath] at hpath'
  cases hpath'
  have hreturns := returns_of_run h
  generalize run connect s false w x = o at hcontent hothers hreturns
  cases hreturns with
  | @intro _ _ _ path' _ assembly' noted noted' t _ _ _ hpath' _ _ hwrite =>
    rw [hpath] at hpath'
    cases hpath'
    -- what is logged before, the document, what is logged after
    obtain ⟨hbefore, hlink⟩ := Workplace.keepsSought_noteAll ht hlog noted
    obtain ⟨hopen, hput, hlink'⟩ := open_of_writeText hlink hname hwrite
    have hplaces : (w.noteAll noted).journal.places = w.journal.places := w.places_noteAll noted
    have hlog' : ∀ place ∈ (w.noteAll noted).journal.places, p (place.getLast?.getD "") = false :=
      hplaces ▸ hlog
    -- the log goes on after the document
    obtain ⟨hafter, hlink''⟩ := Workplace.keepsSought_noteAll
      (w := { w.noteAll noted with tree := t }) hlink' hlog' noted'
    exact {
      linkFree := hlink''
      places := (Workplace.places_noteAll _ noted').trans hplaces
      keeps := (hbefore.trans hput).trans hafter
      opened := hopen.of_stay hlink' (fun _ => hafter.hasDir) hcontent
      written := ⟨_, hcontent⟩
      others := fun place hplace hnot => (hothers place hplace).1 hnot }

end

theorem sent_of_returned {connect : Connector σ} {s : Settings} {w : Workplace} {seen : List String}
    {x : σ} {r : RunReport} (h : (run connect.recorded s false w (seen, x)).report = .ok r) :
    (run connect.recorded s false w (seen, x)).state.1 =
      seen ++ (requests s.project.space r.classes).map Request.prompt := by
  obtain ⟨sent, hstate, hsends⟩ := run_sends connect s w seen x
  rw [hstate]
  split at hsends
  · rw [hsends.1] at h
    cases h
  · obtain ⟨hlisted, hsends⟩ := hsends
    rw [(hlisted r h).2, hsends.returned r h]

/-- After two runs with one report the files outside of the log hold what they held after the
first. -/
theorem content?_of_returned {connect : Connector σ} {s : Settings} {w : Workplace}
    (ht : w.tree.LinkFree) {x y : σ} {r : RunReport}
    (h : (run connect s false w x).report = .ok r)
    (h' : (run connect s false (run connect s false w x).place y).report = .ok r)
    {place : List String} (hplace : place ∉ w.journal.places) :
    (run connect s false (run connect s false w x).place y).place.tree.content? place =
      (run connect s false w x).place.tree.content? place := by
  obtain ⟨path, assembly, more, hpath, hassembly, hcontent, hmore, -⟩ :=
    files_of_returned ht (run_course connect s false w x) h
  have hleaves := leaves_of_returned (p := fun _ => false) ht hpath rfl (fun _ _ => rfl) h
  generalize (run connect s false w x).place = w' at h' hcontent hleaves ⊢
  obtain ⟨path', assembly', more', hpath', hassembly', hcontent', hmore', hothers'⟩ :=
    files_of_returned hleaves.linkFree (run_course connect s false w' y) h'
  rw [hpath] at hpath'
  cases hpath'
  rw [hassembly] at hassembly'
  cases hassembly'
  rw [← hleaves.places] at hplace hmore
  -- the document is written twice with one content, and all else is left alone
  by_cases hsame : place = placeOf path
  · subst hsame
    rw [hcontent, hcontent', hmore hplace, hmore' hplace]
  · exact (hothers' place hsame).1 hplace

/-- From what a run leaves, the same files with the same classes are found again, and the same
document is written. -/
theorem report_of_leaves {connect : Connector σ} {s : Settings} {w w' : Workplace}
    (ht : w.tree.LinkFree) (hnamed : wellNamed w.tree = true) {search : Search} {root path : String}
    (hsearch : ∀ t, discover s.source t = .ok (search.files t root))
    (hscan : w.tree.isDir root = true ∨ ".." ∉ (Route.ofText root).names)
    (hlog : ∀ place ∈ w.journal.places, search.accepts (place.getLast?.getD "") = false)
    (hname : search.accepts (Route.ofText path).name = false)
    (hleaves : Leaves search.accepts w w' path) {x y : σ}
    {files : List String} {found : List LogRecord}
    (hfound : discover s.source w.tree = .ok (files, found)) {classes : List ClassRecord}
    (hclasses : (extract Grammar.registry
      (w.noteAll (found ++ [foundLog files s.source.root])) files).1 = .ok classes)
    (hpath : s.output.path = .text path) {client : Client σ}
    (hclient : connect s.backend = .ok client) (hsteady : client.Steady) {assembly : Assembly}
    (hassembly : (assemble client s.project s.project.space s.backend.failFast classes
      x).1.outcome = .ok assembly) :
    (run connect s false w' y).report =
      .ok ⟨files, classes, some assembly, some (Route.ofText path).text⟩ := by
  -- the same files are found
  have hfiles : (search.files w.tree root).1 = files := by
    rw [hsearch] at hfound
    exact congrArg Prod.fst (Except.ok.inj hfound)
  have hscan' : w.tree.isDir root = true ∨ ".." ∉ stepsOf root :=
    hscan.imp_right fun hdots hmem => hdots (List.mem_filter.2 ⟨hmem, rfl⟩)
  have hfiles' : (search.files w'.tree root).1 = files :=
    (Search.files_of_keepsSought ht hnamed hleaves.linkFree hleaves.keeps hscan').trans hfiles
  have hfound' : discover s.source w'.tree = .ok (files, (search.files w'.tree root).2) := by
    rw [hsearch, ← hfiles']
  have halike (path' : String) (hpath' : path' ∈ files) : Alike w w' path' := by
    refine alike_of_found ht hnamed hleaves.linkFree hleaves.places hlog hleaves.keeps ?_
      (hfiles ▸ hpath')
    -- neither the document nor the log has a name that is looked for
    intro place hplace
    refine hleaves.others place ?_ ?_
    · rintro rfl
      rw [hleaves.opened.getLast?_placeOf hleaves.linkFree, hname] at hplace
      cases hplace
    · intro hmem
      rw [hlog place hmem] at hplace
      cases hplace
  -- so the same classes are read, and the same document is assembled
  have hclasses' : (extract Grammar.registry (w'.noteAll ((search.files w'.tree root).2 ++
      [foundLog files s.source.root])) files).1 = .ok classes := by
    rw [← hclasses]
    exact extract_alike Grammar.registry fun path' hpath' => (halike path' hpath').noteAll _ _
  refine report_of_steps hfound' hclasses' hpath hclient
    ((assemble_steady hsteady _ _ _ classes x y).trans hassembly) ?_
  -- its file is there already, so that it can be written again
  intro noted
  obtain ⟨content, hcontent⟩ := hleaves.written
  obtain ⟨hafter, hlink⟩ := Workplace.keepsSought_noteAll hleaves.linkFree
    (hleaves.places ▸ hlog) noted
  obtain ⟨more, hmore⟩ := ((Workplace.logOnly_noteAll hleaves.linkFree noted).grown _).2 _ hcontent
  exact exists_writeText_of_open hlink
    (hleaves.opened.of_stay hleaves.linkFree (fun _ => hafter.hasDir) hmore) _

section

variable {s : Settings} {w : Workplace} (ht : w.tree.LinkFree) (hnamed : wellNamed w.tree = true)
  {root path : String} (hroot : s.source.root = .text root)
  (hscan : w.tree.isDir root = true ∨ ".." ∉ (Route.ofText root).names)
  (hpath : s.output.path = .text path) {suffixes : List String}
  (hsuffixes : textSet s.source.extensions = .ok suffixes)
  (hname : (Route.ofText path).suffix ∉ suffixes)
  (hlog : ∀ place ∈ w.journal.places, (Route.ofText (place.getLast?.getD "")).suffix ∉ suffixes)
include ht hnamed hroot hscan hpath hsuffixes hname hlog

/-- A run after one that returned returns the same. -/
theorem report_of_returned {connect : Connector σ}
    (hsteady : ∀ client, connect s.backend = .ok client → client.Steady) {x y : σ} {r : RunReport}
    (h : (run connect s false w x).report = .ok r) :
    (run connect s false (run connect s false w x).place y).report = .ok r ∧
      r.files.Pairwise (· ≤ ·) := by
  obtain ⟨excluded, hsearch⟩ : ∃ excluded, ∀ t,
      discover s.source t = .ok (Search.files ⟨suffixes, excluded⟩ t root) := by
    cases hfound : discover s.source w.tree with
    | error e =>
      rw [run, hfound] at h
      cases h
    | ok found => exact search_of_discover hfound hroot hsuffixes
  have haccepts {name : String} (h : (Route.ofText name).suffix ∉ suffixes) :
      Search.accepts ⟨suffixes, excluded⟩ name = false := by
    rw [Search.accepts, ← Bool.not_eq_true, List.contains_iff_mem]
    exact h
  have hlogged (place : List String) (hplace : place ∈ w.journal.places) :=
    haccepts (hlog place hplace)
  have hlast : Search.accepts ⟨suffixes, excluded⟩ (Route.ofText path).name = false := by
    refine haccepts ?_
    rw [Route.suffix_ofText_name]
    exact hname
  have hleaves := leaves_of_returned ht hpath hlast hlogged h
  have hreturns := returns_of_run h
  generalize run connect s false w x = o at h hleaves hreturns ⊢
  cases hreturns with
  | @intro files found classes path' client assembly _ _ _ _ hfound hclasses hpath' hclient
      hassembly _ =>
    cases h
    rw [hpath] at hpath'
    cases hpath'
    refine ⟨report_of_leaves ht hnamed hsearch hscan hlogged hlast hleaves hfound hclasses hpath
      hclient (hsteady client hclient) hassembly, ?_⟩
    have hfiles : (Search.files ⟨suffixes, excluded⟩ w.tree root).1 = files := by
      rw [hsearch] at hfound
      exact congrArg Prod.fst (Except.ok.inj hfound)
    exact hfiles ▸ Search.sorted_files _ w.tree root

/-- In a tree without links a run that returned, with a client whose replies depend on the prompts
alone, comes to the same when it is made again at once: the same files in order, the same classes,
prompts and document, and every file outside of the log holds what it held, whether or not the
document lies below the root of the sources. The document and the log are to have suffixes that are
not looked for; and the root is to be a directory, or written without pairs of dots. -/
theorem second_run_comes_to_the_same {connect : Connector σ}
    (hsteady : ∀ client, connect s.backend = .ok client → client.Steady) (seen seen' : List String)
    (x y : σ) {r : RunReport} :
    let first := run connect.recorded s false w (seen, x)
    let second := run connect.recorded s false first.place (seen', y)
    first.report = .ok r →
      second.report = .ok r ∧ r.files.Pairwise (· ≤ ·) ∧
        first.state.1 = seen ++ (requests s.project.space r.classes).map Request.prompt ∧
        second.state.1 = seen' ++ (requests s.project.space r.classes).map Request.prompt ∧
        ∀ place ∉ w.journal.places,
          second.place.tree.content? place = first.place.tree.content? place := by
  intro first second h
  have hrecorded : ∀ client, connect.recorded s.backend = .ok client → client.Steady := by
    intro client hclient
    obtain ⟨client', hclient', rfl⟩ := ok_of_map hclient
    intro prompt p q
    exact hsteady client' hclient' prompt p.2 q.2
  obtain ⟨hsecond, hsorted⟩ :=
    report_of_returned ht hnamed hroot hscan hpath hsuffixes hname hlog hrecorded h
      (y := (seen', y))
  exact ⟨hsecond, hsorted, sent_of_returned h, sent_of_returned hsecond,
    fun place hplace => content?_of_returned ht h hsecond hplace⟩

end

/-- A client that is always down, and says what it was sent. -/
def alwaysDown : Client Nat where
  complete prompt n := (⟨.error (.backend { message := prompt }), []⟩, n + 1)

theorem alwaysDown_steady : alwaysDown.Steady := fun _ _ _ => rfl

/-- A source whose class is documented below the root, and a log. -/
def loggedPlace : Workplace where
  tree := [("src", .dir [("a.php", .file (Utf8.encode "<?php class A {}"))]), ("run.log", .file [])]
  journal := { level := 30, handlers := [⟨.file "run.log", 30, "%(name)s".toList⟩] }

theorem second_run_below_root :
    let first := run (Connector.fixed alwaysDown).recorded (writingTo "src/docs/guide.md") false
      loggedPlace ([], 0)
    let second := run (Connector.fixed alwaysDown).recorded (writingTo "src/docs/guide.md") false
      first.place ([], 0)
    ∃ r, first.report = .ok r ∧ second.report = .ok r ∧ first.state.1 = second.state.1 ∧
      second.place.tree.content? ["src", "docs", "guide.md"] =
        first.place.tree.content? ["src", "docs", "guide.md"] := by
  intro first second
  have hok : first.report.isOk = true := by decide +kernel
  obtain ⟨r, hr⟩ := exists_ok_of_isOk hok
  have hlink : loggedPlace.tree.LinkFree := linkFree_of_holdNoLink (by decide +kernel)
  obtain ⟨hsecond, -, hsent, hsent', hkept⟩ := second_run_comes_to_the_same hlink
    (by decide +kernel) rfl (.inl (by decide +kernel)) rfl rfl (by decide +kernel) (by decide +kernel)
    (fun client hclient => by cases hclient; exact alwaysDown_steady) [] [] 0 0 hr
  exact ⟨r, hr, hsecond, hsent.trans hsent'.symm, hkept _ (by decide +kernel)⟩

/-- What a run finds: how many files, and how many classes. -/
def foundBy (o : Outcome Nat) : Option (Nat × Nat) :=
  o.report.toOption.map fun r => (r.files.length, r.classes.length)

/-- Two runs with a client that is down, one right after the other. -/
def twice (s : Settings) (w : Workplace) : Outcome Nat × Outcome Nat :=
  let first := run (.fixed alwaysDown) s false w 0
  (first, run (.fixed alwaysDown) s false first.place first.state)

/-- The root is one once the directory of the document has been made. -/
def dottedRoot : Settings :=
  { writingTo "docs/D.md" with source := { root := .text "docs/../src" } }

/-- A place without sources, and a log. -/
def bareLogged : Workplace := { loggedPlace with tree := [("run.log", .file [])] }

/-- A source that failures are logged into, as classes. -/
def growingSource : Workplace where
  tree := [("src", .dir [("a.php", .file (Utf8.encode "<?php class A {}\n"))])]
  journal :=
    { level := 40, handlers := [⟨.file "src/a.php", 40, "class B \x7b\x7d //%(name)s".toList⟩] }

/-- What was no root before the document was written is one after it; and the log grows, by classes
where it goes into a source. -/
theorem second_run_finds_more :
    alwaysDown.Steady ∧ (Route.ofText "docs/D.md").suffix = ".md" ∧
      (oldPlace.tree.LinkFree ∧ bareLogged.tree.LinkFree ∧ growingSource.tree.LinkFree) ∧
      foundBy (twice dottedRoot oldPlace).1 = some (0, 0) ∧
      foundBy (twice dottedRoot oldPlace).2 = some (1, 1) ∧
      foundBy (twice (writingTo "docs/D.md") bareLogged).2 = some (0, 0) ∧
      (twice (writingTo "docs/D.md") bareLogged).2.place.tree.content? ["run.log"] ≠
        (twice (writingTo "docs/D.md") bareLogged).1.place.tree.content? ["run.log"] ∧
      foundBy (twice (writingTo "docs/D.md") growingSource).1 = some (1, 1) ∧
      foundBy (twice (writingTo "docs/D.md") growingSource).2 = some (1, 2) :=
  ⟨alwaysDown_steady, by decide +kernel,
    ⟨linkFree_of_holdNoLink (by decide +kernel), linkFree_of_holdNoLink (by decide +kernel),
      linkFree_of_holdNoLink (by decide +kernel)⟩,
    by decide +kernel, by decide +kernel, by decide +kernel, by decide +kernel, by decide +kernel,
    by decide +kernel⟩

end Pipeline

end Docent
