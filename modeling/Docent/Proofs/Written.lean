import Docent.Proofs.Assembly
import Docent.Proofs.Course
import Docent.Proofs.Directories

/-!
# The files that a run writes

In a tree without links a run writes one file besides those of its log: the document, once all of it
is there. Main statement: what every run, dry or not, leaves in each regular file, and why the
document cannot be written.
-/

namespace Docent

open FileTree

/-! ### Files that a log writes to -/

namespace FileTree

/-- The file at a place is as it was, or a log writes there and what it held has grown. -/
def Grown (t t' : FileTree) (logged : List (List String)) (place : List String) : Prop :=
  (place ∉ logged → t'.content? place = t.content? place) ∧
    ∀ content, t.content? place = some content →
      ∃ more, t'.content? place = some (content ++ more)

/-- Nothing but a log, at some places, has written between two trees. -/
structure LogOnly (logged : List (List String)) (t t' : FileTree) : Prop where
  linkFree : t'.LinkFree
  grown : ∀ place, t.Grown t' logged place

theorem Grown.of_eq {t t' : FileTree} {place : List String} (h : t'.content? place = t.content? place)
    (logged : List (List String)) : t.Grown t' logged place :=
  ⟨fun _ => h, fun content hcontent => ⟨[], by rw [h, hcontent, List.append_nil]⟩⟩

theorem Grown.trans {t t' t'' : FileTree} {logged : List (List String)} {place : List String}
    (h : t.Grown t' logged place) (h' : t'.Grown t'' logged place) : t.Grown t'' logged place := by
  refine ⟨fun hplace => (h'.1 hplace).trans (h.1 hplace), ?_⟩
  intro content hcontent
  obtain ⟨more, hmore⟩ := h.2 content hcontent
  obtain ⟨more', hmore'⟩ := h'.2 (content ++ more) hmore
  exact ⟨more ++ more', by rw [hmore', List.append_assoc]⟩

theorem LogOnly.refl {t : FileTree} (ht : t.LinkFree) (logged : List (List String)) :
    LogOnly logged t t :=
  ⟨ht, fun _ => .of_eq rfl logged⟩

theorem LogOnly.trans {logged : List (List String)} {t t' t'' : FileTree}
    (h : LogOnly logged t t') (h' : LogOnly logged t' t'') : LogOnly logged t t'' :=
  ⟨h'.linkFree, fun place => (h.grown place).trans (h'.grown place)⟩

theorem LogOnly.of_extended {t t' : FileTree} (h : t.Extended t') (logged : List (List String)) :
    LogOnly logged t t' :=
  ⟨h.linkFree, fun place => .of_eq (congrFun h.content place) logged⟩

theorem logOnly_append {t t' : FileTree} (ht : t.LinkFree) {path : String} {more : List UInt8}
    (h : t.append path more = .ok t') {logged : List (List String)} (hpath : placeOf path ∈ logged) :
    LogOnly logged t t' := by
  obtain ⟨old, hchanged, hold⟩ := changedAt_append ht h
  refine ⟨hchanged.linkFree ht fun _ => by simp, ?_⟩
  intro place
  by_cases hplace : place = placeOf path
  · subst hplace
    refine ⟨fun hnot => absurd hpath hnot, ?_⟩
    intro content hcontent
    obtain rfl := hold content hcontent
    exact ⟨more, hchanged.content?_eq⟩
  · exact .of_eq (hchanged.content?_ne hplace) logged

end FileTree

namespace Log

def Journal.places (j : Journal) : List (List String) :=
  j.handlers.filterMap fun h =>
    match h.target with
    | .console => none
    | .file path => some (placeOf path)

theorem Handler.logOnly_write {logged : List (List String)} {h : Handler}
    (hlogged : ∀ path, h.target = .file path → placeOf path ∈ logged) (r : LogRecord)
    {pages : Pages} (ht : pages.2.LinkFree) : LogOnly logged pages.2 (h.write r pages).2 := by
  rw [Handler.write]
  split
  · exact .refl ht logged
  · split
    · exact .refl ht logged
    · dsimp only
      split
      · exact .refl ht logged
      · rename_i path htarget
        split
        · rename_i happend
          exact logOnly_append ht happend (hlogged path htarget)
        · exact .refl ht logged

theorem logOnly_foldl {logged : List (List String)} {hs : List Handler}
    (hlogged : ∀ h ∈ hs, ∀ path, h.target = .file path → placeOf path ∈ logged) (r : LogRecord)
    {pages : Pages} (ht : pages.2.LinkFree) :
    LogOnly logged pages.2 (hs.foldl (fun p h => h.write r p) pages).2 := by
  induction hs generalizing pages with
  | nil => exact .refl ht logged
  | cons h hs ih =>
    have hfirst := h.logOnly_write (hlogged h List.mem_cons_self) r ht
    have hrest := ih (fun h' hh' => hlogged h' (List.mem_cons_of_mem h hh')) hfirst.linkFree
    exact hfirst.trans hrest

theorem Journal.mem_places {j : Journal} {h : Handler} (hh : h ∈ j.handlers) {path : String}
    (htarget : h.target = .file path) : placeOf path ∈ j.places := by
  rw [Journal.places, List.mem_filterMap]
  exact ⟨h, hh, by rw [htarget]⟩

theorem Journal.logOnly_write (j : Journal) (r : LogRecord) {pages : Pages}
    (ht : pages.2.LinkFree) : LogOnly j.places pages.2 (j.write r pages).2 := by
  rw [Journal.write]
  split
  · exact .refl ht j.places
  · split
    · rename_i h hs _ hhandlers
      rw [← hhandlers]
      exact logOnly_foldl (fun _ hh _ => Journal.mem_places hh) r ht
    · split
      · exact .refl ht j.places
      · exact .refl ht j.places

end Log

namespace Workplace

theorem places_note (w : Workplace) (r : LogRecord) :
    (w.note r).journal.places = w.journal.places := rfl

theorem logOnly_note {w : Workplace} (ht : w.tree.LinkFree) (r : LogRecord) :
    LogOnly w.journal.places w.tree (w.note r).tree :=
  @Log.Journal.logOnly_write w.journal r (w.journal.screen, w.tree) ht

theorem places_noteAll (w : Workplace) (rs : List LogRecord) :
    (w.noteAll rs).journal.places = w.journal.places := by
  induction rs generalizing w with
  | nil => rfl
  | cons r rs ih => exact (ih (w.note r)).trans (w.places_note r)

theorem logOnly_noteAll {w : Workplace} (ht : w.tree.LinkFree) (rs : List LogRecord) :
    LogOnly w.journal.places w.tree (w.noteAll rs).tree := by
  induction rs generalizing w with
  | nil => exact .refl ht w.journal.places
  | cons r rs ih =>
    have hfirst := logOnly_note ht r
    have hrest := ih hfirst.linkFree
    rw [places_note] at hrest
    exact hfirst.trans hrest

end Workplace

/-! ### Writing the document -/

namespace Pipeline

/-- Why nothing can be written to a path: no system takes it, it starts outside of the tree, it
leads to a directory, or it lies below a regular file. -/
inductive Barred (t : FileTree) (path : String) : Prop
  | null (h : hasNull path = true)
  | outside (h : isAbsolute path = true)
  | directory (h : t.HasDir (placeOf path))
  | below (h : t.Meets [] (Route.ofText path).names.dropLast)

/-- What comes of writing a text: the file has it and the others stay, or all stay as they are and
the path is barred. -/
inductive Writes (t : FileTree) (path content : String) : FileTree × Option RunError → Prop
  | written {t₁ t' : FileTree} (hext : t.Extended t₁)
      (hchanged : t₁.ChangedAt t' (placeOf path) (.file (Utf8.encode content))) :
      Writes t path content (t', none)
  | barred {t' : FileTree} {e : RunError} (hext : t.Extended t') (hbarred : Barred t' path) :
      Writes t path content (t', some e)

theorem hasNull_of_names {path : String} {r : Route} (hr : r.Relative)
    (hnames : r.names ⊆ (Route.ofText path).names) (h : hasNull r.text = true) :
    hasNull path = true := by
  rw [hasNull, List.contains_iff_mem] at h ⊢
  obtain ⟨n, hn, hc⟩ := hr.exists_mem_names (by decide) (by decide) h
  exact Route.mem_of_mem_names (hnames hn) hc

theorem writeText_of_isAbsolute (t : FileTree) {path : String} (h : isAbsolute path = true)
    (content : String) : ∃ e, writeText t path content = (t, some e) := by
  have hroot : (Route.ofText path).parent.root.toList.head? = some '/' :=
    Route.head?_rootOf (of_decide_eq_true h)
  obtain ⟨e, he⟩ := makeDirs_of_root (t := t) hroot (Route.ofText path).names.length
  simp only [writeText, he]
  split
  · exact ⟨_, rfl⟩
  · exact ⟨_, rfl⟩

theorem writeText_writes {t : FileTree} (ht : t.LinkFree) (path content : String) :
    Writes t path content (writeText t path content) := by
  have hsame : t.Extended t := ⟨ht, rfl⟩
  -- a path from the root leads to directories that cannot be made, whatever the tree is
  by_cases habs : isAbsolute path = true
  · obtain ⟨e, he⟩ := writeText_of_isAbsolute t habs content
    rw [he]
    exact .barred hsame (.outside habs)
  · have hr := Route.relative_ofText (Bool.eq_false_iff.2 habs)
    simp only [writeText]
    split
    · rename_i hnull
      exact .barred hsame (.null (hasNull_of_names hr.parent (List.dropLast_subset _) hnull))
    · have hdepth : (Route.ofText path).parent.names.length ≤ (Route.ofText path).names.length := by
        rw [Route.parent, List.length_dropLast]
        omega
      have hmakes := makeDirs_makes ht hr.parent hdepth
      generalize t.makeDirs (Route.ofText path).parent (Route.ofText path).names.length = result
        at hmakes
      -- the directories of a relative path are made, or one of them meets a file
      cases hmakes with
      | @stopped t₁ e hext hmeets =>
        rw [Meets, ← hext.content] at hmeets
        exact .barred hext (.below hmeets)
      | @made t₁ hext hready =>
        dsimp only
        split
        · rename_i hnull
          exact .barred hext (.null (hasNull_of_names hr (List.Subset.refl _) hnull))
        · have hplace : placeOf (Route.ofText path).text = placeOf path := by
            rw [placeOf_text hr, placeOf_eq path]
          -- a file in such a directory can only not be written where a directory is
          rcases hwrite : t₁.write (Route.ofText path).text (Utf8.encode content) with e | t'
          · rcases write_of_ready hext.linkFree hr hready (Utf8.encode content) with ⟨t', ht'⟩ | hdir
            · rw [hwrite] at ht'
              cases ht'
            · rw [← placeOf_eq] at hdir
              exact .barred hext (.directory hdir)
          · have hchanged := changedAt_write hext.linkFree hwrite
            rw [hplace] at hchanged
            exact .written hext hchanged

theorem barred_of_writeText {t t' : FileTree} (ht : t.LinkFree) {path content : String}
    {e : RunError} (h : writeText t path content = (t', some e)) :
    t.Extended t' ∧ Barred t' path := by
  have hwrites := writeText_writes ht path content
  rw [h] at hwrites
  cases hwrites with
  | barred hext hbarred => exact ⟨hext, hbarred⟩

theorem changedAt_of_writeText {t t' : FileTree} (ht : t.LinkFree) {path content : String}
    (h : writeText t path content = (t', none)) :
    ∃ t₁, t.Extended t₁ ∧ t₁.ChangedAt t' (placeOf path) (.file (Utf8.encode content)) := by
  have hwrites := writeText_writes ht path content
  rw [h] at hwrites
  cases hwrites with
  | written hext hchanged => exact ⟨_, hext, hchanged⟩

/-! ### Runs -/

variable {σ : Type}

/-- Errors that tell of the path that is written to. -/
def OfPath (e : RunError) : Prop := e = .nullInPath ∨ ∃ fault, e = .file fault

theorem not_ofPath_of_isOfSettings {e : RunError} (h : e.IsOfSettings) : ¬ OfPath e := by
  rintro (rfl | ⟨fault, rfl⟩)
  · exact h
  · exact h

theorem run_dry (s : Settings) (w : Workplace) :
    ∃ report place, ∀ (σ : Type) (connect : Connector σ) (x : σ),
      run connect s true w x = ⟨report, place, x⟩ := by
  rcases hfound : discover s.source w.tree with e | ⟨files, logs⟩
  · refine ⟨.error e, w, fun σ connect x => ?_⟩
    rw [run, hfound]
  · rcases hextract : extract Grammar.registry
      ((w.noteAll logs).note (foundLog files s.source.root)) files with ⟨e | classes, w'⟩
    · refine ⟨.error e, w', fun σ connect x => ?_⟩
      rw [run, hfound]
      simp only [hextract]
    · refine ⟨.ok ⟨files, classes, none, none⟩, w', fun σ connect x => ?_⟩
      rw [run, hfound]
      simp only [hextract, if_true]

section

variable {connect : Connector σ} {s : Settings} {w : Workplace} (ht : w.tree.LinkFree) {x : σ}
include ht

theorem logOnly_of_listed {o : Outcome σ} (hcourse : Course connect s w x true o) :
    LogOnly w.journal.places w.tree o.place.tree := by
  cases hcourse with
  | unsearched => exact .refl ht w.journal.places
  | unread | listed => exact Workplace.logOnly_noteAll ht _

theorem logOnly_of_failed {o : Outcome σ} (hcourse : Course connect s w x false o) {e : RunError}
    (he : o.report = .error e) : LogOnly w.journal.places w.tree o.place.tree := by
  cases hcourse with
  | unsearched => exact .refl ht w.journal.places
  | unread | pathless | unconnected | unassembled => exact Workplace.logOnly_noteAll ht _
  | @unwritten _ _ logs _ _ _ _ hwrite =>
    have hnoted := Workplace.logOnly_noteAll ht logs
    obtain ⟨hext, -⟩ := barred_of_writeText hnoted.linkFree hwrite
    exact hnoted.trans (.of_extended hext _)
  | written => cases he

theorem barred_of_failed {o : Outcome σ} (hcourse : Course connect s w x false o) {e : RunError}
    (he : o.report = .error e) (hpath : OfPath e) :
    connect s.backend = .error e ∨
      ∃ path, s.output.path = .text path ∧ Barred o.place.tree path := by
  cases hcourse with
  | unsearched hsearch =>
    cases he
    exact absurd hpath (not_ofPath_of_isOfSettings (error_of_discover hsearch))
  | unread | pathless | unassembled =>
    cases he
    rcases hpath with h | ⟨fault, h⟩ <;> cases h
  | unconnected hnone =>
    cases he
    exact .inl hnone
  | @unwritten _ _ logs _ _ _ houtput hwrite =>
    have hnoted := Workplace.logOnly_noteAll ht logs
    obtain ⟨-, hbarred⟩ := barred_of_writeText hnoted.linkFree hwrite
    exact .inr ⟨_, houtput, hbarred⟩
  | written => cases he

theorem files_of_returned {o : Outcome σ} (hcourse : Course connect s w x false o) {r : RunReport}
    (hr : o.report = .ok r) :
    ∃ path assembly more, s.output.path = .text path ∧ r.assembly = some assembly ∧
      o.place.tree.content? (placeOf path) = some (Utf8.encode assembly.content ++ more) ∧
      (placeOf path ∉ w.journal.places → more = []) ∧
      ∀ place, place ≠ placeOf path → w.tree.Grown o.place.tree w.journal.places place := by
  cases hcourse with
  | unsearched | unread | pathless | unconnected | unassembled | unwritten => cases hr
  | @written path files classes client run assembly logs logs' t y hpath _ _ _ hwrite =>
    cases hr
    have hbefore := Workplace.logOnly_noteAll ht logs
    obtain ⟨t₁, hext, hchanged⟩ := changedAt_of_writeText hbefore.linkFree hwrite
    -- the log goes on after the document, perhaps in the same file
    have hlink : t.LinkFree := hchanged.linkFree hext.linkFree fun _ => by simp
    have hafter := Workplace.logOnly_noteAll (w := { w.noteAll logs with tree := t }) hlink logs'
    rw [Workplace.places_noteAll] at hafter
    have hcontent : t.content? (placeOf path) = some (Utf8.encode assembly.content) :=
      hchanged.content?_eq
    obtain ⟨more, hmore⟩ := (hafter.grown (placeOf path)).2 _ hcontent
    refine ⟨path, assembly, more, hpath, rfl, hmore, ?_, ?_⟩
    · intro hplace
      have hsame := (hafter.grown (placeOf path)).1 hplace
      rw [hmore, hcontent] at hsame
      exact List.append_right_eq_self.1 (Option.some.inj hsame)
    · intro place hplace
      have hmade := Grown.of_eq (congrFun hext.content place) w.journal.places
      have hput := Grown.of_eq (hchanged.content?_ne hplace) w.journal.places
      exact (((hbefore.grown place).trans hmade).trans hput).trans (hafter.grown place)

end

/-- In a tree without links a run that returns has put the text of the document, as UTF-8, into the
file at the path that the settings name; a run that fails has put it nowhere. All other regular
files, and with a failed run that one too, hold what they held, but for the files of the log, which
have only grown. What keeps the document from being written is a path that no file can have. A dry
run comes to the same with whatever client, whose state it leaves as it is. -/
theorem run_writes_document_or_nothing (connect : Connector σ) (s : Settings) (w : Workplace)
    (ht : w.tree.LinkFree) (x : σ) :
    (∀ r, (run connect s false w x).report = .ok r →
      ∃ path assembly more, s.output.path = .text path ∧ r.assembly = some assembly ∧
        (run connect s false w x).place.tree.content? (placeOf path) =
          some (Utf8.encode assembly.content ++ more) ∧
        (placeOf path ∉ w.journal.places → more = []) ∧
        ∀ place, place ≠ placeOf path →
          w.tree.Grown (run connect s false w x).place.tree w.journal.places place) ∧
    (∀ e, (run connect s false w x).report = .error e →
      (∀ place, w.tree.Grown (run connect s false w x).place.tree w.journal.places place) ∧
      (OfPath e → connect s.backend = .error e ∨ ∃ path, s.output.path = .text path ∧
        Barred (run connect s false w x).place.tree path)) ∧
    ∃ report place,
      (∀ (τ : Type) (connect : Connector τ) (y : τ), run connect s true w y = ⟨report, place, y⟩) ∧
      ∀ p, w.tree.Grown place.tree w.journal.places p := by
  have hcourse := run_course connect s false w x
  refine ⟨fun r hr => files_of_returned ht hcourse hr, ?_, ?_⟩
  · intro e he
    exact ⟨(logOnly_of_failed ht hcourse he).grown, barred_of_failed ht hcourse he⟩
  · obtain ⟨report, place, hdry⟩ := run_dry s w
    have hlisted := logOnly_of_listed ht (run_course connect s true w x)
    rw [hdry] at hlisted
    exact ⟨report, place, hdry, hlisted.grown⟩

/-- A workplace with a source file, an old document and no log. -/
def oldPlace : Workplace :=
  ⟨[("src", .dir [("a.php", .file (Utf8.encode "<?php class A {}"))]),
    ("old.md", .file [35])], {}⟩

def writingTo (path : String) : Settings := { output := { path := .text path } }

/-- The document goes below a directory that is not there yet, and the old one stays. -/
theorem run_writes_below_missing_directory :
    ∃ assembly : Assembly,
      (run (.fixed everySecondFails) (writingTo "docs/guide.md") false oldPlace 0).place.tree.content?
          ["docs", "guide.md"] = some (Utf8.encode assembly.content) ∧
        (run (.fixed everySecondFails) (writingTo "docs/guide.md") false oldPlace 0).place.tree.content?
          ["old.md"] = some [35] := by
  have hlink : oldPlace.tree.LinkFree := linkFree_of_holdNoLink (by decide +kernel)
  obtain ⟨hreturned, -, -⟩ := run_writes_document_or_nothing (.fixed everySecondFails)
    (writingTo "docs/guide.md") oldPlace hlink 0
  have hok : (run (.fixed everySecondFails) (writingTo "docs/guide.md") false oldPlace
      0).report.isOk = true := by decide +kernel
  obtain ⟨r, hr⟩ := exists_ok_of_isOk hok
  obtain ⟨path, assembly, more, hpath, -, hcontent, hmore, hothers⟩ := hreturned r hr
  obtain rfl : "docs/guide.md" = path := Value.text.inj hpath
  have hplace : placeOf "docs/guide.md" = ["docs", "guide.md"] := by decide +kernel
  rw [hplace] at hcontent hmore hothers
  rw [hmore List.not_mem_nil, List.append_nil] at hcontent
  exact ⟨assembly, hcontent, (hothers ["old.md"] (by decide)).1 List.not_mem_nil⟩

def withLog (s : Settings) (t : FileTree) : Workplace :=
  let made := Log.Journal.setUp {} t "/" s.log.level s.log.format s.log.file
  ⟨made.tree, made.journal⟩

def loggingTo (file : String) : Settings := { log := { file := .text file } }

/-- Where a log file is set, a dry run writes to it. -/
theorem dry_run_writes_log :
    (withLog (loggingTo "run.log") []).tree.LinkFree ∧
      (withLog (loggingTo "run.log") []).tree.content? ["run.log"] = some [] ∧
      (run (.fixed everySecondFails) (loggingTo "run.log") true (withLog (loggingTo "run.log") [])
        0).place.tree.content? ["run.log"] ≠ some [] :=
  ⟨linkFree_of_holdNoLink (by decide +kernel), by decide +kernel, by decide +kernel⟩

end Pipeline

end Docent
