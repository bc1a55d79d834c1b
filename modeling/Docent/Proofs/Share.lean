import Docent.Proofs.Course
import Docent.Proofs.Follow

/-!
# The share of each file

Files are extracted one after the other, and the log is written meanwhile. Main statement: where the
log does not write to them, each file has the share in the records that it has by itself; a file that
yields nothing for whatever reason costs one warning, and no other file its share.
-/

namespace Docent

open FileTree

/-! ### One file -/

namespace Registry

variable (reg : Registry) (t : FileTree) (path : String)

/-- The classes in a file, unless there is no grammar for it, it cannot be read, or it is not in its
grammar. -/
def classesIn? : Option (List ClassRecord) :=
  (reg.grammarFor? path).bind fun g =>
    (t.read path).toOption.bind fun bytes => (extractSource g path (Utf8.sourceText bytes)).toOption

def share : List ClassRecord := (reg.classesIn? t path).getD []

/-- What is logged of a file: one warning if there are no classes to be had, and else none. -/
def Reports (found : Option (List ClassRecord)) (logs : List LogRecord) : Prop :=
  match found with
  | some _ => ∀ r ∈ logs, r.level < 30
  | none => ∃ message, logs = [.warning extractionLogName message]

theorem level_parsedLog (g : Grammar) (path : String) (cs : List Char) :
    (g.parsedLog path cs).level = 10 := by
  cases g <;> rfl

theorem reports_extractionLogs (g : Grammar) (path : String) (cs : List Char)
    (classes : List ClassRecord) : Reports (some classes) (extractionLogs g path cs classes) := by
  intro r hr
  have hlevel : r.level = 10 := by
    rcases List.mem_cons.1 hr with rfl | hr
    · exact level_parsedLog g path cs
    · rw [List.mem_singleton.1 hr]
      rfl
  omega

theorem extractFile_reports (reg : Registry) (t : FileTree) {path : String}
    (hpath : Pipeline.hasNull path = false) :
    ∃ logs, reg.extractFile t path = .ok (reg.share t path, logs) ∧
      Reports (reg.classesIn? t path) logs := by
  rw [Pipeline.hasNull] at hpath
  rw [extractFile, share]
  -- no grammar, a file that cannot be read, a text that is refused: one warning each
  cases hg : reg.grammarFor? path with
  | none =>
    have hnone : reg.classesIn? t path = none := by rw [classesIn?, hg, Option.bind_none]
    rw [hnone]
    exact ⟨_, rfl, _, rfl⟩
  | some g =>
    simp only [hpath, Bool.false_eq_true, if_false]
    cases hread : t.read path with
    | error e =>
      have hnone : reg.classesIn? t path = none := by
        rw [classesIn?, hg, Option.bind_some, hread]
        rfl
      rw [hnone]
      exact ⟨_, rfl, _, rfl⟩
    | ok bytes =>
      cases hextract : extractSource g path (Utf8.sourceText bytes) with
      | error e =>
        have hnone : reg.classesIn? t path = none := by
          rw [classesIn?, hg, Option.bind_some, hread, Except.toOption, Option.bind_some, hextract]
          rfl
        simp only [hextract, hnone]
        exact ⟨_, rfl, _, rfl⟩
      | ok classes =>
        have hsome : reg.classesIn? t path = some classes := by
          rw [classesIn?, hg, Option.bind_some, hread, Except.toOption, Option.bind_some, hextract]
          rfl
        simp only [hextract, hsome]
        exact ⟨_, rfl, reports_extractionLogs g path _ classes⟩

variable {reg t path} in
theorem classesIn?_congr {t' : FileTree} (h : (t'.read path).toOption = (t.read path).toOption) :
    reg.classesIn? t' path = reg.classesIn? t path := by
  rw [classesIn?, classesIn?, h]

end Registry

/-! ### What the log leaves as it is -/

/-- Between two trees only files at some places have changed, for which there may have been nothing
before: each path leads where it led, and other files are read as before. -/
structure FileTree.Kept (logged : List (List String)) (t t' : FileTree) : Prop where
  spot : ∀ path, t'.spot? path = t.spot? path
  read : ∀ path, (∀ q ∈ logged, t.spot? path ≠ some q) →
    (t'.read path).toOption = (t.read path).toOption

namespace FileTree

theorem Kept.refl (logged : List (List String)) (t : FileTree) : Kept logged t t :=
  ⟨fun _ => rfl, fun _ _ => rfl⟩

theorem Kept.trans {logged : List (List String)} {t t' t'' : FileTree} (h : Kept logged t t')
    (h' : Kept logged t' t'') : Kept logged t t'' where
  spot := fun path => (h'.spot path).trans (h.spot path)
  read := fun path hpath =>
    (h'.read path fun q hq => h.spot path ▸ hpath q hq).trans (h.read path hpath)

theorem kept_append {t t' : FileTree} {path : String} {more : List UInt8}
    (h : t.append path more = .ok t') {logged : List (List String)}
    (hlogged : ∀ q, t.spot? path = some q → q ∈ logged) : Kept logged t t' := by
  obtain ⟨q, content, hspot, hrefiled⟩ := refiled_of_append h
  refine ⟨spot?_refiled hrefiled, ?_⟩
  intro other hother
  exact read_refiled hrefiled (hother q (hlogged q hspot))

end FileTree

namespace Log

/-- The places of the files that a journal writes to. -/
def Journal.spots (j : Journal) (t : FileTree) : List (List String) :=
  j.handlers.filterMap fun h =>
    match h.target with
    | .console => none
    | .file path => t.spot? path

theorem Journal.mem_spots {j : Journal} {t : FileTree} {h : Handler} (hh : h ∈ j.handlers)
    {path : String} (htarget : h.target = .file path) {q : List String}
    (hq : t.spot? path = some q) : q ∈ j.spots t := by
  rw [Journal.spots, List.mem_filterMap]
  exact ⟨h, hh, by rw [htarget]; exact hq⟩

theorem Journal.spots_congr {j : Journal} {t t' : FileTree}
    (h : ∀ path, t'.spot? path = t.spot? path) : j.spots t' = j.spots t := by
  rw [Journal.spots, Journal.spots]
  simp only [h]

theorem Handler.kept_write {logged : List (List String)} {h : Handler} {pages : Pages}
    (hlogged : ∀ path, h.target = .file path → ∀ q, pages.2.spot? path = some q → q ∈ logged)
    (r : LogRecord) : Kept logged pages.2 (h.write r pages).2 := by
  rw [Handler.write]
  split
  · exact .refl logged pages.2
  · split
    · exact .refl logged pages.2
    · dsimp only
      split
      · exact .refl logged pages.2
      · rename_i path htarget
        split
        · rename_i happend
          exact kept_append happend (hlogged path htarget)
        · exact .refl logged pages.2

theorem kept_foldl {logged : List (List String)} {hs : List Handler} {pages : Pages}
    (hlogged : ∀ h ∈ hs, ∀ path, h.target = .file path →
      ∀ q, pages.2.spot? path = some q → q ∈ logged) (r : LogRecord) :
    Kept logged pages.2 (hs.foldl (fun p h => h.write r p) pages).2 := by
  induction hs generalizing pages with
  | nil => exact .refl logged pages.2
  | cons h hs ih =>
    have hfirst := h.kept_write (hlogged h List.mem_cons_self) r
    refine hfirst.trans (ih ?_)
    intro h' hh' path htarget q hq
    rw [hfirst.spot] at hq
    exact hlogged h' (List.mem_cons_of_mem h hh') path htarget q hq

theorem Journal.kept_write (j : Journal) (r : LogRecord) (pages : Pages) :
    Kept (j.spots pages.2) pages.2 (j.write r pages).2 := by
  rw [Journal.write]
  split
  · exact .refl _ pages.2
  · split
    · rename_i h hs _ hhandlers
      rw [← hhandlers]
      exact kept_foldl (fun _ hh _ htarget _ => Journal.mem_spots hh htarget) r
    · split
      · exact .refl _ pages.2
      · exact .refl _ pages.2

end Log

namespace Workplace

/-- The places of the files that the log is written to. -/
def spots (w : Workplace) : List (List String) := w.journal.spots w.tree

theorem records_noteAll (w : Workplace) (rs : List LogRecord) :
    (w.noteAll rs).journal.records = w.journal.records ++ rs := by
  induction rs generalizing w with
  | nil => exact (List.append_nil _).symm
  | cons r rs ih =>
    have hrest := ih (w.note r)
    have hfirst : (w.note r).journal.records = w.journal.records ++ [r] := rfl
    rw [hfirst, List.append_assoc] at hrest
    exact hrest

theorem kept_note (w : Workplace) (r : LogRecord) : Kept w.spots w.tree (w.note r).tree :=
  w.journal.kept_write r (w.journal.screen, w.tree)

theorem spots_note (w : Workplace) (r : LogRecord) : (w.note r).spots = w.spots :=
  Log.Journal.spots_congr (j := w.journal) (w.kept_note r).spot

theorem kept_noteAll (w : Workplace) (rs : List LogRecord) :
    Kept w.spots w.tree (w.noteAll rs).tree := by
  induction rs generalizing w with
  | nil => exact .refl w.spots w.tree
  | cons r rs ih =>
    have hrest := ih (w.note r)
    rw [spots_note] at hrest
    exact (w.kept_note r).trans hrest

theorem spots_noteAll (w : Workplace) (rs : List LogRecord) : (w.noteAll rs).spots = w.spots := by
  induction rs generalizing w with
  | nil => rfl
  | cons r rs ih => exact (ih (w.note r)).trans (w.spots_note r)

end Workplace

/-! ### All files -/

namespace Pipeline

variable (reg : Registry)

theorem extract_cons (w : Workplace) {path : String} (hpath : hasNull path = false)
    (paths : List String) :
    ∃ logs, Registry.Reports (reg.classesIn? (w.note (readingLog path)).tree path) logs ∧
      extract reg w (path :: paths) =
        ((extract reg (w.noteAll (readingLog path :: logs)) paths).1.map
          (reg.share (w.note (readingLog path)).tree path ++ ·),
        (extract reg (w.noteAll (readingLog path :: logs)) paths).2) := by
  obtain ⟨logs, hfile, hreports⟩ :=
    Registry.extractFile_reports reg (w.note (readingLog path)).tree hpath
  refine ⟨logs, hreports, ?_⟩
  rw [extract]
  simp only [hfile]
  rfl

/-- Whatever is in the files, extraction comes to an end with records. -/
theorem extract_ok (w : Workplace) {paths : List String}
    (hpaths : ∀ path ∈ paths, hasNull path = false) :
    ∃ classes, (extract reg w paths).1 = .ok classes := by
  induction paths generalizing w with
  | nil => exact ⟨[], rfl⟩
  | cons path paths ih =>
    obtain ⟨logs, -, hextract⟩ := extract_cons reg w (hpaths path List.mem_cons_self) paths
    obtain ⟨classes, hclasses⟩ := ih (w.noteAll (readingLog path :: logs))
      fun p hp => hpaths p (List.mem_cons_of_mem path hp)
    rw [hextract, hclasses]
    exact ⟨_, rfl⟩

/-- The files lead to no place of the log. -/
def Unlogged (w : Workplace) (path : String) : Prop := ∀ q ∈ w.spots, w.tree.spot? path ≠ some q

theorem Unlogged.noteAll {w : Workplace} {path : String} (h : Unlogged w path)
    (rs : List LogRecord) : Unlogged (w.noteAll rs) path := by
  rw [Unlogged, w.spots_noteAll, (w.kept_noteAll rs).spot]
  exact h

theorem classesIn?_noteAll {w : Workplace} {path : String} (h : Unlogged w path)
    (rs : List LogRecord) : reg.classesIn? (w.noteAll rs).tree path = reg.classesIn? w.tree path :=
  Registry.classesIn?_congr ((w.kept_noteAll rs).read path h)

theorem share_noteAll {w : Workplace} {path : String} (h : Unlogged w path)
    (rs : List LogRecord) : reg.share (w.noteAll rs).tree path = reg.share w.tree path := by
  rw [Registry.share, Registry.share, classesIn?_noteAll reg h]

theorem extract_of_found {found : String → Option (List ClassRecord)} (w : Workplace)
    {paths : List String} (hpaths : ∀ path ∈ paths, hasNull path = false)
    (hlog : ∀ path ∈ paths, Unlogged w path)
    (hfound : ∀ path ∈ paths, reg.classesIn? w.tree path = found path) :
    (extract reg w paths).1 = .ok (paths.flatMap fun path => (found path).getD []) ∧
      ∃ noted : List (List LogRecord),
        (extract reg w paths).2.journal.records = w.journal.records ++ noted.flatten ∧
        List.Forall₂ (fun path logs => ∃ report, logs = readingLog path :: report ∧
          Registry.Reports (found path) report) paths noted := by
  -- on the paths, from whatever workplace the files before have left
  induction paths generalizing w with
  | nil => exact ⟨rfl, [], (List.append_nil _).symm, .nil⟩
  | cons path paths ih =>
    obtain ⟨logs, hreports, hextract⟩ := extract_cons reg w (hpaths path List.mem_cons_self) paths
    have hfirst : reg.classesIn? (w.note (readingLog path)).tree path = found path :=
      (classesIn?_noteAll reg (hlog path List.mem_cons_self) [readingLog path]).trans
        (hfound path List.mem_cons_self)
    -- what is logged of the first file does not touch the others
    have hrest (p : String) (hp : p ∈ paths) :
        Unlogged (w.noteAll (readingLog path :: logs)) p ∧
          reg.classesIn? (w.noteAll (readingLog path :: logs)).tree p = found p := by
      have hunlogged := hlog p (List.mem_cons_of_mem path hp)
      exact ⟨hunlogged.noteAll _, (classesIn?_noteAll reg hunlogged _).trans
        (hfound p (List.mem_cons_of_mem path hp))⟩
    obtain ⟨hclasses, noted, hrecords, hnoted⟩ := ih (w.noteAll (readingLog path :: logs))
      (fun p hp => hpaths p (List.mem_cons_of_mem path hp)) (fun p hp => (hrest p hp).1)
      (fun p hp => (hrest p hp).2)
    rw [hfirst] at hreports
    rw [hextract, hclasses, Registry.share, hfirst]
    refine ⟨rfl, (readingLog path :: logs) :: noted, ?_, .cons ⟨logs, rfl, hreports⟩ hnoted⟩
    rw [hrecords, Workplace.records_noteAll, List.flatten_cons, List.append_assoc]

/-- A file that the log is not written to gives its share, between those of the files before and after
it. -/
theorem extract_share (w : Workplace) {paths : List String}
    (hpaths : ∀ path ∈ paths, hasNull path = false) {path : String} (hmem : path ∈ paths)
    (hlog : Unlogged w path) :
    ∃ before after,
      (extract reg w paths).1 = .ok (before ++ reg.share w.tree path ++ after) := by
  induction paths generalizing w with
  | nil => cases hmem
  | cons p paths ih =>
    obtain ⟨logs, -, hextract⟩ := extract_cons reg w (hpaths p List.mem_cons_self) paths
    have hrest (p' : String) (hp' : p' ∈ paths) : hasNull p' = false :=
      hpaths p' (List.mem_cons_of_mem p hp')
    rw [hextract]
    rcases List.mem_cons.1 hmem with rfl | hmem
    · obtain ⟨after, hafter⟩ := extract_ok reg (w.noteAll (readingLog path :: logs)) hrest
      have hfirst : reg.share (w.note (readingLog path)).tree path = reg.share w.tree path :=
        share_noteAll reg hlog [readingLog path]
      refine ⟨[], after, ?_⟩
      rw [hafter, hfirst]
      rfl
    · obtain ⟨before, after, hclasses⟩ :=
        ih (w.noteAll (readingLog p :: logs)) hrest hmem (hlog.noteAll _)
      refine ⟨reg.share (w.note (readingLog p)).tree p ++ before, after, ?_⟩
      rw [hclasses, share_noteAll reg hlog]
      simp only [Except.map, List.append_assoc]

theorem Unlogged.of_refiled {w : Workplace} {path : String} (h : Unlogged w path) {t : FileTree}
    {q : List String} {content : List UInt8} (ht : w.tree.Refiled t q content) :
    Unlogged { w with tree := t } path := by
  have hspots : Workplace.spots { w with tree := t } = w.spots :=
    Log.Journal.spots_congr (j := w.journal) (spot?_refiled ht)
  rw [Unlogged, hspots, spot?_refiled ht]
  exact h

/-- Extraction of any files whose paths a system takes comes to an end with records. A file gives all of
its classes and no warning, or none and one warning. Where the log does not write to the files, they
give their shares one after the other, with these reports; and when a file is written, the shares of
the paths that lead to it are those in the new tree, and the others stay. -/
theorem extract_shares (w : Workplace) (paths : List String)
    (hpaths : ∀ path ∈ paths, hasNull path = false) :
    (∃ classes, (extract reg w paths).1 = .ok classes) ∧
    (∀ t : FileTree, ∀ path ∈ paths, ∃ logs,
      reg.extractFile t path = .ok (reg.share t path, logs) ∧
        Registry.Reports (reg.classesIn? t path) logs) ∧
    ((∀ path ∈ paths, Unlogged w path) →
      (extract reg w paths).1 = .ok (paths.flatMap (reg.share w.tree)) ∧
      (∃ noted : List (List LogRecord),
        (extract reg w paths).2.journal.records = w.journal.records ++ noted.flatten ∧
        List.Forall₂ (fun path logs => ∃ report, logs = readingLog path :: report ∧
          Registry.Reports (reg.classesIn? w.tree path) report) paths noted) ∧
      ∀ name content t, w.tree.write name content = .ok t →
        (extract reg { w with tree := t } paths).1 = .ok (paths.flatMap fun path =>
          if w.tree.spot? path = w.tree.spot? name then reg.share t path
          else reg.share w.tree path)) := by
  refine ⟨extract_ok reg w hpaths, ?_, ?_⟩
  · intro t path hpath
    exact Registry.extractFile_reports reg t (hpaths path hpath)
  · intro hlog
    obtain ⟨hclasses, hnoted⟩ := extract_of_found reg w hpaths hlog fun _ _ => rfl
    refine ⟨hclasses, hnoted, ?_⟩
    intro name content t hwrite
    -- writing a file changes what is read at one spot, and no spot of the log
    obtain ⟨q, hq, hrefiled⟩ := refiled_of_write hwrite
    have hlog' : ∀ path ∈ paths, Unlogged { w with tree := t } path :=
      fun path hpath => (hlog path hpath).of_refiled hrefiled
    obtain ⟨hclasses', -⟩ := extract_of_found reg { w with tree := t } hpaths hlog' fun _ _ => rfl
    rw [hclasses']
    congr 1
    refine List.flatMap_congr fun path _ => ?_
    split
    · rfl
    · rename_i hne
      rw [hq] at hne
      rw [Registry.classesIn?_congr (read_refiled hrefiled hne)]
      rfl

instance (w : Workplace) (path : String) : Decidable (Unlogged w path) :=
  inferInstanceAs (Decidable (∀ q ∈ w.spots, w.tree.spot? path ≠ some q))

/-- Sources of all sorts, and a log. -/
def mixedPlace : Workplace where
  tree :=
    [("src", .dir [("a.php", .file (Utf8.encode "<?php class A {}")),
      ("again.php", .link "a.php"), ("bad.php", .file (Utf8.encode "<?php class B \x7b")),
      ("notes.txt", .file [0xff])])]
  journal := { level := 10, handlers := [⟨.file "run.log", 10, "%(message)s".toList⟩] }

def mixedPaths : List String :=
  ["src/a.php", "src/bad.php", "src/again.php", "src/notes.txt", "src/none.php", "src"]

/-- Two of the paths give a class, and lead to one file; the others cost a warning each. -/
theorem extract_mixedPlace :
    (extract Grammar.registry mixedPlace mixedPaths).1 =
        .ok (mixedPaths.flatMap (Registry.share Grammar.registry mixedPlace.tree)) ∧
      mixedPaths.map (fun path => (Registry.share Grammar.registry mixedPlace.tree path).length) =
        [1, 0, 1, 0, 0, 0] ∧
      ∃ t, (extract Grammar.registry { mixedPlace with tree := t } mixedPaths).1 =
        .ok (mixedPaths.flatMap fun path =>
          if mixedPlace.tree.spot? path = mixedPlace.tree.spot? "src/a.php" then
            Registry.share Grammar.registry t path
          else Registry.share Grammar.registry mixedPlace.tree path) := by
  obtain ⟨-, -, hall⟩ := extract_shares Grammar.registry mixedPlace mixedPaths (by decide +kernel)
  obtain ⟨hclasses, -, hwritten⟩ := hall (by decide +kernel)
  have hok : (mixedPlace.tree.write "src/a.php" []).isOk = true := by decide +kernel
  obtain ⟨t, ht⟩ := exists_ok_of_isOk hok
  exact ⟨hclasses, by decide +kernel, t, hwritten "src/a.php" [] t ht⟩

/-- A place where the log goes into a source file. -/
def loggedSource : Workplace where
  tree := [("a.php", .file (Utf8.encode "<?php class A {}\n"))]
  journal := { level := 20, handlers := [⟨.file "a.php", 20, "%(message)s".toList⟩] }

/-- What is logged before the file is read is in it when it is read, and it has no classes any more. -/
theorem extract_loggedSource :
    hasNull "a.php" = false ∧ (extract Grammar.registry loggedSource ["a.php"]).1 ≠
      .ok (["a.php"].flatMap (Registry.share Grammar.registry loggedSource.tree)) := by
  have hone : (["a.php"].flatMap (Registry.share Grammar.registry loggedSource.tree)).length = 1 := by
    decide +kernel
  have hnone : (extract Grammar.registry loggedSource ["a.php"]).1.toOption.map List.length =
      some 0 := by decide +kernel
  refine ⟨by decide +kernel, ?_⟩
  intro h
  rw [h, Except.toOption, Option.map_some, hone] at hnone
  cases hnone

end Pipeline

end Docent
