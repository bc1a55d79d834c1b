import Docent.Proofs.Found
import Docent.Proofs.Share

/-!
# Found files and their grammars

Discovery looks at the suffix of a bare name, extraction at that of a whole path. Main statement: the
two are the same however the root is written, so that what is found by suffixes of the registry has a
grammar there, of the language that its path tells, and is never passed over for want of one.
-/

namespace Docent

open FileTree

/-! ### Suffixes of paths -/

theorem Route.names_ofText (s : String) :
    (Route.ofText s).names = (stepsOf s).filter fun n => n != "" && n != "." := rfl

theorem Route.names_joinPath (dir rest : String) :
    (Route.ofText (joinPath dir rest)).names =
      (Route.ofText dir).names ++ (Route.ofText rest).names := by
  by_cases hdir : dir = ""
  · have hjoined : joinPath dir rest = rest := by
      rw [joinPath, if_pos (.inl hdir), hdir, String.empty_append]
    rw [hjoined, hdir]
    rfl
  · obtain ⟨front, hsteps, hfront⟩ := stepsOf_joinPath hdir rest
    rw [names_ofText, hsteps, List.filter_append, hfront]
    rfl

/-- The suffix of a path below a directory is that of the name at its end, whatever the path of the
directory looks like. -/
theorem Route.suffix_joinPath (dir : String) {dirs : List String} {name : String}
    (h : ∀ n ∈ dirs ++ [name], isEntryName n = true) :
    (Route.ofText (joinPath dir (String.intercalate "/" (dirs ++ [name])))).suffix =
      (Route.ofText name).suffix := by
  have hrest : (Route.ofText (String.intercalate "/" (dirs ++ [name]))).names = dirs ++ [name] :=
    namesOf_intercalate h (by simp)
  rw [← suffix_ofText_name, Route.name, names_joinPath, hrest, ← List.append_assoc,
    List.getLast?_concat, Option.getD_some]

/-! ### Grammars and languages -/

theorem Language.suffixes_eq_map :
    Language.suffixes = Grammar.registry.map fun entry => (entry.1, entry.2.language) := rfl

theorem lookup_map_snd {α β : Type} (f : α → β) (entries : List (String × α)) (key : String) :
    (entries.map fun entry => (entry.1, f entry.2)).lookup key = (entries.lookup key).map f := by
  induction entries with
  | nil => rfl
  | cons entry entries ih =>
    rw [List.map_cons, List.lookup_cons, List.lookup_cons, ih]
    cases key == entry.1 <;> rfl

/-- A path tells a language exactly if there is a grammar for it, and that of the grammar. -/
theorem Language.ofPath?_eq (path : String) :
    Language.ofPath? path = (Registry.grammarFor? Grammar.registry path).map Grammar.language := by
  rw [Language.ofPath?, Language.ofSuffix?, Language.suffixes_eq_map]
  exact lookup_map_snd Grammar.language Grammar.registry (Route.ofText path).suffix

theorem Grammar.exists_of_suffix {suffix : String}
    (h : suffix ∈ Grammar.registry.map Prod.fst) : ∃ g, Grammar.registry.lookup suffix = some g := by
  have hall : ∀ s ∈ Grammar.registry.map Prod.fst, (Grammar.registry.lookup s).isSome = true := by
    decide +kernel
  exact Option.isSome_iff_exists.1 (hall suffix h)

/-! ### Files without a grammar -/

/-- What is logged of a file that is passed over for want of a grammar. -/
def Registry.skippedLog (path : String) : LogRecord :=
  .warning extractionLogName s!"No parser registered for {path}, skipping"

/-- Whether a record begins as those of files that are passed over do. -/
def Registry.tellsOfSkipping (r : LogRecord) : Bool := r.message.toList.head? = some 'N'

theorem Registry.tellsOfSkipping_skippedLog (path : String) :
    tellsOfSkipping (skippedLog path) = true := by
  simp [tellsOfSkipping, skippedLog, LogRecord.warning, String.toList_append, toString]

theorem Registry.not_tellsOfSkipping_extractFile {reg : Registry} {t : FileTree} {path : String}
    {g : Grammar} (hg : reg.grammarFor? path = some g) {classes : List ClassRecord}
    {logs : List LogRecord} (h : reg.extractFile t path = .ok (classes, logs)) :
    ∀ r ∈ logs, tellsOfSkipping r = false := by
  rw [extractFile, hg] at h
  dsimp only at h
  split at h
  · cases h
  · split at h
    · cases h
      simp [tellsOfSkipping, LogRecord.warning, String.toList_append, toString]
    · split at h
      · cases h
        cases g <;>
          simp [tellsOfSkipping, extractionLogs, Grammar.parsedLog, LogRecord.debug,
            String.toList_append, toString]
      · cases h
        simp [tellsOfSkipping, LogRecord.warning, String.toList_append, toString]

theorem Pipeline.extract_skips_none (reg : Registry) (w : Workplace) {paths : List String}
    (hpaths : ∀ path ∈ paths, ∃ g, reg.grammarFor? path = some g) :
    ∃ logs, (extract reg w paths).2 = w.noteAll logs ∧
      ∀ r ∈ logs, Registry.tellsOfSkipping r = false := by
  -- on the paths: each adds its records to those of the others
  induction paths generalizing w with
  | nil => exact ⟨[], rfl, List.forall_mem_nil _⟩
  | cons path paths ih =>
    have hreading : Registry.tellsOfSkipping (readingLog path) = false := by
      simp [Registry.tellsOfSkipping, readingLog, LogRecord.info, String.toList_append, toString]
    obtain ⟨g, hg⟩ := hpaths path List.mem_cons_self
    simp only [extract]
    cases hfile : reg.extractFile (w.note (readingLog path)).tree path with
    | error e => exact ⟨[readingLog path], rfl, by simpa using hreading⟩
    | ok found =>
      obtain ⟨classes, logs⟩ := found
      obtain ⟨logs', hplace, hlogs'⟩ := ih ((w.note (readingLog path)).noteAll logs)
        fun p hp => hpaths p (List.mem_cons_of_mem path hp)
      refine ⟨[readingLog path] ++ (logs ++ logs'), ?_, ?_⟩
      · dsimp only
        rw [hplace, Workplace.note_eq_noteAll, Workplace.noteAll_noteAll,
          Workplace.noteAll_noteAll]
      · intro r hr
        rcases List.mem_append.1 hr with hr | hr
        · rw [List.mem_singleton.1 hr]
          exact hreading
        · rcases List.mem_append.1 hr with hr | hr
          · exact Registry.not_tellsOfSkipping_extractFile hg hfile r hr
          · exact hlogs' r hr

/-! ### Found files -/

namespace Search

variable (s : Search) {t : FileTree} (ht : wellNamed t = true)
include ht

theorem exists_name_of_found {root path : String} (hpath : path ∈ (s.files t root).1) :
    ∃ place dirs name node, t.goal root = .ok (.directory place) ∧
      path = joinPath root (String.intercalate "/" (dirs ++ [name])) ∧
      t.node? (place ++ dirs ++ [name]) = some node ∧
      (Route.ofText path).suffix = (Route.ofText name).suffix ∧
      (Route.ofText name).suffix ∈ s.suffixes := by
  by_cases hdir : ∃ place, t.goal root = .ok (.directory place)
  · obtain ⟨place, hplace⟩ := hdir
    rw [(s.files_perm t root).mem_iff, s.mem_below ht hplace] at hpath
    obtain ⟨dirs, name, node, rfl, hnode, -, hsuffix, -⟩ := hpath
    have hentries := (wellNamedNode_at? (.dir t) ht hnode).1
    refine ⟨place, dirs, name, node, hplace, rfl, hnode, Route.suffix_joinPath root ?_, hsuffix⟩
    intro n hn
    refine hentries n ?_
    rw [List.append_assoc]
    exact List.mem_append_right _ hn
  · rw [(s.files_perm t root).mem_iff, s.below_of_not_directory t hdir] at hpath
    cases hpath

/-- Where files are looked for by suffixes that have grammars, each file that is found has one: its path
has the suffix of its bare name, and tells the language of its grammar. A path has the suffix of its last
name however the directory before it is written. No found file is passed over in extraction for want of
a grammar, wherever the files are then. -/
theorem files_have_grammars (hs : ∀ suffix ∈ s.suffixes, suffix ∈ Grammar.registry.map Prod.fst)
    (root : String) :
    (∀ path ∈ (s.files t root).1, ∃ place dirs name node g,
      t.goal root = .ok (.directory place) ∧
      path = joinPath root (String.intercalate "/" (dirs ++ [name])) ∧
      t.node? (place ++ dirs ++ [name]) = some node ∧
      (Route.ofText path).suffix = (Route.ofText name).suffix ∧
      Registry.grammarFor? Grammar.registry path = some g ∧
      Language.ofPath? path = some g.language) ∧
    (∀ dir name, isEntryName name = true →
      (Route.ofText (joinPath dir name)).suffix = (Route.ofText name).suffix) ∧
    ∀ w, ∃ logs, (Pipeline.extract Grammar.registry w (s.files t root).1).2 = w.noteAll logs ∧
      ∀ path, Registry.skippedLog path ∉ logs := by
  have hgrammar {path : String} (hpath : path ∈ (s.files t root).1) :
      ∃ g, Registry.grammarFor? Grammar.registry path = some g := by
    obtain ⟨place, dirs, name, node, -, -, -, hsuffix, hmem⟩ := s.exists_name_of_found ht hpath
    rw [Registry.grammarFor?, hsuffix]
    exact Grammar.exists_of_suffix (hs _ hmem)
  refine ⟨?_, ?_, ?_⟩
  · intro path hpath
    obtain ⟨place, dirs, name, node, hplace, hjoined, hnode, hsuffix, -⟩ :=
      s.exists_name_of_found ht hpath
    obtain ⟨g, hg⟩ := hgrammar hpath
    refine ⟨place, dirs, name, node, g, hplace, hjoined, hnode, hsuffix, hg, ?_⟩
    rw [Language.ofPath?_eq, hg, Option.map_some]
  · intro dir name hname
    have hsingle : ∀ n ∈ [] ++ [name], isEntryName n = true := by simpa using hname
    have hsuffix := Route.suffix_joinPath dir hsingle
    rwa [List.nil_append, String.intercalate_singleton] at hsuffix
  · intro w
    obtain ⟨logs, hplace, hlogs⟩ :=
      Pipeline.extract_skips_none Grammar.registry w fun path hpath => hgrammar hpath
    refine ⟨logs, hplace, ?_⟩
    intro path hpath
    have hskipped := hlogs _ hpath
    rw [Registry.tellsOfSkipping_skippedLog] at hskipped
    cases hskipped

omit ht

/-- A directory with a dot in its name, and in it names with several dots, blanks and a dot in front. -/
def dottedTree : FileTree :=
  [("src.d", .dir [("a.b.php", .file []), (".php", .file []), (".cache", .dir [("x y.tsx", .file [])])])]

theorem files_have_grammars_dottedTree :
    let s : Search := ⟨[".php", ".tsx"], []⟩
    "./src.d//.cache/x y.tsx" ∈ (s.files dottedTree "./src.d//").1 ∧
      ∃ g, Registry.grammarFor? Grammar.registry "./src.d//.cache/x y.tsx" = some g ∧
        Language.ofPath? "./src.d//.cache/x y.tsx" = some g.language := by
  intro s
  have hnamed : wellNamed dottedTree = true := by decide +kernel
  have hfound : "./src.d//.cache/x y.tsx" ∈ (s.files dottedTree "./src.d//").1 := by
    rw [(s.files_perm dottedTree "./src.d//").mem_iff]
    decide +kernel
  obtain ⟨-, -, -, -, g, -, -, -, -, hg, hlanguage⟩ :=
    (files_have_grammars s hnamed (by decide +kernel) "./src.d//").1 _ hfound
  exact ⟨hfound, g, hg, hlanguage⟩

end Search

end Docent
