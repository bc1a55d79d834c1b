import Docent.Pipeline
import Docent.Proofs.Except

/-!
# The courses that a run can take

A run ends at one of a few points: before it has a client, with the assembly, with the writing, or
with all done. What it leaves is told once here, for each of them. Main statement: every run takes one
of the courses.
-/

namespace Docent

namespace Workplace

theorem noteAll_noteAll (w : Workplace) (rs rs' : List LogRecord) :
    (w.noteAll rs).noteAll rs' = w.noteAll (rs ++ rs') := by
  rw [noteAll, noteAll, noteAll, List.foldl_append]

theorem note_eq_noteAll (w : Workplace) (r : LogRecord) : w.note r = w.noteAll [r] := rfl

end Workplace

/-- Errors that tell of a value in the settings. -/
def RunError.IsOfSettings : RunError → Prop
  | .notIterable _ | .unhashable _ | .notAPath _ => True
  | _ => False

namespace Pipeline

variable {σ : Type}

/-! ### Steps of a run -/

theorem error_of_textsOf {vs : List Value} {e : RunError} (h : textsOf vs = .error e) :
    e.IsOfSettings := by
  fun_induction textsOf vs with
  | case1 => cases h
  | case2 s vs ih => exact ih (error_of_map h)
  | case3 | case4 =>
    cases h
    trivial
  | case5 v vs _ _ _ ih => exact ih h

theorem error_of_textSet {v : Value} {e : RunError} (h : textSet v = .error e) :
    e.IsOfSettings := by
  rw [textSet] at h
  split at h
  · exact error_of_textsOf h
  · cases h
    trivial

theorem error_of_discover {s : SourceSettings} {t : FileTree} {e : RunError}
    (h : discover s t = .error e) : e.IsOfSettings := by
  rcases error_of_bind h with h | ⟨suffixes, -, h⟩
  · exact error_of_textSet h
  · rcases error_of_bind h with h | ⟨excluded, -, h⟩
    · exact error_of_textSet h
    · rcases error_of_bind h with h | ⟨root, -, h⟩
      · obtain ⟨e', -, rfl⟩ := error_of_mapError h
        trivial
      · cases h

theorem error_of_extract {reg : Registry} {w : Workplace} {paths : List String} {e : RunError}
    (h : (extract reg w paths).1 = .error e) : ∃ e', e = .extraction e' := by
  induction paths generalizing w with
  | nil => cases h
  | cons path paths ih =>
    simp only [extract] at h
    split at h
    · cases h
      exact ⟨_, rfl⟩
    · exact ih (error_of_map h)

theorem exists_place_extract (reg : Registry) (w : Workplace) (paths : List String) :
    ∃ logs, (extract reg w paths).2 = w.noteAll logs := by
  induction paths generalizing w with
  | nil => exact ⟨[], rfl⟩
  | cons path paths ih =>
    simp only [extract]
    split
    · exact ⟨[readingLog path], rfl⟩
    · rename_i classes logs _
      obtain ⟨logs', hplace⟩ := ih ((w.note (readingLog path)).noteAll logs)
      refine ⟨[readingLog path] ++ (logs ++ logs'), ?_⟩
      rw [hplace, Workplace.note_eq_noteAll, Workplace.noteAll_noteAll, Workplace.noteAll_noteAll]

theorem error_of_writeText {t t' : FileTree} {path content : String} {e : RunError}
    (h : writeText t path content = (t', some e)) : e = .nullInPath ∨ ∃ e', e = .file e' := by
  simp only [writeText] at h
  split at h
  · cases h
    exact .inl rfl
  · split at h
    · cases h
      exact .inr ⟨_, rfl⟩
    · split at h
      · cases h
        exact .inl rfl
      · split at h
        · cases h
        · cases h
          exact .inr ⟨_, rfl⟩

/-! ### Courses -/

/-- The courses of a run from a place and a state of the client, with what they leave. -/
inductive Course (connect : Connector σ) (s : Settings) (w : Workplace) (x : σ) :
    Bool → Outcome σ → Prop
  | unsearched {dry : Bool} {e : RunError} (h : discover s.source w.tree = .error e) :
      Course connect s w x dry ⟨.error e, w, x⟩
  | unread {dry : Bool} {e : ExtractionError} {logs : List LogRecord} :
      Course connect s w x dry ⟨.error (.extraction e), w.noteAll logs, x⟩
  | listed {files : List String} {classes : List ClassRecord} {logs : List LogRecord} :
      Course connect s w x true ⟨.ok ⟨files, classes, none, none⟩, w.noteAll logs, x⟩
  | pathless {e : NotAPath} {logs : List LogRecord} :
      Course connect s w x false ⟨.error (.notAPath e), w.noteAll logs, x⟩
  | unconnected {e : RunError} {logs : List LogRecord} (h : connect s.backend = .error e) :
      Course connect s w x false ⟨.error e, w.noteAll logs, x⟩
  | unassembled {client : Client σ} {classes : List ClassRecord} {run : AssemblyRun}
      {f : CompletionFailure} {logs : List LogRecord} {y : σ}
      (hclient : connect s.backend = .ok client)
      (hrun : assemble client s.project s.project.space s.backend.failFast classes x = (run, y))
      (h : run.outcome = .error f) :
      Course connect s w x false ⟨.error (.completion f), w.noteAll logs, y⟩
  | unwritten {path : String} {assembly : Assembly} {logs : List LogRecord} {t : FileTree}
      {e : RunError} {y : σ} (hpath : s.output.path = .text path)
      (h : writeText (w.noteAll logs).tree path assembly.content = (t, some e)) :
      Course connect s w x false ⟨.error e, { w.noteAll logs with tree := t }, y⟩
  | written {path : String} {files : List String} {classes : List ClassRecord}
      {client : Client σ} {run : AssemblyRun} {assembly : Assembly} {logs logs' : List LogRecord}
      {t : FileTree} {y : σ} (hpath : s.output.path = .text path)
      (hclient : connect s.backend = .ok client)
      (hrun : assemble client s.project s.project.space s.backend.failFast classes x = (run, y))
      (hassembly : run.outcome = .ok assembly)
      (h : writeText (w.noteAll logs).tree path assembly.content = (t, none)) :
      Course connect s w x false
        ⟨.ok ⟨files, classes, some assembly, some (Route.ofText path).text⟩,
          Workplace.noteAll { w.noteAll logs with tree := t } logs', y⟩

theorem eq_text_of_path {v : Value} {path : String} (h : v.path = .ok path) : v = .text path := by
  cases v <;> cases h
  rfl

theorem course_of_document (connect : Connector σ) (s : Settings) (files : List String)
    (classes : List ClassRecord) (w : Workplace) (logs : List LogRecord) (x : σ) :
    Course connect s w x false (document connect s files classes (w.noteAll logs) x) := by
  rw [document]
  cases hpath : s.output.path.path with
  | error e => exact .pathless
  | ok path =>
    cases hclient : connect s.backend with
    | error e =>
      simp only [Workplace.noteAll_noteAll]
      exact .unconnected hclient
    | ok client =>
      rcases hrun : assemble client s.project s.project.space s.backend.failFast classes x with
        ⟨run, y⟩
      simp only [hrun, Workplace.noteAll_noteAll]
      generalize logs ++ _ ++ run.logs = logs'
      cases hassembly : run.outcome with
      | error f => exact .unassembled hclient hrun hassembly
      | ok assembly =>
        rcases hwrite : writeText (w.noteAll logs').tree path assembly.content with ⟨t, _ | e⟩
        · simp only [writeDocument, hwrite, Workplace.note_eq_noteAll, Workplace.noteAll_noteAll]
          exact .written (eq_text_of_path hpath) hclient hrun hassembly hwrite
        · simp only [writeDocument, hwrite]
          exact .unwritten (eq_text_of_path hpath) hwrite

theorem run_course (connect : Connector σ) (s : Settings) (dry : Bool) (w : Workplace) (x : σ) :
    Course connect s w x dry (run connect s dry w x) := by
  rw [run]
  cases hfound : discover s.source w.tree with
  | error e => exact .unsearched hfound
  | ok found =>
    obtain ⟨files, logs⟩ := found
    simp only [Workplace.note_eq_noteAll, Workplace.noteAll_noteAll]
    obtain ⟨read, hplace⟩ := exists_place_extract Grammar.registry
      (w.noteAll (logs ++ [foundLog files s.source.root])) files
    rcases hextract : extract Grammar.registry
      (w.noteAll (logs ++ [foundLog files s.source.root])) files with ⟨result, w'⟩
    rw [hextract, Workplace.noteAll_noteAll] at hplace
    obtain rfl : w' = _ := hplace
    cases result with
    | error e =>
      obtain ⟨e', rfl⟩ := error_of_extract (congrArg Prod.fst hextract)
      exact .unread
    | ok classes =>
      cases dry with
      | true => exact .listed
      | false => exact course_of_document connect s files classes w _ x

end Pipeline

end Docent
