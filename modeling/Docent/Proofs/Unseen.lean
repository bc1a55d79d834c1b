import Docent.Pipeline
import Mathlib.Data.List.Forall2

/-!
# What an assembly does not see

The skeletons show names and documentation alone. Main statement: records that differ in bodies,
lines and file paths lead to the same prompts, the same replies, and the same document.
-/

namespace Docent

/-- Two records of methods agree in what a skeleton shows. -/
structure MethodRecord.Alike (m m' : MethodRecord) : Prop where
  name : m.name = m'.name
  doc : m.doc = m'.doc

/-- Two records of classes agree in what skeletons show, of the class and of its methods. -/
structure ClassRecord.Alike (c c' : ClassRecord) : Prop where
  name : c.name = c'.name
  doc : c.doc = c'.doc
  language : c.language = c'.language
  enclosing : c.enclosing = c'.enclosing
  methods : List.Forall₂ MethodRecord.Alike c.methods c'.methods

/-- What a run tells of its writing: the document, and where it went. -/
def RunReport.written (r : RunReport) : Option Assembly × Option String := (r.assembly, r.output)

/-! ### Segments -/

theorem MethodRecord.Alike.segment_eq {m m' : MethodRecord} (h : m.Alike m')
    (language : Language) : Segment.ofMethod language m = Segment.ofMethod language m' := by
  have hcode : methodSkeleton m language = methodSkeleton m' language := by
    cases language <;> simp only [methodSkeleton, h.name, h.doc]
  simp only [Segment.ofMethod, h.name, hcode]

theorem ClassRecord.Alike.segment_eq {c c' : ClassRecord} (h : c.Alike c') (default : Value) :
    Segment.ofClass default c = Segment.ofClass default c' := by
  have hcode : classSkeleton c default = classSkeleton c' default := by
    rw [classSkeleton, classSkeleton, ← h.language]
    cases c.language <;> simp only [h.name, h.doc, h.enclosing]
  simp only [Segment.ofClass, h.name, h.language, hcode]

theorem map_ofMethod_eq_of_alike {ms ms' : List MethodRecord}
    (h : List.Forall₂ MethodRecord.Alike ms ms') (language : Language) :
    ms.map (Segment.ofMethod language) = ms'.map (Segment.ofMethod language) := by
  induction h with
  | nil => rfl
  | cons hm _ ih => rw [List.map_cons, List.map_cons, hm.segment_eq, ih]

theorem ClassRecord.Alike.allOf_eq {c c' : ClassRecord} (h : c.Alike c') (default : Value) :
    Segment.allOf default c = Segment.allOf default c' := by
  rw [Segment.allOf, Segment.allOf, h.segment_eq, map_ofMethod_eq_of_alike h.methods, h.language]

theorem segments_eq_of_alike {cs cs' : List ClassRecord}
    (h : List.Forall₂ ClassRecord.Alike cs cs') (default : Value) :
    segments default cs = segments default cs' := by
  induction h with
  | nil => rfl
  | cons hc _ ih =>
    rw [segments, List.flatMap_cons, hc.allOf_eq]
    exact congrArg _ ih

/-! ### Counts -/

theorem methodTotal_eq_of_alike {cs cs' : List ClassRecord}
    (h : List.Forall₂ ClassRecord.Alike cs cs') : methodTotal cs = methodTotal cs' := by
  induction h with
  | nil => rfl
  | cons hc _ ih =>
    simp only [methodTotal, List.flatMap_cons, List.length_append] at ih ⊢
    rw [hc.methods.length_eq, ih]

/-! ### Assemblies and documents -/

section

variable {σ : Type} {cs cs' : List ClassRecord} (h : List.Forall₂ ClassRecord.Alike cs cs')
include h

theorem assemble_alike (client : Client σ) (project : ProjectSettings) (default : Value)
    (failFast : Bool) (s : σ) :
    assemble client project default failFast cs s =
      assemble client project default failFast cs' s := by
  simp only [assemble, segments_eq_of_alike h, h.length_eq, methodTotal_eq_of_alike h]

theorem document_alike (connect : Pipeline.Connector σ) (settings : Settings)
    (files : List String) (w : Workplace) (x : σ) :
    let o := Pipeline.document connect settings files cs w x
    let o' := Pipeline.document connect settings files cs' w x
    o.place = o'.place ∧ o.state = o'.state ∧
      o.report.map RunReport.written = o'.report.map RunReport.written := by
  intro o o'
  have ho : o = Pipeline.document connect settings files cs w x := rfl
  have ho' : o' = Pipeline.document connect settings files cs' w x := rfl
  rw [Pipeline.document] at ho ho'
  cases hpath : settings.output.path.path with
  | error e => simp [ho, ho', hpath]
  | ok path =>
    cases hclient : connect settings.backend with
    | error e => simp [ho, ho', hpath, hclient]
    | ok client =>
      simp only [hpath, hclient, assemble_alike h] at ho ho'
      -- from here on the two runs do the same; only the records they report differ
      rcases hrun : assemble client settings.project settings.project.space
        settings.backend.failFast cs' x with ⟨run, y⟩
      simp only [hrun] at ho ho'
      cases hassembly : run.outcome with
      | error f => simp [ho, ho', hassembly]
      | ok assembly =>
        simp only [hassembly] at ho ho'
        split at ho <;> simp_all [RunReport.written, Except.map]

end

/-- Whatever the client, two lists of records that agree in names, documentation, languages and
namespaces are assembled alike: the same prompts in the same order, the same document or the same
failure, the same records of the log. What is written and what the client is left with is the same,
too. -/
theorem assembled_and_written_alike {cs cs' : List ClassRecord}
    (h : List.Forall₂ ClassRecord.Alike cs cs') :
    (∀ (σ : Type) (client : Client σ) (project : ProjectSettings) (default : Value)
        (failFast : Bool) (s : σ),
        assemble client project default failFast cs s =
          assemble client project default failFast cs' s) ∧
      ∀ (σ : Type) (connect : Pipeline.Connector σ) (settings : Settings) (files : List String)
        (w : Workplace) (x : σ),
        let o := Pipeline.document connect settings files cs w x
        let o' := Pipeline.document connect settings files cs' w x
        o.place = o'.place ∧ o.state = o'.state ∧
          o.report.map RunReport.written = o'.report.map RunReport.written := by
  constructor
  · intro σ client project default failFast s
    exact assemble_alike h client project default failFast s
  · intro σ connect settings files w x
    exact document_alike h connect settings files w x

def echo : Client Unit where
  complete prompt s := (⟨.ok prompt, []⟩, s)

/-- A class with a method that holds a password. -/
def openVault : ClassRecord where
  name := .text "Vault"
  language := .python
  filePath := .text "a.py"
  methods := [{
    name := .text "unlock"
    body := .text "    def unlock(self):\n        return 'hunter2'\n"
    startLine := .int 2
    endLine := .int 3 }]

/-- The same class in another file, with a method that holds nothing. -/
def emptyVault : ClassRecord where
  name := .text "Vault"
  language := .python
  filePath := .text "b.py"
  methods := [{ name := .text "unlock" }]

theorem vaults_assembled_alike :
    List.Forall₂ ClassRecord.Alike [openVault] [emptyVault] ∧
      assemble echo {} .null true [openVault] () = assemble echo {} .null true [emptyVault] () := by
  have hmethods : List.Forall₂ MethodRecord.Alike openVault.methods emptyVault.methods :=
    .cons ⟨rfl, rfl⟩ .nil
  have h : List.Forall₂ ClassRecord.Alike [openVault] [emptyVault] :=
    .cons ⟨rfl, rfl, rfl, rfl, hmethods⟩ .nil
  exact ⟨h, (assembled_and_written_alike h).1 Unit echo {} .null true ()⟩

end Docent
