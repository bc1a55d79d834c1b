import Docent.Proofs.Json.Reading
import Docent.Proofs.Preview

/-!
# Records that are listed

Records are listed as JSON, on the console or in a file. Main statement: what is listed of records is
one JSON text, the same on the console and in the file, that writes the dictionaries of these records
and nothing else; read back, they are the same records in the same order.
-/

namespace Docent

/-! ### Records of texts and numbers -/

/-- The fields of a method that was extracted are texts, and its lines are numbers. -/
structure MethodRecord.Textual (m : MethodRecord) : Prop where
  name : ∃ s, m.name = .text s
  doc : ∃ s, m.doc = .text s
  body : ∃ s, m.body = .text s
  startLine : ∃ i, m.startLine = .int i
  endLine : ∃ i, m.endLine = .int i

/-- The fields of a class that was extracted are texts, and its lines are numbers; it need not have a
namespace. -/
structure ClassRecord.Textual (c : ClassRecord) : Prop where
  name : ∃ s, c.name = .text s
  doc : ∃ s, c.doc = .text s
  methods : ∀ m ∈ c.methods, m.Textual
  filePath : ∃ s, c.filePath = .text s
  enclosing : c.enclosing = .null ∨ ∃ s, c.enclosing = .text s
  startLine : ∃ i, c.startLine = .int i
  endLine : ∃ i, c.endLine = .int i

theorem MethodRecord.textual_ofOutline (source : List Char) (m : MethodOutline) :
    (MethodRecord.ofOutline source m).Textual :=
  ⟨⟨_, rfl⟩, ⟨_, rfl⟩, ⟨_, rfl⟩, ⟨_, rfl⟩, ⟨_, rfl⟩⟩

theorem ClassRecord.textual_ofOutline (path : String) (language : Language) (source : List Char)
    (c : ClassOutline) : (ClassRecord.ofOutline path language source c).Textual where
  name := ⟨_, rfl⟩
  doc := ⟨_, rfl⟩
  methods := by
    intro m hm
    obtain ⟨o, -, rfl⟩ := List.mem_map.1 hm
    exact MethodRecord.textual_ofOutline source o
  filePath := ⟨_, rfl⟩
  enclosing := by
    cases henclosing : c.enclosing with
    | none => exact .inl (by rw [ofOutline, henclosing]; rfl)
    | some s => exact .inr ⟨s, by rw [ofOutline, henclosing]; rfl⟩
  startLine := ⟨_, rfl⟩
  endLine := ⟨_, rfl⟩

theorem textual_of_extractFile {reg : Registry} {t : FileTree} {path : String}
    {classes : List ClassRecord} {logs : List LogRecord}
    (h : reg.extractFile t path = .ok (classes, logs)) : ∀ c ∈ classes, c.Textual := by
  rw [Registry.extractFile] at h
  split at h
  · cases h
    exact List.forall_mem_nil _
  split at h
  · cases h
  split at h
  · cases h
    exact List.forall_mem_nil _
  dsimp only at h
  split at h
  · rename_i hsource
    cases h
    obtain ⟨tree, -, rfl⟩ := ok_of_map hsource
    intro c hc
    obtain ⟨o, -, rfl⟩ := List.mem_map.1 hc
    exact ClassRecord.textual_ofOutline path _ _ o
  · cases h
    exact List.forall_mem_nil _

theorem textual_of_extract {reg : Registry} {w w' : Workplace} {paths : List String}
    {classes : List ClassRecord} (h : Pipeline.extract reg w paths = (.ok classes, w')) :
    ∀ c ∈ classes, c.Textual := by
  induction paths generalizing w classes with
  | nil =>
    cases h
    exact List.forall_mem_nil _
  | cons path paths ih =>
    rw [Pipeline.extract] at h
    dsimp only at h
    split at h
    · cases h
    · rename_i classes₁ logs hfile
      rw [Prod.mk.injEq] at h
      obtain ⟨classes₂, hrest, rfl⟩ := ok_of_map h.1
      intro c hc
      rcases List.mem_append.1 hc with hc | hc
      · exact textual_of_extractFile hfile c hc
      · exact ih (Prod.ext hrest h.2) c hc

theorem CommandLine.textual_of_extractSources {settings : Settings} {w w' : Workplace}
    {classes : List ClassRecord} (h : extractSources settings w = (.ok classes, w')) :
    ∀ c ∈ classes, c.Textual := by
  rw [extractSources] at h
  split at h
  · cases h
  · exact textual_of_extract h

/-! ### Records as JSON -/

open Json

theorem printed_of_text {v : Value} (h : ∃ s, v = .text s) : Printed v := by
  obtain ⟨s, rfl⟩ := h
  exact printed_text s

theorem printed_of_int {v : Value} (h : ∃ i, v = .int i) : Printed v := by
  obtain ⟨i, rfl⟩ := h
  exact printed_int i

theorem MethodRecord.Textual.printed {m : MethodRecord} (h : m.Textual) : Printed m.toValue := by
  refine printed_dict ?_ ?_ ?_
  · simp
  · simp
  · simp only [List.forall_mem_cons]
    exact ⟨printed_of_text h.name, printed_of_text h.doc, printed_of_text h.body,
      printed_of_int h.startLine, printed_of_int h.endLine, fun _ he => nomatch he⟩

theorem ClassRecord.Textual.printed {c : ClassRecord} (h : c.Textual) : Printed c.toValue := by
  have hmethods : Printed (.list (c.methods.map MethodRecord.toValue)) := by
    refine printed_list fun v hv => ?_
    obtain ⟨m, hm, rfl⟩ := List.mem_map.1 hv
    exact (h.methods m hm).printed
  have henclosing : Printed c.enclosing := by
    rcases h.enclosing with hnull | htext
    · rw [hnull]
      exact printed_null
    · exact printed_of_text htext
  refine printed_dict ?_ ?_ ?_
  · simp
  · simp
  · simp only [List.forall_mem_cons]
    exact ⟨printed_of_text h.name, printed_of_text h.doc, hmethods, printed_of_text h.filePath,
      printed_text _, henclosing, printed_of_int h.startLine, printed_of_int h.endLine,
      fun _ he => nomatch he⟩

theorem mapM_ofValue_toValue (classes : List ClassRecord) :
    (classes.map ClassRecord.toValue).mapM ClassRecord.ofValue = .ok classes := by
  induction classes with
  | nil => rfl
  | cons c cs ih =>
    rw [List.map_cons, List.mapM_cons, ClassRecord.ofValue_toValue, ih]
    rfl

namespace CommandLine

theorem writes_recordsText {classes : List ClassRecord} (h : ∀ c ∈ classes, c.Textual) :
    Writes (.list (classes.map ClassRecord.toValue)) (recordsText classes).toList := by
  have hprinted : Printed (.list (classes.map ClassRecord.toValue)) := by
    refine printed_list fun v hv => ?_
    obtain ⟨c, hc, rfl⟩ := List.mem_map.1 hv
    exact (h c hc).printed
  rw [recordsText, pretty, String.toList_ofList]
  exact hprinted (some 0)

theorem parse?_recordsText {classes : List ClassRecord} (h : ∀ c ∈ classes, c.Textual) :
    parse? (recordsText classes ++ "\n").toList =
      some (.list (classes.map ClassRecord.toValue)) := by
  have hgap : Gap ['\n'] := by simp [Gap, isGap]
  have hread := parse?_of_writes gap_nil (writes_recordsText h) hgap
  rw [String.toList_append]
  rwa [List.nil_append] at hread

theorem unsteered_recordsText {classes : List ClassRecord} (h : ∀ c ∈ classes, c.Textual) :
    Text.unsteered (recordsText classes ++ "\n") = recordsText classes ++ "\n" := by
  have hvisible := (writes_recordsText h).visible
  refine Text.unsteered_eq_self fun hescape => ?_
  rcases List.mem_append.1 (String.toList_append ▸ hescape) with hescape | hescape
  · exact absurd (hvisible _ hescape) (by decide)
  · exact absurd hescape (by decide)

theorem deliver_console {classes : List ClassRecord} (h : ∀ c ∈ classes, c.Textual)
    (s : Session) :
    deliver s "" classes =
      (.ok 0, { s with printed := s.printed ++ (recordsText classes ++ "\n") }) := by
  rw [deliver, if_pos rfl, Session.say, unlines_singleton, unsteered_recordsText h]

theorem deliver_file {output : String} (houtput : output ≠ "") (classes : List ClassRecord)
    (s : Session) :
    match FileTree.openFile s.place.tree (Route.ofText output).text with
    | .error e => deliver s output classes = (.error (.run (.file e)), s)
    | .ok _ => ∃ tree,
        tree.read (Route.ofText output).text = .ok (Utf8.encode (recordsText classes ++ "\n")) ∧
        deliver s output classes = (.ok 0, Session.say { s with place.tree := tree }
          [s!"Wrote {classes.length} classes to {output}"]) := by
  rcases hopen : FileTree.openFile s.place.tree (Route.ofText output).text with e | file
  · rw [deliver, if_neg houtput, writeLine, FileTree.write, hopen]
    rfl
  · obtain ⟨tree, hwrite⟩ : ∃ tree, s.place.tree.write (Route.ofText output).text
        (Utf8.encode (recordsText classes ++ "\n")) = .ok tree := by
      rw [FileTree.write, hopen]
      exact ⟨_, rfl⟩
    refine ⟨tree, FileTree.read_of_write hwrite, ?_⟩
    rw [deliver, if_neg houtput, writeLine, hwrite]
    rfl

/-- What is listed of records is a JSON text that writes the dictionaries of these records and no other
value, and is read as the same records in the same order. It is the same text on the console and in a
file, which cannot be written where it cannot be opened. All that is ever listed are the records that
were extracted, and these are such records. -/
theorem listed_records_read_back :
    (∀ classes : List ClassRecord, (∀ c ∈ classes, c.Textual) →
      (∀ v, Writes v (recordsText classes).toList ↔ v = .list (classes.map ClassRecord.toValue)) ∧
      (∃ vs, parse? (recordsText classes ++ "\n").toList = some (.list vs) ∧
        vs.mapM ClassRecord.ofValue = .ok classes) ∧
      ∀ s : Session,
        deliver s "" classes =
          (.ok 0, { s with printed := s.printed ++ (recordsText classes ++ "\n") }) ∧
        ∀ output, output ≠ "" →
          match FileTree.openFile s.place.tree (Route.ofText output).text with
          | .error e => deliver s output classes = (.error (.run (.file e)), s)
          | .ok _ => ∃ tree,
              tree.read (Route.ofText output).text =
                .ok (Utf8.encode (recordsText classes ++ "\n")) ∧
              deliver s output classes = (.ok 0, Session.say { s with place.tree := tree }
                [s!"Wrote {classes.length} classes to {output}"])) ∧
    ∀ (σ : Type) (connect : Pipeline.Connector σ) (settings : Settings) (source : String)
      (s : Session) (x : σ),
      match extractSources (overridden source "" "" settings) s.place with
      | (.error e, w) => ∀ output, perform connect settings s x (.extract source output) =
          ⟨.error (.run e), { s with place := w }, x⟩
      | (.ok classes, w) => (∀ c ∈ classes, c.Textual) ∧
          ∀ output, perform connect settings s x (.extract source output) =
            ⟨(deliver { s with place := w } output classes).1,
              (deliver { s with place := w } output classes).2, x⟩ := by
  refine ⟨fun classes h => ⟨?_, ?_, ?_⟩, ?_⟩
  · intro v
    refine ⟨fun hv => eq_of_writes hv (writes_recordsText h), ?_⟩
    rintro rfl
    exact writes_recordsText h
  · exact ⟨_, parse?_recordsText h, mapM_ofValue_toValue classes⟩
  · exact fun s => ⟨deliver_console h s, fun output houtput => deliver_file houtput classes s⟩
  · intro σ connect settings source s x
    split
    · rename_i e w hsources
      intro output
      simp only [perform, extract, hsources]
    · rename_i classes w hsources
      refine ⟨textual_of_extractSources hsources, fun output => ?_⟩
      simp only [perform, extract, hsources]

/-- A class without a namespace whose texts hold quotes, a backslash, control characters, and
characters that are written as two units. -/
def strangeClass : ClassRecord where
  name := .text "Caf\u00e9\"\\"
  doc := .text "\x00\x1b[31m\t\r\n\u2028"
  methods := [{ name := .text "😀", startLine := .int 3 }, { name := .text "\uffff\x7f" }]
  language := .javascript

theorem textual_strangeClass : strangeClass.Textual where
  name := ⟨_, rfl⟩
  doc := ⟨_, rfl⟩
  methods := by
    intro m hm
    simp only [strangeClass, List.mem_cons, List.not_mem_nil, or_false] at hm
    rcases hm with rfl | rfl <;> exact ⟨⟨_, rfl⟩, ⟨_, rfl⟩, ⟨_, rfl⟩, ⟨_, rfl⟩, ⟨_, rfl⟩⟩
  filePath := ⟨_, rfl⟩
  enclosing := .inl rfl
  startLine := ⟨_, rfl⟩
  endLine := ⟨_, rfl⟩

theorem strange_class_reads_back :
    (∀ c ∈ [strangeClass], c.Textual) ∧
      ∃ vs, parse? (recordsText [strangeClass] ++ "\n").toList = some (.list vs) ∧
        vs.mapM ClassRecord.ofValue = .ok [strangeClass] := by
  have htextual : ∀ c ∈ [strangeClass], c.Textual := by
    intro c hc
    rw [List.mem_singleton.1 hc]
    exact textual_strangeClass
  exact ⟨htextual, (listed_records_read_back.1 [strangeClass] htextual).2.1⟩

end CommandLine

end Docent
