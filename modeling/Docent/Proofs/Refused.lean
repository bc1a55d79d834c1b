import Docent.CommandLine.Run
import Docent.Proofs.Foreign
import Docent.Proofs.Provided

/-!
# Settings that are refused

A document that is not well formed, and a value that is not an expected one, are told as faults of
the settings. This does not hold of all that can be at fault in a document: a list in place of a
mapping, a value that no number can be made of, or a number beyond bounds leave the program
without that. Main statement: `load_escapes_iff` gives the exact condition on the bytes of the file.
-/

namespace Docent

/-! ### Documents that users are not told of -/

namespace Settings

theorem sectionOf_cases (v : Value) :
    (∃ entries, sectionOf v = .ok entries ∧ (v.isTrue = false ∨ v = .dict entries)) ∨
      ∃ kind, sectionOf v = .error (.notASection kind) ∧ v.isTrue = true ∧
        ∀ entries, v ≠ .dict entries := by
  cases hv : v.isTrue with
  | false => exact .inl ⟨[], sectionOf_of_not_isTrue hv, .inl rfl⟩
  | true =>
    cases v with
    | dict entries => exact .inl ⟨entries, sectionOf_dict entries, .inr rfl⟩
    | _ => exact .inr ⟨_, if_pos hv, rfl, by rintro entries ⟨⟩⟩

theorem notASection_of_sectionOf {v : Value} {e : SettingsFault} (h : sectionOf v = .error e) :
    ∃ kind, e = .notASection kind := by
  rcases sectionOf_cases v with ⟨entries, hv, -⟩ | ⟨kind, hv, -⟩
  · rw [hv] at h
    cases h
  · rw [hv] at h
    cases h
    exact ⟨kind, rfl⟩

theorem notASection_of_sectionsOf {v : Value} {e : SettingsFault}
    (h : sectionsOf v = .error e) : ∃ kind, e = .notASection kind := by
  rcases error_of_bind h with h | ⟨document, -, h⟩
  · exact notASection_of_sectionOf h
  rcases error_of_bind h with h | ⟨project, -, h⟩
  · exact notASection_of_sectionOf h
  rcases error_of_bind h with h | ⟨source, -, h⟩
  · exact notASection_of_sectionOf h
  rcases error_of_bind h with h | ⟨output, -, h⟩
  · exact notASection_of_sectionOf h
  rcases error_of_bind h with h | ⟨log, -, h⟩
  · exact notASection_of_sectionOf h
  rcases error_of_bind h with h | ⟨backend, -, h⟩
  · exact notASection_of_sectionOf h
  cases h

theorem isSectioned_of_sectionsOf {document : Section} (hk : Keyed document) {s : Sections}
    (h : sectionsOf (.dict document) = .ok s) : IsSectioned document := by
  obtain ⟨entries, hentries, h⟩ := ok_of_bind h
  cases (sectionOf_dict document).symm.trans hentries
  obtain ⟨project, hproject, h⟩ := ok_of_bind h
  obtain ⟨source, hsource, h⟩ := ok_of_bind h
  obtain ⟨output, houtput, h⟩ := ok_of_bind h
  obtain ⟨log, hlog, h⟩ := ok_of_bind h
  obtain ⟨backend, hbackend, -⟩ := ok_of_bind h
  have hone : ∀ name entries, sectionNamed document name = .ok entries → ∀ v,
      (.text name, v) ∈ document → v.isTrue = false ∨ ∃ entries, v = .dict entries := by
    intro name entries hname v hmem
    rw [sectionNamed, Value.get?_of_mem hk.sections hmem, Option.getD_some] at hname
    rcases sectionOf_cases v with ⟨entries', -, hv⟩ | ⟨kind, hv, -⟩
    · exact hv.imp_right fun h => ⟨entries', h⟩
    · rw [hv] at hname
      cases hname
  intro name hname
  simp only [sectionNames, List.mem_cons, List.not_mem_nil, or_false] at hname
  rcases hname with rfl | rfl | rfl | rfl | rfl
  · exact hone _ _ hproject
  · exact hone _ _ hsource
  · exact hone _ _ hbackend
  · exact hone _ _ houtput
  · exact hone _ _ hlog

/-! ### The backend -/

/-- Whether a value is none that a field for a number can be made from: it is of a kind that no
number can be made of, infinite in place of a whole number, or too large for a floating-point
number. -/
def NumberEscapes (field : String) (v : Value) : Prop :=
  v.isNoNumber = true ∨
    if field = "retry_max_attempts" then ∃ negative, v = .float (.infinite negative)
    else ∃ i, v = .int i ∧ Binary64.ofInt? i = none

/-- The document gives a field of the backend a value that no number can be made from. -/
def Stops (document : Section) (field : String) : Prop :=
  ∃ v, Gives document "backend" field v ∧ NumberEscapes field v

/-- A number can be made from what the document gives a field of the backend, if it does. -/
def Passes (document : Section) (field : String) : Prop :=
  ∀ v, Gives document "backend" field v → ∃ held, taken field v = .ok held

/-- The provider that the document gives, if it does, is a known one. -/
def KnownProvider (document : Section) : Prop :=
  ∀ v, Gives document "backend" "provider" v → v = .text "ollama" ∨ v = .text "anthropic"

/-- The first number of the backend that cannot be made is one that stops. -/
def NumbersEscape (document : Section) : Prop :=
  Stops document "timeout_seconds" ∨ Passes document "timeout_seconds" ∧
    (Stops document "retry_max_attempts" ∨ Passes document "retry_max_attempts" ∧
      Stops document "retry_base_delay")

/-- The value of a document is one that users are not told of: something true that is no mapping,
a mapping with such a section, or one whose backend is known and has a number that stops. -/
def DocumentEscapes (v : Value) : Prop :=
  match v with
  | .dict document => ¬ IsSectioned document ∨ KnownProvider document ∧ NumbersEscape document
  | v => v.isTrue = true

theorem providerOf_ok_iff {document s : Section} (h : Tells document "backend" s) :
    (∃ name, providerOf s = .ok name) ↔ KnownProvider document := by
  constructor
  · rintro ⟨name, hname⟩ v hv
    have hfield := fieldOr_of_providerOf hname
    rw [fieldOr, (h _ v).2 hv, Option.getD_some] at hfield
    have hmem := mem_providers_of_providerOf hname
    rw [hfield]
    simpa [providers] using hmem
  · intro hknown
    cases hget : Value.get? s "provider" with
    | none => exact ⟨"ollama", by rw [providerOf, fieldOr, hget]; rfl⟩
    | some v =>
      rcases hknown v ((h _ v).1 hget) with rfl | rfl
      · exact ⟨"ollama", by rw [providerOf, fieldOr, hget]; rfl⟩
      · exact ⟨"anthropic", by rw [providerOf, fieldOr, hget]; rfl⟩

theorem isOrdinary_of_providerOf {s : Section} {e : SettingsFault}
    (h : providerOf s = .error e) : e.isOrdinary = true := by
  rw [providerOf] at h
  split at h
  · split at h
    · cases h
    · cases h
      rfl
  · cases h
    rfl

/-! ### The numbers of the backend -/

/-- A number fails, and not by its text. -/
def Escapes {α : Type} (x : Except NumberFault α) : Prop :=
  ∃ e, x = .error e ∧ e.class ≠ .badValue

theorem escapes_map {α β : Type} {f : α → β} {x : Except NumberFault α} :
    Escapes (x.map f) ↔ Escapes x := by
  cases x <;> simp [Escapes, Except.map]

theorem taken_escapes_iff {field : String} (hfield : field ∈
    ["timeout_seconds", "retry_max_attempts", "retry_base_delay"]) {v : Value} :
    Escapes (taken field v) ↔ NumberEscapes field v := by
  simp only [List.mem_cons, List.not_mem_nil, or_false] at hfield
  rcases hfield with rfl | rfl | rfl
  · exact escapes_map.trans Value.toReal_escapes_iff
  · exact escapes_map.trans Value.toWhole_escapes_iff
  · exact escapes_map.trans Value.toReal_escapes_iff

theorem taken_fieldOr {document s : Section} (h : Tells document "backend" s) (field : String)
    (hfield : field ∈ ["timeout_seconds", "retry_max_attempts", "retry_base_delay"])
    (default : Value) {held : Value} (hdefault : taken field default = .ok held) :
    (Escapes (taken field (fieldOr s field default)) ↔ Stops document field) ∧
      ((∃ held, taken field (fieldOr s field default) = .ok held) ↔ Passes document field) := by
  rw [fieldOr]
  cases hget : Value.get? s field with
  | none =>
    -- what is not given is taken to be the default, which is a number
    have hnot : ∀ v, ¬ Gives document "backend" field v := by
      intro v hv
      rw [(h field v).2 hv] at hget
      cases hget
    rw [Option.getD_none, hdefault]
    refine ⟨iff_of_false ?_ ?_, iff_of_true ⟨held, rfl⟩ fun v hv => absurd hv (hnot v)⟩
    · rintro ⟨e, ⟨⟩, -⟩
    · rintro ⟨v, hv, -⟩
      exact hnot v hv
  | some v =>
    have hone : ∀ w, Gives document "backend" field w ↔ w = v := by
      intro w
      rw [← h field w, hget, Option.some.injEq, eq_comm]
    rw [Option.getD_some, taken_escapes_iff hfield]
    refine ⟨?_, ?_⟩
    · rw [Stops]
      simp only [hone, exists_eq_left]
    · rw [Passes]
      simp only [hone, forall_eq]

theorem isOrdinary_number (e : NumberFault) :
    (SettingsFault.number e).isOrdinary = false ↔ e.class ≠ .badValue := by
  cases e <;> simp [SettingsFault.isOrdinary, SettingsFault.class, NumberFault.class]

/-- A computation of settings fails, and users are not told of it. -/
def Unspoken {α : Type} (x : Except SettingsFault α) : Prop :=
  ∃ e, x = .error e ∧ e.isOrdinary = false

theorem unspoken_ok {α : Type} (a : α) : ¬ Unspoken (.ok a) := by
  rintro ⟨e, ⟨⟩, -⟩

theorem unspoken_number_bind {α β : Type} {x : Except NumberFault α}
    {f : α → Except SettingsFault β} {P : Prop} (hf : ∀ a, Unspoken (f a) ↔ P) :
    Unspoken ((x.mapError .number).bind f) ↔ Escapes x ∨ (∃ a, x = .ok a) ∧ P := by
  cases x with
  | error e =>
    change Unspoken (.error (.number e)) ↔ _
    simp [Unspoken, Escapes, isOrdinary_number]
  | ok a =>
    change Unspoken (f a) ↔ _
    simpa [Escapes] using hf a

theorem exists_ok_map {ε α β : Type} {f : α → β} {x : Except ε α} :
    (∃ b, x.map f = .ok b) ↔ ∃ a, x = .ok a := by
  cases x <;> simp [Except.map]

theorem unspoken_backendOf_iff {document s : Section} (h : Tells document "backend" s)
    (name : String) : Unspoken (backendOf name s) ↔ NumbersEscape document := by
  obtain ⟨htimeout, htimeout'⟩ := taken_fieldOr h "timeout_seconds" (by decide)
    ({} : BackendSettings).timeout.toValue rfl
  obtain ⟨hattempts, hattempts'⟩ := taken_fieldOr h "retry_max_attempts" (by decide)
    (.int ({} : BackendSettings).attempts) rfl
  obtain ⟨hdelay, -⟩ := taken_fieldOr h "retry_base_delay" (by decide)
    ({} : BackendSettings).delay.toValue rfl
  rw [NumbersEscape, ← htimeout, ← htimeout', ← hattempts, ← hattempts', ← hdelay]
  change _ ↔ Escapes (Except.map _ _) ∨ (∃ held, Except.map _ _ = .ok held) ∧
    (Escapes (Except.map _ _) ∨ (∃ held, Except.map _ _ = .ok held) ∧ Escapes (Except.map _ _))
  simp only [escapes_map, exists_ok_map]
  refine unspoken_number_bind fun timeout => unspoken_number_bind fun attempts => ?_
  refine (unspoken_number_bind (P := False) fun delay => iff_of_false (unspoken_ok _) id).trans ?_
  simp

theorem unspoken_ofSections_iff {document : Section} {secs : Sections}
    (h : AreOf document secs) :
    Unspoken (ofSections secs) ↔ KnownProvider document ∧ NumbersEscape document := by
  rw [← providerOf_ok_iff h.backend]
  cases hprovider : providerOf secs.backend with
  | error e =>
    have hof : ofSections secs = .error e := by
      rw [ofSections, hprovider]
      rfl
    rw [hof]
    refine iff_of_false ?_ (by simp)
    rintro ⟨e', ⟨⟩, he'⟩
    rw [isOrdinary_of_providerOf hprovider] at he'
    cases he'
  | ok name =>
    have hof : ofSections secs = (backendOf name secs.backend).bind fun backend => .ok
        { project := projectOf secs.project, source := sourceOf secs.source, backend,
          output := outputOf secs.output, log := logOf secs.log } := by
      rw [ofSections, hprovider]
      rfl
    rw [hof, ← unspoken_backendOf_iff h.backend name]
    cases backendOf name secs.backend <;> simp [Unspoken, Except.bind]

/-- What counts as false gives no settings, so that all are as in a run that is told nothing. -/
theorem ofValue_of_not_isTrue {v : Value} (h : v.isTrue = false) : ofValue v = .ok {} := by
  have hsecs : sectionsOf v = .ok ⟨[], [], [], [], []⟩ := by
    rw [sectionsOf, sectionOf_of_not_isTrue h]
    rfl
  rw [ofValue, hsecs]
  rfl

theorem unspoken_ofValue_dict_iff {document : Section} (hk : Keyed document) :
    Unspoken (ofValue (.dict document)) ↔ DocumentEscapes (.dict document) := by
  cases hsecs : sectionsOf (.dict document) with
  | error e =>
    obtain ⟨kind, rfl⟩ := notASection_of_sectionsOf hsecs
    refine iff_of_true ⟨.notASection kind, ?_, rfl⟩ (.inl fun hs => ?_)
    · rw [ofValue, hsecs]
      rfl
    · obtain ⟨secs, hsecs', -⟩ := exists_sectionsOf hk hs
      rw [hsecs] at hsecs'
      cases hsecs'
  | ok secs =>
    have hs := isSectioned_of_sectionsOf hk hsecs
    obtain ⟨secs', hsecs', hareOf⟩ := exists_sectionsOf hk hs
    cases hsecs.symm.trans hsecs'
    have hof : ofValue (.dict document) = ofSections secs := by
      rw [ofValue, hsecs]
      rfl
    rw [hof, unspoken_ofSections_iff hareOf, DocumentEscapes]
    exact ⟨.inr, fun h => h.resolve_left (absurd hs)⟩

theorem documentEscapes_iff_isTrue {v : Value} (h : ∀ document, v ≠ .dict document) :
    DocumentEscapes v ↔ v.isTrue = true := by
  cases v with
  | dict document => exact absurd rfl (h document)
  | _ => rfl

theorem unspoken_ofValue_iff {v : Value} (hk : ∀ document, v = .dict document → Keyed document) :
    Unspoken (ofValue v) ↔ DocumentEscapes v := by
  by_cases hdict : ∃ document, v = .dict document
  · obtain ⟨document, rfl⟩ := hdict
    exact unspoken_ofValue_dict_iff (hk document rfl)
  · rw [documentEscapes_iff_isTrue (not_exists.1 hdict)]
    rcases sectionOf_cases v with ⟨entries, -, hfalse | hv⟩ | ⟨kind, hv, htrue, -⟩
    · rw [ofValue_of_not_isTrue hfalse, hfalse]
      exact iff_of_false (unspoken_ok _) (by decide)
    · exact absurd ⟨entries, hv⟩ hdict
    · refine iff_of_true ⟨.notASection kind, ?_, rfl⟩ htrue
      rw [ofValue, sectionsOf, hv]
      rfl

/-! ### Loading -/

/-- The bytes of a file that, read as settings, fail in a way that users are not told of: a text of
a document that fails so, or one with a value that does. -/
def ContentEscapes (bytes : List UInt8) : Prop :=
  ∃ cs, Utf8.strict bytes = .ok cs ∧
    ((∃ e, Yaml.valueOf (lineFeeds cs) = .error e ∧ e.isForeign = true) ∨
      ∃ v, Yaml.valueOf (lineFeeds cs) = .ok v ∧ DocumentEscapes v)

theorem isOrdinary_document {cs : List Char} {e : Yaml.Fault} {name : String}
    (h : Yaml.valueOf cs = .error e) :
    (SettingsFault.document e name).isOrdinary = false ↔ e.isForeign = true := by
  rw [Yaml.isForeign_iff h, SettingsFault.isOrdinary, Bool.or_eq_false_iff, decide_eq_false_iff_not,
    decide_eq_false_iff_not]
  rfl

theorem readDocument_of_read {t : FileTree} {name : String} {bytes : List UInt8}
    (hread : t.read name = .ok bytes) :
    readDocument t name =
      ((Utf8.strict bytes).mapError fun flaw => .encoding (metInReading flaw)).bind fun cs =>
        (Yaml.valueOf (lineFeeds cs)).mapError (.document · name) := by
  rw [readDocument, hread]
  rfl

theorem load_eq {t : FileTree} {path : String} (hnamed : path ≠ "")
    (hpresent : t.exists? (Route.ofText path).text = true) (key : String) :
    (load t path key).result = (readDocument t (Route.ofText path).text).bind ofValue := by
  simp only [load, if_neg hnamed, if_pos hpresent]
  cases readDocument t (Route.ofText path).text <;> rfl

theorem unspoken_load_iff {t : FileTree} {path : String} {bytes : List UInt8} (hnamed : path ≠ "")
    (hpresent : t.exists? (Route.ofText path).text = true)
    (hread : t.read (Route.ofText path).text = .ok bytes) (key : String) :
    Unspoken (load t path key).result ↔ ContentEscapes bytes := by
  have hdocument := readDocument_of_read hread
  rw [load_eq hnamed hpresent]
  cases hcs : Utf8.strict bytes with
  | error flaw =>
    rw [hdocument, hcs]
    -- a text that is not UTF-8 is a fault that users are told of
    refine iff_of_false ?_ ?_
    · rintro ⟨e, ⟨⟩, he⟩
      cases he
    · rintro ⟨cs, hcs', -⟩
      rw [hcs] at hcs'
      cases hcs'
  | ok cs =>
    replace hdocument : readDocument t (Route.ofText path).text =
        (Yaml.valueOf (lineFeeds cs)).mapError (.document · (Route.ofText path).text) := by
      rw [hdocument, hcs]
      rfl
    simp only [ContentEscapes, hcs, Except.ok.injEq, exists_eq_left']
    cases hvalue : Yaml.valueOf (lineFeeds cs) with
    | error e =>
      rw [hdocument, hvalue]
      change Unspoken (.error (.document e (Route.ofText path).text)) ↔ _
      simp [Unspoken, isOrdinary_document hvalue]
    | ok v =>
      rw [hvalue] at hdocument
      have hkeyed : ∀ document, v = .dict document → Keyed document := by
        rintro document rfl
        exact keyed_of_readDocument hdocument
      rw [hdocument]
      change Unspoken (ofValue v) ↔ _
      simp [unspoken_ofValue_iff hkeyed]

/-- Whatever bytes a file of settings holds, loading them gives settings, or a fault that the
program tells users of as `Invalid config` before it ends with status 1, unless the bytes are such
that the fault leaves the program: then, and only then, a document fails by a word that is no truth
value, a number without digits, a date that is none or a number or code beyond bounds, its value or
one of its known sections is no mapping but counts as true, or a number of the backend cannot be
made, being of another kind, infinite or too large. -/
theorem load_escapes_iff {t : FileTree} {path key : String} {bytes : List UInt8}
    (hnamed : path ≠ "") (hpresent : t.exists? (Route.ofText path).text = true)
    (hread : t.read (Route.ofText path).text = .ok bytes) :
    ((∃ e, (load t path key).result = .error e ∧ e.isOrdinary = false) ↔ ContentEscapes bytes) ∧
    ∀ {σ : Type} (connect : Pipeline.Connector σ) (around : CommandLine.Surroundings)
      (o : CommandLine.Opening) (s : CommandLine.Session) (x : σ),
      s.place.tree = t → o.settings = path → around.key = key →
      ∀ e, (load t path key).result = .error e →
        let noted := s.noteAll (load t path key).logs
        (ContentEscapes bytes →
          CommandLine.start connect around o s x = ⟨.error (.settings e), noted, x⟩) ∧
        (¬ ContentEscapes bytes →
          CommandLine.start connect around o s x =
            ⟨.ok 1, noted.complain s!"Invalid config: {e.message}", x⟩) := by
  have hiff := unspoken_load_iff hnamed hpresent hread key
  refine ⟨hiff, fun connect around o s x htree hpath hkey e he => ?_⟩
  subst htree hpath hkey
  have hthis : e.isOrdinary = false ↔ ContentEscapes bytes := by
    rw [← hiff]
    constructor
    · exact fun h => ⟨e, he, h⟩
    · rintro ⟨e', he', h⟩
      cases he.symm.trans he'
      exact h
  rw [← hthis, CommandLine.start]
  simp only [he]
  refine ⟨fun h => if_neg (by simp [h]), fun h => if_pos (by simpa using h)⟩

/-! ### A list in place of a mapping -/

def listedSettings : List UInt8 := Utf8.encode "- a\n"

theorem contentEscapes_listedSettings : ContentEscapes listedSettings := by
  have hread : (((Utf8.strict listedSettings).toOption.bind fun cs =>
      (Yaml.valueOf (lineFeeds cs)).toOption).any fun v => v.isTrue && v.kindName = "list") =
        true := by
    decide +kernel
  obtain ⟨v, hv, hlist⟩ := (Option.any_eq_true _ _).1 hread
  obtain ⟨cs, hcs, hvalue⟩ := Option.bind_eq_some_iff.1 hv
  obtain ⟨htrue, hkind⟩ := Bool.and_eq_true_iff.1 hlist
  refine ⟨cs, eq_ok_of_toOption hcs, .inr ⟨v, eq_ok_of_toOption hvalue, ?_⟩⟩
  refine (documentEscapes_iff_isTrue ?_).2 htrue
  rintro document rfl
  exact absurd (of_decide_eq_true hkind) (show "dict" ≠ "list" by decide)

/-- A list in place of a mapping ends the program with a fault that it does not tell of. -/
theorem load_listedSettings :
    ContentEscapes listedSettings ∧
      ∃ e, (load [("config.yaml", .file listedSettings)] "config.yaml" "").result = .error e ∧
        e.isOrdinary = false :=
  ⟨contentEscapes_listedSettings,
    (load_escapes_iff (by decide) (by decide +kernel) (by rfl)).1.2 contentEscapes_listedSettings⟩

end Settings

end Docent
