import Docent.Proofs.Entries
import Docent.Proofs.Usable

/-!
# What a document provides

Every field of loaded settings is what the document gives for it, or what it is in a run that is
told nothing. Only the known fields of a document count: documents that give the same for them, in
whatever order and whatever else they hold, are loaded to the same settings. Main statement:
`load_of_mapping`.
-/

namespace Docent.Settings

/-! ### What documents give and settings hold -/

/-- A section of the document with a name gives a value to a field. -/
def Gives (document : Section) (name field : String) (v : Value) : Prop :=
  ∃ entries, (.text name, .dict entries) ∈ document ∧ (.text field, v) ∈ entries

/-- The value that a field of a section of settings holds. -/
def field? (s : Settings) (name field : String) : Option Value :=
  (s.toValues.lookup name).bind (List.lookup field)

def sectionNames : List String := ["project", "source", "backend", "output", "logging"]

/-- Each known section of a document is a mapping, counts as false, as null does, or is not
there. -/
def IsSectioned (document : Section) : Prop :=
  ∀ name ∈ sectionNames, ∀ v, (.text name, v) ∈ document →
    v.isTrue = false ∨ ∃ entries, v = .dict entries

/-- What a field holds that is given a value. The amounts of time are floating-point numbers, the
attempts are a whole number and at least one, and names that count as false are no names. -/
def taken (field : String) (v : Value) : Except NumberFault Value :=
  if field = "timeout_seconds" ∨ field = "retry_base_delay" then v.toReal.map .float
  else if field = "retry_max_attempts" then v.toWhole.map fun n => .int (max 1 n)
  else if field = "fail_fast" then .ok (.bool v.isTrue)
  else if field = "exclude_dirs" then .ok (v.orElse (.list []))
  else .ok v

/-- Whether a section and a field of it are known. -/
def isKnown (name field : String) : Bool := (({} : Settings).field? name field).isSome

/-- The file at a path holds a mapping. -/
structure HoldsMapping (t : FileTree) (path : String) (document : Section) : Prop where
  named : path ≠ ""
  present : t.exists? (Route.ofText path).text = true
  read : readDocument t (Route.ofText path).text = .ok (.dict document)

/-! ### Sections of a document -/

/-- No two fields of a section, and no two sections, are under one name. -/
structure Keyed (document : Section) : Prop where
  sections : Value.Distinct document
  fields : ∀ k entries, (k, .dict entries) ∈ document → Value.Distinct entries

theorem keyed_of_readDocument {t : FileTree} {path : String} {document : Section}
    (h : readDocument t path = .ok (.dict document)) : Keyed document := by
  obtain ⟨bytes, -, h⟩ := ok_of_bind h
  obtain ⟨cs, -, h⟩ := ok_of_bind h
  rcases Yaml.value_of_valueOf (ok_of_mapError h) with hnull | ⟨depth, fuel, n, hn⟩
  · cases hnull
  · refine ⟨Yaml.Node.distinct_of_value hn.symm, fun k entries hmem => ?_⟩
    obtain ⟨fuel', part, hpart⟩ := Yaml.Node.value_of_mem hn.symm hmem
    exact Yaml.Node.distinct_of_value hpart.symm

/-- The fields of a section are what the document gives to them. -/
def Tells (document : Section) (name : String) (s : Section) : Prop :=
  ∀ field v, Value.get? s field = some v ↔ Gives document name field v

theorem sectionOf_dict (entries : Section) : sectionOf (.dict entries) = .ok entries := by
  cases entries <;> rfl

theorem sectionOf_of_not_isTrue {v : Value} (h : v.isTrue = false) : sectionOf v = .ok [] := by
  simp [sectionOf, h]

theorem exists_sectionNamed {document : Section} (hk : Keyed document)
    (hs : IsSectioned document) (name : String) (hname : name ∈ sectionNames) :
    ∃ s, sectionNamed document name = .ok s ∧ Tells document name s := by
  -- where there are no entries to be found, the document gives nothing to the fields
  have hempty : (∀ entries, (.text name, .dict entries) ∈ document → entries = []) →
      Tells document name [] := by
    intro hnone field v
    constructor
    · intro h
      cases h
    · rintro ⟨entries, hmem, h⟩
      rw [hnone entries hmem] at h
      cases h
  rw [sectionNamed]
  cases hget : Value.get? document name with
  | none =>
    refine ⟨[], rfl, hempty fun entries hmem => ?_⟩
    rw [Value.get?_of_mem hk.sections hmem] at hget
    cases hget
  | some v =>
    -- what stands under the name counts as false, or it is the section
    rcases hs name hname v (Value.mem_of_get? hget) with hfalse | ⟨entries, rfl⟩
    · refine ⟨[], sectionOf_of_not_isTrue hfalse, hempty fun entries hmem => ?_⟩
      rw [Value.get?_of_mem hk.sections hmem] at hget
      cases hget
      simpa [Value.isTrue] using hfalse
    · refine ⟨entries, sectionOf_dict entries, fun field v => ?_⟩
      have hmem := Value.mem_of_get? hget
      rw [Value.get?_eq_some_iff (hk.fields _ _ hmem)]
      constructor
      · exact fun h => ⟨entries, hmem, h⟩
      · rintro ⟨entries', hmem', h⟩
        rw [Value.get?_of_mem hk.sections hmem'] at hget
        cases hget
        exact h

/-- The sections that are found are those of the document. -/
structure AreOf (document : Section) (s : Sections) : Prop where
  project : Tells document "project" s.project
  source : Tells document "source" s.source
  output : Tells document "output" s.output
  log : Tells document "logging" s.log
  backend : Tells document "backend" s.backend

theorem exists_sectionsOf {document : Section} (hk : Keyed document)
    (hs : IsSectioned document) :
    ∃ s, sectionsOf (.dict document) = .ok s ∧ AreOf document s := by
  obtain ⟨project, hproject, tproject⟩ := exists_sectionNamed hk hs "project" (by decide)
  obtain ⟨source, hsource, tsource⟩ := exists_sectionNamed hk hs "source" (by decide)
  obtain ⟨output, houtput, toutput⟩ := exists_sectionNamed hk hs "output" (by decide)
  obtain ⟨log, hlog, tlog⟩ := exists_sectionNamed hk hs "logging" (by decide)
  obtain ⟨backend, hbackend, tbackend⟩ := exists_sectionNamed hk hs "backend" (by decide)
  refine ⟨⟨project, source, output, log, backend⟩, ?_,
    ⟨tproject, tsource, toutput, tlog, tbackend⟩⟩
  rw [sectionsOf, sectionOf_dict]
  change (sectionNamed document "project").bind _ = _
  rw [hproject]
  change (sectionNamed document "source").bind _ = _
  rw [hsource]
  change (sectionNamed document "output").bind _ = _
  rw [houtput]
  change (sectionNamed document "logging").bind _ = _
  rw [hlog]
  change (sectionNamed document "backend").bind _ = _
  rw [hbackend]
  rfl

/-! ### The values of fields -/

/-- A field holds what the document gives for it; not given, it is as usual. -/
structure Filled (document : Section) (name field : String) (held usual : Value) : Prop where
  given : ∀ v, Gives document name field v → taken field v = .ok held
  missing : (∀ v, ¬ Gives document name field v) → held = usual

theorem filled_of_taken {document s : Section} {name field : String} {held usual : Value}
    (h : Tells document name s) (default : Value)
    (hheld : taken field (fieldOr s field default) = .ok held)
    (husual : taken field default = .ok usual) : Filled document name field held usual where
  given v hv := by
    rw [fieldOr, (h field v).2 hv] at hheld
    exact hheld
  missing hnot := by
    have hnone : Value.get? s field = none :=
      Option.eq_none_iff_forall_ne_some.2 fun v hv => hnot v ((h field v).1 hv)
    rw [fieldOr, hnone, Option.getD_none, husual] at hheld
    exact (Except.ok.inj hheld).symm

theorem fieldOr_of_providerOf {s : Section} {provider : String}
    (h : providerOf s = .ok provider) :
    fieldOr s "provider" ({} : BackendSettings).provider = .text provider := by
  rw [providerOf] at h
  split at h
  · rename_i name hname
    split at h
    · cases h
      exact hname
    · cases h
  · cases h

theorem mem_of_lookup {α : Type} {k : String} {v : α} {es : List (String × α)}
    (h : es.lookup k = some v) : (k, v) ∈ es := by
  obtain ⟨l, r, rfl, -⟩ := List.lookup_eq_some_iff.1 h
  exact List.mem_append_right _ List.mem_cons_self

theorem isSome_lookup {α : Type} (es : List (String × α)) (k : String) :
    (es.lookup k).isSome = (es.map Prod.fst).contains k := by
  induction es with
  | nil => rfl
  | cons e es ih =>
    obtain ⟨k', v⟩ := e
    rw [List.lookup_cons, List.map_cons, List.contains_cons]
    cases k == k' with
    | true => rfl
    | false => exact ih

theorem isSome_bind_lookup (sections : List (String × List (String × Value)))
    (name field : String) :
    ((sections.lookup name).bind (List.lookup field)).isSome =
      ((sections.map fun e => (e.1, e.2.map Prod.fst)).lookup name).any (·.contains field) := by
  induction sections with
  | nil => rfl
  | cons e es ih =>
    obtain ⟨name', fields⟩ := e
    rw [List.lookup_cons, List.map_cons, List.lookup_cons]
    cases name == name' with
    | true => exact isSome_lookup fields field
    | false => exact ih

theorem exists_field?_of_isKnown (s : Settings) {name field : String}
    (h : isKnown name field = true) : ∃ held, s.field? name field = some held := by
  refine Option.isSome_iff_exists.1 ?_
  rw [isKnown, field?, isSome_bind_lookup] at h
  rw [field?, isSome_bind_lookup]
  exact h

/-- A field of one of the sections holds what the document gives for it; else it is as in a run
that is told nothing. -/
theorem filled_of_ofSections {document : Section} {secs : Sections} (ht : AreOf document secs)
    {s : Settings} (h : ofSections secs = .ok s) {name field : String} {held : Value}
    (hheld : s.field? name field = some held) :
    ∃ usual, ({} : Settings).field? name field = some usual ∧
      Filled document name field held usual := by
  -- the steps that can fail: the provider and the three numbers of the backend
  obtain ⟨provider, hprovider, h⟩ := ok_of_bind h
  obtain ⟨backend, hbackend, h⟩ := ok_of_bind h
  cases h
  obtain ⟨timeout, htimeout, h⟩ := ok_of_bind hbackend
  obtain ⟨attempts, hattempts, h⟩ := ok_of_bind h
  obtain ⟨delay, hdelay, h⟩ := ok_of_bind h
  cases h
  obtain ⟨fields, hfields, hmem⟩ := Option.bind_eq_some_iff.1 hheld
  have hfields := mem_of_lookup hfields
  have hmem := mem_of_lookup hmem
  simp only [toValues, List.mem_cons, List.not_mem_nil, or_false, Prod.mk.injEq] at hfields
  -- each field is taken from its section as it is, but for the provider and these numbers
  rcases hfields with ⟨rfl, rfl⟩ | ⟨rfl, rfl⟩ | ⟨rfl, rfl⟩ | ⟨rfl, rfl⟩ | ⟨rfl, rfl⟩
  all_goals simp only [List.mem_cons, List.not_mem_nil, or_false, Prod.mk.injEq] at hmem
  · rcases hmem with ⟨rfl, rfl⟩ | ⟨rfl, rfl⟩ | ⟨rfl, rfl⟩ | ⟨rfl, rfl⟩
    all_goals exact ⟨_, rfl, filled_of_taken ht.project _ rfl rfl⟩
  · rcases hmem with ⟨rfl, rfl⟩ | ⟨rfl, rfl⟩ | ⟨rfl, rfl⟩
    · exact ⟨_, rfl, filled_of_taken ht.source _ rfl rfl⟩
    · exact ⟨_, rfl, filled_of_taken ht.source _ rfl rfl⟩
    · exact ⟨_, rfl, filled_of_taken ht.source .null rfl rfl⟩
  · rcases hmem with ⟨rfl, rfl⟩ | ⟨rfl, rfl⟩ | ⟨rfl, rfl⟩ | ⟨rfl, rfl⟩ | ⟨rfl, rfl⟩ | ⟨rfl, rfl⟩ |
      ⟨rfl, rfl⟩ | ⟨rfl, rfl⟩ | ⟨rfl, rfl⟩
    · have hprovider := fieldOr_of_providerOf hprovider
      exact ⟨_, rfl, filled_of_taken ht.backend _ (congrArg Except.ok hprovider) rfl⟩
    · exact ⟨_, rfl, filled_of_taken ht.backend _ rfl rfl⟩
    · exact ⟨_, rfl, filled_of_taken ht.backend _ rfl rfl⟩
    · have htimeout := congrArg (Except.map Value.float) (ok_of_mapError htimeout)
      exact ⟨_, rfl, filled_of_taken ht.backend _ htimeout rfl⟩
    · have hattempts :=
        congrArg (Except.map fun n => Value.int (max 1 n)) (ok_of_mapError hattempts)
      exact ⟨_, rfl, filled_of_taken ht.backend _ hattempts rfl⟩
    · have hdelay := congrArg (Except.map Value.float) (ok_of_mapError hdelay)
      exact ⟨_, rfl, filled_of_taken ht.backend _ hdelay rfl⟩
    · exact ⟨_, rfl, filled_of_taken ht.backend _ rfl rfl⟩
    · exact ⟨_, rfl, filled_of_taken ht.backend _ rfl rfl⟩
    · exact ⟨_, rfl, filled_of_taken ht.backend _ rfl rfl⟩
  · obtain ⟨rfl, rfl⟩ := hmem
    exact ⟨_, rfl, filled_of_taken ht.output _ rfl rfl⟩
  · rcases hmem with ⟨rfl, rfl⟩ | ⟨rfl, rfl⟩ | ⟨rfl, rfl⟩
    all_goals exact ⟨_, rfl, filled_of_taken ht.log _ rfl rfl⟩

theorem provider_of_ofSections {secs : Sections} {s : Settings} (h : ofSections secs = .ok s) :
    ∃ name ∈ providers, s.backend.provider = .text name := by
  obtain ⟨name, hname, h⟩ := ok_of_bind h
  obtain ⟨backend, hbackend, h⟩ := ok_of_bind h
  cases h
  obtain ⟨timeout, -, h⟩ := ok_of_bind hbackend
  obtain ⟨attempts, -, h⟩ := ok_of_bind h
  obtain ⟨delay, -, h⟩ := ok_of_bind h
  cases h
  exact ⟨name, mem_providers_of_providerOf hname, rfl⟩

/-! ### Documents that provide the same -/

/-- Two sections give the same to the known fields of the section with a name. -/
def SameKnown (name : String) (a b : Section) : Prop :=
  ∀ field, isKnown name field = true → Value.get? a field = Value.get? b field

theorem sameKnown_of_tells {document document' a b : Section} {name : String}
    (ha : Tells document name a) (hb : Tells document' name b)
    (h : ∀ field, isKnown name field = true → ∀ v,
      Gives document' name field v ↔ Gives document name field v) : SameKnown name a b := by
  intro field hfield
  refine Option.ext fun v => ?_
  rw [ha field v, hb field v]
  exact (h field hfield v).symm

theorem fieldOr_congr {a b : Section} {name : String} (h : SameKnown name a b) (field : String)
    (hfield : isKnown name field = true) (default : Value) :
    fieldOr a field default = fieldOr b field default := by
  rw [fieldOr, fieldOr, h field hfield]

theorem projectOf_congr {a b : Section} (h : SameKnown "project" a b) :
    projectOf a = projectOf b := by
  have hf := fieldOr_congr h
  simp only [projectOf, hf "name" rfl, hf "description" rfl, hf "install_command" rfl,
    hf "namespace" rfl]

theorem sourceOf_congr {a b : Section} (h : SameKnown "source" a b) : sourceOf a = sourceOf b := by
  have hf := fieldOr_congr h
  simp only [sourceOf, hf "root_dir" rfl, hf "extensions" rfl, hf "exclude_dirs" rfl]

theorem outputOf_congr {a b : Section} (h : SameKnown "output" a b) : outputOf a = outputOf b := by
  rw [outputOf, outputOf, fieldOr_congr h "path" rfl]

theorem logOf_congr {a b : Section} (h : SameKnown "logging" a b) : logOf a = logOf b := by
  have hf := fieldOr_congr h
  simp only [logOf, hf "level" rfl, hf "format" rfl, hf "file" rfl]

theorem providerOf_congr {a b : Section} (h : SameKnown "backend" a b) :
    providerOf a = providerOf b := by
  rw [providerOf, providerOf, fieldOr_congr h "provider" rfl]

theorem backendOf_congr {a b : Section} (h : SameKnown "backend" a b) (provider : String) :
    backendOf provider a = backendOf provider b := by
  have hf := fieldOr_congr h
  simp only [backendOf, hf "timeout_seconds" rfl, hf "retry_max_attempts" rfl,
    hf "retry_base_delay" rfl, hf "command" rfl, hf "model" rfl, hf "fail_fast" rfl,
    hf "max_tokens" rfl, hf "temperature" rfl]

/-- Documents that give the same to all known fields give the same settings. -/
theorem ofSections_congr {document document' : Section} {a b : Sections} (ha : AreOf document a)
    (hb : AreOf document' b)
    (h : ∀ name field, isKnown name field = true → ∀ v,
      Gives document' name field v ↔ Gives document name field v) :
    ofSections a = ofSections b := by
  have hproject := sameKnown_of_tells ha.project hb.project (h "project")
  have hsource := sameKnown_of_tells ha.source hb.source (h "source")
  have houtput := sameKnown_of_tells ha.output hb.output (h "output")
  have hlog := sameKnown_of_tells ha.log hb.log (h "logging")
  have hbackend := sameKnown_of_tells ha.backend hb.backend (h "backend")
  simp only [ofSections, providerOf_congr hbackend, backendOf_congr hbackend,
    projectOf_congr hproject, sourceOf_congr hsource, outputOf_congr houtput, logOf_congr hlog]

/-! ### Loading -/

theorem result_of_holdsMapping {t : FileTree} {path : String} {document : Section}
    (h : HoldsMapping t path document) (key : String) :
    (load t path key).result = ofValue (.dict document) := by
  simp only [load, if_neg h.named, if_pos h.present, h.read]

/-- Each field of settings that were loaded from a document of sections holds what the document
gives for it, an amount of time as a floating-point number, the attempts as a whole number that is
at least one. What the document does not give is as in a run that is told nothing. The provider is a
known one. Every other document of sections that gives the same for the known fields is loaded to
the same settings: nothing depends on the order of entries, on unknown sections or unknown fields. -/
theorem load_of_mapping {t : FileTree} {path key : String} {document : Section} {s : Settings}
    (hfile : HoldsMapping t path document) (hsections : IsSectioned document)
    (h : (load t path key).result = .ok s) :
    (∀ name field, isKnown name field = true → ∃ held, s.field? name field = some held ∧
      (∀ v, Gives document name field v → taken field v = .ok held) ∧
      ((∀ v, ¬ Gives document name field v) → ({} : Settings).field? name field = some held)) ∧
    (s.backend.provider = .text "ollama" ∨ s.backend.provider = .text "anthropic") ∧
    (∀ t' path' key' document', HoldsMapping t' path' document' → IsSectioned document' →
      (∀ name field, isKnown name field = true → ∀ v,
        Gives document' name field v ↔ Gives document name field v) →
      (load t' path' key').result = .ok s) := by
  obtain ⟨secs, hsecs, hareOf⟩ :=
    exists_sectionsOf (keyed_of_readDocument hfile.read) hsections
  have hof : ofSections secs = .ok s := by
    rw [result_of_holdsMapping hfile, ofValue, hsecs] at h
    exact h
  refine ⟨?_, ?_, ?_⟩
  · intro name field hknown
    obtain ⟨held, hheld⟩ := exists_field?_of_isKnown s hknown
    obtain ⟨usual, husual, hfilled⟩ := filled_of_ofSections hareOf hof hheld
    exact ⟨held, hheld, hfilled.given, fun hnot => by rw [hfilled.missing hnot, husual]⟩
  · obtain ⟨provider, hmem, hprovider⟩ := provider_of_ofSections hof
    rw [hprovider]
    simpa [providers] using hmem
  · -- the other document has sections of its own, which tell the same
    intro t' path' key' document' hfile' hsections' hsame
    obtain ⟨secs', hsecs', hareOf'⟩ :=
      exists_sectionsOf (keyed_of_readDocument hfile'.read) hsections'
    rw [result_of_holdsMapping hfile', ofValue, hsecs']
    change ofSections secs' = .ok s
    rw [← ofSections_congr hareOf hareOf' hsame, hof]

/-! ### A document of sections -/

def asDict? (v : Value) : Option Section :=
  match v with
  | .dict entries => some entries
  | _ => none

theorem eq_of_asDict? {v : Value} {entries : Section} (h : asDict? v = some entries) :
    v = .dict entries := by
  cases v with
  | dict es => rw [Option.some.inj h]
  | _ => cases h

/-- Whether the known sections among entries are mappings or count as false. -/
def allSections (document : Section) : Bool :=
  document.all fun e =>
    !e.2.isTrue || (asDict? e.2).isSome || !sectionNames.any fun name => Value.sameKey e.1 (.text name)

theorem isSectioned_of_allSections {document : Section} (h : allSections document = true) :
    IsSectioned document := by
  intro name hname v hmem
  have hknown : (sectionNames.any fun n => Value.sameKey (.text name) (.text n)) = true :=
    List.any_eq_true.2 ⟨name, hname, Value.sameKey_text.2 rfl⟩
  have hv := List.all_eq_true.1 h _ hmem
  simp only [hknown, Bool.not_true, Bool.or_false, Bool.or_eq_true, Bool.not_eq_true'] at hv
  refine hv.imp_right fun hdict => ?_
  obtain ⟨entries, hentries⟩ := Option.isSome_iff_exists.1 hdict
  exact ⟨entries, eq_of_asDict? hentries⟩

/-- A document with an empty section, one that is not known, and a field that is not known. -/
def partialSections : FileTree :=
  [("config.yaml",
    .file (Utf8.encode
      "logging:\nextra: [1]\nbackend: \x7bcolour: red, retry_max_attempts: -3\x7d\n"))]

theorem exists_document_partialSections :
    ∃ document, HoldsMapping partialSections "config.yaml" document ∧ IsSectioned document := by
  have hread : ((readDocument partialSections (Route.ofText "config.yaml").text).toOption.bind
      asDict?).any allSections = true := by
    decide +kernel
  obtain ⟨document, hdict, hall⟩ := (Option.any_eq_true _ _).1 hread
  obtain ⟨v, hv, hdocument⟩ := Option.bind_eq_some_iff.1 hdict
  obtain rfl := eq_of_asDict? hdocument
  exact ⟨document, ⟨by decide, by decide +kernel, eq_ok_of_toOption hv⟩,
    isSectioned_of_allSections hall⟩

/-- Of fewer attempts than one, one is made, with the backend that is usual. -/
theorem load_partialSections :
    ∃ document s, HoldsMapping partialSections "config.yaml" document ∧ IsSectioned document ∧
      (load partialSections "config.yaml" "").result = .ok s ∧
      (∀ v, Gives document "backend" "retry_max_attempts" v →
        taken "retry_max_attempts" v = .ok (.int 1)) ∧
      (s.backend.provider = .text "ollama" ∨ s.backend.provider = .text "anthropic") := by
  obtain ⟨document, hfile, hsections⟩ := exists_document_partialSections
  have hread : (load partialSections "config.yaml" "").result.toOption.map
      (fun s => s.backend.attempts) = some 1 := by
    decide +kernel
  cases hload : (load partialSections "config.yaml" "").result with
  | error e =>
    rw [hload] at hread
    cases hread
  | ok s =>
    rw [hload] at hread
    have hattempts : s.backend.attempts = 1 := Option.some.inj hread
    obtain ⟨hfields, hprovider, -⟩ := load_of_mapping hfile hsections hload
    obtain ⟨held, hheld, hgiven, -⟩ := hfields "backend" "retry_max_attempts" rfl
    have hone : s.field? "backend" "retry_max_attempts" = some (.int 1) := by
      rw [← hattempts]
      rfl
    cases hheld.symm.trans hone
    exact ⟨document, s, hfile, hsections, rfl, hgiven, hprovider⟩

end Docent.Settings
