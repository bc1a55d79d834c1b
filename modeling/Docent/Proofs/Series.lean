import Docent.Documenter
import Docent.Proofs.Mirrored
import Docent.Proofs.Preview

/-!
# Runs of one documenter

A documenter runs again and again, on files that change in between. Main statement: whatever the runs
before, each run comes to what the first run of another documenter would come to, makes no second
client, and sends the prompts for the classes that are then in the sources; dry runs make none and
send none.
-/

namespace Docent

variable {σ τ : Type}

/-! ### How asking ends -/

/-- Asking goes through all segments, or is ended by a failure that it is to end with, or by one that
is none of the backend. -/
theorem askAbout_ends (client : Client σ) (failFast : Bool) (gs : List Segment) (s : σ) :
    let replies := (askAbout client failFast gs s).1
    (replies.stopped = none ∧ replies.prompts = gs.map Segment.prompt) ∨
      ∃ f, replies.stopped = some f ∧ (failFast = true ∨ f.isBackend = false) := by
  induction gs generalizing s with
  | nil => exact .inl ⟨rfl, rfl⟩
  | cons g gs ih =>
    rcases ha : client.complete g.prompt s with ⟨⟨outcome, logs⟩, s'⟩
    have hrest := ih s'
    cases outcome with
    | ok text => simpa [askAbout, ha, Replies.cons] using hrest
    | error f =>
      cases f with
      | broken e | delayTooLong | unwaited e =>
        rw [askAbout, ha]
        exact .inr ⟨_, rfl, .inr rfl⟩
      | backend e =>
        cases failFast with
        | true => exact .inr ⟨.backend e, by simp [askAbout, ha, Replies.stop]⟩
        | false => simpa [askAbout, ha, Replies.cons] using hrest

theorem map_prompt_segments (space : Value) (classes : List ClassRecord) :
    (segments space classes).map Segment.prompt = (requests space classes).map Request.prompt := by
  rw [← map_request_segments, List.map_map]
  rfl

theorem assemble_ends (client : Client σ) (project : ProjectSettings) (space : Value)
    (failFast : Bool) (classes : List ClassRecord) (s : σ) {run : AssemblyRun} {s' : σ}
    (h : assemble client project space failFast classes s = (run, s')) :
    run.prompts <+: (requests space classes).map Request.prompt ∧
      match run.outcome with
      | .ok _ => run.prompts = (requests space classes).map Request.prompt
      | .error f => failFast = true ∨ f.isBackend = false := by
  have hends := askAbout_ends client failFast (segments space classes) s
  have hfirst := prompts_askAbout_prefix client failFast (segments space classes) s
  rw [map_prompt_segments] at hends hfirst
  obtain rfl : (assemble client project space failFast classes s).1 = run := by rw [h]
  rw [assemble]
  refine ⟨hfirst, ?_⟩
  rcases hends with ⟨hstopped, hall⟩ | ⟨f, hstopped, hcause⟩
  · simpa only [hstopped] using hall
  · simpa only [hstopped] using hcause

namespace Pipeline

/-! ### Prompts that runs send -/

/-- The connector to clients that also keep the prompts they are sent. -/
def Connector.recorded (connect : Connector σ) : Connector (List String × σ) :=
  fun b => (connect b).map Client.recorded

/-- What a run with classes sends, by its report: the prompts for these classes in order, each once. None
if the settings name no path or no client, and else all of them, unless a completion failed that is to
end the run, or failed in a way that is none of the backend. -/
structure Sends (connect : Connector σ) (s : Settings) (classes : List ClassRecord)
    (report : Except RunError RunReport) (sent : List String) : Prop where
  first : sent <+: (requests s.project.space classes).map Request.prompt
  returned : ∀ r, report = .ok r → sent = (requests s.project.space classes).map Request.prompt
  unsent : (∀ path client, s.output.path = .text path → connect s.backend ≠ .ok client) → sent = []
  all : ∀ path client, s.output.path = .text path → connect s.backend = .ok client →
    (∀ f, report ≠ .error (.completion f)) →
    sent = (requests s.project.space classes).map Request.prompt
  ended : ∀ client f, connect s.backend = .ok client → report = .error (.completion f) →
    s.backend.failFast = true ∨ f.isBackend = false

theorem Sends.nothing {connect : Connector σ} {s : Settings} {classes : List ClassRecord}
    {report : Except RunError RunReport} (hreport : ∀ r, report ≠ .ok r)
    (hunmet : ∀ path client, s.output.path = .text path → connect s.backend ≠ .ok client)
    (hended : ∀ client f, connect s.backend = .ok client → report ≠ .error (.completion f)) :
    Sends connect s classes report [] where
  first := List.nil_prefix
  returned r hr := absurd hr (hreport r)
  unsent _ := rfl
  all path client hpath hclient := absurd hclient (hunmet path client hpath)
  ended client f hclient hf := absurd hf (hended client f hclient)

theorem Sends.asked {connect : Connector σ} {s : Settings} {classes : List ClassRecord}
    {report : Except RunError RunReport} {path : String} {client : Client σ} {sent : List String}
    (hpath : s.output.path = .text path) (hclient : connect s.backend = .ok client)
    (hfirst : sent <+: (requests s.project.space classes).map Request.prompt)
    (hall : (∀ f, report ≠ .error (.completion f)) →
      sent = (requests s.project.space classes).map Request.prompt)
    (hended : ∀ f, report = .error (.completion f) →
      s.backend.failFast = true ∨ f.isBackend = false) :
    Sends connect s classes report sent where
  first := hfirst
  returned r hr := hall fun f hf => by rw [hr] at hf; cases hf
  unsent hunmet := absurd hclient (hunmet path client hpath)
  all _ _ _ _ := hall
  ended _ f _ := hended f

theorem document_sends (connect : Connector σ) (s : Settings) (files : List String)
    (classes : List ClassRecord) (w : Workplace) (seen : List String) (x : σ) :
    ∃ sent, (document connect.recorded s files classes w (seen, x)).state.1 = seen ++ sent ∧
      Sends connect s classes (document connect.recorded s files classes w (seen, x)).report
        sent := by
  rw [document]
  -- without a path or a client nothing is sent
  cases hpath : s.output.path.path with
  | error e =>
    refine ⟨[], (List.append_nil seen).symm, .nothing (fun r hr => by cases hr) ?_
      (fun client f _ hf => by cases hf)⟩
    intro path client htext
    rw [htext] at hpath
    cases hpath
  | ok path =>
    cases hclient : connect s.backend with
    | error e =>
      have hunmet (client : Client σ) : connect s.backend ≠ .ok client := by
        rw [hclient]
        exact fun hok => by cases hok
      simp only [Connector.recorded, hclient, Except.map]
      exact ⟨[], (List.append_nil seen).symm, .nothing (fun r hr => by cases hr)
        (fun _ client _ => hunmet client) fun client _ hok => absurd hok (hunmet client)⟩
    | ok client =>
      simp only [Connector.recorded, hclient, Except.map, assemble_recorded]
      -- what is sent is told by the assembly, however it and the writing end
      rcases hassemble : assemble client s.project s.project.space s.backend.failFast classes x with
        ⟨⟨outcome, sent, logs⟩, y⟩
      obtain ⟨hfirst, hends⟩ := assemble_ends client _ _ _ _ x hassemble
      have hsends {report : Except RunError RunReport} :=
        @Sends.asked _ connect s classes report path client sent (eq_text_of_path hpath) hclient hfirst
      cases outcome with
      | error f =>
        refine ⟨sent, rfl, hsends (fun hnone => absurd rfl (hnone f)) ?_⟩
        rintro _ ⟨⟩
        exact hends
      | ok assembly =>
        rcases hwrite : writeText ((w.noteAll (TemplateSource.openingLogs none w.tree)).noteAll
          logs).tree path assembly.content with ⟨t, _ | e⟩
        · simp only [writeDocument, hwrite]
          exact ⟨sent, rfl, hsends (fun _ => hends) fun f hf => by cases hf⟩
        · simp only [writeDocument, hwrite]
          refine ⟨sent, rfl, hsends (fun _ => hends) ?_⟩
          rintro f ⟨⟩
          rcases error_of_writeText hwrite with hnull | ⟨e', hfile⟩
          · cases hnull
          · cases hfile

theorem found_of_document {connect : Connector σ} {s : Settings} {files : List String}
    {classes : List ClassRecord} {w : Workplace} {x : σ} {r : RunReport}
    (h : (document connect s files classes w x).report = .ok r) :
    r.files = files ∧ r.classes = classes := by
  rw [document] at h
  split at h
  · cases h
  · dsimp only at h
    split at h
    · cases h
    · split at h
      · cases h
      · split at h
        · cases h
        · cases h
          exact ⟨rfl, rfl⟩

/-- What a run sends is for the classes that a dry run from there lists. -/
theorem run_sends (connect : Connector σ) (s : Settings) (w : Workplace) (seen : List String)
    (x : σ) :
    ∃ sent, (run connect.recorded s false w (seen, x)).state.1 = seen ++ sent ∧
      match (run connect.recorded s true w (seen, x)).report with
      | .error e => (run connect.recorded s false w (seen, x)).report = .error e ∧ sent = []
      | .ok listed =>
        (∀ r, (run connect.recorded s false w (seen, x)).report = .ok r →
          r.files = listed.files ∧ r.classes = listed.classes) ∧
        Sends connect s listed.classes (run connect.recorded s false w (seen, x)).report sent := by
  rw [run, run]
  rcases hfound : discover s.source w.tree with e | ⟨files, logs⟩
  · exact ⟨[], (List.append_nil seen).symm, rfl, rfl⟩
  · dsimp only
    rcases hextract : extract Grammar.registry
      ((w.noteAll logs).note (foundLog files s.source.root)) files with ⟨e | classes, w'⟩
    · exact ⟨[], (List.append_nil seen).symm, rfl, rfl⟩
    · obtain ⟨sent, hstate, hsends⟩ := document_sends connect s files classes w' seen x
      refine ⟨sent, hstate, ?_, hsends⟩
      exact fun r hr => found_of_document hr

end Pipeline

/-! ### Documenters -/

namespace Documenter

open Pipeline

/-- A documenter with settings that has made no client, or that has made the one it is connected to. -/
inductive Ready (connect : Connector σ) (s : Settings) : Documenter σ → Prop
  | idle : Ready connect s { settings := s }
  | engaged {client : Client σ} (h : connect s.backend = .ok client) :
      Ready connect s { settings := s, client := some client, made := 1 }

section

variable {connect : Connector σ} {s : Settings} {d : Documenter σ} (h : Ready connect s d)
include h

theorem Ready.settings_eq : d.settings = s := by
  cases h <;> rfl

theorem Ready.made_le : d.made ≤ 1 := by
  cases h
  · exact Nat.zero_le 1
  · exact Nat.le_refl 1

theorem Ready.engage : (d.engage connect).1 = connect s.backend ∧
    Ready connect s (d.engage connect).2 := by
  cases h with
  | idle =>
    rw [Documenter.engage]
    dsimp only
    split
    · rename_i hclient
      exact ⟨hclient.symm, .idle⟩
    · rename_i hclient
      exact ⟨hclient.symm, .engaged hclient⟩
  | engaged hclient => exact ⟨hclient.symm, .engaged hclient⟩

/-- A run comes to what it would come to with a new client, and a dry one leaves the documenter as it
was. -/
theorem Ready.run (dry : Bool) (w : Workplace) (x : σ) :
    (d.run connect dry w x).1 = Pipeline.run connect s dry w x ∧
      Ready connect s (d.run connect dry w x).2 ∧
      (dry = true → (d.run connect dry w x).2 = d) := by
  have hengage := h.engage
  rw [Documenter.run, Pipeline.run, h.settings_eq]
  rcases hfound : discover s.source w.tree with e | ⟨files, logs⟩
  · exact ⟨rfl, h, fun _ => rfl⟩
  · dsimp only
    rcases hextract : extract Grammar.registry
      ((w.noteAll logs).note (foundLog files s.source.root)) files with ⟨e | classes, w'⟩
    · exact ⟨rfl, h, fun _ => rfl⟩
    · cases dry with
      | true => exact ⟨rfl, h, fun _ => rfl⟩
      | false =>
        simp only [Bool.false_eq_true, if_false]
        cases hpath : s.output.path.path with
        | error e =>
          refine ⟨?_, h, fun hdry => by cases hdry⟩
          simp only [document, hpath]
        | ok path =>
          refine ⟨?_, hengage.2, fun hdry => by cases hdry⟩
          rw [hengage.1]
          rfl

end

theorem series_ready {connect : Connector σ} {s : Settings} {d : Documenter σ}
    (h : Ready connect s d) (w : Workplace) (x : σ) (turns : List Turn) :
    ∀ p ∈ series connect d w x turns,
      p.outcome = Pipeline.run connect s p.dry p.start p.state ∧ Ready connect s p.next ∧
        (p.dry = true → p.next = p.documenter) := by
  -- on the turns: a documenter that is ready is ready again after a run
  induction turns generalizing d w x with
  | nil => exact fun p hp => nomatch hp
  | cons turn turns ih =>
    intro p hp
    obtain ⟨houtcome, hready, hdry⟩ := h.run turn.dry { w with tree := turn.change w.tree } x
    rw [series] at hp
    rcases List.mem_cons.1 hp with rfl | hp
    · exact ⟨houtcome, hready, hdry⟩
    · exact ih hready _ _ p hp

theorem map_dry_series (connect : Connector σ) (d : Documenter σ) (w : Workplace) (x : σ)
    (turns : List Turn) :
    (series connect d w x turns).map Performed.dry = turns.map Turn.dry := by
  induction turns generalizing d w x with
  | nil => rfl
  | cons turn turns ih => rw [series, List.map_cons, List.map_cons, ih]

/-- What a documenter comes to in one run does not depend on its runs before: from the files as they
then are, and with the same replies, it has the same report and leaves the same files as a new documenter
with these settings, after the same prompts. It makes one client at most in all its runs. A dry run makes
none and asks nothing; another run sends one prompt for each class and method that a dry run from there
lists, in order, unless it is ended before. The backends reply the same wherever they were asked equally
often. -/
theorem runs_come_to_what_first_runs_do (connect : Connector σ) (s : Settings) (w : Workplace)
    (x : σ) (turns : List Turn) :
    let runs := series connect.recorded { settings := s } w ([], x) turns
    let first {τ : Type} (connect' : Connector τ) (dry : Bool) (w' : Workplace) (y : τ) :=
      (Documenter.run connect'.recorded { settings := s } dry w' ([], y)).1
    runs.map Performed.dry = turns.map Turn.dry ∧
    (∀ p ∈ runs, p.next.made ≤ 1) ∧
    (∀ p ∈ runs, p.dry = true → p.next = p.documenter ∧ p.outcome.state = p.state) ∧
    (∀ p ∈ runs, p.dry = false → ∃ sent, p.outcome.state.1 = p.state.1 ++ sent ∧
      match (first connect true p.start p.state.2).report with
      | .error e => p.outcome.report = .error e ∧ sent = []
      | .ok listed =>
        (∀ r, p.outcome.report = .ok r → r.files = listed.files ∧ r.classes = listed.classes) ∧
        Sends connect s listed.classes p.outcome.report sent) ∧
    (∀ p ∈ runs, ∀ (τ : Type) (connect' : Connector τ) (R : σ → τ → Prop) (y : τ),
      Linked R (connect s.backend) (connect' s.backend) → R p.state.2 y →
      let o := first connect' p.dry p.start y
      p.outcome.report = o.report ∧ p.outcome.place = o.place ∧
        p.outcome.state.1 = p.state.1 ++ o.state.1 ∧ R p.outcome.state.2 o.state.2) ∧
    ∀ peer key b, Linked Exchange.Level (Connector.toBackend peer key b)
      (Connector.toBackend peer key b) := by
  intro runs first
  have hidle : Ready connect.recorded s { settings := s } := .idle
  -- in every turn the documenter is ready, so each run is a run of the pipeline
  have hruns := series_ready hidle w ([], x) turns
  have hfirst {τ : Type} (connect' : Connector τ) (dry : Bool) (w' : Workplace) (y : τ) :
      first connect' dry w' y = Pipeline.run connect'.recorded s dry w' ([], y) :=
    (Ready.idle.run dry w' ([], y)).1
  refine ⟨map_dry_series _ _ _ _ _, ?_, ?_, ?_, ?_, toBackend_linked⟩
  · intro p hp
    exact (hruns p hp).2.1.made_le
  · intro p hp hdry
    obtain ⟨houtcome, -, hkept⟩ := hruns p hp
    refine ⟨hkept hdry, ?_⟩
    obtain ⟨report, place, hrun⟩ := run_dry s p.start
    rw [houtcome, hdry, hrun]
  · intro p hp hdry
    obtain ⟨houtcome, -, -⟩ := hruns p hp
    obtain ⟨sent, hsent⟩ := run_sends connect s p.start p.state.1 p.state.2
    obtain ⟨report, place, hrun⟩ := run_dry s p.start
    rw [hdry] at houtcome
    refine ⟨sent, ?_⟩
    rw [houtcome, hfirst, hrun]
    rwa [hrun] at hsent
  · intro p hp τ connect' R y hlinked hstate
    obtain ⟨houtcome, -, -⟩ := hruns p hp
    -- the prompts sent before are what the two states differ by
    have hlink : Linked _ (connect.recorded s.backend) (connect'.recorded s.backend) :=
      hlinked.recorded p.state.1
    have hmatches := run_matches hlink (x := p.state) (y := ([], y))
      ⟨(List.append_nil p.state.1).symm, hstate⟩ p.dry p.start
    rw [hfirst, houtcome]
    exact ⟨hmatches.report, hmatches.place, hmatches.related.1, hmatches.related.2⟩

def numbering : Peer where
  process n _ := .finished 0 (some s!"reply {n}") none
  request _ _ := .refused ""

/-- Two runs, between which the class in the sources is replaced by another one. -/
def twoRuns : List (Performed (List String × Exchange)) :=
  series (Connector.toBackend numbering "").recorded { settings := {} } oldPlace ([], {})
    [{}, { change := fun _ => [("src", .dir [("b.php", .file (Utf8.encode "<?php class B {}"))])] }]

theorem second_run_is_as_first :
    ∃ p ∈ twoRuns, p.state.1.length = 1 ∧ Exchange.Level p.state.2 { taken := 1 } ∧
      Linked Exchange.Level (Connector.toBackend numbering "" {})
        (Connector.toBackend numbering "" {}) ∧
      let first := (Documenter.run (Connector.toBackend numbering "").recorded { settings := {} } p.dry
        p.start ([], { taken := 1 })).1
      p.outcome.report = first.report ∧ p.outcome.state.1 = p.state.1 ++ first.state.1 := by
  have hsecond : (twoRuns[1]?.map fun p => (p.state.1.length, p.state.2.taken)) = some (1, 1) := by
    decide +kernel
  obtain ⟨p, hp, hstate⟩ := Option.map_eq_some_iff.1 hsecond
  rw [Prod.mk.injEq] at hstate
  have hlinked := toBackend_linked numbering "" {}
  have hmem : p ∈ twoRuns := List.mem_of_getElem? hp
  obtain ⟨-, -, -, -, hfirst, -⟩ := runs_come_to_what_first_runs_do
    (Connector.toBackend numbering "") {} oldPlace {}
    [{}, { change := fun _ => [("src", .dir [("b.php", .file (Utf8.encode "<?php class B {}"))])] }]
  obtain ⟨hreport, -, hsent, -⟩ := hfirst p hmem Exchange _ _ { taken := 1 } hlinked hstate.2
  exact ⟨p, hmem, hstate.1, hstate.2, hlinked, hreport, hsent⟩

/-- A place with a class that has a method. -/
def methodPlace : Workplace :=
  ⟨[("src", .dir [("a.php", .file (Utf8.encode "<?php class A { function f() {} }"))])], {}⟩

/-- Where the first failure is to end a run, one prompt may be sent of two. -/
theorem fail_fast_sends_one_prompt_of_two :
    let s : Settings := { backend := { failFast := true } }
    let d : Documenter (List String × Nat) := { settings := s }
    let run (dry : Bool) :=
      (d.run (Connector.fixed everySecondFails).recorded dry methodPlace ([], 1)).1
    (run true).report.toOption.map (fun r => (requests s.project.space r.classes).length) = some 2 ∧
      (run false).state.1.length = 1 := by
  decide +kernel

end Documenter

end Docent
