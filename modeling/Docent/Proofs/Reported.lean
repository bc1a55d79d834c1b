import Docent.Proofs.Rerun
import Docent.Proofs.Shown

/-!
# What is listed, written and reported

The classes that a dry run lists and the sections that are written are told from the same records,
and the report on sections that failed from the replies. Main statement: the lines of a dry run go
with the headings of the document one by one, and the status and the complaints go with the replies.
-/

namespace Docent

open FileTree

variable {σ : Type}

/-! ### Lines and headings -/

namespace CommandLine

/-- A line about a class or a method, and the heading of the section about it. -/
inductive Announces : String → String → Prop
  | ofClass (path name : String) : Announces s!"  {path}: class {name}" (classHeading name)
  | ofMethod (name : String) : Announces s!"    {name}()" (methodHeading name)

theorem announces_classLines (space : Value) (c : ClassRecord) :
    List.Forall₂ Announces (classLines c) ((c.requests space).map Request.heading) := by
  rw [classLines, ClassRecord.requests, List.map_cons, List.map_map]
  refine .cons (.ofClass c.filePath.display c.name.display) ?_
  rw [List.forall₂_map_left_iff, List.forall₂_map_right_iff, List.forall₂_same]
  exact fun m _ => .ofMethod m.name.display

theorem announces_flatMap (space : Value) (classes : List ClassRecord) :
    List.Forall₂ Announces (classes.flatMap classLines)
      ((requests space classes).map Request.heading) := by
  induction classes with
  | nil => exact .nil
  | cons c classes ih =>
    rw [requests, List.flatMap_cons, List.flatMap_cons, List.map_append]
    exact List.rel_append (announces_classLines space c) ih

end CommandLine

/-! ### Replies to all requests -/

theorem askAbout_of_not_stopped {client : Client σ} {gs : List Segment} {s : σ}
    (h : (askAbout client false gs s).1.stopped = none) :
    let replies := (client.converse (gs.map Segment.prompt) s).1
    (askAbout client false gs s).1.bodies = replies.map bodyOf ∧
      (askAbout client false gs s).1.failures = failuresOf (gs.map Segment.request) replies := by
  induction gs generalizing s with
  | nil => exact ⟨rfl, rfl⟩
  | cons g gs ih =>
    intro replies
    rcases ha : client.complete g.prompt s with ⟨⟨outcome, here⟩, s'⟩
    have hreplies : replies = outcome :: (client.converse (gs.map Segment.prompt) s').1 := by
      simp only [replies, List.map_cons, converse_cons, ha]
    rw [hreplies, List.map_cons, List.map_cons, failuresOf_cons]
    cases outcome with
    | ok text =>
      simp only [askAbout, ha, Replies.cons] at h ⊢
      obtain ⟨hbodies, hfailures⟩ := ih h
      exact ⟨congrArg _ hbodies, congrArg _ hfailures⟩
    | error f =>
      cases f with
      | backend e =>
        simp only [askAbout, ha, Replies.cons, Bool.false_eq_true, if_false] at h ⊢
        obtain ⟨hbodies, hfailures⟩ := ih h
        exact ⟨congrArg _ hbodies, congrArg _ hfailures⟩
      | broken | delayTooLong | unwaited =>
        simp only [askAbout, ha, Replies.stop] at h
        cases h

theorem assembly_of_assemble {client : Client σ} {project : ProjectSettings} {space : Value}
    {classes : List ClassRecord} {s : σ} {assembly : Assembly}
    (h : (assemble client project space false classes s).1.outcome = .ok assembly) :
    let asked := requests space classes
    let replies := (client.converse (asked.map Request.prompt) s).1
    assembly.content = documentHead project ++ String.join
        (List.zipWith (fun r reply => renderSection r.heading (bodyOf reply)) asked replies) ∧
      assembly.failures = failuresOf asked replies := by
  intro asked replies
  have hreplies : replies = (client.converse ((segments space classes).map Segment.prompt) s).1 := by
    rw [map_prompt_segments]
  rw [assemble] at h
  dsimp only at h
  split at h
  · cases h
  · rename_i hstopped
    cases h
    obtain ⟨hbodies, hfailures⟩ := askAbout_of_not_stopped hstopped
    rw [← hreplies, map_request_segments] at hfailures
    refine ⟨?_, hfailures⟩
    rw [hbodies, sectionsOf_map_bodyOf, map_request_segments, ← hreplies]
    rfl

theorem isEmpty_failuresOf {rs : List Request} {replies : List (Except CompletionFailure String)}
    (h : replies.length = rs.length) :
    (failuresOf rs replies).isEmpty = replies.all Except.isOk := by
  induction rs generalizing replies with
  | nil =>
    obtain rfl := List.length_eq_zero_iff.1 h
    rfl
  | cons r rs ih =>
    cases replies with
    | nil => cases h
    | cons reply replies =>
      rw [failuresOf_cons, List.all_cons, ← ih (Nat.succ.inj h)]
      cases reply <;> rfl

/-! ### Files that a log goes on in -/

namespace FileTree

theorem old_of_openFile {t : FileTree} {path name : String} {place : List String}
    {old bytes : List UInt8} (h : openFile t path = .ok (place, name, old))
    (hnode : t.node? (place ++ [name]) = some (.file bytes)) : old = bytes := by
  rw [openFile] at h
  split at h
  · rename_i hfile
    cases h
    have hnode' : t.node? (place ++ [name]) = some (.file old) := (stands_of_goal hfile).2
    rw [hnode] at hnode'
    cases hnode'
    rfl
  · rename_i hfree
    cases h
    have hnone : t.node? (place ++ [name]) = none := (stands_of_goal hfree).2
    rw [hnode] at hnone
    cases hnone
  · cases h
  · cases h

/-- What a file held is still read when something is written at the end of a file. -/
theorem exists_read_of_append {t t' : FileTree} {path path' : String} {bytes more : List UInt8}
    (h : t.read path = .ok bytes) (happend : t.append path' more = .ok t') :
    ∃ rest, t'.read path = .ok (bytes ++ rest) := by
  obtain ⟨place, name, hgoal⟩ := goal_of_read h
  have hnode : t.node? (place ++ [name]) = some (.file bytes) := (stands_of_goal hgoal).2
  obtain ⟨⟨place', name', old⟩, hopen, rfl⟩ := ok_of_map happend
  obtain ⟨-, hdir, hstands⟩ := stands_of_openFile hopen
  have hrefiles := goal_refiled (refiled_of_stands hdir hstands (old ++ more)) path
  rw [hgoal] at hrefiles
  dsimp only
  generalize hgoal' : (putAt (.file (old ++ more)) name' t place').goal path = g' at hrefiles
  cases hrefiles
  rw [Goal.refile] at hgoal'
  rw [read, hgoal']
  dsimp only
  by_cases hsame : place ++ [name] = place' ++ [name']
  · rw [hsame] at hnode
    obtain rfl := old_of_openFile hopen hnode
    exact ⟨more, by rw [if_pos hsame]⟩
  · exact ⟨[], by rw [if_neg hsame, List.append_nil]⟩

end FileTree

theorem Workplace.exists_read_noteAll {w : Workplace} {path : String} {bytes : List UInt8}
    (h : w.tree.read path = .ok bytes) (rs : List LogRecord) :
    ∃ rest, (w.noteAll rs).tree.read path = .ok (bytes ++ rest) := by
  refine noteAll_induction (P := fun t => ∃ rest, t.read path = .ok (bytes ++ rest))
    ⟨[], by rw [List.append_nil, h]⟩ ?_ rs
  rintro path' - t t' more ⟨rest, hrest⟩ happend
  obtain ⟨rest', hrest'⟩ := exists_read_of_append hrest happend
  exact ⟨rest ++ rest', by rw [← List.append_assoc, hrest']⟩

/-! ### Runs with and without a document -/

namespace Pipeline

theorem report_dry_of_returned {connect : Connector σ} {s : Settings} {w : Workplace} {x : σ}
    {r : RunReport} (h : (run connect s false w x).report = .ok r) (y : σ) :
    (run connect s true w y).report = .ok ⟨r.files, r.classes, none, none⟩ := by
  rw [run] at h ⊢
  rcases hfound : discover s.source w.tree with e | ⟨files, logs⟩
  · rw [hfound] at h
    cases h
  · simp only [hfound] at h ⊢
    rcases hextract : extract Grammar.registry
      ((w.noteAll logs).note (foundLog files s.source.root)) files with ⟨e | classes, w'⟩
    · simp only [hextract] at h
      cases h
    · simp only [hextract, Bool.false_eq_true, if_false, if_true] at h ⊢
      obtain ⟨hfiles, hclasses⟩ := found_of_document h
      rw [hfiles, hclasses]

theorem exists_write_of_writeText {t t' : FileTree} {path content : String}
    (h : writeText t path content = (t', none)) :
    ∃ t₁, FileTree.write t₁ (Route.ofText path).text (Utf8.encode content) = .ok t' := by
  simp only [writeText] at h
  split at h
  · cases h
  · split at h
    · cases h
    · split at h
      · cases h
      · split at h
        · rename_i hwrite
          cases h
          exact ⟨_, hwrite⟩
        · cases h

/-- The document is in its file when a run returns, perhaps with some of the log after it. -/
theorem read_of_returned {connect : Connector σ} {s : Settings} {w : Workplace} {x : σ}
    {r : RunReport} (h : (run connect s false w x).report = .ok r) :
    ∃ client assembly path more, connect s.backend = .ok client ∧
      (assemble client s.project s.project.space s.backend.failFast r.classes x).1.outcome =
        .ok assembly ∧
      r.assembly = some assembly ∧ s.output.path = .text path ∧
      (run connect s false w x).place.tree.read (Route.ofText path).text =
        .ok (Utf8.encode assembly.content ++ more) ∧
      (Unlogged (run connect s false w x).place (Route.ofText path).text → more = []) := by
  have hreturns := returns_of_run h
  generalize run connect s false w x = o at h hreturns ⊢
  cases hreturns with
  | @intro _ _ _ path client assembly noted noted' t _ _ _ hpath hclient hassembly hwrite =>
    cases h
    obtain ⟨t₁, hwrote⟩ := exists_write_of_writeText hwrite
    let wrote : Workplace := { w.noteAll noted with tree := t }
    have hread : wrote.tree.read (Route.ofText path).text = .ok (Utf8.encode assembly.content) :=
      read_of_write hwrote
    obtain ⟨more, hmore⟩ := Workplace.exists_read_noteAll hread noted'
    refine ⟨client, assembly, path, more, hclient, hassembly, rfl, hpath, hmore, ?_⟩
    intro hunlogged
    have hbefore : Unlogged wrote (Route.ofText path).text := by
      rw [Unlogged, wrote.spots_noteAll, (wrote.kept_noteAll noted').spot] at hunlogged
      exact hunlogged
    have hsame := (wrote.kept_noteAll noted').read _ hbefore
    rw [hmore, hread] at hsame
    exact List.append_right_eq_self.1 (Option.some.inj hsame)

end Pipeline

namespace CommandLine

open Pipeline

/-! ### The switch for a dry run -/

theorem readGiven_dryRun (args : List String) :
    readGiven Command.generate.switches true none (Switch.dryRun.long :: args) =
      (readGiven Command.generate.switches true none args).map (Given.withSwitch .dryRun "") := by
  have hargument : readArgument Command.generate.switches Switch.dryRun.long =
      .ok (.switches [(.dryRun, "")] none) := rfl
  rw [readGiven, hargument]
  rfl

theorem value?_withSwitch_of_ne {s s' : Switch} (h : s ≠ s') (value : String) (g : Given) :
    (g.withSwitch s' value).value? s = g.value? s := by
  have hne : (s == s') = false := beq_eq_false_iff_ne.2 h
  rw [Given.value?, Given.value?, Given.withSwitch, List.reverse_cons, List.lookup_append]
  simp [List.lookup_cons, hne]

theorem has_withSwitch (s : Switch) (value : String) (g : Given) :
    (g.withSwitch s value).has s = true := by
  rw [Given.has, Given.value?, Given.withSwitch, List.reverse_cons, List.lookup_append]
  cases List.lookup s g.switches.reverse with
  | none => simp
  | some value' => rfl

theorem readFor_dryRun {p : Page} {args : List String} {g : Given}
    (h : readFor p Command.generate.switches true args = .ok g) :
    readFor p Command.generate.switches true (Switch.dryRun.long :: args) =
      .ok (g.withSwitch .dryRun "") := by
  obtain ⟨g', hread, hfirst⟩ := ok_of_bind h
  have hgiven : readGiven Command.generate.switches true none args = .ok g' := ok_of_mapError hread
  obtain ⟨hnone, rfl⟩ : (g'.switches.map Prod.fst).find? Switch.comesFirst = none ∧ g' = g := by
    split at hfirst
    · cases hfirst
    · cases hfirst
    · cases hfirst
      exact ⟨‹_›, rfl⟩
  have hnone' : ((g'.withSwitch .dryRun "").switches.map Prod.fst).find? Switch.comesFirst = none :=
    hnone
  rw [readFor, Given.ofArguments, readGiven_dryRun, hgiven]
  simp only [Except.map, Except.mapError, bind, Except.bind, hnone']
  rfl

theorem readRequest_dryRun {t : FileTree} {rest : List String} {source output model : String}
    {dry : Bool} (h : readRequest t .generate rest = .ok (.generate source output model dry)) :
    readRequest t .generate (Switch.dryRun.long :: rest) =
      .ok (.generate source output model true) := by
  obtain ⟨g, hgiven, hrest⟩ := ok_of_bind h
  obtain ⟨found, hlook, hrest⟩ := ok_of_bind hrest
  obtain ⟨words, hwords, hrest⟩ := ok_of_bind hrest
  cases hrest
  have houtput : (g.withSwitch .dryRun "").value .output = g.value .output := by
    rw [Given.value, Given.value, value?_withSwitch_of_ne (by decide)]
  have hmodel : (g.withSwitch .dryRun "").value .model = g.value .model := by
    rw [Given.value, Given.value, value?_withSwitch_of_ne (by decide)]
  have hwords' : readSource t Command.generate.page (g.withSwitch .dryRun "").words =
      .ok source := hwords
  rw [readRequest, readFor_dryRun hgiven]
  simp only [bind, Except.bind, houtput, hlook, hwords', hmodel, has_withSwitch]
  rfl

/-! ### Sessions that close with a report -/

theorem unsteered_foundLine (r : RunReport) : Text.unsteered (foundLine r) = foundLine r := by
  have hnumber (n : Nat) : '\x1b' ∉ (toString n).toList := by
    intro h
    have hdigits : (toString n).toList = Nat.toDigits 10 n := by simp [toString, Nat.repr]
    rw [hdigits] at h
    exact absurd (Nat.isDigit_of_mem_toDigits (by decide) (by decide) h) (by decide)
  refine Text.unsteered_eq_self ?_
  simp only [foundLine, String.toList_append, List.mem_append, not_or]
  exact ⟨⟨⟨⟨by decide, hnumber _⟩, by decide⟩, hnumber _⟩, by decide⟩

/-- What a report leaves: its lines are printed after what was, its failures complained about after
what was logged, and the status is that of the failures. -/
theorem generate_of_report {connect : Connector σ} {settings : Settings} {dry : Bool} {s : Session}
    {x : σ} {r : RunReport} (h : (Pipeline.run connect settings dry s.place x).report = .ok r) :
    let ran := Pipeline.run connect settings dry s.place x
    let o := generate connect settings dry s x
    o.ending = .ok (if (reportFailures r).isEmpty then 0 else 1) ∧
      o.session.printed = s.printed ++ unlines ((reportLines r).map Text.unsteered) ∧
      o.session.place.tree = ran.place.tree ∧ o.session.place.spots = ran.place.spots ∧
      o.session.place.journal.screen = ran.place.journal.screen ++
        unlines ((failureLines (reportFailures r)).map Text.unsteered) := by
  intro ran o
  have ho : o = ⟨(closeWithReport { s with place := ran.place } r).1,
      (closeWithReport { s with place := ran.place } r).2, ran.state⟩ := by
    simp only [o, generate, h]
    rfl
  rw [ho, ← unsteered_unlines, ← unsteered_unlines]
  exact ⟨rfl, rfl, rfl, rfl, rfl⟩

/-- Where the document is written and nothing is to end that early, a dry run on the same files prints
a line for each section, in the order of the headings, and both print the same about what was found.
The status is zero if all replies are texts and else one, with one complaint for each section that
failed, in order, below their number and after the log; the document is in its file all the same,
with nothing after it unless the log goes there. All lines are shown without what would steer a
terminal. -/
theorem document_written_as_listed {around : Surroundings} {config : Option String} {t : FileTree}
    {settings : Settings} {s : Session}
    (hconfig : ∀ path, config = some path → hasNull path = false)
    (hopened : opened around config t = some (settings, s)) {rest : List String}
    {source output model : String}
    (hrequest : readRequest s.place.tree .generate rest =
      .ok (.generate source output model false))
    (hgoes : settings.backend.failFast = false) (connect : Connector σ) (x : σ) {r : RunReport} :
    let chosen := overridden source output model settings
    let ran := Pipeline.run connect chosen false s.place x
    let arguments := configArguments config ++ [Command.generate.name]
    let listed := run connect around (arguments ++ Switch.dryRun.long :: rest) t x
    let written := run connect around (arguments ++ rest) t x
    let asked := requests chosen.project.space r.classes
    ran.report = .ok r →
      List.Forall₂ Announces (r.classes.flatMap classLines) (asked.map Request.heading) ∧
      listed.ending = .ok 0 ∧
      listed.session.printed = unlines (foundLine r ::
        (r.classes.flatMap classLines).map Text.unsteered ++
          ["Dry run complete. No backend calls made."]) ∧
      (∃ more, written.session.printed = unlines (foundLine r :: more)) ∧
      ∃ (client : Client σ) (assembly : Assembly) (path : String),
        connect chosen.backend = .ok client ∧ chosen.output.path = .text path ∧
        let replies := (client.converse (asked.map Docent.Request.prompt) x).1
        replies.length = asked.length ∧
        assembly.content = documentHead chosen.project ++ String.join
          (List.zipWith (fun q reply => renderSection q.heading (bodyOf reply)) asked replies) ∧
        (∃ more, written.session.place.tree.read (Route.ofText path).text =
            .ok (Utf8.encode assembly.content ++ more) ∧
          (Unlogged written.session.place (Route.ofText path).text → more = [])) ∧
        written.ending = .ok (if replies.all Except.isOk then 0 else 1) ∧
        written.session.place.journal.screen = ran.place.journal.screen ++
          unlines ((failureLines (failuresOf asked replies)).map Text.unsteered) := by
  intro chosen ran arguments listed written asked h
  have hprinted := printed_of_opened hopened
  -- both runs open the same session and make the same request but for the switch
  have hlisted : listed = generate connect chosen true s x := by
    have hrun := run_command hconfig hopened connect .generate _ x (readRequest_dryRun hrequest)
    rw [List.append_cons] at hrun
    exact hrun
  have hwritten : written = generate connect chosen false s x := by
    have hrun := run_command hconfig hopened connect .generate _ x hrequest
    rw [List.append_cons] at hrun
    exact hrun
  obtain ⟨hending, hlines, -, -, -⟩ := generate_of_report (report_dry_of_returned h x)
  obtain ⟨hending', hlines', htree, hspots, hscreen⟩ := generate_of_report h
  -- the run returned, so that there is a client, and what was assembled with it is in the file
  obtain ⟨client, assembly, path, more, hclient, hassembly, hreport, hpath, hread, hmore⟩ :=
    read_of_returned h
  -- without an early end all sections are asked for, so the document is theirs
  have hfast : chosen.backend.failFast = false := hgoes
  rw [hfast] at hassembly
  obtain ⟨hcontent, hfailures⟩ := assembly_of_assemble hassembly
  have hlength : ((client.converse (asked.map Docent.Request.prompt) x).1).length = asked.length := by
    rw [length_converse, List.length_map]
  have hfailed : reportFailures r = assembly.failures := by rw [reportFailures, hreport]
  have hfound : Text.unsteered (foundLine ⟨r.files, r.classes, none, none⟩) = foundLine r :=
    unsteered_foundLine r
  rw [hprinted, String.empty_append] at hlines hlines'
  rw [hfailed, hfailures] at hending' hscreen
  rw [hlisted, hwritten]
  refine ⟨announces_flatMap _ r.classes, hending, ?_, ?_, client, assembly, path, hclient, hpath,
    hlength, hcontent, ?_, ?_, hscreen⟩
  · rw [hlines, reportLines, List.map_append, List.map_cons, hfound]
    rfl
  · rw [reportLines, hreport] at hlines'
    rw [List.map_cons, unsteered_foundLine] at hlines'
    exact ⟨_, hlines'⟩
  · rw [Unlogged, hspots, htree]
    exact ⟨more, hread, hmore⟩
  · rw [hending', isEmpty_failuresOf hlength]

/-- A tree with a class that has a method. -/
def methodTree : FileTree :=
  [("src", .dir [("a.php", .file (Utf8.encode "<?php class A { function f() {} }"))])]

/-- The second of two sections fails. -/
theorem method_failed_as_listed :
    ∃ (r : RunReport) (more : List String) (replies : List (Except CompletionFailure String)),
      let listed := run (.fixed everySecondFails) atHome ["generate", "--dry-run"] methodTree 0
      let written := run (.fixed everySecondFails) atHome ["generate"] methodTree 0
      listed.ending = .ok 0 ∧
        listed.session.printed = unlines (foundLine r ::
          (r.classes.flatMap classLines).map Text.unsteered ++
            ["Dry run complete. No backend calls made."]) ∧
        written.session.printed = unlines (foundLine r :: more) ∧
        written.ending = .ok (if replies.all Except.isOk then 0 else 1) := by
  have hreturns : (opened atHome none methodTree).map (fun begun => !begun.1.backend.failFast &&
      (Pipeline.run (.fixed everySecondFails) (overridden "" "" "" begun.1) false begun.2.place
        0).report.isOk) = some true := by decide +kernel
  obtain ⟨⟨settings, s⟩, hopened, hreturns⟩ := Option.map_eq_some_iff.1 hreturns
  rw [Bool.and_eq_true, Bool.not_eq_true'] at hreturns
  obtain ⟨r, hr⟩ := exists_ok_of_isOk hreturns.2
  obtain ⟨-, hlisted, hlines, ⟨more, hmore⟩, client, -, -, -, -, -, -, -, hending, -⟩ :=
    document_written_as_listed (fun _ h => by cases h) hopened (readRequest_generate s.place.tree)
      hreturns.1 (.fixed everySecondFails) 0 hr
  exact ⟨r, more, _, hlisted, hlines, hmore, hending⟩

/-- A client that fails with what would steer a terminal. -/
def steeringFails : Client Nat where
  complete _ n := (⟨.error (.backend { message := "\x1b[31mboom" }), []⟩, n + 1)

def quietSession (t : FileTree) : Session := { place := ⟨t, { level := 50 }⟩ }

/-- What sections a run wrote: their headings, and the failures among them. -/
def writtenBy (settings : Settings) (s : Session) : Option (List String × List SectionFailure) :=
  (Pipeline.run (.fixed steeringFails) settings false s.place 0).report.toOption.map fun r =>
    ((requests settings.project.space r.classes).map Docent.Request.heading, reportFailures r)

/-- A tree with a method whose name would steer a terminal, and settings to find it. -/
def steeringTree : FileTree :=
  [("src", .dir [("a.js", .file (Utf8.encode "class A \x7b '\x1b[31mf'() \x7b\x7d \x7d"))])]

def forScripts : Settings := { source := { extensions := .list [.text ".js"] } }

/-- What would steer a terminal is in the failures and not in the complaints, in the headings and not
in the lines of a dry run. -/
theorem steering_not_shown :
    let failures : List SectionFailure :=
      [⟨"## Class `A`", "\x1b[31mboom"⟩, ⟨"### Method `f()`", "\x1b[31mboom"⟩]
    let s := quietSession methodTree
    let s' := quietSession steeringTree
    let written := perform (.fixed steeringFails) {} s 0 (.generate "" "" "" false)
    let listed := perform (.fixed steeringFails) forScripts s' 0 (.generate "" "" "" true)
    (writtenBy {} s).map Prod.snd = some failures ∧
      written.session.place.journal.screen ≠ unlines (failureLines failures) ∧
      (writtenBy forScripts s').map Prod.fst =
        some ["## Class `A`", "### Method `'\x1b[31mf'()`"] ∧
      listed.session.printed =
        unlines ["Found 1 source files, 1 classes", "  src/a.js: class A", "    'f'()",
          "Dry run complete. No backend calls made."] := by
  decide +kernel

end CommandLine

end Docent
