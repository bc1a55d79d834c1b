import Docent.Proofs.FirstFailure
import Docent.Proofs.Opened
import Docent.Proofs.Share
import Docent.Proofs.Written

/-!
# Prompts that are shown and prompts that are sent

A prompt can be shown without asking a backend. Main statement: what is shown of a class or a method is
the prompt that is sent for it when the document is written, and nothing is sent.
-/

namespace Docent

variable {σ : Type}

/-! ### Prompts in order -/

theorem segments_append (space : Value) (classes classes' : List ClassRecord) :
    segments space (classes ++ classes') = segments space classes ++ segments space classes' :=
  List.flatMap_append

theorem prompts_askAbout_prefix (client : Client σ) (failFast : Bool) (gs : List Segment) (s : σ) :
    (askAbout client failFast gs s).1.prompts <+: gs.map Segment.prompt := by
  induction gs generalizing s with
  | nil => exact List.nil_prefix
  | cons g gs ih =>
    rw [List.map_cons]
    rcases ha : client.complete g.prompt s with ⟨⟨outcome, here⟩, s'⟩
    have hrest := ih s'
    have hfirst : [g.prompt] <+: g.prompt :: gs.map Segment.prompt :=
      List.prefix_append [g.prompt] (gs.map Segment.prompt)
    cases outcome with
    | ok text =>
      simp only [askAbout, ha, Replies.cons]
      exact List.cons_prefix_cons.2 ⟨rfl, hrest⟩
    | error f =>
      cases f with
      | backend e =>
        simp only [askAbout, ha]
        split
        · exact hfirst
        · exact List.cons_prefix_cons.2 ⟨rfl, hrest⟩
      | broken | delayTooLong | unwaited =>
        simp only [askAbout, ha]
        exact hfirst

/-- The first section with a name: that of the class with the name, or of the method with a name in it;
with how many sections there are before it. -/
inductive FirstNamed (space : Value) (classes : List ClassRecord) (className : String) :
    Option String → Nat → Segment → Prop
  | ofClass {front back : List ClassRecord} {c : ClassRecord} (hclasses : classes = front ++ c :: back)
      (hfront : ∀ d ∈ front, d.name ≠ .text className) (hname : c.name = .text className) :
      FirstNamed space classes className none (segments space front).length (.ofClass space c)
  | ofMethod {front back : List ClassRecord} {c : ClassRecord} {before after : List MethodRecord}
      {m : MethodRecord} {method : String} (hclasses : classes = front ++ c :: back)
      (hfront : ∀ d ∈ front, d.name ≠ .text className) (hname : c.name = .text className)
      (hmethods : c.methods = before ++ m :: after) (hbefore : ∀ n ∈ before, n.name ≠ .text method)
      (hmethod : m.name = .text method) :
      FirstNamed space classes className (some method)
        ((segments space front).length + 1 + before.length) (.ofMethod c.language m)

section

variable {space : Value} {classes : List ClassRecord} {className : String} {method : Option String}
  {n : Nat} {g : Segment} (h : FirstNamed space classes className method n g)
include h

theorem FirstNamed.segments_eq :
    ∃ before after, segments space classes = before ++ g :: after ∧ before.length = n := by
  cases h with
  | @ofClass front back c hclasses =>
    refine ⟨segments space front, c.methods.map (.ofMethod c.language) ++ segments space back, ?_, rfl⟩
    rw [hclasses, segments_append]
    rfl
  | @ofMethod front back c before after m method hclasses _ _ hmethods =>
    refine ⟨segments space front ++ .ofClass space c :: before.map (.ofMethod c.language),
      after.map (.ofMethod c.language) ++ segments space back, ?_, by simp; omega⟩
    have hall : Segment.allOf space c = .ofClass space c :: before.map (.ofMethod c.language) ++
        .ofMethod c.language m :: after.map (.ofMethod c.language) := by
      rw [Segment.allOf, hmethods, List.map_append, List.map_cons, List.cons_append]
    have hcons : segments space (c :: back) = Segment.allOf space c ++ segments space back := rfl
    rw [hclasses, segments_append, hcons, hall]
    simp only [List.append_assoc, List.cons_append]

theorem FirstNamed.getElem?_prompts (before after : List ClassRecord) :
    ((segments space (before ++ classes ++ after)).map Segment.prompt)[
      (segments space before).length + n]? = some g.prompt := by
  obtain ⟨us, vs, hsegments, rfl⟩ := h.segments_eq
  rw [segments_append, segments_append, hsegments, List.getElem?_map, List.append_assoc,
    List.getElem?_append_right (Nat.le_add_right _ _), Nat.add_sub_cancel_left, List.append_assoc,
    List.getElem?_append_right (Nat.le_refl _), Nat.sub_self]
  rfl

end

namespace CommandLine

/-! ### Showing a prompt -/

theorem isText_iff (s : String) (v : Value) : isText s v = true ↔ v = .text s := by
  cases v <;> simp [isText]

theorem find?_isText_iff {α : Type} (name : α → Value) (s : String) (l : List α) (a : α) :
    l.find? (fun b => isText s (name b)) = some a ↔
      name a = .text s ∧ ∃ front back, l = front ++ a :: back ∧ ∀ b ∈ front, name b ≠ .text s := by
  rw [List.find?_eq_some_iff_append, isText_iff]
  simp only [Bool.not_eq_true', ← Bool.not_eq_true, isText_iff, ne_eq]

theorem unlines_singleton (line : String) : unlines [line] = line ++ "\n" := by
  simp [unlines]

section

variable (settings : Settings) {classes : List ClassRecord} (path : String) {className : String}
  {method : Option String} (s : Session)

theorem showPrompt_firstNamed {n : Nat} {g : Segment}
    (h : FirstNamed settings.project.space classes className method n g) :
    ∃ s', showPrompt settings classes path className method s = (.ok 0, s') ∧
      s'.printed = s.printed ++ Text.unsteered (g.prompt ++ "\n") := by
  rw [← unlines_singleton]
  cases h with
  | ofClass hclasses hfront hname =>
    have hfind := (find?_isText_iff _ _ classes _).2 ⟨hname, _, _, hclasses, hfront⟩
    rw [showPrompt, hfind]
    exact ⟨_, rfl, rfl⟩
  | ofMethod hclasses hfront hname hmethods hbefore hmethod =>
    have hfind := (find?_isText_iff _ _ classes _).2 ⟨hname, _, _, hclasses, hfront⟩
    have hfind' := (find?_isText_iff _ _ _ _).2 ⟨hmethod, _, _, hmethods, hbefore⟩
    rw [showPrompt, hfind]
    simp only [segmentOf, hfind']
    exact ⟨_, rfl, rfl⟩

theorem showPrompt_unnamed
    (h : ∀ n g, ¬ FirstNamed settings.project.space classes className method n g) :
    ∃ s', showPrompt settings classes path className method s = (.ok 1, s') ∧
      s'.printed = s.printed := by
  rw [showPrompt]
  cases hfind : classes.find? fun c => isText className c.name with
  | none => exact ⟨_, rfl, rfl⟩
  | some c =>
    obtain ⟨hname, front, back, hclasses, hfront⟩ := (find?_isText_iff _ _ classes c).1 hfind
    cases method with
    | none => exact absurd (.ofClass hclasses hfront hname) (h _ _)
    | some method =>
      cases hfind' : c.methods.find? fun m => isText method m.name with
      | none =>
        simp only [segmentOf, hfind']
        exact ⟨_, rfl, rfl⟩
      | some m =>
        obtain ⟨hmethod, before, after, hmethods, hbefore⟩ :=
          (find?_isText_iff _ _ c.methods m).1 hfind'
        exact absurd (.ofMethod hclasses hfront hname hmethods hbefore hmethod) (h _ _)

end

/-! ### The two commands -/

/-- The arguments that name a method, if there is one. -/
def methodArguments : Option String → List String
  | none => []
  | some method => [Switch.method.long, method]

theorem ofArguments_prompt {path className : String} (hpath : IsWord path)
    (hclass : IsWord className) (method : Option String) :
    Given.ofArguments Command.prompt.switches true (path :: className :: methodArguments method) =
      .ok ⟨(method.map fun m => (Switch.method, m)).toList, [path, className]⟩ := by
  rw [Given.ofArguments, readGiven_word _ _ hpath, if_pos rfl, readGiven_word _ _ hclass, if_pos rfl]
  cases method with
  | none => rfl
  | some method =>
    have hmethod : readArgument Command.prompt.switches Switch.method.long =
        .ok (.switches [] (some ⟨Switch.method.long, .method⟩)) := rfl
    rw [methodArguments, readGiven_valued hmethod]
    rfl

theorem readRequest_prompt {t : FileTree} {path className : String} (hpath : IsWord path)
    (hclass : IsWord className) (hnull : Pipeline.hasNull path = false) {content : List UInt8}
    (hread : t.read path = .ok content) (method : Option String) :
    readRequest t .prompt (path :: className :: methodArguments method) =
      .ok (.prompt path className method) := by
  obtain ⟨place, name, hgoal⟩ := FileTree.goal_of_read hread
  have hcheck : checkFile t Command.prompt.page "FILE_PATH" path = .ok () := by
    rw [checkFile, look_eq hnull, hgoal]
    rfl
  have hgiven : readFor Command.prompt.page Command.prompt.switches true
      (path :: className :: methodArguments method) =
      .ok ⟨(method.map fun m => (Switch.method, m)).toList, [path, className]⟩ := by
    rw [readFor, ofArguments_prompt hpath hclass]
    cases method <;> rfl
  have hwords : readFileAndClass t Command.prompt.page [path, className] = .ok (path, className) := by
    simp only [readFileAndClass, bind, Except.bind, hcheck]
    rfl
  rw [readRequest, hgiven]
  cases method with
  | none =>
    simp only [bind, Except.bind, hwords]
    rfl
  | some method =>
    simp only [bind, Except.bind, hwords]
    rfl

theorem readRequest_generate (t : FileTree) :
    readRequest t .generate [] = .ok (.generate "" "" "" false) := rfl

end CommandLine

/-! ### What is sent -/

namespace Pipeline

/-- The prompts that were sent when a document was asked for are the first ones of those for its
segments, and all of them if nothing ends the assembly. -/
theorem sent_document (client : Client σ) (s : Settings) (files : List String)
    (classes : List ClassRecord) (w : Workplace) (x : σ) :
    let prompts := (segments s.project.space classes).map Segment.prompt
    let sent := (document (.fixed client.recorded) s files classes w ([], x)).state.1
    sent <+: prompts ∧ (client.FailsByBackend → s.backend.failFast = false →
      (∃ path, s.output.path = .text path) → sent = prompts) := by
  intro prompts sent
  have hsent : sent = if s.output.path.path.isOk then
      (assemble client s.project s.project.space s.backend.failFast classes x).1.prompts else [] := by
    simp only [sent, document]
    cases s.output.path.path with
    | error e => rfl
    | ok path =>
      simp only [Connector.fixed, assemble_recorded, List.nil_append]
      split
      · rfl
      · split <;> rfl
  rw [hsent]
  constructor
  · split
    · exact prompts_askAbout_prefix client s.backend.failFast (segments s.project.space classes) x
    · exact List.nil_prefix
  · rintro hclient hgoes ⟨path, hpath⟩
    obtain ⟨logs, hasked⟩ := askAbout_false hclient (segments s.project.space classes) x
    have hok : s.output.path.path.isOk = true := by rw [hpath]; rfl
    rw [if_pos hok, hgoes, assemble, hasked]

theorem run_of_extract (connect : Connector σ) (s : Settings) (w : Workplace) (x : σ)
    {files : List String} {logs : List LogRecord} (hfound : discover s.source w.tree = .ok (files, logs))
    {classes : List ClassRecord}
    (hclasses : (extract Grammar.registry (w.noteAll (logs ++ [foundLog files s.source.root]))
      files).1 = .ok classes) :
    ∃ w', run connect s false w x = document connect s files classes w' x := by
  rcases hextract : extract Grammar.registry (w.noteAll (logs ++ [foundLog files s.source.root]))
    files with ⟨result, w'⟩
  rw [hextract] at hclasses
  obtain rfl : result = .ok classes := hclasses
  rw [← Workplace.noteAll_noteAll, ← Workplace.note_eq_noteAll] at hextract
  refine ⟨w', ?_⟩
  rw [run, hfound]
  simp only [hextract, Bool.false_eq_true, if_false]

end Pipeline

namespace CommandLine

open FileTree Pipeline

theorem state_generate (connect : Connector σ) (settings : Settings) (dry : Bool) (s : Session)
    (x : σ) :
    (generate connect settings dry s x).state = (Pipeline.run connect settings dry s.place x).state := by
  rw [generate]
  split
  · rfl
  · rfl
  · rfl

section

variable {settings : Settings} {s : Session} {files : List String} {logs : List LogRecord}
  (hfound : discover settings.source s.place.tree = .ok (files, logs))
  (hnull : ∀ path ∈ files, hasNull path = false) {path : String} (hpath : path ∈ files)
  (hlog : Unlogged s.place path)
include hfound hnull hpath hlog

/-- What is sent when the document is written is asked about the classes of a file between those of
others. -/
theorem sent_generate :
    ∃ before after : List ClassRecord, ∀ {σ : Type} (client : Client σ) (x : σ),
      let classes := before ++ Registry.share Grammar.registry s.place.tree path ++ after
      let prompts := (segments settings.project.space classes).map Segment.prompt
      let sent := (perform (.fixed client.recorded) settings s ([], x)
        (.generate "" "" "" false)).state.1
      sent <+: prompts ∧ (client.FailsByBackend → settings.backend.failFast = false →
        (∃ path, settings.output.path = .text path) → sent = prompts) := by
  obtain ⟨before, after, hclasses⟩ := extract_share Grammar.registry
    (s.place.noteAll (logs ++ [foundLog files settings.source.root])) hnull hpath (hlog.noteAll _)
  rw [share_noteAll Grammar.registry hlog] at hclasses
  refine ⟨before, after, ?_⟩
  intro σ client x
  obtain ⟨w, hrun⟩ := run_of_extract (.fixed client.recorded) settings s.place ([], x) hfound hclasses
  have hstate : (perform (.fixed client.recorded) settings s ([], x)
      (.generate "" "" "" false)).state = (document (.fixed client.recorded) settings files
        (before ++ Registry.share Grammar.registry s.place.tree path ++ after) w ([], x)).state := by
    have hperform := state_generate (.fixed client.recorded) settings false s ([], x)
    rw [hrun] at hperform
    exact hperform
  rw [hstate]
  exact sent_document client settings files _ w x

end

theorem perform_prompt (connect : Connector σ) (settings : Settings) (s : Session) {path : String}
    (hnull : hasNull path = false) (className : String) (method : Option String) (x : σ) :
    ∃ s₁, s₁.printed = s.printed ∧
      perform connect settings s x (.prompt path className method) =
        ⟨(showPrompt settings (Registry.share Grammar.registry s.place.tree path) path className method
            s₁).1,
          (showPrompt settings (Registry.share Grammar.registry s.place.tree path) path className method
            s₁).2, x⟩ := by
  obtain ⟨logs, hfile, -⟩ := Registry.extractFile_reports Grammar.registry s.place.tree hnull
  refine ⟨s.noteAll logs, rfl, ?_⟩
  rw [perform]
  -- its equation would be proved by comparing grammars
  delta prompt
  rw [hfile]

/-- For a file that discovery finds, that can be read, and that the log is not written to, the prompt
that is shown for a class, or for a method of it, is the one that is sent for the first class of the
file with the name, or for its first method with the name, when the document is written: the prompts
that are sent are the first ones of a list in which it has a place. It is shown without what would
steer a terminal. Where there is no such class or method, nothing is shown and the status is one. To
show it no backend is asked. -/
theorem prompt_shown_as_sent {around : Surroundings} {config : Option String} {t : FileTree}
    {settings : Settings} {s : Session}
    (hconfig : ∀ path, config = some path → hasNull path = false)
    (hopened : opened around config t = some (settings, s))
    {files : List String} {logs : List LogRecord}
    (hfound : discover settings.source s.place.tree = .ok (files, logs))
    (hnull : ∀ path ∈ files, hasNull path = false) {path : String} (hpath : path ∈ files)
    {content : List UInt8} (hread : s.place.tree.read path = .ok content)
    (hlog : Unlogged s.place path) {className : String} (hpathWord : IsWord path)
    (hclassWord : IsWord className) (method : Option String) :
    ∃ before after : List ClassRecord,
      let space := settings.project.space
      let classes := Registry.share Grammar.registry s.place.tree path
      let prompts := (segments space (before ++ classes ++ after)).map Segment.prompt
      let arguments := configArguments config ++
        Command.prompt.name :: path :: className :: methodArguments method
      (∀ (σ : Type) (client : Client σ) (x : σ),
        let sent := (run (.fixed client.recorded) around
          (configArguments config ++ [Command.generate.name]) t ([], x)).state.1
        sent <+: prompts ∧ (client.FailsByBackend → settings.backend.failFast = false →
          (∃ path, settings.output.path = .text path) → sent = prompts)) ∧
      (∀ n g, FirstNamed space classes className method n g →
        prompts[(segments space before).length + n]? = some g.prompt ∧
        ∀ (σ : Type) (connect : Connector σ) (x : σ), ∃ place,
          run connect around arguments t x =
            ⟨.ok 0, ⟨Text.unsteered (g.prompt ++ "\n"), place⟩, x⟩ ∧
          ('\x1b' ∉ g.prompt.toList → Text.unsteered (g.prompt ++ "\n") = g.prompt ++ "\n")) ∧
      ((∀ n g, ¬ FirstNamed space classes className method n g) →
        ∀ (σ : Type) (connect : Connector σ) (x : σ), ∃ place,
          run connect around arguments t x = ⟨.ok 1, ⟨"", place⟩, x⟩) := by
  -- the classes of the file stand together among all classes of the run
  obtain ⟨before, after, hsent⟩ := sent_generate hfound hnull hpath hlog
  have hprinted := printed_of_opened hopened
  have hrequest :=
    readRequest_prompt hpathWord hclassWord (hnull path hpath) hread method
  refine ⟨before, after, ?_, ?_, ?_⟩
  · intro σ client x
    -- the prompts that are sent
    have hrun := run_command hconfig hopened (.fixed client.recorded) .generate [] ([], x)
      (readRequest_generate s.place.tree)
    dsimp only
    rw [hrun]
    exact hsent client x
  · intro n g hg
    -- the prompt that is shown, and its place among those
    refine ⟨hg.getElem?_prompts before after, ?_⟩
    intro σ connect x
    have hrun := run_command hconfig hopened connect .prompt _ x hrequest
    obtain ⟨s₁, hs₁, hperform⟩ :=
      perform_prompt connect settings s (hnull path hpath) className method x
    obtain ⟨s', hshow, hs'⟩ := showPrompt_firstNamed settings path s₁ hg
    rw [hs₁, hprinted, String.empty_append] at hs'
    rw [hperform, hshow] at hrun
    refine ⟨s'.place, ?_, ?_⟩
    · rw [hrun, ← hs']
    · intro hescape
      refine Text.unsteered_eq_self ?_
      rw [String.toList_append, List.mem_append, not_or]
      exact ⟨hescape, by decide⟩
  · -- no class or method of the name
    intro hnone σ connect x
    have hrun := run_command hconfig hopened connect .prompt _ x hrequest
    obtain ⟨s₁, hs₁, hperform⟩ :=
      perform_prompt connect settings s (hnull path hpath) className method x
    obtain ⟨s', hshow, hs'⟩ := showPrompt_unnamed settings path s₁ hnone
    rw [hs₁, hprinted] at hs'
    rw [hperform, hshow] at hrun
    exact ⟨s'.place, by rw [hrun, ← hs']⟩

/-- A tree with one class in a source file, and what its comment says. -/
def commentedTree (comment : String) : FileTree :=
  [("src", .dir [("a.php", .file (Utf8.encode ("<?php\n/** " ++ comment ++ " */\nclass A {}\n")))])]

def atHome : Surroundings := ⟨"/home", ""⟩

/-- Whether what commands start from has the class in its place, for a run that goes on. -/
def showsClass (begun : Settings × Session) : Bool :=
  match discover begun.1.source begun.2.place.tree with
  | .error _ => false
  | .ok (files, _) =>
    files.contains "src/a.php" && files.all (fun path => !hasNull path) &&
      (begun.2.place.tree.read "src/a.php").isOk && decide (Unlogged begun.2.place "src/a.php") &&
      ((Registry.share Grammar.registry begun.2.place.tree "src/a.php").find?
        fun c => isText "A" c.name).isSome &&
      !begun.1.backend.failFast && isText "DOCUMENTATION.md" begun.1.output.path

/-- The prompt that is shown for the class is sent for it. -/
theorem prompt_shown_commented :
    ∃ (g : Segment) (place : Workplace) (n : Nat),
      run (.fixed everySecondFails) atHome ["prompt", "src/a.php", "A"] (commentedTree "a") 0 =
        ⟨.ok 0, ⟨Text.unsteered (g.prompt ++ "\n"), place⟩, 0⟩ ∧
      (run (.fixed everySecondFails.recorded) atHome ["generate"] (commentedTree "a")
        ([], 0)).state.1[n]? = some g.prompt := by
  have hshows : (opened atHome none (commentedTree "a")).map showsClass = some true := by
    decide +kernel
  obtain ⟨⟨settings, s⟩, hopened, hshows⟩ := Option.map_eq_some_iff.1 hshows
  rw [showsClass] at hshows
  split at hshows
  · cases hshows
  rename_i files logs hfound
  simp only [Bool.and_eq_true, List.contains_eq_mem, decide_eq_true_eq, List.all_eq_true,
    Bool.not_eq_true'] at hshows
  obtain ⟨⟨⟨⟨⟨⟨hpath, hnull⟩, hread⟩, hlog⟩, hclass⟩, hgoes⟩, houtput⟩ := hshows
  obtain ⟨content, hread⟩ := exists_ok_of_isOk hread
  obtain ⟨c, hc⟩ := Option.isSome_iff_exists.1 hclass
  obtain ⟨hname, front, back, hclasses, hfront⟩ := (find?_isText_iff _ _ _ c).1 hc
  have hword : IsWord "src/a.php" ∧ IsWord "A" := by
    constructor <;> intro d ds <;> simp
  obtain ⟨before, after, hsent, hshown, -⟩ := prompt_shown_as_sent (fun _ h => by cases h) hopened
    hfound hnull hpath hread hlog hword.1 hword.2 none
  obtain ⟨hat, hrun⟩ := hshown _ _ (.ofClass hclasses hfront hname)
  obtain ⟨place, hrun, -⟩ := hrun Nat (.fixed everySecondFails) 0
  have hall := (hsent Nat everySecondFails 0).2 everySecondFails_failsByBackend hgoes
    ⟨_, (isText_iff _ _).1 houtput⟩
  generalize (segments settings.project.space before).length +
    (segments settings.project.space front).length = n at hat
  refine ⟨_, place, n, hrun, ?_⟩
  rw [← hat]
  exact congrArg (fun prompts => prompts[n]?) hall

/-- A session whose log goes into the source file. -/
def loggedSession : Session :=
  (setUpLogging (loggingTo "src/a.php") "/home" { place := ⟨commentedTree "a", {}⟩ }).2

/-- What would steer a terminal is sent and not shown; and with a log in the source file the prompt is
shown, but when the document is written there is no class any more. -/
theorem prompt_not_as_sent :
    (let sent := (run (.fixed everySecondFails.recorded) atHome ["generate"]
        (commentedTree "\x1b[31m") ([], 0)).state.1
     sent ≠ [] ∧ ∀ prompt ∈ sent,
        (run (.fixed everySecondFails) atHome ["prompt", "src/a.php", "A"]
          (commentedTree "\x1b[31m") 0).session.printed ≠ prompt ++ "\n") ∧
      (perform (.fixed everySecondFails) (loggingTo "src/a.php") loggedSession 0
        (.prompt "src/a.php" "A" none)).ending.toOption = some 0 ∧
      (perform (.fixed everySecondFails.recorded) (loggingTo "src/a.php") loggedSession ([], 0)
        (.generate "" "" "" false)).state.1 = [] := by
  decide +kernel

end CommandLine

end Docent
