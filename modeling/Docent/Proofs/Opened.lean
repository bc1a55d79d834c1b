import Docent.CommandLine.Run
import Docent.Proofs.Course
import Docent.Proofs.Follow

/-!
# What commands start from

Before a command is done, settings are loaded and logging is set up. Main statement: whatever the
command and its arguments, it starts from the same settings and the same session.
-/

namespace Docent.CommandLine

open FileTree

variable {σ : Type}

/-! ### The arguments before a command -/

/-- The arguments that name the file of the settings, if there is one. -/
def configArguments : Option String → List String
  | none => []
  | some path => [Switch.config.long, path]

/-- Words that are not written like switches: a dash by itself is a word. -/
def IsWord (arg : String) : Prop := ∀ c cs, arg.toList ≠ '-' :: c :: cs

theorem readArgument_isWord (known : List Switch) {arg : String} (h : IsWord arg) :
    readArgument known arg = .ok .word := by
  unfold readArgument
  split
  · rename_i hdashes
    exact absurd hdashes (h '-' [])
  · rename_i c cs _ hdash
    exact absurd hdash (h c cs)
  · rfl

theorem isWord_name (c : Command) : IsWord c.name := by
  intro d ds
  cases c <;> simp [Command.name]

theorem readGiven_word (known : List Switch) (mixed : Bool) {arg : String} (h : IsWord arg)
    (args : List String) :
    readGiven known mixed none (arg :: args) =
      if mixed then (readGiven known mixed none args).map (Given.withWord arg)
      else .ok { words := arg :: args } := by
  rw [readGiven, readArgument_isWord known h]

theorem readGiven_valued {known : List Switch} {s : Switch}
    (h : readArgument known s.long = .ok (.switches [] (some ⟨s.long, s⟩))) (mixed : Bool)
    (value : String) (args : List String) :
    readGiven known mixed none (s.long :: value :: args) =
      (readGiven known mixed none args).map (Given.withSwitch s value) := by
  rw [readGiven, h]
  simp only [readGiven]
  cases readGiven known mixed none args <;> rfl

/-- The program is given the path to the settings, and all from the command on as words. -/
def programGiven (config : Option String) (c : Command) (rest : List String) : Given where
  switches := (config.map fun path => (Switch.config, path)).toList
  words := c.name :: rest

theorem ofArguments_program (config : Option String) (c : Command) (rest : List String) :
    Given.ofArguments programSwitches false (configArguments config ++ c.name :: rest) =
      .ok (programGiven config c rest) := by
  have hwords := readGiven_word programSwitches false (isWord_name c) rest
  rw [if_neg Bool.false_ne_true] at hwords
  cases config with
  | none => exact hwords
  | some path =>
    have hconfig : readArgument programSwitches Switch.config.long =
        .ok (.switches [] (some ⟨Switch.config.long, .config⟩)) := rfl
    have hread := readGiven_valued hconfig false path (c.name :: rest)
    rw [hwords] at hread
    exact hread

/-! ### Paths that are looked at -/

theorem look_eq {t : FileTree} {path : String} (h : Pipeline.hasNull path = false) :
    look t path = .ok (match t.goal path with
      | .ok (.free ..) | .error _ => none
      | .ok goal => some goal) := by
  rw [Pipeline.hasNull] at h
  rw [look, h]
  simp only [Bool.false_eq_true, if_false]
  rcases t.goal path with _ | (_ | _ | _) <;> rfl

theorem checkNoDirectory_of_load {t : FileTree} {path key : String} {settings : Settings}
    (hpath : Pipeline.hasNull path = false) (h : (Settings.load t path key).result = .ok settings)
    (p : Page) (name : String) : checkNoDirectory t p name path = .ok () := by
  have hnot : ∀ place, t.goal path ≠ .ok (.directory place) := by
    intro place hplace
    have hdir := isDir_text hplace
    have hempty : path ≠ "" := by
      rintro rfl
      cases hplace
    obtain ⟨d, hd⟩ : ∃ d, t.goal (Route.ofText path).text = .ok (.directory d) := by
      rw [isDir] at hdir
      split at hdir
      · exact ⟨_, ‹_›⟩
      · cases hdir
    have hexists : t.exists? (Route.ofText path).text = true := by
      rw [exists?, hd]
    have hread : Settings.readDocument t (Route.ofText path).text =
        .error (.file ⟨.isADirectory, (Route.ofText path).text⟩) := by
      rw [Settings.readDocument, FileTree.read, hd]
      rfl
    rw [Settings.load, if_neg hempty] at h
    simp only [hexists, if_true, hread] at h
    cases h
  rw [checkNoDirectory, look_eq hpath]
  rcases hgoal : t.goal path with _ | (place | _ | _)
  · rfl
  · exact absurd hgoal (hnot place)
  · rfl
  · rfl

/-! ### Settings and session -/

/-- The settings and the session that every command starts from, if settings can be loaded and logging
can be set up. -/
def opened (around : Surroundings) (config : Option String) (t : FileTree) :
    Option (Settings × Session) :=
  let loading := Settings.load t (config.getD "") around.key
  loading.result.toOption.bind fun settings =>
    match setUpLogging settings around.home
      (Session.noteAll { place := ⟨t, {}⟩ } loading.logs) with
    | (some _, _) => none
    | (none, s) => some (settings, s)

section

variable {around : Surroundings} {config : Option String} {t : FileTree} {settings : Settings}
  {s : Session} (hconfig : ∀ path, config = some path → Pipeline.hasNull path = false)
  (hopened : opened around config t = some (settings, s))
include hopened

theorem load_of_opened :
    (Settings.load t (config.getD "") around.key).result = .ok settings ∧
      setUpLogging settings around.home (Session.noteAll { place := ⟨t, {}⟩ }
        (Settings.load t (config.getD "") around.key).logs) = (none, s) := by
  simp only [opened] at hopened
  obtain ⟨settings', hload, hset⟩ := Option.bind_eq_some_iff.1 hopened
  have hresult : (Settings.load t (config.getD "") around.key).result = .ok settings' := by
    cases hresult : (Settings.load t (config.getD "") around.key).result with
    | error e =>
      rw [hresult] at hload
      cases hload
    | ok settings'' =>
      rw [hresult] at hload
      cases hload
      rfl
  split at hset
  · cases hset
  · rename_i hmade
    cases hset
    exact ⟨hresult, hmade⟩

theorem printed_of_opened : s.printed = "" := by
  obtain ⟨-, hset⟩ := load_of_opened hopened
  have hs : (setUpLogging settings around.home (Session.noteAll { place := ⟨t, {}⟩ }
      (Settings.load t (config.getD "") around.key).logs)).2 = s := congrArg Prod.snd hset
  rw [← hs]
  rfl

include hconfig

theorem readProgram_command (c : Command) (rest : List String) :
    readProgram t (configArguments config ++ c.name :: rest) = .ok (programGiven config c rest) := by
  obtain ⟨hload, -⟩ := load_of_opened hopened
  have hread : readFor programPage programSwitches false
      (configArguments config ++ c.name :: rest) = .ok (programGiven config c rest) := by
    rw [readFor, ofArguments_program]
    cases config <;> rfl
  rw [readProgram, hread]
  cases config with
  | none => rfl
  | some path =>
    have hcheck := checkNoDirectory_of_load (hconfig path rfl) hload programPage Switch.config.long
    have hvalue : (programGiven (some path) c rest).value? .config = some path := rfl
    simp only [bind, Except.bind, hvalue, hcheck]
    rfl

theorem readOpening_command (c : Command) (rest : List String) :
    readOpening t (configArguments config ++ c.name :: rest) = .ok ⟨config.getD "", c, rest⟩ := by
  have hname : Command.ofName? c.name = some c := Command.ofName?_eq_some_iff.2 rfl
  have hsome : configArguments config ++ c.name :: rest ≠ [] := by simp
  rw [readOpening, if_neg hsome, readProgram_command hconfig hopened c rest]
  cases config <;> simp only [bind, Except.bind, programGiven, hname] <;> rfl

theorem run_command (connect : Pipeline.Connector σ) (c : Command) (rest : List String) (x : σ)
    {request : Request} (hrequest : readRequest s.place.tree c rest = .ok request) :
    run connect around (configArguments config ++ c.name :: rest) t x =
      perform connect settings s x request := by
  obtain ⟨hload, hset⟩ := load_of_opened hopened
  rw [run, readOpening_command hconfig hopened c rest]
  simp only [start, hload, enter, hset, hrequest]

end

end Docent.CommandLine
