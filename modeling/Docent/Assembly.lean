import Docent.Completion.Basic
import Docent.Document
import Docent.Prompt
import Docent.Skeleton

/-!
# Assembly of the document

Every class and every method of the records is a segment: a skeleton to ask about and a heading to
put the reply under. The segments are asked about one after the other. A segment that the backend
fails on gets a placeholder, unless the run is to end with the first failure.
-/

namespace Docent

/-- What is asked about and where the reply goes. -/
structure Segment where
  kind : SegmentKind
  name : Value
  language : Language
  code : String
deriving Repr

namespace Segment

def ofClass (default : Value) (c : ClassRecord) : Segment :=
  ⟨.ofClass, c.name, c.language, classSkeleton c default⟩

def ofMethod (language : Language) (m : MethodRecord) : Segment :=
  ⟨.ofMethod, m.name, language, methodSkeleton m language⟩

def allOf (default : Value) (c : ClassRecord) : List Segment :=
  ofClass default c :: c.methods.map (ofMethod c.language)

def prompt (s : Segment) : String := renderPrompt s.kind s.language s.name.display s.code

def heading (s : Segment) : String :=
  match s.kind with
  | .ofMethod => methodHeading s.name.display
  | _ => classHeading s.name.display

end Segment

def assemblyLogName : String := "src.generators.assembler"

def Segment.announcement (s : Segment) : LogRecord :=
  match s.kind with
  | .ofMethod =>
    .info assemblyLogName s!"Generating documentation for method: {s.name.display}()"
  | _ => .info assemblyLogName s!"Generating documentation for class: {s.name.display}"

def segments (default : Value) (classes : List ClassRecord) : List Segment :=
  classes.flatMap (Segment.allOf default)

/-- A section whose text could not be had. -/
structure SectionFailure where
  heading : String
  reason : String
deriving DecidableEq, Repr

def placeholder (reason : String) : String :=
  "_Documentation could not be generated: " ++ reason ++ "_"

def failureLog (heading : String) (e : BackendError) : LogRecord :=
  .error assemblyLogName s!"Documentation for {heading} failed: {e.message}"

/-- What comes of asking about segments: the texts of the sections, the failures among them, the
prompts that were sent, what is logged, and what ended it early, if anything. -/
structure Replies where
  bodies : List String := []
  failures : List SectionFailure := []
  prompts : List String := []
  logs : List LogRecord := []
  stopped : Option CompletionFailure := none

namespace Replies

/-- Puts a segment with its body before the replies to others. -/
def cons (s : Segment) (logs : List LogRecord) (body : String) (failure : List SectionFailure)
    (rest : Replies) : Replies where
  bodies := body :: rest.bodies
  failures := failure ++ rest.failures
  prompts := s.prompt :: rest.prompts
  logs := logs ++ rest.logs
  stopped := rest.stopped

def stop (s : Segment) (logs : List LogRecord) (failure : CompletionFailure) : Replies where
  prompts := [s.prompt]
  logs
  stopped := some failure

end Replies

def Segment.opening (s : Segment) : List LogRecord := [s.announcement, promptLog s.kind s.prompt]

/-- Asks about segments in order; with `failFast`, up to the first failure of the backend. -/
def askAbout {σ : Type} (client : Client σ) (failFast : Bool) : List Segment → σ → Replies × σ
  | [], s => ({}, s)
  | g :: gs, s =>
    match client.complete g.prompt s with
    | (⟨.ok text, logs⟩, s) =>
      let (rest, s) := askAbout client failFast gs s
      (.cons g (g.opening ++ logs) text [] rest, s)
    | (⟨.error (.backend e), logs⟩, s) =>
      if failFast then (.stop g (g.opening ++ logs) (.backend e), s)
      else
        let (rest, s) := askAbout client failFast gs s
        (.cons g (g.opening ++ logs ++ [failureLog g.heading e]) (placeholder e.message)
          [⟨g.heading, e.message⟩] rest, s)
    | (⟨.error f, logs⟩, s) => (.stop g (g.opening ++ logs) f, s)

structure Assembly where
  content : String
  classCount : Nat
  methodCount : Nat
  failures : List SectionFailure
deriving DecidableEq, Repr

def sectionsOf (gs : List Segment) (bodies : List String) : List String :=
  List.zipWith (fun g body => renderSection g.heading body) gs bodies

def methodTotal (classes : List ClassRecord) : Nat :=
  (classes.flatMap ClassRecord.methods).length

/-- What comes of an assembly: the document or the failure that ended it, the prompts that were
sent, and what is logged. -/
structure AssemblyRun where
  outcome : Except CompletionFailure Assembly
  prompts : List String
  logs : List LogRecord

def assemble {σ : Type} (client : Client σ) (project : ProjectSettings) (default : Value)
    (failFast : Bool) (classes : List ClassRecord) (s : σ) : AssemblyRun × σ :=
  let gs := segments default classes
  let (replies, s) := askAbout client failFast gs s
  let outcome :=
    match replies.stopped with
    | some f => .error f
    | none =>
      .ok {
        content := renderDocument project (sectionsOf gs replies.bodies)
        classCount := classes.length
        methodCount := methodTotal classes
        failures := replies.failures }
  (⟨outcome, replies.prompts, replies.logs⟩, s)

end Docent
