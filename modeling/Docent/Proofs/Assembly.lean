import Docent.Assembly
import Mathlib.Algebra.GroupWithZero.Nat

/-!
# What an assembly asks for and what it writes

A conversation sends prompts to a client one after the other. Main statement: an assembly that goes
on after failures is one conversation, about every class and then its methods in order, and its
document holds one section for each reply.
-/

namespace Docent

variable {σ : Type}

/-! ### Conversations -/

/-- What a client replies to prompts that are sent one after the other, and the state it is left
in. -/
def Client.converse (client : Client σ) :
    List String → σ → List (Except CompletionFailure String) × σ
  | [], s => ([], s)
  | prompt :: prompts, s =>
    let (answer, s) := client.complete prompt s
    let (replies, s) := client.converse prompts s
    (answer.outcome :: replies, s)

/-- Every reply of the client is a text or a failure of the backend. -/
def Client.FailsByBackend (client : Client σ) : Prop :=
  ∀ prompt s f, (client.complete prompt s).1.outcome = .error f → f.isBackend = true

/-- A client that also keeps the prompts it has been sent. -/
def Client.recorded (client : Client σ) : Client (List String × σ) where
  complete prompt s :=
    let (answer, s') := client.complete prompt s.2
    (answer, (s.1 ++ [prompt], s'))

theorem converse_cons (client : Client σ) (prompt : String) (prompts : List String) (s : σ) :
    client.converse (prompt :: prompts) s =
      ((client.complete prompt s).1.outcome ::
          (client.converse prompts (client.complete prompt s).2).1,
        (client.converse prompts (client.complete prompt s).2).2) := rfl

theorem length_converse (client : Client σ) (prompts : List String) (s : σ) :
    (client.converse prompts s).1.length = prompts.length := by
  induction prompts generalizing s with
  | nil => rfl
  | cons prompt prompts ih => rw [converse_cons, List.length_cons, List.length_cons, ih]

theorem converse_recorded (client : Client σ) (prompts seen : List String) (s : σ) :
    client.recorded.converse prompts (seen, s) =
      ((client.converse prompts s).1, (seen ++ prompts, (client.converse prompts s).2)) := by
  induction prompts generalizing seen s with
  | nil => simp [Client.converse]
  | cons prompt prompts ih =>
    have hstep : client.recorded.complete prompt (seen, s) =
        ((client.complete prompt s).1, (seen ++ [prompt], (client.complete prompt s).2)) := rfl
    rw [converse_cons, converse_cons, hstep, ih]
    simp only [List.append_assoc, List.singleton_append]

theorem recorded_failsByBackend {client : Client σ} (h : client.FailsByBackend) :
    client.recorded.FailsByBackend := fun prompt s => h prompt s.2

/-! ### Requests -/

/-- A section that is asked for: its heading, and the prompt for its text. -/
structure Request where
  heading : String
  prompt : String
deriving DecidableEq, Repr

/-- What is asked for about a class: the class by its skeleton, then each method by its own. -/
def ClassRecord.requests (default : Value) (c : ClassRecord) : List Request :=
  ⟨classHeading c.name.display,
      renderPrompt .ofClass c.language c.name.display (classSkeleton c default)⟩ ::
    c.methods.map fun m =>
      ⟨methodHeading m.name.display,
        renderPrompt .ofMethod c.language m.name.display (methodSkeleton m c.language)⟩

/-- What is asked for about classes, in order. -/
def requests (default : Value) (classes : List ClassRecord) : List Request :=
  classes.flatMap (ClassRecord.requests default)

def Segment.request (g : Segment) : Request := ⟨g.heading, g.prompt⟩

theorem map_request_segments (default : Value) (classes : List ClassRecord) :
    (segments default classes).map Segment.request = requests default classes := by
  simp only [segments, requests, List.map_flatMap]
  congr 1
  funext c
  simp only [Segment.allOf, ClassRecord.requests, List.map_cons, List.map_map]
  rfl

theorem length_methods_flatMap (classes : List ClassRecord) :
    methodTotal classes = (classes.map fun c => c.methods.length).sum := by
  simp only [methodTotal, List.length_flatMap]

/-! ### Replies as text -/

/-- The text of a section: the reply as it is, or what stands in its place. -/
def bodyOf : Except CompletionFailure String → String
  | .ok text => text
  | .error f => placeholder f.message

/-- What is listed of a reply under a heading, if it is a failure. -/
def failureOf (heading : String) : Except CompletionFailure String → Option SectionFailure
  | .ok _ => none
  | .error f => some ⟨heading, f.message⟩

/-- The failures among the replies to requests, each under its own heading. -/
def failuresOf (rs : List Request) (replies : List (Except CompletionFailure String)) :
    List SectionFailure :=
  (rs.zip replies).filterMap fun (r, reply) => failureOf r.heading reply

theorem failuresOf_cons (r : Request) (rs : List Request)
    (reply : Except CompletionFailure String)
    (replies : List (Except CompletionFailure String)) :
    failuresOf (r :: rs) (reply :: replies) =
      (failureOf r.heading reply).toList ++ failuresOf rs replies := by
  cases h : failureOf r.heading reply with
  | none => simp [failuresOf, h]
  | some f => simp [failuresOf, h]

/-! ### Asking without stopping -/

/-- Asking about segments is a conversation: its replies become the bodies and the failures, and
nothing ends it early. -/
theorem askAbout_false {client : Client σ} (hc : client.FailsByBackend) (gs : List Segment)
    (s : σ) :
    ∃ logs, askAbout client false gs s =
      (⟨(client.converse (gs.map Segment.prompt) s).1.map bodyOf,
          failuresOf (gs.map Segment.request) (client.converse (gs.map Segment.prompt) s).1,
          gs.map Segment.prompt, logs, none⟩,
        (client.converse (gs.map Segment.prompt) s).2) := by
  induction gs generalizing s with
  | nil => exact ⟨[], rfl⟩
  | cons g gs ih =>
    obtain ⟨logs, hrest⟩ := ih (client.complete g.prompt s).2
    rw [List.map_cons, List.map_cons, converse_cons, failuresOf_cons]
    rcases ha : client.complete g.prompt s with ⟨⟨outcome, here⟩, s'⟩
    rw [ha] at hrest
    cases outcome with
    | ok text =>
      refine ⟨g.opening ++ here ++ logs, ?_⟩
      simp only [askAbout, ha, hrest]
      rfl
    | error f =>
      cases f with
      | backend e =>
        refine ⟨g.opening ++ here ++ [failureLog g.heading e] ++ logs, ?_⟩
        simp only [askAbout, ha, hrest]
        rfl
      | broken | delayTooLong | unwaited =>
        -- the failures that would end the run early are ruled out by the client
        cases hc g.prompt s _ (congrArg (fun a => a.1.outcome) ha)

theorem sectionsOf_map_bodyOf (gs : List Segment)
    (replies : List (Except CompletionFailure String)) :
    sectionsOf gs (replies.map bodyOf) =
      List.zipWith (fun r reply => renderSection r.heading (bodyOf reply))
        (gs.map Segment.request) replies := by
  rw [sectionsOf, List.zipWith_map_left, List.zipWith_map_right]
  rfl

theorem assemble_false {client : Client σ} (hc : client.FailsByBackend)
    (project : ProjectSettings) (default : Value) (classes : List ClassRecord) (s : σ) :
    ∃ logs, assemble client project default false classes s =
      (⟨.ok {
            content := renderDocument project
              (List.zipWith (fun r reply => renderSection r.heading (bodyOf reply))
                (requests default classes)
                (client.converse ((requests default classes).map Request.prompt) s).1)
            classCount := classes.length
            methodCount := (classes.map fun c => c.methods.length).sum
            failures := failuresOf (requests default classes)
              (client.converse ((requests default classes).map Request.prompt) s).1 },
          (requests default classes).map Request.prompt, logs⟩,
        (client.converse ((requests default classes).map Request.prompt) s).2) := by
  obtain ⟨logs, hask⟩ := askAbout_false hc (segments default classes) s
  have hprompts : (segments default classes).map Segment.prompt =
      (requests default classes).map Request.prompt := by
    rw [← map_request_segments, List.map_map]
    rfl
  refine ⟨logs, ?_⟩
  simp only [assemble, hask, sectionsOf_map_bodyOf, map_request_segments, hprompts,
    length_methods_flatMap]

/-- An assembly that goes on after failures returns a document. The prompts that reach the client
are those of every class and then of its methods, in order and each once. The document is the
introduction and the table of contents followed by one section for each prompt, under the heading
of that class or method, with the reply as it is or the placeholder; the counts are those of the
classes and methods, and the failures are the replies that failed, in order. -/
theorem assemble_eq_conversation (client : Client σ) (hc : client.FailsByBackend)
    (project : ProjectSettings) (default : Value) (classes : List ClassRecord) (s : σ) :
    let asked := requests default classes
    let replies := (client.converse (asked.map Request.prompt) s).1
    let run := assemble client project default false classes s
    replies.length = asked.length ∧
      run.1.prompts = asked.map Request.prompt ∧
      (assemble client.recorded project default false classes ([], s)).2.1 =
        asked.map Request.prompt ∧
      run.2 = (client.converse (asked.map Request.prompt) s).2 ∧
      run.1.outcome = .ok {
        content := introduction project ++ "\n\n" ++ tableOfContents project ++ "\n\n" ++
          String.join
            (List.zipWith (fun r reply => renderSection r.heading (bodyOf reply)) asked replies)
        classCount := classes.length
        methodCount := (classes.map fun c => c.methods.length).sum
        failures := failuresOf asked replies } := by
  intro asked replies run
  -- run with and without a record of the prompts, the conversation is the same
  obtain ⟨logs, hrun⟩ := assemble_false hc project default classes s
  obtain ⟨logs', hrecorded⟩ :=
    assemble_false (recorded_failsByBackend hc) project default classes ([], s)
  have hlength : replies.length = asked.length := by
    rw [length_converse, List.length_map]
  refine ⟨hlength, ?_, ?_, ?_, ?_⟩
  · rw [show run = _ from hrun]
  · rw [hrecorded, converse_recorded]
    rfl
  · rw [show run = _ from hrun]
  · rw [show run = _ from hrun]
    rfl

/-- A client that numbers its replies and fails on every second prompt. -/
def everySecondFails : Client Nat where
  complete _ n :=
    (⟨if n % 2 = 0 then .ok s!"reply {n}" else .error (.backend { message := "down" }), []⟩, n + 1)

theorem everySecondFails_failsByBackend : everySecondFails.FailsByBackend := by
  intro prompt n f hf
  by_cases h : n % 2 = 0
  · simp [everySecondFails, h] at hf
  · simp only [everySecondFails, h, if_false, Except.error.injEq] at hf
    rw [← hf]
    rfl

/-- A class with two methods, of which the client fails on the first. -/
theorem assemble_everySecondFails :
    everySecondFails.FailsByBackend ∧
      ∃ content, (assemble everySecondFails {} .null false
          [{ name := .text "Job", methods := [{ name := .text "run" }, { name := .text "stop" }] }]
          0).1.outcome =
        .ok ⟨content, 1, 2, [⟨"### Method `run()`", "down"⟩]⟩ := by
  have h := assemble_eq_conversation everySecondFails everySecondFails_failsByBackend {} .null
    [{ name := .text "Job", methods := [{ name := .text "run" }, { name := .text "stop" }] }] 0
  exact ⟨everySecondFails_failsByBackend, _, h.2.2.2.2.trans rfl⟩

end Docent
