import Docent.FileTree
import Docent.Language
import Docent.Log
import Docent.Value

/-!
# Prompts

A prompt asks for the documentation of a fragment of code: an instruction that names it, the
fragment in a fence, and for classes and methods what to include. Nothing is escaped.
-/

namespace Docent

inductive SegmentKind
  | ofClass
  | ofMethod
  | other
deriving DecidableEq, Repr

def fenced (language : Language) (code : String) : String :=
  "```" ++ language.name ++ "\n" ++ code ++ "\n```"

def renderPrompt (kind : SegmentKind) (language : Language) (name code : String) : String :=
  match kind with
  | .ofClass =>
    "Generate detailed documentation for the following " ++ language.label ++ " class named `" ++
      name ++ "`:\n\n" ++ fenced language code ++
      "\n\nInclude a description of the class's purpose, its properties, and its methods with " ++
      "explanations of their functionalities."
  | .ofMethod =>
    "Generate detailed documentation for the following " ++ language.label ++ " method named `" ++
      name ++ "`:\n\n" ++ fenced language code ++
      "\n\nInclude a description of what the method does, its parameters, return values, and " ++
      "an example usage."
  | .other =>
    "Generate documentation for the following " ++ language.label ++ " code:\n\n" ++
      fenced language code

def SegmentKind.template : SegmentKind → String
  | .ofClass => "class_prompt.j2"
  | .ofMethod => "method_prompt.j2"
  | .other => "code_prompt.j2"

def templateNames : List String :=
  ["class_prompt.j2", "code_prompt.j2", "introduction.md.j2", "method_prompt.j2",
    "table_of_contents.md.j2"]

inductive PromptError
  | unknownKind (v : Value)
  | templateMissing (template directory : String)

def PromptError.message : PromptError → String
  | unknownKind v => s!"{v.quoted} is not a valid SegmentKind"
  | templateMissing template directory =>
    s!"{Text.quoted template} not found in search path: {Text.quoted directory}"

def SegmentKind.ofValue (v : Value) : Except PromptError SegmentKind :=
  match v with
  | .text "class" => .ok .ofClass
  | .text "method" => .ok .ofMethod
  | .text "other" => .ok .other
  | v => .error (.unknownKind v)

def promptLogName : String := "src.generators.prompts"

def promptLog (kind : SegmentKind) (prompt : String) : LogRecord :=
  .debug promptLogName s!"Rendered template {kind.template} ({prompt.length} chars)"

/-- Where templates come from: they are packaged, or looked for in a directory, which holds
none. -/
abbrev TemplateSource := Option String

namespace TemplateSource

/-- The source that a directory stands for; an empty name stands for none. -/
def ofDirectory? (dir : String) : TemplateSource :=
  if dir = "" then none else some (Route.ofText dir).text

def location (source : TemplateSource) : String := source.getD "templates"

/-- What is logged when a source is opened; a directory may not be there. -/
def openingLogs (source : TemplateSource) (t : FileTree) : List LogRecord :=
  let absent :=
    match source with
    | some dir =>
      if t.exists? dir then []
      else [.warning promptLogName s!"Templates directory not found: {dir}"]
    | none => []
  absent ++ [.debug promptLogName s!"Prompt builder initialized with: {source.location}"]

def names (source : TemplateSource) : List String :=
  match source with
  | some _ => []
  | none => templateNames

def build (source : TemplateSource) (kind : Value) (language : Language) (name code : String) :
    Except PromptError (String × List LogRecord) := do
  let kind ← SegmentKind.ofValue kind
  match source with
  | some dir => .error (.templateMissing kind.template dir)
  | none =>
    let prompt := renderPrompt kind language name code
    return (prompt, [promptLog kind prompt])

end TemplateSource

/-- What asks for prompts: the source of its templates, and the language of fragments that are given
without one. -/
structure PromptBuilder where
  source : TemplateSource
  language : Language

def PromptBuilder.build (b : PromptBuilder) (kind : Value) (language : Option Language)
    (name code : String) : Except PromptError (String × List LogRecord) :=
  b.source.build kind (language.getD b.language) name code

end Docent
