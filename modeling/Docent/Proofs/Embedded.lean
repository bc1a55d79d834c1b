import Docent.Prompt
import Mathlib.Data.List.Basic

/-!
# What a prompt tells of its fragment

A prompt is a line that names the fragment, the fragment in a fence, and fixed words before, between
and after them. Main statement: whatever the fragment looks like, and as long as names have no line
feeds, two prompts are the same only if the kinds, the languages and the fragments are, and the names
too where a prompt tells one.
-/

namespace Docent

/-! ### Words of which none begins another -/

/-- Words of which none begins another one. -/
def PrefixFree {ι : Type} (word : ι → List Char) : Prop := ∀ i j, word i <+: word j → i = j

/-- Words of which none begins another are told apart at the beginning of a text. -/
theorem PrefixFree.append_inj {ι : Type} {word : ι → List Char} (hfree : PrefixFree word) {i j : ι}
    {rest rest' : List Char} (h : word i ++ rest = word j ++ rest') : i = j ∧ rest = rest' := by
  have hi : word i <+: word j ++ rest' := h ▸ List.prefix_append (word i) rest
  have hj : word j <+: word j ++ rest' := List.prefix_append (word j) rest'
  obtain rfl : i = j := by
    rcases List.prefix_or_prefix_of_prefix hi hj with hle | hle
    · exact hfree i j hle
    · exact (hfree j i hle).symm
  exact ⟨rfl, List.append_cancel_left h⟩

theorem prefixFree_line : PrefixFree fun l : { l : List Char // '\n' ∉ l } => l.1 ++ ['\n'] := by
  rintro ⟨l, hl⟩ ⟨l', hl'⟩ h
  rcases List.prefix_concat_iff.1 h with heq | hle
  · exact Subtype.ext (List.append_cancel_right heq)
  · exact absurd (hle.subset List.mem_concat_self) hl'

theorem Language.prefixFree_label : PrefixFree fun l : Language => l.label.toList := by
  intro l l'
  cases l <;> cases l' <;> decide

/-! ### The parts of a prompt -/

namespace SegmentKind

/-- Whether prompts of a kind tell the name of the fragment. -/
def isNamed : SegmentKind → Bool
  | .ofClass | .ofMethod => true
  | .other => false

/-- What the first line of a prompt begins with. -/
def lead (named : Bool) : List Char :=
  match named with
  | true => "Generate detailed documentation for the following ".toList
  | false => "Generate documentation for the following ".toList

/-- What stands in the first line of a prompt after the language. -/
def noun : SegmentKind → List Char
  | .ofClass => " class named `".toList
  | .ofMethod => " method named `".toList
  | .other => " code:".toList

/-- The name in the first line of a prompt, up to the end of the line. -/
def mention (name : List Char) : SegmentKind → List Char
  | .ofClass | .ofMethod => name ++ "`:".toList
  | .other => []

def request : SegmentKind → List Char
  | .ofClass =>
    "\n\nInclude a description of the class's purpose, its properties, and its methods with ".toList ++
      "explanations of their functionalities.".toList
  | .ofMethod =>
    "\n\nInclude a description of what the method does, its parameters, return values, and ".toList ++
      "an example usage.".toList
  | .other => []

def firstLine (kind : SegmentKind) (language : Language) (name : List Char) : List Char :=
  lead kind.isNamed ++ (language.label.toList ++ (kind.noun ++ mention name kind))

theorem prefixFree_lead : PrefixFree lead := by
  intro named named'
  cases named <;> cases named' <;> decide

theorem prefixFree_noun : PrefixFree noun := by
  intro kind kind'
  cases kind <;> cases kind' <;> decide

variable {kind kind' : SegmentKind} {language language' : Language} {name name' : List Char}

/-- A prompt is its first line, an empty line, the fragment in a fence, and what is asked for. -/
theorem toList_renderPrompt (kind : SegmentKind) (language : Language) (name code : String) :
    (renderPrompt kind language name code).toList =
      firstLine kind language name.toList ++ ['\n'] ++
        ("\n```".toList ++ (language.name.toList ++
          ("\n".toList ++ (code.toList ++ ("\n```".toList ++ kind.request))))) := by
  have hbreak : "`:\n\n".toList = "`:".toList ++ (['\n'] ++ "\n".toList) := rfl
  have hend : " code:\n\n".toList = " code:".toList ++ (['\n'] ++ "\n".toList) := rfl
  have hfence : "\n```".toList = "\n".toList ++ "```".toList := rfl
  unfold renderPrompt firstLine lead isNamed noun mention request
  cases kind with
  | ofClass | ofMethod | other =>
    dsimp only
    simp only [fenced, String.toList_append, List.append_assoc, hbreak, hend, hfence,
      List.append_nil]

theorem newline_notMem_firstLine (h : '\n' ∉ name) : '\n' ∉ firstLine kind language name := by
  have hlead (named : Bool) : '\n' ∉ lead named := by cases named <;> decide
  have hlabel : '\n' ∉ language.label.toList := by cases language <;> decide
  have hnoun : '\n' ∉ kind.noun := by cases kind <;> decide
  have hmention : '\n' ∉ mention name kind := by
    cases kind with
    | ofClass | ofMethod => exact fun hmem => (List.mem_append.1 hmem).elim h (by decide)
    | other => exact List.not_mem_nil
  simp only [firstLine, List.mem_append, not_or]
  exact ⟨hlead _, hlabel, hnoun, hmention⟩

/-- The first line of a prompt tells the kind and the language, and the name where there is one. -/
theorem firstLine_inj (h : firstLine kind language name = firstLine kind' language' name') :
    kind = kind' ∧ language = language' ∧ (kind = .other ∨ name = name') := by
  rw [firstLine, firstLine] at h
  obtain ⟨-, hlabel⟩ := prefixFree_lead.append_inj h
  obtain ⟨rfl, hnoun⟩ := Language.prefixFree_label.append_inj hlabel
  obtain ⟨rfl, hmention⟩ := prefixFree_noun.append_inj hnoun
  refine ⟨rfl, rfl, ?_⟩
  cases kind with
  | ofClass | ofMethod => exact .inr (List.append_cancel_right hmention)
  | other => exact .inl rfl

/-- A prompt tells all that it is made of but the name of a fragment that is no class or method. -/
theorem renderPrompt_eq_iff {name name' : String} (hname : '\n' ∉ name.toList)
    (hname' : '\n' ∉ name'.toList) (code code' : String) :
    renderPrompt kind language name code = renderPrompt kind' language' name' code' ↔
      kind = kind' ∧ language = language' ∧ code = code' ∧ (kind = .other ∨ name = name') := by
  constructor
  · intro h
    have hlist := congrArg String.toList h
    rw [toList_renderPrompt, toList_renderPrompt] at hlist
    obtain ⟨hlines, hrest⟩ := prefixFree_line.append_inj
      (i := ⟨_, newline_notMem_firstLine hname⟩) (j := ⟨_, newline_notMem_firstLine hname'⟩) hlist
    have hline := Subtype.mk.inj hlines
    obtain ⟨rfl, rfl, htold⟩ := firstLine_inj hline
    -- the same words stand before and after both fragments, whatever the fragments hold
    have hcode : code.toList = code'.toList := by
      simpa only [List.append_cancel_left_eq, List.append_cancel_right_eq] using hrest
    exact ⟨rfl, rfl, String.toList_inj.1 hcode, htold.imp_right String.toList_inj.1⟩
  · rintro ⟨rfl, rfl, rfl, rfl | rfl⟩
    · rfl
    · rfl

end SegmentKind

namespace PromptBuilder

theorem build_packaged {v : Value} {kind : SegmentKind} (hv : SegmentKind.ofValue v = .ok kind)
    (usual : Language) (language : Option Language) (name code : String) :
    build ⟨none, usual⟩ v language name code =
      .ok (renderPrompt kind (language.getD usual) name code,
        [promptLog kind (renderPrompt kind (language.getD usual) name code)]) := by
  rw [build, TemplateSource.build, hv]
  rfl

/-- Two prompts from the packaged templates are the same exactly if they are of one kind, for
fragments of one language that are the same, with the same name where they tell it; names are
without line feeds, and fragments are any texts. -/
theorem packaged_prompts_told_apart {v v' : Value} {kind kind' : SegmentKind}
    (hv : SegmentKind.ofValue v = .ok kind) (hv' : SegmentKind.ofValue v' = .ok kind')
    {name name' : String} (hname : '\n' ∉ name.toList) (hname' : '\n' ∉ name'.toList)
    (usual usual' : Language) (language language' : Option Language) (code code' : String) :
    ∃ prompt prompt' : String,
      build ⟨none, usual⟩ v language name code = .ok (prompt, [promptLog kind prompt]) ∧
      build ⟨none, usual'⟩ v' language' name' code' = .ok (prompt', [promptLog kind' prompt']) ∧
      (prompt = prompt' ↔
        kind = kind' ∧ language.getD usual = language'.getD usual' ∧ code = code' ∧
          (kind = .other ∨ name = name')) :=
  ⟨_, _, build_packaged hv usual language name code, build_packaged hv' usual' language' name' code',
    SegmentKind.renderPrompt_eq_iff hname hname' code code'⟩

/-- A fragment that ends a fence and asks for a template is told from one that only asks for it. -/
theorem packaged_prompts_told_apart_brokenFence :
    ∃ prompt prompt' : String,
      build ⟨none, .php⟩ (.text "class") none "A`:" "\x7b\x7b name \x7d\x7d\n```" =
        .ok (prompt, [promptLog .ofClass prompt]) ∧
      build ⟨none, .python⟩ (.text "class") (some .php) "A`:" "\x7b\x7b name \x7d\x7d" =
        .ok (prompt', [promptLog .ofClass prompt']) ∧
      prompt ≠ prompt' := by
  have hkind : SegmentKind.ofValue (.text "class") = .ok .ofClass := rfl
  have hname : '\n' ∉ "A`:".toList := by decide
  obtain ⟨prompt, prompt', hprompt, hprompt', htold⟩ := packaged_prompts_told_apart hkind hkind
    hname hname .php .python none (some .php) "\x7b\x7b name \x7d\x7d\n```"
    "\x7b\x7b name \x7d\x7d"
  exact ⟨prompt, prompt', hprompt, hprompt', fun h => absurd (htold.1 h).2.2.1 (by decide)⟩

end PromptBuilder

end Docent
