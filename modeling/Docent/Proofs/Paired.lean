import Docent.Proofs.Indented.AlikeParse
import Docent.Proofs.Lines
import Docent.Proofs.Outline
import Docent.Proofs.Skeleton

/-!
# Carriage returns before line feeds

An indentation-structured source with line feeds, and the same source with a carriage return before
each line feed. What is read of the second has an empty line more at its end if the first ends with
a line. Main statement: if the first is accepted, so is the second, and its classes and methods are
the same but for the carriage returns in the bodies; if the first is refused, the second is refused
for the same, up to the last line, unless the first ends with a line that is to be continued.
-/

namespace Docent

open Docent.Tree (sitesOfList sitesOfList_append)

/-! ### Line ends of two characters -/

/-- A text with a carriage return before each line feed. -/
def pairLines (cs : List Char) : List Char :=
  cs.flatMap fun c => if c = '\n' then ['\r', '\n'] else [c]

theorem pairLines_newline (cs : List Char) :
    pairLines ('\n' :: cs) = '\r' :: '\n' :: pairLines cs := rfl

theorem pairLines_cons {c : Char} (h : c ≠ '\n') (cs : List Char) :
    pairLines (c :: cs) = c :: pairLines cs := by
  rw [pairLines, List.flatMap_cons, if_neg h]
  rfl

theorem pairLines_append (cs ds : List Char) :
    pairLines (cs ++ ds) = pairLines cs ++ pairLines ds := List.flatMap_append

theorem pairLines_flatten (ls : List (List Char)) :
    pairLines ls.flatten = (ls.map pairLines).flatten := by
  induction ls with
  | nil => rfl
  | cons l ls ih => rw [List.flatten_cons, pairLines_append, ih, List.map_cons, List.flatten_cons]

theorem contains_pairLines {c : Char} (h : c ≠ '\r') (cs : List Char) :
    (pairLines cs).contains c = cs.contains c := by
  induction cs with
  | nil => rfl
  | cons d cs ih =>
    by_cases hd : d = '\n'
    · subst hd
      rw [pairLines_newline, List.contains_cons, List.contains_cons, ih, List.contains_cons,
        beq_false_of_ne h, Bool.false_or]
    · rw [pairLines_cons hd, List.contains_cons, ih, List.contains_cons]

theorem sourceLines_pairLines (cs : List Char) :
    sourceLines (pairLines cs) = (sourceLines cs).map pairLines := by
  induction cs with
  | nil => rfl
  | cons c cs ih =>
    by_cases hc : c = '\n'
    · subst hc
      rw [pairLines_newline, sourceLines, if_neg (by decide), sourceLines, if_pos rfl, ih,
        sourceLines, if_pos rfl]
      rfl
    · rw [pairLines_cons hc, sourceLines, if_neg hc, ih, sourceLines, if_neg hc]
      cases sourceLines cs with
      | nil => exact congrArg (fun l => [l]) (pairLines_cons hc []).symm
      | cons l ls => exact congrArg (· :: ls.map pairLines) (pairLines_cons hc l).symm

theorem lineSpan_pairLines (cs : List Char) (first last : Int) :
    lineSpan (pairLines cs) first last = pairLines (lineSpan cs first last) := by
  rw [lineSpan, lineSpan]
  split
  · rfl
  · dsimp only
    rw [sourceLines_pairLines, pairLines_flatten, List.map_take, List.map_drop]

namespace Indented

open Reader (Ended Vacant)

variable {cs : List Char}

theorem unifyLines_pairLines (h : '\r' ∉ cs) : unifyLines (pairLines cs) = cs := by
  induction cs with
  | nil => rfl
  | cons c cs ih =>
    rw [List.mem_cons, not_or] at h
    by_cases hc : c = '\n'
    · subst hc
      rw [pairLines_newline, unifyLines, ih h.2]
    · rw [pairLines_cons hc, unifyLines_cons (Ne.symm h.1), ih h.2]

theorem endsInPair_append (cs : List Char) : endsInPair (cs ++ ['\r', '\n']) = true := by
  induction cs with
  | nil => rfl
  | cons c cs ih =>
    rw [List.cons_append, endsInPair, ih]
    intro _ hcs
    have hlength := congrArg List.length hcs
    rw [List.length_append] at hlength
    simp at hlength

theorem readable_of_endsLine (h : '\r' ∉ cs) (hends : EndsLine cs) : readable cs = cs := by
  rw [readable, endsInPair_of_notMem h, unifyLines_of_notMem h]
  exact if_pos hends

/-- What is read of a text with carriage returns before its line feeds ends with one line feed more,
whether the text ends with a line or not. -/
theorem readable_pairLines (h : '\r' ∉ cs) : readable (pairLines cs) = cs ++ ['\n'] := by
  rw [readable, unifyLines_pairLines h]
  by_cases hends : EndsLine cs
  · obtain ⟨ds, rfl⟩ := List.getLast?_eq_some_iff.1 hends
    rw [pairLines_append]
    exact if_pos (endsInPair_append _)
  · rw [if_neg (show ¬cs.getLast? = some '\n' from hends), ite_self]

theorem readable_of_not_endsLine (h : '\r' ∉ cs) (hends : ¬EndsLine cs) :
    readable cs = cs ++ ['\n'] := by
  rw [readable, endsInPair_of_notMem h, unifyLines_of_notMem h]
  exact if_neg hends

/-! ### What is read -/

/-- Trees of whole sources that are the same up to blanks at their ends. -/
def EndedTree (t t' : Tree) : Prop := ∃ f f', t = .node .item f ∧ t' = .node .item f' ∧ Ended f f'

theorem parse_eq {names : List Char → Option Char} (hnull : cs.contains '\x00' = false) :
    parse names cs = (parseTokens names (depthBound (unifyLines cs).length)
      (tokens (readable cs))).map (.node .item) := by
  rw [parse, hnull]
  rfl

/-- Where a text does not end with a line, carriage returns before its line feeds make no
difference. -/
theorem parse_pairLines_of_not_endsLine (names : List Char → Option Char) (h : '\r' ∉ cs)
    (hends : ¬EndsLine cs) : parse names (pairLines cs) = parse names cs := by
  rw [parse, parse, contains_pairLines (by decide), unifyLines_pairLines h, unifyLines_of_notMem h,
    readable_pairLines h, readable_of_not_endsLine h hends]

/-- Carriage returns before the line feeds of a text make no difference to what is read, but for
the blanks at the end and, if it is refused, for the last line, unless it ends with a line that is
to be continued; then it is refused. -/
theorem parse_pairLines (names : List Char → Option Char) (h : '\r' ∉ cs) :
    Parsed (cs.count '\n') EndedTree (parse names cs) (parse names (pairLines cs)) ∨
      Continued cs ∧ ∀ t, parse names cs ≠ .ok t := by
  have hcontains := contains_pairLines (c := '\x00') (by decide) cs
  cases hnull : cs.contains '\x00' with
  | true =>
    rw [hnull] at hcontains
    rw [parse, parse, if_pos hnull, if_pos hcontains]
    exact .inl (.error (.refl _))
  | false =>
    rw [hnull] at hcontains
    rw [parse_eq hnull, parse_eq hcontains, unifyLines_pairLines h, unifyLines_of_notMem h,
      readable_pairLines h]
    have htree {x y} (hxy : Parsed (cs.count '\n') Ended x y) :=
      hxy.map (f := Tree.node .item) (g := .node .item) (S := EndedTree)
        fun f f' hf => ⟨f, f', rfl, rfl, hf⟩
    by_cases hends : EndsLine cs
    · rw [readable_of_endsLine h hends]
      refine (parseTokens_longer hends names (depthBound cs.length)).imp htree
        fun ⟨hcont, hno⟩ => ⟨hcont, fun t ht => ?_⟩
      obtain ⟨f, hf, -⟩ := ok_of_map ht
      exact hno f hf
    · rw [readable_of_not_endsLine h hends]
      exact .inl (htree (.refl Ended.refl _))

/-! ### Outlines -/

theorem quiet_of_vacant {f : Forest} (h : Vacant f) : Quiet f := by
  induction f with
  | nil => exact Tree.everywhere_nil _
  | cons t f ih =>
    obtain ⟨ht, hf⟩ := List.forall_mem_cons.1 h
    obtain ⟨cs, rfl⟩ := ht
    exact quiet_cons_leaf rfl cs (ih hf)

theorem classOutlines_of_endedTree {conv : Convention}
    (hdeclares : ∀ k ∈ conv.classKinds, k.declares = true) {t t' : Tree} (h : EndedTree t t') :
    conv.classOutlines t' = conv.classOutlines t := by
  have hitem : .item ∉ conv.classKinds := fun hmem => Bool.false_ne_true (hdeclares _ hmem)
  have hkeep (g v : Forest) (hv : Vacant v) :
      conv.classOutlines (.node .item (g ++ v)) = conv.classOutlines (.node .item g) := by
    rw [conv.classOutlines_node hitem, conv.classOutlines_node hitem, sitesOfList_append,
      conv.outlinesFrom_declared hdeclares, declared_append, declared_of_quiet (quiet_of_vacant hv),
      List.append_nil, ← conv.outlinesFrom_declared hdeclares]
  obtain ⟨f, f', rfl, rfl, g, v, v', rfl, rfl, hv, hv'⟩ := h
  rw [hkeep g v hv, hkeep g v' hv']

end Indented

/-! ### Records -/

/-- A text value with a carriage return before each line feed. -/
def Value.paired : Value → Value
  | .text s => .text (String.ofList (pairLines s.toList))
  | v => v

/-- A record of a method with a carriage return before each line feed of its body. -/
def MethodRecord.paired (m : MethodRecord) : MethodRecord := { m with body := m.body.paired }

/-- A record of a class with a carriage return before each line feed of the bodies. -/
def ClassRecord.paired (c : ClassRecord) : ClassRecord :=
  { c with methods := c.methods.map MethodRecord.paired }

theorem MethodRecord.ofOutline_pairLines (cs : List Char) (m : MethodOutline) :
    ofOutline (pairLines cs) m = (ofOutline cs m).paired := by
  rw [ofOutline, ofOutline, paired, Value.paired, String.toList_ofList, lineSpan_pairLines]

theorem ClassRecord.ofOutline_pairLines (path : String) (l : Language) (cs : List Char)
    (c : ClassOutline) : ofOutline path l (pairLines cs) c = (ofOutline path l cs c).paired := by
  rw [ofOutline, ofOutline, paired, List.map_map]
  exact congrArg (ClassRecord.mk _ _ · _ _ _ _ _)
    (List.map_congr_left fun m _ => MethodRecord.ofOutline_pairLines cs m)

/-- How a refusal of an indentation-structured source is reported. -/
def Indented.Refusal.reported (r : Indented.Refusal) : ParseError :=
  ⟨r.fault.message, r.line.map Int.ofNat⟩

theorem extractSource_of_error {cs : List Char} {r : Indented.Refusal}
    (h : Indented.parse Text.characterNamed? cs = .error r) (path : String) :
    extractSource .indented path cs = .error r.reported := by
  rw [extractSource, Grammar.parse, h]
  rfl

theorem error_of_extractSource {path : String} {cs : List Char} {e : ParseError}
    (h : extractSource .indented path cs = .error e) :
    ∃ r, Indented.parse Text.characterNamed? cs = .error r ∧ e = r.reported := by
  obtain ⟨r, hr, rfl⟩ := error_of_mapError (error_of_map h)
  exact ⟨r, hr, rfl⟩

theorem extractSource_of_ok {cs : List Char} {t : Tree}
    (h : Indented.parse Text.characterNamed? cs = .ok t) (path : String) :
    extractSource .indented path cs = .ok ((Grammar.indented.convention.classOutlines t).map
      (ClassRecord.ofOutline path .python cs)) := by
  rw [extractSource, Grammar.parse, h]
  rfl

theorem ok_of_extractSource {path : String} {cs : List Char} {classes : List ClassRecord}
    (h : extractSource .indented path cs = .ok classes) :
    ∃ t, Indented.parse Text.characterNamed? cs = .ok t ∧
      classes = (Grammar.indented.convention.classOutlines t).map
        (ClassRecord.ofOutline path .python cs) := by
  obtain ⟨t, ht, rfl⟩ := ok_of_map h
  exact ⟨t, ok_of_mapError ht, rfl⟩

theorem map_ofOutline_pairLines (path : String) (cs : List Char) (os : List ClassOutline) :
    os.map (ClassRecord.ofOutline path .python (pairLines cs)) =
      (os.map (ClassRecord.ofOutline path .python cs)).map ClassRecord.paired := by
  rw [List.map_map]
  exact List.map_congr_left fun o _ => ClassRecord.ofOutline_pairLines path .python cs o

/-- A source without carriage returns and the same source with one before each line feed: the
classes of the second are those of the first with the carriage returns in the bodies of methods. An
error is the same if the first does not end with a line; otherwise it is the same up to the last
line, unless the first ends with a line that is to be continued. -/
theorem extractSource_pairLines (path : String) {cs : List Char} (h : '\r' ∉ cs) :
    (∀ classes, extractSource .indented path cs = .ok classes →
      extractSource .indented path (pairLines cs) = .ok (classes.map ClassRecord.paired)) ∧
    ∀ e, extractSource .indented path cs = .error e →
      (¬Indented.EndsLine cs → extractSource .indented path (pairLines cs) = .error e) ∧
      (¬Indented.Continued cs → ∃ r r' : Indented.Refusal, r.Near (cs.count '\n') r' ∧
        e = r.reported ∧ extractSource .indented path (pairLines cs) = .error r'.reported) := by
  have hparse := Indented.parse_pairLines Text.characterNamed? h
  constructor
  · intro classes hclasses
    obtain ⟨t, ht, rfl⟩ := ok_of_extractSource hclasses
    rw [ht] at hparse
    obtain ⟨t', ht', hended⟩ := (hparse.resolve_right fun hno => hno.2 t rfl).exists_ok
    have houtlines : Grammar.indented.convention.classOutlines t' =
        Grammar.indented.convention.classOutlines t :=
      Indented.classOutlines_of_endedTree (by decide) hended
    rw [extractSource_of_ok ht' path, houtlines, map_ofOutline_pairLines]
  · intro e he
    obtain ⟨r, hr, rfl⟩ := error_of_extractSource he
    refine ⟨fun hends => ?_, fun hcont => ?_⟩
    · refine extractSource_of_error ?_ path
      rw [Indented.parse_pairLines_of_not_endsLine _ h hends, hr]
    · rw [hr] at hparse
      obtain ⟨r', hr', hnear⟩ := (hparse.resolve_right fun hno => hcont hno.1).exists_error
      exact ⟨r, r', hnear, rfl, extractSource_of_error hr' path⟩

def smallClass : List Char := "class A:\n    def f(self):\n        pass\n".toList

def bareClass : List Char := "class A:\n".toList

/-- A class without a suite whose line is not ended. -/
def openClass : List Char := "class A:".toList

theorem extractSource_of_parse_error {g : Grammar} {cs : List Char} {e : ParseError}
    (h : (g.parse cs).map (fun _ => ()) = .error e) (path : String) :
    extractSource g path cs = .error e := by
  rw [extractSource, error_of_map h]
  rfl

/-- The one is read with its method, the others are refused. -/
theorem extractSource_pairLines_smallClass :
    (∃ c m, extractSource .indented "a.py" smallClass = .ok [c] ∧ c.methods = [m] ∧
      extractSource .indented "a.py" (pairLines smallClass) = .ok [c.paired] ∧
      m.paired.body = .text "    def f(self):\r\n        pass\r\n") ∧
    (∃ e, extractSource .indented "a.py" openClass = .error e ∧
      extractSource .indented "a.py" (pairLines openClass) = .error e) ∧
    ∃ r r' : Indented.Refusal, r.Near 1 r' ∧
      extractSource .indented "a.py" bareClass = .error r.reported ∧
      extractSource .indented "a.py" (pairLines bareClass) = .error r'.reported := by
  have hout : (Grammar.indented.parse smallClass).toOption.map
      Grammar.indented.convention.classOutlines =
        some [⟨"A", "", [⟨"f", "", 2, 3⟩], none, 1, 3⟩] := by decide +kernel
  have hclass := extractSource_of_outlines hout "a.py"
  have hopen : extractSource .indented "a.py" openClass = .error
      ⟨"expected an indented block after class definition on line 1", some 1⟩ :=
    extractSource_of_parse_error (by decide +kernel) "a.py"
  have hbare : extractSource .indented "a.py" bareClass = .error
      ⟨"expected an indented block after class definition on line 1", some 1⟩ :=
    extractSource_of_parse_error (by decide +kernel) "a.py"
  have hreturn : '\r' ∉ bareClass := by decide
  obtain ⟨r, r', hnear, he, hpaired⟩ := ((extractSource_pairLines "a.py" hreturn).2 _ hbare).2
    (by unfold Indented.Continued; decide)
  have hbody : String.ofList (pairLines (String.ofList (lineSpan smallClass 2 3)).toList) =
      "    def f(self):\r\n        pass\r\n" := by decide +kernel
  refine ⟨⟨_, _, hclass, rfl, ?_, congrArg Value.text hbody⟩, ⟨_, hopen, ?_⟩, r, r', hnear,
    he ▸ hbare, hpaired⟩
  · exact (extractSource_pairLines "a.py" (by decide)).1 _ hclass
  · exact ((extractSource_pairLines "a.py" (by decide)).2 _ hopen).1
      (by unfold Indented.EndsLine; decide)

/-- A source that ends with a line that is to be continued. -/
def unfinishedLine : List Char := "x = 1 \\\n".toList

/-- With carriage returns the empty line after the last one is read: a line may be continued by it,
and the suite of a class is missing on it. -/
theorem extractSource_pairLines_unfinishedLine :
    '\r' ∉ unfinishedLine ∧ '\r' ∉ bareClass ∧
      extractSource .indented "a.py" unfinishedLine =
        .error ⟨"unexpected EOF while parsing", some 1⟩ ∧
      extractSource .indented "a.py" (pairLines unfinishedLine) = .ok [] ∧
      extractSource .indented "a.py" bareClass =
        .error ⟨"expected an indented block after class definition on line 1", some 1⟩ ∧
      extractSource .indented "a.py" (pairLines bareClass) =
        .error ⟨"expected an indented block after class definition on line 1", some 2⟩ := by
  have hout : (Grammar.indented.parse (pairLines unfinishedLine)).toOption.map
      Grammar.indented.convention.classOutlines = some [] := by decide +kernel
  exact ⟨by decide, by decide, extractSource_of_parse_error (by decide +kernel) "a.py",
    extractSource_of_outlines hout "a.py", extractSource_of_parse_error (by decide +kernel) "a.py",
    extractSource_of_parse_error (by decide +kernel) "a.py"⟩

end Docent
