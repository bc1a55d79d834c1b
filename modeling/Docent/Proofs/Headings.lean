import Docent.Proofs.FirstFailure
import Docent.Proofs.Named
import Docent.Proofs.Reported

/-!
# The headings among the lines of the document

A document is read line by line, and a line that begins as headings do is taken for a heading. Main
statement: where no other text has such lines, they are the headings of the classes and the methods in
order if and only if each heading is one line; so it is but for the methods of scripts whose names are
strings or in brackets.
-/

namespace Docent

variable {ends : Char → Bool}

/-! ### Lines that begin as headings do -/

def classMark : List Char := ['#', '#', ' ', 'C', 'l', 'a', 's', 's', ' ', '`']

def methodMark : List Char := ['#', '#', '#', ' ', 'M', 'e', 't', 'h', 'o', 'd', ' ', '`']

def isMarked (line : List Char) : Bool := classMark.isPrefixOf line || methodMark.isPrefixOf line

/-- The lines of a text that begin as headings do, with some characters ending a line. -/
def headingLines (ends : Char → Bool) (s : String) : List String :=
  ((s.toList.splitOnP ends).filter isMarked).map String.ofList

theorem headingLines_eq_nil_iff {s : String} :
    headingLines ends s = [] ↔ ∀ line ∈ s.toList.splitOnP ends, isMarked line = false := by
  simp [headingLines]

theorem headingLines_eq_nil_of_toList {s : String} {cs : List Char} (h : s.toList = cs)
    (hcs : (cs.splitOnP ends).any isMarked = false) : headingLines ends s = [] := by
  rw [headingLines_eq_nil_iff, h]
  exact fun line hline => Bool.eq_false_iff.2 fun hmarked =>
    Bool.eq_false_iff.1 hcs (List.any_eq_true.2 ⟨line, hline, hmarked⟩)

theorem headingLines_append {a b : String} (hends : ends '\n' = true) :
    headingLines ends (a ++ "\n" ++ b) = headingLines ends a ++ headingLines ends b := by
  have htext : (a ++ "\n" ++ b).toList = a.toList ++ '\n' :: b.toList := by simp
  rw [headingLines, htext, List.splitOnP_append_cons _ _ hends, List.filter_append, List.map_append]
  rfl

theorem headingLines_newline {a : String} (hends : ends '\n' = true) :
    headingLines ends (a ++ "\n") = headingLines ends a := by
  rw [← String.append_empty (s := a ++ "\n"), headingLines_append hends]
  exact List.append_nil _

theorem headingLines_apart {a b : String} (hends : ends '\n' = true) :
    headingLines ends (a ++ "\n\n" ++ b) = headingLines ends a ++ headingLines ends b := by
  have hbreaks : "\n\n" = "\n" ++ "\n" := rfl
  rw [hbreaks, ← String.append_assoc, headingLines_append hends, headingLines_newline hends]

theorem isMarked_cons {c : Char} (hc : c ≠ '#') (line : List Char) : isMarked (c :: line) = false := by
  have hne : ('#' == c) = false := beq_eq_false_iff_ne.2 hc.symm
  simp [isMarked, classMark, methodMark, List.isPrefixOf, hne]

theorem unmarked_cons {c : Char} {cs : List Char} (hc : c ≠ '#')
    (h : ∀ line ∈ cs.splitOnP ends, isMarked line = false) :
    ∀ line ∈ (c :: cs).splitOnP ends, isMarked line = false := by
  rw [List.splitOnP_cons_eq_if_modifyHead]
  split
  · exact List.forall_mem_cons.2 ⟨rfl, h⟩
  · rcases hlines : cs.splitOnP ends with _ | ⟨line, lines⟩
    · exact List.forall_mem_nil _
    · rw [hlines] at h
      exact List.forall_mem_cons.2 ⟨isMarked_cons hc line, (List.forall_mem_cons.1 h).2⟩

theorem unmarked_append {cs ds : List Char} (hcs : '#' ∉ cs)
    (h : ∀ line ∈ ds.splitOnP ends, isMarked line = false) :
    ∀ line ∈ (cs ++ ds).splitOnP ends, isMarked line = false := by
  induction cs with
  | nil => exact h
  | cons c cs ih =>
    have hc : c ≠ '#' := fun heq => hcs (heq ▸ List.mem_cons_self)
    exact unmarked_cons hc (ih fun hmem => hcs (List.mem_cons_of_mem c hmem))

/-- One more character at the end of a text is at the end of its last line, or ends it. -/
theorem splitOnP_concat (ends : Char → Bool) (cs : List Char) (c : Char) :
    ∃ lines line, cs.splitOnP ends = lines ++ [line] ∧
      ((cs ++ [c]).splitOnP ends = lines ++ [line ++ [c]] ∨
        (cs ++ [c]).splitOnP ends = lines ++ [line] ++ [[]]) := by
  induction cs with
  | nil =>
    refine ⟨[], [], rfl, ?_⟩
    rw [List.nil_append, List.splitOnP_cons_eq_if_modifyHead]
    split
    · exact .inr rfl
    · exact .inl rfl
  | cons x cs ih =>
    obtain ⟨lines, line, hlines, hmore⟩ := ih
    rw [List.cons_append, List.splitOnP_cons_eq_if_modifyHead, List.splitOnP_cons_eq_if_modifyHead,
      hlines]
    split
    · exact ⟨[] :: lines, line, rfl, hmore.imp (congrArg ([] :: ·)) (congrArg ([] :: ·))⟩
    · have hlonger := hmore.imp (congrArg (List.modifyHead (x :: ·)))
        (congrArg (List.modifyHead (x :: ·)))
      cases lines with
      | nil => exact ⟨[], x :: line, rfl, hlonger⟩
      | cons first lines => exact ⟨(x :: first) :: lines, line, rfl, hlonger⟩

/-- The beginning of a heading is not completed by a character that it does not end with. -/
theorem isMarked_concat {line : List Char} {c : Char} (hc : c ≠ '`') :
    isMarked (line ++ [c]) = isMarked line := by
  have hmark (mark : List Char) (hmark : mark.getLast? = some '`') :
      mark.isPrefixOf (line ++ [c]) = mark.isPrefixOf line := by
    rw [Bool.eq_iff_iff, List.isPrefixOf_iff_prefix, List.isPrefixOf_iff_prefix, List.prefix_concat_iff]
    refine or_iff_right fun heq => hc ?_
    rw [heq, List.getLast?_concat] at hmark
    exact Option.some.inj hmark
  rw [isMarked, isMarked, hmark classMark rfl, hmark methodMark rfl]

theorem unmarked_concat {cs : List Char} {c : Char} (hc : c ≠ '`')
    (h : ∀ line ∈ cs.splitOnP ends, isMarked line = false) :
    ∀ line ∈ (cs ++ [c]).splitOnP ends, isMarked line = false := by
  obtain ⟨lines, line, hlines, hmore⟩ := splitOnP_concat ends cs c
  rw [hlines] at h
  obtain ⟨hfront, hlast⟩ := List.forall_mem_append.1 h
  rcases hmore with heq | heq
  · rw [heq]
    refine List.forall_mem_append.2 ⟨hfront, List.forall_mem_singleton.2 ?_⟩
    rw [isMarked_concat hc]
    exact hlast line List.mem_cons_self
  · rw [heq]
    exact List.forall_mem_append.2 ⟨h, List.forall_mem_singleton.2 rfl⟩

theorem headingLines_framed {start reason stop : String} {c : Char} (hstart : '#' ∉ start.toList)
    (hstop : stop.toList = [c]) (hc : c ≠ '`') (h : headingLines ends reason = []) :
    headingLines ends (start ++ reason ++ stop) = [] := by
  rw [headingLines_eq_nil_iff] at h ⊢
  rw [String.toList_append, String.toList_append, hstop]
  exact unmarked_concat hc (unmarked_append hstart h)

theorem headingLines_placeholder {reason : String} (h : headingLines ends reason = []) :
    headingLines ends (placeholder reason) = [] := by
  have hstart : '#' ∉ "_Documentation could not be generated: ".toList := by simp
  have hstop : "_".toList = ['_'] := by simp
  exact headingLines_framed hstart hstop (by decide) h

/-! ### The lines of a document -/

theorem headingLines_join {rs : List Request} {replies : List (Except CompletionFailure String)}
    (hends : ends '\n' = true) (hlength : replies.length = rs.length)
    (hreplies : ∀ reply ∈ replies, headingLines ends (bodyOf reply) = []) :
    headingLines ends (String.join
        (List.zipWith (fun r reply => renderSection r.heading (bodyOf reply)) rs replies)) =
      (rs.map Request.heading).flatMap (headingLines ends) := by
  induction rs generalizing replies with
  | nil => rfl
  | cons r rs ih =>
    cases replies with
    | nil => cases hlength
    | cons reply replies =>
      obtain ⟨hreply, hrest⟩ := List.forall_mem_cons.1 hreplies
      rw [List.zipWith_cons_cons, String.join_cons, renderSection, headingLines_apart hends,
        headingLines_apart hends, hreply, List.append_nil, ih (Nat.succ.inj hlength) hrest]
      rfl

/-- The headings of classes, each before those of its methods. -/
def headingsOf (classes : List ClassRecord) : List String :=
  classes.flatMap fun c =>
    classHeading c.name.display :: c.methods.map fun m => methodHeading m.name.display

theorem map_heading_requests (space : Value) (classes : List ClassRecord) :
    (requests space classes).map Request.heading = headingsOf classes := by
  rw [requests, List.map_flatMap, headingsOf]
  refine congrArg (List.flatMap · classes) (funext fun c => ?_)
  rw [ClassRecord.requests, List.map_cons, List.map_map]
  rfl

variable {σ : Type} {client : Client σ} {project : ProjectSettings} {space : Value}
  {failFast : Bool} {classes : List ClassRecord} {s : σ} {a : Assembly}

/-- An assembly that ends with the first failure comes to a document as one that goes on does. -/
theorem outcome_false_of_ok (h : (assemble client project space failFast classes s).1.outcome = .ok a) :
    (assemble client project space false classes s).1.outcome = .ok a := by
  cases failFast with
  | false => exact h
  | true =>
    rcases askAbout_true client (segments space classes) s with ⟨-, hsame⟩ | ⟨k, g, e, hstops⟩
    · simp only [assemble, hsame] at h ⊢
      exact h
    · rw [(assemble_of_stopsAt project hstops).2.2.1] at h
      cases h

theorem headingLines_of_assemble
    (h : (assemble client project space failFast classes s).1.outcome = .ok a)
    (hends : ends '\n' = true) (hintroduction : headingLines ends (introduction project) = [])
    (htable : headingLines ends (tableOfContents project) = [])
    (hreplies : ∀ reply ∈ (client.converse ((requests space classes).map Request.prompt) s).1,
      headingLines ends (bodyOf reply) = []) :
    headingLines ends a.content = (headingsOf classes).flatMap (headingLines ends) := by
  obtain ⟨hcontent, -⟩ := assembly_of_assemble (outcome_false_of_ok h)
  have hlength := length_converse client ((requests space classes).map Request.prompt) s
  rw [List.length_map] at hlength
  rw [hcontent, documentHead, headingLines_apart hends, headingLines_apart hends, hintroduction, htable,
    List.nil_append, List.nil_append, headingLines_join hends hlength hreplies, map_heading_requests]

theorem counts_of_assemble (h : (assemble client project space failFast classes s).1.outcome = .ok a) :
    a.classCount = classes.length ∧ a.methodCount = methodTotal classes := by
  simp only [assemble] at h
  split at h
  · cases h
  · cases h
    exact ⟨rfl, rfl⟩

/-! ### Headings of one line -/

theorem toList_classHeading (name : String) :
    (classHeading name).toList = classMark ++ (name.toList ++ ['`']) := by
  simp [classHeading, classMark]

theorem toList_methodHeading (name : String) :
    (methodHeading name).toList = methodMark ++ (name.toList ++ ['(', ')', '`']) := by
  simp [methodHeading, methodMark]

theorem oneLine_classHeading {name : String} (h : OneLine name.toList) :
    OneLine (classHeading name).toList := by
  rw [toList_classHeading]
  exact oneLine_append.2 ⟨by decide, oneLine_append.2 ⟨h, by decide⟩⟩

theorem oneLine_methodHeading {name : String} (h : OneLine name.toList) :
    OneLine (methodHeading name).toList := by
  rw [toList_methodHeading]
  exact oneLine_append.2 ⟨by decide, oneLine_append.2 ⟨h, by decide⟩⟩

theorem mem_headingsOf {heading : String} : heading ∈ headingsOf classes ↔
    ∃ c ∈ classes, heading = classHeading c.name.display ∨
      ∃ m ∈ c.methods, heading = methodHeading m.name.display := by
  simp only [headingsOf, List.mem_flatMap, List.mem_cons, List.mem_map, eq_comm]

theorem isMarked_of_mem_headingsOf {heading : String} (h : heading ∈ headingsOf classes) :
    isMarked heading.toList = true := by
  obtain ⟨c, -, rfl | ⟨m, -, rfl⟩⟩ := mem_headingsOf.1 h
  · rw [toList_classHeading, isMarked, Bool.or_eq_true]
    exact .inl (List.isPrefixOf_iff_prefix.2 (List.prefix_append _ _))
  · rw [toList_methodHeading, isMarked, Bool.or_eq_true]
    exact .inr (List.isPrefixOf_iff_prefix.2 (List.prefix_append _ _))

theorem headingLines_of_whole {heading : String} (h : heading ∈ headingsOf classes)
    (hwhole : ∀ c ∈ heading.toList, ends c = false) : headingLines ends heading = [heading] := by
  rw [headingLines, List.splitOnP_eq_singleton hwhole,
    List.filter_cons_of_pos (isMarked_of_mem_headingsOf h), List.filter_nil, List.map_singleton,
    String.ofList_toList]

theorem notMem_of_mem_splitOnP {cs line : List Char} (h : line ∈ cs.splitOnP ends) :
    ∀ c ∈ line, ends c = false := by
  induction cs generalizing line with
  | nil =>
    obtain rfl := List.mem_singleton.1 h
    exact List.forall_mem_nil _
  | cons x cs ih =>
    rw [List.splitOnP_cons_eq_if_modifyHead] at h
    split at h
    · rcases List.mem_cons.1 h with rfl | h
      · exact List.forall_mem_nil _
      · exact ih h
    · rename_i hx
      rcases hlines : cs.splitOnP ends with _ | ⟨first, lines⟩
      · rw [hlines] at h
        cases h
      · rw [hlines] at h ih
        rcases List.mem_cons.1 h with rfl | h
        · exact List.forall_mem_cons.2 ⟨Bool.eq_false_iff.2 hx, ih List.mem_cons_self⟩
        · exact ih (List.mem_cons_of_mem _ h)

theorem whole_of_mem_headingLines {line t : String} (h : line ∈ headingLines ends t) :
    ∀ c ∈ line.toList, ends c = false := by
  obtain ⟨cs, hcs, rfl⟩ := List.mem_map.1 h
  rw [String.toList_ofList]
  exact notMem_of_mem_splitOnP (List.mem_of_mem_filter hcs)

/-! ### Counts -/

def begins (mark : List Char) (line : String) : Bool := mark.isPrefixOf line.toList

theorem begins_heading (name : String) :
    begins classMark (classHeading name) = true ∧ begins methodMark (classHeading name) = false ∧
      begins classMark (methodHeading name) = false ∧ begins methodMark (methodHeading name) = true := by
  simp only [begins, toList_classHeading, toList_methodHeading]
  have hbegins (mark more : List Char) : mark.isPrefixOf (mark ++ more) = true :=
    List.isPrefixOf_iff_prefix.2 (List.prefix_append mark more)
  exact ⟨hbegins _ _, rfl, rfl, hbegins _ _⟩

theorem countP_headingsOf (classes : List ClassRecord) :
    (headingsOf classes).countP (begins classMark) = classes.length ∧
      (headingsOf classes).countP (begins methodMark) = methodTotal classes := by
  have hmethods (ms : List MethodRecord) :
      (ms.map fun m => methodHeading m.name.display).countP (begins classMark) = 0 ∧
        (ms.map fun m => methodHeading m.name.display).countP (begins methodMark) = ms.length := by
    induction ms with
    | nil => exact ⟨rfl, rfl⟩
    | cons m ms ih =>
      obtain ⟨-, -, hclass, hmethod⟩ := begins_heading m.name.display
      simp [hclass, hmethod, ih]
  induction classes with
  | nil => exact ⟨rfl, rfl⟩
  | cons c classes ih =>
    obtain ⟨hclass, hmethod, -, -⟩ := begins_heading c.name.display
    obtain ⟨hnone, hall⟩ := hmethods c.methods
    rw [headingsOf] at ih
    rw [methodTotal] at ih
    rw [headingsOf, methodTotal, List.flatMap_cons, List.flatMap_cons, List.countP_append,
      List.countP_append, List.countP_cons, List.countP_cons, hclass, hmethod, hnone, hall, ih.1, ih.2]
    simp
    omega

/-- The lines of a document that begin as headings do are the headings of the classes and of their
methods, in order, and as many as the document counts. -/
structure Headed (ends : Char → Bool) (a : Assembly) (classes : List ClassRecord) : Prop where
  lines : headingLines ends a.content = headingsOf classes
  classes : (headingLines ends a.content).countP (begins classMark) = a.classCount
  methods : (headingLines ends a.content).countP (begins methodMark) = a.methodCount

theorem headed_iff
    (hlines : headingLines ends a.content = (headingsOf classes).flatMap (headingLines ends))
    (hcounts : a.classCount = classes.length ∧ a.methodCount = methodTotal classes) :
    Headed ends a classes ↔ ∀ heading ∈ headingsOf classes, ∀ c ∈ heading.toList, ends c = false := by
  constructor
  · intro h heading hheading
    rw [← h.lines] at hheading
    exact whole_of_mem_headingLines hheading
  · intro hwhole
    have heach : headingLines ends a.content = headingsOf classes := by
      rw [hlines, List.flatMap_congr fun heading hheading =>
        headingLines_of_whole hheading (hwhole heading hheading)]
      exact List.flatMap_singleton' _
    obtain ⟨hclasses, hmethods⟩ := countP_headingsOf classes
    refine ⟨heach, ?_, ?_⟩
    · rw [heach, hclasses, hcounts.1]
    · rw [heach, hmethods, hcounts.2]

theorem toList_of_eq_ofList {s : String} {cs : List Char} (h : s = String.ofList cs) :
    s.toList = cs := by
  rw [h, String.toList_ofList]

theorem toList_append_of {a b : String} {cs ds : List Char} (ha : a.toList = cs)
    (hb : b.toList = ds) : (a ++ b).toList = cs ++ ds := by
  rw [String.toList_append, ha, hb]

theorem headingLines_introduction : headingLines endsLine (introduction {}) = [] := by
  apply headingLines_eq_nil_of_toList
  · unfold introduction
    repeat' first | exact toList_of_eq_ofList rfl | apply toList_append_of
  · decide +kernel

theorem headingLines_tableOfContents : headingLines endsLine (tableOfContents {}) = [] := by
  apply headingLines_eq_nil_of_toList
  · unfold tableOfContents
    repeat' first | exact toList_of_eq_ofList rfl | apply toList_append_of
  · decide +kernel

/-- A class record that was extracted from some source. -/
def ClassRecord.IsExtracted (c : ClassRecord) : Prop :=
  ∃ g path cs found, extractSource g path cs = .ok found ∧ c ∈ found

/-- Every heading of a class from an accepted source is one line, and so is every heading of a method
unless a script has its name as a string or in brackets. In a document whose other texts have no lines
that begin as headings do, these lines are those of the headings; they are the headings themselves, in
order and as many as are counted, if and only if each heading is one line. -/
theorem headings_of_extracted (hends : ends '\n' = true) (client : Client σ)
    (project : ProjectSettings) (space : Value) (failFast : Bool) {classes : List ClassRecord} (s : σ)
    (hsources : ∀ c ∈ classes, c.IsExtracted) {a : Assembly}
    (h : (assemble client project space failFast classes s).1.outcome = .ok a)
    (hintroduction : headingLines ends (introduction project) = [])
    (htable : headingLines ends (tableOfContents project) = [])
    (htexts : ∀ text, .ok text ∈ (client.converse ((requests space classes).map Request.prompt) s).1 →
      headingLines ends text = [])
    (hreasons : ∀ f, .error f ∈ (client.converse ((requests space classes).map Request.prompt) s).1 →
      headingLines ends f.message = []) :
    (∀ c ∈ classes, OneLine (classHeading c.name.display).toList ∧
      ∀ m ∈ c.methods, OneLine (methodHeading m.name.display).toList ∨
        (c.language.isScript = true ∧ IsOpenName m.name.display)) ∧
    headingLines ends a.content = (headingsOf classes).flatMap (headingLines ends) ∧
    (Headed ends a classes ↔ ∀ heading ∈ headingsOf classes, ∀ c ∈ heading.toList, ends c = false) ∧
    ((∀ c, ends c = true → endsLine c = true) →
      (∀ c ∈ classes, c.language.isScript = true → ∀ m ∈ c.methods, IsOpenName m.name.display →
        OneLine m.name.display.toList) → Headed ends a classes) := by
  have hnamed (c : ClassRecord) (hc : c ∈ classes) : c.Named := by
    obtain ⟨g, path, cs, found, hfound, hmem⟩ := hsources c hc
    exact named_of_extractSource hfound c hmem
  -- replies have no such lines by hypothesis, nor have the placeholders of failures
  have hlines : headingLines ends a.content = (headingsOf classes).flatMap (headingLines ends) := by
    refine headingLines_of_assemble h hends hintroduction htable fun reply hreply => ?_
    cases reply with
    | ok text => exact htexts text hreply
    | error f => exact headingLines_placeholder (hreasons f hreply)
  have hheaded := headed_iff hlines (counts_of_assemble h)
  refine ⟨fun c hc => ⟨?_, fun m hm => ?_⟩, hlines, hheaded, fun hall hopen => hheaded.2 ?_⟩
  · exact oneLine_classHeading (hnamed c hc).name
  · exact ((hnamed c hc).methods m hm).imp_left oneLine_methodHeading
  · -- a character that ends lines for the reader ends them in the sources as well
    have hnone {cs : List Char} (hcs : OneLine cs) (c : Char) (hc : c ∈ cs) : ends c = false :=
      Bool.eq_false_iff.2 fun hend => by
        have hfalse := hcs c hc
        rw [hall c hend] at hfalse
        cases hfalse
    intro heading hheading
    obtain ⟨c, hc, rfl | ⟨m, hm, rfl⟩⟩ := mem_headingsOf.1 hheading
    · exact hnone (oneLine_classHeading (hnamed c hc).name)
    · have hname : OneLine m.name.display.toList :=
        ((hnamed c hc).methods m hm).elim id fun h => hopen c hc h.1 m hm h.2
      exact hnone (oneLine_methodHeading hname)

/-- A class with a method whose name is put together on two lines. -/
def brokenScript : List Char := "class A \x7b\n  [a +\n b]() \x7b\x7d\n\x7d\n".toList

theorem headings_of_extracted_brokenScript :
    ∃ c a, extractSource (.script ⟨false, true⟩) "a.js" brokenScript = .ok [c] ∧
      (assemble everySecondFails {} .null false [c] 0).1.outcome = .ok a ∧
      headingsOf [c] = ["## Class `A`", "### Method `[a +\n b]()`"] ∧
      headingLines endsLine a.content = ["## Class `A`", "### Method `[a +"] ∧
      ¬ Headed endsLine a [c] := by
  have hout : ((Grammar.script ⟨false, true⟩).parse brokenScript).toOption.map
      (Grammar.script ⟨false, true⟩).convention.classOutlines =
        some [⟨"A", "", [⟨"[a +\n b]", "", 2, 3⟩], none, 1, 4⟩] := by decide +kernel
  have hextract := extractSource_of_outlines hout "a.js"
  have hreplies : (everySecondFails.converse ((requests .null [ClassRecord.ofOutline "a.js"
      (Grammar.script ⟨false, true⟩).language brokenScript
        ⟨"A", "", [⟨"[a +\n b]", "", 2, 3⟩], none, 1, 4⟩]).map Request.prompt) 0).1 =
      [.ok "reply 0", .error (.backend { message := "down" })] := rfl
  obtain ⟨-, hlines, hheaded, -⟩ := headings_of_extracted (rfl : endsLine '\n' = true)
    everySecondFails {} .null false 0
    (List.forall_mem_singleton.2 ⟨_, _, _, _, hextract, List.mem_cons_self⟩) rfl
    headingLines_introduction headingLines_tableOfContents
    (fun text htext => by
      rw [hreplies] at htext
      obtain rfl : text = "reply 0" := by simpa using htext
      exact headingLines_eq_nil_of_toList (toList_of_eq_ofList rfl) rfl)
    (fun f hf => by
      rw [hreplies] at hf
      obtain rfl : f = .backend { message := "down" } := by simpa using hf
      exact headingLines_eq_nil_of_toList (toList_of_eq_ofList rfl) rfl)
  refine ⟨_, _, hextract, rfl, rfl, ?_, ?_⟩
  · rw [hlines]
    rfl
  · intro h
    have hbreak := hheaded.1 h "### Method `[a +\n b]()`" (List.mem_cons_of_mem _ List.mem_cons_self)
      '\n' (by decide)
    cases hbreak

end Docent
