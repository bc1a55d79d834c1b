import Docent.Proofs.Indented.Skeleton
import Docent.Proofs.Skeleton

/-!
# Skeletons that restore a documentation

The skeleton of a class of an indentation-structured source, and that of a method in the body of a
class, are source texts of their own. Main statement: they are read as one class, or one class with
one method, of the same name and the same documentation, if the name is an identifier in its normal
form and the documentation is settled: it is its own text without a margin, and holds nothing that
ends a string, escapes a character or ends a line in another way than a line feed.
-/

namespace Docent

open Docent.Tree (Site)

/-! ### Settled documentation -/

theorem infix_append_cons {α : Type} {q x y : List α} {c : α} (hc : c ∉ q) (h : q <:+: x ++ c :: y) :
    q <:+: x ∨ q <:+: y := by
  obtain ⟨s, t, h⟩ := h
  rcases List.append_eq_append_iff.1 h with ⟨r, hx, -⟩ | ⟨r, hsq, hcy⟩
  · exact .inl ⟨s, r, hx.symm⟩
  · rcases List.append_eq_append_iff.1 hsq with ⟨r', hx, hq⟩ | ⟨r', hs, hr⟩
    · cases r with
      | nil => exact .inl ⟨s, [], by rw [List.append_nil] at hsq ⊢; exact hsq⟩
      | cons e r =>
        obtain ⟨rfl, -⟩ := List.cons.inj hcy
        exact absurd (by rw [hq]; simp) hc
    · cases r' with
      | nil =>
        cases r with
        | nil => exact .inl ⟨x, [], by rw [List.nil_append] at hr; rw [← hr]; simp⟩
        | cons e r =>
          obtain ⟨rfl, -⟩ := List.cons.inj hcy
          exact absurd (by rw [List.nil_append] at hr; rw [← hr]; exact List.mem_cons_self) hc
      | cons e r' =>
        rw [hr, List.cons_append] at hcy
        obtain ⟨-, hy⟩ := List.cons.inj hcy
        exact .inr ⟨r', t, hy.symm⟩

namespace Text

theorem infix_joinLines {q : List Char} (hq : '\n' ∉ q) (hne : q ≠ []) {ls : List (List Char)}
    (h : q <:+: joinLines ls) : ∃ l ∈ ls, q <:+: l := by
  induction ls with
  | nil => exact absurd (List.eq_nil_of_infix_nil h) hne
  | cons l ls ih =>
    by_cases hls : ls = []
    · subst hls
      exact ⟨l, List.mem_cons_self, h⟩
    · rw [joinLines_cons l hls] at h
      rcases infix_append_cons hq h with h | h
      · exact ⟨l, List.mem_cons_self, h⟩
      · obtain ⟨k, hk, hpart⟩ := ih h
        exact ⟨k, List.mem_cons_of_mem l hk, hpart⟩

theorem infix_of_joinLines {l : List Char} {ls : List (List Char)} (h : l ∈ ls) :
    l <:+: joinLines ls := by
  induction ls with
  | nil => cases h
  | cons k ls ih =>
    by_cases hls : ls = []
    · subst hls
      rw [List.mem_singleton.1 h]
      exact List.infix_rfl
    · rw [joinLines_cons k hls]
      rcases List.mem_cons.1 h with rfl | h
      · exact (List.prefix_append l _).isInfix
      · exact (ih h).trans ⟨k ++ ['\n'], [], by simp⟩

theorem infix_of_cons {q cs : List Char} {c : Char} (hc : c ∉ q) (hne : q ≠ []) (h : q <:+: c :: cs) :
    q <:+: cs := by
  rcases infix_append_cons (x := []) hc h with h | h
  · exact absurd (List.eq_nil_of_infix_nil h) hne
  · exact h

theorem infix_of_pad {q l : List Char} (hq : ' ' ∉ q) (hne : q ≠ []) (h : q <:+: pad l) : q <:+: l := by
  rw [pad] at h
  split at h
  · exact absurd (List.eq_nil_of_infix_nil h) hne
  · exact infix_of_cons hq hne (infix_of_cons hq hne (infix_of_cons hq hne (infix_of_cons hq hne h)))

end Text

open Text Indented Indented.Setting

theorem Indented.IsQuotable.hang {d : List Char} (h : IsQuotable d) (hd : Lined d) :
    IsQuotable (hang d) where
  backslash hmem := by
    rcases mem_hang hmem with heq | heq | hmem
    · exact absurd heq (by decide)
    · exact absurd heq (by decide)
    · exact h.backslash hmem
  quotes hpart := by
    obtain ⟨first, rest, hpieces⟩ := exists_pieces d
    have hline {l : List Char} (hl : l ∈ first :: rest) (hpart : tripleQuote <:+: l) : False := by
      refine h.quotes (hpart.trans ?_)
      rw [← joinLines_pieces d, hpieces]
      exact infix_of_joinLines hl
    rw [hang_eq hpieces] at hpart
    obtain ⟨l, hl, hquotes⟩ := infix_joinLines (by decide) (by decide) hpart
    rcases List.mem_cons.1 hl with heq | hl
    · exact hline List.mem_cons_self (heq ▸ hquotes)
    · obtain ⟨p, hp, rfl⟩ := List.mem_map.1 hl
      exact hline (List.mem_cons_of_mem _ hp) (infix_of_pad (by decide) (by decide) hquotes)
  last := by
    rw [hd.getLast?_hang]
    exact h.last

/-- A documentation that is its own text without a margin, whose lines end with line feeds and show
something unless they are empty, and in which nothing ends a string or escapes a character. -/
structure IsSettled (d : List Char) : Prop extends IsQuotable d where
  dedented : dedent d = d
  ends : ∀ c ∈ d, isLineEnd c = true → c = '\n'
  blank : ∀ l ∈ pieces '\n' d, isBlankLine l = true → l = []
  null : '\x00' ∉ d

theorem IsSettled.lined {d : List Char} (h : IsSettled d) : Lined d where
  ends := h.ends
  tab := by
    rw [← h.dedented]
    exact tab_notMem_dedent d
  blank := h.blank
  last := by
    rw [← h.dedented]
    exact getLast?_dedent d

/-- A name that is an identifier, no keyword, and its own normal form. -/
structure IsOwnName (n : List Char) : Prop extends IsNameText n where
  normal : normalForm n = n

/-! ### Outlines -/

section Outlines

variable {n m : List Char} {doc : Option (List Char)} {blanks : List Char}

abbrev indentedConvention : Convention := Grammar.indented.convention

theorem docstring?_suiteBody (hdoc : ∀ d ∈ doc, '\\' ∉ d) :
    docstring? characterNamed? (.node .body (suiteBody blanks doc)) = doc := by
  cases doc with
  | none => rfl
  | some d =>
    have hvalue : stringValue characterNamed? (.node (.form .string) [.leaf .token (tripled d)]) = d := by
      rw [stringValue, literalTexts, literalTextsOf, literalTextsOf, literalTexts, List.append_nil,
        List.flatMap_singleton, value_tripled (hdoc d rfl)]
    exact congrArg some hvalue

theorem doc_of_body {s : Site} (hdoc : ∀ d ∈ doc, '\\' ∉ d)
    (hs : s.tree.part? .body = some (.node .body (suiteBody blanks doc))) :
    indentedConvention.doc s = String.ofList (dedent (doc.getD [])) := by
  rw [indentedConvention, Grammar.convention, Indented.convention]
  dsimp only
  rw [hs]
  dsimp only
  rw [docstring?_suiteBody hdoc]

theorem classOutlines_of_class {parts : Forest} (hparts : Quiet parts)
    (hname : parts.find? (·.kind = .name) = some (.leaf .name n)) :
    ∃ s : Site, s.tree = .node .classDecl parts ∧
      indentedConvention.classOutlines (.node .item [.node .classDecl parts]) =
        [⟨String.ofList (normalForm n), indentedConvention.doc s, indentedConvention.methodOutlines s,
          none, indentedConvention.startLine s, s.endLine⟩] := by
  have hdeclares : ∀ k ∈ indentedConvention.classKinds, k.declares = true := by decide
  have hlast := declared_last (k := .classDecl) (f := []) rfl (Tree.everywhere_nil _) hparts 1 [] (some (.item, []))
  rw [List.nil_append] at hlast
  let s : Site := ⟨.node .classDecl parts, 1 + Tree.newlinesOfList [], [], some (.item, [])⟩
  have hcalled : indentedConvention.nameOf? s = some (String.ofList (normalForm n)) := by
    rw [Convention.nameOf?, show s.tree.part? .name = _ from hname]
    rfl
  have houtline : indentedConvention.classOutline? none s = some ⟨String.ofList (normalForm n),
      indentedConvention.doc s, indentedConvention.methodOutlines s, none,
      indentedConvention.startLine s, s.endLine⟩ := by
    rw [Convention.classOutline?, hcalled]
    rfl
  refine ⟨s, rfl, ?_⟩
  rw [Convention.classOutlines_node _ (by decide), Convention.outlinesFrom_declared _ hdeclares, hlast,
    Convention.outlinesFrom, if_neg (by rintro ⟨⟩)]
  have hclass : Kind.classDecl ∈ indentedConvention.classKinds := List.mem_singleton_self _
  exact (if_pos hclass).trans (congrArg (fun o : Option ClassOutline => o.toList ++ []) houtline)

theorem methodOutlines_classTree {s : Site} (hs : s.tree = classTree n doc) :
    indentedConvention.methodOutlines s = [] := by
  obtain ⟨t, line, before, outer⟩ := s
  obtain rfl : t = classTree n doc := hs
  cases doc <;> rfl

theorem methodOutlines_holderTree {s : Site} (hs : s.tree = holderTree n m doc)
    (hdoc : ∀ d ∈ doc, '\\' ∉ d) :
    ∃ o, indentedConvention.methodOutlines s = [o] ∧ o.name = String.ofList (normalForm m) ∧
      o.doc = String.ofList (dedent (doc.getD [])) := by
  obtain ⟨t, line, before, outer⟩ := s
  obtain rfl : t = holderTree n m doc := hs
  have hmethod : ∃ s' : Site, s'.tree = methodTree m (margin ++ margin) doc ∧
      indentedConvention.methodOutlines ⟨holderTree n m doc, line, before, outer⟩ =
        [⟨String.ofList (normalForm m), indentedConvention.doc s', indentedConvention.startLine s',
          s'.endLine⟩] :=
    ⟨⟨methodTree m (margin ++ margin) doc, _, _, _⟩, rfl, rfl⟩
  obtain ⟨s', hs', hmethods⟩ := hmethod
  have hbody : s'.tree.part? .body = some (.node .body (suiteBody (margin ++ margin) doc)) := by
    rw [hs']
    rfl
  exact ⟨_, hmethods, rfl, doc_of_body hdoc hbody⟩

end Outlines

/-! ### Texts -/

section Texts

variable {n m d : List Char} {c : Char} {doc : Option (List Char)}

theorem notMem_suiteText (hc : c = '\r' ∨ c = '\x00') (hdoc : ∀ d ∈ doc, c ∉ d) (k : Nat) :
    c ∉ suiteText (List.replicate k ' ') doc := by
  cases doc with
  | none => rcases hc with rfl | rfl <;> simp [suiteText, dots]
  | some d =>
    have hd := hdoc d rfl
    rcases hc with rfl | rfl <;> simp [suiteText, dots, tripled, tripleQuote, hd]

theorem Indented.IsNameText.notMem (hn : IsNameText n) (hc : c = '\r' ∨ c = '\x00') : c ∉ n := by
  intro hmem
  have hword := hn.word.chars c hmem
  rcases hc with rfl | rfl <;> exact absurd hword (by decide)

theorem notMem_classText (hc : c = '\r' ∨ c = '\x00') (hn : IsNameText n)
    (hdoc : ∀ d ∈ doc, c ∉ d) : c ∉ classText n doc := by
  have hname := hn.notMem hc
  have hsuite := notMem_suiteText hc hdoc 4
  rw [classText, List.mem_append, List.mem_cons, not_or, not_or]
  refine ⟨?_, ?_, hsuite⟩
  · rcases hc with rfl | rfl <;> simp [classLine, hname]
  · rcases hc with rfl | rfl <;> decide

theorem notMem_methodText (hc : c = '\r' ∨ c = '\x00') (hn : IsNameText n) (hm : IsNameText m)
    (hdoc : ∀ d ∈ doc, c ∉ d) : c ∉ methodText n m doc := by
  have hname := hn.notMem hc
  have hcalled := hm.notMem hc
  have hsuite := notMem_suiteText hc hdoc 8
  rw [methodText, List.mem_append, List.mem_cons, List.mem_append, List.mem_cons, not_or, not_or,
    not_or, not_or]
  refine ⟨?_, ?_, ?_, ?_, hsuite⟩
  · rcases hc with rfl | rfl <;> simp [classLine, hname]
  · rcases hc with rfl | rfl <;> decide
  · rcases hc with rfl | rfl <;> simp [methodLine, margin, hcalled]
  · rcases hc with rfl | rfl <;> decide

theorem IsSettled.notMem (hd : IsSettled d) (hc : c = '\r' ∨ c = '\x00') : c ∉ d := by
  rcases hc with rfl | rfl
  · exact fun hmem => absurd (hd.ends _ hmem rfl) (by decide)
  · exact hd.null

theorem notMem_hang (hc : c = '\r' ∨ c = '\x00') (hno : c ∉ d) : c ∉ hang d := by
  intro hmem
  rcases mem_hang hmem with heq | heq | hmem
  · rcases hc with rfl | rfl <;> exact absurd heq (by decide)
  · rcases hc with rfl | rfl <;> exact absurd heq (by decide)
  · exact hno hmem

theorem toList_classSkeleton {c : ClassRecord} (hlanguage : c.language = .python)
    (hname : c.name = .text (String.ofList n)) (hdoc : c.doc = .text (String.ofList d))
    (hd : IsSettled d) : (classSkeleton c .null).toList = classText n (shownDoc d) := by
  rw [classSkeleton, hlanguage]
  dsimp only
  rw [hname, hdoc, String.toList_append, toList_indentedBody hd.lined]
  simp [classText, classLine, Value.display]

def inBody (holder text : String) : String :=
  "class " ++ holder ++ ":\n" ++ String.ofList (indented text.toList)

theorem toList_inBody {r : MethodRecord} (hname : r.name = .text (String.ofList m))
    (hdoc : r.doc = .text (String.ofList d)) (hm : IsNameText m) (hd : IsSettled d) :
    (inBody (String.ofList n) (methodSkeleton r .python)).toList =
      methodText n m ((shownDoc d).map hang) := by
  have hskeleton : (methodSkeleton r .python).toList =
      methodLine m ++ '\n' :: suiteText margin (shownDoc d) := by
    rw [methodSkeleton, hname, hdoc, String.toList_append, toList_indentedBody hd.lined]
    simp [methodLine, Value.display]
  have hopening : ∀ c ∈ "def".toList, isLineEnd c = false := forall_mem_of_all (by decide)
  have hclosing : ∀ c ∈ "(self):".toList, isLineEnd c = false := forall_mem_of_all (by decide)
  have hends : ∀ c ∈ methodLine m, isLineEnd c = false := by
    intro c hc
    rw [methodLine, List.mem_append, List.mem_cons, List.mem_append] at hc
    rcases hc with hc | rfl | hc | hc
    · exact hopening c hc
    · rfl
    · exact hm.ends c hc
    · exact hclosing c hc
  have hshown : isBlankLine (methodLine m) = true → methodLine m = [] := fun h => by cases h
  have hblanks : ∀ c ∈ margin, c = ' ' := fun c hc => List.eq_of_mem_replicate hc
  have hlined : ∀ e ∈ shownDoc d, Lined e := by
    intro e he
    rw [eq_hang_of_mem_shownDoc he]
    exact hd.lined.hang
  rw [inBody, String.toList_append, String.toList_ofList, hskeleton,
    indented_append_newline hends hshown, indented_suiteText hblanks hlined,
    pad_of_ne_nil (by simp [methodLine])]
  simp [methodText, classLine]

end Texts

/-! ### Reading skeletons again -/

variable {n d : List Char}

theorem IsSettled.shown (hd : IsSettled d) : ∀ e ∈ shownDoc d, IsQuotable e ∧ Lined e ∧
    ∀ c, c = '\r' ∨ c = '\x00' → c ∉ e := by
  intro e he
  rw [eq_hang_of_mem_shownDoc he]
  exact ⟨hd.hang hd.lined, hd.lined.hang, fun c hc => notMem_hang hc (hd.notMem hc)⟩

theorem IsSettled.dedent_shown (hd : IsSettled d) : dedent ((shownDoc d).getD []) = d := by
  rw [getD_shownDoc, hd.lined.dedent_hang, hd.dedented]

theorem IsSettled.dedent_shown_hang (hd : IsSettled d) :
    dedent (((shownDoc d).map hang).getD []) = d := by
  -- an empty text hangs as it is
  have hmap : ((shownDoc d).map hang).getD (hang []) = hang ((shownDoc d).getD []) := Option.getD_map ..
  have hempty : hang [] = [] := rfl
  rw [hempty, getD_shownDoc] at hmap
  rw [hmap, hd.lined.hang.dedent_hang, hd.lined.dedent_hang, hd.dedented]

theorem parse_indented {cs : List Char} {t : Tree} (h : Indented.parse characterNamed? cs = .ok t) :
    Grammar.indented.parse cs = .ok t :=
  congrArg (Except.mapError _) h

theorem quiet_classTree (doc : Option (List Char)) : Quiet (classTree n doc).kids := by
  cases doc <;>
    simp [classTree, classHead, suiteForest, suiteBody, Tree.kids, Tree.Everywhere,
      Tree.preorderOfList, Tree.preorder, Tree.kind, Kind.declares]

theorem quiet_holderTree (m : List Char) (doc : Option (List Char)) :
    Quiet (holderTree n m doc).kids := by
  cases doc <;>
    simp [holderTree, methodTree, methodHead, classHead, suiteForest, suiteBody, Tree.kids,
      Tree.Everywhere, Tree.preorderOfList, Tree.preorder, Tree.kind, Kind.declares]

theorem reads_classSkeleton (hn : IsOwnName n) (hd : IsSettled d) {c : ClassRecord}
    (hlanguage : c.language = .python) (hname : c.name = .text (String.ofList n))
    (hdoc : c.doc = .text (String.ofList d)) (path : String) :
    ∃ c', extractSource .indented path (classSkeleton c .null).toList = .ok [c'] ∧ c'.methods = [] ∧
      c'.name = c.name ∧ c'.doc = c.doc := by
  have hn' := hn.toIsNameText
  have hshown := hd.shown
  have hparse : Indented.parse characterNamed? (classText n (shownDoc d)) = .ok _ :=
    parse_classText hn' (fun e he => (hshown e he).1)
      (notMem_classText (.inl rfl) hn' fun e he => (hshown e he).2.2 _ (.inl rfl))
      (notMem_classText (.inr rfl) hn' fun e he => (hshown e he).2.2 _ (.inr rfl))
  obtain ⟨s, hs, houtlines⟩ := classOutlines_of_class (n := n)
    (quiet_classTree (n := n) (shownDoc d)) rfl
  have hbody : s.tree.part? .body = some (.node .body (suiteBody margin (shownDoc d))) := by
    rw [hs]
    rfl
  have hdocument : indentedConvention.doc s = String.ofList d := by
    rw [doc_of_body (fun e he => (hshown e he).1.backslash) hbody, hd.dedent_shown]
  rw [toList_classSkeleton hlanguage hname hdoc hd, extractSource_of_parse (parse_indented hparse)]
  refine ⟨_, congrArg (fun os : List ClassOutline => Except.ok (os.map _)) houtlines, ?_, ?_, ?_⟩
  · rw [ClassRecord.ofOutline, methodOutlines_classTree hs]
    rfl
  · rw [hname]
    show Value.text (String.ofList (normalForm n)) = _
    rw [hn.normal]
  · rw [hdoc, ← hdocument]
    rfl

theorem reads_methodSkeleton {m : List Char} (hn : IsOwnName n) (hm : IsOwnName m)
    (hd : IsSettled d) {r : MethodRecord} (hname : r.name = .text (String.ofList m))
    (hdoc : r.doc = .text (String.ofList d)) (path : String) :
    ∃ c' r', extractSource .indented path
        (inBody (String.ofList n) (methodSkeleton r .python)).toList = .ok [c'] ∧
      c'.methods = [r'] ∧ r'.name = r.name ∧ r'.doc = r.doc := by
  have hn' := hn.toIsNameText
  have hm' := hm.toIsNameText
  -- documentation that is shown is hung under the margin of the class
  have hshown : ∀ e ∈ (shownDoc d).map hang, IsQuotable e ∧ ∀ c, c = '\r' ∨ c = '\x00' → c ∉ e := by
    intro e he
    obtain ⟨e', he', rfl⟩ := Option.map_eq_some_iff.1 he
    obtain ⟨hquotable, hlined, hno⟩ := hd.shown e' he'
    exact ⟨hquotable.hang hlined, fun c hc => notMem_hang hc (hno c hc)⟩
  have hparse : Indented.parse characterNamed? (methodText n m ((shownDoc d).map hang)) = .ok _ :=
    parse_methodText hn' hm' (fun e he => (hshown e he).1)
      (notMem_methodText (.inl rfl) hn' hm' fun e he => (hshown e he).2 _ (.inl rfl))
      (notMem_methodText (.inr rfl) hn' hm' fun e he => (hshown e he).2 _ (.inr rfl))
  obtain ⟨s, hs, houtlines⟩ := classOutlines_of_class (n := n)
    (quiet_holderTree (n := n) m ((shownDoc d).map hang)) rfl
  obtain ⟨o, hmethods, hcalled, hdocument⟩ := methodOutlines_holderTree hs
    fun e he => (hshown e he).1.backslash
  rw [toList_inBody hname hdoc hm' hd, extractSource_of_parse (parse_indented hparse)]
  refine ⟨_, .ofOutline (methodText n m ((shownDoc d).map hang)) o,
    congrArg (fun os : List ClassOutline => Except.ok (os.map _)) houtlines, ?_, ?_, ?_⟩
  · rw [ClassRecord.ofOutline, hmethods]
    rfl
  · rw [hname, MethodRecord.ofOutline, hcalled, hm.normal]
  · rw [hdoc, MethodRecord.ofOutline, hdocument, hd.dedent_shown_hang]

/-- The skeleton of a class or of a method, the latter in the body of any class, is accepted and shows
the same name and the same documentation, if the name is an identifier in its normal form and the
documentation is settled. -/
theorem extractSource_indentedSkeleton {n d : List Char} (hn : IsOwnName n) (hd : IsSettled d)
    (path : String) :
    (∀ c : ClassRecord, c.language = .python → c.name = .text (String.ofList n) →
      c.doc = .text (String.ofList d) →
      ∃ c', extractSource .indented path (classSkeleton c .null).toList = .ok [c'] ∧
        c'.methods = [] ∧ c'.name = c.name ∧ c'.doc = c.doc) ∧
    ∀ m : MethodRecord, m.name = .text (String.ofList n) → m.doc = .text (String.ofList d) →
      ∀ holder, IsOwnName holder →
      ∃ c' m', extractSource .indented path
          (inBody (String.ofList holder) (methodSkeleton m .python)).toList = .ok [c'] ∧
        c'.methods = [m'] ∧ m'.name = m.name ∧ m'.doc = m.doc :=
  ⟨fun _ hlanguage hname hdoc => reads_classSkeleton hn hd hlanguage hname hdoc path,
    fun _ hname hdoc _ hholder => reads_methodSkeleton hholder hn hd hname hdoc path⟩

/-- A class and a method, both of them documented by several lines. -/
def documentedShop : List Char :=
  "class Shop:\n    \"\"\"A \"small\" shop.\n\n      It sells café.\n    Nothing else.\n    \"\"\"\n\n    def sell(self, item):\n        '''Sells it\n        once.'''\n".toList

def shopOutline : ClassOutline where
  name := "Shop"
  doc := "A \"small\" shop.\n\n  It sells café.\nNothing else."
  methods := [⟨"sell", "Sells it\nonce.", 8, 10⟩]
  enclosing := none
  startLine := 1
  endLine := 10

/-- The skeletons of its class and of its method are read as the two of them again. -/
theorem extractSource_indentedSkeleton_documentedShop :
    ∃ c m c' c'' m'', extractSource .indented "a.py" documentedShop = .ok [c] ∧ c.methods = [m] ∧
      extractSource .indented "b.py" (classSkeleton c .null).toList = .ok [c'] ∧ c'.methods = [] ∧
      c'.name = .text "Shop" ∧ c'.doc = .text shopOutline.doc ∧
      extractSource .indented "b.py" (inBody "Shop" (methodSkeleton m .python)).toList = .ok [c''] ∧
      c''.methods = [m''] ∧ m''.name = .text "sell" ∧ m''.doc = .text "Sells it\nonce." := by
  have hout : (Grammar.indented.parse documentedShop).toOption.map
      Grammar.indented.convention.classOutlines = some [shopOutline] := by decide +kernel
  have hshop : IsOwnName "Shop".toList :=
    ⟨⟨isWordText_of_ascii (by decide) rfl (by decide) (by decide), by decide,
      forall_mem_of_all (by decide)⟩, normalForm_ascii _ (forall_mem_of_all (by decide))⟩
  have hsell : IsOwnName "sell".toList :=
    ⟨⟨isWordText_of_ascii (by decide) rfl (by decide) (by decide), by decide,
      forall_mem_of_all (by decide)⟩, normalForm_ascii _ (forall_mem_of_all (by decide))⟩
  have htext : IsSettled shopOutline.doc.toList :=
    ⟨⟨by decide, by decide, by decide⟩, by decide, forall_mem_of_all (by decide), by decide, by decide⟩
  have honce : IsSettled "Sells it\nonce.".toList :=
    ⟨⟨by decide, by decide, by decide⟩, by decide, forall_mem_of_all (by decide), by decide, by decide⟩
  obtain ⟨c', hread, hmethods, hname, hdoc⟩ := (extractSource_indentedSkeleton hshop htext "b.py").1
    (.ofOutline "a.py" .python documentedShop shopOutline) rfl rfl rfl
  obtain ⟨c'', m'', hread', hmethods', hname', hdoc'⟩ :=
    (extractSource_indentedSkeleton hsell honce "b.py").2
      (.ofOutline documentedShop ⟨"sell", "Sells it\nonce.", 8, 10⟩) rfl rfl _ hshop
  exact ⟨_, _, c', c'', m'', extractSource_of_outlines hout "a.py", rfl, hread, hmethods, hname, hdoc,
    hread', hmethods', hname', hdoc'⟩

/-- A class whose documentation ends with a quote. -/
def quotedGreeting : List Char := "class A:\n    'say \"hi\"'\n".toList

/-- Its skeleton, in which the quote ends the text early, is refused. -/
theorem extractSource_quotedGreeting :
    ∃ c, extractSource .indented "a.py" quotedGreeting = .ok [c] ∧ c.doc = .text "say \"hi\"" ∧
      ∀ classes, extractSource .indented "a.py" (classSkeleton c .null).toList ≠ .ok classes := by
  have hout : (Grammar.indented.parse quotedGreeting).toOption.map
      Grammar.indented.convention.classOutlines = some [⟨"A", "say \"hi\"", [], none, 1, 2⟩] := by
    decide +kernel
  have hrefused : (Grammar.indented.parse
      "class A:\n    \"\"\"say \"hi\"\"\"\"\n\n    ...".toList).toOption.isNone = true := by decide +kernel
  refine ⟨_, extractSource_of_outlines hout "a.py", rfl, fun classes hclasses => ?_⟩
  obtain ⟨t, ht, -⟩ := ok_of_map hclasses
  have hskeleton : Grammar.indented.parse
      "class A:\n    \"\"\"say \"hi\"\"\"\"\n\n    ...".toList = .ok t := ht
  rw [hskeleton] at hrefused
  cases hrefused

end Docent
