import Docent.Proofs.Indented.Plain
import Docent.Proofs.Indented.Suite
import Docent.Proofs.Lines
import Docent.Proofs.Margin

/-!
# Skeletons in indentation-structured sources

The text of a skeleton of a class, or of a method in the body of a class, the tokens that it is cut
into, and the tree that they are read as.
-/

namespace Docent.Indented

open Text Setting

/-! ### Texts of several lines -/

theorem joinLines_append (ls : List (List Char)) (l x : List Char) :
    joinLines (ls ++ [l]) ++ x = joinLines (ls ++ [l ++ x]) := by
  induction ls with
  | nil => rfl
  | cons k ls ih =>
    rw [List.cons_append, List.cons_append, joinLines_cons k (by simp), joinLines_cons k (by simp),
      List.append_assoc, List.cons_append, ih]

theorem append_joinLines (x l : List Char) (ls : List (List Char)) :
    x ++ joinLines (l :: ls) = joinLines ((x ++ l) :: ls) := by
  cases ls with
  | nil => rfl
  | cons k ls =>
    have hne : k :: ls ≠ [] := List.cons_ne_nil k ls
    rw [joinLines_cons l hne, joinLines_cons (x ++ l) hne, List.append_assoc]

structure IsShownLine (l : List Char) : Prop where
  ends : ∀ c ∈ l, isLineEnd c = false
  blank : isBlankLine l = true → l = []

theorem indented_joinLines {ls : List (List Char)} (hls : ∀ l ∈ ls, IsShownLine l) :
    indented (joinLines ls) = joinLines (ls.map pad) := by
  induction ls with
  | nil => rfl
  | cons l ls ih =>
    have hl := hls l List.mem_cons_self
    by_cases hne : ls = []
    · subst hne
      exact indented_line hl.ends hl.blank
    · rw [joinLines_cons l hne, indented_append_newline hl.ends hl.blank,
        ih fun k hk => hls k (List.mem_cons_of_mem l hk), List.map_cons,
        joinLines_cons _ (by simpa using hne)]

theorem indented_joinLines_append {ls : List (List Char)} (hne : ls ≠ [])
    (hls : ∀ l ∈ ls, IsShownLine l) (cs : List Char) :
    indented (joinLines ls ++ '\n' :: cs) = joinLines (ls.map pad) ++ '\n' :: indented cs := by
  induction ls with
  | nil => exact absurd rfl hne
  | cons l ls ih =>
    have hl := hls l List.mem_cons_self
    by_cases hnil : ls = []
    · subst hnil
      exact indented_append_newline hl.ends hl.blank cs
    · rw [joinLines_cons l hnil, List.append_assoc, List.cons_append,
        indented_append_newline hl.ends hl.blank,
        ih hnil fun k hk => hls k (List.mem_cons_of_mem l hk), List.map_cons,
        joinLines_cons _ (by simpa using hnil), List.append_assoc, List.cons_append]

/-! ### Documentation between quotes -/

variable {d : List Char}

theorem isShownLine_of_quote {x y : List Char} (hx : ∀ c ∈ x, isLineEnd c = false)
    (hy : ∀ c ∈ y, isLineEnd c = false) : IsShownLine (x ++ '"' :: y) where
  ends c hc := by
    rcases List.mem_append.1 hc with hc | hc
    · exact hx c hc
    · rcases List.mem_cons.1 hc with rfl | hc
      · rfl
      · exact hy c hc
  blank hblank := by
    have hquote := List.all_eq_true.1 hblank '"' (by simp)
    cases hquote

theorem isLineEnd_of_mem_tripleQuote : ∀ c ∈ tripleQuote, isLineEnd c = false :=
  forall_mem_of_all (by decide)

theorem isShownLine_opened {blanks x : List Char} (hblanks : ∀ c ∈ blanks, c = ' ')
    (hx : ∀ c ∈ x, isLineEnd c = false) : IsShownLine (blanks ++ tripleQuote ++ x) := by
  have hline : IsShownLine (blanks ++ '"' :: ('"' :: '"' :: x)) := by
    refine isShownLine_of_quote (fun c hc => ?_) fun c hc => ?_
    · rw [hblanks c hc]
      rfl
    · rcases List.mem_cons.1 hc with rfl | hc
      · rfl
      · rcases List.mem_cons.1 hc with rfl | hc
        · rfl
        · exact hx c hc
  rw [List.append_assoc]
  exact hline

theorem append_tripled_joinLines (front first : List Char) (lines : List (List Char))
    (last : List Char) :
    front ++ tripled (joinLines (first :: (lines ++ [last]))) =
      joinLines ((front ++ tripleQuote ++ first) :: (lines ++ [last ++ tripleQuote])) := by
  have happend := joinLines_append (first :: lines) last tripleQuote
  rw [List.cons_append, List.cons_append] at happend
  show front ++ (tripleQuote ++ (_ ++ tripleQuote)) = _
  rw [happend, ← List.append_assoc, append_joinLines]

theorem exists_lines_tripled (hd : Lined d) {blanks : List Char} (hblanks : ∀ c ∈ blanks, c = ' ') :
    ∃ ls, ls ≠ [] ∧ (∀ l ∈ ls, IsShownLine l) ∧ blanks ++ tripled d = joinLines ls ∧
      joinLines (ls.map pad) = margin ++ blanks ++ tripled (hang d) := by
  obtain ⟨first, rest, hpieces⟩ := exists_pieces d
  have hends {l : List Char} (hl : l ∈ first :: rest) : ∀ c ∈ l, isLineEnd c = false :=
    hd.ends_of_mem_pieces (hpieces ▸ hl)
  have hhang : hang d = joinLines (first :: rest.map pad) := hang_eq hpieces
  have hd' : d = joinLines (first :: rest) := by rw [← hpieces, joinLines_pieces]
  rcases List.eq_nil_or_concat rest with rfl | ⟨mid, l, rfl⟩
  · -- one line has both of the quotes
    have hsame : hang d = d := hhang.trans hd'.symm
    have hfirst : d = first := hd'
    refine ⟨[blanks ++ tripled d], by simp, fun k hk => ?_, rfl, ?_⟩
    · have hquoted : ∀ c ∈ d ++ tripleQuote, isLineEnd c = false := fun c hc =>
        (List.mem_append.1 hc).elim (hends (hfirst ▸ List.mem_cons_self) c)
          (isLineEnd_of_mem_tripleQuote c)
      have hline := isShownLine_opened hblanks hquoted
      rw [List.append_assoc] at hline
      rw [List.mem_singleton.1 hk]
      exact hline
    · rw [hsame, List.map_singleton, pad_of_ne_nil (by simp [tripled])]
      exact (List.append_assoc _ _ _).symm
  · -- of several lines the first one is opened and the last one closed
    rw [List.concat_eq_append] at hpieces hd' hhang hends
    have hl := hd.ne_nil_of_last hpieces
    have hlast : pad (l ++ tripleQuote) = pad l ++ tripleQuote := by
      rw [pad_of_ne_nil hl, pad_of_ne_nil (by simp [hl]), List.append_assoc]
    have hfront : pad (blanks ++ tripleQuote ++ first) = margin ++ blanks ++ tripleQuote ++ first := by
      rw [pad_of_ne_nil (by simp [tripleQuote])]
      simp only [List.append_assoc]
    refine ⟨(blanks ++ tripleQuote ++ first) :: (mid ++ [l ++ tripleQuote]), by simp, ?_, ?_, ?_⟩
    · intro k hk
      rcases List.mem_cons.1 hk with rfl | hk
      · exact isShownLine_opened hblanks (hends List.mem_cons_self)
      · rcases List.mem_append.1 hk with hk | hk
        · have hmem : k ∈ pieces '\n' d := by
            rw [hpieces]
            exact List.mem_cons_of_mem _ (List.mem_append_left _ hk)
          exact ⟨hd.ends_of_mem_pieces hmem, hd.blank k hmem⟩
        · rw [List.mem_singleton.1 hk]
          exact isShownLine_of_quote (hends (by simp)) (forall_mem_of_all (by decide))
    · rw [hd', append_tripled_joinLines]
    · rw [hhang, List.map_append, List.map_singleton, append_tripled_joinLines, List.map_cons,
        List.map_append, List.map_singleton, hlast, hfront]

/-! ### Suites -/

def suiteText (blanks : List Char) : Option (List Char) → List Char
  | none => blanks ++ dots
  | some d => blanks ++ tripled d ++ '\n' :: '\n' :: (blanks ++ dots)

def shownDoc (d : List Char) : Option (List Char) := if d = [] then none else some (hang d)

theorem eq_hang_of_mem_shownDoc {e : List Char} (he : e ∈ shownDoc d) : e = hang d := by
  rw [shownDoc] at he
  split at he
  · cases he
  · exact (Option.some.inj he).symm

theorem getD_shownDoc (d : List Char) : (shownDoc d).getD [] = hang d := by
  rw [shownDoc]
  split
  · rename_i hnil
    rw [hnil]
    rfl
  · rfl

theorem isShownLine_dots {blanks : List Char} (hblanks : ∀ c ∈ blanks, c = ' ') :
    IsShownLine (blanks ++ dots) where
  ends c hc := by
    have hdots : ∀ c ∈ dots, isLineEnd c = false := forall_mem_of_all (by decide)
    rcases List.mem_append.1 hc with hc | hc
    · rw [hblanks c hc]
      rfl
    · exact hdots c hc
  blank hblank := by
    have hdot := List.all_eq_true.1 hblank '.' (by simp [dots])
    cases hdot

theorem indented_suiteText {blanks : List Char} (hblanks : ∀ c ∈ blanks, c = ' ')
    {doc : Option (List Char)} (hdoc : ∀ d ∈ doc, Lined d) :
    indented (suiteText blanks doc) = suiteText (margin ++ blanks) (doc.map hang) := by
  have hline := isShownLine_dots hblanks
  have hdots : indented (blanks ++ dots) = margin ++ blanks ++ dots := by
    rw [indented_line hline.ends hline.blank, pad_of_ne_nil (by simp [dots]), List.append_assoc]
  cases doc with
  | none => exact hdots
  | some d =>
    obtain ⟨ls, hne, hls, htext, hpadded⟩ := exists_lines_tripled (hdoc d rfl) hblanks
    have hblank : indented ('\n' :: (blanks ++ dots)) = '\n' :: indented (blanks ++ dots) :=
      indented_append_newline (l := []) (by simp) (fun _ => rfl) _
    rw [suiteText, htext, indented_joinLines_append hne hls, hpadded, hblank, hdots]
    rfl

theorem toList_indentedBody (hd : Lined d) :
    (indentedBody (.text (String.ofList d))).toList = suiteText margin (shownDoc d) := by
  by_cases hnil : d = []
  · subst hnil
    rfl
  · have htrue : (Value.text (String.ofList d)).isTrue = true := by
      simp [Value.isTrue, hnil]
    obtain ⟨ls, -, hls, htext, hpadded⟩ := exists_lines_tripled hd (List.forall_mem_nil (· = ' '))
    have hshown : ("\"\"\"" ++ (Value.text (String.ofList d)).display ++ "\"\"\"").toList =
        joinLines ls := by
      rw [← htext]
      simp [Value.display, tripled, tripleQuote]
    rw [indentedBody, if_pos htrue, shownDoc, if_neg hnil, String.toList_append, String.toList_ofList,
      hshown, indented_joinLines hls, hpadded, List.append_nil]
    rfl

/-! ### Tokens -/

variable {cs lead : List Char} {columns : List Nat} {brackets : List Char} {steps : Nat}
  {ts : List Token}

theorem Begins.mono {n : Nat} (h : Begins cs lead columns steps ts) (hn : steps ≤ n) :
    Begins cs lead columns n ts :=
  fun s hs fuel hfuel => h s hs fuel (Nat.le_trans hn hfuel)

theorem Begins.suite {j k : Nat} {doc : Option (List Char)} (hj : j < k)
    (hcolumns : columns.length < 99) (hdoc : ∀ d ∈ doc, IsQuotable d)
    (h : Begins cs [] (k :: j :: columns) steps ts) :
    Begins (suiteText (List.replicate k ' ') doc ++ '\n' :: cs) [] (j :: columns) (steps + 9)
      ((suiteTokens (List.replicate k ' ') doc).dropLast ++ ts) := by
  have hblanks : (List.replicate k ' ' ++ []).reverse = List.replicate k ' ' := by simp
  cases doc with
  | none =>
    have hline := (Begins.deeper [] (rfl : isSolidHead '.' = true) hj hcolumns
      (Within.ellipsis _ (Within.newline [] h))).mono (n := steps + 9) (by omega)
    rw [hblanks] at hline
    rw [suiteText, List.append_assoc]
    exact hline
  | some d =>
    have hdots := Begins.same ['\n'] (rfl : isSolidHead '.' = true)
      (Within.ellipsis (List.replicate k ' ' ++ ['\n']) (Within.newline [] h))
    have hstring := Begins.deeper [] (rfl : isSolidHead '"' = true) hj hcolumns
      (Within.string (hdoc d rfl) (Within.newline [] (Begins.blankLine hdots)))
    have hlead : (List.replicate k ' ' ++ ['\n']).reverse = '\n' :: List.replicate k ' ' := by simp
    rw [hblanks, hlead] at hstring
    have htext : suiteText (List.replicate k ' ') (some d) ++ '\n' :: cs =
        List.replicate k ' ' ++ '"' :: ('"' :: '"' :: (d ++ tripleQuote) ++
          '\n' :: '\n' :: (List.replicate k ' ' ++ '.' :: '.' :: '.' :: '\n' :: cs)) := by
      simp [suiteText, tripled, dots]
    rw [htext]
    exact hstring.mono (by omega)

/-! ### The lines of heads -/

/-- A text that is taken as a name, on a line of its own as it were. -/
structure IsNameText (n : List Char) : Prop where
  word : IsWordText n
  keyword : keywords.contains (String.ofList n) = false
  ends : ∀ c ∈ n, isLineEnd c = false

def classLine (n : List Char) : List Char := "class".toList ++ ' ' :: (n ++ [':'])

/-- The line with which a method without parameters of its own begins. -/
def methodLine (n : List Char) : List Char := "def".toList ++ ' ' :: (n ++ "(self):".toList)

/-- The tokens of the line with which a class begins. -/
def classTokens (n : List Char) : List Token :=
  [.shown .keyword [] "class".toList, .shown .name [' '] n, .shown .mark [] [':'], lineEnd]

/-- The tokens of the line with which a method begins. -/
def methodTokens (n : List Char) : List Token :=
  [.shown .keyword [] "def".toList, .shown .name [' '] n, .shown .mark [] ['('],
    .shown .name [] "self".toList, .shown .mark [] [')'], .shown .mark [] [':'], lineEnd]

variable {n : List Char}

theorem IsNameText.wordKind (hn : IsNameText n) : wordKind n = .name :=
  if_neg (by rw [hn.keyword]; exact Bool.false_ne_true)

theorem isWordText_of_ascii {w : List Char} (hne : w ≠ []) (hstart : w.head?.all isWordStart = true)
    (hchars : w.all isWordChar = true) (hascii : w.all (·.toNat < 128) = true) : IsWordText w where
  ne_nil := hne
  start c hc := by
    rw [Option.mem_def.1 hc] at hstart
    exact hstart
  chars := List.all_eq_true.1 hchars
  flaw := if_pos hascii

theorem Within.classLine (hn : IsNameText n) (h : Begins cs [] columns steps ts) :
    Within (classLine n ++ '\n' :: cs) [] columns [] (steps + 4) (classTokens n ++ ts) := by
  have hclass : IsWordText "class".toList :=
    isWordText_of_ascii (by decide) (by decide) (by decide) (by decide)
  have hname := Within.word [' '] hn.word (rfl : isWordChar ':' = false) (by decide)
    (Within.colon [] (Within.newline [] h))
  rw [hn.wordKind] at hname
  have hline := Within.word [] hclass (rfl : isWordChar ' ' = false) (by decide)
    (Within.blank hname)
  have htext : Indented.classLine n ++ '\n' :: cs = "class".toList ++ ' ' :: (n ++ ':' :: '\n' :: cs) := by
    simp [Indented.classLine]
  rw [htext]
  exact hline

theorem Within.methodLine (hn : IsNameText n) (h : Begins cs [] columns steps ts) :
    Within (methodLine n ++ '\n' :: cs) [] columns [] (steps + 7) (methodTokens n ++ ts) := by
  have hdef : IsWordText "def".toList :=
    isWordText_of_ascii (by decide) (by decide) (by decide) (by decide)
  have hself : IsWordText "self".toList :=
    isWordText_of_ascii (by decide) (by decide) (by decide) (by decide)
  have hopen : ([] : List Char).length < 200 := by decide
  have hparameters := Within.opening [] hopen
    (Within.word [] hself (rfl : isWordChar ')' = false) (by decide)
      (Within.closing [] (Within.colon [] (Within.newline [] h))))
  have hname := Within.word [' '] hn.word (rfl : isWordChar '(' = false) (by decide)
    hparameters
  rw [hn.wordKind] at hname
  have hline := Within.word [] hdef (rfl : isWordChar ' ' = false) (by decide)
    (Within.blank hname)
  have htext : Indented.methodLine n ++ '\n' :: cs =
      "def".toList ++ ' ' :: (n ++ '(' :: ("self".toList ++ ')' :: ':' :: '\n' :: cs)) := by
    simp [Indented.methodLine]
  rw [htext]
  exact hline

/-! ### Whole texts -/

/-- The text of a class with a suite of values. -/
def classText (n : List Char) (doc : Option (List Char)) : List Char :=
  classLine n ++ '\n' :: suiteText margin doc

/-- The text of a class with a method that has a suite of values. -/
def methodText (n m : List Char) (doc : Option (List Char)) : List Char :=
  classLine n ++ '\n' :: (margin ++ methodLine m ++ '\n' :: suiteText (margin ++ margin) doc)

def suiteEnd : Token := .shown .dedent [] []

def sourceEnd : Token := .shown .finish [] []

theorem dropLast_suiteTokens (blanks : List Char) (doc : Option (List Char)) (us : List Token) :
    (suiteTokens blanks doc).dropLast ++ suiteEnd :: us = suiteTokens blanks doc ++ us := by
  cases doc <;> rfl

theorem shapes_classText {doc : Option (List Char)} (hn : IsNameText n)
    (hdoc : ∀ d ∈ doc, IsQuotable d) :
    (tokens (classText n doc ++ ['\n'])).map Token.shape =
      classTokens n ++ (suiteTokens margin doc ++ [sourceEnd]) := by
  have hfinish := Begins.finish [4] (by decide)
  have hsuite := Begins.suite (j := 0) (k := 4) (by decide) (by decide) hdoc hfinish
  have hbegins := Begins.same (k := 0) [] (rfl : isSolidHead 'c' = true)
    (Within.classLine hn hsuite)
  have hshapes := dropLast_suiteTokens margin doc [sourceEnd]
  have htext : classText n doc ++ ['\n'] =
      classLine n ++ '\n' :: (suiteText (List.replicate 4 ' ') doc ++ '\n' :: []) := by
    rw [classText, List.append_assoc]
    rfl
  rw [← hshapes, htext]
  refine shapes_tokens hbegins ?_
  simp [classLine]
  omega

theorem shapes_methodText {m : List Char} {doc : Option (List Char)} (hn : IsNameText n)
    (hm : IsNameText m) (hdoc : ∀ d ∈ doc, IsQuotable d) :
    (tokens (methodText n m doc ++ ['\n'])).map Token.shape =
      classTokens n ++ (.shown .indent margin [] :: (methodTokens m ++
        (suiteTokens (margin ++ margin) doc ++ [suiteEnd, sourceEnd]))) := by
  have hfinish := Begins.finish [8, 4] (by decide)
  have hsuite := Begins.suite (j := 4) (k := 8) (by decide) (by decide) hdoc hfinish
  have hbody := Begins.deeper (j := 0) (k := 4) []
    (rfl : isSolidHead 'd' = true) (by decide) (by decide) (Within.methodLine hm hsuite)
  have hbegins := Begins.same (k := 0) [] (rfl : isSolidHead 'c' = true)
    (Within.classLine hn hbody)
  have hshapes := dropLast_suiteTokens (margin ++ margin) doc [suiteEnd, sourceEnd]
  have htext : methodText n m doc ++ ['\n'] = classLine n ++ '\n' :: (List.replicate 4 ' ' ++
      (methodLine m ++ '\n' :: (suiteText (List.replicate 8 ' ') doc ++ '\n' :: []))) := by
    simp only [methodText, List.append_assoc, List.cons_append]
    rfl
  rw [← hshapes, htext]
  refine shapes_tokens hbegins ?_
  simp [classLine]
  omega

/-! ### Trees -/

open Reader

variable {names : List Char → Option Char} {suites : Nat → Option (Forest × Nat)}

theorem readable_of_last (h : '\r' ∉ cs) {c : Char} (hlast : cs.getLast? = some c) (hc : c ≠ '\n') :
    readable cs = cs ++ ['\n'] := by
  have hno : cs.getLast? ≠ some '\n' := by
    rw [hlast]
    exact fun heq => hc (Option.some.inj heq)
  rw [readable]
  simp only [unifyLines_of_notMem h, endsInPair_of_notMem h, if_neg hno, Bool.false_eq_true, if_false]

/-- The setting of a text in which every value stands by itself. -/
def setting (names : List Char → Option Char) (cs : List Char) (suites : Nat → Option (Forest × Nat)) :
    Setting where
  tokens := (tokens cs).toArray
  names := names
  table pos rule :=
    if rule = .block then suites pos
    else if rule.isValue then valueAt (tokens cs).toArray pos else none

theorem isLone_setting : (setting names cs suites).IsLone := fun _ _ h => if_neg h

theorem showsAll_of_shapes {us : List Token} (hus : ∀ u ∈ us, u.isBroken = false) {S : Setting}
    {pos : Nat} (h : (S.tokens.toList.drop pos).map Token.shape = us) : S.ShowsAll pos us := by
  induction us generalizing pos with
  | nil => trivial
  | cons u us ih =>
    obtain ⟨t, ts, hdrop, rfl, hts⟩ := List.map_eq_cons_iff.1 h
    have hat : S.tokens[pos]? = some t := by
      rw [← Array.getElem?_toList, ← List.head?_drop, hdrop]
      rfl
    have hbroken : t.shape.isBroken = false := hus t.shape List.mem_cons_self
    refine ⟨⟨t, ⟨hat, hbroken⟩, rfl⟩, ih (fun v hv => hus v (List.mem_cons_of_mem _ hv)) ?_⟩
    rw [← List.tail_drop, hdrop]
    exact hts

theorem showsAll_setting {us : List Token} (hus : ∀ u ∈ us, u.isBroken = false)
    (h : (tokens cs).map Token.shape = us) : (setting names cs suites).ShowsAll 0 us :=
  showsAll_of_shapes hus h

theorem parse_of_goes {f : Forest} {pos : Nat} (hreturn : '\r' ∉ cs) (hnull : '\x00' ∉ cs)
    (hlast : cs.getLast? = some '.')
    (h : (setting names (cs ++ ['\n']) suites).Goes
      (wholeSource (run names (depthBound (unifyLines cs).length))) 0 f pos) :
    parse names cs = .ok (.node .item f) := by
  have hno : cs.contains '\x00' = false := by
    rw [List.contains_eq_mem, decide_eq_false_iff_not]
    exact hnull
  have hreadable := readable_of_last hreturn hlast (by decide)
  have hwhole := h.parseWhole fun _ _ => none
  rw [parse, if_neg (by rw [hno]; exact Bool.false_ne_true), hreadable]
  exact congrArg (Except.map (Tree.node .item)) hwhole

theorem goes_definition {S : Setting} {f : Forest} {pos pos' fuel : Nat}
    (hgoes : S.Goes (compoundStatement (run S.names fuel)) pos f pos')
    (hmisses : S.Misses (statement (run S.names fuel)) pos') :
    S.Goes (run S.names (fuel + 1) .statements) pos f pos' := by
  refine gives_run_of (r := some (_, _)) rfl ?_
  have hread := (Goes.orElse (q := simpleStatements (run S.names fuel)) hgoes).append
    (goes_many hmisses)
  rw [List.append_nil] at hread
  exact hread

/-- The tree of a class with a suite of values. -/
def classTree (n : List Char) (doc : Option (List Char)) : Tree :=
  .node .classDecl (classHead n ++ suiteForest margin doc)

/-- The tree of a method with a suite of values. -/
def methodTree (m blanks : List Char) (doc : Option (List Char)) : Tree :=
  .node .method (methodHead m ++ suiteForest blanks doc)

/-- The tree of a class with one such method. -/
def holderTree (n m : List Char) (doc : Option (List Char)) : Tree :=
  .node .classDecl (classHead n ++ [.leaf .blank ['\n'], .leaf .blank margin,
    .node .body [methodTree m (margin ++ margin) doc]])

theorem hasValue_tripled {names : List Char → Option Char} (hd : IsQuotable d) :
    (Token.shown .string [] (tripled d)).HasValue names where
  text := by simp [Token.shown, tripled]
  bytes := by
    show (Literal.ofText (tripled d)).isBytes = false
    rw [ofText_tripled]
  formatted := by
    show (Literal.ofText (tripled d)).isFormatted = false
    rw [ofText_tripled]
  value := ⟨d, value_tripled hd.backslash⟩

theorem isBroken_classTokens : ∀ u ∈ classTokens n, u.isBroken = false := by
  simp [classTokens, Token.isBroken, Token.shown, lineEnd]

theorem isBroken_methodTokens : ∀ u ∈ methodTokens n, u.isBroken = false := by
  simp [methodTokens, Token.isBroken, Token.shown, lineEnd]

theorem isBroken_suiteTokens {blanks : List Char} {doc : Option (List Char)} :
    ∀ u ∈ suiteTokens blanks doc, u.isBroken = false := by
  cases doc <;> simp [suiteTokens, Token.isBroken, Token.shown, lineEnd]

theorem isBroken_ends : ∀ u ∈ [suiteEnd, sourceEnd], u.isBroken = false := by
  simp [suiteEnd, sourceEnd, Token.isBroken, Token.shown]

theorem isPlain_sourceEnd : sourceEnd.IsPlain :=
  isPlain_of_kind rfl rfl (by rintro ⟨⟩) (by rintro ⟨⟩)

theorem parse_of_definition {t : Tree} {pos : Nat} (fuel : Nat) (hreturn : '\r' ∉ cs) (hnull : '\x00' ∉ cs)
    (hlast : cs.getLast? = some '.') (hfuel : depthBound (unifyLines cs).length = fuel + 21)
    (hgoes : (setting names (cs ++ ['\n']) suites).Goes (compoundStatement (run names (fuel + 20))) 0
      [t] pos)
    (hend : (setting names (cs ++ ['\n']) suites).Shows pos sourceEnd) :
    parse names cs = .ok (.node .item [t]) := by
  let S := setting names (cs ++ ['\n']) suites
  have hS : S.IsLone := isLone_setting
  obtain ⟨hlone, hno⟩ := lone_of_no_value hend isPlain_sourceEnd rfl rfl
  have hstatements := goes_definition hgoes (misses_statement hS hlone hno (fuel + 2))
  have hopt : S.Goes (opt (run S.names (fuel + 21) .statements)) 0 _ _ := hstatements.orElse
  have hwhole : S.Goes (wholeSource (run names (depthBound (unifyLines cs).length))) 0 [t] (pos + 1) := by
    rw [hfuel]
    exact hopt.append (hend.goes_finish rfl)
  exact parse_of_goes hreturn hnull hlast hwhole

theorem getLast?_suiteText (blanks : List Char) (doc : Option (List Char)) :
    (suiteText blanks doc).getLast? = some '.' := by
  cases doc <;> simp [suiteText, dots, List.getLast?_append, List.getLast?_cons]

theorem exists_fuel (k : Nat) : ∃ fuel, depthBound k = fuel + 23 :=
  ⟨40 * k + 177, by rw [depthBound]; omega⟩

theorem parse_classText {doc : Option (List Char)} (hn : IsNameText n)
    (hdoc : ∀ d ∈ doc, IsQuotable d) (hreturn : '\r' ∉ classText n doc)
    (hnull : '\x00' ∉ classText n doc) :
    parse names (classText n doc) = .ok (.node .item [classTree n doc]) := by
  -- the only suite comes after three tokens
  let suites : Nat → Option (Forest × Nat) :=
    fun _ => some (suiteForest margin doc, 4 + (suiteTokens margin doc).length)
  let S := setting names (classText n doc ++ ['\n']) suites
  have hS : S.IsLone := isLone_setting
  have hlast : (classText n doc).getLast? = some '.' := by
    rw [classText, List.getLast?_append, List.getLast?_cons, getLast?_suiteText]
    rfl
  have hall : S.ShowsAll 0 (classTokens n ++ (suiteTokens margin doc ++ [sourceEnd])) := by
    refine showsAll_setting ?_ (shapes_classText hn hdoc)
    intro u hu
    rcases List.mem_append.1 hu with hu | hu
    · exact isBroken_classTokens u hu
    · rcases List.mem_append.1 hu with hu | hu
      · exact isBroken_suiteTokens u hu
      · rw [List.mem_singleton.1 hu]
        rfl
  obtain ⟨⟨h₀, h₁, h₂, h₃, -⟩, hall⟩ := showsAll_append hall
  obtain ⟨hsuite, hend, -⟩ := showsAll_append hall
  have hvalue : ∀ d ∈ doc, (Token.shown .string [] (tripled d)).HasValue S.names :=
    fun d hd => hasValue_tripled (hdoc d hd)
  obtain ⟨fuel, hfuel⟩ := exists_fuel (unifyLines (classText n doc)).length
  have hblock : S.Goes (run S.names (fuel + 22) .block) 3 (suiteForest margin doc)
      (3 + 1 + (suiteTokens margin doc).length) :=
    goes_block hS (by decide) h₃ hsuite hvalue (fuel + 2) rfl
  have hclass : S.Goes (compoundStatement (run S.names (fuel + 22))) 0 _ _ :=
    goes_class hn.word.ne_nil h₀ h₁ h₂ hblock
  have hlength : 3 + 1 + (suiteTokens margin doc).length =
      0 + (classTokens n).length + (suiteTokens margin doc).length := by simp [classTokens]
  rw [hlength] at hclass
  exact parse_of_definition (fuel + 2) hreturn hnull hlast hfuel hclass hend

theorem goes_blockOf {S : Setting} {blanks : List Char} {t : Tree} {pos pos' fuel : Nat}
    (hblanks : blanks ≠ []) (ht : t.kind = .method) (hS : S.IsLone) (h₀ : S.Shows pos lineEnd)
    (h₁ : S.Shows (pos + 1) (.shown .indent blanks []))
    (hgoes : S.Goes (compoundStatement (run S.names (fuel + 20))) (pos + 2) [t] pos')
    (hend : S.Shows pos' suiteEnd)
    (htable : S.table pos .block =
      some ([.leaf .blank ['\n'], .leaf .blank blanks, .node .body [t]], pos' + 1)) :
    S.Goes (run S.names (fuel + 22) .block) pos
      [.leaf .blank ['\n'], .leaf .blank blanks, .node .body [t]] (pos' + 1) := by
  refine Gives.run (r := some (_, _)) ?_ fun _ => htable
  obtain ⟨hlone, hno⟩ := lone_of_no_value hend isPlain_dedent rfl rfl
  have hstatements := goes_definition hgoes (misses_statement hS hlone hno (fuel + 2))
  have hread := (((h₀.goes_newline rfl).append (h₁.goes_indent rfl)).append hstatements).append
    (hend.goes_dedent rfl)
  have hforest : Tree.close .body (leaves .blank lineEnd ++ leaves .blank (.shown .indent blanks []) ++
      [t] ++ leaves .blank suiteEnd) = [.leaf .blank ['\n'], .leaf .blank blanks, .node .body [t]] := by
    cases t with
    | leaf k cs =>
      obtain rfl : k = .method := ht
      simp [leaves, lineEnd, suiteEnd, Token.shown, hblanks, Tree.close]
    | node k ts => simp [leaves, lineEnd, suiteEnd, Token.shown, hblanks, Tree.close]
  have hnode := hread.node .body
  rw [hforest] at hnode
  exact hnode.orElse

theorem parse_methodText {m : List Char} {doc : Option (List Char)} (hn : IsNameText n)
    (hm : IsNameText m) (hdoc : ∀ d ∈ doc, IsQuotable d) (hreturn : '\r' ∉ methodText n m doc)
    (hnull : '\x00' ∉ methodText n m doc) :
    parse names (methodText n m doc) = .ok (.node .item [holderTree n m doc]) := by
  let blanks := margin ++ margin
  let method := methodTree m blanks doc
  -- the suite of the class comes after three tokens, that of the method after eleven
  let suites : Nat → Option (Forest × Nat) := fun pos =>
    if pos = 3 then
      some ([.leaf .blank ['\n'], .leaf .blank margin, .node .body [method]],
        12 + (suiteTokens blanks doc).length + 1)
    else some (suiteForest blanks doc, 12 + (suiteTokens blanks doc).length)
  let S := setting names (methodText n m doc ++ ['\n']) suites
  have hS : S.IsLone := isLone_setting
  have hlast : (methodText n m doc).getLast? = some '.' := by
    rw [methodText, List.getLast?_append, List.getLast?_cons, List.getLast?_append,
      List.getLast?_cons, getLast?_suiteText]
    rfl
  have hall : S.ShowsAll 0 (classTokens n ++ (.shown .indent margin [] :: (methodTokens m ++
      (suiteTokens blanks doc ++ [suiteEnd, sourceEnd])))) := by
    refine showsAll_setting ?_ (shapes_methodText hn hm hdoc)
    intro u hu
    rcases List.mem_append.1 hu with hu | hu
    · exact isBroken_classTokens u hu
    · rcases List.mem_cons.1 hu with rfl | hu
      · rfl
      · rcases List.mem_append.1 hu with hu | hu
        · exact isBroken_methodTokens u hu
        · rcases List.mem_append.1 hu with hu | hu
          · exact isBroken_suiteTokens u hu
          · exact isBroken_ends u hu
  -- what stands at each position, from the head of the class to the end of the source
  obtain ⟨⟨h₀, h₁, h₂, h₃, -⟩, hindent, hall⟩ := showsAll_append hall
  obtain ⟨⟨m₀, m₁, m₂, m₃, m₄, m₅, m₆, -⟩, hall⟩ := showsAll_append hall
  obtain ⟨hsuite, hdedent, hend, -⟩ := showsAll_append hall
  have hvalue : ∀ d ∈ doc, (Token.shown .string [] (tripled d)).HasValue S.names :=
    fun d hd => hasValue_tripled (hdoc d hd)
  obtain ⟨fuel, hfuel⟩ := exists_fuel (unifyLines (methodText n m doc)).length
  -- rules stand in rules: the suite in the method, that in the suite of the class
  have hinner : S.Goes (run S.names (fuel + 20) .block) 11 (suiteForest blanks doc)
      (11 + 1 + (suiteTokens blanks doc).length) :=
    goes_block hS (by decide) m₆ hsuite hvalue fuel rfl
  have hmethod : S.Goes (compoundStatement (run S.names (fuel + 20))) 5 _ _ :=
    goes_method hm.word.ne_nil m₀ m₁ m₂ m₃ m₄ m₅ hinner
  have hlength : 11 + 1 + (suiteTokens blanks doc).length =
      0 + (classTokens n).length + 1 + (methodTokens m).length + (suiteTokens blanks doc).length := by
    simp [classTokens, methodTokens]
  rw [hlength] at hmethod
  have hblock : S.Goes (run S.names (fuel + 22) .block) 3 _ _ :=
    goes_blockOf (by decide) rfl hS h₃ hindent hmethod hdedent (by rw [← hlength]; rfl)
  have hclass : S.Goes (compoundStatement (run S.names (fuel + 22))) 0 _ _ :=
    goes_class hn.word.ne_nil h₀ h₁ h₂ hblock
  exact parse_of_definition (fuel + 2) hreturn hnull hlast hfuel hclass hend

end Docent.Indented
