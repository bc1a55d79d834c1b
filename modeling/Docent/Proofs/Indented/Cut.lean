import Docent.Proofs.Indented.Tokens

/-!
# The tokens of a known text

What the scanner makes of a text piece by piece: at the start of a line it measures the
indentation, within a line it takes words, marks and strings. `Begins` and `Within` tell which
tokens come from a place on and how many steps of the scanner bring them; each lemma puts one piece
before the text of another one. Tokens are told by shape, since the lines they stand on depend on
the whole source.
-/

namespace Docent.Indented

/-- A token without its line and without the number of brackets open after it. -/
def Token.shape (t : Token) : Token := { t with line := 0, depth := 0 }

/-- The shape of a token that was taken as it stands in the text. -/
def Token.shown (kind : TokenKind) (lead text : List Char) : Token :=
  ⟨kind, lead, text, String.ofList text, 0, 0⟩

/-- A scanner with so much text ahead, so much (in reverse) since the last token, these columns of
indentation and these open brackets, which has no change of indentation to report. -/
structure Cursor.Stands (s : Cursor) (atStart : Bool) (rest lead : List Char) (columns : List Nat)
    (brackets : List Char) : Prop where
  rest : s.rest = rest
  lead : s.lead = lead
  indents : s.indents = columns.map fun n => (n, n)
  brackets : s.brackets.map Prod.fst = brackets
  pending : s.pending = 0
  atStart : s.atStart = atStart
  blankLine : s.blankLine = false

/-- The tokens that come from a place within a line on. -/
def Within (rest lead : List Char) (columns : List Nat) (brackets : List Char) (steps : Nat)
    (ts : List Token) : Prop :=
  ∀ s : Cursor, s.Stands false rest lead columns brackets → ∀ fuel, steps ≤ fuel →
    (tokensFrom fuel s).map Token.shape = ts

/-- The tokens that come from the start of a line on, where no bracket is open. -/
def Begins (rest lead : List Char) (columns : List Nat) (steps : Nat) (ts : List Token) : Prop :=
  ∀ s : Cursor, s.Stands true rest lead columns [] → ∀ fuel, steps ≤ fuel →
    (tokensFrom fuel s).map Token.shape = ts

theorem forall_mem_of_all {α : Type} {p : α → Prop} [DecidablePred p] {as : List α}
    (h : (as.all fun a => decide (p a)) = true) : ∀ a ∈ as, p a :=
  fun a ha => of_decide_eq_true (List.all_eq_true.1 h a ha)

/-- Whether a character begins a token other than a line end. -/
def isSolidHead (c : Char) : Bool := !([' ', '\t', '\x0c', '#', '\n', '\\'].contains c)

variable {s : Cursor} {c : Char} {rest cs lead text : List Char} {columns : List Nat}
  {brackets : List Char} {steps fuel k : Nat} {u : Token} {ts : List Token}

theorem isSolidHead_iff : isSolidHead c = true ↔
    c ≠ ' ' ∧ c ≠ '\t' ∧ c ≠ '\x0c' ∧ c ≠ '#' ∧ c ≠ '\n' ∧ c ≠ '\\' := by
  simp [isSolidHead]

theorem isSolidHead_of_isWordStart (h : isWordStart c = true) : isSolidHead c = true := by
  rw [isSolidHead_iff]
  refine ⟨?_, ?_, ?_, ?_, ?_, ?_⟩
  all_goals
    rintro rfl
    exact absurd h (by decide)

namespace Cursor.Stands

theorem skipBlanks (hc : isSolidHead c = true ∨ c = '\n') :
    Cursor.skipBlanks lead (c :: cs) = (lead, c :: cs) := by
  have hno : ¬(c = ' ' ∨ c = '\t' ∨ c = '\x0c') ∧ c ≠ '#' := by
    rcases hc with hc | rfl
    · obtain ⟨h₁, h₂, h₃, h₄, -⟩ := isSolidHead_iff.1 hc
      exact ⟨by rintro (h | h | h) <;> contradiction, h₄⟩
    · decide
  rw [Cursor.skipBlanks, if_neg hno.1, if_neg hno.2]

theorem tokensFrom_of_solid (h : s.Stands false (c :: cs) lead columns brackets)
    (hc : isSolidHead c = true) :
    tokensFrom (fuel + 1) s = match s.nextToken with
      | .ok (t, s') => t :: tokensFrom fuel s'
      | .error t => [t] := by
  obtain ⟨-, -, -, -, hnewline, hbackslash⟩ := isSolidHead_iff.1 hc
  have hskip : Cursor.skipBlanks s.lead s.rest = (s.lead, s.rest) := by
    rw [h.rest]
    exact skipBlanks (.inl hc)
  rw [tokensFrom, if_neg (by rw [h.atStart]; exact Bool.false_ne_true),
    if_neg (by rw [h.pending]; decide), if_neg (by rw [h.pending]; decide), hskip]
  dsimp only
  split
  · rename_i heq
    rw [h.rest] at heq
    cases heq
  · rename_i heq
    rw [h.rest] at heq
    exact absurd (List.cons.inj heq).1 hnewline
  · rename_i heq
    rw [h.rest] at heq
    exact absurd (List.cons.inj heq).1 hbackslash
  · rfl

end Cursor.Stands

/-! ### Within a line -/

theorem Within.token {cs' brackets' : List Char} (hc : isSolidHead c = true)
    (hnext : ∀ s : Cursor, s.Stands false (c :: cs) lead columns brackets →
      ∃ t s', s.nextToken = .ok (t, s') ∧ t.shape = u ∧ s'.Stands false cs' [] columns brackets')
    (h : Within cs' [] columns brackets' steps ts) :
    Within (c :: cs) lead columns brackets (steps + 1) (u :: ts) := by
  intro s hs fuel hfuel
  obtain ⟨fuel, rfl⟩ := Nat.exists_eq_add_of_lt hfuel
  obtain ⟨t, s', hrun, hshape, hs'⟩ := hnext s hs
  rw [hs.tokensFrom_of_solid hc, hrun]
  dsimp only
  rw [List.map_cons, hshape, h s' hs' _ (Nat.le_add_right _ _)]

theorem Within.blank (h : Within cs (' ' :: lead) columns brackets steps ts) :
    Within (' ' :: cs) lead columns brackets steps ts := by
  intro s hs fuel hfuel
  rw [← h { s with rest := cs, lead := ' ' :: lead }
    ⟨rfl, rfl, hs.indents, hs.brackets, hs.pending, hs.atStart, hs.blankLine⟩ fuel hfuel]
  congr 1
  cases fuel with
  | zero => rfl
  | succ fuel =>
    have hskip : Cursor.skipBlanks s.lead s.rest = Cursor.skipBlanks (' ' :: lead) cs := by
      rw [hs.rest, hs.lead]
      rfl
    rw [tokensFrom, tokensFrom]
    simp only [hs.atStart, hs.pending, hskip, Bool.false_eq_true, if_false, Int.lt_irrefl, gt_iff_lt]

theorem Within.newline (lead : List Char) (h : Begins cs [] columns steps ts) :
    Within ('\n' :: cs) lead columns [] (steps + 1)
      (Token.shown .newline lead.reverse ['\n'] :: ts) := by
  intro s hs fuel hfuel
  obtain ⟨fuel, rfl⟩ := Nat.exists_eq_add_of_lt hfuel
  have hskip : Cursor.skipBlanks s.lead s.rest = (lead, '\n' :: cs) := by
    rw [hs.rest, hs.lead]
    exact Cursor.Stands.skipBlanks (.inr rfl)
  have hbrackets : s.brackets = [] := List.map_eq_nil_iff.1 hs.brackets
  rw [tokensFrom]
  simp only [hs.atStart, hs.pending, hs.blankLine, hskip, hbrackets, Bool.false_eq_true, if_false,
    Int.lt_irrefl, gt_iff_lt, List.isEmpty_nil, Bool.not_true, Bool.or_self]
  refine congrArg₂ List.cons rfl (h _ ?_ _ (Nat.le_add_right _ _))
  exact ⟨rfl, rfl, hs.indents, rfl, rfl, rfl, rfl⟩

/-! ### At the start of a line -/

/-- What stands after the indentation of a line: no blank and no continued line end. -/
def EndsIndentation (cs : List Char) : Prop :=
  ∀ c ∈ cs.head?, c ≠ ' ' ∧ c ≠ '\t' ∧ c ≠ '\x0c' ∧ c ≠ '\\'

theorem Cursor.measure_blanks (hcs : EndsIndentation cs) (s : Cursor)
    (hrest : s.rest = List.replicate k ' ' ++ cs) (hfuel : k < fuel) (col : Nat) :
    Cursor.measure fuel s col col 0 =
      .ok ({ s with rest := cs, lead := List.replicate k ' ' ++ s.lead }, col + k, col + k) := by
  -- on the blanks, with the column reached so far
  induction k generalizing s col fuel with
  | zero =>
    obtain ⟨fuel, rfl⟩ := Nat.exists_eq_add_of_lt hfuel
    rw [List.replicate_zero, List.nil_append] at hrest
    rw [Cursor.measure, ← hrest]
    rw [← hrest] at hcs
    split
    · rename_i heq
      exact absurd rfl (hcs ' ' (by rw [heq]; rfl)).1
    · rename_i heq
      exact absurd rfl (hcs '\t' (by rw [heq]; rfl)).2.1
    · rename_i heq
      exact absurd rfl (hcs '\x0c' (by rw [heq]; rfl)).2.2.1
    · rename_i heq
      exact absurd rfl (hcs '\\' (by rw [heq]; rfl)).2.2.2
    · rfl
  | succ k ih =>
    obtain ⟨fuel, rfl⟩ := Nat.exists_eq_add_of_lt hfuel
    rw [List.replicate_succ, List.cons_append] at hrest
    rw [show k + 1 + fuel + 1 = (k + 1 + fuel) + 1 from rfl, Cursor.measure, hrest]
    show Cursor.measure (k + 1 + fuel) (s.skip ' ' (List.replicate k ' ' ++ cs)) (col + 1) (col + 1) 0 = _
    rw [ih _ rfl (by omega)]
    simp only [Cursor.skip, if_neg (show ¬(' ' = '\n') by decide), Except.ok.injEq, Prod.mk.injEq,
      Cursor.mk.injEq, true_and, and_true]
    refine ⟨?_, by omega, by omega⟩
    rw [List.replicate_succ', List.append_assoc, List.singleton_append]

theorem Cursor.startLine_solid (hc : isSolidHead c = true) (hs : s.brackets = [])
    (hrest : s.rest = List.replicate k ' ' ++ c :: cs) :
    s.startLine = { s with
      rest := c :: cs, lead := List.replicate k ' ' ++ s.lead, atStart := false,
      blankLine := false }.indentTo k k := by
  obtain ⟨h₁, h₂, h₃, hhash, hnewline, h₆⟩ := isSolidHead_iff.1 hc
  have hends : EndsIndentation (c :: cs) := by
    rintro d ⟨⟩
    exact ⟨h₁, h₂, h₃, h₆⟩
  have hfuel : k < s.rest.length + 1 := by
    rw [hrest, List.length_append, List.length_replicate]
    omega
  rw [Cursor.startLine, measure_blanks hends s hrest hfuel]
  simp only [bind, Except.bind, Nat.zero_add]
  split
  · rename_i heq
    exact absurd (List.cons.inj heq).1 hhash
  · rename_i heq
    exact absurd (List.cons.inj heq).1 hnewline
  · rw [if_pos (by rw [hs]; rfl)]

theorem Begins.blankLine (h : Begins cs ('\n' :: lead) columns steps ts) :
    Begins ('\n' :: cs) lead columns (steps + 2) ts := by
  intro s hs fuel hfuel
  obtain ⟨fuel, rfl⟩ := Nat.exists_eq_add_of_lt hfuel
  have hends : EndsIndentation ('\n' :: cs) := by
    rintro d ⟨⟩
    decide
  have hstart : s.startLine = .ok { s with atStart := false, blankLine := true } := by
    rw [Cursor.startLine, Cursor.measure_blanks (k := 0) hends s hs.rest (Nat.succ_pos _)]
    simp only [bind, Except.bind]
    rw [← hs.rest]
    rfl
  have hskip : Cursor.skipBlanks s.lead s.rest = (lead, '\n' :: cs) := by
    rw [hs.rest, hs.lead]
    exact Cursor.Stands.skipBlanks (.inr rfl)
  rw [show steps + 1 + fuel + 1 = (steps + fuel) + 1 + 1 by omega, tokensFrom, if_pos hs.atStart,
    hstart]
  dsimp only
  rw [tokensFrom]
  simp only [hs.pending, hskip, Bool.false_eq_true, if_false, Int.lt_irrefl, gt_iff_lt, Bool.true_or,
    if_true]
  refine h _ ?_ _ (Nat.le_add_right _ _)
  exact ⟨rfl, rfl, hs.indents, hs.brackets, rfl, rfl, rfl⟩

theorem Begins.same (lead : List Char) (hc : isSolidHead c = true)
    (h : Within (c :: cs) (List.replicate k ' ' ++ lead) (k :: columns) [] steps ts) :
    Begins (List.replicate k ' ' ++ c :: cs) lead (k :: columns) (steps + 1) ts := by
  intro s hs fuel hfuel
  obtain ⟨fuel, rfl⟩ := Nat.exists_eq_add_of_lt hfuel
  have hbrackets : s.brackets = [] := List.map_eq_nil_iff.1 hs.brackets
  rw [tokensFrom, if_pos hs.atStart, Cursor.startLine_solid hc hbrackets hs.rest, Cursor.indentTo]
  simp only [hs.indents, List.map_cons, if_true]
  refine h _ ?_ _ (Nat.le_add_right _ _)
  exact ⟨rfl, congrArg _ hs.lead, rfl, hs.brackets, hs.pending, rfl, rfl⟩

theorem Begins.deeper (lead : List Char) {j : Nat} (hc : isSolidHead c = true) (hj : j < k)
    (hcolumns : columns.length < 99)
    (h : Within (c :: cs) [] (k :: j :: columns) [] steps ts) :
    Begins (List.replicate k ' ' ++ c :: cs) lead (j :: columns) (steps + 2)
      (Token.shown .indent (List.replicate k ' ' ++ lead).reverse [] :: ts) := by
  intro s hs fuel hfuel
  obtain ⟨fuel, rfl⟩ := Nat.exists_eq_add_of_lt hfuel
  have hbrackets : s.brackets = [] := List.map_eq_nil_iff.1 hs.brackets
  rw [show steps + 1 + fuel + 1 = (steps + fuel) + 1 + 1 by omega, tokensFrom, if_pos hs.atStart,
    Cursor.startLine_solid hc hbrackets hs.rest, Cursor.indentTo]
  simp only [hs.indents, List.map_cons, List.length_cons, List.length_map,
    if_neg (Nat.ne_of_gt hj), if_pos hj, gt_iff_lt, if_neg (Nat.not_le.2 hj), ge_iff_le,
    if_neg (show ¬100 ≤ columns.length + 1 by omega)]
  rw [tokensFrom]
  simp only [Bool.false_eq_true, if_false, if_true, Int.one_pos, gt_iff_lt,
    if_neg (show ¬(1 : Int) < 0 by decide)]
  have htoken : (Token.shown .indent (List.replicate k ' ' ++ s.lead).reverse []) =
      Token.shown .indent (List.replicate k ' ' ++ lead).reverse [] := by rw [hs.lead]
  refine congrArg₂ List.cons htoken (h _ ?_ _ (Nat.le_add_right _ _))
  exact ⟨rfl, rfl, rfl, hs.brackets, rfl, rfl, rfl⟩

theorem tokensFrom_finish {m : Nat} (hrest : s.rest = []) (hlead : s.lead = [])
    (hbrackets : s.brackets = []) (hstart : s.atStart = false) (hpending : s.pending = -(m : Int))
    (hfuel : m < fuel) :
    (tokensFrom fuel s).map Token.shape =
      List.replicate m (Token.shown .dedent [] []) ++ [Token.shown .finish [] []] := by
  obtain ⟨fuel, rfl⟩ := Nat.exists_eq_succ_of_ne_zero (Nat.ne_of_gt (Nat.zero_lt_of_lt hfuel))
  induction m generalizing s fuel with
  | zero =>
    rw [tokensFrom]
    simp [hstart, hpending, hrest, hlead, hbrackets, Cursor.skipBlanks, Cursor.token, Token.shape,
      Token.shown]
  | succ m ih =>
    obtain ⟨fuel, rfl⟩ := Nat.exists_eq_succ_of_ne_zero (show fuel ≠ 0 by omega)
    have hstep : s.pending + 1 = -(m : Int) := by omega
    have hmore := @ih { s with pending := s.pending + 1 } hrest hlead hbrackets hstart
      hstep fuel (by omega)
    rw [tokensFrom, if_neg (by rw [hstart]; exact Bool.false_ne_true), if_pos (by omega)]
    exact congrArg₂ List.cons rfl hmore

theorem Begins.finish (columns : List Nat) (hcolumns : ∀ n ∈ columns, 0 < n) :
    Begins [] [] (columns ++ [0]) (columns.length + 2)
      (List.replicate columns.length (Token.shown .dedent [] []) ++ [Token.shown .finish [] []]) := by
  intro s hs fuel hfuel
  obtain ⟨fuel, rfl⟩ := Nat.exists_eq_add_of_lt hfuel
  have hbrackets : s.brackets = [] := List.map_eq_nil_iff.1 hs.brackets
  have hkept : ((columns ++ [0]).map fun n => (n, n)).dropWhile (fun i => (0 : Nat) < i.1) =
      [(0, 0)] := by
    rw [List.map_append, List.dropWhile_append_of_pos]
    · rfl
    · intro i hi
      obtain ⟨n, hn, rfl⟩ := List.mem_map.1 hi
      exact decide_eq_true (hcolumns n hn)
  -- the line without text closes all blocks but the outermost one
  have hstart : ∃ s', s.startLine = .ok s' ∧ s'.rest = [] ∧ s'.lead = [] ∧ s'.brackets = [] ∧
      s'.atStart = false ∧ s'.pending = -(columns.length : Int) := by
    have hempty : EndsIndentation [] := by rintro c ⟨⟩
    rw [Cursor.startLine, Cursor.measure_blanks (k := 0) hempty s hs.rest (Nat.succ_pos _)]
    simp only [bind, Except.bind, hbrackets, List.isEmpty_nil, if_true, Nat.zero_add,
      Cursor.indentTo, hs.indents, List.replicate_zero, List.nil_append, hs.lead]
    cases columns with
    | nil => exact ⟨_, rfl, rfl, rfl, rfl, rfl, hs.pending⟩
    | cons n columns =>
      have hn : 0 < n := hcolumns n List.mem_cons_self
      rw [List.cons_append, List.map_cons] at hkept ⊢
      dsimp only
      rw [if_neg (Nat.ne_of_lt hn), if_neg (Nat.not_lt.2 (Nat.zero_le n)), hkept]
      dsimp only
      rw [if_neg (fun h => h rfl), if_neg (fun h => h rfl)]
      exact ⟨_, rfl, rfl, rfl, rfl, rfl, by simp⟩
  obtain ⟨s', hrun, hrest, hlead, hbrackets', hstart', hpending⟩ := hstart
  rw [tokensFrom, if_pos hs.atStart, hrun]
  exact tokensFrom_finish hrest hlead hbrackets' hstart' hpending (by omega)

theorem shapes_tokens (h : Begins cs [] [0] steps ts) (hsteps : steps ≤ 4 * cs.length + 8) :
    (tokens cs).map Token.shape = ts :=
  h _ ⟨rfl, rfl, rfl, rfl, rfl, rfl, rfl⟩ _ hsteps

/-! ### Words -/

/-- A text that is taken as one word. -/
structure IsWordText (w : List Char) : Prop where
  ne_nil : w ≠ []
  start : ∀ c ∈ w.head?, isWordStart c = true
  chars : ∀ c ∈ w, isWordChar c = true
  flaw : (if w.all (·.toNat < 128) then none else Text.identifierFlaw? w) = none

def wordKind (w : List Char) : TokenKind :=
  if keywords.contains (String.ofList w) then .keyword else .name

theorem not_isQuote_of_isWordChar (h : isWordChar c = true) : ¬(c = '\'' ∨ c = '"') := by
  rintro (rfl | rfl) <;> exact absurd h (by decide)

theorem isWordChar_of_isAlpha (h : c.isAlpha = true) : isWordChar c = true := by
  simp [isWordChar, Char.isAlphanum, h]

theorem stringMark?_word {w : List Char} (hw : ∀ c ∈ w, isWordChar c = true)
    (hc : isWordChar c = false) (hquote : ¬(c = '\'' ∨ c = '"')) :
    stringMark? (w ++ c :: cs) = none := by
  have halpha : c.isAlpha = false := by
    by_contra h
    rw [isWordChar_of_isAlpha (eq_true_of_ne_false h)] at hc
    cases hc
  have hhead (n : Nat) {d : Char} {ds : List Char} (hd : ¬(d = '\'' ∨ d = '"'))
      (hdrop : (w ++ c :: cs).drop n = d :: ds)
      (hn : (((w ++ c :: cs).take 2).takeWhile Char.isAlpha).length = n) :
      stringMark? (w ++ c :: cs) = none := by
    rw [stringMark?]
    simp only [hn, hdrop]
    rw [if_neg fun h => hd h.1]
  have hword (d : Char) (hd : d ∈ w) : ¬(d = '\'' ∨ d = '"') := not_isQuote_of_isWordChar (hw d hd)
  -- at most two letters are taken for the mark of a string, and no quote comes after them
  rcases w with _ | ⟨a, _ | ⟨b, w⟩⟩
  · exact hhead 0 hquote rfl (by simp [halpha])
  · cases ha : a.isAlpha with
    | true => exact hhead 1 hquote rfl (by simp [ha, halpha])
    | false => exact hhead 0 (hword a (by simp)) rfl (by simp [ha])
  · cases ha : a.isAlpha with
    | false => exact hhead 0 (hword a (by simp)) rfl (by simp [ha])
    | true =>
      cases hb : b.isAlpha with
      | false => exact hhead 1 (hword b (by simp)) rfl (by simp [ha, hb])
      | true =>
        have hlength : (((a :: b :: w ++ c :: cs).take 2).takeWhile Char.isAlpha).length = 2 := by
          simp [ha, hb]
        cases w with
        | nil => exact hhead 2 hquote rfl hlength
        | cons d w => exact hhead 2 (hword d (by simp)) rfl hlength

theorem Within.word (lead : List Char) {w : List Char} (hw : IsWordText w) (hc : isWordChar c = false)
    (hquote : ¬(c = '\'' ∨ c = '"')) (h : Within (c :: cs) [] columns brackets steps ts) :
    Within (w ++ c :: cs) lead columns brackets (steps + 1)
      (Token.shown (wordKind w) lead.reverse w :: ts) := by
  obtain ⟨a, w, rfl⟩ := List.exists_cons_of_ne_nil hw.ne_nil
  have ha : isWordStart a = true := hw.start a rfl
  refine Within.token (isSolidHead_of_isWordStart ha) (fun s hs => ?_) h
  have hmark : stringMark? (a :: w ++ c :: cs) = none := stringMark?_word hw.chars hc hquote
  have htake : (a :: w ++ c :: cs).takeWhile isWordChar = a :: w := by
    rw [List.takeWhile_append_of_pos hw.chars, List.takeWhile_cons_of_neg (by rw [hc]; exact Bool.false_ne_true),
      List.append_nil]
  have hdrop : (a :: w ++ c :: cs).dropWhile isWordChar = c :: cs := by
    rw [List.dropWhile_append_of_pos hw.chars, List.dropWhile_cons_of_neg (by rw [hc]; exact Bool.false_ne_true)]
  rw [List.cons_append] at hmark htake hdrop
  refine ⟨s.token (wordKind (a :: w)) (a :: w), s.past (a :: w) (c :: cs), ?_, ?_, ?_⟩
  · rw [Cursor.nextToken, hs.rest]
    simp only [List.append_eq, hmark, ha, if_true, htake, hdrop, hw.flaw, wordKind]
  · simp only [Cursor.token, Token.shape, Token.shown, hs.lead]
  · exact ⟨rfl, rfl, hs.indents, hs.brackets, hs.pending, hs.atStart, hs.blankLine⟩

/-! ### Marks -/

/-- A character that begins nothing but a mark, and is no bracket. -/
structure IsMarkHead (c : Char) : Prop where
  solid : isSolidHead c = true
  word : isWordStart c = false
  digit : c.isDigit = false
  quote : ¬(c = '\'' ∨ c = '"')
  bracket : ¬(c = '(' ∨ c = '[' ∨ c = '{')
  closing : opening? c = none
  printable : Text.isPrintable c = true

theorem stringMark?_of_not_isAlpha (hc : c.isAlpha = false) (hquote : ¬(c = '\'' ∨ c = '"')) :
    stringMark? (c :: cs) = none := by
  have hletters : ((c :: cs).take 2).takeWhile Char.isAlpha = [] := by
    rw [List.take_succ_cons, List.takeWhile_cons_of_neg (by rw [hc]; exact Bool.false_ne_true)]
  rw [stringMark?]
  simp only [hletters, List.length_nil, List.drop_zero]
  rw [if_neg fun h => hquote h.1]

theorem Within.mark {n : Nat} (hc : IsMarkHead c) (hpoint : c = '.' → ∀ d ∈ cs.head?, d.isDigit = false)
    (hn : markLength (c :: cs) = n)
    (h : Within ((c :: cs).drop n) [] columns brackets steps ts) :
    Within (c :: cs) lead columns brackets (steps + 1)
      (Token.shown .mark lead.reverse ((c :: cs).take n) :: ts) := by
  refine Within.token hc.solid (fun s hs => ?_) h
  have halpha : c.isAlpha = false := by
    have hword := hc.word
    simp only [isWordStart, Bool.or_eq_false_iff] at hword
    exact hword.1.1
  have hno : ¬(c = '.' ∧ (cs.head?.map Char.isDigit).getD false = true) := by
    rintro ⟨rfl, hdigit⟩
    cases cs with
    | nil => cases hdigit
    | cons d cs =>
      rw [List.head?_cons, Option.map_some, Option.getD_some, hpoint rfl d rfl] at hdigit
      cases hdigit
  refine ⟨s.token .mark ((c :: cs).take n), s.past ((c :: cs).take n) ((c :: cs).drop n), ?_, ?_, ?_⟩
  · rw [Cursor.nextToken, hs.rest]
    simp only [stringMark?_of_not_isAlpha halpha hc.quote, hc.word, hc.digit, if_neg hno,
      if_neg hc.bracket, hc.closing, hc.printable, hn, Bool.false_eq_true, if_false, Bool.not_true]
  · simp only [Cursor.token, Token.shape, Token.shown, hs.lead]
  · exact ⟨rfl, rfl, hs.indents, hs.brackets, hs.pending, hs.atStart, hs.blankLine⟩

theorem Within.colon (lead : List Char) (h : Within ('\n' :: cs) [] columns brackets steps ts) :
    Within (':' :: '\n' :: cs) lead columns brackets (steps + 1)
      (Token.shown .mark lead.reverse [':'] :: ts) := by
  have hlength : markLength (':' :: '\n' :: cs) = 1 := by
    have hno {marks : List String} {n : Nat}
        (hmarks : ∀ m ∈ marks, [':', '\n'].isPrefixOf m.toList = false) :
        marks.contains (String.ofList ((':' :: '\n' :: cs).take (n + 2))) = false := by
      rw [List.contains_eq_mem, decide_eq_false_iff_not]
      intro hmem
      have hprefix := hmarks _ hmem
      rw [String.toList_ofList] at hprefix
      exact absurd hprefix (by simp)
    rw [markLength, if_neg (by rw [hno (n := 1) (by decide)]; exact Bool.false_ne_true),
      if_neg (by rw [hno (n := 0) (by decide)]; exact Bool.false_ne_true)]
  exact Within.mark ⟨rfl, rfl, rfl, by decide, by decide, rfl, by decide⟩ (by rintro ⟨⟩) hlength h

theorem Within.ellipsis (lead : List Char) (h : Within cs [] columns brackets steps ts) :
    Within ('.' :: '.' :: '.' :: cs) lead columns brackets (steps + 1)
      (Token.shown .mark lead.reverse ['.', '.', '.'] :: ts) :=
  Within.mark ⟨rfl, rfl, rfl, by decide, by decide, rfl, by decide⟩
    (by rintro - d ⟨⟩; rfl) (n := 3) rfl h

theorem Within.opening (lead : List Char) (hbrackets : brackets.length < 200)
    (h : Within cs [] columns ('(' :: brackets) steps ts) :
    Within ('(' :: cs) lead columns brackets (steps + 1)
      (Token.shown .mark lead.reverse ['('] :: ts) := by
  refine Within.token rfl (fun s hs => ?_) h
  have hlength : ¬s.brackets.length ≥ 200 := by
    rw [← hs.brackets, List.length_map] at hbrackets
    omega
  let s' : Cursor := { s with brackets := ('(', s.here) :: s.brackets }
  refine ⟨s'.token .mark ['('], s'.past ['('] cs, ?_, ?_, ?_⟩
  · rw [Cursor.nextToken, hs.rest]
    simp only [stringMark?_of_not_isAlpha (c := '(') rfl (by decide), if_neg hlength,
      show isWordStart '(' = false from rfl, show Char.isDigit '(' = false from rfl,
      Bool.false_eq_true, if_false, true_or, if_true, show ¬('(' = '.') by decide, false_and]
    rfl
  · simp only [Cursor.token, Token.shape, Token.shown, s', hs.lead]
  · exact ⟨rfl, rfl, hs.indents, by rw [← hs.brackets]; rfl, hs.pending, hs.atStart, hs.blankLine⟩

theorem Within.closing (lead : List Char) (h : Within cs [] columns brackets steps ts) :
    Within (')' :: cs) lead columns ('(' :: brackets) (steps + 1)
      (Token.shown .mark lead.reverse [')'] :: ts) := by
  refine Within.token rfl (fun s hs => ?_) h
  obtain ⟨⟨b, line⟩, outer, hs', hb, houter⟩ := List.map_eq_cons_iff.1 hs.brackets
  obtain rfl : b = '(' := hb
  let s' : Cursor := { s with brackets := outer }
  refine ⟨s'.token .mark [')'], s'.past [')'] cs, ?_, ?_, ?_⟩
  · rw [Cursor.nextToken, hs.rest]
    simp only [stringMark?_of_not_isAlpha (c := ')') rfl (by decide), hs',
      show isWordStart ')' = false from rfl, show Char.isDigit ')' = false from rfl,
      Bool.false_eq_true, if_false, show ¬(')' = '.') by decide, false_and,
      show ¬(')' = '(' ∨ ')' = '[' ∨ ')' = '{') by decide, show opening? ')' = some '(' from rfl,
      if_true]
    rfl
  · simp only [Cursor.token, Token.shape, Token.shown, s', hs.lead]
  · exact ⟨rfl, rfl, hs.indents, houter, hs.pending, hs.atStart, hs.blankLine⟩

/-! ### Strings -/

def tripleQuote : List Char := ['"', '"', '"']

/-- A text that stands between tripled quotes as it is. -/
structure IsQuotable (d : List Char) : Prop where
  backslash : '\\' ∉ d
  quotes : ¬tripleQuote <:+: d
  last : d.getLast? ≠ some '"'

theorem IsQuotable.tail {d : List Char} (h : IsQuotable (c :: d)) : IsQuotable d where
  backslash hmem := h.backslash (List.mem_cons_of_mem _ hmem)
  quotes hpart := h.quotes (hpart.trans (List.suffix_cons c d).isInfix)
  last hlast := h.last (by rw [List.getLast?_cons, hlast]; rfl)

theorem IsQuotable.not_prefix {d : List Char} (h : IsQuotable (c :: d)) (cs : List Char) :
    tripleQuote.isPrefixOf (c :: d ++ tripleQuote ++ cs) = false := by
  by_contra hprefix
  have hprefix := List.isPrefixOf_iff_prefix.1 (eq_true_of_ne_false hprefix)
  rcases d with _ | ⟨a, _ | ⟨b, d⟩⟩
  · obtain ⟨hc, -⟩ := List.cons_prefix_cons.1 hprefix
    exact h.last (by rw [← hc]; rfl)
  · obtain ⟨-, hrest⟩ := List.cons_prefix_cons.1 hprefix
    obtain ⟨ha, -⟩ := List.cons_prefix_cons.1 hrest
    exact h.last (by rw [← ha]; rfl)
  · obtain ⟨hc, hrest⟩ := List.cons_prefix_cons.1 hprefix
    obtain ⟨ha, hrest⟩ := List.cons_prefix_cons.1 hrest
    obtain ⟨hb, -⟩ := List.cons_prefix_cons.1 hrest
    exact h.quotes ⟨[], d, by rw [← hc, ← ha, ← hb]; rfl⟩

theorem IsQuotable.stringBody {d : List Char} (h : IsQuotable d) (cs : List Char) :
    stringBody '"' true (d ++ tripleQuote ++ cs) = some (d ++ tripleQuote, cs) := by
  induction d with
  | nil => rfl
  | cons c d ih =>
    have hc : c ≠ '\\' := fun hc => h.backslash (hc ▸ List.mem_cons_self)
    have hprefix := h.not_prefix cs
    rw [List.cons_append, List.cons_append] at hprefix ⊢
    rw [Indented.stringBody]
    · simp only [closingQuotes, if_true]
      rw [if_neg (by rw [show ['"', '"', '"'] = tripleQuote from rfl, hprefix]; exact Bool.false_ne_true),
        if_neg (by simp), ih h.tail]
      rfl
    · intro c' cs' hcs
      exact absurd hcs hc

def tripled (d : List Char) : List Char := '"' :: '"' :: '"' :: (d ++ tripleQuote)

theorem Within.string {d : List Char} (hd : IsQuotable d)
    (h : Within cs [] columns brackets steps ts) :
    Within (tripled d ++ cs) lead columns brackets (steps + 1)
      (Token.shown .string lead.reverse (tripled d) :: ts) := by
  refine Within.token rfl (fun s hs => ?_) h
  refine ⟨s.token .string (tripled d), s.past (tripled d) cs, ?_, ?_, ?_⟩
  · have hmark : stringMark? ('"' :: '"' :: '"' :: (d ++ tripleQuote ++ cs)) = some 0 := rfl
    have hbody := hd.stringBody cs
    rw [Cursor.nextToken, hs.rest]
    simp only [List.append_eq, List.cons_append, hmark, List.drop_zero, List.take_succ_cons, List.take_zero,
      decide_true, if_true, List.drop_succ_cons, hbody]
    rfl
  · simp only [Cursor.token, Token.shape, Token.shown, hs.lead]
  · exact ⟨rfl, rfl, hs.indents, hs.brackets, hs.pending, hs.atStart, hs.blankLine⟩

end Docent.Indented
