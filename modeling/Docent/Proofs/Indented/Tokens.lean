import Docent.Grammar.Indented.Token
import Mathlib.Data.List.TakeWhile

/-!
# The tokens of a source are its text

Main statement: when the tokens of a text reach the end of the source, what stands before them and
what they take are together the text. No token other than a line end takes a line feed at its end.
-/

namespace Docent.Indented

/-! ### Scanners -/

/-- What a scanner takes from the head of a text has no line feed, and it loses nothing. -/
def Scan.Splits (cs : List Char) (r : Scan) : Prop :=
  ∀ taken rest, r = .ok (taken, rest) → taken ++ rest = cs ∧ '\n' ∉ taken

namespace Scan.Splits

theorem nothing (cs : List Char) : Scan.Splits cs (.ok ([], cs)) := by
  rintro taken rest ⟨⟩
  exact ⟨rfl, List.not_mem_nil⟩

theorem error (cs : List Char) (f : Fault) : Scan.Splits cs (.error f) := by
  rintro taken rest ⟨⟩

theorem cons {c : Char} {cs : List Char} {r : Scan} (hc : c ≠ '\n') (hr : Scan.Splits cs r) :
    Scan.Splits (c :: cs) (Scan.cons c r) := by
  intro taken rest h
  cases r with
  | error f => cases h
  | ok p =>
    cases h
    obtain ⟨happ, hno⟩ := hr _ _ rfl
    refine ⟨by rw [List.cons_append, happ], ?_⟩
    rw [List.mem_cons, not_or]
    exact ⟨hc.symm, hno⟩

end Scan.Splits

theorem ne_newline_of_isDigit {c : Char} (h : c.isDigit = true) : c ≠ '\n' := by
  rintro rfl
  exact absurd h (by decide)

theorem ne_newline_of_isDigitOf {radix : Radix} {c : Char} (h : isDigitOf radix c = true) :
    c ≠ '\n' := by
  rintro rfl
  cases radix <;> exact absurd h (by decide)

theorem ne_newline_of_isWordChar {c : Char} (h : isWordChar c = true) : c ≠ '\n' := by
  rintro rfl
  exact absurd h (by decide)

theorem takeWhile_isWordChar {c : Char} (cs : List Char) (h : isWordStart c = true) :
    (c :: cs).takeWhile isWordChar = c :: cs.takeWhile isWordChar := by
  have hchar : isWordChar c = true := by
    simp only [isWordStart, Bool.or_eq_true] at h
    simp only [isWordChar, Char.isAlphanum, Bool.or_eq_true]
    rcases h with (h | h) | h
    · exact Or.inl (Or.inl (Or.inl h))
    · exact Or.inl (Or.inr h)
    · exact Or.inr h
  rw [List.takeWhile_cons, if_pos hchar]

theorem ne_newline_of_or {c l u : Char} (hl : l ≠ '\n') (hu : u ≠ '\n') (hc : c = l ∨ c = u) :
    c ≠ '\n' := by
  rcases hc with rfl | rfl
  · exact hl
  · exact hu

theorem endNumber_splits (radix : Radix) (cs : List Char) :
    Scan.Splits cs (endNumber radix cs) := by
  unfold endNumber
  split
  · split
    · exact .error _ _
    · exact .nothing _
  · exact .nothing _

theorem decimalTail_splits {next : List Char → Scan} (hnext : ∀ cs, Scan.Splits cs (next cs))
    (cs : List Char) : Scan.Splits cs (decimalTail next cs) := by
  fun_induction decimalTail next cs with
  | case1 d cs hd ih => exact .cons (by decide) (.cons (ne_newline_of_isDigit hd) ih)
  | case2 d cs hd => exact .error _ _
  | case3 => exact .error _ _
  | case4 c cs _ _ hc ih => exact .cons (ne_newline_of_isDigit hc) ih
  | case5 c cs _ _ hc => exact hnext _
  | case6 => exact hnext _

theorem imaginaryMark_splits (cs : List Char) : Scan.Splits cs (imaginaryMark cs) := by
  unfold imaginaryMark
  split
  · exact .cons (by decide) (endNumber_splits _ _)
  · exact .cons (by decide) (endNumber_splits _ _)
  · exact endNumber_splits _ _

theorem exponent_splits (cs : List Char) : Scan.Splits cs (exponent cs) := by
  have hletter {e : Char} : e = 'e' ∨ e = 'E' → e ≠ '\n' :=
    ne_newline_of_or (by decide) (by decide)
  have hsign {s : Char} : s = '+' ∨ s = '-' → s ≠ '\n' :=
    ne_newline_of_or (by decide) (by decide)
  unfold exponent
  split
  · -- a letter, a sign or a digit, and a character after it
    rename_i e s d cs'
    split
    · rename_i he
      split
      · rename_i hs
        split
        · rename_i hd
          exact .cons (hletter he) (.cons (hsign hs) (.cons (ne_newline_of_isDigit hd)
            (decimalTail_splits imaginaryMark_splits _)))
        · exact .error _ _
      · split
        · rename_i hs
          exact .cons (hletter he) (.cons (ne_newline_of_isDigit hs)
            (decimalTail_splits imaginaryMark_splits _))
        · exact endNumber_splits _ _
    · exact imaginaryMark_splits _
  · -- two characters at most, so that no sign has a digit after it
    rename_i e rest hshort
    split
    · rename_i he
      split
      · rename_i s rest'
        split
        · exact .error _ _
        · split
          · rename_i hs
            obtain rfl : rest' = [] := by
              cases rest' with
              | nil => rfl
              | cons d cs' => exact absurd rfl (hshort s d cs')
            exact .cons (hletter he) (.cons (ne_newline_of_isDigit hs) (.nothing _))
          · exact endNumber_splits _ _
      · exact endNumber_splits _ _
    · exact imaginaryMark_splits _
  · exact imaginaryMark_splits _

theorem fraction_splits (cs : List Char) : Scan.Splits cs (fraction cs) := by
  unfold fraction
  split
  · split
    · rename_i hd
      exact .cons (ne_newline_of_isDigit hd) (decimalTail_splits exponent_splits _)
    · exact exponent_splits _
  · exact .nothing _

theorem afterInteger_splits (cs : List Char) : Scan.Splits cs (afterInteger cs) := by
  unfold afterInteger
  split
  · exact .cons (by decide) (fraction_splits _)
  · exact exponent_splits _

theorem radixDigits_splits (radix : Radix) (need gap : Bool) (cs : List Char) :
    Scan.Splits cs (radixDigits radix need gap cs) := by
  induction cs generalizing need gap with
  | nil =>
    rw [radixDigits]
    split
    · exact .error _ _
    · exact .nothing _
  | cons c cs ih =>
    rw [radixDigits]
    split
    · rename_i hc
      exact .cons (ne_newline_of_isDigitOf hc) (ih _ _)
    · split
      · rename_i hc
        exact .cons (by rw [hc.1]; decide) (ih _ _)
      · split
        · exact .error _ _
        · split
          · exact .error _ _
          · exact endNumber_splits _ _

theorem afterZeros_splits (cs : List Char) : Scan.Splits cs (afterZeros cs) := by
  have hexcused (rest : List Char) : Scan.Splits rest (afterZeros.excused rest) := by
    unfold afterZeros.excused
    split
    · split
      · exact afterInteger_splits _
      · exact .error _ _
    · exact .error _ _
  unfold afterZeros
  split
  · split
    · rename_i hd
      exact .cons (ne_newline_of_isDigit hd) (decimalTail_splits hexcused _)
    · exact afterInteger_splits _
  · exact endNumber_splits _ _

theorem zeros_splits (cs : List Char) : Scan.Splits cs (zeros cs) := by
  fun_induction zeros cs with
  | case1 cs ih => exact .cons (by decide) (.cons (by decide) ih)
  | case2 d cs _ hd => exact .cons (by decide) (afterZeros_splits _)
  | case3 d cs _ hd => exact .error _ _
  | case4 => exact .error _ _
  | case5 cs ih => exact .cons (by decide) ih
  | case6 cs => exact afterZeros_splits _

theorem number_splits {cs : List Char} (h : ∀ c ∈ cs.head?, c.isDigit = true) :
    Scan.Splits cs (number cs) := by
  unfold number
  split
  · rename_i c cs'
    split
    · rename_i hc
      exact .cons (by decide) (.cons (ne_newline_of_or (by decide) (by decide) hc)
        (radixDigits_splits _ _ _ _))
    · split
      · rename_i hc
        exact .cons (by decide) (.cons (ne_newline_of_or (by decide) (by decide) hc)
          (radixDigits_splits _ _ _ _))
      · split
        · rename_i hc
          exact .cons (by decide) (.cons (ne_newline_of_or (by decide) (by decide) hc)
            (radixDigits_splits _ _ _ _))
        · exact .cons (by decide) (zeros_splits _)
  · exact .cons (by decide) (.nothing _)
  · rename_i d cs' _ _
    exact .cons (ne_newline_of_isDigit (h d rfl)) (decimalTail_splits afterInteger_splits _)
  · exact .nothing _

theorem number_eq_cons {cs : List Char} (h : cs ≠ []) : ∃ c r, number cs = Scan.cons c r := by
  unfold number
  split
  · repeat' split
    all_goals exact ⟨_, _, rfl⟩
  · exact ⟨'0', .ok ([], []), rfl⟩
  · exact ⟨_, _, rfl⟩
  · exact absurd rfl h

/-! ### Strings and marks -/

theorem append_of_stringBody {quote : Char} {triple : Bool} {cs text rest : List Char}
    (h : stringBody quote triple cs = some (text, rest)) :
    text ++ rest = cs ∧ text.getLast? = some quote := by
  have hmore (front : List Char) {text' : List Char} (hlast : text'.getLast? = some quote) :
      (front ++ text').getLast? = some quote := by
    rw [List.getLast?_append, hlast, Option.some_or]
  fun_induction stringBody quote triple cs generalizing text rest with
  | case1 => cases h
  | case2 c cs ih =>
    obtain ⟨⟨text', rest'⟩, hbody, heq⟩ := Option.map_eq_some_iff.1 h
    cases heq
    obtain ⟨happ, hlast⟩ := ih hbody
    exact ⟨by rw [List.cons_append, List.cons_append, happ], hmore ['\\', c] hlast⟩
  | case3 =>
    rename_i hclose
    cases h
    obtain ⟨after, hafter⟩ := List.isPrefixOf_iff_prefix.1 hclose
    refine ⟨by rw [← hafter, List.drop_left], ?_⟩
    cases triple <;> rfl
  | case4 => cases h
  | case5 =>
    rename_i c cs _ _ _ _ ih
    obtain ⟨⟨text', rest'⟩, hbody, heq⟩ := Option.map_eq_some_iff.1 h
    cases heq
    obtain ⟨happ, hlast⟩ := ih hbody
    exact ⟨by rw [List.cons_append, happ], hmore [c] hlast⟩

theorem stringMark?_eq_some {cs : List Char} {n : Nat} (h : stringMark? cs = some n) :
    ∃ quote body, cs.drop n = quote :: body ∧ (quote = '\'' ∨ quote = '"') := by
  rw [stringMark?] at h
  split at h
  · rename_i quote body heq
    split at h
    · rename_i hquote
      cases h
      exact ⟨quote, body, heq, hquote.1⟩
    · cases h
  · cases h

theorem getLast?_markLength {c : Char} (cs : List Char) (h : Text.isPrintable c = true) :
    (c :: cs).take (markLength (c :: cs)) ≠ [] ∧
      ((c :: cs).take (markLength (c :: cs))).getLast? ≠ some '\n' := by
  have hlist {marks : List String} {n : Nat}
      (hmarks : ∀ s ∈ marks, s.toList ≠ [] ∧ s.toList.getLast? ≠ some '\n')
      (hmem : marks.contains (String.ofList ((c :: cs).take n)) = true) :
      (c :: cs).take n ≠ [] ∧ ((c :: cs).take n).getLast? ≠ some '\n' := by
    have hboth := hmarks _ (List.contains_iff_mem.1 hmem)
    rwa [String.toList_ofList] at hboth
  rw [markLength]
  split
  · rename_i hthree
    exact hlist (by decide) hthree
  · split
    · rename_i htwo
      exact hlist (by decide) htwo
    · refine ⟨by simp, ?_⟩
      rw [List.take_succ_cons, List.take_zero, List.getLast?_singleton]
      rintro ⟨⟩
      exact absurd h (by decide)

/-! ### What tokens stand for -/

namespace Token

/-- The text of a token with what stands before it. -/
def source (t : Token) : List Char := t.lead ++ t.text

/-- Whether a token is a word, a literal or a mark. -/
def isSolid (t : Token) : Bool :=
  match t.kind with
  | .name | .keyword | .number | .string | .mark => true
  | _ => false

def isBroken (t : Token) : Bool :=
  match t.kind with
  | .broken _ _ _ => true
  | _ => false

/-- A word, a literal or a mark takes some text, does not end with a line feed, and is known by its
text; a name is a word. -/
def Solid (t : Token) : Prop :=
  t.isSolid = true →
    t.text ≠ [] ∧ t.text.getLast? ≠ some '\n' ∧ t.symbol = String.ofList t.text ∧
      (t.kind = .name → ∀ c ∈ t.text, isWordChar c = true)

end Token

namespace Cursor

/-- The text that is left at a cursor, with what the next token will have before it. -/
def remaining (s : Cursor) : List Char := s.lead.reverse ++ s.rest

theorem remaining_skip (s : Cursor) (c : Char) (cs : List Char) (h : s.rest = c :: cs) :
    (s.skip c cs).remaining = s.remaining := by
  simp [remaining, skip, h]

/-- A step of the scanner from a text that takes no token: nothing is lost, and it fails with a
broken token only. -/
def Retains (cs : List Char) (r : Except Token Cursor) : Prop :=
  (∀ s, r = .ok s → s.remaining = cs) ∧ ∀ t, r = .error t → t.isBroken = true

theorem Retains.ok {cs : List Char} {s : Cursor} (h : s.remaining = cs) : Retains cs (.ok s) := by
  refine ⟨?_, ?_⟩
  · rintro s' ⟨⟩
    exact h
  · rintro t ⟨⟩

theorem Retains.error (cs : List Char) (s : Cursor) (f : Fault) (definite : Bool) :
    Retains cs (.error (s.broken f definite)) := by
  refine ⟨?_, ?_⟩
  · rintro s' ⟨⟩
  · rintro t ⟨⟩
    rfl

theorem measure_retains (fuel : Nat) (s : Cursor) (col alt cont : Nat) :
    Retains s.remaining ((measure fuel s col alt cont).map Prod.fst) := by
  fun_induction measure fuel s col alt cont with
  | case1 => exact .ok rfl
  | case2 _ s _ _ _ cs h ih => rwa [remaining_skip s _ cs h] at ih
  | case3 _ s _ _ _ cs h ih => rwa [remaining_skip s _ cs h] at ih
  | case4 _ s _ _ _ cs h ih => rwa [remaining_skip s _ cs h] at ih
  | case5 => exact .error _ _ _ _
  | case6 =>
    rename_i s _ _ _ cs _ h _ ih
    rwa [remaining_skip _ _ cs rfl, remaining_skip s _ _ h] at ih
  | case7 => exact .error _ _ _ _
  | case8 => exact .ok rfl

theorem indentTo_retains (s : Cursor) (col alt : Nat) :
    Retains s.remaining (s.indentTo col alt) := by
  unfold indentTo
  split
  · exact .ok rfl
  · split
    · split
      · exact .ok rfl
      · exact .error _ _ _ _
    · split
      · split
        · exact .error _ _ _ _
        · split
          · exact .error _ _ _ _
          · exact .ok rfl
      · dsimp only
        split
        · exact .ok rfl
        · split
          · exact .error _ _ _ _
          · split
            · exact .error _ _ _ _
            · exact .ok rfl

theorem startLine_retains (s : Cursor) : Retains s.remaining s.startLine := by
  have hmeasure := measure_retains (s.rest.length + 1) s 0 0 0
  unfold startLine
  cases h : measure (s.rest.length + 1) s 0 0 0 with
  | error t =>
    rw [h] at hmeasure
    refine ⟨?_, ?_⟩
    · rintro s' ⟨⟩
    · rintro t' ⟨⟩
      exact hmeasure.2 t rfl
  | ok r =>
    obtain ⟨s', col, alt⟩ := r
    rw [h] at hmeasure
    have hsame : s'.remaining = s.remaining := hmeasure.1 s' rfl
    simp only [bind, Except.bind]
    split
    · exact .ok hsame
    · exact .ok hsame
    · split
      · rw [← hsame]
        exact indentTo_retains { s' with atStart := false, blankLine := false } col alt
      · exact .ok hsame

theorem remaining_skipBlanks (lead cs : List Char) :
    (skipBlanks lead cs).1.reverse ++ (skipBlanks lead cs).2 = lead.reverse ++ cs := by
  fun_induction skipBlanks lead cs with
  | case1 lead c cs _ ih => rw [ih, List.reverse_cons, List.append_assoc, List.singleton_append]
  | case2 lead cs _ =>
    have hfold (l xs : List Char) : xs.foldl (fun l x => x :: l) l = xs.reverse ++ l := by
      induction xs generalizing l with
      | nil => rfl
      | cons x xs ih => rw [List.foldl_cons, ih, List.reverse_cons, List.append_assoc]; rfl
    rw [hfold, List.reverse_append, List.reverse_reverse, List.append_assoc,
      List.takeWhile_append_dropWhile]
  | case3 => rfl
  | case4 => rfl

/-- A step of the scanner from a text that takes a token: nothing is lost, the token is solid, and
it fails with a broken token only. -/
def Advances (cs : List Char) (r : Except Token (Token × Cursor)) : Prop :=
  (∀ t s, r = .ok (t, s) → t.source ++ s.remaining = cs ∧ t.isFinish = false ∧ t.Solid) ∧
    ∀ t, r = .error t → t.isBroken = true

theorem Advances.error (cs : List Char) (s : Cursor) (f : Fault) (definite : Bool) :
    Advances cs (.error (s.broken f definite)) := by
  refine ⟨?_, ?_⟩
  · rintro t s' ⟨⟩
  · rintro t ⟨⟩
    rfl

theorem Advances.past {cs : List Char} {s : Cursor} {kind : TokenKind} {text rest : List Char}
    (hcs : s.lead.reverse ++ (text ++ rest) = cs) (hkind : kind ≠ .finish)
    (htext : text ≠ []) (hlast : text.getLast? ≠ some '\n')
    (hname : kind = .name → ∀ c ∈ text, isWordChar c = true) :
    Advances cs (.ok (s.token kind text, s.past text rest)) := by
  refine ⟨?_, ?_⟩
  · rintro t s' ⟨⟩
    refine ⟨?_, ?_, fun _ => ⟨htext, hlast, rfl, hname⟩⟩
    · rw [← hcs]
      simp [Token.source, token, remaining, Cursor.past]
    · cases kind <;> first | rfl | exact absurd rfl hkind
  · rintro t ⟨⟩

theorem Advances.word {s : Cursor} {c : Char} {cs : List Char} {kind : TokenKind}
    (hrest : s.rest = c :: cs) (hc : isWordStart c = true) (hkind : kind ≠ .finish) :
    Advances s.remaining
      (.ok (s.token kind (s.rest.takeWhile isWordChar),
        s.past (s.rest.takeWhile isWordChar) (s.rest.dropWhile isWordChar))) := by
  refine .past (by rw [List.takeWhile_append_dropWhile]; rfl) hkind ?_ ?_
    fun _ _ => List.mem_takeWhile_imp
  · rw [hrest, takeWhile_isWordChar cs hc]
    exact List.cons_ne_nil _ _
  · intro hlast
    have hmem := List.mem_takeWhile_imp (List.mem_of_getLast? hlast)
    exact ne_newline_of_isWordChar hmem rfl

theorem Advances.single {cs : List Char} {s : Cursor} {c : Char} {rest : List Char}
    (hcs : s.lead.reverse ++ ([c] ++ rest) = cs) (hc : c ≠ '\n') :
    Advances cs (.ok (s.token .mark [c], s.past [c] rest)) := by
  refine .past hcs (by simp) (List.cons_ne_nil _ _) ?_ fun hname => by cases hname
  rw [List.getLast?_singleton]
  exact fun h => hc (Option.some.inj h)

theorem Advances.number {s : Cursor} {c : Char} {r : Scan}
    (hr : Scan.Splits s.rest (Scan.cons c r)) :
    Advances s.remaining
      (match Scan.cons c r with
        | .ok (text, rest) => .ok (s.token .number text, s.past text rest)
        | .error f => .error (s.broken f true)) := by
  cases r with
  | error f => exact .error _ _ _ _
  | ok p =>
    obtain ⟨happ, hno⟩ := hr _ _ rfl
    refine .past (by rw [happ]; rfl) (by simp) (List.cons_ne_nil _ _) ?_ fun hname => by cases hname
    exact fun hlast => hno (List.mem_of_getLast? hlast)

theorem Advances.string {s : Cursor} {quote : Char} {triple : Bool} {inner text rest : List Char}
    (n : Nat) (hquote : quote = '\'' ∨ quote = '"') (hinner : s.rest.drop n = inner)
    (hbody : stringBody quote triple inner = some (text, rest)) :
    Advances s.remaining
      (.ok (s.token .string (s.rest.take n ++ text), s.past (s.rest.take n ++ text) rest)) := by
  obtain ⟨happ, hlast⟩ := append_of_stringBody hbody
  refine .past ?_ (by simp) ?_ ?_ fun hname => by cases hname
  · rw [List.append_assoc, happ, ← hinner, List.take_append_drop]
    rfl
  · rintro hnil
    rw [(List.append_eq_nil_iff.1 hnil).2] at hlast
    cases hlast
  · rw [List.getLast?_append, hlast, Option.some_or]
    rcases hquote with rfl | rfl <;> decide

theorem nextToken_advances (s : Cursor) : Advances s.remaining s.nextToken := by
  unfold nextToken
  split
  · exact .error _ _ _ _
  rename_i c cs hrest
  have hhead : s.lead.reverse ++ ([c] ++ cs) = s.remaining := by rw [remaining, hrest]; rfl
  dsimp only
  split
  · -- a string, whose body begins behind one quote or behind three
    rename_i n hmark
    obtain ⟨q, b, hdrop, hquote⟩ := stringMark?_eq_some hmark
    rw [hdrop]
    dsimp only
    -- words, numbers, brackets and other marks, in the order of the scanner
    split
    · rename_i text rest hbody
      refine .string _ hquote ?_ hbody
      have hone : s.rest.drop (n + 1) = b := by rw [← List.drop_drop, hdrop]; rfl
      split
      · rw [show n + 3 = n + 1 + 2 by omega, ← List.drop_drop, hone]
      · exact hone
    · exact .error _ _ _ _
  · split
    · split
      · exact .error _ _ _ _
      · rename_i hstart _ _
        exact .word hrest hstart (by split <;> simp)
    · split
      · rename_i hdigit
        obtain ⟨d, r, hnumber⟩ := number_eq_cons (hrest ▸ List.cons_ne_nil c cs)
        rw [hnumber]
        refine .number (hnumber ▸ number_splits ?_)
        rw [hrest]
        rintro _ ⟨⟩
        exact hdigit
      · split
        · rename_i hdot
          refine .number ?_
          rw [hrest, hdot.1]
          exact .cons (by decide) (fraction_splits _)
        · split
          · split
            · exact .error _ _ _ _
            · rename_i hopen _
              exact .single hhead (by rcases hopen with rfl | rfl | rfl <;> decide)
          · split
            · rename_i hclose
              split
              · exact .error _ _ _ _
              · split
                · exact .single hhead (by rintro rfl; cases hclose)
                · exact .error _ _ _ _
            · split
              · exact .error _ _ _ _
              · rename_i hprint
                have hmark := getLast?_markLength cs (by simpa using hprint)
                rw [← hrest] at hmark
                exact .past (by rw [List.take_append_drop]; rfl) (by simp) hmark.1 hmark.2
                  fun hname => by cases hname

end Cursor

/-! ### Lists of tokens -/

/-- Tokens into which a text is cut, up to the end of the source or to a fault. -/
inductive Tokenizes : List Char → List Token → Prop
  | stop (cs : List Char) : Tokenizes cs []
  | fault (cs : List Char) {t : Token} (h : t.isBroken = true) : Tokenizes cs [t]
  | finish {t : Token} (h : t.kind = .finish) : Tokenizes t.source [t]
  | cons {cs : List Char} {t : Token} {ts : List Token} (h : t.isFinish = false) (ht : t.Solid)
      (hts : Tokenizes cs ts) : Tokenizes (t.source ++ cs) (t :: ts)

namespace Tokenizes

theorem isSolid_of_isBroken {t : Token} (h : t.isBroken = true) :
    t.isSolid = false ∧ t.isFinish = false := by
  unfold Token.isBroken at h
  unfold Token.isSolid Token.isFinish
  split at h
  · rename_i hkind
    rw [hkind]
    exact ⟨rfl, rfl⟩
  · cases h

theorem solid {cs : List Char} {ts : List Token} (h : Tokenizes cs ts) : ∀ t ∈ ts, t.Solid := by
  induction h with
  | stop => exact fun t ht => absurd ht List.not_mem_nil
  | fault cs h =>
    intro t ht hsolid
    rw [List.mem_singleton.1 ht, (isSolid_of_isBroken h).1] at hsolid
    cases hsolid
  | finish h =>
    intro t ht hsolid
    rw [List.mem_singleton.1 ht, Token.isSolid, h] at hsolid
    cases hsolid
  | cons h ht hts ih =>
    intro t hmem
    rcases List.mem_cons.1 hmem with rfl | hmem
    · exact ht
    · exact ih t hmem

theorem text_of_finish {cs : List Char} {ts : List Token} (h : Tokenizes cs ts) {i : Nat}
    {t : Token} (ht : ts[i]? = some t) (hfinish : t.isFinish = true) :
    (ts.take (i + 1)).flatMap Token.source = cs := by
  induction h generalizing i with
  | stop => cases ht
  | fault cs h =>
    rw [List.getElem?_singleton] at ht
    split at ht
    · cases ht
      rw [(isSolid_of_isBroken h).2] at hfinish
      cases hfinish
    · cases ht
  | finish h =>
    rw [List.take_of_length_le (by simp)]
    exact List.flatMap_singleton _ _
  | cons h hsolid hts ih =>
    cases i with
    | zero =>
      cases ht
      rw [h] at hfinish
      cases hfinish
    | succ i => rw [List.take_succ_cons, List.flatMap_cons, ih ht]

theorem ending {s : Cursor} (h : s.rest = []) : Tokenizes s.remaining [s.token .finish []] := by
  have hcs : (s.token .finish []).source = s.remaining := by
    rw [Cursor.remaining, h]
    rfl
  rw [← hcs]
  exact .finish rfl

theorem layout {s s' : Cursor} {kind : TokenKind} {text : List Char} {ts : List Token}
    (h : Tokenizes s'.remaining ts) (hkind : kind = .newline ∨ kind = .indent)
    (htext : text ++ s'.rest = s.rest) (hlead : s'.lead = []) :
    Tokenizes s.remaining (s.token kind text :: ts) := by
  have hcs : (s.token kind text).source ++ s'.remaining = s.remaining := by
    simp [Cursor.remaining, Cursor.token, Token.source, hlead, htext]
  rw [← hcs]
  rcases hkind with rfl | rfl <;> exact .cons rfl nofun h

end Tokenizes

theorem tokensFrom_tokenizes (fuel : Nat) (s : Cursor) :
    Tokenizes s.remaining (tokensFrom fuel s) := by
  have hblanks {s : Cursor} {lead rest : List Char}
      (h : Cursor.skipBlanks s.lead s.rest = (lead, rest)) :
      ({ s with lead := lead, rest := rest } : Cursor).remaining = s.remaining := by
    have hskip := Cursor.remaining_skipBlanks s.lead s.rest
    rwa [h] at hskip
  fun_induction tokensFrom fuel s with
  | case1 => exact .stop _
  -- the beginning of a line
  | case2 _ s _ _ hstart ih => rwa [(Cursor.startLine_retains s).1 _ hstart] at ih
  | case3 _ s _ t hstart => exact .fault _ ((Cursor.startLine_retains s).2 _ hstart)
  -- blocks that end or begin
  | case4 _ s _ _ ih => exact .cons (t := { s with lead := [] }.token .dedent []) rfl (by rintro ⟨⟩) ih
  | case5 _ s _ _ _ ih => exact .layout ih (.inr rfl) rfl rfl
  -- the end of the source, a line end, a line that is continued
  | case6 =>
    rename_i hskip _ _
    rw [← hblanks hskip]
    exact .ending rfl
  | case7 => exact .fault _ rfl
  | case8 =>
    rename_i cs hskip _ _ ih
    rw [← hblanks hskip, ← Cursor.remaining_skip _ '\n' cs rfl]
    exact ih
  | case9 =>
    rename_i hskip _ _ ih
    rw [← hblanks hskip]
    exact .layout ih (.inl rfl) rfl rfl
  | case10 => exact .fault _ rfl
  | case11 =>
    rename_i cs _ hskip _ _ ih
    rw [← hblanks hskip, ← Cursor.remaining_skip _ '\\' _ rfl,
      ← Cursor.remaining_skip _ '\n' cs rfl]
    exact ih
  | case12 => exact .fault _ rfl
  -- a token of the line
  | case13 =>
    rename_i hskip _ t s' hnext _ _ _ ih
    obtain ⟨hcs, hfinish, hsolid⟩ := (Cursor.nextToken_advances _).1 _ _ hnext
    rw [← hblanks hskip, ← hcs]
    exact .cons hfinish hsolid ih
  | case14 =>
    rename_i hnext _ _ _
    exact .fault _ ((Cursor.nextToken_advances _).2 _ hnext)

theorem tokens_tokenizes (cs : List Char) : Tokenizes cs (tokens cs) := by
  rw [tokens, tokensAt]
  generalize hs : Cursor.mk cs 1 [] true false [(0, 0)] 0 [] (1 + (cs.count '\n' - 1)) = s
  have hcs : s.remaining = cs := by rw [← hs]; rfl
  have htokens := tokensFrom_tokenizes (4 * cs.length + 8) s
  rwa [hcs] at htokens

end Docent.Indented
