import Docent.Proofs.Indented.Stops
import Docent.Proofs.Indented.Near
import Mathlib.Data.List.Infix

/-!
# Steps over a text with an empty line more

Main statements: the scanner of a text that ends with a line does the same at the start of a line,
and over each token, as the scanner of that text with an empty line more, up to the last line of the
text and unless the text ends where a line is to be continued.
-/

namespace Docent.Indented

namespace Cursor

variable {s : Cursor}

/-- The cursor at the same place of the text with an empty line more. -/
def longer (s : Cursor) : Cursor :=
  { s with rest := s.rest ++ ['\n'], lastLine := s.lastLine + 1 }

/-- A cursor before the end of a text that ends with a line. -/
structure Before (s : Cursor) : Prop where
  ends : EndsLine s.rest
  line : s.line + s.rest.count '\n' = s.lastLine + 1

theorem Before.le (h : s.Before) : s.line ≤ s.lastLine := by
  have hpos := List.count_pos_iff.2 h.ends.mem
  have hline := h.line
  omega

theorem Before.here_longer (h : s.Before) : s.longer.here = s.here := by
  have hle := h.le
  rw [here, here, Nat.min_eq_left hle]
  exact Nat.min_eq_left (Nat.le_add_right_of_le hle)

theorem Before.broken_longer (h : s.Before) (f : Fault) (definite : Bool) :
    s.longer.broken f definite = s.broken f definite := by
  rw [broken, broken, h.here_longer]
  rfl

theorem Before.token_longer (h : s.Before) (kind : TokenKind) (text : List Char) :
    s.longer.token kind text = s.token kind text := by
  rw [token, token, h.here_longer]
  rfl

/-- What two steps of the scanner give, of which the second has an empty line at the end of its
text: the same up to that line, unless the text of the first ends where a line is to be
continued. -/
inductive Parallel {α : Type} (s : Cursor) (f : α → α) (P : α → Prop) :
    Except Token α → Except Token α → Prop
  | ok {a : α} (h : P a) : Parallel s f P (.ok a) (.ok (f a))
  | error {t t' : Token} (ht : t.isBroken = true) (h : t.Near s.lastLine t') :
    Parallel s f P (.error t) (.error t')
  | continued {t : Token} (ht : t.isBroken = true) (h : Continued s.rest) (r : Except Token α) :
    Parallel s f P (.error t) r

section

variable {α : Type} {f : α → α} {P Q : α → Prop} {r r' : Except Token α}

theorem Parallel.mono {s' : Cursor} (h : s'.Parallel f P r r') (hrest : s'.rest <:+ s.rest)
    (hlast : s'.lastLine = s.lastLine) (hPQ : ∀ a, P a → Q a) : s.Parallel f Q r r' := by
  cases h with
  | ok h => exact .ok (hPQ _ h)
  | error ht h => exact .error ht (hlast ▸ h)
  | continued ht h => exact .continued ht (List.IsSuffix.trans h hrest) _

theorem Before.error (h : s.Before) (fault : Fault) (definite : Bool) :
    s.Parallel f P (.error (s.broken fault definite))
      (.error (s.longer.broken fault definite)) := by
  rw [h.broken_longer]
  exact .error rfl (.same _)

end

/-- The columns of a line are taken into account alike; a step inwards or some steps outwards are
left to report. -/
theorem Before.indentTo_longer (h : s.Before) (col alt : Nat) :
    s.Parallel longer (fun s' => ∃ indents pending, s' = { s with indents, pending } ∧
        indents.length + pending.natAbs ≤ s.indents.length + s.pending.natAbs + 2)
      (s.indentTo col alt) (s.longer.indentTo col alt) := by
  have hsame : ∃ indents pending, s = { s with indents, pending } ∧
      indents.length + pending.natAbs ≤ s.indents.length + s.pending.natAbs + 2 :=
    ⟨s.indents, s.pending, rfl, by omega⟩
  have hindents : s.longer.indents = s.indents := rfl
  -- only the column and the open blocks decide, and both runs have the same ones
  rw [indentTo, indentTo, hindents]
  split
  · exact .ok hsame
  · split
    · split
      · exact .ok hsame
      · exact h.error _ _
    · split
      · split
        · exact h.error _ _
        · split
          · exact h.error _ _
          · refine .ok ⟨_, _, rfl, ?_⟩
            rw [List.length_cons]
            omega
      · rename_i c a outer heq _ _
        have hkept :=
          (List.dropWhile_suffix (fun i => decide (col < i.1)) (l := s.indents)).length_le
        dsimp only
        split
        · exact .ok hsame
        · split
          · exact h.error _ _
          · split
            · exact h.error _ _
            · refine .ok ⟨_, _, rfl, ?_⟩
              omega

theorem Before.skip {c : Char} {cs : List Char} (h : s.Before) (hrest : s.rest = c :: cs)
    (hcs : cs ≠ []) : (s.skip c cs).Before := by
  have hends := h.ends
  have hline := h.line
  rw [hrest] at hends hline
  refine ⟨hends.tail hcs, ?_⟩
  by_cases hc : c = '\n'
  · rw [hc, List.count_cons_self] at hline
    simp only [Cursor.skip, if_pos hc]
    omega
  · rw [List.count_cons_of_ne hc] at hline
    simpa only [Cursor.skip, if_neg hc] using hline

theorem Before.ne_nil {c : Char} {cs : List Char} (h : s.Before) (hrest : s.rest = c :: cs)
    (hc : c ≠ '\n') : cs ≠ [] := by
  have hends := h.ends
  rintro rfl
  rw [hrest] at hends
  exact hc (Option.some.inj hends)

/-- The cursor behind the indentation of a line. -/
structure Reaches (s s' : Cursor) : Prop where
  before : s'.Before
  suffix : s'.rest <:+ s.rest
  lastLine : s'.lastLine = s.lastLine
  indents : s'.indents = s.indents
  pending : s'.pending = s.pending
  brackets : s'.brackets = s.brackets

theorem Reaches.refl (h : s.Before) : s.Reaches s := ⟨h, List.suffix_rfl, rfl, rfl, rfl, rfl⟩

theorem Reaches.of_skip {c : Char} {cs : List Char} {s' : Cursor} (hrest : s.rest = c :: cs)
    (h : (s.skip c cs).Reaches s') : s.Reaches s' :=
  ⟨h.before, h.suffix.trans (hrest ▸ List.suffix_cons c cs), h.lastLine, h.indents, h.pending,
    h.brackets⟩

/-- The measure of an indentation with an empty line at the end of the text. -/
def Measures {β : Type} (s : Cursor) :
    Except Token (Cursor × β) → Except Token (Cursor × β) → Prop :=
  s.Parallel (fun r => (r.1.longer, r.2)) fun r => s.Reaches r.1

theorem Measures.of_skip {β : Type} {c : Char} {cs : List Char}
    {r r' : Except Token (Cursor × β)} (hrest : s.rest = c :: cs)
    (h : (s.skip c cs).Measures r r') : s.Measures r r' :=
  h.mono (hrest ▸ List.suffix_cons c cs) rfl fun _ h => h.of_skip hrest

theorem rest_longer {c : Char} {cs : List Char} (hrest : s.rest = c :: cs) :
    s.longer.rest = c :: (cs ++ ['\n']) := by
  rw [longer, hrest]
  rfl

theorem measure_stuck {c : Char} {cs : List Char} (hrest : s.rest = '\\' :: c :: cs)
    (hc : c ≠ '\n') (fuel col alt cont : Nat) :
    measure (fuel + 1) s col alt cont = .error (s.broken .afterContinuation false) := by
  rw [measure, hrest]
  split
  · rename_i heq
    exact absurd (List.cons.inj heq).1 (by decide)
  · rename_i heq
    exact absurd (List.cons.inj heq).1 (by decide)
  · rename_i heq
    exact absurd (List.cons.inj heq).1 (by decide)
  · rename_i heq
    cases heq
    split
    · rename_i heq
      exact absurd (List.cons.inj heq).1 hc
    · rfl
  · rename_i hback
    exact (hback _ rfl).elim

theorem measure_stop {c : Char} {cs : List Char} (hrest : s.rest = c :: cs) (hspace : c ≠ ' ')
    (htab : c ≠ '\t') (hfeed : c ≠ '\x0c') (hback : c ≠ '\\') (fuel col alt cont : Nat) :
    measure (fuel + 1) s col alt cont =
      .ok (s, if cont = 0 then col else cont, if cont = 0 then alt else cont) := by
  rw [measure, hrest]
  split
  · rename_i heq
    exact absurd (List.cons.inj heq).1 hspace
  · rename_i heq
    exact absurd (List.cons.inj heq).1 htab
  · rename_i heq
    exact absurd (List.cons.inj heq).1 hfeed
  · rename_i heq
    exact absurd (List.cons.inj heq).1 hback
  · rfl

theorem Before.measure_longer (h : s.Before) {fuel fuel' : Nat} (hfuel : s.rest.length < fuel)
    (hfuel' : fuel < fuel') (col alt cont : Nat) :
    s.Measures (measure fuel s col alt cont) (measure fuel' s.longer col alt cont) := by
  have hblank {s : Cursor} {c : Char} {cs : List Char} {fuel : Nat} (h : s.Before)
      (hrest : s.rest = c :: cs) (hc : c ≠ '\n') (hfuel : s.rest.length < fuel + 1) :
      (s.skip c cs).Before ∧ (s.skip c cs).rest.length < fuel := by
    rw [hrest, List.length_cons] at hfuel
    exact ⟨h.skip hrest (h.ne_nil hrest hc), Nat.lt_of_succ_lt_succ hfuel⟩
  obtain ⟨fuel', rfl⟩ := Nat.exists_eq_succ_of_ne_zero (Nat.ne_of_gt (Nat.zero_lt_of_lt hfuel'))
  -- a character that is skipped leaves a text that still ends a line, and less of it than fuel
  fun_induction measure fuel s col alt cont generalizing fuel' with
  | case1 => cases hfuel
  | case2 _ s _ _ _ cs hrest ih =>
    obtain ⟨hskip, hlt⟩ := hblank h hrest (by decide) hfuel
    obtain ⟨fuel', rfl⟩ := Nat.exists_eq_succ_of_ne_zero (show fuel' ≠ 0 by omega)
    rw [measure, rest_longer hrest]
    exact (ih hskip hlt fuel' (by omega)).of_skip hrest
  | case3 _ s _ _ _ cs hrest ih =>
    obtain ⟨hskip, hlt⟩ := hblank h hrest (by decide) hfuel
    obtain ⟨fuel', rfl⟩ := Nat.exists_eq_succ_of_ne_zero (show fuel' ≠ 0 by omega)
    rw [measure, rest_longer hrest]
    exact (ih hskip hlt fuel' (by omega)).of_skip hrest
  | case4 _ s _ _ _ cs hrest ih =>
    obtain ⟨hskip, hlt⟩ := hblank h hrest (by decide) hfuel
    obtain ⟨fuel', rfl⟩ := Nat.exists_eq_succ_of_ne_zero (show fuel' ≠ 0 by omega)
    rw [measure, rest_longer hrest]
    exact (ih hskip hlt fuel' (by omega)).of_skip hrest
  -- the line goes on behind the end of the source, where the longer text has an empty line
  | case5 _ s _ _ _ cs hempty hrest =>
    obtain rfl := List.isEmpty_iff.1 hempty
    exact .continued rfl (hrest ▸ List.suffix_rfl) _
  | case6 _ s _ _ _ cs hempty hrest _ ih =>
    have hcs : cs ≠ [] := mt List.isEmpty_iff.2 hempty
    obtain ⟨hskip, hlt⟩ := hblank h hrest (by decide) hfuel
    obtain ⟨fuel', rfl⟩ := Nat.exists_eq_succ_of_ne_zero (show fuel' ≠ 0 by omega)
    have hmore := ih (hskip.skip rfl hcs) (Nat.lt_of_succ_lt hlt) fuel' (by omega)
    refine Measures.of_skip hrest (Measures.of_skip rfl ?_)
    convert hmore using 1
    rw [measure, rest_longer hrest]
    exact if_neg (by simp)
  | case7 _ s _ _ _ cs hrest hline =>
    obtain ⟨c, cs, rfl⟩ := List.exists_cons_of_ne_nil (h.ne_nil hrest (by decide))
    have hc : c ≠ '\n' := fun hc => hline cs (by rw [hc])
    rw [measure_stuck (rest_longer hrest) hc, h.broken_longer]
    exact .error rfl (.same _)
  -- the first character that is no blank ends both measurements
  | case8 _ s _ _ _ hspace htab hfeed hback =>
    obtain ⟨c, cs, hrest⟩ := List.exists_cons_of_ne_nil (List.ne_nil_of_mem h.ends.mem)
    rw [hrest] at hspace htab hfeed hback
    rw [measure_stop (rest_longer hrest) (fun hc => hspace cs (by rw [hc]))
      (fun hc => htab cs (by rw [hc])) (fun hc => hfeed cs (by rw [hc]))
      (fun hc => hback cs (by rw [hc]))]
    exact .ok (.refl h)

/-- A bound for the number of steps of the scanner from a place on. -/
def cost (s : Cursor) : Nat :=
  4 * s.rest.length + s.indents.length + s.pending.natAbs + if s.atStart then 3 else 0

/-- A later cursor, from which fewer steps are left. -/
structure Onward (s s' : Cursor) : Prop where
  before : s'.Before
  suffix : s'.rest <:+ s.rest
  lastLine : s'.lastLine = s.lastLine
  cost : s'.cost < s.cost
  atStart : s'.atStart = true → s'.pending = 0

theorem startLine_eq {s₁ : Cursor} {col alt : Nat} {c : Char} {cs : List Char}
    (hmeasure : measure (s.rest.length + 1) s 0 0 0 = .ok (s₁, col, alt))
    (hrest : s₁.rest = c :: cs) :
    s.startLine =
      if c = '#' ∨ c = '\n' then .ok { s₁ with atStart := false, blankLine := true }
      else if s₁.brackets.isEmpty then
        { s₁ with atStart := false, blankLine := false }.indentTo col alt
      else .ok { s₁ with atStart := false, blankLine := false } := by
  rw [startLine, hmeasure]
  dsimp only [bind, Except.bind]
  split
  · rename_i heq
    rw [if_pos (.inl (List.cons.inj (hrest.symm.trans heq)).1)]
  · rename_i heq
    rw [if_pos (.inr (List.cons.inj (hrest.symm.trans heq)).1)]
  · rename_i hcomment hline
    have hc : ¬(c = '#' ∨ c = '\n') := by
      rintro (rfl | rfl)
      · exact hcomment cs hrest
      · exact hline cs hrest
    rw [if_neg hc]

theorem Before.startLine_longer (h : s.Before) (hstart : s.atStart = true)
    (hpending : s.pending = 0) :
    s.Parallel longer s.Onward s.startLine s.longer.startLine := by
  have hlength : s.longer.rest.length = s.rest.length + 1 := List.length_append
  have hmeasure : s.Measures (measure (s.rest.length + 1) s 0 0 0)
      (measure (s.longer.rest.length + 1) s.longer 0 0 0) :=
    h.measure_longer (Nat.lt_succ_self _) (by rw [hlength]; exact Nat.lt_succ_self _) 0 0 0
  generalize hr : measure (s.rest.length + 1) s 0 0 0 = r at hmeasure
  generalize hr' : measure (s.longer.rest.length + 1) s.longer 0 0 0 = r' at hmeasure
  cases hmeasure with
  | @ok a h =>
    obtain ⟨s₁, col, alt⟩ := a
    obtain ⟨c, cs, hrest⟩ := List.exists_cons_of_ne_nil (List.ne_nil_of_mem h.before.ends.mem)
    have hle := h.suffix.length_le
    -- up to two more steps for the blocks that begin or end here are paid for by the line begun
    have honward {indents : List (Nat × Nat)} {pending : Int} (blankLine : Bool)
        (hsteps : indents.length + pending.natAbs ≤ s₁.indents.length + s₁.pending.natAbs + 2) :
        s.Onward { s₁ with atStart := false, blankLine, indents, pending } := by
      refine ⟨⟨h.before.ends, h.before.line⟩, h.suffix, h.lastLine, ?_, nofun⟩
      rw [h.indents, h.pending, hpending] at hsteps
      simp only [cost, hstart, hpending, Bool.false_eq_true, if_false, if_true] at hle ⊢
      omega
    have hsame (blankLine : Bool) : s.Onward { s₁ with atStart := false, blankLine } :=
      honward blankLine (by omega)
    rw [startLine_eq hr hrest, startLine_eq hr' (rest_longer hrest)]
    split
    · exact .ok (hsame true)
    · have hbrackets : s₁.longer.brackets = s₁.brackets := rfl
      rw [hbrackets]
      split
      · have hready : ({ s₁ with atStart := false, blankLine := false } : Cursor).Before :=
          ⟨h.before.ends, h.before.line⟩
        have hindent := hready.indentTo_longer col alt
        refine hindent.mono h.suffix h.lastLine ?_
        rintro _ ⟨indents, pending, rfl, hsteps⟩
        exact honward false hsteps
      · exact .ok (hsame false)
  | error ht h =>
    rw [startLine, startLine, hr, hr']
    exact .error ht h
  | continued ht h =>
    rw [startLine, startLine, hr]
    exact .continued ht h _

/-! ### Tokens within a line -/

/-- A word, a literal or a mark, and the cursor behind it. -/
def IsTaken (s : Cursor) (r : Token × Cursor) : Prop :=
  r.1.isSolid = true ∧ ∃ kind text rest brackets,
    r = ({ s with brackets }.token kind text, { s with brackets }.past text rest)

def Takes (s : Cursor) : Except Token (Token × Cursor) → Except Token (Token × Cursor) → Prop :=
  s.Parallel (fun r => (r.1, r.2.longer)) s.IsTaken

theorem Before.taken (h : s.Before) {kind : TokenKind} {text : List Char} (rest : List Char)
    (hsolid : (s.token kind text).isSolid = true) :
    s.Takes (.ok (s.token kind text, s.past text rest))
      (.ok (s.longer.token kind text, s.longer.past text (rest ++ ['\n']))) := by
  rw [h.token_longer]
  exact .ok ⟨hsolid, kind, text, rest, s.brackets, rfl⟩

theorem Before.bracket (h : s.Before) (c : Char) (cs : List Char) (brackets : List (Char × Nat)) :
    s.Takes
      (.ok ({ s with brackets }.token .mark [c], { s with brackets }.past [c] cs))
      (.ok ({ s.longer with brackets }.token .mark [c],
        { s.longer with brackets }.past [c] (cs ++ ['\n']))) := by
  have htoken : { s.longer with brackets }.token .mark [c] = { s with brackets }.token .mark [c] :=
    Before.token_longer (s := { s with brackets }) ⟨h.ends, h.line⟩ .mark [c]
  rw [htoken]
  exact .ok ⟨rfl, .mark, [c], cs, brackets, rfl⟩

theorem Before.mismatched (h : s.Before) (fault : Fault) (brackets : List (Char × Nat)) :
    s.Takes (.error ({ s with brackets }.broken fault true))
      (.error ({ s.longer with brackets }.broken fault true)) := by
  have hbroken :
      { s.longer with brackets }.broken fault true = { s with brackets }.broken fault true :=
    Before.broken_longer (s := { s with brackets }) ⟨h.ends, h.line⟩ fault true
  rw [hbroken]
  exact .error rfl (.same _)

theorem head?_longer {c : Char} {cs : List Char} (h : EndsLine (c :: cs)) :
    ((cs ++ ['\n']).head?.map Char.isDigit).getD false =
      (cs.head?.map Char.isDigit).getD false := by
  cases cs with
  | nil => rfl
  | cons d cs => rfl

/-! ### Strings -/

/-- What is read of a string after its opening quotes. -/
def stringFrom (s : Cursor) (quote : Char) (triple : Bool) (opened inner : List Char) :
    Except Token (Token × Cursor) :=
  match stringBody quote triple inner with
  | some r => .ok (s.token .string (opened ++ r.1), s.past (opened ++ r.1) r.2)
  | none =>
    let line := min (s.line + unterminatedLines triple inner) s.lastLine
    .error (s.broken
      (if triple then .unterminatedBlockString line else .unterminatedString line) true)

theorem nextToken_string {n : Nat} {quote : Char} {body : List Char}
    (hmark : stringMark? s.rest = some n) (hdrop : s.rest.drop n = quote :: body) :
    s.nextToken = s.stringFrom quote (body.take 2 = [quote, quote])
      (s.rest.take (if body.take 2 = [quote, quote] then n + 3 else n + 1))
      (if body.take 2 = [quote, quote] then body.drop 2 else body) := by
  obtain ⟨c, cs, hrest⟩ := List.exists_cons_of_ne_nil
    (show s.rest ≠ [] from fun hnil => by rw [hnil, List.drop_nil] at hdrop; cases hdrop)
  rw [hrest] at hmark hdrop
  rw [nextToken, hrest]
  dsimp only
  rw [hmark]
  dsimp only
  rw [hdrop, stringFrom]
  simp only [decide_eq_true_eq]
  cases stringBody quote (body.take 2 = [quote, quote])
    (if body.take 2 = [quote, quote] then body.drop 2 else body) <;> rfl

/-- A string ends before the end of the source, or it is found to be unterminated on the last
line. -/
theorem Before.stringFrom_longer (h : s.Before) {quote : Char} (hquote : quote ≠ '\n')
    (triple : Bool) {opened inner : List Char} (hsplit : opened ++ inner = s.rest)
    (hopened : '\n' ∉ opened) (hinner : inner = [] ∨ EndsLine inner) :
    s.Takes (s.stringFrom quote triple opened inner)
      (s.longer.stringFrom quote triple opened (inner ++ ['\n'])) := by
  rw [stringFrom, stringFrom, stringBody_longer hquote triple hinner]
  cases stringBody quote triple inner with
  | some r => exact h.taken r.2 rfl
  | none =>
    -- the string goes on to the end, so that it has all lines that are left
    have hcount : s.line + inner.count '\n' = s.lastLine + 1 := by
      rw [← h.line, ← hsplit, List.count_append, List.count_eq_zero_of_not_mem hopened,
        Nat.zero_add]
    have hline : s.longer.line = s.line := rfl
    have hlast : s.longer.lastLine = s.lastLine + 1 := rfl
    obtain ⟨hle, hmore⟩ := unterminatedLines_longer triple inner
    have hnear : LineNear s.lastLine (min (s.line + unterminatedLines triple inner) s.lastLine)
        (min (s.longer.line + unterminatedLines triple (inner ++ ['\n'])) s.longer.lastLine) := by
      refine ⟨?_⟩
      rw [hline, hlast]
      omega
    refine .error rfl ?_
    rw [broken, broken, h.here_longer]
    refine .broken true s.brackets.head? s.lead.reverse s.lead.reverse s.brackets.length ?_
      (.refl _)
    cases triple with
    | true => exact .blockString hnear
    | false => exact .string hnear

theorem take_longer {body : List Char} (h : EndsLine body) {quote : Char} (hquote : quote ≠ '\n') :
    ((body ++ ['\n']).take 2 = [quote, quote]) = (body.take 2 = [quote, quote]) := by
  rcases body with _ | ⟨c, _ | ⟨d, body⟩⟩
  · cases h
  · obtain rfl : c = '\n' := (List.mem_singleton.1 h.mem).symm
    simp [hquote.symm]
  · rfl

theorem take_opening {opened inner cs : List Char} (h : opened ++ inner = cs) {n : Nat}
    (hn : opened.length = n) : cs.take n = opened ∧ (cs ++ ['\n']).take n = opened := by
  subst h
  exact ⟨List.take_left' hn, by rw [List.append_assoc, List.take_left' hn]⟩

theorem Before.string_longer (h : s.Before) {n : Nat} (hmark : stringMark? s.rest = some n) :
    s.Takes s.nextToken s.longer.nextToken := by
  obtain ⟨quote, body, hdrop, hquote⟩ := stringMark?_eq_some hmark
  have hne : quote ≠ '\n' := ne_newline_of_or (by decide) (by decide) hquote
  have hsplit : s.rest.take n ++ quote :: body = s.rest := hdrop ▸ List.take_append_drop n _
  have hn : n ≤ s.rest.length := by
    by_contra hlt
    rw [List.drop_eq_nil_of_le (Nat.le_of_not_le hlt)] at hdrop
    cases hdrop
  have hbody : EndsLine body := by
    have hquoted := EndsLine.of_append (hsplit.symm ▸ h.ends) (List.cons_ne_nil quote body)
    refine hquoted.tail ?_
    rintro rfl
    exact hne (Option.some.inj hquoted)
  have hletters : '\n' ∉ s.rest.take n := not_mem_of_stringMark? hmark
  have hrest : s.longer.rest = s.rest ++ ['\n'] := rfl
  have hmark' : stringMark? s.longer.rest = some n := (stringMark?_longer h.ends).trans hmark
  have hdrop' : s.longer.rest.drop n = quote :: (body ++ ['\n']) := by
    rw [hrest, List.drop_append_of_le_length hn, hdrop, List.cons_append]
  rw [nextToken_string hmark hdrop, nextToken_string hmark' hdrop', hrest]
  simp only [take_longer hbody hne]
  by_cases htriple : body.take 2 = [quote, quote]
  · obtain ⟨inner, rfl⟩ : ∃ inner, body = quote :: quote :: inner := by
      have hparts := List.take_append_drop 2 body
      rw [htriple] at hparts
      exact ⟨_, hparts.symm⟩
    have hopened : s.rest.take n ++ [quote, quote, quote] ++ inner = s.rest := by
      rw [List.append_assoc]
      exact hsplit
    obtain ⟨htake, htake'⟩ := take_opening hopened (n := n + 3)
      (by rw [List.length_append, List.length_take_of_le hn]; rfl)
    simp only [htriple, if_true, decide_true, htake, htake']
    refine h.stringFrom_longer hne true hopened (by simp [hletters, hne.symm]) ?_
    exact or_iff_not_imp_left.2 fun hnil => (hbody.tail (List.cons_ne_nil _ _)).tail hnil
  · have hopened : s.rest.take n ++ [quote] ++ body = s.rest := by
      rw [List.append_assoc]
      exact hsplit
    obtain ⟨htake, htake'⟩ := take_opening hopened (n := n + 1)
      (by rw [List.length_append, List.length_take_of_le hn]; rfl)
    simp only [htriple, if_false, decide_false, htake, htake']
    exact h.stringFrom_longer hne false hopened (by simp [hletters, hne.symm]) (.inr hbody)

/-! ### All tokens -/

theorem Before.nextToken_longer (h : s.Before) : s.Takes s.nextToken s.longer.nextToken := by
  cases hmark : stringMark? s.rest with
  | some n => exact h.string_longer hmark
  | none =>
    -- everything but a string is told by its first character
    obtain ⟨c, cs, hrest⟩ := List.exists_cons_of_ne_nil (List.ne_nil_of_mem h.ends.mem)
    have hends : EndsLine (c :: cs) := hrest ▸ h.ends
    rw [hrest] at hmark
    have hmark' : stringMark? (c :: (cs ++ ['\n'])) = none := (stringMark?_longer hends).trans hmark
    rw [nextToken, nextToken, rest_longer hrest, hrest]
    dsimp only
    rw [hmark, hmark']
    dsimp only
    split
    · -- a word ends before the line does
      have hword := span_append (p := isWordChar) hends.mem rfl ['\n']
      rw [List.cons_append] at hword
      rw [hword.1, hword.2]
      split
      · exact h.error _ _
      · refine h.taken _ ?_
        generalize keywords.contains _ = b
        cases b <;> rfl
    · split
      · -- a number, with or without digits before its point
        rename_i hdigit
        have hnumber : number (c :: (cs ++ ['\n'])) = (number (c :: cs)).longer := by
          refine stops_number hends.mem ?_
          rintro _ ⟨⟩
          exact hdigit
        rw [hnumber]
        cases number (c :: cs) with
        | error f => exact h.error f true
        | ok r => exact h.taken r.2 rfl
      · rw [head?_longer hends]
        split
        · rename_i hdot
          rw [stops_fraction cs (mem_tail (hdot.1 ▸ by decide) hends.mem)]
          cases fraction cs with
          | error f => exact h.error f true
          | ok r => exact h.taken r.2 rfl
        · split
          · -- an opening bracket, then a closing one: neither run has more of them open
            have hbrackets : s.longer.brackets = s.brackets := rfl
            rw [hbrackets]
            split
            · exact h.error _ _
            · rw [h.here_longer]
              exact h.bracket c cs ((c, s.here) :: s.brackets)
          · split
            · have hbrackets : s.longer.brackets = s.brackets := rfl
              rw [hbrackets]
              split
              · exact h.error _ _
              · split
                · exact h.bracket c cs _
                · rw [h.here_longer]
                  exact h.mismatched _ _
            · split
              · exact h.error _ _
              · -- any other mark, which ends on the line
                have hlength : markLength (c :: (cs ++ ['\n'])) = markLength (c :: cs) :=
                  markLength_longer hends
                have hle := markLength_le (List.cons_ne_nil c cs)
                rw [hlength, ← List.cons_append, List.take_append_of_le_length hle,
                  List.drop_append_of_le_length hle]
                exact h.taken _ rfl

end Cursor

end Docent.Indented
