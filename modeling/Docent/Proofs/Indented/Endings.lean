import Docent.Proofs.Indented.Longer

/-!
# The tokens of a text with an empty line more

Main statement: a text that ends with a line and the same text with an empty line after it are cut
into the same tokens up to the end of the source, unless the last line of the first text is to be
continued, where the first text is never cut up to its end.
-/

namespace Docent.Indented

namespace Cursor

variable {s : Cursor}

theorem Before.onward (h : s.Before) (hstart : s.atStart = false) {r : Token × Cursor}
    (hnext : s.nextToken = .ok r) (hr : s.IsTaken r) : s.Onward r.2 := by
  obtain ⟨hsolid, kind, text, rest, brackets, rfl⟩ := hr
  obtain ⟨happ, -, htoken⟩ := (nextToken_advances s).1 _ _ hnext
  obtain ⟨hne, hlast, -⟩ := htoken hsolid
  replace hne : text ≠ [] := hne
  replace hlast : text.getLast? ≠ some '\n' := hlast
  have hsplit : text ++ rest = s.rest := by
    simpa only [Token.source, token, Cursor.past, remaining, List.reverse_nil, List.nil_append,
      List.append_assoc, List.append_cancel_left_eq] using happ
  have hends := h.ends
  have hline := h.line
  rw [← hsplit] at hends hline
  -- the token is no line end, and the last line has one
  have hrest : rest ≠ [] := by
    rintro rfl
    rw [List.append_nil] at hends
    exact hlast hends
  refine ⟨⟨hends.of_append hrest, ?_⟩, ⟨text, hsplit⟩, rfl, ?_, fun hat => ?_⟩
  · rw [List.count_append] at hline
    simp only [Cursor.past]
    omega
  · have hlength := congrArg List.length hsplit
    have hpos := List.length_pos_iff.2 hne
    rw [List.length_append] at hlength
    simp only [cost, Cursor.past, hstart]
    omega
  · rw [Cursor.past, hstart] at hat
    cases hat

theorem Onward.of_skip (lead : List Char) {rest : List Char} {s' : Cursor}
    (h : ({ s with lead, rest } : Cursor).Onward s') (hrest : rest <:+ s.rest) : s.Onward s' := by
  refine ⟨h.before, h.suffix.trans hrest, h.lastLine, ?_, h.atStart⟩
  have hcost := h.cost
  have hlength := hrest.length_le
  simp only [Cursor.cost] at hcost ⊢
  omega

/-! ### The end of the source -/

/-- The cursor at the end of the source, one line further on. -/
def moved (s : Cursor) (lead : List Char) : Cursor :=
  { s with lead, line := s.line + 1, lastLine := s.lastLine + 1 }

/-- A cursor at the end of a text that ends with a line. -/
structure AtEnd (s : Cursor) : Prop where
  rest : s.rest = []
  line : s.line = s.lastLine + 1

theorem AtEnd.here (h : s.AtEnd) : s.here = s.lastLine := by
  rw [Cursor.here, h.line]
  omega

theorem AtEnd.moved (h : s.AtEnd) (lead : List Char) : (s.moved lead).AtEnd :=
  ⟨h.rest, congrArg (· + 1) h.line⟩

theorem AtEnd.near (h : s.AtEnd) (lead : List Char) :
    LineNear s.lastLine s.here (s.moved lead).here := by
  rw [h.here, (h.moved lead).here]
  exact .succ le_rfl

theorem AtEnd.broken_near (h : s.AtEnd) (lead : List Char) (f : Fault) (definite : Bool) :
    (s.broken f definite).Near s.lastLine ((s.moved lead).broken f definite) :=
  .broken definite s.brackets.head? _ _ _ (.same f) (h.near lead)

theorem tokensFrom_atEnd (hrest : s.rest = []) (hstart : s.atStart = false) (hzero : s.pending = 0)
    (fuel : Nat) :
    tokensFrom (fuel + 1) s =
      if s.brackets.isEmpty then [s.token .finish []] else [s.broken .unexpectedEnd false] := by
  rw [tokensFrom, hstart, hzero, hrest]
  rfl

theorem tokensFrom_dedent (hstart : s.atStart = false) (hlt : s.pending < 0) (fuel : Nat) :
    tokensFrom (fuel + 1) s =
      { s with lead := [] }.token .dedent [] ::
        tokensFrom fuel { s with pending := s.pending + 1 } := by
  rw [tokensFrom, if_neg (Bool.eq_false_iff.1 hstart), if_pos hlt]

theorem tokensFrom_indent (hstart : s.atStart = false) (hgt : 0 < s.pending) (fuel : Nat) :
    tokensFrom (fuel + 1) s =
      s.token .indent [] :: tokensFrom fuel { s with lead := [], pending := s.pending - 1 } := by
  rw [tokensFrom, if_neg (Bool.eq_false_iff.1 hstart), if_neg (Int.not_lt.2 (Int.le_of_lt hgt)),
    if_pos hgt]

/-- The tokens at the end of the source: the blocks that are left, and the end or a fault. -/
theorem AtEnd.endings (h : s.AtEnd) (hstart : s.atStart = false) (hpending : s.pending ≤ 0)
    (hopen : s.pending = 0 ∨ s.brackets = []) {fuel fuel' : Nat} (hfuel : s.pending.natAbs < fuel)
    (hfuel' : s.pending.natAbs < fuel') (lead : List Char) :
    Endings s.lastLine (tokensFrom fuel s) (tokensFrom fuel' (s.moved lead)) ∧
      (s.brackets = [] → ∀ t ∈ tokensFrom fuel s, t.isBroken = false) := by
  -- on the fuel: as long as blocks are open, each step ends one of them
  induction fuel generalizing s fuel' with
  | zero => cases hfuel
  | succ fuel ih =>
    obtain ⟨fuel', rfl⟩ := Nat.exists_eq_succ_of_ne_zero (Nat.ne_of_gt (Nat.zero_lt_of_lt hfuel'))
    have hstart' : (s.moved lead).atStart = false := hstart
    by_cases hzero : s.pending = 0
    · have hbrackets : (s.moved lead).brackets = s.brackets := rfl
      rw [tokensFrom_atEnd h.rest hstart hzero, tokensFrom_atEnd (h.moved lead).rest hstart' hzero,
        hbrackets]
      split
      · refine ⟨.last (.finish _ _ _ (h.near lead)), fun _ t ht => ?_⟩
        rw [List.mem_singleton.1 ht]
        rfl
      · rename_i hopen
        refine ⟨.last (h.broken_near lead _ _), fun hempty => ?_⟩
        exact absurd (List.isEmpty_iff.2 hempty) hopen
    · have hlt : s.pending < 0 := by omega
      have hbrackets : s.brackets = [] := hopen.resolve_left hzero
      have hnext : ({ s with pending := s.pending + 1 } : Cursor).AtEnd := ⟨h.rest, h.line⟩
      obtain ⟨hmore, hsound⟩ := ih hnext hstart (show s.pending + 1 ≤ 0 by omega) (.inr hbrackets)
        (show (s.pending + 1).natAbs < fuel by omega) (show (s.pending + 1).natAbs < fuel' by omega)
      rw [tokensFrom_dedent hstart hlt, tokensFrom_dedent hstart' hlt]
      refine ⟨.dedent _ (h.near lead) hmore (hsound hbrackets), fun _ t ht => ?_⟩
      rcases List.mem_cons.1 ht with rfl | ht
      · rfl
      · exact hsound hbrackets t ht

theorem AtEnd.startLine_eq (h : s.AtEnd) :
    s.startLine =
      if s.brackets.isEmpty then { s with atStart := false, blankLine := false }.indentTo 0 0
      else .ok { s with atStart := false, blankLine := false } := by
  have hmeasure : measure (s.rest.length + 1) s 0 0 0 = .ok (s, 0, 0) := by
    rw [measure, h.rest]
    rfl
  rw [startLine, hmeasure]
  dsimp only [bind, Except.bind]
  rw [h.rest]

theorem AtEnd.indentTo_moved (h : s.AtEnd) (hpending : s.pending = 0) (lead : List Char) :
    (∃ indents pending, s.indentTo 0 0 = .ok { s with indents, pending } ∧ pending ≤ 0 ∧
        pending.natAbs ≤ s.indents.length ∧
        (s.moved lead).indentTo 0 0 = .ok ({ s with indents, pending }.moved lead)) ∨
      ∃ t t', t.Near s.lastLine t' ∧ s.indentTo 0 0 = .error t ∧
        (s.moved lead).indentTo 0 0 = .error t' := by
  have hsame : (s.moved lead).indents = s.indents := rfl
  rw [indentTo, indentTo, hsame]
  split
  · refine .inl ⟨s.indents, s.pending, rfl, Int.le_of_eq hpending, by omega, rfl⟩
  · split
    · split
      · refine .inl ⟨s.indents, s.pending, rfl, Int.le_of_eq hpending, by omega, rfl⟩
      · exact .inr ⟨_, _, h.broken_near lead _ _, rfl, rfl⟩
    · rw [if_neg (Nat.not_lt_zero _), if_neg (Nat.not_lt_zero _)]
      dsimp only
      split
      · refine .inl ⟨s.indents, s.pending, rfl, Int.le_of_eq hpending, by omega, rfl⟩
      · split
        · exact .inr ⟨_, _, h.broken_near lead _ _, rfl, rfl⟩
        · split
          · exact .inr ⟨_, _, h.broken_near lead _ _, rfl, rfl⟩
          · refine .inl ⟨_, _, rfl, by omega, by omega, rfl⟩

theorem AtEnd.endings_of_atStart (h : s.AtEnd) (hstart : s.atStart = true)
    (hpending : s.pending = 0) {fuel fuel' : Nat} (hfuel : s.cost < fuel) (hfuel' : fuel ≤ fuel')
    (lead : List Char) :
    Endings s.lastLine (tokensFrom fuel s) (tokensFrom fuel' (s.moved lead)) := by
  obtain ⟨fuel, rfl⟩ := Nat.exists_eq_succ_of_ne_zero (Nat.ne_of_gt (Nat.zero_lt_of_lt hfuel))
  obtain ⟨fuel', rfl⟩ := Nat.exists_eq_succ_of_ne_zero (show fuel' ≠ 0 by omega)
  have hcost : s.indents.length + 3 < fuel + 1 := by
    simpa [cost, h.rest, hpending, hstart] using hfuel
  let ready : Cursor := { s with atStart := false, blankLine := false }
  have hready : ready.AtEnd := ⟨h.rest, h.line⟩
  have hline : s.startLine = if s.brackets.isEmpty then ready.indentTo 0 0 else .ok ready :=
    h.startLine_eq
  have hline' : (s.moved lead).startLine =
      if s.brackets.isEmpty then (ready.moved lead).indentTo 0 0 else .ok (ready.moved lead) :=
    (h.moved lead).startLine_eq
  have hstart' : (s.moved lead).atStart = true := hstart
  rw [tokensFrom, tokensFrom, if_pos hstart, if_pos hstart', hline, hline']
  -- an empty line ends all blocks, unless a bracket is open
  by_cases hempty : s.brackets.isEmpty = true
  · rw [if_pos hempty, if_pos hempty]
    rcases hready.indentTo_moved hpending lead with
      ⟨indents, pending, hs, hle, hlength, hs'⟩ | ⟨t, t', ht, hs, hs'⟩
    · have hindents : ready.indents.length = s.indents.length := rfl
      have hends := AtEnd.endings (s := { ready with indents, pending }) ⟨h.rest, h.line⟩ rfl hle
        (.inr (List.isEmpty_iff.1 hempty)) (show pending.natAbs < fuel by omega)
        (show pending.natAbs < fuel' by omega) lead
      rw [hs, hs']
      exact hends.1
    · rw [hs, hs']
      exact .last ht
  · rw [if_neg hempty, if_neg hempty]
    exact (hready.endings rfl (Int.le_of_eq hpending) (.inl hpending)
      (show s.pending.natAbs < fuel by omega) (show s.pending.natAbs < fuel' by omega) lead).1

/-! ### The scanner within a line -/

theorem tokensFrom_newline {lead cs : List Char} (hstart : s.atStart = false)
    (hzero : s.pending = 0) (hskip : skipBlanks s.lead s.rest = (lead, '\n' :: cs)) (fuel : Nat) :
    tokensFrom (fuel + 1) s =
      if s.blankLine || !s.brackets.isEmpty then
        tokensFrom fuel { { s with lead, rest := '\n' :: cs }.skip '\n' cs with
          atStart := true, blankLine := false }
      else
        { s with lead, rest := '\n' :: cs }.token .newline ['\n'] ::
          tokensFrom fuel { { s with lead, rest := '\n' :: cs }.past ['\n'] cs with
            atStart := true } := by
  rw [tokensFrom, hstart, hzero, hskip]
  rfl

theorem tokensFrom_continued {lead cs : List Char} (hstart : s.atStart = false)
    (hzero : s.pending = 0) (hskip : skipBlanks s.lead s.rest = (lead, '\\' :: '\n' :: cs))
    (hcs : cs ≠ []) (fuel : Nat) :
    tokensFrom (fuel + 1) s = tokensFrom fuel
      (({ s with lead, rest := '\\' :: '\n' :: cs }.skip '\\' ('\n' :: cs)).skip '\n' cs) := by
  rw [tokensFrom, hstart, hzero, hskip]
  exact if_neg (mt List.isEmpty_iff.1 hcs)

theorem tokensFrom_unfinished {lead : List Char} (hstart : s.atStart = false)
    (hzero : s.pending = 0) (hskip : skipBlanks s.lead s.rest = (lead, ['\\', '\n'])) (fuel : Nat) :
    tokensFrom (fuel + 1) s =
      [(({ s with lead, rest := ['\\', '\n'] }.skip '\\' ['\n']).skip '\n' []).broken
        .unexpectedEnd false] := by
  rw [tokensFrom, hstart, hzero, hskip]
  rfl

theorem tokensFrom_stuck {lead cs : List Char} {c : Char} (hstart : s.atStart = false)
    (hzero : s.pending = 0) (hskip : skipBlanks s.lead s.rest = (lead, '\\' :: c :: cs))
    (hc : c ≠ '\n') (fuel : Nat) :
    tokensFrom (fuel + 1) s =
      [{ s with lead, rest := '\\' :: c :: cs }.broken .afterContinuation false] := by
  rw [tokensFrom, hstart, hzero, hskip]
  dsimp only
  rw [if_neg Bool.false_ne_true, if_neg (Int.lt_irrefl 0), if_neg (Int.lt_irrefl 0)]
  split
  · rename_i heq
    cases heq
  · rename_i heq
    exact absurd (List.cons.inj heq).1 (by decide)
  · rename_i heq
    cases heq
    split
    · rename_i heq
      exact absurd (List.cons.inj heq).1 hc
    · rfl
  · rename_i hback
    exact (hback _ rfl).elim

theorem tokensFrom_token {lead cs : List Char} {c : Char} (hstart : s.atStart = false)
    (hzero : s.pending = 0) (hskip : skipBlanks s.lead s.rest = (lead, c :: cs))
    (hline : c ≠ '\n') (hback : c ≠ '\\') (fuel : Nat) :
    (∀ t, { s with lead, rest := c :: cs }.nextToken = .error t → tokensFrom (fuel + 1) s = [t]) ∧
      ∀ r, { s with lead, rest := c :: cs }.nextToken = .ok r →
        tokensFrom (fuel + 1) s = r.1 :: tokensFrom fuel r.2 := by
  rw [tokensFrom, hstart, hzero, hskip]
  dsimp only
  rw [if_neg Bool.false_ne_true, if_neg (Int.lt_irrefl 0), if_neg (Int.lt_irrefl 0)]
  split
  · rename_i heq
    cases heq
  · rename_i heq
    exact absurd (List.cons.inj heq).1 hline
  · rename_i heq
    exact absurd (List.cons.inj heq).1 hback
  · refine ⟨fun t ht => ?_, fun r hr => ?_⟩
    · rw [← hzero, ← hstart] at *
      rw [ht]
    · rw [hr]

theorem AtEnd.endings_longer (h : s.AtEnd) (hstart : s.atStart = true) (hpending : s.pending = 0)
    (hblank : s.blankLine = false) {fuel fuel' : Nat} (hfuel : s.cost < fuel)
    (hfuel' : fuel + 2 ≤ fuel') :
    Endings s.lastLine (tokensFrom fuel s) (tokensFrom fuel' s.longer) := by
  obtain ⟨fuel', rfl⟩ := Nat.exists_eq_add_of_le hfuel'
  have hrest : s.longer.rest = ['\n'] := by rw [longer, h.rest]; rfl
  have hmeasure : measure (s.longer.rest.length + 1) s.longer 0 0 0 = .ok (s.longer, 0, 0) :=
    measure_stop hrest (by decide) (by decide) (by decide) (by decide) _ _ _ _
  have hskip : skipBlanks s.longer.lead s.longer.rest = (s.longer.lead, ['\n']) := by
    rw [hrest]
    rfl
  have hstep : tokensFrom (fuel + 2 + fuel') s.longer =
      tokensFrom (fuel + fuel') (s.moved ('\n' :: s.lead)) := by
    rw [show fuel + 2 + fuel' = fuel + fuel' + 1 + 1 by omega, tokensFrom,
      if_pos (show s.longer.atStart = true from hstart), Cursor.startLine_eq hmeasure hrest,
      if_pos (.inr rfl)]
    dsimp only
    rw [tokensFrom_newline (s := { s.longer with atStart := false, blankLine := true }) rfl hpending
      hskip]
    refine (if_pos rfl).trans (congrArg (tokensFrom _) ?_)
    rw [Cursor.skip, Cursor.moved, h.rest, hstart, hblank]
    rfl
  rw [hstep]
  exact h.endings_of_atStart hstart hpending hfuel (Nat.le_add_right _ _) _

/-! ### From the start of the text on -/

/-- What is left to scan of a text and of the text with an empty line more: the same tokens up to
the end of the source, or the text ends where a line is to be continued, and so before the end of
the source is met. -/
def EndsAlike (s : Cursor) (ts ts' : List Token) : Prop :=
  Endings s.lastLine ts ts' ∨ Continued s.rest ∧ ∀ t ∈ ts, t.isFinish = false

namespace EndsAlike

variable {ts ts' : List Token} {t t' : Token}

theorem of_onward {s' : Cursor} (hs' : s.Onward s') (h : s'.EndsAlike ts ts') :
    s.EndsAlike ts ts' :=
  h.imp (fun hends => hs'.lastLine ▸ hends)
    fun ⟨hcont, hno⟩ => ⟨List.IsSuffix.trans hcont hs'.suffix, hno⟩

theorem cons (heq : t' = t) (ht : t.isFinish = false) (h : s.EndsAlike ts ts') :
    s.EndsAlike (t :: ts) (t' :: ts') := by
  subst heq
  exact h.imp (.cons _) fun ⟨hcont, hno⟩ => ⟨hcont, List.forall_mem_cons.2 ⟨ht, hno⟩⟩

theorem of_broken (ht : t.isBroken = true) (hcont : Continued s.rest) (ts' : List Token) :
    s.EndsAlike [t] ts' :=
  .inr ⟨hcont, fun u hu => by
    rw [List.mem_singleton.1 hu]
    exact (Tokenizes.isSolid_of_isBroken ht).2⟩

end EndsAlike

theorem Before.blanks_longer (h : s.Before) {lead rest : List Char}
    (hskip : skipBlanks s.lead s.rest = (lead, rest)) :
    ({ s with lead, rest } : Cursor).Before ∧ rest <:+ s.rest ∧
      skipBlanks s.longer.lead s.longer.rest = (lead, rest ++ ['\n']) := by
  obtain ⟨us, hus, hsplit⟩ := exists_skipBlanks s.lead s.rest
  have hskip' := skipBlanks_longer s.lead h.ends.mem
  rw [hskip] at hsplit hskip'
  have hends := h.ends
  have hline := h.line
  rw [← hsplit] at hends hline
  rw [List.count_append, List.count_eq_zero_of_not_mem hus, Nat.zero_add] at hline
  refine ⟨⟨hends.of_append ?_, hline⟩, ⟨us, hsplit⟩, hskip'⟩
  rintro rfl
  exact hus (List.append_nil us ▸ hends.mem)

section

variable {fuel fuel' : Nat} {lead cs : List Char}

-- each step is taken alike if all that is left to scan after it is
variable (hgo : ∀ {s'}, s.Onward s' → s.EndsAlike (tokensFrom fuel s') (tokensFrom fuel' s'.longer))

include hgo

theorem Before.newline_longer (h : s.Before) (hstart : s.atStart = false) (hzero : s.pending = 0)
    (hskip : skipBlanks s.lead s.rest = (lead, '\n' :: cs)) (hfuel : s.cost < fuel + 1)
    (hfuel' : fuel + 2 ≤ fuel') :
    s.EndsAlike (tokensFrom (fuel + 1) s) (tokensFrom (fuel' + 1) s.longer) := by
  obtain ⟨hfound, hsuffix, hskip'⟩ := h.blanks_longer hskip
  have hcount : s.line + ('\n' :: cs).count '\n' = s.lastLine + 1 := hfound.line
  rw [List.count_cons_self] at hcount
  have hlength := hsuffix.length_le
  rw [List.length_cons] at hlength
  have hnext {s' : Cursor} (hrest : s'.rest = cs) (hline : s'.line = s.line + 1)
      (hlast : s'.lastLine = s.lastLine) (hat : s'.atStart = true) (hpending : s'.pending = 0)
      (hindents : s'.indents = s.indents) (hblank : s'.blankLine = false) :
      s.EndsAlike (tokensFrom fuel s') (tokensFrom fuel' s'.longer) := by
    have hspend : s'.cost < s.cost := by
      rw [cost, cost, hrest, hat, hpending, hindents, hstart, hzero]
      simp only [if_true, Bool.false_eq_true, if_false]
      omega
    by_cases hcs : cs = []
    -- behind the last line the one run is at the end of the source, the other at the empty line
    · subst hcs
      rw [List.count_nil] at hcount
      have hends : s'.AtEnd := ⟨hrest, by omega⟩
      exact .inl (hlast ▸ hends.endings_longer hat hpending hblank (by omega) hfuel')
    · refine hgo ⟨⟨?_, ?_⟩, ?_, hlast, hspend, fun _ => hpending⟩
      · rw [hrest]
        exact EndsLine.tail hfound.ends hcs
      · rw [hrest, hline, hlast]
        omega
      · rw [hrest]
        exact (List.suffix_cons '\n' cs).trans hsuffix
  have hsame : (s.longer.blankLine || !s.longer.brackets.isEmpty) =
      (s.blankLine || !s.brackets.isEmpty) := rfl
  rw [tokensFrom_newline hstart hzero hskip,
    tokensFrom_newline (s := s.longer) hstart hzero hskip', hsame]
  by_cases hjoined : (s.blankLine || !s.brackets.isEmpty) = true
  · rw [if_pos hjoined, if_pos hjoined]
    exact hnext rfl rfl rfl rfl hzero rfl rfl
  · have hblank : s.blankLine = false :=
      (Bool.or_eq_false_iff.1 (Bool.eq_false_iff.2 hjoined)).1
    rw [if_neg hjoined, if_neg hjoined]
    exact .cons (hfound.token_longer .newline ['\n']) rfl (hnext rfl rfl rfl rfl hzero rfl hblank)

theorem Before.backslash_longer (h : s.Before) (hstart : s.atStart = false) (hzero : s.pending = 0)
    (hskip : skipBlanks s.lead s.rest = (lead, '\\' :: cs)) :
    s.EndsAlike (tokensFrom (fuel + 1) s) (tokensFrom (fuel' + 1) s.longer) := by
  obtain ⟨hfound, hsuffix, hskip'⟩ := h.blanks_longer hskip
  have hstart' : s.longer.atStart = false := hstart
  obtain ⟨d, ds, rfl⟩ := List.exists_cons_of_ne_nil (hfound.ne_nil rfl (by decide))
  by_cases hd : d = '\n'
  · subst hd
    by_cases hds : ds = []
    · subst hds
      rw [tokensFrom_unfinished hstart hzero hskip]
      exact .of_broken rfl hsuffix _
    · rw [tokensFrom_continued hstart hzero hskip hds,
        tokensFrom_continued hstart' hzero hskip' (by simp)]
      refine hgo (Onward.of_skip lead ?_ hsuffix)
      have hone := hfound.skip (c := '\\') rfl (List.cons_ne_nil _ _)
      refine ⟨hone.skip rfl hds, ?_, rfl, ?_, fun hat => ?_⟩
      · exact (List.suffix_cons _ _).trans (List.suffix_cons _ _)
      · simp only [cost, Cursor.skip, List.length_cons]
        omega
      · rw [Cursor.skip, Cursor.skip, hstart] at hat
        cases hat
  · have hsame := hfound.broken_longer .afterContinuation false
    rw [tokensFrom_stuck hstart hzero hskip hd, tokensFrom_stuck hstart' hzero hskip' hd]
    exact .inl (.last (hsame ▸ .same _))

theorem Before.solid_longer (h : s.Before) (hstart : s.atStart = false) (hzero : s.pending = 0)
    {c : Char} (hskip : skipBlanks s.lead s.rest = (lead, c :: cs)) (hline : c ≠ '\n')
    (hback : c ≠ '\\') :
    s.EndsAlike (tokensFrom (fuel + 1) s) (tokensFrom (fuel' + 1) s.longer) := by
  obtain ⟨hfound, hsuffix, hskip'⟩ := h.blanks_longer hskip
  have hstart' : s.longer.atStart = false := hstart
  have htoken := hfound.nextToken_longer
  obtain ⟨herror, hok⟩ := tokensFrom_token hstart hzero hskip hline hback fuel
  obtain ⟨herror', hok'⟩ := tokensFrom_token hstart' hzero hskip' hline hback fuel'
  generalize hs : Cursor.nextToken { s with lead, rest := c :: cs } = r at htoken herror hok
  generalize hs' : (longer { s with lead, rest := c :: cs }).nextToken = r' at htoken
  cases htoken with
  | @ok r hr =>
    rw [hok _ rfl, hok' _ hs']
    have honward := Onward.of_skip lead (hfound.onward hstart hs hr) hsuffix
    have hfinish : r.1.isFinish = false := ((nextToken_advances _).1 _ _ hs).2.1
    exact .cons rfl hfinish (hgo honward)
  | error ht hnear =>
    rw [herror _ rfl, herror' _ hs']
    exact .inl (.last hnear)
  | continued ht hcont =>
    rw [herror _ rfl]
    exact .of_broken ht (List.IsSuffix.trans hcont hsuffix) _

end

theorem Onward.of_pending (h : s.Before) (hstart : s.atStart = false) {pending : Int}
    (lead : List Char) (hpending : pending.natAbs < s.pending.natAbs) :
    s.Onward { s with lead, pending } := by
  refine ⟨⟨h.ends, h.line⟩, List.suffix_rfl, rfl, ?_, fun hat => ?_⟩
  · simp only [Cursor.cost, hstart, Bool.false_eq_true, if_false]
    omega
  · exact absurd (hstart.symm.trans hat) Bool.false_ne_true

/-- The tokens from a place on are the same with an empty line at the end of the text, or the text
ends where a line is to be continued. -/
theorem Before.tokensFrom_longer (h : s.Before) (hready : s.atStart = true → s.pending = 0)
    {fuel fuel' : Nat} (hfuel : s.cost < fuel) (hfuel' : fuel + 2 ≤ fuel') :
    s.EndsAlike (tokensFrom fuel s) (tokensFrom fuel' s.longer) := by
  -- every step goes onward, to a cursor from which fewer steps are left than there is fuel
  induction fuel generalizing s fuel' with
  | zero => cases hfuel
  | succ fuel ih =>
    obtain ⟨fuel', rfl⟩ := Nat.exists_eq_succ_of_ne_zero (show fuel' ≠ 0 by omega)
    have hgo {s' : Cursor} (hs' : s.Onward s') :
        s.EndsAlike (tokensFrom fuel s') (tokensFrom fuel' s'.longer) := by
      have hcost := hs'.cost
      exact .of_onward hs' (ih hs'.before hs'.atStart (by omega) (by omega))
    cases hstart : s.atStart with
    | true =>
      have hline := h.startLine_longer hstart (hready hstart)
      have hstart' : s.longer.atStart = true := hstart
      rw [tokensFrom, tokensFrom, if_pos hstart, if_pos hstart']
      generalize s.startLine = r at hline ⊢
      generalize s.longer.startLine = r' at hline ⊢
      cases hline with
      | ok hs' => exact hgo hs'
      | error ht hnear => exact .inl (.last hnear)
      | continued ht hcont => exact .of_broken ht hcont _
    | false =>
      have hstart' : s.longer.atStart = false := hstart
      rcases Int.lt_trichotomy s.pending 0 with hlt | hzero | hgt
      · have hnone : ({ s with lead := [] } : Cursor).Before := ⟨h.ends, h.line⟩
        rw [tokensFrom_dedent hstart hlt, tokensFrom_dedent hstart' hlt]
        exact .cons (hnone.token_longer .dedent []) rfl
          (hgo (.of_pending h hstart s.lead (by omega)))
      · generalize hskip : skipBlanks s.lead s.rest = r
        obtain ⟨lead, rest⟩ := r
        obtain ⟨c, cs, rfl⟩ := List.exists_cons_of_ne_nil
          (List.ne_nil_of_mem (h.blanks_longer hskip).1.ends.mem)
        by_cases hline : c = '\n'
        · subst hline
          exact h.newline_longer hgo hstart hzero hskip hfuel (by omega)
        · by_cases hback : c = '\\'
          · subst hback
            exact h.backslash_longer hgo hstart hzero hskip
          · exact h.solid_longer hgo hstart hzero hskip hline hback
      · rw [tokensFrom_indent hstart hgt, tokensFrom_indent hstart' hgt]
        exact .cons (h.token_longer .indent []) rfl (hgo (.of_pending h hstart [] (by omega)))

end Cursor

/-! ### Whole texts -/

open Cursor

/-- A text that ends with a line and the same text with an empty line after it are cut into the same
tokens up to the end of the source, or the last line of the text is to be continued. -/
theorem tokens_longer {cs : List Char} (h : EndsLine cs) :
    Endings (cs.count '\n') (tokens cs) (tokens (cs ++ ['\n'])) ∨
      Continued cs ∧ ∀ t ∈ tokens cs, t.isFinish = false := by
  have hpos := List.count_pos_iff.2 h.mem
  have hlast : 1 + (cs.count '\n' - 1) = cs.count '\n' := by omega
  have hlast' : 1 + ((cs ++ ['\n']).count '\n' - 1) = cs.count '\n' + 1 := by
    rw [List.count_append, List.count_singleton_self]
    omega
  rw [tokens, tokens, tokensAt, tokensAt, hlast, hlast']
  let s : Cursor := ⟨cs, 1, [], true, false, [(0, 0)], 0, [], cs.count '\n'⟩
  have hlength : (cs ++ ['\n']).length = cs.length + 1 := List.length_append
  have hfuel : s.cost < 4 * cs.length + 8 := Nat.lt_succ_of_le (by simp [cost, s])
  have hbefore : s.Before := ⟨h, Nat.add_comm _ _⟩
  refine hbefore.tokensFrom_longer (fun _ => rfl) hfuel ?_
  rw [hlength]
  omega

end Docent.Indented
