import Docent.Proofs.Indented.Tokens

/-!
# Scanners before an empty line

What a scanner takes does not depend on an empty line at the end of the text: it takes the same,
or finds the same fault, and the empty line is left with the rest.
-/

namespace Docent.Indented

/-- What a scanner gives, with an empty line after the rest. -/
def Scan.longer (r : Scan) : Scan :=
  r.map fun p => (p.1, p.2 ++ ['\n'])

/-- A scanner that stops before the end of a line. -/
def Stops (f : List Char → Scan) : Prop :=
  ∀ cs, '\n' ∈ cs → f (cs ++ ['\n']) = (f cs).longer

theorem Scan.longer_cons (c : Char) (r : Scan) : (Scan.cons c r).longer = Scan.cons c r.longer := by
  cases r <;> rfl

theorem mem_tail {c : Char} {cs : List Char} (hc : c ≠ '\n') (h : '\n' ∈ c :: cs) : '\n' ∈ cs :=
  (List.mem_cons.1 h).resolve_left fun heq => hc heq.symm

theorem isPrefixOf_append {w cs : List Char} (hw : '\n' ∉ w) (hcs : '\n' ∈ cs) (es : List Char) :
    w.isPrefixOf (cs ++ es) = w.isPrefixOf cs := by
  induction w generalizing cs with
  | nil => simp
  | cons a w ih =>
    obtain ⟨c, cs, rfl⟩ := List.exists_cons_of_ne_nil (List.ne_nil_of_mem hcs)
    obtain ⟨ha, hw⟩ := not_or.1 (mt List.mem_cons.2 hw)
    rw [List.cons_append, List.isPrefixOf, List.isPrefixOf]
    by_cases hac : a = c
    · rw [ih hw (mem_tail (hac ▸ Ne.symm ha) hcs)]
    · rw [beq_eq_false_iff_ne.2 hac, Bool.false_and, Bool.false_and]

theorem mayFollowNumber_append {cs : List Char} (h : '\n' ∈ cs) (es : List Char) :
    mayFollowNumber (cs ++ es) = mayFollowNumber cs := by
  have hwords : ∀ k ∈ ["and", "else", "for", "if", "in", "is", "or"], '\n' ∉ k.toList := by decide
  simp only [mayFollowNumber, List.any_eq]
  congr 1
  refine propext (exists_congr fun k => and_congr_right fun hk => ?_)
  rw [isPrefixOf_append (hwords k hk) h]

theorem stops_endNumber (radix : Radix) : Stops (endNumber radix) := by
  intro cs h
  obtain ⟨c, cs, rfl⟩ := List.exists_cons_of_ne_nil (List.ne_nil_of_mem h)
  have hmay := mayFollowNumber_append h ['\n']
  rw [List.cons_append] at hmay
  rw [List.cons_append, endNumber, endNumber, hmay]
  split <;> rfl

theorem decimalTail_cons {next : List Char → Scan} {c : Char} {cs : List Char} (hc : c ≠ '_') :
    decimalTail next (c :: cs) =
      if c.isDigit then Scan.cons c (decimalTail next cs) else next (c :: cs) := by
  rw [decimalTail]
  · exact fun _ _ heq => absurd heq hc
  · exact fun heq => absurd heq hc

theorem stops_decimalTail {next : List Char → Scan} (hnext : Stops next) :
    Stops (decimalTail next) := by
  intro cs h
  fun_induction decimalTail next cs with
  | case1 d cs hd ih =>
    have hcs : '\n' ∈ cs := mem_tail (ne_newline_of_isDigit hd) (mem_tail (by decide) h)
    rw [List.cons_append, List.cons_append, decimalTail, if_pos hd, ih hcs, Scan.longer_cons,
      Scan.longer_cons]
  | case2 d cs hd => rw [List.cons_append, List.cons_append, decimalTail, if_neg hd]; rfl
  | case3 => exact absurd h (by decide)
  | case4 c cs hpair hlone hc ih =>
    have hcs : '\n' ∈ cs := mem_tail (ne_newline_of_isDigit hc) h
    have hne : c ≠ '_' := by rintro rfl; exact absurd hc (by decide)
    rw [List.cons_append, decimalTail_cons hne, if_pos hc, ih hcs, Scan.longer_cons]
  | case5 c cs hpair hlone hc =>
    have hne : c ≠ '_' := by
      rintro rfl
      obtain ⟨d, cs, rfl⟩ :=
        List.exists_cons_of_ne_nil (List.ne_nil_of_mem (mem_tail (by decide) h))
      exact hpair _ _ rfl rfl
    rw [List.cons_append, decimalTail_cons hne, if_neg hc, ← List.cons_append, hnext _ h]
  | case6 => cases h

theorem imaginaryMark_cons (c : Char) (cs : List Char) :
    imaginaryMark (c :: cs) =
      if c = 'j' ∨ c = 'J' then Scan.cons c (endNumber .imaginary cs)
      else endNumber .decimal (c :: cs) := by
  split
  · rename_i hc
    rcases hc with rfl | rfl <;> rfl
  · rename_i hc
    rw [imaginaryMark]
    · rintro _ ⟨⟩
      exact hc (.inl rfl)
    · rintro _ ⟨⟩
      exact hc (.inr rfl)

theorem stops_imaginaryMark : Stops imaginaryMark := by
  intro cs h
  obtain ⟨c, cs, rfl⟩ := List.exists_cons_of_ne_nil (List.ne_nil_of_mem h)
  rw [List.cons_append, imaginaryMark_cons, imaginaryMark_cons]
  split
  · rename_i hc
    have hcs : '\n' ∈ cs := mem_tail (ne_newline_of_or (by decide) (by decide) hc) h
    rw [stops_endNumber _ _ hcs, Scan.longer_cons]
  · exact stops_endNumber _ _ h

theorem stops_exponent : Stops exponent := by
  intro cs h
  -- it looks at three characters, of which the line end may be any
  rcases cs with _ | ⟨e, _ | ⟨s, _ | ⟨d, cs⟩⟩⟩
  · cases h
  · obtain rfl : e = '\n' := (List.mem_singleton.1 h).symm
    rfl
  · by_cases he : e = 'e' ∨ e = 'E'
    · have hcs : '\n' ∈ [s] := mem_tail (ne_newline_of_or (by decide) (by decide) he) h
      obtain rfl : s = '\n' := (List.mem_singleton.1 hcs).symm
      rw [List.cons_append, List.cons_append, List.nil_append, exponent.eq_def, exponent.eq_def]
      dsimp only
      rw [if_pos he, if_pos he]
      exact stops_endNumber .decimal _ h
    · rw [List.cons_append, List.cons_append, List.nil_append, exponent.eq_def, exponent.eq_def]
      dsimp only
      rw [if_neg he, if_neg he]
      exact stops_imaginaryMark _ h
  · rw [List.cons_append, List.cons_append, List.cons_append, exponent, exponent]
    split
    · rename_i he
      have hs : '\n' ∈ s :: d :: cs := mem_tail (ne_newline_of_or (by decide) (by decide) he) h
      split
      · rename_i hsign
        have hd : '\n' ∈ d :: cs := mem_tail (ne_newline_of_or (by decide) (by decide) hsign) hs
        split
        · rename_i hdigit
          rw [stops_decimalTail stops_imaginaryMark _ (mem_tail (ne_newline_of_isDigit hdigit) hd),
            Scan.longer_cons, Scan.longer_cons, Scan.longer_cons]
        · rfl
      · split
        · rename_i hdigit
          have hd : '\n' ∈ d :: cs := mem_tail (ne_newline_of_isDigit hdigit) hs
          rw [← List.cons_append, stops_decimalTail stops_imaginaryMark _ hd, Scan.longer_cons,
            Scan.longer_cons]
        · exact stops_endNumber .decimal _ h
    · exact stops_imaginaryMark _ h

theorem stops_fraction : Stops fraction := by
  intro cs h
  obtain ⟨d, cs, rfl⟩ := List.exists_cons_of_ne_nil (List.ne_nil_of_mem h)
  rw [List.cons_append, fraction, fraction]
  split
  · rename_i hd
    rw [stops_decimalTail stops_exponent _ (mem_tail (ne_newline_of_isDigit hd) h),
      Scan.longer_cons]
  · exact stops_exponent _ h

theorem afterInteger_cons (c : Char) (cs : List Char) :
    afterInteger (c :: cs) =
      if c = '.' then Scan.cons c (fraction cs) else exponent (c :: cs) := by
  split
  · rename_i hc
    rw [hc, afterInteger]
  · rename_i hc
    rw [afterInteger]
    rintro _ ⟨⟩
    exact hc rfl

theorem stops_afterInteger : Stops afterInteger := by
  intro cs h
  obtain ⟨c, cs, rfl⟩ := List.exists_cons_of_ne_nil (List.ne_nil_of_mem h)
  rw [List.cons_append, afterInteger_cons, afterInteger_cons]
  split
  · rename_i hc
    rw [stops_fraction _ (mem_tail (hc ▸ by decide) h), Scan.longer_cons]
  · exact stops_exponent _ h

theorem stops_radixDigits (radix : Radix) (need gap : Bool) :
    Stops (radixDigits radix need gap) := by
  intro cs h
  induction cs generalizing need gap with
  | nil => cases h
  | cons c cs ih =>
    rw [List.cons_append, radixDigits, radixDigits]
    split
    · rename_i hc
      rw [ih _ _ (mem_tail (ne_newline_of_isDigitOf hc) h), Scan.longer_cons]
    · split
      · rename_i hc
        rw [ih _ _ (mem_tail (hc.1 ▸ by decide) h), Scan.longer_cons]
      · split
        · rfl
        · split
          · rfl
          · exact stops_endNumber _ _ h

theorem stops_excused : Stops afterZeros.excused := by
  intro cs h
  obtain ⟨c, cs, rfl⟩ := List.exists_cons_of_ne_nil (List.ne_nil_of_mem h)
  rw [List.cons_append, afterZeros.excused, afterZeros.excused]
  split
  · exact stops_afterInteger _ h
  · rfl

theorem stops_afterZeros : Stops afterZeros := by
  intro cs h
  obtain ⟨d, cs, rfl⟩ := List.exists_cons_of_ne_nil (List.ne_nil_of_mem h)
  rw [List.cons_append, afterZeros, afterZeros]
  split
  · rename_i hd
    rw [stops_decimalTail stops_excused _ (mem_tail (ne_newline_of_isDigit hd) h),
      Scan.longer_cons]
  · exact stops_afterInteger _ h

theorem stops_zeros : Stops zeros := by
  intro cs h
  fun_induction zeros cs with
  | case1 cs ih =>
    have hcs : '\n' ∈ cs := mem_tail (by decide) (mem_tail (by decide) h)
    rw [List.cons_append, List.cons_append, zeros, if_pos rfl, ih hcs, Scan.longer_cons,
      Scan.longer_cons]
  | case2 d cs hzero hd =>
    have hcs : '\n' ∈ d :: cs := mem_tail (by decide) h
    rw [List.cons_append, List.cons_append, zeros, if_neg hzero, if_pos hd, ← List.cons_append,
      stops_afterZeros _ hcs, Scan.longer_cons]
  | case3 d cs hzero hd =>
    rw [List.cons_append, List.cons_append, zeros, if_neg hzero, if_neg hd]
    rfl
  | case4 => exact absurd h (by decide)
  | case5 cs ih =>
    rw [List.cons_append, zeros, ih (mem_tail (by decide) h), Scan.longer_cons]
  -- no underscore, as one before the line end would have been met by the cases above
  | case6 cs hpair hlone hzero =>
    obtain ⟨c, cs, rfl⟩ := List.exists_cons_of_ne_nil (List.ne_nil_of_mem h)
    have hc : c ≠ '_' := by
      rintro rfl
      obtain ⟨d, cs, rfl⟩ :=
        List.exists_cons_of_ne_nil (List.ne_nil_of_mem (mem_tail (by decide) h))
      exact hpair _ _ rfl
    rw [List.cons_append, zeros, ← List.cons_append, stops_afterZeros _ h]
    · exact fun _ _ heq => hc (List.cons.inj heq).1
    · exact fun heq => hc (List.cons.inj heq).1
    · exact fun _ heq => hzero cs (by rw [(List.cons.inj heq).1])

theorem number_cons {d : Char} (hd : d ≠ '0') (cs : List Char) :
    number (d :: cs) = Scan.cons d (decimalTail afterInteger cs) := by
  rw [number]
  · exact fun _ _ heq => absurd heq hd
  · exact fun heq => absurd heq hd

theorem stops_number {cs : List Char} (h : '\n' ∈ cs) (hhead : ∀ c ∈ cs.head?, c.isDigit = true) :
    number (cs ++ ['\n']) = (number cs).longer := by
  obtain ⟨d, cs, rfl⟩ := List.exists_cons_of_ne_nil (List.ne_nil_of_mem h)
  have hcs : '\n' ∈ cs := mem_tail (ne_newline_of_isDigit (hhead d rfl)) h
  by_cases hd : d = '0'
  · subst hd
    obtain ⟨c, cs, rfl⟩ := List.exists_cons_of_ne_nil (List.ne_nil_of_mem hcs)
    have hradix (radix : Radix) (hc : c ≠ '\n') :
        Scan.cons '0' (Scan.cons c (radixDigits radix true true (cs ++ ['\n']))) =
          (Scan.cons '0' (Scan.cons c (radixDigits radix true true cs))).longer := by
      rw [stops_radixDigits radix _ _ _ (mem_tail hc hcs), Scan.longer_cons, Scan.longer_cons]
    rw [List.cons_append, List.cons_append, number, number]
    split
    · rename_i hc
      exact hradix .hexadecimal (ne_newline_of_or (by decide) (by decide) hc)
    · split
      · rename_i hc
        exact hradix .octal (ne_newline_of_or (by decide) (by decide) hc)
      · split
        · rename_i hc
          exact hradix .binary (ne_newline_of_or (by decide) (by decide) hc)
        · rw [← List.cons_append, stops_zeros _ hcs, Scan.longer_cons]
  · rw [List.cons_append, number_cons hd, number_cons hd,
      stops_decimalTail stops_afterInteger _ hcs, Scan.longer_cons]

/-! ### Strings and marks -/

/-- A text that ends with a line. -/
def EndsLine (cs : List Char) : Prop := cs.getLast? = some '\n'

/-- A text whose last line is to be continued. -/
def Continued (cs : List Char) : Prop := ['\\', '\n'] <:+ cs

theorem EndsLine.mem {cs : List Char} (h : EndsLine cs) : '\n' ∈ cs := List.mem_of_getLast? h

theorem EndsLine.tail {c : Char} {cs : List Char} (h : EndsLine (c :: cs)) (hcs : cs ≠ []) :
    EndsLine cs := by
  obtain ⟨d, cs, rfl⟩ := List.exists_cons_of_ne_nil hcs
  rwa [EndsLine, List.getLast?_cons_cons] at h

theorem EndsLine.of_append {as bs : List Char} (h : EndsLine (as ++ bs)) (hbs : bs ≠ []) :
    EndsLine bs := by
  rw [EndsLine, List.getLast?_append] at h
  cases hlast : bs.getLast? with
  | none => exact absurd (List.getLast?_eq_none_iff.1 hlast) hbs
  | some c =>
    rw [hlast, Option.some_or] at h
    exact hlast.trans h

theorem stringBody_cons {quote c : Char} {triple : Bool} {cs : List Char} (hc : c ≠ '\\') :
    stringBody quote triple (c :: cs) =
      if (closingQuotes quote triple).isPrefixOf (c :: cs) then
        some (closingQuotes quote triple, (c :: cs).drop (closingQuotes quote triple).length)
      else if c = '\n' ∧ !triple then none
      else (stringBody quote triple cs).map fun r => (c :: r.1, r.2) := by
  rw [stringBody]
  exact fun _ _ heq => absurd heq hc

theorem stringBody_longer {quote : Char} (hquote : quote ≠ '\n') (triple : Bool) {cs : List Char}
    (h : cs = [] ∨ EndsLine cs) :
    stringBody quote triple (cs ++ ['\n']) =
      (stringBody quote triple cs).map fun r => (r.1, r.2 ++ ['\n']) := by
  have hclosing : '\n' ∉ closingQuotes quote triple := by
    cases triple <;> simp [closingQuotes, hquote.symm]
  -- a backslash is never the last character, and quotes are not closed by a line end
  have hhead {c : Char} {cs : List Char} (h : c :: cs = [] ∨ EndsLine (c :: cs))
      (hpair : ∀ d ds, c = '\\' → cs = d :: ds → False) :
      c ≠ '\\' ∧ (closingQuotes quote triple).isPrefixOf (c :: (cs ++ ['\n'])) =
        (closingQuotes quote triple).isPrefixOf (c :: cs) := by
    have hends : EndsLine (c :: cs) := h.resolve_left (List.cons_ne_nil c cs)
    refine ⟨?_, isPrefixOf_append hclosing hends.mem _⟩
    rintro rfl
    cases cs with
    | nil => exact absurd hends (by simp [EndsLine])
    | cons d ds => exact hpair d ds rfl rfl
  have htail {c : Char} {cs : List Char} (h : c :: cs = [] ∨ EndsLine (c :: cs)) :
      cs = [] ∨ EndsLine cs :=
    or_iff_not_imp_left.2 (h.resolve_left (List.cons_ne_nil c cs)).tail
  fun_induction stringBody quote triple cs with
  | case1 =>
    rw [List.nil_append, stringBody_cons (by decide)]
    split
    · rename_i hfront
      cases triple <;> simp [closingQuotes, hquote] at hfront
    · split <;> rfl
  | case2 c cs ih =>
    have hcs : cs = [] ∨ EndsLine cs := htail (htail h)
    rw [List.cons_append, List.cons_append, stringBody, ih hcs, Option.map_map, Option.map_map]
    rfl
  | case3 c cs hpair _ hfront =>
    obtain ⟨hc, hsame⟩ := hhead h hpair
    have hle := (List.isPrefixOf_iff_prefix.1 hfront).length_le
    rw [List.cons_append, stringBody_cons hc, hsame, if_pos hfront, ← List.cons_append,
      List.drop_append_of_le_length hle]
    rfl
  | case4 c cs hpair _ hfront hline =>
    obtain ⟨hc, hsame⟩ := hhead h hpair
    rw [List.cons_append, stringBody_cons hc, hsame, if_neg hfront, if_pos hline]
    rfl
  | case5 c cs hpair _ hfront hline ih =>
    obtain ⟨hc, hsame⟩ := hhead h hpair
    rw [List.cons_append, stringBody_cons hc, hsame, if_neg hfront, if_neg hline, ih (htail h),
      Option.map_map, Option.map_map]
    rfl

theorem letters_prefix (cs : List Char) : (cs.take 2).takeWhile Char.isAlpha <+: cs :=
  (List.takeWhile_prefix Char.isAlpha).trans (List.take_prefix 2 cs)

theorem not_mem_of_stringMark? {cs : List Char} {n : Nat} (h : stringMark? cs = some n) :
    '\n' ∉ cs.take n := by
  have hfront := letters_prefix cs
  rw [stringMark?] at h
  split at h
  · split at h
    · cases h
      rw [← List.prefix_iff_eq_take.1 hfront]
      exact fun hmem => absurd (List.mem_takeWhile_imp hmem) (by decide)
    · cases h
  · cases h

theorem stringMark?_longer {cs : List Char} (h : EndsLine cs) :
    stringMark? (cs ++ ['\n']) = stringMark? cs := by
  have htake :
      ((cs ++ ['\n']).take 2).takeWhile Char.isAlpha = (cs.take 2).takeWhile Char.isAlpha := by
    rcases cs with _ | ⟨c, _ | ⟨d, cs⟩⟩
    · rfl
    · obtain rfl : c = '\n' := (List.mem_singleton.1 h.mem).symm
      rfl
    · rfl
  have hlt : ((cs.take 2).takeWhile Char.isAlpha).length < cs.length := by
    have hfront := letters_prefix cs
    refine lt_of_le_of_ne hfront.length_le fun heq => ?_
    have hmem : '\n' ∈ (cs.take 2).takeWhile Char.isAlpha := by
      rw [hfront.eq_of_length heq]
      exact h.mem
    exact absurd (List.mem_takeWhile_imp hmem) (by decide)
  rw [stringMark?, stringMark?, htake, List.drop_append_of_le_length hlt.le]
  obtain ⟨c, rest, hrest⟩ :=
    List.exists_cons_of_ne_nil (mt List.drop_eq_nil_iff.1 (Nat.not_le.2 hlt))
  rw [hrest, List.cons_append]

theorem markLength_le {cs : List Char} (h : cs ≠ []) : markLength cs ≤ cs.length := by
  have hlist {marks : List String} {n : Nat} (hmarks : ∀ s ∈ marks, s.toList.length = n)
      (hmem : marks.contains (String.ofList (cs.take n)) = true) : n ≤ cs.length := by
    have hlength := hmarks _ (List.contains_iff_mem.1 hmem)
    rw [String.toList_ofList, List.length_take] at hlength
    omega
  rw [markLength]
  split
  · rename_i hthree
    exact hlist (by decide) hthree
  · split
    · rename_i htwo
      exact hlist (by decide) htwo
    · exact List.length_pos_iff.2 h

theorem markLength_longer {cs : List Char} (h : EndsLine cs) :
    markLength (cs ++ ['\n']) = markLength cs := by
  have hno {marks : List String} {cs : List Char} (hmarks : ∀ s ∈ marks, '\n' ∉ s.toList)
      (hcs : '\n' ∈ cs) : marks.contains (String.ofList cs) = false := by
    refine Bool.eq_false_iff.2 fun hmem => hmarks _ (List.contains_iff_mem.1 hmem) ?_
    rwa [String.toList_ofList]
  rcases cs with _ | ⟨c, _ | ⟨d, _ | ⟨e, cs⟩⟩⟩
  · cases h
  · obtain rfl : c = '\n' := (List.mem_singleton.1 h.mem).symm
    decide
  · -- one mark and the line end: no longer mark has a line end in it
    obtain rfl : d = '\n' := (List.mem_singleton.1 (h.tail (List.cons_ne_nil _ _)).mem).symm
    have hthree : ["...", "**=", "//=", "<<=", ">>="].contains
        (String.ofList [c, '\n', '\n']) = false := hno (by decide) (by simp)
    have htwo : ["...", "**=", "//=", "<<=", ">>="].contains (String.ofList [c, '\n']) = false :=
      hno (by decide) (by simp)
    simp only [markLength, List.cons_append, List.nil_append, List.take_succ_cons, List.take_nil,
      List.take_zero, hthree, htwo, Bool.false_eq_true, if_false]
    rfl
  · rfl

theorem unterminatedLines_longer (triple : Bool) (cs : List Char) :
    unterminatedLines triple cs ≤ cs.count '\n' ∧
      (unterminatedLines triple (cs ++ ['\n']) = unterminatedLines triple cs ∨
        unterminatedLines triple (cs ++ ['\n']) = unterminatedLines triple cs + 1 ∧
          unterminatedLines triple cs = cs.count '\n') := by
  -- one more line is counted only where all line feeds were counted already
  fun_induction unterminatedLines triple cs with
  | case1 => cases triple <;> decide
  | case2 cs ih =>
    rw [List.cons_append, List.cons_append, unterminatedLines]
    simp only [List.count_cons_self, List.count_cons_of_ne (show '\\' ≠ '\n' by decide)]
    omega
  | case3 c cs hc ih =>
    rw [List.cons_append, List.cons_append, unterminatedLines]
    · simp only [List.count_cons_of_ne (show '\\' ≠ '\n' by decide), List.count_cons_of_ne hc]
      exact ih
    · exact hc
  | case4 cs htriple ih =>
    rw [List.cons_append, unterminatedLines, if_pos htriple]
    simp only [List.count_cons_self]
    omega
  | case5 cs htriple =>
    rw [List.cons_append, unterminatedLines, if_neg htriple]
    exact ⟨Nat.zero_le _, .inl rfl⟩
  | case6 c cs hjoined hescape hc ih =>
    rw [List.count_cons_of_ne hc]
    by_cases hback : c = '\\'
    · obtain rfl : cs = [] := by
        cases cs with
        | nil => rfl
        | cons d ds => exact (hescape d ds hback rfl).elim
      subst hback
      cases triple <;> decide
    · rw [List.cons_append, unterminatedLines]
      · exact ih
      · exact fun _ heq => absurd heq hback
      · exact fun _ _ heq => absurd heq hback
      · exact hc

/-! ### Blanks and words -/

theorem span_append {p : Char → Bool} {cs : List Char} (h : '\n' ∈ cs) (hp : p '\n' = false)
    (es : List Char) :
    (cs ++ es).takeWhile p = cs.takeWhile p ∧ (cs ++ es).dropWhile p = cs.dropWhile p ++ es := by
  induction cs with
  | nil => cases h
  | cons c cs ih =>
    rw [List.cons_append]
    cases hc : p c with
    | false =>
      simp only [List.takeWhile_cons_of_neg (Bool.eq_false_iff.1 hc),
        List.dropWhile_cons_of_neg (Bool.eq_false_iff.1 hc), List.cons_append, and_self]
    | true =>
      have hne : c ≠ '\n' := by
        rintro rfl
        rw [hp] at hc
        cases hc
      simp only [List.takeWhile_cons_of_pos hc, List.dropWhile_cons_of_pos hc,
        ih (mem_tail hne h), and_self]

theorem skipBlanks_longer (lead : List Char) {cs : List Char} (h : '\n' ∈ cs) :
    Cursor.skipBlanks lead (cs ++ ['\n']) =
      ((Cursor.skipBlanks lead cs).1, (Cursor.skipBlanks lead cs).2 ++ ['\n']) := by
  fun_induction Cursor.skipBlanks lead cs with
  | case1 lead c cs hc ih =>
    have hne : c ≠ '\n' := by
      rintro rfl
      exact absurd hc (by decide)
    rw [List.cons_append, Cursor.skipBlanks, if_pos hc, ih (mem_tail hne h)]
  | case2 lead cs hc =>
    obtain ⟨htake, hdrop⟩ := span_append (p := fun x => decide (x ≠ '\n')) h rfl ['\n']
    rw [List.cons_append] at htake hdrop ⊢
    rw [Cursor.skipBlanks, if_neg hc, if_pos rfl, htake, hdrop]
  | case3 lead c cs hc hcomment =>
    rw [List.cons_append, Cursor.skipBlanks, if_neg hc, if_neg hcomment]
  | case4 => cases h

theorem exists_skipBlanks (lead cs : List Char) :
    ∃ us, '\n' ∉ us ∧ us ++ (Cursor.skipBlanks lead cs).2 = cs := by
  fun_induction Cursor.skipBlanks lead cs with
  | case1 lead c cs hc ih =>
    obtain ⟨us, hus, heq⟩ := ih
    refine ⟨c :: us, ?_, by rw [List.cons_append, heq]⟩
    rintro (_ | ⟨_, hmem⟩)
    · exact absurd hc (by decide)
    · exact hus hmem
  | case2 lead cs hc =>
    refine ⟨_, fun hmem => ?_, List.takeWhile_append_dropWhile⟩
    exact absurd (List.mem_takeWhile_imp hmem) (by decide)
  | case3 => exact ⟨[], List.not_mem_nil, rfl⟩
  | case4 => exact ⟨[], List.not_mem_nil, rfl⟩

end Docent.Indented
